import Ticketbus.Json.Unmarshal
import Ticketbus.Outbox.Worker
import Ticketbus.Ticketing.Service
import Ticketbus.Payment.Service

/-! The messages between the services as they are written and read: the structs of `pkg/dto`
on both sides, marshalled by `Insert`, kept by PostgreSQL as JSONB and unmarshalled by the
consumers. The text of a JSON value is left out; both sides agree on it. -/
namespace Ticketbus.Deployment.Wire
open Ticketbus.Json

/-- How UUIDs and instants are written, and the order in which JSONB keeps an object. -/
structure Codec where
  uuid : Ticketing.ID → String
  readUUID : String → Option Ticketing.ID
  instant : Int → String
  isInstant : String → Bool
  keep : List (String × Value) → List (String × Value)
  readUUID_uuid : ∀ id, readUUID (uuid id) = some id
  isInstant_instant : ∀ at_, isInstant (instant at_) = true
  keep_perm : ∀ members, (members.map Prod.fst).Nodup → (keep members).Perm members

namespace Dto

def eventCancelled : List (String × Shape) := [("event_id",.text),("at",.instant)]

def paymentCompleted : List (String × Shape) :=
  [("transaction_id",.text),("booking_id",.text),("event_id",.text),("user_id",.text),("at",.instant)]

def paymentExpired : List (String × Shape) :=
  [("transaction_id",.text),("booking_id",.text),("event_id",.text),("user_id",.text),("reason",.text),("at",.instant)]

def ticketIssued : List (String × Shape) :=
  [("ticket_id",.text),("booking_id",.text),("user_id",.text),("event_id",.text),("ticket_type_id",.text)]

end Dto

abbrev Message := Ticketing.Message ⊕ Payment.Message

def reasonText : Payment.ExpiryReason → String
  | .gatewayExpired => "gateway_expired"
  | .internalExpiryFallback => "internal_expiry_fallback"

namespace Codec
variable (codec : Codec)

def payload (fields : List (String × Shape)) (texts : List String) : Value := .object (codec.keep (marshal fields texts))

/-- The row that `Insert` writes for a message. -/
def record : Message → Outbox.Record Value
  | .inl (.eventCancelled eventID at_) => ⟨"event.cancelled",codec.uuid eventID,
      codec.payload Dto.eventCancelled [codec.uuid eventID,codec.instant at_]⟩
  | .inl (.ticketIssued ticketID bookingID userID eventID ticketTypeID) =>
    ⟨"ticket.issued",codec.uuid bookingID ++ "-" ++ codec.uuid ticketID,codec.payload Dto.ticketIssued
      [codec.uuid ticketID,codec.uuid bookingID,codec.uuid userID,codec.uuid eventID,codec.uuid ticketTypeID]⟩
  | .inr (.completed transactionID bookingID eventID userID at_) =>
    ⟨"payment.completed",codec.uuid transactionID,codec.payload Dto.paymentCompleted
      [codec.uuid transactionID,codec.uuid bookingID,codec.uuid eventID,codec.uuid userID,codec.instant at_]⟩
  | .inr (.expired transactionID bookingID eventID userID reason at_) =>
    ⟨"payment.expired",codec.uuid transactionID,codec.payload Dto.paymentExpired
      [codec.uuid transactionID,codec.uuid bookingID,codec.uuid eventID,codec.uuid userID,reasonText reason,
        codec.instant at_]⟩

end Codec

/-- The consumer groups: three of the ticketing service and one of the payment service. -/
inductive Subscriber where
  | paymentCompleted
  | paymentExpired
  | eventCancelled
  | refunds
  deriving DecidableEq, Repr

def Subscriber.topic : Subscriber → String
  | .paymentCompleted => "payment.completed"
  | .paymentExpired => "payment.expired"
  | .eventCancelled | .refunds => "event.cancelled"

abbrev Call := Ticketing.Call ⊕ Payment.Call

/-- The handlers that `Start` registers, up to the call of the service, or what they return
without one. A text that is no UUID makes the first query of the call fail. -/
def Codec.handler (codec : Codec) : Subscriber → Value → Except (Except String Unit) Call
  | .paymentCompleted,value =>
    match unmarshal codec.isInstant (.record Dto.paymentCompleted) value with
    | none => .error (.error "unmarshal")
    | some event =>
      match codec.readUUID (event ["booking_id"]) with
      -- a failed lookup is taken for a missing booking
      | none => .error (.ok ())
      -- `Confirm` makes no use of the transaction
      | some bookingID => .ok (.inl (.confirm bookingID ((codec.readUUID (event ["transaction_id"])).getD 0)))
  | .paymentExpired,value =>
    match unmarshal codec.isInstant (.record Dto.paymentExpired) value with
    | none => .error (.error "unmarshal")
    | some event =>
      match codec.readUUID (event ["booking_id"]) with
      | none => .error (.ok ())
      | some bookingID => .ok (.inl (.expireOnPaymentExpired bookingID))
  | .eventCancelled,value =>
    match unmarshal codec.isInstant (.record Dto.eventCancelled) value with
    | none => .error (.error "unmarshal")
    | some event =>
      match codec.readUUID (event ["event_id"]) with
      | none => .error (.error "list bookings")
      | some eventID => .ok (.inl (.cancelBookings eventID))
  | .refunds,value =>
    match unmarshal codec.isInstant (.record Dto.eventCancelled) value with
    | none => .error (.error "unmarshal")
    | some event =>
      match codec.readUUID (event ["event_id"]) with
      | none => .error (.error "list transactions")
      | some eventID => .ok (.inr (.handleEventCancelled eventID))

/-- What a message asks of a subscriber to its topic. -/
def Message.asks : Message → Subscriber → Option Call
  | .inr (.completed transactionID bookingID ..),.paymentCompleted => some (.inl (.confirm bookingID transactionID))
  | .inr (.expired _ bookingID ..),.paymentExpired => some (.inl (.expireOnPaymentExpired bookingID))
  | .inl (.eventCancelled eventID _),.eventCancelled => some (.inl (.cancelBookings eventID))
  | .inl (.eventCancelled eventID _),.refunds => some (.inr (.handleEventCancelled eventID))
  | _,_ => none

section RoundTrip
variable (codec : Codec)

theorem unmarshal_payload (fields : List (String × Shape)) (texts : List String)
    (distinct : (fields.map Prod.fst).Nodup)
    (valid : ∀ pair ∈ fields.zip texts, pair.1.2 = .text ∨ pair.1.2 = .instant ∧ codec.isInstant pair.2 = true) :
    ∃ stored, unmarshal codec.isInstant (.record fields) (codec.payload fields texts) = some stored ∧
      ∀ pair ∈ fields.zip texts, stored [pair.1.1] = pair.2 :=
  unmarshal_marshal distinct valid (codec.keep_perm _ (distinct.sublist (marshal_keys texts)))

theorem handler_reads_record (message : Message) (subscriber : Subscriber)
    (published : (codec.record message).topic = subscriber.topic) :
    ∃ call, message.asks subscriber = some call ∧ codec.handler subscriber (codec.record message).payload = .ok call := by
  rcases message with (⟨eventID,at_⟩ | ⟨ticketID,bookingID,userID,eventID,ticketTypeID⟩) |
    (⟨transactionID,bookingID,eventID,userID,at_⟩ | ⟨transactionID,bookingID,eventID,userID,reason,at_⟩)
  · obtain ⟨stored,isStored,reads⟩ := unmarshal_payload codec Dto.eventCancelled [codec.uuid eventID,codec.instant at_]
      (by decide) (by simp [Dto.eventCancelled,codec.isInstant_instant])
    have event : stored ["event_id"] = codec.uuid eventID := reads (("event_id",.text),_) (by simp [Dto.eventCancelled])
    cases subscriber with
    | paymentCompleted | paymentExpired => simp [Codec.record,Subscriber.topic] at published
    | eventCancelled =>
      exact ⟨_,rfl,by simp [Codec.record,Codec.handler,isStored,event,codec.readUUID_uuid]⟩
    | refunds =>
      exact ⟨_,rfl,by simp [Codec.record,Codec.handler,isStored,event,codec.readUUID_uuid]⟩
  · cases subscriber <;> simp [Codec.record,Subscriber.topic] at published
  · obtain ⟨stored,isStored,reads⟩ := unmarshal_payload codec Dto.paymentCompleted
      [codec.uuid transactionID,codec.uuid bookingID,codec.uuid eventID,codec.uuid userID,codec.instant at_]
      (by decide) (by simp [Dto.paymentCompleted,codec.isInstant_instant])
    have booking : stored ["booking_id"] = codec.uuid bookingID :=
      reads (("booking_id",.text),_) (by simp [Dto.paymentCompleted])
    have transaction : stored ["transaction_id"] = codec.uuid transactionID :=
      reads (("transaction_id",.text),_) (by simp [Dto.paymentCompleted])
    cases subscriber with
    | paymentCompleted =>
      exact ⟨_,rfl,by simp [Codec.record,Codec.handler,isStored,booking,transaction,codec.readUUID_uuid]⟩
    | paymentExpired | eventCancelled | refunds => simp [Codec.record,Subscriber.topic] at published
  · obtain ⟨stored,isStored,reads⟩ := unmarshal_payload codec Dto.paymentExpired
      [codec.uuid transactionID,codec.uuid bookingID,codec.uuid eventID,codec.uuid userID,reasonText reason,
        codec.instant at_]
      (by decide) (by simp [Dto.paymentExpired,codec.isInstant_instant])
    have booking : stored ["booking_id"] = codec.uuid bookingID :=
      reads (("booking_id",.text),_) (by simp [Dto.paymentExpired])
    cases subscriber with
    | paymentExpired => exact ⟨_,rfl,by simp [Codec.record,Codec.handler,isStored,booking,codec.readUUID_uuid]⟩
    | paymentCompleted | eventCancelled | refunds => simp [Codec.record,Subscriber.topic] at published

end RoundTrip

def unary : Codec where
  uuid id := String.ofList (List.replicate id 'a')
  readUUID text := some text.length
  instant _ := ""
  isInstant _ := true
  keep := id
  readUUID_uuid id := by simp
  isInstant_instant _ := rfl
  keep_perm _ _ := .refl _

end Ticketbus.Deployment.Wire
