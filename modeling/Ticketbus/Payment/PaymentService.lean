import Ticketbus.Payment.Statement

/-! The payment service's repositories and `PaymentService` as programs over its
statements. Each keeps the error handling of its Go function, including the errors
it does not look at; loops are recursive programs. -/
namespace Ticketbus.Payment
open Ticketbus.Concurrency Ticketbus.Relational

abbrev Task (α : Type) := Program Statement Reply α

/-- The service's errors; `db` is an error of the store passed on as it is. -/
inductive Error where
  | db (cause : DbError)
  | transactionNotFound
  | alreadyProcessed
  | transactionExpired
  | gatewayUnavailable
  | malformedPayload
  | missingReference
  deriving DecidableEq, Repr

def newString : Task ID := .perform .newString .done

def timeNow : Task Time := .perform .now .done

namespace TransactionRepo

def create (txn : Transaction) : Task (Except DbError Unit) := .perform (.create txn) .done

def findByBookingID (bookingID : ID) : Task (Except DbError Transaction) :=
  .perform (.findByBookingID bookingID) .done

def transitionIfActive (id : ID) (status : TransactionStatus) (providerRef : String) :
    Task (Except DbError Bool) :=
  .perform (.transitionIfActive id status providerRef) fun reply =>
    .done (reply.map fun affected => 0 < affected)

def transitionIfInitiated (id : ID) (status : TransactionStatus) (providerRef : String) :
    Task (Except DbError Bool) :=
  .perform (.transitionIfInitiated id status providerRef) fun reply =>
    .done (reply.map fun affected => 0 < affected)

def updateSession (id : ID) (providerRef paymentLinkURL : String) : Task (Except DbError Unit) :=
  .perform (.updateSession id providerRef paymentLinkURL) .done

def updateRefundStatus (id : ID) (refundStatus : RefundStatus) : Task (Except DbError Unit) :=
  .perform (.updateRefundStatus id refundStatus) .done

/-- `collectTxns`: the loop ends when the stream does; `rows.Err()` is not consulted. -/
def collectTxns (reply : Except DbError (Rows Transaction)) : Except DbError (List Transaction) :=
  reply.map Rows.items

def listByEventID (eventID : ID) : Task (Except DbError (List Transaction)) :=
  .perform (.listByEventID eventID) fun reply => .done (collectTxns reply)

def listActiveExpired (now : Time) (limit : Nat) : Task (Except DbError (List Transaction)) :=
  .perform (.listActiveExpired now limit) fun reply => .done (collectTxns reply)

end TransactionRepo

def RefundRepo.create (refund : RefundRequest) : Task (Except DbError Unit) :=
  .perform (.createRefund refund) .done

namespace PaymentProcessor

def createSession (request : SessionRequest) : Task (Except DbError SessionResult) :=
  .perform (.createSession request) .done

def cancelSession (providerRef : String) : Task (Except DbError Unit) :=
  .perform (.cancelSession providerRef) .done

end PaymentProcessor

namespace OutboxStore

def insert (message : Message) : Task (Except DbError Unit) := .perform (.outbox (.insert message)) .done

def processBatch : Task Unit := Outbox.processBatch.embed .outbox fun _ reply => reply

end OutboxStore

/-- The body of the internal request that creates a transaction. -/
structure InternalCreateRequest where
  bookingID : ID
  eventID : ID
  userID : ID
  email : String
  amountRupiah : Int
  expiresAt : Time
  deriving DecidableEq, Repr

/-- What `PaymentHandler.InitiateTxnForBooking` lets through; ids are never empty here. -/
def InternalCreateRequest.valid (request : InternalCreateRequest) : Bool := 0 < request.amountRupiah

inductive WebhookEvent where
  | completed
  | expired
  | other (name : String)
  deriving DecidableEq, Repr

/-- A webhook body that is JSON; `referenceID` is `none` where the field is empty. -/
structure SessionWebhookPayload where
  event : WebhookEvent
  referenceID : Option ID
  paymentSessionID : String
  id : String
  deriving DecidableEq, Repr

/-- The session id, preferably from `data.payment_session_id`. -/
def SessionWebhookPayload.sessionID (payload : SessionWebhookPayload) : String :=
  if payload.paymentSessionID ≠ "" then payload.paymentSessionID else payload.id

def minute : Int := 60000000000

namespace PaymentService

def initiateTxnForBooking (settings : Settings) (request : InternalCreateRequest) :
    Task (Except Error Transaction) := do
  let id ← newString
  let txn : Transaction := ⟨id,request.userID,request.bookingID,request.eventID,request.amountRupiah,"IDR",
    .initiated,settings.provider,"","",request.email,.none,some request.expiresAt,0⟩
  match ← TransactionRepo.create txn with
  | .error .uniqueViolation =>
    match ← TransactionRepo.findByBookingID request.bookingID with
    | .error error => return .error (.db error)
    | .ok existing => return .ok existing
  | .error error => return .error (.db error)
  | .ok () => return .ok txn

/-- The expiry asked of the gateway: before the deadline by the buffer, but at least
ten minutes from now. -/
def gatewayExpiresAt (settings : Settings) (expiresAt now : Time) : Time :=
  let buffered := expiresAt + goInt (goInt (-settings.gatewayExpiryBufferMin) * minute)
  if buffered < now + 10 * minute then now + 10 * minute else buffered

/-- The session of a transaction that may still be paid, from the gateway to the row. -/
def openSession (settings : Settings) (bookingID : ID) (txn : Transaction) (expiresAt : Time) :
    Task (Except Error (Transaction × SessionResult)) := do
  let now ← timeNow
  match ← PaymentProcessor.createSession ⟨bookingID,txn.amountRupiah,txn.currency,
      gatewayExpiresAt settings expiresAt now,settings.allowedChannels,txn.customerEmail⟩ with
  | .error _ => return .error .gatewayUnavailable
  | .ok result =>
    match ← TransactionRepo.transitionIfInitiated txn.id .pending result.providerRef with
    | .error error => return .error (.db error)
    | .ok false =>
      let _ ← PaymentProcessor.cancelSession result.providerRef
      return .error .alreadyProcessed
    | .ok true =>
      match ← TransactionRepo.updateSession txn.id result.providerRef result.paymentLinkURL with
      | .error error => return .error (.db error)
      | .ok () => return .ok (txn,result)

def processPayment (settings : Settings) (bookingID userID : ID) :
    Task (Except Error (Transaction × SessionResult)) := do
  match ← TransactionRepo.findByBookingID bookingID with
  | .error _ => return .error .transactionNotFound
  | .ok txn =>
    if txn.status ≠ .initiated then return .error .alreadyProcessed
    else match txn.expiresAt with
      | none => return .error .transactionExpired
      | some expiresAt => do
        let now ← timeNow
        if expiresAt ≤ now then return .error .transactionExpired
        else do
          let later ← timeNow
          if expiresAt - later < minute then return .error .transactionExpired
          else if txn.userID ≠ userID then return .error .transactionNotFound
          else openSession settings bookingID txn expiresAt

/-- A refund of the whole transaction, as both callers of `RefundRepo.Create` ask for it. -/
def refundOf (txn : Transaction) (reason : RefundReason) (key : IdempotencyKey) (id : ID) : RefundRequest :=
  ⟨id,txn.eventID,txn.bookingID,txn.id,txn.customerEmail,txn.amountRupiah,txn.currency,.pending,reason,
    txn.providerRef,key⟩

/-- Errors of `Create` are only logged, those of `UpdateRefundStatus` dropped. -/
def requestLatePaymentRefund (txn : Transaction) : Task Unit := do
  let id ← newString
  match ← RefundRepo.create (refundOf txn .latePayment (.latePayment txn.id) id) with
  | .error _ => return ()
  | .ok () =>
    let _ ← TransactionRepo.updateRefundStatus txn.id .pending
    return ()

def paymentCompleted (txn : Transaction) (at_ : Time) : Message :=
  .completed txn.id txn.bookingID txn.eventID txn.userID at_

def paymentExpired (txn : Transaction) (reason : ExpiryReason) (at_ : Time) : Message :=
  .expired txn.id txn.bookingID txn.eventID txn.userID reason at_

/-- The outbox row after a settled transition; the error of `Insert` is dropped. -/
def publish (message : Time → Message) : Task Unit := do
  let at_ ← timeNow
  let _ ← OutboxStore.insert (message at_)
  return ()

/-- The branches of `HandleSessionWebhook` on the event's name. -/
def applyWebhook (txn : Transaction) : WebhookEvent → Task (Except Error Unit)
  | .completed => do
    match ← TransactionRepo.transitionIfActive txn.id .completed txn.providerRef with
    | .error error => return .error (.db error)
    | .ok true =>
      publish (paymentCompleted txn)
      return .ok ()
    | .ok false =>
      -- the status is the one that was read before the update
      if txn.status = .expired then
        requestLatePaymentRefund txn
        return .ok ()
      else return .ok ()
  | .expired => do
    match ← TransactionRepo.transitionIfActive txn.id .expired txn.providerRef with
    | .error error => return .error (.db error)
    | .ok true =>
      publish (paymentExpired txn .gatewayExpired)
      return .ok ()
    | .ok false => return .ok ()
  | .other _ => return .ok ()

/-- The body is `none` where it is not JSON. -/
def handleSessionWebhook : Option SessionWebhookPayload → Task (Except Error Unit)
  | none => return .error .malformedPayload
  | some payload =>
    match payload.referenceID with
    | none => return .error .missingReference
    | some bookingID => do
      match ← TransactionRepo.findByBookingID bookingID with
      | .error error => return .error (.db error)
      | .ok txn =>
        if payload.sessionID ≠ "" ∧ payload.sessionID ≠ txn.providerRef then return .ok ()
        else applyWebhook txn payload.event

/-- A session is cancelled at the gateway if there is one; an error is only logged. -/
def closeSession (providerRef : String) : Task Unit :=
  if providerRef ≠ "" then do
    let _ ← PaymentProcessor.cancelSession providerRef
    return ()
  else return ()

/-- The loop of `ProcessExpired`: a transaction that cannot be moved is skipped. -/
def expireAll : List Transaction → Task Unit
  | [] => return ()
  | txn :: rest => do
    closeSession txn.providerRef
    match ← TransactionRepo.transitionIfActive txn.id .expired txn.providerRef with
    | .error _ => expireAll rest
    | .ok false => expireAll rest
    | .ok true =>
      publish (paymentExpired txn .internalExpiryFallback)
      expireAll rest

def processExpired (limit : Nat) : Task (Except Error Unit) := do
  let now ← timeNow
  match ← TransactionRepo.listActiveExpired now limit with
  | .error error => return .error (.db error)
  | .ok txns =>
    expireAll txns
    return .ok ()

/-- The loop of `HandleEventCancelled`: what is not completed is left alone. -/
def refundAll : List Transaction → Task (Except Error Unit)
  | [] => return .ok ()
  | txn :: rest =>
    if txn.status = .completed then do
      let id ← newString
      match ← RefundRepo.create (refundOf txn .eventCancelled (.eventCancelled txn.id) id) with
      | .error error => return .error (.db error)
      | .ok () =>
        match ← TransactionRepo.updateRefundStatus txn.id .pending with
        | .error error => return .error (.db error)
        | .ok () => refundAll rest
    else refundAll rest

def handleEventCancelled (eventID : ID) : Task (Except Error Unit) := do
  match ← TransactionRepo.listByEventID eventID with
  | .error error => return .error (.db error)
  | .ok txns => refundAll txns

end PaymentService
end Ticketbus.Payment
