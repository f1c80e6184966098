import Ticketbus.Ticketing.Service
import Ticketbus.Payment.Service

/-! Both services with Kafka and the internal HTTP request between them. A message that
has been published may be consumed any number of times, at any later moment, in any
order, or never; so may a request that has been sent, and the reply its sender is given
is free. Every other call comes from outside. -/
namespace Ticketbus.Deployment
open Ticketbus.Concurrency

abbrev System := Ticketing.Pool × Payment.Pool
abbrev Move := Ticketing.Step ⊕ Payment.Step

def System.initial : System := (.idle .initial,.idle .initial)

def second : Int := 1000000000

/-- The request as `PaymentHandler` decodes it: the deadline travels in RFC 3339 without
a fraction of a second. -/
def received (request : Ticketing.InitiateRequest) : Payment.InternalCreateRequest :=
  ⟨request.bookingID,request.eventID,request.userID,request.email,request.amountRupiah,
    request.expiresAt - request.expiresAt % second⟩

/-- The topic `event.cancelled` has a message for the event. -/
def announcesCancellation (system : System) (eventID : Ticketing.ID) : Bool :=
  system.1.state.world.outbox.broker.any fun message =>
    match message with
    | .eventCancelled id _ => id = eventID
    | .ticketIssued .. => false

/-- The topic `payment.completed` has a message that names the booking and the transaction. -/
def announcesPayment (system : System) (bookingID paymentID : Payment.ID) : Bool :=
  system.2.state.world.outbox.broker.any fun message =>
    match message with
    | .completed transactionID booking .. => booking = bookingID && transactionID = paymentID
    | .expired .. => false

/-- The topic `payment.expired` has a message that names the booking. -/
def announcesExpiry (system : System) (bookingID : Payment.ID) : Bool :=
  system.2.state.world.outbox.broker.any fun message =>
    match message with
    | .expired _ booking .. => booking = bookingID
    | .completed .. => false

/-- The calls that a consumer or the other service starts have been asked for. -/
def delivers (system : System) : Move → Bool
  | .inl (.start (.confirm bookingID paymentID)) => announcesPayment system bookingID paymentID
  | .inl (.start (.expireOnPaymentExpired bookingID)) => announcesExpiry system bookingID
  | .inl (.start (.cancelBookings eventID)) => announcesCancellation system eventID
  | .inr (.start (.handleEventCancelled eventID)) => announcesCancellation system eventID
  | .inr (.start (.initiateTxnForBooking request)) =>
    request.valid && system.1.state.world.requests.any fun sent => received sent = request
  | _ => true

def Delivers (system : System) (move : Move) : Prop := delivers system move = true

instance (system : System) (move : Move) : Decidable (Delivers system move) :=
  inferInstanceAs (Decidable (_ = true))

/-- Runs in which each service also keeps a condition of its own. -/
def Under (ticketing : Ticketing.Pool → Ticketing.Step → Prop) (payment : Payment.Pool → Payment.Step → Prop)
    (system : System) (move : Move) : Prop :=
  Delivers system move ∧
    match move with
    | .inl action => ticketing system.1 action
    | .inr action => payment system.2 action

instance (ticketing : Ticketing.Pool → Ticketing.Step → Prop) (payment : Payment.Pool → Payment.Step → Prop)
    [∀ config action, Decidable (ticketing config action)] [∀ config action, Decidable (payment config action)]
    (system : System) : (move : Move) → Decidable (Under ticketing payment system move)
  | .inl action => inferInstanceAs (Decidable (Delivers system (.inl action) ∧ ticketing system.1 action))
  | .inr action => inferInstanceAs (Decidable (Delivers system (.inr action) ∧ payment system.2 action))

def next (reservationTTL : Nat) (settings : Payment.Settings) : System → Move → Option System :=
  coupled (Config.next (Ticketing.service reservationTTL)) (Config.next (Payment.service settings))

end Ticketbus.Deployment
