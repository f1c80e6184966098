import Ticketbus.Deployment.System
import Ticketbus.Deployment.Wire
import Ticketbus.Kafka.Bus

/-! Both services as `main` wires them: the pools of calls, the outbox tables with their
workers, the topics and the consumer groups, whose goroutines decode a message, call the
service and wait for it. The request by which the ticketing service has a transaction
created is sent as in `System`. -/
namespace Ticketbus.Deployment
open Ticketbus.Concurrency Ticketbus.Relational Wire

inductive Source where
  | ticketing
  | payment
  deriving DecidableEq, Repr

structure Network where
  ticketing : Ticketing.Pool
  payment : Payment.Pool
  bus : Kafka.Bus Source Subscriber Json.Value
  /-- The call that a goroutine of a consumer waits for. -/
  running : Subscriber → Nat → Option Nat

def Network.initial : Network := ⟨.idle .initial,.idle .initial,.initial,fun _ _ => none⟩

inductive Network.Move where
  | ticketing (action : Ticketing.Step)
  | payment (action : Payment.Step)
  | bus (move : Kafka.Bus.Move Source Subscriber Json.Value)
  /-- A goroutine calls the handler, and gets its result. -/
  | enter (subscriber : Subscriber) (hand : Nat)
  | leave (subscriber : Subscriber) (hand : Nat)

/-- The messages that a step of a service has added to its outbox. -/
def added {Message : Type} (before after : Outbox.Store Message) : List Message :=
  after.messages.drop before.messages.length

namespace Network

def messages (network : Network) : List Message :=
  network.ticketing.state.world.outbox.messages.map .inl ++ network.payment.state.world.outbox.messages.map .inr

/-- The message that a goroutine of a group is busy with. -/
def messageOf (network : Network) (subscriber : Subscriber) (hand : Nat) : Option (Kafka.Message Json.Value) :=
  (network.bus.groups subscriber).messageOf hand

def setRunning (network : Network) (subscriber : Subscriber) (hand : Nat) (call : Option Nat) : Network :=
  {network with running :=
    Function.update network.running subscriber (Function.update (network.running subscriber) hand call)}

section Next
variable (reservationTTL : Nat) (settings : Payment.Settings) (codec : Codec)

/-- The rows that are written with the statements of a service. -/
def insertAll (cluster : Outbox.Cluster Json.Value) (messages : List Message) : Outbox.Cluster Json.Value :=
  messages.foldl (fun cluster message => cluster.insert (codec.record message) .none) cluster

def commit (network : Network) (source : Source) (messages : List Message) : Kafka.Bus Source Subscriber Json.Value :=
  network.bus.setOutbox source (insertAll codec (network.bus.outboxes source) messages)

def onTicketing (network : Network) (action : Ticketing.Step) : Option Network :=
  (network.ticketing.next (Ticketing.service reservationTTL) action).map fun after => {network with
    ticketing := after
    bus := network.commit codec .ticketing
      ((added network.ticketing.state.world.outbox after.state.world.outbox).map .inl)}

def onPayment (network : Network) (action : Payment.Step) : Option Network :=
  (network.payment.next (Payment.service settings) action).map fun after => {network with
    payment := after
    bus := network.commit codec .payment
      ((added network.payment.state.world.outbox after.state.world.outbox).map .inr)}

/-- What the handler of a message has returned by now, if it has. -/
def outcome (network : Network) (subscriber : Subscriber) (hand : Nat) (message : Kafka.Message Json.Value) :
    Option (Except String Unit) :=
  match codec.handler subscriber message.value with
  | .error returned => some returned
  | .ok (.inl _) => (network.running subscriber hand).bind fun index =>
    (network.ticketing.returned index).map fun returned =>
      match returned.2 with
      | .unit (.ok ()) => .ok ()
      | _ => .error ""
  | .ok (.inr _) => (network.running subscriber hand).bind fun index =>
    (network.payment.returned index).map fun returned =>
      match returned.2 with
      | .unit (.ok ()) => .ok ()
      | _ => .error ""

def next (network : Network) : Move → Option Network
  | .ticketing action => network.onTicketing reservationTTL codec action
  | .payment action => network.onPayment settings codec action
  | .bus move => (network.bus.next Subscriber.topic move).map fun bus => {network with
      bus := bus
      running :=
        match move with
        -- the goroutines are gone with their process
        | .consume subscriber .stop => Function.update network.running subscriber fun _ => none
        | _ => network.running}
  | .enter subscriber hand =>
    match network.messageOf subscriber hand,network.running subscriber hand with
    | some message,none =>
      match codec.handler subscriber message.value with
      | .ok (.inl call) => (network.onTicketing reservationTTL codec (.start call)).map fun after =>
          after.setRunning subscriber hand (some network.ticketing.threads.length)
      | .ok (.inr call) => (network.onPayment settings codec (.start call)).map fun after =>
          after.setRunning subscriber hand (some network.payment.threads.length)
      | .error _ => none
    | _,_ => none
  | .leave subscriber hand =>
    (network.messageOf subscriber hand).bind fun message =>
      (network.outcome codec subscriber hand message).bind fun outcome =>
        ((network.bus.groups subscriber).next (.handle hand outcome)).map fun group =>
          {network with bus := network.bus.setGroup subscriber group}.setRunning subscriber hand none

end Next

/-- What starts from outside. The calls of the consumers start in their goroutines, rows are
inserted by statements of the services and published by the workers, and a transaction is
created at the request of the ticketing service. -/
def wired (network : Network) : Move → Bool
  | .ticketing (.start (.confirm ..)) | .ticketing (.start (.expireOnPaymentExpired _))
  | .ticketing (.start (.cancelBookings _)) | .ticketing (.start .processBatch) => false
  | .payment (.start (.handleEventCancelled _)) | .payment (.start .processBatch) => false
  | .payment (.start (.initiateTxnForBooking request)) =>
    request.valid && network.ticketing.state.world.requests.any fun sent => received sent = request
  | .bus (.relay _ (.insert ..) _) | .bus (.consume _ (.handle ..)) => false
  | _ => true

def Wired (network : Network) (move : Move) : Prop := network.wired move = true

instance (network : Network) (move : Move) : Decidable (network.Wired move) := inferInstanceAs (Decidable (_ = true))

end Network

end Ticketbus.Deployment
