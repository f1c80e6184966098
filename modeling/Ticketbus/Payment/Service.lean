import Ticketbus.Payment.PaymentService
import Ticketbus.Concurrency.Ownership

/-! The payment service as a pool of calls: what its HTTP handlers, its Kafka
consumer, its expiry poller and its outbox worker can start, and the passing of time. -/
namespace Ticketbus.Payment
open Ticketbus.Concurrency Ticketbus.Relational

inductive Call where
  | initiateTxnForBooking (request : InternalCreateRequest)
  | processPayment (bookingID userID : ID)
  | handleSessionWebhook (payload : Option SessionWebhookPayload)
  | processExpired (limit : Nat)
  | handleEventCancelled (eventID : ID)
  | processBatch
  | wait (duration : Nat)
  deriving DecidableEq

inductive Result where
  | transaction (outcome : Except Error Transaction)
  | session (outcome : Except Error (Transaction × SessionResult))
  | unit (outcome : Except Error Unit)
  deriving DecidableEq

def program (settings : Settings) : Call → Task Result
  | .initiateTxnForBooking request => .transaction <$> PaymentService.initiateTxnForBooking settings request
  | .processPayment bookingID userID => .session <$> PaymentService.processPayment settings bookingID userID
  | .handleSessionWebhook payload => .unit <$> PaymentService.handleSessionWebhook payload
  | .processExpired limit => .unit <$> PaymentService.processExpired limit
  | .handleEventCancelled eventID => .unit <$> PaymentService.handleEventCancelled eventID
  | .processBatch => (fun _ => .unit (.ok ())) <$> OutboxStore.processBatch
  | .wait duration => .perform (.advance duration) fun _ => .done (.unit (.ok ()))

def service (settings : Settings) : Service Statement Reply World Fault Call Result where
  execute := execute settings
  program := program settings

abbrev Pool := Config Statement Reply World Call Result
abbrev Step := Action Call Fault
abbrev View := State Statement Reply World

end Ticketbus.Payment
