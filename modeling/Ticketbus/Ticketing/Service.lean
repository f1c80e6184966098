import Ticketbus.Ticketing.BookingService
import Ticketbus.Ticketing.EventService
import Ticketbus.Concurrency.Ownership

/-! The ticketing service as a pool of calls: everything its HTTP handlers, its
Kafka consumers and its outbox worker can start, the listing of an event's bookings
on its own, and the passing of time. -/
namespace Ticketbus.Ticketing
open Ticketbus.Concurrency Ticketbus.Relational

inductive Call where
  | createEvent (organizerID : ID) (request : CreateEventRequest)
  | updateEvent (eventID organizerID : ID) (title description : String) (startAt endAt : Time)
  | approveEvent (eventID adminUserID : ID)
  | rejectEvent (eventID adminUserID : ID)
  | cancelEvent (eventID userID : ID)
  | reprocessCancellation (eventID userID : ID) (checkOwner : Bool)
  | reserve (userID : ID) (userEmail : String) (request : ReserveRequest)
  | confirm (bookingID paymentID : ID)
  | expireOnPaymentExpired (bookingID : ID)
  | cancelBookings (eventID : ID)
  | getBooking (bookingID : ID)
  | listMyBookings (userID : ID)
  | listByEventID (eventID : ID)
  | processBatch
  | wait (duration : Nat)
  deriving DecidableEq

inductive Result where
  | event (outcome : Except Error Event)
  | reservation (outcome : Except Error Reservation)
  | unit (outcome : Except Error Unit)
  | booking (outcome : Except DbError Booking)
  | bookings (outcome : Except DbError (List Booking))
  deriving DecidableEq

def program (reservationTTL : Nat) : Call → Task Result
  | .createEvent organizerID request => .event <$> EventHandler.createEvent organizerID request
  | .updateEvent eventID organizerID title description startAt endAt =>
    .event <$> EventService.updateEvent eventID organizerID title description startAt endAt
  | .approveEvent eventID adminUserID => .event <$> EventService.approveEvent eventID adminUserID
  | .rejectEvent eventID adminUserID => .event <$> EventService.rejectEvent eventID adminUserID
  | .cancelEvent eventID userID => .event <$> EventService.cancelEvent eventID userID
  | .reprocessCancellation eventID userID checkOwner =>
    .event <$> EventService.reprocessCancellation eventID userID checkOwner
  | .reserve userID userEmail request =>
    .reservation <$> BookingHandler.reserve reservationTTL userID userEmail request
  | .confirm bookingID paymentID => .unit <$> BookingService.confirm bookingID paymentID
  | .expireOnPaymentExpired bookingID => .unit <$> BookingService.expireOnPaymentExpired bookingID
  | .cancelBookings eventID => .unit <$> BookingService.cancelBookings eventID
  | .getBooking bookingID => .booking <$> BookingService.getBooking bookingID
  | .listMyBookings userID => .bookings <$> BookingService.listMyBookings userID
  | .listByEventID eventID => .bookings <$> BookingRepo.listByEventID eventID
  | .processBatch => (fun _ => .unit (.ok ())) <$> OutboxStore.processBatch
  | .wait duration => .perform (.advance duration) fun _ => .done (.unit (.ok ()))

def service (reservationTTL : Nat) : Service Statement Reply World Fault Call Result where
  execute := execute
  program := program reservationTTL

abbrev Pool := Config Statement Reply World Call Result
abbrev Step := Action Call Fault
abbrev View := State Statement Reply World

end Ticketbus.Ticketing
