import Ticketbus.Ticketing.Statement

/-! The ticketing service's repositories and ports as programs over its
statements. Each keeps the error handling of its Go function, including the
errors it does not look at. -/
namespace Ticketbus.Ticketing
open Ticketbus.Concurrency Ticketbus.Relational

abbrev Task (α : Type) := Program Statement Reply α

/-- The service's errors; `db` is an error of the store passed on as it is, and
`noSeatsAvailableFor` is `ErrNoSeatsAvailable` wrapped around a cause. -/
inductive Error where
  | db (cause : DbError)
  | eventNotFound
  | eventNotEditable
  | eventNotApprovable
  | eventNotCancellable
  | eventNotCancelled
  | notEventOwner
  | ticketTypesEmpty
  | capacityExceeded
  | noSeatsAvailable
  | noSeatsAvailableFor (cause : Error)
  | reservationNotFound
  | invalidQuantity
  | priceMismatch (expected got : Int)
  | paymentUnavailable
  | badRequest
  deriving DecidableEq, Repr

def newString : Task ID := .perform .newString .done

def timeNow : Task Time := .perform .now .done

namespace EventRepo

def createEvent (event : Event) : Task (Except DbError Unit) := .perform (.createEvent event) .done

def updateEvent (event : Event) : Task (Except DbError Unit) := do
  let now ← timeNow
  .perform (.updateEvent {event with updatedAt := now}) .done

def findEventByID (id : ID) : Task (Except DbError Event) := .perform (.findEventByID id) .done

def createTicketTypes : List TicketType → Task (Except DbError Unit)
  | [] => return .ok ()
  | ticketType :: rest =>
    .perform (.createTicketType ticketType) fun
      | .error error => .done (.error error)
      | .ok _ => createTicketTypes rest

/-- The loop ends when the stream does; `rows.Err()` is not consulted. -/
def listTicketTypesByEvent (eventID : ID) : Task (Except DbError (List TicketType)) :=
  .perform (.listTicketTypesByEvent eventID) fun
    | .error error => .done (.error error)
    | .ok rows => .done (.ok rows.items)

end EventRepo

namespace EventStatusRepo

def isPublished (eventID : ID) : Task (Except DbError Bool) :=
  .perform (.eventStatus eventID) fun
    | .error .noRows => .done (.ok false)
    | .error error => .done (.error error)
    | .ok status => .done (.ok (status = .published))

end EventStatusRepo

namespace SeatCounter

def init (ticketTypeID : ID) (total : Int) : Task (Except DbError Unit) :=
  .perform (.init ticketTypeID total) fun reply => .done (reply.map fun _ => ())

def reserve (ticketTypeID : ID) (qty : Int) : Task (Except Error Unit) :=
  .perform (.reserve ticketTypeID qty) fun
    | .error error => .done (.error (.db error))
    | .ok 0 => .done (.error .noSeatsAvailable)
    | .ok _ => .done (.ok ())

def release (ticketTypeID : ID) (qty : Int) : Task (Except DbError Unit) :=
  .perform (.release ticketTypeID qty) fun reply => .done (reply.map fun _ => ())

def setPrice (ticketTypeID : ID) (price : Int) : Task (Except DbError Unit) :=
  .perform (.setPrice ticketTypeID price) fun reply => .done (reply.map fun _ => ())

def getPrice (ticketTypeID : ID) : Task (Except Error Int) :=
  .perform (.getPrice ticketTypeID) fun
    | .error .noRows => .done (.error .reservationNotFound)
    | .error error => .done (.error (.db error))
    | .ok price => .done (.ok price)

end SeatCounter

namespace BookingRepo

def create (booking : Booking) : Task (Except DbError Unit) := .perform (.create booking) .done

/-- A scanned row of `booking_items`, its unit price recomputed. -/
def scanItem (row : BookingItemRow) : BookingItem where
  id := row.id
  bookingID := row.bookingID
  ticketTypeID := row.ticketTypeID
  quantity := row.quantity
  unitPriceRupiah := if 0 < row.quantity then Int.tdiv row.totalPriceRupiah row.quantity else 0
  totalPriceRupiah := row.totalPriceRupiah

/-- A booking row with the items that were scanned for it. -/
def assemble (row : BookingRow) (items : List BookingItemRow) : Booking where
  id := row.id
  userID := row.userID
  eventID := row.eventID
  status := row.status
  expiresAt := row.expiresAt
  totalRupiah := items.foldl (fun total item => goInt (total + item.totalPriceRupiah)) 0
  items := items.map scanItem

/-- The item loop that stands in-line in `FindByID`, `ListByUser` and `ListByEventID`: it ends
when its stream does, and `rows.Err()` is not consulted. -/
def scanItems (row : BookingRow) : Task (Except DbError Booking) :=
  .perform (.listItems row.id) fun
    | .error error => .done (.error error)
    | .ok rows => .done (.ok (assemble row rows.items))

def findByID (id : ID) : Task (Except DbError Booking) :=
  .perform (.findBooking id) fun
    | .error error => .done (.error error)
    | .ok row => scanItems row

def loadAll : List BookingRow → Task (Except DbError (List Booking))
  | [] => return .ok []
  | row :: rest => do
    match ← scanItems row with
    | .error error => return .error error
    | .ok booking =>
      match ← loadAll rest with
      | .error error => return .error error
      | .ok bookings => return .ok (booking :: bookings)

/-- The loop of `ListByEventID` and `ListByUser`: the outer stream is checked with `rows.Err()`, the item
streams are not. -/
def scanBookings : Except DbError (Rows BookingRow) → Task (Except DbError (List Booking))
  | .error error => .done (.error error)
  | .ok ⟨_,some error⟩ => .done (.error error)
  | .ok ⟨rows,none⟩ => loadAll rows

def listByEventID (eventID : ID) : Task (Except DbError (List Booking)) := .perform (.listBookings eventID) scanBookings

def listByUser (userID : ID) : Task (Except DbError (List Booking)) :=
  .perform (.listBookingsByUser userID) scanBookings

def updateStatusIfPending (bookingID : ID) (status : BookingStatus) : Task (Except DbError Bool) :=
  .perform (.updateStatusIfPending bookingID status) fun reply =>
    .done (reply.map fun affected => affected = 1)

def transitionAndReleaseSeats (booking : Booking) (toStatus : BookingStatus) :
    Task (Except DbError Bool) := .perform (.transitionAndReleaseSeats booking toStatus) .done

def delete (bookingID : ID) : Task (Except DbError Unit) :=
  .perform (.delete bookingID) fun reply => .done (reply.map fun _ => ())

end BookingRepo

namespace PaymentClient

/-- Every failure reaches the caller as `ErrPaymentUnavailable`. -/
def initiateTxnForBooking (request : InitiateRequest) : Task (Except Error Unit) :=
  .perform (.initiateTxnForBooking request) fun
    | .error _ => .done (.error .paymentUnavailable)
    | .ok _ => .done (.ok ())

end PaymentClient

namespace OutboxStore

def insert (message : Message) : Task (Except DbError Unit) := .perform (.outbox (.insert message)) .done

def processBatch : Task Unit := Outbox.processBatch.embed .outbox fun _ reply => reply

end OutboxStore
end Ticketbus.Ticketing
