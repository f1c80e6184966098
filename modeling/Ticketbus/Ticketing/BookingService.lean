import Ticketbus.Ticketing.Repository

/-! `BookingService` and the reserve handler in front of it. Loops over items are
recursive programs, so that every iteration is a point where others may run. -/
namespace Ticketbus.Ticketing
open Ticketbus.Concurrency Ticketbus.Relational

structure ReserveItemRequest where
  ticketTypeID : ID
  quantity : Int
  unitPriceRupiah : Int
  deriving DecidableEq, Repr

structure ReserveRequest where
  eventID : ID
  items : List ReserveItemRequest
  deriving DecidableEq, Repr

structure Reservation where
  bookingID : ID
  userID : ID
  eventID : ID
  items : List BookingItem
  totalRupiah : Int
  status : BookingStatus
  expiresAt : Time
  createdAt : Time
  deriving DecidableEq, Repr

namespace ReserveRequest

/-- `quantity` is tagged `required,min=1` and the price `required,min=0`, where
`required` refuses the zero value; the JSON decoder refuses what no `int` holds. -/
def valid (request : ReserveRequest) : Bool :=
  !request.items.isEmpty && request.items.all fun item =>
    decide (1 ≤ item.quantity ∧ Int8 item.quantity) &&
      decide (1 ≤ item.unitPriceRupiah ∧ Int8 item.unitPriceRupiah)

def bookingItems (request : ReserveRequest) : List BookingItem :=
  request.items.map fun item => ⟨0,0,item.ticketTypeID,item.quantity,item.unitPriceRupiah,0⟩

end ReserveRequest

namespace BookingService

/-- `calculateTotal`. -/
def calculateTotal (items : List BookingItem) : Int :=
  items.foldl (fun total item => goInt (total + goInt (item.unitPriceRupiah * item.quantity))) 0

/-- `rollbackSeats`: errors of `Release` are dropped. -/
def rollbackSeats : List BookingItem → Task Unit
  | [] => return ()
  | item :: rest => do
    let _ ← SeatCounter.release item.ticketTypeID item.quantity
    rollbackSeats rest

/-- The rollback of a failed item: it stops at the first line that names the
failed ticket type, not at the failed line. -/
def rollbackBefore (failed : ID) : List BookingItem → Task Unit
  | [] => return ()
  | item :: rest =>
    if item.ticketTypeID = failed then return ()
    else do
      let _ ← SeatCounter.release item.ticketTypeID item.quantity
      rollbackBefore failed rest

/-- The loop that checks prices and decrements seats, item by item. -/
def reserveItems (items : List BookingItem) : List BookingItem → Task (Except Error Unit)
  | [] => return .ok ()
  | item :: rest => do
    match ← SeatCounter.getPrice item.ticketTypeID with
    | .error error => return .error error
    | .ok realPrice =>
      if item.unitPriceRupiah ≠ realPrice then
        return .error (.priceMismatch realPrice item.unitPriceRupiah)
      else
        match ← SeatCounter.reserve item.ticketTypeID item.quantity with
        | .error error =>
          rollbackBefore item.ticketTypeID items
          return .error (.noSeatsAvailableFor error)
        | .ok () => reserveItems items rest

/-- Fresh ids and totals for the items of a new booking. -/
def nameItems (bookingID : ID) : List BookingItem → Task (List BookingItem)
  | [] => return []
  | item :: rest => do
    let id ← newString
    let named ← nameItems bookingID rest
    return {item with
      id := id
      bookingID := bookingID
      totalPriceRupiah := goInt (item.unitPriceRupiah * item.quantity)} :: named

def reserve (reservationTTL : Nat) (userID : ID) (userEmail : String) (eventID : ID)
    (items : List BookingItem) : Task (Except Error Reservation) := do
  if items = [] then return .error .invalidQuantity
  match ← reserveItems items items with
  | .error error => return .error error
  | .ok () =>
    let now ← timeNow
    let bookingID ← newString
    let createdAt ← timeNow
    let named ← nameItems bookingID items
    let res : Reservation :=
      ⟨bookingID,userID,eventID,named,calculateTotal items,.pending,now + reservationTTL,createdAt⟩
    match ← BookingRepo.create ⟨bookingID,userID,eventID,.pending,some res.expiresAt,0,named⟩ with
    | .error error =>
      rollbackSeats named
      return .error (.db error)
    | .ok () =>
      match ← PaymentClient.initiateTxnForBooking
          ⟨bookingID,eventID,userID,userEmail,res.totalRupiah,res.expiresAt⟩ with
      | .error error =>
        let _ ← BookingRepo.delete bookingID
        rollbackSeats named
        return .error error
      | .ok () => return .ok res

/-- A booking that cannot be loaded is treated as one that is not there. -/
def loadPendingBooking (bookingID : ID) : Task (Except Error (Option Booking)) := do
  match ← BookingRepo.findByID bookingID with
  | .error _ => return .ok none
  | .ok booking =>
    if booking.status ≠ .pending then return .ok none
    else return .ok (some booking)

/-- One `ticket.issued` row for each item; errors of `Insert` are dropped. -/
def issueTickets (bookingID : ID) (booking : Booking) : List BookingItem → Task Unit
  | [] => return ()
  | item :: rest => do
    let _ ← OutboxStore.insert
      (.ticketIssued item.id bookingID booking.userID booking.eventID item.ticketTypeID)
    issueTickets bookingID booking rest

def confirm (bookingID _paymentID : ID) : Task (Except Error Unit) := do
  match ← loadPendingBooking bookingID with
  | .error error => return .error error
  | .ok none => return .ok ()
  | .ok (some booking) =>
    match ← EventStatusRepo.isPublished booking.eventID with
    | .error error => return .error (.db error)
    | .ok false =>
      match ← BookingRepo.transitionAndReleaseSeats booking .cancelled with
      | .error error => return .error (.db error)
      | .ok _ => return .ok ()
    | .ok true =>
      match ← BookingRepo.updateStatusIfPending bookingID .confirmed with
      | .error error => return .error (.db error)
      | .ok false => return .ok ()
      | .ok true =>
        issueTickets bookingID booking booking.items
        return .ok ()

def releaseReservation (bookingID : ID) (status : BookingStatus) : Task (Except Error Unit) := do
  match ← loadPendingBooking bookingID with
  | .error error => return .error error
  | .ok none => return .ok ()
  | .ok (some booking) =>
    match ← BookingRepo.transitionAndReleaseSeats booking status with
    | .error error => return .error (.db error)
    | .ok _ => return .ok ()

def expireOnPaymentExpired (bookingID : ID) : Task (Except Error Unit) :=
  releaseReservation bookingID .expired

/-- The loop of `CancelBookings` over the bookings it has listed. -/
def cancelAll : List Booking → Task (Except Error Unit)
  | [] => return .ok ()
  | booking :: rest =>
    if booking.status ≠ .confirmed ∧ booking.status ≠ .pending then cancelAll rest
    else do
      match ← BookingRepo.transitionAndReleaseSeats booking .cancelled with
      | .error error => return .error (.db error)
      | .ok _ => cancelAll rest

def cancelBookings (eventID : ID) : Task (Except Error Unit) := do
  match ← BookingRepo.listByEventID eventID with
  | .error error => return .error (.db error)
  | .ok bookings => cancelAll bookings

def getBooking (bookingID : ID) : Task (Except DbError Booking) := BookingRepo.findByID bookingID

def listMyBookings (userID : ID) : Task (Except DbError (List Booking)) := BookingRepo.listByUser userID

end BookingService

/-- `BookingHandler.Reserve`: nothing is reserved for a request that does not validate. -/
def BookingHandler.reserve (reservationTTL : Nat) (userID : ID) (userEmail : String)
    (request : ReserveRequest) : Task (Except Error Reservation) :=
  if request.valid then
    BookingService.reserve reservationTTL userID userEmail request.eventID request.bookingItems
  else return .error .badRequest

end Ticketbus.Ticketing
