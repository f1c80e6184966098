import Ticketbus.Ticketing.Schema

/-! The statements that the ticketing service issues, one for each SQL statement
or pgx transaction of its repositories, and what PostgreSQL does with them. -/
namespace Ticketbus.Ticketing
open Ticketbus.Relational

namespace Database

def createEvent (db : Database) (now : Time) (event : Event) : Except DbError (Unit × Database) :=
  if check : 0 ≤ event.venueCapacity ∧ Int4 event.venueCapacity then
    let row : EventRow :=
      ⟨{event with reviewedBy := none, reviewedAt := none, createdAt := now, updatedAt := now},check⟩
    if fresh : db.events.find? row.id = none then .ok ((),db.addEvent row fresh)
    else .error .uniqueViolation
  else if Int4 event.venueCapacity then .error .checkViolation
  else .error .outOfRange

/-- The columns that `EventRepo.UpdateEvent` writes back, whatever they were. -/
def updateEvent (db : Database) (event : Event) : Except DbError (Unit × Database) :=
  match db.events.find? event.id with
  | none => .ok ((),db)
  | some row => .ok ((),db.setEvent ⟨{row.event with
      title := event.title
      description := event.description
      startAt := event.startAt
      endAt := event.endAt
      status := event.status
      reviewedBy := event.reviewedBy
      reviewedAt := event.reviewedAt
      updatedAt := event.updatedAt},row.check⟩)

def findEventByID (db : Database) (id : ID) : Except DbError Event :=
  match db.events.find? id with
  | none => .error .noRows
  | some row => .ok row.event

def eventStatus (db : Database) (id : ID) : Except DbError EventStatus :=
  match db.events.find? id with
  | none => .error .noRows
  | some row => .ok row.event.status

def createTicketType (db : Database) (ticketType : TicketType) : Except DbError (Unit × Database) :=
  if price : 0 ≤ ticketType.priceRupiah ∧ Int8 ticketType.priceRupiah then
    if quantity : 0 < ticketType.quantity ∧ Int4 ticketType.quantity then
      if order : 0 < ticketType.maxPerOrder ∧ Int4 ticketType.maxPerOrder then
        -- available_seat is left to its DEFAULT 0
        let row : TicketTypeRow := ⟨ticketType.id,ticketType.eventID,ticketType.name,
          ticketType.priceRupiah,ticketType.quantity,0,ticketType.maxPerOrder,price,quantity,
          ⟨le_refl 0,le_of_lt quantity.1⟩,order⟩
        if fresh : db.ticketTypes.find? row.id = none then
          if event : (db.events.find? row.eventID).isSome then .ok ((),db.addTicketType row fresh event)
          else .error .foreignKeyViolation
        else .error .uniqueViolation
      else .error .checkViolation
    else if Int4 ticketType.quantity then .error .checkViolation
    else .error .outOfRange
  else .error .checkViolation

def listTicketTypesByEvent (db : Database) (eventID : ID) : List TicketType :=
  (db.ticketTypes.rows.filter (fun row => row.eventID = eventID)).map fun row =>
    ⟨row.id,row.eventID,row.name,row.priceRupiah,row.quantity,row.maxPerOrder⟩

/-- Write `available_seat` of one row; the CHECK rejects a value outside `[0,quantity]`. -/
def setSeat (db : Database) (row : TicketTypeRow) (member : row ∈ db.ticketTypes.rows) (seats : Int) :
    Except DbError Database :=
  if check : 0 ≤ seats ∧ seats ≤ row.quantity then
    .ok (db.setTicketType {row with availableSeat := seats, seat_check := check}
      (db.ticketTypes_event row member))
  else .error .checkViolation

/-- UPDATE ticket_types SET available_seat = $1 WHERE id = $2 -/
def initSeats (db : Database) (id : ID) (total : Int) : Except DbError (Nat × Database) :=
  if Int4 total then
    match found : db.ticketTypes.find? id with
    | none => .ok (0,db)
    | some row => (db.setSeat row (Table.find?_mem found) total).map fun next => (1,next)
  else .error .outOfRange

/-- UPDATE ... SET available_seat = available_seat - $1 WHERE id = $2 AND available_seat >= $1 -/
def reserveSeats (db : Database) (id : ID) (qty : Int) : Except DbError (Nat × Database) :=
  if Int4 qty then
    match found : db.ticketTypes.find? id with
    | none => .ok (0,db)
    | some row =>
      if qty ≤ row.availableSeat then
        (db.setSeat row (Table.find?_mem found) (row.availableSeat - qty)).map fun next => (1,next)
      else .ok (0,db)
  else .error .outOfRange

/-- UPDATE ... SET available_seat = LEAST(quantity, available_seat + $1) WHERE id = $2 -/
def releaseSeats (db : Database) (id : ID) (qty : Int) : Except DbError (Nat × Database) :=
  if Int4 qty then
    match found : db.ticketTypes.find? id with
    | none => .ok (0,db)
    | some row =>
      if Int4 (row.availableSeat + qty) then
        (db.setSeat row (Table.find?_mem found) (min row.quantity (row.availableSeat + qty))).map
          fun next => (1,next)
      else .error .outOfRange
  else .error .outOfRange

def setPrice (db : Database) (id : ID) (price : Int) : Except DbError (Nat × Database) :=
  if check : 0 ≤ price ∧ Int8 price then
    match found : db.ticketTypes.find? id with
    | none => .ok (0,db)
    | some row => .ok (1,db.setTicketType {row with priceRupiah := price, price_check := check}
        (db.ticketTypes_event row (Table.find?_mem found)))
  else .error .checkViolation

def getPrice (db : Database) (id : ID) : Except DbError Int :=
  match db.ticketTypes.find? id with
  | none => .error .noRows
  | some row => .ok row.priceRupiah

/-- One INSERT INTO booking_items of `BookingRepo.Create`. -/
def insertItem (db : Database) (item : BookingItem) : Except DbError Database :=
  let totalPrice := if item.totalPriceRupiah = 0 then goInt (item.unitPriceRupiah * item.quantity)
    else item.totalPriceRupiah
  if quantity : 0 < item.quantity ∧ Int4 item.quantity then
    if total : 0 ≤ totalPrice ∧ Int8 totalPrice then
      let row : BookingItemRow :=
        ⟨item.id,item.bookingID,item.ticketTypeID,item.quantity,totalPrice,quantity,total⟩
      if fresh : db.items.find? row.id = none then
        if booking : (db.bookings.find? row.bookingID).isSome then .ok (db.addItem row fresh booking)
        else .error .foreignKeyViolation
      else .error .uniqueViolation
    else .error .checkViolation
  else if Int4 item.quantity then .error .checkViolation
  else .error .outOfRange

/-- The transaction of `BookingRepo.Create`. -/
def create (db : Database) (now : Time) (booking : Booking) : Except DbError (Unit × Database) :=
  if check : booking.status ≠ .pending ∨ booking.expiresAt.isSome then
    let row : BookingRow :=
      ⟨booking.id,booking.userID,booking.eventID,booking.status,booking.expiresAt,now,check⟩
    if fresh : db.bookings.find? row.id = none then
      if event : (db.events.find? row.eventID).isSome then
        (booking.items.foldlM insertItem (db.addBooking row fresh event)).map fun next => ((),next)
      else .error .foreignKeyViolation
    else .error .uniqueViolation
  else .error .checkViolation

def findBooking (db : Database) (id : ID) : Except DbError BookingRow :=
  match db.bookings.find? id with
  | none => .error .noRows
  | some row => .ok row

/-- `ORDER BY created_at DESC`. -/
def newestBookings (db : Database) (wanted : BookingRow → Bool) : List BookingRow :=
  (db.bookings.rows.filter wanted).insertionSort fun left right => right.createdAt ≤ left.createdAt

theorem mem_newestBookings {db : Database} {wanted : BookingRow → Bool} {row : BookingRow} :
    row ∈ db.newestBookings wanted ↔ row ∈ db.bookings.rows ∧ wanted row = true := by
  rw [newestBookings,List.mem_insertionSort,List.mem_filter]

def listBookings (db : Database) (eventID : ID) : List BookingRow := db.newestBookings fun row => row.eventID = eventID

def listBookingsByUser (db : Database) (userID : ID) : List BookingRow :=
  db.newestBookings fun row => row.userID = userID

def setStatus (db : Database) (row : BookingRow) (member : row ∈ db.bookings.rows)
    (status : BookingStatus) : Except DbError Database :=
  if check : status ≠ .pending ∨ row.expiresAt.isSome then
    .ok (db.setBooking {row with status := status, check := check} (db.bookings_event row member))
  else .error .checkViolation

/-- UPDATE bookings SET status=$1 WHERE id=$2 AND status='pending' -/
def updateStatusIfPending (db : Database) (id : ID) (status : BookingStatus) :
    Except DbError (Nat × Database) :=
  match found : db.bookings.find? id with
  | none => .ok (0,db)
  | some row =>
    if row.status = .pending then
      (db.setStatus row (Table.find?_mem found) status).map fun next => (1,next)
    else .ok (0,db)

/-- The transaction of `TransitionAndReleaseSeats`: the status guarded by the
caller's copy of it, then every item of the caller's copy given back. -/
def transitionAndReleaseSeats (db : Database) (booking : Booking) (toStatus : BookingStatus) :
    Except DbError (Bool × Database) :=
  match found : db.bookings.find? booking.id with
  | none => .ok (false,db)
  | some row =>
    if row.status = booking.status then do
      let moved ← db.setStatus row (Table.find?_mem found) toStatus
      let released ← booking.items.foldlM
        (fun db item => (db.releaseSeats item.ticketTypeID item.quantity).map Prod.snd) moved
      .ok (true,released)
    else .ok (false,db)

/-- DELETE FROM bookings WHERE id=$1 AND status='pending'. `booking_items`
references bookings with no ON DELETE action, so a booking with items stays. -/
def delete (db : Database) (id : ID) : Except DbError (Nat × Database) :=
  match db.bookings.find? id with
  | none => .ok (0,db)
  | some row =>
    if row.status = .pending then
      if unused : db.itemsOf id = [] then .ok (1,db.removeBooking id unused)
      else .error .foreignKeyViolation
    else .ok (0,db)

end Database

inductive Statement where
  | newString
  | now
  | advance (duration : Nat)
  | createEvent (event : Event)
  | updateEvent (event : Event)
  | findEventByID (id : ID)
  | eventStatus (id : ID)
  | createTicketType (ticketType : TicketType)
  | listTicketTypesByEvent (eventID : ID)
  | init (ticketTypeID : ID) (total : Int)
  | reserve (ticketTypeID : ID) (qty : Int)
  | release (ticketTypeID : ID) (qty : Int)
  | setPrice (ticketTypeID : ID) (price : Int)
  | getPrice (ticketTypeID : ID)
  | create (booking : Booking)
  | findBooking (id : ID)
  | listItems (bookingID : ID)
  | listBookings (eventID : ID)
  | listBookingsByUser (userID : ID)
  | updateStatusIfPending (bookingID : ID) (status : BookingStatus)
  | transitionAndReleaseSeats (booking : Booking) (toStatus : BookingStatus)
  | delete (bookingID : ID)
  | initiateTxnForBooking (request : InitiateRequest)
  | outbox (statement : Outbox.Statement Message)
  deriving DecidableEq

@[reducible] def Reply : Statement → Type
  | .newString => ID
  | .now => Time
  | .advance _ => Unit
  | .createEvent _ => Except DbError Unit
  | .updateEvent _ => Except DbError Unit
  | .findEventByID _ => Except DbError Event
  | .eventStatus _ => Except DbError EventStatus
  | .createTicketType _ => Except DbError Unit
  | .listTicketTypesByEvent _ => Except DbError (Rows TicketType)
  | .init _ _ => Except DbError Nat
  | .reserve _ _ => Except DbError Nat
  | .release _ _ => Except DbError Nat
  | .setPrice _ _ => Except DbError Nat
  | .getPrice _ => Except DbError Int
  | .create _ => Except DbError Unit
  | .findBooking _ => Except DbError BookingRow
  | .listItems _ => Except DbError (Rows BookingItemRow)
  | .listBookings _ => Except DbError (Rows BookingRow)
  | .listBookingsByUser _ => Except DbError (Rows BookingRow)
  | .updateStatusIfPending _ _ => Except DbError Nat
  | .transitionAndReleaseSeats _ _ => Except DbError Bool
  | .delete _ => Except DbError Nat
  | .initiateTxnForBooking _ => Except DbError Unit
  | .outbox statement => Outbox.Reply statement

abbrev World.put (world : World) (db : Database) : World := {world with db := db}

def execute (statement : Statement) (fault : Fault) (world : World) : Reply statement × World :=
  match statement with
  | .newString => (world.nextID,{world with nextID := world.nextID + 1})
  | .now => (world.clock,world)
  | .advance duration => ((),{world with clock := world.clock + duration})
  | .createEvent event => write World.put fault world (world.db.createEvent world.clock event)
  | .updateEvent event => write World.put fault world (world.db.updateEvent event)
  | .findEventByID id => query fault world (world.db.findEventByID id)
  | .eventStatus id => query fault world (world.db.eventStatus id)
  | .createTicketType ticketType => write World.put fault world (world.db.createTicketType ticketType)
  | .listTicketTypesByEvent eventID => stream fault world (world.db.listTicketTypesByEvent eventID)
  | .init id total => write World.put fault world (world.db.initSeats id total)
  | .reserve id qty => write World.put fault world (world.db.reserveSeats id qty)
  | .release id qty => write World.put fault world (world.db.releaseSeats id qty)
  | .setPrice id price => write World.put fault world (world.db.setPrice id price)
  | .getPrice id => query fault world (world.db.getPrice id)
  | .create booking => write World.put fault world (world.db.create world.clock booking)
  | .findBooking id => query fault world (world.db.findBooking id)
  | .listItems bookingID => stream fault world (world.db.itemsOf bookingID)
  | .listBookings eventID => stream fault world (world.db.listBookings eventID)
  | .listBookingsByUser userID => stream fault world (world.db.listBookingsByUser userID)
  | .updateStatusIfPending id status => write World.put fault world (world.db.updateStatusIfPending id status)
  | .transitionAndReleaseSeats booking toStatus =>
    write World.put fault world (world.db.transitionAndReleaseSeats booking toStatus)
  | .delete id => write World.put fault world (world.db.delete id)
  | .initiateTxnForBooking request =>
    send fault world {world with requests := request :: world.requests}
  | .outbox statement =>
    let outcome := Outbox.execute statement fault world.outbox
    (outcome.1,{world with outbox := outcome.2})

end Ticketbus.Ticketing
