import Ticketbus.Outbox
import Mathlib.Data.List.Sort

/-! The ticketing service's data: its domain types and the tables of its
migrations. Rows carry their CHECK constraints, tables their primary keys and
the database its foreign keys, so a store that breaks one cannot be built. -/
namespace Ticketbus.Ticketing
open Ticketbus.Relational

abbrev ID := Nat

abbrev Time := Int

inductive EventStatus where
  | draft
  | pending
  | published
  | rejected
  | cancelled
  deriving DecidableEq, Repr

inductive BookingStatus where
  | pending
  | confirmed
  | expired
  | cancelled
  deriving DecidableEq, Repr

structure Event where
  id : ID
  organizerID : ID
  title : String
  description : String
  venueName : String
  venueAddress : String
  venueCapacity : Int
  startAt : Time
  endAt : Time
  status : EventStatus
  reviewedBy : Option ID
  reviewedAt : Option Time
  createdAt : Time
  updatedAt : Time
  deriving DecidableEq, Repr

structure TicketType where
  id : ID
  eventID : ID
  name : String
  priceRupiah : Int
  quantity : Int
  maxPerOrder : Int
  deriving DecidableEq, Repr

structure BookingItem where
  id : ID
  bookingID : ID
  ticketTypeID : ID
  quantity : Int
  unitPriceRupiah : Int
  totalPriceRupiah : Int
  deriving DecidableEq, Repr

structure Booking where
  id : ID
  userID : ID
  eventID : ID
  status : BookingStatus
  expiresAt : Option Time
  totalRupiah : Int
  items : List BookingItem
  deriving DecidableEq, Repr

/-- Messages of the ticketing outbox: the topics `event.cancelled` and `ticket.issued`. -/
inductive Message where
  | eventCancelled (eventID : ID) (at_ : Time)
  | ticketIssued (ticketID bookingID userID eventID ticketTypeID : ID)
  deriving DecidableEq, Repr

/-- The body of the internal request that creates a payment transaction. -/
structure InitiateRequest where
  bookingID : ID
  eventID : ID
  userID : ID
  email : String
  amountRupiah : Int
  expiresAt : Time
  deriving DecidableEq, Repr

structure EventRow where
  event : Event
  check : 0 ≤ event.venueCapacity ∧ Int4 event.venueCapacity
  deriving DecidableEq

structure TicketTypeRow where
  id : ID
  eventID : ID
  name : String
  priceRupiah : Int
  quantity : Int
  availableSeat : Int
  maxPerOrder : Int
  price_check : 0 ≤ priceRupiah ∧ Int8 priceRupiah
  quantity_check : 0 < quantity ∧ Int4 quantity
  seat_check : 0 ≤ availableSeat ∧ availableSeat ≤ quantity
  order_check : 0 < maxPerOrder ∧ Int4 maxPerOrder
  deriving DecidableEq

structure BookingRow where
  id : ID
  userID : ID
  eventID : ID
  status : BookingStatus
  expiresAt : Option Time
  createdAt : Time
  check : status ≠ .pending ∨ expiresAt.isSome
  deriving DecidableEq

structure BookingItemRow where
  id : ID
  bookingID : ID
  ticketTypeID : ID
  quantity : Int
  totalPriceRupiah : Int
  quantity_check : 0 < quantity ∧ Int4 quantity
  total_check : 0 ≤ totalPriceRupiah ∧ Int8 totalPriceRupiah
  deriving DecidableEq

def EventRow.id (row : EventRow) : ID := row.event.id

structure Database where
  events : Table EventRow EventRow.id
  ticketTypes : Table TicketTypeRow TicketTypeRow.id
  bookings : Table BookingRow BookingRow.id
  items : Table BookingItemRow BookingItemRow.id
  ticketTypes_event : ∀ row ∈ ticketTypes.rows, (events.find? row.eventID).isSome
  bookings_event : ∀ row ∈ bookings.rows, (events.find? row.eventID).isSome
  items_booking : ∀ row ∈ items.rows, (bookings.find? row.bookingID).isSome

namespace Database

def empty : Database := ⟨∅,∅,∅,∅,by simp,by simp,by simp⟩

/-- The rows of `booking_items` that belong to a booking. -/
def itemsOf (db : Database) (bookingID : ID) : List BookingItemRow :=
  db.items.rows.filter (fun row => row.bookingID = bookingID)

def addEvent (db : Database) (row : EventRow) (fresh : db.events.find? row.id = none) : Database where
  events := db.events.insert row fresh
  ticketTypes := db.ticketTypes
  bookings := db.bookings
  items := db.items
  ticketTypes_event old member := Table.find?_insert_isSome row fresh (db.ticketTypes_event old member)
  bookings_event old member := Table.find?_insert_isSome row fresh (db.bookings_event old member)
  items_booking := db.items_booking

def setEvent (db : Database) (row : EventRow) : Database where
  events := db.events.replace row
  ticketTypes := db.ticketTypes
  bookings := db.bookings
  items := db.items
  ticketTypes_event := by
    intro old member
    rw [Table.find?_replace_isSome]
    exact db.ticketTypes_event old member
  bookings_event := by
    intro old member
    rw [Table.find?_replace_isSome]
    exact db.bookings_event old member
  items_booking := db.items_booking

def addTicketType (db : Database) (row : TicketTypeRow)
    (fresh : db.ticketTypes.find? row.id = none) (event : (db.events.find? row.eventID).isSome) :
    Database where
  events := db.events
  ticketTypes := db.ticketTypes.insert row fresh
  bookings := db.bookings
  items := db.items
  ticketTypes_event := by
    intro old member
    rcases (Table.mem_insert ..).mp member with inside | rfl
    · exact db.ticketTypes_event old inside
    · exact event
  bookings_event := db.bookings_event
  items_booking := db.items_booking

def setTicketType (db : Database) (row : TicketTypeRow) (event : (db.events.find? row.eventID).isSome) :
    Database where
  events := db.events
  ticketTypes := db.ticketTypes.replace row
  bookings := db.bookings
  items := db.items
  ticketTypes_event := by
    intro old member
    rcases (Table.mem_replace ..).mp member with ⟨inside,_⟩ | ⟨rfl,_⟩
    · exact db.ticketTypes_event old inside
    · exact event
  bookings_event := db.bookings_event
  items_booking := db.items_booking

def addBooking (db : Database) (row : BookingRow) (fresh : db.bookings.find? row.id = none)
    (event : (db.events.find? row.eventID).isSome) : Database where
  events := db.events
  ticketTypes := db.ticketTypes
  bookings := db.bookings.insert row fresh
  items := db.items
  ticketTypes_event := db.ticketTypes_event
  bookings_event := by
    intro old member
    rcases (Table.mem_insert ..).mp member with inside | rfl
    · exact db.bookings_event old inside
    · exact event
  items_booking old member := Table.find?_insert_isSome row fresh (db.items_booking old member)

def setBooking (db : Database) (row : BookingRow) (event : (db.events.find? row.eventID).isSome) :
    Database where
  events := db.events
  ticketTypes := db.ticketTypes
  bookings := db.bookings.replace row
  items := db.items
  ticketTypes_event := db.ticketTypes_event
  bookings_event := by
    intro old member
    rcases (Table.mem_replace ..).mp member with ⟨inside,_⟩ | ⟨rfl,_⟩
    · exact db.bookings_event old inside
    · exact event
  items_booking := by
    intro old member
    rw [Table.find?_replace_isSome]
    exact db.items_booking old member

def removeBooking (db : Database) (id : ID) (unused : db.itemsOf id = []) : Database where
  events := db.events
  ticketTypes := db.ticketTypes
  bookings := db.bookings.erase id
  items := db.items
  ticketTypes_event := db.ticketTypes_event
  bookings_event := by
    intro old member
    exact db.bookings_event old ((Table.mem_erase ..).mp member).1
  items_booking := by
    intro old member
    rw [Table.find?_erase]
    split
    · rename_i same
      have inside : old ∈ db.itemsOf id := List.mem_filter.mpr ⟨member,by simp [same]⟩
      rw [unused] at inside
      cases inside
    · exact db.items_booking old member

def addItem (db : Database) (row : BookingItemRow) (fresh : db.items.find? row.id = none)
    (booking : (db.bookings.find? row.bookingID).isSome) : Database where
  events := db.events
  ticketTypes := db.ticketTypes
  bookings := db.bookings
  items := db.items.insert row fresh
  ticketTypes_event := db.ticketTypes_event
  bookings_event := db.bookings_event
  items_booking := by
    intro old member
    rcases (Table.mem_insert ..).mp member with inside | rfl
    · exact db.items_booking old inside
    · exact booking

end Database

/-- Everything outside the service's own memory: its database and outbox, the
requests that have reached the payment service, the clock and the uuid supply. -/
structure World where
  db : Database
  outbox : Outbox.Store Message
  requests : List InitiateRequest
  clock : Time
  nextID : ID

def World.initial : World := ⟨.empty,.empty,[],0,0⟩

end Ticketbus.Ticketing
