import Ticketbus.Ticketing.Effects
import Ticketbus.Ticketing.Footprint
import Ticketbus.Concurrency.Sequential

/-! What the loaders of the ticketing service return when nothing else is running, given the
faults that their statements meet. A stream of items that breaks off is not noticed. -/
namespace Ticketbus.Ticketing
open Ticketbus.Concurrency Ticketbus.Relational

namespace Database

def loaded (db : Database) (fault : Fault) (row : BookingRow) : Booking :=
  BookingRepo.assemble row (fault.delivers (db.itemsOf row.id))

/-- The booking as it is stored, with all its items. -/
def bookingOf (db : Database) (row : BookingRow) : Booking := BookingRepo.assemble row (db.itemsOf row.id)

def loadedAll (db : Database) (faults : Nat → Fault) (rows : List BookingRow) : List Booking :=
  rows.mapIdx fun position row => db.loaded (faults position) row

/-- The streams of the items of some bookings all come to their end. -/
def Streamed (db : Database) (faults : Nat → Fault) (rows : List BookingRow) : Prop :=
  ∀ position row, rows[position]? = some row → ¬ (faults position).Cuts (db.itemsOf row.id)

variable {db : Database}

theorem loaded_eq_iff (fault : Fault) (row : BookingRow) :
    db.loaded fault row = db.bookingOf row ↔ ¬ fault.Cuts (db.itemsOf row.id) := by
  rw [← Fault.delivers_eq_iff]
  constructor
  · intro same
    apply (fault.delivers_prefix _).eq_of_length
    simpa [loaded,bookingOf,BookingRepo.assemble] using congrArg (fun booking => booking.items.length) same
  · intro same
    rw [loaded,same,bookingOf]

theorem loadedAll_eq_iff (faults : Nat → Fault) (rows : List BookingRow) :
    db.loadedAll faults rows = rows.map db.bookingOf ↔ db.Streamed faults rows := by
  simp only [Streamed,← loaded_eq_iff,loadedAll]
  constructor
  · intro same position row found
    have at_ := congrArg (fun bookings => bookings[position]?) same
    simpa [found] using at_
  · intro same
    apply List.ext_getElem?
    intro position
    cases found : rows[position]? with
    | none => simp [found]
    | some row => simp [found,same position row found]

theorem loadedAll_mem {faults : Nat → Fault} {rows : List BookingRow} {booking : Booking}
    (member : booking ∈ db.loadedAll faults rows) : ∃ fault row, row ∈ rows ∧ booking = db.loaded fault row := by
  obtain ⟨position,inside,rfl⟩ := List.mem_mapIdx.mp member
  exact ⟨_,_,List.getElem_mem inside,rfl⟩

theorem listBookings_stored {eventID : ID} {row : BookingRow} (member : row ∈ db.listBookings eventID) :
    row ∈ db.bookings.rows := (mem_newestBookings.mp member).1

theorem listBookings_distinct (db : Database) (eventID : ID) : ((db.listBookings eventID).map BookingRow.id).Nodup := by
  have unsorted : ((db.bookings.rows.filter fun row => row.eventID = eventID).map BookingRow.id).Nodup :=
    db.bookings.distinct.sublist (List.filter_sublist.map _)
  exact ((List.perm_insertionSort _ _).map _).nodup_iff.mpr unsorted

end Database

/-- One of the two SELECTs of `FindByID` fails. -/
def lookupFails (faults : Nat → Fault) : Prop := faults 0 ≠ .none ∨ faults 1 = .fail

instance (faults : Nat → Fault) : Decidable (lookupFails faults) := inferInstanceAs (Decidable (_ ∨ _))

section Loads
variable (faults : Nat → Fault) (world : World)

theorem scanItems_run (row : BookingRow) : ∃ reply, (BookingRepo.scanItems row).run execute faults world =
    ⟨if faults 0 = .fail then .error .connection else .ok (world.db.loaded (faults 0) row),world,
      [⟨.listItems row.id,reply⟩]⟩ := by
  change ∃ reply, Outcome.after (Program.run execute _ _ _) ⟨.listItems row.id,_⟩ = _
  cases faults 0 with
  | none => exact ⟨_,rfl⟩
  | fail => exact ⟨_,rfl⟩
  | broken count => exact ⟨_,rfl⟩

theorem findByID_run (id : ID) : ((BookingRepo.findByID id).run execute faults world).world = world ∧
    ∀ booking, ((BookingRepo.findByID id).run execute faults world).value = .ok booking ↔
      ∃ row, world.db.bookings.find? id = some row ∧ ¬ lookupFails faults ∧ booking = world.db.loaded (faults 1) row := by
  change (Outcome.after (Program.run execute _ _ _) ⟨.findBooking id,_⟩).world = _ ∧
    ∀ booking, (Outcome.after (Program.run execute _ _ _) ⟨.findBooking id,_⟩).value = _ ↔ _
  have same : (execute (.findBooking id) (faults 0) world).2 = world := query_world ..
  have found (row : BookingRow) : (execute (.findBooking id) (faults 0) world).1 = .ok row ↔
      faults 0 = .none ∧ world.db.bookings.find? id = some row :=
    query_ok_iff.trans (and_congr_right fun _ => Database.findBooking_ok)
  rw [same]
  cases reply : (execute (.findBooking id) (faults 0) world).1 with
  | error error =>
    refine ⟨rfl,fun booking => ⟨nofun,?_⟩⟩
    rintro ⟨row,stored,succeeds,_⟩
    have faultless : faults 0 = .none := not_not.mp fun fault => succeeds (.inl fault)
    cases ((found row).mpr ⟨faultless,stored⟩).symm.trans reply
  | ok row =>
    obtain ⟨faultless,stored⟩ := (found row).mp reply
    obtain ⟨_,run⟩ := scanItems_run (fun position => faults (position + 1)) world row
    simp only [run]
    refine ⟨rfl,fun booking => ?_⟩
    by_cases fails : faults 1 = .fail
    · simp [Outcome.after,lookupFails,fails]
    · simp [Outcome.after,stored,lookupFails,faultless,fails,eq_comm]

theorem loadAll_run (rows : List BookingRow) : ((BookingRepo.loadAll rows).run execute faults world).world = world ∧
    ∀ bookings, ((BookingRepo.loadAll rows).run execute faults world).value = .ok bookings →
      bookings = world.db.loadedAll faults rows := by
  induction rows generalizing faults with
  | nil =>
    refine ⟨rfl,fun bookings value => ?_⟩
    cases value
    rfl
  | cons row rest ih =>
    obtain ⟨reply,first⟩ := scanItems_run faults world row
    change ((Program.bind (BookingRepo.scanItems row) _).run execute faults world).world = _ ∧
      ∀ bookings, ((Program.bind (BookingRepo.scanItems row) _).run execute faults world).value = _ → _
    rw [Program.run_bind,first]
    by_cases failed : faults 0 = .fail
    · rw [if_pos failed]
      exact ⟨rfl,nofun⟩
    · rw [if_neg failed]
      change (Outcome.append _ (Program.run execute (Program.bind (BookingRepo.loadAll rest) _) _ _)).world = _ ∧
        ∀ bookings, (Outcome.append _ (Program.run execute (Program.bind (BookingRepo.loadAll rest) _) _ _)).value = _ → _
      rw [Program.run_bind]
      obtain ⟨same,listed⟩ := ih (fun position => faults (position + 1))
      simp only [List.length_singleton]
      generalize Program.run execute (BookingRepo.loadAll rest) (fun position => faults (position + 1)) world = last at *
      cases value : last.value with
      | error error => exact ⟨same,nofun⟩
      | ok others =>
        refine ⟨same,fun bookings ok => ?_⟩
        cases ok
        rw [listed others value]
        rw [Database.loadedAll,Database.loadedAll,List.mapIdx_cons]

theorem scanBookings_run (fault : Fault) (rows : List BookingRow) :
    ((BookingRepo.scanBookings (stream fault world rows).1).run execute faults (stream fault world rows).2).world = world ∧
    ∀ bookings, ((BookingRepo.scanBookings (stream fault world rows).1).run execute faults
        (stream fault world rows).2).value = .ok bookings → bookings = world.db.loadedAll faults rows := by
  rw [stream_world]
  rcases read : (stream fault world rows).1 with error | ⟨items,_ | error⟩
  · exact ⟨rfl,nofun⟩
  · rw [← stream_checked read]
    exact loadAll_run faults world items
  · exact ⟨rfl,nofun⟩

theorem listByEventID_run (eventID : ID) :
    ((BookingRepo.listByEventID eventID).run execute faults world).world = world ∧
    ∀ bookings, ((BookingRepo.listByEventID eventID).run execute faults world).value = .ok bookings →
      bookings = world.db.loadedAll (fun position => faults (position + 1)) (world.db.listBookings eventID) :=
  scanBookings_run _ world (faults 0) _

theorem listByUser_run (userID : ID) :
    ((BookingRepo.listByUser userID).run execute faults world).world = world ∧
    ∀ bookings, ((BookingRepo.listByUser userID).run execute faults world).value = .ok bookings →
      bookings = world.db.loadedAll (fun position => faults (position + 1)) (world.db.listBookingsByUser userID) :=
  scanBookings_run _ world (faults 0) _

theorem listTicketTypesByEvent_run (eventID : ID) (types : List TicketType)
    (ok : ((EventRepo.listTicketTypesByEvent eventID).run execute faults world).value = .ok types) :
    types = (faults 0).delivers (world.db.listTicketTypesByEvent eventID) := by
  change (Outcome.after (Program.run execute _ _ _) ⟨.listTicketTypesByEvent eventID,_⟩).value = _ at ok
  rcases reply : (execute (.listTicketTypesByEvent eventID) (faults 0) world).1 with error | rows
  · rw [reply] at ok
    cases ok
  · rw [reply] at ok
    cases ok
    exact stream_ok reply

end Loads

end Ticketbus.Ticketing
