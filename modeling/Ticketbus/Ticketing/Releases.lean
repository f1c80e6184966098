import Ticketbus.Ticketing.BookingLifecycle
import Ticketbus.Ticketing.SettledMessages

/-! What an expiry or a cancellation gives back when nothing else is running: the seats of
all the items that are stored for its bookings, where no stream of items breaks off before its end. -/
namespace Ticketbus.Ticketing
open Ticketbus.Concurrency Ticketbus.Relational

namespace Database
variable {db middle after : Database}

/-- The seats of the items are back on the counters, on each up to its quantity. -/
def Freed (db after : Database) (rows : List BookingItemRow) : Prop :=
  ∀ id row, db.ticketTypes.find? id = some row → ∃ next, after.ticketTypes.find? id = some next ∧
    next.quantity = row.quantity ∧ next.availableSeat = min row.quantity (row.availableSeat + demand id rows)

theorem Freed.refl (db : Database) : db.Freed db [] := by
  intro id row found
  exact ⟨row,found,rfl,by simp [demand,row.seat_check.2]⟩

theorem Freed.trans {rows more : List BookingItemRow} (first : db.Freed middle rows) (second : middle.Freed after more) :
    db.Freed after (rows ++ more) := by
  intro id row found
  obtain ⟨next,isNext,quantity,seat⟩ := first id row found
  obtain ⟨last,isLast,kept,total⟩ := second id next isNext
  refine ⟨last,isLast,kept.trans quantity,?_⟩
  -- a cap after each of two gains is one cap after both
  have gains := demand_nonneg id more
  rw [total,quantity,seat,demand_append]
  omega

theorem freed_transition {row : BookingRow} {toStatus : BookingStatus} {applied : Bool}
    (stored : row ∈ db.bookings.rows)
    (ok : db.transitionAndReleaseSeats (db.bookingOf row) toStatus = .ok (applied,after)) :
    db.Freed after (db.itemsOf row.id) ∧ after.items = db.items ∧
      ∀ id, id ≠ row.id → after.bookings.find? id = db.bookings.find? id := by
  rcases transitionAndReleaseSeats_ok ok with ⟨_,_,other⟩ | ⟨_,old,next,moved,key,_,change,_,released⟩
  · exact absurd rfl (other row (Table.find?_of_mem stored))
  have frame := releaseAll_frame released
  have same : moved.ticketTypes = db.ticketTypes ∧ moved.items = db.items := by
    obtain ⟨_,_,_,_,_,rfl⟩ := change
    exact ⟨rfl,rfl⟩
  refine ⟨fun id type found => ?_,frame.2.2.trans same.2,fun id distinct => ?_⟩
  · exact releaseAll_scanned (same.1 ▸ found) released
  · rw [frame.2.1,change.found]
    exact if_neg fun equal => distinct (equal.symm.trans key)

end Database

section Handlers
variable (bookingID paymentID : ID) (world : World)

def Frees (whole : Prop) (outcome : Outcome Statement Reply World (Except Error Unit)) : Prop :=
  whole → ∀ row next, world.db.bookings.find? bookingID = some row →
    outcome.world.db.bookings.find? bookingID = some next → row.status.live = true → next.status.live = false →
    world.db.Freed outcome.world.db (world.db.itemsOf bookingID)

variable {bookingID world} in
theorem Frees.of_live {whole : Prop} {outcome : Outcome Statement Reply World (Except Error Unit)}
    (live : ∀ row next, world.db.bookings.find? bookingID = some row →
      outcome.world.db.bookings.find? bookingID = some next → row.status.live = true → next.status.live = true) :
    Frees bookingID world whole outcome := by
  intro _ row next found isNext before after
  rw [live row next found isNext before] at after
  cases after

variable {bookingID world} in
theorem Frees.of_same {whole : Prop} {outcome : Outcome Statement Reply World (Except Error Unit)}
    (same : outcome.world = world) : Frees bookingID world whole outcome := by
  refine .of_live fun row next found isNext live => ?_
  rw [same] at isNext
  cases found.symm.trans isNext
  exact live

theorem transition_frees {row : BookingRow} {fault : Fault} {toStatus : BookingStatus}
    (stored : world.db.bookings.find? bookingID = some row) :
    Program.Ensures execute (Frees bookingID world (¬ fault.Cuts (world.db.itemsOf bookingID)))
      ((BookingRepo.transitionAndReleaseSeats (world.db.loaded fault row) toStatus).bind fun
        | .error error => .done (.error (.db error))
        | .ok _ => .done (.ok ())) world := by
  have key : row.id = bookingID := Table.find?_key stored
  intro written
  rcases write_cases World.put written world (world.db.transitionAndReleaseSeats (world.db.loaded fault row) toStatus) with
    ⟨applied,db,_,ok,result⟩ | ⟨error,result⟩
  · rw [show execute (.transitionAndReleaseSeats _ toStatus) written world = _ from result]
    intro whole _ _ _ _ _ _
    rw [← key] at whole ⊢
    rw [(Database.loaded_eq_iff fault row).mpr whole] at ok
    exact (Database.freed_transition (Table.find?_mem stored) ok).1
  · rw [show execute (.transitionAndReleaseSeats _ toStatus) written world = _ from result]
    exact Frees.of_same rfl

theorem frees_of_handled {handler : Task (Except Error Unit)}
    {rest : Except Error (Option Booking) → Task (Except Error Unit)}
    (handles : handler = (BookingService.loadPendingBooking bookingID).bind rest) (skips : rest (.ok none) = .done (.ok ()))
    (faults : Nat → Fault) (frees : ∀ row, world.db.bookings.find? bookingID = some row →
      (rest (.ok (some (world.db.loaded (faults 1) row)))).Ensures execute
        (Frees bookingID world (¬ (faults 1).Cuts (world.db.itemsOf bookingID))) world) :
    Frees bookingID world (¬ (faults 1).Cuts (world.db.itemsOf bookingID)) (handler.run execute faults world) := by
  obtain ⟨later,_,kept⟩ := handled_run bookingID world handles faults
  unfold Frees
  rw [kept]
  cases handed : world.db.pendingBooking faults bookingID with
  | none =>
    rw [skips]
    exact Frees.of_same rfl
  | some booking =>
    obtain ⟨row,stored,_,rfl⟩ := Database.pendingBooking_some handed
    exact (frees row stored).run later

theorem releaseReservation_frees (status : BookingStatus) (faults : Nat → Fault) :
    Frees bookingID world (¬ (faults 1).Cuts (world.db.itemsOf bookingID))
      ((BookingService.releaseReservation bookingID status).run execute faults world) :=
  frees_of_handled bookingID world rfl rfl faults fun _ stored => transition_frees bookingID world stored

theorem update_frees {whole : Prop} (booking : Booking) :
    Program.Ensures execute (Frees bookingID world whole)
      ((BookingRepo.updateStatusIfPending bookingID .confirmed).bind fun
        | .error error => .done (.error (.db error))
        | .ok false => .done (.ok ())
        | .ok true => (BookingService.issueTickets bookingID booking booking.items).bind fun _ => .done (.ok ()))
      world := by
  intro fault
  rcases write_cases World.put fault world (world.db.updateStatusIfPending bookingID .confirmed) with
    ⟨count,db,_,ok,result⟩ | ⟨error,result⟩
  · rw [show execute (.updateStatusIfPending bookingID .confirmed) fault world = _ from result]
    have live (row next : BookingRow) (found : world.db.bookings.find? bookingID = some row)
        (isNext : db.bookings.find? bookingID = some next) (before : row.status.live = true) :
        next.status.live = true := by
      rcases Database.updateStatusIfPending_ok ok with ⟨_,rfl⟩ | ⟨_,old,new,key,_,change,now⟩
      · cases found.symm.trans isNext
        exact before
      · rw [change.found,if_pos key] at isNext
        cases isNext
        rw [now]
        rfl
    simp only [Except.map,Program.done_bind]
    by_cases one : count = 1
    · simp only [one,decide_true]
      refine .bind ((issueTickets_keeps bookingID {world with db := db} booking).mono fun outcome same => ?_)
      refine Frees.of_live fun row next found isNext before => live row next found ?_ before
      rw [← isNext]
      exact congrArg (fun db => db.bookings.find? bookingID) same.symm
    · simp only [one,decide_false]
      exact Frees.of_live live
  · rw [show execute (.updateStatusIfPending bookingID .confirmed) fault world = _ from result]
    exact Frees.of_same rfl

theorem confirm_frees (faults : Nat → Fault) :
    Frees bookingID world (¬ (faults 1).Cuts (world.db.itemsOf bookingID))
      ((BookingService.confirm bookingID paymentID).run execute faults world) := by
  refine frees_of_handled bookingID world rfl rfl faults fun row stored => ?_
  refine .bind ((isPublished_reads world row.eventID).mono fun published same => ?_)
  rw [same]
  rcases published.value with error | _ | _
  · exact Frees.of_same rfl
  · exact (transition_frees bookingID world stored).mono fun _ frees => frees
  · exact (update_frees bookingID world (world.db.loaded (faults 1) row)).mono fun _ frees => frees

end Handlers

theorem cancelAll_frees (rows : List BookingRow) (world : World)
    (stored : ∀ row ∈ rows, row ∈ world.db.bookings.rows) (distinct : (rows.map BookingRow.id).Nodup) :
    (BookingService.cancelAll (rows.map world.db.bookingOf)).Ensures execute (fun outcome => outcome.value = .ok () →
      world.db.Freed outcome.world.db ((rows.filter fun row => row.status.live).flatMap fun row =>
        world.db.itemsOf row.id)) world := by
  induction rows generalizing world with
  | nil => exact fun _ => .refl world.db
  | cons row rest ih =>
    obtain ⟨present,others⟩ := List.forall_mem_cons.mp stored
    obtain ⟨outside,unique⟩ := List.nodup_cons.mp distinct
    rw [List.map_cons,BookingService.cancelAll]
    have status : (world.db.bookingOf row).status = row.status := rfl
    rw [status]
    split
    · rename_i retired
      have dead : row.status.live = false := by
        cases same : row.status <;> simp [same,BookingStatus.live] at retired ⊢
      rw [List.filter_cons,dead]
      exact ih world others unique
    · rename_i live
      have alive : row.status.live = true := by
        cases same : row.status <;> simp [same,BookingStatus.live] at live ⊢
      intro fault
      rcases write_cases World.put fault world (world.db.transitionAndReleaseSeats (world.db.bookingOf row) .cancelled) with
        ⟨applied,db,_,ok,result⟩ | ⟨error,result⟩
      · rw [show execute (.transitionAndReleaseSeats (world.db.bookingOf row) .cancelled) fault world = _ from result]
        obtain ⟨freed,items,kept⟩ := Database.freed_transition present ok
        have same (id : ID) : db.itemsOf id = world.db.itemsOf id := by
          rw [Database.itemsOf,items]
          rfl
        -- the other bookings were loaded before this release, which has left their rows and items alone
        have loaded : rest.map world.db.bookingOf = rest.map db.bookingOf := by
          apply List.map_congr_left
          intro other _
          rw [Database.bookingOf,Database.bookingOf,same]
        have still : ∀ other ∈ rest, other ∈ db.bookings.rows := by
          intro other member
          have distinct : other.id ≠ row.id := fun equal => outside (List.mem_map.mpr ⟨other,member,equal⟩)
          have found : db.bookings.find? other.id = some other := by
            rw [kept _ distinct]
            exact Table.find?_of_mem (others other member)
          exact Table.find?_mem found
        rw [List.filter_cons,alive,loaded]
        refine (ih {world with db := db} still unique).mono fun outcome freedRest value => ?_
        have all : world.db.Freed outcome.world.db (world.db.itemsOf row.id ++
            (rest.filter fun row => row.status.live).flatMap fun row => db.itemsOf row.id) :=
          freed.trans (freedRest value)
        rw [if_pos rfl,List.flatMap_cons]
        simp only [same] at all
        exact all
      · rw [show execute (.transitionAndReleaseSeats (world.db.bookingOf row) .cancelled) fault world = _ from result]
        intro failed
        cases failed

theorem cancelBookings_frees (eventID : ID) (world : World) (faults : Nat → Fault)
    (whole : world.db.Streamed (fun position => faults (position + 1)) (world.db.listBookings eventID))
    (nil : ((BookingService.cancelBookings eventID).run execute faults world).value = .ok ()) :
    world.db.Freed ((BookingService.cancelBookings eventID).run execute faults world).world.db
      (((world.db.listBookings eventID).filter fun row => row.status.live).flatMap fun row =>
        world.db.itemsOf row.id) := by
  obtain ⟨kept,listed⟩ := listByEventID_run faults world eventID
  change ((Program.bind (BookingRepo.listByEventID eventID) _).run execute faults world).value = _ at nil
  change world.db.Freed ((Program.bind (BookingRepo.listByEventID eventID) _).run execute faults world).world.db _
  rw [Program.run_bind] at nil ⊢
  generalize (BookingRepo.listByEventID eventID).run execute faults world = outcome at *
  cases value : outcome.value with
  | error error =>
    rw [value] at nil
    cases nil
  | ok bookings =>
    have all : bookings = (world.db.listBookings eventID).map world.db.bookingOf := by
      rw [listed bookings value,Database.loadedAll_eq_iff]
      exact whole
    rw [value,all,kept] at nil
    rw [all,kept]
    exact (cancelAll_frees _ world (fun _ => Database.listBookings_stored)
      (world.db.listBookings_distinct eventID)).run _ nil

end Ticketbus.Ticketing
