import Ticketbus.Ticketing.BookingService
import Ticketbus.Ticketing.Loaders
import Ticketbus.Ticketing.Rollback

/-! The handlers of `payment.completed` and `payment.expired`. A handler that returns nil
has its message consumed, so the booking had better be settled by then. It is, unless the
lookup of the booking fails: `loadPendingBooking` takes every error for a missing row. -/
namespace Ticketbus.Ticketing
open Ticketbus.Concurrency Ticketbus.Relational

def Database.Closed (db : Database) (id : ID) : Prop :=
  ∀ row, db.bookings.find? id = some row → row.status ≠ .pending

namespace Database
variable {db after : Database} {id : ID}

theorem Moved.closed {row next : BookingRow} (change : db.Moved row next after) (settled : next.status ≠ .pending) :
    after.Closed row.id := by
  intro found isFound
  rw [change.found,if_pos rfl] at isFound
  cases isFound
  exact settled

theorem closed_update {status : BookingStatus} {count : Nat} (settled : status ≠ .pending)
    (ok : db.updateStatusIfPending id status = .ok (count,after)) : after.Closed id := by
  rcases updateStatusIfPending_ok ok with ⟨rfl,rfl⟩ | ⟨_,row,next,rfl,_,change,now⟩
  · intro row found pending
    -- a pending row is updated, and one row is reported
    unfold updateStatusIfPending at ok
    split at ok
    · rename_i absent
      cases absent.symm.trans found
    · rename_i stored isStored
      cases isStored.symm.trans found
      rw [if_pos pending] at ok
      cases written : after.setStatus row (Table.find?_mem isStored) status with
      | error error =>
        rw [written] at ok
        cases ok
      | ok store =>
        rw [written] at ok
        cases ok
  · exact change.closed (now ▸ settled)

theorem closed_transition {booking : Booking} {toStatus : BookingStatus} {applied : Bool}
    (pending : booking.status = .pending) (settled : toStatus ≠ .pending)
    (ok : db.transitionAndReleaseSeats booking toStatus = .ok (applied,after)) : after.Closed booking.id := by
  rcases transitionAndReleaseSeats_ok ok with ⟨_,rfl,other⟩ | ⟨_,row,next,middle,key,_,change,now,released⟩
  · intro row found
    rw [← pending]
    exact other row found
  · intro found isFound
    rw [(releaseAll_frame released).2.1] at isFound
    rw [← key] at isFound
    exact change.closed (now ▸ settled) found isFound

end Database

def Database.pendingBooking (db : Database) (faults : Nat → Fault) (id : ID) : Option Booking :=
  (db.bookings.find? id).bind fun row =>
    if lookupFails faults ∨ row.status ≠ .pending then none else some (db.loaded (faults 1) row)

theorem Database.pendingBooking_some {db : Database} {faults : Nat → Fault} {id : ID} {booking : Booking}
    (found : db.pendingBooking faults id = some booking) :
    ∃ row, db.bookings.find? id = some row ∧ row.status = .pending ∧ booking = db.loaded (faults 1) row := by
  obtain ⟨row,stored,taken⟩ := Option.bind_eq_some_iff.mp found
  split at taken
  · cases taken
  · rename_i fits
    cases taken
    exact ⟨row,stored,not_not.mp fun other => fits (.inr other),rfl⟩

theorem Database.pendingBooking_none {db : Database} {faults : Nat → Fault} {id : ID} :
    db.pendingBooking faults id = none ↔ db.Closed id ∨ lookupFails faults := by
  unfold pendingBooking Closed
  cases found : db.bookings.find? id with
  | none => simp
  | some row =>
    simp only [Option.bind_some,Option.some.injEq,forall_eq',ite_eq_left_iff]
    simp [or_comm,← imp_iff_not_or]

section Handlers
variable (bookingID paymentID : ID) (world : World)

theorem loadPendingBooking_run (faults : Nat → Fault) :
    ((BookingService.loadPendingBooking bookingID).run execute faults world).world = world ∧
    ((BookingService.loadPendingBooking bookingID).run execute faults world).value =
      .ok (world.db.pendingBooking faults bookingID) := by
  obtain ⟨kept,finds⟩ := findByID_run faults world bookingID
  change ((Program.bind (BookingRepo.findByID bookingID) _).run execute faults world).world = _ ∧
    ((Program.bind (BookingRepo.findByID bookingID) _).run execute faults world).value = _
  rw [Program.run_bind]
  generalize (BookingRepo.findByID bookingID).run execute faults world = outcome at *
  unfold Database.pendingBooking
  cases value : outcome.value with
  | error error =>
    refine ⟨kept,?_⟩
    cases stored : world.db.bookings.find? bookingID with
    | none => rfl
    | some row =>
      by_cases fails : lookupFails faults
      · simp [Outcome.append,Program.run,fails]
      · cases value.symm.trans ((finds _).mpr ⟨row,stored,fails,rfl⟩)
  | ok booking =>
    obtain ⟨row,stored,succeeds,rfl⟩ := (finds booking).mp value
    have status : (world.db.loaded (faults 1) row).status = row.status := rfl
    by_cases pending : row.status = .pending
    · simp [stored,succeeds,status,pending,Outcome.append,Program.run,kept]
    · simp [stored,status,pending,Outcome.append,Program.run,kept]

theorem handled_run {handler : Task (Except Error Unit)} {rest : Except Error (Option Booking) → Task (Except Error Unit)}
    (handles : handler = (BookingService.loadPendingBooking bookingID).bind rest) (faults : Nat → Fault) : ∃ later,
    (handler.run execute faults world).value =
      ((rest (.ok (world.db.pendingBooking faults bookingID))).run execute later world).value ∧
    (handler.run execute faults world).world =
      ((rest (.ok (world.db.pendingBooking faults bookingID))).run execute later world).world := by
  obtain ⟨kept,value⟩ := loadPendingBooking_run bookingID world faults
  rw [handles,Program.run_bind,kept,value]
  exact ⟨_,rfl,rfl⟩

def Settles (outcome : Outcome Statement Reply World (Except Error Unit)) : Prop :=
  outcome.value = .ok () → outcome.world.db.Closed bookingID

theorem transition_settles {booking : Booking} {toStatus : BookingStatus} (own : booking.id = bookingID)
    (pending : booking.status = .pending) (settled : toStatus ≠ .pending) :
    Program.Ensures execute (Settles bookingID)
      ((BookingRepo.transitionAndReleaseSeats booking toStatus).bind fun
        | .error error => .done (.error (.db error))
        | .ok _ => .done (.ok ())) world := by
  intro fault
  rcases write_cases World.put fault world (world.db.transitionAndReleaseSeats booking toStatus) with
    ⟨applied,db,_,ok,result⟩ | ⟨error,result⟩
  · rw [show execute (.transitionAndReleaseSeats booking toStatus) fault world = _ from result]
    intro _
    rw [← own]
    exact Database.closed_transition pending settled ok
  · rw [show execute (.transitionAndReleaseSeats booking toStatus) fault world = _ from result]
    exact nofun

theorem isPublished_reads (eventID : ID) : (EventStatusRepo.isPublished eventID).Ensures execute
    (fun outcome => outcome.world = world) world := by
  intro fault
  have same : (execute (.eventStatus eventID) fault world).2 = world := query_world ..
  rw [same]
  rcases (execute (.eventStatus eventID) fault world).1 with error | status
  · cases error <;> rfl
  · rfl

theorem issueTickets_keeps (booking : Booking) : (BookingService.issueTickets bookingID booking booking.items).Ensures
    execute (fun outcome => outcome.world.db = world.db) world := by
  have issues : (BookingService.issueTickets bookingID booking booking.items).Issues
      fun statement => statement.writes = false := issueTickets_issues bookingID booking booking.items fun _ _ => rfl
  have kept (statement : Statement) (fault : Fault) (later : World) (reads : statement.writes = false)
      (same : later.db = world.db) : (execute statement fault later).2.db = world.db :=
    (execute_reads fault later reads).trans same
  exact .keeps issues kept rfl

theorem update_settles (booking : Booking) :
    Program.Ensures execute (Settles bookingID)
      ((BookingRepo.updateStatusIfPending bookingID .confirmed).bind fun
        | .error error => .done (.error (.db error))
        | .ok false => .done (.ok ())
        | .ok true => (BookingService.issueTickets bookingID booking booking.items).bind fun _ => .done (.ok ()))
      world := by
  intro fault
  rcases write_cases World.put fault world (world.db.updateStatusIfPending bookingID .confirmed) with
    ⟨count,db,_,ok,result⟩ | ⟨error,result⟩
  · rw [show execute (.updateStatusIfPending bookingID .confirmed) fault world = _ from result]
    have closed : db.Closed bookingID := Database.closed_update (by simp) ok
    simp only [Except.map,Program.done_bind]
    by_cases one : count = 1
    · simp only [one,decide_true]
      refine .bind ((issueTickets_keeps bookingID {world with db := db} booking).mono fun outcome same _ => ?_)
      change outcome.world.db.Closed bookingID
      rw [same]
      exact closed
    · simp only [one,decide_false]
      exact fun _ => closed
  · rw [show execute (.updateStatusIfPending bookingID .confirmed) fault world = _ from result]
    exact nofun

theorem settles_iff {handler : Task (Except Error Unit)} {rest : Except Error (Option Booking) → Task (Except Error Unit)}
    (handles : handler = (BookingService.loadPendingBooking bookingID).bind rest) (skips : rest (.ok none) = .done (.ok ()))
    (settles : ∀ booking, booking.id = bookingID → booking.status = .pending →
      (rest (.ok (some booking))).Ensures execute (Settles bookingID) world) (faults : Nat → Fault) :
    Settles bookingID (handler.run execute faults world) ↔ world.db.Closed bookingID ∨ ¬ lookupFails faults := by
  obtain ⟨later,value,kept⟩ := handled_run bookingID world handles faults
  unfold Settles
  rw [value,kept]
  cases handed : world.db.pendingBooking faults bookingID with
  | none =>
    rw [skips]
    have either := Database.pendingBooking_none.mp handed
    change (Except.ok () = Except.ok () → world.db.Closed bookingID) ↔ _
    tauto
  | some booking =>
    obtain ⟨row,stored,pending,rfl⟩ := Database.pendingBooking_some handed
    have reads : ¬ (world.db.Closed bookingID ∨ lookupFails faults) := by
      rw [← Database.pendingBooking_none,handed]
      simp
    refine iff_of_true ?_ (.inr fun fails => reads (.inr fails))
    have own : row.id = bookingID := Table.find?_key stored
    exact (settles _ own pending).run later

theorem releaseReservation_settles {status : BookingStatus} (settled : status ≠ .pending) (faults : Nat → Fault) :
    Settles bookingID ((BookingService.releaseReservation bookingID status).run execute faults world) ↔
      world.db.Closed bookingID ∨ ¬ lookupFails faults :=
  settles_iff bookingID world rfl rfl (fun _ own pending => transition_settles bookingID world own pending settled) faults

theorem confirm_settles (faults : Nat → Fault) :
    Settles bookingID ((BookingService.confirm bookingID paymentID).run execute faults world) ↔
      world.db.Closed bookingID ∨ ¬ lookupFails faults := by
  refine settles_iff bookingID world rfl rfl (fun booking own pending => ?_) faults
  refine .bind ((isPublished_reads world booking.eventID).mono fun published same => ?_)
  rw [same]
  rcases published.value with error | _ | _
  · exact nofun
  · exact (transition_settles bookingID world own pending (by simp)).mono fun _ settles => settles
  · exact (update_settles bookingID world booking).mono fun _ settles => settles

/-- The same stock with a pending booking of two tickets. -/
def booked : World :=
  {stocked with
    db := onHold.addItem ⟨4,3,1,2,10,by decide,by decide⟩ rfl rfl
    nextID := 5}

/-- Whenever a handler returns nil its booking does not exist or is settled, if and only if
that was so before the call or neither SELECT of the lookup fails. -/
theorem settled_when_nil (faults : Nat → Fault) (handler : Task (Except Error Unit))
    (handles : handler = BookingService.confirm bookingID paymentID ∨
      handler = BookingService.expireOnPaymentExpired bookingID) :
    ((handler.run execute faults world).value = .ok () →
      ∀ row, (handler.run execute faults world).world.db.bookings.find? bookingID = some row → row.status ≠ .pending) ↔
    (∀ row, world.db.bookings.find? bookingID = some row → row.status ≠ .pending) ∨ ¬ lookupFails faults := by
  rcases handles with rfl | rfl
  · exact confirm_settles bookingID paymentID world faults
  · exact releaseReservation_settles bookingID world (by simp) faults

theorem settled_when_nil_confirmed :
    ((BookingService.confirm 3 9).run execute (fun _ => .none) booked).value = .ok () ∧
    (((BookingService.confirm 3 9).run execute (fun _ => .none) booked).world.db.bookings.find? 3).isSome ∧
    ∀ row, ((BookingService.confirm 3 9).run execute (fun _ => .none) booked).world.db.bookings.find? 3 = some row →
      row.status ≠ .pending := by
  have settled := settled_when_nil 3 9 booked (fun _ => .none) _ (.inl rfl)
  exact ⟨by decide +kernel,by decide +kernel,settled.mpr (.inr (by decide)) (by decide +kernel)⟩

/-- The lookup fails, and both handlers return nil with the booking still pending. -/
theorem unsettled_after_nil :
    ((BookingService.confirm 3 9).run execute (fun _ => .fail) booked).value = .ok () ∧
    (((BookingService.confirm 3 9).run execute (fun _ => .fail) booked).world.db.bookings.find? 3).map
      BookingRow.status = some .pending ∧
    ((BookingService.expireOnPaymentExpired 3).run execute (fun _ => .fail) booked).value = .ok () ∧
    (((BookingService.expireOnPaymentExpired 3).run execute (fun _ => .fail) booked).world.db.bookings.find? 3).map
      BookingRow.status = some .pending := by
  decide +kernel

end Handlers

end Ticketbus.Ticketing
