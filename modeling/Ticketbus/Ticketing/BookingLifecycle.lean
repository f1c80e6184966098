import Ticketbus.Ticketing.Seats

/-! The states of a booking. Its status only moves forward, and the transaction
that takes it out of the live statuses is the one that gives its seats back, so
the seats of a booking are released once or not at all. -/
namespace Ticketbus.Ticketing
open Ticketbus.Concurrency Ticketbus.Relational

def BookingStatus.Moves : BookingStatus → BookingStatus → Prop
  | .pending,.confirmed | .pending,.expired | .pending,.cancelled | .confirmed,.cancelled => True
  | _,_ => False

theorem BookingStatus.Reaches.moves {status next : BookingStatus} (reaches : status.Reaches next) :
    next = status ∨ status.Moves next := by
  cases status <;> cases next <;> simp_all [BookingStatus.Reaches,BookingStatus.Moves]

def releasesSeats (id : ID) : Concurrency.Event Statement Reply → Bool
  | ⟨_,.transitionAndReleaseSeats booking _,.ok true⟩ => booking.id = id
  | _ => false

/-- How often `TransitionAndReleaseSeats` has been committed for a booking. -/
def releases (history : List (Concurrency.Event Statement Reply)) (id : ID) : Nat :=
  history.countP (releasesSeats id)

def due (db : Database) (id : ID) : Nat :=
  match db.bookings.find? id with
  | some row => if row.status.live then 0 else 1
  | none => 0

def Settled (state : View) : Prop := ∀ id, releases state.history id = due state.world.db id

theorem releases_other (thread : Nat) (statement : Statement) (reply : Reply statement)
    (history : List (Concurrency.Event Statement Reply)) (id : ID)
    (other : ∀ booking toStatus, statement ≠ .transitionAndReleaseSeats booking toStatus) :
    releases (⟨thread,statement,reply⟩ :: history) id = releases history id := by
  unfold releases
  apply List.countP_cons_of_neg
  cases statement with
  | transitionAndReleaseSeats booking toStatus => exact absurd rfl (other booking toStatus)
  | _ => exact Bool.false_ne_true

theorem releases_retired (thread : Nat) (booking : Booking) (toStatus : BookingStatus)
    (history : List (Concurrency.Event Statement Reply)) (id : ID) :
    releases (⟨thread,.transitionAndReleaseSeats booking toStatus,.ok true⟩ :: history) id =
      releases history id + if booking.id = id then 1 else 0 := by
  unfold releases
  rw [List.countP_cons]
  simp [releasesSeats]

theorem due_moved {db after : Database} {row next : BookingRow} (change : db.Moved row next after) (id : ID) :
    due after id = if row.id = id then (if next.status.live then 0 else 1) else due db id := by
  unfold due
  rw [change.found]
  by_cases same : row.id = id
  · rw [if_pos same,if_pos same]
  · rw [if_neg same,if_neg same]

theorem due_bookings {db after : Database} (same : after.bookings = db.bookings) (id : ID) :
    due after id = due db id := by
  unfold due
  rw [same]

theorem due_live {db : Database} {row : BookingRow} (found : db.bookings.find? row.id = some row)
    (live : row.status.live = true) : due db row.id = 0 := by
  simp [due,found,live]

theorem due_created {db after : Database} {booking : Booking} {row : BookingRow}
    {rows : List BookingItemRow} (created : db.Created booking row rows after)
    (pending : booking.status = .pending) (id : ID) : due after id = due db id := by
  unfold due
  rw [created.found]
  by_cases same : booking.id = id
  · have live : row.status.live = true := by
      rw [created.status,pending]
      rfl
    rw [if_pos same,← same,created.fresh]
    exact if_pos live
  · rw [if_neg same]

theorem Settled.step {whole : Bool} {reservationTTL index : Nat} {call : Call} {state : View}
    {statement : Statement} {fault : Fault} (settled : Settled state)
    (furnished : Furnished state.world.db) (justified : Justified whole call state.world.db statement) :
    Settled (state.after (service reservationTTL) index statement fault) := by
  intro id
  rw [State.after_history,State.after_world]
  by_cases still : statement.movesBookings = false
  · rw [releases_other _ _ _ _ _ (by rintro booking toStatus rfl; cases still),settled id]
    exact (due_bookings ((execute_untouched statement fault state.world).bookings still) id).symm
  cases statement with
  | create booking =>
    rw [releases_other _ _ _ _ _ (by simp),settled id]
    refine write_part World.db (fun db => due state.world.db id = due db id) rfl fun value after ok => ?_
    obtain ⟨pending,_,own⟩ := justified
    obtain ⟨row,rows,created⟩ := Database.create_created own ok
    exact (due_created created pending id).symm
  | updateStatusIfPending bookingID status =>
    rw [releases_other _ _ _ _ _ (by simp),settled id]
    refine write_part World.db (fun db => due state.world.db id = due db id) rfl fun value after ok => ?_
    rcases Database.updateStatusIfPending_ok ok with ⟨_,rfl⟩ | ⟨_,row,next,_,pending,change,moved⟩
    · rfl
    · rw [due_moved change]
      split
      · rename_i same
        rw [← same,due_live change.1 (by rw [pending]; rfl),moved,justified.1]
        rfl
      · rfl
  | delete bookingID =>
    rw [releases_other _ _ _ _ _ (by simp),settled id]
    refine write_part World.db (fun db => due state.world.db id = due db id) rfl fun value after ok => ?_
    rcases Database.delete_ok ok with rfl | ⟨row,unused,found,_⟩
    · rfl
    · exact absurd unused (furnished.has_items found)
  | transitionAndReleaseSeats booking toStatus =>
    have retires := justified.retires
    rcases write_cases World.put fault state.world (state.world.db.transitionAndReleaseSeats booking toStatus) with
      ⟨applied,after,_,ok,result⟩ | ⟨error,result⟩
    · rw [show (service reservationTTL).execute (.transitionAndReleaseSeats booking toStatus) fault
        state.world = _ from result]
      rcases Database.transitionAndReleaseSeats_ok ok with
        ⟨rfl,rfl,_⟩ | ⟨rfl,row,next,middle,key,same,change,status,released⟩
      · exact settled id
      -- an applied transition retires a live booking, and is counted as its one release
      · have before : row.status.live = true := by
          rw [same]
          exact retires.1
        have later : next.status.live = false := by
          rw [status]
          exact retires.2
        rw [due_bookings (Database.releaseAll_frame released).2.1,due_moved change,releases_retired,settled id,
          ← key]
        by_cases this : row.id = id
        · rw [if_pos this,if_pos this,later,← this,due_live change.1 before]
          rfl
        · rw [if_neg this,if_neg this]
          rfl
    · rw [show (service reservationTTL).execute (.transitionAndReleaseSeats booking toStatus) fault
        state.world = _ from result]
      exact settled id
  | _ => exact absurd rfl still

namespace Database

theorem releaseAll_scanned {db after : Database} {rows : List BookingItemRow} {id : ID} {row : TicketTypeRow}
    (found : db.ticketTypes.find? id = some row)
    (ok : db.releaseAll (rows.map BookingRepo.scanItem) = .ok after) :
    ∃ next, after.ticketTypes.find? id = some next ∧ next.quantity = row.quantity ∧
      next.availableSeat = min row.quantity (row.availableSeat + demand id rows) := by
  induction rows generalizing db row with
  | nil =>
    cases ok
    exact ⟨row,found,rfl,by simp [demand,row.seat_check.2]⟩
  | cons item rest ih =>
    obtain ⟨count,middle,released,remaining⟩ := releaseAll_cons ok
    have nonneg := demand_nonneg id rest
    have positive := item.quantity_check.1
    rw [demand_cons]
    rcases releaseSeats_ok released with ⟨_,absent,rfl⟩ | ⟨_,old,now,key,change,seat⟩
    · have distinct : item.ticketTypeID ≠ id := by
        rintro rfl
        cases absent.symm.trans found
      rw [if_neg distinct,zero_add]
      exact ih found remaining
    · change old.id = item.ticketTypeID at key
      change now.availableSeat = min old.quantity (old.availableSeat + item.quantity) at seat
      by_cases same : item.ticketTypeID = id
      · -- the cap at each item amounts to one cap at the end, as no item takes seats away
        have this : old = row := by
          have present := change.1
          rw [key,same,found] at present
          exact (Option.some.inj present).symm
        subst this
        obtain ⟨next,stays,quantity,total⟩ := ih (by rw [← same,← key]; exact change.found) remaining
        have kept := change.2.2.2.1
        refine ⟨next,stays,quantity.trans kept,?_⟩
        rw [total,if_pos same,seat,kept]
        omega
      · rw [if_neg same,zero_add]
        exact ih (by rw [change.others (key ▸ same)]; exact found) remaining

end Database

/-- The condition that item reads return all rows of a booking. -/
def wholeReads (_ : Pool) (_ : Nat) : Statement → Fault → Bool := unbroken true

theorem reads_whole : Reads true (Stepwise wholeReads) := by
  intro config index fault call statement next permitted found
  exact permitted.meets found

theorem settled_of_run {reservationTTL : Nat} {guard : Pool → Step → Prop} {config : Pool}
    (run : Run (service reservationTTL) guard (.idle .initial) config) : Settled config.state := by
  refine run.state_invariant Settled (fun id => rfl) ?_
  intro config index fault call statement next before settled _ found
  exact settled.step (furnished_of_run furnished_initial before)
    (justified_of_run (Reads.any guard) furnished_initial before found)

theorem release_complete {reservationTTL : Nat} {config after : Pool} {action : Step}
    (run : Run (service reservationTTL) (Stepwise wholeReads) (.idle .initial) config)
    (taken : config.next (service reservationTTL) action = some after) {index : Nat} {booking : Booking}
    {toStatus : BookingStatus} (committed : after.state.history =
      ⟨index,.transitionAndReleaseSeats booking toStatus,.ok true⟩ :: config.state.history)
    {id : ID} {row : TicketTypeRow} (found : config.state.world.db.ticketTypes.find? id = some row) :
    ∃ next, after.state.world.db.ticketTypes.find? id = some next ∧
      next.availableSeat =
        min row.quantity (row.availableSeat + demand id (config.state.world.db.itemsOf booking.id)) := by
  obtain ⟨fault,call,next,rfl,issued,executed⟩ := Config.next_event _ _ _ _ taken _ _ _ committed
  obtain ⟨⟨_,_,_,_,_,_,all⟩,_⟩ := justified_of_run reads_whole furnished_initial run issued
  rcases write_cases World.put fault config.state.world
      (config.state.world.db.transitionAndReleaseSeats booking toStatus) with
    ⟨applied,store,_,ok,result⟩ | ⟨error,result⟩
  · obtain ⟨same,world⟩ := Prod.mk.inj (executed.symm.trans result)
    cases same
    rw [world]
    rcases Database.transitionAndReleaseSeats_ok ok with
      ⟨never,_⟩ | ⟨_,old,moved,middle,_,_,change,_,released⟩
    · cases never
    · rw [all rfl] at released
      have unmoved : middle.ticketTypes = config.state.world.db.ticketTypes := by
        obtain ⟨_,_,_,_,_,rfl⟩ := change
        rfl
      obtain ⟨last,stays,_,seat⟩ := Database.releaseAll_scanned (unmoved ▸ found) released
      exact ⟨last,stays,seat⟩
  · cases (Prod.mk.inj (executed.symm.trans result)).1

/-- In every state of every run with whole item reads, a booking's seats have been
released exactly once if it is expired or cancelled and never otherwise; and every
further step moves statuses along the diagram only, and gives back all the seats
of a booking when it gives back any. -/
theorem booking_lifecycle (reservationTTL : Nat) (config : Pool)
    (run : Run (service reservationTTL) (Stepwise wholeReads) (.idle .initial) config) :
    (∀ row ∈ config.state.world.db.bookings.rows, releases config.state.history row.id =
      if row.status = .expired ∨ row.status = .cancelled then 1 else 0) ∧
    ∀ action after, Stepwise wholeReads config action →
      config.next (service reservationTTL) action = some after →
      (∀ row ∈ config.state.world.db.bookings.rows, ∃ next ∈ after.state.world.db.bookings.rows,
        next.id = row.id ∧ (next.status = row.status ∨ row.status.Moves next.status)) ∧
      ∀ index booking toStatus, after.state.history =
          ⟨index,.transitionAndReleaseSeats booking toStatus,.ok true⟩ :: config.state.history →
        ∀ row ∈ config.state.world.db.ticketTypes.rows, ∃ next ∈ after.state.world.db.ticketTypes.rows,
          next.id = row.id ∧ next.availableSeat = min row.quantity
            (row.availableSeat + demand row.id (config.state.world.db.itemsOf booking.id)) := by
  refine ⟨?_,fun action after _ taken => ⟨?_,?_⟩⟩
  · intro row member
    rw [settled_of_run run row.id,due,Table.find?_of_mem member]
    cases status : row.status <;> simp [status,BookingStatus.live]
  · intro row member
    have persists := persists_of_next furnished_initial run taken
    obtain ⟨next,found,_,_,reaches⟩ := persists.bookings _ _ (Table.find?_of_mem member)
    exact ⟨next,Table.find?_mem found,Table.find?_key found,reaches.moves⟩
  · intro index booking toStatus committed row member
    obtain ⟨next,found,seat⟩ := release_complete run taken committed (Table.find?_of_mem member)
    exact ⟨next,Table.find?_mem found,Table.find?_key found,seat⟩

theorem booking_lifecycle_expired : ∃ config : Pool,
    Run (service 900) (Stepwise wholeReads) (.idle .initial) config ∧
    (config.state.world.db.bookings.rows.map BookingRow.status = [.expired]) ∧
    ∀ row ∈ config.state.world.db.bookings.rows, releases config.state.history row.id =
      if row.status = .expired ∨ row.status = .cancelled then 1 else 0 := by
  obtain ⟨config,run,expired⟩ := exists_run_of_replay (service 900) (Stepwise wholeReads)
    (reservation ++ .start (.expireOnPaymentExpired 2) :: undisturbed 3 3) (.idle .initial)
    (fun config => config.state.world.db.bookings.rows.map BookingRow.status = [.expired])
    (by decide +kernel)
  exact ⟨config,run,of_decide_eq_true expired,(booking_lifecycle 900 config run).1⟩

end Ticketbus.Ticketing
