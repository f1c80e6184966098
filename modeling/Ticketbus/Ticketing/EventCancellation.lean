import Ticketbus.Ticketing.EventLifecycle

/-! Confirmation against cancellation. `Confirm` looks at the event's status and
updates the booking in two statements; `CancelBookings` works through a list it
has read. Where no confirmation stands between its two statements at the moment
a cancelled event's bookings are listed, a finished `CancelBookings` leaves no
confirmed booking behind and none appears later. -/
namespace Ticketbus.Ticketing
open Ticketbus.Concurrency Ticketbus.Relational

def Database.ConfirmedFor (db : Database) (eventID id : ID) : Prop :=
  ∃ row, db.bookings.find? id = some row ∧ row.eventID = eventID ∧ row.status = .confirmed

/-- What a call holds of an event: a confirmation that has found it published, or a
cancellation with the bookings it still has to visit. -/
inductive Hold where
  | confirming
  | cancelling (left : List ID)

abbrev Holdings := Multiset Hold

def Sealed (eventID : ID) (state : View) (held : Holdings) : Prop :=
  ∀ left, .cancelling left ∈ held → state.world.db.statusOf eventID = some .cancelled ∧
    .confirming ∉ held ∧ ∀ id, state.world.db.ConfirmedFor eventID id → id ∈ left

theorem Sealed.step {eventID : ID} {before after : View} {total kept : Holdings}
    (sealed : Sealed eventID before total)
    (final : before.world.db.statusOf eventID = some .cancelled →
      after.world.db.statusOf eventID = some .cancelled)
    (confirmed : ∀ id, after.world.db.ConfirmedFor eventID id → before.world.db.ConfirmedFor eventID id)
    (less : kept ≤ total) : Sealed eventID after kept := by
  intro left member
  obtain ⟨cancelled,nobody,visited⟩ := sealed left (Multiset.mem_of_le less member)
  refine ⟨final cancelled,fun confirming => nobody (Multiset.mem_of_le less confirming),?_⟩
  exact fun id still => visited id (confirmed id still)

theorem Sealed.visiting {eventID : ID} {state : View} {own frame : Holdings} {left : List ID}
    (sealed : Sealed eventID state (own + frame)) (cancelled : state.world.db.statusOf eventID = some .cancelled)
    (nobody : .confirming ∉ frame) (confirmed : ∀ id, state.world.db.ConfirmedFor eventID id → id ∈ left) :
    Sealed eventID state ({.cancelling left} + frame) := by
  intro other member
  refine ⟨cancelled,by simpa using nobody,?_⟩
  rcases Multiset.mem_add.mp member with own | framed
  · cases Multiset.mem_singleton.mp own
    exact confirmed
  · exact (sealed other (Multiset.mem_add.mpr (.inr framed))).2.2

/-! What single statements do to the confirmed bookings. -/

theorem confirmedFor_kept {call : Call} {statement : Statement} {fault : Fault} {world : World}
    {eventID id : ID} (furnished : Furnished world.db) (justified : Justified false call world.db statement)
    (other : ∀ id status, statement ≠ .updateStatusIfPending id status)
    (confirmed : (execute statement fault world).2.db.ConfirmedFor eventID id) :
    world.db.ConfirmedFor eventID id := by
  have effect := execute_effect statement fault world
  generalize (execute statement fault world).2.db = after at effect confirmed
  cases effect with
  | same | addEvent _ _ | setEvent _ _ _ _ | addTicketType _ _ _ _ => exact confirmed
  | reseat _ change =>
    obtain ⟨_,_,_,_,_,rfl⟩ := change
    exact confirmed
  | create ok =>
    obtain ⟨row,found,event,isConfirmed⟩ := confirmed
    obtain ⟨created,rows,made⟩ := Database.create_created justified.2.2 ok
    rw [made.found] at found
    split at found
    · cases found
      rw [made.status,justified.1] at isConfirmed
      cases isConfirmed
    · exact ⟨row,found,event,isConfirmed⟩
  | confirm _ _ _ => exact absurd rfl (other _ _)
  | retire _ _ moved status released =>
    obtain ⟨found,isFound,event,isConfirmed⟩ := confirmed
    rw [(Database.releaseAll_frame released).2.1,moved.found] at isFound
    split at isFound
    · cases isFound
      rw [status] at isConfirmed
      rcases justified.2.1 with ⟨_,rfl,_⟩ | ⟨_,rfl⟩ <;> cases isConfirmed
    · exact ⟨found,isFound,event,isConfirmed⟩
  | delete found => exact absurd ‹_› (furnished.has_items found)

theorem confirmedFor_confirm {bookingID id eventID : ID} {status : BookingStatus} {fault : Fault}
    {world : World}
    (confirmed : (execute (.updateStatusIfPending bookingID status) fault world).2.db.ConfirmedFor eventID id) :
    world.db.ConfirmedFor eventID id ∨
      ∃ row, world.db.bookings.find? bookingID = some row ∧ row.eventID = eventID := by
  revert confirmed
  refine write_part World.db (fun db => db.ConfirmedFor eventID id → world.db.ConfirmedFor eventID id ∨
    ∃ row, world.db.bookings.find? bookingID = some row ∧ row.eventID = eventID) .inl fun value after ok => ?_
  rcases Database.updateStatusIfPending_ok ok with ⟨_,rfl⟩ | ⟨_,row,next,key,_,moved,_⟩
  · exact .inl
  · rintro ⟨found,isFound,event,confirmed⟩
    rw [moved.found] at isFound
    split at isFound
    · cases isFound
      exact .inr ⟨row,key ▸ moved.1,moved.2.2.2.1.symm.trans event⟩
    · exact .inl ⟨found,isFound,event,confirmed⟩

theorem confirmedFor_transition (eventID : ID) {booking : Booking} {toStatus : BookingStatus} {fault : Fault}
    {world : World} {applied : Bool} (wasConfirmed : booking.status = .confirmed)
    (leaves : toStatus ≠ .confirmed)
    (ok : (execute (.transitionAndReleaseSeats booking toStatus) fault world).1 = .ok applied) :
    ¬(execute (.transitionAndReleaseSeats booking toStatus) fault world).2.db.ConfirmedFor eventID booking.id := by
  have executed (reply : Except DbError Bool × World)
      (same : write World.put fault world (world.db.transitionAndReleaseSeats booking toStatus) = reply) :
      execute (.transitionAndReleaseSeats booking toStatus) fault world = reply := same
  rintro ⟨found,isFound,_,confirmed⟩
  rcases write_cases World.put fault world (world.db.transitionAndReleaseSeats booking toStatus) with
    ⟨value,after,_,committed,result⟩ | ⟨error,result⟩
  · rw [executed _ result] at isFound
    rcases Database.transitionAndReleaseSeats_ok committed with
      ⟨_,rfl,refused⟩ | ⟨_,row,next,middle,key,_,moved,status,released⟩
    · exact refused found isFound (confirmed.trans wasConfirmed.symm)
    · change after.bookings.find? booking.id = some found at isFound
      rw [(Database.releaseAll_frame released).2.1,moved.found,if_pos key] at isFound
      cases isFound
      exact leaves (status.symm.trans confirmed)
  · rw [executed _ result] at ok
    cases ok

/-! The protocol. -/

/-- A write of the event leaves it cancelled, and its bookings are listed, once it is
cancelled, while nobody is confirming. -/
def Cautious (eventID : ID) (state : View) (frame : Holdings) (statement : Statement) : Prop :=
  (∀ event, statement = .updateEvent event → event.id = eventID → event.status = .cancelled) ∧
    (statement = .listBookings eventID → state.world.db.statusOf eventID = some .cancelled →
      .confirming ∉ frame)

def sealing (eventID : ID) : Protocol Statement Reply World Fault Call Holdings where
  evolves before after := Persists before.world.db after.world.db ∧
    (before.world.db.statusOf eventID = some .cancelled → after.world.db.statusOf eventID = some .cancelled)
  evolves_refl _ := ⟨.refl _,fun same => same⟩
  evolves_trans _ _ _ before after := ⟨before.1.trans after.1,fun cancelled => after.2 (before.2 cancelled)⟩
  invariant := Sealed eventID
  permits _ call state frame statement _ := Furnished state.world.db ∧
    Justified false call state.world.db statement ∧ Cautious eventID state frame statement
  fits _ _ state own statement := .confirming ∈ own → ∃ id status row,
    statement = .updateStatusIfPending id status ∧ state.world.db.bookings.find? id = some row ∧
      row.eventID = eventID

section Programs
variable {reservationTTL index : Nat} {eventID : ID} {call : Call} {α : Type} {state : View} {own frame : Holdings}

theorem sealing_evolves {statement : Statement} (fault : Fault) (furnished : Furnished state.world.db)
    (justified : Justified false call state.world.db statement)
    (writes : ∀ event, statement = .updateEvent event → event.id = eventID → event.status = .cancelled) :
    (sealing eventID).evolves state (state.after (service reservationTTL) index statement fault) := by
  refine ⟨(execute_advances call statement fault state.world furnished justified).1,fun cancelled => ?_⟩
  by_cases update : ∃ event, statement = .updateEvent event
  · obtain ⟨event,rfl⟩ := update
    refine write_part World.db (fun db => db.statusOf eventID = some .cancelled) cancelled fun value after ok => ?_
    by_cases stored : (state.world.db.statusOf event.id).isSome
    · rw [statusOf_written ok stored]
      split
      · rename_i same
        rw [writes event rfl same]
      · exact cancelled
    · rcases Database.updateEvent_ok ok with ⟨_,rfl⟩ | ⟨row,next,found,_⟩
      · exact cancelled
      · rw [Database.statusOf,found] at stored
        exact absurd rfl stored
  · exact statusOf_kept fault state.world (fun event same => update ⟨event,same⟩) cancelled

theorem sealing_kept {statement : Statement}
    (other : ∀ id status, statement ≠ .updateStatusIfPending id status)
    (idle : .confirming ∉ own) (sealed : Sealed eventID state (own + frame)) :
    (sealing eventID).fits index call state own statement ∧
      ∀ fault, (sealing eventID).permits index call state frame statement fault →
        (sealing eventID).evolves state (state.after (service reservationTTL) index statement fault) ∧
        Sealed eventID (state.after (service reservationTTL) index statement fault) (own + frame) := by
  refine ⟨fun confirming => absurd confirming idle,fun fault ⟨furnished,justified,cautious⟩ => ?_⟩
  have evolved : (sealing eventID).evolves state (state.after (service reservationTTL) index statement fault) :=
    sealing_evolves fault furnished justified cautious.1
  exact ⟨evolved,sealed.step evolved.2 (fun id => confirmedFor_kept furnished justified other) le_rfl⟩

theorem sealing_perform {post : α → View → Holdings → Prop} {statement : Statement}
    {next : Reply statement → Task α} (other : ∀ id status, statement ≠ .updateStatusIfPending id status)
    (idle : .confirming ∉ own)
    (continues : ∀ (later : View) (fault : Fault) (frame : Holdings), (sealing eventID).evolves state later →
      Justified false call later.world.db statement → Cautious eventID later frame statement →
      Sealed eventID (later.after (service reservationTTL) index statement fault) (own + frame) →
      ∃ kept, Sealed eventID (later.after (service reservationTTL) index statement fault) (kept + frame) ∧
        Holds (service reservationTTL) (sealing eventID) index call post
          (next (execute statement fault later.world).1)
          (later.after (service reservationTTL) index statement fault) kept) :
    Holds (service reservationTTL) (sealing eventID) index call post (.perform statement next) state own := by
  intro later before frame sealed
  obtain ⟨fits,steps⟩ := sealing_kept other idle sealed
  refine ⟨fits,fun fault permitted => ?_⟩
  obtain ⟨evolved,kept⟩ := steps fault permitted
  exact ⟨evolved,continues later fault frame before permitted.2.1 permitted.2.2 kept⟩

theorem sealing_issues {post : α → View → Holdings → Prop} {program : Task α}
    (issues : program.Issues fun statement => ∀ id status, statement ≠ .updateStatusIfPending id status)
    (idle : .confirming ∉ own) (returns : ∀ value later, post value later own) :
    Holds (service reservationTTL) (sealing eventID) index call post program state own :=
  Holds.of_issues issues (fun _ other _ _ sealed => sealing_kept other idle sealed) returns

theorem sealing_confirm {post : α → View → Holdings → Prop} {bookingID : ID} {status : BookingStatus}
    {row : BookingRow} {next : Except DbError Nat → Task α}
    (stored : state.world.db.bookings.find? bookingID = some row)
    (owned : .confirming ∈ own ↔ row.eventID = eventID)
    (continues : ∀ reply later,
      Holds (service reservationTTL) (sealing eventID) index call post (next reply) later 0) :
    Holds (service reservationTTL) (sealing eventID) index call post
      (.perform (.updateStatusIfPending bookingID status) next) state own := by
  intro later evolved frame sealed
  obtain ⟨present,found,_,event,_⟩ := evolved.1.bookings bookingID row stored
  refine ⟨fun confirming => ⟨bookingID,status,present,rfl,found,event.trans (owned.mp confirming)⟩,
    fun fault ⟨furnished,justified,cautious⟩ => ?_⟩
  have step : (sealing eventID).evolves later
      (later.after (service reservationTTL) index (.updateStatusIfPending bookingID status) fault) :=
    sealing_evolves fault furnished justified cautious.1
  refine ⟨step,0,?_,continues _ _⟩
  intro left member
  rw [zero_add] at member ⊢
  obtain ⟨cancelled,nobody,visited⟩ := sealed left (Multiset.mem_add.mpr (.inr member))
  refine ⟨step.2 cancelled,fun confirming => nobody (Multiset.mem_add.mpr (.inr confirming)),?_⟩
  intro id confirmed
  rcases confirmedFor_confirm confirmed with before | ⟨other,isOther,sameEvent⟩
  · exact visited id before
  · cases found.symm.trans isOther
    have holds : Hold.confirming ∈ own := owned.mpr (event.symm.trans sameEvent)
    exact absurd (Multiset.mem_add.mpr (.inl holds)) nobody

theorem sealing_status {post : α → View → Holdings → Prop} {bookingID paymentID checked : ID}
    {next : Except DbError EventStatus → Task α}
    (otherwise : ∀ reply later, reply ≠ .ok .published → Holds (service reservationTTL) (sealing eventID) index
      (.confirm bookingID paymentID) post (next reply) later 0)
    (published : ∀ row later, later.world.db.bookings.find? bookingID = some row →
      Holds (service reservationTTL) (sealing eventID) index (.confirm bookingID paymentID) post
        (next (.ok .published)) later (if row.eventID = eventID then {.confirming} else 0)) :
    Holds (service reservationTTL) (sealing eventID) index (.confirm bookingID paymentID) post
      (.perform (.eventStatus checked) next) state 0 := by
  refine sealing_perform (by simp) (Multiset.notMem_zero _) fun later fault frame _ justified _ sealed => ?_
  obtain ⟨_,_,row,same,found,event⟩ := justified
  cases same
  by_cases isPublished : (execute (.eventStatus checked) fault later.world).1 = .ok .published
  · have unchanged : ((service reservationTTL).execute (.eventStatus checked) fault later.world).2.db =
        later.world.db := execute_reads fault later.world rfl
    have stored : (later.after (service reservationTTL) index (.eventStatus checked) fault).world.db.bookings.find?
        bookingID = some row := by
      rw [State.after_world,unchanged]
      exact found
    rw [isPublished]
    refine ⟨_,?_,published row _ stored⟩
    split
    · rename_i own
      -- nobody is cancelling an event that has just been found published
      intro left member
      have framed : Hold.cancelling left ∈ 0 + frame := by
        rw [zero_add]
        simpa using member
      have read : later.world.db.eventStatus checked = .ok .published := query_ok isPublished
      have cancelled := (sealed left framed).1
      rw [State.after_world,unchanged,← own,event,Database.statusOf] at cancelled
      unfold Database.eventStatus at read
      split at read
      · cases read
      · rename_i stored isStored
        rw [isStored,Option.map_some,Except.ok.inj read] at cancelled
        cases cancelled
    · exact sealed
  · exact ⟨0,sealed,otherwise _ _ isPublished⟩

private theorem confirm_seals (bookingID paymentID : ID) :
    Holds (service reservationTTL) (sealing eventID) index (.confirm bookingID paymentID)
      (fun _ _ own => .confirming ∉ own) (BookingService.confirm bookingID paymentID) state 0 := by
  have none : Hold.confirming ∉ (0 : Holdings) := Multiset.notMem_zero _
  refine Holds.bind (sealing_issues (loadPendingBooking_issues bookingID (by simp) (by simp)) none ?_)
  intro loaded first
  rcases loaded with error | _ | booking
  · exact fun _ _ => none
  · exact fun _ _ => none
  refine sealing_status (fun reply second unpublished => ?_) fun row second stored => ?_
  · -- without a published event the booking is cancelled or the error returned
    refine sealing_issues ?_ none fun _ _ => none
    rcases reply with error | status
    · cases error <;> try trivial
      refine ⟨by simp,fun reply => ?_⟩
      cases reply <;> trivial
    · have other : status ≠ .published := fun same => unpublished (congrArg Except.ok same)
      simp only [Program.done_bind,decide_eq_false other]
      refine ⟨by simp,fun reply => ?_⟩
      cases reply <;> trivial
  · refine sealing_confirm stored (by split <;> simp_all) fun reply third => ?_
    refine sealing_issues ?_ none fun _ _ => none
    rcases reply with error | count
    · trivial
    · simp only [Except.map,Program.done_bind]
      split
      · trivial
      · trivial
      · exact (issueTickets_issues bookingID booking _ (by simp)).bind fun _ => trivial

theorem program_seals (call : Call) :
    Holds (service reservationTTL) (sealing eventID) index call (fun _ _ own => .confirming ∉ own)
      (program reservationTTL call) state 0 := by
  have none : Hold.confirming ∉ (0 : Holdings) := Multiset.notMem_zero _
  have issues := program_issues reservationTTL call
  cases call with
  | confirm bookingID paymentID =>
    refine Holds.bind (Holds.consequence (confirm_seals bookingID paymentID) ?_)
    exact fun value later own idle final _ => idle
  | _ =>
    refine sealing_issues (issues.mono fun statement inside id status same => ?_) none fun _ _ => none
    rw [same] at inside
    exact inside

/-! `CancelBookings` of a cancelled event. -/

def Visited (value : Except Error Unit) (own : Holdings) : Prop :=
  .confirming ∉ own ∧ (value = .ok () → .cancelling [] ∈ own)

theorem not_confirming (left : List ID) : Hold.confirming ∉ ({.cancelling left} : Holdings) := by simp

theorem Visited.failed {error : Error} (left : List ID) : Visited (.error error) {.cancelling left} :=
  ⟨not_confirming left,nofun⟩

theorem sealing_cancelAll {bookings : List Booking} {left : List ID}
    (listed : ∀ id ∈ left, ∃ booking ∈ bookings, booking.id = id ∧ booking.status = .confirmed) :
    Holds (service reservationTTL) (sealing eventID) index call (fun value _ own => Visited value own)
      (BookingService.cancelAll bookings) state {.cancelling left} := by
  induction bookings generalizing state left with
  | nil =>
    have empty : left = [] := List.eq_nil_iff_forall_not_mem.mpr fun id member => by
      obtain ⟨_,inside,_⟩ := listed id member
      cases inside
    subst empty
    exact fun later _ => ⟨not_confirming [],fun _ => Multiset.mem_singleton_self _⟩
  | cons booking rest ih =>
    -- a booking that was not confirmed when it was listed is not to be visited
    have skipped (other : booking.status ≠ .confirmed) (id : ID) (member : id ∈ left) :
        ∃ booking ∈ rest, booking.id = id ∧ booking.status = .confirmed := by
      obtain ⟨found,inside,same,confirmed⟩ := listed id member
      rcases List.mem_cons.mp inside with rfl | inside
      · exact absurd confirmed other
      · exact ⟨found,inside,same,confirmed⟩
    unfold BookingService.cancelAll
    split
    · rename_i settled
      exact ih (skipped settled.1)
    · refine sealing_perform (by simp) (not_confirming left) fun later fault frame _ _ _ sealed => ?_
      cases reply : (execute (.transitionAndReleaseSeats booking .cancelled) fault later.world).1 with
      | error error => exact ⟨_,sealed,fun _ _ => .failed left⟩
      | ok applied =>
        simp only [Program.done_bind]
        by_cases confirmed : booking.status = .confirmed
        · have gone := confirmedFor_transition eventID confirmed (by simp) reply
          obtain ⟨cancelled,nobody,visited⟩ := sealed left (by simp)
          refine ⟨{.cancelling (left.filter (· ≠ booking.id))},
            sealed.visiting cancelled (by simpa using nobody) fun id still => ?_,ih fun id member => ?_⟩
          · refine List.mem_filter.mpr ⟨visited id still,decide_eq_true fun same => ?_⟩
            rw [same] at still
            exact gone still
          · obtain ⟨inside,other⟩ := List.mem_filter.mp member
            obtain ⟨found,among,same,isConfirmed⟩ := listed id inside
            rcases List.mem_cons.mp among with rfl | among
            · exact absurd same.symm (of_decide_eq_true other)
            · exact ⟨found,among,same,isConfirmed⟩
        · exact ⟨_,sealed,ih (skipped confirmed)⟩

theorem sealing_loadAll {rows : List BookingRow} (idle : .confirming ∉ own) :
    Holds (service reservationTTL) (sealing eventID) index call (fun loaded _ kept => kept = own ∧
        ∀ bookings, loaded = .ok bookings → ∀ row ∈ rows, ∃ booking ∈ bookings,
          booking.id = row.id ∧ booking.status = row.status)
      (BookingRepo.loadAll rows) state own := by
  induction rows generalizing state with
  | nil => exact fun _ _ => ⟨rfl,by simp⟩
  | cons row rest ih =>
    refine sealing_perform (by simp) idle fun later fault frame _ _ _ sealed => ⟨_,sealed,?_⟩
    cases (execute (.listItems row.id) fault later.world).1 with
    | error error => exact fun _ _ => ⟨rfl,by simp⟩
    | ok items =>
      simp only [Program.done_bind]
      refine Holds.bind (Holds.consequence ih ?_)
      rintro loaded second kept ⟨rfl,all⟩
      cases loaded with
      | error error => exact fun _ _ => ⟨rfl,by simp⟩
      | ok bookings =>
        refine fun _ _ => ⟨rfl,?_⟩
        rintro _ ⟨⟩ other member
        rcases List.mem_cons.mp member with rfl | inside
        · exact ⟨_,List.mem_cons_self,rfl,rfl⟩
        · obtain ⟨booking,among,same⟩ := all bookings rfl other inside
          exact ⟨booking,List.mem_cons_of_mem _ among,same⟩

theorem sealing_cancelBookings (cancelled : state.world.db.statusOf eventID = some .cancelled) :
    Holds (service reservationTTL) (sealing eventID) index call (fun value _ own => Visited value own)
      (BookingService.cancelBookings eventID) state 0 := by
  have failed (error : Error) : Visited (.error error) 0 := ⟨Multiset.notMem_zero _,nofun⟩
  refine sealing_perform (by simp) (Multiset.notMem_zero _) fun later fault frame before _ cautious sealed => ?_
  cases reply : (execute (.listBookings eventID) fault later.world).1 with
  | error error => exact ⟨0,sealed,fun _ _ => failed _⟩
  | ok rows =>
    obtain ⟨rows,err⟩ := rows
    cases err with
    | some error => exact ⟨0,sealed,fun _ _ => failed _⟩
    | none =>
      have all : rows = later.world.db.listBookings eventID := stream_checked reply
      have unchanged : ((service reservationTTL).execute (.listBookings eventID) fault later.world).2.db =
          later.world.db := execute_reads fault later.world rfl
      have isCancelled := before.2 cancelled
      let left := (rows.filter fun row => row.status = .confirmed).map BookingRow.id
      refine ⟨{.cancelling left},?_,?_⟩
      · refine sealed.visiting ?_ (cautious.2 rfl isCancelled) ?_
        · rw [State.after_world,unchanged]
          exact isCancelled
        · rintro id ⟨row,found,event,confirmed⟩
          rw [State.after_world,unchanged] at found
          refine List.mem_map.mpr ⟨row,List.mem_filter.mpr ⟨?_,decide_eq_true confirmed⟩,Table.find?_key found⟩
          rw [all]
          exact Database.mem_newestBookings.mpr ⟨Table.find?_mem found,decide_eq_true event⟩
      · refine Holds.bind (Holds.consequence (sealing_loadAll (not_confirming left)) ?_)
        rintro loaded second kept ⟨rfl,loadedAll⟩
        cases loaded with
        | error error => exact fun _ _ => .failed left
        | ok bookings =>
          refine sealing_cancelAll fun id member => ?_
          obtain ⟨row,isConfirmed,rfl⟩ := List.mem_map.mp member
          obtain ⟨inside,confirmed⟩ := List.mem_filter.mp isConfirmed
          obtain ⟨booking,among,same,status⟩ := loadedAll bookings rfl row inside
          exact ⟨booking,among,same,status.trans (of_decide_eq_true confirmed)⟩

end Programs

/-- The calls that leave the event's row alone, but for its cancellation. -/
def Call.leavesEvent (eventID : ID) : Call → Bool
  | .updateEvent id .. | .approveEvent id _ | .rejectEvent id _ => id ≠ eventID
  | _ => true

def confirms (db : Database) (eventID : ID) (thread : Thread Statement Reply Call Result) : Bool :=
  match thread.head with
  | some (.updateStatusIfPending id _) => (db.bookings.find? id).any fun row => row.eventID = eventID
  | _ => false

/-- The bookings of the event, once it is cancelled, are listed only while no
confirmation of one of them is between its check and its update. -/
def listsUndisturbed (eventID : ID) (config : Pool) (_ : Nat) : Statement → Fault → Bool
  | .listBookings id,_ => id ≠ eventID || config.state.world.db.statusOf eventID ≠ some .cancelled ||
      config.threads.all fun thread => !confirms config.state.world.db eventID thread
  | _,_ => true

/-- Any calls, but of the lifecycle calls on the event only its cancellation. -/
def DuringCancellation (eventID : ID) : Pool → Step → Prop :=
  Admitting (Call.leavesEvent eventID) (Stepwise (listsUndisturbed eventID))

instance (eventID : ID) (config : Pool) (action : Step) : Decidable (DuringCancellation eventID config action) :=
  inferInstanceAs (Decidable (Admitting ..))

section Runs
variable {reservationTTL : Nat} {eventID : ID} {world : World} {early config : Pool}

theorem writes_cancelled (furnished : Furnished world.db)
    (run : Run (service reservationTTL) (DuringCancellation eventID) (.idle world) config) {index : Nat}
    {call : Call} {event : Event} {next : Reply (.updateEvent event) → Task Result}
    (found : config.threads[index]? = some ⟨call,some (.perform (.updateEvent event) next)⟩)
    (same : event.id = eventID) : event.status = .cancelled := by
  have justified : call.Writes event := justified_of_run (Reads.any _) furnished run found
  have admitted : call.leavesEvent eventID = true :=
    run.calls_admitted (by simp [Config.idle]) _ (List.mem_of_getElem? found)
  cases call <;> simp_all [Call.Writes,Call.leavesEvent]

theorem cancelled_of_run (furnished : Furnished world.db)
    (first : Run (service reservationTTL) (DuringCancellation eventID) (.idle world) early)
    (cancelled : early.state.world.db.statusOf eventID = some .cancelled)
    (second : Run (service reservationTTL) (DuringCancellation eventID) early config) :
    config.state.world.db.statusOf eventID = some .cancelled := by
  refine second.state_invariant (fun state => state.world.db.statusOf eventID = some .cancelled) cancelled ?_
  intro config index fault call statement next between cancelled _ found
  have run := first.trans between
  have evolved : (sealing eventID).evolves config.state
      (config.state.after (service reservationTTL) index statement fault) := by
    refine sealing_evolves fault (furnished_of_run furnished run)
      (justified_of_run (Reads.any _) furnished run found) ?_
    rintro event rfl
    exact writes_cancelled furnished run found
  exact evolved.2 cancelled

variable {results : Nat → Call → Result → View → Holdings → Prop}

theorem sealing_obeyed (furnished : Furnished world.db)
    (first : Run (service reservationTTL) (DuringCancellation eventID) (.idle world) early)
    (starts : ∀ config call, Run (service reservationTTL) (DuringCancellation eventID) early config →
      Holds (service reservationTTL) (sealing eventID) config.threads.length call
        (results config.threads.length call) (program reservationTTL call) config.state 0)
    (idle : ∀ index call value state own, results index call value state own → .confirming ∉ own) :
    Obeys (service reservationTTL) (sealing eventID) results (DuringCancellation eventID) early where
  starts config call run _ := starts config call run
  steps config index fault call statement next own others run permitted found _ fitting := by
    have run := first.trans run
    refine ⟨furnished_of_run furnished run,justified_of_run (Reads.any _) furnished run found,?_,?_⟩
    · rintro event rfl
      exact writes_cancelled furnished run found
    · rintro rfl cancelled member
      have undisturbed := Stepwise.meets permitted found
      simp only [listsUndisturbed,cancelled,ne_eq,not_true_eq_false,decide_false,Bool.false_or,
        List.all_eq_true] at undisturbed
      obtain ⟨other,inside,holds⟩ := mem_sum_tokens member
      obtain ⟨position,⟨otherCall,program⟩,_,isThere,fits⟩ := fitting other inside
      -- a thread that is confirming stands right before its update
      match program,fits with
      | none,fits =>
        rw [show other = 0 from fits] at holds
        exact Multiset.notMem_zero _ holds
      | some (.done value),fits => exact idle _ _ _ _ _ fits holds
      | some (.perform op next),fits =>
        obtain ⟨id,status,row,rfl,stored,event⟩ := fits holds
        have quiet := undisturbed _ (List.mem_of_getElem? isThere)
        simp [confirms,Thread.head,Program.head,stored,event] at quiet
  stops config index thread own frame _ _ _ _ sealed :=
    sealed.step (fun same => same) (fun _ same => same) (Multiset.le_add_left ..)

/-- What the calls hold at their end; those that start from an index on cancel an
event that is cancelled already. -/
def Ended (eventID : ID) (since index : Nat) (call : Call) (value : Result) (own : Holdings) : Prop :=
  .confirming ∉ own ∧ (since ≤ index → call = .cancelBookings eventID → value = .unit (.ok ()) →
    .cancelling [] ∈ own)

theorem program_ends {since index : Nat} {call : Call} {state : View}
    (cancelled : state.world.db.statusOf eventID = some .cancelled) :
    Holds (service reservationTTL) (sealing eventID) index call
      (fun value _ own => Ended eventID since index call value own) (program reservationTTL call) state 0 := by
  by_cases same : call = .cancelBookings eventID
  · subst same
    refine Holds.bind (Holds.consequence (sealing_cancelBookings cancelled) ?_)
    rintro value later own ⟨idle,visited⟩ final _
    exact ⟨idle,fun _ _ returned => visited (Result.unit.inj returned)⟩
  · refine Holds.consequence (program_seals call) ?_
    exact fun value later own idle => ⟨idle,fun _ is => absurd is same⟩

theorem ended_of_run (furnished : Furnished world.db)
    (first : Run (service reservationTTL) (DuringCancellation eventID) (.idle world) early)
    (cancelled : early.state.world.db.statusOf eventID = some .cancelled)
    (second : Run (service reservationTTL) (DuringCancellation eventID) early config) :
    PoolHolds (service reservationTTL) (sealing eventID)
      (fun index call value _ own => Ended eventID early.threads.length index call value own) config := by
  -- up to the cancellation nothing is asked of a result but that it does not confirm
  have before : PoolHolds (service reservationTTL) (sealing eventID) (fun _ _ _ _ own => .confirming ∉ own) early := by
    refine PoolHolds.run (PoolHolds.idle world ?_) (sealing_obeyed furnished .refl ?_ ?_) first
    · exact fun left member => absurd member (Multiset.notMem_zero _)
    · exact fun config call _ => program_seals call
    · exact fun _ _ _ _ _ idle => idle
  refine PoolHolds.run (before.consequence ?_) (sealing_obeyed furnished first ?_ ?_) second
  · exact fun index call value later own old idle => ⟨idle,fun late => absurd old (by omega)⟩
  · exact fun config call run => program_ends (cancelled_of_run furnished first cancelled run)
  · exact fun _ _ _ _ _ ended => ended.1

end Runs

/-- Once the event is cancelled and a `CancelBookings` that started afterwards has
returned, no booking of the event is confirmed, in this state and all later ones. -/
theorem no_confirmed_after_cancellation (reservationTTL : Nat) (eventID : ID) (before early config : Pool)
    (index : Nat) (reached : Run (service reservationTTL) Anything (.idle .initial) before)
    (first : Run (service reservationTTL) (DuringCancellation eventID) (.idle before.state.world) early)
    (cancelled : early.state.world.db.statusOf eventID = some .cancelled)
    (second : Run (service reservationTTL) (DuringCancellation eventID) early config)
    (started : early.threads.length ≤ index)
    (returned : config.returned index = some (.cancelBookings eventID,.unit (.ok ()))) :
    ∀ row ∈ config.state.world.db.bookings.rows, row.eventID = eventID → row.status ≠ .confirmed := by
  have furnished := furnished_of_run furnished_initial reached
  obtain ⟨own,frame,fits,sealed⟩ := (ended_of_run furnished first cancelled second).thread_fits index _
    (Config.returned_thread returned)
  have holds : Hold.cancelling [] ∈ own := fits.2 started rfl rfl
  obtain ⟨_,_,visited⟩ := sealed [] (Multiset.mem_add.mpr (.inl holds))
  intro row member event confirmed
  have none := visited row.id ⟨row,Table.find?_of_mem member,event,confirmed⟩
  cases none

/-- A confirmed booking, then the cancellation of its event and of its bookings. -/
theorem no_confirmed_after_cancellation_confirmed : ∃ before early config : Pool,
    Run (service 900) Anything (.idle .initial) before ∧
    Run (service 900) (DuringCancellation 0) (.idle before.state.world) early ∧
    early.state.world.db.bookings.rows.map BookingRow.status = [.confirmed] ∧
    early.state.world.db.statusOf 0 = some .cancelled ∧
    Run (service 900) (DuringCancellation 0) early config ∧ early.threads.length ≤ 2 ∧
    config.returned 2 = some (.cancelBookings 0,.unit (.ok ())) ∧
    ∀ row ∈ config.state.world.db.bookings.rows, row.eventID = 0 → row.status ≠ .confirmed := by
  obtain ⟨before,reached,outcome⟩ := exists_run_of_replay (service 900) Anything reservation (.idle .initial)
    (fun before => (replay (service 900) (DuringCancellation 0) (.idle before.state.world)
      (.start (.confirm 2 5) :: undisturbed 0 5 ++ .start (.cancelEvent 0 7) :: undisturbed 1 6)).any
      fun early => early.state.world.db.bookings.rows.map BookingRow.status = [.confirmed] &&
        early.state.world.db.statusOf 0 = some .cancelled && early.threads.length ≤ 2 &&
        (replay (service 900) (DuringCancellation 0) early (.start (.cancelBookings 0) :: undisturbed 2 3)).any
          fun config => config.returned 2 = some (.cancelBookings 0,.unit (.ok ()))) (by decide +kernel)
  simp only [Option.any_eq_true,Bool.and_eq_true,decide_eq_true_eq] at outcome
  obtain ⟨early,first,⟨⟨confirmed,cancelled⟩,started⟩,config,second,returned⟩ := outcome
  have first := path_of_follow _ _ _ _ _ first
  have second := path_of_follow _ _ _ _ _ second
  exact ⟨before,early,config,reached,first,confirmed,cancelled,second,started,returned,
    no_confirmed_after_cancellation 900 0 before early config 2 reached first cancelled second started returned⟩

/-- A confirmation that has found the event published: the event is cancelled, its
bookings are listed, the booking is confirmed, and its cancellation, guarded by the
listed status, is not applied. No call is left in progress. -/
theorem confirmed_survives_cancellation : ¬∀ (reservationTTL : Nat) (eventID : ID) (before early config : Pool)
    (index : Nat), Run (service reservationTTL) Anything (.idle .initial) before →
    Run (service reservationTTL) (Admitting (Call.leavesEvent eventID) Anything) (.idle before.state.world) early →
    early.state.world.db.statusOf eventID = some .cancelled →
    Run (service reservationTTL) (Admitting (Call.leavesEvent eventID) Anything) early config →
    early.threads.length ≤ index →
    config.returned index = some (.cancelBookings eventID,.unit (.ok ())) → config.Quiet →
    ∀ row ∈ config.state.world.db.bookings.rows, row.eventID = eventID → row.status ≠ .confirmed := by
  intro safe
  obtain ⟨before,reached,outcome⟩ := exists_run_of_replay (service 900) Anything reservation (.idle .initial)
    (fun before => (replay (service 900) (Admitting (Call.leavesEvent 0) Anything) (.idle before.state.world)
      (.start (.confirm 2 5) :: undisturbed 0 3 ++ .start (.cancelEvent 0 7) :: undisturbed 1 6)).any
      fun (early : Pool) => early.state.world.db.statusOf 0 = some .cancelled && early.threads.length ≤ 2 &&
        (replay (service 900) (Admitting (Call.leavesEvent 0) Anything) early
          (.start (.cancelBookings 0) :: undisturbed 2 1 ++ undisturbed 0 2 ++ undisturbed 2 2)).any
          fun (config : Pool) => config.returned 2 = some (.cancelBookings 0,.unit (.ok ())) && decide config.Quiet &&
            config.state.world.db.bookings.rows.any fun row => row.eventID = 0 && row.status = .confirmed)
    (by decide +kernel)
  simp only [Option.any_eq_true,Bool.and_eq_true,decide_eq_true_eq,List.any_eq_true] at outcome
  obtain ⟨early,first,⟨cancelled,started⟩,config,second,⟨returned,quiet⟩,row,member,event,confirmed⟩ := outcome
  exact safe 900 0 before early config 2 reached (path_of_follow _ _ _ _ _ first) cancelled
    (path_of_follow _ _ _ _ _ second) started returned quiet row member event confirmed

end Ticketbus.Ticketing
