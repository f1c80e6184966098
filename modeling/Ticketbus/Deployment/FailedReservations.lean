import Ticketbus.Deployment.System
import Ticketbus.Payment.Settlement
import Ticketbus.Ticketing.Totals

/-! Reservations whose payment could not be initiated. `Reserve` goes on to delete the
booking, which its items forbid. The booking is out of the way only if it had been
expired or cancelled by then; from that moment on nothing can move it again. -/
namespace Ticketbus.Deployment
open Ticketbus.Concurrency Ticketbus.Relational Ticketbus.Ticketing

def issuesFor (bookingID : ID) : Statement → Bool
  | .outbox (.insert (.ticketIssued _ id _ _ _)) => id = bookingID
  | _ => false

def CleansUp : (statement : Statement) → Reply statement → Option Statement → Prop
  | .initiateTxnForBooking request,.error _,following => following = some (.delete request.bookingID)
  | _,_,_ => True

def IssuesInTurn (bookingID : ID) : (statement : Statement) → Reply statement → Option Statement → Prop
  | .updateStatusIfPending id _,reply,following =>
    following.any (issuesFor bookingID) = true → id = bookingID ∧ reply = .ok 1
  | statement,_,following => following.any (issuesFor bookingID) = true → issuesFor bookingID statement = true

section Programs
variable {bookingID : ID}

private theorem issuesInTurn_quiet {statement : Statement} {reply : Reply statement} {following : Option Statement}
    (quiet : following.any (issuesFor bookingID) = false) : IssuesInTurn bookingID statement reply following := by
  cases statement <;> intro issues <;> rw [quiet] at issues <;> cases issues

private theorem quiet_of_next {following : Option Statement}
    (quiet : ∀ next, following = some next → issuesFor bookingID next = false) :
    following.any (issuesFor bookingID) = false := by
  cases following with
  | none => rfl
  | some next => exact quiet next rfl

private theorem issueTickets_linked (id : ID) (booking : Booking) (items : List BookingItem) :
    (BookingService.issueTickets id booking items).Linked (IssuesInTurn bookingID) := by
  induction items with
  | nil => trivial
  | cons item rest ih =>
    intro reply
    refine ⟨?_,ih⟩
    cases rest with
    | nil => exact issuesInTurn_quiet rfl
    | cons other others => exact fun issues => issues

private theorem confirm_linked (id paymentID : ID) :
    (BookingService.confirm id paymentID).Linked (IssuesInTurn bookingID) := by
  have reads : (BookingService.loadPendingBooking id).Issues fun statement => issuesFor bookingID statement = false :=
    loadPendingBooking_issues id (fun _ => rfl) fun _ => rfl
  refine .bind reads (fun _ _ _ _ after => issuesInTurn_quiet (quiet_of_next ?_)) fun loaded => ?_
  · intro next same
    rcases after next same with quiet | ⟨error | _ | booking,head⟩
    · exact quiet
    · cases head
    · cases head
    · cases head
      rfl
  rcases loaded with error | _ | booking
  · trivial
  · trivial
  have reads : (EventStatusRepo.isPublished booking.eventID).Issues fun statement => issuesFor bookingID statement = false :=
    isPublished_issues rfl
  refine .bind reads (fun _ _ _ _ after => issuesInTurn_quiet (quiet_of_next ?_)) fun published => ?_
  · intro next same
    rcases after next same with quiet | ⟨error | _ | _,head⟩
    · exact quiet
    · cases head
    · cases head
      rfl
    · cases head
      rfl
  rcases published with error | _ | _
  · trivial
  · intro reply
    cases reply <;> exact ⟨issuesInTurn_quiet rfl,trivial⟩
  · intro reply
    rcases reply with error | count
    · exact ⟨issuesInTurn_quiet rfl,trivial⟩
    -- tickets follow only where the guarded update has matched its row
    · match count with
      | 0 => exact ⟨issuesInTurn_quiet rfl,trivial⟩
      | 1 =>
        have tickets : Program.Issues (fun statement => issuesFor bookingID statement = true → id = bookingID)
            ((BookingService.issueTickets id booking booking.items).bind fun _ => .done (.ok () : Except Error Unit)) :=
          (issueTickets_issues id booking _ fun _ _ same => of_decide_eq_true same).bind fun _ => trivial
        have inTurn : Program.Linked (IssuesInTurn bookingID)
            ((BookingService.issueTickets id booking booking.items).bind fun _ => .done (.ok () : Except Error Unit)) :=
          .map _ (issueTickets_linked id booking booking.items)
        refine ⟨fun issues => ?_,inTurn⟩
        obtain ⟨next,head,same⟩ := (Option.any_eq_true _ _).mp issues
        exact ⟨tickets.head head same,rfl⟩
      | more + 2 => exact ⟨issuesInTurn_quiet rfl,trivial⟩

private theorem footprint_quiet {call : Call} {statement : Statement} (within : Footprint call statement)
    (other : ∀ id paymentID, call ≠ .confirm id paymentID) : issuesFor bookingID statement = false := by
  cases issues : issuesFor bookingID statement with
  | false => rfl
  | true =>
    unfold issuesFor at issues
    split at issues
    · cases call <;> first | exact absurd rfl (other _ _) | cases within
    · cases issues

theorem program_issuesInTurn (reservationTTL : Nat) (call : Call) :
    (program reservationTTL call).Linked (IssuesInTurn bookingID) := by
  by_cases confirms : ∃ id paymentID, call = .confirm id paymentID
  · obtain ⟨id,paymentID,rfl⟩ := confirms
    exact .map _ (confirm_linked id paymentID)
  · refine .of_issues (program_issues reservationTTL call) fun _ _ following _ after => ?_
    refine issuesInTurn_quiet (quiet_of_next fun next same => footprint_quiet (after next same) ?_)
    exact fun id paymentID same => confirms ⟨id,paymentID,same⟩

theorem program_head_quiet (reservationTTL : Nat) (call : Call) :
    (program reservationTTL call).head.any (issuesFor bookingID) = false := by
  by_cases confirms : ∃ id paymentID, call = .confirm id paymentID
  · obtain ⟨id,paymentID,rfl⟩ := confirms
    rfl
  · refine quiet_of_next fun next same => ?_
    have within : Footprint call next := (program_issues reservationTTL call).head same
    exact footprint_quiet within fun id paymentID isConfirm => confirms ⟨id,paymentID,isConfirm⟩

private def Unrelated (statement : Statement) : Prop := ∀ request, statement ≠ .initiateTxnForBooking request

private theorem cleansUp_unrelated {statement : Statement} {reply : Reply statement} {following : Option Statement}
    (unrelated : Unrelated statement) : CleansUp statement reply following := by
  cases statement <;> first | trivial | exact absurd rfl (unrelated _)

private theorem reserve_linked (reservationTTL : Nat) (userID : ID) (userEmail : String) (request : ReserveRequest) :
    (BookingHandler.reserve reservationTTL userID userEmail request).Linked CleansUp := by
  unfold BookingHandler.reserve
  split
  case isFalse => trivial
  unfold BookingService.reserve
  split
  case isTrue => trivial
  have reserves : (BookingService.reserveItems request.bookingItems request.bookingItems).Issues Unrelated :=
    reserveItems_issues _ _ (fun _ _ _ => nofun) (fun _ _ => nofun) fun _ _ _ => nofun
  refine .bind reserves (fun _ _ _ unrelated _ => cleansUp_unrelated unrelated) fun reserved => ?_
  cases reserved with
  | error error => trivial
  | ok value =>
    refine fun now => ⟨trivial,fun bookingID => ⟨trivial,fun createdAt => ⟨trivial,?_⟩⟩⟩
    simp only [Program.done_bind]
    have names : (BookingService.nameItems bookingID request.bookingItems).Issues Unrelated :=
      nameItems_issues (fun _ => nofun) bookingID _
    refine .bind names (fun _ _ _ unrelated _ => cleansUp_unrelated unrelated) fun named => ?_
    have rollback (error : Error) : Program.Linked CleansUp
        ((BookingService.rollbackSeats named).bind fun _ => .done (.error error : Except Error Reservation)) :=
      .bind (rollbackSeats_issues named fun _ _ _ => nofun) (fun _ _ _ unrelated _ => cleansUp_unrelated unrelated)
        fun _ => trivial
    intro created
    cases created with
    | error error => exact ⟨trivial,rollback (.db error)⟩
    | ok value =>
      refine ⟨trivial,fun initiated => ?_⟩
      cases initiated with
      | error error => exact ⟨rfl,fun deleted => ⟨trivial,rollback .paymentUnavailable⟩⟩
      | ok value => exact ⟨trivial,trivial⟩

theorem program_cleansUp (reservationTTL : Nat) (call : Call) : (program reservationTTL call).Linked CleansUp := by
  by_cases reserves : ∃ userID userEmail request, call = .reserve userID userEmail request
  · obtain ⟨userID,userEmail,request,rfl⟩ := reserves
    exact .map _ (reserve_linked reservationTTL userID userEmail request)
  · refine .of_issues (program_issues reservationTTL call) fun statement _ _ within _ => cleansUp_unrelated ?_
    rintro request rfl
    cases call <;> first | exact reserves ⟨_,_,_,rfl⟩ | cases within

end Programs

/-- An applied confirmation of the booking, a `ticket.issued` for it, or its seats given back
with its status. -/
def touches (bookingID : ID) : Concurrency.Event Statement Reply → Bool
  | ⟨_,.updateStatusIfPending id _,reply⟩ => id = bookingID && reply = .ok 1
  | ⟨_,.transitionAndReleaseSeats booking _,reply⟩ => booking.id = bookingID && reply = .ok true
  | ⟨_,statement,_⟩ => issuesFor bookingID statement

def inert (bookingID : ID) (config : Pool) : Bool :=
  ((config.state.world.db.bookings.find? bookingID).any fun row => !row.status.live) &&
    config.threads.all fun thread => !thread.head.any (issuesFor bookingID)

def confirmsBooking (bookingID : ID) : Concurrency.Event Statement Reply → Bool
  | ⟨_,.updateStatusIfPending id _,reply⟩ => id = bookingID && reply = .ok 1
  | _ => false

/-- The `DELETE` for a booking comes after an expiry or a cancellation of the booking, and while no `Confirm` that
has confirmed it is still running. -/
def retiredFirst (config : Pool) (_ : Nat) : Statement → Fault → Bool
  | .delete id,_ => 0 < releases config.state.history id &&
      config.state.history.all fun event => !confirmsBooking id event || (config.headAt event.thread).isNone
  | _,_ => true

theorem inert_iff {bookingID : ID} {config : Pool} : inert bookingID config = true ↔
    (∃ row, config.state.world.db.bookings.find? bookingID = some row ∧ row.status.live = false) ∧
      ∀ thread ∈ config.threads, thread.head.any (issuesFor bookingID) = false := by
  simp [inert,Option.any_eq_true]

section Steps
variable {reservationTTL : Nat} {guard : Pool → Step → Prop} {config after : Pool} {action : Step} {bookingID : ID}

private theorem reaches_retired {status next : BookingStatus} (reaches : status.Reaches next)
    (retired : status.live = false) : next.live = false := by
  cases status <;> cases retired <;> cases reaches <;> rfl

private theorem not_confirmed {world : World} {status : BookingStatus} {fault : Fault} {row : BookingRow}
    (found : world.db.bookings.find? bookingID = some row) (retired : row.status.live = false) :
    (execute (.updateStatusIfPending bookingID status) fault world).1 ≠ .ok 1 := by
  intro confirmed
  obtain ⟨db,ok,_⟩ := write_ok confirmed
  rcases Database.updateStatusIfPending_ok ok with ⟨zero,_⟩ | ⟨_,old,next,same,pending,moved,_⟩
  · cases zero
  · cases found.symm.trans (same ▸ moved.1)
    rw [pending] at retired
    cases retired

private theorem not_released {world : World} {booking : Booking} {status : BookingStatus} {fault : Fault}
    {row : BookingRow} (found : world.db.bookings.find? booking.id = some row) (retired : row.status.live = false)
    (live : booking.status.live = true) :
    (execute (.transitionAndReleaseSeats booking status) fault world).1 ≠ .ok true := by
  intro released
  obtain ⟨db,ok,_⟩ := write_ok released
  rcases Database.transitionAndReleaseSeats_ok ok with ⟨no,_⟩ | ⟨_,old,next,middle,same,before,moved,_⟩
  · cases no
  · cases found.symm.trans (same ▸ moved.1)
    rw [before,live] at retired
    cases retired

theorem inert_next (run : Run (service reservationTTL) guard (.idle .initial) config)
    (before : inert bookingID config = true) (taken : config.next (service reservationTTL) action = some after) :
    inert bookingID after = true := by
  obtain ⟨⟨row,found,retired⟩,idle⟩ := inert_iff.mp before
  refine inert_iff.mpr ⟨?_,fun thread member => ?_⟩
  · obtain ⟨next,stays,_,_,reaches⟩ := (persists_of_next furnished_initial run taken).bookings _ _ found
    exact ⟨next,stays,reaches_retired reaches retired⟩
  obtain ⟨position,present⟩ := List.mem_iff_getElem?.mp member
  rcases Config.next_cases taken present with same | ⟨_,stopped,_⟩ | ⟨_,_,fresh⟩ | ⟨fault,statement,next,_,earlier,goes⟩
  · exact idle thread (List.mem_of_getElem? same)
  · rw [Thread.head,stopped]
    rfl
  · rw [Thread.head,fresh]
    exact program_head_quiet reservationTTL thread.call
  · rw [Thread.head,goes]
    have inTurn : IssuesInTurn bookingID statement (execute statement fault config.state.world).1 _ :=
      (Run.linked (program_issuesInTurn reservationTTL) run earlier (execute statement fault config.state.world).1).1
    have quiet : issuesFor bookingID statement = false := idle _ (List.mem_of_getElem? earlier)
    cases issues : (next (execute statement fault config.state.world).1).head.any (issuesFor bookingID) with
    | false => exact issues
    | true =>
      cases statement with
      | updateStatusIfPending id status =>
        obtain ⟨rfl,confirmed⟩ := inTurn issues
        exact absurd confirmed (not_confirmed found retired)
      | _ =>
        have same := inTurn issues
        rw [quiet] at same
        cases same

theorem confirmed_of_issues (run : Run (service reservationTTL) guard (.idle .initial) config) :
    ∀ index statement, config.headAt index = some statement → issuesFor bookingID statement = true →
      ∃ event ∈ config.state.history, event.thread = index ∧ confirmsBooking bookingID event = true := by
  refine run.invariant (fun config => ∀ index statement, config.headAt index = some statement →
    issuesFor bookingID statement = true → ∃ event ∈ config.state.history, event.thread = index ∧
      confirmsBooking bookingID event = true) (fun _ _ head => by cases head) ?_
  intro config action after before known _ taken index statement head issues
  have kept {event : Concurrency.Event Statement Reply} (recorded : event ∈ config.state.history) :
      event ∈ after.state.history := by
    rcases Config.next_state taken with same | ⟨_,_,_,_,_,_,_,rfl⟩
    · rwa [same]
    · exact List.mem_cons_of_mem _ recorded
  have old (was : ∃ event ∈ config.state.history, event.thread = index ∧ confirmsBooking bookingID event = true) :
      ∃ event ∈ after.state.history, event.thread = index ∧ confirmsBooking bookingID event = true := by
    obtain ⟨event,recorded,own,confirms⟩ := was
    exact ⟨event,kept recorded,own,confirms⟩
  obtain ⟨call,following,present⟩ := Config.headAt_thread head
  rcases Config.next_cases taken present with same | ⟨_,stopped,_⟩ | ⟨_,_,fresh⟩ | ⟨fault,issued,next,rfl,earlier,goes⟩
  · refine old (known index statement ?_ issues)
    rw [Config.headAt,same]
    rfl
  · cases stopped
  · have quiet : (program reservationTTL call).head.any (issuesFor bookingID) = false :=
      program_head_quiet reservationTTL call
    rw [← (Option.some.inj fresh : _ = program reservationTTL call)] at quiet
    cases issues.symm.trans quiet
  · have inTurn : IssuesInTurn bookingID issued (execute issued fault config.state.world).1 _ :=
      (Run.linked (program_issuesInTurn reservationTTL) before earlier (execute issued fault config.state.world).1).1
    rw [← (Option.some.inj goes : _ = next (execute issued fault config.state.world).1)] at inTurn
    have was (quiet : ∀ id status, issued ≠ .updateStatusIfPending id status) : issuesFor bookingID issued = true := by
      cases issued with
      | updateStatusIfPending id status => exact absurd rfl (quiet id status)
      | _ => exact inTurn issues
    by_cases confirms : ∃ id status, issued = .updateStatusIfPending id status
    · obtain ⟨id,status,rfl⟩ := confirms
      obtain ⟨rfl,confirmed⟩ := inTurn issues
      obtain ⟨_,_,_,found,rfl⟩ := Config.next_step _ _ _ _ _ taken
      cases earlier.symm.trans found
      exact ⟨_,List.mem_cons_self,rfl,Bool.and_eq_true_iff.mpr ⟨decide_eq_true rfl,decide_eq_true confirmed⟩⟩
    · refine old (known index issued ?_ (was fun id status same => confirms ⟨id,status,same⟩))
      rw [Config.headAt,earlier]
      rfl

theorem inert_of_retired (run : Run (service reservationTTL) guard (.idle .initial) config) {index : Nat} {fault : Fault}
    (retired : retiredFirst config index (.delete bookingID) fault = true) : inert bookingID config = true := by
  simp only [retiredFirst,Bool.and_eq_true,decide_eq_true_eq,List.all_eq_true,Bool.or_eq_true,Bool.not_eq_true',
    Option.isNone_iff_eq_none] at retired
  obtain ⟨released,finished⟩ := retired
  rw [settled_of_run run bookingID] at released
  refine inert_iff.mpr ⟨?_,fun thread member => ?_⟩
  · unfold due at released
    split at released
    · rename_i row found
      split at released
      · cases released
      · rename_i retired
        exact ⟨row,found,Bool.eq_false_iff.mpr retired⟩
    · cases released
  · obtain ⟨position,present⟩ := List.mem_iff_getElem?.mp member
    cases head : thread.head with
    | none => rfl
    | some statement =>
      have headAt : config.headAt position = some statement := by rw [Config.headAt,present]; exact head
      cases issues : issuesFor bookingID statement with
      | false => exact issues
      | true =>
        obtain ⟨event,recorded,rfl,confirms⟩ := confirmed_of_issues run position statement headAt issues
        rcases finished event recorded with other | ended
        · cases confirms.symm.trans other
        · cases headAt.symm.trans ended

theorem untouched_next (run : Run (service reservationTTL) guard (.idle .initial) config)
    (before : inert bookingID config = true) (taken : config.next (service reservationTTL) action = some after) :
    after.state.history.filter (touches bookingID) = config.state.history.filter (touches bookingID) := by
  obtain ⟨⟨row,found,retired⟩,idle⟩ := inert_iff.mp before
  rcases Config.next_state taken with same | ⟨index,fault,call,statement,next,rfl,present,rfl⟩
  · rw [same]
  · have quiet : issuesFor bookingID statement = false := idle _ (List.mem_of_getElem? present)
    have justified := justified_of_run (Reads.any _) furnished_initial run present
    rw [State.after_history,List.filter_cons_of_neg]
    cases statement with
    | updateStatusIfPending id status =>
      intro touched
      simp only [touches,Bool.and_eq_true,decide_eq_true_eq] at touched
      obtain ⟨rfl,confirmed⟩ := touched
      exact not_confirmed found retired confirmed
    | transitionAndReleaseSeats booking status =>
      intro touched
      simp only [touches,Bool.and_eq_true,decide_eq_true_eq] at touched
      obtain ⟨rfl,released⟩ := touched
      exact not_released found retired justified.retires.1 released
    | _ => exact Bool.eq_false_iff.mp quiet

end Steps

/-- A call whose request to the payment service failed was stopped, or is about to remove the
booking, or has left it inert. -/
def Settles (config : Pool) : Prop :=
  ∀ index request failure, ⟨index,.initiateTxnForBooking request,.error failure⟩ ∈ config.state.history →
    (∃ call, config.threads[index]? = some ⟨call,none⟩) ∨
    config.headAt index = some (.delete request.bookingID) ∨ inert request.bookingID config = true

section Runs
variable {reservationTTL : Nat} {config after : Pool} {action : Step}

private theorem leaves_next (run : Run (service reservationTTL) (Stepwise retiredFirst) (.idle .initial) config)
    (permitted : Stepwise retiredFirst config action) (taken : config.next (service reservationTTL) action = some after)
    {index : Nat} {bookingID : ID} (deletes : config.headAt index = some (.delete bookingID)) :
    (∃ call, after.threads[index]? = some ⟨call,none⟩) ∨ after.headAt index = some (.delete bookingID) ∨
      inert bookingID after = true := by
  obtain ⟨call,next,found⟩ := Config.headAt_thread deletes
  by_cases steps : ∃ fault, action = .step index fault
  · obtain ⟨fault,rfl⟩ := steps
    exact .inr (.inr (inert_next run (inert_of_retired run (permitted.meets found)) taken))
  by_cases stops : action = .stop index
  · subst stops
    obtain ⟨stopped,program,present,rfl⟩ := Config.next_stop _ _ _ _ taken
    exact .inl ⟨stopped,List.getElem?_set_self (List.getElem?_eq_some_iff.mp present).1⟩
  · have kept := Config.thread_kept taken found (fun fault same => steps ⟨fault,same⟩) stops
    refine .inr (.inl ?_)
    rw [Config.headAt,kept]
    rfl

private theorem settles_new {call : Call} {statement : Statement} {next : Reply statement → Program Statement Reply Result}
    {index thread : Nat} {fault : Fault} {request : InitiateRequest} {failure : DbError}
    (run : Run (service reservationTTL) (Stepwise retiredFirst) (.idle .initial) config)
    (found : config.threads[thread]? = some ⟨call,some (.perform statement next)⟩)
    (new : (⟨index,.initiateTxnForBooking request,.error failure⟩ : Concurrency.Event Statement Reply) =
      ⟨thread,statement,(execute statement fault config.state.world).1⟩) :
    index = thread ∧ (next (execute statement fault config.state.world).1).head = some (.delete request.bookingID) := by
  have same : statement = .initiateTxnForBooking request := (congrArg Event.op new).symm
  subst same
  obtain ⟨sameIndex,_,sameReply⟩ := Event.mk.inj new
  have failed : (execute (.initiateTxnForBooking request) fault config.state.world).1 = .error failure :=
    (eq_of_heq sameReply).symm
  have cleans := (Run.linked (program_cleansUp reservationTTL) run found (.error failure)).1
  rw [failed]
  exact ⟨sameIndex,cleans⟩

private theorem settles_next (run : Run (service reservationTTL) (Stepwise retiredFirst) (.idle .initial) config)
    (before : Settles config) (permitted : Stepwise retiredFirst config action)
    (taken : config.next (service reservationTTL) action = some after) : Settles after := by
  intro index request failure member
  by_cases old : ⟨index,.initiateTxnForBooking request,.error failure⟩ ∈ config.state.history
  · rcases before index request failure old with ⟨call,stopped⟩ | deletes | gone
    · refine .inl ⟨call,Config.thread_kept taken stopped ?_ ?_⟩
      · rintro fault rfl
        obtain ⟨_,_,_,found,_⟩ := Config.next_step _ _ _ _ _ taken
        cases stopped.symm.trans found
      · rintro rfl
        obtain ⟨_,_,found,_⟩ := Config.next_stop _ _ _ _ taken
        cases stopped.symm.trans found
    · exact leaves_next run permitted taken deletes
    · exact .inr (.inr (inert_next run gone taken))
  rcases Config.next_state taken with same | ⟨other,fault,call,statement,next,rfl,found,rfl⟩
  · rw [same] at member
    exact absurd member old
  · rcases List.mem_cons.mp member with new | earlier
    · obtain ⟨rfl,cleans⟩ := settles_new run found new
      refine .inr (.inl ?_)
      rw [Config.headAt,List.getElem?_set_self (List.getElem?_eq_some_iff.mp found).1]
      exact cleans
    · exact absurd earlier old

theorem settles_of_run (run : Run (service reservationTTL) (Stepwise retiredFirst) (.idle .initial) config) :
    Settles config := by
  refine run.invariant Settles (fun _ _ _ member => by cases member) ?_
  exact fun config action after run before permitted taken => settles_next run before permitted taken

theorem inert_of_run {bookingID : ID} {guard : Pool → Step → Prop} {last : Pool}
    (run : Run (service reservationTTL) guard (.idle .initial) config) (before : inert bookingID config = true)
    (later : Run (service reservationTTL) guard config last) : inert bookingID last = true ∧
      last.state.history.filter (touches bookingID) = config.state.history.filter (touches bookingID) := by
  refine later.invariant (fun last => inert bookingID last = true ∧
    last.state.history.filter (touches bookingID) = config.state.history.filter (touches bookingID)) ⟨before,rfl⟩ ?_
  intro middle action next between ⟨still,same⟩ _ taken
  exact ⟨inert_next (run.trans between) still taken,(untouched_next (run.trans between) still taken).trans same⟩

end Runs

def Alone (index : Nat) (_ : Pool) (action : Step) : Prop := ∃ fault, action = .step index fault

section Alone
variable {reservationTTL index : Nat} {config last : Pool} {sent : InitiateRequest} {failure : DbError}

theorem live_of_settled {bookingID : ID} {state : View} (settled : Settled state)
    (present : (state.world.db.bookings.find? bookingID).isSome) (unreleased : releases state.history bookingID = 0) :
    state.world.db.liveBooking bookingID = true := by
  have none_due : due state.world.db bookingID = 0 := (settled bookingID).symm.trans unreleased
  obtain ⟨row,found⟩ := Option.isSome_iff_exists.mp present
  rw [due,found] at none_due
  rw [Database.liveBooking,found]
  cases live : row.status.live with
  | true => exact live
  | false => simp [live] at none_due

theorem live_undisturbed (run : Run (service reservationTTL) Anything (.idle .initial) config)
    (failed : ⟨index,.initiateTxnForBooking sent,.error failure⟩ ∈ config.state.history)
    (deletes : config.headAt index = some (.delete sent.bookingID))
    (unreleased : releases config.state.history sent.bookingID = 0)
    (alone : Run (service reservationTTL) (Alone index) config last) :
    last.state.world.db.liveBooking sent.bookingID = true := by
  have present : (config.state.world.db.bookings.find? sent.bookingID).isSome := (asks_of_run run ⟨index,_,failed⟩).1
  obtain ⟨call,next,found⟩ := Config.headAt_thread deletes
  have reserves : ∀ booking status, ¬Footprint call (.transitionAndReleaseSeats booking status) := by
    have within := run.issues (program_issues reservationTTL) found
    cases call <;> first | exact fun _ _ => id | cases within
  have whole {middle : Pool} (between : Run (service reservationTTL) (Alone index) config middle) :
      Run (service reservationTTL) Anything (.idle .initial) middle := run.trans (between.mono fun _ _ _ => trivial)
  -- a reservation gives seats back, but moves no booking
  have steady := alone.invariant (fun middle => releases middle.state.history sent.bookingID = 0 ∧
    ∃ program, middle.threads[index]? = some ⟨call,program⟩) ⟨unreleased,_,found⟩ ?_
  · have persists := persists_of_run furnished_initial run (alone.mono fun _ _ _ => trivial)
    exact live_of_settled (settled_of_run (whole alone)) (persists.stored present) steady.1
  · rintro middle action after between ⟨still,program,thread⟩ ⟨fault,rfl⟩ taken
    obtain ⟨_,statement,next,issued,rfl⟩ := Config.next_step _ _ _ _ _ taken
    cases thread.symm.trans issued
    have within : Footprint call statement := (whole between).issues (program_issues reservationTTL) issued
    refine ⟨?_,_,List.getElem?_set_self (List.getElem?_eq_some_iff.mp issued).1⟩
    rw [State.after_history,releases_other]
    · exact still
    · rintro booking status rfl
      exact reserves booking status within

end Alone

/-- Where every booking is expired or cancelled by the time its `DELETE` is issued, a reservation that failed for its
payment stays without effect. Where it is not, the booking is still live when the reservation has failed, unless
another call comes in between. -/
theorem failed_reservation_inert (reservationTTL : Nat) (settings : Payment.Settings) :
    (∀ (middle last : System) (index : Nat) (userID : ID) (userEmail : String) (request : ReserveRequest)
      (sent : InitiateRequest) (failure : DbError) (error : Error),
      Path (next reservationTTL settings) (Under (Stepwise retiredFirst) Anything) .initial middle →
      ⟨index,.initiateTxnForBooking sent,.error failure⟩ ∈ middle.1.state.history →
      middle.1.returned index = some (.reserve userID userEmail request,.reservation (.error error)) →
      Path (next reservationTTL settings) (Under (Stepwise retiredFirst) Anything) middle last →
      last.1.state.world.db.liveBooking sent.bookingID = false ∧
        last.1.state.history.filter (touches sent.bookingID) =
          middle.1.state.history.filter (touches sent.bookingID)) ∧
    ∀ (config last : Pool) (index : Nat) (sent : InitiateRequest) (failure : DbError),
      Run (service reservationTTL) Anything (.idle .initial) config →
      ⟨index,.initiateTxnForBooking sent,.error failure⟩ ∈ config.state.history →
      config.headAt index = some (.delete sent.bookingID) → releases config.state.history sent.bookingID = 0 →
      Run (service reservationTTL) (Alone index) config last →
      last.state.world.db.liveBooking sent.bookingID = true := by
  constructor
  · intro middle last index userID userEmail request sent failure error before failed returned after
    have earlier : Run (service reservationTTL) (Stepwise retiredFirst) (.idle .initial) middle.1 :=
      before.left fun _ _ permitted => permitted.2
    have later : Run (service reservationTTL) (Stepwise retiredFirst) middle.1 last.1 :=
      after.left fun _ _ permitted => permitted.2
    have present := Config.returned_thread returned
    have gone : inert sent.bookingID middle.1 = true := by
      rcases settles_of_run earlier index sent failure failed with ⟨call,stopped⟩ | deletes | gone
      · cases stopped.symm.trans present
      · rw [Config.headAt,present] at deletes
        cases deletes
      · exact gone
    obtain ⟨finally_,untouched⟩ := inert_of_run earlier gone later
    obtain ⟨⟨row,found,retired⟩,_⟩ := inert_iff.mp finally_
    refine ⟨?_,untouched⟩
    rw [Database.liveBooking,found]
    exact retired
  · intro config last index sent failure run failed deletes unreleased alone
    exact live_undisturbed run failed deletes unreleased alone

def timedOut : List Step :=
  publication ++ .start (.reserve 3 "e" fourTickets) :: undisturbed 2 7 ++ [.step 2 (.broken 0)]

def withdrawn : List Step :=
  .start (.cancelEvent 0 7) :: undisturbed 3 6 ++ .start .processBatch :: undisturbed 4 3 ++
    .start (.cancelBookings 0) :: undisturbed 5 3

/-- The transaction is created, paid for, and the payment published. -/
def paid : List Payment.Step :=
  .start (.initiateTxnForBooking ⟨2,0,3,"e",20,900000000000⟩) :: Payment.undisturbed 0 2 ++
    .start (.processPayment 2 3) :: Payment.undisturbed 1 7 ++
    .start (.handleSessionWebhook (some ⟨.completed,some 2,"ps",""⟩)) :: Payment.undisturbed 2 4 ++
    .start .processBatch :: Payment.undisturbed 3 3

def refusals (history : List (Concurrency.Event Statement Reply)) : List (Nat × InitiateRequest) :=
  history.filterMap fun
    | ⟨index,.initiateTxnForBooking request,.error _⟩ => some (index,request)
    | _ => none

private theorem refused_mem {history : List (Concurrency.Event Statement Reply)} {index : Nat} {request : InitiateRequest}
    (refused : (index,request) ∈ refusals history) :
    ∃ failure, ⟨index,.initiateTxnForBooking request,.error failure⟩ ∈ history := by
  obtain ⟨event,member,same⟩ := List.mem_filterMap.mp refused
  split at same
  · rename_i failure
    cases same
    exact ⟨failure,member⟩
  · cases same

/-- The reservation fails after its event was cancelled; a payment that still comes in is of no use. -/
theorem failed_reservation_inert_cancelled : ∃ middle last : System,
    Path (next 900000000000 Payment.sandbox) (Under (Stepwise retiredFirst) Anything) .initial middle ∧
    middle.1.returned 2 = some (.reserve 3 "e" fourTickets,.reservation (.error .paymentUnavailable)) ∧
    Path (next 900000000000 Payment.sandbox) (Under (Stepwise retiredFirst) Anything) middle last ∧
    last.1.returned 6 = some (.confirm 2 0,.unit (.ok ())) ∧
    last.1.state.world.db.liveBooking 2 = false := by
  obtain ⟨middle,before,outcome⟩ := exists_path_of_follow (next 900000000000 Payment.sandbox)
    (Under (Stepwise retiredFirst) Anything) ((timedOut ++ withdrawn ++ undisturbed 2 2).map .inl) .initial
    (fun (middle : System) => (2,⟨2,0,3,"e",20,900000000000⟩) ∈ refusals middle.1.state.history &&
      middle.1.returned 2 = some (.reserve 3 "e" fourTickets,.reservation (.error .paymentUnavailable)) &&
      (follow (next 900000000000 Payment.sandbox) (Under (Stepwise retiredFirst) Anything) middle
        (paid.map .inr ++ (.start (.confirm 2 0) :: undisturbed 6 2).map .inl)).any fun (last : System) =>
        last.1.returned 6 = some (.confirm 2 0,.unit (.ok ()))) (by decide +kernel)
  simp only [Bool.and_eq_true,decide_eq_true_eq,Option.any_eq_true] at outcome
  obtain ⟨⟨refused,returned⟩,last,followed,confirmed⟩ := outcome
  obtain ⟨failure,failed⟩ := refused_mem refused
  have after := path_of_follow _ _ _ _ _ followed
  exact ⟨middle,last,before,returned,after,confirmed,
    ((failed_reservation_inert _ _).1 middle last 2 3 "e" _ _ failure _ before failed returned after).1⟩

/-- The payment service has stored the transaction and the user pays: the reservation that
has failed is confirmed and its tickets are issued. -/
theorem failed_reservation_confirmed : ¬∀ (reservationTTL : Nat) (settings : Payment.Settings) (middle last : System)
    (index : Nat) (userID : ID) (userEmail : String) (request : ReserveRequest) (sent : InitiateRequest)
    (failure : DbError) (error : Error),
    Path (next reservationTTL settings) Delivers .initial middle →
    ⟨index,.initiateTxnForBooking sent,.error failure⟩ ∈ middle.1.state.history →
    middle.1.returned index = some (.reserve userID userEmail request,.reservation (.error error)) →
    Path (next reservationTTL settings) Delivers middle last →
    last.1.state.world.db.liveBooking sent.bookingID = false ∧
      last.1.state.history.filter (touches sent.bookingID) =
        middle.1.state.history.filter (touches sent.bookingID) := by
  intro inert
  obtain ⟨middle,before,outcome⟩ := exists_path_of_follow (next 900000000000 Payment.sandbox)
    Delivers ((timedOut ++ undisturbed 2 2).map .inl) .initial
    (fun (middle : System) => (2,⟨2,0,3,"e",20,900000000000⟩) ∈ refusals middle.1.state.history &&
      middle.1.returned 2 = some (.reserve 3 "e" fourTickets,.reservation (.error .paymentUnavailable)) &&
      (follow (next 900000000000 Payment.sandbox) Delivers middle
        (paid.map .inr ++ (.start (.confirm 2 0) :: undisturbed 3 5).map .inl)).any fun (last : System) =>
        (last.1.state.history.filter (touches 2)).length =
          (middle.1.state.history.filter (touches 2)).length + 2) (by decide +kernel)
  simp only [Bool.and_eq_true,decide_eq_true_eq,Option.any_eq_true] at outcome
  obtain ⟨⟨refused,returned⟩,last,followed,more⟩ := outcome
  obtain ⟨failure,failed⟩ := refused_mem refused
  have same : last.1.state.history.filter (touches 2) = middle.1.state.history.filter (touches 2) :=
    (inert _ _ middle last 2 3 "e" _ _ failure _ before failed returned (path_of_follow _ _ _ _ _ followed)).2
  rw [same] at more
  omega

end Ticketbus.Deployment
