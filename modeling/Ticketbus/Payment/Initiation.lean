import Ticketbus.Payment.Settlement
import Ticketbus.Concurrency.Conversation

/-! One transaction a booking. `InitiateTxnForBooking` inserts and, where that runs into a duplicate key, looks for
the row that is there already, whatever has become of it in the meantime. -/
namespace Ticketbus.Payment
open Ticketbus.Concurrency Ticketbus.Relational

theorem Transaction.MadeFor.fixed {txn other : Transaction} {request : InternalCreateRequest}
    (made : other.MadeFor request) (same : txn.fixed = other.fixed) : txn.MadeFor request where
  bookingID := (congrArg Transaction.bookingID same).trans made.bookingID
  userID := (congrArg Transaction.userID same).trans made.userID
  eventID := (congrArg Transaction.eventID same).trans made.eventID
  amountRupiah := (congrArg Transaction.amountRupiah same).trans made.amountRupiah
  currency := (congrArg Transaction.currency same).trans made.currency
  expiresAt := (congrArg Transaction.expiresAt same).trans made.expiresAt

def names : Exchange Statement Reply → Option (ID × ID)
  | ⟨.create txn,.ok _⟩ => some (txn.bookingID,txn.id)
  | ⟨.findByBookingID bookingID,.ok txn⟩ => some (bookingID,txn.id)
  | _ => none

/-- An INSERT for the booking that was committed. -/
def commits (bookingID : ID) : Concurrency.Event Statement Reply → Bool
  | ⟨_,.create txn,.ok _⟩ => txn.bookingID = bookingID
  | _ => false

def CreatesFor (call : Call) : Statement → Prop
  | .create txn => ∃ request, call = .initiateTxnForBooking request ∧ txn.MadeFor request
  | _ => True

theorem program_createsFor (settings : Settings) (call : Call) : (program settings call).Issues (CreatesFor call) := by
  refine (program_issues settings call).mono fun statement inside => ?_
  cases statement with
  | create txn =>
    cases call with
    | initiateTxnForBooking request => exact ⟨request,rfl,inside⟩
    | _ => exact inside.elim
  | _ => trivial

theorem initiate_names (settings : Settings) (request : InternalCreateRequest) :
    (program settings (.initiateTxnForBooking request)).Yields fun exchanges result =>
      ∀ txn, result = .transaction (.ok txn) →
        ∃ exchange ∈ exchanges, names exchange = some (request.bookingID,txn.id) := by
  apply Program.Yields.map
  intro id created
  rcases created with error | _
  · cases error with
    | uniqueViolation =>
      intro found
      rcases found with error | existing
      · intro txn isResult
        cases isResult
      · intro txn isResult
        cases isResult
        exact ⟨_,.tail _ (.tail _ (.head _)),rfl⟩
    | _ =>
      intro txn isResult
      cases isResult
  · intro txn isResult
    cases isResult
    exact ⟨_,.tail _ (.head _),rfl⟩

structure Initiated (config : Pool) : Prop where
  named : ∀ event ∈ config.state.history, ∀ bookingID id, names ⟨event.op,event.reply⟩ = some (bookingID,id) →
    ∃ row, config.state.world.db.transactions.find? id = some row ∧ row.bookingID = bookingID
  single : ∀ bookingID, config.state.history.countP (commits bookingID) ≤ 1
  made : ∀ row ∈ config.state.world.db.transactions.rows, ∃ thread request txn,
    ⟨thread,.create txn,.ok ()⟩ ∈ config.state.history ∧
    config.calls[thread]? = some (.initiateTxnForBooking request) ∧ txn.id = row.id ∧ row.transaction.MadeFor request

section Runs
variable {settings : Settings} {config after : Pool}

theorem commits_names {bookingID : ID} {event : Concurrency.Event Statement Reply} (committed : commits bookingID event = true) :
    ∃ id, names ⟨event.op,event.reply⟩ = some (bookingID,id) := by
  obtain ⟨thread,statement,reply⟩ := event
  cases statement with
  | create txn =>
    cases reply with
    | ok _ => exact ⟨txn.id,by simpa [names,commits] using committed⟩
    | error _ => cases committed
  | _ => cases committed

theorem create_executed {txn : Transaction} {fault : Fault} {world later : World}
    (executed : execute settings (.create txn) fault world = (.ok (),later)) :
    world.db.transactionOf txn.bookingID = none ∧
      ∃ row, later.db.transactions.find? txn.id = some row ∧ row.bookingID = txn.bookingID := by
  obtain ⟨db,ok,rfl⟩ := write_committed executed
  obtain ⟨row,fresh,unbooked,stored,rfl⟩ := Database.create_ok ok
  have booking : row.bookingID = txn.bookingID := (congrArg Transaction.bookingID stored).trans rfl
  have key : row.id = txn.id := (congrArg Transaction.id stored).trans rfl
  refine ⟨booking ▸ unbooked,row,?_,booking⟩
  change (world.db.transactions.insert row fresh).find? txn.id = some row
  rw [Table.find?_insert,if_pos key]

theorem execute_names {statement : Statement} {fault : Fault} {world : World} {bookingID id : ID}
    (named : names ⟨statement,(execute settings statement fault world).1⟩ = some (bookingID,id)) :
    ∃ row, (execute settings statement fault world).2.db.transactions.find? id = some row ∧ row.bookingID = bookingID := by
  generalize executed : execute settings statement fault world = outcome at named ⊢
  obtain ⟨reply,later⟩ := outcome
  cases statement with
  | create txn =>
    cases reply with
    | ok _ =>
      cases named
      exact (create_executed executed).2
    | error _ => cases named
  | findByBookingID sought =>
    cases reply with
    | ok txn =>
      cases named
      cases query_eq executed
      obtain ⟨row,found,rfl,booking⟩ := Database.findByBookingID_ok (query_ok (congrArg Prod.fst executed))
      exact ⟨row,found,booking⟩
    | error _ => cases named
  | _ => cases named

theorem execute_commits {thread : Nat} {statement : Statement} {fault : Fault} {world : World} {bookingID : ID}
    (committed : commits bookingID ⟨thread,statement,(execute settings statement fault world).1⟩ = true) :
    world.db.transactionOf bookingID = none := by
  generalize executed : execute settings statement fault world = outcome at committed
  obtain ⟨reply,later⟩ := outcome
  cases statement with
  | create txn =>
    cases reply with
    | ok _ =>
      have booking : txn.bookingID = bookingID := of_decide_eq_true committed
      exact booking ▸ (create_executed executed).1
    | error _ => cases committed
  | _ => cases committed

theorem Initiated.uncommitted (initiated : Initiated config) {bookingID : ID}
    (unbooked : config.state.world.db.transactionOf bookingID = none) :
    config.state.history.countP (commits bookingID) = 0 := by
  apply List.countP_eq_zero.mpr
  intro event member committed
  obtain ⟨id,named⟩ := commits_names committed
  obtain ⟨row,found,booking⟩ := initiated.named event member bookingID id named
  have absent := List.find?_eq_none.mp unbooked row (Table.find?_mem found)
  exact absent (decide_eq_true booking)

theorem execute_made {statement : Statement} {fault : Fault} {world later : World} {reply : Reply statement}
    (executed : execute settings statement fault world = (reply,later)) {row : TransactionRow}
    (member : row ∈ later.db.transactions.rows) :
    (∃ old ∈ world.db.transactions.rows, row.transaction.fixed = old.transaction.fixed) ∨
    ∃ txn, (⟨statement,reply⟩ : Exchange Statement Reply) = ⟨.create txn,.ok ()⟩ ∧
      row.transaction = {txn with createdAt := world.clock} := by
  have stored : row ∈ (execute settings statement fault world).2.db.transactions.rows := by rwa [executed]
  rcases execute_origin stored with old | ⟨txn,rfl,same⟩
  · exact .inl old
  · rcases write_eq executed with ⟨_,_,rfl,_⟩ | ⟨_,_,rfl⟩
    · exact .inr ⟨txn,rfl,same⟩
    · exact .inl ⟨row,member,rfl⟩

theorem Initiated.step (initiated : Initiated config) {index : Nat} {call : Call} {statement : Statement} {fault : Fault}
    {next : Reply statement → Task Result} (found : config.threads[index]? = some ⟨call,some (.perform statement next)⟩)
    (creates : CreatesFor call statement)
    (persists : Persists config.state.world (execute settings statement fault config.state.world).2) :
    Initiated ⟨config.state.after (service settings) index statement fault,config.threads.set index
      ⟨call,some (next (execute settings statement fault config.state.world).1)⟩⟩ := by
  constructor
  · intro event member bookingID id named
    rcases List.mem_cons.mp member with rfl | old
    · exact execute_names named
    · obtain ⟨row,stored,booking⟩ := initiated.named event old bookingID id named
      obtain ⟨later,isLater,fixed,_⟩ := persists.transactions id row stored
      exact ⟨later,isLater,(Transaction.bookingID_fixed fixed).trans booking⟩
  · intro bookingID
    rw [State.after_history,List.countP_cons]
    split
    · -- the unique key lets an INSERT through only when none was committed before
      rename_i committed
      rw [initiated.uncommitted (execute_commits committed)]
    · exact initiated.single bookingID
  · intro row member
    have calls := Config.calls_set found (some (next (execute settings statement fault config.state.world).1))
    unfold Config.calls
    rw [calls,State.after_history]
    rcases execute_made (Prod.eta _).symm member with ⟨old,stored,fixed⟩ | ⟨txn,isCreate,stored⟩
    · obtain ⟨thread,request,txn,executed,caller,key,made⟩ := initiated.made old stored
      have same : old.id = row.id := (congrArg Transaction.id fixed).symm
      exact ⟨thread,request,txn,.tail _ executed,caller,key.trans same,made.fixed fixed⟩
    · cases congrArg Sigma.fst isCreate
      obtain ⟨request,rfl,made⟩ := creates
      have reply : (execute settings (.create txn) fault config.state.world).1 = .ok () := by simpa using isCreate
      have key : txn.id = row.id := (congrArg Transaction.id stored).symm
      refine ⟨index,request,txn,?_,Config.callAt_thread found,key,stored ▸ ⟨made.1,made.2,made.3,made.4,made.5,made.6⟩⟩
      change _ ∈ Concurrency.Event.mk index _ (execute settings (.create txn) fault config.state.world).1 :: _
      rw [reply]
      exact .head _

theorem initiated_of_run {guard : Pool → Step → Prop} (run : Run (service settings) guard (.idle .initial) config) :
    Initiated config := by
  apply run.invariant Initiated
  · exact ⟨by simp [Config.idle],by simp [Config.idle],fun row member => by cases member⟩
  · intro config action after before initiated _ taken
    have persists := persists_of_next .initial before taken
    rcases Config.next_state taken with same | ⟨index,fault,call,statement,next,rfl,found,rfl⟩
    · constructor
      · rw [same]
        exact initiated.named
      · rw [same]
        exact initiated.single
      · rw [same]
        intro row member
        obtain ⟨thread,request,txn,executed,caller,rest⟩ := initiated.made row member
        exact ⟨thread,request,txn,executed,Config.callAt_kept taken caller,rest⟩
    · exact initiated.step found (Run.issues (program_createsFor settings) before found) persists

end Runs

/-- Whatever runs beside them, calls for one booking commit one INSERT at most, and what it says stays; a call that
returns a transaction returns the one row of its booking, also when its state has changed since. -/
theorem initiation_idempotent (settings : Settings) (config last : Pool)
    (run : Run (service settings) Anything (.idle .initial) config) (later : Run (service settings) Anything config last)
    (bookingID : ID) :
    (last.state.world.db.transactions.rows.filter (fun row => row.bookingID = bookingID)).length ≤ 1 ∧
    last.state.history.countP (commits bookingID) ≤ 1 ∧
    (∀ row ∈ last.state.world.db.transactions.rows, row.bookingID = bookingID → ∃ thread request txn,
      ⟨thread,.create txn,.ok ()⟩ ∈ last.state.history ∧
      last.calls[thread]? = some (.initiateTxnForBooking request) ∧ txn.id = row.id ∧ row.transaction.MadeFor request) ∧
    ∀ index request txn, config.returned index = some (.initiateTxnForBooking request,.transaction (.ok txn)) →
      request.bookingID = bookingID → ∃ row ∈ last.state.world.db.transactions.rows,
        row.bookingID = bookingID ∧ row.id = txn.id := by
  have initiated := initiated_of_run (Concurrency.Path.trans run later)
  refine ⟨?_,initiated.single bookingID,fun row member _ => initiated.made row member,?_⟩
  · have once := List.nodup_iff_count_le_one.mp last.state.world.db.bookings_unique bookingID
    rw [List.count,List.countP_map,List.countP_eq_length_filter] at once
    exact once
  · rintro index request txn returned rfl
    have yields := (Talked.of_run run).yields returned (initiate_names settings request)
    obtain ⟨⟨statement,reply⟩,said,named⟩ := yields txn rfl
    have recorded := Run.event_kept later (State.mem_exchanges.mp said)
    obtain ⟨row,found,booking⟩ := initiated.named _ recorded _ _ named
    exact ⟨row,Table.find?_mem found,booking,Table.find?_key found⟩

/-- Two calls for booking 7 that ask for different amounts: the second one runs into the row of the first, and finds
it when it has been paid. -/
theorem initiation_idempotent_twice : ∃ config : Pool, Run (service sandbox) Anything (.idle .initial) config ∧
    (∃ txn, config.returned 1 = some (.initiateTxnForBooking ⟨7,2,6,"f",200,20 * minute⟩,.transaction (.ok txn)) ∧
      txn.status = .completed) ∧
    (∃ row ∈ config.state.world.db.transactions.rows, row.bookingID = 7 ∧ row.id = 0) ∧
    config.state.history.countP (commits 7) ≤ 1 := by
  obtain ⟨config,run,outcome⟩ := exists_run_of_replay (service sandbox) Anything
    (.start (.initiateTxnForBooking ⟨7,1,5,"e",100,10 * minute⟩) ::
      .start (.initiateTxnForBooking ⟨7,2,6,"f",200,20 * minute⟩) ::
      undisturbed 0 1 ++ undisturbed 1 1 ++ undisturbed 0 1 ++ undisturbed 1 1 ++
      .start (.handleSessionWebhook (some ⟨.completed,some 7,"",""⟩)) :: undisturbed 2 4 ++ undisturbed 1 1)
    (.idle .initial)
    (fun config => config.returned 1 = some (.initiateTxnForBooking ⟨7,2,6,"f",200,20 * minute⟩,
      .transaction (.ok ⟨0,5,7,1,100,"IDR",.completed,"sandbox","","","e",.none,some (10 * minute),0⟩)))
    (by decide +kernel)
  have returned := of_decide_eq_true outcome
  obtain ⟨_,once,_,ids⟩ := initiation_idempotent sandbox config config run .refl 7
  exact ⟨config,run,⟨_,returned,rfl⟩,ids 1 _ _ returned rfl,once⟩

end Ticketbus.Payment
