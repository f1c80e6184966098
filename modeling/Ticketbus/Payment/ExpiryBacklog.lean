import Ticketbus.Payment.Settlement
import Ticketbus.Concurrency.Sequential

/-! The backlog of the expiry poller. A pass lists the overdue transactions with the earliest deadlines and
expires them one by one, with an outbox row for each; what it has expired is not listed again. -/
namespace Ticketbus.Payment
open Ticketbus.Concurrency Ticketbus.Relational

/-- A call to the store that failed, or a listing that broke off. -/
def storeFails : Exchange Statement Reply → Bool
  | ⟨.listActiveExpired _ _,reply⟩ => decide (reply.map Rows.err ≠ .ok none)
  | ⟨.transitionIfActive _ _ _,reply⟩ => !reply.isOk
  | ⟨.outbox (.insert _),reply⟩ => !reply.isOk
  | _ => false

def Transaction.deadline (txn : Transaction) : Time := txn.expiresAt.getD 0

namespace Database

/-- The active transactions whose deadline has passed. -/
def backlog (db : Database) (now : Time) : List Transaction :=
  (db.transactions.rows.map TransactionRow.transaction).filter (overdue now)

theorem mem_backlog {db : Database} {now : Time} {txn : Transaction} : txn ∈ db.backlog now ↔
    ∃ row, db.transactions.find? txn.id = some row ∧ row.transaction = txn ∧ overdue now txn = true := by
  simp only [backlog,List.mem_filter,List.mem_map]
  constructor
  · rintro ⟨⟨row,member,rfl⟩,late⟩
    exact ⟨row,Table.find?_of_mem member,rfl,late⟩
  · rintro ⟨row,found,rfl,late⟩
    exact ⟨⟨row,Table.find?_mem found,rfl⟩,late⟩

theorem backlog_distinct (db : Database) (now : Time) : ((db.backlog now).map Transaction.id).Nodup := by
  have all : (db.transactions.rows.map TransactionRow.id).Nodup := db.transactions.distinct
  have same : db.transactions.rows.map TransactionRow.id =
      (db.transactions.rows.map TransactionRow.transaction).map Transaction.id := by
    rw [List.map_map]
    rfl
  rw [same] at all
  exact all.sublist (List.filter_sublist.map _)

section Batch
variable {db : Database} {now : Time} {limit : Nat}

theorem listActiveExpired_mem {txn : Transaction} (member : txn ∈ db.listActiveExpired now limit) :
    txn ∈ db.backlog now :=
  (List.mem_insertionSort _).mp (List.mem_of_mem_take member)

theorem listActiveExpired_distinct : ((db.listActiveExpired now limit).map Transaction.id).Nodup := by
  have sorted := ((List.perm_insertionSort (fun left right : Transaction => left.deadline ≤ right.deadline)
    (db.backlog now)).map Transaction.id).nodup_iff.mpr (backlog_distinct db now)
  exact sorted.sublist ((List.take_sublist _ _).map _)

theorem listActiveExpired_length (db : Database) (now : Time) (limit : Nat) :
    (db.listActiveExpired now limit).length = min limit (db.backlog now).length := by
  unfold listActiveExpired
  rw [List.length_take,List.length_insertionSort]
  rfl

theorem listActiveExpired_first {txn other : Transaction} (member : txn ∈ db.listActiveExpired now limit)
    (waits : other ∈ db.backlog now) (left : other ∉ db.listActiveExpired now limit) : txn.deadline ≤ other.deadline := by
  let order : Transaction → Transaction → Prop := fun left right => left.deadline ≤ right.deadline
  have total : Std.Total order := ⟨fun left right => le_total left.deadline right.deadline⟩
  have trans : IsTrans Transaction order := ⟨fun _ _ _ => le_trans⟩
  have sorted := List.pairwise_insertionSort order (db.backlog now)
  rw [← List.take_append_drop limit (List.insertionSort order (db.backlog now))] at sorted
  apply (List.pairwise_append.mp sorted).2.2 txn member other
  have inside := (List.mem_insertionSort order).mpr waits
  rw [← List.take_append_drop limit (List.insertionSort order (db.backlog now))] at inside
  exact (List.mem_append.mp inside).resolve_left left

end Batch
end Database

structure Drained (now : Time) (before after : World) (done : List Transaction) : Prop where
  clock : after.clock = before.clock
  stored : ∀ txn ∈ done, txn ∈ before.db.backlog now
  distinct : (done.map Transaction.id).Nodup
  expired : ∀ txn ∈ done, ∃ row, after.db.transactions.find? txn.id = some row ∧ row.transaction.status = .expired
  others : ∀ id, id ∉ done.map Transaction.id → after.db.transactions.find? id = before.db.transactions.find? id
  messages : after.outbox.messages = before.outbox.messages ++
    done.map fun txn => PaymentService.paymentExpired txn .internalExpiryFallback now

namespace Drained
variable {now : Time} {before middle after : World} {done more : List Transaction}

theorem refl (now : Time) (world : World) : Drained now world world [] :=
  ⟨rfl,by simp,by simp,by simp,fun _ _ => rfl,by simp⟩

theorem mem_backlog (drained : Drained now before after done) (txn : Transaction) :
    txn ∈ after.db.backlog now ↔ txn ∈ before.db.backlog now ∧ txn ∉ done := by
  by_cases named : txn.id ∈ done.map Transaction.id
  · obtain ⟨other,member,same⟩ := List.mem_map.mp named
    have inside := drained.stored other member
    constructor
    · intro waits
      obtain ⟨row,found,rfl,late⟩ := Database.mem_backlog.mp waits
      obtain ⟨stored,isStored,expired⟩ := drained.expired other member
      rw [same,found] at isStored
      cases isStored
      simp [Database.overdue,expired,TransactionStatus.active] at late
    · rintro ⟨waits,absent⟩
      have equal := List.inj_on_of_nodup_map (before.db.backlog_distinct now) inside waits same
      exact absurd (equal ▸ member) absent
  · have absent : txn ∉ done := fun member => named (List.mem_map_of_mem member)
    rw [Database.mem_backlog,drained.others txn.id named,← Database.mem_backlog]
    simp [absent]

theorem trans (first : Drained now before middle done) (second : Drained now middle after more) :
    Drained now before after (done ++ more) := by
  have apart (txn : Transaction) (member : txn ∈ more) : txn.id ∉ done.map Transaction.id := by
    intro named
    obtain ⟨other,isDone,same⟩ := List.mem_map.mp named
    obtain ⟨waits,absent⟩ := (first.mem_backlog txn).mp (second.stored txn member)
    have equal := List.inj_on_of_nodup_map (before.db.backlog_distinct now) (first.stored other isDone) waits same
    exact absent (equal ▸ isDone)
  constructor
  · exact second.clock.trans first.clock
  · intro txn member
    rcases List.mem_append.mp member with isDone | isMore
    · exact first.stored txn isDone
    · exact ((first.mem_backlog txn).mp (second.stored txn isMore)).1
  · rw [List.map_append]
    apply first.distinct.append second.distinct
    intro id isDone isMore
    obtain ⟨txn,member,rfl⟩ := List.mem_map.mp isMore
    exact apart txn member isDone
  · intro txn member
    rcases List.mem_append.mp member with isDone | isMore
    · obtain ⟨row,found,expired⟩ := first.expired txn isDone
      refine ⟨row,?_,expired⟩
      rw [second.others txn.id,found]
      intro named
      obtain ⟨other,isMore,same⟩ := List.mem_map.mp named
      exact apart other isMore (same ▸ List.mem_map_of_mem isDone)
    · exact second.expired txn isMore
  · intro id absent
    rw [List.map_append,List.mem_append,not_or] at absent
    rw [second.others id absent.2,first.others id absent.1]
  · rw [second.messages,first.messages,List.map_append,List.append_assoc]

theorem length (drained : Drained now before after done) :
    (before.db.backlog now).length = done.length + (after.db.backlog now).length := by
  have distinct (db : Database) : (db.backlog now).Nodup := .of_map _ (db.backlog_distinct now)
  have both : (done ++ after.db.backlog now).Nodup := by
    apply (List.Nodup.of_map _ drained.distinct).append (distinct _)
    intro txn member waits
    exact ((drained.mem_backlog txn).mp waits).2 member
  have same : (before.db.backlog now).Perm (done ++ after.db.backlog now) := by
    rw [List.perm_ext_iff_of_nodup (distinct _) both]
    intro txn
    rw [List.mem_append,drained.mem_backlog]
    constructor
    · intro waits
      by_cases member : txn ∈ done
      · exact .inl member
      · exact .inr ⟨waits,member⟩
    · rintro (member | ⟨waits,_⟩)
      · exact drained.stored txn member
      · exact waits
  rw [same.length_eq,List.length_append]

end Drained

section Pass
variable (settings : Settings)

theorem closeSession_ends (providerRef : String) (world : World) :
    (PaymentService.closeSession providerRef).Ensures (execute settings) (fun outcome =>
      outcome.world.db = world.db ∧ outcome.world.outbox = world.outbox ∧ outcome.world.clock = world.clock) world := by
  unfold PaymentService.closeSession
  split
  · intro fault
    cases fault <;> exact ⟨rfl,rfl,rfl⟩
  · exact ⟨rfl,rfl,rfl⟩

theorem drained_one {now : Time} {world told : World} {txn : Transaction} {row next : TransactionRow}
    (waits : txn ∈ world.db.backlog now) (isRow : row.id = txn.id) (change : world.db.Rewritten row next told.db)
    (expired : next.transaction.status = .expired) (clock : told.clock = world.clock)
    (messages : told.outbox.messages = world.outbox.messages ++
      [PaymentService.paymentExpired txn .internalExpiryFallback now]) : Drained now world told [txn] := by
  constructor
  · exact clock
  · simpa using waits
  · simp
  · intro other member
    cases List.mem_singleton.mp member
    exact ⟨next,by rw [change.found,if_pos isRow],expired⟩
  · intro id absent
    rw [change.found,if_neg]
    rintro rfl
    exact absent (by simp [isRow])
  · exact messages

theorem expireAll_ends (txns : List Transaction) (world : World) (waiting : ∀ txn ∈ txns, txn ∈ world.db.backlog world.clock)
    (distinct : (txns.map Transaction.id).Nodup) :
    (PaymentService.expireAll txns).Ensures (execute settings) (fun outcome =>
      (∀ exchange ∈ outcome.trace, storeFails exchange = false) → Drained world.clock world outcome.world txns) world := by
  induction txns generalizing world with
  | nil => exact fun _ => .refl _ _
  | cons txn rest ih =>
    obtain ⟨apart,remaining⟩ := List.nodup_cons.mp distinct
    have waits := waiting txn (.head _)
    obtain ⟨row,found,isRow,late⟩ := Database.mem_backlog.mp waits
    have active : row.transaction.status.active = true := by
      rw [isRow]
      exact (Bool.and_eq_true _ _ |>.mp late).1
    change Program.Ensures _ _ ((PaymentService.closeSession txn.providerRef).bind _) world
    apply Program.Ensures.bind
    apply (closeSession_ends settings txn.providerRef world).mono
    rintro ⟨_,closed,trace⟩ ⟨db,outbox,clock⟩
    apply Program.Ensures.step
    intro moving reply later executed
    rcases write_eq executed with ⟨count,moved,rfl,ok,rfl⟩ | ⟨error,rfl,_⟩
    swap
    · apply Program.Ensures.of_all
      intro last fine
      cases fine ⟨_,_⟩ (List.mem_append_right _ (.head _))
    dsimp only at db outbox clock
    rw [db] at ok
    rcases Database.transition_ok ok with ⟨_,_,refused⟩ | ⟨rfl,stored,next,isStored,_,expired,_,change⟩
    · rw [refused row found] at active
      cases active
    -- the row has moved; without its outbox row this pass is not a fine one
    intro _ inserting
    cases inserting with
    | fail | broken _ =>
      apply Program.Ensures.of_all
      intro last fine
      cases fine ⟨_,_⟩ (List.mem_append_right _ (.tail _ (.tail _ (.head _))))
    | none =>
      let message := PaymentService.paymentExpired txn .internalExpiryFallback closed.clock
      have one : Drained world.clock world {closed with db := moved, outbox := closed.outbox.insert message} [txn] := by
        apply drained_one waits isStored
        · exact change
        · exact expired
        · exact clock
        · rw [Outbox.Store.messages_insert,outbox,← clock]
      -- the rest of the list is still waiting, for its ids are others
      have later (other : Transaction) (member : other ∈ rest) : other ∈ moved.backlog closed.clock := by
        rw [clock]
        apply (one.mem_backlog other).mpr
        refine ⟨waiting other (.tail _ member),?_⟩
        intro same
        cases List.mem_singleton.mp same
        exact apart (List.mem_map_of_mem member)
      apply (ih _ later remaining).mono
      intro outcome drained fine
      have others := drained fun exchange member =>
        fine exchange (List.mem_append_right _ (.tail _ (.tail _ (.tail _ member))))
      exact one.trans (clock ▸ others)

theorem processExpired_ends (limit : Nat) (world : World) :
    (PaymentService.processExpired limit).Ensures (execute settings) (fun outcome =>
      (∀ exchange ∈ outcome.trace, storeFails exchange = false) →
        Drained world.clock world outcome.world (world.db.listActiveExpired world.clock limit)) world := by
  intro _
  apply Program.Ensures.step
  intro listing reply later executed
  cases stream_eq executed
  rcases reply with error | ⟨txns,_ | cause⟩
  · intro fine
    cases fine ⟨_,_⟩ (.tail _ (.head _))
  · have all : txns = world.db.listActiveExpired world.clock limit := stream_checked (congrArg Prod.fst executed)
    subst all
    change Program.Ensures _ _ ((PaymentService.expireAll _).bind _) world
    apply Program.Ensures.bind
    apply (expireAll_ends settings _ world (fun txn => Database.listActiveExpired_mem)
      Database.listActiveExpired_distinct).mono
    intro outcome drained fine
    apply drained
    intro exchange member
    exact fine exchange (.tail _ (.tail _ (List.mem_append_left _ member)))
  · apply Program.Ensures.of_all
    intro last fine
    cases fine ⟨_,_⟩ (.tail _ (.head _))

end Pass

/-- Passes of the poller one after the other, with no other call running. -/
def passes (settings : Settings) (limit : Nat) (runs : List (Nat → Fault)) (world : World) :
    List (Outcome Statement Reply World (Except Error Unit)) :=
  (PaymentService.processExpired limit).runs (execute settings) runs world

def afterPasses (settings : Settings) (limit : Nat) (runs : List (Nat → Fault)) (world : World) : World :=
  (PaymentService.processExpired limit).afterRuns (execute settings) runs world

theorem passes_drain (settings : Settings) (limit : Nat) (runs : List (Nat → Fault)) (world : World)
    (fine : ∀ outcome ∈ passes settings limit runs world, ∀ exchange ∈ outcome.trace, storeFails exchange = false) :
    ∃ done, Drained world.clock world (afterPasses settings limit runs world) done ∧
      done.length = min (world.db.backlog world.clock).length (runs.length * limit) ∧
      ∀ txn ∈ done, ∀ other ∈ world.db.backlog world.clock, other.deadline < txn.deadline → other ∈ done := by
  induction runs generalizing world with
  | nil => exact ⟨[],.refl _ _,by simp,by simp⟩
  | cons faults rest ih =>
    have first := (processExpired_ends settings limit world).run faults (fine _ (.head _))
    generalize batched : world.db.listActiveExpired world.clock limit = batch at first
    obtain ⟨done,drained,count,earliest⟩ := ih _ fun outcome member => fine outcome (.tail _ member)
    rw [first.clock] at drained count earliest
    refine ⟨batch ++ done,first.trans drained,?_,?_⟩
    · have taken := Database.listActiveExpired_length world.db world.clock limit
      have left := first.length
      rw [batched] at taken
      rw [List.length_append,List.length_cons,Nat.succ_mul]
      omega
    · intro txn member other waits sooner
      by_cases already : other ∈ batch
      · exact List.mem_append_left _ already
      rcases List.mem_append.mp member with now | later
      · have order := Database.listActiveExpired_first (batched ▸ now) waits (batched ▸ already)
        exact absurd sooner (not_lt.mpr order)
      · have still := (first.mem_backlog other).mpr ⟨waits,already⟩
        exact List.mem_append_right _ (earliest txn later other still sooner)

/-- The `payment.expired` rows of the outbox about a booking. -/
def expiries (world : World) (bookingID : ID) : Nat :=
  world.outbox.messages.countP fun message => message.outcome = .expired && message.bookingID = bookingID

def Database.isExpired (db : Database) (txn : Transaction) : Bool :=
  (db.transactions.find? txn.id).any fun row => row.transaction.status = .expired

/-- So many of the overdue transactions have been expired, those with the earliest deadlines first, each with an
outbox row of its own; transactions that were terminal or not overdue are as they were. -/
structure Expires (now : Time) (count : Nat) (before after : World) : Prop where
  number : ((before.db.backlog now).filter after.db.isExpired).length = count
  earliest : ∀ txn ∈ before.db.backlog now, after.db.isExpired txn = true →
    ∀ other ∈ before.db.backlog now, other.deadline < txn.deadline → after.db.isExpired other = true
  announced : ∀ txn ∈ before.db.backlog now, after.db.isExpired txn = true →
    expiries after txn.bookingID = expiries before txn.bookingID + 1
  unchanged : ∀ row ∈ before.db.transactions.rows, Database.overdue now row.transaction = false →
    after.db.transactions.find? row.id = some row

namespace Drained
variable {now : Time} {before after : World} {done : List Transaction}

theorem isExpired_iff (drained : Drained now before after done) {txn : Transaction} (waits : txn ∈ before.db.backlog now) :
    after.db.isExpired txn = true ↔ txn ∈ done := by
  unfold Database.isExpired
  constructor
  · intro expired
    by_contra absent
    obtain ⟨row,found,rfl,late⟩ := Database.mem_backlog.mp ((drained.mem_backlog txn).mpr ⟨waits,absent⟩)
    rw [found,Option.any_some,decide_eq_true_eq] at expired
    simp [Database.overdue,expired,TransactionStatus.active] at late
  · intro member
    obtain ⟨row,found,expired⟩ := drained.expired txn member
    rw [found]
    simpa using expired

theorem bookings_distinct (drained : Drained now before after done) : (done.map Transaction.bookingID).Nodup := by
  apply (List.Nodup.of_map _ drained.distinct).map_on
  intro left isLeft right isRight same
  obtain ⟨leftRow,found,rfl,_⟩ := Database.mem_backlog.mp (drained.stored left isLeft)
  obtain ⟨rightRow,isThere,rfl,_⟩ := Database.mem_backlog.mp (drained.stored right isRight)
  have equal : leftRow = rightRow := List.inj_on_of_nodup_map before.db.bookings_unique (Table.find?_mem found)
    (Table.find?_mem isThere) same
  rw [equal]

theorem expiries_done (drained : Drained now before after done) {txn : Transaction} (member : txn ∈ done) :
    expiries after txn.bookingID = expiries before txn.bookingID + 1 := by
  have once := List.count_eq_one_of_mem drained.bookings_distinct (List.mem_map_of_mem member)
  rw [List.count,List.countP_map] at once
  unfold expiries
  rw [drained.messages,List.countP_append,List.countP_map,← once]
  rfl

theorem expires (drained : Drained now before after done)
    (earliest : ∀ txn ∈ done, ∀ other ∈ before.db.backlog now, other.deadline < txn.deadline → other ∈ done) :
    Expires now done.length before after := by
  constructor
  · have distinct : (before.db.backlog now).Nodup := .of_map _ (before.db.backlog_distinct now)
    apply List.Perm.length_eq
    rw [List.perm_ext_iff_of_nodup (distinct.filter _) (.of_map _ drained.distinct)]
    intro txn
    rw [List.mem_filter]
    constructor
    · rintro ⟨waits,expired⟩
      exact (drained.isExpired_iff waits).mp expired
    · intro member
      have waits := drained.stored txn member
      exact ⟨waits,(drained.isExpired_iff waits).mpr member⟩
  · intro txn waits expired other alsoWaits sooner
    apply (drained.isExpired_iff alsoWaits).mpr
    exact earliest txn ((drained.isExpired_iff waits).mp expired) other alsoWaits sooner
  · intro txn waits expired
    exact drained.expiries_done ((drained.isExpired_iff waits).mp expired)
  · intro row member early
    have found : before.db.transactions.find? row.id = some row := Table.find?_of_mem member
    rw [drained.others row.id,found]
    intro named
    obtain ⟨txn,isDone,same⟩ := List.mem_map.mp named
    obtain ⟨stored,isStored,rfl,late⟩ := Database.mem_backlog.mp (drained.stored txn isDone)
    rw [same,found] at isStored
    cases isStored
    rw [early] at late
    cases late

end Drained

theorem unannounced_of_run {settings : Settings} {config : Pool}
    (run : Run (service settings) Anything (.idle .initial) config) {now : Time} {txn : Transaction}
    (waits : txn ∈ config.state.world.db.backlog now) : expiries config.state.world txn.bookingID = 0 := by
  obtain ⟨owed,announced⟩ := announced_of_run run
  obtain ⟨row,found,rfl,late⟩ := Database.mem_backlog.mp waits
  apply List.countP_eq_zero.mpr
  intro message inserted about
  simp only [Bool.and_eq_true,decide_eq_true_eq] at about
  obtain ⟨named,isNamed,names,outcome⟩ := announced.messages message inserted
  have same : named = row := List.inj_on_of_nodup_map config.state.world.db.bookings_unique (Table.find?_mem isNamed)
    (Table.find?_mem found) (names.1.symm.trans about.2)
  have expired : row.transaction.status = .expired := same ▸ outcome.symm.trans about.1
  simp [Database.overdue,expired,TransactionStatus.active] at late

/-- After any number of passes in which no call to the store fails, as many of the overdue transactions as the passes
can hold have been expired, the earliest deadlines first. -/
theorem backlog_expires (settings : Settings) (limit : Nat) (runs : List (Nat → Fault)) (world : World)
    (fine : ∀ outcome ∈ passes settings limit runs world, ∀ exchange ∈ outcome.trace, storeFails exchange = false) :
    Expires world.clock (min (world.db.backlog world.clock).length (runs.length * limit)) world
      (afterPasses settings limit runs world) ∧
    ∀ config : Pool, Run (service settings) Anything (.idle .initial) config → config.state.world = world →
      ∀ txn ∈ world.db.backlog world.clock, expiries world txn.bookingID = 0 := by
  constructor
  · obtain ⟨done,drained,count,earliest⟩ := passes_drain settings limit runs world fine
    rw [← count]
    exact drained.expires earliest
  · rintro config run rfl txn waits
    exact unannounced_of_run run waits

/-- Three overdue transactions, one of them with an open session. -/
def overdueThree : World :=
  let initiate (world : World) (bookingID : ID) (minutes : Int) := ((PaymentService.initiateTxnForBooking sandbox
    ⟨bookingID,1,5,"e",100,minutes * minute⟩).run (execute sandbox) (fun _ => .none) world).world
  {((PaymentService.processPayment sandbox 7 5).run (execute sandbox) (fun _ => .none)
    (initiate (initiate (initiate .initial 7 10) 8 12) 9 11)).world with clock := 20 * minute}

/-- One pass over two of them, whose first statement to the gateway fails. -/
theorem backlog_expires_three : (overdueThree.db.backlog overdueThree.clock).length = 3 ∧
    (afterPasses sandbox 2 [failingAt 2] overdueThree).sessions = ["ps"] ∧
    Expires overdueThree.clock 2 overdueThree (afterPasses sandbox 2 [failingAt 2] overdueThree) := by
  have waiting : (overdueThree.db.backlog overdueThree.clock).length = 3 := by decide +kernel
  have expires := (backlog_expires sandbox 2 [failingAt 2] overdueThree (by decide +kernel)).1
  rw [waiting] at expires
  exact ⟨waiting,by decide +kernel,expires⟩

end Ticketbus.Payment
