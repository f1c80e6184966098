import Ticketbus.Payment.Snapshots
import Mathlib.Data.Multiset.Filter

/-! The settlement of transactions and its announcement. Every path to a terminal
status goes through `TransitionIfActive`, and only the call whose update was applied
goes on to insert an outbox row; it owes that row until then. -/
namespace Ticketbus.Payment
open Ticketbus.Concurrency Ticketbus.Relational

def TransactionStatus.Moves : TransactionStatus → TransactionStatus → Prop
  | .initiated,.pending | .initiated,.completed | .initiated,.expired
  | .pending,.completed | .pending,.expired => True
  | _,_ => False

theorem TransactionStatus.Reaches.moves {status next : TransactionStatus} (reaches : status.Reaches next) :
    next = status ∨ status.Moves next := by
  cases status <;> cases next <;> simp_all [TransactionStatus.Reaches,TransactionStatus.Moves]

/-- How many inserted messages are about a transaction. -/
def notices (world : World) (id : ID) : Nat :=
  world.outbox.messages.countP fun message => message.transactionID = id

def due (db : Database) (id : ID) : Nat :=
  match db.transactions.find? id with
  | some row => if row.transaction.status.active then 0 else 1
  | none => 0

abbrev Debts := Multiset (ID × TransactionStatus)

def Debts.about (owed : Debts) (id : ID) : Nat := owed.countP fun debt => debt.1 = id

/-- Every message and every debt goes back to a settlement; where it is asked for,
every settlement leads to one of them. -/
structure Announced (strict : Bool) (world : World) (owed : Debts) : Prop where
  once : ∀ id, notices world id + owed.about id ≤ due world.db id
  all : strict = true → ∀ id, due world.db id ≤ notices world id + owed.about id
  messages : ∀ message ∈ world.outbox.messages, ∃ row,
    world.db.transactions.find? message.transactionID = some row ∧ message.Names row.transaction ∧
      message.outcome = row.transaction.status
  debts : ∀ debt ∈ owed, ∃ row, world.db.transactions.find? debt.1 = some row ∧
    row.transaction.status = debt.2

theorem due_found {db : Database} {id : ID} {row : TransactionRow}
    (found : db.transactions.find? id = some row) :
    due db id = if row.transaction.status.active then 0 else 1 := by
  simp [due,found]

theorem Message.outcome_final (message : Message) : message.outcome.active = false := by
  cases message <;> rfl

section Announcements
variable {strict : Bool} {world after : World} {owed kept : Debts}

theorem Announced.debt_final (announced : Announced strict world owed) {debt : ID × TransactionStatus}
    (member : debt ∈ owed) : debt.2.active = false := by
  obtain ⟨row,found,status⟩ := announced.debts debt member
  have positive : 0 < owed.about debt.1 := Multiset.countP_pos.mpr ⟨debt,member,rfl⟩
  have bound := announced.once debt.1
  rw [due_found found,status] at bound
  cases active : debt.2.active with
  | false => rfl
  | true =>
    rw [active] at bound
    simp only [if_true] at bound
    omega

theorem Announced.step (announced : Announced strict world owed) (persists : Persists world after)
    (once : ∀ id, notices after id + kept.about id + due world.db id ≤
      notices world id + owed.about id + due after.db id)
    (all : strict = true → ∀ id, notices world id + owed.about id + due after.db id ≤
      notices after id + kept.about id + due world.db id)
    (messages : ∀ message ∈ after.outbox.messages, message ∈ world.outbox.messages ∨ ∃ row,
      after.db.transactions.find? message.transactionID = some row ∧ message.Names row.transaction ∧
        message.outcome = row.transaction.status)
    (debts : ∀ debt ∈ kept, debt ∈ owed ∨ ∃ row, after.db.transactions.find? debt.1 = some row ∧
      row.transaction.status = debt.2) : Announced strict after kept where
  once id := by
    have before := announced.once id
    have change := once id
    omega
  all isStrict id := by
    have before := announced.all isStrict id
    have change := all isStrict id
    omega
  messages message member := by
    rcases messages message member with old | new
    · obtain ⟨row,found,names,outcome⟩ := announced.messages message old
      obtain ⟨next,present,fixed,reaches⟩ := persists.transactions _ _ found
      obtain ⟨booking,event,user⟩ := names
      refine ⟨next,present,⟨booking.trans (congrArg Transaction.bookingID fixed).symm,
        event.trans (congrArg Transaction.eventID fixed).symm,
        user.trans (congrArg Transaction.userID fixed).symm⟩,?_⟩
      rw [outcome,reaches.settled (outcome ▸ message.outcome_final)]
    · exact new
  debts debt member := by
    rcases debts debt member with old | new
    · obtain ⟨row,found,status⟩ := announced.debts debt old
      obtain ⟨next,present,_,reaches⟩ := persists.transactions _ _ found
      refine ⟨next,present,?_⟩
      rw [reaches.settled (by rw [status]; exact announced.debt_final old)]
      exact status
    · exact new

theorem Announced.mono (announced : Announced false world owed) (smaller : kept ≤ owed) :
    Announced false world kept := by
  have fewer : ∀ id, kept.about id ≤ owed.about id := fun id => Multiset.countP_le_of_le _ smaller
  refine announced.step (.refl _) (fun id => ?_) nofun (fun _ member => .inl member) fun debt member => ?_
  · have := fewer id
    omega
  · exact .inl (Multiset.mem_of_le smaller member)

theorem Announced.balanced (announced : Announced strict world owed) (persists : Persists world after)
    (balance : ∀ id, notices after id + kept.about id + due world.db id =
      notices world id + owed.about id + due after.db id)
    (messages : ∀ message ∈ after.outbox.messages, message ∈ world.outbox.messages ∨ ∃ row,
      after.db.transactions.find? message.transactionID = some row ∧ message.Names row.transaction ∧
        message.outcome = row.transaction.status)
    (debts : ∀ debt ∈ kept, debt ∈ owed ∨ ∃ row, after.db.transactions.find? debt.1 = some row ∧
      row.transaction.status = debt.2) : Announced strict after kept :=
  announced.step persists (fun id => (balance id).le) (fun _ id => (balance id).ge) messages debts

theorem Announced.same (announced : Announced strict world owed) (persists : Persists world after)
    (unchanged : ∀ id, due after.db id = due world.db id)
    (inserted : after.outbox.messages = world.outbox.messages) : Announced strict after owed := by
  refine announced.balanced persists (fun id => ?_) (fun message member => ?_) fun debt member => .inl member
  · rw [unchanged,notices,inserted,notices]
  · rw [inserted] at member
    exact .inl member

end Announcements

theorem due_rewritten {db after : Database} {row next : TransactionRow} (change : db.Rewritten row next after)
    (id : ID) : due after id =
      if row.id = id then (if next.transaction.status.active then 0 else 1) else due db id := by
  unfold due
  rw [change.found]
  by_cases same : row.id = id
  · rw [if_pos same,if_pos same]
  · rw [if_neg same,if_neg same]

theorem due_kept {db after : Database} {row next : TransactionRow} (change : db.Rewritten row next after)
    (status : next.transaction.status.active = row.transaction.status.active) (id : ID) :
    due after id = due db id := by
  rw [due_rewritten change]
  split
  · rename_i same
    rw [← same,due_found change.stored,status]
  · rfl

/-- The statements that settle a transaction or announce it. -/
def Statement.settles : Statement → Bool
  | .transitionIfActive _ _ _ => true
  | .outbox (.insert _) => true
  | _ => false

section Statements
variable {settings : Settings} {strict : Bool} {call : Call} {fault : Fault} {world : World} {owed : Debts}

private theorem Rewrites.active {statement : Statement} {txn next : Transaction} (rewrites : Rewrites statement txn next)
    (justified : Justified call world statement) (quiet : statement.settles = false) :
    next.status.active = txn.status.active := by
  cases statement with
  | transitionIfActive => cases quiet
  | transitionIfInitiated id status providerRef =>
    obtain ⟨_,initiated,now,_⟩ := rewrites
    rw [now,initiated,show status = .pending from justified]
    rfl
  | updateSession | updateRefundStatus => exact congrArg TransactionStatus.active rewrites.2.1
  | _ => exact rewrites.elim

private theorem execute_due {statement : Statement} (justified : Justified call world statement)
    (quiet : statement.settles = false) (id : ID) :
    due (execute settings statement fault world).2.db id = due world.db id := by
  have effect := execute_effect settings statement fault world
  generalize (execute settings statement fault world).2.db = after at effect ⊢
  cases effect with
  | same | createRefund _ _ _ _ => rfl
  | @create txn row fresh unbooked stored =>
    have found : (world.db.addTransaction row fresh unbooked).transactions.find? id =
        if row.id = id then some row else world.db.transactions.find? id := Table.find?_insert _ row id fresh
    by_cases same : row.id = id
    · rw [if_pos same] at found
      rw [due_found found,stored,due,← same,fresh]
      simp [justified.1,TransactionStatus.active]
    · rw [if_neg same] at found
      rw [due,found,due]
  | rewrite rewrites change => exact due_kept change (rewrites.active justified quiet) id

theorem announced_quiet {statement : Statement} (announced : Announced strict world owed)
    (justified : Justified call world statement) (quiet : statement.settles = false) :
    Announced strict (execute settings statement fault world).2 owed := by
  refine announced.same (execute_persists call statement fault world justified) (execute_due justified quiet)
    (execute_messages fault world ?_)
  rintro message rfl
  cases quiet

@[simp] theorem Debts.about_cons (debt : ID × TransactionStatus) (owed : Debts) (id : ID) :
    Debts.about (debt ::ₘ owed) id = owed.about id + if debt.1 = id then 1 else 0 :=
  Multiset.countP_cons _ _ _

theorem announced_transition {id : ID} {status : TransactionStatus} {providerRef : String}
    (announced : Announced strict world owed) (final : status.active = false) :
    ((execute settings (.transitionIfActive id status providerRef) fault world).1 = .ok 1 ∧
      Announced strict (execute settings (.transitionIfActive id status providerRef) fault world).2
        ((id,status) ::ₘ owed)) ∨
    ((execute settings (.transitionIfActive id status providerRef) fault world).2 = world ∧
      ((execute settings (.transitionIfActive id status providerRef) fault world).1 = .ok 0 ∨
        ∃ error, (execute settings (.transitionIfActive id status providerRef) fault world).1 = .error error)) := by
  have persists : Persists world (execute settings (.transitionIfActive id status providerRef) fault world).2 :=
    execute_persists (.wait 0) _ fault world final
  change ((write World.put fault world _).1 = _ ∧ Announced strict (write World.put fault world _).2 _) ∨
    ((write World.put fault world _).2 = world ∧ ((write World.put fault world _).1 = _ ∨ ∃ error, (write World.put fault world _).1 = _))
  change Persists world (write World.put fault world _).2 at persists
  rcases write_cases World.put fault world (world.db.transitionIfActive id status providerRef) with
    ⟨count,db,_,ok,result⟩ | ⟨error,result⟩
  · rw [result] at persists ⊢
    rcases Database.transition_ok ok with ⟨rfl,rfl,_⟩ | ⟨rfl,row,next,rfl,active,now,_,change⟩
    · exact .inr ⟨rfl,.inl rfl⟩
    · refine .inl ⟨rfl,announced.balanced persists (fun other => ?_)
        (fun message member => .inl member) fun debt member => ?_⟩
      · rw [due_rewritten change,now,final,Debts.about_cons]
        by_cases same : row.id = other
        · have before : due world.db other = 0 := by
            rw [← same,due_found change.stored,active]
            rfl
          rw [if_pos same,if_pos same,before]
          rfl
        · rw [if_neg same,if_neg same]
          rfl
      · rcases Multiset.mem_cons.mp member with rfl | old
        · refine .inr ⟨next,?_,now⟩
          exact (change.found _).trans (if_pos rfl)
        · exact .inl old
  · rw [result]
    exact .inr ⟨rfl,.inr ⟨error,rfl⟩⟩

theorem announced_insert {message : Message} (justified : Justified call world (.outbox (.insert message)))
    (announced : Announced strict world ((message.transactionID,message.outcome) ::ₘ owed))
    (reliable : strict = true → fault = .none) :
    Announced strict (execute settings (.outbox (.insert message)) fault world).2 owed := by
  by_cases noFault : fault = .none
  · subst noFault
    have persists : Persists world (execute settings (.outbox (.insert message)) .none world).2 :=
      execute_persists call _ _ world justified
    have inserted : (execute settings (.outbox (.insert message)) .none world).2.outbox.messages =
        world.outbox.messages ++ [message] := Outbox.Store.messages_insert world.outbox message
    refine announced.balanced persists (fun id => ?_) (fun other member => ?_) fun debt member => ?_
    · have grown : notices (execute settings (.outbox (.insert message)) .none world).2 id =
          notices world id + if message.transactionID = id then 1 else 0 := by
        rw [notices,inserted,List.countP_append,List.countP_singleton,notices]
        simp only [decide_eq_true_eq]
      rw [grown,Debts.about_cons]
      change _ = notices world id + (owed.about id + if message.transactionID = id then 1 else 0) +
        due world.db id
      omega
    · rw [inserted] at member
      rcases List.mem_append.mp member with old | new
      · exact .inl old
      · cases List.mem_singleton.mp new
        obtain ⟨row,found,names⟩ := justified
        obtain ⟨stored,present,status⟩ := announced.debts _ (Multiset.mem_cons_self _ _)
        cases found.symm.trans present
        exact .inr ⟨row,found,names,status.symm⟩
    · exact .inl (Multiset.mem_cons_of_mem member)
  · have lenient : strict = false := Bool.eq_false_iff.mpr fun isStrict => noFault (reliable isStrict)
    subst lenient
    have same : (execute settings (.outbox (.insert message)) fault world).2 = world := by
      cases fault with
      | none => exact absurd rfl noFault
      | fail | broken _ => rfl
    rw [same]
    exact announced.mono (Multiset.le_cons_self _ _)

end Statements

/-! The protocol: a call owes the messages for the transactions it has settled. Where
it is strict, no insert may fail. -/

def settling (strict : Bool) : Protocol Statement Reply World Fault Call Debts where
  evolves _ _ := True
  evolves_refl _ := trivial
  evolves_trans _ _ _ _ _ := trivial
  invariant state owed := Announced strict state.world owed
  permits _ call state _ statement fault := Justified call state.world statement ∧
    (strict = true → ∀ message, statement = .outbox (.insert message) → fault = .none)
  fits _ _ _ own statement := own ≠ 0 → statement = .now ∨ ∃ message, statement = .outbox (.insert message)

section Programs
variable {settings : Settings} {strict : Bool} {index : Nat} {call : Call} {α β : Type} {state : View}

abbrev Settles (settings : Settings) (strict : Bool) (index : Nat) (call : Call) (program : Task α) (state : View)
    (own : Debts) : Prop :=
  Clears (service settings) (settling strict) index call program state own

theorem Settles.quiet {first : Task β} {rest : β → Task α}
    (issues : first.Issues fun statement => statement.settles = false)
    (continues : ∀ value later, Settles settings strict index call (rest value) later 0) :
    Settles settings strict index call (first.bind rest) state 0 := by
  refine Holds.bind (Holds.of_issues issues ?_ continues)
  intro statement quiet later frame announced
  refine ⟨fun owes => absurd rfl owes,fun fault permitted => ⟨trivial,?_⟩⟩
  exact announced_quiet announced permitted.1 quiet

theorem Settles.perform {statement : Statement} {next : Reply statement → Task α}
    (quiet : statement.settles = false)
    (continues : ∀ reply later, Settles settings strict index call (next reply) later 0) :
    Settles settings strict index call (.perform statement next) state 0 :=
  .quiet (Program.Issues.statement quiet) continues

theorem Settles.transition (id : ID) (status : TransactionStatus) (providerRef : String)
    {rest : Except DbError Bool → Task α}
    (failed : ∀ error later, Settles settings strict index call (rest (.error error)) later 0)
    (refused : ∀ later, Settles settings strict index call (rest (.ok false)) later 0)
    (applied : ∀ later, Settles settings strict index call (rest (.ok true)) later {(id,status)}) :
    Settles settings strict index call
      ((TransactionRepo.transitionIfActive id status providerRef).bind rest) state 0 := by
  intro later _ frame announced
  rw [zero_add] at announced
  refine ⟨fun owes => absurd rfl owes,fun fault permitted => ⟨trivial,?_⟩⟩
  have continues (answer : Except DbError Nat) (kept : Debts)
      (reply : (execute settings (.transitionIfActive id status providerRef) fault later.world).1 = answer)
      (settles : ∀ next, Settles settings strict index call
        (rest (answer.map fun affected => 0 < affected)) next kept) :
      Holds (service settings) (settling strict) index call (fun _ _ kept => kept = 0)
        (rest ((execute settings (.transitionIfActive id status providerRef) fault later.world).1.map
          fun affected => 0 < affected))
        (later.after (service settings) index (.transitionIfActive id status providerRef) fault) kept := by
    rw [reply]
    exact settles _
  rcases announced_transition announced permitted.1 with ⟨reply,owing⟩ | ⟨same,reply⟩
  · refine ⟨{(id,status)},?_,continues _ _ reply applied⟩
    rw [Multiset.singleton_add]
    exact owing
  · refine ⟨0,?_,?_⟩
    · rw [zero_add]
      change Announced strict (execute settings _ fault _).2 frame
      rw [same]
      exact announced
    · rcases reply with none | ⟨error,failure⟩
      · exact continues _ _ none refused
      · exact continues _ _ failure (failed error)

theorem Settles.publish (id : ID) (status : TransactionStatus) (message : Time → Message)
    (transaction : ∀ at_, (message at_).transactionID = id) (outcome : ∀ at_, (message at_).outcome = status) :
    Settles settings strict index call (PaymentService.publish message) state {(id,status)} := by
  intro later _ frame announced
  refine ⟨fun _ => .inl rfl,fun fault permitted => ⟨trivial,{(id,status)},announced_quiet announced permitted.1 rfl,?_⟩⟩
  intro second _ frame announced
  refine ⟨fun _ => .inr ⟨_,rfl⟩,fun fault permitted => ⟨trivial,0,?_,Clears.done⟩⟩
  rw [zero_add]
  change Announced strict (execute settings (.outbox (.insert _)) fault second.world).2 frame
  refine announced_insert permitted.1 ?_ fun isStrict => permitted.2 isStrict _ rfl
  rw [transaction,outcome,← Multiset.singleton_add]
  exact announced

private theorem applyWebhook_settles (txn : Transaction) (event : WebhookEvent) :
    Settles settings strict index call (PaymentService.applyWebhook txn event) state 0 := by
  cases event with
  | completed =>
    refine Settles.transition _ _ _ (fun _ _ => .done) (fun later => ?_) fun later => ?_
    · simp only
      split
      · refine Settles.perform rfl fun id second => Settles.perform rfl fun reply third => ?_
        rcases reply with error | _
        · exact .done
        · exact Settles.perform rfl fun _ _ => .done
      · exact .done
    · exact .bind (Settles.publish _ _ _ (fun _ => rfl) fun _ => rfl) fun _ _ => .done
  | expired =>
    refine Settles.transition _ _ _ (fun _ _ => .done) (fun _ => .done) fun later => ?_
    exact .bind (Settles.publish _ _ _ (fun _ => rfl) fun _ => rfl) fun _ _ => .done
  | other name => exact .done

private theorem webhook_settles (payload : Option SessionWebhookPayload) :
    Settles settings strict index call (PaymentService.handleSessionWebhook payload) state 0 := by
  cases payload with
  | none => exact .done
  | some payload =>
    simp only [PaymentService.handleSessionWebhook]
    cases payload.referenceID with
    | none => exact .done
    | some bookingID =>
      refine Settles.perform rfl fun reply later => ?_
      rcases reply with error | txn
      · exact .done
      · simp only [Program.done_bind]
        split
        · exact .done
        · exact applyWebhook_settles txn payload.event

private theorem expireAll_settles (txns : List Transaction) :
    Settles settings strict index call (PaymentService.expireAll txns) state 0 := by
  induction txns generalizing state with
  | nil => exact .done
  | cons txn others ih =>
    refine Settles.quiet ?_ fun _ later => Settles.transition _ _ _ (fun _ _ => ih) (fun _ => ih) fun third => ?_
    · unfold PaymentService.closeSession
      split
      · exact ⟨rfl,fun _ => trivial⟩
      · trivial
    · exact .bind (Settles.publish _ _ _ (fun _ => rfl) fun _ => rfl) fun _ _ => ih

private theorem expired_settles (limit : Nat) :
    Settles settings strict index call (PaymentService.processExpired limit) state 0 := by
  refine Settles.perform rfl fun now first => Settles.perform rfl fun reply later => ?_
  rcases reply with error | rows
  · exact .done
  · simp only [TransactionRepo.collectTxns,Except.map,Program.done_bind]
    exact .bind (expireAll_settles rows.items) fun _ _ => .done

def Call.settles : Call → Bool
  | .handleSessionWebhook _ | .processExpired _ => true
  | _ => false

private theorem footprint_quiet {statement : Statement} (inside : Footprint call statement)
    (other : call.settles = false) : statement.settles = false := by
  cases statement with
  | transitionIfActive id status providerRef =>
    cases call with
    | handleSessionWebhook _ | processExpired _ => cases other
    | _ => exact False.elim inside
  | outbox statement =>
    cases statement with
    | insert message =>
      cases call with
      | handleSessionWebhook _ | processExpired _ => cases other
      | _ => exact False.elim inside
    | _ => rfl
  | _ => rfl

theorem program_settles (call : Call) : Settles settings strict index call (program settings call) state 0 := by
  cases call with
  | handleSessionWebhook payload => exact .bind (webhook_settles payload) fun _ _ => .done
  | processExpired limit => exact .bind (expired_settles limit) fun _ _ => .done
  | _ =>
    refine Holds.of_issues (program_issues settings _) ?_ fun _ _ => rfl
    intro statement inside later frame announced
    refine ⟨fun owes => absurd rfl owes,fun fault permitted => ⟨trivial,?_⟩⟩
    exact announced_quiet announced permitted.1 (footprint_quiet inside rfl)

end Programs

section Runs
variable {settings : Settings} {guard : Pool → Step → Prop} {config after : Pool}

theorem Announced.initial (strict : Bool) : Announced strict World.initial 0 := by
  refine ⟨fun id => ?_,fun _ id => ?_,fun message member => ?_,fun debt member => ?_⟩
  · rfl
  · rfl
  · cases member
  · cases Multiset.notMem_zero _ member

theorem settling_obeyed {strict : Bool} (inserts : strict = true → ∀ config index fault call message next,
      guard config (.step index fault) →
      config.threads[index]? = some ⟨call,some (.perform (.outbox (.insert message)) next)⟩ → fault = .none)
    (stops : strict = true → ∀ config index thread own frame, guard config (.stop index) →
      config.threads[index]? = some thread →
      ThreadHolds (service settings) (settling strict) (fun _ _ _ _ kept => kept = 0) index thread config.state own →
      Announced strict config.state.world (own + frame) → Announced strict config.state.world frame) :
    Obeys (service settings) (settling strict) (fun _ _ _ _ kept => kept = 0) guard (.idle .initial) where
  starts config call _ _ := program_settles call
  steps := by
    intro config index fault call statement next own others run permitted found _ _
    refine ⟨justified_of_run .initial run found,fun isStrict message same => ?_⟩
    subst same
    exact inserts isStrict config index fault call message next permitted found
  stops := by
    intro config index thread own frame run permitted found holds announced
    cases strict with
    | false => exact announced.mono (Multiset.le_add_left ..)
    | true => exact stops rfl config index thread own frame permitted found holds announced

theorem announced_of_run (run : Run (service settings) guard (.idle .initial) config) :
    ∃ owed, Announced false config.state.world owed := by
  have initially : PoolHolds (service settings) (settling false) (fun _ _ _ _ kept => kept = 0)
      (.idle World.initial) := PoolHolds.idle _ (Announced.initial false)
  exact (initially.run (settling_obeyed nofun nofun) run).invariant_holds

def Statement.inserts : Statement → Bool
  | .outbox inner => inner.inserts
  | _ => false

/-- A call that has nothing left to do before it inserts an outbox row; reading the clock takes no
time and no connection. -/
def announcing : Pool → Thread Statement Reply Call Result → Bool := Nearing .now World.clock Statement.inserts

def insertsSafely (_ : Pool) (_ : Nat) (statement : Statement) (fault : Fault) : Bool :=
  !statement.inserts || fault = .none

/-- No outbox row is lost: its insert does not fail, and no call is stopped right before it. -/
abbrev Dependable : Pool → Step → Prop := Sparing announcing (Stepwise insertsSafely)

private theorem announced_spared {index : Nat} {thread : Thread Statement Reply Call Result} {own frame : Debts}
    (permitted : Dependable config (.stop index)) (found : config.threads[index]? = some thread)
    (holds : ThreadHolds (service settings) (settling true) (fun _ _ _ _ kept => kept = 0) index thread config.state own)
    (announced : Announced true config.state.world (own + frame)) : Announced true config.state.world frame := by
  refine ThreadHolds.unburdened .none rfl ?_ ?_ (fun _ _ _ none => none) permitted.1 found holds announced
  · exact fun later _ => ⟨⟨trivial,fun _ _ same => by cases same⟩,fun same => same⟩
  · intro later kept statement fits other quiet
    by_contra owes
    rcases fits owes with rfl | ⟨message,rfl⟩
    · exact other rfl
    · cases quiet

theorem settlements_announced (run : Run (service settings) Dependable (.idle .initial) config) (quiet : config.Quiet)
    {row : TransactionRow} (member : row ∈ config.state.world.db.transactions.rows)
    (final : row.transaction.status.active = false) :
    ∃ message ∈ config.state.world.outbox.messages, message.transactionID = row.id ∧
      message.outcome = row.transaction.status := by
  have initially : PoolHolds (service settings) (settling true) (fun _ _ _ _ kept => kept = 0)
      (.idle World.initial) := PoolHolds.idle _ (Announced.initial true)
  have obeyed : Obeys (service settings) (settling true) (fun _ _ _ _ kept => kept = 0) Dependable (.idle .initial) := by
    refine settling_obeyed (fun _ config index fault call message next permitted found => ?_) ?_
    · have safe := Stepwise.meets permitted found
      simpa [insertsSafely,Statement.inserts,Outbox.Statement.inserts] using safe
    · exact fun _ config index thread own frame permitted found holds announced =>
        announced_spared permitted found holds announced
  have announced : Announced true config.state.world 0 :=
    (initially.run obeyed run).quiet quiet fun _ _ _ _ _ none => none
  have found := Table.find?_of_mem member
  have some : 0 < notices config.state.world row.id := by
    have complete := announced.all rfl row.id
    rw [due_found found,final] at complete
    exact complete
  obtain ⟨message,inserted,about⟩ := List.countP_pos_iff.mp some
  refine ⟨message,inserted,of_decide_eq_true about,?_⟩
  obtain ⟨named,stored,_,outcome⟩ := announced.messages message inserted
  rw [of_decide_eq_true about,found] at stored
  cases stored
  exact outcome

theorem notices_le_one {strict : Bool} {world : World} {owed : Debts} (announced : Announced strict world owed)
    (id : ID) : notices world id ≤ 1 := by
  have bound : due world.db id ≤ 1 := by
    unfold due
    split
    · split <;> omega
    · omega
  have counted := announced.once id
  omega

end Runs

/-- In every run, the next step leaves each stored status alone or takes a step of the
state machine; the outbox has at most one row about a transaction, and every row
carries the status, the booking, the event and the user of the transaction it names. -/
theorem transactions_settle_once (settings : Settings) (config : Pool)
    (run : Run (service settings) Anything (.idle .initial) config) :
    (∀ action after, config.next (service settings) action = some after →
      ∀ row ∈ config.state.world.db.transactions.rows, ∃ next ∈ after.state.world.db.transactions.rows,
        next.id = row.id ∧ (next.transaction.status = row.transaction.status ∨
          row.transaction.status.Moves next.transaction.status)) ∧
    (∀ id, notices config.state.world id ≤ 1) ∧
    ∀ message ∈ config.state.world.outbox.messages, ∃ row ∈ config.state.world.db.transactions.rows,
      row.id = message.transactionID ∧ row.transaction.status = message.outcome ∧
        message.bookingID = row.transaction.bookingID ∧ message.eventID = row.transaction.eventID ∧
        message.userID = row.transaction.userID := by
  obtain ⟨owed,announced⟩ := announced_of_run run
  refine ⟨fun action after taken row member => ?_,notices_le_one announced,fun message inserted => ?_⟩
  · have persists := persists_of_next .initial run taken
    obtain ⟨next,found,_,reaches⟩ := persists.transactions _ _ (Table.find?_of_mem member)
    exact ⟨next,Table.find?_mem found,Table.find?_key found,reaches.moves⟩
  · obtain ⟨row,found,names,outcome⟩ := announced.messages message inserted
    exact ⟨row,Table.find?_mem found,Table.find?_key found,outcome.symm,names⟩

def undisturbed (index count : Nat) : List Step := .replicate count (.step index .none)

/-- A gateway that names its sessions alike. -/
def sandbox : Settings := ⟨fun _ _ => ⟨"ps","link",0⟩,"sandbox",0,[]⟩

def payable : List Step :=
  .start (.initiateTxnForBooking ⟨7,1,5,"e",100,10 * minute⟩) :: undisturbed 0 2 ++
    .start (.processPayment 7 5) :: undisturbed 1 7

/-- Of two deliveries of the same webhook, both with the transaction read as pending, one settles it. -/
theorem transactions_settle_once_paid : ∃ config : Pool,
    Run (service sandbox) Anything (.idle .initial) config ∧
    config.state.world.db.transactions.rows.map (fun row => row.transaction.status) = [.completed] ∧
    config.state.world.outbox.messages = [.completed 0 7 1 5 0] ∧ notices config.state.world 0 ≤ 1 := by
  obtain ⟨config,run,outcome⟩ := exists_run_of_replay (service sandbox) Anything
    (payable ++ .start (.handleSessionWebhook (some ⟨.completed,some 7,"ps",""⟩)) ::
      .start (.handleSessionWebhook (some ⟨.completed,some 7,"ps",""⟩)) ::
      undisturbed 2 1 ++ undisturbed 3 4 ++ undisturbed 2 1) (.idle .initial)
    (fun (config : Pool) => config.state.world.db.transactions.rows.map (fun row => row.transaction.status) = [.completed] &&
      config.state.world.outbox.messages = [.completed 0 7 1 5 0]) (by decide +kernel)
  simp only [Bool.and_eq_true,decide_eq_true_eq] at outcome
  exact ⟨config,run,outcome.1,outcome.2,(transactions_settle_once sandbox config run).2.1 0⟩

end Ticketbus.Payment
