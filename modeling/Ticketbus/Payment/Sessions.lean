import Ticketbus.Payment.LatePayments

/-! The session that a transaction stores. `TransitionIfInitiated` writes it once and
`UpdateSession` writes it again; every guarded update to a terminal status writes back
the reference its caller has read. A caller whose copy is older than the session can
lose the reference, but only together with settling the transaction. -/
namespace Ticketbus.Payment
open Ticketbus.Concurrency Ticketbus.Relational

/-- What a call holds of a transaction: a copy that it is going to write back, or the
session that it has just stored. -/
inductive Holding where
  | copy (id : ID) (providerRef : String)
  | session (id : ID) (providerRef : String)
  deriving DecidableEq

def Holding.id : Holding → ID
  | .copy id _ | .session id _ => id

abbrev Holdings := Multiset Holding

/-- A copy of an active transaction has its reference; where it need not be current,
it may be older than the session. A session that was stored is in its place, unless
such a copy was written back. -/
structure Referenced (strict : Bool) (state : View) (owned : Holdings) : Prop where
  unopened : ∀ id row, state.world.db.transactions.find? id = some row →
    row.transaction.status = .initiated → row.transaction.providerRef = ""
  copies : ∀ id ref, .copy id ref ∈ owned → ∃ row, state.world.db.transactions.find? id = some row ∧
    (row.transaction.status.active = true → row.transaction.providerRef = ref ∨ (strict = false ∧ ref = ""))
  sessions : ∀ id ref, .session id ref ∈ owned → ∃ row, state.world.db.transactions.find? id = some row ∧
    row.transaction.status ≠ .initiated ∧ (row.transaction.providerRef = ref ∨
      (strict = false ∧ row.transaction.status.active = false ∧ row.transaction.providerRef = ""))
  agree : ∀ id ref other, .session id ref ∈ owned → .session id other ∈ owned → ref = other
  stored : strict = true → ∀ id ref, opened state.history id ref = true →
    ∃ row, state.world.db.transactions.find? id = some row ∧ row.transaction.status ≠ .initiated ∧
      row.transaction.providerRef = ref

theorem Referenced.mono {strict : Bool} {state : View} {owned fewer : Holdings}
    (referenced : Referenced strict state owned) (smaller : fewer ≤ owned) : Referenced strict state fewer where
  unopened := referenced.unopened
  copies id ref member := referenced.copies id ref (Multiset.mem_of_le smaller member)
  sessions id ref member := referenced.sessions id ref (Multiset.mem_of_le smaller member)
  agree id ref other member member' :=
    referenced.agree id ref other (Multiset.mem_of_le smaller member) (Multiset.mem_of_le smaller member')
  stored := referenced.stored

def Steady (before after : World) : Prop :=
  ∀ id row next, before.db.transactions.find? id = some row → after.db.transactions.find? id = some next →
    row.transaction.status.active = false → row.transaction.providerRef ≠ "" →
    next.transaction.providerRef = row.transaction.providerRef

structure Later (before after : View) : Prop where
  persists : Persists before.world after.world
  steady : Steady before.world after.world
  history : ∀ event ∈ before.history, event ∈ after.history

namespace Later

theorem refl (state : View) : Later state state := by
  refine ⟨.refl _,fun id row next found present _ _ => ?_,fun _ member => member⟩
  rw [found] at present
  cases present
  rfl

theorem trans {first middle last : View} (before : Later first middle) (after : Later middle last) :
    Later first last := by
  refine ⟨before.persists.trans after.persists,fun id row next found present settled named => ?_,
    fun event member => after.history event (before.history event member)⟩
  obtain ⟨between,isBetween,_,reaches⟩ := before.persists.transactions _ _ found
  have same := before.steady _ _ _ found isBetween settled named
  rw [← same]
  refine after.steady _ _ _ isBetween present ?_ (same ▸ named)
  rw [reaches.settled settled]
  exact settled

end Later

structure Unmoved (before after : World) : Prop where
  kept : ∀ id row, before.db.transactions.find? id = some row → ∃ next,
    after.db.transactions.find? id = some next ∧ next.transaction.status = row.transaction.status ∧
      next.transaction.providerRef = row.transaction.providerRef
  new : ∀ id next, before.db.transactions.find? id = none → after.db.transactions.find? id = some next →
    next.transaction.status = .initiated ∧ next.transaction.providerRef = ""

theorem Unmoved.of_eq {before after : World} (same : after.db.transactions = before.db.transactions) :
    Unmoved before after := by
  refine ⟨fun id row found => ⟨row,?_,rfl,rfl⟩,fun id next absent found => ?_⟩
  · rw [same]
    exact found
  · rw [same,absent] at found
    cases found

theorem Unmoved.steady {before after : World} (unmoved : Unmoved before after) : Steady before after := by
  intro id row next found present _ _
  obtain ⟨kept,isKept,_,same⟩ := unmoved.kept id row found
  rw [present] at isKept
  cases isKept
  exact same

section Statements
variable {settings : Settings} {strict : Bool} {call : Call} {fault : Fault} {world : World}
variable {state after : View} {owned kept : Holdings}

theorem Referenced.unmoved (referenced : Referenced strict state owned) (unmoved : Unmoved state.world after.world)
    (history : ∀ id ref, opened after.history id ref = opened state.history id ref) : Referenced strict after owned where
  unopened id next found initiated := by
    cases present : state.world.db.transactions.find? id with
    | none => exact (unmoved.new id next present found).2
    | some row =>
      obtain ⟨kept,isKept,status,same⟩ := unmoved.kept id row present
      rw [found] at isKept
      cases isKept
      rw [same]
      exact referenced.unopened id row present (status.symm.trans initiated)
  copies id ref member := by
    obtain ⟨row,found,current⟩ := referenced.copies id ref member
    obtain ⟨next,present,status,same⟩ := unmoved.kept id row found
    refine ⟨next,present,?_⟩
    rw [status,same]
    exact current
  sessions id ref member := by
    obtain ⟨row,found,current⟩ := referenced.sessions id ref member
    obtain ⟨next,present,status,same⟩ := unmoved.kept id row found
    refine ⟨next,present,?_⟩
    rw [status,same]
    exact current
  agree := referenced.agree
  stored isStrict id ref written := by
    rw [history] at written
    obtain ⟨row,found,current⟩ := referenced.stored isStrict id ref written
    obtain ⟨next,present,status,same⟩ := unmoved.kept id row found
    refine ⟨next,present,?_⟩
    rw [status,same]
    exact current

theorem Referenced.rewritten {row next : TransactionRow} (referenced : Referenced strict state owned)
    (change : state.world.db.Rewritten row next after.world.db)
    (unopened : next.transaction.status ≠ .initiated)
    (others : ∀ holding ∈ kept, holding.id ≠ row.id → holding ∈ owned)
    (copies : ∀ ref, .copy row.id ref ∈ kept → next.transaction.status.active = true →
      next.transaction.providerRef = ref ∨ (strict = false ∧ ref = ""))
    (sessions : ∀ ref, .session row.id ref ∈ kept → next.transaction.providerRef = ref ∨
      (strict = false ∧ next.transaction.status.active = false ∧ next.transaction.providerRef = ""))
    (agree : ∀ ref other, .session row.id ref ∈ kept → .session row.id other ∈ kept → ref = other)
    (history : ∀ id ref, id ≠ row.id → opened after.history id ref = true → opened state.history id ref = true)
    (stored : strict = true → ∀ ref, opened after.history row.id ref = true → next.transaction.providerRef = ref) :
    Referenced strict after kept := by
  have here : after.world.db.transactions.find? row.id = some next := (change.found _).trans (if_pos rfl)
  have elsewhere {id : ID} (other : id ≠ row.id) :
      after.world.db.transactions.find? id = state.world.db.transactions.find? id :=
    (change.found _).trans (if_neg (Ne.symm other))
  -- each clause speaks of the rewritten row or of another, which is as it was
  refine ⟨fun id stored found initiated => ?_,fun id ref member => ?_,fun id ref member => ?_,
    fun id ref other member member' => ?_,fun isStrict id ref written => ?_⟩
  · by_cases same : id = row.id
    · rw [same,here] at found
      cases found
      exact absurd initiated unopened
    · rw [elsewhere same] at found
      exact referenced.unopened id stored found initiated
  · by_cases same : id = row.id
    · subst same
      exact ⟨next,here,copies ref member⟩
    · rw [elsewhere same]
      exact referenced.copies id ref (others _ member same)
  · by_cases same : id = row.id
    · subst same
      exact ⟨next,here,unopened,sessions ref member⟩
    · rw [elsewhere same]
      exact referenced.sessions id ref (others _ member same)
  · by_cases same : id = row.id
    · subst same
      exact agree ref other member member'
    · exact referenced.agree id ref other (others _ member same) (others _ member' same)
  · by_cases same : id = row.id
    · subst same
      exact ⟨next,here,unopened,stored isStrict ref written⟩
    · rw [elsewhere same]
      exact referenced.stored isStrict id ref (history id ref same written)

theorem steady_rewritten {db : Database} {row next : TransactionRow} (change : world.db.Rewritten row next db)
    (keeps : row.transaction.status.active = false → row.transaction.providerRef ≠ "" →
      next.transaction.providerRef = row.transaction.providerRef) : Steady world {world with db := db} := by
  intro id old new found present settled named
  change db.transactions.find? id = some new at present
  rw [change.found] at present
  split at present
  · rename_i same
    rw [← same,change.stored] at found
    cases found
    cases present
    exact keeps settled named
  · rw [found] at present
    cases present
    rfl

theorem opened_other {index : Nat} {statement : Statement} {reply : Reply statement}
    {history : List (Event Statement Reply)} {id : ID} {ref : String}
    (other : ∀ id status ref, statement ≠ .transitionIfInitiated id status ref) :
    opened (⟨index,statement,reply⟩ :: history) id ref = opened history id ref := by
  cases statement with
  | transitionIfInitiated id status ref => exact absurd rfl (other id status ref)
  | _ => rfl

theorem opened_refused {index : Nat} {position id : ID} {session ref : String} {reply : Except DbError Nat}
    {history : List (Event Statement Reply)} (refused : reply ≠ .ok 1) :
    opened (⟨index,.transitionIfInitiated position .pending session,reply⟩ :: history) id ref =
      opened history id ref := by
  have never : decide (reply = .ok 1) = false := decide_eq_false refused
  simp only [opened,List.any_cons]
  rw [never,Bool.and_false,Bool.false_or]

theorem opened_applied {index : Nat} {position id : ID} {session ref : String} {history : List (Event Statement Reply)}
    (written : opened (⟨index,.transitionIfInitiated position .pending session,.ok 1⟩ :: history) id ref = true) :
    (position = id ∧ session = ref) ∨ opened history id ref = true := by
  simp only [opened,List.any_cons,Bool.or_eq_true,Bool.and_eq_true,decide_eq_true_eq] at written
  rcases written with ⟨here,_⟩ | there
  · exact .inl here
  · exact .inr there

def Statement.plain : Statement → Prop
  | .create txn => txn.status = .initiated ∧ txn.providerRef = ""
  | _ => True

theorem execute_unmoved {statement : Statement} (bystander : statement.bystander = true) (plain : statement.plain) :
    Unmoved world (execute settings statement fault world).2 := by
  have effect := execute_effect settings statement fault world
  refine ⟨fun id row found => ?_,fun id next absent found => ?_⟩
  · obtain ⟨next,present,_,status,ref⟩ := effect.unmoved bystander found
    exact ⟨next,present,status,ref⟩
  · generalize (execute settings statement fault world).2.db = after at effect found
    cases effect with
    | same | createRefund _ _ _ _ => cases absent.symm.trans found
    | @create _ row fresh _ stored =>
      have either := (Table.find?_insert world.db.transactions row id fresh).symm.trans found
      split at either
      · cases either
        rw [stored]
        exact plain
      · cases absent.symm.trans either
    | rewrite _ change =>
      rw [change.found] at found
      split at found
      · rename_i here
        rw [← here,change.stored] at absent
        cases absent
      · cases absent.symm.trans found

end Statements

section Steps
variable {settings : Settings} {strict : Bool} {index : Nat} {fault : Fault} {state after : View} {owned : Holdings}

theorem referenced_bystander {statement : Statement} (referenced : Referenced strict state owned)
    (bystander : statement.bystander = true) (plain : statement.plain) :
    Referenced strict (state.after (service settings) index statement fault) owned := by
  refine referenced.unmoved (execute_unmoved bystander plain) fun id ref => opened_other ?_
  rintro id status ref rfl
  cases bystander

private theorem Referenced.writtenBack {row next : TransactionRow} {ref : String}
    (referenced : Referenced strict state (.copy row.id ref ::ₘ owned)) (active : row.transaction.status.active = true)
    (settled : next.transaction.status.active = false) (written : next.transaction.providerRef = ref)
    (change : state.world.db.Rewritten row next after.world.db)
    (history : ∀ id other, opened after.history id other = opened state.history id other) :
    Referenced strict after owned := by
  have fewer := referenced.mono (Multiset.le_cons_self owned (.copy row.id ref))
  obtain ⟨stored,found,current⟩ := referenced.copies _ _ (Multiset.mem_cons_self _ _)
  cases change.stored.symm.trans found
  refine fewer.rewritten change (fun initiated => ?_) (fun _ member _ => member) (fun other _ isActive => ?_)
    (fun other member => ?_) (fewer.agree _) (fun id other _ opening => history id other ▸ opening) fun isStrict other opening => ?_
  · rw [initiated] at settled
    cases settled
  · rw [settled] at isActive
    cases isActive
  · obtain ⟨stored,found,_,kept | ⟨_,inactive,_⟩⟩ := fewer.sessions _ _ member
    · cases change.stored.symm.trans found
      rw [written]
      rcases current active with same | ⟨lenient,empty⟩
      · exact .inl (same.symm.trans kept)
      · exact .inr ⟨lenient,settled,empty⟩
    · cases change.stored.symm.trans found
      rw [active] at inactive
      cases inactive
  · rw [history] at opening
    obtain ⟨stored,found,_,same⟩ := fewer.stored isStrict _ _ opening
    cases change.stored.symm.trans found
    rcases current active with old | ⟨lenient,_⟩
    · rw [written,← old,same]
    · rw [isStrict] at lenient
      cases lenient

theorem referenced_active (settings : Settings) (index : Nat) (fault : Fault) {id : ID} {status : TransactionStatus} {ref : String}
    (referenced : Referenced strict state (.copy id ref ::ₘ owned)) (final : status.active = false) :
    Referenced strict (state.after (service settings) index (.transitionIfActive id status ref) fault) owned ∧
    Steady state.world (execute settings (.transitionIfActive id status ref) fault state.world).2 ∧
    (Refused (execute settings (.transitionIfActive id status ref) fault state.world).1 ∨
      (execute settings (.transitionIfActive id status ref) fault state.world).1 = .ok 1 ∧
      ∃ row, (execute settings (.transitionIfActive id status ref) fault state.world).2.db.transactions.find? id =
        some row ∧ row.transaction.status.active = false ∧ row.transaction.providerRef = ref) := by
  have history (position : ID) (session : String) :
      opened (state.after (service settings) index (.transitionIfActive id status ref) fault).history position session =
        opened state.history position session := opened_other (by simp)
  rcases execute_transitionIfActive settings id status ref fault state.world with
    ⟨row,next,db,rfl,active,now,written,change,result⟩ | ⟨reply,refused,_,result⟩
  · have settled : next.transaction.status.active = false := now ▸ final
    have world : (state.after (service settings) index (.transitionIfActive row.id status ref) fault).world =
        {state.world with db := db} := congrArg Prod.snd result
    refine ⟨referenced.writtenBack active settled written ?_ history,?_,.inr ?_⟩
    · rw [world]
      exact change
    · rw [result]
      refine steady_rewritten change fun inactive => ?_
      rw [active] at inactive
      cases inactive
    · rw [result]
      exact ⟨rfl,next,(change.found _).trans (if_pos rfl),settled,written⟩
  · have fewer := referenced.mono (Multiset.le_cons_self owned (.copy id ref))
    have unmoved : Unmoved state.world (execute settings (.transitionIfActive id status ref) fault state.world).2 :=
      .of_eq (by rw [result])
    refine ⟨fewer.unmoved unmoved history,unmoved.steady,.inl ?_⟩
    rw [result]
    exact refused

private theorem Referenced.opened {row next : TransactionRow} {ref : String} (referenced : Referenced strict state owned)
    (initiated : row.transaction.status = .initiated) (pending : next.transaction.status = .pending)
    (written : next.transaction.providerRef = ref) (change : state.world.db.Rewritten row next after.world.db)
    (alone : strict = true → ∀ copy, .copy row.id copy ∉ owned)
    (history : ∀ id other, Payment.opened after.history id other = true →
      (row.id = id ∧ ref = other) ∨ Payment.opened state.history id other = true) :
    Referenced strict after (.session row.id ref ::ₘ owned) := by
  -- an initiated transaction has no session yet
  have none (other : String) : .session row.id other ∉ owned := by
    intro member
    obtain ⟨stored,found,moved,_⟩ := referenced.sessions _ _ member
    cases change.stored.symm.trans found
    exact moved initiated
  have only {other : String} (member : .session row.id other ∈ Holding.session row.id ref ::ₘ owned) : other = ref := by
    rcases Multiset.mem_cons.mp member with same | old
    · cases same
      rfl
    · exact absurd old (none other)
  refine referenced.rewritten change (fun again => ?_) (fun holding member distinct => ?_) (fun other member _ => ?_)
    (fun other member => .inl (written.trans (only member).symm))
    (fun left right member member' => (only member).trans (only member').symm)
    (fun id other distinct opening => ?_) fun isStrict other opening => ?_
  · rw [pending] at again
    cases again
  · rcases Multiset.mem_cons.mp member with rfl | old
    · exact absurd rfl distinct
    · exact old
  · rcases Multiset.mem_cons.mp member with same | old
    · cases same
    · cases mode : strict with
      | true => exact absurd old (alone mode other)
      | false =>
        -- the copy is older than the session
        obtain ⟨stored,found,current⟩ := referenced.copies _ _ old
        cases change.stored.symm.trans found
        rcases current (by rw [initiated]; rfl) with same | ⟨_,empty⟩
        · exact .inr ⟨rfl,same.symm.trans (referenced.unopened _ _ change.stored initiated)⟩
        · exact .inr ⟨rfl,empty⟩
  · rcases history id other opening with ⟨same,_⟩ | old
    · exact absurd same.symm distinct
    · exact old
  · rcases history row.id other opening with ⟨_,same⟩ | old
    · exact written.trans same
    · obtain ⟨stored,found,moved,_⟩ := referenced.stored isStrict _ _ old
      cases change.stored.symm.trans found
      exact absurd initiated moved

theorem referenced_initiated (settings : Settings) (index : Nat) (fault : Fault) {id : ID} {ref : String} (referenced : Referenced strict state owned)
    (alone : strict = true → ∀ copy, .copy id copy ∉ owned) :
    Steady state.world (execute settings (.transitionIfInitiated id .pending ref) fault state.world).2 ∧
    (((execute settings (.transitionIfInitiated id .pending ref) fault state.world).1 = .ok 1 ∧
      Referenced strict (state.after (service settings) index (.transitionIfInitiated id .pending ref) fault)
        (.session id ref ::ₘ owned)) ∨
    (Refused (execute settings (.transitionIfInitiated id .pending ref) fault state.world).1 ∧
      Referenced strict (state.after (service settings) index (.transitionIfInitiated id .pending ref) fault) owned)) := by
  rcases execute_transitionIfInitiated settings id .pending ref fault state.world with
    ⟨row,next,db,rfl,initiated,pending,written,change,result⟩ | ⟨reply,refused,_,result⟩
  · have world : (state.after (service settings) index (.transitionIfInitiated row.id .pending ref) fault).world =
        {state.world with db := db} := congrArg Prod.snd result
    refine ⟨?_,.inl ⟨congrArg Prod.fst result,?_⟩⟩
    · rw [result]
      refine steady_rewritten change fun inactive => ?_
      rw [initiated] at inactive
      cases inactive
    · refine referenced.opened initiated pending written ?_ alone fun id other opening => ?_
      · rw [world]
        exact change
      · have events : (state.after (service settings) index (.transitionIfInitiated row.id .pending ref) fault).history =
            ⟨index,.transitionIfInitiated row.id .pending ref,.ok 1⟩ :: state.history := by
          rw [State.after_history]
          exact congrArg (fun reply => ⟨index,.transitionIfInitiated row.id .pending ref,reply⟩ :: state.history)
            (congrArg Prod.fst result)
        rw [events] at opening
        exact opened_applied opening
  · have same : Refused (execute settings (.transitionIfInitiated id .pending ref) fault state.world).1 := by
      rw [result]
      exact refused
    have unmoved : Unmoved state.world (execute settings (.transitionIfInitiated id .pending ref) fault state.world).2 :=
      .of_eq (by rw [result])
    exact ⟨unmoved.steady,.inr ⟨same,referenced.unmoved unmoved fun _ _ => opened_refused same.ne_applied⟩⟩

theorem referenced_session (settings : Settings) (index : Nat) (fault : Fault) {id : ID} {ref link : String}
    (referenced : Referenced strict state (.session id ref ::ₘ owned)) :
    Referenced strict (state.after (service settings) index (.updateSession id ref link) fault) owned ∧
    Steady state.world (execute settings (.updateSession id ref link) fault state.world).2 := by
  have fewer := referenced.mono (Multiset.le_cons_self owned (.session id ref))
  have history (position : ID) (session : String) :
      opened (state.after (service settings) index (.updateSession id ref link) fault).history position session =
        opened state.history position session := opened_other (by simp)
  rcases execute_updateSession settings id ref link fault state.world with
    ⟨row,next,db,rfl,status,written,change,result⟩ | ⟨reply,result⟩
  · have world : (state.after (service settings) index (.updateSession row.id ref link) fault).world =
        {state.world with db := db} := congrArg Prod.snd result
    obtain ⟨stored,found,moved,current⟩ := referenced.sessions _ _ (Multiset.mem_cons_self _ _)
    cases change.stored.symm.trans found
    refine ⟨fewer.rewritten (by rw [world]; exact change) (status ▸ moved) (fun _ member _ => member)
      (fun other member active => ?_) (fun other member => .inl ?_) (fewer.agree _)
      (fun id other _ opening => history id other ▸ opening) fun isStrict other opening => ?_,?_⟩
    · obtain ⟨stored,found,kept⟩ := fewer.copies _ _ member
      cases change.stored.symm.trans found
      rw [status] at active
      rw [written]
      rcases current with same | ⟨_,inactive,_⟩
      · rw [← same]
        exact kept active
      · rw [active] at inactive
        cases inactive
    · rw [written]
      exact referenced.agree _ _ _ (Multiset.mem_cons_self _ _) (Multiset.mem_cons_of_mem member)
    · rw [history] at opening
      obtain ⟨stored,found,_,same⟩ := fewer.stored isStrict _ _ opening
      cases change.stored.symm.trans found
      rcases current with kept | ⟨lenient,_⟩
      · rw [written,← kept,same]
      · rw [isStrict] at lenient
        cases lenient
    · rw [result]
      refine steady_rewritten change fun _ named => ?_
      rcases current with kept | ⟨_,_,empty⟩
      · rw [written,kept]
      · exact absurd empty named
  · have unmoved : Unmoved state.world (execute settings (.updateSession id ref link) fault state.world).2 :=
      .of_eq (by rw [result])
    exact ⟨fewer.unmoved unmoved history,unmoved.steady⟩

end Steps

/-! The protocol: a call holds the copies that it is going to write back, and the session
it has stored until it has written it again. -/

/-- The status that a webhook asks for by the name of its event. -/
def WebhookEvent.asks : WebhookEvent → Option TransactionStatus
  | .completed => some .completed
  | .expired => some .expired
  | .other _ => none

def Concerns (payload : SessionWebhookPayload) (row : TransactionRow) : Prop :=
  payload.referenceID = some row.bookingID ∧ row.transaction.providerRef = payload.sessionID

def Named (call : Call) (world : World) (statement : Statement) : Prop :=
  ∀ payload, call = .handleSessionWebhook (some payload) → payload.sessionID ≠ "" →
    match statement with
    | .transitionIfActive id status _ => payload.event.asks = some status ∧
        ∃ row, world.db.transactions.find? id = some row ∧
          (row.transaction.status.active = true → Concerns payload row)
    | .outbox (.insert message) => payload.event.asks = some message.outcome ∧
        ∃ row, world.db.transactions.find? message.transactionID = some row ∧ Concerns payload row
    | .createRefund refund => payload.event.asks = some .completed ∧
        ∃ row, world.db.transactions.find? refund.transactionID = some row ∧ Concerns payload row
    | .create _ | .transitionIfInitiated _ _ _ | .updateSession _ _ _ => False
    | _ => True

def hasRead (history : List (Event Statement Reply)) (index : Nat) (id : ID) : Bool :=
  history.any fun event => event.thread = index &&
    match event with
    | ⟨_,.findByBookingID _,.ok txn⟩ => txn.id = id
    | ⟨_,.listActiveExpired _ _,.ok rows⟩ => rows.items.any fun txn => txn.id = id
    | _ => false

def Mine (index : Nat) (call : Call) (state : View) (own : Holdings) : Prop :=
  ∀ id ref, .copy id ref ∈ own → call.settles = true ∧ hasRead state.history index id = true

def referencing (strict : Bool) : Protocol Statement Reply World Fault Call Holdings where
  evolves := Later
  evolves_refl := Later.refl
  evolves_trans _ _ _ := Later.trans
  invariant state owned := Referenced strict state owned
  permits _ call state frame statement _ := Justified call state.world statement ∧
    (strict = true → ∀ id status ref, statement = .transitionIfInitiated id status ref →
      ∀ copy, .copy id copy ∉ frame)
  fits index call state own statement := Mine index call state own ∧ Named call state.world statement

section Programs
variable {settings : Settings} {strict : Bool} {index : Nat} {call : Call} {α β : Type} {state : View}
variable {own : Holdings}

theorem Mine.later {later : View} (mine : Mine index call state own) (after : Later state later) :
    Mine index call later own := by
  intro id ref member
  obtain ⟨settles,read⟩ := mine id ref member
  obtain ⟨event,inside,same⟩ := List.any_eq_true.mp read
  exact ⟨settles,List.any_eq_true.mpr ⟨event,after.history event inside,same⟩⟩

theorem Named.other {world : World} {statement : Statement} (other : ∀ payload, call ≠ .handleSessionWebhook (some payload)) :
    Named call world statement := fun payload same => absurd same (other payload)

theorem Mine.none : Mine index call state 0 := fun _ _ member => absurd member (Multiset.notMem_zero _)

abbrev Refers (settings : Settings) (strict : Bool) (index : Nat) (call : Call) (program : Task α) (state : View)
    (own : Holdings) : Prop :=
  Clears (service settings) (referencing strict) index call program state own

private theorem later_after (index : Nat) {statement : Statement} {fault : Fault} (justified : Justified call state.world statement)
    (steady : Steady state.world (execute settings statement fault state.world).2) :
    Later state (state.after (service settings) index statement fault) :=
  ⟨execute_persists call statement fault state.world justified,steady,fun _ member => List.mem_cons_of_mem _ member⟩

theorem Refers.perform {statement : Statement} {next : Reply statement → Task α}
    (bystander : statement.bystander = true) (plain : statement.plain) (mine : Mine index call state own)
    (named : ∀ later, Later state later → Named call later.world statement)
    (continues : ∀ (later : View) fault, Later state later →
      Later later (later.after (service settings) index statement fault) →
      Refers settings strict index call (next (execute settings statement fault later.world).1)
        (later.after (service settings) index statement fault) own) :
    Refers settings strict index call (.perform statement next) state own := by
  intro later evolved frame referenced
  refine ⟨⟨mine.later evolved,named later evolved⟩,fun fault permitted => ?_⟩
  have step : Later later (later.after (service settings) index statement fault) :=
    later_after index permitted.1 (execute_unmoved bystander plain).steady
  refine ⟨step,own,?_,continues later fault evolved step⟩
  exact referenced_bystander referenced bystander plain

theorem Refers.pass {statement : Statement} {next : Reply statement → Task α}
    (bystander : statement.bystander = true) (plain : statement.plain) (mine : Mine index call state own)
    (named : ∀ world, Named call world statement)
    (continues : ∀ reply later, Later state later → Refers settings strict index call (next reply) later own) :
    Refers settings strict index call (.perform statement next) state own :=
  .perform bystander plain mine (fun later _ => named later.world) fun _ _ before step =>
    continues _ _ (before.trans step)

theorem Refers.of_issues {program : Task α} (issues : program.Issues fun statement => statement.bystander = true ∧
      statement.plain ∧ ∀ world, Named call world statement) :
    Refers settings strict index call program state 0 := by
  refine Holds.of_issues issues ?_ fun _ _ => rfl
  intro statement ⟨bystander,plain,named⟩ later frame referenced
  refine ⟨⟨.none,named later.world⟩,fun fault permitted => ⟨?_,?_⟩⟩
  · exact later_after index permitted.1 (execute_unmoved bystander plain).steady
  · exact referenced_bystander referenced bystander plain

def Sealed (world : World) (txn : Transaction) : Prop :=
  ∃ row, world.db.transactions.find? txn.id = some row ∧ row.transaction.status.active = false ∧
    row.transaction.providerRef = txn.providerRef

theorem Sealed.later {before after : View} {txn : Transaction} (isSealed : Sealed before.world txn)
    (named : txn.providerRef ≠ "") (later : Later before after) : Sealed after.world txn := by
  obtain ⟨row,found,settled,same⟩ := isSealed
  obtain ⟨next,present,_,reaches⟩ := later.persists.transactions _ _ found
  refine ⟨next,present,?_,?_⟩
  · rw [reaches.settled settled]
    exact settled
  · rw [later.steady _ _ _ found present settled (same ▸ named)]
    exact same

theorem Refers.writeBack {txn : Transaction} {status : TransactionStatus}
    {rest : Except DbError Bool → Task α} (final : status.active = false)
    (mine : Mine index call state (.copy txn.id txn.providerRef ::ₘ own))
    (named : ∀ later frame, Later state later →
      Referenced strict later (.copy txn.id txn.providerRef ::ₘ own + frame) →
      Named call later.world (.transitionIfActive txn.id status txn.providerRef))
    (failed : ∀ error later, Later state later → Refers settings strict index call (rest (.error error)) later own)
    (refused : ∀ later, Later state later → Refers settings strict index call (rest (.ok false)) later own)
    (applied : ∀ later, Later state later → Sealed later.world txn →
      Refers settings strict index call (rest (.ok true)) later own) :
    Refers settings strict index call ((TransactionRepo.transitionIfActive txn.id status txn.providerRef).bind rest)
      state (.copy txn.id txn.providerRef ::ₘ own) := by
  intro later evolved frame referenced
  refine ⟨⟨mine.later evolved,named later frame evolved referenced⟩,fun fault permitted => ?_⟩
  rw [Multiset.cons_add] at referenced
  obtain ⟨kept,steady,outcome⟩ := referenced_active settings index fault referenced final
  have step := later_after index permitted.1 steady
  have soFar := evolved.trans step
  refine ⟨step,own,kept,?_⟩
  change Refers settings strict index call (rest ((execute settings (.transitionIfActive txn.id status txn.providerRef)
    fault later.world).1.map fun affected => 0 < affected)) _ own
  rcases outcome with (none | ⟨error,failure⟩) | ⟨one,isSealed⟩
  · rw [none]
    exact refused _ soFar
  · rw [failure]
    exact failed error _ soFar
  · rw [one]
    exact applied _ soFar isSealed

theorem Refers.store (id : ID) (ref : String) {rest : Except DbError Bool → Task α}
    (named : ∀ world, Named call world (.transitionIfInitiated id .pending ref))
    (failed : ∀ error later, Refers settings strict index call (rest (.error error)) later 0)
    (refused : ∀ later, Refers settings strict index call (rest (.ok false)) later 0)
    (applied : ∀ later, Refers settings strict index call (rest (.ok true)) later {.session id ref}) :
    Refers settings strict index call ((TransactionRepo.transitionIfInitiated id .pending ref).bind rest) state 0 := by
  intro later _ frame referenced
  refine ⟨⟨.none,named later.world⟩,fun fault permitted => ?_⟩
  rw [zero_add] at referenced
  obtain ⟨steady,outcome⟩ := referenced_initiated settings index fault referenced
    fun isStrict => permitted.2 isStrict id .pending ref rfl
  have continues (answer : Except DbError Nat) (kept : Holdings)
      (reply : (execute settings (.transitionIfInitiated id .pending ref) fault later.world).1 = answer)
      (refers : ∀ next, Refers settings strict index call (rest (answer.map fun affected => 0 < affected)) next kept) :
      Refers settings strict index call
        (rest ((execute settings (.transitionIfInitiated id .pending ref) fault later.world).1.map
          fun affected => 0 < affected))
        (later.after (service settings) index (.transitionIfInitiated id .pending ref) fault) kept := by
    rw [reply]
    exact refers _
  refine ⟨later_after index permitted.1 steady,?_⟩
  rcases outcome with ⟨one,kept⟩ | ⟨none | ⟨error,failure⟩,kept⟩
  · exact ⟨{Holding.session id ref},by rw [Multiset.singleton_add]; exact kept,continues _ _ one applied⟩
  · exact ⟨0,by rw [zero_add]; exact kept,continues _ _ none refused⟩
  · exact ⟨0,by rw [zero_add]; exact kept,continues _ _ failure (failed error)⟩

theorem Refers.updateSession {id : ID} {ref link : String} {next : Except DbError Unit → Task α}
    (named : ∀ world, Named call world (.updateSession id ref link))
    (continues : ∀ reply later, Refers settings strict index call (next reply) later 0) :
    Refers settings strict index call (.perform (.updateSession id ref link) next) state {.session id ref} := by
  intro later _ frame referenced
  refine ⟨⟨fun id ref member => ?_,named later.world⟩,fun fault permitted => ?_⟩
  · cases Multiset.mem_singleton.mp member
  · obtain ⟨kept,steady⟩ := referenced_session settings index fault referenced
    exact ⟨later_after index permitted.1 steady,0,by rw [zero_add]; exact kept,continues _ _⟩

theorem Refers.publish {message : Time → Message} {rest : Unit → Task α} (mine : Mine index call state own)
    (named : ∀ later at_, Later state later → Named call later.world (.outbox (.insert (message at_))))
    (continues : ∀ later, Later state later → Refers settings strict index call (rest ()) later own) :
    Refers settings strict index call ((PaymentService.publish message).bind rest) state own := by
  refine Refers.pass rfl trivial mine (fun _ _ _ _ => trivial) fun at_ first before => ?_
  refine Refers.perform rfl trivial (mine.later before) (fun later after => ?_) fun second fault between step => ?_
  · exact named later at_ (before.trans after)
  · exact continues _ ((before.trans between).trans step)

def Transaction.held (txn : Transaction) : Holding := .copy txn.id txn.providerRef

theorem Referenced.copied {owned : Holdings} (referenced : Referenced strict state owned) (txns : List Transaction)
    (stored : ∀ txn ∈ txns, ∃ row ∈ state.world.db.transactions.rows, row.transaction = txn) :
    Referenced strict state (↑(txns.map Transaction.held) + owned) := by
  have session {id : ID} {ref : String}
      (member : .session id ref ∈ (↑(txns.map Transaction.held) + owned : Holdings)) : .session id ref ∈ owned := by
    rcases Multiset.mem_add.mp member with new | old
    · obtain ⟨txn,_,same⟩ := List.mem_map.mp (Multiset.mem_coe.mp new)
      cases same
    · exact old
  refine ⟨referenced.unopened,fun id ref member => ?_,fun id ref member => referenced.sessions id ref (session member),
    fun id ref other member member' => referenced.agree id ref other (session member) (session member'),
    referenced.stored⟩
  rcases Multiset.mem_add.mp member with new | old
  · obtain ⟨txn,inside,same⟩ := List.mem_map.mp (Multiset.mem_coe.mp new)
    obtain ⟨row,isStored,rfl⟩ := stored txn inside
    cases same
    exact ⟨row,Table.find?_of_mem isStored,fun _ => .inl rfl⟩
  · exact referenced.copies id ref old

theorem Refers.read {statement : Statement} {next : Reply statement → Task α}
    (reads : statement.writes = false) (named : ∀ world, Named call world statement) (settles : call.settles = true)
    (held : Reply statement → List Transaction)
    (stored : ∀ fault (world : World), ∀ txn ∈ held (execute settings statement fault world).1,
      ∃ row ∈ world.db.transactions.rows, row.transaction = txn)
    (recorded : ∀ reply history, ∀ txn ∈ held reply, hasRead (⟨index,statement,reply⟩ :: history) index txn.id = true)
    (continues : ∀ (later : View) fault, Persists later.world (execute settings statement fault later.world).2 →
      (∀ id, (execute settings statement fault later.world).2.db.transactions.find? id =
        later.world.db.transactions.find? id) →
      Mine index call (later.after (service settings) index statement fault)
        ↑((held (execute settings statement fault later.world).1).map Transaction.held) →
      Refers settings strict index call (next (execute settings statement fault later.world).1)
        (later.after (service settings) index statement fault)
        ↑((held (execute settings statement fault later.world).1).map Transaction.held)) :
    Refers settings strict index call (.perform statement next) state 0 := by
  intro later _ frame referenced
  have bystander : statement.bystander = true := by
    cases statement with
    | transitionIfActive _ _ _ | transitionIfInitiated _ _ _ | updateSession _ _ _ => cases reads
    | _ => rfl
  have plain : statement.plain := by
    cases statement with
    | create _ => cases reads
    | _ => trivial
  refine ⟨⟨.none,named later.world⟩,fun fault permitted => ?_⟩
  have same : (later.after (service settings) index statement fault).world.db = later.world.db :=
    (execute_reads fault later.world reads).db
  rw [zero_add] at referenced
  have kept : Referenced strict (later.after (service settings) index statement fault) frame :=
    referenced_bystander referenced bystander plain
  refine ⟨later_after index permitted.1 (execute_unmoved bystander plain).steady,_,kept.copied _ fun txn inside => ?_,
    continues later fault (execute_persists call statement fault later.world permitted.1)
      (fun id => congrArg (fun db => db.transactions.find? id) same) fun id ref member => ?_⟩
  · rw [same]
    exact stored fault later.world txn inside
  · obtain ⟨txn,inside,equal⟩ := List.mem_map.mp (Multiset.mem_coe.mp member)
    cases equal
    exact ⟨settles,recorded _ later.history txn inside⟩

private theorem initiate_refers (request : InternalCreateRequest) :
    Refers settings strict index (.initiateTxnForBooking request)
      (PaymentService.initiateTxnForBooking settings request) state 0 := by
  refine Refers.pass rfl trivial .none (fun _ => .other (by simp)) fun id first _ => ?_
  refine Refers.pass rfl ⟨rfl,rfl⟩ .none (fun _ => .other (by simp)) fun created second _ => ?_
  rcases created with error | _
  · cases error with
    | uniqueViolation =>
      refine Refers.pass rfl trivial .none (fun _ => .other (by simp)) fun found third _ => ?_
      rcases found with error | existing <;> exact .done
    | _ => exact .done
  · exact .done

private theorem openSession_refers (bookingID userID : ID) (txn : Transaction) (expiresAt : Time) :
    Refers settings strict index (.processPayment bookingID userID)
      (PaymentService.openSession settings bookingID txn expiresAt) state 0 := by
  refine Refers.pass rfl trivial .none (fun _ => .other (by simp)) fun now first _ => ?_
  refine Refers.pass rfl trivial .none (fun _ => .other (by simp)) fun result second _ => ?_
  rcases result with error | result
  · exact .done
  refine Refers.store txn.id result.providerRef (fun _ => .other (by simp)) (fun error later => .done) (fun later => ?_) fun later => ?_
  · exact Refers.pass rfl trivial .none (fun _ => .other (by simp)) fun _ _ _ => .done
  · refine Refers.updateSession (fun _ => .other (by simp)) fun reply last => ?_
    rcases reply with error | _ <;> exact .done

private theorem processPayment_refers (bookingID userID : ID) :
    Refers settings strict index (.processPayment bookingID userID)
      (PaymentService.processPayment settings bookingID userID) state 0 := by
  refine Refers.pass rfl trivial .none (fun _ => .other (by simp)) fun found first _ => ?_
  rcases found with error | txn
  · exact .done
  simp only [Program.done_bind]
  split
  · exact .done
  split
  · exact .done
  refine Refers.pass rfl trivial .none (fun _ => .other (by simp)) fun now second _ => ?_
  simp only [Program.done_bind]
  split
  · exact .done
  refine Refers.pass rfl trivial .none (fun _ => .other (by simp)) fun later third _ => ?_
  simp only [Program.done_bind]
  split
  · exact .done
  split
  · exact .done
  · exact openSession_refers bookingID userID txn _

private theorem Sealed.concerns {world : World} {payload : SessionWebhookPayload} {txn : Transaction}
    (isSealed : Sealed world txn) (known : Known world txn) (reference : payload.referenceID = some txn.bookingID)
    (session : txn.providerRef = payload.sessionID) :
    ∃ row, world.db.transactions.find? txn.id = some row ∧ Concerns payload row := by
  obtain ⟨row,found,_,same⟩ := isSealed
  obtain ⟨other,present,fixed,_⟩ := known
  cases found.symm.trans present
  refine ⟨row,found,?_,same.trans session⟩
  rw [reference]
  exact congrArg some (congrArg Transaction.bookingID fixed).symm

private theorem named_writeBack {payload : SessionWebhookPayload} {txn : Transaction} {status : TransactionStatus}
    {owned : Holdings} (referenced : Referenced strict state (.copy txn.id txn.providerRef ::ₘ owned))
    (known : Known state.world txn) (reference : payload.referenceID = some txn.bookingID)
    (session : payload.sessionID ≠ "" → txn.providerRef = payload.sessionID) (asks : payload.event.asks = some status) :
    Named (.handleSessionWebhook (some payload)) state.world (.transitionIfActive txn.id status txn.providerRef) := by
  rintro _ ⟨⟩ named
  obtain ⟨row,found,current⟩ := referenced.copies _ _ (Multiset.mem_cons_self _ _)
  obtain ⟨other,present,fixed,_⟩ := known
  cases found.symm.trans present
  refine ⟨asks,row,found,fun active => ⟨?_,?_⟩⟩
  · rw [reference]
    exact congrArg some (congrArg Transaction.bookingID fixed).symm
  · rw [← session named]
    rcases current active with same | ⟨_,empty⟩
    · exact same
    · exact absurd ((session named).symm.trans empty) named

private theorem applyWebhook_refers {payload : SessionWebhookPayload} {txn : Transaction}
    (known : Known state.world txn) (reference : payload.referenceID = some txn.bookingID)
    (session : payload.sessionID ≠ "" → txn.providerRef = payload.sessionID)
    (isSealed : txn.status.active = false → Sealed state.world txn)
    (mine : payload.event.asks ≠ none → Mine index (.handleSessionWebhook (some payload)) state {txn.held}) :
    Refers settings strict index (.handleSessionWebhook (some payload)) (PaymentService.applyWebhook txn payload.event)
      state (if payload.event.asks = none then 0 else {txn.held}) := by
  have published {later : View} {message : Time → Message} {status : TransactionStatus} (value : Except Error Unit)
      (before : Later state later) (final : Sealed later.world txn) (asks : payload.event.asks = some status)
      (transaction : ∀ at_, (message at_).transactionID = txn.id) (outcome : ∀ at_, (message at_).outcome = status) :
      Refers settings strict index (.handleSessionWebhook (some payload))
        ((PaymentService.publish message).bind fun _ => .done value) later 0 := by
    refine Refers.publish .none (fun last at_ after => ?_) fun _ _ => .done
    rintro _ ⟨⟩ named
    have nonempty : txn.providerRef ≠ "" := session named ▸ named
    refine ⟨asks.trans (congrArg some (outcome at_).symm),?_⟩
    rw [transaction]
    exact (final.later nonempty after).concerns (known.later (before.trans after).persists) reference (session named)
  -- an applied update is announced under the reference that was written back
  cases event : payload.event with
  | completed =>
    have asks : payload.event.asks = some .completed := by rw [event]; rfl
    refine Refers.writeBack rfl (mine (by simp [asks])) (fun later frame before referenced => ?_) (fun _ _ _ => .done)
      (fun later before => ?_) fun later before final => ?_
    · exact named_writeBack referenced (known.later before.persists) reference session asks
    · simp only
      split
      -- refused: the copy was read as expired, so the refund is for a settled transaction
      · rename_i expired
        refine Refers.pass rfl trivial .none (fun _ _ _ _ => trivial) fun id second between => ?_
        refine Refers.perform rfl trivial .none (fun last after => ?_) fun third fault _ _ => ?_
        · rintro _ ⟨⟩ named
          have soFar := (before.trans between).trans after
          have nonempty : txn.providerRef ≠ "" := session named ▸ named
          refine ⟨asks,?_⟩
          exact ((isSealed (by rw [expired]; rfl)).later nonempty soFar).concerns (known.later soFar.persists)
            reference (session named)
        · generalize (execute settings (.createRefund _) fault third.world).1 = reply
          rcases reply with error | _
          · exact .done
          · exact Refers.pass rfl trivial .none (fun _ _ _ _ => trivial) fun _ _ _ => .done
      · exact .done
    · exact published _ before final asks (fun _ => rfl) fun _ => rfl
  | expired =>
    have asks : payload.event.asks = some .expired := by rw [event]; rfl
    refine Refers.writeBack rfl (mine (by simp [asks])) (fun later frame before referenced => ?_) (fun _ _ _ => .done)
      (fun _ _ => .done) fun later before final => ?_
    · exact named_writeBack referenced (known.later before.persists) reference session asks
    · exact published _ before final asks (fun _ => rfl) fun _ => rfl
  | other name => exact .done

private def toWriteBack (payload : SessionWebhookPayload) : Except DbError Transaction → List Transaction
  | .error _ => []
  | .ok txn => if (payload.sessionID ≠ "" ∧ payload.sessionID ≠ txn.providerRef) ∨ payload.event.asks = none then []
    else [txn]

private theorem mem_toWriteBack {payload : SessionWebhookPayload} {reply : Except DbError Transaction}
    {txn : Transaction} (member : txn ∈ toWriteBack payload reply) : reply = .ok txn := by
  cases reply with
  | error error => cases member
  | ok found =>
    rw [toWriteBack] at member
    split at member
    · cases member
    · rw [List.mem_singleton.mp member]

private theorem webhook_refers (payload : Option SessionWebhookPayload) :
    Refers settings strict index (.handleSessionWebhook payload) (PaymentService.handleSessionWebhook payload) state 0 := by
  cases payload with
  | none => exact .done
  | some payload =>
    simp only [PaymentService.handleSessionWebhook]
    cases reference : payload.referenceID with
    | none => exact .done
    | some bookingID =>
      refine Refers.read rfl (fun _ _ _ _ => trivial) rfl (toWriteBack payload) (fun fault world txn inside => ?_)
        (fun reply history txn inside => ?_) fun later fault persists same mine => ?_
      · have read : world.db.findByBookingID bookingID = .ok txn := query_ok (mem_toWriteBack inside)
        obtain ⟨row,stored,rfl,_⟩ := Database.findByBookingID_ok read
        exact ⟨row,Table.find?_mem stored,rfl⟩
      · cases mem_toWriteBack inside
        simp [hasRead]
      · cases reply : (execute settings (.findByBookingID bookingID) fault later.world).1 with
        | error error => exact .done
        | ok txn =>
          have read : later.world.db.findByBookingID bookingID = .ok txn := query_ok reply
          obtain ⟨row,stored,rfl,booking⟩ := Database.findByBookingID_ok read
          rw [reply] at mine
          have known : Known later.world row.transaction := .of_mem (Table.find?_mem stored)
          have settled (final : row.transaction.status.active = false) :
              Sealed (later.after (service settings) index (.findByBookingID bookingID) fault).world row.transaction :=
            ⟨row,(same _).trans stored,final,rfl⟩
          simp only [Program.done_bind]
          by_cases mismatch : payload.sessionID ≠ "" ∧ payload.sessionID ≠ row.transaction.providerRef
          · rw [if_pos mismatch,toWriteBack,if_pos (.inl mismatch)]
            exact .done
          · rw [if_neg mismatch]
            simp only [toWriteBack,mismatch,false_or] at mine ⊢
            have named : payload.sessionID ≠ "" → row.transaction.providerRef = payload.sessionID :=
              fun named => (not_not.mp fun other => mismatch ⟨named,other⟩).symm
            have holding : (↑((if payload.event.asks = none then [] else [row.transaction]).map Transaction.held) :
                Holdings) = if payload.event.asks = none then 0 else {row.transaction.held} := by
              split <;> rfl
            rw [holding] at mine ⊢
            refine applyWebhook_refers (known.later persists) (reference.trans (congrArg some booking.symm)) named settled
              fun asks => ?_
            rw [if_neg asks] at mine
            exact mine

private theorem Refers.closeSession {providerRef : String} {rest : Unit → Task α} (mine : Mine index call state own)
    (named : ∀ world, Named call world (.cancelSession providerRef))
    (continues : ∀ later, Later state later → Refers settings strict index call (rest ()) later own) :
    Refers settings strict index call ((PaymentService.closeSession providerRef).bind rest) state own := by
  unfold PaymentService.closeSession
  split
  · exact Refers.pass rfl trivial mine named fun _ later before => continues later before
  · exact continues state (.refl _)

private theorem expireAll_refers (limit : Nat) (txns : List Transaction)
    (mine : Mine index (.processExpired limit) state ↑(txns.map Transaction.held)) :
    Refers settings strict index (.processExpired limit) (PaymentService.expireAll txns) state
      ↑(txns.map Transaction.held) := by
  induction txns generalizing state with
  | nil => exact .done
  | cons txn others ih =>
    have remaining {later : View} (before : Later state later) :
        Refers settings strict index (.processExpired limit) (PaymentService.expireAll others) later
          ↑(others.map Transaction.held) :=
      ih fun id ref member => (mine.later before) id ref (Multiset.mem_cons_of_mem member)
    rw [List.map_cons,← Multiset.cons_coe,Transaction.held] at mine ⊢
    refine Refers.closeSession mine (fun _ => .other (by simp)) fun first before => ?_
    refine Refers.writeBack rfl (mine.later before) (fun _ _ _ _ => .other (by simp))
      (fun _ _ after => remaining (before.trans after)) (fun _ after => remaining (before.trans after)) fun later after _ => ?_
    refine Refers.publish (fun id ref member => ?_) (fun _ _ _ => .other (by simp)) fun last further => ?_
    · exact mine.later (before.trans after) id ref (Multiset.mem_cons_of_mem member)
    · exact remaining ((before.trans after).trans further)

private theorem expired_refers (limit : Nat) :
    Refers settings strict index (.processExpired limit) (PaymentService.processExpired limit) state 0 := by
  refine Refers.pass rfl trivial .none (fun _ => .other (by simp)) fun now first _ => ?_
  refine Refers.read rfl (fun _ => .other (by simp)) rfl (fun reply => match reply with
    | .error _ => []
    | .ok rows => rows.items) (fun fault world txn inside => ?_) (fun reply history txn inside => ?_)
    fun later fault _ _ mine => ?_
  · cases reply : (execute settings (.listActiveExpired now limit) fault world).1 with
    | error error =>
      rw [reply] at inside
      cases inside
    | ok rows =>
      rw [reply] at inside
      have part : rows.items <+: world.db.listActiveExpired now limit := stream_part reply
      have listed := List.mem_of_mem_take (part.subset inside)
      rw [List.mem_insertionSort] at listed
      exact List.mem_map.mp (List.mem_filter.mp listed).1
  · rcases reply with error | rows
    · cases inside
    · simp only [hasRead,List.any_cons,decide_true,Bool.true_and,Bool.or_eq_true]
      exact .inl (List.any_eq_true.mpr ⟨txn,inside,decide_eq_true rfl⟩)
  · cases reply : (execute settings (.listActiveExpired now limit) fault later.world).1 with
    | error error => exact .done
    | ok rows =>
      rw [reply] at mine
      simp only [TransactionRepo.collectTxns,Except.map,Program.done_bind]
      exact .bind (expireAll_refers limit rows.items mine) fun _ _ => .done

theorem program_refers (call : Call) : Refers settings strict index call (program settings call) state 0 := by
  cases call with
  | initiateTxnForBooking request => exact .bind (initiate_refers request) fun _ _ => .done
  | processPayment bookingID userID => exact .bind (processPayment_refers bookingID userID) fun _ _ => .done
  | handleSessionWebhook payload => exact .bind (webhook_refers payload) fun _ _ => .done
  | processExpired limit => exact .bind (expired_refers limit) fun _ _ => .done
  | handleEventCancelled _ | processBatch | wait _ =>
    refine Refers.of_issues ((program_issues settings _).mono fun statement inside => ?_)
    cases statement with
    | create _ | transitionIfActive _ _ _ | transitionIfInitiated _ _ _ | updateSession _ _ _ => exact False.elim inside
    | _ => exact ⟨rfl,trivial,fun _ => .other (by simp)⟩

end Programs

section Runs
variable {settings : Settings} {guard : Pool → Step → Prop} {config : Pool}

theorem Referenced.initial (strict : Bool) : Referenced strict ⟨World.initial,[]⟩ 0 := by
  refine ⟨fun _ _ found => ?_,fun _ _ member => ?_,fun _ _ member => ?_,fun _ _ _ member => ?_,fun _ _ _ written => ?_⟩
  · cases found
  · cases Multiset.notMem_zero _ member
  · cases Multiset.notMem_zero _ member
  · cases Multiset.notMem_zero _ member
  · cases written

theorem referencing_obeyed {strict : Bool} (unshared : strict = true → ∀ config index fault call id status ref next,
      guard config (.step index fault) →
      config.threads[index]? = some ⟨call,some (.perform (.transitionIfInitiated id status ref) next)⟩ →
      ∀ (position : Nat) (caller : Call) statement rest,
        config.threads[position]? = some ⟨caller,some (.perform statement rest)⟩ → caller.settles = true →
        hasRead config.state.history position id = false) :
    Obeys (service settings) (referencing strict) (fun _ _ _ _ kept => kept = 0) guard (.idle .initial) where
  starts config call _ _ := program_refers call
  steps := by
    intro config index fault call statement next own others run permitted found _ fits
    refine ⟨justified_of_run .initial run found,?_⟩
    rintro isStrict id status ref rfl copy member
    obtain ⟨other,inside,held⟩ := mem_sum_tokens member
    obtain ⟨position,⟨caller,program⟩,_,present,fit⟩ := fits other inside
    match program,fit with
    | none,fit =>
      change other = 0 at fit
      exact Multiset.notMem_zero _ (fit ▸ held)
    | some (.done value),fit =>
      change other = 0 at fit
      exact Multiset.notMem_zero _ (fit ▸ held)
    | some (.perform op rest),fit =>
      obtain ⟨settles,read⟩ := fit.1 id copy held
      rw [unshared isStrict config index fault call id status ref next permitted found position caller op rest present
        settles] at read
      cases read
  stops config index thread own frame _ _ _ _ referenced := referenced.mono (Multiset.le_add_left ..)

theorem referencing_holds (run : Run (service settings) guard (.idle .initial) config) :
    PoolHolds (service settings) (referencing false) (fun _ _ _ _ kept => kept = 0) config :=
  PoolHolds.run (PoolHolds.idle _ (.initial false)) (referencing_obeyed nofun) run

theorem named_of_run (run : Run (service settings) guard (.idle .initial) config) {index : Nat} {call : Call}
    {statement : Statement} {next : Reply statement → Task Result}
    (found : config.threads[index]? = some ⟨call,some (.perform statement next)⟩) :
    Named call config.state.world statement := by
  obtain ⟨_,_,fits,_⟩ := (referencing_holds run).thread_fits index _ found
  exact fits.2

variable {payload : SessionWebhookPayload} {statement : Statement} {fault : Fault} {world : World}

private theorem named_status {row changed : TransactionRow} (named : payload.sessionID ≠ "")
    (known : Named (.handleSessionWebhook (some payload)) world statement)
    (before : world.db.transactions.find? row.id = some row)
    (after : (execute settings statement fault world).2.db.transactions.find? row.id = some changed)
    (moved : changed.transaction.status ≠ row.transaction.status) :
    Concerns payload row ∧ payload.event.asks = some changed.transaction.status := by
  have known := known payload rfl named
  have unmoved (kept : Unmoved world (execute settings statement fault world).2) : False := by
    obtain ⟨kept,present,status,_⟩ := kept.kept _ _ before
    cases after.symm.trans present
    exact moved status
  cases statement with
  | transitionIfActive id status ref =>
    obtain ⟨asks,stored,present,concerns⟩ := known
    rcases execute_transitionIfActive settings id status ref fault world with
      ⟨old,written,db,rfl,active,now,_,change,result⟩ | ⟨reply,_,_,result⟩
    · rw [result] at after
      rw [change.found] at after
      split at after
      · rename_i here
        cases after
        cases change.stored.symm.trans present
        rw [← here,present] at before
        cases before
        exact ⟨concerns active,now ▸ asks⟩
      · cases before.symm.trans after
        exact absurd rfl moved
    · exact (unmoved (.of_eq (by rw [result]))).elim
  | create _ | transitionIfInitiated _ _ _ | updateSession _ _ _ => exact known.elim
  | _ => exact (unmoved (execute_unmoved rfl trivial)).elim

private theorem named_message {message : Message} (named : payload.sessionID ≠ "")
    (known : Named (.handleSessionWebhook (some payload)) world statement)
    (grown : (execute settings statement fault world).2.outbox.messages = world.outbox.messages ++ [message]) :
    payload.event.asks = some message.outcome ∧
      ∃ row, world.db.transactions.find? message.transactionID = some row ∧ Concerns payload row := by
  by_cases inserts : ∃ inserted, statement = .outbox (.insert inserted)
  · obtain ⟨inserted,rfl⟩ := inserts
    have only : inserted = message := by
      rcases Outbox.execute_messages (.insert inserted) fault world.outbox with same | ⟨_,⟨⟩,_,same⟩
      · exact absurd (same.symm.trans grown) (by simp)
      · simpa using same.symm.trans grown
    subst only
    exact known payload rfl named
  · rw [execute_messages fault _ fun message same => inserts ⟨message,same⟩] at grown
    exact absurd grown (by simp)

private theorem named_refund {refund : RefundRow} (named : payload.sessionID ≠ "")
    (known : Named (.handleSessionWebhook (some payload)) world statement)
    (stored : refund ∈ (execute settings statement fault world).2.db.refunds.rows)
    (new : refund ∉ world.db.refunds.rows) :
    payload.event.asks = some .completed ∧
      ∃ row, world.db.transactions.find? refund.refund.transactionID = some row ∧ Concerns payload row := by
  by_cases requests : ∃ request, statement = .createRefund request
  · obtain ⟨request,rfl⟩ := requests
    rcases execute_createRefund stored with old | rfl
    · exact absurd old new
    · exact known payload rfl named
  · rw [execute_refunds fault _ fun request same => requests ⟨request,same⟩] at stored
    exact absurd stored new

end Runs

/-- In every run, whatever a webhook with a session id writes: a status that it changes
is the one its event asks for, on the transaction of its reference that stores this
session; an outbox row that it inserts, or a refund that it asks for, is about such a
transaction. -/
theorem webhook_writes_named_session (settings : Settings) (config after : Pool) (index : Nat) (fault : Fault)
    (payload : SessionWebhookPayload) (program : Option (Task Result))
    (run : Run (service settings) Anything (.idle .initial) config) (named : payload.sessionID ≠ "")
    (thread : config.threads[index]? = some ⟨.handleSessionWebhook (some payload),program⟩)
    (taken : config.next (service settings) (.step index fault) = some after) :
    (∀ row ∈ config.state.world.db.transactions.rows, ∀ next ∈ after.state.world.db.transactions.rows,
      next.id = row.id → next.transaction.status ≠ row.transaction.status →
      payload.referenceID = some row.bookingID ∧ row.transaction.providerRef = payload.sessionID ∧
        payload.event.asks = some next.transaction.status) ∧
    (∀ message, after.state.world.outbox.messages = config.state.world.outbox.messages ++ [message] →
      ∃ row ∈ config.state.world.db.transactions.rows, row.id = message.transactionID ∧
        payload.referenceID = some row.bookingID ∧ row.transaction.providerRef = payload.sessionID ∧
        payload.event.asks = some message.outcome) ∧
    ∀ refund ∈ after.state.world.db.refunds.rows, refund ∉ config.state.world.db.refunds.rows →
      ∃ row ∈ config.state.world.db.transactions.rows, row.id = refund.refund.transactionID ∧
        payload.referenceID = some row.bookingID ∧ row.transaction.providerRef = payload.sessionID ∧
        payload.event.asks = some .completed := by
  obtain ⟨call,statement,next,found,rfl⟩ := Config.next_step _ _ _ _ _ taken
  cases found.symm.trans thread
  have known := named_of_run run found
  refine ⟨fun row member changed member' same moved => ?_,fun message grown => ?_,fun refund stored new => ?_⟩
  · obtain ⟨concerns,asks⟩ := named_status named known (Table.find?_of_mem member) (same ▸ Table.find?_of_mem member') moved
    exact ⟨concerns.1,concerns.2,asks⟩
  · obtain ⟨asks,row,present,concerns⟩ := named_message named known grown
    exact ⟨row,Table.find?_mem present,Table.find?_key present,concerns.1,concerns.2,asks⟩
  · obtain ⟨asks,row,present,concerns⟩ := named_refund named known stored new
    exact ⟨row,Table.find?_mem present,Table.find?_key present,concerns.1,concerns.2,asks⟩

/-- The completed webhook of the stored session settles its transaction. -/
theorem webhook_writes_named_session_paid : ∃ config after : Pool,
    Run (service sandbox) Anything (.idle .initial) config ∧
    config.next (service sandbox) (.step 2 .none) = some after ∧
    after.state.world.db.transactions.rows.map (fun row => row.transaction.status) = [.completed] ∧
    ∀ row ∈ config.state.world.db.transactions.rows, row.transaction.status = .pending ∧
      some 7 = some row.bookingID ∧ row.transaction.providerRef = "ps" := by
  obtain ⟨config,run,outcome⟩ := exists_run_of_replay (service sandbox) Anything
    (payable ++ .start (.handleSessionWebhook (some ⟨.completed,some 7,"ps",""⟩)) :: undisturbed 2 1) (.idle .initial)
    (fun (config : Pool) => config.calls[2]? = some (.handleSessionWebhook (some ⟨.completed,some 7,"ps",""⟩)) &&
      (config.next (service sandbox) (.step 2 .none)).any fun (after : Pool) =>
        after.state.world.db.transactions.rows.map (fun row => row.transaction.status) = [.completed] &&
        config.state.world.db.transactions.rows.all fun row => row.transaction.status = .pending &&
          after.state.world.db.transactions.rows.any fun next => next.id = row.id &&
            next.transaction.status ≠ row.transaction.status) (by decide +kernel)
  simp only [Bool.and_eq_true,decide_eq_true_eq,Option.any_eq_true,List.all_eq_true,List.any_eq_true] at outcome
  obtain ⟨called,after,taken,completed,settled⟩ := outcome
  obtain ⟨program,thread⟩ := Config.thread_of_callAt called
  refine ⟨config,after,run,taken,completed,fun row member => ?_⟩
  obtain ⟨pending,next,stored,same,moved⟩ := settled row member
  obtain ⟨reference,session,_⟩ := (webhook_writes_named_session sandbox config after 2 .none ⟨.completed,some 7,"ps",""⟩
    program run (by decide) thread taken).1 row member next stored same moved
  exact ⟨pending,reference,session⟩

/-- A session is stored on a transaction only while no webhook and no expiry pass is in
progress that has read it. -/
def undisputed (config : Pool) (_ : Nat) (statement : Statement) (_ : Fault) : Bool :=
  match statement with
  | .transitionIfInitiated id _ _ => (List.range config.threads.length).all fun position =>
    config.threads[position]?.all fun thread => !(thread.Running && thread.call.settles &&
      hasRead config.state.history position id)
  | _ => true

private theorem undisputed_obeyed (settings : Settings) :
    Obeys (service settings) (referencing true) (fun _ _ _ _ kept => kept = 0) (Stepwise undisputed)
      (.idle .initial) := by
  refine referencing_obeyed ?_
  intro _ config index fault call id status ref next permitted found position caller statement rest present settles
  have condition : undisputed config index (.transitionIfInitiated id status ref) fault = true :=
    Stepwise.meets permitted found
  have inside : position ∈ List.range config.threads.length :=
    List.mem_range.mpr (List.getElem?_eq_some_iff.mp present).1
  have free := List.all_eq_true.mp condition position inside
  have running : (⟨caller,some (.perform statement rest)⟩ : Thread Statement Reply Call Result).Running := rfl
  simpa [present,running,settles] using free

/-- In every run in which no session is stored on a transaction that a webhook or an
expiry pass in progress has read: once `TransitionIfInitiated` has stored a session, the
transaction has it in every state. -/
theorem session_written_once (settings : Settings) (config : Pool) (id : ID) (session : String)
    (run : Run (service settings) (Stepwise undisputed) (.idle .initial) config)
    (stored : opened config.state.history id session = true) :
    ∃ row ∈ config.state.world.db.transactions.rows, row.id = id ∧ row.transaction.providerRef = session := by
  have initially : PoolHolds (service settings) (referencing true) (fun _ _ _ _ kept => kept = 0)
      (.idle World.initial) := PoolHolds.idle _ (.initial true)
  obtain ⟨owned,referenced⟩ := (initially.run (undisputed_obeyed settings) run).invariant_holds
  obtain ⟨row,found,_,same⟩ := referenced.stored rfl id session stored
  exact ⟨row,Table.find?_mem found,Table.find?_key found,same⟩

theorem session_written_once_paid : ∃ config : Pool,
    Run (service sandbox) (Stepwise undisputed) (.idle .initial) config ∧
    opened config.state.history 0 "ps" = true ∧
    config.state.world.db.transactions.rows.map (fun row => row.transaction.status) = [.completed] ∧
    ∃ row ∈ config.state.world.db.transactions.rows, row.id = 0 ∧ row.transaction.providerRef = "ps" := by
  obtain ⟨config,run,outcome⟩ := exists_run_of_replay (service sandbox) (Stepwise undisputed)
    (payable ++ .start (.handleSessionWebhook (some ⟨.completed,some 7,"",""⟩)) :: undisturbed 2 4) (.idle .initial)
    (fun (config : Pool) => opened config.state.history 0 "ps" &&
      config.state.world.db.transactions.rows.map (fun row => row.transaction.status) = [.completed]) (by decide +kernel)
  simp only [Bool.and_eq_true,decide_eq_true_eq] at outcome
  exact ⟨config,run,outcome.1,outcome.2,session_written_once sandbox config 0 "ps" run outcome.1⟩

/-- A webhook without a session id has read the transaction before its session was stored;
it expires the transaction and writes back the empty reference. -/
theorem session_overwritten : ¬∀ (settings : Settings) (config : Pool) (id : ID) (session : String),
    Run (service settings) Anything (.idle .initial) config → session ≠ "" →
    opened config.state.history id session = true →
    ∃ row ∈ config.state.world.db.transactions.rows, row.id = id ∧ row.transaction.providerRef = session := by
  intro safe
  obtain ⟨config,run,outcome⟩ := exists_run_of_replay (service sandbox) Anything
    (.start (.initiateTxnForBooking ⟨7,1,5,"e",100,10 * minute⟩) :: undisturbed 0 2 ++
      .start (.handleSessionWebhook (some ⟨.expired,some 7,"",""⟩)) :: undisturbed 1 1 ++
      .start (.processPayment 7 5) :: undisturbed 2 7 ++ undisturbed 1 3) (.idle .initial)
    (fun (config : Pool) => opened config.state.history 0 "ps" && config.Quiet &&
      config.state.world.db.transactions.rows.all fun row => row.transaction.providerRef = "") (by decide +kernel)
  simp only [Bool.and_eq_true,decide_eq_true_eq,List.all_eq_true] at outcome
  obtain ⟨row,member,_,same⟩ := safe sandbox config 0 "ps" run (by decide) outcome.1.1
  rw [outcome.2 row member] at same
  exact absurd same (by decide)

end Ticketbus.Payment
