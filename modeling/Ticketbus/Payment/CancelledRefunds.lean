import Ticketbus.Payment.Settlement
import Ticketbus.Concurrency.Sequential

/-! The refunds of a cancelled event. `event.cancelled` may be delivered again and again, and a delivery may
stop at any of its statements; what one delivery has done, the next one leaves alone. -/
namespace Ticketbus.Payment
open Ticketbus.Concurrency Ticketbus.Relational

def TransactionRow.paidFor (row : TransactionRow) (eventID : ID) : Bool :=
  row.transaction.eventID = eventID && row.transaction.status = .completed

def TransactionRow.refunding (row : TransactionRow) : TransactionRow :=
  row.write row.transaction.status row.transaction.providerRef row.transaction.paymentLinkURL .pending

namespace Database

/-- What deliveries do, however far they get: payments for the event are marked and refunds for them are added. -/
structure Progress (eventID : ID) (before after : Database) : Prop where
  transactions : ∀ id, after.transactions.find? id = before.transactions.find? id ∨
    ∃ row, before.transactions.find? id = some row ∧ row.paidFor eventID = true ∧
      after.transactions.find? id = some row.refunding
  kept : before.refunds.rows <+: after.refunds.rows
  gained : ∀ refund ∈ after.refunds.rows, refund ∈ before.refunds.rows ∨
    ∃ row, before.transactions.find? refund.refund.transactionID = some row ∧ row.paidFor eventID = true ∧
      refund.key = .eventCancelled row.id

def Requested (db : Database) (id : ID) : Prop :=
  (∀ row, db.transactions.find? id = some row → row.transaction.refundStatus = .pending) ∧
    ∃ refund ∈ db.refunds.rows, refund.key = .eventCancelled id

/-- A refund with the transaction's key is stored. -/
def Keyed (db : Database) (id : ID) : Prop := ∃ refund ∈ db.refunds.rows, refund.key = .eventCancelled id

def Marked (db : Database) (id : ID) : Prop :=
  ∃ row, db.transactions.find? id = some row ∧ row.transaction.refundStatus = .pending

variable {eventID : ID} {before middle after : Database}

theorem requested_iff {id : ID} {row : TransactionRow} (found : after.transactions.find? id = some row) :
    after.Requested id ↔ after.Marked id ∧ after.Keyed id := by
  refine and_congr_left fun _ => ⟨fun all => ⟨row,found,all row found⟩,?_⟩
  rintro ⟨other,isOther,pending⟩ row found
  cases isOther.symm.trans found
  exact pending

theorem Progress.refl (eventID : ID) (db : Database) : Progress eventID db db :=
  ⟨fun _ => .inl rfl,List.prefix_rfl,fun _ member => .inl member⟩

theorem Progress.trans (first : Progress eventID before middle) (second : Progress eventID middle after) :
    Progress eventID before after := by
  constructor
  · intro id
    rcases second.transactions id with same | ⟨row,found,paid,marked⟩
    · rw [same]
      exact first.transactions id
    · rcases first.transactions id with same | ⟨old,stored,due,again⟩
      · exact .inr ⟨row,same ▸ found,paid,marked⟩
      · cases found.symm.trans again
        exact .inr ⟨old,stored,due,marked⟩
  · exact first.kept.trans second.kept
  · intro refund member
    rcases second.gained refund member with old | ⟨row,found,paid,key⟩
    · exact first.gained refund old
    · rcases first.transactions refund.refund.transactionID with same | ⟨old,stored,due,again⟩
      · exact .inr ⟨row,same ▸ found,paid,key⟩
      · cases found.symm.trans again
        exact .inr ⟨old,stored,due,key⟩

theorem Progress.paid (progress : Progress eventID before after) {id : ID} {row : TransactionRow}
    (found : before.transactions.find? id = some row) (paid : row.paidFor eventID = true) :
    ∃ later, after.transactions.find? id = some later ∧ later.paidFor eventID = true := by
  rcases progress.transactions id with same | ⟨old,stored,due,marked⟩
  · exact ⟨row,same.trans found,paid⟩
  · exact ⟨_,marked,due⟩

theorem createRefund_progress {refund : RefundRequest} {row : TransactionRow}
    (ok : before.createRefund refund = .ok ((),after))
    (found : before.transactions.find? refund.transactionID = some row) (paid : row.paidFor eventID = true)
    (key : refund.idempotencyKey = .eventCancelled row.id) :
    Progress eventID before after ∧ ∃ refund ∈ after.refunds.rows, refund.key = .eventCancelled row.id := by
  rcases createRefund_ok ok with ⟨rfl,stored,member,same⟩ | ⟨added,fresh,unkeyed,transaction,rfl,rfl⟩
  · exact ⟨.refl eventID after,stored,member,same.trans key⟩
  · have grown (other : RefundRow) : other ∈ (before.addRefund added fresh unkeyed transaction).refunds.rows ↔
        other ∈ before.refunds.rows ∨ other = added := Table.mem_insert before.refunds added other fresh
    refine ⟨⟨fun _ => .inl rfl,List.prefix_append _ _,?_⟩,added,(grown added).mpr (.inr rfl),key⟩
    intro other member
    rcases (grown other).mp member with old | rfl
    · exact .inl old
    · exact .inr ⟨row,found,paid,key⟩

theorem updateRefundStatus_progress {id : ID} {row : TransactionRow}
    (ok : before.updateRefundStatus id .pending = .ok ((),after))
    (found : before.transactions.find? id = some row) (paid : row.paidFor eventID = true) :
    Progress eventID before after ∧ after.transactions.find? id = some row.refunding := by
  unfold updateRefundStatus at ok
  split at ok
  · rename_i absent
    cases absent.symm.trans found
  · rename_i stored isStored
    cases found.symm.trans isStored
    cases ok
    have key : row.id = id := Table.find?_key found
    have rewritten := setTransaction_rewritten before row (Table.find?_mem found) row.transaction.status
      row.transaction.providerRef row.transaction.paymentLinkURL .pending
    have marked := (rewritten.found id).trans (if_pos key)
    refine ⟨⟨?_,List.prefix_rfl,fun _ member => .inl member⟩,marked⟩
    intro other
    by_cases same : id = other
    · subst same
      exact .inr ⟨row,found,paid,marked⟩
    · exact .inl ((rewritten.found other).trans (if_neg (key ▸ same)))

theorem createRefund_keyed {refund : RefundRequest} (ok : before.createRefund refund = .ok ((),after)) (id : ID) :
    (after.Keyed id ↔ before.Keyed id ∨ refund.idempotencyKey = .eventCancelled id) ∧
    (after.Marked id ↔ before.Marked id) := by
  rcases createRefund_ok ok with ⟨rfl,stored,member,same⟩ | ⟨added,fresh,unkeyed,transaction,rfl,rfl⟩
  · refine ⟨⟨.inl,?_⟩,.rfl⟩
    rintro (keyed | key)
    · exact keyed
    · exact ⟨stored,member,same.trans key⟩
  · have grown (other : RefundRow) : other ∈ (before.addRefund added fresh unkeyed transaction).refunds.rows ↔
        other ∈ before.refunds.rows ∨ other = added := Table.mem_insert before.refunds added other fresh
    refine ⟨?_,.rfl⟩
    simp only [Keyed,grown,or_and_right,exists_or,exists_eq_left]
    rfl

theorem updateRefundStatus_marked {target : ID} {row : TransactionRow}
    (ok : before.updateRefundStatus target .pending = .ok ((),after))
    (found : before.transactions.find? target = some row) (id : ID) :
    (after.Keyed id ↔ before.Keyed id) ∧ (after.Marked id ↔ before.Marked id ∨ target = id) := by
  unfold updateRefundStatus at ok
  split at ok
  · rename_i absent
    cases absent.symm.trans found
  · rename_i stored isStored
    cases found.symm.trans isStored
    cases ok
    have key : row.id = target := Table.find?_key found
    have rewritten := setTransaction_rewritten before row (Table.find?_mem found) row.transaction.status
      row.transaction.providerRef row.transaction.paymentLinkURL .pending
    refine ⟨by rw [Keyed,rewritten.refunds]; rfl,?_⟩
    unfold Marked
    rw [rewritten.found,key]
    by_cases same : target = id
    · rw [if_pos same]
      exact iff_of_true ⟨_,rfl,rfl⟩ (.inr same)
    · rw [if_neg same]
      simp [same]

theorem refund_progress {refund : RefundRequest} {row : TransactionRow}
    (creates : before.createRefund refund = .ok ((),middle))
    (marks : middle.updateRefundStatus refund.transactionID .pending = .ok ((),after))
    (found : before.transactions.find? refund.transactionID = some row) (paid : row.paidFor eventID = true)
    (key : refund.idempotencyKey = .eventCancelled row.id) :
    Progress eventID before after ∧ after.Requested refund.transactionID := by
  obtain ⟨asked,stored,member,keyed⟩ := createRefund_progress creates found paid key
  obtain ⟨later,isLater,stillPaid⟩ := asked.paid found paid
  obtain ⟨moved,marked⟩ := updateRefundStatus_progress marks isLater stillPaid
  have same : row.id = refund.transactionID := Table.find?_key found
  refine ⟨asked.trans moved,?_,stored,moved.kept.subset member,same ▸ keyed⟩
  intro next isNext
  cases marked.symm.trans isNext
  rfl

end Database

open Database

variable (settings : Settings) (eventID : ID)

def Listed (db : Database) (txns : List Transaction) : Prop :=
  ∀ txn ∈ txns, txn.status = .completed → ∃ row, db.transactions.find? txn.id = some row ∧ row.paidFor eventID = true

theorem Listed.later {txns : List Transaction} {before after : Database} (listed : Listed eventID before txns)
    (progress : Progress eventID before after) : Listed eventID after txns := by
  intro txn member completed
  obtain ⟨row,found,paid⟩ := listed txn member completed
  exact progress.paid found paid

/-- The refund of the transaction has been inserted, or was there. -/
def inserts (id : ID) : Exchange Statement Reply → Bool
  | ⟨.createRefund refund,.ok _⟩ => refund.idempotencyKey = .eventCancelled id
  | _ => false

/-- The last statement for the transaction has gone through. -/
def getsPast (id : ID) : Exchange Statement Reply → Bool
  | ⟨.updateRefundStatus other _,.ok _⟩ => other = id
  | _ => false

structure Traced (before after : Database) (trace : List (Exchange Statement Reply)) : Prop where
  keyed : ∀ id, after.Keyed id ↔ before.Keyed id ∨ ∃ exchange ∈ trace, inserts id exchange = true
  marked : ∀ id, after.Marked id ↔ before.Marked id ∨ ∃ exchange ∈ trace, getsPast id exchange = true
  inOrder : ∀ id, (∃ exchange ∈ trace, getsPast id exchange = true) → ∃ exchange ∈ trace, inserts id exchange = true

namespace Traced
variable {before middle after : Database} {trace more : List (Exchange Statement Reply)}

theorem refl (db : Database) : Traced db db [] := ⟨by simp,by simp,by simp⟩

theorem trans (first : Traced before middle trace) (second : Traced middle after more) :
    Traced before after (trace ++ more) := by
  constructor
  · intro id
    rw [second.keyed,first.keyed]
    simp only [List.mem_append,or_and_right,exists_or,or_assoc]
  · intro id
    rw [second.marked,first.marked]
    simp only [List.mem_append,or_and_right,exists_or,or_assoc]
  · intro id
    have left := first.inOrder id
    have right := second.inOrder id
    simp only [List.mem_append,or_and_right,exists_or]
    exact Or.imp left right

theorem skip {exchange : Exchange Statement Reply} (traced : Traced before after trace)
    (quiet : ∀ id, inserts id exchange = false ∧ getsPast id exchange = false) :
    Traced before after (exchange :: trace) := by
  have nothing : Traced before before [exchange] := by
    constructor
    · intro id
      simp [(quiet id).1]
    · intro id
      simp [(quiet id).2]
    · intro id
      simp [(quiet id).2]
  exact nothing.trans traced

theorem created {refund : RefundRequest} (creates : before.createRefund refund = .ok ((),after)) :
    Traced before after [⟨.createRefund refund,.ok ()⟩] := by
  constructor
  · intro id
    simp [(createRefund_keyed creates id).1,inserts]
  · intro id
    simp [(createRefund_keyed creates id).2,getsPast]
  · intro id
    simp [getsPast]

theorem refunded {refund : RefundRequest} {row : TransactionRow} (creates : before.createRefund refund = .ok ((),middle))
    (marks : middle.updateRefundStatus refund.transactionID .pending = .ok ((),after))
    (found : middle.transactions.find? refund.transactionID = some row)
    (key : refund.idempotencyKey = .eventCancelled refund.transactionID) :
    Traced before after [⟨.createRefund refund,.ok ()⟩,⟨.updateRefundStatus refund.transactionID .pending,.ok ()⟩] := by
  constructor
  · intro id
    simp [(updateRefundStatus_marked marks found id).1,(createRefund_keyed creates id).1,inserts]
  · intro id
    simp [(updateRefundStatus_marked marks found id).2,(createRefund_keyed creates id).2,getsPast]
  · intro id
    simp [inserts,getsPast,key]

end Traced

theorem refundAll_ends (txns : List Transaction) (world : World) (listed : Listed eventID world.db txns) :
    (PaymentService.refundAll txns).Ensures (execute settings) (fun outcome =>
      Progress eventID world.db outcome.world.db ∧ Traced world.db outcome.world.db outcome.trace ∧
      (outcome.value = .ok () → ∀ txn ∈ txns, txn.status = .completed →
        ∃ exchange ∈ outcome.trace, getsPast txn.id exchange = true)) world := by
  induction txns generalizing world with
  | nil => exact ⟨.refl _ _,.refl _,fun _ => by simp⟩
  | cons txn rest ih =>
    have remaining : Listed eventID world.db rest := fun other member => listed other (.tail _ member)
    by_cases completed : txn.status = .completed
    swap
    · -- what has not been paid is passed over
      rw [PaymentService.refundAll,if_neg completed]
      apply (ih world remaining).mono
      intro outcome ends
      refine ⟨ends.1,ends.2.1,fun value other member paid => ?_⟩
      rcases List.mem_cons.mp member with rfl | inside
      · exact absurd paid completed
      · exact ends.2.2 value other inside paid
    rw [PaymentService.refundAll,if_pos completed]
    obtain ⟨row,found,paid⟩ := listed txn (.head _) completed
    intro drawing
    have drawn : (execute settings .newString drawing world).2.db = world.db := rfl
    generalize (execute settings .newString drawing world).2 = named at drawn ⊢
    apply Program.Ensures.step
    rintro creating (error | _) later executed
    · cases write_failed executed
      refine ⟨drawn ▸ .refl _ _,drawn ▸ ((Traced.refl _).skip fun _ => ⟨rfl,rfl⟩).skip fun _ => ⟨rfl,rfl⟩,nofun⟩
    obtain ⟨asked,creates,rfl⟩ := write_committed executed
    rw [drawn] at creates
    have key : row.id = txn.id := Table.find?_key found
    have keyed := congrArg IdempotencyKey.eventCancelled key.symm
    obtain ⟨progress,_⟩ := createRefund_progress creates found paid keyed
    apply Program.Ensures.step
    rintro marking (error | _) later executed
    · cases write_failed executed
      refine ⟨progress,?_,nofun⟩
      have failed : Traced asked asked [⟨.updateRefundStatus txn.id .pending,.error error⟩] :=
        (Traced.refl _).skip fun _ => ⟨rfl,rfl⟩
      exact ((Traced.created creates).trans failed).skip fun _ => ⟨rfl,rfl⟩
    obtain ⟨marked,marks,rfl⟩ := write_committed executed
    -- both writes are in: the rest of the list starts from tables that have this refund
    obtain ⟨between,isBetween,_⟩ := progress.paid found paid
    have traced := Traced.refunded creates marks isBetween rfl
    have both := refund_progress creates marks found paid keyed
    apply (ih _ (remaining.later eventID both.1)).mono
    intro outcome ends
    refine ⟨both.1.trans ends.1,(traced.trans ends.2.1).skip fun _ => ⟨rfl,rfl⟩,fun value other member isCompleted => ?_⟩
    rcases List.mem_cons.mp member with rfl | inside
    · exact ⟨_,.tail _ (.tail _ (.head _)),decide_eq_true rfl⟩
    · obtain ⟨exchange,isThere,passes⟩ := ends.2.2 value other inside isCompleted
      exact ⟨exchange,.tail _ (.tail _ (.tail _ isThere)),passes⟩

/-- A listing of transactions that broke off, which its reader does not notice. -/
def breaksOff : Exchange Statement Reply → Bool
  | ⟨.listByEventID _,.ok rows⟩ => rows.err.isSome
  | _ => false

def AllRequested (before after : Database) : Prop :=
  ∀ id row, before.transactions.find? id = some row → row.paidFor eventID = true → after.Requested id

theorem listed_rows {db : Database} {txns : List Transaction} (part : txns <+: db.listByEventID eventID) :
    Listed eventID db txns := by
  intro txn member completed
  obtain ⟨row,inside,rfl⟩ := List.mem_map.mp (part.subset member)
  rw [List.mem_insertionSort,List.mem_filter] at inside
  refine ⟨row,Table.find?_of_mem inside.1,?_⟩
  simpa [TransactionRow.paidFor,completed] using inside.2

theorem mem_listByEventID {db : Database} {row : TransactionRow} (member : row ∈ db.transactions.rows)
    (own : row.transaction.eventID = eventID) : row.transaction ∈ db.listByEventID eventID := by
  refine List.mem_map.mpr ⟨row,?_,rfl⟩
  rw [List.mem_insertionSort,List.mem_filter]
  exact ⟨member,by simpa using own⟩

theorem handleEventCancelled_ends (world : World) :
    (PaymentService.handleEventCancelled eventID).Ensures (execute settings) (fun outcome =>
      Progress eventID world.db outcome.world.db ∧ Traced world.db outcome.world.db outcome.trace ∧
      (outcome.value = .ok () → (∀ exchange ∈ outcome.trace, breaksOff exchange = false) →
        ∀ row ∈ world.db.transactions.rows, row.paidFor eventID = true →
          ∃ exchange ∈ outcome.trace, getsPast row.id exchange = true)) world := by
  apply Program.Ensures.step
  intro fault reply later executed
  cases stream_eq executed
  rcases reply with error | rows
  · exact ⟨.refl _ _,(Traced.refl _).skip fun _ => ⟨rfl,rfl⟩,nofun⟩
  have part : rows.items <+: world.db.listByEventID eventID := stream_part (congrArg Prod.fst executed)
  apply (refundAll_ends settings eventID rows.items world (listed_rows eventID part)).mono
  intro outcome ends
  refine ⟨ends.1,ends.2.1.skip fun _ => ⟨rfl,rfl⟩,fun value whole row inside paid => ?_⟩
  have unbroken : rows.err = none := by simpa [breaksOff] using whole _ (.head _)
  obtain ⟨items,err⟩ := rows
  cases unbroken
  have all : items = world.db.listByEventID eventID := stream_checked (congrArg Prod.fst executed)
  have both : row.transaction.eventID = eventID ∧ row.transaction.status = .completed := by
    simpa [TransactionRow.paidFor] using paid
  have member : row.transaction ∈ items := all ▸ mem_listByEventID eventID inside both.1
  obtain ⟨exchange,isThere,passes⟩ := ends.2.2 value row.transaction member both.2
  exact ⟨exchange,.tail _ isThere,passes⟩

/-- One delivery of `event.cancelled`, with no other call running. -/
def redeliver (faults : Nat → Fault) (world : World) : Outcome Statement Reply World (Except Error Unit) :=
  (PaymentService.handleEventCancelled eventID).run (execute settings) faults world

def redeliveries (runs : List (Nat → Fault)) (world : World) : List (Outcome Statement Reply World (Except Error Unit)) :=
  (PaymentService.handleEventCancelled eventID).runs (execute settings) runs world

def afterRedeliveries (runs : List (Nat → Fault)) (world : World) : World :=
  (PaymentService.handleEventCancelled eventID).afterRuns (execute settings) runs world

theorem redeliveries_progress (runs : List (Nat → Fault)) (world : World) :
    Progress eventID world.db (afterRedeliveries settings eventID runs world).db := by
  induction runs generalizing world with
  | nil => exact .refl _ _
  | cons faults rest ih =>
    have first := ((handleEventCancelled_ends settings eventID world).run faults).1
    exact first.trans (ih _)

/-- All that the deliveries have done, one after the other. -/
def delivered (runs : List (Nat → Fault)) (world : World) : List (Exchange Statement Reply) :=
  (redeliveries settings eventID runs world).flatMap Outcome.trace

theorem redeliveries_traced (runs : List (Nat → Fault)) (world : World) :
    Traced world.db (afterRedeliveries settings eventID runs world).db (delivered settings eventID runs world) := by
  induction runs generalizing world with
  | nil => exact .refl _
  | cons faults rest ih =>
    have first := ((handleEventCancelled_ends settings eventID world).run faults).2.1
    exact first.trans (ih _)

theorem redeliveries_pass (runs : List (Nat → Fault)) (world : World)
    (finished : ∃ outcome ∈ redeliveries settings eventID runs world, outcome.value = .ok () ∧
      ∀ exchange ∈ outcome.trace, breaksOff exchange = false) :
    ∀ row ∈ world.db.transactions.rows, row.paidFor eventID = true →
      ∃ exchange ∈ delivered settings eventID runs world, getsPast row.id exchange = true := by
  induction runs generalizing world with
  | nil =>
    obtain ⟨_,member,_⟩ := finished
    cases member
  | cons faults rest ih =>
    obtain ⟨progress,_,complete⟩ := (handleEventCancelled_ends settings eventID world).run faults
    intro row inside paid
    obtain ⟨outcome,member,value,whole⟩ := finished
    rcases List.mem_cons.mp member with rfl | later
    · obtain ⟨exchange,isThere,passes⟩ := complete value whole row inside paid
      exact ⟨exchange,List.mem_append_left _ isThere,passes⟩
    · obtain ⟨next,isNext,stillPaid⟩ := progress.paid (Table.find?_of_mem inside) paid
      obtain ⟨exchange,isThere,passes⟩ := ih _ ⟨outcome,later,value,whole⟩ next (Table.find?_mem isNext) stillPaid
      have key : next.id = row.id := Table.find?_key isNext
      exact ⟨exchange,List.mem_append_right _ isThere,key ▸ passes⟩

/-- What a cancellation does to the tables, once and for all. -/
structure RefundsExactly (before after : Database) : Prop where
  transactions : ∀ id, after.transactions.find? id = (before.transactions.find? id).map fun row =>
    if row.paidFor eventID then row.refunding else row
  requested : ∀ row ∈ before.transactions.rows, row.paidFor eventID = true →
    ∃! refund, refund ∈ after.refunds.rows ∧ refund.key = .eventCancelled row.id
  kept : before.refunds.rows <+: after.refunds.rows
  gained : ∀ row ∈ before.transactions.rows, row.paidFor eventID = false → ∀ refund ∈ after.refunds.rows,
    refund.refund.transactionID = row.id → refund ∈ before.refunds.rows

theorem Database.Progress.exactly {before after : Database} (progress : Progress eventID before after)
    (requested : AllRequested eventID before after) : RefundsExactly eventID before after := by
  refine ⟨?_,?_,progress.kept,?_⟩
  · intro id
    cases found : before.transactions.find? id with
    | none =>
      rcases progress.transactions id with same | ⟨_,stored,_⟩
      · exact same.trans found
      · cases found.symm.trans stored
    | some row =>
      rw [Option.map_some]
      rcases progress.transactions id with same | ⟨_,stored,paid,marked⟩
      · split
        · rename_i paid
          have pending := (requested id row found paid).1 row (same.trans found)
          rw [same,found,TransactionRow.refunding,TransactionRow.write,← pending]
        · exact same.trans found
      · cases found.symm.trans stored
        rw [if_pos paid,marked]
  · intro row member paid
    obtain ⟨refund,inside,key⟩ := (requested row.id row (Table.find?_of_mem member) paid).2
    refine ⟨refund,⟨inside,key⟩,?_⟩
    rintro other ⟨isThere,same⟩
    exact List.inj_on_of_nodup_map after.keys_unique isThere inside (same.trans key.symm)
  · intro row member unpaid refund inside isFor
    rcases progress.gained refund inside with old | ⟨stored,found,paid,_⟩
    · exact old
    · rw [isFor,show before.transactions.find? row.id = some row from Table.find?_of_mem member] at found
      cases found
      rw [unpaid] at paid
      cases paid

theorem RefundsExactly.all {before after : Database} (exactly : RefundsExactly eventID before after) :
    AllRequested eventID before after := by
  intro id row found paid
  have key : row.id = id := Table.find?_key found
  obtain ⟨refund,⟨inside,isFor⟩,_⟩ := exactly.requested row (Table.find?_mem found) paid
  have marked := exactly.transactions id
  rw [found,Option.map_some,if_pos paid] at marked
  exact (requested_iff marked).mpr ⟨⟨_,marked,rfl⟩,refund,inside,key ▸ isFor⟩

/-- However often `event.cancelled` is delivered and wherever deliveries stop, each payment for the event has one
refund in the end, and nothing else has changed, if and only if some delivery has got past each payment, or its
refund was pending already and is there or has been inserted. A delivery that reads all its transactions and
returns without an error gets past them all. -/
theorem cancellation_refunds_once (world : World) (runs : List (Nat → Fault)) :
    (RefundsExactly eventID world.db (afterRedeliveries settings eventID runs world).db ↔
      ∀ row ∈ world.db.transactions.rows, row.paidFor eventID = true →
        (∃ exchange ∈ delivered settings eventID runs world, getsPast row.id exchange = true) ∨
        world.db.Marked row.id ∧ (world.db.Keyed row.id ∨
          ∃ exchange ∈ delivered settings eventID runs world, inserts row.id exchange = true)) ∧
    ((∃ outcome ∈ redeliveries settings eventID runs world, outcome.value = .ok () ∧
        ∀ exchange ∈ outcome.trace, breaksOff exchange = false) →
      RefundsExactly eventID world.db (afterRedeliveries settings eventID runs world).db) := by
  have progress := redeliveries_progress settings eventID runs world
  have traced := redeliveries_traced settings eventID runs world
  have pass := redeliveries_pass settings eventID runs world
  generalize (afterRedeliveries settings eventID runs world).db = after at *
  generalize delivered settings eventID runs world = statements at *
  -- a payment has its refund exactly if it is marked and keyed, and both can be read off the statements
  have requested (row : TransactionRow) (inside : row ∈ world.db.transactions.rows) (paid : row.paidFor eventID = true) :
      after.Requested row.id ↔ (∃ exchange ∈ statements, getsPast row.id exchange = true) ∨
        world.db.Marked row.id ∧ (world.db.Keyed row.id ∨ ∃ exchange ∈ statements, inserts row.id exchange = true) := by
    obtain ⟨later,isLater,_⟩ := progress.paid (Table.find?_of_mem inside) paid
    have inOrder := traced.inOrder row.id
    rw [requested_iff isLater,traced.keyed,traced.marked]
    generalize (∃ exchange ∈ statements, getsPast row.id exchange = true) = past at *
    generalize (∃ exchange ∈ statements, inserts row.id exchange = true) = inserted at *
    tauto
  have exactly_iff : RefundsExactly eventID world.db after ↔ ∀ row ∈ world.db.transactions.rows,
      row.paidFor eventID = true → after.Requested row.id := by
    constructor
    · exact fun exactly row inside paid => exactly.all eventID row.id row (Table.find?_of_mem inside) paid
    · intro all
      refine progress.exactly eventID fun id row found paid => ?_
      have key : row.id = id := Table.find?_key found
      exact key ▸ all row (Table.find?_mem found) paid
  rw [exactly_iff]
  constructor
  · exact forall₃_congr requested
  · intro finished row inside paid
    exact (requested row inside paid).mpr (.inl (pass finished row inside paid))

/-- Two transactions of event 1, the first of them paid. -/
def halfPaid : World :=
  let initiate (world : World) (bookingID : ID) := ((PaymentService.initiateTxnForBooking sandbox
    ⟨bookingID,1,5,"e",100,10 * minute⟩).run (execute sandbox) (fun _ => .none) world).world
  ((PaymentService.handleSessionWebhook (some ⟨.completed,some 7,"",""⟩)).run (execute sandbox) (fun _ => .none)
    (initiate (initiate .initial 7) 8)).world

/-- The INSERT fails, then the UPDATE, and two further deliveries are undisturbed. -/
theorem cancellation_refunds_once_retried :
    (redeliveries sandbox 1 [failingAt 2,failingAt 3,fun _ => .none,fun _ => .none] halfPaid).map Outcome.value =
      [.error (.db .connection),.error (.db .connection),.ok (),.ok ()] ∧
    RefundsExactly 1 halfPaid.db
      (afterRedeliveries sandbox 1 [failingAt 2,failingAt 3,fun _ => .none,fun _ => .none] halfPaid).db := by
  refine ⟨by decide +kernel,(cancellation_refunds_once sandbox 1 halfPaid _).2 ⟨_,.tail _ (.tail _ (.head _)),?_,?_⟩⟩
  · decide +kernel
  · decide +kernel

/-- A listing that breaks off before the paid transaction: the delivery succeeds and nobody is refunded. -/
theorem cancellation_refund_missed :
    halfPaid.db.transactions.rows.map (fun row => (row.transaction.eventID,row.transaction.status)) =
      [(1,.completed),(1,.initiated)] ∧
    (redeliver sandbox 1 (fun _ => .broken 0) halfPaid).value = .ok () ∧
    (redeliver sandbox 1 (fun _ => .broken 0) halfPaid).world.db.refunds.rows = [] := by
  decide +kernel

end Ticketbus.Payment
