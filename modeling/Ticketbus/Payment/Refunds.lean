import Ticketbus.Payment.Settlement

/-! Refund requests. Late payments and cancelled events ask for refunds under keys of
their own; each path asks only for transactions that it has read in a final status,
and the two statuses differ. -/
namespace Ticketbus.Payment
open Ticketbus.Concurrency Ticketbus.Relational

def Refunded (world : World) : Prop :=
  ∀ row ∈ world.db.refunds.rows, Owed world row.refund ∧
    ∃ stored, world.db.transactions.find? row.refund.transactionID = some stored ∧
      row.refund.Covers stored.transaction

section Statements
variable {settings : Settings} {call : Call} {statement : Statement} {fault : Fault} {world after : World}

theorem Owed.later {refund : RefundRequest} (owed : Owed world refund) (persists : Persists world after) :
    Owed after refund := by
  obtain ⟨row,found,status⟩ := owed
  obtain ⟨next,present,_,reaches⟩ := persists.transactions _ _ found
  refine ⟨next,present,?_⟩
  rw [reaches.settled (status ▸ refund.idempotencyKey.outcome_final),status]

theorem RefundRequest.Covers.fixed {refund : RefundRequest} {txn next : Transaction} (covers : refund.Covers txn)
    (fixed : next.fixed = txn.fixed) : refund.Covers next := by
  obtain ⟨booking,event,amount,currency⟩ := covers
  exact ⟨booking.trans (congrArg Transaction.bookingID fixed).symm,
    event.trans (congrArg Transaction.eventID fixed).symm,
    amount.trans (congrArg Transaction.amountRupiah fixed).symm,
    currency.trans (congrArg Transaction.currency fixed).symm⟩

theorem refunded_step (refunded : Refunded world) (justified : Justified call world statement) :
    Refunded (execute settings statement fault world).2 := by
  have persists : Persists world (execute settings statement fault world).2 :=
    execute_persists call statement fault world justified
  have kept {row : RefundRow} (holds : Owed world row.refund)
      (covers : ∃ stored, world.db.transactions.find? row.refund.transactionID = some stored ∧
        row.refund.Covers stored.transaction) :
      Owed (execute settings statement fault world).2 row.refund ∧
        ∃ stored, (execute settings statement fault world).2.db.transactions.find? row.refund.transactionID =
          some stored ∧ row.refund.Covers stored.transaction := by
    obtain ⟨stored,found,covers⟩ := covers
    obtain ⟨next,present,fixed,_⟩ := persists.transactions _ _ found
    exact ⟨holds.later persists,next,present,covers.fixed fixed⟩
  intro row member
  by_cases new : ∃ refund, statement = .createRefund refund
  · obtain ⟨refund,rfl⟩ := new
    rcases execute_createRefund member with old | same
    · exact kept (refunded row old).1 (refunded row old).2
    · refine kept ?_ ?_ <;> rw [same]
      · exact justified.2.2.2.1
      · exact justified.2.2.2.2
  · have others : ∀ refund, statement ≠ .createRefund refund := fun refund same => new ⟨refund,same⟩
    rw [execute_refunds fault world others] at member
    exact kept (refunded row member).1 (refunded row member).2

end Statements

theorem refunded_of_run {settings : Settings} {guard : Pool → Step → Prop} {config : Pool}
    (run : Run (service settings) guard (.idle .initial) config) : Refunded config.state.world := by
  refine run.state_invariant (fun state => Refunded state.world) (fun row member => by cases member) ?_
  intro config index fault call statement next before refunded _ found
  exact refunded_step refunded (justified_of_run .initial before found)

/-- In every run no transaction is refunded twice, and each request is for the booking,
the event, the currency and the amount of its transaction. -/
theorem refunds_once_in_full (settings : Settings) (config : Pool)
    (run : Run (service settings) Anything (.idle .initial) config) :
    (config.state.world.db.refunds.rows.map fun row => row.refund.transactionID).Nodup ∧
    ∀ row ∈ config.state.world.db.refunds.rows, ∃ stored ∈ config.state.world.db.transactions.rows,
      stored.id = row.refund.transactionID ∧ row.refund.bookingID = stored.transaction.bookingID ∧
        row.refund.eventID = stored.transaction.eventID ∧ row.refund.currency = stored.transaction.currency ∧
        row.refund.amountRupiah = stored.transaction.amountRupiah := by
  have refunded := refunded_of_run run
  have sound := sound_of_run .initial run
  constructor
  · -- two requests for one transaction have the same key, as its status can only be one of the two
    have keys := config.state.world.db.keys_unique
    refine List.Nodup.map_on ?_ (keys.of_map _)
    intro row member other member' same
    refine List.inj_on_of_nodup_map keys member member' ?_
    obtain ⟨stored,found,status⟩ := (refunded row member).1
    obtain ⟨stored',found',status'⟩ := (refunded other member').1
    rw [← same,found] at found'
    cases found'
    have keyed := sound.keyed row member
    have keyed' := sound.keyed other member'
    have outcomes : row.key.outcome = other.key.outcome := status.symm.trans status'
    have transactions : row.key.transactionID = other.key.transactionID := (keyed.trans same).trans keyed'.symm
    cases first : row.key <;> cases second : other.key <;> rw [first,second] at outcomes transactions
    · exact congrArg IdempotencyKey.latePayment transactions
    · cases outcomes
    · cases outcomes
    · exact congrArg IdempotencyKey.eventCancelled transactions
  · intro row member
    obtain ⟨stored,found,booking,event,amount,currency⟩ := (refunded row member).2
    exact ⟨stored,Table.find?_mem found,Table.find?_key found,booking,event,currency,amount⟩

/-- One transaction is paid and its event cancelled, the other expires and is paid too
late; every message arrives twice. -/
theorem refunds_once_in_full_twice : ∃ config : Pool,
    Run (service sandbox) Anything (.idle .initial) config ∧
    config.state.world.db.refunds.rows.map (fun row => row.key) = [.latePayment 1,.eventCancelled 0] ∧
    (config.state.world.db.refunds.rows.map fun row => row.refund.transactionID).Nodup := by
  obtain ⟨config,run,outcome⟩ := exists_run_of_replay (service sandbox) Anything
    (payable ++ .start (.handleSessionWebhook (some ⟨.completed,some 7,"ps",""⟩)) :: undisturbed 2 4 ++
      .start (.initiateTxnForBooking ⟨8,1,6,"f",50,0⟩) :: undisturbed 3 2 ++
      .start (.processExpired 10) :: undisturbed 4 5 ++
      .start (.handleSessionWebhook (some ⟨.completed,some 8,"",""⟩)) :: undisturbed 5 5 ++
      .start (.handleSessionWebhook (some ⟨.completed,some 8,"",""⟩)) :: undisturbed 6 5 ++
      .start (.handleEventCancelled 1) :: undisturbed 7 4 ++
      .start (.handleEventCancelled 1) :: undisturbed 8 4) (.idle .initial)
    (fun (config : Pool) => config.state.world.db.refunds.rows.map (fun row => row.key) =
      [.latePayment 1,.eventCancelled 0]) (by decide +kernel)
  simp only [decide_eq_true_eq] at outcome
  exact ⟨config,run,outcome,(refunds_once_in_full sandbox config run).1⟩

end Ticketbus.Payment
