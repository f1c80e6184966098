import Ticketbus.Payment.Effects
import Ticketbus.Payment.Footprint
import Mathlib.Data.Multiset.ZeroCons

/-! What a call of the payment service still knows of a row it read earlier.
Transactions and refunds are never removed, a transaction's identity never changes
and its status only moves forward. Each statement is issued with the facts its
program has established by then. -/
namespace Ticketbus.Payment
open Ticketbus.Concurrency Ticketbus.Relational

/-- The statuses a transaction can still come to have. -/
def TransactionStatus.Reaches : TransactionStatus → TransactionStatus → Prop
  | .initiated,_ => True
  | .pending,next => next ≠ .initiated
  | .completed,next => next = .completed
  | .expired,next => next = .expired

theorem TransactionStatus.Reaches.refl (status : TransactionStatus) : status.Reaches status := by
  cases status <;> simp [TransactionStatus.Reaches]

theorem TransactionStatus.Reaches.trans {first middle last : TransactionStatus}
    (before : first.Reaches middle) (after : middle.Reaches last) : first.Reaches last := by
  cases first <;> cases middle <;> cases last <;> simp_all [TransactionStatus.Reaches]

theorem TransactionStatus.Reaches.settled {status next : TransactionStatus} (reaches : status.Reaches next)
    (final : status.active = false) : next = status := by
  cases status with
  | initiated | pending => cases final
  | completed | expired => exact reaches

def TransactionRow.Advances (row next : TransactionRow) : Prop :=
  next.transaction.fixed = row.transaction.fixed ∧ row.transaction.status.Reaches next.transaction.status

structure Persists (before after : World) : Prop where
  transactions : ∀ id row, before.db.transactions.find? id = some row →
    ∃ next, after.db.transactions.find? id = some next ∧ row.Advances next
  refunds : ∀ row ∈ before.db.refunds.rows, row ∈ after.db.refunds.rows
  messages : ∀ message ∈ before.outbox.messages, message ∈ after.outbox.messages

namespace Persists

theorem refl (world : World) : Persists world world :=
  ⟨fun _ row found => ⟨row,found,rfl,.refl _⟩,fun _ member => member,fun _ member => member⟩

theorem trans {first middle last : World} (before : Persists first middle) (after : Persists middle last) :
    Persists first last where
  transactions id row found := by
    obtain ⟨next,present,fixed,reaches⟩ := before.transactions id row found
    obtain ⟨final,stays,same,further⟩ := after.transactions id next present
    exact ⟨final,stays,same.trans fixed,reaches.trans further⟩
  refunds row member := after.refunds row (before.refunds row member)
  messages message member := after.messages message (before.messages message member)

end Persists

def Known (world : World) (txn : Transaction) : Prop :=
  ∃ row, world.db.transactions.find? txn.id = some row ∧ row.transaction.fixed = txn.fixed ∧
    txn.status.Reaches row.transaction.status

theorem Known.later {before after : World} {txn : Transaction} (known : Known before txn)
    (persists : Persists before after) : Known after txn := by
  obtain ⟨row,found,fixed,reaches⟩ := known
  obtain ⟨next,present,same,further⟩ := persists.transactions _ _ found
  exact ⟨next,present,same.trans fixed,reaches.trans further⟩

theorem Known.of_mem {world : World} {row : TransactionRow} (member : row ∈ world.db.transactions.rows) :
    Known world row.transaction := ⟨row,Table.find?_of_mem member,rfl,.refl _⟩

def Message.Names (message : Message) (txn : Transaction) : Prop :=
  message.bookingID = txn.bookingID ∧ message.eventID = txn.eventID ∧ message.userID = txn.userID

def RefundRequest.Covers (refund : RefundRequest) (txn : Transaction) : Prop :=
  refund.bookingID = txn.bookingID ∧ refund.eventID = txn.eventID ∧
    refund.amountRupiah = txn.amountRupiah ∧ refund.currency = txn.currency

/-- The final status in which a transaction is refunded under a key. -/
def IdempotencyKey.outcome : IdempotencyKey → TransactionStatus
  | .latePayment _ => .expired
  | .eventCancelled _ => .completed

theorem IdempotencyKey.outcome_final (key : IdempotencyKey) : key.outcome.active = false := by
  cases key <;> rfl

def Owed (world : World) (refund : RefundRequest) : Prop :=
  ∃ row, world.db.transactions.find? refund.transactionID = some row ∧
    row.transaction.status = refund.idempotencyKey.outcome

theorem Known.owed {world : World} {txn : Transaction} {reason : RefundReason} {key : IdempotencyKey} {id : ID}
    (known : Known world txn) (status : txn.status = key.outcome) :
    Owed world (PaymentService.refundOf txn reason key id) := by
  obtain ⟨row,found,_,reaches⟩ := known
  refine ⟨row,found,?_⟩
  have settled := reaches.settled (status ▸ key.outcome_final)
  exact settled.trans status

def Justified (call : Call) (world : World) : Statement → Prop
  | .create txn => txn.status = .initiated ∧
      ∃ request, call = .initiateTxnForBooking request ∧ txn.bookingID = request.bookingID
  | .transitionIfActive _ status _ => status.active = false
  | .transitionIfInitiated _ status _ => status = .pending
  | .createRefund refund => refund.id < world.nextID ∧ world.db.refunds.find? refund.id = none ∧
      refund.idempotencyKey.transactionID = refund.transactionID ∧ Owed world refund ∧
      ∃ row, world.db.transactions.find? refund.transactionID = some row ∧ refund.Covers row.transaction
  | .outbox (.insert message) => ∃ row, world.db.transactions.find? message.transactionID = some row ∧
      message.Names row.transaction
  | .outbox (.produce message) => message ∈ world.outbox.messages
  | _ => True

theorem Rewrites.forward {call : Call} {world : World} {statement : Statement} {txn next : Transaction}
    (rewrites : Rewrites statement txn next) (justified : Justified call world statement) :
    txn.status.Reaches next.status := by
  cases statement with
  | transitionIfActive id status providerRef =>
    obtain ⟨_,active,now,_⟩ := rewrites
    have final : status.active = false := justified
    rw [now]
    cases stored : txn.status with
    | initiated => trivial
    | pending =>
      rintro rfl
      cases final
    | completed | expired =>
      rw [stored] at active
      cases active
  | transitionIfInitiated id status providerRef =>
    rw [rewrites.2.1]
    trivial
  | updateSession id providerRef paymentLinkURL => exact rewrites.2.1 ▸ .refl _
  | updateRefundStatus id refundStatus => exact rewrites.2.1 ▸ .refl _
  | _ => exact rewrites.elim

theorem Effect.advances {call : Call} {world : World} {statement : Statement} {after : Database}
    (effect : Effect world statement after) (justified : Justified call world statement) (id : ID) (row : TransactionRow)
    (found : world.db.transactions.find? id = some row) :
    ∃ next, after.transactions.find? id = some next ∧ row.Advances next := by
  cases effect with
  | same | createRefund _ _ _ _ => exact ⟨row,found,rfl,.refl _⟩
  | create fresh _ _ => exact ⟨row,Table.find?_insert_of_some fresh found,rfl,.refl _⟩
  | rewrite rewrites change =>
    rw [change.found]
    split
    · rename_i same
      rw [← same,change.stored] at found
      cases found
      exact ⟨_,rfl,change.fixed,rewrites.forward justified⟩
    · exact ⟨row,found,rfl,.refl _⟩

theorem Effect.keeps_refunds {world : World} {statement : Statement} {after : Database}
    (effect : Effect world statement after) : ∀ row ∈ world.db.refunds.rows, row ∈ after.refunds.rows := by
  intro row member
  cases effect with
  | same | create _ _ _ => exact member
  | rewrite _ change =>
    rw [change.refunds]
    exact member
  | @createRefund _ new fresh _ _ _ =>
    have grown : row ∈ (world.db.refunds.insert new fresh).rows := (Table.mem_insert ..).mpr (.inl member)
    exact grown

theorem execute_persists {settings : Settings} (call : Call) (statement : Statement) (fault : Fault)
    (world : World) (justified : Justified call world statement) :
    Persists world (execute settings statement fault world).2 := by
  have effect := execute_effect settings statement fault world
  exact ⟨effect.advances justified,effect.keeps_refunds,execute_messages_mono statement fault world⟩

/-! The protocol: a call owns the ids it has drawn for a refund and not stored yet. -/

structure Sound (world : World) (owned : Multiset ID) : Prop where
  stored : ∀ row ∈ world.db.refunds.rows, row.id < world.nextID
  reserved : ∀ id ∈ owned, id < world.nextID ∧ world.db.refunds.find? id = none
  once : owned.Nodup
  keyed : ∀ row ∈ world.db.refunds.rows, row.key.transactionID = row.refund.transactionID
  broker : ∀ message ∈ world.outbox.broker, message ∈ world.outbox.messages

namespace Sound
variable {world after : World} {owned less : Multiset ID}

theorem initial : Sound World.initial 0 := by
  refine ⟨fun row member => ?_,fun id member => ?_,Multiset.nodup_zero,fun row member => ?_,fun message member => ?_⟩
  · cases member
  · cases Multiset.notMem_zero _ member
  · cases member
  · cases member

theorem mono (sound : Sound world owned) (smaller : less ≤ owned) : Sound world less where
  stored := sound.stored
  reserved id member := sound.reserved id (Multiset.mem_of_le smaller member)
  once := Multiset.nodup_of_le smaller sound.once
  keyed := sound.keyed
  broker := sound.broker

theorem same (sound : Sound world owned) (refunds : after.db.refunds = world.db.refunds)
    (nextID : world.nextID ≤ after.nextID)
    (broker : ∀ message ∈ after.outbox.broker, message ∈ after.outbox.messages) : Sound after owned where
  stored row member := by
    rw [refunds] at member
    exact (sound.stored row member).trans_le nextID
  reserved id member := by
    obtain ⟨below,absent⟩ := sound.reserved id member
    exact ⟨below.trans_le nextID,by rw [refunds]; exact absent⟩
  once := sound.once
  keyed row member := by
    rw [refunds] at member
    exact sound.keyed row member
  broker := broker

theorem draw (sound : Sound world owned) : Sound {world with nextID := world.nextID + 1} (world.nextID ::ₘ owned) := by
  have kept : Sound {world with nextID := world.nextID + 1} owned :=
    sound.same rfl (Nat.le_succ _) sound.broker
  refine ⟨kept.stored,fun id member => ?_,?_,kept.keyed,kept.broker⟩
  · rcases Multiset.mem_cons.mp member with rfl | inside
    · refine ⟨Nat.lt_succ_self _,?_⟩
      rw [Table.find?_eq_none]
      exact fun row member => Nat.ne_of_lt (sound.stored row member)
    · exact kept.reserved id inside
  · exact Multiset.nodup_cons.mpr ⟨fun inside => Nat.lt_irrefl _ (sound.reserved _ inside).1,sound.once⟩

end Sound

theorem execute_broker {settings : Settings} {call : Call} {statement : Statement} (fault : Fault) {world : World}
    (broker : ∀ message ∈ world.outbox.broker, message ∈ world.outbox.messages)
    (justified : Justified call world statement) :
    ∀ message ∈ (execute settings statement fault world).2.outbox.broker,
      message ∈ (execute settings statement fault world).2.outbox.messages := by
  intro message member
  have kept : message ∈ world.outbox.messages → message ∈ (execute settings statement fault world).2.outbox.messages :=
    execute_messages_mono statement fault world message
  by_cases inner : ∃ inner, statement = .outbox inner
  · obtain ⟨inner,rfl⟩ := inner
    rcases Outbox.execute_broker inner fault world.outbox with same | ⟨produced,rfl,same⟩
    · exact kept (broker message (same ▸ member))
    · have either : message ∈ produced :: world.outbox.broker := same ▸ member
      rcases List.mem_cons.mp either with rfl | old
      · exact kept justified
      · exact kept (broker message old)
  · rw [execute_outbox fault world fun other same => inner ⟨other,same⟩] at member
    exact kept (broker message member)

theorem Sound.refund {world : World} {owned : Multiset ID} {row : RefundRow} (sound : Sound world owned)
    (fresh : world.db.refunds.find? row.id = none) (unkeyed : world.db.refundFor row.key = none)
    (transaction : (world.db.transactions.find? row.refund.transactionID).isSome) (below : row.id < world.nextID)
    (key : row.key.transactionID = row.refund.transactionID) (spent : row.id ∉ owned) :
    Sound {world with db := world.db.addRefund row fresh unkeyed transaction} owned := by
  have cases_ {other : RefundRow} (member : other ∈ (world.db.refunds.insert row fresh).rows) :
      other ∈ world.db.refunds.rows ∨ other = row := (Table.mem_insert ..).mp member
  refine ⟨fun other member => ?_,fun id member => ?_,sound.once,fun other member => ?_,sound.broker⟩
  · rcases cases_ member with old | rfl
    · exact sound.stored other old
    · exact below
  · obtain ⟨small,absent⟩ := sound.reserved id member
    refine ⟨small,?_⟩
    change (world.db.refunds.insert row fresh).find? id = none
    rw [Table.find?_insert,if_neg ?_,absent]
    rintro rfl
    exact spent member
  · rcases cases_ member with old | rfl
    · exact sound.keyed other old
    · exact key

theorem execute_sound {settings : Settings} {call : Call} {statement : Statement} {fault : Fault} {world : World}
    {owned : Multiset ID} (sound : Sound world owned) (justified : Justified call world statement)
    (spent : ∀ refund, statement = .createRefund refund → refund.id ∉ owned) :
    Sound (execute settings statement fault world).2 owned := by
  by_cases refund : ∃ refund, statement = .createRefund refund
  · obtain ⟨refund,rfl⟩ := refund
    refine write_keeps (Sound · owned) sound fun value db ok => ?_
    rcases Database.createRefund_ok ok with ⟨rfl,_⟩ | ⟨row,fresh,unkeyed,transaction,rfl,rfl⟩
    · exact sound
    · obtain ⟨below,_,key,_⟩ := justified
      exact sound.refund fresh unkeyed transaction below key (spent row.refund rfl)
  · have other : ∀ request, statement ≠ .createRefund request := fun request same => refund ⟨request,same⟩
    exact sound.same (execute_refunds fault world other) (execute_nextID fault world)
      (execute_broker fault sound.broker justified)

theorem Persists.view_refl (state : View) : Persists state.world state.world := .refl _

theorem Persists.view_trans (first middle last : View) (before : Persists first.world middle.world)
    (after : Persists middle.world last.world) : Persists first.world last.world := before.trans after

def snapshots : Protocol Statement Reply World Fault Call (Multiset ID) where
  evolves before after := Persists before.world after.world
  evolves_refl := Persists.view_refl
  evolves_trans := Persists.view_trans
  invariant state owned := Sound state.world owned
  permits _ _ _ _ _ _ := True
  fits _ call state _ statement := Justified call state.world statement

section Programs
variable {settings : Settings} {index : Nat} {call : Call} {α β : Type} {state : View}

def Keeps (settings : Settings) (index : Nat) (call : Call) (program : Task α) (state : View)
    (own : Multiset ID) : Prop :=
  Holds (service settings) snapshots index call (fun _ _ _ => True) program state own

theorem Keeps.perform {statement : Statement} {next : Reply statement → Task α} {own : Multiset ID}
    (other : ∀ refund, statement ≠ .createRefund refund)
    (justified : ∀ later : View, Persists state.world later.world → Justified call later.world statement)
    (continues : ∀ (later : View) (fault : Fault), Persists state.world later.world →
      Persists later.world (execute settings statement fault later.world).2 →
      Keeps settings index call (next (execute settings statement fault later.world).1)
        (later.after (service settings) index statement fault) 0) :
    Keeps settings index call (.perform statement next) state own := by
  intro later evolved frame sound
  have allowed := justified later evolved
  refine ⟨allowed,fun fault _ => ?_⟩
  have step : Persists later.world (execute settings statement fault later.world).2 :=
    execute_persists call statement fault later.world allowed
  refine ⟨step,0,?_,continues later fault evolved step⟩
  have rest : Sound later.world (0 + frame) := sound.mono (add_le_add_left (Multiset.zero_le _) frame)
  exact execute_sound rest allowed fun refund same => absurd same (other refund)

theorem Keeps.done {value : α} {own : Multiset ID} : Keeps settings index call (.done value) state own :=
  fun _ _ => trivial

theorem Keeps.bind {first : Task β} {rest : β → Task α} {own : Multiset ID}
    (keeps : Holds (service settings) snapshots index call
      (fun value later kept => Keeps settings index call (rest value) later kept) first state own) :
    Keeps settings index call (first.bind rest) state own := Holds.bind keeps

theorem Keeps.map {first : Task α} (f : α → β) (keeps : Keeps settings index call first state 0) :
    Keeps settings index call (f <$> first) state 0 := by
  refine .bind (Holds.consequence keeps ?_)
  exact fun value later own _ => .done

theorem Keeps.of_issues {program : Task α}
    (issues : program.Issues fun statement => (∀ refund, statement ≠ .createRefund refund) ∧
      ∀ world, Justified call world statement) :
    Keeps settings index call program state 0 := by
  refine Holds.of_issues issues ?_ fun _ _ => trivial
  intro statement ⟨other,justified⟩ later frame sound
  refine ⟨justified later.world,fun fault _ => ⟨?_,?_⟩⟩
  · exact execute_persists call statement fault later.world (justified later.world)
  · exact execute_sound sound (justified later.world) fun refund same => absurd same (other refund)

theorem Keeps.draw {next : ID → Task α}
    (continues : ∀ id later, Persists state.world later.world → Keeps settings index call (next id) later {id}) :
    Keeps settings index call (.perform .newString next) state 0 := by
  intro later before frame sound
  refine ⟨trivial,fun fault _ => ?_⟩
  have step : Persists later.world (execute settings .newString fault later.world).2 :=
    execute_persists call .newString fault later.world trivial
  refine ⟨step,{later.world.nextID},?_,continues _ _ (before.trans step)⟩
  rw [zero_add] at sound
  rw [Multiset.singleton_add]
  exact sound.draw

theorem Keeps.createRefund (txn : Transaction) (reason : RefundReason) (key : IdempotencyKey) {id : ID}
    {next : Except DbError Unit → Task α} (known : Known state.world txn) (own : key.transactionID = txn.id) (status : txn.status = key.outcome)
    (continues : ∀ reply later, Persists state.world later.world → Keeps settings index call (next reply) later 0) :
    Keeps settings index call (.perform (.createRefund (PaymentService.refundOf txn reason key id)) next) state
      {id} := by
  intro later before frame sound
  have drawn : id ∈ ({id} + frame : Multiset ID) := by simp
  obtain ⟨row,found,fixed,_⟩ := known.later before
  have justified : Justified call later.world (.createRefund (PaymentService.refundOf txn reason key id)) :=
    ⟨(sound.reserved _ drawn).1,(sound.reserved _ drawn).2,own,(known.later before).owed status,row,found,
      (congrArg Transaction.bookingID fixed).symm,(congrArg Transaction.eventID fixed).symm,
      (congrArg Transaction.amountRupiah fixed).symm,(congrArg Transaction.currency fixed).symm⟩
  refine ⟨justified,fun fault _ => ?_⟩
  have step : Persists later.world (later.after (service settings) index _ fault).world :=
    execute_persists call _ fault later.world justified
  refine ⟨step,0,?_,continues _ _ (before.trans step)⟩
  rw [zero_add]
  refine execute_sound (sound.mono (Multiset.le_add_left ..)) justified ?_
  rintro _ ⟨⟩ member
  rw [Multiset.singleton_add] at sound
  exact (Multiset.nodup_cons.mp sound.once).1 member

theorem Keeps.publish (txn : Transaction) (message : Time → Message) {rest : Unit → Task α}
    (known : Known state.world txn) (transaction : ∀ at_, (message at_).transactionID = txn.id)
    (names : ∀ at_, (message at_).Names txn)
    (continues : ∀ later, Persists state.world later.world → Keeps settings index call (rest ()) later 0) :
    Keeps settings index call ((PaymentService.publish message).bind rest) state 0 := by
  refine .perform (by simp) (fun _ _ => trivial) fun later fault before step => ?_
  refine .perform (by simp) (fun final after => ?_) fun second again between further => ?_
  · obtain ⟨row,found,fixed,_⟩ := (known.later (before.trans step)).later after
    obtain ⟨booking,event,user⟩ := names (execute settings .now fault later.world).1
    refine ⟨row,?_,?_⟩
    · rw [transaction]
      exact found
    · exact ⟨booking.trans (congrArg Transaction.bookingID fixed).symm,
        event.trans (congrArg Transaction.eventID fixed).symm,
        user.trans (congrArg Transaction.userID fixed).symm⟩
  · exact continues _ (((before.trans step).trans between).trans further)

theorem Keeps.findByBookingID {bookingID : ID} {next : Except DbError Transaction → Task α}
    (failed : ∀ error later, Keeps settings index call (next (.error error)) later 0)
    (found : ∀ txn later, Known later.world txn → Keeps settings index call (next (.ok txn)) later 0) :
    Keeps settings index call (.perform (.findByBookingID bookingID) next) state 0 := by
  refine .perform (by simp) (fun _ _ => trivial) fun later fault _ step => ?_
  cases reply : (execute settings (.findByBookingID bookingID) fault later.world).1 with
  | error error => exact failed error _
  | ok txn =>
    have read : later.world.db.findByBookingID bookingID = .ok txn := query_ok reply
    obtain ⟨row,stored,rfl,_⟩ := Database.findByBookingID_ok read
    exact found _ _ ((Known.of_mem (Table.find?_mem stored)).later step)

theorem Keeps.closeSession {providerRef : String} {rest : Unit → Task α}
    (continues : ∀ later, Persists state.world later.world → Keeps settings index call (rest ()) later 0) :
    Keeps settings index call ((PaymentService.closeSession providerRef).bind rest) state 0 := by
  unfold PaymentService.closeSession
  split
  · refine .perform (by simp) (fun _ _ => trivial) fun later fault before step => ?_
    exact continues _ (before.trans step)
  · exact continues state (.refl _)

private theorem initiate_keeps (request : InternalCreateRequest) :
    Keeps settings index (.initiateTxnForBooking request)
      (PaymentService.initiateTxnForBooking settings request) state 0 := by
  refine .perform (by simp) (fun _ _ => trivial) fun later fault _ _ => ?_
  refine .perform (by simp) (fun _ _ => ⟨rfl,request,rfl,rfl⟩) fun second again _ _ => ?_
  generalize (execute settings (.create _) again second.world).1 = created
  rcases created with error | _
  · cases error with
    | uniqueViolation =>
      exact .findByBookingID (fun error third => .done) fun txn third _ => .done
    | _ => exact .done
  · exact .done

private theorem applyWebhook_keeps {txn : Transaction} (known : Known state.world txn) (event : WebhookEvent) :
    Keeps settings index call (PaymentService.applyWebhook txn event) state 0 := by
  cases event with
  | completed =>
    refine .perform (by simp) (fun _ _ => rfl) fun later fault before step => ?_
    have known := known.later (before.trans step)
    rcases (execute settings (.transitionIfActive txn.id .completed txn.providerRef) fault later.world).1 with
      error | affected
    · exact .done
    · simp only [Except.map,Program.done_bind]
      split
      · exact .done
      · exact .publish txn _ known (fun _ => rfl) (fun _ => ⟨rfl,rfl,rfl⟩) fun _ _ => .done
      · split
        · rename_i expired
          refine .draw fun id second between => ?_
          refine .createRefund txn _ _ (known.later between) rfl expired fun reply third _ => ?_
          rcases reply with error | _
          · exact .done
          · exact .perform (by simp) (fun _ _ => trivial) fun _ _ _ _ => .done
        · exact .done
  | expired =>
    refine .perform (by simp) (fun _ _ => rfl) fun later fault before step => ?_
    have known := known.later (before.trans step)
    rcases (execute settings (.transitionIfActive txn.id .expired txn.providerRef) fault later.world).1 with
      error | affected
    · exact .done
    · simp only [Except.map,Program.done_bind]
      split
      · exact .done
      · exact .publish txn _ known (fun _ => rfl) (fun _ => ⟨rfl,rfl,rfl⟩) fun _ _ => .done
      · exact .done
  | other name => exact .done

private theorem webhook_keeps (payload : Option SessionWebhookPayload) :
    Keeps settings index call (PaymentService.handleSessionWebhook payload) state 0 := by
  cases payload with
  | none => exact .done
  | some payload =>
    simp only [PaymentService.handleSessionWebhook]
    cases payload.referenceID with
    | none => exact .done
    | some bookingID =>
      refine .findByBookingID (fun error later => .done) fun txn later known => ?_
      simp only [Program.done_bind]
      split
      · exact .done
      · exact applyWebhook_keeps known payload.event

private theorem expireAll_keeps (txns : List Transaction) (known : ∀ txn ∈ txns, Known state.world txn) :
    Keeps settings index call (PaymentService.expireAll txns) state 0 := by
  induction txns generalizing state with
  | nil => exact .done
  | cons txn others ih =>
    have remaining {later : World} (persists : Persists state.world later) :
        ∀ other ∈ others, Known later other :=
      fun other member => (known other (List.mem_cons_of_mem _ member)).later persists
    refine .closeSession fun first before => ?_
    refine .perform (by simp) (fun _ _ => rfl) fun later fault between step => ?_
    have soFar := (before.trans between).trans step
    rcases (execute settings (.transitionIfActive txn.id .expired txn.providerRef) fault later.world).1 with
      error | affected
    · exact ih (remaining soFar)
    · simp only [Except.map,Program.done_bind]
      split
      · exact ih (remaining soFar)
      · exact ih (remaining soFar)
      · refine .publish txn _ ((known txn List.mem_cons_self).later soFar) (fun _ => rfl)
          (fun _ => ⟨rfl,rfl,rfl⟩) ?_
        exact fun last after => ih (remaining (soFar.trans after))

private theorem expired_keeps (limit : Nat) :
    Keeps settings index call (PaymentService.processExpired limit) state 0 := by
  refine .perform (by simp) (fun _ _ => trivial) fun first _ _ _ => ?_
  refine .perform (by simp) (fun _ _ => trivial) fun later fault _ step => ?_
  generalize (execute settings .now _ first.world).1 = now at *
  cases reply : (execute settings (.listActiveExpired now limit) fault later.world).1 with
  | error error => exact .done
  | ok rows =>
    have part : rows.items <+: later.world.db.listActiveExpired now limit := stream_part reply
    simp only [TransactionRepo.collectTxns,Except.map,Program.done_bind]
    refine .bind (Holds.consequence (expireAll_keeps rows.items ?_) fun _ _ _ _ => .done)
    intro txn member
    have listed := List.mem_of_mem_take (part.subset member)
    rw [List.mem_insertionSort] at listed
    obtain ⟨row,stored,rfl⟩ := List.mem_map.mp (List.mem_filter.mp listed).1
    exact (Known.of_mem stored).later step

private theorem refundAll_keeps (txns : List Transaction) (known : ∀ txn ∈ txns, Known state.world txn) :
    Keeps settings index call (PaymentService.refundAll txns) state 0 := by
  induction txns generalizing state with
  | nil => exact .done
  | cons txn others ih =>
    have remaining {later : World} (persists : Persists state.world later) :
        ∀ other ∈ others, Known later other :=
      fun other member => (known other (List.mem_cons_of_mem _ member)).later persists
    unfold PaymentService.refundAll
    split
    · rename_i completed
      refine .draw fun id zeroth drawn => ?_
      refine .createRefund txn _ _ ((known txn List.mem_cons_self).later drawn) rfl completed fun reply first before => ?_
      rcases reply with error | _
      · exact .done
      · refine .perform (by simp) (fun _ _ => trivial) fun later fault between step => ?_
        rcases (execute settings (.updateRefundStatus txn.id .pending) fault later.world).1 with error | _
        · exact .done
        · exact ih (remaining (((drawn.trans before).trans between).trans step))
    · exact ih (remaining (.refl _))

private theorem cancelled_keeps (eventID : ID) :
    Keeps settings index call (PaymentService.handleEventCancelled eventID) state 0 := by
  refine .perform (by simp) (fun _ _ => trivial) fun later fault _ step => ?_
  cases reply : (execute settings (.listByEventID eventID) fault later.world).1 with
  | error error => exact .done
  | ok rows =>
    have part : rows.items <+: later.world.db.listByEventID eventID := stream_part reply
    refine refundAll_keeps rows.items fun txn member => ?_
    obtain ⟨row,listed,rfl⟩ := List.mem_map.mp (part.subset member)
    rw [List.mem_insertionSort] at listed
    exact (Known.of_mem (List.mem_filter.mp listed).1).later step

private theorem publishAll_keeps (rows : List (Outbox.Row Message))
    (inserted : ∀ row ∈ rows, row.message ∈ state.world.outbox.messages) :
    Keeps settings index call ((Outbox.publishAll rows).embed .outbox fun _ reply => reply) state 0 := by
  induction rows generalizing state with
  | nil => exact .done
  | cons row rest ih =>
    refine .perform (by simp) (fun later persists => ?_) fun later fault before step => ?_
    · exact persists.messages _ (inserted row List.mem_cons_self)
    have remaining {last : World} (persists : Persists state.world last) :
        ∀ other ∈ rest, other.message ∈ last.outbox.messages :=
      fun other member => persists.messages _ (inserted other (List.mem_cons_of_mem _ member))
    rcases (execute settings (.outbox (.produce row.message)) fault later.world).1 with error | _
    · exact ih (remaining (before.trans step))
    · refine .perform (by simp) (fun _ _ => trivial) fun second again between further => ?_
      exact ih (remaining (((before.trans step).trans between).trans further))

private theorem batch_keeps : Keeps settings index call OutboxStore.processBatch state 0 := by
  refine .perform (by simp) (fun _ _ => trivial) fun later fault _ step => ?_
  cases reply : (execute settings (.outbox .undelivered) fault later.world).1 with
  | error error => exact .done
  | ok rows =>
    have streamed : (stream fault later.world.outbox later.world.outbox.undelivered).1 = .ok rows := reply
    have part := stream_part streamed
    refine publishAll_keeps rows.items fun row member => step.messages _ ?_
    exact List.mem_map_of_mem (Outbox.Store.undelivered_stored (part.subset member)).1

theorem program_keeps (call : Call) : Keeps settings index call (program settings call) state 0 := by
  cases call with
  | initiateTxnForBooking request => exact .map _ (initiate_keeps request)
  | processPayment bookingID userID =>
    refine .of_issues ((program_issues settings _).mono fun statement inside => ?_)
    cases statement with
    | transitionIfInitiated id status providerRef =>
      refine ⟨by simp,fun _ => ?_⟩
      cases status with
      | pending => rfl
      | _ => exact False.elim inside
    | findByBookingID _ | now | createSession _ | cancelSession _ | updateSession _ _ _ =>
      exact ⟨by simp,fun _ => trivial⟩
    | _ => exact False.elim inside
  | handleSessionWebhook payload => exact .map _ (webhook_keeps payload)
  | processExpired limit => exact .map _ (expired_keeps limit)
  | handleEventCancelled eventID => exact .map _ (cancelled_keeps eventID)
  | processBatch => exact .map _ batch_keeps
  | wait duration => exact .perform (by simp) (fun _ _ => trivial) fun _ _ _ _ => .done

end Programs

section Runs
variable {settings : Settings} {guard : Pool → Step → Prop} {world : World} {config : Pool}

theorem snapshots_hold (sound : Sound world 0) (run : Run (service settings) guard (.idle world) config) :
    PoolHolds (service settings) snapshots (fun _ _ _ _ _ => True) config := by
  refine PoolHolds.run (PoolHolds.idle world sound) ⟨?_,?_,?_⟩ run
  · exact fun config call _ _ => program_keeps call
  · exact fun _ _ _ _ _ _ _ _ _ _ _ _ _ => trivial
  · exact fun _ _ _ _ _ _ _ _ _ sound => sound.mono (Multiset.le_add_left ..)

theorem sound_of_run (sound : Sound world 0) (run : Run (service settings) guard (.idle world) config) :
    Sound config.state.world 0 := by
  obtain ⟨_,kept⟩ := (snapshots_hold sound run).invariant_holds
  exact kept.mono (Multiset.zero_le _)

theorem justified_of_run (sound : Sound world 0) (run : Run (service settings) guard (.idle world) config)
    {index : Nat} {call : Call} {statement : Statement} {next : Reply statement → Task Result}
    (found : config.threads[index]? = some ⟨call,some (.perform statement next)⟩) :
    Justified call config.state.world statement := by
  obtain ⟨_,_,fits,_⟩ := (snapshots_hold sound run).thread_fits index _ found
  exact fits

theorem persists_of_next (sound : Sound world 0) (run : Run (service settings) guard (.idle world) config)
    {action : Step} {after : Pool} (taken : config.next (service settings) action = some after) :
    Persists config.state.world after.state.world := by
  rcases Config.next_state taken with same | ⟨index,fault,call,statement,next,rfl,found,rfl⟩
  · rw [same]
    exact .refl _
  · exact execute_persists call statement fault _ (justified_of_run sound run found)

end Runs
end Ticketbus.Payment
