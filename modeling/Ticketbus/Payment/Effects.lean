import Ticketbus.Payment.Service

/-! What each committed write of the payment service does to its tables. -/
namespace Ticketbus.Payment
open Ticketbus.Relational

def Transaction.fixed (txn : Transaction) : Transaction :=
  {txn with status := .initiated, providerRef := "", paymentLinkURL := "", refundStatus := .none}

theorem Transaction.bookingID_fixed {left right : Transaction} (fixed : left.fixed = right.fixed) :
    left.bookingID = right.bookingID := by
  have same := congrArg Transaction.bookingID fixed
  exact same

namespace Database
variable {db after : Database}

theorem transactionOf_some {bookingID : ID} {row : TransactionRow}
    (found : db.transactionOf bookingID = some row) :
    db.transactions.find? row.id = some row ∧ row.transaction.bookingID = bookingID := by
  refine ⟨Table.find?_of_mem (List.mem_of_find?_eq_some found),?_⟩
  have same := List.find?_some found
  exact of_decide_eq_true same

theorem findByBookingID_ok {bookingID : ID} {txn : Transaction} (ok : db.findByBookingID bookingID = .ok txn) :
    ∃ row, db.transactions.find? row.id = some row ∧ row.transaction = txn ∧ txn.bookingID = bookingID := by
  unfold findByBookingID at ok
  split at ok
  · cases ok
  · rename_i row found
    cases ok
    obtain ⟨stored,same⟩ := transactionOf_some found
    exact ⟨row,stored,rfl,same⟩

theorem create_ok {now : Time} {txn : Transaction} (ok : db.create now txn = .ok ((),after)) :
    ∃ row fresh unbooked, row.transaction = {txn with createdAt := now} ∧
      after = db.addTransaction row fresh unbooked := by
  unfold create at ok
  split at ok
  · simp only at ok
    split at ok
    · rename_i fresh
      split at ok
      · rename_i unbooked
        cases ok
        exact ⟨_,fresh,unbooked,rfl,rfl⟩
      · cases ok
    · cases ok
  · cases ok

structure Rewritten (db : Database) (row next : TransactionRow) (after : Database) : Prop where
  stored : db.transactions.find? row.id = some row
  fixed : next.transaction.fixed = row.transaction.fixed
  found : ∀ id, after.transactions.find? id = if row.id = id then some next else db.transactions.find? id
  refunds : after.refunds = db.refunds

theorem setTransaction_rewritten (db : Database) (row : TransactionRow) (member : row ∈ db.transactions.rows)
    (status : TransactionStatus) (providerRef paymentLinkURL : String) (refundStatus : RefundStatus) :
    db.Rewritten row (row.write status providerRef paymentLinkURL refundStatus)
      (db.setTransaction row member status providerRef paymentLinkURL refundStatus) := by
  refine ⟨Table.find?_of_mem member,rfl,fun id => ?_,rfl⟩
  have replaced := Table.find?_replace db.transactions
    (row.write status providerRef paymentLinkURL refundStatus) id
  change _ = if row.id = id then _ else _ at replaced
  refine replaced.trans ?_
  by_cases same : row.id = id
  · rw [if_pos same,if_pos same,← same,Table.find?_of_mem member]
    rfl
  · rw [if_neg same,if_neg same]

theorem transition_total (db : Database) (condition : TransactionStatus → Bool) (id : ID) (status : TransactionStatus)
    (providerRef : String) : ∃ pair, db.transition condition id status providerRef = .ok pair := by
  unfold transition
  split
  · exact ⟨_,rfl⟩
  · split <;> exact ⟨_,rfl⟩

theorem transition_ok {condition : TransactionStatus → Bool} {id : ID} {status : TransactionStatus}
    {providerRef : String} {count : Nat} (ok : db.transition condition id status providerRef = .ok (count,after)) :
    (count = 0 ∧ after = db ∧
      ∀ row, db.transactions.find? id = some row → condition row.transaction.status = false) ∨
    (count = 1 ∧ ∃ row next, row.id = id ∧ condition row.transaction.status = true ∧
      next.transaction.status = status ∧ next.transaction.providerRef = providerRef ∧
      db.Rewritten row next after) := by
  unfold transition at ok
  split at ok
  · rename_i absent
    cases ok
    refine .inl ⟨rfl,rfl,fun row found => ?_⟩
    cases absent.symm.trans found
  · rename_i row found
    split at ok
    · rename_i holds
      cases ok
      exact .inr ⟨rfl,row,_,Table.find?_key found,holds,rfl,rfl,setTransaction_rewritten ..⟩
    · rename_i fails
      cases ok
      refine .inl ⟨rfl,rfl,fun stored isStored => ?_⟩
      cases found.symm.trans isStored
      exact Bool.eq_false_iff.mpr fails

theorem updateSession_ok {id : ID} {providerRef paymentLinkURL : String}
    (ok : db.updateSession id providerRef paymentLinkURL = .ok ((),after)) :
    after = db ∨ ∃ row next, row.id = id ∧ next.transaction.status = row.transaction.status ∧
      next.transaction.providerRef = providerRef ∧ db.Rewritten row next after := by
  unfold updateSession at ok
  split at ok
  · cases ok
    exact .inl rfl
  · rename_i row found
    cases ok
    refine .inr ⟨row,_,Table.find?_key found,?_,?_,setTransaction_rewritten ..⟩ <;> rfl

theorem updateRefundStatus_ok {id : ID} {refundStatus : RefundStatus}
    (ok : db.updateRefundStatus id refundStatus = .ok ((),after)) :
    after = db ∨ ∃ row next, row.id = id ∧ next.transaction.status = row.transaction.status ∧
      next.transaction.providerRef = row.transaction.providerRef ∧ db.Rewritten row next after := by
  unfold updateRefundStatus at ok
  split at ok
  · cases ok
    exact .inl rfl
  · rename_i row found
    cases ok
    refine .inr ⟨row,_,Table.find?_key found,?_,?_,setTransaction_rewritten ..⟩ <;> rfl

theorem createRefund_ok {refund : RefundRequest} (ok : db.createRefund refund = .ok ((),after)) :
    (after = db ∧ ∃ row ∈ db.refunds.rows, row.key = refund.idempotencyKey) ∨
    ∃ row fresh unkeyed transaction, row.refund = refund ∧
      after = db.addRefund row fresh unkeyed transaction := by
  unfold createRefund at ok
  split at ok
  · simp only at ok
    split at ok
    · rename_i unkeyed
      split at ok
      · rename_i fresh
        split at ok
        · rename_i transaction
          cases ok
          exact .inr ⟨_,fresh,unkeyed,transaction,rfl,rfl⟩
        · cases ok
      · cases ok
    · rename_i keyed
      cases ok
      obtain ⟨row,found⟩ := Option.ne_none_iff_exists'.mp keyed
      have same := List.find?_some found
      exact .inl ⟨rfl,row,List.mem_of_find?_eq_some found,of_decide_eq_true same⟩
  · cases ok

theorem createRefund_succeeds {refund : RefundRequest}
    (amount : 0 ≤ refund.amountRupiah ∧ Int8 refund.amountRupiah) (fresh : db.refunds.find? refund.id = none)
    (transaction : (db.transactions.find? refund.transactionID).isSome) :
    ∃ after, db.createRefund refund = .ok ((),after) := by
  unfold createRefund
  rw [dif_pos amount]
  simp only [transaction,dite_true]
  split
  · split
    · exact ⟨_,rfl⟩
    · rename_i taken
      exact absurd fresh taken
  · exact ⟨_,rfl⟩

end Database

def Statement.writes : Statement → Bool
  | .create _ | .transitionIfActive _ _ _ | .transitionIfInitiated _ _ _ | .updateSession _ _ _
  | .updateRefundStatus _ _ | .createRefund _ | .outbox _ => true
  | _ => false

structure Still (before after : World) : Prop where
  db : after.db = before.db
  outbox : after.outbox = before.outbox
  nextID : before.nextID ≤ after.nextID

theorem Still.of_eq {before middle after : World} (same : after = middle) (still : Still before middle) :
    Still before after := same ▸ still

theorem execute_reads {settings : Settings} {statement : Statement} (fault : Fault) (world : World)
    (reads : statement.writes = false) : Still world (execute settings statement fault world).2 := by
  have refl : Still world world := ⟨rfl,rfl,le_refl _⟩
  cases statement with
  | newString => exact ⟨rfl,rfl,Nat.le_succ _⟩
  | now | advance _ => exact ⟨rfl,rfl,le_refl _⟩
  | findByBookingID _ => exact .of_eq (query_world ..) refl
  | listByEventID _ => exact .of_eq (stream_world ..) refl
  | listActiveExpired _ _ => exact .of_eq (stream_world ..) refl
  | createSession request =>
    rcases send_world fault world {world with
        sessions := (settings.gateway world.created request).providerRef :: world.sessions
        created := world.created + 1} with same | same
    · exact .of_eq same refl
    · exact .of_eq same ⟨rfl,rfl,le_refl _⟩
  | cancelSession providerRef =>
    rcases send_world fault world {world with sessions := world.sessions.filter (· ≠ providerRef)} with
      same | same
    · exact .of_eq same refl
    · exact .of_eq same ⟨rfl,rfl,le_refl _⟩
  | _ => cases reads

def Rewrites : Statement → Transaction → Transaction → Prop
  | .transitionIfActive id status providerRef,txn,next => txn.id = id ∧ txn.status.active = true ∧
      next.status = status ∧ next.providerRef = providerRef
  | .transitionIfInitiated id status providerRef,txn,next => txn.id = id ∧ txn.status = .initiated ∧
      next.status = status ∧ next.providerRef = providerRef
  | .updateSession id providerRef _,txn,next => txn.id = id ∧ next.status = txn.status ∧ next.providerRef = providerRef
  | .updateRefundStatus id _,txn,next => txn.id = id ∧ next.status = txn.status ∧ next.providerRef = txn.providerRef
  | _,_,_ => False

inductive Effect (world : World) : Statement → Database → Prop
  | same {statement : Statement} : Effect world statement world.db
  | create {txn : Transaction} {row : TransactionRow} (fresh : world.db.transactions.find? row.id = none)
      (unbooked : world.db.transactionOf row.bookingID = none)
      (stored : row.transaction = {txn with createdAt := world.clock}) :
      Effect world (.create txn) (world.db.addTransaction row fresh unbooked)
  | rewrite {statement : Statement} {row next : TransactionRow} {after : Database}
      (rewrites : Rewrites statement row.transaction next.transaction) (change : world.db.Rewritten row next after) :
      Effect world statement after
  | createRefund {refund : RefundRequest} {row : RefundRow} (fresh : world.db.refunds.find? row.id = none)
      (unkeyed : world.db.refundFor row.key = none)
      (transaction : (world.db.transactions.find? row.refund.transactionID).isSome) (stored : row.refund = refund) :
      Effect world (.createRefund refund) (world.db.addRefund row fresh unkeyed transaction)

theorem execute_effect (settings : Settings) (statement : Statement) (fault : Fault) (world : World) :
    Effect world statement (execute settings statement fault world).2.db := by
  cases statement with
  | create txn =>
    refine write_part World.db (Effect world _) .same fun value db ok => ?_
    obtain ⟨row,fresh,unbooked,stored,rfl⟩ := Database.create_ok ok
    exact .create fresh unbooked stored
  | transitionIfActive id status providerRef =>
    refine write_part World.db (Effect world _) .same fun value db ok => ?_
    rcases Database.transition_ok ok with ⟨_,rfl,_⟩ | ⟨_,row,next,same,active,now,ref,change⟩
    · exact .same
    · exact .rewrite ⟨same,active,now,ref⟩ change
  | transitionIfInitiated id status providerRef =>
    refine write_part World.db (Effect world _) .same fun value db ok => ?_
    rcases Database.transition_ok ok with ⟨_,rfl,_⟩ | ⟨_,row,next,same,initiated,now,ref,change⟩
    · exact .same
    · exact .rewrite ⟨same,of_decide_eq_true initiated,now,ref⟩ change
  | updateSession id providerRef paymentLinkURL =>
    refine write_part World.db (Effect world _) .same fun value db ok => ?_
    rcases Database.updateSession_ok ok with rfl | ⟨row,next,same,status,ref,change⟩
    · exact .same
    · exact .rewrite ⟨same,status,ref⟩ change
  | updateRefundStatus id refundStatus =>
    refine write_part World.db (Effect world _) .same fun value db ok => ?_
    rcases Database.updateRefundStatus_ok ok with rfl | ⟨row,next,same,status,ref,change⟩
    · exact .same
    · exact .rewrite ⟨same,status,ref⟩ change
  | createRefund refund =>
    refine write_part World.db (Effect world _) .same fun value db ok => ?_
    rcases Database.createRefund_ok ok with ⟨rfl,_⟩ | ⟨row,fresh,unkeyed,transaction,same,rfl⟩
    · exact .same
    · exact .createRefund fresh unkeyed transaction same
  | outbox statement => exact .same
  | _ =>
    rw [(execute_reads fault world rfl).db]
    exact .same

section Frames
variable {settings : Settings} {statement : Statement}

theorem execute_nextID (fault : Fault) (world : World) :
    world.nextID ≤ (execute settings statement fault world).2.nextID := by
  cases statement with
  | create _ | transitionIfActive _ _ _ | transitionIfInitiated _ _ _ | updateSession _ _ _
  | updateRefundStatus _ _ | createRefund _ =>
    exact write_keeps (fun after : World => world.nextID ≤ after.nextID) (le_refl _) fun _ _ _ => le_refl _
  | outbox statement => exact le_refl _
  | _ => exact (execute_reads fault world rfl).nextID

theorem execute_outbox (fault : Fault) (world : World) (other : ∀ inner, statement ≠ .outbox inner) :
    (execute settings statement fault world).2.outbox = world.outbox := by
  cases statement with
  | create _ | transitionIfActive _ _ _ | transitionIfInitiated _ _ _ | updateSession _ _ _
  | updateRefundStatus _ _ | createRefund _ =>
    exact write_keeps (fun after : World => after.outbox = world.outbox) rfl fun _ _ _ => rfl
  | outbox inner => exact absurd rfl (other inner)
  | _ => exact (execute_reads fault world rfl).outbox

end Frames

theorem execute_published {settings : Settings} (statement : Statement) (fault : Fault) (world : World)
    (message : Message) (published : message ∈ world.outbox.broker) :
    message ∈ (execute settings statement fault world).2.outbox.broker := by
  by_cases inner : ∃ inner, statement = .outbox inner
  · obtain ⟨inner,rfl⟩ := inner
    rcases Outbox.execute_broker inner fault world.outbox with same | ⟨produced,_,same⟩
    · exact same.symm ▸ published
    · exact same.symm ▸ List.mem_cons_of_mem _ published
  · rw [execute_outbox fault world fun other same => inner ⟨other,same⟩]
    exact published

theorem Database.Rewritten.origin {db after : Database} {row next stored : TransactionRow}
    (change : db.Rewritten row next after) (member : stored ∈ after.transactions.rows) :
    ∃ old ∈ db.transactions.rows, stored.transaction.fixed = old.transaction.fixed := by
  have found := Table.find?_of_mem member
  rw [change.found] at found
  split at found
  · cases found
    exact ⟨row,Table.find?_mem change.stored,change.fixed⟩
  · exact ⟨stored,Table.find?_mem found,rfl⟩

theorem execute_origin {settings : Settings} {statement : Statement} {fault : Fault} {world : World}
    {row : TransactionRow} (stored : row ∈ (execute settings statement fault world).2.db.transactions.rows) :
    (∃ old ∈ world.db.transactions.rows, row.transaction.fixed = old.transaction.fixed) ∨
      ∃ txn, statement = .create txn ∧ row.transaction = {txn with createdAt := world.clock} := by
  have effect := execute_effect settings statement fault world
  generalize (execute settings statement fault world).2.db = after at effect stored
  cases effect with
  | same | createRefund _ _ _ _ => exact .inl ⟨row,stored,rfl⟩
  | @create txn new fresh _ same =>
    have either : row ∈ world.db.transactions.rows ∨ row = new := (Table.mem_insert _ new row fresh).mp stored
    rcases either with old | rfl
    · exact .inl ⟨row,old,rfl⟩
    · exact .inr ⟨txn,rfl,same⟩
  | rewrite _ change => exact .inl (change.origin stored)

theorem execute_refunds {settings : Settings} {statement : Statement} (fault : Fault) (world : World)
    (other : ∀ refund, statement ≠ .createRefund refund) :
    (execute settings statement fault world).2.db.refunds = world.db.refunds := by
  have effect := execute_effect settings statement fault world
  generalize (execute settings statement fault world).2.db = after at effect ⊢
  cases effect with
  | same | create _ _ _ => rfl
  | rewrite _ change => exact change.refunds
  | createRefund _ _ _ _ => exact absurd rfl (other _)

def Refused (reply : Except DbError Nat) : Prop := reply = .ok 0 ∨ ∃ error, reply = .error error

theorem Refused.ne_applied {reply : Except DbError Nat} (refused : Refused reply) : reply ≠ .ok 1 := by
  rcases refused with rfl | ⟨error,rfl⟩ <;> simp

private theorem World.write_transition (world : World) (fault : Fault) (condition : TransactionStatus → Bool) (id : ID)
    (status : TransactionStatus) (providerRef : String) :
    (∃ row next db, row.id = id ∧ condition row.transaction.status = true ∧ next.transaction.status = status ∧
      next.transaction.providerRef = providerRef ∧ world.db.Rewritten row next db ∧
      write World.put fault world (world.db.transition condition id status providerRef) = (.ok 1,{world with db := db})) ∨
    ∃ reply, Refused reply ∧ (reply = .ok 0 → ∀ row, world.db.transactions.find? id = some row →
        condition row.transaction.status = false) ∧
      write World.put fault world (world.db.transition condition id status providerRef) = (reply,world) := by
  rcases write_cases World.put fault world (world.db.transition condition id status providerRef) with
    ⟨count,db,_,ok,result⟩ | ⟨error,result⟩
  · rcases Database.transition_ok ok with ⟨rfl,rfl,fails⟩ | ⟨rfl,row,next,same,holds,now,written,change⟩
    · exact .inr ⟨.ok 0,.inl rfl,fun _ => fails,result⟩
    · exact .inl ⟨row,next,db,same,holds,now,written,change,result⟩
  · exact .inr ⟨.error error,.inr ⟨error,rfl⟩,(fun never => nomatch never),result⟩

theorem execute_transitionIfActive (settings : Settings) (id : ID) (status : TransactionStatus) (providerRef : String)
    (fault : Fault) (world : World) :
    (∃ row next db, row.id = id ∧ row.transaction.status.active = true ∧ next.transaction.status = status ∧
      next.transaction.providerRef = providerRef ∧ world.db.Rewritten row next db ∧
      execute settings (.transitionIfActive id status providerRef) fault world = (.ok 1,{world with db := db})) ∨
    ∃ reply, Refused reply ∧ (reply = .ok 0 → ∀ row, world.db.transactions.find? id = some row →
        row.transaction.status.active = false) ∧
      execute settings (.transitionIfActive id status providerRef) fault world = (reply,world) :=
  world.write_transition fault TransactionStatus.active id status providerRef

theorem execute_transitionIfInitiated (settings : Settings) (id : ID) (status : TransactionStatus)
    (providerRef : String) (fault : Fault) (world : World) :
    (∃ row next db, row.id = id ∧ row.transaction.status = .initiated ∧ next.transaction.status = status ∧
      next.transaction.providerRef = providerRef ∧ world.db.Rewritten row next db ∧
      execute settings (.transitionIfInitiated id status providerRef) fault world = (.ok 1,{world with db := db})) ∨
    ∃ reply, Refused reply ∧ (reply = .ok 0 → ∀ row, world.db.transactions.find? id = some row →
        row.transaction.status ≠ .initiated) ∧
      execute settings (.transitionIfInitiated id status providerRef) fault world = (reply,world) := by
  rcases world.write_transition fault (fun stored => stored = .initiated) id status providerRef with
    ⟨row,next,db,same,holds,rest⟩ | ⟨reply,refused,fails,result⟩
  · exact .inl ⟨row,next,db,same,of_decide_eq_true holds,rest⟩
  · exact .inr ⟨reply,refused,fun none row found => of_decide_eq_false (fails none row found),result⟩

theorem execute_updateSession (settings : Settings) (id : ID) (providerRef paymentLinkURL : String) (fault : Fault)
    (world : World) :
    (∃ row next db, row.id = id ∧ next.transaction.status = row.transaction.status ∧
      next.transaction.providerRef = providerRef ∧ world.db.Rewritten row next db ∧
      execute settings (.updateSession id providerRef paymentLinkURL) fault world = (.ok (),{world with db := db})) ∨
    ∃ reply, execute settings (.updateSession id providerRef paymentLinkURL) fault world = (reply,world) := by
  rcases write_cases World.put fault world (world.db.updateSession id providerRef paymentLinkURL) with
    ⟨_,db,_,ok,result⟩ | ⟨error,result⟩
  · rcases Database.updateSession_ok ok with rfl | ⟨row,next,same,status,written,change⟩
    · exact .inr ⟨.ok (),result⟩
    · exact .inl ⟨row,next,db,same,status,written,change,result⟩
  · exact .inr ⟨.error error,result⟩

theorem execute_createRefund {settings : Settings} {request : RefundRequest} {fault : Fault} {world : World}
    {row : RefundRow} (stored : row ∈ (execute settings (.createRefund request) fault world).2.db.refunds.rows) :
    row ∈ world.db.refunds.rows ∨ row.refund = request := by
  revert stored
  refine write_keeps (fun after : World => row ∈ after.db.refunds.rows → _) .inl fun value db ok => ?_
  rcases Database.createRefund_ok ok with ⟨rfl,_⟩ | ⟨added,fresh,unkeyed,transaction,same,rfl⟩
  · exact .inl
  · intro member
    have grown : row ∈ (world.db.refunds.insert added fresh).rows := member
    rcases (Table.mem_insert ..).mp grown with old | rfl
    · exact .inl old
    · exact .inr same

theorem execute_messages {settings : Settings} {statement : Statement} (fault : Fault) (world : World)
    (other : ∀ message, statement ≠ .outbox (.insert message)) :
    (execute settings statement fault world).2.outbox.messages = world.outbox.messages := by
  by_cases inner : ∃ inner, statement = .outbox inner
  · obtain ⟨inner,rfl⟩ := inner
    rcases Outbox.execute_messages inner fault world.outbox with same | ⟨message,rfl,_,_⟩
    · exact same
    · exact absurd rfl (other message)
  · rw [execute_outbox fault world fun other same => inner ⟨other,same⟩]

theorem execute_messages_mono {settings : Settings} (statement : Statement) (fault : Fault) (world : World) :
    ∀ message ∈ world.outbox.messages, message ∈ (execute settings statement fault world).2.outbox.messages := by
  intro message member
  by_cases inner : ∃ inner, statement = .outbox inner
  · obtain ⟨inner,rfl⟩ := inner
    exact Outbox.execute_messages_mono inner fault world.outbox message member
  · rw [execute_outbox fault world fun other same => inner ⟨other,same⟩]
    exact member

theorem execute_createSession_ok {settings : Settings} {request : SessionRequest} {fault : Fault} {world : World}
    {result : SessionResult} (ok : (execute settings (.createSession request) fault world).1 = .ok result) :
    settings.gateway world.created request = result := by
  cases fault with
  | none =>
    cases ok
    rfl
  | fail => cases ok
  | broken count => cases ok

end Ticketbus.Payment
