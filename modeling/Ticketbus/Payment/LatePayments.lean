import Ticketbus.Payment.Settlement

/-! Money that arrives for a transaction. A completed webhook decides from the row it
read before its guarded update; it accounts for the payment as long as nobody expires
the transaction between the two, and as long as the refund of a late payment is stored. -/
namespace Ticketbus.Payment
open Ticketbus.Concurrency Ticketbus.Relational

structure Sale where
  transactionID : ID
  bookingID : ID
  session : String

def TransactionRow.sale (row : TransactionRow) : Sale := ⟨row.id,row.bookingID,row.transaction.providerRef⟩

/-- The transaction is completed, or a refund of it has been asked for. -/
def World.Accounts (world : World) (id : ID) : Prop :=
  (∃ row ∈ world.db.transactions.rows, row.id = id ∧ row.transaction.status = .completed) ∨
    ∃ row ∈ world.db.refunds.rows, row.refund.transactionID = id

theorem World.Accounts.later {before after : World} {id : ID} (accounts : before.Accounts id)
    (persists : Persists before after) : after.Accounts id := by
  rcases accounts with ⟨row,member,rfl,completed⟩ | ⟨row,member,same⟩
  · obtain ⟨next,found,_,reaches⟩ := persists.transactions _ _ (Table.find?_of_mem member)
    rw [completed] at reaches
    exact .inl ⟨next,Table.find?_mem found,Table.find?_key found,reaches⟩
  · exact .inr ⟨row,persists.refunds row member,same⟩

/-- The row of a sale in its place, and not expired while calls are about to complete
it that have read it as active. -/
def Standing (sale : Sale) (world : World) (deciding : Nat) : Prop :=
  ∃ row, world.db.transactions.find? sale.transactionID = some row ∧
    row.transaction.bookingID = sale.bookingID ∧ row.transaction.providerRef = sale.session ∧
    (deciding ≠ 0 → row.transaction.status ≠ .expired)

def Statement.bystander : Statement → Bool
  | .transitionIfActive _ _ _ | .transitionIfInitiated _ _ _ | .updateSession _ _ _ => false
  | _ => true

section Statements
variable {settings : Settings} {sale : Sale} {call : Call} {fault : Fault} {world after : World} {deciding kept : Nat}

theorem Standing.mono (standing : Standing sale world deciding) (fewer : kept ≤ deciding) :
    Standing sale world kept := by
  obtain ⟨row,found,booking,session,undecided⟩ := standing
  exact ⟨row,found,booking,session,fun nonzero => undecided (by omega)⟩

theorem Standing.rewritten {db : Database} {row next : TransactionRow} (standing : Standing sale world deciding)
    (change : world.db.Rewritten row next db)
    (session : row.id = sale.transactionID → next.transaction.providerRef = sale.session)
    (undecided : row.id = sale.transactionID → kept ≠ 0 → next.transaction.status ≠ .expired)
    (fewer : kept ≤ deciding ∨ row.id = sale.transactionID) :
    Standing sale {world with db := db} kept := by
  obtain ⟨old,found,booking,ref,before⟩ := standing
  by_cases same : row.id = sale.transactionID
  · refine ⟨next,(change.found _).trans (if_pos same),?_,session same,undecided same⟩
    rw [← same,change.stored] at found
    cases found
    have unmoved := congrArg Transaction.bookingID change.fixed
    exact Eq.trans unmoved booking
  · refine ⟨old,?_,booking,ref,fun nonzero => before ?_⟩
    · exact ((change.found _).trans (if_neg same)).trans found
    · rcases fewer with fewer | here
      · omega
      · exact absurd here same

theorem Effect.unmoved {statement : Statement} {db : Database} {id : ID} {row : TransactionRow}
    (effect : Effect world statement db) (bystander : statement.bystander = true)
    (found : world.db.transactions.find? id = some row) :
    ∃ next, db.transactions.find? id = some next ∧ next.transaction.fixed = row.transaction.fixed ∧
      next.transaction.status = row.transaction.status ∧
      next.transaction.providerRef = row.transaction.providerRef := by
  cases effect with
  | same | createRefund _ _ _ _ => exact ⟨row,found,rfl,rfl,rfl⟩
  | create fresh _ _ => exact ⟨row,Table.find?_insert_of_some fresh found,rfl,rfl,rfl⟩
  | rewrite rewrites change =>
    rw [change.found]
    split
    · rename_i same
      rw [← same,change.stored] at found
      cases found
      refine ⟨_,rfl,change.fixed,?_⟩
      cases statement with
      | updateRefundStatus id refundStatus => exact rewrites.2
      | transitionIfActive | transitionIfInitiated | updateSession => cases bystander
      | _ => exact rewrites.elim
    · exact ⟨row,found,rfl,rfl,rfl⟩

theorem standing_bystander {statement : Statement} (standing : Standing sale world deciding)
    (bystander : statement.bystander = true) :
    Standing sale (execute settings statement fault world).2 deciding := by
  obtain ⟨row,found,booking,session,undecided⟩ := standing
  obtain ⟨next,present,fixed,status,ref⟩ := (execute_effect settings statement fault world).unmoved bystander found
  refine ⟨next,present,(Transaction.bookingID_fixed fixed).trans booking,ref.trans session,?_⟩
  rw [status]
  exact undecided

theorem standing_transition {id : ID} {status : TransactionStatus} {providerRef : String}
    (standing : Standing sale world (deciding + kept))
    (session : id = sale.transactionID → providerRef = sale.session)
    (alone : id = sale.transactionID → status = .expired → (∃ row, world.db.transactions.find? id = some row ∧
      row.transaction.status.active = true) → kept = 0) :
    Standing sale (execute settings (.transitionIfActive id status providerRef) fault world).2 kept := by
  have fewer := standing.mono (Nat.le_add_left kept deciding)
  refine write_keeps (Standing sale · kept) fewer fun value db ok => ?_
  rcases Database.transition_ok ok with ⟨_,rfl,_⟩ | ⟨_,row,next,rfl,active,now,ref,change⟩
  · exact fewer
  · refine fewer.rewritten change (fun same => ref.trans (session same)) (fun same nonzero expired => ?_) (.inl (le_refl _))
    exact nonzero (alone same (now.symm.trans expired) ⟨row,change.stored,active⟩)

theorem completed_cases {id : ID} {providerRef : String} {count : Nat}
    (ok : (execute settings (.transitionIfActive id .completed providerRef) fault world).1 = .ok count) :
    (0 < count ∧ (execute settings (.transitionIfActive id .completed providerRef) fault world).2.Accounts id) ∨
    (count = 0 ∧ (execute settings (.transitionIfActive id .completed providerRef) fault world).2 = world ∧
      ∀ row, world.db.transactions.find? id = some row → row.transaction.status.active = false) := by
  change (write World.put fault world _).1 = _ at ok
  change (_ ∧ (write World.put fault world _).2.Accounts id) ∨ (_ ∧ (write World.put fault world _).2 = world ∧ _)
  rcases write_cases World.put fault world (world.db.transitionIfActive id .completed providerRef) with
    ⟨value,db,_,committed,result⟩ | ⟨error,result⟩
  · rw [result] at ok ⊢
    cases ok
    rcases Database.transition_ok committed with ⟨rfl,rfl,settled⟩ | ⟨rfl,row,next,rfl,_,now,_,change⟩
    · exact .inr ⟨rfl,rfl,settled⟩
    · have found : db.transactions.find? row.id = some next := (change.found _).trans (if_pos rfl)
      exact .inl ⟨Nat.one_pos,.inl ⟨next,Table.find?_mem found,Table.find?_key found,now⟩⟩
  · rw [result] at ok
    cases ok

theorem refund_accounts {refund : RefundRequest} (sound : Sound world 0)
    (justified : Justified call world (.createRefund refund)) :
    (execute settings (.createRefund refund) .none world).2.Accounts refund.transactionID := by
  obtain ⟨_,fresh,keyed,_,row,found,_,_,amount,_⟩ := justified
  have check : 0 ≤ refund.amountRupiah ∧ Int8 refund.amountRupiah := amount ▸ row.check
  obtain ⟨db,ok⟩ := Database.createRefund_succeeds check fresh (by rw [found]; rfl)
  have stored : (execute settings (.createRefund refund) .none world).2 = {world with db := db} := by
    change (write World.put .none world (world.db.createRefund refund)).2 = _
    rw [ok]
    rfl
  rw [stored]
  rcases Database.createRefund_ok ok with ⟨rfl,old,member,key⟩ | ⟨new,unused,unkeyed,transaction,same,rfl⟩
  · refine .inr ⟨old,member,?_⟩
    rw [← sound.keyed old member,key,keyed]
  · have inserted : new ∈ (world.db.refunds.insert new unused).rows := (Table.mem_insert ..).mpr (.inr rfl)
    exact .inr ⟨new,inserted,by rw [same]⟩

end Statements

/-! The protocol: the resource counts the calls that have read the sale's transaction
as active and are about to complete it. -/

def accounting (sale : Sale) : Protocol Statement Reply World Fault Call Nat where
  evolves before after := Persists before.world after.world
  evolves_refl := Persists.view_refl
  evolves_trans := Persists.view_trans
  invariant state deciding := Standing sale state.world deciding
  permits _ call state frame statement fault := Sound state.world 0 ∧ Justified call state.world statement ∧
    (∀ refund, statement = .createRefund refund →
      refund.idempotencyKey = .latePayment sale.transactionID → fault = .none) ∧
    ∀ providerRef, statement = .transitionIfActive sale.transactionID .expired providerRef →
      (∃ row, state.world.db.transactions.find? sale.transactionID = some row ∧
        row.transaction.status.active = true) → frame = 0
  fits _ _ _ own statement := own ≠ 0 →
    ∃ providerRef, statement = .transitionIfActive sale.transactionID .completed providerRef

section Programs
variable {settings : Settings} {sale : Sale} {index : Nat} {call : Call} {α β : Type} {state : View}
variable {post : α → World → Prop}

def Cares (settings : Settings) (sale : Sale) (index : Nat) (call : Call) (post : α → World → Prop)
    (program : Task α) (state : View) (own : Nat) : Prop :=
  Holds (service settings) (accounting sale) index call
    (fun value later kept => kept = 0 ∧ post value later.world) program state own

theorem Cares.done {value : α} (returns : ∀ later, Persists state.world later → post value later) :
    Cares settings sale index call post (.done value) state 0 :=
  fun later evolved => ⟨rfl,returns later.world evolved⟩

theorem Cares.bind {first : Task β} {rest : β → Task α} {middle : β → World → Prop}
    (cares : Cares settings sale index call middle first state 0)
    (continues : ∀ value later, middle value later.world → Cares settings sale index call post (rest value) later 0) :
    Cares settings sale index call post (first.bind rest) state 0 := by
  refine Holds.bind (Holds.consequence cares ?_)
  rintro value later _ ⟨rfl,reached⟩
  exact continues value later reached

theorem Cares.bystander {statement : Statement} {next : Reply statement → Task α}
    (bystander : statement.bystander = true)
    (continues : ∀ later fault frame, Persists state.world later.world → Standing sale later.world 0 →
      (accounting sale).permits index call later frame statement fault →
      Persists later.world (execute settings statement fault later.world).2 →
      Cares settings sale index call post (next (execute settings statement fault later.world).1)
        (later.after (service settings) index statement fault) 0) :
    Cares settings sale index call post (.perform statement next) state 0 := by
  intro later evolved frame standing
  refine ⟨fun nonzero => absurd rfl nonzero,fun fault permitted => ?_⟩
  have step : Persists later.world (execute settings statement fault later.world).2 :=
    execute_persists call statement fault later.world permitted.2.1
  refine ⟨step,0,standing_bystander standing bystander,?_⟩
  exact continues later fault frame evolved (Standing.mono standing (Nat.zero_le _)) permitted step

theorem Cares.of_issues {program : Task α}
    (issues : program.Issues fun statement => statement.bystander = true) (returns : ∀ value world, post value world) :
    Cares settings sale index call post program state 0 := by
  refine Holds.of_issues issues ?_ fun value (later : View) => ⟨rfl,returns value later.world⟩
  intro statement bystander later frame standing
  refine ⟨fun nonzero => absurd rfl nonzero,fun fault permitted => ⟨?_,standing_bystander standing bystander⟩⟩
  exact execute_persists call statement fault later.world permitted.2.1

theorem Cares.through {first : Task β} {rest : β → Task α}
    (issues : first.Issues fun statement => statement.bystander = true)
    (continues : ∀ value later, Cares settings sale index call post (rest value) later 0) :
    Cares settings sale index call post (first.bind rest) state 0 :=
  .bind (.of_issues issues fun _ _ => trivial) fun value later (_ : True) => continues value later

theorem Cares.transition (id : ID) (status : TransactionStatus) (providerRef : String)
    {next : Except DbError Nat → Task α} {own : Nat}
    (session : id = sale.transactionID → providerRef = sale.session)
    (deciding : own ≠ 0 → id = sale.transactionID ∧ status = .completed)
    (continues : ∀ (later : View) fault, Persists state.world later.world → Standing sale later.world own →
      Cares settings sale index call post
        (next (execute settings (.transitionIfActive id status providerRef) fault later.world).1)
        (later.after (service settings) index (.transitionIfActive id status providerRef) fault) 0) :
    Cares settings sale index call post (.perform (.transitionIfActive id status providerRef) next) state own := by
  intro later evolved frame standing
  refine ⟨fun nonzero => ?_,fun fault permitted => ⟨?_,0,?_,?_⟩⟩
  · obtain ⟨rfl,rfl⟩ := deciding nonzero
    exact ⟨providerRef,rfl⟩
  · exact execute_persists call _ fault later.world permitted.2.1
  · rw [zero_add]
    change Standing sale (execute settings (.transitionIfActive id status providerRef) fault later.world).2 frame
    refine standing_transition standing session ?_
    rintro rfl rfl active
    exact permitted.2.2.2 providerRef rfl active
  · exact continues later fault evolved (Standing.mono standing (Nat.le_add_right ..))

private theorem publish_cares {value : α} {message : Time → Message} {id : ID}
    (accounts : state.world.Accounts id) (returns : ∀ world : World, world.Accounts id → post value world) :
    Cares settings sale index call post ((PaymentService.publish message).bind fun _ => .done value) state 0 := by
  refine .bystander rfl fun second _ _ before _ _ step => ?_
  refine .bystander rfl fun third _ _ between _ _ further => .done fun last after => returns last ?_
  exact accounts.later ((((before.trans step).trans between).trans further).trans after)

private theorem lateRefund_cares {txn : Transaction} {value : α} (same : txn.id = sale.transactionID) :
    Cares settings sale index call (fun _ world => world.Accounts txn.id)
      ((PaymentService.requestLatePaymentRefund txn).bind fun _ => .done value) state 0 := by
  refine .bystander rfl fun first _ _ _ _ _ _ => ?_
  refine .bystander rfl fun second fault _ _ _ permitted _ => ?_
  obtain ⟨sound,justified,reliable,_⟩ := permitted
  have noFault : fault = .none := reliable _ rfl (congrArg IdempotencyKey.latePayment same)
  subst noFault
  have accounts : (execute settings (.createRefund _) .none second.world).2.Accounts txn.id :=
    refund_accounts sound justified
  generalize (execute settings (.createRefund _) .none second.world).1 = reply
  rcases reply with error | _
  · exact .done fun last after => accounts.later after
  · refine .bystander rfl fun third _ _ before _ _ step => .done fun last after => ?_
    exact accounts.later ((before.trans step).trans after)

private theorem lateRefund_issues (txn : Transaction) :
    (PaymentService.requestLatePaymentRefund txn).Issues fun statement => statement.bystander = true := by
  refine ⟨rfl,fun id => ⟨rfl,fun reply => ?_⟩⟩
  rcases reply with error | _
  · trivial
  · exact ⟨rfl,fun _ => trivial⟩

private theorem publish_issues (message : Time → Message) :
    (PaymentService.publish message).Issues fun statement => statement.bystander = true :=
  ⟨rfl,fun _ => ⟨rfl,fun _ => trivial⟩⟩

private theorem settled_accounts {world : World} {txn : Transaction} {own : Nat} (known : Known world txn)
    (standing : Standing sale world own) (same : txn.id = sale.transactionID) (unexpired : txn.status ≠ .expired)
    (decides : txn.status.active = true → own ≠ 0)
    (settled : ∀ row, world.db.transactions.find? txn.id = some row → row.transaction.status.active = false) :
    world.Accounts txn.id := by
  obtain ⟨row,found,_,reaches⟩ := known
  obtain ⟨stored,present,_,_,undecided⟩ := standing
  rw [← same,found] at present
  cases present
  refine .inl ⟨row,Table.find?_mem found,Table.find?_key found,?_⟩
  have final := settled row found
  cases status : txn.status with
  | initiated | pending =>
    have open_ := undecided (decides (by rw [status]; rfl))
    cases now : row.transaction.status with
    | completed => rfl
    | expired => exact absurd now open_
    | initiated | pending =>
      rw [now] at final
      cases final
  | completed =>
    rw [status] at reaches
    exact reaches
  | expired => exact absurd status unexpired

private theorem applyWebhook_cares {txn : Transaction} (event : WebhookEvent) (known : Known state.world txn)
    (session : txn.id = sale.transactionID → txn.providerRef = sale.session) {own : Nat}
    (deciding : own ≠ 0 → txn.id = sale.transactionID ∧ event = .completed)
    (decides : txn.id = sale.transactionID → event = .completed → txn.status.active = true → own ≠ 0) :
    Cares settings sale index call (fun value world => event = .completed → txn.id = sale.transactionID →
      value = .ok () → world.Accounts sale.transactionID)
      (PaymentService.applyWebhook txn event) state own := by
  cases event with
  | completed =>
    refine .transition _ _ _ session (fun nonzero => ⟨(deciding nonzero).1,rfl⟩) fun later fault before standing => ?_
    cases reply : (execute settings (.transitionIfActive txn.id .completed txn.providerRef) fault later.world).1 with
    | error error => exact .done fun _ _ _ _ failed => nomatch failed
    | ok count =>
      -- an update that matched no row: somebody has settled the transaction since it was read
      rcases completed_cases reply with ⟨positive,accounts⟩ | ⟨rfl,unchanged,settled⟩
      · have applied : decide (0 < count) = true := decide_eq_true positive
        simp only [Except.map,Program.done_bind,applied]
        refine publish_cares accounts fun world accounts _ same _ => ?_
        rw [← same]
        exact accounts
      · simp only [Except.map,Program.done_bind,Nat.lt_irrefl,decide_false]
        by_cases same : txn.id = sale.transactionID
        · split
          · refine Holds.consequence (lateRefund_cares same) ?_
            exact fun _ _ _ returned => ⟨returned.1,fun _ _ _ => same ▸ returned.2⟩
          · rename_i unexpired
            -- the copy was active, so nobody could expire it: it has been completed
            have accounts := settled_accounts (known.later before) standing same unexpired (decides same rfl) settled
            refine .done fun last after _ _ _ => ?_
            rw [← same]
            exact (unchanged.symm ▸ accounts).later after
        · refine .of_issues ?_ fun _ _ _ is => absurd is same
          split
          · exact (lateRefund_issues txn).bind fun _ => trivial
          · trivial
  | expired =>
    refine .transition _ _ _ session (fun nonzero => nomatch (deciding nonzero).2) fun later fault _ _ => ?_
    generalize (execute settings (.transitionIfActive txn.id .expired txn.providerRef) fault later.world).1 = reply
    refine .of_issues ?_ fun _ _ never => nomatch never
    rcases reply with error | count
    · trivial
    · simp only [Except.map,Program.done_bind]
      split
      · trivial
      · exact (publish_issues _).bind fun _ => trivial
      · trivial
  | other name =>
    have none : own = 0 := by
      by_contra nonzero
      cases (deciding nonzero).2
    subst none
    exact .done fun _ _ never => nomatch never

theorem Cares.findByBookingID {bookingID : ID} {next : Except DbError Transaction → Task α} (own : Transaction → Nat)
    (deciding : ∀ txn, own txn ≠ 0 → txn.id = sale.transactionID ∧ txn.status.active = true)
    (failed : ∀ error later, Cares settings sale index call post (next (.error error)) later 0)
    (found : ∀ txn (later : View), Known later.world txn →
      (txn.id = sale.transactionID → txn.providerRef = sale.session) →
      (bookingID = sale.bookingID → txn.id = sale.transactionID) →
      Cares settings sale index call post (next (.ok txn)) later (own txn)) :
    Cares settings sale index call post (.perform (.findByBookingID bookingID) next) state 0 := by
  intro later _ frame standing
  refine ⟨fun nonzero => absurd rfl nonzero,fun fault permitted => ?_⟩
  have same : (later.after (service settings) index (.findByBookingID bookingID) fault).world = later.world :=
    query_world ..
  have step : Persists later.world (later.after (service settings) index (.findByBookingID bookingID) fault).world :=
    execute_persists call _ fault later.world permitted.2.1
  cases reply : (execute settings (.findByBookingID bookingID) fault later.world).1 with
  | error error =>
    refine ⟨step,0,standing_bystander standing rfl,?_⟩
    change Cares settings sale index call post (next (execute settings (.findByBookingID bookingID) fault later.world).1) _ 0
    rw [reply]
    exact failed error _
  | ok txn =>
    have read : later.world.db.findByBookingID bookingID = .ok txn := query_ok reply
    obtain ⟨row,stored,rfl,booking⟩ := Database.findByBookingID_ok read
    obtain ⟨old,present,booked,session,undecided⟩ := standing
    have only (is : row.transaction.id = sale.transactionID) : row = old := by
      rw [← is] at present
      exact Option.some.inj (stored.symm.trans present)
    refine ⟨step,own row.transaction,?_,?_⟩
    · change Standing sale (later.after (service settings) index (.findByBookingID bookingID) fault).world _
      rw [same]
      refine ⟨old,present,booked,session,fun nonzero => ?_⟩
      -- a call that begins to decide has read the stored row as active
      by_cases none : own row.transaction = 0
      · exact undecided (by omega)
      · obtain ⟨is,active⟩ := deciding _ none
        rw [only is] at active
        intro expired
        rw [expired] at active
        cases active
    · change Cares settings sale index call post
        (next (execute settings (.findByBookingID bookingID) fault later.world).1) _ _
      rw [reply]
      refine found _ _ ((Known.of_mem (Table.find?_mem stored)).later step) (fun is => ?_) fun is => ?_
      · rw [only is]
        exact session
      -- `booking_id` is unique, so the booking leads to the sale's own row
      · have equal := List.inj_on_of_nodup_map later.world.db.bookings_unique (Table.find?_mem stored)
          (Table.find?_mem present) ((booking.trans is).trans booked.symm)
        have key : old.id = sale.transactionID := Table.find?_key present
        rw [equal]
        exact key

def Answered (sale : Sale) (payload : Option SessionWebhookPayload) (value : Except Error Unit) (world : World) : Prop :=
  ∀ body, payload = some body → body.event = .completed → body.referenceID = some sale.bookingID →
    body.sessionID = sale.session → value = .ok () → world.Accounts sale.transactionID

private def decides (sale : Sale) (payload : SessionWebhookPayload) (txn : Transaction) : Bool :=
  txn.id = sale.transactionID && payload.event = .completed && txn.status.active &&
    !(payload.sessionID ≠ "" && payload.sessionID ≠ txn.providerRef)

private theorem decides_iff {payload : SessionWebhookPayload} {txn : Transaction} :
    (decides sale payload txn).toNat ≠ 0 ↔ txn.id = sale.transactionID ∧ payload.event = .completed ∧
      txn.status.active = true ∧ ¬(payload.sessionID ≠ "" ∧ payload.sessionID ≠ txn.providerRef) := by
  have positive : (decides sale payload txn).toNat ≠ 0 ↔ decides sale payload txn = true := by
    cases decides sale payload txn <;> simp
  rw [positive]
  simp [decides,and_assoc,or_iff_not_imp_left]

private theorem webhook_cares (payload : Option SessionWebhookPayload) :
    Cares settings sale index call (Answered sale payload) (PaymentService.handleSessionWebhook payload) state 0 := by
  cases payload with
  | none =>
    refine .done fun _ _ _ never => ?_
    cases never
  | some payload =>
    simp only [PaymentService.handleSessionWebhook]
    cases reference : payload.referenceID with
    | none =>
      refine .done fun _ _ body is _ named => ?_
      cases is
      cases reference.symm.trans named
    | some bookingID =>
      refine .findByBookingID (fun txn => (decides sale payload txn).toNat) (fun txn nonzero => ?_)
        (fun error later => ?_) fun txn later known session unique => ?_
      · obtain ⟨is,_,active,_⟩ := decides_iff.mp nonzero
        exact ⟨is,active⟩
      · refine .done fun _ _ _ _ _ _ _ failed => ?_
        cases failed
      · simp only [Program.done_bind]
        split
        · rename_i mismatch
          have none : decides sale payload txn = false := by simp [decides,mismatch]
          simp only [none,Bool.toNat_false]
          refine .done fun _ _ body is completed named paid _ => ?_
          cases is
          cases reference.symm.trans named
          exact absurd (paid.trans (session (unique rfl)).symm) mismatch.2
        · rename_i matches_
          refine Holds.consequence (applyWebhook_cares payload.event known session (fun nonzero => ?_) ?_) ?_
          · obtain ⟨is,completed,_⟩ := decides_iff.mp nonzero
            exact ⟨is,completed⟩
          · exact fun is completed active => decides_iff.mpr ⟨is,completed,active,matches_⟩
          · rintro value last _ ⟨none,accounts⟩
            refine ⟨none,fun body is completed named _ returned => ?_⟩
            cases is
            cases reference.symm.trans named
            exact accounts completed (unique rfl) returned

private theorem expireAll_cares (txns : List Transaction)
    (session : ∀ txn ∈ txns, txn.id = sale.transactionID → txn.providerRef = sale.session) :
    Cares settings sale index call (fun _ _ => True) (PaymentService.expireAll txns) state 0 := by
  induction txns generalizing state with
  | nil => exact .done fun _ _ => trivial
  | cons txn others ih =>
    have remaining {later : View} : Cares settings sale index call (fun _ _ => True)
        (PaymentService.expireAll others) later 0 :=
      ih fun other member => session other (List.mem_cons_of_mem _ member)
    refine .through ?_ fun _ first => ?_
    · unfold PaymentService.closeSession
      split
      · exact ⟨rfl,fun _ => trivial⟩
      · trivial
    · refine .transition _ _ _ (session txn List.mem_cons_self) (fun nonzero => absurd rfl nonzero) fun later fault _ _ => ?_
      rcases (execute settings (.transitionIfActive txn.id .expired txn.providerRef) fault later.world).1 with
        error | count
      · exact remaining
      · simp only [Except.map,Program.done_bind]
        split
        · exact remaining
        · exact remaining
        · exact .through (publish_issues _) fun _ _ => remaining

private theorem expired_cares (limit : Nat) :
    Cares settings sale index call (fun _ _ => True) (PaymentService.processExpired limit) state 0 := by
  refine .bystander rfl fun first _ _ _ _ _ _ => ?_
  refine .bystander rfl fun later fault _ _ standing _ _ => ?_
  generalize (execute settings .now _ first.world).1 = now at *
  cases reply : (execute settings (.listActiveExpired now limit) fault later.world).1 with
  | error error => exact .done fun _ _ => trivial
  | ok rows =>
    have part : rows.items <+: later.world.db.listActiveExpired now limit := stream_part reply
    simp only [TransactionRepo.collectTxns,Except.map,Program.done_bind]
    refine .bind (expireAll_cares rows.items ?_) fun _ _ _ => .done fun _ _ => trivial
    intro txn member is
    have listed := List.mem_of_mem_take (part.subset member)
    rw [List.mem_insertionSort] at listed
    obtain ⟨row,stored,rfl⟩ := List.mem_map.mp (List.mem_filter.mp listed).1
    obtain ⟨old,present,_,session,_⟩ := standing
    have same : row.id = sale.transactionID := is
    rw [← same,Table.find?_of_mem stored] at present
    cases present
    exact session

/-- The calls that go on once a session has been stored; time passes and the outbox is drained. -/
def Call.awaitsPayment : Call → Bool
  | .handleSessionWebhook _ | .processExpired _ | .handleEventCancelled _ | .processBatch | .wait _ => true
  | .initiateTxnForBooking _ | .processPayment _ _ => false

def Call.Answered (sale : Sale) (call : Call) (value : Result) (world : World) : Prop :=
  ∀ payload outcome, call = .handleSessionWebhook payload → value = .unit outcome →
    Payment.Answered sale payload outcome world

theorem program_cares (call : Call) (awaits : call.awaitsPayment = true) :
    Cares settings sale index call (call.Answered sale) (program settings call) state 0 := by
  cases call with
  | handleSessionWebhook payload =>
    refine .bind (webhook_cares payload) fun value later answered => .done ?_
    rintro last after _ _ ⟨⟩ ⟨⟩ body is completed named paid returned
    exact (answered body is completed named paid returned).later after
  | processExpired limit => exact .bind (expired_cares limit) fun _ _ _ => .done fun _ _ _ _ never => nomatch never
  | handleEventCancelled _ | processBatch | wait _ =>
    refine .of_issues ((program_issues settings _).mono fun statement inside => ?_) fun _ _ _ _ never => nomatch never
    cases statement with
    | transitionIfActive _ _ _ | transitionIfInitiated _ _ _ | updateSession _ _ _ => exact False.elim inside
    | _ => rfl
  | initiateTxnForBooking _ | processPayment _ _ => cases awaits

end Programs

section Runs

def completes (id : ID) (thread : Thread Statement Reply Call Result) : Bool :=
  match thread.head with
  | some (.transitionIfActive other .completed _) => other = id
  | _ => false

/-- Nobody expires an active transaction while a webhook is about to complete it, and
the refund of a late payment does not fail. -/
def unhurried (id : ID) (config : Pool) (_ : Nat) (statement : Statement) (fault : Fault) : Bool :=
  match statement with
  | .createRefund refund => refund.idempotencyKey ≠ .latePayment id || fault = .none
  | .transitionIfActive other .expired _ => other ≠ id ||
    !(config.state.world.db.transactions.find? id).any (fun row => row.transaction.status.active) ||
    config.threads.all fun thread => !completes id thread
  | _ => true

variable {settings : Settings} {world : World} {config : Pool} {sale : Sale}

private theorem accounting_obeyed (sound : Sound world 0) :
    Obeys (service settings) (accounting sale)
      (fun _ call value state own => own = 0 ∧ call.Answered sale value state.world)
      (Admitting Call.awaitsPayment (Stepwise (unhurried sale.transactionID))) (.idle world) where
  starts config call _ permitted := program_cares call permitted.1
  steps := by
    intro config index fault call statement next own others run permitted found _ fits
    have condition : unhurried sale.transactionID config index statement fault = true :=
      Stepwise.meets permitted found
    refine ⟨sound_of_run sound run,justified_of_run sound run found,?_,?_⟩
    · rintro refund rfl key
      simpa [unhurried,key] using condition
    · rintro providerRef rfl ⟨row,stored,active⟩
      by_contra deciding
      obtain ⟨other,member,positive⟩ := List.exists_mem_ne_zero_of_sum_ne_zero deciding
      obtain ⟨position,⟨caller,program⟩,_,present,fit⟩ := fits other member
      simp only [unhurried,stored,active,Option.any_some,Bool.not_true,Bool.or_false,ne_eq,not_true_eq_false,
        decide_false,Bool.false_or,List.all_eq_true] at condition
      have idle := condition _ (List.mem_of_getElem? present)
      match program,fit with
      | none,fit => exact positive fit
      | some (.done value),fit => exact positive fit.1
      | some (.perform op next),fit =>
        obtain ⟨ref,rfl⟩ := fit positive
        simp [completes,Thread.head,Program.head] at idle
  stops config index thread own frame _ _ _ _ standing := standing.mono (Nat.le_add_left ..)

end Runs

/-- From any store the service can reach, in every run in which no active transaction is
expired under a webhook about to complete it and no refund of a late payment fails:
once a completed webhook for the stored session has returned nil, the transaction is
completed or a refund of it is on record. -/
theorem payments_accounted_for (settings : Settings) (before config : Pool) (row : TransactionRow) (index : Nat)
    (payload : SessionWebhookPayload) (reached : Run (service settings) Anything (.idle .initial) before)
    (stored : row ∈ before.state.world.db.transactions.rows)
    (run : Run (service settings) (Admitting Call.awaitsPayment (Stepwise (unhurried row.id)))
      (.idle before.state.world) config)
    (returned : config.returned index = some (.handleSessionWebhook (some payload),.unit (.ok ())))
    (completed : payload.event = .completed) (named : payload.referenceID = some row.bookingID)
    (paid : payload.sessionID = row.transaction.providerRef) : config.state.world.Accounts row.id := by
  have sound := sound_of_run .initial reached
  have standing : Standing row.sale before.state.world 0 :=
    ⟨row,Table.find?_of_mem stored,rfl,rfl,fun nonzero => absurd rfl nonzero⟩
  have initially : PoolHolds (service settings) (accounting row.sale)
      (fun _ call value state own => own = 0 ∧ call.Answered row.sale value state.world)
      (.idle before.state.world) := PoolHolds.idle _ standing
  obtain ⟨own,frame,fits,_⟩ := (initially.run (accounting_obeyed sound) run).thread_fits index _
    (Config.returned_thread returned)
  exact fits.2 _ _ rfl rfl payload rfl completed named paid rfl

/-- The deadline passes, the poller expires the transaction, and then the payment arrives. -/
theorem payments_accounted_for_late : ∃ before config : Pool, ∃ row ∈ before.state.world.db.transactions.rows,
    Run (service sandbox) Anything (.idle .initial) before ∧
    Run (service sandbox) (Admitting Call.awaitsPayment (Stepwise (unhurried row.id))) (.idle before.state.world) config ∧
    config.returned 2 = some (.handleSessionWebhook (some ⟨.completed,some row.bookingID,row.transaction.providerRef,""⟩),
      .unit (.ok ())) ∧
    config.state.world.db.transactions.rows.map (fun row => row.transaction.status) = [.expired] ∧
    config.state.world.Accounts row.id := by
  obtain ⟨before,reached,outcome⟩ := exists_run_of_replay (service sandbox) Anything payable (.idle .initial)
    (fun (before : Pool) => before.state.world.db.transactions.rows.any fun row =>
      row.transaction.providerRef = "ps" &&
      (replay (service sandbox) (Admitting Call.awaitsPayment (Stepwise (unhurried row.id))) (.idle before.state.world)
        (.start (.wait 600000000000) :: undisturbed 0 1 ++ .start (.processExpired 10) :: undisturbed 1 6 ++
          .start (.handleSessionWebhook (some ⟨.completed,some row.bookingID,row.transaction.providerRef,""⟩)) ::
          undisturbed 2 5)).any fun config =>
        config.returned 2 = some (.handleSessionWebhook
          (some ⟨.completed,some row.bookingID,row.transaction.providerRef,""⟩),.unit (.ok ())) &&
        config.state.world.db.transactions.rows.map (fun row => row.transaction.status) = [.expired])
    (by decide +kernel)
  simp only [Option.any_eq_true,Bool.and_eq_true,decide_eq_true_eq,List.any_eq_true] at outcome
  obtain ⟨row,stored,session,config,run,returned,expired⟩ := outcome
  have run := path_of_follow _ _ _ _ _ run
  refine ⟨before,config,row,stored,reached,run,returned,expired,?_⟩
  refine payments_accounted_for sandbox before config row 2 _ reached stored run returned rfl rfl ?_
  rw [SessionWebhookPayload.sessionID,session]
  rfl

/-- Whether a session was stored for a transaction by `TransitionIfInitiated`. -/
def opened (history : List (Event Statement Reply)) (id : ID) (session : String) : Bool :=
  history.any fun event =>
    match event with
    | ⟨_,.transitionIfInitiated other .pending providerRef,reply⟩ =>
      other = id && providerRef = session && reply = .ok 1
    | _ => false

/-- The webhook has read the transaction as pending when the gateway's expiry arrives and
is applied; its own update is not, and it returns nil with the payment unaccounted for. -/
theorem payment_lost_to_expiry : ¬∀ (settings : Settings) (before config : Pool) (row : TransactionRow) (index : Nat)
    (payload : SessionWebhookPayload), Run (service settings) Anything (.idle .initial) before →
    row ∈ before.state.world.db.transactions.rows →
    opened before.state.history row.id row.transaction.providerRef = true →
    Run (service settings) (Admitting Call.awaitsPayment Anything) (.idle before.state.world) config →
    config.returned index = some (.handleSessionWebhook (some payload),.unit (.ok ())) →
    payload.event = .completed → payload.referenceID = some row.bookingID →
    payload.sessionID = row.transaction.providerRef → config.state.world.Accounts row.id := by
  intro safe
  obtain ⟨before,reached,outcome⟩ := exists_run_of_replay (service sandbox) Anything payable (.idle .initial)
    (fun (before : Pool) => before.state.world.db.transactions.rows.any fun row =>
      row.transaction.providerRef = "ps" && opened before.state.history row.id row.transaction.providerRef &&
      row.bookingID = 7 &&
      (replay (service sandbox) (Admitting Call.awaitsPayment Anything) (.idle before.state.world)
        (.start (.handleSessionWebhook (some ⟨.completed,some 7,"ps",""⟩)) :: undisturbed 0 1 ++
          .start (.handleSessionWebhook (some ⟨.expired,some 7,"ps",""⟩)) :: undisturbed 1 4 ++ undisturbed 0 1)).any
        fun (config : Pool) =>
          config.returned 0 = some (.handleSessionWebhook (some ⟨.completed,some 7,"ps",""⟩),.unit (.ok ())) &&
          config.state.world.db.transactions.rows.all (fun row => row.transaction.status ≠ .completed) &&
          config.state.world.db.refunds.rows.isEmpty) (by decide +kernel)
  simp only [Option.any_eq_true,Bool.and_eq_true,decide_eq_true_eq,List.any_eq_true,List.all_eq_true,
    List.isEmpty_iff] at outcome
  obtain ⟨row,stored,⟨⟨session,written⟩,booking⟩,config,run,⟨returned,unpaid⟩,unrefunded⟩ := outcome
  have accounts := safe sandbox before config row 0 _ reached stored written (path_of_follow _ _ _ _ _ run) returned rfl
    (congrArg some booking.symm) session.symm
  rcases accounts with ⟨paid,member,_,completed⟩ | ⟨refund,member,_⟩
  · exact unpaid paid member completed
  · rw [unrefunded] at member
    cases member

end Ticketbus.Payment
