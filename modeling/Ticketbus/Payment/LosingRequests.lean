import Ticketbus.Payment.Sessions

/-! Requests to pay that lose. A `ProcessPayment` call whose session is not stored cancels
it at the gateway. As long as the calls for a booking do not overlap, such a call has lost
to a settlement, and nobody pays by the session it cancels. -/
namespace Ticketbus.Payment
open Ticketbus.Concurrency Ticketbus.Relational

/-- The booking that a call opens a session for. -/
def Call.pays : Call → Option ID
  | .processPayment bookingID _ => some bookingID
  | _ => none

def Issued (settings : Settings) (bookingID : ID) (ref : String) : Prop :=
  ∃ count request, request.refID = bookingID ∧ (settings.gateway count request).providerRef = ref

/-- Transactions that calls are opening a session for are not pending; those that are
have a session of their own booking. -/
structure Unrivalled (settings : Settings) (world : World) (owned : Multiset ID) : Prop where
  once : owned.Nodup
  waiting : ∀ id ∈ owned, ∃ row, world.db.transactions.find? id = some row ∧ row.transaction.status ≠ .pending
  issued : ∀ id row, world.db.transactions.find? id = some row → row.transaction.status = .pending →
    Issued settings row.bookingID row.transaction.providerRef

section Statements
variable {settings : Settings} {call : Call} {fault : Fault} {world after : World} {owned kept : Multiset ID}

theorem Unrivalled.mono (unrivalled : Unrivalled settings world owned) (smaller : kept ≤ owned) :
    Unrivalled settings world kept :=
  ⟨Multiset.nodup_of_le smaller unrivalled.once,
    fun id member => unrivalled.waiting id (Multiset.mem_of_le smaller member),unrivalled.issued⟩

theorem Unrivalled.unmoved (unrivalled : Unrivalled settings world owned) (unmoved : Unmoved world after)
    (persists : Persists world after) : Unrivalled settings after owned := by
  refine ⟨unrivalled.once,fun id member => ?_,fun id next found pending => ?_⟩
  · obtain ⟨row,stored,waits⟩ := unrivalled.waiting id member
    obtain ⟨next,found,status,_⟩ := unmoved.kept id row stored
    exact ⟨next,found,status ▸ waits⟩
  · cases stored : world.db.transactions.find? id with
    | none =>
      have fresh := (unmoved.new id next stored found).1
      rw [fresh] at pending
      cases pending
    | some row =>
      obtain ⟨same,present,status,ref⟩ := unmoved.kept id row stored
      obtain ⟨later,isLater,fixed,_⟩ := persists.transactions _ _ stored
      cases found.symm.trans present
      cases found.symm.trans isLater
      have booking : next.bookingID = row.bookingID := Transaction.bookingID_fixed fixed
      rw [booking,ref]
      exact unrivalled.issued id row stored (status ▸ pending)

theorem Unrivalled.rewritten {db : Database} {row next : TransactionRow} (unrivalled : Unrivalled settings world owned)
    (change : world.db.Rewritten row next db) (smaller : kept ≤ owned)
    (waits : row.id ∈ kept → next.transaction.status ≠ .pending)
    (issued : next.transaction.status = .pending → Issued settings row.bookingID next.transaction.providerRef) :
    Unrivalled settings {world with db := db} kept := by
  have fewer := unrivalled.mono smaller
  refine ⟨fewer.once,fun id member => ?_,fun id stored found pending => ?_⟩
  · rw [change.found]
    split
    · rename_i same
      exact ⟨next,rfl,waits (same ▸ member)⟩
    · exact fewer.waiting id member
  · change db.transactions.find? id = some stored at found
    rw [change.found] at found
    split at found
    · cases found
      have booking : next.bookingID = row.bookingID := Transaction.bookingID_fixed change.fixed
      rw [booking]
      exact issued pending
    · exact fewer.issued id stored found pending

theorem unrivalled_bystander {statement : Statement} (unrivalled : Unrivalled settings world owned)
    (justified : Justified call world statement) (bystander : statement.bystander = true) (plain : statement.plain) :
    Unrivalled settings (execute settings statement fault world).2 owned :=
  unrivalled.unmoved (execute_unmoved bystander plain) (execute_persists call statement fault world justified)

theorem unrivalled_active {id : ID} {status : TransactionStatus} {ref : String}
    (unrivalled : Unrivalled settings world owned) (final : status.active = false) :
    Unrivalled settings (execute settings (.transitionIfActive id status ref) fault world).2 owned := by
  rcases execute_transitionIfActive settings id status ref fault world with
    ⟨row,next,db,_,_,now,_,change,result⟩ | ⟨reply,_,_,result⟩
  · have settled : next.transaction.status ≠ .pending := by
      rw [now]
      rintro rfl
      cases final
    rw [result]
    exact unrivalled.rewritten change (le_refl _) (fun _ => settled) fun pending => absurd pending settled
  · rw [result]
    exact unrivalled

theorem unrivalled_initiated (fault : Fault) {id : ID} {ref : String} (unrivalled : Unrivalled settings world (id ::ₘ owned))
    (issued : ∀ row, world.db.transactions.find? id = some row → Issued settings row.bookingID ref) :
    Unrivalled settings (execute settings (.transitionIfInitiated id .pending ref) fault world).2 owned ∧
    ((execute settings (.transitionIfInitiated id .pending ref) fault world).1 = .ok 0 →
      ∃ row, (execute settings (.transitionIfInitiated id .pending ref) fault world).2.db.transactions.find? id =
        some row ∧ row.transaction.status.active = false) := by
  have smaller := Multiset.le_cons_self owned id
  rcases execute_transitionIfInitiated settings id .pending ref fault world with
    ⟨row,next,db,rfl,_,_,written,change,result⟩ | ⟨reply,_,moved,result⟩
  · rw [result]
    refine ⟨unrivalled.rewritten change smaller (fun member => ?_) fun _ => ?_,fun never => nomatch never⟩
    · exact absurd member (Multiset.nodup_cons.mp unrivalled.once).1
    · rw [written]
      exact issued row change.stored
  · rw [result]
    refine ⟨unrivalled.mono smaller,fun none => ?_⟩
    obtain ⟨row,stored,waits⟩ := unrivalled.waiting id (Multiset.mem_cons_self _ _)
    refine ⟨row,stored,?_⟩
    have started := moved none row stored
    cases status : row.transaction.status with
    | initiated => exact absurd status started
    | pending => exact absurd status waits
    | completed | expired => rfl

theorem unrivalled_session {id : ID} {ref link : String} (unrivalled : Unrivalled settings world owned)
    (issued : ∀ row, world.db.transactions.find? id = some row → Issued settings row.bookingID ref) :
    Unrivalled settings (execute settings (.updateSession id ref link) fault world).2 owned := by
  rcases execute_updateSession settings id ref link fault world with
    ⟨row,next,db,rfl,status,written,change,result⟩ | ⟨reply,result⟩
  · rw [result]
    refine unrivalled.rewritten change (le_refl _) (fun member => ?_) fun _ => ?_
    · obtain ⟨stored,found,waits⟩ := unrivalled.waiting _ member
      cases change.stored.symm.trans found
      exact status ▸ waits
    · rw [written]
      exact issued row change.stored
  · rw [result]
    exact unrivalled

end Statements

/-! The protocol: a call holds the transaction that it has read as initiated until it
has tried to store its session. -/

def Held (call : Call) (world : World) (own : Multiset ID) : Prop :=
  ∀ id ∈ own, ∃ row, world.db.transactions.find? id = some row ∧ call.pays = some row.bookingID

def Cancels (settings : Settings) (call : Call) (world : World) (statement : Statement) : Prop :=
  ∀ session bookingID userID, statement = .cancelSession session → call = .processPayment bookingID userID →
    Issued settings bookingID session ∧ ∃ row ∈ world.db.transactions.rows, row.bookingID = bookingID ∧
      row.transaction.status.active = false

def paying (settings : Settings) : Protocol Statement Reply World Fault Call (Multiset ID) where
  evolves before after := Persists before.world after.world
  evolves_refl := Persists.view_refl
  evolves_trans := Persists.view_trans
  invariant state owned := Unrivalled settings state.world owned
  permits _ call state frame statement _ := Justified call state.world statement ∧
    ∀ bookingID, call.pays = some bookingID → statement = .findByBookingID bookingID → ∀ id ∈ frame, ∀ row,
      state.world.db.transactions.find? id = some row → row.bookingID ≠ bookingID
  fits _ call state own statement := Held call state.world own ∧ Cancels settings call state.world statement

section Programs
variable {settings : Settings} {index : Nat} {call : Call} {α β : Type} {state : View} {own : Multiset ID}

theorem Held.later {before after : World} (held : Held call before own) (persists : Persists before after) :
    Held call after own := by
  intro id member
  obtain ⟨row,found,same⟩ := held id member
  obtain ⟨next,present,fixed,_⟩ := persists.transactions _ _ found
  have booking : next.bookingID = row.bookingID := Transaction.bookingID_fixed fixed
  exact ⟨next,present,booking ▸ same⟩

theorem Held.none {world : World} : Held call world 0 := fun _ member => absurd member (Multiset.notMem_zero _)

theorem Known.held {world : World} {txn : Transaction} {bookingID userID : ID} (known : Known world txn)
    (booking : txn.bookingID = bookingID) : Held (.processPayment bookingID userID) world {txn.id} := by
  intro id member
  cases Multiset.mem_singleton.mp member
  obtain ⟨row,found,fixed,_⟩ := known
  exact ⟨row,found,congrArg some (booking.symm.trans (Transaction.bookingID_fixed fixed).symm)⟩

abbrev Pays (settings : Settings) (index : Nat) (call : Call) (program : Task α) (state : View) (own : Multiset ID) : Prop :=
  Clears (service settings) (paying settings) index call program state own

theorem Pays.perform {statement : Statement} {next : Reply statement → Task α}
    (bystander : statement.bystander = true) (plain : statement.plain) (held : Held call state.world own)
    (cancels : ∀ later : View, Persists state.world later.world → Cancels settings call later.world statement)
    (continues : ∀ (later : View) fault, Persists state.world later.world →
      Persists later.world (execute settings statement fault later.world).2 →
      ∃ kept ≤ own, Pays settings index call (next (execute settings statement fault later.world).1)
        (later.after (service settings) index statement fault) kept) :
    Pays settings index call (.perform statement next) state own := by
  intro later evolved frame unrivalled
  refine ⟨⟨held.later evolved,cancels later evolved⟩,fun fault permitted => ?_⟩
  have step : Persists later.world (execute settings statement fault later.world).2 :=
    execute_persists call statement fault later.world permitted.1
  obtain ⟨kept,fewer,pays⟩ := continues later fault evolved step
  refine ⟨step,kept,?_,pays⟩
  have after : Unrivalled settings (execute settings statement fault later.world).2 (own + frame) :=
    unrivalled_bystander unrivalled permitted.1 bystander plain
  exact after.mono (add_le_add_left fewer frame)

theorem Pays.of_issues {program : Task α} (other : call.pays = Option.none)
    (issues : program.Issues fun statement => (statement.bystander = true ∧ statement.plain) ∨
      ∃ id status ref, statement = .transitionIfActive id status ref) :
    Pays settings index call program state 0 := by
  refine Holds.of_issues issues ?_ fun _ _ => rfl
  intro statement kind later frame unrivalled
  refine ⟨⟨.none,fun _ _ _ _ same => ?_⟩,fun fault permitted => ⟨?_,?_⟩⟩
  · rw [same] at other
    cases other
  · exact execute_persists call statement fault later.world permitted.1
  · rcases kind with ⟨bystander,plain⟩ | ⟨id,status,ref,rfl⟩
    · exact unrivalled_bystander unrivalled permitted.1 bystander plain
    · exact unrivalled_active unrivalled permitted.1

theorem Pays.findByBookingID {bookingID userID : ID} {next : Except DbError Transaction → Task α}
    (failed : ∀ error later, Pays settings index (.processPayment bookingID userID) (next (.error error)) later 0)
    (started : ∀ txn later, txn.status ≠ .initiated →
      Pays settings index (.processPayment bookingID userID) (next (.ok txn)) later 0)
    (found : ∀ txn (later : View), Known later.world txn → txn.bookingID = bookingID → txn.status = .initiated →
      ∃ kept, kept ≤ {txn.id} ∧ Pays settings index (.processPayment bookingID userID) (next (.ok txn)) later kept) :
    Pays settings index (.processPayment bookingID userID) (.perform (.findByBookingID bookingID) next) state 0 := by
  intro later _ frame unrivalled
  rw [zero_add] at unrivalled
  refine ⟨⟨.none,fun _ _ _ never => nomatch never⟩,fun fault permitted => ?_⟩
  have step : Persists later.world (execute settings (.findByBookingID bookingID) fault later.world).2 :=
    execute_persists _ _ fault later.world permitted.1
  have kept : Unrivalled settings (execute settings (.findByBookingID bookingID) fault later.world).2 frame :=
    unrivalled_bystander unrivalled permitted.1 rfl trivial
  refine ⟨step,?_⟩
  suffices continues : ∀ reply, (execute settings (.findByBookingID bookingID) fault later.world).1 = reply →
      ∃ kept, Unrivalled settings (execute settings (.findByBookingID bookingID) fault later.world).2 (kept + frame) ∧
        Pays settings index (.processPayment bookingID userID) (next reply)
          (later.after (service settings) index (.findByBookingID bookingID) fault) kept from continues _ rfl
  have nothing : Unrivalled settings (execute settings (.findByBookingID bookingID) fault later.world).2 (0 + frame) := by
    rw [zero_add]
    exact kept
  intro reply answered
  cases reply with
  | error error => exact ⟨0,nothing,failed error _⟩
  | ok txn =>
    have read : later.world.db.findByBookingID bookingID = .ok txn := query_ok answered
    obtain ⟨row,stored,rfl,booking⟩ := Database.findByBookingID_ok read
    by_cases initiated : row.transaction.status = .initiated
    · obtain ⟨own,fewer,pays⟩ := found _ (later.after (service settings) index (.findByBookingID bookingID) fault)
        ((Known.of_mem (Table.find?_mem stored)).later step) booking initiated
      refine ⟨own,Unrivalled.mono ?_ (add_le_add_left fewer frame),pays⟩
      have same : (execute settings (.findByBookingID bookingID) fault later.world).2.db = later.world.db :=
        (execute_reads fault later.world rfl).db
      rw [Multiset.singleton_add]
      -- a rival that holds the transaction is excluded by the guard
      refine ⟨Multiset.nodup_cons.mpr ⟨fun held => ?_,kept.once⟩,fun id member => ?_,kept.issued⟩
      · exact permitted.2 bookingID rfl rfl _ held row stored booking
      · rcases Multiset.mem_cons.mp member with rfl | old
        · refine ⟨row,?_,?_⟩
          · rw [same]
            exact stored
          · rw [initiated]
            exact nofun
        · exact kept.waiting id old
    · exact ⟨0,nothing,started _ _ initiated⟩

theorem Pays.store {id : ID} {ref : String} {rest : Except DbError Bool → Task α} (held : Held call state.world {id})
    (issued : ∀ later : World, Persists state.world later → ∀ row, later.db.transactions.find? id = some row →
      Issued settings row.bookingID ref)
    (failed : ∀ error later, Pays settings index call (rest (.error error)) later 0)
    (refused : ∀ later : View, Persists state.world later.world →
      (∃ row, later.world.db.transactions.find? id = some row ∧ row.transaction.status.active = false) →
      Pays settings index call (rest (.ok false)) later 0)
    (applied : ∀ later : View, Persists state.world later.world → Pays settings index call (rest (.ok true)) later 0) :
    Pays settings index call ((TransactionRepo.transitionIfInitiated id .pending ref).bind rest) state {id} := by
  intro later evolved frame unrivalled
  refine ⟨⟨held.later evolved,fun _ _ _ never => nomatch never⟩,fun fault permitted => ?_⟩
  have step : Persists later.world (execute settings (.transitionIfInitiated id .pending ref) fault later.world).2 :=
    execute_persists call _ fault later.world permitted.1
  have soFar := evolved.trans step
  have whole : Unrivalled settings later.world (id ::ₘ frame) := unrivalled
  obtain ⟨kept,settled⟩ := unrivalled_initiated fault whole (issued later.world evolved)
  refine ⟨step,0,by rw [zero_add]; exact kept,?_⟩
  suffices continues : ∀ reply, (execute settings (.transitionIfInitiated id .pending ref) fault later.world).1 = reply →
      Pays settings index call (rest (reply.map fun affected => 0 < affected))
        (later.after (service settings) index (.transitionIfInitiated id .pending ref) fault) 0 from continues _ rfl
  rintro (error | count) answered
  · exact failed error _
  · cases count with
    | zero => exact refused _ soFar (settled answered)
    | succ count => exact applied _ soFar

theorem Pays.updateSession {id : ID} {ref link : String} {next : Except DbError Unit → Task α}
    (issued : ∀ later : World, Persists state.world later → ∀ row, later.db.transactions.find? id = some row →
      Issued settings row.bookingID ref)
    (continues : ∀ reply later, Pays settings index call (next reply) later 0) :
    Pays settings index call (.perform (.updateSession id ref link) next) state 0 := by
  intro later evolved frame unrivalled
  refine ⟨⟨.none,fun _ _ _ never => nomatch never⟩,fun fault permitted => ⟨?_,0,?_,continues _ _⟩⟩
  · exact execute_persists call _ fault later.world permitted.1
  · exact unrivalled_session unrivalled (issued later.world evolved)

private theorem openSession_pays {bookingID userID : ID} {txn : Transaction} (expiresAt : Time)
    (known : Known state.world txn) (booking : txn.bookingID = bookingID) :
    Pays settings index (.processPayment bookingID userID)
      (PaymentService.openSession settings bookingID txn expiresAt) state {txn.id} := by
  have bookings {later : World} {row : TransactionRow} (persists : Persists state.world later)
      (found : later.db.transactions.find? txn.id = some row) : row.bookingID = bookingID := by
    obtain ⟨other,present,fixed,_⟩ := known.later persists
    cases found.symm.trans present
    exact (Transaction.bookingID_fixed fixed).trans booking
  refine Pays.perform rfl trivial (known.held booking) (fun _ _ _ _ _ never => nomatch never) fun first fault before step =>
    ⟨_,le_refl _,?_⟩
  generalize (execute settings .now fault first.world).1 = now
  have soFar := before.trans step
  refine Pays.perform rfl trivial ((known.later soFar).held booking) (fun _ _ _ _ _ never => nomatch never) fun second fault between opened => ?_
  have soFar := (soFar.trans between).trans opened
  cases reply : (execute settings (.createSession _) fault second.world).1 with
  | error error => exact ⟨0,Multiset.zero_le _,.done⟩
  | ok result =>
    refine ⟨_,le_refl _,?_⟩
    have issued {later : World} (persists : Persists state.world later) (row : TransactionRow)
        (found : later.db.transactions.find? txn.id = some row) : Issued settings row.bookingID result.providerRef := by
      rw [bookings persists found]
      exact ⟨_,_,rfl,congrArg SessionResult.providerRef (execute_createSession_ok reply)⟩
    refine Pays.store ((known.later soFar).held booking) (fun _ after row found => issued (soFar.trans after) row found) (fun _ _ => .done)
      (fun third after settled => ?_) fun third after => ?_
    · -- the session is given back: the transaction has been settled
      refine Pays.perform rfl trivial .none (fun last further => ?_) fun _ _ _ _ => ⟨0,le_refl _,.done⟩
      rintro _ _ _ ⟨⟩ ⟨⟩
      obtain ⟨row,found,final⟩ := settled
      obtain ⟨next,present,_,reaches⟩ := further.transactions _ _ found
      have same := bookings ((soFar.trans after).trans further) present
      refine ⟨same ▸ issued ((soFar.trans after).trans further) next present,next,Table.find?_mem present,same,?_⟩
      rw [reaches.settled final]
      exact final
    · refine Pays.updateSession (fun _ further row found => issued ((soFar.trans after).trans further) row found)
        fun reply last => ?_
      rcases reply with error | _ <;> exact .done

private theorem processPayment_pays (bookingID userID : ID) :
    Pays settings index (.processPayment bookingID userID)
      (PaymentService.processPayment settings bookingID userID) state 0 := by
  refine Pays.findByBookingID (fun error later => .done) (fun txn later started => ?_) fun txn later known booking initiated => ?_
  · simp only [Program.done_bind]
    rw [if_pos started]
    exact .done
  · simp only [Program.done_bind]
    rw [if_neg (not_not.mpr initiated)]
    split
    · exact ⟨0,Multiset.zero_le _,.done⟩
    refine ⟨_,le_refl _,.perform rfl trivial (known.held booking) (fun _ _ _ _ _ never => nomatch never)
      fun first fault before step => ?_⟩
    generalize (execute settings .now fault first.world).1 = now
    simp only [Program.done_bind]
    split
    · exact ⟨0,Multiset.zero_le _,.done⟩
    refine ⟨_,le_refl _,.perform rfl trivial ((known.later (before.trans step)).held booking) (fun _ _ _ _ _ never => nomatch never)
      fun second fault between further => ?_⟩
    generalize (execute settings .now fault second.world).1 = now
    simp only [Program.done_bind]
    split
    · exact ⟨0,Multiset.zero_le _,.done⟩
    split
    · exact ⟨0,Multiset.zero_le _,.done⟩
    · exact ⟨_,le_refl _,openSession_pays _ (known.later (((before.trans step).trans between).trans further)) booking⟩

theorem program_pays (call : Call) : Pays settings index call (program settings call) state 0 := by
  cases call with
  | processPayment bookingID userID =>
    refine Holds.bind (Holds.consequence (processPayment_pays bookingID userID) ?_)
    rintro value later _ rfl
    exact Clears.done
  | initiateTxnForBooking request =>
    refine Pays.of_issues rfl (Program.Issues.map _ ⟨.inl ⟨rfl,trivial⟩,fun id => ⟨.inl ⟨rfl,rfl,rfl⟩,fun created => ?_⟩⟩)
    rcases created with error | _
    · cases error with
      | uniqueViolation =>
        refine ⟨.inl ⟨rfl,trivial⟩,fun found => ?_⟩
        rcases found with error | existing <;> trivial
      | _ => trivial
    · trivial
  | handleSessionWebhook _ | processExpired _ | handleEventCancelled _ | processBatch | wait _ =>
    refine Pays.of_issues rfl ((program_issues settings _).mono fun statement inside => ?_)
    cases statement with
    | create _ | transitionIfInitiated _ _ _ | updateSession _ _ _ => exact False.elim inside
    | transitionIfActive id status ref => exact .inr ⟨id,status,ref,rfl⟩
    | _ => exact .inl ⟨rfl,trivial⟩

end Programs

section Runs
variable {settings : Settings} {config : Pool}

private theorem paying_obeyed (settings : Settings) :
    Obeys (service settings) (paying settings) (fun _ _ _ _ kept => kept = 0) (Serial Call.pays) (.idle .initial) where
  starts config call _ _ := program_pays call
  steps := by
    intro config index fault call statement next own others run permitted found _ fits
    refine ⟨justified_of_run .initial run found,?_⟩
    rintro bookingID pays rfl id member row stored booking
    obtain ⟨other,inside,held⟩ := mem_sum_tokens member
    obtain ⟨position,⟨caller,program⟩,distinct,present,fit⟩ := fits other inside
    match program,fit with
    | none,fit =>
      change other = 0 at fit
      exact Multiset.notMem_zero _ (fit ▸ held)
    | some (.done value),fit =>
      change other = 0 at fit
      exact Multiset.notMem_zero _ (fit ▸ held)
    | some (.perform op rest),fit =>
      obtain ⟨stored',found',rival⟩ := fit.1 id held
      cases stored.symm.trans found'
      exact Run.serial run present found distinct rfl rfl (rival.trans (congrArg some booking)) pays
  stops config index thread own frame _ _ _ _ unrivalled := unrivalled.mono (Multiset.le_add_left ..)

end Runs

/-- In every run in which the requests to pay for a booking do not overlap, with a gateway
that names the sessions of different bookings differently: a request that cancels its
session because it could not store it cancels none that a pending transaction stores. -/
theorem losing_request_cancels_unused (settings : Settings) (config : Pool) (index : Nat) (bookingID userID : ID)
    (session : String)
    (named : ∀ count other request rival, request.refID ≠ rival.refID →
      (settings.gateway count request).providerRef ≠ (settings.gateway other rival).providerRef)
    (run : Run (service settings) (Serial Call.pays) (.idle .initial) config)
    (called : config.calls[index]? = some (.processPayment bookingID userID))
    (cancels : config.headAt index = some (.cancelSession session)) :
    ∀ row ∈ config.state.world.db.transactions.rows, row.transaction.status = .pending →
      row.transaction.providerRef ≠ session := by
  have initially : PoolHolds (service settings) (paying settings) (fun _ _ _ _ kept => kept = 0) (.idle World.initial) :=
    PoolHolds.idle _ ⟨Multiset.nodup_zero,fun _ member => absurd member (Multiset.notMem_zero _),fun _ _ found => by cases found⟩
  have holds := initially.run (paying_obeyed settings) run
  obtain ⟨call,next,found⟩ := Config.headAt_thread cancels
  cases (Config.callAt_thread found).symm.trans called
  obtain ⟨own,frame,fits,unrivalled⟩ := holds.thread_fits index _ found
  obtain ⟨⟨count,request,same,isSession⟩,lost,stored,booking,settled⟩ := fits.2 session bookingID userID rfl rfl
  intro row member pending equal
  obtain ⟨other,rival,of,isRef⟩ := unrivalled.issued row.id row (Table.find?_of_mem member) pending
  by_cases ours : row.bookingID = bookingID
  · have only := List.inj_on_of_nodup_map config.state.world.db.bookings_unique member stored (ours.trans booking.symm)
    rw [← only,pending] at settled
    cases settled
  · refine named count other request rival (fun shared => ours ?_) (isSession.trans (equal.symm.trans isRef.symm))
    rw [← of,← shared,same]

/-- A gateway that gives each booking one session. -/
def perBooking : Settings :=
  ⟨fun _ request => ⟨String.ofList (.replicate request.refID 's'),"link",request.expiresAt⟩,"sandbox",0,[]⟩

theorem perBooking_named (count other : Nat) (request rival : SessionRequest) :
    (perBooking.gateway count request).providerRef = (perBooking.gateway other rival).providerRef ↔
      request.refID = rival.refID := by
  simp [perBooking,String.ofList_inj,List.replicate_inj]

/-- A request to pay loses to the expiry of its transaction, while another booking is pending. -/
theorem losing_request_cancels_unused_expired : ∃ config : Pool,
    Run (service perBooking) (Serial Call.pays) (.idle .initial) config ∧
    config.headAt 4 = some (.cancelSession "sssssss") ∧
    config.state.world.db.transactions.rows.map (fun row => row.transaction.status) = [.pending,.expired] ∧
    ∀ row ∈ config.state.world.db.transactions.rows, row.transaction.status = .pending →
      row.transaction.providerRef ≠ "sssssss" := by
  obtain ⟨config,run,outcome⟩ := exists_run_of_replay (service perBooking) (Serial Call.pays)
    (.start (.initiateTxnForBooking ⟨3,1,5,"e",100,10 * minute⟩) :: undisturbed 0 2 ++
      .start (.processPayment 3 5) :: undisturbed 1 7 ++
      .start (.initiateTxnForBooking ⟨7,1,5,"e",100,10 * minute⟩) :: undisturbed 2 2 ++
      .start (.handleSessionWebhook (some ⟨.expired,some 7,"",""⟩)) :: undisturbed 3 1 ++
      .start (.processPayment 7 5) :: undisturbed 4 5 ++ undisturbed 3 3 ++ undisturbed 4 1) (.idle .initial)
    (fun (config : Pool) => config.calls[4]? = some (.processPayment 7 5) &&
      config.headAt 4 = some (.cancelSession "sssssss") &&
      config.state.world.db.transactions.rows.map (fun row => row.transaction.status) = [.pending,.expired])
    (by decide +kernel)
  simp only [Bool.and_eq_true,decide_eq_true_eq] at outcome
  obtain ⟨⟨called,cancels⟩,statuses⟩ := outcome
  refine ⟨config,run,cancels,statuses,?_⟩
  exact losing_request_cancels_unused perBooking config 4 7 5 "sssssss"
    (fun count other request rival distinct same => distinct ((perBooking_named ..).mp same)) run called cancels

/-- Two requests to pay for one booking are given the same session; the one that comes
second cancels it, although the first has stored it. -/
theorem live_session_cancelled : ¬∀ (settings : Settings) (config : Pool) (index : Nat) (bookingID userID : ID)
    (session : String), (∀ count other request rival, request.refID = rival.refID →
      (settings.gateway count request).providerRef = (settings.gateway other rival).providerRef) →
    Run (service settings) Anything (.idle .initial) config →
    config.calls[index]? = some (.processPayment bookingID userID) →
    config.headAt index = some (.cancelSession session) →
    ∀ row ∈ config.state.world.db.transactions.rows, row.transaction.status = .pending →
      row.transaction.providerRef ≠ session := by
  intro safe
  obtain ⟨config,run,outcome⟩ := exists_run_of_replay (service perBooking) Anything
    (.start (.initiateTxnForBooking ⟨7,1,5,"e",100,10 * minute⟩) :: undisturbed 0 2 ++
      .start (.processPayment 7 5) :: .start (.processPayment 7 5) :: undisturbed 1 5 ++ undisturbed 2 5 ++
      undisturbed 1 2 ++ undisturbed 2 1) (.idle .initial)
    (fun (config : Pool) => config.calls[2]? = some (.processPayment 7 5) &&
      config.headAt 2 = some (.cancelSession "sssssss") &&
      config.state.world.db.transactions.rows.any fun row => row.transaction.status = .pending &&
        row.transaction.providerRef = "sssssss") (by decide +kernel)
  simp only [Bool.and_eq_true,decide_eq_true_eq,List.any_eq_true] at outcome
  obtain ⟨⟨called,cancels⟩,row,member,pending,same⟩ := outcome
  exact safe perBooking config 2 7 5 "sssssss" (fun _ _ _ _ shared => (perBooking_named ..).mpr shared) run called
    cancels row member pending same

end Ticketbus.Payment
