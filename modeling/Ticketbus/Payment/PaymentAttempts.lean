import Ticketbus.Concurrency.Conversation
import Ticketbus.Payment.Settlement

/-! One request to pay, from the clock that its session's expiry is measured by to the link
that the customer is given. -/
namespace Ticketbus.Payment
open Ticketbus.Concurrency Ticketbus.Relational

/-- How far `openSession` has come: what it has been told, and its next statement. -/
inductive Attempt (request : Time → SessionRequest) (id : ID) : List (Exchange Statement Reply) → Option Statement → Prop
  | reading : Attempt request id [] (some .now)
  | asking (now : Time) : Attempt request id [⟨.now,now⟩] (some (.createSession (request now)))
  | unavailable (now : Time) (error : DbError) :
      Attempt request id [⟨.now,now⟩,⟨.createSession (request now),.error error⟩] none
  | storing (now : Time) (result : SessionResult) :
      Attempt request id [⟨.now,now⟩,⟨.createSession (request now),.ok result⟩]
        (some (.transitionIfInitiated id .pending result.providerRef))
  | unstored (now : Time) (result : SessionResult) (error : DbError) :
      Attempt request id [⟨.now,now⟩,⟨.createSession (request now),.ok result⟩,
        ⟨.transitionIfInitiated id .pending result.providerRef,.error error⟩] none
  | losing (now : Time) (result : SessionResult) :
      Attempt request id [⟨.now,now⟩,⟨.createSession (request now),.ok result⟩,
        ⟨.transitionIfInitiated id .pending result.providerRef,.ok 0⟩] (some (.cancelSession result.providerRef))
  | lost (now : Time) (result : SessionResult) (cancelled : Except DbError Unit) :
      Attempt request id [⟨.now,now⟩,⟨.createSession (request now),.ok result⟩,
        ⟨.transitionIfInitiated id .pending result.providerRef,.ok 0⟩,
        ⟨.cancelSession result.providerRef,cancelled⟩] none
  | linking (now : Time) (result : SessionResult) (affected : Nat) :
      Attempt request id [⟨.now,now⟩,⟨.createSession (request now),.ok result⟩,
        ⟨.transitionIfInitiated id .pending result.providerRef,.ok (affected + 1)⟩]
        (some (.updateSession id result.providerRef result.paymentLinkURL))
  | linked (now : Time) (result : SessionResult) (affected : Nat) (updated : Except DbError Unit) :
      Attempt request id [⟨.now,now⟩,⟨.createSession (request now),.ok result⟩,
        ⟨.transitionIfInitiated id .pending result.providerRef,.ok (affected + 1)⟩,
        ⟨.updateSession id result.providerRef result.paymentLinkURL,updated⟩] none

section Stages
variable {settings : Settings} {bookingID userID : ID}

def sessionRequest (settings : Settings) (bookingID : ID) (txn : Transaction) (expiresAt now : Time) : SessionRequest :=
  ⟨bookingID,txn.amountRupiah,txn.currency,PaymentService.gatewayExpiresAt settings expiresAt now,
    settings.allowedChannels,txn.customerEmail⟩

theorem openSession_attempt (txn : Transaction) (expiresAt : Time) :
    (PaymentService.openSession settings bookingID txn expiresAt).Always fun exchanges left =>
      Attempt (sessionRequest settings bookingID txn expiresAt) txn.id exchanges left.head := by
  refine ⟨.reading,fun now => ⟨.asking now,fun created => ?_⟩⟩
  rcases created with error | result
  · exact .unavailable now error
  refine ⟨.storing now result,fun stored => ?_⟩
  rcases stored with error | affected
  · exact .unstored now result error
  cases affected with
  | zero => exact ⟨.losing now result,fun cancelled => .lost now result cancelled⟩
  | succ affected =>
    refine ⟨.linking now result affected,fun updated => ?_⟩
    cases updated with
    | error error => exact .linked now result affected (.error error)
    | ok _ => exact .linked now result affected (.ok ())

def Statement.checks : Statement → Bool
  | .findByBookingID _ | .now => true
  | _ => false

inductive Stage (settings : Settings) (bookingID userID : ID) : List (Exchange Statement Reply) → Option Statement → Prop
  | checking {exchanges : List (Exchange Statement Reply)} {next : Option Statement}
      (before : ∀ exchange ∈ exchanges, exchange.1.checks = true) (after : ∀ statement ∈ next, statement.checks = true) :
      Stage settings bookingID userID exchanges next
  | opening {txn : Transaction} {expiresAt first second : Time} {exchanges : List (Exchange Statement Reply)}
      {next : Option Statement} (initiated : txn.status = .initiated) (owner : txn.userID = userID)
      (deadline : txn.expiresAt = some expiresAt) (ahead : first < expiresAt) (time : minute ≤ expiresAt - second)
      (attempt : Attempt (sessionRequest settings bookingID txn expiresAt) txn.id exchanges next) :
      Stage settings bookingID userID
        (⟨.findByBookingID bookingID,.ok txn⟩ :: ⟨.now,first⟩ :: ⟨.now,second⟩ :: exchanges) next

theorem processPayment_stage : (PaymentService.processPayment settings bookingID userID).Always fun exchanges left =>
    Stage settings bookingID userID exchanges left.head := by
  refine ⟨.checking (by simp) (by simp [Statement.checks]),fun found => ?_⟩
  rcases found with error | txn
  · exact .checking (by simp [Statement.checks]) (by simp)
  simp only [Program.done_bind]
  split
  · exact .checking (by simp [Statement.checks]) (by simp)
  rename_i started
  split
  · exact .checking (by simp [Statement.checks]) (by simp)
  rename_i expiresAt deadline
  refine ⟨.checking (by simp [Statement.checks]) (by simp [Statement.checks]),fun first => ?_⟩
  simp only [Program.done_bind]
  split
  · exact .checking (by simp [Statement.checks]) (by simp)
  rename_i ahead
  refine ⟨.checking (by simp [Statement.checks]) (by simp [Statement.checks]),fun second => ?_⟩
  simp only [Program.done_bind]
  split
  · exact .checking (by simp [Statement.checks]) (by simp)
  rename_i time
  split
  · exact .checking (by simp [Statement.checks]) (by simp)
  rename_i owner
  apply (openSession_attempt txn expiresAt).mono
  intro exchanges left attempt
  exact .opening (not_not.mp started) (not_not.mp owner) deadline (not_le.mp ahead) (not_lt.mp time) attempt

theorem stage_of_run {guard : Pool → Step → Prop} {world : World} {config : Pool}
    (run : Run (service settings) guard (.idle world) config) {index : Nat} {thread : Thread Statement Reply Call Result}
    (found : config.threads[index]? = some thread) (isCall : thread.call = .processPayment bookingID userID) :
    ∃ next, Stage settings bookingID userID (config.state.exchanges index) next ∧
      ∀ program ∈ thread.program, program.head = next := by
  have programs : (program settings thread.call).Always fun exchanges left =>
      Stage settings bookingID userID exchanges left.head := by
    rw [isCall]
    apply Program.Always.map
    simp only [Program.head_map]
    exact processPayment_stage
  obtain ⟨left,stage,isLeft⟩ := (Talked.of_run run).always found programs
  exact ⟨left.head,stage,fun program held => by rw [isLeft program held]⟩

theorem Attempt.asked {request : Time → SessionRequest} {id : ID} {exchanges : List (Exchange Statement Reply)}
    {next : Option Statement} (attempt : Attempt request id exchanges next) :
    (∀ asked reply, ⟨.createSession asked,reply⟩ ∉ exchanges) ∨
    ∃ now reply rest, exchanges = ⟨.now,now⟩ :: ⟨.createSession (request now),reply⟩ :: rest ∧
      ∀ asked reply, ⟨.createSession asked,reply⟩ ∉ rest := by
  cases attempt with
  | reading => exact .inl (by simp)
  | asking now => exact .inl (by simp)
  | unavailable now error => exact .inr ⟨now,_,_,rfl,by simp⟩
  | storing now result => exact .inr ⟨now,_,_,rfl,by simp⟩
  | unstored now result error => exact .inr ⟨now,_,_,rfl,by simp⟩
  | losing now result => exact .inr ⟨now,_,_,rfl,by simp⟩
  | lost now result cancelled => exact .inr ⟨now,_,_,rfl,by simp⟩
  | linking now result affected => exact .inr ⟨now,_,_,rfl,by simp⟩
  | linked now result affected updated => exact .inr ⟨now,_,_,rfl,by simp⟩

theorem Stage.request {exchanges before after : List (Exchange Statement Reply)} {next : Option Statement}
    {request : SessionRequest} {reply : Except DbError SessionResult}
    (stage : Stage settings bookingID userID exchanges next)
    (split : exchanges = before ++ ⟨.createSession request,reply⟩ :: after) :
    ∃ txn expiresAt first second now, before = [⟨.findByBookingID bookingID,.ok txn⟩,⟨.now,first⟩,⟨.now,second⟩,⟨.now,now⟩] ∧
      txn.status = .initiated ∧ txn.userID = userID ∧ txn.expiresAt = some expiresAt ∧ minute ≤ expiresAt - second ∧
      request = sessionRequest settings bookingID txn expiresAt now := by
  have made : ⟨.createSession request,reply⟩ ∈ exchanges := by simp [split]
  cases stage with
  | checking reads _ => cases reads _ made
  | @opening txn expiresAt first second exchanges next initiated owner deadline ahead time attempt =>
    rcases attempt.asked with never | ⟨now,answer,rest,rfl,once⟩
    · simp [never] at made
    · have front : ([⟨.findByBookingID bookingID,.ok txn⟩,⟨.now,first⟩,⟨.now,second⟩,⟨.now,now⟩] :
          List (Exchange Statement Reply)) ++
          ⟨.createSession (sessionRequest settings bookingID txn expiresAt now),answer⟩ :: rest =
          before ++ ⟨.createSession request,reply⟩ :: after := split
      obtain ⟨same,asked,_⟩ := (List.append_cons_inj_of_notMem (by simp) (once request reply)).mp front
      cases asked
      exact ⟨txn,expiresAt,first,second,now,same.symm,initiated,owner,deadline,time,rfl⟩

theorem Stage.link {exchanges : List (Exchange Statement Reply)} {id : ID} {ref link : String}
    (stage : Stage settings bookingID userID exchanges (some (.updateSession id ref link))) :
    ∃ txn request result, ⟨.findByBookingID bookingID,.ok txn⟩ ∈ exchanges ∧ txn.id = id ∧
      request.refID = bookingID ∧ ⟨.createSession request,.ok result⟩ ∈ exchanges ∧ ref = result.providerRef ∧
      link = result.paymentLinkURL := by
  cases stage with
  | checking _ reads => cases reads _ rfl
  | opening _ _ _ _ _ attempt =>
    cases attempt with
    | linking now result affected =>
      exact ⟨_,_,result,.head _,rfl,rfl,.tail _ (.tail _ (.tail _ (.tail _ (.head _)))),rfl,rfl⟩

theorem Stage.stored {exchanges : List (Exchange Statement Reply)} {next : Option Statement} {id : ID}
    {status : TransactionStatus} {ref : String}
    (stage : Stage settings bookingID userID (exchanges ++ [⟨.transitionIfInitiated id status ref,.ok 1⟩]) next) :
    ∃ ref link, next = some (.updateSession id ref link) := by
  generalize whole : exchanges ++ [⟨.transitionIfInitiated id status ref,.ok 1⟩] = said at stage
  have last : said.getLast? = some ⟨.transitionIfInitiated id status ref,.ok 1⟩ := by
    rw [← whole,List.getLast?_concat]
  cases stage with
  | checking reads _ => cases reads _ (List.mem_of_getLast? last)
  | opening _ _ _ _ _ attempt =>
    cases attempt with
    | linking now result affected =>
      cases last
      exact ⟨_,_,rfl⟩
    | _ => cases last

end Stages

theorem gatewayExpiresAt_eq {settings : Settings} (buffered : 0 ≤ settings.gatewayExpiryBufferMin)
    (int : Int8 settings.gatewayExpiryBufferMin) (expiresAt now : Time) :
    PaymentService.gatewayExpiresAt settings expiresAt now =
      max (expiresAt + goInt (-(settings.gatewayExpiryBufferMin * minute))) (now + 10 * minute) := by
  have negated : goInt (-settings.gatewayExpiryBufferMin) = -settings.gatewayExpiryBufferMin := by
    apply goInt_eq
    unfold Relational.Int8 at int ⊢
    omega
  simp only [PaymentService.gatewayExpiresAt]
  rw [negated,Int.neg_mul]
  split
  · rename_i short
    exact (max_eq_right (le_of_lt short)).symm
  · rename_i enough
    exact (max_eq_left (not_lt.mp enough)).symm

/-- The expiry asked of the gateway is at least ten minutes ahead of the clock that it is measured by. It keeps its
distance to the deadline exactly when the buffer and these ten minutes are still left of the hold, and the buffer
can be counted in nanoseconds; then the session is over before a poll finds the transaction overdue. -/
theorem session_ends_before_hold (settings : Settings) (buffered : 0 ≤ settings.gatewayExpiryBufferMin)
    (int : Int8 settings.gatewayExpiryBufferMin) (world : World) (config : Pool)
    (run : Run (service settings) Anything (.idle world) config) (index : Nat) (bookingID userID : ID)
    (isCall : config.calls[index]? = some (.processPayment bookingID userID))
    (before after : List (Exchange Statement Reply)) (request : SessionRequest) (reply : Except DbError SessionResult)
    (asked : config.state.exchanges index = before ++ ⟨.createSession request,reply⟩ :: after) :
    ∃ txn expiresAt first second now, before = [⟨.findByBookingID bookingID,.ok txn⟩,⟨.now,first⟩,⟨.now,second⟩,⟨.now,now⟩] ∧
      txn.expiresAt = some expiresAt ∧ now + 10 * minute ≤ request.expiresAt ∧
      (request.expiresAt ≤ expiresAt - settings.gatewayExpiryBufferMin * minute ↔
        now + 10 * minute ≤ expiresAt - settings.gatewayExpiryBufferMin * minute ∧
        settings.gatewayExpiryBufferMin * minute ≤ 9223372036854775808) ∧
      (request.expiresAt ≤ expiresAt - settings.gatewayExpiryBufferMin * minute →
        ∀ polled, Database.overdue polled txn = true → request.expiresAt ≤ polled) := by
  obtain ⟨program,found⟩ := Config.thread_of_callAt isCall
  obtain ⟨next,stage,_⟩ := stage_of_run run found rfl
  obtain ⟨txn,expiresAt,first,second,now,same,_,_,deadline,_,rfl⟩ := stage.request asked
  have positive : 0 ≤ settings.gatewayExpiryBufferMin * minute := Int.mul_nonneg buffered (by decide)
  have expiry : (sessionRequest settings bookingID txn expiresAt now).expiresAt =
      max (expiresAt + goInt (-(settings.gatewayExpiryBufferMin * minute))) (now + 10 * minute) :=
    gatewayExpiresAt_eq buffered int expiresAt now
  have keeps : expiresAt + goInt (-(settings.gatewayExpiryBufferMin * minute)) ≤
      expiresAt - settings.gatewayExpiryBufferMin * minute ↔ settings.gatewayExpiryBufferMin * minute ≤ 9223372036854775808 := by
    rw [Int.sub_eq_add_neg,Int.add_le_add_iff_left]
    exact goInt_neg_le_iff positive
  refine ⟨txn,expiresAt,first,second,now,same,deadline,?_,?_,fun within polled overdue => ?_⟩
  · rw [expiry]
    exact le_max_right _ _
  · rw [expiry,max_le_iff,keeps,and_comm]
  · have passed : expiresAt ≤ polled := by simpa [deadline] using (Bool.and_eq_true_iff.mp overdue).2
    exact within.trans ((Int.sub_le_self expiresAt positive).trans passed)

def toldTimes (now deadline : Time) : Exchange Statement Reply → Bool
  | ⟨.now,reply⟩ => reply = now
  | ⟨.findByBookingID _,.ok txn⟩ => txn.expiresAt = some deadline
  | _ => true

/-- A booking's hold of ten minutes, asked for at its beginning: the session ends with it. -/
theorem session_ends_before_hold_payable : ∃ config : Pool, Run (service sandbox) Anything (.idle .initial) config ∧
    ∃ before request reply after, config.state.exchanges 1 = before ++ ⟨.createSession request,reply⟩ :: after ∧
      request.expiresAt = 10 * minute ∧ ∃ txn expiresAt first second now, before =
        [⟨.findByBookingID 7,.ok txn⟩,⟨.now,first⟩,⟨.now,second⟩,⟨.now,now⟩] ∧ txn.expiresAt = some expiresAt ∧
        now + 10 * minute ≤ request.expiresAt ∧ request.expiresAt ≤ expiresAt ∧
        ∀ polled, Database.overdue polled txn = true → request.expiresAt ≤ polled := by
  obtain ⟨config,run,outcome⟩ := exists_run_of_replay (service sandbox) Anything payable (.idle .initial)
    (fun config => config.calls[1]? = some (.processPayment 7 5) &&
      (config.state.exchanges 1).all (toldTimes 0 (10 * minute)) &&
      (config.state.exchanges 1).map Sigma.fst = [.findByBookingID 7,.now,.now,.now,
        .createSession ⟨7,100,"IDR",10 * minute,[],"e"⟩,.transitionIfInitiated 0 .pending "ps",
        .updateSession 0 "ps" "link"]) (by decide +kernel)
  simp only [Bool.and_eq_true,decide_eq_true_eq,List.all_eq_true] at outcome
  obtain ⟨⟨isCall,told⟩,statements⟩ := outcome
  have asked : .createSession ⟨7,100,"IDR",10 * minute,[],"e"⟩ ∈ (config.state.exchanges 1).map Sigma.fst := by
    rw [statements]
    simp
  obtain ⟨⟨_,reply⟩,member,rfl⟩ := List.mem_map.mp asked
  obtain ⟨before,after,split⟩ := List.append_of_mem member
  obtain ⟨txn,expiresAt,first,second,now,same,deadline,least,keeps,ends⟩ := session_ends_before_hold sandbox (by decide)
    (by decide) .initial config run 1 7 5 isCall before after _ reply split
  have isNow : now = 0 := of_decide_eq_true (told ⟨.now,now⟩ (by simp [split,same]))
  have isDeadline : txn.expiresAt = some (10 * minute) :=
    of_decide_eq_true (told ⟨.findByBookingID 7,.ok txn⟩ (by simp [split,same]))
  cases deadline.symm.trans isDeadline
  have within := keeps.mpr ⟨by rw [isNow]; decide,by decide⟩
  exact ⟨config,run,before,_,reply,after,split,rfl,txn,_,first,second,now,same,deadline,least,within,ends within⟩

/-- `ProcessPayment` with no other call running. -/
def payAlone (settings : Settings) (bookingID userID : ID) (faults : Nat → Fault) (world : World) :
    Outcome Statement Reply World (Except Error (Transaction × SessionResult)) :=
  (PaymentService.processPayment settings bookingID userID).run (execute settings) faults world

/-- A transaction that has been created, at a later time. -/
def createdBefore (settings : Settings) (request : InternalCreateRequest) (clock : Time) : World :=
  {((PaymentService.initiateTxnForBooking settings request).run (execute settings) (fun _ => .none) .initial).world with
    clock := clock}

/-- With five minutes left, a session is opened for ten: it outlives the hold, and the buffer of five
minutes in front of it. -/
theorem session_outlives_hold :
    (payAlone {sandbox with gatewayExpiryBufferMin := 5} 7 5 (fun _ => .none)
      (createdBefore sandbox ⟨7,1,5,"e",100,15 * minute⟩ (10 * minute))).ops =
      [.findByBookingID 7,.now,.now,.now,.createSession ⟨7,100,"IDR",20 * minute,[],"e"⟩,
        .transitionIfInitiated 0 .pending "ps",.updateSession 0 "ps" "link"] ∧
    ((createdBefore sandbox ⟨7,1,5,"e",100,15 * minute⟩ (10 * minute)).db.transactions.rows.map
      fun row => row.transaction.expiresAt) = [some (15 * minute)] ∧ ¬20 * minute ≤ 15 * minute - 5 * minute := by
  decide +kernel

/-! What a failed request leaves. -/

/-- The booking's transaction is `txn`, which the user may still pay. -/
structure Payable (world : World) (bookingID userID : ID) (txn : Transaction) (expiresAt : Time) : Prop where
  found : world.db.findByBookingID bookingID = .ok txn
  initiated : txn.status = .initiated
  owner : txn.userID = userID
  deadline : txn.expiresAt = some expiresAt
  time : minute ≤ expiresAt - world.clock

section Alone
variable {settings : Settings} {bookingID userID : ID} {world : World} {txn : Transaction} {expiresAt : Time}
variable {faults : Nat → Fault}

theorem transitionIfInitiated_applied {later : World} {id : ID} {status : TransactionStatus} {ref : String}
    {reply : Except DbError Nat} {row : TransactionRow}
    (executed : execute settings (.transitionIfInitiated id status ref) .none world = (reply,later))
    (found : world.db.transactions.find? id = some row) (initiated : row.transaction.status = .initiated) :
    reply = .ok 1 ∧ ∃ next, later.db.transactions.find? id = some next ∧ next.transaction.status = status := by
  rcases execute_transitionIfInitiated settings id status ref .none world with
    ⟨old,next,db,rfl,_,moved,_,rewritten,result⟩ | ⟨_,refused,unmoved,result⟩
  · cases executed.symm.trans result
    exact ⟨rfl,next,by rw [rewritten.found,if_pos rfl],moved⟩
  · rcases refused with rfl | ⟨error,rfl⟩
    · exact absurd initiated (unmoved rfl row found)
    · -- an UPDATE that is executed breaks no constraint
      obtain ⟨pair,ok⟩ := world.db.transition_total (fun stored => stored = .initiated) id status ref
      simp [execute,write,World.put,commit,Database.transitionIfInitiated,ok,Except.map] at result

theorem updateSession_replied {later : World} {id : ID} {ref link : String} {reply : Except DbError Unit}
    (executed : execute settings (.updateSession id ref link) .none world = (reply,later)) : reply = .ok () := by
  simp only [execute,write,World.put,Database.updateSession] at executed
  split at executed
  · cases executed
    rfl
  · cases executed
    rfl

inductive PayEnds (faults : Nat → Fault) (id : ID) (world : World) (value : Except Error (Transaction × SessionResult))
    (later : World) : Prop
  | unread (failed : faults 0 ≠ .none) (same : later = world)
  | unreached (failed : faults 4 = .fail) (same : later = world)
  | unanswered (read : faults 0 = .none) (count : Nat) (failed : faults 4 = .broken count)
      (reported : value = .error .gatewayUnavailable) (ref : String) (left : later.sessions = ref :: world.sessions)
  | unstored (read : faults 0 = .none) (answered : faults 4 = .none) (failed : faults 5 ≠ .none) (error : Error)
      (reported : value = .error error) (ref : String) (left : later.sessions = ref :: world.sessions)
  | unlinked (read : faults 0 = .none) (answered : faults 4 = .none) (failed : faults 6 ≠ .none) (error : Error)
      (reported : value = .error error) (row : TransactionRow) (stored : later.db.transactions.find? id = some row)
      (pending : row.transaction.status = .pending)
  | opened (answered : faults 4 = .none) (stored : faults 5 = .none) (linked : faults 6 = .none)
      (pair : Transaction × SessionResult) (reported : value = .ok pair)

theorem openSession_ends (payable : Payable world bookingID userID txn expiresAt) (read : faults 0 = .none)
    (opening : Nat → Fault) (shifted : opening = fun position => faults (position + 3)) :
    PayEnds faults txn.id world
      ((PaymentService.openSession settings bookingID txn expiresAt).run (execute settings) opening world).value
      ((PaymentService.openSession settings bookingID txn expiresAt).run (execute settings) opening world).world := by
  subst shifted
  obtain ⟨row,found,rfl,_⟩ := Database.findByBookingID_ok payable.found
  apply Program.run_ends (PayEnds faults row.transaction.id world)
  rintro _ _ ⟨⟩
  apply Program.run_ends (PayEnds faults row.transaction.id world)
  intro reply later executed
  cases asking : faults 4 with
  | fail =>
    rw [asking] at executed
    cases executed
    exact .unreached asking rfl
  | broken count =>
    rw [asking] at executed
    cases executed
    exact .unanswered read count asking rfl _ rfl
  | none =>
    rw [asking] at executed
    cases executed
    apply Program.run_ends (PayEnds faults row.transaction.id world)
    intro reply later executed
    by_cases storing : faults 5 = .none
    · rw [storing] at executed
      obtain ⟨rfl,next,stored,pending⟩ := transitionIfInitiated_applied executed found payable.initiated
      apply Program.run_ends (PayEnds faults row.transaction.id world)
      intro reply later executed
      by_cases linking : faults 6 = .none
      · rw [linking] at executed
        cases updateSession_replied executed
        exact .opened asking storing linking _ rfl
      · cases executed.symm.trans (commit_fails linking _ _)
        exact .unlinked read asking linking _ rfl next stored pending
    · cases executed.symm.trans (commit_fails storing _ _)
      exact .unstored read asking storing _ rfl _ rfl

theorem payAlone_ends (settings : Settings) (payable : Payable world bookingID userID txn expiresAt)
    (faults : Nat → Fault) : PayEnds faults txn.id world (payAlone settings bookingID userID faults world).value
      (payAlone settings bookingID userID faults world).world := by
  apply Program.run_ends (PayEnds faults txn.id world)
  intro reply later executed
  by_cases read : faults 0 = .none
  · have ahead : ¬expiresAt ≤ world.clock :=
      not_le.mpr (Int.lt_of_sub_pos (lt_of_lt_of_le (by decide) payable.time))
    rw [read] at executed
    cases executed
    simp only [payable.found,Program.done_bind,payable.initiated,payable.deadline,payable.owner,ne_eq,
      not_true_eq_false,if_false]
    apply Program.run_ends (PayEnds faults txn.id world)
    rintro _ _ ⟨⟩
    rw [Program.done_bind,if_neg ahead]
    apply Program.run_ends (PayEnds faults txn.id world)
    rintro _ _ ⟨⟩
    rw [Program.done_bind,if_neg (not_lt.mpr payable.time)]
    exact openSession_ends payable read _ rfl
  · cases executed.symm.trans (query_fails read _ _)
    exact .unread read rfl

end Alone

/-! The link of a pending transaction. A request that has stored its session is about to store its link,
and is the only one that is. -/

section Links
variable {settings : Settings} {fault : Fault} {world : World} {id : ID} {next : TransactionRow}

inductive Origin (world : World) (id : ID) (next : TransactionRow) : Statement → Prop
  | kept {statement : Statement} {row : TransactionRow} (found : world.db.transactions.find? id = some row)
      (status : next.transaction.status = row.transaction.status)
      (ref : next.transaction.providerRef = row.transaction.providerRef)
      (link : next.transaction.paymentLinkURL = row.transaction.paymentLinkURL) : Origin world id next statement
  | create {txn : Transaction} (status : next.transaction.status = txn.status) : Origin world id next (.create txn)
  | settle {status : TransactionStatus} {ref : String} (settled : next.transaction.status = status) :
      Origin world id next (.transitionIfActive id status ref)
  | store {status : TransactionStatus} {ref : String} {row : TransactionRow}
      (found : world.db.transactions.find? id = some row) (initiated : row.transaction.status = .initiated) :
      Origin world id next (.transitionIfInitiated id status ref)
  | link {ref link : String} (stored : next.transaction.providerRef = ref)
      (linked : next.transaction.paymentLinkURL = link) : Origin world id next (.updateSession id ref link)

private theorem Origin.same {statement : Statement} (found : world.db.transactions.find? id = some next) :
    Origin world id next statement := .kept found rfl rfl rfl

private theorem Origin.written {statement : Statement} {row : TransactionRow} {status : TransactionStatus}
    {ref link : String} {refund : RefundStatus} (member : row ∈ world.db.transactions.rows)
    (found : (world.db.setTransaction row member status ref link refund).transactions.find? id = some next)
    (here : row.id = id → next = row.write status ref link refund → Origin world row.id next statement) :
    Origin world id next statement := by
  rw [(Database.setTransaction_rewritten world.db row member status ref link refund).found] at found
  split at found
  · rename_i same
    exact same ▸ here same (Option.some.inj found).symm
  · exact .same found

private theorem Origin.of_write {α : Type} {statement : Statement} {outcome : Except DbError (α × Database)}
    (found : (write World.put fault world outcome).2.db.transactions.find? id = some next)
    (here : ∀ value db, outcome = .ok (value,db) → db.transactions.find? id = some next →
      Origin world id next statement) : Origin world id next statement := by
  revert found
  exact write_keeps (fun after : World => after.db.transactions.find? id = some next → _) .same here

private theorem Origin.transition {statement : Statement} {condition : TransactionStatus → Bool} {position : ID}
    {status : TransactionStatus} {ref : String} {count : Nat} {db : Database}
    (ok : world.db.transition condition position status ref = .ok (count,db))
    (found : db.transactions.find? id = some next)
    (here : ∀ row, position = id → world.db.transactions.find? id = some row → condition row.transaction.status = true →
      next.transaction.status = status → Origin world id next statement) : Origin world id next statement := by
  unfold Database.transition at ok
  split at ok
  · cases ok
    exact .same found
  · rename_i row present
    split at ok
    · rename_i holds
      cases ok
      apply Origin.written (Table.find?_mem present) found
      rintro rfl rfl
      exact here row (Table.find?_key present).symm (Table.find?_of_mem (Table.find?_mem present)) holds rfl
    · cases ok
      exact .same found

theorem execute_session {statement : Statement}
    (found : (execute settings statement fault world).2.db.transactions.find? id = some next) :
    Origin world id next statement := by
  cases statement with
  | create txn =>
    apply Origin.of_write found
    intro value db ok found
    obtain ⟨row,fresh,unbooked,stored,rfl⟩ := Database.create_ok ok
    have either := (Table.find?_insert world.db.transactions row id fresh).symm.trans found
    split at either
    · cases either
      exact .create (by rw [stored])
    · exact .same either
  | transitionIfActive position status ref =>
    apply Origin.of_write found
    intro value db ok found
    apply Origin.transition ok found
    rintro row rfl _ _ settled
    exact .settle settled
  | transitionIfInitiated position status ref =>
    apply Origin.of_write found
    intro value db ok found
    apply Origin.transition ok found
    rintro row rfl present initiated _
    exact .store present (of_decide_eq_true initiated)
  | updateSession position ref link =>
    apply Origin.of_write found
    intro value db ok found
    unfold Database.updateSession at ok
    split at ok
    · cases ok
      exact .same found
    · rename_i row present
      cases ok
      apply Origin.written (Table.find?_mem present) found
      rintro _ rfl
      rw [← Table.find?_key present]
      exact .link rfl rfl
  | updateRefundStatus position refund =>
    apply Origin.of_write found
    intro value db ok found
    unfold Database.updateRefundStatus at ok
    split at ok
    · cases ok
      exact .same found
    · rename_i row present
      cases ok
      apply Origin.written (Table.find?_mem present) found
      rintro _ rfl
      exact .kept (Table.find?_of_mem (Table.find?_mem present)) rfl rfl rfl
  | createRefund refund =>
    apply Origin.of_write found
    intro value db ok found
    rcases Database.createRefund_ok ok with ⟨rfl,_⟩ | ⟨_,_,_,_,_,rfl⟩
    · exact .same found
    · exact .same found
  | outbox inner => exact .same found
  | _ =>
    rw [(execute_reads fault world rfl).db] at found
    exact .same found

theorem updateSession_executed {position : ID} {ref link : String}
    (found : (execute settings (.updateSession position ref link) .none world).2.db.transactions.find? id = some next) :
    (position = id ∧ next.transaction.providerRef = ref ∧ next.transaction.paymentLinkURL = link) ∨
    (position ≠ id ∧ world.db.transactions.find? id = some next) := by
  simp only [execute,write,World.put,Database.updateSession] at found
  split at found
  · rename_i absent
    refine .inr ⟨?_,found⟩
    rintro rfl
    cases absent.symm.trans found
  · rename_i row present
    have key := Table.find?_key present
    have written := (Database.setTransaction_rewritten world.db row (Table.find?_mem present) row.transaction.status ref
      link row.transaction.refundStatus).found id
    have either := written.symm.trans found
    split at either
    · rename_i same
      cases either
      exact .inl ⟨key.symm.trans same,rfl,rfl⟩
    · rename_i other
      exact .inr ⟨key ▸ other,either⟩

end Links

def Sessioned (history : List (Concurrency.Event Statement Reply)) (id : ID) (result : SessionResult) : Prop :=
  ∃ index bookingID txn request, ⟨index,.findByBookingID bookingID,.ok txn⟩ ∈ history ∧ txn.id = id ∧
    request.refID = bookingID ∧ ⟨index,.createSession request,.ok result⟩ ∈ history

/-- The row has the reference and the link of a session that the gateway has opened for its transaction. -/
def HasSession (history : List (Concurrency.Event Statement Reply)) (id : ID) (row : TransactionRow) : Prop :=
  ∃ result, Sessioned history id result ∧ row.transaction.providerRef = result.providerRef ∧
    row.transaction.paymentLinkURL = result.paymentLinkURL

def Statement.links : Statement → Bool
  | .updateSession _ _ _ => true
  | _ => false

def storesLink (_ : Pool) (_ : Nat) (statement : Statement) (fault : Fault) : Bool := !statement.links || fault = .none

/-- The link is stored: its statement does not fail, and its call is not stopped in front of it. -/
abbrev linksReliably : Pool → Step → Prop :=
  Sparing (fun _ thread => thread.head.any Statement.links) (Stepwise storesLink)

def Awaited (config : Pool) : Prop :=
  ∀ id row, config.state.world.db.transactions.find? id = some row → row.transaction.status = .pending →
    HasSession config.state.history id row ∨ ∃ index ref link, config.headAt index = some (.updateSession id ref link)

section Pools
variable {settings : Settings} {guard : Pool → Step → Prop} {world : World} {config after : Pool} {index : Nat}

theorem createSession_ok {request : SessionRequest} {fault : Fault} {world after : World} {result : SessionResult}
    (executed : execute settings (.createSession request) fault world = (.ok result,after)) :
    result = settings.gateway world.created request := by
  cases fault with
  | none =>
    cases executed
    rfl
  | fail => cases executed
  | broken _ => cases executed

theorem link_of_run (run : Run (service settings) guard (.idle world) config) {id : ID} {ref link : String}
    (head : config.headAt index = some (.updateSession id ref link)) :
    (∃ bookingID userID, config.threads[index]?.map Thread.call = some (.processPayment bookingID userID)) ∧
    ∃ result, Sessioned config.state.history id result ∧ ref = result.providerRef ∧ link = result.paymentLinkURL := by
  obtain ⟨call,next,found⟩ := Config.headAt_thread head
  have permitted := run.issues (program_issues settings) found
  cases call with
  | processPayment bookingID userID =>
    refine ⟨⟨bookingID,userID,by rw [found]; rfl⟩,?_⟩
    obtain ⟨stated,stage,same⟩ := stage_of_run run found rfl
    cases same _ rfl
    obtain ⟨txn,request,result,read,isTxn,refers,asked,isRef,isLink⟩ := stage.link
    exact ⟨result,⟨index,bookingID,txn,request,State.mem_exchanges.mp read,isTxn,refers,State.mem_exchanges.mp asked⟩,
      isRef,isLink⟩
  | _ => cases permitted

theorem Sessioned.mono {history later : List (Concurrency.Event Statement Reply)} {id : ID} {result : SessionResult}
    (sessioned : Sessioned history id result) (recorded : history ⊆ later) : Sessioned later id result := by
  obtain ⟨index,bookingID,txn,request,read,isTxn,refers,asked⟩ := sessioned
  exact ⟨index,bookingID,txn,request,recorded read,isTxn,refers,recorded asked⟩

theorem Awaited.kept (awaited : Awaited config) {action : Step}
    (taken : config.next (service settings) action = some after) (recorded : config.state.history ⊆ after.state.history)
    {id : ID} {old row : TransactionRow}
    (was : config.state.world.db.transactions.find? id = some old) (pending : row.transaction.status = .pending)
    (status : row.transaction.status = old.transaction.status)
    (ref : row.transaction.providerRef = old.transaction.providerRef)
    (link : row.transaction.paymentLinkURL = old.transaction.paymentLinkURL)
    (waits : ∀ position ref link, config.headAt position = some (.updateSession id ref link) →
      (∀ fault, action ≠ .step position fault) ∧ action ≠ .stop position) :
    HasSession after.state.history id row ∨
      ∃ position ref link, after.headAt position = some (.updateSession id ref link) := by
  rcases awaited id old was (status.symm.trans pending) with ⟨result,sessioned,isRef,isLink⟩ | ⟨position,ref,link,head⟩
  · exact .inl ⟨result,sessioned.mono recorded,ref.trans isRef,link.trans isLink⟩
  · obtain ⟨unmoved,lives⟩ := waits position ref link head
    exact .inr ⟨position,ref,link,Config.headAt_kept taken head unmoved lives⟩

theorem links_next (run : Run (service settings) guard (.idle .initial) config)
    {fault : Fault} {call : Call} {id : ID} {status : TransactionStatus} {ref : String}
    {next : Reply (.transitionIfInitiated id status ref) → Task Result}
    (found : config.threads[index]? = some ⟨call,some (.perform (.transitionIfInitiated id status ref) next)⟩)
    (taken : config.next (service settings) (.step index fault) = some after)
    (further : Run (service settings) guard (.idle .initial) after)
    (applied : (execute settings (.transitionIfInitiated id status ref) fault config.state.world).1 = .ok 1) :
    ∃ ref link, after.headAt index = some (.updateSession id ref link) := by
  obtain ⟨_,_,_,present,rfl⟩ := Config.next_step _ _ _ _ _ taken
  cases found.symm.trans present
  have bound : index < config.threads.length := (List.getElem?_eq_some_iff.mp found).1
  have permitted := run.issues (program_issues settings) found
  cases call with
  | processPayment bookingID userID =>
    obtain ⟨stated,stage,same⟩ := stage_of_run further (List.getElem?_set_self bound) rfl
    rw [State.exchanges_after_self] at stage
    change Stage settings bookingID userID (_ ++ [⟨_,(execute settings _ fault config.state.world).1⟩]) stated at stage
    rw [applied] at stage
    obtain ⟨ref,link,isNext⟩ := stage.stored
    refine ⟨ref,link,?_⟩
    unfold Config.headAt
    rw [List.getElem?_set_self bound]
    exact (same _ rfl).trans isNext
  | _ => cases permitted

theorem Awaited.step (awaited : Awaited config) (run : Run (service settings) guard (.idle .initial) config)
    {fault : Fault} {call : Call} {statement : Statement} {next : Reply statement → Task Result}
    (found : config.threads[index]? = some ⟨call,some (.perform statement next)⟩)
    (taken : config.next (service settings) (.step index fault) = some after)
    (further : Run (service settings) guard (.idle .initial) after)
    (reliable : statement.links = true → fault = .none) : Awaited after := by
  intro id row stored pending
  obtain ⟨_,_,_,present,rfl⟩ := Config.next_step _ _ _ _ _ taken
  cases found.symm.trans present
  have head : config.headAt index = some statement := by simp [Config.headAt,found,Thread.head]
  have waits (other : ∀ ref link, statement ≠ .updateSession id ref link) (position : Nat) (ref link : String)
      (isHead : config.headAt position = some (.updateSession id ref link)) :
      (∀ later, Action.step index fault ≠ (.step position later : Step)) ∧
        Action.step index fault ≠ (.stop position : Step) := by
    refine ⟨fun later same => ?_,fun same => ?_⟩
    · cases same
      exact other ref link (Option.some.inj (head.symm.trans isHead))
    · cases same
  have justified := justified_of_run .initial run found
  by_cases links : ∃ position ref link, statement = .updateSession position ref link
  · obtain ⟨position,ref,link,rfl⟩ := links
    cases reliable rfl
    rcases updateSession_executed stored with ⟨rfl,sameRef,sameLink⟩ | ⟨other,was⟩
    · obtain ⟨_,result,sessioned,isRef,isLink⟩ := link_of_run run head
      exact .inl ⟨result,sessioned.mono (List.subset_cons_self _ _),sameRef.trans isRef,sameLink.trans isLink⟩
    · apply awaited.kept taken (List.subset_cons_self _ _) was pending rfl rfl rfl (waits _)
      rintro _ _ ⟨⟩
      exact other rfl
  · -- whoever is about to store a link is another thread, and stays where it is
    cases execute_session stored with
    | kept was status ref link =>
      exact awaited.kept taken (List.subset_cons_self _ _) was pending status ref link (waits fun ref link same => links ⟨_,ref,link,same⟩)
    | create status =>
      rw [status,justified.1] at pending
      cases pending
    | settle settled =>
      rw [← settled,pending] at justified
      cases justified
    | link ref link => exact absurd ⟨_,_,_,rfl⟩ links
    | @store status ref old was initiated =>
      rcases execute_transitionIfInitiated settings id status ref fault config.state.world with
        ⟨_,_,_,_,_,_,_,_,result⟩ | ⟨_,_,_,result⟩
      · exact .inr ⟨index,links_next run found taken further (congrArg Prod.fst result)⟩
      · rw [State.after_world] at stored
        change (execute settings (.transitionIfInitiated id status ref) fault config.state.world).2.db.transactions.find? id =
          some row at stored
        rw [result,was] at stored
        cases stored
        cases initiated.symm.trans pending

theorem awaited_of_run (run : Run (service settings) linksReliably (.idle .initial) config) : Awaited config := by
  apply run.invariant (Awaited)
  · intro id row stored
    cases stored
  · intro config action after before awaited permitted taken
    cases action with
    | start call =>
      intro id row stored pending
      have same : after.state = config.state := by
        cases taken
        rfl
      rw [same] at stored
      apply awaited.kept taken (same ▸ List.Subset.refl _) stored pending rfl rfl rfl
      simp
    | step index fault =>
      obtain ⟨call,statement,next,found,_⟩ := Config.next_step _ _ _ _ _ taken
      apply awaited.step before found taken (.step _ before permitted taken)
      intro links
      have unfailing : Stepwise storesLink config (.step index fault) := permitted
      have reliable := unfailing.meets found
      simpa [storesLink,links] using reliable
    | stop position =>
      intro id row stored pending
      have same : after.state = config.state := by
        obtain ⟨_,_,_,rfl⟩ := Config.next_stop _ _ _ _ taken
        rfl
      rw [same] at stored
      apply awaited.kept taken (same ▸ List.Subset.refl _) stored pending rfl rfl rfl
      intro index ref link head
      refine ⟨by simp,?_⟩
      rintro ⟨⟩
      obtain ⟨call,next,found⟩ := Config.headAt_thread head
      have spared := permitted.1
      simp [found,Thread.head,Statement.links] at spared

/-- The failure of a request can be made good by repeating it: the transaction is still initiated, and no session
is open that was not open before. -/
def Repeatable (id : ID) (world later : World) : Prop :=
  (∃ row, later.db.transactions.find? id = some row ∧ row.transaction.status = .initiated) ∧
    later.sessions = world.sessions

theorem Repeatable.same (payable : Payable world bookingID userID txn expiresAt) : Repeatable txn.id world world := by
  obtain ⟨row,found,rfl,_⟩ := Database.findByBookingID_ok payable.found
  exact ⟨⟨row,found,payable.initiated⟩,rfl⟩

theorem Repeatable.not_of_left {id : ID} {world later : World} {ref : String}
    (left : later.sessions = ref :: world.sessions) : ¬Repeatable id world later :=
  fun ⟨_,same⟩ => List.cons_ne_self ref world.sessions (left.symm.trans same)

theorem Repeatable.not_of_pending {id : ID} {world later : World} {row : TransactionRow}
    (stored : later.db.transactions.find? id = some row) (pending : row.transaction.status = .pending) :
    ¬Repeatable id world later := by
  rintro ⟨⟨other,found,initiated⟩,_⟩
  cases stored.symm.trans found
  cases initiated.symm.trans pending

/-- No failure lies between the session and its link: the gateway is not asked, it opens no session, or all three
statements go through. -/
def Harmless (faults : Nat → Fault) : Prop :=
  faults 0 ≠ .none ∨ faults 4 = .fail ∨ (faults 4 = .none ∧ faults 5 = .none ∧ faults 6 = .none)

theorem PayEnds.harmless {faults : Nat → Fault} {id : ID} {world later : World}
    {value : Except Error (Transaction × SessionResult)} (ends : PayEnds faults id world value later) :
    (Harmless faults ∧ ∀ error, value = .error error → later = world) ∨
    (¬Harmless faults ∧ ∃ error, value = .error error ∧ ¬Repeatable id world later) := by
  cases ends with
  | unread failed same => exact .inl ⟨.inl failed,fun _ _ => same⟩
  | unreached failed same => exact .inl ⟨.inr (.inl failed),fun _ _ => same⟩
  | opened answered stored linked pair reported =>
    refine .inl ⟨.inr (.inr ⟨answered,stored,linked⟩),fun error failed => ?_⟩
    cases failed.symm.trans reported
  | unanswered read count failed reported ref left =>
    exact .inr ⟨by simp [Harmless,read,failed],_,reported,Repeatable.not_of_left left⟩
  | unstored read answered failed error reported ref left =>
    exact .inr ⟨by simp [Harmless,read,answered,failed],error,reported,Repeatable.not_of_left left⟩
  | unlinked read answered failed error reported row stored pending =>
    exact .inr ⟨by simp [Harmless,read,answered,failed],error,reported,Repeatable.not_of_pending stored pending⟩

/-- A request for a transaction that may be paid can be repeated after its failure exactly if no failure lies
between the session and its link. As long as links are stored reliably and the gateway's answers are not empty,
whoever is pending while no request to pay is running has the reference and the link of the session that the
gateway has opened for it. -/
theorem failed_request_payable (settings : Settings) :
    (∀ bookingID userID txn expiresAt faults world, Payable world bookingID userID txn expiresAt →
      ((∀ error, (payAlone settings bookingID userID faults world).value = .error error →
          Repeatable txn.id world (payAlone settings bookingID userID faults world).world) ↔ Harmless faults) ∧
      ∀ error, (payAlone settings bookingID userID faults world).value = .error error →
        Repeatable txn.id world (payAlone settings bookingID userID faults world).world →
        (payAlone settings bookingID userID faults world).world = world) ∧
    ((∀ count request, (settings.gateway count request).providerRef ≠ "" ∧
        (settings.gateway count request).paymentLinkURL ≠ "") →
      ∀ config, Run (service settings) linksReliably (.idle .initial) config →
        (∀ thread ∈ config.threads, thread.Running → ∀ bookingID userID, thread.call ≠ .processPayment bookingID userID) →
        ∀ row ∈ config.state.world.db.transactions.rows, row.transaction.status = .pending →
          HasSession config.state.history row.id row ∧ row.transaction.providerRef ≠ "" ∧
            row.transaction.paymentLinkURL ≠ "") := by
  constructor
  · intro bookingID userID txn expiresAt faults world payable
    have ends := payAlone_ends settings payable faults
    rcases ends.harmless with ⟨harmless,same⟩ | ⟨harmful,error,failed,stuck⟩
    · refine ⟨⟨fun _ => harmless,fun _ error failed => ?_⟩,fun error failed _ => same error failed⟩
      rw [same error failed]
      exact .same payable
    · exact ⟨⟨fun repeatable => absurd (repeatable error failed) stuck,fun harmless => absurd harmless harmful⟩,
        fun _ _ repeatable => absurd repeatable stuck⟩
  · intro named config run idle row member pending
    have has : HasSession config.state.history row.id row := by
      rcases awaited_of_run run row.id row (Table.find?_of_mem member) pending with has | ⟨index,ref,link,head⟩
      · exact has
      · obtain ⟨call,next,found⟩ := Config.headAt_thread head
        obtain ⟨⟨bookingID,userID,isCall⟩,_⟩ := link_of_run run head
        rw [found] at isCall
        cases isCall
        exact absurd rfl (idle _ (List.mem_of_getElem? found) rfl bookingID userID)
    refine ⟨has,?_⟩
    obtain ⟨result,⟨index,bookingID,txn,request,_,_,_,asked⟩,isRef,isLink⟩ := has
    obtain ⟨later,earlier,recorded⟩ := List.append_of_mem asked
    obtain ⟨_,_,_,_,executed,_,_⟩ := run.taken_at recorded
    rw [isRef,isLink,createSession_ok executed]
    exact named _ request

end Pools

/-- A booking's transaction with its hold of ten minutes ahead. -/
def awaitingPayment : World := createdBefore sandbox ⟨7,1,5,"e",100,10 * minute⟩ 0

/-- The gateway cannot be reached; and a request that is answered. -/
theorem failed_request_payable_unreached :
    (payAlone sandbox 7 5 (failingAt 4) awaitingPayment).value = .error .gatewayUnavailable ∧
    (payAlone sandbox 7 5 (failingAt 4) awaitingPayment).world = awaitingPayment ∧
    ∃ config : Pool, Run (service sandbox) linksReliably (.idle .initial) config ∧
      ∃ row ∈ config.state.world.db.transactions.rows, row.transaction.status = .pending ∧
        HasSession config.state.history row.id row ∧ row.transaction.providerRef ≠ "" ∧
          row.transaction.paymentLinkURL ≠ "" := by
  have failed : (payAlone sandbox 7 5 (failingAt 4) awaitingPayment).value = .error .gatewayUnavailable := by
    decide +kernel
  refine ⟨failed,?_,?_⟩
  · have payable : Payable awaitingPayment 7 5
        ⟨0,5,7,1,100,"IDR",.initiated,"sandbox","","","e",.none,some (10 * minute),0⟩ (10 * minute) := by
      constructor <;> decide +kernel
    obtain ⟨harmless,same⟩ := (failed_request_payable sandbox).1 7 5 _ _ (failingAt 4) awaitingPayment payable
    exact same _ failed (harmless.mpr (.inr (.inl rfl)) _ failed)
  · obtain ⟨config,run,outcome⟩ := exists_run_of_replay (service sandbox) linksReliably payable (.idle .initial)
      (fun config => config.Quiet && config.state.world.db.transactions.rows.map (fun row => row.transaction.status) =
        [.pending]) (by decide +kernel)
    simp only [Bool.and_eq_true,decide_eq_true_eq] at outcome
    obtain ⟨quiet,statuses⟩ := outcome
    have pending : .pending ∈ config.state.world.db.transactions.rows.map fun row => row.transaction.status := by
      rw [statuses]
      simp
    obtain ⟨row,member,isPending⟩ := List.mem_map.mp pending
    exact ⟨config,run,row,member,isPending,(failed_request_payable sandbox).2 (by simp [sandbox]) config run
      (fun thread inside running => absurd running (quiet thread inside)) row member isPending⟩

/-- A failed `UpdateSession` leaves the transaction pending without its link, so that no request is accepted any
more; a failed `TransitionIfInitiated` leaves the session open at the gateway. -/
theorem failed_request_strands :
    (payAlone sandbox 7 5 (failingAt 6) awaitingPayment).value = .error (.db .connection) ∧
    (payAlone sandbox 7 5 (failingAt 6) awaitingPayment).world.db.transactions.rows.map
      (fun row => (row.transaction.status,row.transaction.paymentLinkURL)) = [(.pending,"")] ∧
    (payAlone sandbox 7 5 (fun _ => .none) (payAlone sandbox 7 5 (failingAt 6) awaitingPayment).world).value =
      .error .alreadyProcessed ∧
    (payAlone sandbox 7 5 (failingAt 5) awaitingPayment).value = .error (.db .connection) ∧
    awaitingPayment.sessions = [] ∧ (payAlone sandbox 7 5 (failingAt 5) awaitingPayment).world.sessions = ["ps"] := by
  decide +kernel

end Ticketbus.Payment
