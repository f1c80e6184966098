import Ticketbus.Json.Unmarshal
import Ticketbus.Payment.PaymentHandler
import Ticketbus.Payment.Footprint
import Ticketbus.Payment.Snapshots
import Ticketbus.Concurrency.Conversation

/-! The webhooks of the payment gateway: how a delivery is checked and decoded, and that a
completed payment is announced only for a delivery that reports it. At the other end, a
session is opened only in a call by the user of the transaction. -/
namespace Ticketbus.Payment
open Ticketbus.Concurrency Ticketbus.Relational Ticketbus.Json

/-- The struct `sessionWebhookPayload`. -/
def sessionWebhookPayload : List (String × Shape) :=
  [("event",.text),("data",.record [("reference_id",.text),("payment_session_id",.text),("id",.text),("status",.text)])]

def WebhookEvent.ofName (name : String) : WebhookEvent :=
  if name = "payment_session.completed" then .completed
  else if name = "payment_session.expired" then .expired
  else .other name

namespace PaymentHandler

def invalidPayload : Response := ⟨400,.error "invalid webhook payload"⟩

/-- The beginning of `HandleSessionWebhook`: the body is `none` where it is not JSON, and a
reference that is no UUID makes the first query fail. -/
def decodeWebhook (readUUID : String → Option ID) (body : Option Value) : Except Response Call :=
  match body.bind (unmarshal (fun _ => true) (.record sessionWebhookPayload)) with
  | none => .ok (.handleSessionWebhook none)
  | some event =>
    let payload (referenceID : Option ID) : SessionWebhookPayload :=
      ⟨.ofName (event ["event"]),referenceID,event ["data","payment_session_id"],event ["data","id"]⟩
    if event ["data","reference_id"] = "" then .ok (.handleSessionWebhook (some (payload none)))
    else
      match readUUID (event ["data","reference_id"]) with
      | none => .error invalidPayload
      | some bookingID => .ok (.handleSessionWebhook (some (payload (some bookingID))))

/-- `Webhook`; the body is `none` where it cannot be read to its end. -/
def webhook (callbackToken header : String) (readUUID : String → Option ID) (body : Option (Option Value)) :
    Except Response Call :=
  if header ≠ callbackToken then .error ⟨401,.error "invalid callback token"⟩
  else
    match body with
    | none => .error ⟨400,.error "failed to read body"⟩
    | some body => decodeWebhook readUUID body

/-- A booking in the path is `none` where it is not a UUID. -/
def processPayment (userID : ID) : Option ID → Except Response Call
  | none => .error notFound
  | some bookingID => .ok (.processPayment bookingID userID)

theorem decodeWebhook_ok {readUUID : String → Option ID} {body : Option Value} {call : Call}
    (ok : decodeWebhook readUUID body = .ok call) : ∃ payload, call = .handleSessionWebhook payload := by
  unfold decodeWebhook at ok
  split at ok
  · cases ok
    exact ⟨none,rfl⟩
  · simp only at ok
    split at ok
    · cases ok
      exact ⟨_,rfl⟩
    · split at ok
      · cases ok
      · cases ok
        exact ⟨_,rfl⟩

theorem webhook_ok {callbackToken header : String} {readUUID : String → Option ID} {body : Option (Option Value)}
    {call : Call} (ok : webhook callbackToken header readUUID body = .ok call) :
    header = callbackToken ∧ ∃ payload, call = .handleSessionWebhook payload := by
  unfold webhook at ok
  split at ok
  · cases ok
  · rename_i same
    split at ok
    · cases ok
    · exact ⟨not_not.mp same,decodeWebhook_ok ok⟩

end PaymentHandler

/-! What a call has been told by the time it announces a completed payment or opens a session. -/

/-- The delivery reports the payment of the transaction, by the session that is stored with
it or by none. -/
structure SessionWebhookPayload.Reports (payload : SessionWebhookPayload) (txn : Transaction) : Prop where
  completed : payload.event = .completed
  session : payload.sessionID = "" ∨ payload.sessionID = txn.providerRef

/-- A message that a payment is complete goes back to a delivery for its booking. -/
def Reported (call : Call) (exchanges : List (Exchange Statement Reply)) : Prop :=
  ∀ message reply, ⟨.outbox (.insert message),reply⟩ ∈ exchanges → message.outcome = .completed →
    ∃ payload bookingID txn, call = .handleSessionWebhook (some payload) ∧ payload.referenceID = some bookingID ∧
      payload.Reports txn ∧ ⟨.findByBookingID bookingID,.ok txn⟩ ∈ exchanges ∧ message.bookingID = txn.bookingID

theorem Reported.none {call : Call} {exchanges : List (Exchange Statement Reply)} (silent : ∀ exchange ∈ exchanges,
      ∀ message, exchange.1 = .outbox (.insert message) → message.outcome ≠ .completed) : Reported call exchanges :=
  fun message _ member completed => absurd completed (silent _ member message rfl)

/-- A session is asked of the gateway for the transaction that the caller was found to own. -/
def Opened (call : Call) (exchanges : List (Exchange Statement Reply)) : Prop :=
  ∀ request reply, ⟨.createSession request,reply⟩ ∈ exchanges →
    ∃ txn, call = .processPayment request.refID txn.userID ∧ request.amountRupiah = txn.amountRupiah ∧
      ⟨.findByBookingID request.refID,.ok txn⟩ ∈ exchanges

theorem Opened.none {call : Call} {exchanges : List (Exchange Statement Reply)}
    (silent : ∀ exchange ∈ exchanges, ∀ request, exchange.1 ≠ .createSession request) : Opened call exchanges :=
  fun request _ member => absurd rfl (silent _ member request)

section Programs
variable {settings : Settings}

theorem handleSessionWebhook_reports (payload : Option SessionWebhookPayload) :
    (PaymentService.handleSessionWebhook payload).Always fun exchanges _ =>
      Reported (.handleSessionWebhook payload) exchanges := by
  cases payload with
  | none => exact .none (by simp)
  | some payload =>
    simp only [PaymentService.handleSessionWebhook]
    cases reference : payload.referenceID with
    | none => exact .none (by simp)
    | some bookingID =>
      refine ⟨.none (by simp),fun found => ?_⟩
      rcases found with error | txn
      · exact .none (by simp)
      simp only [Program.done_bind]
      split
      · exact .none (by simp)
      · rename_i session
        refine (Program.Always.of_permitted (applyWebhook_issues txn payload.event)).mono fun exchanges _ known => ?_
        intro message reply member completed
        rcases List.mem_cons.mp member with is | later
        · cases congrArg Sigma.fst is
        · obtain ⟨event,booking⟩ := known _ later completed
          have named : payload.sessionID = "" ∨ payload.sessionID = txn.providerRef := by tauto
          exact ⟨payload,bookingID,txn,rfl,reference,⟨event,named⟩,List.mem_cons_self,booking⟩

theorem program_reports (call : Call) :
    (program settings call).Always fun exchanges _ => Reported call exchanges := by
  cases call with
  | handleSessionWebhook payload => exact .map _ (handleSessionWebhook_reports payload)
  | _ =>
    refine (Program.Always.of_permitted (program_issues settings _)).mono fun exchanges _ inside => .none ?_
    intro exchange member message is completed
    have footprint := inside exchange member
    rw [is] at footprint
    first | exact footprint.elim | cases completed.symm.trans footprint

theorem processPayment_opens (bookingID userID : ID) :
    (PaymentService.processPayment settings bookingID userID).Always fun exchanges _ =>
      Opened (.processPayment bookingID userID) exchanges := by
  refine ⟨.none (by simp),fun found => ?_⟩
  rcases found with error | txn
  · exact .none (by simp)
  simp only [Program.done_bind]
  split
  · exact .none (by simp)
  split
  · exact .none (by simp)
  rename_i expiresAt _
  refine ⟨.none (by simp),fun now => ?_⟩
  simp only [Program.done_bind]
  split
  · exact .none (by simp)
  refine ⟨.none (by simp),fun later => ?_⟩
  simp only [Program.done_bind]
  split
  · exact .none (by simp)
  split
  · exact .none (by simp)
  · rename_i owner
    refine (Program.Always.of_permitted (openSession_issues settings bookingID txn expiresAt)).mono fun exchanges _ known => ?_
    intro request reply member
    simp only [List.mem_cons] at member
    rcases member with is | is | is | inside
    · cases congrArg Sigma.fst is
    · cases congrArg Sigma.fst is
    · cases congrArg Sigma.fst is
    · obtain ⟨rfl,amount⟩ := known _ inside
      exact ⟨txn,by rw [not_not.mp owner],amount,List.mem_cons_self⟩

theorem program_opens (call : Call) : (program settings call).Always fun exchanges _ => Opened call exchanges := by
  cases call with
  | processPayment bookingID userID => exact .map _ (processPayment_opens bookingID userID)
  | _ =>
    refine (Program.Always.of_permitted (program_issues settings _)).mono fun exchanges _ inside => .none ?_
    intro exchange member request is
    have footprint := inside exchange member
    rw [is] at footprint
    exact footprint.elim

end Programs

section Runs
variable {settings : Settings} {config : Pool} {guard : Pool → Step → Prop}

theorem inserted_of_message (run : Run (service settings) guard (.idle .initial) config) :
    ∀ message ∈ config.state.world.outbox.messages, ∃ index reply,
      ⟨index,.outbox (.insert message),reply⟩ ∈ config.state.history := by
  refine run.state_invariant (fun state => ∀ message ∈ state.world.outbox.messages, ∃ index reply,
    ⟨index,.outbox (.insert message),reply⟩ ∈ state.history) (fun message member => by cases member) ?_
  intro config index fault call statement next _ before _ _ message member
  by_cases inserts : ∃ new, statement = .outbox (.insert new)
  · obtain ⟨new,rfl⟩ := inserts
    rcases Outbox.execute_messages (.insert new) fault config.state.world.outbox with same | ⟨_,is,_,same⟩
    · have old : message ∈ config.state.world.outbox.messages := same ▸ member
      obtain ⟨position,reply,inserted⟩ := before message old
      exact ⟨position,reply,List.mem_cons_of_mem _ inserted⟩
    · cases is
      have either : message ∈ config.state.world.outbox.messages ++ [new] := same ▸ member
      rcases List.mem_append.mp either with old | isNew
      · obtain ⟨position,reply,inserted⟩ := before message old
        exact ⟨position,reply,List.mem_cons_of_mem _ inserted⟩
      · cases List.mem_singleton.mp isNew
        exact ⟨index,_,List.mem_cons_self⟩
  · have old : message ∈ config.state.world.outbox.messages := by
      rwa [State.after_world,show (service settings).execute = execute settings from rfl,
        execute_messages fault config.state.world fun new is => inserts ⟨new,is⟩] at member
    obtain ⟨position,reply,inserted⟩ := before message old
    exact ⟨position,reply,List.mem_cons_of_mem _ inserted⟩

theorem reported_of_message (run : Run (service settings) guard (.idle .initial) config) {message : Message}
    (member : message ∈ config.state.world.outbox.messages) (completed : message.outcome = .completed) :
    ∃ index payload txn, config.calls[index]? = some (.handleSessionWebhook (some payload)) ∧
      payload.referenceID = some message.bookingID ∧ payload.Reports txn ∧
        ⟨index,.findByBookingID message.bookingID,.ok txn⟩ ∈ config.state.history := by
  obtain ⟨index,reply,inserted⟩ := inserted_of_message run message member
  obtain ⟨call,started,reported⟩ := (Talked.of_run run).event inserted program_reports
  obtain ⟨payload,bookingID,txn,rfl,reference,reports,read,booking⟩ :=
    reported message reply (State.mem_exchanges.mpr inserted) completed
  obtain ⟨middle,fault,_,_,found⟩ := run.executed (State.mem_exchanges.mp read)
  obtain ⟨row,_,rfl,same⟩ := Database.findByBookingID_ok (query_ok found)
  obtain rfl : bookingID = message.bookingID := same.symm.trans booking.symm
  exact ⟨index,payload,row.transaction,started,reference,reports,State.mem_exchanges.mp read⟩

theorem stored_of_read (run : Run (service settings) guard (.idle .initial) config) {index : Nat} {bookingID : ID}
    {txn : Transaction} (read : ⟨index,.findByBookingID bookingID,.ok txn⟩ ∈ config.state.history) :
    ∃ row ∈ config.state.world.db.transactions.rows, row.bookingID = bookingID ∧
      row.transaction.fixed = txn.fixed := by
  obtain ⟨middle,fault,before,remaining,found⟩ := run.executed read
  obtain ⟨row,isRow,rfl,booking⟩ := Database.findByBookingID_ok (query_ok found)
  have persists : Persists middle.state.world config.state.world := by
    refine remaining.invariant (fun last => Persists middle.state.world last.state.world) (.refl _) ?_
    intro config action after path persists _ taken
    exact persists.trans (persists_of_next .initial (before.trans path) taken)
  obtain ⟨next,stays,fixed,_⟩ := persists.transactions row.id row isRow
  exact ⟨next,Table.find?_mem stays,(Transaction.bookingID_fixed fixed).trans booking,fixed⟩

theorem opened_of_session (run : Run (service settings) guard (.idle .initial) config) {index : Nat}
    {request : SessionRequest} {reply : Reply (.createSession request)}
    (asked : ⟨index,.createSession request,reply⟩ ∈ config.state.history) :
    ∃ txn, config.calls[index]? = some (.processPayment request.refID txn.userID) ∧
      request.amountRupiah = txn.amountRupiah ∧ ⟨index,.findByBookingID request.refID,.ok txn⟩ ∈ config.state.history := by
  obtain ⟨call,started,opened⟩ := (Talked.of_run run).event asked program_opens
  obtain ⟨txn,rfl,amount,read⟩ := opened request reply (State.mem_exchanges.mpr asked)
  exact ⟨txn,started,amount,State.mem_exchanges.mp read⟩

end Runs
end Ticketbus.Payment
