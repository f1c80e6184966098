import Ticketbus.Ticketing.Repository

/-! The HTTP client that asks the payment service for a transaction. A request's
body is a reader that `Do` reads from where it stands and never puts back, so
what a second attempt can send depends on how far the first one got. -/
namespace Ticketbus.Http

/-- What becomes of one attempt: how many bytes the transport takes from the
body's reader, and the status answered, `none` if the request or its answer is
lost. -/
structure Attempt where
  read : Nat
  status : Option Nat
  deriving DecidableEq, Repr

inductive Failure where
  | transit
  | short (contentLength bodyLength : Nat)
  deriving DecidableEq, Repr

/-- A request between two calls of `Do`; `body` is what its reader has yet to give. -/
structure Request where
  url : String
  header : List (String × String)
  contentLength : Nat
  body : List UInt8
  deriving DecidableEq, Repr

def newRequest (url : String) (header : List (String × String)) (body : List UInt8) : Request :=
  ⟨url,header,body.length,body⟩

/-- `Client.Do`: it fails on a reader that gives less than the header announces,
and leaves the reader where the transport stopped reading. -/
def Request.perform (request : Request) (attempt : Attempt) : Except Failure Nat × Request :=
  if request.body.length < request.contentLength then
    (.error (.short request.contentLength request.body.length),{request with body := []})
  else
    (attempt.status.elim (.error .transit) .ok,{request with body := request.body.drop attempt.read})

/-- The request was made with this body, of which some may have been read. -/
def Request.Of (whole : List UInt8) (request : Request) : Prop :=
  request.contentLength = whole.length ∧ request.body <:+ whole

theorem newRequest_of (url : String) (header : List (String × String)) (body : List UInt8) :
    (newRequest url header body).Of body := ⟨rfl,List.suffix_refl body⟩

theorem Request.perform_of {whole : List UInt8} {request : Request} (made : request.Of whole)
    (attempt : Attempt) : (request.perform attempt).2.Of whole := by
  unfold perform
  split
  · exact ⟨made.1,List.nil_suffix⟩
  · exact ⟨made.1,(List.drop_suffix _ _).trans made.2⟩

theorem Request.perform_whole {whole : List UInt8} {request : Request} (made : request.Of whole)
    (unread : request.body = whole) (attempt : Attempt) :
    (request.perform attempt).1 = attempt.status.elim (.error .transit) .ok ∧
      (request.perform attempt).2.body = whole.drop attempt.read := by
  have enough : ¬request.body.length < request.contentLength := by
    rw [made.1,unread]
    exact Nat.lt_irrefl _
  unfold perform
  rw [if_neg enough,unread]
  exact ⟨rfl,rfl⟩

theorem Request.whole_of_answer {whole : List UInt8} {request : Request} {attempt : Attempt}
    {status : Nat} (made : request.Of whole) (answered : (request.perform attempt).1 = .ok status) :
    request.body = whole ∧ attempt.status = some status := by
  have enough : ¬request.body.length < request.contentLength := by
    intro short
    simp [perform,short] at answered
  have unread : request.body = whole :=
    made.2.eq_of_length_le (by rw [← made.1]; exact Nat.not_lt.mp enough)
  refine ⟨unread,?_⟩
  rw [(perform_whole made unread attempt).1] at answered
  cases known : attempt.status with
  | none => simp [known] at answered
  | some code => simpa [known] using answered

theorem Request.perform_short {whole : List UInt8} {request : Request} (made : request.Of whole)
    (begun : request.body.length < whole.length) (attempt : Attempt) :
    (request.perform attempt).1 = .error (.short whole.length request.body.length) := by
  simp only [perform,made.1,begun,if_true]

end Ticketbus.Http

namespace Ticketbus.Ticketing.PaymentClient
open Ticketbus.Relational

inductive Json where
  | string (text : String)
  | number (value : Int)
  deriving DecidableEq, Repr

/-- What the client takes from Go's libraries: `json.Marshal` of a map, the
RFC 3339 text of an instant in UTC, the text of a UUID and the parsing of a URL. -/
structure Library where
  marshal : List (String × Json) → Except String (List UInt8)
  formatRFC3339 : Time → String
  text : ID → String
  parseURL : String → Except String Unit

structure Client where
  baseURL : String
  apiKey : String

/-- `ErrPaymentUnavailable` with the cause it is wrapped around; `exhausted` is
the bare error. -/
inductive Unavailable where
  | library (cause : String)
  | failed (cause : Http.Failure)
  | returned (status : Nat)
  | exhausted
  deriving DecidableEq, Repr

/-- One attempt as it was made, with the bytes its reader had to give. -/
structure Sent where
  carried : List UInt8
  attempt : Http.Attempt
  deriving DecidableEq, Repr

structure Outcome where
  result : Except Unavailable Unit
  sent : List Sent

def fields (library : Library) (request : InitiateRequest) : List (String × Json) :=
  [("booking_id",.string (library.text request.bookingID)),
    ("event_id",.string (library.text request.eventID)),
    ("user_id",.string (library.text request.userID)),
    ("email",.string request.email),
    ("amount_rupiah",.number request.amountRupiah),
    ("expires_at",.string (library.formatRFC3339 request.expiresAt))]

def success (status : Nat) : Bool := 200 ≤ status ∧ status < 300

/-- One pass of the loop after `Do`: what is returned, or `none` on `continue`. -/
def judge (attempt : Nat) : Except Http.Failure Nat → Option (Except Unavailable Unit)
  | .error cause => if attempt = 0 then none else some (.error (.failed cause))
  | .ok status =>
    if success status then some (.ok ())
    else if attempt = 0 ∧ 500 ≤ status then none
    else some (.error (.returned status))

/-- The loop from one attempt on, with the number of attempts it may still make.
Every pass calls `Do` on the one request made before the loop. -/
def attemptFrom (service : Nat → Http.Attempt) : Nat → Nat → Http.Request → Outcome
  | 0,_,_ => ⟨.error .exhausted,[]⟩
  | left + 1,attempt,request =>
    let sent : Sent := ⟨request.body,service attempt⟩
    let (answer,later) := request.perform (service attempt)
    match judge attempt answer with
    | some result => ⟨result,[sent]⟩
    | none =>
      let again := attemptFrom service left (attempt + 1) later
      ⟨again.result,sent :: again.sent⟩

def Client.initiateTxnForBooking (client : Client) (library : Library)
    (service : Nat → Http.Attempt) (request : InitiateRequest) : Outcome :=
  match library.marshal (fields library request) with
  | .error cause => ⟨.error (.library cause),[]⟩
  | .ok body =>
    let url := client.baseURL ++ "/api/payments/internal"
    match library.parseURL url with
    | .error cause => ⟨.error (.library cause),[]⟩
    | .ok _ =>
      let header := [("Content-Type","application/json"),("X-Internal-Key",client.apiKey)]
      attemptFrom service 2 0 (Http.newRequest url header body)

theorem success_of_judge {attempt : Nat} {answer : Except Http.Failure Nat}
    (ended : judge attempt answer = some (.ok ())) :
    ∃ status, answer = .ok status ∧ success status := by
  cases answer with
  | error cause =>
    simp only [judge] at ended
    split at ended
    · cases ended
    · cases ended
  | ok status =>
    refine ⟨status,rfl,?_⟩
    simp only [judge] at ended
    split at ended
    · assumption
    · split at ended
      · cases ended
      · cases ended

theorem attemptFrom_ok {whole : List UInt8} (service : Nat → Http.Attempt) (left attempt : Nat)
    {request : Http.Request} (made : request.Of whole)
    (ended : (attemptFrom service left attempt request).result = .ok ()) :
    ∃ number, ⟨whole,service number⟩ ∈ (attemptFrom service left attempt request).sent ∧
      ∃ status, (service number).status = some status ∧ success status := by
  induction left generalizing attempt request with
  | zero => cases ended
  | succ left ih =>
    unfold attemptFrom at ended ⊢
    cases judged : judge attempt (request.perform (service attempt)).1 with
    | none =>
      simp only [judged] at ended ⊢
      obtain ⟨number,among,answered⟩ :=
        ih (attempt + 1) (Http.Request.perform_of made (service attempt)) ended
      exact ⟨number,.tail _ among,answered⟩
    | some result =>
      simp only [judged] at ended ⊢
      obtain ⟨status,answer,good⟩ := success_of_judge (judged.trans (congrArg some ended))
      obtain ⟨unread,known⟩ := Http.Request.whole_of_answer made answer
      exact ⟨attempt,List.mem_singleton.mpr (by rw [unread]),status,known,good⟩

theorem initiateTxnForBooking_cases (client : Client) (library : Library)
    (service : Nat → Http.Attempt) (request : InitiateRequest) :
    (∃ cause, client.initiateTxnForBooking library service request = ⟨.error (.library cause),[]⟩) ∨
      ∃ body url header, library.marshal (fields library request) = .ok body ∧
        client.initiateTxnForBooking library service request =
          attemptFrom service 2 0 (Http.newRequest url header body) := by
  unfold Client.initiateTxnForBooking
  split
  · exact .inl ⟨_,rfl⟩
  · dsimp only
    split
    · exact .inl ⟨_,rfl⟩
    · exact .inr ⟨_,_,_,‹_›,rfl⟩

theorem attemptFrom_ended {service : Nat → Http.Attempt} {attempt : Nat} {request : Http.Request}
    {result : Except Unavailable Unit} (left : Nat)
    (ended : judge attempt (request.perform (service attempt)).1 = some result) :
    attemptFrom service (left + 1) attempt request = ⟨result,[⟨request.body,service attempt⟩]⟩ := by
  simp only [attemptFrom,ended]

theorem attemptFrom_again {service : Nat → Http.Attempt} {attempt : Nat} {request : Http.Request}
    (left : Nat) (continues : judge attempt (request.perform (service attempt)).1 = none) :
    attemptFrom service (left + 1) attempt request =
      let again := attemptFrom service left (attempt + 1) (request.perform (service attempt)).2
      ⟨again.result,⟨request.body,service attempt⟩ :: again.sent⟩ := by
  simp only [attemptFrom,continues]

theorem attemptFrom_attempts (service : Nat → Http.Attempt) (left attempt : Nat)
    (request : Http.Request) : (attemptFrom service (left + 1) attempt request).sent ≠ [] := by
  cases judged : judge attempt (request.perform (service attempt)).1 with
  | none =>
    rw [attemptFrom_again left judged]
    exact List.cons_ne_nil _ _
  | some result =>
    rw [attemptFrom_ended left judged]
    exact List.cons_ne_nil _ _

/-- An attempt after which the loop goes on: lost in transit, or answered with a 5xx. -/
def retried (attempt : Http.Attempt) : Bool := attempt.status.all (500 ≤ ·)

def accepted (attempt : Http.Attempt) : Bool := attempt.status.any success

theorem judge_retried {attempt : Http.Attempt} (again : retried attempt) :
    judge 0 (attempt.status.elim (.error .transit) .ok) = none := by
  cases known : attempt.status with
  | none => rfl
  | some status =>
    have late : 500 ≤ status := by simpa [retried,known] using again
    have failed : success status = false := by
      simp only [success,decide_eq_false_iff_not]
      omega
    simp [judge,failed,late]

theorem judge_settled {attempt : Http.Attempt} (settled : ¬retried attempt) :
    ∃ result, judge 0 (attempt.status.elim (.error .transit) .ok) = some result := by
  cases known : attempt.status with
  | none => exact (settled (by simp [retried,known])).elim
  | some status =>
    have early : ¬500 ≤ status := by simpa [retried,known] using settled
    simp only [Option.elim,judge]
    split
    · exact ⟨_,rfl⟩
    · exact ⟨_,if_neg fun late => early late.2⟩

theorem judge_accepted {attempt : Http.Attempt} (number : Nat) (good : accepted attempt) :
    judge number (attempt.status.elim (.error .transit) .ok) = some (.ok ()) := by
  cases known : attempt.status with
  | none => simp [accepted,known] at good
  | some status =>
    have fine : success status := by simpa [accepted,known] using good
    simp [judge,fine]

theorem judge_last (answer : Except Http.Failure Nat) : ∃ result, judge 1 answer = some result := by
  cases answer with
  | error cause => exact ⟨_,rfl⟩
  | ok status =>
    simp only [judge]
    split
    · exact ⟨_,rfl⟩
    · exact ⟨_,if_neg fun first => absurd first.1 Nat.one_ne_zero⟩

theorem attemptFrom_second (service : Nat → Http.Attempt) (request : Http.Request) :
    ∃ result, judge 1 (request.perform (service 1)).1 = some result ∧
      attemptFrom service 1 1 request = ⟨result,[⟨request.body,service 1⟩]⟩ := by
  obtain ⟨result,ended⟩ := judge_last (request.perform (service 1)).1
  exact ⟨result,ended,attemptFrom_ended 0 ended⟩

theorem attemptFrom_first (service : Nat → Http.Attempt) (url : String)
    (header : List (String × String)) (body : List UInt8) :
    (¬retried (service 0) ∧ ∃ result,
        attemptFrom service 2 0 (Http.newRequest url header body) = ⟨result,[⟨body,service 0⟩]⟩) ∨
      retried (service 0) ∧ ∃ later : Http.Request, later.Of body ∧
        later.body = body.drop (service 0).read ∧
        ∃ result, judge 1 (later.perform (service 1)).1 = some result ∧
          attemptFrom service 2 0 (Http.newRequest url header body) =
            ⟨result,[⟨body,service 0⟩,⟨later.body,service 1⟩]⟩ := by
  have made := Http.newRequest_of url header body
  obtain ⟨answer,rest⟩ := Http.Request.perform_whole made rfl (service 0)
  by_cases again : retried (service 0)
  · obtain ⟨result,ended,second⟩ :=
      attemptFrom_second service ((Http.newRequest url header body).perform (service 0)).2
    refine .inr ⟨again,_,Http.Request.perform_of made (service 0),rest,result,ended,?_⟩
    rw [attemptFrom_again 1 (answer ▸ judge_retried again),second]
    rfl
  · obtain ⟨result,ended⟩ := judge_settled again
    exact .inl ⟨again,result,attemptFrom_ended 1 (answer ▸ ended)⟩

/-- The payment service has read the whole request, whatever became of its answer. -/
def Sent.arrived (library : Library) (request : InitiateRequest) (sent : Sent) : Bool :=
  library.marshal (fields library request) |>.toOption.any fun body =>
    sent.carried = body ∧ body.length ≤ sent.attempt.read

def Outcome.arrivals (library : Library) (request : InitiateRequest) (outcome : Outcome) : List Sent :=
  outcome.sent.filter (Sent.arrived library request)

theorem Sent.arrived_iff {library : Library} {request : InitiateRequest} {body : List UInt8}
    (marshalled : library.marshal (fields library request) = .ok body) (sent : Sent) :
    sent.arrived library request ↔ sent.carried = body ∧ body.length ≤ sent.attempt.read := by
  simp [arrived,marshalled,Except.toOption]

theorem arrivals_le_one {library : Library} {request : InitiateRequest} {body : List UInt8}
    (marshalled : library.marshal (fields library request) = .ok body) (nonempty : body ≠ [])
    (service : Nat → Http.Attempt) (url : String) (header : List (String × String)) :
    ((attemptFrom service 2 0 (Http.newRequest url header body)).arrivals library request).length ≤ 1 := by
  rcases attemptFrom_first service url header body with
    ⟨_,result,sends⟩ | ⟨_,later,_,rest,result,_,sends⟩
  · rw [sends]
    exact List.length_filter_le _ _
  · rw [sends]
    by_cases first : Sent.arrived library request ⟨body,service 0⟩
    · -- an attempt that got the body across has emptied the reader
      have emptied : later.body = [] :=
        rest.trans (List.drop_eq_nil_of_le ((Sent.arrived_iff marshalled _).mp first).2)
      have second : ¬Sent.arrived library request ⟨later.body,service 1⟩ := fun arrived =>
        nonempty (((Sent.arrived_iff marshalled _).mp arrived).1.symm.trans emptied)
      simp [Outcome.arrivals,List.filter,first,second]
    · rw [Outcome.arrivals,List.filter_cons_of_neg first]
      exact List.length_filter_le _ _

/-- To the rest of the service the call is one message whose reply may get lost,
provided that the payment service accepts no request before it has read it. -/
theorem initiateTxnForBooking_sends (client : Client) (library : Library)
    (service : Nat → Http.Attempt) (request : InitiateRequest)
    (reads : ∀ body, library.marshal (fields library request) = .ok body → body ≠ [] ∧
      ∀ attempt, accepted (service attempt) → body.length ≤ (service attempt).read)
    (world : World) :
    let outcome := client.initiateTxnForBooking library service request
    ∃ fault, execute (.initiateTxnForBooking request) fault world =
      (outcome.result.mapError fun _ => DbError.connection,
        {world with requests :=
          (outcome.arrivals library request).map (fun _ => request) ++ world.requests}) := by
  intro outcome
  rcases initiateTxnForBooking_cases client library service request with
    ⟨cause,unsent⟩ | ⟨body,url,header,marshalled,looped⟩
  · refine ⟨.fail,?_⟩
    simp only [outcome,unsent]
    rfl
  · obtain ⟨nonempty,readFirst⟩ := reads body marshalled
    have few : (outcome.arrivals library request).length ≤ 1 := by
      simp only [outcome,looped]
      exact arrivals_le_one marshalled nonempty service url header
    have arrived : outcome.result = .ok () → outcome.arrivals library request ≠ [] := by
      intro ended
      simp only [outcome,looped] at ended ⊢
      obtain ⟨number,among,status,known,good⟩ :=
        attemptFrom_ok service 2 0 (Http.newRequest_of url header body) ended
      have accepting : accepted (service number) := by simp [accepted,known,good]
      apply List.ne_nil_of_mem (List.mem_filter.mpr ⟨among,?_⟩)
      exact (Sent.arrived_iff marshalled _).mpr ⟨rfl,readFirst number accepting⟩
    -- the three ways of a message: answered, lost on its way, or arrived with its answer lost
    match ended : outcome.result,received : outcome.arrivals library request with
    | .ok _,[] => exact (arrived ended received).elim
    | .ok _,[_] => exact ⟨.none,rfl⟩
    | .error _,[] => exact ⟨.fail,rfl⟩
    | .error _,[_] => exact ⟨.broken 0,rfl⟩
    | _,_ :: _ :: _ => simp [received] at few

def Json.render : Json → String
  | .string text => "\"" ++ text ++ "\""
  | .number value => toString value

/-- `json.Marshal` on texts that need no escape; a map's keys come out sorted. -/
def rendered (members : List (String × Json)) : List UInt8 :=
  let texts := (members.mergeSort fun first second => first.1 ≤ second.1).map fun field =>
    "\"" ++ field.1 ++ "\":" ++ field.2.render
  0x7b :: (",".intercalate texts).toUTF8.toList ++ [0x7d]

def plainLibrary : Library :=
  ⟨fun members => .ok (rendered members),fun instant => toString instant,fun id => toString id,
    fun _ => .ok ()⟩

def payments : Client := ⟨"http://payment:8082","internal-key"⟩

def seatReserved : InitiateRequest := ⟨1,2,3,"buyer@example.com",150000,900⟩

def seatBody : List UInt8 := rendered (fields plainLibrary seatReserved)

/-- One outcome for the first attempt, another for the second. -/
def answering (first second : Http.Attempt) : Nat → Http.Attempt
  | 0 => first
  | _ => second

/-- The first attempt finds nobody, and the second is accepted. -/
theorem initiateTxnForBooking_sends_retried :
    let outcome := payments.initiateTxnForBooking plainLibrary (answering ⟨0,none⟩ ⟨seatBody.length,some 201⟩) seatReserved
    ∃ fault, execute (.initiateTxnForBooking seatReserved) fault .initial =
      (outcome.result.mapError fun _ => DbError.connection,
        {World.initial with requests :=
          (outcome.arrivals plainLibrary seatReserved).map (fun _ => seatReserved) ++ World.initial.requests}) := by
  refine initiateTxnForBooking_sends payments plainLibrary _ seatReserved (fun body marshalled => ?_) .initial
  cases marshalled
  refine ⟨List.cons_ne_nil _ _,fun attempt isAccepted => ?_⟩
  cases attempt with
  | zero => exact absurd isAccepted (by decide)
  | succ attempt => exact le_refl seatBody.length

/-- With nothing read by a first attempt that is retried, every attempt carries
the whole body, and a second attempt that the service accepts succeeds. -/
theorem retry_repeats_body (client : Client) (library : Library) (service : Nat → Http.Attempt)
    (request : InitiateRequest) (unread : retried (service 0) → (service 0).read = 0) :
    (∀ sent ∈ (client.initiateTxnForBooking library service request).sent,
      library.marshal (fields library request) = .ok sent.carried) ∧
      ((client.initiateTxnForBooking library service request).sent ≠ [] →
        retried (service 0) → accepted (service 1) →
        (client.initiateTxnForBooking library service request).result = .ok ()) := by
  rcases initiateTxnForBooking_cases client library service request with
    ⟨cause,unsent⟩ | ⟨body,url,header,marshalled,looped⟩
  · rw [unsent]
    exact ⟨fun _ among => (List.not_mem_nil among).elim,fun sends => (sends rfl).elim⟩
  · rw [looped,marshalled]
    rcases attemptFrom_first service url header body with
      ⟨settled,result,sends⟩ | ⟨again,later,made,rest,result,ended,sends⟩
    · rw [sends]
      refine ⟨?_,fun _ again => (settled again).elim⟩
      exact List.forall_mem_singleton.mpr rfl
    · have whole : later.body = body := by rw [rest,unread again,List.drop_zero]
      rw [sends]
      refine ⟨List.forall_mem_cons.mpr ⟨rfl,List.forall_mem_singleton.mpr ?_⟩,fun _ _ good => ?_⟩
      · rw [whole]
      · rw [(Http.Request.perform_whole made whole (service 1)).1,judge_accepted 1 good] at ended
        exact (Option.some.inj ended).symm

theorem retry_repeats_body_refused :
    let service := answering ⟨0,none⟩ ⟨seatBody.length,some 201⟩
    let outcome := payments.initiateTxnForBooking plainLibrary service seatReserved
    (∀ sent ∈ outcome.sent, plainLibrary.marshal (fields plainLibrary seatReserved) = .ok sent.carried) ∧
      outcome.result = .ok () := by
  intro service outcome
  obtain ⟨carries,succeeds⟩ :=
    retry_repeats_body payments plainLibrary service seatReserved fun _ => rfl
  have attempted : outcome.sent ≠ [] := attemptFrom_attempts service 1 0 _
  exact ⟨carries,succeeds attempted rfl (by decide)⟩

theorem retry_falls_short (service : Nat → Http.Attempt) (url : String)
    (header : List (String × String)) {body : List UInt8} (nonempty : body ≠ [])
    (again : retried (service 0)) (begun : 0 < (service 0).read) :
    attemptFrom service 2 0 (Http.newRequest url header body) =
      ⟨.error (.failed (.short body.length (body.length - (service 0).read))),
        [⟨body,service 0⟩,⟨body.drop (service 0).read,service 1⟩]⟩ := by
  rcases attemptFrom_first service url header body with
    ⟨settled,_⟩ | ⟨_,later,made,rest,result,ended,sends⟩
  · exact (settled again).elim
  · have some : 0 < body.length := List.length_pos_iff.mpr nonempty
    have short : later.body.length < body.length := by
      rw [rest,List.length_drop]
      omega
    rw [Http.Request.perform_short made short] at ended
    rw [sends,← rest,← List.length_drop,← rest]
    rw [← Option.some.inj ended]

/-- The first attempt gets the whole body across and is answered with 503; the
second has nothing left to send to a service that would accept it. -/
theorem retry_without_body :
    let service := answering ⟨seatBody.length,some 503⟩ ⟨seatBody.length,some 201⟩
    let outcome := payments.initiateTxnForBooking plainLibrary service seatReserved
    retried (service 0) ∧ accepted (service 1) ∧
      outcome.sent.map Sent.carried = [seatBody,[]] ∧
      outcome.result = .error (.failed (.short seatBody.length 0)) := by
  intro service outcome
  have begun : 0 < (service 0).read := Nat.succ_pos _
  have looped : outcome = _ :=
    retry_falls_short service _ _ (List.cons_ne_nil _ _) (by decide) begun
  have emptied : seatBody.drop (service 0).read = [] := List.drop_length
  have nothing : seatBody.length - (service 0).read = 0 := Nat.sub_self _
  refine ⟨by decide,by decide,?_,?_⟩
  · rw [looped]
    exact congrArg (fun rest => [seatBody,rest]) emptied
  · rw [looped]
    exact congrArg (fun rest => Except.error (Unavailable.failed (.short seatBody.length rest))) nothing

end Ticketbus.Ticketing.PaymentClient
