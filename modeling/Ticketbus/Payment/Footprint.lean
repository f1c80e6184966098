import Ticketbus.Payment.Service

/-! Which statements each call of the payment service can issue, whatever it is answered. -/
namespace Ticketbus.Payment
open Ticketbus.Concurrency Ticketbus.Relational Program

/-- What a request says about its transaction, and no later statement changes. -/
structure Transaction.MadeFor (txn : Transaction) (request : InternalCreateRequest) : Prop where
  bookingID : txn.bookingID = request.bookingID
  userID : txn.userID = request.userID
  eventID : txn.eventID = request.eventID
  amountRupiah : txn.amountRupiah = request.amountRupiah
  currency : txn.currency = "IDR"
  expiresAt : txn.expiresAt = some request.expiresAt

def Footprint : Call → Statement → Prop
  | .initiateTxnForBooking request,.create txn => txn.MadeFor request
  | .initiateTxnForBooking _,.newString | .initiateTxnForBooking _,.findByBookingID _ => True
  | .processPayment _ _,.findByBookingID _ | .processPayment _ _,.now | .processPayment _ _,.createSession _
  | .processPayment _ _,.transitionIfInitiated _ .pending _ | .processPayment _ _,.cancelSession _
  | .processPayment _ _,.updateSession _ _ _ => True
  | .handleSessionWebhook _,.findByBookingID _ | .handleSessionWebhook _,.transitionIfActive _ _ _
  | .handleSessionWebhook _,.now | .handleSessionWebhook _,.outbox (.insert _)
  | .handleSessionWebhook _,.newString | .handleSessionWebhook _,.createRefund _
  | .handleSessionWebhook _,.updateRefundStatus _ _ => True
  | .processExpired _,.now | .processExpired _,.listActiveExpired _ _ | .processExpired _,.cancelSession _
  | .processExpired _,.transitionIfActive _ _ _ => True
  | .processExpired _,.outbox (.insert message) => message.outcome = .expired
  | .handleEventCancelled _,.listByEventID _ | .handleEventCancelled _,.newString
  | .handleEventCancelled _,.createRefund _ | .handleEventCancelled _,.updateRefundStatus _ _ => True
  | .processBatch,.outbox .undelivered | .processBatch,.outbox (.produce _)
  | .processBatch,.outbox (.markDelivered _) => True
  | .wait _,.advance _ => True
  | _,_ => False

private theorem initiate_issues (settings : Settings) (request : InternalCreateRequest) :
    (PaymentService.initiateTxnForBooking settings request).Issues
      (Footprint (.initiateTxnForBooking request)) := by
  refine ⟨trivial,fun id => ⟨⟨rfl,rfl,rfl,rfl,rfl,rfl⟩,fun created => ?_⟩⟩
  rcases created with error | _
  · cases error with
    | uniqueViolation =>
      refine ⟨trivial,fun found => ?_⟩
      rcases found with error | existing <;> trivial
    | _ => trivial
  · trivial

/-- The statements of a request that may ask the gateway for a session. -/
def Opening (bookingID : ID) (txn : Transaction) : Statement → Prop
  | .createSession request => request.refID = bookingID ∧ request.amountRupiah = txn.amountRupiah
  | .now | .transitionIfInitiated _ .pending _ | .cancelSession _ | .updateSession _ _ _ => True
  | _ => False

theorem openSession_issues (settings : Settings) (bookingID : ID) (txn : Transaction) (expiresAt : Time) :
    (PaymentService.openSession settings bookingID txn expiresAt).Issues (Opening bookingID txn) := by
  refine ⟨trivial,fun now => ⟨⟨rfl,rfl⟩,fun opened => ?_⟩⟩
  rcases opened with error | result
  · trivial
  refine ⟨trivial,fun moved => ?_⟩
  rcases moved with error | affected
  · trivial
  simp only [Except.map,done_bind]
  split
  · trivial
  · exact ⟨trivial,fun _ => trivial⟩
  · refine ⟨trivial,fun updated => ?_⟩
    rcases updated with error | _ <;> trivial

private theorem processPayment_issues (settings : Settings) (bookingID userID : ID) :
    (PaymentService.processPayment settings bookingID userID).Issues
      (Footprint (.processPayment bookingID userID)) := by
  refine ⟨trivial,fun found => ?_⟩
  rcases found with error | txn
  · trivial
  simp only [done_bind]
  split
  · trivial
  split
  · trivial
  refine ⟨trivial,fun now => ?_⟩
  simp only [done_bind]
  split
  · trivial
  refine ⟨trivial,fun later => ?_⟩
  simp only [done_bind]
  split
  · trivial
  split
  · trivial
  refine (openSession_issues settings bookingID txn _).mono fun statement opening => ?_
  cases statement with
  | transitionIfInitiated id status => cases status <;> trivial
  | _ => trivial

/-- The statements of a delivery that has found its transaction. -/
def Applying (txn : Transaction) (event : WebhookEvent) : Statement → Prop
  | .outbox (.insert message) => message.outcome = .completed → event = .completed ∧ message.bookingID = txn.bookingID
  | .transitionIfActive _ _ _ | .now | .newString | .createRefund _ | .updateRefundStatus _ _ => True
  | _ => False

theorem applyWebhook_issues (txn : Transaction) (event : WebhookEvent) :
    (PaymentService.applyWebhook txn event).Issues (Applying txn event) := by
  cases event with
  | completed =>
    refine ⟨trivial,fun moved => ?_⟩
    rcases moved with error | affected
    · trivial
    simp only [Except.map,done_bind]
    split
    · trivial
    · exact ⟨trivial,fun _ => ⟨fun _ => ⟨rfl,rfl⟩,fun _ => trivial⟩⟩
    · split
      · refine ⟨trivial,fun id => ⟨trivial,fun created => ?_⟩⟩
        rcases created with error | _
        · trivial
        · exact ⟨trivial,fun _ => trivial⟩
      · trivial
  | expired =>
    refine ⟨trivial,fun moved => ?_⟩
    rcases moved with error | affected
    · trivial
    simp only [Except.map,done_bind]
    split
    · trivial
    · exact ⟨trivial,fun _ => ⟨fun completed => (by cases completed),fun _ => trivial⟩⟩
    · trivial
  | other name => trivial

private theorem webhook_issues (payload : Option SessionWebhookPayload) :
    (PaymentService.handleSessionWebhook payload).Issues (Footprint (.handleSessionWebhook payload)) := by
  cases payload with
  | none => trivial
  | some payload =>
    simp only [PaymentService.handleSessionWebhook]
    cases payload.referenceID with
    | none => trivial
    | some bookingID =>
      refine ⟨trivial,fun found => ?_⟩
      rcases found with error | txn
      · trivial
      simp only [done_bind]
      split
      · trivial
      · refine (applyWebhook_issues txn payload.event).mono fun statement applying => ?_
        cases statement with
        | outbox inner => cases inner <;> trivial
        | _ => trivial

private theorem expireAll_issues (limit : Nat) (txns : List Transaction) :
    (PaymentService.expireAll txns).Issues (Footprint (.processExpired limit)) := by
  induction txns with
  | nil => trivial
  | cons txn rest ih =>
    have closes : (PaymentService.closeSession txn.providerRef).Issues (Footprint (.processExpired limit)) := by
      unfold PaymentService.closeSession
      split
      · exact ⟨trivial,fun _ => trivial⟩
      · trivial
    refine closes.bind fun _ => ⟨trivial,fun moved => ?_⟩
    rcases moved with error | affected
    · exact ih
    simp only [Except.map,done_bind]
    split
    · exact ih
    · exact ih
    · exact ⟨trivial,fun _ => ⟨rfl,fun _ => ih⟩⟩

private theorem refundAll_issues (eventID : ID) (txns : List Transaction) :
    (PaymentService.refundAll txns).Issues (Footprint (.handleEventCancelled eventID)) := by
  induction txns with
  | nil => trivial
  | cons txn rest ih =>
    unfold PaymentService.refundAll
    split
    · refine ⟨trivial,fun id => ⟨trivial,fun created => ?_⟩⟩
      rcases created with error | _
      · trivial
      refine ⟨trivial,fun updated => ?_⟩
      rcases updated with error | _
      · trivial
      · exact ih
    · exact ih

theorem program_issues (settings : Settings) (call : Call) : (program settings call).Issues (Footprint call) := by
  cases call with
  | initiateTxnForBooking request => exact Issues.map _ (initiate_issues settings request)
  | processPayment bookingID userID => exact Issues.map _ (processPayment_issues settings bookingID userID)
  | handleSessionWebhook payload => exact Issues.map _ (webhook_issues payload)
  | processExpired limit =>
    refine Issues.map _ ⟨trivial,fun now => ⟨trivial,fun listed => ?_⟩⟩
    rcases listed with error | rows
    · trivial
    · exact (expireAll_issues limit rows.items).bind fun _ => trivial
  | handleEventCancelled eventID =>
    refine Issues.map _ ⟨trivial,fun listed => ?_⟩
    rcases listed with error | rows
    · trivial
    · exact refundAll_issues eventID rows.items
  | processBatch =>
    exact Issues.map _ (Issues.embed (Outbox.processBatch_issues trivial (fun _ => trivial) fun _ => trivial))
  | wait duration => exact ⟨trivial,fun _ => trivial⟩

end Ticketbus.Payment
