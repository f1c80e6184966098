import Ticketbus.Deployment.System
import Ticketbus.Ticketing.Seats
import Ticketbus.Payment.Settlement

/-! Bookings and payments agree. A booking that is confirmed or expired goes back to a
call of the consumer, the call to a published message, and the message to the settled
transaction of the booking, which never changes again. -/
namespace Ticketbus.Deployment
open Ticketbus.Concurrency Ticketbus.Relational

/-- What a booking's status says about its payment. -/
def paymentOf : Ticketing.BookingStatus → Option Payment.TransactionStatus
  | .confirmed => some .completed
  | .expired => some .expired
  | .pending | .cancelled => none

def consumed : Ticketing.Call → Option (Ticketing.ID × Payment.TransactionStatus)
  | .confirm bookingID _ => some (bookingID,.completed)
  | .expireOnPaymentExpired bookingID => some (bookingID,.expired)
  | _ => none

def Caused (config : Ticketing.Pool) : Prop :=
  ∀ row ∈ config.state.world.db.bookings.rows, ∀ outcome, paymentOf row.status = some outcome →
    ∃ call ∈ config.calls, consumed call = some (row.id,outcome)

section Ticketing
variable {reservationTTL : Nat} {config : Ticketing.Pool}

private theorem consumed_of_origin {call : Ticketing.Call} {db : Ticketing.Database}
    {statement : Ticketing.Statement} {row : Ticketing.BookingRow} {outcome : Payment.TransactionStatus}
    (justified : Ticketing.Justified false call db statement) (origin : Ticketing.StatusOrigin statement db row)
    (settled : paymentOf row.status = some outcome) :
    (∃ old ∈ db.bookings.rows, old.id = row.id ∧ old.status = row.status) ∨
      consumed call = some (row.id,outcome) := by
  rcases origin with old | ⟨booking,rfl,status⟩ | rfl | ⟨booking,rfl,key⟩
  · exact .inl old
  · rw [status,justified.1] at settled
    cases settled
  · obtain ⟨status,paymentID,rfl⟩ := justified
    rw [status] at settled
    cases settled
    exact .inr rfl
  · obtain ⟨_,⟨_,status,rfl⟩ | ⟨_,status⟩,_⟩ := justified
    · rw [status] at settled
      cases settled
      rw [← key]
      exact .inr rfl
    · rw [status] at settled
      cases settled

theorem caused_of_run (run : Run (Ticketing.service reservationTTL) Anything (.idle .initial) config) :
    Caused config := by
  refine Path.invariant Caused (fun row member => by cases member) ?_ run
  intro config action after run before _ taken row member outcome settled
  have known (row : Ticketing.BookingRow) (member : row ∈ config.state.world.db.bookings.rows)
      (settled : paymentOf row.status = some outcome) :
      ∃ call ∈ after.calls, consumed call = some (row.id,outcome) := by
    obtain ⟨call,started,named⟩ := before row member outcome settled
    exact ⟨call,Config.calls_kept taken started,named⟩
  have kept {call : Ticketing.Call} (started : call ∈ config.calls) := Config.calls_kept taken started
  rcases Config.next_state taken with same | ⟨index,fault,call,statement,next,rfl,found,rfl⟩
  · rw [same] at member
    exact known row member settled
  · have justified := Ticketing.justified_of_run (Ticketing.Reads.any Anything) Ticketing.furnished_initial run found
    rcases consumed_of_origin justified (Ticketing.booking_origin statement fault _ row member).1 settled with
      ⟨old,stored,key,status⟩ | named
    · rw [← key]
      exact known old stored (status.symm ▸ settled)
    · exact ⟨call,kept (List.mem_map_of_mem (List.mem_of_getElem? found)),named⟩

end Ticketing

section Messages
variable {reservationTTL : Nat} {settings : Payment.Settings} {system last : System}

def Asked (system : System) : Prop :=
  ∀ call ∈ system.1.calls, ∀ bookingID outcome, consumed call = some (bookingID,outcome) →
    ∃ message ∈ system.2.state.world.outbox.broker, message.bookingID = bookingID ∧ message.outcome = outcome

private theorem asked_of_delivers {call : Ticketing.Call} {bookingID : Ticketing.ID}
    {outcome : Payment.TransactionStatus} (delivered : Delivers system (.inl (.start call)))
    (named : consumed call = some (bookingID,outcome)) :
    ∃ message ∈ system.2.state.world.outbox.broker, message.bookingID = bookingID ∧ message.outcome = outcome := by
  cases call with
  | confirm booking paymentID =>
    cases named
    obtain ⟨message,member,same⟩ := List.any_eq_true.mp delivered
    cases message with
    | completed =>
      rw [Bool.and_eq_true] at same
      exact ⟨_,member,of_decide_eq_true same.1,rfl⟩
    | expired => cases same
  | expireOnPaymentExpired booking =>
    cases named
    obtain ⟨message,member,same⟩ := List.any_eq_true.mp delivered
    cases message with
    | completed => cases same
    | expired => exact ⟨_,member,of_decide_eq_true same,rfl⟩
  | _ => cases named

private theorem published_of_next {config after : Payment.Pool} {action : Payment.Step}
    (taken : config.next (Payment.service settings) action = some after) {message : Payment.Message}
    (published : message ∈ config.state.world.outbox.broker) : message ∈ after.state.world.outbox.broker := by
  rcases Config.next_state taken with same | ⟨index,fault,call,statement,next,rfl,found,rfl⟩
  · rw [same]
    exact published
  · exact Payment.execute_published statement fault _ message published

theorem asked_of_path (path : Path (next reservationTTL settings) Delivers .initial system) : Asked system := by
  refine path.invariant Asked (fun call member => by cases member) ?_
  intro system move after _ before delivered taken call member bookingID outcome named
  cases move with
  | inl action =>
    obtain ⟨moved,isMoved,rfl⟩ := Option.map_eq_some_iff.mp taken
    rcases Config.next_calls _ _ _ _ isMoved with same | ⟨new,rfl,same⟩
    · exact before call (same ▸ member) bookingID outcome named
    · have either : call ∈ system.1.calls ++ [new] := same ▸ member
      rcases List.mem_append.mp either with old | fresh
      · exact before call old bookingID outcome named
      · cases List.mem_singleton.mp fresh
        have asked := asked_of_delivers delivered named
        exact asked
  | inr action =>
    obtain ⟨moved,isMoved,rfl⟩ := Option.map_eq_some_iff.mp taken
    obtain ⟨message,published,names⟩ := before call member bookingID outcome named
    exact ⟨message,published_of_next isMoved published,names⟩

private theorem settled_of_message {config : Payment.Pool}
    (run : Run (Payment.service settings) Anything (.idle .initial) config) {message : Payment.Message}
    (published : message ∈ config.state.world.outbox.broker) :
    ∃ row ∈ config.state.world.db.transactions.rows, row.bookingID = message.bookingID ∧
      row.transaction.status = message.outcome := by
  obtain ⟨owed,announced⟩ := Payment.announced_of_run run
  have inserted := (Payment.sound_of_run .initial run).broker message published
  obtain ⟨row,found,⟨booking,_⟩,outcome⟩ := announced.messages message inserted
  exact ⟨row,Table.find?_mem found,booking.symm,outcome.symm⟩

theorem paid_of_path {middle : System} (before : Path (next reservationTTL settings) Delivers .initial middle)
    (after : Path (next reservationTTL settings) Delivers middle last) {row : Ticketing.BookingRow}
    (stored : row ∈ middle.1.state.world.db.bookings.rows) {outcome : Payment.TransactionStatus}
    (settled : paymentOf row.status = some outcome) :
    ∃ txn ∈ last.2.state.world.db.transactions.rows, txn.bookingID = row.id ∧ txn.transaction.status = outcome := by
  have path := before.trans after
  have ticketing : Run (Ticketing.service reservationTTL) Anything (.idle .initial) middle.1 :=
    before.left fun _ _ _ => trivial
  have later : Run (Ticketing.service reservationTTL) Anything middle.1 last.1 := after.left fun _ _ _ => trivial
  have payment : Run (Payment.service settings) Anything (.idle .initial) last.2 := path.right fun _ _ _ => trivial
  obtain ⟨call,started,named⟩ := caused_of_run ticketing row stored outcome settled
  obtain ⟨message,published,booking,rfl⟩ := asked_of_path path call (Run.calls_kept later started) _ _ named
  rw [← booking]
  exact settled_of_message payment published

theorem agreement_of_path {middle : System} (before : Path (next reservationTTL settings) Delivers .initial middle)
    (after : Path (next reservationTTL settings) Delivers middle last) {row : Ticketing.BookingRow}
    (stored : row ∈ middle.1.state.world.db.bookings.rows) {outcome : Payment.TransactionStatus}
    (settled : paymentOf row.status = some outcome) {txn : Payment.TransactionRow}
    (kept : txn ∈ last.2.state.world.db.transactions.rows) (same : txn.bookingID = row.id) :
    txn.transaction.status = outcome := by
  obtain ⟨paid,member,booking,status⟩ := paid_of_path before after stored settled
  have equal := List.inj_on_of_nodup_map last.2.state.world.db.bookings_unique kept member (same.trans booking.symm)
  rw [equal,status]

end Messages

/-- In every run of both services, whatever is lost, repeated, delayed or reordered: a
booking that is or has ever been confirmed has a completed transaction, and one that is
or has ever been expired an expired one, now and at any later moment. -/
theorem bookings_agree_with_payments (reservationTTL : Nat) (settings : Payment.Settings) (middle last : System)
    (before : Path (next reservationTTL settings) Delivers .initial middle)
    (after : Path (next reservationTTL settings) Delivers middle last) :
    ∀ row ∈ middle.1.state.world.db.bookings.rows, ∀ txn ∈ last.2.state.world.db.transactions.rows,
      txn.bookingID = row.id →
      (row.status = .confirmed → txn.transaction.status = .completed) ∧
      (row.status = .expired → txn.transaction.status = .expired) := by
  intro row stored txn kept same
  refine ⟨fun confirmed => ?_,fun expired => ?_⟩
  · exact agreement_of_path before after stored (by rw [confirmed]; rfl) kept same
  · exact agreement_of_path before after stored (by rw [expired]; rfl) kept same

def purchase : List Move :=
  Ticketing.reservation.map .inl ++
  (.start (.initiateTxnForBooking ⟨2,0,3,"e",20,900000000000⟩) :: Payment.undisturbed 0 2 ++
    .start (.processPayment 2 3) :: Payment.undisturbed 1 7 ++
    .start (.handleSessionWebhook (some ⟨.completed,some 2,"ps",""⟩)) :: Payment.undisturbed 2 4 ++
    .start .processBatch :: Payment.undisturbed 3 3).map .inr ++
  (.start (.confirm 2 0) :: Ticketing.undisturbed 3 5).map .inl

theorem bookings_agree_with_payments_purchase : ∃ system : System,
    Path (next 900000000000 Payment.sandbox) Delivers .initial system ∧
    (∃ row ∈ system.1.state.world.db.bookings.rows, row.status = .confirmed ∧
      ∃ txn ∈ system.2.state.world.db.transactions.rows, txn.bookingID = row.id) ∧
    ∀ row ∈ system.1.state.world.db.bookings.rows, ∀ txn ∈ system.2.state.world.db.transactions.rows,
      txn.bookingID = row.id →
      (row.status = .confirmed → txn.transaction.status = .completed) ∧
      (row.status = .expired → txn.transaction.status = .expired) := by
  obtain ⟨system,path,outcome⟩ := exists_path_of_follow (next 900000000000 Payment.sandbox) Delivers purchase .initial
    (fun system => system.1.state.world.db.bookings.rows.any fun row => row.status = .confirmed &&
      system.2.state.world.db.transactions.rows.any fun txn => txn.bookingID = row.id) (by decide +kernel)
  simp only [List.any_eq_true,Bool.and_eq_true,decide_eq_true_eq] at outcome
  exact ⟨system,path,outcome,bookings_agree_with_payments _ _ system system path .refl⟩

end Ticketbus.Deployment
