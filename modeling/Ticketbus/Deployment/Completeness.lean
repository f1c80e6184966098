import Ticketbus.Deployment.Agreement
import Ticketbus.Ticketing.Announcements

/-! The outbox against the tables of both services. The change and its row are two
statements, so a row is missing where the second fails or is never reached. -/
namespace Ticketbus.Deployment
open Ticketbus.Concurrency

/-- Whatever has been changed has been put in the outbox. -/
structure Complete (earlier system : System) : Prop where
  payments : ∀ row ∈ system.2.state.world.db.transactions.rows,
    row.transaction.status = .completed ∨ row.transaction.status = .expired →
    ∃ message ∈ system.2.state.world.outbox.messages, message.transactionID = row.id ∧
      message.outcome = row.transaction.status
  cancellations : ∀ row ∈ system.1.state.world.db.events.rows, row.event.status = .cancelled →
    ∃ at_, .eventCancelled row.id at_ ∈ system.1.state.world.outbox.messages
  tickets : ∀ row ∈ earlier.1.state.world.db.bookings.rows, row.status = .confirmed →
    ∀ item ∈ system.1.state.world.db.itemsOf row.id, Ticketing.issued system.1.state.world item.id = 1

/-- Where no outbox insert fails or is cut off, every change is in the outbox as soon as no
call is in progress; a booking may have been confirmed at any earlier moment. -/
theorem outbox_complete (reservationTTL : Nat) (settings : Payment.Settings) (earlier system : System)
    (before : Path (next reservationTTL settings) (Under Ticketing.Dependable Payment.Dependable) .initial earlier)
    (after : Path (next reservationTTL settings) (Under Ticketing.Dependable Payment.Dependable) earlier system)
    (ticketing : system.1.Quiet) (payment : system.2.Quiet) : Complete earlier system := by
  have first : Run (Ticketing.service reservationTTL) Ticketing.Dependable (.idle .initial) earlier.1 :=
    before.left fun _ _ permitted => permitted.2
  have later : Run (Ticketing.service reservationTTL) Ticketing.Dependable earlier.1 system.1 :=
    after.left fun _ _ permitted => permitted.2
  have paid : Run (Payment.service settings) Payment.Dependable (.idle .initial) system.2 :=
    (before.trans after).right fun _ _ permitted => permitted.2
  refine ⟨fun row member settled => ?_,fun row member cancelled => ?_,fun row member confirmed item own => ?_⟩
  · refine Payment.settlements_announced paid payment member ?_
    rcases settled with completed | expired
    · rw [completed]
      rfl
    · rw [expired]
      rfl
  · exact Ticketing.cancellation_announced (first.trans later) ticketing member cancelled
  · exact Ticketing.tickets_issued first later ticketing member confirmed own

/-- A booking is paid for and confirmed, then the event is cancelled. -/
theorem outbox_complete_purchase : ∃ earlier system : System,
    Path (next 900000000000 Payment.sandbox) (Under Ticketing.Dependable Payment.Dependable) .initial earlier ∧
    Path (next 900000000000 Payment.sandbox) (Under Ticketing.Dependable Payment.Dependable) earlier system ∧
    (∃ row ∈ earlier.1.state.world.db.bookings.rows, row.status = .confirmed) ∧
    (∃ row ∈ system.1.state.world.db.events.rows, row.event.status = .cancelled) ∧
    (∃ row ∈ system.2.state.world.db.transactions.rows, row.transaction.status = .completed) ∧
    Complete earlier system := by
  obtain ⟨earlier,before,outcome⟩ := exists_path_of_follow (next 900000000000 Payment.sandbox)
    (Under Ticketing.Dependable Payment.Dependable) purchase .initial
    (fun (earlier : System) => (earlier.1.state.world.db.bookings.rows.any fun row => row.status = .confirmed) &&
      (follow (next 900000000000 Payment.sandbox) (Under Ticketing.Dependable Payment.Dependable) earlier
        ((.start (.cancelEvent 0 7) :: Ticketing.undisturbed 4 6).map .inl)).any fun (system : System) =>
        decide system.1.Quiet && decide system.2.Quiet &&
        (system.1.state.world.db.events.rows.any fun row => row.event.status = .cancelled) &&
        (system.2.state.world.db.transactions.rows.any fun row => row.transaction.status = .completed))
    (by decide +kernel)
  simp only [Bool.and_eq_true,decide_eq_true_eq,Option.any_eq_true,List.any_eq_true] at outcome
  obtain ⟨confirmed,system,followed,⟨⟨ticketing,payment⟩,cancelled⟩,completed⟩ := outcome
  have after := path_of_follow _ _ _ _ _ followed
  exact ⟨earlier,system,before,after,confirmed,cancelled,completed,
    outbox_complete _ _ earlier system before after ticketing payment⟩

def unannounced : List Payment.Step :=
  .start (.initiateTxnForBooking ⟨2,0,3,"e",20,900000000000⟩) :: Payment.undisturbed 0 2 ++
    .start (.processPayment 2 3) :: Payment.undisturbed 1 7 ++
    .start (.handleSessionWebhook (some ⟨.completed,some 2,"ps",""⟩)) :: Payment.undisturbed 2 3 ++ [.step 2 .fail]

/-- The error of that insert is dropped, and the webhook answered. -/
theorem outbox_incomplete : ¬∀ (reservationTTL : Nat) (settings : Payment.Settings) (earlier system : System),
    Path (next reservationTTL settings) Delivers .initial earlier →
    Path (next reservationTTL settings) Delivers earlier system →
    system.1.Quiet → system.2.Quiet → Complete earlier system := by
  intro complete
  obtain ⟨system,path,outcome⟩ := exists_path_of_follow (next 900000000000 Payment.sandbox) Delivers
    (Ticketing.reservation.map .inl ++ unannounced.map .inr) .initial
    (fun (system : System) => decide system.1.Quiet && decide system.2.Quiet &&
      (system.2.state.world.db.transactions.rows.any fun row => row.transaction.status = .completed) &&
      system.2.state.world.outbox.messages.isEmpty) (by decide +kernel)
  simp only [Bool.and_eq_true,decide_eq_true_eq,List.any_eq_true,List.isEmpty_iff] at outcome
  obtain ⟨⟨⟨ticketing,payment⟩,row,member,completed⟩,empty⟩ := outcome
  obtain ⟨message,inserted,_⟩ := (complete _ _ system system path .refl ticketing payment).payments row member
    (.inl completed)
  rw [empty] at inserted
  cases inserted

end Ticketbus.Deployment
