import Ticketbus.Deployment.Agreement
import Ticketbus.Deployment.ChargedAmounts
import Ticketbus.Deployment.Refinement
import Ticketbus.Ticketing.PaymentRequests

/-! Every transaction has its booking: a transaction goes back to a request of the ticketing
service, and the request to a booking that is stored. What is so for the system is so for
the network, which refines it. -/
namespace Ticketbus.Deployment
open Ticketbus.Concurrency Ticketbus.Relational Wire
variable {reservationTTL : Nat} {settings : Payment.Settings} {system : System}

theorem booked_of_transaction (path : Path (next reservationTTL settings) Delivers .initial system)
    {row : Payment.TransactionRow} (member : row ∈ system.2.state.world.db.transactions.rows) :
    ∃ booking ∈ system.1.state.world.db.bookings.rows, booking.id = row.bookingID ∧
      booking.userID = row.transaction.userID := by
  have payment : Run (Payment.service settings) Anything (.idle .initial) system.2 := path.right fun _ _ _ => trivial
  have ticketing : Run (Ticketing.service reservationTTL) Anything (.idle .initial) system.1 :=
    path.left fun _ _ _ => trivial
  obtain ⟨thread,request,txn,_,started,_,made⟩ := (Payment.initiated_of_run payment).made row member
  obtain ⟨sent,requested,rfl⟩ := requested_of_path path request (List.mem_of_getElem? started)
  obtain ⟨booking,found,user⟩ := Ticketing.requested_of_run ticketing sent requested
  exact ⟨booking,Table.find?_mem found,(Table.find?_key found).trans made.bookingID.symm,user.trans made.userID.symm⟩

/-- Whatever the tables, the workers, the topics and the consumers do: every transaction is for a stored booking of
its user, and every booking whose status says something about its payment has a transaction of which it is so. -/
theorem network_payments_agree (reservationTTL : Nat) (settings : Payment.Settings) (codec : Codec) (network : Network)
    (path : Path (Network.next reservationTTL settings codec) Network.Wired .initial network) :
    (∀ txn ∈ network.payment.state.world.db.transactions.rows,
      ∃ booking ∈ network.ticketing.state.world.db.bookings.rows, booking.id = txn.bookingID ∧
        booking.userID = txn.transaction.userID ∧
          ∀ outcome, paymentOf booking.status = some outcome → txn.transaction.status = outcome) ∧
    ∀ booking ∈ network.ticketing.state.world.db.bookings.rows, ∀ outcome, paymentOf booking.status = some outcome →
      ∃ txn ∈ network.payment.state.world.db.transactions.rows, txn.bookingID = booking.id ∧
        txn.transaction.status = outcome := by
  obtain ⟨system,reached,simulates⟩ := exists_simulation path
  have ticketing : system.1.state.world.db = network.ticketing.state.world.db := by
    rw [← simulates.matches.ticketing]
  have payment : system.2.state.world.db = network.payment.state.world.db := by
    rw [← simulates.matches.payment]
  rw [← payment,← ticketing]
  constructor
  · intro txn member
    obtain ⟨booking,stored,key,user⟩ := booked_of_transaction reached member
    exact ⟨booking,stored,key,user,fun outcome settled => agreement_of_path reached .refl stored settled member key.symm⟩
  · intro booking stored outcome settled
    exact paid_of_path reached .refl stored settled

theorem network_payments_agree_purchase : ∃ network : Network,
    Path (Network.next 900000000000 Payment.sandbox unary) Network.Wired .initial network ∧
    network.payment.state.world.db.transactions.rows.map (fun txn => txn.transaction.status) = [.completed] ∧
    (∀ txn ∈ network.payment.state.world.db.transactions.rows,
      ∃ booking ∈ network.ticketing.state.world.db.bookings.rows, booking.id = txn.bookingID ∧
        booking.userID = txn.transaction.userID ∧
          ∀ outcome, paymentOf booking.status = some outcome → txn.transaction.status = outcome) ∧
    ∀ booking ∈ network.ticketing.state.world.db.bookings.rows, ∀ outcome, paymentOf booking.status = some outcome →
      ∃ txn ∈ network.payment.state.world.db.transactions.rows, txn.bookingID = booking.id ∧
        txn.transaction.status = outcome := by
  obtain ⟨network,path,outcome⟩ := exists_path_of_follow (Network.next 900000000000 Payment.sandbox unary) Network.Wired
    wiredPurchase .initial (fun network => decide
      (network.payment.state.world.db.transactions.rows.map (fun txn => txn.transaction.status) = [.completed]))
    (by decide +kernel)
  exact ⟨network,path,of_decide_eq_true outcome,network_payments_agree _ _ unary network path⟩

end Ticketbus.Deployment
