import Ticketbus.Deployment.System
import Ticketbus.Ticketing.Totals
import Ticketbus.Payment.Initiation

/-! What is charged for a booking. A transaction goes back to a request that the payment
service was given, the request to one that `Reserve` has sent, and that one asks for what
the stored items of the booking add up to. -/
namespace Ticketbus.Deployment
open Ticketbus.Concurrency Ticketbus.Relational

def Charges (txn : Payment.Transaction) (request : Payment.InternalCreateRequest) : Prop :=
  txn.bookingID = request.bookingID ∧ txn.amountRupiah = request.amountRupiah

theorem Charges.fixed {txn other : Payment.Transaction} {request : Payment.InternalCreateRequest}
    (charges : Charges other request) (same : txn.fixed = other.fixed) : Charges txn request :=
  ⟨(Payment.Transaction.bookingID_fixed same).trans charges.1,
    (congrArg Payment.Transaction.amountRupiah same).trans charges.2⟩

section Payment
variable {settings : Payment.Settings} {config : Payment.Pool}

theorem charged_of_run (run : Run (Payment.service settings) Anything (.idle .initial) config) :
    ∀ row ∈ config.state.world.db.transactions.rows, ∃ request,
      .initiateTxnForBooking request ∈ config.calls ∧ Charges row.transaction request := by
  refine Path.invariant (fun config : Payment.Pool => ∀ row ∈ config.state.world.db.transactions.rows, ∃ request,
    .initiateTxnForBooking request ∈ config.calls ∧ Charges row.transaction request)
    (fun row member => by cases member) ?_ run
  intro config action after run before _ taken row member
  have known (old : Payment.TransactionRow) (stored : old ∈ config.state.world.db.transactions.rows)
      (same : row.transaction.fixed = old.transaction.fixed) : ∃ request,
      .initiateTxnForBooking request ∈ after.calls ∧ Charges row.transaction request := by
    obtain ⟨request,started,charges⟩ := before old stored
    exact ⟨request,Config.calls_kept taken started,charges.fixed same⟩
  have kept {call : Payment.Call} (started : call ∈ config.calls) := Config.calls_kept taken started
  rcases Config.next_state taken with same | ⟨index,fault,call,statement,next,rfl,found,rfl⟩
  · rw [same] at member
    exact known row member rfl
  · rcases Payment.execute_origin member with ⟨old,stored,same⟩ | ⟨txn,rfl,same⟩
    · exact known old stored same
    · obtain ⟨request,rfl,made⟩ := Run.issues (Payment.program_createsFor settings) run found
      refine ⟨request,kept (List.mem_map_of_mem (List.mem_of_getElem? found)),?_⟩
      rw [same]
      exact ⟨made.bookingID,made.amountRupiah⟩

end Payment

section System
variable {reservationTTL : Nat} {settings : Payment.Settings} {system last : System}

theorem requests_of_next {config after : Ticketing.Pool} {action : Ticketing.Step}
    (taken : config.next (Ticketing.service reservationTTL) action = some after) {request : Ticketing.InitiateRequest}
    (sent : request ∈ config.state.world.requests) : request ∈ after.state.world.requests := by
  rcases Config.next_state taken with same | ⟨index,fault,call,statement,next,rfl,found,rfl⟩
  · rw [same]
    exact sent
  · rcases Ticketing.execute_requests statement fault config.state.world with same | ⟨new,_,same⟩
    · exact same.symm ▸ sent
    · exact same.symm ▸ List.mem_cons_of_mem _ sent

theorem requested_of_path (path : Path (next reservationTTL settings) Delivers .initial system) :
    ∀ request, .initiateTxnForBooking request ∈ system.2.calls →
      ∃ sent ∈ system.1.state.world.requests, received sent = request := by
  refine path.invariant (fun system => ∀ request, .initiateTxnForBooking request ∈ system.2.calls →
    ∃ sent ∈ system.1.state.world.requests, received sent = request) (fun request member => by cases member) ?_
  intro system move after _ before delivered taken request member
  rcases move with action | action
  · obtain ⟨moved,isMoved,rfl⟩ := Option.map_eq_some_iff.mp taken
    obtain ⟨sent,stored,same⟩ := before request member
    exact ⟨sent,requests_of_next isMoved stored,same⟩
  · obtain ⟨moved,isMoved,rfl⟩ := Option.map_eq_some_iff.mp taken
    rcases Config.next_calls _ _ _ _ isMoved with same | ⟨new,rfl,same⟩
    · exact before request (same ▸ member)
    · have either : .initiateTxnForBooking request ∈ system.2.calls ++ [new] := same ▸ member
      rcases List.mem_append.mp either with old | fresh
      · exact before request old
      · cases List.mem_singleton.mp fresh
        obtain ⟨sent,stored,named⟩ := List.any_eq_true.mp (Bool.and_eq_true_iff.mp delivered).2
        exact ⟨sent,stored,of_decide_eq_true named⟩

/-- The items of the booking that a call was not given, as its stream broke off before them. -/
def Misses (system : System) (index : Nat) (bookingID : Ticketing.ID) (missing : List Ticketing.BookingItemRow) : Prop :=
  ∃ rows, ⟨index,.listItems bookingID,.ok rows⟩ ∈ system.1.state.history ∧
    rows.items ++ missing = system.1.state.world.db.itemsOf bookingID

/-- All amounts that go with a booking, wherever they are computed or stored. A loader's is the same exactly if the
items it was not given add up to nothing. -/
structure Agree (system : System) (bookingID : Ticketing.ID) (amount : Int) : Prop where
  requested : ∀ request, Ticketing.Sent system.1.state request → request.bookingID = bookingID →
    request.amountRupiah = amount
  charged : ∀ row ∈ system.2.state.world.db.transactions.rows, row.bookingID = bookingID →
    row.transaction.amountRupiah = amount
  found : ∀ index call booking, system.1.returned index = some (call,.booking (.ok booking)) →
    booking.id = bookingID → ∃ missing, Misses system index bookingID missing ∧
      (booking.totalRupiah = amount ↔ Ticketing.total missing = 0)
  listed : ∀ index call bookings, system.1.returned index = some (call,.bookings (.ok bookings)) →
    ∀ booking ∈ bookings, booking.id = bookingID → ∃ missing, Misses system index bookingID missing ∧
      (booking.totalRupiah = amount ↔ Ticketing.total missing = 0)

theorem agree_of_path (path : Path (next reservationTTL settings) Delivers .initial system) {bookingID : Ticketing.ID}
    {amount : Int} (priced : system.1.state.world.db.Priced bookingID amount) : Agree system bookingID amount := by
  have run : Run (Ticketing.service reservationTTL) Anything (.idle .initial) system.1 := path.left fun _ _ _ => trivial
  have requested (request : Ticketing.InitiateRequest) (sent : Ticketing.Sent system.1.state request)
      (named : request.bookingID = bookingID) : request.amountRupiah = amount := by
    have asks := Ticketing.asks_of_run run sent
    unfold Ticketing.Asks at asks
    rw [named] at asks
    exact asks.2.symm.trans priced.2
  have displayed {index : Nat} {booking : Ticketing.Booking} (displays : Ticketing.Displays index system.1.state booking)
      (named : booking.id = bookingID) : ∃ missing, Misses system index bookingID missing ∧
        (booking.totalRupiah = amount ↔ Ticketing.total missing = 0) := by
    subst named
    obtain ⟨_,rows,answer,⟨missing,all⟩,sum⟩ := displays
    refine ⟨missing,⟨rows,answer,all⟩,?_⟩
    rw [sum,← priced.2,← all,eq_comm]
    exact Ticketing.total_append_eq_iff rows.items missing
  refine ⟨requested,?_,?_,?_⟩
  · intro row stored named
    obtain ⟨request,started,booked,charges⟩ := charged_of_run (path.right fun _ _ _ => trivial) row stored
    obtain ⟨sent,recorded,rfl⟩ := requested_of_path path request started
    rw [charges]
    exact requested sent (Ticketing.sent_of_run run sent recorded) (booked.symm.trans named)
  · intro index call booking returned
    exact displayed ((Ticketing.quoted_of_run run returned).2.1 booking rfl)
  · intro index call bookings returned booking member
    exact displayed ((Ticketing.quoted_of_run run returned).2.2 bookings rfl booking member)

end System

/-- Once a reservation has succeeded, its total is the amount it has asked the payment service for and the amount of
every transaction of the booking, from then on. It is also the total that each of the loaders shows, exactly where
the items that its stream broke off before add up to nothing. -/
theorem charged_as_booked (reservationTTL : Nat) (settings : Payment.Settings) (middle last : System) (index : Nat)
    (userID : Ticketing.ID) (userEmail : String) (request : Ticketing.ReserveRequest) (res : Ticketing.Reservation)
    (before : Path (next reservationTTL settings) Delivers .initial middle)
    (returned : middle.1.returned index = some (.reserve userID userEmail request,.reservation (.ok res)))
    (after : Path (next reservationTTL settings) Delivers middle last) :
    (∃ sent, ⟨index,.initiateTxnForBooking sent,.ok ()⟩ ∈ middle.1.state.history ∧
      sent.bookingID = res.bookingID ∧ sent.amountRupiah = res.totalRupiah) ∧
    Agree last res.bookingID res.totalRupiah := by
  have reached : Run (Ticketing.service reservationTTL) Anything (.idle .initial) middle.1 :=
    before.left fun _ _ _ => trivial
  have later : Run (Ticketing.service reservationTTL) Anything middle.1 last.1 := after.left fun _ _ _ => trivial
  obtain ⟨priced,asked⟩ := (Ticketing.quoted_of_run reached returned).1 res rfl
  refine ⟨asked,agree_of_path (before.trans after) ?_⟩
  exact priced.later (Ticketing.persists_of_run Ticketing.furnished_initial reached later)

def twenty : Ticketing.Reservation := ⟨2,3,0,[⟨3,2,1,4,5,20⟩],20,.pending,900000000000,0⟩

/-- It is requested from the payment service and looked up. -/
theorem charged_as_booked_twenty : ∃ middle last : System,
    Path (next 900000000000 Payment.sandbox) Delivers .initial middle ∧
    middle.1.returned 2 = some (.reserve 3 "e" Ticketing.fourTickets,.reservation (.ok twenty)) ∧
    Path (next 900000000000 Payment.sandbox) Delivers middle last ∧ Agree last 2 20 ∧
    (∃ row ∈ last.2.state.world.db.transactions.rows, row.bookingID = 2) ∧
    last.1.returned 3 = some (.getBooking 2,.booking (.ok ⟨2,3,0,.pending,some 900000000000,20,twenty.items⟩)) := by
  obtain ⟨middle,before,outcome⟩ := exists_path_of_follow (next 900000000000 Payment.sandbox) Delivers
    (Ticketing.reservation.map .inl) .initial
    (fun (middle : System) => middle.1.returned 2 =
        some (.reserve 3 "e" Ticketing.fourTickets,.reservation (.ok twenty)) &&
      (follow (next 900000000000 Payment.sandbox) Delivers middle
        ((.start (.initiateTxnForBooking ⟨2,0,3,"e",20,900000000000⟩) :: Payment.undisturbed 0 2).map .inr ++
          (.start (.getBooking 2) :: Ticketing.undisturbed 3 2).map .inl)).any fun (last : System) =>
        (last.2.state.world.db.transactions.rows.any fun row => row.bookingID = 2) &&
        last.1.returned 3 = some (.getBooking 2,
          .booking (.ok ⟨2,3,0,.pending,some 900000000000,20,twenty.items⟩))) (by decide +kernel)
  simp only [Bool.and_eq_true,decide_eq_true_eq,Option.any_eq_true,List.any_eq_true] at outcome
  obtain ⟨returned,last,followed,stored,shown⟩ := outcome
  have after := path_of_follow _ _ _ _ _ followed
  exact ⟨middle,last,before,returned,after,
    (charged_as_booked _ _ middle last 2 3 "e" _ twenty before returned after).2,stored,shown⟩

/-- The connection is lost before the first item comes: the same booking is shown without items, for nothing. -/
theorem booking_shown_for_nothing : ∃ middle last : System,
    Path (next 900000000000 Payment.sandbox) Delivers .initial middle ∧
    middle.1.returned 2 = some (.reserve 3 "e" Ticketing.fourTickets,.reservation (.ok twenty)) ∧
    Path (next 900000000000 Payment.sandbox) Delivers middle last ∧
    last.1.returned 3 = some (.getBooking 2,.booking (.ok ⟨2,3,0,.pending,some 900000000000,0,[]⟩)) ∧
    twenty.bookingID = 2 ∧ twenty.totalRupiah ≠ 0 := by
  obtain ⟨middle,before,outcome⟩ := exists_path_of_follow (next 900000000000 Payment.sandbox) Delivers
    (Ticketing.reservation.map .inl) .initial
    (fun (middle : System) => middle.1.returned 2 =
        some (.reserve 3 "e" Ticketing.fourTickets,.reservation (.ok twenty)) &&
      (follow (next 900000000000 Payment.sandbox) Delivers middle
        ([.start (.getBooking 2),.step 3 .none,.step 3 (.broken 0)].map .inl)).any fun (last : System) =>
        last.1.returned 3 = some (.getBooking 2,.booking (.ok ⟨2,3,0,.pending,some 900000000000,0,[]⟩)))
    (by decide +kernel)
  simp only [Bool.and_eq_true,decide_eq_true_eq,Option.any_eq_true] at outcome
  obtain ⟨returned,last,followed,shown⟩ := outcome
  exact ⟨middle,last,before,returned,path_of_follow _ _ _ _ _ followed,shown,rfl,by decide⟩

end Ticketbus.Deployment
