import Ticketbus.Payment.PaymentHandler
import Ticketbus.Payment.Settlement
import Ticketbus.Ticketing.Releases

/-! Row streams that break off. `BookingRepo.ListByEventID` asks its outer stream for an
error; the item loops, `ListTicketTypesByEvent` and `collectTxns` do not, and take the rows
that came for all the rows. Where no such stream breaks off the answers are whole, and so
is what is done with them. -/
namespace Ticketbus.Payment
open Ticketbus.Concurrency Ticketbus.Relational

variable (settings : Settings)

theorem collectTxns_ok {fault : Fault} {world : World} {all txns : List Transaction}
    (ok : TransactionRepo.collectTxns (stream fault world all).1 = .ok txns) : txns = fault.delivers all := by
  rcases reply : (stream fault world all).1 with error | rows
  · rw [reply] at ok
    cases ok
  · rw [reply] at ok
    cases ok
    exact stream_ok reply

theorem listByEventID_run (faults : Nat → Fault) (world : World) (eventID : ID) (txns : List Transaction)
    (ok : ((TransactionRepo.listByEventID eventID).run (execute settings) faults world).value = .ok txns) :
    txns = (faults 0).delivers (world.db.listByEventID eventID) := by
  change TransactionRepo.collectTxns (stream (faults 0) world (world.db.listByEventID eventID)).1 = _ at ok
  exact collectTxns_ok ok

theorem listActiveExpired_run (faults : Nat → Fault) (world : World) (now : Time) (limit : Nat) (txns : List Transaction)
    (ok : ((TransactionRepo.listActiveExpired now limit).run (execute settings) faults world).value = .ok txns) :
    txns = (faults 0).delivers (world.db.listActiveExpired now limit) := by
  change TransactionRepo.collectTxns (stream (faults 0) world (world.db.listActiveExpired now limit)).1 = _ at ok
  exact collectTxns_ok ok

/-- The refund that a cancelled event owes for a transaction is among the statements. -/
def AskedFor (ops : List Statement) (txn : Transaction) : Prop :=
  ∃ id, .createRefund (PaymentService.refundOf txn .eventCancelled (.eventCancelled txn.id) id) ∈ ops

theorem refundAll_asks (txns : List Transaction) (world : World) :
    (PaymentService.refundAll txns).Ensures (execute settings) (fun outcome => outcome.value = .ok () →
      ∀ txn ∈ txns, txn.status = .completed → AskedFor outcome.ops txn) world := by
  induction txns generalizing world with
  | nil => exact fun _ => nofun
  | cons txn rest ih =>
    rw [PaymentService.refundAll]
    split
    · refine .perform fun id _ => .perform fun created _ => ?_
      rcases created with error | _
      · exact nofun
      refine .perform fun updated later => ?_
      rcases updated with error | _
      · exact nofun
      refine (ih later).mono fun outcome all value => List.forall_mem_cons.mpr ⟨fun _ => ?_,fun other member completed => ?_⟩
      · exact ⟨id,List.mem_cons_of_mem _ List.mem_cons_self⟩
      · obtain ⟨other,inside⟩ := all value other member completed
        exact ⟨other,List.mem_cons_of_mem _ (List.mem_cons_of_mem _ (List.mem_cons_of_mem _ inside))⟩
    · rename_i other
      refine (ih world).mono fun outcome all value => List.forall_mem_cons.mpr ⟨?_,all value⟩
      exact fun completed => absurd completed other

theorem handleEventCancelled_refunds (faults : Nat → Fault) (world : World) (eventID : ID)
    (nil : ((PaymentService.handleEventCancelled eventID).run (execute settings) faults world).value = .ok ())
    (whole : ¬ (faults 0).Cuts (world.db.listByEventID eventID)) :
    ∀ txn ∈ world.db.listByEventID eventID, txn.status = .completed →
      AskedFor ((PaymentService.handleEventCancelled eventID).run (execute settings) faults world).ops txn := by
  have collects := listByEventID_run settings faults world eventID
  rw [(Fault.delivers_eq_iff _ _).mpr whole] at collects
  change ((Program.bind (TransactionRepo.listByEventID eventID) _).run (execute settings) faults world).value = _ at nil
  change ∀ txn ∈ _, _ → AskedFor
    ((Program.bind (TransactionRepo.listByEventID eventID) _).run (execute settings) faults world).ops txn
  rw [Program.run_bind] at nil ⊢
  generalize (TransactionRepo.listByEventID eventID).run (execute settings) faults world = outcome at *
  cases value : outcome.value with
  | error error =>
    rw [value] at nil
    cases nil
  | ok txns =>
    rw [value] at nil
    intro txn member completed
    obtain ⟨id,inside⟩ := (refundAll_asks settings txns _).run _ nil txn (collects txns value ▸ member) completed
    rw [AskedFor,Outcome.ops_append]
    exact ⟨id,List.mem_append_right _ inside⟩

end Ticketbus.Payment

namespace Ticketbus.Deployment
open Ticketbus.Concurrency Ticketbus.Relational

section
variable (settings : Payment.Settings) (faults : Nat → Fault) (ticketing : Ticketing.World) (payment : Payment.World)

/-- What a call of the ticketing service returns when it runs alone. -/
def ticketingReturns {α : Type} (program : Ticketing.Task α) : α :=
  (program.run Ticketing.execute faults ticketing).value

def paymentReturns {α : Type} (program : Payment.Task α) : α :=
  (program.run (Payment.execute settings) faults payment).value

/-- What a call of the ticketing service leaves behind. -/
def left {α : Type} (program : Ticketing.Task α) : Ticketing.Database :=
  (program.run Ticketing.execute faults ticketing).world.db

/-- A loader that returns no error has all the rows of its query with all their items if and
only if no stream that it leaves unchecked breaks off before its end. Where none does, an
expiry or a cancellation gives back all the seats of its bookings, and a cancellation pass
asks for the refund of every paid transaction, or returns an error. -/
theorem unbroken_reads_whole :
    (∀ id booking, ticketingReturns faults ticketing (Ticketing.BookingRepo.findByID id) = .ok booking →
      ((∃ row, ticketing.db.bookings.find? id = some row ∧ booking = ticketing.db.bookingOf row) ↔
        ¬ (faults 1).Cuts (ticketing.db.itemsOf id))) ∧
    (∀ eventID bookings, ticketingReturns faults ticketing (Ticketing.BookingRepo.listByEventID eventID) = .ok bookings →
      (bookings = (ticketing.db.listBookings eventID).map ticketing.db.bookingOf ↔
        ticketing.db.Streamed (fun position => faults (position + 1)) (ticketing.db.listBookings eventID))) ∧
    (∀ eventID types, ticketingReturns faults ticketing (Ticketing.EventRepo.listTicketTypesByEvent eventID) = .ok types →
      (types = ticketing.db.listTicketTypesByEvent eventID ↔
        ¬ (faults 0).Cuts (ticketing.db.listTicketTypesByEvent eventID))) ∧
    (∀ eventID txns, paymentReturns settings faults payment (Payment.TransactionRepo.listByEventID eventID) = .ok txns →
      (txns = payment.db.listByEventID eventID ↔ ¬ (faults 0).Cuts (payment.db.listByEventID eventID))) ∧
    (∀ now limit txns,
      paymentReturns settings faults payment (Payment.TransactionRepo.listActiveExpired now limit) = .ok txns →
      (txns = payment.db.listActiveExpired now limit ↔ ¬ (faults 0).Cuts (payment.db.listActiveExpired now limit))) ∧
    (∀ bookingID paymentID program, program = Ticketing.BookingService.confirm bookingID paymentID ∨
        program = Ticketing.BookingService.expireOnPaymentExpired bookingID →
      ¬ (faults 1).Cuts (ticketing.db.itemsOf bookingID) →
      ∀ row next, ticketing.db.bookings.find? bookingID = some row →
        (left faults ticketing program).bookings.find? bookingID = some next →
        row.status.live = true → next.status.live = false →
        ticketing.db.Freed (left faults ticketing program) (ticketing.db.itemsOf bookingID)) ∧
    (∀ eventID, ticketingReturns faults ticketing (Ticketing.BookingService.cancelBookings eventID) = .ok () →
      ticketing.db.Streamed (fun position => faults (position + 1)) (ticketing.db.listBookings eventID) →
      ticketing.db.Freed (left faults ticketing (Ticketing.BookingService.cancelBookings eventID))
        (((ticketing.db.listBookings eventID).filter fun row => row.status.live).flatMap fun row =>
          ticketing.db.itemsOf row.id)) ∧
    ∀ eventID, paymentReturns settings faults payment (Payment.PaymentService.handleEventCancelled eventID) = .ok () →
      ¬ (faults 0).Cuts (payment.db.listByEventID eventID) →
      ∀ txn ∈ payment.db.listByEventID eventID, txn.status = .completed → Payment.AskedFor
        ((Payment.PaymentService.handleEventCancelled eventID).run (Payment.execute settings) faults payment).ops txn := by
  refine ⟨fun id booking value => ?_,fun eventID bookings value => ?_,fun eventID types value => ?_,
    fun eventID txns value => ?_,fun now limit txns value => ?_,fun bookingID paymentID program called whole => ?_,
    fun eventID value whole => ?_,fun eventID value whole => ?_⟩
  · obtain ⟨row,stored,_,rfl⟩ := ((Ticketing.findByID_run faults ticketing id).2 booking).mp value
    rw [← Table.find?_key stored,← Ticketing.Database.loaded_eq_iff]
    exact ⟨fun ⟨_,again,same⟩ => Option.some.inj (stored.symm.trans (Table.find?_key stored ▸ again)) ▸ same,
      fun same => ⟨row,Table.find?_key stored ▸ stored,same⟩⟩
  · rw [(Ticketing.listByEventID_run faults ticketing eventID).2 bookings value]
    exact Ticketing.Database.loadedAll_eq_iff _ _
  · rw [Ticketing.listTicketTypesByEvent_run faults ticketing eventID types value]
    exact Fault.delivers_eq_iff _ _
  · rw [Payment.listByEventID_run settings faults payment eventID txns value]
    exact Fault.delivers_eq_iff _ _
  · rw [Payment.listActiveExpired_run settings faults payment now limit txns value]
    exact Fault.delivers_eq_iff _ _
  · rcases called with rfl | rfl
    · exact Ticketing.confirm_frees bookingID paymentID ticketing faults whole
    · exact Ticketing.releaseReservation_frees bookingID ticketing .expired faults whole
  · exact Ticketing.cancelBookings_frees eventID ticketing faults whole value
  · exact Payment.handleEventCancelled_refunds settings faults payment eventID value whole

end

/-- An expiry undisturbed: it returns nil and the two seats are free again. -/
theorem unbroken_reads_whole_expired :
    ticketingReturns (fun _ => .none) Ticketing.booked (Ticketing.BookingService.expireOnPaymentExpired 3) = .ok () ∧
    Ticketing.booked.db.Freed (left (fun _ => .none) Ticketing.booked (Ticketing.BookingService.expireOnPaymentExpired 3))
      (Ticketing.booked.db.itemsOf 3) := by
  have whole := (unbroken_reads_whole Payment.sandbox (fun _ => .none) Ticketing.booked .initial).2.2.2.2.2.1
  exact ⟨by decide +kernel,whole 3 0 _ (.inr rfl) (by decide) _ _ rfl rfl rfl rfl⟩

def paidUp : Payment.World :=
  {Payment.World.initial with db := Payment.paidByAnother}

/-- The item stream breaks off before its first row: `FindByID` returns a booking without
items, and the expiry returns nil, the booking expired and no seat released. The stream of
transactions does the same: nil is returned and no refund asked for. -/
theorem truncated_reads_taken :
    ((Ticketing.BookingRepo.findByID 3).run Ticketing.execute (fun n => if n = 1 then .broken 0 else .none)
      Ticketing.booked).value.map Ticketing.Booking.items = .ok [] ∧
    ((Ticketing.BookingService.expireOnPaymentExpired 3).run Ticketing.execute
      (fun n => if n = 1 then .broken 0 else .none) Ticketing.booked).value = .ok () ∧
    ((left (fun n => if n = 1 then .broken 0 else .none) Ticketing.booked
      (Ticketing.BookingService.expireOnPaymentExpired 3)).bookings.find? 3).map Ticketing.BookingRow.status =
        some .expired ∧
    (left (fun n => if n = 1 then .broken 0 else .none) Ticketing.booked
      (Ticketing.BookingService.expireOnPaymentExpired 3)).ticketTypes.rows.map Ticketing.TicketTypeRow.availableSeat =
        Ticketing.booked.db.ticketTypes.rows.map Ticketing.TicketTypeRow.availableSeat ∧
    ((Payment.PaymentService.handleEventCancelled 0).run (Payment.execute Payment.sandbox)
      (fun _ => .broken 0) paidUp).value = .ok () ∧
    ((Payment.PaymentService.handleEventCancelled 0).run (Payment.execute Payment.sandbox)
      (fun _ => .broken 0) paidUp).ops = [.listByEventID 0] := by
  decide +kernel

end Ticketbus.Deployment
