import Ticketbus.Ticketing.ExactPrices

/-! How many tickets one order takes. A reservation stores its lines as they were asked for;
nobody on the way compares them with `max_per_order`. -/
namespace Ticketbus.Ticketing
open Ticketbus.Concurrency Ticketbus.Relational

def OrderedAs (line : BookingItem) (row : BookingItemRow) : Prop :=
  row.ticketTypeID = line.ticketTypeID ∧ row.quantity = line.quantity

theorem demand_ordered {items : List BookingItem} {rows : List BookingItemRow}
    (stored : List.Forall₂ OrderedAs items rows) (id : ID) : demand id rows = ordered id items := by
  induction stored with
  | nil => rfl
  | @cons line row items rows head tail ih =>
    obtain ⟨kind,quantity⟩ := head
    unfold demand ordered at *
    by_cases same : line.ticketTypeID = id
    · simp [kind,quantity,same,ih]
    · simp [kind,same,ih]

/-- No ticket type is taken more often than one order may take it. -/
def Database.WithinLimits (db : Database) (count : ID → Int) : Prop :=
  ∀ row ∈ db.ticketTypes.rows, count row.id ≤ row.maxPerOrder

theorem orderedAs_stored {bookingID : ID} {items named : List BookingItem} {rows : List BookingItemRow}
    (valued : List.Forall₂ (fun item own => Valued bookingID item own ∧ own.ticketTypeID = item.ticketTypeID) items named)
    (stored : List.Forall₂ Database.StoredAs named rows) : List.Forall₂ OrderedAs items rows := by
  induction valued generalizing rows with
  | nil =>
    cases stored
    exact .nil
  | cons head tail ih =>
    obtain _ | ⟨⟨_,_,kind,quantity⟩,others⟩ := stored
    exact .cons ⟨kind.trans head.2,quantity.trans head.1.2.1⟩ (ih others)

section Reserve
variable (reservationTTL : Nat) (faults : Nat → Fault) (world : World) (userID : ID) (userEmail : String)
variable (eventID : ID) (items : List BookingItem)

theorem reserve_places : (BookingService.reserve reservationTTL userID userEmail eventID items).Ensures execute
    (fun outcome => ∀ res, outcome.value = .ok res →
      List.Forall₂ OrderedAs items (outcome.world.db.itemsOf res.bookingID)) world := by
  have loops : (BookingService.reserveItems items items).Ensures execute (fun outcome => outcome.value = .ok () → True)
      world := .of_all _ _ fun _ _ => trivial
  apply (reserve_placed reservationTTL userID userEmail eventID (fun _ => True) loops).mono
  intro outcome ends res value
  obtain ⟨loop,_,placed⟩ := ends res value
  obtain ⟨now,ok⟩ := placed.stored
  obtain ⟨row,rows,created⟩ := Database.create_created placed.own ok
  rw [created.own]
  exact orderedAs_stored placed.named created.stored

/-- A reservation takes as many tickets of each type as its lines ask for, so it keeps to the limits of an
order where they do. -/
theorem order_within_limit (res : Reservation)
    (placed : (reserveAlone reservationTTL faults world userID userEmail eventID items).value = .ok res)
    (within : world.db.WithinLimits fun id => ordered id items) :
    world.db.WithinLimits fun id => demand id
      ((reserveAlone reservationTTL faults world userID userEmail eventID items).world.db.itemsOf res.bookingID) := by
  have places := (reserve_places reservationTTL world userID userEmail eventID items).run faults res placed
  intro row member
  have taken := demand_ordered places row.id
  exact taken.trans_le (within row member)

end Reserve

/-- Four tickets of a type whose limit is four, in two lines. -/
theorem order_within_limit_four : ∃ res,
    (reserveAlone 900 (fun _ => .none) stocked 3 "e" 0 [lineOf 1 3 5,lineOf 1 1 5]).value = .ok res ∧
    stocked.db.ticketTypes.rows.map TicketTypeRow.maxPerOrder = [4,4] ∧
    stocked.db.WithinLimits fun id => demand id ((reserveAlone 900 (fun _ => .none) stocked 3 "e" 0
      [lineOf 1 3 5,lineOf 1 1 5]).world.db.itemsOf res.bookingID) := by
  have ok : (reserveAlone 900 (fun _ => .none) stocked 3 "e" 0 [lineOf 1 3 5,lineOf 1 1 5]).value.isOk = true := by
    decide +kernel
  cases placed : (reserveAlone 900 (fun _ => .none) stocked 3 "e" 0 [lineOf 1 3 5,lineOf 1 1 5]).value with
  | error error =>
    rw [placed] at ok
    cases ok
  | ok res =>
    refine ⟨res,rfl,by decide +kernel,order_within_limit 900 (fun _ => .none) stocked 3 "e" 0 _ res placed ?_⟩
    unfold Database.WithinLimits
    decide +kernel

/-- Five tickets in two lines: more than one order may take, and they are reserved. -/
theorem order_exceeds_limit :
    (reserveAlone 900 (fun _ => .none) stocked 3 "e" 0 [lineOf 1 3 5,lineOf 1 2 5]).value.map Reservation.bookingID = .ok 3 ∧
    (stocked.db.ticketTypes.find? 1).map TicketTypeRow.maxPerOrder = some 4 ∧
    demand 1 ((reserveAlone 900 (fun _ => .none) stocked 3 "e" 0 [lineOf 1 3 5,lineOf 1 2 5]).world.db.itemsOf 3) = 5 := by
  decide +kernel

end Ticketbus.Ticketing
