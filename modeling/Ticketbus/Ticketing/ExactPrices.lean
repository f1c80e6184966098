import Mathlib.Algebra.Order.Group.Int
import Ticketbus.Ticketing.Totals
import Ticketbus.Ticketing.SettledMessages

/-! The price of a reservation against the prices that are stored. Products and sums are
taken in Go's `int`, and nothing bounds a price: they are exact as long as the whole
reservation costs less than 2^63. -/
namespace Ticketbus.Ticketing
open Ticketbus.Concurrency Ticketbus.Relational

namespace Database

/-- What lines cost at the stored prices, as a number. -/
def cost (db : Database) (lines : List BookingItem) : Int :=
  (lines.map fun line => (db.priceOf line.ticketTypeID).getD 0 * line.quantity).sum

theorem priceOf_nonneg {db : Database} {id : ID} {price : Int} (stored : db.priceOf id = some price) : 0 ≤ price := by
  obtain ⟨row,_,rfl⟩ := Option.map_eq_some_iff.mp stored
  exact row.price_check.1

end Database

theorem reserveItems_prices (items rest : List BookingItem) (world : World) :
    (BookingService.reserveItems items rest).Ensures execute (fun outcome => outcome.value = .ok () →
      (∀ line ∈ rest, world.db.priceOf line.ticketTypeID = some line.unitPriceRupiah) ∧
      outcome.world.requests = world.requests ∧ ∀ id, outcome.world.db.priceOf id = world.db.priceOf id) world := by
  induction rest generalizing world with
  | nil => exact fun _ => ⟨nofun,rfl,fun _ => rfl⟩
  | cons line rest ih =>
    intro fault
    have same : (execute (.getPrice line.ticketTypeID) fault world).2 = world := query_world ..
    rw [same]
    rcases reply : (execute (.getPrice line.ticketTypeID) fault world).1 with error | price
    · cases error <;> exact nofun
    simp only [Program.done_bind]
    split
    · exact nofun
    rename_i equal
    have stored : world.db.priceOf line.ticketTypeID = some line.unitPriceRupiah := by
      rw [not_not.mp equal]
      exact Database.getPrice_ok.mp (query_ok reply)
    intro fault
    have failed (cause : Error) (later : World) : Program.Ensures execute
        (fun outcome : Outcome Statement Reply World (Except Error Unit) => outcome.value ≠ .ok ())
        ((BookingService.rollbackBefore line.ticketTypeID items).bind fun _ =>
          .done (.error (.noSeatsAvailableFor cause))) later := .bind (.of_all _ _ fun _ => nofun)
    rcases write_cases World.put fault world (world.db.reserveSeats line.ticketTypeID line.quantity) with
      ⟨count,db,_,ok,result⟩ | ⟨error,result⟩
    · rw [show execute (.reserve line.ticketTypeID line.quantity) fault world = _ from result]
      cases count with
      | zero => exact (failed _ _).mono fun _ never value => absurd value never
      | succ count =>
        refine (ih {world with db := db}).mono fun outcome passes value => ?_
        obtain ⟨prices,requests,kept⟩ := passes value
        have unchanged (id : ID) : db.priceOf id = world.db.priceOf id := Database.reserveSeats_priceOf ok
        refine ⟨List.forall_mem_cons.mpr ⟨stored,fun other member => ?_⟩,requests,fun id => ?_⟩
        · rw [← unchanged]
          exact prices other member
        · exact (kept id).trans (unchanged id)
    · rw [show execute (.reserve line.ticketTypeID line.quantity) fault world = _ from result]
      exact (failed _ _).mono fun _ never value => absurd value never

theorem nameItems_ends (bookingID : ID) (items : List BookingItem) (world : World) :
    (BookingService.nameItems bookingID items).Ensures execute (fun outcome =>
      List.Forall₂ (fun item own => Valued bookingID item own ∧ own.ticketTypeID = item.ticketTypeID) items outcome.value ∧
      outcome.world.db = world.db ∧ outcome.world.requests = world.requests) world := by
  induction items generalizing world with
  | nil => exact ⟨.nil,rfl,rfl⟩
  | cons item rest ih =>
    intro fault
    change Program.Ensures execute _ ((BookingService.nameItems bookingID rest).bind fun named => .done (_ :: named))
      {world with nextID := world.nextID + 1}
    refine .bind ((ih _).mono fun outcome ⟨named,db,requests⟩ => ?_)
    exact ⟨.cons ⟨⟨rfl,rfl,rfl,rfl⟩,rfl⟩ named,db,requests⟩

/-! The arithmetic. -/

def lineTotal (line : BookingItem) : Int := line.unitPriceRupiah * line.quantity

theorem calculateTotal_eq (items : List BookingItem) : BookingService.calculateTotal items =
    goInt ((items.map fun line => goInt (line.unitPriceRupiah * line.quantity)).sum) := by
  rw [← zero_add (List.sum _)]
  exact goInt_foldl (fun line : BookingItem => goInt (line.unitPriceRupiah * line.quantity)) items 0

theorem lineTotal_exact {items : List BookingItem} (nonneg : ∀ line ∈ items, 0 ≤ lineTotal line)
    (small : (items.map lineTotal).sum < 9223372036854775808) :
    ∀ line ∈ items, goInt (line.unitPriceRupiah * line.quantity) = lineTotal line := by
  intro line member
  have first := nonneg line member
  have bound : lineTotal line ≤ (items.map lineTotal).sum := by
    apply List.single_le_sum
    · simpa using nonneg
    · exact List.mem_map_of_mem member
  exact goInt_eq ⟨by unfold lineTotal at first; omega,by unfold lineTotal at *; omega⟩

theorem calculateTotal_exact (items : List BookingItem) (nonneg : ∀ line ∈ items, 0 ≤ lineTotal line)
    (small : (items.map lineTotal).sum < 9223372036854775808) :
    BookingService.calculateTotal items = (items.map lineTotal).sum := by
  have positive : 0 ≤ (items.map lineTotal).sum := List.sum_nonneg (by simpa using nonneg)
  rw [calculateTotal_eq,List.map_congr_left (lineTotal_exact nonneg small)]
  exact goInt_eq ⟨by omega,by omega⟩

def PricedAs (db : Database) (line : BookingItem) (row : BookingItemRow) : Prop :=
  row.ticketTypeID = line.ticketTypeID ∧ row.quantity = line.quantity ∧
    ∃ price, db.priceOf line.ticketTypeID = some price ∧ row.totalPriceRupiah = price * line.quantity

section Reserve
variable (reservationTTL : Nat) (userID : ID) (userEmail : String) (eventID : ID) (items : List BookingItem)
variable (world : World)

/-- The reservation costs what its lines cost at the stored prices, to the rupiah. -/
structure Exact (res : Reservation) (after : World) : Prop where
  total : res.totalRupiah = world.db.cost items
  charged : after.requests =
    ⟨res.bookingID,eventID,userID,userEmail,world.db.cost items,res.expiresAt⟩ :: world.requests
  stored : List.Forall₂ (PricedAs world.db) items (after.db.itemsOf res.bookingID)
  prices : ∀ id, after.db.priceOf id = world.db.priceOf id

variable {items world}

theorem cost_eq (prices : ∀ line ∈ items, world.db.priceOf line.ticketTypeID = some line.unitPriceRupiah) :
    world.db.cost items = (items.map lineTotal).sum := by
  unfold Database.cost
  congr 1
  apply List.map_congr_left
  intro line member
  rw [prices line member]
  rfl

theorem lineTotal_nonneg (positive : ∀ line ∈ items, 0 < line.quantity)
    (prices : ∀ line ∈ items, world.db.priceOf line.ticketTypeID = some line.unitPriceRupiah) :
    ∀ line ∈ items, 0 ≤ lineTotal line := by
  intro line member
  exact Int.mul_nonneg (Database.priceOf_nonneg (prices line member)) (le_of_lt (positive line member))

theorem pricedAs_stored {bookingID : ID} {named : List BookingItem} {rows : List BookingItemRow}
    (prices : ∀ line ∈ items, world.db.priceOf line.ticketTypeID = some line.unitPriceRupiah)
    (products : ∀ line ∈ items, goInt (line.unitPriceRupiah * line.quantity) = lineTotal line)
    (valued : List.Forall₂ (fun item own => Valued bookingID item own ∧ own.ticketTypeID = item.ticketTypeID) items named)
    (charged : List.Forall₂ Database.Charged named rows) : List.Forall₂ (PricedAs world.db) items rows := by
  induction valued generalizing rows with
  | nil =>
    cases charged
    exact .nil
  | cons head tail ih =>
    obtain _ | ⟨⟨⟨_,_,kind,quantity⟩,total⟩,others⟩ := charged
    obtain ⟨price,prices⟩ := List.forall_mem_cons.mp prices
    obtain ⟨product,products⟩ := List.forall_mem_cons.mp products
    refine .cons ⟨kind.trans head.2,quantity.trans head.1.2.1,_,price,?_⟩ (ih prices products others)
    rw [total,head.1.charge]
    exact product

def place (res : Reservation) : Task (Except Error Reservation) := do
  match ← BookingRepo.create ⟨res.bookingID,res.userID,res.eventID,.pending,some res.expiresAt,0,res.items⟩ with
  | .error error =>
    BookingService.rollbackSeats res.items
    return .error (.db error)
  | .ok () =>
    match ← PaymentClient.initiateTxnForBooking
        ⟨res.bookingID,res.eventID,res.userID,userEmail,res.totalRupiah,res.expiresAt⟩ with
    | .error error =>
      let _ ← BookingRepo.delete res.bookingID
      BookingService.rollbackSeats res.items
      return .error error
    | .ok () => return .ok res

theorem place_ends (res : Reservation) (world : World) : (place userEmail res).Ensures execute
    (fun outcome => ∀ placed, outcome.value = .ok placed → placed = res ∧ ∃ after,
      world.db.create world.clock
        ⟨res.bookingID,res.userID,res.eventID,.pending,some res.expiresAt,0,res.items⟩ = .ok ((),after) ∧
      outcome.world.db = after ∧ outcome.world.requests =
        ⟨res.bookingID,res.eventID,res.userID,userEmail,res.totalRupiah,res.expiresAt⟩ :: world.requests) world := by
  have undone (error : Error) (later : World) : Program.Ensures execute
      (fun outcome : Outcome Statement Reply World (Except Error Reservation) => ∀ placed, outcome.value ≠ .ok placed)
      ((BookingService.rollbackSeats res.items).bind fun _ => .done (.error error)) later :=
    .bind (.of_all _ _ fun _ => nofun)
  intro fault
  rcases write_cases World.put fault world (world.db.create world.clock
      ⟨res.bookingID,res.userID,res.eventID,.pending,some res.expiresAt,0,res.items⟩) with
    ⟨_,after,_,ok,result⟩ | ⟨error,result⟩
  · rw [show execute (.create _) fault world = _ from result]
    intro fault
    cases fault with
    | fail | broken _ => exact fun _ => (undone _ _).mono fun _ never placed value => absurd value (never placed)
    | none =>
      intro placed value
      cases value
      exact ⟨rfl,after,ok,rfl,rfl⟩
  · rw [show execute (.create _) fault world = _ from result]
    exact (undone _ _).mono fun _ never placed value => absurd value (never placed)

structure Placed (items : List BookingItem) (loop last : World) (res : Reservation) : Prop where
  named : List.Forall₂ (fun item own => Valued res.bookingID item own ∧ own.ticketTypeID = item.ticketTypeID) items res.items
  total : res.totalRupiah = BookingService.calculateTotal items
  stored : ∃ now, loop.db.create now ⟨res.bookingID,userID,eventID,.pending,some res.expiresAt,0,res.items⟩ =
    .ok ((),last.db)
  asked : last.requests =
    ⟨res.bookingID,eventID,userID,userEmail,res.totalRupiah,res.expiresAt⟩ :: loop.requests

theorem Placed.own {loop last : World} {res : Reservation} (placed : Placed userID userEmail eventID items loop last res) :
    ∀ line ∈ res.items, line.bookingID = res.bookingID := by
  intro line member
  obtain ⟨_,_,valued,_⟩ := forall₂_source placed.named line member
  exact valued.1

theorem reserve_placed (property : World → Prop) (loops : (BookingService.reserveItems items items).Ensures execute
      (fun outcome => outcome.value = .ok () → property outcome.world) world) :
    (BookingService.reserve reservationTTL userID userEmail eventID items).Ensures execute
      (fun outcome => ∀ res, outcome.value = .ok res →
        ∃ loop, property loop ∧ Placed userID userEmail eventID items loop outcome.world res) world := by
  unfold BookingService.reserve
  split
  · intro res value
    cases value
  apply Program.Ensures.bind
  apply loops.mono
  intro loop passes
  cases passed : loop.value with
  | error error =>
    intro res value
    cases value
  | ok _ =>
    intro _ _ _
    change Program.Ensures execute _ ((BookingService.nameItems loop.world.nextID items).bind _)
      {loop.world with nextID := loop.world.nextID + 1}
    apply Program.Ensures.bind
    apply (nameItems_ends _ items _).mono
    rintro outcome ⟨named,db,sent⟩
    generalize outcome.value = lines at named
    change Program.Ensures execute _ (place userEmail ⟨loop.world.nextID,userID,eventID,lines,
      BookingService.calculateTotal items,.pending,loop.world.clock + reservationTTL,loop.world.clock⟩) outcome.world
    apply (place_ends userEmail _ outcome.world).mono
    intro last places res value
    obtain ⟨rfl,after,ok,rfl,asked⟩ := places res value
    rw [db] at ok
    exact ⟨loop.world,passes passed,named,rfl,⟨_,ok⟩,asked.trans (congrArg _ sent)⟩

theorem reserve_exact (positive : ∀ line ∈ items, 0 < line.quantity)
    (small : world.db.cost items < 9223372036854775808) :
    (BookingService.reserve reservationTTL userID userEmail eventID items).Ensures execute
      (fun outcome => ∀ res, outcome.value = .ok res → Exact userID userEmail eventID items world res outcome.world)
      world := by
  let compared (loop : World) : Prop :=
    (∀ line ∈ items, world.db.priceOf line.ticketTypeID = some line.unitPriceRupiah) ∧
      loop.requests = world.requests ∧ ∀ id, loop.db.priceOf id = world.db.priceOf id
  apply (reserve_placed reservationTTL userID userEmail eventID compared (reserveItems_prices items items world)).mono
  intro outcome ends res value
  obtain ⟨loop,⟨prices,requests,kept⟩,placed⟩ := ends res value
  -- the loop has compared every unit price with the stored one, so the cost is the sum of the lines
  have cost := cost_eq prices
  have nonneg := lineTotal_nonneg positive prices
  rw [cost] at small
  -- below 2^63 no partial sum wraps
  have exactly := calculateTotal_exact items nonneg small
  obtain ⟨now,ok⟩ := placed.stored
  obtain ⟨row,rows,created⟩ := Database.create_created placed.own ok
  obtain ⟨_,_,_,others,_,_,_,_,charged,appended,_,types,_⟩ := Database.create_charged ok
  have same : others = rows := List.append_cancel_left (appended.symm.trans created.appended)
  have total : res.totalRupiah = world.db.cost items := by rw [placed.total,exactly,cost]
  constructor
  · exact total
  · rw [placed.asked,total,requests]
  · rw [created.own,← same]
    exact pricedAs_stored prices (lineTotal_exact nonneg small) placed.named charged
  · intro id
    rw [← kept id,Database.priceOf,types]
    rfl

def Shows (db : Database) (booking : Booking) : Prop :=
  ∀ item ∈ booking.items, db.priceOf item.ticketTypeID = some item.unitPriceRupiah

theorem scanItem_shows {line : BookingItem} {row : BookingItemRow} (priced : PricedAs world.db line row) :
    world.db.priceOf (BookingRepo.scanItem row).ticketTypeID = some (BookingRepo.scanItem row).unitPriceRupiah := by
  obtain ⟨kind,quantity,price,stored,total⟩ := priced
  have positive := row.quantity_check.1
  change world.db.priceOf row.ticketTypeID =
    some (if 0 < row.quantity then Int.tdiv row.totalPriceRupiah row.quantity else 0)
  rw [if_pos positive,total,← quantity,Int.mul_tdiv_cancel _ (by omega),kind]
  exact stored

theorem shows_loaded {later : Database} {fault : Fault} {row : BookingRow}
    (stored : List.Forall₂ (PricedAs world.db) items (later.itemsOf row.id)) :
    Shows world.db (later.loaded fault row) := by
  intro item member
  obtain ⟨scanned,inside,rfl⟩ := List.mem_map.mp member
  obtain ⟨line,_,priced⟩ := forall₂_source stored scanned ((fault.delivers_prefix _).subset inside)
  exact scanItem_shows priced

theorem shows_listed {later : Database} {faults : Nat → Fault} {rows : List BookingRow} {id : ID}
    (stored : List.Forall₂ (PricedAs world.db) items (later.itemsOf id)) :
    ∀ booking ∈ later.loadedAll faults rows, booking.id = id → Shows world.db booking := by
  rintro booking member rfl
  obtain ⟨fault,row,_,rfl⟩ := Database.loadedAll_mem member
  exact shows_loaded stored

end Reserve

section Handler
variable (reservationTTL : Nat) (userID : ID) (userEmail : String) (request : ReserveRequest) (faults : Nat → Fault)
variable (world : World)

/-- `BookingHandler.Reserve` with no other request running. -/
def handleAlone : Outcome Statement Reply World (Except Error Reservation) :=
  (BookingHandler.reserve reservationTTL userID userEmail request).run execute faults world

/-- What is charged, what is stored for each item, and the unit prices that the loaders show as
long as the items are there, whichever of their statements fail. -/
def PricedExactly (res : Reservation) (after : World) : Prop :=
  Exact userID userEmail request.eventID request.bookingItems world res after ∧
  ∀ (later : World) (others : Nat → Fault), later.db.itemsOf res.bookingID = after.db.itemsOf res.bookingID →
    (∀ booking, ((BookingRepo.findByID res.bookingID).run execute others later).value = .ok booking →
      Shows world.db booking) ∧
    (∀ user bookings, ((BookingRepo.listByUser user).run execute others later).value = .ok bookings →
      ∀ booking ∈ bookings, booking.id = res.bookingID → Shows world.db booking) ∧
    ∀ event bookings, ((BookingRepo.listByEventID event).run execute others later).value = .ok bookings →
      ∀ booking ∈ bookings, booking.id = res.bookingID → Shows world.db booking

variable {request world}

theorem Exact.shown {res : Reservation} {after : World}
    (priced : Exact userID userEmail request.eventID request.bookingItems world res after) :
    PricedExactly userID userEmail request world res after := by
  refine ⟨priced,fun later others same => ?_⟩
  have stored := priced.stored
  rw [← same] at stored
  refine ⟨fun booking value => ?_,fun user bookings value => ?_,fun event bookings value => ?_⟩
  · obtain ⟨row,found,_,rfl⟩ := ((findByID_run others later res.bookingID).2 booking).mp value
    rw [← Table.find?_key found] at stored
    exact shows_loaded stored
  · rw [(listByUser_run others later user).2 bookings value]
    exact shows_listed stored
  · rw [(listByEventID_run others later event).2 bookings value]
    exact shows_listed stored

variable (request world)

/-- A reservation is priced exactly if and only if it costs less than 2^63 at the stored prices. -/
theorem reservation_priced_exactly (res : Reservation)
    (succeeds : (handleAlone reservationTTL userID userEmail request faults world).value = .ok res) :
    PricedExactly userID userEmail request world res
      (handleAlone reservationTTL userID userEmail request faults world).world ↔
    world.db.cost request.bookingItems < 9223372036854775808 := by
  unfold handleAlone BookingHandler.reserve at succeeds ⊢
  split at succeeds
  · rename_i valid
    rw [if_pos valid]
    constructor
    · rintro ⟨priced,_⟩
      obtain ⟨_,_,placed⟩ := (reserve_placed reservationTTL userID userEmail request.eventID (fun _ => True)
        (.of_all _ _ fun _ _ => trivial)).run faults res succeeds
      -- the total that was sent is a Go int
      rw [← priced.total,placed.total]
      rw [calculateTotal_eq]
      exact goInt_lt _
    · intro small
      exact ((reserve_exact reservationTTL userID userEmail request.eventID (valid_quantity valid) small).run
        faults res succeeds).shown
  · cases succeeds

end Handler

theorem reservation_priced_exactly_pair : ∃ res,
    (handleAlone 900 3 "e" ⟨0,[⟨1,2,5⟩,⟨2,1,5⟩]⟩ (fun _ => .none) stocked).value = .ok res ∧ res.totalRupiah = 15 ∧
    Exact 3 "e" 0 (ReserveRequest.bookingItems ⟨0,[⟨1,2,5⟩,⟨2,1,5⟩]⟩) stocked res
      (handleAlone 900 3 "e" ⟨0,[⟨1,2,5⟩,⟨2,1,5⟩]⟩ (fun _ => .none) stocked).world :=
  ⟨_,rfl,by decide +kernel,((reservation_priced_exactly 900 3 "e" ⟨0,[⟨1,2,5⟩,⟨2,1,5⟩]⟩ (fun _ => .none) stocked _ rfl).mpr
    (by decide +kernel)).1⟩

def dear : World :=
  {stocked with
    db := stocked.db.addTicketType (atPrice 3 "c" 4611686018427387905 (by decide)) rfl rfl
    nextID := 4}

/-- Four tickets at 2^62 + 1 cost 4, and the price of each is shown as 1. -/
theorem reservation_wraps :
    (handleAlone 900 3 "e" ⟨0,[⟨3,4,4611686018427387905⟩]⟩ (fun _ => .none) dear).value.map Reservation.totalRupiah =
      .ok 4 ∧
    dear.db.cost (ReserveRequest.bookingItems ⟨0,[⟨3,4,4611686018427387905⟩]⟩) = 18446744073709551620 ∧
    (handleAlone 900 3 "e" ⟨0,[⟨3,4,4611686018427387905⟩]⟩ (fun _ => .none) dear).world.requests.map
      InitiateRequest.amountRupiah = [4] ∧
    ((handleAlone 900 3 "e" ⟨0,[⟨3,4,4611686018427387905⟩]⟩ (fun _ => .none) dear).world.db.itemsOf 4).map
      BookingItemRow.totalPriceRupiah = [4] ∧
    ((BookingRepo.findByID 4).run execute (fun _ => .none)
      (handleAlone 900 3 "e" ⟨0,[⟨3,4,4611686018427387905⟩]⟩ (fun _ => .none) dear).world).value.map
        (fun booking => booking.items.map BookingItem.unitPriceRupiah) = .ok [1] := by
  decide +kernel

end Ticketbus.Ticketing
