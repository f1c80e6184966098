import Ticketbus.Ticketing.Snapshots
import Mathlib.Algebra.BigOperators.Pi
import Mathlib.Algebra.Order.BigOperators.Group.List
import Mathlib.Algebra.Ring.Int.Defs

/-! Seat accounting. A seat of a ticket type is in its counter, in a pending or
confirmed booking, or in the hands of a `Reserve` call between its decrement and
its `Create`. No statement but `Init` makes the sum of the three grow, and `Init`
is harmless while the other two are empty. -/
namespace Ticketbus.Ticketing
open Ticketbus.Concurrency Ticketbus.Relational

/-- The statuses under which a booking has its seats. -/
def BookingStatus.live : BookingStatus → Bool
  | .pending | .confirmed => true
  | .expired | .cancelled => false

/-- The seats of one ticket type among stored items. -/
def demand (id : ID) (rows : List BookingItemRow) : Int :=
  ((rows.filter fun row => row.ticketTypeID = id).map BookingItemRow.quantity).sum

def seats : List BookingItem → ID → ℕ
  | [],_ => 0
  | item :: rest,id => (if item.ticketTypeID = id then item.quantity.toNat else 0) + seats rest id

theorem demand_append (id : ID) (left right : List BookingItemRow) :
    demand id (left ++ right) = demand id left + demand id right := by
  simp [demand]

theorem demand_nonneg (id : ID) (rows : List BookingItemRow) : 0 ≤ demand id rows := by
  apply List.sum_nonneg
  intro quantity member
  obtain ⟨row,_,rfl⟩ := List.mem_map.mp member
  exact le_of_lt row.quantity_check.1

theorem demand_cons (id : ID) (row : BookingItemRow) (rest : List BookingItemRow) :
    demand id (row :: rest) = (if row.ticketTypeID = id then row.quantity else 0) + demand id rest := by
  unfold demand
  split
  · rename_i same
    simp [same]
  · rename_i distinct
    simp [distinct]

theorem demand_filter (id : ID) (test : BookingItemRow → Bool) (rows : List BookingItemRow) :
    demand id (rows.filter test) + demand id (rows.filter fun row => !test row) = demand id rows := by
  induction rows with
  | nil => rfl
  | cons row rest ih =>
    rw [demand_cons,← ih]
    cases outcome : test row with
    | true =>
      simp only [List.filter_cons,outcome,if_true,Bool.not_true,Bool.false_eq_true,if_false,demand_cons]
      omega
    | false =>
      simp only [List.filter_cons,outcome,Bool.not_false,if_true,Bool.false_eq_true,if_false,demand_cons]
      omega

@[simp] theorem seats_nil : seats [] = 0 := rfl

theorem seats_append (left right : List BookingItem) : seats (left ++ right) = seats left + seats right := by
  funext id
  induction left with
  | nil => simp
  | cons item rest ih =>
    simp only [List.cons_append,seats,ih,Pi.add_apply]
    omega

theorem seats_single (item : BookingItem) : seats [item] = Pi.single item.ticketTypeID item.quantity.toNat := by
  funext id
  rw [Pi.single_apply,seats,seats_nil,Pi.zero_apply,add_zero]
  by_cases same : item.ticketTypeID = id
  · rw [if_pos same,if_pos same.symm]
  · rw [if_neg same,if_neg (Ne.symm same)]

theorem seats_part {left right : List BookingItem} (part : left <+: right) (id : ID) :
    seats left id ≤ seats right id := by
  obtain ⟨rest,rfl⟩ := part
  rw [seats_append,Pi.add_apply]
  omega

theorem seats_stored {items : List BookingItem} {rows : List BookingItemRow} (id : ID)
    (stored : List.Forall₂ Database.StoredAs items rows) : (seats items id : Int) = demand id rows := by
  induction stored with
  | nil => rfl
  | @cons item row items rows head tail ih =>
    obtain ⟨_,_,kind,quantity⟩ := head
    have positive := row.quantity_check.1
    rw [demand_cons,seats,← ih,← kind,← quantity]
    split <;> omega

theorem seats_scanned (id : ID) (rows : List BookingItemRow) :
    (seats (rows.map BookingRepo.scanItem) id : Int) = demand id rows := by
  apply seats_stored
  rw [List.forall₂_map_left_iff,List.forall₂_same]
  exact fun row _ => ⟨rfl,rfl,rfl,rfl⟩

theorem seats_named {bookingID : ID} {items named : List BookingItem} (all : Named bookingID items named) :
    seats named = seats items := by
  funext id
  induction all with
  | nil => rfl
  | cons head tail ih =>
    obtain ⟨_,kind,quantity⟩ := head
    simp only [seats,kind,quantity,ih]

namespace Database

def liveBooking (db : Database) (id : ID) : Bool :=
  (db.bookings.find? id).any fun row => row.status.live

/-- The seats of a ticket type in pending and confirmed bookings. -/
def claimed (db : Database) (id : ID) : Int :=
  demand id (db.items.rows.filter fun row => db.liveBooking row.bookingID)

/-- `available_seat`, read as 0 for a ticket type that is not stored. -/
def counter (db : Database) (id : ID) : Int :=
  match db.ticketTypes.find? id with
  | some row => row.availableSeat
  | none => 0

def held (db : Database) (own : ID → ℕ) (id : ID) : Int := db.counter id + db.claimed id + own id

variable {db after : Database}

theorem counter_nonneg (db : Database) (id : ID) : 0 ≤ db.counter id := by
  unfold counter
  split
  · rename_i row found
    exact row.seat_check.1
  · exact le_refl 0

theorem held_add (own frame : ID → ℕ) (id : ID) :
    db.held (own + frame) id = db.held own id + frame id := by
  unfold held
  rw [Pi.add_apply]
  omega

theorem held_mono (db : Database) {own more : ID → ℕ} (less : ∀ id, own id ≤ more id) (id : ID) :
    db.held own id ≤ db.held more id := by
  have := less id
  unfold held
  omega

theorem counter_found {id : ID} {row : TicketTypeRow} (found : db.ticketTypes.find? id = some row) :
    db.counter id = row.availableSeat := by
  unfold counter
  rw [found]

theorem claimed_eq {id : ID} (items : after.items = db.items)
    (live : ∀ row ∈ db.items.rows, after.liveBooking row.bookingID = db.liveBooking row.bookingID) :
    after.claimed id = db.claimed id := by
  unfold claimed
  rw [items]
  congr 1
  apply List.filter_congr
  intro row member
  exact live row member

theorem held_counter {own kept : ID → ℕ} {id : ID} (items : after.items = db.items)
    (bookings : after.bookings = db.bookings)
    (counter : after.counter id + kept id ≤ db.counter id + own id) :
    after.held kept id ≤ db.held own id := by
  have same : after.claimed id = db.claimed id := by
    apply claimed_eq items
    intro row _
    unfold liveBooking
    rw [bookings]
  unfold held
  omega

theorem Reseated.frame {row next : TicketTypeRow} (change : db.Reseated row next after) :
    after.items = db.items ∧ after.bookings = db.bookings := by
  obtain ⟨_,_,_,_,_,rfl⟩ := change
  exact ⟨rfl,rfl⟩

theorem Reseated.counter_self {row next : TicketTypeRow} (change : db.Reseated row next after) :
    db.counter row.id = row.availableSeat ∧ after.counter row.id = next.availableSeat :=
  ⟨counter_found change.1,counter_found change.found⟩

theorem Reseated.counter_ne {row next : TicketTypeRow} {id : ID} (change : db.Reseated row next after)
    (distinct : row.id ≠ id) : after.counter id = db.counter id := by
  unfold counter
  rw [change.others distinct]

theorem Reseated.counter_eq {row next : TicketTypeRow} {id : ID} (change : db.Reseated row next after)
    (seat : next.availableSeat = row.availableSeat) : after.counter id = db.counter id := by
  by_cases same : row.id = id
  · subst same
    obtain ⟨before,now⟩ := change.counter_self
    rw [before,now,seat]
  · exact change.counter_ne same

/-! What the writes do to the sum. -/

theorem held_reserveSeats {id : ID} {qty : Int} {count : Nat} (own : ID → ℕ) (other : ID) (positive : 0 < qty)
    (ok : db.reserveSeats id qty = .ok (count,after)) :
    (count = 0 ∧ after = db) ∨
    (count = 1 ∧ after.held (own + Pi.single id qty.toNat) other ≤ db.held own other) := by
  rcases reserveSeats_ok ok with unchanged | ⟨one,row,next,rfl,change,_,seat⟩
  · exact .inl unchanged
  · refine .inr ⟨one,held_counter change.frame.1 change.frame.2 ?_⟩
    rw [Pi.add_apply,Pi.single_apply]
    by_cases same : row.id = other
    · subst same
      obtain ⟨before,now⟩ := change.counter_self
      rw [if_pos rfl]
      omega
    · rw [change.counter_ne same,if_neg (Ne.symm same)]
      omega

theorem counter_releaseSeats {id : ID} {qty : Int} {count : Nat} (other : ID)
    (ok : db.releaseSeats id qty = .ok (count,after)) :
    after.items = db.items ∧ after.bookings = db.bookings ∧
      after.counter other ≤ db.counter other + if id = other then (qty.toNat : Int) else 0 := by
  rcases releaseSeats_ok ok with ⟨_,_,rfl⟩ | ⟨_,row,next,rfl,change,seat⟩
  · refine ⟨rfl,rfl,?_⟩
    split <;> omega
  · refine ⟨change.frame.1,change.frame.2,?_⟩
    by_cases same : row.id = other
    · subst same
      obtain ⟨before,now⟩ := change.counter_self
      rw [if_pos rfl,before,now,seat]
      omega
    · rw [change.counter_ne same,if_neg same]
      omega

theorem counter_releaseAll {items : List BookingItem} (id : ID) (ok : db.releaseAll items = .ok after) :
    after.counter id ≤ db.counter id + seats items id := by
  induction items generalizing db with
  | nil =>
    cases ok
    simp
  | cons item rest ih =>
    obtain ⟨count,middle,released,rest⟩ := releaseAll_cons ok
    have remaining := ih rest
    have first := (counter_releaseSeats id released).2.2
    rw [seats]
    split at first <;> rename_i same
    · rw [if_pos same]
      push_cast
      omega
    · rw [if_neg same]
      omega

theorem held_created {booking : Booking} {row : BookingRow} {rows : List BookingItemRow}
    {id : ID} {own : ID → ℕ} (created : db.Created booking row rows after) :
    after.held own id ≤ db.held (own + seats booking.items) id := by
  have counters : after.counter id = db.counter id := by
    unfold counter
    rw [created.ticketTypes]
  have old : db.items.rows.filter (fun item => after.liveBooking item.bookingID) =
      db.items.rows.filter (fun item => db.liveBooking item.bookingID) := by
    apply List.filter_congr
    intro item member
    -- by the foreign key no stored item can name the new booking
    have distinct : booking.id ≠ item.bookingID := by
      intro same
      have present := db.items_booking item member
      rw [← same,created.fresh] at present
      cases present
    unfold liveBooking
    rw [created.found,if_neg distinct]
  have new : demand id (rows.filter fun item => after.liveBooking item.bookingID) ≤ demand id rows := by
    have split := demand_filter id (fun item => after.liveBooking item.bookingID) rows
    have rest := demand_nonneg id (rows.filter fun item => !after.liveBooking item.bookingID)
    omega
  have stored := seats_stored id created.stored
  have total : after.claimed id ≤ db.claimed id + demand id rows := by
    unfold claimed
    rw [created.appended,List.filter_append,demand_append,old]
    omega
  unfold held
  rw [Pi.add_apply,counters]
  push_cast
  omega

theorem liveBooking_moved {row next : BookingRow} (change : db.Moved row next after) (id : ID) :
    after.liveBooking id = if row.id = id then next.status.live else db.liveBooking id := by
  unfold liveBooking
  rw [change.found]
  split
  · rfl
  · rfl

theorem claimed_moved {row next : BookingRow} (id : ID) (change : db.Moved row next after)
    (live : next.status.live = row.status.live) : after.claimed id = db.claimed id := by
  have items : after.items = db.items := by
    obtain ⟨_,_,_,_,_,rfl⟩ := change
    rfl
  apply claimed_eq items
  intro item _
  rw [liveBooking_moved change]
  split
  · rename_i same
    unfold liveBooking
    rw [← same,change.1,live]
    rfl
  · rfl

theorem held_moved {row next : BookingRow} {own : ID → ℕ} (id : ID) (change : db.Moved row next after)
    (live : next.status.live = row.status.live) : after.held own id = db.held own id := by
  have claims := claimed_moved id change live
  have counters : after.counter id = db.counter id := by
    obtain ⟨_,_,_,_,_,rfl⟩ := change
    rfl
  unfold held
  rw [claims,counters]

theorem claimed_retired {row next : BookingRow} (id : ID) (change : db.Moved row next after)
    (before : row.status.live = true) (now : next.status.live = false) :
    after.claimed id + demand id (db.itemsOf row.id) = db.claimed id := by
  have items : after.items = db.items := by
    obtain ⟨_,_,_,_,_,rfl⟩ := change
    rfl
  have alive : db.liveBooking row.id = true := by
    unfold liveBooking
    rw [change.1]
    exact before
  unfold claimed itemsOf
  rw [items,← demand_filter id (fun item => decide (item.bookingID = row.id))
    (db.items.rows.filter fun item => db.liveBooking item.bookingID),List.filter_filter,List.filter_filter,
    add_comm]
  congr 2
  · apply List.filter_congr
    intro item _
    by_cases same : item.bookingID = row.id
    · simp [same,alive]
    · simp [same]
  · apply List.filter_congr
    intro item _
    rw [liveBooking_moved change]
    by_cases same : item.bookingID = row.id
    · simp [same,now]
    · simp [same,Ne.symm same]

theorem held_retired {booking : Booking} {row next : BookingRow} {middle : Database} {id : ID} {own : ID → ℕ}
    (snapshot : Snapshot false db booking) (key : row.id = booking.id) (change : db.Moved row next middle)
    (before : row.status.live = true) (now : next.status.live = false)
    (released : middle.releaseAll booking.items = .ok after) : after.held own id ≤ db.held own id := by
  obtain ⟨_,_,_,_,_,part,_⟩ := snapshot
  have retired := claimed_retired id change before now
  have returned := counter_releaseAll id released
  have bounded : (seats booking.items id : Int) ≤ demand id (db.itemsOf row.id) := by
    rw [← seats_scanned,key]
    exact_mod_cast seats_part part id
  have counters : middle.counter id = db.counter id := by
    obtain ⟨_,_,_,_,_,rfl⟩ := change
    rfl
  obtain ⟨_,bookings,items⟩ := releaseAll_frame released
  have claims : after.claimed id = middle.claimed id := by
    apply claimed_eq items
    intro item _
    unfold liveBooking
    rw [bookings]
  unfold held
  omega

theorem held_addTicketType {row : TicketTypeRow} {id : ID} {own : ID → ℕ} {fresh : db.ticketTypes.find? row.id = none}
    {event : (db.events.find? row.eventID).isSome} (empty : row.availableSeat = 0) :
    (db.addTicketType row fresh event).held own id ≤ db.held own id := by
  refine held_counter rfl rfl ?_
  have found : (db.addTicketType row fresh event).ticketTypes.find? id =
      if row.id = id then some row else db.ticketTypes.find? id := Table.find?_insert _ _ _ fresh
  by_cases same : row.id = id
  · rw [if_pos same] at found
    rw [counter_found found,empty]
    have := db.counter_nonneg id
    omega
  · rw [if_neg same] at found
    unfold counter
    rw [found]

end Database

theorem Justified.retires {whole : Bool} {call : Call} {db : Database} {booking : Booking}
    {toStatus : BookingStatus} (justified : Justified whole call db (.transitionAndReleaseSeats booking toStatus)) :
    booking.status.live = true ∧ toStatus.live = false := by
  rcases justified.2.1 with ⟨pending,rfl,_⟩ | ⟨pending | confirmed,rfl⟩
  · exact ⟨by rw [pending]; rfl,rfl⟩
  · exact ⟨by rw [pending]; rfl,rfl⟩
  · exact ⟨by rw [confirmed]; rfl,rfl⟩

def Calm : Statement → Prop
  | .init _ _ | .reserve _ _ | .release _ _ | .create _ => False
  | _ => True

theorem execute_held (call : Call) (statement : Statement) (fault : Fault) (world : World) (own : ID → ℕ)
    (id : ID) (calm : Calm statement) (furnished : Furnished world.db)
    (justified : Justified false call world.db statement) :
    (execute statement fault world).2.db.held own id ≤ world.db.held own id := by
  have effect := execute_effect statement fault world
  generalize (execute statement fault world).2.db = after at effect ⊢
  cases effect with
  | same | addEvent _ _ | setEvent _ _ _ _ => exact le_refl _
  | addTicketType _ _ _ empty => exact Database.held_addTicketType empty
  | reseat seats change =>
    cases statement with
    | init | reserve | release => cases calm
    | setPrice other price =>
      refine Database.held_counter change.frame.1 change.frame.2 ?_
      rw [change.counter_eq seats.2]
    | _ => exact seats.elim
  | create ok => cases calm
  | confirm pending change moved =>
    exact le_of_eq (Database.held_moved id change (by rw [pending,moved,justified.1]; rfl))
  | retire key same change status released =>
    have retires := justified.retires
    exact Database.held_retired justified.1 key change (same ▸ retires.1) (status ▸ retires.2) released
  | delete found => exact absurd ‹_› (furnished.has_items found)

/-! The protocol. A thread owns the seats it has taken and not yet stored. -/

def opens (id : ID) : Concurrency.Event Statement Reply → Bool
  | ⟨_,.init other _,.ok _⟩ => other = id
  | _ => false

/-- Some `Init` of the ticket type has been committed. -/
def opened (history : List (Concurrency.Event Statement Reply)) (id : ID) : Bool :=
  history.any (opens id)

def BalancedAt (state : View) (total : ID → ℕ) (id : ID) : Prop :=
  (∀ row, state.world.db.ticketTypes.find? id = some row →
      state.world.db.held total id ≤ row.quantity) ∧
    (state.world.db.ticketTypes.find? id = none ∨ opened state.history id = false →
      state.world.db.held total id ≤ 0)

def Balanced (state : View) (total : ID → ℕ) : Prop := ∀ id, BalancedAt state total id

theorem Balanced.mono {state : View} {total less : ID → ℕ} (balanced : Balanced state total)
    (smaller : ∀ id, less id ≤ total id) : Balanced state less := by
  intro id
  have held := state.world.db.held_mono smaller id
  exact ⟨fun row found => held.trans ((balanced id).1 row found),
    fun untouched => held.trans ((balanced id).2 untouched)⟩

theorem BalancedAt.step {before after : View} {total kept : ID → ℕ} {id : ID}
    (balanced : BalancedAt before total id) (persists : Persists before.world.db after.world.db)
    (grows : opened before.history id = true → opened after.history id = true)
    (less : after.world.db.held kept id ≤ before.world.db.held total id) :
    BalancedAt after kept id := by
  constructor
  · intro row found
    cases earlier : before.world.db.ticketTypes.find? id with
    | none =>
      have zero := balanced.2 (.inl earlier)
      have positive := row.quantity_check.1
      omega
    | some old =>
      obtain ⟨next,present,quantity,_⟩ := persists.ticketTypes id old earlier
      cases found.symm.trans present
      rw [quantity]
      exact less.trans (balanced.1 old earlier)
  · intro untouched
    apply less.trans
    apply balanced.2
    rcases untouched with absent | closed
    · refine .inl ?_
      cases earlier : before.world.db.ticketTypes.find? id with
      | none => rfl
      | some old =>
        obtain ⟨next,present,_⟩ := persists.ticketTypes id old earlier
        cases absent.symm.trans present
    · refine .inr (Bool.eq_false_iff.mpr fun early => ?_)
      rw [grows early] at closed
      cases closed

theorem opened_cons (event : Concurrency.Event Statement Reply)
    (history : List (Concurrency.Event Statement Reply)) (id : ID) (early : opened history id = true) :
    opened (event :: history) id = true := by
  unfold opened at early ⊢
  rw [List.any_cons,early,Bool.or_true]

def Call.asksFor (id : ID) : Call → Bool
  | .reserve _ _ request => request.items.any fun item => item.ticketTypeID = id
  | _ => false

/-- Payment initiation does not fail, and a counter is initialised before it has been
used or while none of its seats is in use. -/
def Careful (state : View) (frame : ID → ℕ) : Statement → Fault → Prop
  | .initiateTxnForBooking _,fault => fault = .none
  | .init id _,_ => opened state.history id = false ∨ (state.world.db.claimed id = 0 ∧ frame id = 0)
  | _,_ => True

def accounts : Protocol Statement Reply World Fault Call (ID → ℕ) where
  evolves _ _ := True
  evolves_refl _ := trivial
  evolves_trans _ _ _ _ _ := trivial
  invariant := Balanced
  permits _ call state frame statement fault := Furnished state.world.db ∧
    Justified false call state.world.db statement ∧ Careful state frame statement fault
  fits _ call _ own _ := ∀ id, own id ≠ 0 → call.asksFor id = true

section Programs
variable {reservationTTL index : Nat} {call : Call} {α : Type} {state : View} {own : ID → ℕ}

theorem accounts_perform {post : α → View → (ID → ℕ) → Prop} {statement : Statement}
    {next : Reply statement → Task α} (asked : ∀ id, own id ≠ 0 → call.asksFor id = true)
    (steps : ∀ (later : View) (fault : Fault), Furnished later.world.db →
      Justified false call later.world.db statement →
      (∀ request, statement = .initiateTxnForBooking request → fault = .none) →
      ∃ kept, (∀ id, (execute statement fault later.world).2.db.held kept id ≤
          later.world.db.held own id) ∧
        Holds (service reservationTTL) accounts index call post
          (next (execute statement fault later.world).1)
          (later.after (service reservationTTL) index statement fault) kept) :
    Holds (service reservationTTL) accounts index call post (.perform statement next) state own := by
  intro later _ frame balanced
  refine ⟨asked,fun fault ⟨furnished,justified,careful⟩ => ⟨trivial,?_⟩⟩
  have noFault : ∀ request, statement = .initiateTxnForBooking request → fault = .none := by
    rintro request rfl
    exact careful
  obtain ⟨kept,less,rest⟩ := steps later fault furnished justified noFault
  refine ⟨kept,?_,rest⟩
  have persists := (execute_advances call statement fault later.world furnished justified).1
  refine fun id => (balanced id).step persists (opened_cons _ _ id) ?_
  rw [Database.held_add,Database.held_add]
  have := less id
  exact Int.add_le_add_right this _

theorem accounts_calm {post : α → View → (ID → ℕ) → Prop} {statement : Statement}
    {next : Reply statement → Task α} (calm : Calm statement)
    (asked : ∀ id, own id ≠ 0 → call.asksFor id = true)
    (continues : ∀ (later : View) (fault : Fault),
      (∀ request, statement = .initiateTxnForBooking request → fault = .none) →
      ∃ kept, (∀ id, kept id ≤ own id) ∧
        Holds (service reservationTTL) accounts index call post
          (next (execute statement fault later.world).1)
          (later.after (service reservationTTL) index statement fault) kept) :
    Holds (service reservationTTL) accounts index call post (.perform statement next) state own := by
  refine accounts_perform asked fun later fault furnished justified noFault => ?_
  obtain ⟨kept,less,rest⟩ := continues later fault noFault
  refine ⟨kept,fun id => ?_,rest⟩
  exact (Database.held_mono _ less id).trans
    (execute_held call statement fault later.world own id calm furnished justified)

theorem accounts_ask {post : α → View → (ID → ℕ) → Prop} {statement : Statement}
    {rest : Reply statement → Task α} (calm : Calm statement)
    (asked : ∀ id, own id ≠ 0 → call.asksFor id = true)
    (continues : ∀ (later : View) (fault : Fault), Holds (service reservationTTL) accounts index call post
      (rest (execute statement fault later.world).1)
      (later.after (service reservationTTL) index statement fault) own) :
    Holds (service reservationTTL) accounts index call post
      ((Program.perform statement .done : Task (Reply statement)) >>= rest) state own :=
  accounts_calm calm asked fun later fault _ => ⟨own,fun _ => le_refl _,continues later fault⟩

theorem accounts_rollbackSeats {post : Unit → View → (ID → ℕ) → Prop} (items : List BookingItem)
    (asked : ∀ id, seats items id ≠ 0 → call.asksFor id = true) (returns : ∀ later, post () later 0) :
    Holds (service reservationTTL) accounts index call post (BookingService.rollbackSeats items) state
      (seats items) := by
  induction items generalizing state with
  | nil => exact fun later _ => returns later
  | cons item rest ih =>
    have fewer (id : ID) : seats rest id ≤ seats (item :: rest) id := Nat.le_add_left ..
    refine accounts_perform asked fun later fault _ _ _ => ⟨seats rest,fun id => ?_,?_⟩
    · refine write_part World.db (fun db => db.held (seats rest) id ≤ later.world.db.held _ id)
        (Database.held_mono _ fewer id) fun count after ok => ?_
      obtain ⟨items,bookings,counter⟩ := Database.counter_releaseSeats id ok
      refine Database.held_counter items bookings ?_
      rw [seats]
      split at counter <;> rename_i same
      · rw [if_pos same]
        push_cast
        omega
      · rw [if_neg same]
        push_cast
        omega
    · refine ih fun id some => asked id ?_
      have := fewer id
      omega

theorem rollbackBefore_eq (failed : ID) (items : List BookingItem) :
    BookingService.rollbackBefore failed items =
      BookingService.rollbackSeats (items.takeWhile fun item => item.ticketTypeID ≠ failed) := by
  induction items with
  | nil => rfl
  | cons item rest ih =>
    unfold BookingService.rollbackBefore
    split
    · rename_i same
      simp [same,BookingService.rollbackSeats]
    · rename_i distinct
      simp only [ih,List.takeWhile_cons,distinct,ne_eq,not_false_eq_true,decide_true,if_true]
      rfl

theorem takeWhile_before {failed : ID} (before rest : List BookingItem) (item : BookingItem)
    (same : item.ticketTypeID = failed) :
    (before ++ item :: rest).takeWhile (fun item => item.ticketTypeID ≠ failed) <+: before := by
  induction before with
  | nil => simp [same]
  | cons first before ih =>
    rw [List.cons_append,List.takeWhile_cons]
    split
    · exact List.cons_prefix_cons.mpr ⟨rfl,ih⟩
    · exact List.nil_prefix

theorem accounts_reserve {post : α → View → (ID → ℕ) → Prop} {id : ID} {qty : Int} {kept : ID → ℕ}
    {next : Except DbError Nat → Task α} (positive : 0 < qty) (asked : ∀ id, own id ≠ 0 → call.asksFor id = true)
    (less : ∀ id, kept id ≤ own id)
    (failed : ∀ error later, Holds (service reservationTTL) accounts index call post (next (.error error)) later kept)
    (refused : ∀ later, Holds (service reservationTTL) accounts index call post (next (.ok 0)) later kept)
    (applied : ∀ count later, Holds (service reservationTTL) accounts index call post (next (.ok (count + 1))) later
      (own + Pi.single id qty.toNat)) :
    Holds (service reservationTTL) accounts index call post (.perform (.reserve id qty) next) state own := by
  refine accounts_perform asked fun later fault _ _ _ => ?_
  have unchanged (other : ID) : later.world.db.held kept other ≤ later.world.db.held own other :=
    Database.held_mono _ less other
  rcases write_cases World.put fault later.world (later.world.db.reserveSeats id qty) with
    ⟨count,after,_,ok,result⟩ | ⟨error,result⟩
  · rw [show execute (.reserve id qty) fault later.world = _ from result]
    have outcome (other : ID) := Database.held_reserveSeats own other positive ok
    cases count with
    | zero =>
      refine ⟨kept,fun other => ?_,refused _⟩
      rcases outcome other with ⟨_,same⟩ | ⟨one,_⟩
      · rw [same]
        exact unchanged other
      · cases one
    | succ count =>
      refine ⟨_,fun other => ?_,applied count _⟩
      rcases outcome other with ⟨zero,_⟩ | ⟨_,fewer⟩
      · cases zero
      · exact fewer
  · rw [show execute (.reserve id qty) fault later.world = _ from result]
    exact ⟨kept,unchanged,failed error _⟩

/-- The decrement loop: in front of each line the call owns the seats of the lines
before it. A line that fails leaves it with no more than the rollback gives back. -/
theorem accounts_reserveItems {post : Except Error Unit → View → (ID → ℕ) → Prop}
    (items before rest : List BookingItem) (whole : items = before ++ rest)
    (positive : ∀ item ∈ items, 0 < item.quantity)
    (asked : ∀ id, seats items id ≠ 0 → call.asksFor id = true)
    (failed : ∀ error later, post (.error error) later 0)
    (reserved : ∀ later, post (.ok ()) later (seats items)) :
    Holds (service reservationTTL) accounts index call post (BookingService.reserveItems items rest) state
      (seats before) := by
  induction rest generalizing before state with
  | nil =>
    rw [List.append_nil] at whole
    subst whole
    exact fun later _ => reserved later
  | cons item rest ih =>
    have partly (part : List BookingItem) (inside : part <+: items) (id : ID) (some : seats part id ≠ 0) :
        call.asksFor id = true := by
      apply asked id
      have := seats_part inside id
      omega
    have askedBefore := partly before ⟨_,whole.symm⟩
    have nothing (error : Error) (later : View) : ∃ kept : ID → ℕ, (∀ id, kept id ≤ seats before id) ∧
        Holds (service reservationTTL) accounts index call post (.done (.error error)) later kept :=
      ⟨0,fun id => Nat.zero_le _,fun final _ => failed error final⟩
    refine accounts_calm trivial askedBefore fun later fault _ => ?_
    rcases (execute (.getPrice item.ticketTypeID) fault later.world).1 with error | price
    · cases error <;> exact nothing _ _
    · simp only [Program.done_bind]
      split
      · exact nothing _ _
      · refine ⟨seats before,fun id => le_refl _,?_⟩
        let undo := items.takeWhile fun line => line.ticketTypeID ≠ item.ticketTypeID
        have part : undo <+: before := by
          have := takeWhile_before before rest item rfl
          rwa [← whole] at this
        have rollback (error : Error) (view : View) :
            Holds (service reservationTTL) accounts index call post
              ((BookingService.rollbackBefore item.ticketTypeID items).bind fun _ =>
                .done (.error (.noSeatsAvailableFor error))) view (seats undo) := by
          rw [rollbackBefore_eq]
          refine Holds.bind (accounts_rollbackSeats undo (partly undo (part.trans ⟨_,whole.symm⟩)) ?_)
          exact fun later final _ => failed _ final
        refine accounts_reserve (positive item (by simp [whole])) askedBefore (seats_part part)
          (fun error later => rollback _ _) (fun later => rollback _ _) fun count later => ?_
        rw [← seats_single,← seats_append]
        exact ih (before ++ [item]) (by simp [whole])

theorem accounts_nameItems {post : List BookingItem → View → (ID → ℕ) → Prop} (bookingID : ID)
    (items : List BookingItem) (asked : ∀ id, own id ≠ 0 → call.asksFor id = true)
    (returns : ∀ named later, Named bookingID items named → post named later own) :
    Holds (service reservationTTL) accounts index call post (BookingService.nameItems bookingID items)
      state own := by
  induction items generalizing state post with
  | nil => exact fun later _ => returns [] later .nil
  | cons item rest ih =>
    refine accounts_ask trivial asked fun later fault => ?_
    refine Holds.bind (ih fun named second all => ?_)
    exact fun final _ => returns _ final (.cons ⟨rfl,rfl,rfl⟩ all)

theorem held_create {booking : Booking} {fault : Fault} {world : World}
    (justified : Justified false call world.db (.create booking)) :
    ((execute (.create booking) fault world).1 = .ok () ∧ ∀ id,
      (execute (.create booking) fault world).2.db.held 0 id ≤ world.db.held (seats booking.items) id) ∨
    ∃ error, (execute (.create booking) fault world).1 = .error error ∧
      (execute (.create booking) fault world).2.db = world.db := by
  rcases write_cases World.put fault world (world.db.create world.clock booking) with
    ⟨_,after,_,ok,result⟩ | ⟨error,result⟩
  · refine .inl ⟨congrArg Prod.fst result,fun id => ?_⟩
    obtain ⟨_,_,own⟩ := justified
    obtain ⟨row,rows,created⟩ := Database.create_created own ok
    rw [show execute (.create booking) fault world = _ from result,← zero_add (seats booking.items)]
    exact Database.held_created created
  · exact .inr ⟨error,congrArg Prod.fst result,by rw [show execute (.create booking) fault world = _ from result]⟩

theorem asked_items {userID : ID} {userEmail : String} {request : ReserveRequest} (id : ID)
    (some : seats request.bookingItems id ≠ 0) :
    (Call.reserve userID userEmail request).asksFor id = true := by
  change request.items.any (fun item => item.ticketTypeID = id) = true
  unfold ReserveRequest.bookingItems at some
  generalize request.items = items at some
  induction items with
  | nil => exact absurd rfl some
  | cons item rest ih =>
    rw [List.any_cons]
    by_cases same : item.ticketTypeID = id
    · simp [same]
    · simp only [List.map_cons,seats,same,if_false,zero_add] at some
      rw [ih some,Bool.or_true]

theorem valid_quantity {request : ReserveRequest} (valid : request.valid = true) :
    ∀ item ∈ request.bookingItems, 0 < item.quantity := by
  intro item member
  obtain ⟨line,inside,rfl⟩ := List.mem_map.mp member
  unfold ReserveRequest.valid at valid
  simp only [Bool.and_eq_true,List.all_eq_true,decide_eq_true_eq] at valid
  exact (valid.2 line inside).1.1

private theorem reserve_accounts (userID : ID) (userEmail : String) (request : ReserveRequest) :
    Holds (service reservationTTL) accounts index (.reserve userID userEmail request)
      (fun _ _ own => own = 0) (BookingHandler.reserve reservationTTL userID userEmail request) state 0 := by
  unfold BookingHandler.reserve
  split
  · rename_i valid
    unfold BookingService.reserve
    split
    · exact fun _ _ => rfl
    · refine Holds.bind (accounts_reserveItems _ [] _ rfl (valid_quantity valid) asked_items ?_ ?_)
      · exact fun error later _ _ => rfl
      · intro later
        refine accounts_ask trivial asked_items fun second _ => ?_
        refine accounts_ask trivial asked_items fun third fault => ?_
        refine accounts_ask trivial asked_items fun fourth _ => ?_
        refine Holds.bind (accounts_nameItems _ _ asked_items fun named fifth all => ?_)
        rw [← seats_named all]
        have asked : ∀ id, seats named id ≠ 0 → (Call.reserve userID userEmail request).asksFor id = true := by
          rw [seats_named all]
          exact asked_items
        refine accounts_perform asked fun sixth again _ justified _ => ?_
        rcases held_create justified with ⟨reply,less⟩ | ⟨error,reply,same⟩
        · rw [reply]
          refine ⟨0,less,?_⟩
          -- the payment service answers, so the rollback that would follow is not taken
          refine accounts_calm trivial (by simp) fun last final noFault => ⟨0,fun _ => le_refl _,?_⟩
          cases noFault _ rfl
          exact fun _ _ => rfl
        · rw [reply,same]
          refine ⟨seats named,fun id => le_refl _,?_⟩
          simp only [Program.done_bind]
          refine Holds.bind (accounts_rollbackSeats named asked fun last => ?_)
          exact fun _ _ => rfl
  · exact fun _ _ => rfl

theorem Balanced.unclaimed {state : View} {frame : ID → ℕ} {id : ID} {total : Int} {fault : Fault}
    (balanced : Balanced state frame) (careful : Careful state frame (.init id total) fault) :
    state.world.db.claimed id + frame id ≤ 0 := by
  rcases careful with closed | ⟨unclaimed,free⟩
  · have zero := (balanced id).2 (.inr closed)
    have := state.world.db.counter_nonneg id
    unfold Database.held at zero
    omega
  · rw [unclaimed,free]
    simp

theorem Database.held_init {db after : Database} {row next : TicketTypeRow} {own : ID → ℕ}
    (change : db.Reseated row next after) (empty : db.claimed row.id + own row.id ≤ 0) :
    after.held own row.id ≤ next.availableSeat := by
  have claims : after.claimed row.id = db.claimed row.id :=
    Database.claimed_eq change.frame.1 fun item _ => by rw [Database.liveBooking,change.frame.2]; rfl
  have now := change.counter_self.2
  unfold Database.held
  omega

theorem balanced_init {later : View} {frame : ID → ℕ} {id : ID} {total : Int} {fault : Fault}
    (balanced : Balanced later frame) (furnished : Furnished later.world.db)
    (justified : Justified false call later.world.db (.init id total))
    (careful : Careful later frame (.init id total) fault) :
    Balanced (later.after (service reservationTTL) index (.init id total) fault) frame := by
  have persists := (execute_advances call (.init id total) fault later.world furnished justified).1
  -- where the sum has not grown there is nothing new to show
  have unchanged (other : ID) (less : (execute (.init id total) fault later.world).2.db.held frame other ≤
      later.world.db.held frame other) :
      BalancedAt (later.after (service reservationTTL) index (.init id total) fault) frame other :=
    (balanced other).step persists (opened_cons _ _ other) less
  rcases write_cases World.put fault later.world (later.world.db.initSeats id total) with
    ⟨count,after,_,ok,result⟩ | ⟨error,result⟩
  · have executed : (service reservationTTL).execute (.init id total) fault later.world = _ := result
    obtain ⟨row,present,quantity,_⟩ := justified
    rcases Database.initSeats_ok ok with ⟨_,absent,_⟩ | ⟨_,found,next,rfl,change,seat⟩
    · cases absent.symm.trans present
    cases change.1.symm.trans present
    intro other
    by_cases same : row.id = other
    · subst same
      obtain ⟨stored,stays,sameQuantity,_⟩ := persists.ticketTypes _ _ present
      refine ⟨fun final isFinal => ?_,fun untouched => ?_⟩
      · cases stays.symm.trans isFinal
        rw [sameQuantity,quantity,State.after_world,executed,← seat]
        exact Database.held_init change (balanced.unclaimed careful)
      · rcases untouched with absent | closed
        · cases stays.symm.trans absent
        -- this very `Init` is now in the history
        · have opening : opened (later.after (service reservationTTL) index (.init row.id total) fault).history
              row.id = true := by
            rw [State.after_history,executed]
            simp [opened,opens]
          rw [opening] at closed
          cases closed
    · apply unchanged
      rw [show execute (.init row.id total) fault later.world = _ from result]
      refine Database.held_counter change.frame.1 change.frame.2 ?_
      rw [change.counter_ne same]
  · intro other
    apply unchanged
    rw [show execute (.init id total) fault later.world = _ from result]

private theorem calm_or_init {statement : Statement} (inside : Footprint call statement)
    (other : ∀ userID userEmail request, call ≠ .reserve userID userEmail request) :
    Calm statement ∨ ∃ id total, statement = .init id total := by
  cases statement with
  | init id total => exact .inr ⟨id,total,rfl⟩
  | reserve | release | create =>
    obtain ⟨_,_,_,same⟩ := inside.reserves rfl
    exact absurd same (other _ _ _)
  | _ => exact .inl trivial

private theorem other_accounts (other : ∀ userID userEmail request, call ≠ .reserve userID userEmail request) :
    Holds (service reservationTTL) accounts index call (fun _ _ own => own = 0)
      (program reservationTTL call) state 0 := by
  refine Holds.of_issues (program_issues reservationTTL call) ?_ fun _ _ => rfl
  intro statement inside later frame balanced
  refine ⟨by simp [accounts],fun fault ⟨furnished,justified,careful⟩ => ⟨trivial,?_⟩⟩
  rcases calm_or_init inside other with calm | ⟨id,total,rfl⟩
  · intro id
    have persists := (execute_advances call statement fault later.world furnished justified).1
    refine (balanced id).step persists (opened_cons _ _ id) ?_
    exact execute_held call statement fault later.world _ id calm furnished justified
  · rw [zero_add] at balanced ⊢
    exact balanced_init balanced furnished justified careful

theorem program_accounts (call : Call) :
    Holds (service reservationTTL) accounts index call (fun _ _ own => own = 0)
      (program reservationTTL call) state 0 := by
  cases call with
  | reserve userID userEmail request =>
    refine Holds.bind (Holds.consequence (reserve_accounts userID userEmail request) ?_)
    exact fun value later own empty _ _ => empty
  | _ => exact other_accounts (by simp)

end Programs

/-- No ticket type has more seats available and in live bookings than it has. -/
def Database.NoOversell (db : Database) : Prop :=
  ∀ row ∈ db.ticketTypes.rows, 0 ≤ row.availableSeat ∧ row.availableSeat + db.claimed row.id ≤ row.quantity

instance (db : Database) : Decidable db.NoOversell := inferInstanceAs (Decidable (∀ row ∈ _, _ ∧ _))

/-- Payment initiation does not fail, and a counter is initialised before its first
use, or while neither a live booking nor a reservation in progress has seats of it. -/
def seatsSecured (config : Pool) (_ : Nat) : Statement → Fault → Bool
  | .initiateTxnForBooking _,fault => fault = .none
  | .init id _,_ => !opened config.state.history id ||
      (decide (config.state.world.db.claimed id = 0) &&
        config.threads.all fun thread => !(thread.head.isSome && thread.call.asksFor id))
  | _,_ => true

private theorem owns_nothing {config : Pool} {index : Nat} {id : ID} {others : List (ID → ℕ)}
    (idle : config.threads.all (fun thread => !(thread.head.isSome && thread.call.asksFor id)) = true)
    (fitting : ∀ other ∈ others, ∃ position thread, position ≠ index ∧
      config.threads[position]? = some thread ∧
      ThreadFits accounts (fun _ _ _ _ own => own = 0) position thread config.state other) :
    others.sum id = 0 := by
  rw [Pi.list_sum_apply]
  apply List.sum_eq_zero
  intro count member
  obtain ⟨other,inside,rfl⟩ := List.mem_map.mp member
  obtain ⟨position,⟨call,program⟩,_,found,fits⟩ := fitting other inside
  have quiet := List.all_eq_true.mp idle _ (List.mem_of_getElem? found)
  match program,fits with
  | none,fits => exact congrFun fits id
  | some (.done value),fits => exact congrFun fits id
  | some (.perform op next),fits =>
    by_contra some
    have asked : call.asksFor id = true := fits id some
    rw [asked] at quiet
    cases quiet

theorem seats_obeyed (reservationTTL : Nat) :
    Obeys (service reservationTTL) accounts (fun _ _ _ _ own => own = 0) (Stepwise seatsSecured)
      (.idle .initial) where
  starts config call _ _ := program_accounts call
  steps config index fault call statement next own others run permitted found _ fitting := by
    refine ⟨furnished_of_run furnished_initial run,
      justified_of_run (Reads.any _) furnished_initial run found,?_⟩
    have secured := permitted.meets found
    unfold Careful
    split
    · exact of_decide_eq_true secured
    · rename_i id total
      change (!opened config.state.history id || _) = true at secured
      simp only [Bool.or_eq_true,Bool.not_eq_true',Bool.and_eq_true,decide_eq_true_eq] at secured
      rcases secured with closed | ⟨unclaimed,idle⟩
      · exact .inl closed
      · exact .inr ⟨unclaimed,owns_nothing idle fitting⟩
    · trivial
  stops config index thread own frame _ _ _ _ balanced :=
    balanced.mono fun id => Nat.le_add_left ..

/-- In every run that is secured at each statement, no state oversells a ticket type. -/
theorem no_oversell (reservationTTL : Nat) (config : Pool)
    (run : Run (service reservationTTL) (Stepwise seatsSecured) (.idle .initial) config) :
    config.state.world.db.NoOversell := by
  have first : Balanced ⟨World.initial,[]⟩ 0 := by
    intro id
    refine ⟨fun row found => ?_,fun _ => le_refl _⟩
    cases found
  have holds := (PoolHolds.idle World.initial first).run (seats_obeyed reservationTTL) run
  obtain ⟨total,balanced⟩ := holds.invariant_holds
  intro row member
  have found := Table.find?_of_mem member
  have fits := (balanced row.id).1 row found
  rw [Database.held,Database.counter_found found] at fits
  exact ⟨row.seat_check.1,by omega⟩

/-! Two runs. A published event with ten tickets of one type, four of them reserved. -/

def concert : CreateEventRequest := ⟨"t","","v","a",10,1,2,[⟨"n",5,10,0⟩]⟩

def fourTickets : ReserveRequest := ⟨0,[⟨1,4,5⟩]⟩

def undisturbed (index count : Nat) : List Step := List.replicate count (.step index .none)

def publication : List Step :=
  .start (.createEvent 7 concert) :: undisturbed 0 4 ++ .start (.approveEvent 0 9) :: undisturbed 1 7

def reservation : List Step := publication ++ .start (.reserve 3 "e" fourTickets) :: undisturbed 2 8

theorem no_oversell_reserved : ∃ config : Pool,
    Run (service 900) (Stepwise seatsSecured) (.idle .initial) config ∧
    config.state.world.db.claimed 1 = 4 ∧ config.state.world.db.NoOversell := by
  obtain ⟨config,run,claimed⟩ := exists_run_of_replay (service 900) (Stepwise seatsSecured)
    reservation (.idle .initial) (fun config => config.state.world.db.claimed 1 = 4) (by decide +kernel)
  exact ⟨config,run,of_decide_eq_true claimed,no_oversell 900 config run⟩

/-- Payment initiation fails after the booking was stored: the DELETE is refused by
the foreign key of its items, its error is dropped, and the seats are given back
although the booking stays pending. -/
theorem oversell_after_failed_payment : ¬∀ (reservationTTL : Nat) (config : Pool),
    Run (service reservationTTL) Anything (.idle .initial) config →
      config.state.world.db.NoOversell := by
  intro safe
  obtain ⟨config,run,oversold⟩ := exists_run_of_replay (service 900) Anything
    (publication ++ .start (.reserve 3 "e" fourTickets) :: undisturbed 2 7 ++ .step 2 .fail :: undisturbed 2 2)
    (.idle .initial) (fun config => !decide config.state.world.db.NoOversell) (by decide +kernel)
  have fine := safe 900 config run
  simp [fine] at oversold

/-- The other half of the condition cannot be left out: of two approvals that have
both read the pending event, the second resets the counter under a reservation. -/
theorem oversell_after_second_approval : ∃ config : Pool,
    Run (service 900) (Stepwise fun _ _ _ fault => decide (fault = .none)) (.idle .initial) config ∧
      ¬config.state.world.db.NoOversell := by
  obtain ⟨config,run,oversold⟩ := exists_run_of_replay (service 900)
    (Stepwise fun _ _ _ fault => decide (fault = .none))
    (.start (.createEvent 7 concert) :: undisturbed 0 4 ++ .start (.approveEvent 0 9) :: undisturbed 1 1 ++
      .start (.approveEvent 0 9) :: undisturbed 2 7 ++
      .start (.reserve 3 "e" fourTickets) :: undisturbed 3 8 ++ undisturbed 1 6)
    (.idle .initial) (fun config => !decide config.state.world.db.NoOversell) (by decide +kernel)
  refine ⟨config,run,fun fine => ?_⟩
  simp [fine] at oversold

end Ticketbus.Ticketing
