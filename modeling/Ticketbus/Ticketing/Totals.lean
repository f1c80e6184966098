import Ticketbus.Ticketing.Isolation
import Ticketbus.Ticketing.BookingLifecycle

/-! What a booking costs. `Reserve` adds up its request, `Create` stores a total for each
item and the loaders add those up again, all in Go's `int`; what is charged is what
`Reserve` has added up. -/
namespace Ticketbus.Ticketing
open Ticketbus.Concurrency Ticketbus.Relational

def total (rows : List BookingItemRow) : Int :=
  rows.foldl (fun total item => goInt (total + item.totalPriceRupiah)) 0

theorem total_eq (rows : List BookingItemRow) :
    total rows = goInt ((rows.map BookingItemRow.totalPriceRupiah).sum) := by
  rw [← zero_add (List.sum _)]
  exact goInt_foldl BookingItemRow.totalPriceRupiah rows 0

theorem total_append_eq_iff (given missing : List BookingItemRow) :
    total (given ++ missing) = total given ↔ total missing = 0 := by
  rw [total_eq,total_eq,total_eq,List.map_append,List.sum_append]
  exact goInt_add_eq_iff _ _

def Database.Priced (db : Database) (bookingID : ID) (amount : Int) : Prop :=
  (db.bookings.find? bookingID).isSome ∧ total (db.itemsOf bookingID) = amount

theorem Database.Priced.later {before after : Database} {bookingID : ID} {amount : Int}
    (priced : before.Priced bookingID amount) (persists : Persists before after) :
    after.Priced bookingID amount := by
  obtain ⟨present,sum⟩ := priced
  refine ⟨persists.stored present,?_⟩
  rw [persists.items bookingID present]
  exact sum

def Valued (bookingID : ID) (item own : BookingItem) : Prop :=
  own.bookingID = bookingID ∧ own.quantity = item.quantity ∧ own.unitPriceRupiah = item.unitPriceRupiah ∧
    own.totalPriceRupiah = goInt (item.unitPriceRupiah * item.quantity)

theorem nameItems_valued (bookingID : ID) (items : List BookingItem) :
    (BookingService.nameItems bookingID items).Returns (List.Forall₂ (Valued bookingID) items) := by
  induction items with
  | nil => exact .nil
  | cons item rest ih => exact fun id => ih.bind fun named all => .cons ⟨rfl,rfl,rfl,rfl⟩ all

theorem Valued.charge {bookingID : ID} {item own : BookingItem} (valued : Valued bookingID item own) :
    Database.charge own = goInt (item.unitPriceRupiah * item.quantity) := by
  obtain ⟨_,quantity,unit,sum⟩ := valued
  unfold Database.charge
  split
  · rw [quantity,unit]
  · exact sum

theorem total_charged {bookingID : ID} {items named : List BookingItem} {rows : List BookingItemRow}
    (valued : List.Forall₂ (Valued bookingID) items named) (charged : List.Forall₂ Database.Charged named rows) :
    total rows = BookingService.calculateTotal items := by
  unfold total BookingService.calculateTotal
  generalize (0 : Int) = start
  induction valued generalizing rows start with
  | nil =>
    cases charged
    rfl
  | cons head tail ih =>
    obtain _ | ⟨stored,others⟩ := charged
    rw [List.foldl_cons,List.foldl_cons,stored.2,head.charge]
    exact ih others _

theorem priced_create {db after : Database} {now : Time} {booking : Booking} {items : List BookingItem}
    (valued : List.Forall₂ (Valued booking.id) items booking.items)
    (ok : db.create now booking = .ok ((),after)) :
    after.Priced booking.id (BookingService.calculateTotal items) := by
  have own : ∀ item ∈ booking.items, item.bookingID = booking.id := by
    intro item member
    obtain ⟨_,_,same,_⟩ := forall₂_source valued item member
    exact same
  obtain ⟨row,rows,created⟩ := Database.create_created own ok
  obtain ⟨_,_,_,others,_,_,_,_,charged,appended,_⟩ := Database.create_charged ok
  have same : others = rows := List.append_cancel_left (appended.symm.trans created.appended)
  refine ⟨by rw [created.found,if_pos rfl]; rfl,?_⟩
  rw [created.own,← same]
  exact total_charged valued charged

structure Grows (before after : View) : Prop where
  persists : Persists before.world.db after.world.db
  history : before.history ⊆ after.history

namespace Grows

theorem refl (state : View) : Grows state state := ⟨.refl _,fun _ => id⟩

theorem trans {first middle last : View} (before : Grows first middle) (after : Grows middle last) :
    Grows first last := ⟨before.persists.trans after.persists,fun _ member => after.history (before.history member)⟩

end Grows

/-- A booking as a call shows it: stored, with the total of the items that the call was given, which are the first of
the stored ones. -/
def Displays (index : Nat) (state : View) (booking : Booking) : Prop :=
  (state.world.db.bookings.find? booking.id).isSome ∧
    ∃ rows, ⟨index,.listItems booking.id,.ok rows⟩ ∈ state.history ∧
      rows.items <+: state.world.db.itemsOf booking.id ∧ booking.totalRupiah = total rows.items

theorem Displays.later {index : Nat} {state later : View} {booking : Booking} (shows : Displays index state booking)
    (grows : Grows state later) : Displays index later booking := by
  obtain ⟨present,rows,given,part,sum⟩ := shows
  refine ⟨grows.persists.stored present,rows,grows.history given,?_,sum⟩
  rw [grows.persists.items booking.id present]
  exact part

def Asks (state : View) (request : InitiateRequest) : Prop :=
  state.world.db.Priced request.bookingID request.amountRupiah

def pricing : Protocol Statement Reply World Fault Call PUnit where
  evolves := Grows
  evolves_refl := .refl
  evolves_trans _ _ _ := .trans
  invariant state _ := ∀ index request reply,
    ⟨index,.initiateTxnForBooking request,reply⟩ ∈ state.history → Asks state request
  permits _ call state _ statement _ := Furnished state.world.db ∧ Justified false call state.world.db statement
  fits _ _ state _ statement := ∀ request, statement = .initiateTxnForBooking request → Asks state request

section Programs
variable {reservationTTL index : Nat} {call : Call} {α β : Type} {state : View}

theorem pricing_stable : pricing.Stable (service reservationTTL) := by
  intro index call state statement fault inv asks ⟨furnished,justified⟩
  have grows : Grows state (state.after (service reservationTTL) index statement fault) :=
    ⟨(execute_advances call statement fault state.world furnished justified).1,List.subset_cons_self ..⟩
  refine ⟨grows,fun thread request reply member => ?_⟩
  rw [State.after_history] at member
  rcases List.mem_cons.mp member with new | old
  · cases new
    exact Database.Priced.later (asks request rfl) grows.persists
  · exact Database.Priced.later (inv thread request reply old) grows.persists

abbrev Prices (reservationTTL index : Nat) (call : Call) (post : α → View → Prop) (program : Task α)
    (state : View) : Prop := Sustains (service reservationTTL) pricing index call post program state

namespace Prices
open Sustains (done bind)
variable {post : α → View → Prop}

theorem perform {statement : Statement} {next : Reply statement → Task α}
    (asks : ∀ later : View, Grows state later →
      ∀ request, statement = .initiateTxnForBooking request → Asks later request)
    (continues : ∀ (later : View) (fault : Fault), Grows state later →
      Grows later (later.after (service reservationTTL) index statement fault) →
      Prices reservationTTL index call post (next (execute statement fault later.world).1)
        (later.after (service reservationTTL) index statement fault)) :
    Prices reservationTTL index call post (.perform statement next) state :=
  Sustains.perform pricing_stable asks fun later fault _ _ => continues later fault

theorem of_issues {program : Task α} {good : α → Prop}
    (issues : program.Issues fun statement => ∀ request, statement ≠ .initiateTxnForBooking request)
    (gives : program.Returns good)
    (returns : ∀ value later, good value → Grows state later → post value later) :
    Prices reservationTTL index call post program state :=
  Sustains.of_issues pricing_stable (issues.mono fun _ other _ _ request same => absurd same (other request)) gives
    returns

theorem create {booking : Booking} {items : List BookingItem} {next : Except DbError Unit → Task α}
    (valued : List.Forall₂ (Valued booking.id) items booking.items)
    (failed : ∀ error later, Prices reservationTTL index call post (next (.error error)) later)
    (created : ∀ later : View, later.world.db.Priced booking.id (BookingService.calculateTotal items) →
      Prices reservationTTL index call post (next (.ok ())) later) :
    Prices reservationTTL index call post (.perform (.create booking) next) state := by
  refine perform (by simp) fun later fault _ _ => ?_
  cases reply : (execute (.create booking) fault later.world).1 with
  | error error => exact failed error _
  | ok value =>
    obtain ⟨db,ok,stored⟩ := write_ok reply
    refine created _ ?_
    rw [State.after_world]
    change Database.Priced (write World.put fault later.world _).2.db _ _
    rw [stored]
    exact priced_create valued ok

theorem initiate {request : InitiateRequest} {next : Except Error Unit → Task α} (asks : Asks state request)
    (failed : ∀ later, Prices reservationTTL index call post (next (.error .paymentUnavailable)) later)
    (sent : ∀ later, Asks later request → ⟨index,.initiateTxnForBooking request,.ok ()⟩ ∈ later.history →
      Prices reservationTTL index call post (next (.ok ())) later) :
    Prices reservationTTL index call post ((PaymentClient.initiateTxnForBooking request).bind next) state := by
  refine bind (perform (fun later before other same => ?_) fun later fault before step => ?_)
  · cases same
    exact asks.later before.persists
  cases reply : (execute (.initiateTxnForBooking request) fault later.world).1 with
  | error error => exact done fun final _ => failed final
  | ok value =>
    refine done fun final after => sent final (asks.later ((before.trans step).trans after).persists) (after.history ?_)
    rw [State.after_history,← reply]
    exact List.mem_cons_self

/-! The loaders. -/

theorem scanItems {post : Except DbError Booking → View → Prop} {row : BookingRow}
    (present : (state.world.db.bookings.find? row.id).isSome)
    (failed : ∀ error later, post (.error error) later)
    (loaded : ∀ (booking : Booking) (later : View), Grows state later → Displays index later booking →
      post (.ok booking) later) : Prices reservationTTL index call post (BookingRepo.scanItems row) state := by
  refine perform (by simp) fun later fault before step => ?_
  cases reply : (execute (.listItems row.id) fault later.world).1 with
  | error error => exact done fun final _ => failed error final
  | ok rows =>
    refine done fun final after => loaded _ final ((before.trans step).trans after) (Displays.later ?_ after)
    refine ⟨(before.trans step).persists.stored present,rows,?_,?_,rfl⟩
    · rw [State.after_history,← reply]
      exact List.mem_cons_self
    · have read : rows.items <+: later.world.db.itemsOf row.id := stream_part reply
      have same := step.persists.items row.id (before.persists.stored present)
      exact same ▸ read

theorem findByID {post : Except DbError Booking → View → Prop} {id : ID}
    (failed : ∀ error later, post (.error error) later)
    (loaded : ∀ (booking : Booking) (later : View),
      Displays index later booking → post (.ok booking) later) :
    Prices reservationTTL index call post (BookingRepo.findByID id) state := by
  refine perform (by simp) fun later fault _ step => ?_
  cases reply : (execute (.findBooking id) fault later.world).1 with
  | error error => exact done fun final _ => failed error final
  | ok row =>
    have found : later.world.db.bookings.find? id = some row := Database.findBooking_ok.mp (query_ok reply)
    refine scanItems ?_ failed fun booking final _ shows => loaded booking final shows
    rw [Table.find?_key found]
    exact step.persists.stored (by rw [found]; rfl)

theorem loadAll {post : Except DbError (List Booking) → View → Prop} (rows : List BookingRow)
    (present : ∀ row ∈ rows, (state.world.db.bookings.find? row.id).isSome)
    (failed : ∀ error later, post (.error error) later)
    (loaded : ∀ (bookings : List Booking) (later : View), Grows state later →
      (∀ booking ∈ bookings, Displays index later booking) → post (.ok bookings) later) :
    Prices reservationTTL index call post (BookingRepo.loadAll rows) state := by
  induction rows generalizing state post with
  | nil => exact done fun later grows => loaded [] later grows (by simp)
  | cons row rest ih =>
    refine bind (scanItems (present row List.mem_cons_self) (fun error later => done fun final _ => failed error final) ?_)
    intro booking later before shows
    refine bind (ih (fun other member => ?_) (fun error middle => done fun final _ => failed error final) ?_)
    · exact before.persists.stored (present other (List.mem_cons_of_mem _ member))
    · intro bookings middle between all
      refine done fun final after => loaded _ final ((before.trans between).trans after) fun other member => ?_
      rcases List.mem_cons.mp member with rfl | inside
      · exact shows.later (between.trans after)
      · exact (all other inside).later after

theorem scanBookings {post : Except DbError (List Booking) → View → Prop} {fault : Fault} {world : World}
    {wanted : BookingRow → Bool} {reply : Except DbError (Rows BookingRow)}
    (read : (stream fault world (world.db.newestBookings wanted)).1 = reply)
    (persists : Persists world.db state.world.db) (failed : ∀ error later, post (.error error) later)
    (loaded : ∀ (bookings : List Booking) (later : View),
      (∀ booking ∈ bookings, Displays index later booking) → post (.ok bookings) later) :
    Prices reservationTTL index call post (BookingRepo.scanBookings reply) state := by
  rcases reply with error | ⟨items,_ | error⟩
  · exact done fun final _ => failed error final
  · refine loadAll items (fun row member => ?_) failed fun bookings final _ => loaded bookings final
    have inside := Database.mem_newestBookings.mp ((stream_part read).subset member)
    exact persists.stored (Table.isSome_of_mem inside.1)
  · exact done fun final _ => failed error final

end Prices

/-- What a call's result says about prices: a reservation has asked for its total, which is
the stored one, and a loaded booking shows what its call was given. -/
def Quoted (index : Nat) (value : Result) (state : View) : Prop :=
  (∀ res, value = .reservation (.ok res) → state.world.db.Priced res.bookingID res.totalRupiah ∧
    ∃ request, ⟨index,.initiateTxnForBooking request,.ok ()⟩ ∈ state.history ∧
      request.bookingID = res.bookingID ∧ request.amountRupiah = res.totalRupiah) ∧
  (∀ booking, value = .booking (.ok booking) → Displays index state booking) ∧
  ∀ bookings, value = .bookings (.ok bookings) → ∀ booking ∈ bookings, Displays index state booking

theorem Quoted.later {value : Result} {later : View} (quoted : Quoted index value state) (grows : Grows state later) :
    Quoted index value later := by
  obtain ⟨reserved,found,listed⟩ := quoted
  refine ⟨fun res same => ?_,fun booking same => (found booking same).later grows,
    fun bookings same booking member => (listed bookings same booking member).later grows⟩
  obtain ⟨priced,request,sent,named⟩ := reserved res same
  exact ⟨priced.later grows.persists,request,grows.history sent,named⟩

theorem Prices.map {first : Task α} (f : α → Result)
    (prices : Prices reservationTTL index call (fun value later => Quoted index (f value) later) first state) :
    Prices reservationTTL index call (Quoted index) (f <$> first) state :=
  .bind (Holds.consequence prices fun _ _ _ quoted => Sustains.done fun _ after => quoted.later after)

private theorem reserve_prices (userID : ID) (userEmail : String) (request : ReserveRequest) :
    Prices reservationTTL index call (fun outcome later => Quoted index (.reservation outcome) later)
      (BookingHandler.reserve reservationTTL userID userEmail request) state := by
  have fails : ∀ error later, Quoted index (.reservation (.error error)) later := by
    simp [Quoted]
  unfold BookingHandler.reserve
  split
  · unfold BookingService.reserve
    split
    · exact .done fun later _ => fails _ later
    refine .bind (Prices.of_issues (reserveItems_issues _ _ (by simp) (by simp) (by simp)) (.any _) fun reserved first _ _ => ?_)
    cases reserved with
    | error error => exact .done fun later _ => fails _ later
    | ok value =>
      refine Prices.perform (by simp) fun second fault _ _ => ?_
      refine Prices.perform (by simp) fun third again _ _ => ?_
      refine Prices.perform (by simp) fun fourth once _ _ => ?_
      simp only [Program.done_bind]
      refine .bind (Prices.of_issues (nameItems_issues (by simp) _ _) (nameItems_valued _ _) fun named fifth valued _ => ?_)
      refine Prices.create valued (fun error later => ?_) fun sixth priced => ?_
      · simp only [Program.done_bind]
        refine .bind (Prices.of_issues (rollbackSeats_issues named (by simp)) (.any _) fun _ _ _ _ => ?_)
        exact .done fun later _ => fails _ later
      simp only [Program.done_bind]
      refine Prices.initiate priced (fun later => ?_) fun seventh asks sent => ?_
      · refine Prices.perform (by simp) fun _ _ _ _ => ?_
        simp only [Program.done_bind]
        refine .bind (Prices.of_issues (rollbackSeats_issues named (by simp)) (.any _) fun _ _ _ _ => ?_)
        exact .done fun later _ => fails _ later
      · refine .done fun final after => ⟨fun res same => ?_,by simp,by simp⟩
        cases same
        exact ⟨asks.later after.persists,_,after.history sent,rfl,rfl⟩
  · exact .done fun later _ => fails _ later

private theorem other_prices {program : Task α} (f : α → Result) (quoted : ∀ value later, Quoted index (f value) later)
    (issues : (f <$> program).Issues (Footprint call))
    (other : ∀ userID userEmail request, call ≠ .reserve userID userEmail request) :
    Prices reservationTTL index call (Quoted index) (f <$> program) state := by
  refine .map f (.of_issues (issues.of_bind.mono ?_) (.any program) fun value later _ _ => quoted value later)
  rintro statement inside request rfl
  obtain ⟨_,_,_,same⟩ := inside.reserves rfl
  exact absurd same (other _ _ _)

theorem program_prices (call : Call) :
    Prices reservationTTL index call (Quoted index) (program reservationTTL call) state := by
  have issues := program_issues reservationTTL call
  cases call with
  | reserve userID userEmail request => exact .map _ (reserve_prices userID userEmail request)
  | getBooking bookingID => exact .map _ (.findByID (by simp [Quoted]) (by simp [Quoted]))
  | listMyBookings | listByEventID =>
    exact .map _ (Prices.perform (by simp) fun _ _ _ step =>
      .scanBookings rfl step.persists (by simp [Quoted]) (by simp [Quoted]))
  | wait duration => exact Prices.perform (by simp) fun _ _ _ _ => .done fun _ _ => by simp [Quoted]
  | _ => exact other_prices _ (by simp [Quoted]) issues (by simp)

end Programs

theorem pricing_obeyed (reservationTTL : Nat) (guard : Pool → Step → Prop) :
    Obeys (service reservationTTL) pricing (fun index _ value state _ => Quoted index value state) guard
      (.idle .initial) where
  starts _ call _ _ := program_prices call
  steps _ _ _ _ _ _ _ _ run _ found _ _ :=
    ⟨furnished_of_run furnished_initial run,justified_of_run (Reads.any _) furnished_initial run found⟩
  stops _ _ _ _ _ _ _ _ _ priced := priced

theorem pricing_holds {reservationTTL : Nat} {guard : Pool → Step → Prop} {config : Pool}
    (run : Run (service reservationTTL) guard (.idle .initial) config) :
    PoolHolds (service reservationTTL) pricing (fun index _ value state _ => Quoted index value state) config := by
  refine (PoolHolds.idle World.initial fun index request reply member => ?_).run (pricing_obeyed reservationTTL guard) run
  cases member

theorem quoted_of_run {reservationTTL index : Nat} {guard : Pool → Step → Prop} {config : Pool} {call : Call} {value : Result}
    (run : Run (service reservationTTL) guard (.idle .initial) config)
    (returned : config.returned index = some (call,value)) : Quoted index value config.state := by
  obtain ⟨_,_,quoted,_⟩ := (pricing_holds run).thread_fits index _ (Config.returned_thread returned)
  exact quoted

theorem execute_requests (statement : Statement) (fault : Fault) (world : World) :
    (execute statement fault world).2.requests = world.requests ∨
      ∃ request, statement = .initiateTxnForBooking request ∧
        (execute statement fault world).2.requests = request :: world.requests := by
  cases statement with
  | initiateTxnForBooking request =>
    rcases send_world fault world {world with requests := request :: world.requests} with same | same
    · exact .inl (congrArg World.requests same)
    · exact .inr ⟨request,rfl,congrArg World.requests same⟩
  | newString | now | advance duration | outbox statement => exact .inl rfl
  | findEventByID id | eventStatus id | getPrice id | findBooking id =>
    exact .inl (congrArg World.requests (query_world ..))
  | listTicketTypesByEvent id | listItems id | listBookings id | listBookingsByUser id =>
    exact .inl (congrArg World.requests (stream_world ..))
  | _ =>
    exact .inl (write_keeps (fun after : World => after.requests = world.requests) rfl fun _ _ _ => rfl)

/-- The request is on record, whatever its sender was told. -/
def Sent (state : View) (request : InitiateRequest) : Prop :=
  ∃ index reply, ⟨index,.initiateTxnForBooking request,reply⟩ ∈ state.history

theorem asks_of_run {reservationTTL : Nat} {guard : Pool → Step → Prop} {config : Pool}
    (run : Run (service reservationTTL) guard (.idle .initial) config) {request : InitiateRequest}
    (sent : Sent config.state request) : Asks config.state request := by
  obtain ⟨_,asks⟩ := (pricing_holds run).invariant_holds
  obtain ⟨index,reply,member⟩ := sent
  exact asks index request reply member

theorem sent_of_run {reservationTTL : Nat} {guard : Pool → Step → Prop} {config : Pool}
    (run : Run (service reservationTTL) guard (.idle .initial) config) :
    ∀ request ∈ config.state.world.requests, Sent config.state request := by
  refine Run.state_invariant (fun state => ∀ request ∈ state.world.requests, Sent state request)
    (fun request member => by cases member) ?_ run
  intro config index fault call statement next _ before _ _ request member
  have old : request ∈ config.state.world.requests →
      Sent (config.state.after (service reservationTTL) index statement fault) request := by
    intro stored
    obtain ⟨thread,reply,sent⟩ := before request stored
    exact ⟨thread,reply,List.mem_cons_of_mem _ sent⟩
  rcases execute_requests statement fault config.state.world with same | ⟨new,rfl,same⟩
  · exact old (same ▸ member)
  · have either : request ∈ new :: config.state.world.requests := same ▸ member
    rcases List.mem_cons.mp either with rfl | stored
    · exact ⟨index,_,List.mem_cons_self⟩
    · exact old stored

end Ticketbus.Ticketing
