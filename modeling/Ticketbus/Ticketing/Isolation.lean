import Ticketbus.Ticketing.Seats

/-! Which ticket types a call can reach. `booking_items` has no foreign key to
`ticket_types` and `Reserve` does not look at a type's event, so the frame of
every operation rests on the items that clients ask for. -/
namespace Ticketbus.Ticketing
open Ticketbus.Concurrency Ticketbus.Relational

namespace Database

/-- The ticket type is stored, and is one of the event's. -/
def Sells (db : Database) (eventID id : ID) : Prop :=
  (db.ticketTypes.find? id).map TicketTypeRow.eventID = some eventID

instance (db : Database) (eventID id : ID) : Decidable (db.Sells eventID id) :=
  inferInstanceAs (Decidable (_ = _))

def Isolated (db : Database) : Prop :=
  ∀ item ∈ db.items.rows, ∃ booking, db.bookings.find? item.bookingID = some booking ∧
    db.Sells booking.eventID item.ticketTypeID

def Spares (eventID : ID) (before after : Database) : Prop :=
  ∀ row : TicketTypeRow, row.eventID ≠ eventID →
    (row ∈ after.ticketTypes.rows ↔ row ∈ before.ticketTypes.rows)

variable {before after db : Database} {eventID id : ID}

theorem Sells.of_find {row : TicketTypeRow} (found : db.ticketTypes.find? id = some row) :
    db.Sells row.eventID id := by
  unfold Sells
  rw [found]
  rfl

theorem Sells.later (sells : before.Sells eventID id) (persists : Persists before after) :
    after.Sells eventID id := by
  obtain ⟨row,found,rfl⟩ := Option.map_eq_some_iff.mp sells
  obtain ⟨next,stays,_,same⟩ := persists.ticketTypes id row found
  rw [← same]
  exact .of_find stays

theorem Spares.of_same (same : after.ticketTypes = before.ticketTypes) : Spares eventID before after := by
  intro row _
  rw [same]

theorem Spares.trans {middle : Database} (first : Spares eventID before middle)
    (second : Spares eventID middle after) : Spares eventID before after :=
  fun row other => (second row other).trans (first row other)

theorem Spares.reseated {row next : TicketTypeRow} (change : db.Reseated row next after)
    (sells : db.Sells eventID row.id) : Spares eventID db after := by
  obtain ⟨found,key,sameEvent,_,_,rfl⟩ := change
  have event : row.eventID = eventID := by
    unfold Sells at sells
    rw [found] at sells
    exact Option.some.inj sells
  intro other distinct
  refine (Table.mem_replace ..).trans ⟨?_,fun member => .inl ⟨member,fun same => ?_⟩⟩
  · rintro (⟨member,_⟩ | ⟨rfl,_⟩)
    · exact member
    · exact absurd (sameEvent.trans event) distinct
  · have stored := Table.find?_of_mem member
    rw [same,key,found] at stored
    cases stored
    exact distinct event

theorem Spares.releaseAll {items : List BookingItem} (sells : ∀ item ∈ items, db.Sells eventID item.ticketTypeID)
    (ok : db.releaseAll items = .ok after) : Spares eventID db after := by
  refine (releaseAll_steps (motive := fun after => Persists db after ∧ Spares eventID db after) ok
    ⟨.refl db,.of_same rfl⟩ ?_).2
  rintro middle next row other ⟨item,member,same⟩ change ⟨persists,spares⟩
  have own := same ▸ (sells item member).later persists
  exact ⟨persists.trans (.reseated change),spares.trans (.reseated change own)⟩

end Database

theorem Call.Serves.unique {db : Database} {call : Call} {left right : ID} (serves : call.Serves db left)
    (also : call.Serves db right) : left = right := by
  cases call with
  | reserve | cancelBookings | approveEvent => exact serves.symm.trans also
  | confirm | expireOnPaymentExpired => exact Option.some.inj (serves.symm.trans also)
  | _ => cases serves

def Confined (call : Call) (db : Database) : Statement → Prop
  | .reserve id _ | .release id _ | .init id _ | .setPrice id _ =>
    ∃ eventID, call.Serves db eventID ∧ db.Sells eventID id
  | .create booking => call.Serves db booking.eventID ∧
      ∀ item ∈ booking.items, db.Sells booking.eventID item.ticketTypeID
  | .transitionAndReleaseSeats booking _ => call.Serves db booking.eventID
  | .createTicketType _ => ∀ eventID, ¬call.Serves db eventID
  | _ => True

section Effects
variable {call : Call} {statement : Statement} {fault : Fault} {world : World}

theorem Confined.sells {row next : TicketTypeRow} (confined : Confined call world.db statement)
    (seats : Reseats statement row next) :
    ∃ eventID, call.Serves world.db eventID ∧ world.db.Sells eventID row.id := by
  cases statement with
  | init | reserve | release | setPrice =>
    rw [seats.1]
    exact confined
  | _ => exact seats.elim

theorem execute_spares {eventID : ID} (justified : Justified false call world.db statement)
    (isolated : world.db.Isolated) (confined : Confined call world.db statement)
    (serves : call.Serves world.db eventID) :
    Database.Spares eventID world.db (execute statement fault world).2.db := by
  have effect := execute_effect statement fault world
  generalize (execute statement fault world).2.db = after at effect ⊢
  cases effect with
  | same | addEvent _ _ | setEvent _ _ _ _ | delete _ => exact .of_same rfl
  | addTicketType _ _ _ _ => exact absurd serves (confined eventID)
  | reseat seats change =>
    obtain ⟨own,serving,sells⟩ := confined.sells seats
    cases serves.unique serving
    exact .reseated change sells
  | create ok =>
    obtain ⟨_,_,_,_,_,_,_,_,_,_,_,same,_⟩ := Database.create_ok ok
    exact .of_same same
  | confirm _ change _ =>
    obtain ⟨_,_,_,_,_,rfl⟩ := change
    exact .of_same rfl
  | @retire booking _ _ next _ _ _ _ change _ released =>
    obtain ⟨_,_,_,_,referenced,rfl⟩ := change
    cases serves.unique confined
    obtain ⟨⟨stored,found,_,event,_,part,_⟩,_⟩ := justified
    -- the copy's items are stored items of the booking, whose types its event sells
    have moved : Database.Spares booking.eventID world.db (world.db.setBooking next referenced) := .of_same rfl
    refine moved.trans (.releaseAll (fun item member => ?_) released)
    obtain ⟨kept,inside,rfl⟩ := List.mem_map.mp (part.subset member)
    obtain ⟨present,own⟩ := List.mem_filter.mp inside
    obtain ⟨owner,isOwner,sells⟩ := isolated kept present
    rw [of_decide_eq_true own,found] at isOwner
    cases isOwner
    rw [← event]
    exact sells

theorem execute_isolated (furnished : Furnished world.db) (justified : Justified false call world.db statement)
    (isolated : world.db.Isolated) (confined : Confined call world.db statement) :
    (execute statement fault world).2.db.Isolated := by
  have persists := (execute_advances call statement fault world furnished justified).1
  have old : ∀ item ∈ world.db.items.rows, ∃ booking,
      (execute statement fault world).2.db.bookings.find? item.bookingID = some booking ∧
      (execute statement fault world).2.db.Sells booking.eventID item.ticketTypeID := by
    intro item member
    obtain ⟨booking,found,sells⟩ := isolated item member
    obtain ⟨next,stays,_,event,_⟩ := persists.bookings _ _ found
    exact ⟨next,stays,event ▸ sells.later persists⟩
  by_cases creates : ∃ booking, statement = .create booking
  · obtain ⟨booking,rfl⟩ := creates
    intro item member
    rcases write_cases World.put fault world (world.db.create world.clock booking) with
      ⟨value,after,_,ok,result⟩ | ⟨error,result⟩
    · have executed : execute (.create booking) fault world = _ := result
      obtain ⟨row,rows,created⟩ := Database.create_created justified.2.2 ok
      rw [executed] at member persists ⊢
      rw [created.appended,List.mem_append] at member
      rcases member with earlier | new
      · rw [executed] at old
        exact old item earlier
      · obtain ⟨source,asked,stored⟩ := forall₂_source created.stored item new
        refine ⟨row,?_,?_⟩
        · rw [stored.2.1,justified.2.2 source asked,created.found,if_pos rfl]
        · rw [created.event,stored.2.2.1]
          exact (confined.2 source asked).later persists
    · have executed : execute (.create booking) fault world = _ := result
      rw [executed] at member ⊢
      exact isolated item member
  · intro item member
    rw [execute_items fault world fun booking same => creates ⟨booking,same⟩] at member
    exact old item member

end Effects

/-! What each call can reach. -/

def reserving : Step → Option ReserveRequest
  | .start (.reserve _ _ request) => some request
  | _ => none

/-- The guard that tests every reservation at its start. -/
def Reserving (condition : Pool → ReserveRequest → Prop) (config : Pool) (action : Step) : Prop :=
  ∀ request ∈ reserving action, condition config request

instance (condition : Pool → ReserveRequest → Prop) [∀ config request, Decidable (condition config request)]
    (config : Pool) (action : Step) : Decidable (Reserving condition config action) :=
  inferInstanceAs (Decidable (∀ request ∈ reserving action, condition config request))

/-- A request for stored ticket types of its own event. -/
def asksOwnTypes (config : Pool) (request : ReserveRequest) : Prop :=
  ∀ item ∈ request.items, config.state.world.db.Sells request.eventID item.ticketTypeID

instance (config : Pool) (request : ReserveRequest) : Decidable (asksOwnTypes config request) :=
  inferInstanceAs (Decidable (∀ item ∈ request.items, _))

section Runs
variable {reservationTTL : Nat} {config : Pool}
  (run : Run (service reservationTTL) (Reserving asksOwnTypes) (.idle .initial) config)
include run

theorem sold_of_run : ∀ userID userEmail request, .reserve userID userEmail request ∈ config.calls →
    asksOwnTypes config request := by
  refine run.invariant (fun config => ∀ userID userEmail request, .reserve userID userEmail request ∈ config.calls →
    asksOwnTypes config request) (fun _ _ _ member => by cases member) ?_
  intro config action after before sold permitted taken userID userEmail request started item member
  have kept := persists_of_next furnished_initial before taken
  rcases Config.next_calls _ _ _ _ taken with same | ⟨call,rfl,same⟩ <;> rw [same] at started
  · exact (sold userID userEmail request started item member).later kept
  · rcases List.mem_append.mp started with old | new
    · exact (sold userID userEmail request old item member).later kept
    · cases List.mem_singleton.mp new
      exact (permitted request rfl item member).later kept

theorem confined_of_run {index : Nat} {call : Call} {statement : Statement} {next : Reply statement → Task Result}
    (found : config.threads[index]? = some ⟨call,some (.perform statement next)⟩) :
    Confined call config.state.world.db statement := by
  have inside := Run.issues (program_issues reservationTTL) run found
  have justified := justified_of_run (Reads.any _) furnished_initial run found
  have sold {userID : ID} {userEmail : String} {request : ReserveRequest} (is : call = .reserve userID userEmail request)
      {id : ID} (member : id ∈ request.items.map ReserveItemRequest.ticketTypeID) :
      config.state.world.db.Sells request.eventID id := by
    obtain ⟨item,asked,rfl⟩ := List.mem_map.mp member
    subst is
    exact sold_of_run run userID userEmail request (List.mem_map_of_mem (List.mem_of_getElem? found)) item asked
  cases statement with
  | reserve | release =>
    obtain ⟨userID,userEmail,request,rfl⟩ := inside.reserves rfl
    exact ⟨request.eventID,rfl,sold rfl inside⟩
  | create booking =>
    obtain ⟨userID,userEmail,request,rfl⟩ := inside.reserves rfl
    exact ⟨inside.event.symm,fun item member => inside.event ▸ sold rfl (inside.items item member)⟩
  | init id total =>
    obtain ⟨row,stored,_,serves⟩ := justified
    exact ⟨row.eventID,serves,.of_find stored⟩
  | setPrice id price =>
    obtain ⟨row,stored,serves⟩ := justified
    exact ⟨row.eventID,serves,.of_find stored⟩
  | transitionAndReleaseSeats booking status => exact justified.2.2
  | createTicketType ticketType =>
    cases call with
    | createEvent => exact fun _ never => never
    | _ => exact inside.elim
  | _ => trivial

theorem isolated_of_run : config.state.world.db.Isolated := by
  refine run.state_invariant (fun state => state.world.db.Isolated) (fun item member => by cases member) ?_
  intro config index fault call statement next before isolated _ found
  exact execute_isolated (furnished_of_run furnished_initial before)
    (justified_of_run (Reads.any _) furnished_initial before found) isolated (confined_of_run before found)

end Runs

/-- Every item belongs to its booking's event, and whatever a call does next leaves the
ticket types of all events but its own as they are. -/
def KeptApart (reservationTTL : Nat) (config : Pool) : Prop :=
  config.state.world.db.Isolated ∧
  ∀ index fault call program eventID after, config.threads[index]? = some ⟨call,program⟩ →
    call.Serves config.state.world.db eventID →
    config.next (service reservationTTL) (.step index fault) = some after →
    Database.Spares eventID config.state.world.db after.state.world.db

/-- In every run whose reservations ask for types of their own event, events are kept apart. -/
theorem events_kept_apart (reservationTTL : Nat) (config : Pool)
    (run : Run (service reservationTTL) (Reserving asksOwnTypes) (.idle .initial) config) : KeptApart reservationTTL config := by
  refine ⟨isolated_of_run run,?_⟩
  intro index fault call program eventID after found serves taken
  obtain ⟨_,statement,next,issued,rfl⟩ := Config.next_step _ _ _ _ _ taken
  cases found.symm.trans issued
  exact execute_spares (justified_of_run (Reads.any _) furnished_initial run issued) (isolated_of_run run)
    (confined_of_run run issued) serves

/-- Four reserved tickets are given back when their payment expires. -/
theorem events_kept_apart_expired : ∃ config after : Pool,
    Run (service 900) (Reserving asksOwnTypes) (.idle .initial) config ∧ config.state.world.db.items.rows ≠ [] ∧
    KeptApart 900 config ∧ config.next (service 900) (.step 3 .none) = some after ∧
    config.state.world.db.counter 1 = 6 ∧ after.state.world.db.counter 1 = 10 := by
  obtain ⟨config,run,outcome⟩ := exists_run_of_replay (service 900) (Reserving asksOwnTypes)
    (reservation ++ .start (.expireOnPaymentExpired 2) :: undisturbed 3 2) (.idle .initial)
    (fun config => !config.state.world.db.items.rows.isEmpty && decide (config.state.world.db.counter 1 = 6) &&
      (config.next (service 900) (.step 3 .none)).any fun after => after.state.world.db.counter 1 = 10)
    (by decide +kernel)
  simp only [Bool.and_eq_true,decide_eq_true_eq,Option.any_eq_true] at outcome
  obtain ⟨⟨some,reserved⟩,after,taken,released⟩ := outcome
  exact ⟨config,after,run,by simpa using some,events_kept_apart 900 config run,taken,reserved,released⟩

/-- A reservation for a second event that asks for the first one's tickets. -/
theorem foreign_tickets_booked : ¬∀ (reservationTTL : Nat) (config : Pool),
    Run (service reservationTTL) Anything (.idle .initial) config → KeptApart reservationTTL config := by
  intro apart
  obtain ⟨config,run,outcome⟩ := exists_run_of_replay (service 900) Anything
    (publication ++ .start (.createEvent 7 concert) :: undisturbed 2 4 ++
      .start (.reserve 3 "e" ⟨2,[⟨1,4,5⟩]⟩) :: undisturbed 3 8) (.idle .initial)
    (fun config => config.state.world.db.items.rows.any fun item =>
      (config.state.world.db.bookings.find? item.bookingID).all fun booking =>
        !decide (config.state.world.db.Sells booking.eventID item.ticketTypeID)) (by decide +kernel)
  obtain ⟨item,member,foreign⟩ := List.any_eq_true.mp outcome
  obtain ⟨booking,found,sells⟩ := (apart 900 config run).1 item member
  simp [found,sells] at foreign

end Ticketbus.Ticketing
