import Ticketbus.Ticketing.Seats
import Mathlib.Algebra.Group.Pi.Basic

/-! The capacity of a venue. `CreateEvent` compares the sum of all quantities with it
once, in Go's `int`, and then stores the ticket types one by one; nothing compares them
again. What a call has still to store is counted as offered already. -/
namespace Ticketbus.Ticketing
open Ticketbus.Concurrency Ticketbus.Relational

namespace Database

/-- The tickets of all stored types of an event. -/
def offered (db : Database) (eventID : ID) : Int :=
  (db.ticketTypes.rows.map fun row => if row.eventID = eventID then row.quantity else 0).sum

def WithinCapacity (db : Database) : Prop :=
  ∀ row ∈ db.events.rows, db.offered row.id ≤ row.event.venueCapacity

instance (db : Database) : Decidable db.WithinCapacity := inferInstanceAs (Decidable (∀ row ∈ _, _))

def capacity (db : Database) (eventID : ID) : Option Int :=
  (db.events.find? eventID).map fun row => row.event.venueCapacity

variable {db after : Database}

theorem offered_absent {eventID : ID} (absent : db.events.find? eventID = none) : db.offered eventID = 0 := by
  apply List.sum_eq_zero
  intro count member
  obtain ⟨row,inside,rfl⟩ := List.mem_map.mp member
  have stored := db.ticketTypes_event row inside
  rw [if_neg]
  rintro rfl
  rw [absent] at stored
  cases stored

theorem createEvent_room {now : Time} {event : Event} (ok : db.createEvent now event = .ok ((),after)) :
    ∃ row fresh, row.id = event.id ∧ row.event.venueCapacity = event.venueCapacity ∧
      after = db.addEvent row fresh := by
  unfold createEvent at ok
  split at ok
  · simp only at ok
    split at ok
    · rename_i check fresh
      cases ok
      exact ⟨_,fresh,rfl,rfl,rfl⟩
    · cases ok
  · split at ok <;> cases ok

structure SameOffer (db after : Database) : Prop where
  capacity : ∀ eventID, after.capacity eventID = db.capacity eventID
  offered : ∀ eventID, after.offered eventID = db.offered eventID

theorem SameOffer.of_same (events : after.events = db.events) (ticketTypes : after.ticketTypes = db.ticketTypes) :
    SameOffer db after where
  capacity eventID := by rw [Database.capacity,events,Database.capacity]
  offered eventID := by rw [Database.offered,ticketTypes,Database.offered]

theorem SameOffer.trans {middle : Database} (first : SameOffer db middle) (second : SameOffer middle after) :
    SameOffer db after where
  capacity eventID := (second.capacity eventID).trans (first.capacity eventID)
  offered eventID := (second.offered eventID).trans (first.offered eventID)

theorem SameOffer.reseated {row next : TicketTypeRow} (change : db.Reseated row next after) :
    SameOffer db after := by
  obtain ⟨found,key,event,quantity,_,rfl⟩ := change
  refine ⟨fun eventID => rfl,fun eventID => ?_⟩
  unfold Database.offered
  have stored : db.ticketTypes.find? next.id = some row := key ▸ found
  exact congrArg List.sum (Table.map_replace _ next row _ stored (by rw [event,quantity]))

theorem SameOffer.releaseAll {items : List BookingItem} (ok : db.releaseAll items = .ok after) : SameOffer db after :=
  releaseAll_steps ok (.of_same rfl rfl) fun _ change before => before.trans (.reseated change)

theorem SameOffer.setEvent {row next : EventRow} (found : db.events.find? next.id = some row)
    (room : next.event.venueCapacity = row.event.venueCapacity) : SameOffer db (db.setEvent next) where
  capacity eventID := Table.find?_map_replace db.events next row _ found room eventID
  offered _ := rfl

theorem SameOffer.updated {event : Event} (ok : db.updateEvent event = .ok ((),after)) : SameOffer db after := by
  unfold updateEvent at ok
  split at ok
  · cases ok
    exact .of_same rfl rfl
  · rename_i row found
    cases ok
    have stored : db.events.find? row.id = some row := Table.find?_of_mem (Table.find?_mem found)
    exact .setEvent stored rfl

end Database

theorem execute_sameOffer {statement : Statement} (fault : Fault) (world : World)
    (noEvent : ∀ event, statement ≠ .createEvent event)
    (noType : ∀ ticketType, statement ≠ .createTicketType ticketType) :
    Database.SameOffer world.db (execute statement fault world).2.db := by
  by_cases update : ∃ event, statement = .updateEvent event
  · obtain ⟨event,rfl⟩ := update
    exact write_part World.db (Database.SameOffer world.db) (.of_same rfl rfl) fun value after ok => .updated ok
  have effect := execute_effect statement fault world
  generalize (execute statement fault world).2.db = after at effect ⊢
  cases effect with
  | addEvent _ _ => exact absurd rfl (noEvent _)
  | addTicketType _ _ _ _ => exact absurd rfl (noType _)
  | same | delete _ => exact .of_same rfl rfl
  | setEvent _ _ _ _ => exact absurd ⟨_,rfl⟩ update
  | reseat _ change => exact .reseated change
  | create ok =>
    obtain ⟨_,_,_,_,_,_,_,_,_,_,events,types,_⟩ := Database.create_ok ok
    exact .of_same events types
  | confirm _ change _ =>
    obtain ⟨_,_,_,_,_,rfl⟩ := change
    exact .of_same rfl rfl
  | retire _ _ change _ released =>
    obtain ⟨_,_,_,_,_,rfl⟩ := change
    refine .trans ?_ (.releaseAll released)
    exact .of_same rfl rfl

structure Fits (state : View) (pending : ID → ℕ) : Prop where
  stored : ∀ eventID room, state.world.db.capacity eventID = some room →
    state.world.db.offered eventID + pending eventID ≤ room
  absent : ∀ eventID, state.world.db.capacity eventID = none → pending eventID = 0

theorem Fits.less {state : View} {pending fewer : ID → ℕ} (fits : Fits state pending)
    (less : ∀ eventID, fewer eventID ≤ pending eventID) : Fits state fewer where
  stored eventID room found := by
    have := fits.stored eventID room found
    have := less eventID
    omega
  absent eventID missing := by
    have := fits.absent eventID missing
    have := less eventID
    omega

theorem Fits.same {before after : View} {pending : ID → ℕ} (fits : Fits before pending)
    (same : Database.SameOffer before.world.db after.world.db) : Fits after pending where
  stored eventID room found := by
    rw [same.offered]
    exact fits.stored eventID room (same.capacity eventID ▸ found)
  absent eventID missing := fits.absent eventID (same.capacity eventID ▸ missing)

theorem Fits.addEvent {before after : View} {pending : ID → ℕ} {total : ℕ} (fits : Fits before pending)
    (row : EventRow) (fresh : before.world.db.events.find? row.id = none)
    (enough : (total : Int) ≤ row.event.venueCapacity)
    (added : after.world.db = before.world.db.addEvent row fresh) : Fits after (Pi.single row.id total + pending) := by
  have capacity : ∀ eventID, after.world.db.capacity eventID =
      if row.id = eventID then some row.event.venueCapacity else before.world.db.capacity eventID := by
    intro eventID
    rw [added]
    change ((before.world.db.events.insert row fresh).find? eventID).map _ = _
    rw [Table.find?_insert]
    split <;> rfl
  have offered : ∀ eventID, after.world.db.offered eventID = before.world.db.offered eventID := by
    intro eventID
    rw [added]
    rfl
  constructor
  · intro eventID room found
    rw [capacity] at found
    rw [offered,Pi.add_apply,Pi.single_apply]
    split at found
    · rename_i same
      cases found
      have nothing : before.world.db.offered row.id = 0 := Database.offered_absent fresh
      have nobody := fits.absent row.id (by rw [Database.capacity,fresh]; rfl)
      rw [if_pos same.symm,← same,nothing,nobody]
      omega
    · rename_i other
      have := fits.stored eventID room found
      rw [if_neg (Ne.symm other)]
      omega
  · intro eventID missing
    rw [capacity] at missing
    split at missing
    · cases missing
    · rename_i other
      rw [Pi.add_apply,Pi.single_apply,if_neg (Ne.symm other),fits.absent eventID missing]

theorem Fits.addTicketType {before after : View} {pending : ID → ℕ} {remaining : ℕ} {eventID : ID}
    (row : TicketTypeRow) (own : row.eventID = eventID)
    (fits : Fits before (Pi.single eventID (row.quantity.toNat + remaining) + pending))
    (fresh : before.world.db.ticketTypes.find? row.id = none)
    (event : (before.world.db.events.find? row.eventID).isSome)
    (added : after.world.db = before.world.db.addTicketType row fresh event) :
    Fits after (Pi.single eventID remaining + pending) := by
  have capacity : ∀ id, after.world.db.capacity id = before.world.db.capacity id := by
    intro id
    rw [added]
    rfl
  -- what the new row adds to the offer it takes from what was still to be stored
  have offered : ∀ id, after.world.db.offered id =
      before.world.db.offered id + if eventID = id then row.quantity else 0 := by
    intro id
    rw [added,← own]
    simp [Database.offered,Database.addTicketType,Table.insert]
  have positive := row.quantity_check.1
  constructor
  · intro id room found
    rw [capacity] at found
    have before := fits.stored id room found
    rw [Pi.add_apply,Pi.single_apply] at before ⊢
    rw [offered]
    by_cases same : id = eventID
    · rw [if_pos same] at before ⊢
      rw [if_pos same.symm]
      omega
    · rw [if_neg same] at before ⊢
      rw [if_neg (Ne.symm same)]
      omega
  · intro id missing
    rw [capacity] at missing
    have before := fits.absent id missing
    rw [Pi.add_apply,Pi.single_apply] at before ⊢
    split at before
    · rename_i same
      rw [if_pos same]
      omega
    · rename_i other
      rw [if_neg other]
      exact before

def quantities (types : List TicketType) : ℕ := (types.map fun ticketType => ticketType.quantity.toNat).sum

theorem quantities_eq {types : List TicketType} (positive : ∀ ticketType ∈ types, 0 ≤ ticketType.quantity) :
    (quantities types : Int) = (types.map TicketType.quantity).sum := by
  induction types with
  | nil => rfl
  | cons ticketType rest ih =>
    have own := positive ticketType List.mem_cons_self
    have others := ih fun other member => positive other (List.mem_cons_of_mem _ member)
    simp only [quantities,List.map_cons,List.sum_cons] at others ⊢
    omega

theorem totalQty_eq {types : List TicketType} (positive : ∀ ticketType ∈ types, 0 ≤ ticketType.quantity)
    (small : (quantities types : Int) ≤ 9223372036854775807) :
    EventService.totalQty types = quantities types := by
  refine (goInt_foldl TicketType.quantity types 0).trans ?_
  rw [zero_add,← quantities_eq positive]
  exact goInt_eq ⟨by omega,small⟩

def offering : Protocol Statement Reply World Fault Call (ID → ℕ) where
  evolves _ _ := True
  evolves_refl _ := trivial
  evolves_trans _ _ _ _ _ := trivial
  invariant := Fits
  permits _ _ _ _ _ _ := True
  fits _ _ _ _ _ := True

section Programs
variable {reservationTTL index : Nat} {call : Call} {α : Type} {state : View} {own : ID → ℕ}

theorem offering_issues {post : α → View → (ID → ℕ) → Prop} {program : Task α}
    (issues : program.Issues fun statement => (∀ event, statement ≠ .createEvent event) ∧
      ∀ ticketType, statement ≠ .createTicketType ticketType)
    {good : α → Prop} (gives : program.Returns good)
    (returns : ∀ value later, good value → post value later own) :
    Holds (service reservationTTL) offering index call post program state own := by
  refine Holds.of_issues_from issues gives ?_ fun value later isGood _ => returns value later isGood
  exact fun statement others later frame _ fits =>
    ⟨trivial,fun fault _ => ⟨trivial,fits.same (execute_sameOffer fault later.world others.1 others.2)⟩⟩

theorem offering_createEvent {post : α → View → (ID → ℕ) → Prop} {event : Event} {total : ℕ}
    {next : Except DbError Unit → Task α} (enough : (total : Int) ≤ event.venueCapacity)
    (failed : ∀ error later,
      Holds (service reservationTTL) offering index call post (next (.error error)) later 0)
    (stored : ∀ later, Holds (service reservationTTL) offering index call post (next (.ok ())) later
      (Pi.single event.id total)) :
    Holds (service reservationTTL) offering index call post (.perform (.createEvent event) next) state 0 := by
  intro later _ frame fits
  refine ⟨trivial,fun fault _ => ⟨trivial,?_⟩⟩
  rw [zero_add] at fits
  rcases write_cases World.put fault later.world (later.world.db.createEvent later.world.clock event) with
    ⟨value,after,_,ok,result⟩ | ⟨error,result⟩
  · have executed : (service reservationTTL).execute (.createEvent event) fault later.world = _ := result
    obtain ⟨row,fresh,key,room,same⟩ := Database.createEvent_room ok
    refine ⟨Pi.single event.id total,?_,?_⟩
    · rw [← key]
      refine Fits.addEvent fits row fresh (room ▸ enough) ?_
      rw [State.after_world,executed,same]
    · rw [executed]
      exact stored _
  · have executed : (service reservationTTL).execute (.createEvent event) fault later.world = _ := result
    refine ⟨0,?_,?_⟩
    · rw [zero_add]
      refine fits.same ?_
      rw [State.after_world,executed]
      exact .of_same rfl rfl
    · rw [executed]
      exact failed error _

theorem offering_createTicketTypes {post : Except DbError Unit → View → (ID → ℕ) → Prop} {eventID : ID}
    (types : List TicketType) (belong : ∀ ticketType ∈ types, ticketType.eventID = eventID)
    (returns : ∀ reply later own, post reply later own) :
    Holds (service reservationTTL) offering index call post (EventRepo.createTicketTypes types) state
      (Pi.single eventID (quantities types)) := by
  induction types generalizing state with
  | nil => exact fun later _ => returns _ later _
  | cons ticketType rest ih =>
    intro later _ frame fits
    refine ⟨trivial,fun fault _ => ⟨trivial,?_⟩⟩
    rcases write_cases World.put fault later.world (later.world.db.createTicketType ticketType) with
      ⟨value,after,_,ok,result⟩ | ⟨error,result⟩
    · have executed : (service reservationTTL).execute (.createTicketType ticketType) fault later.world = _ := result
      obtain ⟨row,fresh,event,_,sameEvent,quantity,_,same⟩ := Database.createTicketType_ok ok
      refine ⟨Pi.single eventID (quantities rest),?_,?_⟩
      · have own : row.eventID = eventID := sameEvent.trans (belong ticketType List.mem_cons_self)
        have total : quantities (ticketType :: rest) = row.quantity.toNat + quantities rest := by
          rw [quantity]
          simp [quantities]
        rw [total] at fits
        refine Fits.addTicketType row own fits fresh event ?_
        rw [State.after_world,executed,same]
      · rw [executed]
        exact ih fun other member => belong other (List.mem_cons_of_mem _ member)
    · have executed : (service reservationTTL).execute (.createTicketType ticketType) fault later.world = _ := result
      refine ⟨Pi.single eventID (quantities (ticketType :: rest)),?_,?_⟩
      · refine fits.same ?_
        rw [State.after_world,executed]
        exact .of_same rfl rfl
      · rw [executed]
        exact fun final _ => returns _ final _

def NamedTypes (eventID : ID) (types named : List TicketType) : Prop :=
  List.Forall₂ (fun ticketType own => own.eventID = eventID ∧ own.quantity = ticketType.quantity) types named

theorem nameTypes_returns (eventID : ID) (types : List TicketType) :
    (EventService.nameTypes eventID types).Returns (NamedTypes eventID types) := by
  induction types with
  | nil => exact .nil
  | cons ticketType rest ih => exact fun id => ih.bind fun named all => .cons ⟨rfl,rfl⟩ all

theorem NamedTypes.quantities {eventID : ID} {types named : List TicketType} (all : NamedTypes eventID types named) :
    quantities named = quantities types := by
  induction all with
  | nil => rfl
  | cons head tail ih =>
    simp only [Ticketing.quantities,List.map_cons,List.sum_cons,head.2] at ih ⊢
    omega

/-- A request whose quantities add up to an `int`. -/
def Call.countable : Call → Bool
  | .createEvent _ request => (request.ticketTypes.map TicketTypeRequest.quantity).sum ≤ 9223372036854775807
  | _ => true

private theorem createEvent_offers (organizerID : ID) (request : CreateEventRequest)
    (countable : (request.ticketTypes.map TicketTypeRequest.quantity).sum ≤ 9223372036854775807) :
    Holds (service reservationTTL) offering index call (fun _ _ _ => True)
      (EventHandler.createEvent organizerID request) state 0 := by
  unfold EventHandler.createEvent
  split
  · rename_i valid
    have positive : ∀ ticketType ∈ request.domainTypes, 0 ≤ ticketType.quantity := by
      intro ticketType member
      obtain ⟨asked,inside,rfl⟩ := List.mem_map.mp member
      simp only [CreateEventRequest.valid,Bool.and_eq_true,List.all_eq_true,decide_eq_true_eq] at valid
      have := (valid.2 asked inside).1.2.1
      change 0 ≤ asked.quantity
      omega
    have sum : (quantities request.domainTypes : Int) ≤ 9223372036854775807 := by
      rw [quantities_eq positive]
      simpa [CreateEventRequest.domainTypes,Function.comp_def] using countable
    unfold EventService.createEvent
    simp only
    split
    · exact fun _ _ => trivial
    split
    · exact fun _ _ => trivial
    rename_i within
    rw [totalQty_eq positive sum,not_lt] at within
    refine Holds.bind (offering_issues ⟨by simp,fun _ => trivial⟩ (.any _) fun eventID first _ => ?_)
    refine offering_createEvent within (fun error second => fun _ _ => trivial) fun second => ?_
    simp only [Program.done_bind]
    refine Holds.bind (offering_issues (nameTypes_issues (by simp) eventID _) (nameTypes_returns eventID _)
      fun named third all => ?_)
    have belong : ∀ ticketType ∈ named, ticketType.eventID = eventID := by
      intro ticketType member
      obtain ⟨_,_,own,_⟩ := forall₂_source all ticketType member
      exact own
    rw [← all.quantities]
    refine Holds.bind (offering_createTicketTypes named belong fun reply fourth own => ?_)
    cases reply <;> exact fun _ _ => trivial
  · exact fun _ _ => trivial

theorem program_offers (call : Call) (countable : call.countable = true) :
    Holds (service reservationTTL) offering index call (fun _ _ _ => True) (program reservationTTL call) state 0 := by
  have issues := program_issues reservationTTL call
  cases call with
  | createEvent organizerID request =>
    refine Holds.bind (Holds.consequence (createEvent_offers organizerID request (of_decide_eq_true countable)) ?_)
    exact fun _ _ _ _ _ _ => trivial
  | _ =>
    refine offering_issues (issues.mono fun statement inside => ⟨?_,?_⟩) (.any _) fun _ _ _ => trivial
    · rintro event rfl
      exact inside.elim
    · rintro ticketType rfl
      exact inside.elim

end Programs

/-- In every run whose requests have quantities that add up to an `int`, no venue's
capacity is exceeded. -/
theorem capacity_respected (reservationTTL : Nat) (config : Pool)
    (run : Run (service reservationTTL) (Admitting Call.countable Anything) (.idle .initial) config) :
    config.state.world.db.WithinCapacity := by
  have first : Fits ⟨World.initial,[]⟩ 0 := ⟨(fun _ _ found => nomatch found),fun _ _ => rfl⟩
  have obeys : Obeys (service reservationTTL) offering (fun _ _ _ _ _ => True)
      (Admitting Call.countable Anything) (.idle .initial) :=
    ⟨fun _ call _ permitted => program_offers call permitted.1,fun _ _ _ _ _ _ _ _ _ _ _ _ _ => trivial,
      fun _ _ _ _ _ _ _ _ _ fits => fits.less fun _ => Nat.le_add_left ..⟩
  obtain ⟨pending,fits⟩ := ((PoolHolds.idle World.initial first).run obeys run).invariant_holds
  intro row member
  have found : config.state.world.db.capacity row.id = some row.event.venueCapacity := by
    rw [Database.capacity,Table.find?_of_mem member]
    rfl
  have := fits.stored row.id _ found
  omega

theorem capacity_respected_published : ∃ config : Pool,
    Run (service 900) (Admitting Call.countable Anything) (.idle .initial) config ∧
    config.state.world.db.offered 0 = 10 ∧ config.state.world.db.WithinCapacity := by
  obtain ⟨config,run,offered⟩ := exists_run_of_replay (service 900) (Admitting Call.countable Anything)
    publication (.idle .initial) (fun config => config.state.world.db.offered 0 = 10) (by decide +kernel)
  exact ⟨config,run,of_decide_eq_true offered,capacity_respected 900 config run⟩

def wrapping : CreateEventRequest := {concert with ticketTypes := [⟨"n",5,11,0⟩,⟨"m",5,9223372036854775807,0⟩]}

/-- The sum is negative; the first type is stored, and the second is too large for its column. -/
theorem capacity_exceeded : ¬∀ (reservationTTL : Nat) (config : Pool),
    Run (service reservationTTL) Anything (.idle .initial) config → config.state.world.db.WithinCapacity := by
  intro within
  obtain ⟨config,run,exceeded⟩ := exists_run_of_replay (service 900) Anything
    (.start (.createEvent 7 wrapping) :: undisturbed 0 6) (.idle .initial)
    (fun config => !decide config.state.world.db.WithinCapacity) (by decide +kernel)
  have fine := within 900 config run
  simp [fine] at exceeded

end Ticketbus.Ticketing
