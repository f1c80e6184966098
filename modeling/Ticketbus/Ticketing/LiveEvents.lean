import Ticketbus.Ticketing.Isolation
import Ticketbus.Ticketing.EventLifecycle

/-! When tickets can be reserved. `Reserve` never looks at the status of its event;
what keeps it from selling an event that is not published are the counters, which are
zero until an approval has been stored and are set by nothing else. -/
namespace Ticketbus.Ticketing
open Ticketbus.Concurrency Ticketbus.Relational

def publishes (eventID : ID) : Concurrency.Event Statement Reply → Bool
  | ⟨_,.updateEvent event,.ok _⟩ => event.id = eventID && event.status = .published
  | _ => false

def approved (history : List (Concurrency.Event Statement Reply)) (eventID : ID) : Bool :=
  history.any (publishes eventID)

theorem approved_cons (event : Concurrency.Event Statement Reply)
    (history : List (Concurrency.Event Statement Reply)) (eventID : ID) (before : approved history eventID = true) :
    approved (event :: history) eventID = true := by
  unfold approved at before ⊢
  rw [List.any_cons,before,Bool.or_true]

def Backed (state : View) (id : ID) : Prop :=
  ∃ row, state.world.db.ticketTypes.find? id = some row ∧ approved state.history row.eventID = true

structure Follows (before after : View) : Prop where
  persists : Persists before.world.db after.world.db
  approvals : ∀ eventID, approved before.history eventID = true → approved after.history eventID = true

namespace Follows

theorem refl (state : View) : Follows state state := ⟨.refl _,fun _ => id⟩

theorem trans {first middle last : View} (before : Follows first middle) (after : Follows middle last) :
    Follows first last :=
  ⟨before.persists.trans after.persists,fun eventID early => after.approvals eventID (before.approvals eventID early)⟩

end Follows

theorem Backed.later {before after : View} {id : ID} (backed : Backed before id) (follows : Follows before after) :
    Backed after id := by
  obtain ⟨row,found,early⟩ := backed
  obtain ⟨next,stays,_,event⟩ := follows.persists.ticketTypes id row found
  exact ⟨next,stays,event ▸ follows.approvals _ early⟩

def SeatsBacked (history : List (Concurrency.Event Statement Reply)) (db : Database) : Prop :=
  ∀ row ∈ db.ticketTypes.rows, row.availableSeat ≠ 0 → approved history row.eventID = true

structure Backing (state : View) : Prop where
  available : SeatsBacked state.history state.world.db
  booked : ∀ item ∈ state.world.db.items.rows, Backed state item.ticketTypeID

def Backs (state : View) : Statement → Prop
  | .reserve _ qty => 0 < qty
  | .release id _ | .init id _ => Backed state id
  | .create booking => ∀ item ∈ booking.items, Backed state item.ticketTypeID
  | _ => True

section Effects
variable {reservationTTL index : Nat} {call : Call} {statement : Statement} {fault : Fault} {state : View}

theorem follows_after (furnished : Furnished state.world.db)
    (justified : Justified false call state.world.db statement) :
    Follows state (state.after (service reservationTTL) index statement fault) :=
  ⟨(execute_advances call statement fault state.world furnished justified).1,
    fun _ => approved_cons _ _ _⟩

variable {history : List (Concurrency.Event Statement Reply)} {db after : Database}

theorem SeatsBacked.reseated {row next : TicketTypeRow} (backed : SeatsBacked history db)
    (change : db.Reseated row next after)
    (own : next.availableSeat ≠ 0 → approved history row.eventID = true) : SeatsBacked history after := by
  obtain ⟨_,_,event,_,_,rfl⟩ := change
  intro other member some
  rcases (Table.mem_replace ..).mp member with ⟨inside,_⟩ | ⟨rfl,_⟩
  · exact backed other inside some
  · rw [event]
    exact own some

theorem SeatsBacked.releaseAll {items : List BookingItem} (backed : SeatsBacked history db)
    (own : ∀ item ∈ items, ∀ row, db.ticketTypes.find? item.ticketTypeID = some row →
      approved history row.eventID = true)
    (ok : db.releaseAll items = .ok after) : SeatsBacked history after := by
  refine (Database.releaseAll_steps (motive := fun after => SeatsBacked history after ∧ ∀ item ∈ items, ∀ row,
    after.ticketTypes.find? item.ticketTypeID = some row → approved history row.eventID = true) ok ⟨backed,own⟩ ?_).1
  rintro middle next row now ⟨item,member,key⟩ change ⟨backed,own⟩
  have mine := own item member row (key ▸ change.1)
  refine ⟨backed.reseated change fun _ => mine,fun other member stored found => ?_⟩
  by_cases same : row.id = other.ticketTypeID
  · rw [← same,change.found] at found
    cases found
    rw [change.2.2.1]
    exact mine
  · rw [change.others same] at found
    exact own other member stored found

theorem Backed.event {id : ID} {row : TicketTypeRow} (backed : Backed state id)
    (found : state.world.db.ticketTypes.find? id = some row) : approved state.history row.eventID = true := by
  obtain ⟨stored,isStored,early⟩ := backed
  cases isStored.symm.trans found
  exact early

theorem Backs.reseats {row next : TicketTypeRow} (backs : Backs state statement)
    (backed : SeatsBacked state.history state.world.db) (seats : Reseats statement row next)
    (found : state.world.db.ticketTypes.find? row.id = some row) (some : next.availableSeat ≠ 0) :
    approved state.history row.eventID = true := by
  cases statement with
  | init id total =>
    obtain ⟨rfl,_⟩ := seats
    exact Backed.event backs found
  | reserve id qty =>
    obtain ⟨_,enough,_⟩ := seats
    have positive : 0 < qty := backs
    exact backed row (Table.find?_mem found) (by omega)
  | release id qty =>
    obtain ⟨rfl,_⟩ := seats
    exact Backed.event backs found
  | setPrice id price => exact backed row (Table.find?_mem found) (seats.2 ▸ some)
  | _ => exact seats.elim

theorem execute_seatsBacked (justified : Justified false call state.world.db statement) (backing : Backing state)
    (backs : Backs state statement) : SeatsBacked state.history (execute statement fault state.world).2.db := by
  have initially : SeatsBacked state.history state.world.db := backing.available
  have effect := execute_effect statement fault state.world
  generalize (execute statement fault state.world).2.db = after at effect ⊢
  cases effect with
  | same | addEvent _ _ | setEvent _ _ _ _ | delete _ => exact initially
  | @addTicketType _ row fresh _ _ _ _ empty =>
    intro other member some
    rcases (Table.mem_insert state.world.db.ticketTypes row other fresh).mp member with old | rfl
    · exact initially other old some
    · exact absurd empty some
  | reseat seats change => exact initially.reseated change fun some => backs.reseats initially seats change.1 some
  | create ok =>
    obtain ⟨_,_,_,_,_,_,_,_,_,_,_,same,_⟩ := Database.create_ok ok
    unfold SeatsBacked
    rw [same]
    exact initially
  | confirm _ change _ =>
    obtain ⟨_,_,_,_,_,rfl⟩ := change
    exact initially
  | @retire _ _ _ next _ _ _ _ change _ released =>
    obtain ⟨_,_,_,_,referenced,rfl⟩ := change
    obtain ⟨⟨stored,_,_,_,_,part,_⟩,_⟩ := justified
    have moved : SeatsBacked state.history (state.world.db.setBooking next referenced) := initially
    refine moved.releaseAll (fun item member row found => ?_) released
    obtain ⟨kept,inside,rfl⟩ := List.mem_map.mp (part.subset member)
    exact (backing.booked kept (List.mem_filter.mp inside).1).event found

theorem backing_after (furnished : Furnished state.world.db)
    (justified : Justified false call state.world.db statement) (backing : Backing state)
    (backs : Backs state statement) : Backing (state.after (service reservationTTL) index statement fault) := by
  have follows : Follows state (state.after (service reservationTTL) index statement fault) :=
    follows_after furnished justified
  refine ⟨fun row member some => ?_,?_⟩
  · exact follows.approvals _ (execute_seatsBacked justified backing backs row member some)
  have old : ∀ item ∈ state.world.db.items.rows,
      Backed (state.after (service reservationTTL) index statement fault) item.ticketTypeID :=
    fun item member => (backing.booked item member).later follows
  by_cases creates : ∃ booking, statement = .create booking
  · obtain ⟨booking,rfl⟩ := creates
    refine write_part World.db (fun db => ∀ item ∈ db.items.rows,
      Backed (state.after (service reservationTTL) index (.create booking) fault) item.ticketTypeID) old ?_
    intro value after ok item member
    obtain ⟨row,fresh,event,rows,_,_,_,_,stored,appended,_⟩ := Database.create_ok ok
    rw [appended,List.mem_append] at member
    rcases member with earlier | new
    · exact old item earlier
    · obtain ⟨source,asked,_,_,sameType,_⟩ := forall₂_source stored item new
      rw [sameType]
      exact (backs source asked).later follows
  · intro item member
    rw [State.after_world,show ((service reservationTTL).execute statement fault state.world).2.db.items = _ from
      execute_items fault state.world fun booking same => creates ⟨booking,same⟩] at member
    exact old item member

end Effects

def opening : Protocol Statement Reply World Fault Call PUnit where
  evolves := Follows
  evolves_refl := .refl
  evolves_trans _ _ _ := .trans
  invariant state _ := Backing state
  permits _ call state _ statement _ := Furnished state.world.db ∧ Justified false call state.world.db statement
  fits _ _ state _ statement := Backs state statement

section Programs
variable {reservationTTL index : Nat} {call : Call} {α β : Type} {state : View}

theorem opening_stable : opening.Stable (service reservationTTL) :=
  fun _ _ _ _ _ backing backs ⟨furnished,justified⟩ =>
    ⟨follows_after furnished justified,backing_after furnished justified backing backs⟩

abbrev Opens (reservationTTL index : Nat) (call : Call) (post : α → View → Prop) (program : Task α)
    (state : View) : Prop := Sustains (service reservationTTL) opening index call post program state

namespace Opens
open Sustains (done)
variable {post : α → View → Prop}

theorem perform {statement : Statement} {next : Reply statement → Task α}
    (backs : ∀ later : View, Follows state later → Backs later statement)
    (continues : ∀ (later : View) (fault : Fault), Backing later → Follows state later →
      Follows later (later.after (service reservationTTL) index statement fault) →
      Opens reservationTTL index call post (next (execute statement fault later.world).1)
        (later.after (service reservationTTL) index statement fault)) :
    Opens reservationTTL index call post (.perform statement next) state :=
  Sustains.perform opening_stable backs fun later fault backing _ => continues later fault backing

theorem of_issues {program : Task α} {good : α → Prop}
    (issues : program.Issues fun statement => ∀ later : View, Follows state later → Backs later statement)
    (gives : program.Returns good)
    (returns : ∀ value later, good value → Follows state later → post value later) :
    Opens reservationTTL index call post program state := Sustains.of_issues opening_stable issues gives returns

theorem reserveItems {post : Except Error Unit → View → Prop} (items before rest : List BookingItem)
    (whole : items = before ++ rest) (positive : ∀ item ∈ items, 0 < item.quantity)
    (backed : ∀ item ∈ before, Backed state item.ticketTypeID)
    (failed : ∀ error later, post (.error error) later)
    (reserved : ∀ later, (∀ item ∈ items, Backed later item.ticketTypeID) → post (.ok ()) later) :
    Opens reservationTTL index call post (BookingService.reserveItems items rest) state := by
  -- the lines in front of the present one are backed, since their seats were there
  induction rest generalizing before state with
  | nil =>
    rw [List.append_nil] at whole
    subst whole
    exact done fun later follows => reserved later fun item member => (backed item member).later follows
  | cons item rest ih =>
    refine perform (fun _ _ => trivial) fun first fault _ early step => ?_
    rcases (execute (.getPrice item.ticketTypeID) fault first.world).1 with error | price
    · cases error <;> exact done fun later _ => failed _ later
    simp only [Program.done_bind]
    split
    · exact done fun later _ => failed _ later
    refine perform (fun _ _ => positive item (by simp [whole])) fun second again backing between more => ?_
    have soFar := ((early.trans step).trans between).trans more
    have rollback : ∀ error : Error, Opens reservationTTL index call post
        ((BookingService.rollbackBefore item.ticketTypeID items).bind fun _ =>
          .done (.error (.noSeatsAvailableFor error)))
        (second.after (service reservationTTL) index (.reserve item.ticketTypeID item.quantity) again) := by
      intro error
      refine .bind (Opens.of_issues (rollbackBefore_issues item.ticketTypeID items fun line member later after => ?_)
        (.any _) fun _ later _ _ => done fun final _ => failed _ final)
      -- only lines in front of the failed one are given back
      have front := (takeWhile_before before rest item rfl).subset (whole ▸ member)
      exact (backed line front).later (soFar.trans after)
    rcases write_cases World.put again second.world (second.world.db.reserveSeats item.ticketTypeID item.quantity) with
      ⟨count,after,_,ok,result⟩ | ⟨error,result⟩
    · have executed : execute (.reserve item.ticketTypeID item.quantity) again second.world = _ := result
      rw [executed]
      rcases Database.reserveSeats_ok ok with ⟨rfl,_⟩ | ⟨rfl,row,next,same,change,enough,_⟩
      · exact rollback _
      · refine ih (before ++ [item]) (by simp [whole]) fun line member => ?_
        rcases List.mem_append.mp member with earlier | last
        · exact (backed line earlier).later soFar
        · rw [List.mem_singleton.mp last]
          have asked : 0 < item.quantity := positive item (by simp [whole])
          have early := backing.available row (Table.find?_mem change.1) (by omega)
          have taken : Backed second item.ticketTypeID := ⟨row,same ▸ change.1,early⟩
          exact taken.later more
    · have executed : execute (.reserve item.ticketTypeID item.quantity) again second.world = _ := result
      rw [executed]
      exact rollback _

end Opens

theorem bookingItems_positive {request : ReserveRequest} (valid : request.valid = true) :
    ∀ item ∈ request.bookingItems, 0 < item.quantity := by
  intro item member
  obtain ⟨asked,inside,rfl⟩ := List.mem_map.mp member
  simp only [ReserveRequest.valid,Bool.and_eq_true,List.all_eq_true,decide_eq_true_eq] at valid
  exact (valid.2 asked inside).1.1

def Sold (call : Call) (value : Result) (state : View) : Prop :=
  ∀ userID userEmail request res, call = .reserve userID userEmail request → value = .reservation (.ok res) →
    request.items ≠ [] ∧ ∀ item ∈ request.items, Backed state item.ticketTypeID

private theorem reserve_opens (userID : ID) (userEmail : String) (request : ReserveRequest) :
    Opens reservationTTL index call (fun outcome later => ∀ res, outcome = .ok res →
        request.items ≠ [] ∧ ∀ item ∈ request.items, Backed later item.ticketTypeID)
      (BookingHandler.reserve reservationTTL userID userEmail request) state := by
  unfold BookingHandler.reserve
  split
  · rename_i valid
    unfold BookingService.reserve
    split
    · exact .done fun _ _ _ failed => by cases failed
    refine .bind (Opens.reserveItems request.bookingItems [] request.bookingItems rfl (bookingItems_positive valid)
      (by simp) (fun error later => .done fun _ _ _ failed => by cases failed) fun first reserved => ?_)
    -- whatever is stored or given back from here on has been taken
    refine Opens.of_issues ⟨fun _ _ => trivial,fun now => ⟨fun _ _ => trivial,fun bookingID =>
      ⟨fun _ _ => trivial,fun createdAt => ?_⟩⟩⟩ (.any _) fun _ later _ after _ _ => ⟨?_,fun item member => ?_⟩
    · refine (nameItems_issues (fun _ _ => trivial) bookingID _).bind_returns (nameItems_returns bookingID _)
        fun named all => ?_
      have own : ∀ item ∈ named, ∀ later, Follows first later → Backed later item.ticketTypeID := by
        intro item member later after
        obtain ⟨source,inside,_,same,_⟩ := forall₂_source all item member
        rw [same]
        exact (reserved source inside).later after
      refine ⟨fun later after item member => own item member later after,fun created => ?_⟩
      cases created with
      | error error => exact (rollbackSeats_issues named own).bind fun _ => trivial
      | ok value =>
        refine (initiateTxnForBooking_issues fun _ _ => trivial).bind fun initiated => ?_
        cases initiated with
        | error error =>
          exact ⟨fun _ _ => trivial,fun _ => (rollbackSeats_issues named own).bind fun _ => trivial⟩
        | ok value => trivial
    · intro empty
      simp [ReserveRequest.valid,empty] at valid
    · have taken := reserved ⟨0,0,item.ticketTypeID,item.quantity,item.unitPriceRupiah,0⟩ (List.mem_map_of_mem member)
      exact taken.later after
  · exact .done fun _ _ _ failed => by cases failed

theorem approved_after (reservationTTL index : Nat) {event : Event} {fault : Fault} (published : event.status = .published)
    (ok : (execute (.updateEvent event) fault state.world).1 = .ok ()) :
    approved (state.after (service reservationTTL) index (.updateEvent event) fault).history event.id = true := by
  have replied : ((service reservationTTL).execute (.updateEvent event) fault state.world).1 = .ok () := ok
  rw [State.after_history,replied]
  simp [approved,publishes,published]

private theorem approve_opens (eventID adminUserID : ID) :
    Opens reservationTTL index call Any (EventService.approveEvent eventID adminUserID) state := by
  refine Opens.perform ?_ fun first fault _ _ _ => ?_
  · exact fun _ _ => trivial
  cases read : (execute (.findEventByID eventID) fault first.world).1 with
  | error error => exact .done fun _ _ => trivial
  | ok event =>
    have same : event.id = eventID := Database.findEventByID_id (query_ok read)
    simp only [Program.done_bind]
    split
    · exact .done fun _ _ => trivial
    refine Opens.perform (fun _ _ => trivial) fun second _ _ _ _ => ?_
    refine Opens.perform (fun _ _ => trivial) fun third _ _ _ _ => ?_
    refine Opens.perform (fun _ _ => trivial) fun fourth again _ _ _ => ?_
    cases written : (execute (.updateEvent _) again fourth.world).1 with
    | error error => exact .done fun _ _ => trivial
    | ok value =>
      have early := approved_after reservationTTL index rfl written
      simp only [Program.done_bind]
      refine .bind (Opens.perform ?_ fun fifth last _ sinceFourth step => ?_)
      · exact fun _ _ => trivial
      cases reply : (execute (.listTicketTypesByEvent eventID) last fifth.world).1 with
      | error error => exact .done fun _ _ => .done fun _ _ => trivial
      | ok rows =>
        have part : rows.items <+: fifth.world.db.listTicketTypesByEvent eventID := stream_part reply
        have backed : ∀ ticketType ∈ rows.items, ∀ later,
            Follows (fifth.after (service reservationTTL) index (.listTicketTypesByEvent eventID) last) later →
            Backed later ticketType.id := by
          intro ticketType member later after
          obtain ⟨row,inside,rfl⟩ := List.mem_map.mp (part.subset member)
          obtain ⟨stored,own⟩ := List.mem_filter.mp inside
          have listed : Backed fifth row.id := by
            refine ⟨row,Table.find?_of_mem stored,?_⟩
            rw [of_decide_eq_true own,← same]
            exact sinceFourth.approvals _ early
          exact listed.later (step.trans after)
        refine .done fun sixth after => Opens.of_issues ?_ (.any _) fun _ _ _ _ => trivial
        refine (initAll_issues rows.items ?_ ?_).bind fun done => ?_
        · exact fun ticketType member later further => backed ticketType member later (after.trans further)
        · exact fun _ _ _ _ => trivial
        · cases done <;> trivial

private theorem others_open {statement : Statement} (inside : Footprint call statement) (later : View)
    (approve : ∀ eventID adminUserID, call ≠ .approveEvent eventID adminUserID)
    (reserve : ∀ userID userEmail request, call ≠ .reserve userID userEmail request) : Backs later statement := by
  cases statement with
  | reserve | release | create =>
    obtain ⟨_,_,_,same⟩ := inside.reserves rfl
    exact absurd same (reserve _ _ _)
  | init id total =>
    obtain ⟨_,_,same⟩ := inside.approves
    exact absurd same (approve _ _)
  | _ => trivial

theorem program_opens (call : Call) :
    Opens reservationTTL index call (Sold call) (program reservationTTL call) state := by
  have issues := program_issues reservationTTL call
  cases call with
  | reserve userID userEmail request =>
    refine .bind (Holds.consequence (reserve_opens userID userEmail request) ?_)
    intro outcome later _ backed
    refine Sustains.done fun final after _ _ _ res same ok => ?_
    cases same
    obtain ⟨some,all⟩ := backed res (by cases ok; rfl)
    exact ⟨some,fun item member => (all item member).later after⟩
  | approveEvent eventID adminUserID =>
    refine .bind (Holds.consequence (approve_opens eventID adminUserID) ?_)
    exact fun _ _ _ _ => Sustains.done fun _ _ _ _ _ _ same => by cases same
  | _ =>
    refine Opens.of_issues (issues.mono fun statement inside later _ => ?_) (.any _) fun _ _ _ _ _ _ _ _ same => by cases same
    exact others_open inside later (by simp) (by simp)

end Programs

theorem opening_holds {reservationTTL : Nat} {guard : Pool → Step → Prop} {config : Pool}
    (run : Run (service reservationTTL) guard (.idle .initial) config) :
    PoolHolds (service reservationTTL) opening (fun _ call value later _ => Sold call value later) config := by
  refine (PoolHolds.idle World.initial ?_).run ⟨fun _ call _ _ => program_opens call,?_,?_⟩ run
  · exact ⟨(fun row member => nomatch member),(fun item member => nomatch member)⟩
  · exact fun _ _ _ _ _ _ _ _ run _ found _ _ =>
      ⟨furnished_of_run furnished_initial run,justified_of_run (Reads.any _) furnished_initial run found⟩
  · exact fun _ _ _ _ _ _ _ _ _ backing => backing

theorem published_now {reservationTTL index : Nat} {config : Pool} {call : Call} {statement : Statement}
    {next : Reply statement → Task Result} {fault : Fault} {eventID : ID}
    (run : Run (service reservationTTL) (Stepwise editsAlone) (.idle .initial) config)
    (found : config.threads[index]? = some ⟨call,some (.perform statement next)⟩)
    (publishing : publishes eventID ⟨index,statement,(execute statement fault config.state.world).1⟩ = true) :
    (execute statement fault config.state.world).2.db.statusOf eventID = some .published := by
  cases statement with
  | updateEvent event =>
    obtain ⟨status,stored,_⟩ := write_steps run found
    rcases write_cases World.put fault config.state.world (config.state.world.db.updateEvent event) with
      ⟨value,after,_,ok,result⟩ | ⟨error,result⟩
    · have executed : execute (.updateEvent event) fault config.state.world = _ := result
      rw [executed] at publishing ⊢
      simp only [publishes,Bool.and_eq_true,decide_eq_true_eq] at publishing
      obtain ⟨rfl,published⟩ := publishing
      rw [← published]
      have written := statusOf_written ok (by rw [stored]; rfl) event.id
      rwa [if_pos rfl] at written
    · have executed : execute (.updateEvent event) fault config.state.world = _ := result
      rw [executed] at publishing
      cases publishing
  | _ => cases publishing

theorem approved_status {reservationTTL : Nat} {config : Pool}
    (run : Run (service reservationTTL) (Stepwise editsAlone) (.idle .initial) config) {eventID : ID}
    (early : approved config.state.history eventID = true) :
    config.state.world.db.statusOf eventID = some .published ∨
      config.state.world.db.statusOf eventID = some .cancelled := by
  revert eventID
  refine run.invariant (fun config => ∀ {eventID}, approved config.state.history eventID = true →
    config.state.world.db.statusOf eventID = some .published ∨
      config.state.world.db.statusOf eventID = some .cancelled) (fun early => by cases early) ?_
  intro config action after before holds permitted taken eventID early
  have kept (already : approved config.state.history eventID = true) :
      after.state.world.db.statusOf eventID = some .published ∨
        after.state.world.db.statusOf eventID = some .cancelled := by
    rcases holds already with stored | stored
    · obtain ⟨next,isNext,rfl | steps⟩ := status_steps before taken stored
      · exact .inl isNext
      · cases next <;> first | exact .inr isNext | cases steps
    · obtain ⟨next,isNext,rfl | steps⟩ := status_steps before taken stored
      · exact .inr isNext
      · cases steps
  rcases Config.next_state taken with same | ⟨index,fault,call,statement,next,rfl,found,rfl⟩
  · rw [same] at early
    exact kept early
  · rw [State.after_history,approved,List.any_cons,Bool.or_eq_true] at early
    rcases early with now | already
    · exact .inl (published_now before found now)
    · exact kept already

def asksOnSale (config : Pool) (request : ReserveRequest) : Prop :=
  asksOwnTypes config request ∧ config.state.world.db.statusOf request.eventID ≠ some .cancelled

instance (config : Pool) (request : ReserveRequest) : Decidable (asksOnSale config request) :=
  inferInstanceAs (Decidable (_ ∧ _))

def Call.reservesOf (eventID : ID) : Call → Bool
  | .reserve _ _ request => request.eventID = eventID
  | _ => false

def cancelsQuietly (config : Pool) (_ : Nat) : Statement → Fault → Bool
  | .updateEvent event,_ => event.status ≠ .cancelled ||
      config.threads.all fun thread => !(decide thread.Running && thread.call.reservesOf event.id)
  | _,_ => true

/-- Reservations are made of events that are not cancelled, and statuses are changed alone. -/
def OnSale (config : Pool) (action : Step) : Prop :=
  Reserving asksOnSale config action ∧ Stepwise editsAlone config action ∧ Stepwise cancelsQuietly config action

instance (config : Pool) (action : Step) : Decidable (OnSale config action) := inferInstanceAs (Decidable (_ ∧ _ ∧ _))

theorem published_by_step {reservationTTL : Nat} {config after : Pool} {action : Step} {eventID : ID}
    (run : Run (service reservationTTL) (Stepwise editsAlone) (.idle .initial) config)
    (taken : config.next (service reservationTTL) action = some after)
    (missing : ¬approved config.state.history eventID = true)
    (now : approved after.state.history eventID = true) :
    after.state.world.db.statusOf eventID = some .published := by
  rcases Config.next_state taken with same | ⟨index,fault,call,statement,next,rfl,found,rfl⟩
  · rw [same] at now
    exact absurd now missing
  · rw [State.after_history,approved,List.any_cons,Bool.or_eq_true] at now
    rcases now with publishing | already
    · exact published_now run found publishing
    · exact absurd already missing

theorem approved_of_sale {reservationTTL index : Nat} {guard : Pool → Step → Prop} {config : Pool} {userID : ID}
    {userEmail : String} {request : ReserveRequest} {res : Reservation}
    (run : Run (service reservationTTL) guard (.idle .initial) config)
    (returned : config.returned index = some (.reserve userID userEmail request,.reservation (.ok res)))
    (own : asksOwnTypes config request) : approved config.state.history request.eventID = true := by
  obtain ⟨_,_,sold,_⟩ := (opening_holds run).thread_fits index _ (Config.returned_thread returned)
  obtain ⟨some,all⟩ := sold userID userEmail request res rfl rfl
  obtain ⟨item,member⟩ := List.exists_mem_of_ne_nil _ some
  obtain ⟨row,found,early⟩ := all item member
  have event := own item member
  rw [Database.Sells,found] at event
  rw [← Option.some.inj event]
  exact early

theorem program_creates_pending (reservationTTL : Nat) (call : Call) :
    (program reservationTTL call).Issues fun statement =>
      ∀ event, statement = .createEvent event → event.status = .pending := by
  refine (program_issues reservationTTL call).mono fun statement inside event same => ?_
  subst same
  cases call with
  | createEvent organizerID request => exact inside.pending
  | _ => exact inside.elim

theorem cancelled_origin {statement : Statement} {fault : Fault} {world : World} {eventID : ID}
    (pending : ∀ event, statement = .createEvent event → event.status = .pending)
    (cancelled : (execute statement fault world).2.db.statusOf eventID = some .cancelled) :
    world.db.statusOf eventID = some .cancelled ∨
      ∃ event, statement = .updateEvent event ∧ event.id = eventID ∧ event.status = .cancelled := by
  revert cancelled
  cases statement with
  | createEvent event =>
    refine write_part World.db (fun db => db.statusOf eventID = some .cancelled → _) .inl ?_
    intro value after ok cancelled
    obtain ⟨row,fresh,_,status,rfl⟩ := Database.createEvent_ok ok
    have inserted : ((world.db.events.insert row fresh).find? eventID).map (fun row => row.event.status) =
        some .cancelled := cancelled
    rw [Table.find?_insert] at inserted
    split at inserted
    · rw [Option.map_some,status,pending event rfl] at inserted
      cases inserted
    · exact .inl inserted
  | updateEvent event =>
    refine write_part World.db (fun db => db.statusOf eventID = some .cancelled → _) .inl ?_
    intro value after ok cancelled
    by_cases stored : (world.db.statusOf event.id).isSome
    · rw [statusOf_written ok stored] at cancelled
      split at cancelled
      · rename_i same
        exact .inr ⟨event,rfl,same,Option.some.inj cancelled⟩
      · exact .inl cancelled
    · rcases Database.updateEvent_ok ok with ⟨_,rfl⟩ | ⟨row,next,found,_⟩
      · exact .inl cancelled
      · rw [Database.statusOf,found] at stored
        exact absurd rfl stored
  | _ =>
    intro cancelled
    rw [Database.statusOf,(execute_untouched _ fault world).events rfl] at cancelled
    exact .inl cancelled

theorem none_reserves_cancelled {reservationTTL : Nat} {config : Pool}
    (run : Run (service reservationTTL) OnSale (.idle .initial) config) {eventID : ID}
    (cancelled : config.state.world.db.statusOf eventID = some .cancelled) :
    ∀ thread ∈ config.threads, thread.Running → thread.call.reservesOf eventID = false := by
  revert eventID
  refine run.invariant (fun config => ∀ {eventID}, config.state.world.db.statusOf eventID = some .cancelled →
    ∀ thread ∈ config.threads, thread.Running → thread.call.reservesOf eventID = false)
    (fun cancelled => by cases cancelled) ?_
  intro config action after before holds permitted taken eventID cancelled thread member running
  obtain ⟨position,found⟩ := List.mem_iff_getElem?.mp member
  rcases Config.next_thread taken found with ⟨earlier,present,same,ran⟩ | ⟨rfl,_⟩
  · have inside := List.mem_of_getElem? present
    rw [← same]
    rcases Config.next_state taken with unmoved | ⟨index,fault,call,statement,next,rfl,issued,rfl⟩
    · rw [unmoved] at cancelled
      exact holds cancelled earlier inside (ran running)
    · have pending := Run.issues (program_creates_pending reservationTTL) before issued
      rcases cancelled_origin pending cancelled with already | ⟨event,rfl,rfl,status⟩
      · exact holds already earlier inside (ran running)
      · have quiet := permitted.2.2.meets issued
        simp only [cancelsQuietly,status,ne_eq,not_true_eq_false,decide_false,Bool.false_or,List.all_eq_true,
          Bool.not_eq_true',Bool.and_eq_false_iff,decide_eq_false_iff_not] at quiet
        exact (quiet earlier inside).resolve_left fun idle => idle (ran running)
  · cases taken
    cases call : thread.call with
    | reserve userID userEmail request =>
      have asked := permitted.1 request (by rw [call]; rfl)
      refine decide_eq_false fun own => asked.2 ?_
      rw [own]
      exact cancelled
    | _ => rfl

/-- In every run in which statuses are changed alone, and reservations are made of events
that are not and do not become cancelled: a reservation that has succeeded found its event
published in some state since it was started, and of a cancelled event none is reserved. -/
theorem events_sold_live (reservationTTL : Nat) (before started last : Pool) (moments : List Pool) (userID : ID)
    (userEmail : String) (request : ReserveRequest)
    (run : Run (service reservationTTL) OnSale (.idle .initial) before)
    (permitted : OnSale before (.start (.reserve userID userEmail request)))
    (begins : before.next (service reservationTTL) (.start (.reserve userID userEmail request)) = some started)
    (trail : Trail (Config.next (service reservationTTL)) OnSale started moments last) :
    (∀ res, last.returned before.threads.length =
        some (.reserve userID userEmail request,.reservation (.ok res)) →
      ∃ moment ∈ moments, moment.state.world.db.statusOf request.eventID = some .published) ∧
    ∀ eventID index id qty, last.state.world.db.statusOf eventID = some .cancelled →
      last.headAt index = some (.reserve id qty) → ¬last.state.world.db.Sells eventID id := by
  have alone : ∀ config action, OnSale config action → Stepwise editsAlone config action := fun _ _ both => both.2.1
  have ownTypes : ∀ config action, OnSale config action → Reserving asksOwnTypes config action :=
    fun _ _ both request asks => (both.1 request asks).1
  have soFar := run.step _ permitted begins
  have throughout := soFar.trans trail.path
  refine ⟨fun res returned => ?_,fun eventID index id qty cancelled head sells => ?_⟩
  · obtain ⟨own,uncancelled⟩ := permitted.1 request rfl
    have sold : approved last.state.history request.eventID = true := by
      refine approved_of_sale throughout returned fun item member => ?_
      have since := (Path.step _ .refl permitted begins).trans trail.path
      exact (own item member).later (persists_of_run furnished_initial run since)
    -- the approval came first, and the event was still published, or it came on the way
    by_cases early : approved started.state.history request.eventID = true
    · refine ⟨started,trail.first_mem,?_⟩
      cases begins
      rcases approved_status (soFar.mono alone) early with published | cancelled
      · exact published
      · exact absurd cancelled uncancelled
    · obtain ⟨middle,action,after,path,taken,missing,now,member⟩ :=
        trail.crosses (fun config => approved config.state.history request.eventID = true) early sold
      exact ⟨after,member,published_by_step ((soFar.trans path).mono alone) taken missing now⟩
  · obtain ⟨call,next,found⟩ := Config.headAt_thread head
    obtain ⟨own,serves,sold⟩ := confined_of_run (throughout.mono ownTypes) found
    have footprint := Run.issues (program_issues reservationTTL) throughout found
    have quiet := none_reserves_cancelled throughout cancelled _ (List.mem_of_getElem? found) rfl
    -- what the call reserves belongs to its own event
    cases call with
    | reserve userID userEmail request =>
      have same : own = eventID := Option.some.inj (sold.symm.trans sells)
      exact of_decide_eq_false quiet (serves.trans same)
    | _ => exact footprint.elim

/-- What `Reserve` returns for the four tickets of the concert. -/
def fourReserved (bookingID : ID) : Reservation :=
  ⟨bookingID,3,0,[⟨bookingID + 1,bookingID,1,4,5,20⟩],20,.pending,900,0⟩

/-- A reservation that was begun before the event's approval and has succeeded after it. -/
theorem events_sold_live_approved : ∃ (before started last : Pool) (moments : List Pool),
    Run (service 900) OnSale (.idle .initial) before ∧ before.state.world.db.statusOf 0 = some .pending ∧
    before.next (service 900) (.start (.reserve 3 "e" fourTickets)) = some started ∧
    Trail (Config.next (service 900)) OnSale started moments last ∧
    last.returned 1 = some (.reserve 3 "e" fourTickets,.reservation (.ok (fourReserved 2))) ∧
    ∃ moment ∈ moments, moment.state.world.db.statusOf 0 = some .published := by
  obtain ⟨before,run,outcome⟩ := exists_run_of_replay (service 900) OnSale
    (.start (.createEvent 7 concert) :: undisturbed 0 4) (.idle .initial)
    (fun (before : Pool) => decide (before.threads.length = 1) && decide (before.state.world.db.statusOf 0 = some .pending) &&
      decide (OnSale before (.start (.reserve 3 "e" fourTickets))) &&
      (before.next (service 900) (.start (.reserve 3 "e" fourTickets))).any fun (started : Pool) =>
        (followTrail (Config.next (service 900)) OnSale [started] started
          (undisturbed 1 1 ++ .start (.approveEvent 0 9) :: undisturbed 2 7 ++ undisturbed 1 7)).any fun (passed : List Pool × Pool) =>
            passed.2.returned 1 =
              some (.reserve 3 "e" fourTickets,.reservation (.ok (fourReserved 2)))) (by decide +kernel)
  simp only [Bool.and_eq_true,decide_eq_true_eq,Option.any_eq_true] at outcome
  obtain ⟨⟨⟨one,pending⟩,permitted⟩,started,begins,⟨moments,last⟩,passed,returned⟩ := outcome
  have trail := trail_of_follow _ _ _ .refl passed
  refine ⟨before,started,last,moments,run,pending,begins,trail,returned,?_⟩
  exact (events_sold_live 900 before started last moments 3 "e" fourTickets run permitted begins trail).1 _
    (one ▸ returned)

/-- The calls that create, review and cancel events, and reserve and give back their tickets. -/
def Call.trades : Call → Bool
  | .createEvent _ _ | .approveEvent _ _ | .rejectEvent _ _ | .cancelEvent _ _ | .cancelBookings _
  | .reserve _ _ _ => true
  | _ => false

/-- Tickets of an event that was cancelled before the reservation was begun. -/
theorem cancelled_event_sold : ¬∀ (reservationTTL : Nat) (before started last : Pool) (moments : List Pool)
    (userID : ID) (userEmail : String) (request : ReserveRequest),
    Run (service reservationTTL) (Admitting Call.trades Anything) (.idle .initial) before →
    before.next (service reservationTTL) (.start (.reserve userID userEmail request)) = some started →
    Trail (Config.next (service reservationTTL)) (Admitting Call.trades Anything) started moments last →
    (∀ res, last.returned before.threads.length =
        some (.reserve userID userEmail request,.reservation (.ok res)) →
      ∃ moment ∈ moments, moment.state.world.db.statusOf request.eventID = some .published) ∧
    ∀ eventID index id qty, last.state.world.db.statusOf eventID = some .cancelled →
      last.headAt index = some (.reserve id qty) → ¬last.state.world.db.Sells eventID id := by
  intro live
  obtain ⟨before,run,outcome⟩ := exists_run_of_replay (service 900) (Admitting Call.trades Anything)
    (publication ++ .start (.cancelEvent 0 7) :: undisturbed 2 6) (.idle .initial)
    (fun (before : Pool) => decide (before.threads.length = 3) &&
      (before.next (service 900) (.start (.reserve 3 "e" fourTickets))).any fun (started : Pool) =>
        (followTrail (Config.next (service 900)) (Admitting Call.trades Anything) [started] started
          (undisturbed 3 8)).any fun (passed : List Pool × Pool) =>
            decide (passed.2.returned 3 =
              some (.reserve 3 "e" fourTickets,.reservation (.ok (fourReserved 2)))) &&
            passed.1.all fun (moment : Pool) => moment.state.world.db.statusOf 0 = some .cancelled) (by decide +kernel)
  simp only [Bool.and_eq_true,decide_eq_true_eq,Option.any_eq_true,List.all_eq_true] at outcome
  obtain ⟨three,started,begins,⟨moments,last⟩,passed,returned,cancelled⟩ := outcome
  obtain ⟨moment,member,published⟩ := (live 900 before started last moments 3 "e" fourTickets run begins
    (trail_of_follow _ _ _ .refl passed)).1 (fourReserved 2) (by rw [three]; exact returned)
  cases (cancelled moment member).symm.trans published

end Ticketbus.Ticketing
