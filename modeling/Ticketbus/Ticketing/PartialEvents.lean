import Ticketbus.Ticketing.EventService
import Ticketbus.Ticketing.Effects
import Ticketbus.Ticketing.Footprint
import Ticketbus.Concurrency.Sequential

/-! Event operations that stop part of the way. Creating an event is one INSERT for the event and one
for each ticket type, approving it is the UPDATE of the event, a listing and two UPDATEs for each ticket
type; every statement commits by itself. -/
namespace Ticketbus.Ticketing
open Ticketbus.Concurrency Ticketbus.Relational

/-- A failure when the first write of the operation is committed already. -/
def failsHalfway : Exchange Statement Reply → Bool
  | ⟨.createTicketType _,reply⟩ => !reply.isOk
  | ⟨.listTicketTypesByEvent _,reply⟩ => !reply.isOk
  | ⟨.init _ _,reply⟩ => !reply.isOk
  | ⟨.setPrice _ _,reply⟩ => !reply.isOk
  | _ => false

namespace Database

def Fills (ids : List ID) (db after : Database) : Prop :=
  ∀ id, Option.Rel (fun old row : TicketTypeRow => row.eventID = old.eventID ∧ row.quantity = old.quantity ∧
      (id ∈ ids → row.availableSeat = row.quantity) ∧ (id ∉ ids → row.availableSeat = old.availableSeat))
    (db.ticketTypes.find? id) (after.ticketTypes.find? id)

variable {db after : Database}

theorem Fills.absent {ids : List ID} (absent : ∀ id ∈ ids, db.ticketTypes.find? id = none) : Fills ids db db := by
  intro id
  cases found : db.ticketTypes.find? id with
  | none => exact .none
  | some row =>
    refine .some ⟨rfl,rfl,fun member => ?_,fun _ => rfl⟩
    cases (absent id member).symm.trans found

theorem Fills.trans {first second : List ID} {middle : Database} (filled : Fills first db middle)
    (more : Fills second middle after) : Fills (first ++ second) db after := by
  intro id
  have before := filled id
  have later := more id
  generalize db.ticketTypes.find? id = old at before
  generalize middle.ticketTypes.find? id = mid at before later
  generalize after.ticketTypes.find? id = new at later
  cases before with
  | none =>
    cases later
    exact .none
  | some was =>
    obtain ⟨event,quantity,full,kept⟩ := was
    cases later with
    | some is =>
      obtain ⟨sameEvent,sameQuantity,isFull,isKept⟩ := is
      refine .some ⟨sameEvent.trans event,sameQuantity.trans quantity,fun member => ?_,fun outside => ?_⟩
      · by_cases again : id ∈ second
        · exact isFull again
        · rw [isKept again,full ((List.mem_append.mp member).resolve_right again),sameQuantity]
      · rw [List.mem_append,not_or] at outside
        exact (isKept outside.2).trans (kept outside.1)

theorem Reseated.fills {row next : TicketTypeRow} {ids : List ID} (change : db.Reseated row next after)
    (only : ∀ id ∈ ids, id = row.id) (full : row.id ∈ ids → next.availableSeat = next.quantity)
    (kept : row.id ∉ ids → next.availableSeat = row.availableSeat) : Fills ids db after := by
  intro id
  by_cases same : row.id = id
  · subst same
    rw [change.found,change.1]
    exact .some ⟨change.2.2.1,change.2.2.2.1,full,kept⟩
  · rw [change.others same]
    cases db.ticketTypes.find? id with
    | none => exact .none
    | some other => exact .some ⟨rfl,rfl,fun member => absurd (only id member).symm same,fun _ => rfl⟩

def Quantities (db : Database) (types : List TicketType) : Prop :=
  ∀ ticketType ∈ types, ∀ row, db.ticketTypes.find? ticketType.id = some row → row.quantity = ticketType.quantity

theorem Quantities.fills {types : List TicketType} {ids : List ID} (listed : db.Quantities types)
    (filled : Fills ids db after) : after.Quantities types := by
  intro ticketType member row found
  have related := filled ticketType.id
  rw [found] at related
  cases before : db.ticketTypes.find? ticketType.id with
  | none =>
    rw [before] at related
    cases related
  | some old =>
    rw [before] at related
    cases related with
    | some is => exact is.2.1.trans (listed ticketType member old before)

theorem initSeats_fills {id : ID} {total : Int} {count : Nat} (ok : db.initSeats id total = .ok (count,after))
    (whole : ∀ row, db.ticketTypes.find? id = some row → row.quantity = total) : Fills [id] db after := by
  rcases initSeats_ok ok with ⟨_,absent,rfl⟩ | ⟨_,row,next,rfl,change,seats⟩
  · exact .absent (by simpa using absent)
  · have quantity := change.2.2.2.1
    exact change.fills (by simp) (fun _ => by rw [seats,quantity,whole row change.1]) (by simp)

theorem setPrice_fills {id : ID} {price : Int} {count : Nat} (ok : db.setPrice id price = .ok (count,after)) :
    Fills [] db after := by
  rcases setPrice_ok ok with rfl | ⟨row,next,_,change,seats⟩
  · exact .absent (by simp)
  · exact change.fills (by simp) nofun fun _ => seats

theorem quantities_listed (db : Database) (eventID : ID) : db.Quantities (db.listTicketTypesByEvent eventID) := by
  intro ticketType member row found
  obtain ⟨stored,inside,rfl⟩ := List.mem_map.mp member
  cases (Table.find?_of_mem (List.mem_of_mem_filter inside)).symm.trans found
  rfl

theorem Fills.event_iff {ids : List ID} {eventID : ID} (filled : Fills ids db after) :
    (∀ row ∈ after.ticketTypes.rows, row.eventID = eventID → row.availableSeat = row.quantity) ↔
    ∀ row ∈ db.ticketTypes.rows, row.eventID = eventID → row.id ∈ ids ∨ row.availableSeat = row.quantity := by
  constructor
  · intro full row member own
    have related := filled row.id
    rw [show db.ticketTypes.find? row.id = some row from Table.find?_of_mem member] at related
    cases found : after.ticketTypes.find? row.id with
    | none =>
      rw [found] at related
      cases related
    | some next =>
      rw [found] at related
      cases related with
      | some is =>
        obtain ⟨event,quantity,_,kept⟩ := is
        refine or_iff_not_imp_left.mpr fun outside => ?_
        rw [← kept outside,← quantity]
        exact full next (Table.find?_mem found) (event.trans own)
  · intro others row member own
    have related := filled row.id
    rw [show after.ticketTypes.find? row.id = some row from Table.find?_of_mem member] at related
    cases found : db.ticketTypes.find? row.id with
    | none =>
      rw [found] at related
      cases related
    | some old =>
      rw [found] at related
      have key : old.id = row.id := Table.find?_key found
      cases related with
      | some is =>
        obtain ⟨event,quantity,full,kept⟩ := is
        by_cases inside : row.id ∈ ids
        · exact full inside
        · rw [kept inside,quantity]
          exact (others old (Table.find?_mem found) (event.symm.trans own)).resolve_left (key ▸ inside)

end Database

theorem createTicketTypes_ends (types : List TicketType) (world : World) :
    (EventRepo.createTicketTypes types).Ensures execute (fun outcome => ∀ error, outcome.value = .error error →
      ∃ exchange ∈ outcome.trace, failsHalfway exchange = true) world := by
  induction types generalizing world with
  | nil =>
    intro error value
    cases value
  | cons ticketType rest ih =>
    apply Program.Ensures.step
    rintro fault (error | _) later executed
    · intro _ _
      exact ⟨_,.head _,rfl⟩
    · apply (ih later).mono
      intro outcome ends error value
      obtain ⟨exchange,member,fails⟩ := ends error value
      exact ⟨exchange,.tail _ member,fails⟩

theorem ensures_events {α : Type} {program : Task α} (issues : program.Issues fun statement => statement.editsEvents = false)
    (world : World) : program.Ensures execute (fun outcome => outcome.world.db.events = world.db.events) world := by
  have kept (statement : Statement) (fault : Fault) (later : World) (edits : statement.editsEvents = false)
      (same : later.db.events = world.db.events) : (execute statement fault later).2.db.events = world.db.events :=
    ((execute_untouched statement fault later).events edits).trans same
  exact .keeps issues kept rfl

section Create
variable (organizerID : ID) (request : CreateEventRequest) (faults : Nat → Fault) (world : World)

/-- `CreateEvent` with no other call running. -/
def createAlone : Outcome Statement Reply World (Except Error Event) :=
  (EventService.createEvent organizerID request).run execute faults world

inductive CreateFails (outcome : Outcome Statement Reply World (Except Error Event)) : Prop
  | refused (same : outcome.world.db = world.db) (none : ∀ exchange ∈ outcome.trace, failsHalfway exchange = false)
  | halfway (exchange : Exchange Statement Reply) (member : exchange ∈ outcome.trace)
      (fails : failsHalfway exchange = true) (row : EventRow) (fresh : world.db.events.find? row.id = none)
      (added : (outcome.world.db.events.find? row.id).isSome)

theorem createEvent_ends : (EventService.createEvent organizerID request).Ensures execute (fun outcome => ∀ error,
    outcome.value = .error error → CreateFails world outcome) world := by
  change Program.Ensures _ _ (if request.domainTypes = [] then _ else
    if EventService.totalQty request.domainTypes > request.venueCapacity then _ else _) _
  split
  · exact fun _ _ => .refused rfl (by simp)
  split
  · exact fun _ _ => .refused rfl (by simp)
  intro drawing
  have drawn : (execute .newString drawing world).2.db = world.db := rfl
  generalize (execute .newString drawing world).2 = numbered at drawn ⊢
  apply Program.Ensures.step
  rintro fault (error | _) later executed
  · cases write_failed executed
    exact fun _ _ => .refused drawn (by simp [Outcome.after,failsHalfway])
  · -- the event is stored: every failure from here on leaves it behind
    obtain ⟨db,stored,rfl⟩ := write_committed executed
    obtain ⟨row,fresh,_,_,rfl⟩ := Database.createEvent_ok stored
    have added : ((numbered.db.addEvent row fresh).events.find? row.id).isSome := by
      rw [show (numbered.db.addEvent row fresh).events.find? row.id = some row from
        (Table.find?_insert numbered.db.events row row.id fresh).trans (if_pos rfl)]
      rfl
    change Program.Ensures _ _ ((EventService.nameTypes _ request.domainTypes).bind _) _
    apply Program.Ensures.bind
    have draws : (fun statement : Statement => statement.editsEvents = false) .newString := rfl
    apply (ensures_events (nameTypes_issues draws _ _) _).mono
    intro named same
    apply Program.Ensures.bind
    apply ((createTicketTypes_ends named.value named.world).and
      (ensures_events (createTicketTypes_issues (fun _ => rfl) _) _)).mono
    rintro types ⟨ends,kept⟩
    generalize result : types.value = value at *
    cases value with
    | ok _ => exact nofun
    | error error =>
      obtain ⟨exchange,member,fails⟩ := ends error rfl
      intro _ _
      refine .halfway exchange (.tail _ (.tail _ ?_)) fails row (drawn ▸ fresh) ?_
      · exact List.mem_append_right _ (List.mem_append_left _ member)
      · change (types.world.db.events.find? row.id).isSome
        rw [kept,same]
        exact added

end Create

theorem initAll_ends (types : List TicketType) (world : World) (listed : world.db.Quantities types) :
    (EventService.initAll types).Ensures execute (fun outcome =>
      (outcome.value = .ok () ∧ Database.Fills (types.map TicketType.id) world.db outcome.world.db) ∨
      (∃ error, outcome.value = .error error) ∧ ∃ exchange ∈ outcome.trace, failsHalfway exchange = true) world := by
  induction types generalizing world with
  | nil => exact .inl ⟨rfl,.absent (by simp)⟩
  | cons ticketType rest ih =>
    apply Program.Ensures.step
    rintro fault (error | count) later executed
    · exact .inr ⟨⟨_,rfl⟩,_,.head _,rfl⟩
    obtain ⟨opened,opens,rfl⟩ := write_committed executed
    have filled := Database.initSeats_fills opens (listed ticketType (.head _))
    apply Program.Ensures.step
    rintro fault (error | count) later executed
    · exact .inr ⟨⟨_,rfl⟩,_,.tail _ (.head _),rfl⟩
    obtain ⟨priced,prices,rfl⟩ := write_committed executed
    have both := filled.trans (Database.setPrice_fills prices)
    have still : priced.Quantities rest := by
      intro other member
      exact (listed.fills both) other (.tail _ member)
    apply (ih _ still).mono
    rintro outcome (⟨value,others⟩ | ⟨failed,exchange,member,fails⟩)
    · exact .inl ⟨value,both.trans others⟩
    · exact .inr ⟨failed,exchange,.tail _ (.tail _ member),fails⟩

section Approve
variable (eventID adminUserID : ID) (faults : Nat → Fault) (world : World)

/-- `ApproveEvent` with no other call running. -/
def approveAlone : Outcome Statement Reply World (Except Error Event) :=
  (EventService.approveEvent eventID adminUserID).run execute faults world

/-- The ticket types that an approval reads: its listing is the fifth of its statements. -/
def openedTypes : List ID := ((faults 4).delivers (world.db.listTicketTypesByEvent eventID)).map TicketType.id

inductive ApproveEnds (outcome : Outcome Statement Reply World (Except Error Event)) : Prop
  | refused (error : Error) (value : outcome.value = .error error) (same : outcome.world.db = world.db)
      (none : ∀ exchange ∈ outcome.trace, failsHalfway exchange = false)
  | halfway (error : Error) (value : outcome.value = .error error) (exchange : Exchange Statement Reply)
      (member : exchange ∈ outcome.trace) (fails : failsHalfway exchange = true) (row next : EventRow)
      (found : world.db.events.find? eventID = some row) (pending : row.event.status = .pending)
      (isNext : outcome.world.db.events.find? eventID = some next) (published : next.event.status = .published)
  | approved (event : Event) (value : outcome.value = .ok event)
      (filled : Database.Fills (openedTypes eventID faults world) world.db outcome.world.db)

variable {eventID world} in
theorem published_event {event updated : Event} {db : Database} (read : world.db.findEventByID eventID = .ok event)
    (pending : event.status = .pending) (stored : world.db.updateEvent updated = .ok ((),db))
    (same : updated.id = event.id) : ∃ row next, world.db.events.find? eventID = some row ∧
      row.event.status = .pending ∧ db.ticketTypes = world.db.ticketTypes ∧
      db.events.find? eventID = some next ∧ next.event.status = updated.status := by
  unfold Database.findEventByID at read
  split at read
  · cases read
  rename_i row found
  cases read
  have key : row.id = eventID := Table.find?_key found
  have own : updated.id = eventID := same.trans key
  rcases Database.updateEvent_ok stored with ⟨absent,_⟩ | ⟨old,next,_,isNext,status,_,rfl⟩
  · rw [own] at absent
    cases absent.symm.trans found
  · refine ⟨row,next,found,pending,rfl,?_,status⟩
    rw [← own,← isNext]
    rw [← own,← isNext] at found
    exact Table.find?_replace_self found

variable {eventID faults world} in
theorem ApproveEnds.after {outcome : Outcome Statement Reply World (Except Error Event)}
    {exchange : Exchange Statement Reply} (ends : ApproveEnds eventID faults world outcome)
    (passes : failsHalfway exchange = false) : ApproveEnds eventID faults world (outcome.after exchange) := by
  cases ends with
  | refused error value same none => exact .refused error value same (List.forall_mem_cons.mpr ⟨passes,none⟩)
  | halfway error value other member fails row next found pending isNext published =>
    exact .halfway error value other (.tail _ member) fails row next found pending isNext published
  | approved event value filled => exact .approved event value filled

theorem approveAlone_ends : ApproveEnds eventID faults world (approveAlone eventID adminUserID faults world) := by
  apply Program.run_step
  rintro (error | event) later executed
  · exact .after (.refused _ rfl (congrArg World.db (query_eq executed)) (List.forall_mem_nil _)) rfl
  cases query_eq executed
  have read : world.db.findEventByID eventID = .ok event := query_ok (congrArg Prod.fst executed)
  refine .after ?_ rfl
  change ApproveEnds _ _ _ (Program.run _ (if event.status ≠ .pending then _ else _) _ _)
  split
  · exact .refused _ rfl rfl (List.forall_mem_nil _)
  rename_i pending
  refine Program.run_step _ fun now _ clock => .after ?_ rfl
  cases clock
  refine Program.run_step _ fun again _ clock => .after ?_ rfl
  cases clock
  refine Program.run_step _ ?_
  rintro (error | _) published executed
  · cases write_failed executed
    exact .after (.refused _ rfl rfl (List.forall_mem_nil _)) rfl
  obtain ⟨db,stored,rfl⟩ := write_committed executed
  obtain ⟨row,next,found,isPending,types,isNext,isPublished⟩ := published_event read (not_not.mp pending) stored rfl
  refine .after (Program.run_step _ ?_) rfl
  rintro (error | rows) listed executed
  · cases stream_eq executed
    exact .halfway _ rfl _ (.head _) rfl row next found isPending isNext isPublished
  have items : rows.items = (faults 4).delivers (db.listTicketTypesByEvent eventID) :=
    stream_ok (congrArg Prod.fst executed)
  cases stream_eq executed
  have same : db.listTicketTypesByEvent eventID = world.db.listTicketTypesByEvent eventID := by
    rw [Database.listTicketTypesByEvent,types]
    rfl
  have sets : (EventService.initAll rows.items).Issues fun statement => statement.editsEvents = false :=
    initAll_issues rows.items (fun _ _ => rfl) fun _ _ => rfl
  refine .after (Program.Ensures.run (.bind (((initAll_ends rows.items _ ?_).and (ensures_events sets _)).mono ?_)) _) rfl
  · rw [items]
    intro type member
    exact Database.quantities_listed db eventID type ((Fault.delivers_prefix _ _).subset member)
  rintro outcome ⟨⟨value,filled⟩ | ⟨⟨error,value⟩,exchange,member,fails⟩,kept⟩
  · rw [value]
    refine .approved _ rfl ?_
    rw [openedTypes,← same,← items]
    intro id
    rw [← types]
    exact filled id
  · rw [value]
    refine .halfway _ rfl exchange (List.mem_append_left _ member) fails row next found isPending ?_ isPublished
    change outcome.world.db.events.find? eventID = some next
    rw [kept]
    exact isNext

end Approve

/-- An operation that reports an error has added or changed nothing if and only if no statement
after its first write fails. An approval that succeeds has opened every ticket type of its event
if and only if those that its listing does not bring are full already. -/
theorem event_operations_atomic (faults : Nat → Fault) (world : World) :
    (∀ organizerID request error, (createAlone organizerID request faults world).value = .error error →
      (((createAlone organizerID request faults world).world.db.events = world.db.events ∧
        (createAlone organizerID request faults world).world.db.ticketTypes = world.db.ticketTypes) ↔
        ∀ exchange ∈ (createAlone organizerID request faults world).trace, failsHalfway exchange = false) ∧
      ((∀ exchange ∈ (createAlone organizerID request faults world).trace, failsHalfway exchange = false) →
        (createAlone organizerID request faults world).world.db = world.db)) ∧
    ∀ eventID adminUserID,
      (∀ error, (approveAlone eventID adminUserID faults world).value = .error error →
        (((approveAlone eventID adminUserID faults world).world.db.events.find? eventID =
            world.db.events.find? eventID ∧
          (approveAlone eventID adminUserID faults world).world.db.ticketTypes = world.db.ticketTypes) ↔
          ∀ exchange ∈ (approveAlone eventID adminUserID faults world).trace, failsHalfway exchange = false) ∧
        ((∀ exchange ∈ (approveAlone eventID adminUserID faults world).trace, failsHalfway exchange = false) →
          (approveAlone eventID adminUserID faults world).world.db = world.db)) ∧
      ∀ event, (approveAlone eventID adminUserID faults world).value = .ok event →
        ((∀ row ∈ (approveAlone eventID adminUserID faults world).world.db.ticketTypes.rows,
          row.eventID = eventID → row.availableSeat = row.quantity) ↔
        ∀ row ∈ world.db.ticketTypes.rows, row.eventID = eventID →
          row.id ∈ openedTypes eventID faults world ∨ row.availableSeat = row.quantity) := by
  refine ⟨fun organizerID request error failed => ?_,fun eventID adminUserID => ?_⟩
  · cases (createEvent_ends organizerID request world).run faults error failed with
    | refused same none =>
      have kept : (createAlone organizerID request faults world).world.db = world.db := same
      rw [kept]
      exact ⟨iff_of_true ⟨rfl,rfl⟩ none,fun _ => rfl⟩
    | halfway exchange member fails row fresh added =>
      have some : ¬ ∀ exchange ∈ (createAlone organizerID request faults world).trace, failsHalfway exchange = false := by
        intro none
        cases fails.symm.trans (none exchange member)
      refine ⟨iff_of_false (fun ⟨same,_⟩ => ?_) some,fun none => absurd none some⟩
      rw [show (Program.run execute _ faults world).world.db.events = world.db.events from same,fresh] at added
      cases added
  · cases approveAlone_ends eventID adminUserID faults world with
    | refused cause value same none =>
      rw [same]
      refine ⟨fun _ _ => ⟨iff_of_true ⟨rfl,rfl⟩ none,fun _ => rfl⟩,fun event approved => ?_⟩
      cases value.symm.trans approved
    | halfway cause value exchange member fails row next found pending isNext published =>
      have some : ¬ ∀ exchange ∈ (approveAlone eventID adminUserID faults world).trace, failsHalfway exchange = false := by
        intro none
        cases fails.symm.trans (none exchange member)
      refine ⟨fun _ _ => ⟨iff_of_false (fun ⟨same,_⟩ => ?_) some,fun none => absurd none some⟩,fun event approved => ?_⟩
      · rw [isNext,found] at same
        cases same
        cases pending.symm.trans published
      · cases value.symm.trans approved
    | approved event value filled =>
      refine ⟨fun error failed => ?_,fun _ _ => filled.event_iff⟩
      cases value.symm.trans failed

/-- An event of two ticket types with three seats each. -/
def twoTypes : CreateEventRequest := ⟨"t","d","v","a",10,1,2,[⟨"a",5,3,4⟩,⟨"b",5,3,4⟩]⟩

/-- The event has been created and waits for its approval. -/
def proposed : World := (createAlone 7 twoTypes (fun _ => .none) .initial).world

/-- A first INSERT that fails, an UPDATE that fails, and an approval. -/
theorem event_operations_atomic_proposed :
    (createAlone 7 twoTypes (failingAt 1) .initial).world.db = World.initial.db ∧
    (approveAlone 0 9 (failingAt 3) proposed).world.db = proposed.db ∧
    ∀ row ∈ (approveAlone 0 9 (fun _ => .none) proposed).world.db.ticketTypes.rows,
      row.eventID = 0 → row.availableSeat = row.quantity := by
  have approved : (approveAlone 0 9 (fun _ => .none) proposed).value.isOk = true := by decide +kernel
  refine ⟨((event_operations_atomic (failingAt 1) .initial).1 7 twoTypes (.db .connection) (by decide +kernel)).2
    (by decide +kernel),(((event_operations_atomic (failingAt 3) proposed).2 0 9).1 (.db .connection)
      (by decide +kernel)).2 (by decide +kernel),?_⟩
  cases value : (approveAlone 0 9 (fun _ => .none) proposed).value with
  | error error =>
    rw [value] at approved
    cases approved
  | ok event =>
    exact (((event_operations_atomic (fun _ => .none) proposed).2 0 9).2 event value).mpr (by decide +kernel)

/-- A request that passes its validation asks for more tickets per order than the column holds, and the event
stays without a ticket type. The second of two ticket types is not stored and the event stays with the first one.
A counter is not set and the event is published with no seats, which a second approval refuses to change. A listing
breaks off and the approval succeeds without a seat. -/
theorem event_operations_partial :
    (CreateEventRequest.valid {twoTypes with ticketTypes := [⟨"a",5,3,3000000000⟩]} = true ∧
      (createAlone 7 {twoTypes with ticketTypes := [⟨"a",5,3,3000000000⟩]} (fun _ => .none) .initial).value.isOk = false ∧
      (createAlone 7 {twoTypes with ticketTypes := [⟨"a",5,3,3000000000⟩]} (fun _ => .none)
        .initial).world.db.events.rows.length = 1) ∧
    ((createAlone 7 twoTypes (failingAt 5) .initial).value = .error (.db .connection) ∧
      (createAlone 7 twoTypes (failingAt 5) .initial).world.db.events.rows.length = 1 ∧
      (createAlone 7 twoTypes (failingAt 5) .initial).world.db.ticketTypes.rows.length = 1) ∧
    ((approveAlone 0 9 (failingAt 5) proposed).value = .error (.db .connection) ∧
      (approveAlone 0 9 (failingAt 5) proposed).world.db.events.rows.map (fun row => row.event.status) = [.published] ∧
      (approveAlone 0 9 (fun _ => .none) (approveAlone 0 9 (failingAt 5) proposed).world).value =
        .error .eventNotApprovable) ∧
    ((approveAlone 0 9 (fun position => if position = 4 then .broken 0 else .none) proposed).value.isOk = true ∧
      (approveAlone 0 9 (fun position => if position = 4 then .broken 0 else .none)
        proposed).world.db.ticketTypes.rows.map TicketTypeRow.availableSeat = [0,0]) := by
  decide +kernel

end Ticketbus.Ticketing
