import Ticketbus.Ticketing.Edits

/-! Who has put into a row what stands in it. Lifecycle calls write back whole copies that
may be stale, so it is the copies, read and stored, that are traced to the calls that asked
for what they say. -/
namespace Ticketbus.Ticketing
open Ticketbus.Concurrency Ticketbus.Relational

/-- Everything in the event was asked for by a call that may ask for it: the organizer's own
calls for what it is and for its cancellation, and a review for its publication. -/
structure Authored (asked : Call → Prop) (event : Event) : Prop where
  venue : ∃ request, asked (.createEvent event.organizerID request) ∧ event.venueName = request.venueName ∧
    event.venueAddress = request.venueAddress ∧ event.venueCapacity = request.venueCapacity
  details : (∃ request, asked (.createEvent event.organizerID request) ∧ event.details = request.details) ∨
    asked (.updateEvent event.id event.organizerID event.title event.description event.startAt event.endAt)
  approved : event.status = .published ∨ event.status = .cancelled →
    ∃ admin, event.reviewedBy = some admin ∧ asked (.approveEvent event.id admin)
  rejected : event.status = .rejected → ∃ admin, event.reviewedBy = some admin ∧ asked (.rejectEvent event.id admin)
  cancelled : event.status = .cancelled → asked (.cancelEvent event.id event.organizerID)

def Reserved (asked : Call → Prop) (userID eventID : ID) : Prop :=
  ∃ userEmail request, asked (.reserve userID userEmail request) ∧ request.eventID = eventID

def Call.lifecycle : Call → Bool
  | .createEvent .. | .updateEvent .. | .approveEvent .. | .rejectEvent .. | .cancelEvent .. => true
  | _ => false

theorem Authored.mono {asked more : Call → Prop} {event : Event}
    (weaker : ∀ call, call.lifecycle = true → asked call → more call) (authored : Authored asked event) :
    Authored more event where
  venue := authored.venue.imp fun _ holds => ⟨weaker _ rfl holds.1,holds.2⟩
  details := authored.details.imp (fun found => found.imp fun _ holds => ⟨weaker _ rfl holds.1,holds.2⟩) (weaker _ rfl)
  approved is := (authored.approved is).imp fun _ holds => ⟨holds.1,weaker _ rfl holds.2⟩
  rejected is := (authored.rejected is).imp fun _ holds => ⟨holds.1,weaker _ rfl holds.2⟩
  cancelled is := weaker _ rfl (authored.cancelled is)

def Call.Edits (id : ID) (copy event : Event) : Call → Prop
  | .updateEvent eventID organizerID title description startAt endAt => eventID = id ∧ copy.organizerID = organizerID ∧
    (copy.status = .draft ∨ copy.status = .pending) ∧ ∃ now, event = {copy with
      title := title
      description := description
      startAt := startAt
      endAt := endAt
      updatedAt := now}
  | .approveEvent eventID adminUserID => eventID = id ∧ ∃ now updated, event = {copy with
      status := .published
      reviewedBy := some adminUserID
      reviewedAt := some now
      updatedAt := updated}
  | .rejectEvent eventID adminUserID => eventID = id ∧ ∃ now updated, event = {copy with
      status := .rejected
      reviewedBy := some adminUserID
      reviewedAt := some now
      updatedAt := updated}
  | .cancelEvent eventID userID => eventID = id ∧ copy.status = .published ∧ copy.organizerID = userID ∧
    ∃ now, event = {copy with status := .cancelled, updatedAt := now}
  | _ => False

theorem Call.Edits.copied {call : Call} {id : ID} {copy event : Event} (edits : call.Edits id copy event) :
    event.id = copy.id ∧ event.organizerID = copy.organizerID ∧ event.venueName = copy.venueName ∧
      event.venueAddress = copy.venueAddress ∧ event.venueCapacity = copy.venueCapacity := by
  cases call with
  | updateEvent =>
    obtain ⟨_,_,_,_,rfl⟩ := edits
    exact ⟨rfl,rfl,rfl,rfl,rfl⟩
  | approveEvent | rejectEvent =>
    obtain ⟨_,_,_,rfl⟩ := edits
    exact ⟨rfl,rfl,rfl,rfl,rfl⟩
  | cancelEvent =>
    obtain ⟨_,_,_,_,rfl⟩ := edits
    exact ⟨rfl,rfl,rfl,rfl,rfl⟩
  | _ => exact edits.elim

theorem Authored.edited {asked : Call → Prop} {call : Call} {id : ID} {copy event : Event} (authored : Authored asked copy)
    (key : copy.id = id) (edits : call.Edits id copy event) (isAsked : asked call) : Authored asked event := by
  cases call with
  | updateEvent eventID organizerID title description startAt endAt =>
    obtain ⟨rfl,rfl,editable,now,rfl⟩ := edits
    refine ⟨authored.venue,.inr (key ▸ isAsked),fun is => ?_,fun is => ?_,fun is => ?_⟩
    all_goals
      simp only at is
      rcases editable with draft | pending
      · simp [draft] at is
      · simp [pending] at is
  | approveEvent eventID adminUserID =>
    obtain ⟨rfl,now,updated,rfl⟩ := edits
    refine ⟨authored.venue,authored.details,fun _ => ⟨adminUserID,rfl,key ▸ isAsked⟩,fun is => ?_,fun is => ?_⟩
    · cases is
    · cases is
  | rejectEvent eventID adminUserID =>
    obtain ⟨rfl,now,updated,rfl⟩ := edits
    refine ⟨authored.venue,authored.details,fun is => ?_,fun _ => ⟨adminUserID,rfl,key ▸ isAsked⟩,fun is => ?_⟩
    · rcases is with is | is <;> cases is
    · cases is
  | cancelEvent eventID userID =>
    obtain ⟨rfl,published,rfl,now,rfl⟩ := edits
    refine ⟨authored.venue,authored.details,fun _ => authored.approved (.inl published),fun is => ?_,fun _ => key ▸ isAsked⟩
    cases is
  | _ => exact edits.elim

theorem Authored.overwritten {asked : Call → Prop} {stored event : Event} (row : Authored asked stored)
    (authored : Authored asked event) (key : stored.id = event.id) (organizer : stored.organizerID = event.organizerID) :
    Authored asked (stored.overwritten event) where
  venue := row.venue
  details := by
    have details := authored.details
    rw [← key,← organizer] at details
    exact details
  approved is := by
    obtain ⟨admin,reviewed,isAsked⟩ := authored.approved is
    exact ⟨admin,reviewed,key ▸ isAsked⟩
  rejected is := by
    obtain ⟨admin,reviewed,isAsked⟩ := authored.rejected is
    exact ⟨admin,reviewed,key ▸ isAsked⟩
  cancelled is := by
    have isAsked := authored.cancelled is
    rw [← key,← organizer] at isAsked
    exact isAsked

/-! What a call has read by the time it writes. -/

def Statement.Edited (call : Call) (id : ID) (copy : Event) : Statement → Prop
  | .updateEvent event => call.Edits id copy event
  | .createEvent _ => False
  | _ => True

theorem Composed.authored {asked : Call → Prop} {organizerID : ID} {request : CreateEventRequest} {event : Event}
    (composed : Composed organizerID request event) (isAsked : asked (.createEvent organizerID request)) :
    Authored asked event := by
  obtain ⟨rfl,details,venue,pending⟩ := composed
  refine ⟨⟨request,isAsked,venue⟩,.inl ⟨request,isAsked,details⟩,fun is => ?_,fun is => ?_,fun is => ?_⟩
  all_goals simp [pending] at is

def Drafts (call : Call) (exchanges : List (Exchange Statement Reply)) : Prop :=
  ∀ exchange ∈ exchanges, match exchange.1 with
    | .createEvent event => ∃ organizerID request, call = .createEvent organizerID request ∧
      Composed organizerID request event
    | .updateEvent event => ∃ id copy, ⟨.findEventByID id,.ok copy⟩ ∈ exchanges ∧ call.Edits id copy event
    | _ => True

theorem Drafts.plain {call : Call} {exchanges : List (Exchange Statement Reply)}
    (plain : ∀ exchange ∈ exchanges, exchange.1.editsEvents = false) : Drafts call exchanges := by
  intro exchange member
  have still := plain exchange member
  obtain ⟨statement,reply⟩ := exchange
  cases statement with
  | createEvent | updateEvent => cases still
  | _ => trivial

theorem Drafts.afterRead {call : Call} {id : ID} {α : Type} {next : Except DbError Event → Task α}
    (missing : ∀ error, (next (.error error)).Issues fun statement => statement.editsEvents = false)
    (read : ∀ copy, (next (.ok copy)).Issues fun statement => statement.Edited call id copy) :
    ((EventRepo.findEventByID id).bind next).Always fun exchanges _ => Drafts call exchanges := by
  refine ⟨.plain (by simp),fun reply => ?_⟩
  cases reply with
  | error error =>
    refine (Program.Always.of_permitted (missing error)).mono fun exchanges _ plain => .plain ?_
    exact List.forall_mem_cons.mpr ⟨rfl,plain⟩
  | ok copy =>
    refine (Program.Always.of_permitted (read copy)).mono fun exchanges _ edited => ?_
    intro exchange member
    rcases List.mem_cons.mp member with rfl | later
    · trivial
    · have known := edited exchange later
      obtain ⟨statement,reply⟩ := exchange
      cases statement with
      | updateEvent event => exact ⟨id,copy,List.mem_cons_self,known⟩
      | createEvent event => exact known.elim
      | _ => trivial

theorem updateEvent_drafts (eventID organizerID : ID) (title description : String) (startAt endAt : Time) :
    (EventService.updateEvent eventID organizerID title description startAt endAt).Always fun exchanges _ =>
      Drafts (.updateEvent eventID organizerID title description startAt endAt) exchanges := by
  refine Drafts.afterRead (fun error => trivial) fun copy => ?_
  simp only
  split
  · trivial
  rename_i owner
  split
  · trivial
  rename_i editable
  have editable : copy.status = .draft ∨ copy.status = .pending := by tauto
  refine ⟨trivial,fun now => ⟨trivial,fun updated => ⟨?_,fun reply => ?_⟩⟩⟩
  · exact ⟨rfl,not_not.mp owner,editable,updated,rfl⟩
  · cases reply <;> trivial

theorem approveEvent_drafts (eventID adminUserID : ID) :
    (EventService.approveEvent eventID adminUserID).Always fun exchanges _ =>
      Drafts (.approveEvent eventID adminUserID) exchanges := by
  refine Drafts.afterRead (fun error => trivial) fun copy => ?_
  simp only
  split
  · trivial
  refine ⟨trivial,fun now => ⟨trivial,fun updated => ⟨⟨rfl,now,updated,rfl⟩,fun reply => ?_⟩⟩⟩
  cases reply with
  | error error => trivial
  | ok value =>
    refine (listTicketTypesByEvent_issues trivial).bind fun listed => ?_
    cases listed with
    | error error => trivial
    | ok types =>
      refine (initAll_issues types (fun _ _ => trivial) fun _ _ => trivial).bind fun opened => ?_
      cases opened <;> trivial

theorem rejectEvent_drafts (eventID adminUserID : ID) :
    (EventService.rejectEvent eventID adminUserID).Always fun exchanges _ =>
      Drafts (.rejectEvent eventID adminUserID) exchanges := by
  refine Drafts.afterRead (fun error => trivial) fun copy => ?_
  simp only
  split
  · trivial
  refine ⟨trivial,fun now => ⟨trivial,fun updated => ⟨⟨rfl,now,updated,rfl⟩,fun reply => ?_⟩⟩⟩
  cases reply <;> trivial

theorem cancelEvent_drafts (eventID userID : ID) :
    (EventService.cancelEvent eventID userID).Always fun exchanges _ => Drafts (.cancelEvent eventID userID) exchanges := by
  refine Drafts.afterRead (fun error => trivial) fun copy => ?_
  simp only
  split
  · trivial
  rename_i published
  split
  · trivial
  rename_i owner
  refine ⟨trivial,fun now => ⟨trivial,fun updated => ⟨?_,fun reply => ?_⟩⟩⟩
  · exact ⟨rfl,not_not.mp published,not_not.mp owner,updated,rfl⟩
  · cases reply with
    | error error => trivial
    | ok value => exact ⟨trivial,fun _ => ⟨trivial,fun _ => trivial⟩⟩

theorem program_drafts (reservationTTL : Nat) (call : Call) :
    (program reservationTTL call).Always fun exchanges _ => Drafts call exchanges := by
  have others (still : ∀ statement, Footprint call statement → statement.editsEvents = false) :
      (program reservationTTL call).Always fun exchanges _ => Drafts call exchanges := by
    refine (Program.Always.of_permitted (program_issues reservationTTL call)).mono fun exchanges _ inside => ?_
    exact .plain fun exchange member => still _ (inside exchange member)
  cases call with
  | createEvent organizerID request =>
    refine (Program.Always.of_permitted (program_issues reservationTTL _)).mono fun exchanges _ inside => ?_
    rintro ⟨statement,reply⟩ member
    have known := inside _ member
    cases statement with
    | createEvent event => exact ⟨organizerID,request,rfl,known⟩
    | updateEvent event => exact known.elim
    | _ => trivial
  | updateEvent eventID organizerID title description startAt endAt =>
    exact .map _ (updateEvent_drafts eventID organizerID title description startAt endAt)
  | approveEvent eventID adminUserID => exact .map _ (approveEvent_drafts eventID adminUserID)
  | rejectEvent eventID adminUserID => exact .map _ (rejectEvent_drafts eventID adminUserID)
  | cancelEvent eventID userID => exact .map _ (cancelEvent_drafts eventID userID)
  | _ =>
    refine others fun statement inside => ?_
    cases statement <;> first | rfl | exact inside.elim

/-! Where stored events come from. -/

inductive EventOrigin (statement : Statement) (before : Database) (row : EventRow) : Prop
  | kept (member : row ∈ before.events.rows)
  | created (event : Event) (now : Time) (is : statement = .createEvent event)
      (content : row.event = {event with reviewedBy := none, reviewedAt := none, createdAt := now, updatedAt := now})
  | overwritten (event : Event) (stored : EventRow) (is : statement = .updateEvent event)
      (found : before.events.find? event.id = some stored) (content : row.event = stored.event.overwritten event)

theorem event_origin (statement : Statement) (fault : Fault) (world : World) {row : EventRow}
    (member : row ∈ (execute statement fault world).2.db.events.rows) : EventOrigin statement world.db row := by
  by_cases still : statement.editsEvents = false
  · rw [(execute_untouched statement fault world).events still] at member
    exact .kept member
  cases statement with
  | createEvent event =>
    rcases write_cases World.put fault world (world.db.createEvent world.clock event) with ⟨_,after,_,ok,result⟩ | ⟨error,result⟩
    · rw [show execute (.createEvent event) fault world = _ from result] at member
      unfold Database.createEvent at ok
      split at ok
      · simp only at ok
        split at ok
        · rename_i fresh
          cases ok
          rcases (Table.mem_insert _ _ _ fresh).mp member with old | rfl
          · exact .kept old
          · exact .created event world.clock rfl rfl
        · cases ok
      · split at ok <;> cases ok
    · rw [show execute (.createEvent event) fault world = _ from result] at member
      exact .kept member
  | updateEvent event =>
    rcases write_cases World.put fault world (world.db.updateEvent event) with ⟨_,after,_,ok,result⟩ | ⟨error,result⟩
    · rw [show execute (.updateEvent event) fault world = _ from result] at member
      rcases Database.updateEvent_row ok with ⟨_,rfl⟩ | ⟨stored,next,found,key,content,rfl⟩
      · exact .kept member
      · rcases (Table.mem_replace ..).mp member with ⟨old,_⟩ | ⟨rfl,_⟩
        · exact .kept old
        · exact .overwritten event stored rfl found content
    · rw [show execute (.updateEvent event) fault world = _ from result] at member
      exact .kept member
  | _ => exact absurd rfl still

structure Attributed (config : Pool) : Prop where
  rows : ∀ row ∈ config.state.world.db.events.rows, Authored (· ∈ config.calls) row.event
  read : ∀ index id copy, ⟨index,.findEventByID id,.ok copy⟩ ∈ config.state.history → Authored (· ∈ config.calls) copy

theorem Database.findEventByID_ok {db : Database} {id : ID} {event : Event} (ok : db.findEventByID id = .ok event) :
    ∃ row, db.events.find? id = some row ∧ row.event = event := by
  unfold findEventByID at ok
  split at ok
  · cases ok
  · rename_i row found
    cases ok
    exact ⟨row,found,rfl⟩

section Runs
variable {reservationTTL : Nat} {config after : Pool} {action : Step}

theorem copy_kept (run : Run (service reservationTTL) Anything (.idle .initial) config) {index : Nat} {id : ID} {copy : Event}
    (member : ⟨index,.findEventByID id,.ok copy⟩ ∈ config.state.history) : copy.id = id ∧
      ∃ row, config.state.world.db.events.find? id = some row ∧ row.event.organizerID = copy.organizerID := by
  obtain ⟨middle,fault,before,remaining,reply⟩ := run.executed member
  obtain ⟨row,found,rfl⟩ := Database.findEventByID_ok (query_ok reply)
  obtain ⟨next,stays,same⟩ := (persists_of_run furnished_initial before remaining).events id row found
  have key : row.id = id := Table.find?_key found
  exact ⟨key,next,stays,same⟩

theorem Attributed.next (run : Run (service reservationTTL) Anything (.idle .initial) config) (attributed : Attributed config)
    (taken : config.next (service reservationTTL) action = some after) : Attributed after := by
  have runAfter : Run (service reservationTTL) Anything (.idle .initial) after := .step action run trivial taken
  have kept {event : Event} (authored : Authored (· ∈ config.calls) event) : Authored (· ∈ after.calls) event :=
    authored.mono fun call _ started => Config.calls_kept taken started
  rcases Config.next_state taken with same | ⟨index,fault,call,statement,next,rfl,found,rfl⟩
  · constructor
    · intro row member
      rw [same] at member
      exact kept (attributed.rows row member)
    · intro index id copy member
      rw [same] at member
      exact kept (attributed.read index id copy member)
  · refine ⟨fun row member => ?_,fun position id copy member => ?_⟩
    · rcases event_origin statement fault config.state.world member with
        old | ⟨event,now,rfl,content⟩ | ⟨event,stored,rfl,isStored,content⟩
      · exact kept (attributed.rows row old)
      · obtain ⟨caller,started,drafts⟩ := (Talked.of_run runAfter).event List.mem_cons_self (program_drafts reservationTTL)
        obtain ⟨organizerID,request,rfl,composed⟩ := drafts _ (State.mem_exchanges.mpr List.mem_cons_self)
        have stored : Composed organizerID request row.event := by
          rw [content]
          exact ⟨composed.organizer,composed.details,composed.venue,composed.pending⟩
        exact stored.authored (List.mem_of_getElem? started)
      · obtain ⟨caller,started,drafts⟩ := (Talked.of_run runAfter).event List.mem_cons_self (program_drafts reservationTTL)
        obtain ⟨id,copy,wasRead,edits⟩ := drafts _ (State.mem_exchanges.mpr List.mem_cons_self)
        -- the copy was read before this statement
        obtain new | old := List.mem_cons.mp (State.mem_exchanges.mp wasRead)
        · cases congrArg Concurrency.Event.op new
        obtain ⟨key,there,isThere,organizer⟩ := copy_kept run old
        obtain ⟨sameID,sameOrganizer,_⟩ := edits.copied
        rw [sameID,key] at isStored
        cases isStored.symm.trans isThere
        have authored := (kept (attributed.read _ _ _ old)).edited key edits (List.mem_of_getElem? started)
        rw [content]
        refine (kept (attributed.rows stored (Table.find?_mem isStored))).overwritten authored ?_ ?_
        · exact (Table.find?_key isStored).trans (sameID.trans key).symm
        · exact organizer.trans sameOrganizer.symm
    · rcases List.mem_cons.mp member with new | old
      · obtain ⟨_,rfl,reply⟩ := Concurrency.Event.mk.inj new
        obtain ⟨row,isRow,rfl⟩ := Database.findEventByID_ok (query_ok (eq_of_heq reply).symm)
        exact kept (attributed.rows row (Table.find?_mem isRow))
      · exact kept (attributed.read position id copy old)

theorem attributed_of_run (run : Run (service reservationTTL) Anything (.idle .initial) config) : Attributed config := by
  refine run.invariant Attributed ⟨?_,?_⟩ fun config action after path attributed _ taken => attributed.next path taken
  · intro row member
    cases member
  · intro index id copy member
    cases member

end Runs

/-! Bookings. -/

theorem program_creates (reservationTTL : Nat) (call : Call) :
    (program reservationTTL call).Issues fun statement => ∀ booking, statement = .create booking →
      ∃ userEmail request, call = .reserve booking.userID userEmail request ∧ request.eventID = booking.eventID := by
  refine (program_issues reservationTTL call).mono fun statement inside booking is => ?_
  subst is
  obtain ⟨userID,userEmail,request,rfl⟩ := inside.reserves rfl
  obtain ⟨rfl,event,_⟩ := inside
  exact ⟨userEmail,request,rfl,event.symm⟩

section Bookings
variable {reservationTTL : Nat} {config : Pool} {guard : Pool → Step → Prop}

theorem reserved_of_run (run : Run (service reservationTTL) guard (.idle .initial) config) :
    ∀ row ∈ config.state.world.db.bookings.rows, Reserved (· ∈ config.calls) row.userID row.eventID := by
  refine run.invariant (fun config => ∀ row ∈ config.state.world.db.bookings.rows,
    Reserved (· ∈ config.calls) row.userID row.eventID) (fun row member => by cases member) ?_
  intro config action after path reserved _ taken row member
  have kept {userID eventID : ID} (was : Reserved (· ∈ config.calls) userID eventID) :
      Reserved (· ∈ after.calls) userID eventID := by
    obtain ⟨userEmail,request,started,same⟩ := was
    exact ⟨userEmail,request,Config.calls_kept taken started,same⟩
  rcases Config.next_state taken with same | ⟨index,fault,call,statement,next,rfl,found,rfl⟩
  · rw [same] at member
    exact kept (reserved row member)
  · rcases (booking_origin statement fault config.state.world row member).2 with ⟨old,inside,user,event⟩ | ⟨booking,rfl,user,event⟩
    · rw [← user,← event]
      exact kept (reserved old inside)
    · have creates := Run.issues (program_creates reservationTTL) path found
      obtain ⟨userEmail,request,rfl,same⟩ := creates booking rfl
      rw [← user,← event]
      exact kept ⟨userEmail,request,List.mem_of_getElem? (Config.callAt_thread found),same⟩

theorem reserved_later {middle : Pool} (before : Run (service reservationTTL) guard (.idle .initial) middle)
    (remaining : Run (service reservationTTL) guard middle config) {row : BookingRow}
    (member : row ∈ middle.state.world.db.bookings.rows) : Reserved (· ∈ config.calls) row.userID row.eventID := by
  obtain ⟨userEmail,request,started,same⟩ := reserved_of_run before row member
  exact ⟨userEmail,request,Run.calls_kept remaining started,same⟩

private theorem findByID_yields (id : ID) : (BookingRepo.findByID id).Yields fun exchanges outcome =>
    ∀ booking, outcome = .ok booking → ∃ row, ⟨.findBooking id,.ok row⟩ ∈ exchanges ∧ booking.userID = row.userID ∧
      booking.eventID = row.eventID := by
  intro found
  cases found with
  | error error => exact fun _ is => (by cases is)
  | ok row =>
    intro listed
    cases listed with
    | error error => exact fun _ is => (by cases is)
    | ok rows =>
      intro booking is
      cases is
      exact ⟨row,List.mem_cons_self,rfl,rfl⟩

private theorem loadAll_returns (rows : List BookingRow) : (BookingRepo.loadAll rows).Returns fun outcome =>
    ∀ bookings, outcome = .ok bookings → ∀ booking ∈ bookings, ∃ row ∈ rows, booking.userID = row.userID ∧
      booking.eventID = row.eventID := by
  induction rows with
  | nil =>
    intro bookings is booking member
    cases is
    cases member
  | cons row rest ih =>
    intro listed
    cases listed with
    | error error => exact fun _ is => (by cases is)
    | ok items =>
      change ((BookingRepo.loadAll rest).bind _).Returns _
      refine Program.Returns.bind ih fun outcome loaded => ?_
      cases outcome with
      | error error => exact fun _ is => (by cases is)
      | ok others =>
        intro bookings is
        cases is
        refine List.forall_mem_cons.mpr ⟨⟨row,List.mem_cons_self,rfl,rfl⟩,fun booking member => ?_⟩
        obtain ⟨other,inside,same⟩ := loaded others rfl booking member
        exact ⟨other,List.mem_cons_of_mem _ inside,same⟩

private theorem listByUser_yields (userID : ID) : (BookingRepo.listByUser userID).Yields fun exchanges outcome =>
    ∀ bookings, outcome = .ok bookings → ∀ booking ∈ bookings, ∃ rows, ∃ row ∈ rows.items,
      ⟨.listBookingsByUser userID,.ok rows⟩ ∈ exchanges ∧ booking.userID = row.userID ∧ booking.eventID = row.eventID := by
  intro listed
  rcases listed with error | ⟨rows,_ | error⟩
  · exact fun _ is => (by cases is)
  · refine (Program.Yields.of_returns (loadAll_returns rows)).mono fun exchanges outcome loaded bookings is booking member => ?_
    obtain ⟨row,inside,same⟩ := loaded bookings is booking member
    exact ⟨⟨rows,none⟩,row,inside,List.mem_cons_self,same⟩
  · exact fun _ is => (by cases is)

theorem reserved_of_found (run : Run (service reservationTTL) guard (.idle .initial) config) {index : Nat} {id : ID}
    {booking : Booking} (returned : config.returned index = some (.getBooking id,.booking (.ok booking))) :
    Reserved (· ∈ config.calls) booking.userID booking.eventID := by
  have yields : (program reservationTTL (.getBooking id)).Yields fun exchanges value => ∀ booking,
      value = .booking (.ok booking) → ∃ row, ⟨.findBooking id,.ok row⟩ ∈ exchanges ∧ booking.userID = row.userID ∧
        booking.eventID = row.eventID := by
    refine .map _ ((findByID_yields id).mono fun exchanges outcome found booking is => ?_)
    cases is
    exact found booking rfl
  obtain ⟨row,read,user,event⟩ := (Talked.of_run run).yields returned yields booking rfl
  obtain ⟨middle,fault,before,remaining,reply⟩ := run.executed (State.mem_exchanges.mp read)
  rw [user,event]
  exact reserved_later before remaining (Table.find?_mem (Database.findBooking_ok.mp (query_ok reply)))

theorem reserved_of_listed (run : Run (service reservationTTL) guard (.idle .initial) config) {index : Nat} {userID : ID}
    {bookings : List Booking} (returned : config.returned index = some (.listMyBookings userID,.bookings (.ok bookings))) :
    ∀ booking ∈ bookings, booking.userID = userID ∧ Reserved (· ∈ config.calls) booking.userID booking.eventID := by
  have yields : (program reservationTTL (.listMyBookings userID)).Yields fun exchanges value => ∀ bookings,
      value = .bookings (.ok bookings) → ∀ booking ∈ bookings, ∃ rows, ∃ row ∈ rows.items,
        ⟨.listBookingsByUser userID,.ok rows⟩ ∈ exchanges ∧ booking.userID = row.userID ∧ booking.eventID = row.eventID := by
    refine .map _ ((listByUser_yields userID).mono fun exchanges outcome listed bookings is => ?_)
    cases is
    exact listed bookings rfl
  intro booking member
  obtain ⟨rows,row,inside,read,user,event⟩ := (Talked.of_run run).yields returned yields bookings rfl booking member
  obtain ⟨middle,fault,before,remaining,reply⟩ := run.executed (State.mem_exchanges.mp read)
  have listed := (stream_part reply).subset inside
  obtain ⟨stored,own⟩ := Database.mem_newestBookings.mp listed
  rw [user,event]
  exact ⟨of_decide_eq_true own,reserved_later before remaining stored⟩

end Bookings
end Ticketbus.Ticketing
