import Ticketbus.Ticketing.EventLifecycle
import Ticketbus.Concurrency.Conversation

/-! Whose words an event carries. A review (an approval, a rejection or a cancellation) means to change
the status, but it writes back the title, the description and the dates as well, as it has read them. -/
namespace Ticketbus.Ticketing
open Ticketbus.Concurrency Ticketbus.Relational

def Database.detailsOf (db : Database) (id : ID) : Option Details :=
  (db.events.find? id).map fun row => row.event.details

theorem Database.detailsOf_mem {db : Database} {row : EventRow} (member : row ∈ db.events.rows) :
    db.detailsOf row.id = some row.event.details := by
  rw [detailsOf,Table.find?_of_mem member]
  rfl

def Call.reviews : Call → Bool
  | .approveEvent .. | .rejectEvent .. | .cancelEvent .. => true
  | _ => false

def Call.authors : Call → Bool
  | .createEvent .. | .updateEvent .. => true
  | _ => false

def stores (id : ID) : Exchange Statement Reply → Option Details
  | ⟨.createEvent event,.ok _⟩ => if event.id = id then some event.details else none
  | ⟨.updateEvent event,.ok _⟩ => if event.id = id then some event.details else none
  | _ => none

/-- The details that an event was last given by its organizer. -/
def lastEdit (config : Pool) (id : ID) : Option Details :=
  (config.state.history.filter fun event => config.calls[event.thread]?.any Call.authors).findSome? fun event =>
    stores id ⟨event.op,event.reply⟩

def reading : List (Exchange Statement Reply) → Option Event
  | ⟨.findEventByID _,.ok event⟩ :: later => if later.all (fun exchange => exchange.1 = .now) then some event else none
  | _ => none

def copyOf (config : Pool) (index : Nat) : Option Event :=
  if config.threads[index]?.any (fun thread => thread.call.reviews && thread.head.any Statement.withinEdit) then
    reading (config.state.exchanges index)
  else none

/-- An organizer's write of an event is committed only while no review holds a copy of that event. -/
def editsUnread (config : Pool) (index : Nat) : Statement → Fault → Bool
  | .updateEvent event,.none => config.calls[index]?.any Call.reviews ||
      (List.range config.threads.length).all fun other => (copyOf config other).all fun copy => copy.id ≠ event.id
  | _,_ => true

/-! What a statement does to the stored details. -/

inductive Restates (id : ID) (exchange : Exchange Statement Reply) (fault : Fault) (before after : Database) : Prop
  | kept (silent : stores id exchange = none) (same : after.detailsOf id = before.detailsOf id)
  | created (event : Event) (said : stores id exchange = some event.details) (statement : exchange.1 = .createEvent event)
      (fresh : before.detailsOf id = none) (now : after.detailsOf id = some event.details)
  | rewritten (event : Event) (said : stores id exchange = some event.details)
      (statement : exchange.1 = .updateEvent event) (key : event.id = id) (committed : fault = .none)
      (now : after.detailsOf id = (before.detailsOf id).map fun _ => event.details)

theorem Database.createEvent_row {db after : Database} {now : Time} {event : Event}
    (ok : db.createEvent now event = .ok ((),after)) :
    ∃ row fresh, row.id = event.id ∧ row.event.details = event.details ∧ after = db.addEvent row fresh := by
  unfold createEvent at ok
  split at ok
  · simp only at ok
    split at ok
    · rename_i fresh
      cases ok
      exact ⟨_,fresh,rfl,rfl,rfl⟩
    · cases ok
  · split at ok <;> cases ok

theorem Database.createEvent_details {db after : Database} {now : Time} {event : Event}
    (ok : db.createEvent now event = .ok ((),after)) (id : ID) :
    (event.id ≠ id ∧ after.detailsOf id = db.detailsOf id) ∨
    (event.id = id ∧ db.detailsOf id = none ∧ after.detailsOf id = some event.details) := by
  obtain ⟨row,fresh,key,details,rfl⟩ := createEvent_row ok
  rw [← key]
  have found : (db.addEvent row fresh).detailsOf id =
      (if row.id = id then some row else db.events.find? id).map fun row => row.event.details :=
    congrArg (Option.map _) (Table.find?_insert db.events row id fresh)
  by_cases same : row.id = id
  · subst same
    rw [if_pos rfl] at found
    exact .inr ⟨rfl,by simp [detailsOf,fresh],found.trans (congrArg some details)⟩
  · rw [if_neg same] at found
    exact .inl ⟨same,found⟩

def Event.overwritten (stored event : Event) : Event := {stored with
  title := event.title
  description := event.description
  startAt := event.startAt
  endAt := event.endAt
  status := event.status
  reviewedBy := event.reviewedBy
  reviewedAt := event.reviewedAt
  updatedAt := event.updatedAt}

theorem Database.updateEvent_row {db after : Database} {event : Event} (ok : db.updateEvent event = .ok ((),after)) :
    (db.events.find? event.id = none ∧ after = db) ∨ ∃ row next, db.events.find? event.id = some row ∧
      row.id = event.id ∧ next.event = row.event.overwritten event ∧ after = db.setEvent next := by
  unfold updateEvent at ok
  split at ok
  · rename_i missing
    cases ok
    exact .inl ⟨missing,rfl⟩
  · rename_i row found
    cases ok
    exact .inr ⟨row,_,found,Table.find?_key found,rfl,rfl⟩

theorem Database.updateEvent_details {db after : Database} {event : Event}
    (ok : db.updateEvent event = .ok ((),after)) (id : ID) :
    after.detailsOf id = if event.id = id then (db.detailsOf id).map fun _ => event.details else db.detailsOf id := by
  rcases updateEvent_row ok with ⟨missing,rfl⟩ | ⟨row,next,found,key,content,rfl⟩
  · split
    · rename_i same
      rw [detailsOf,← same,missing]
      rfl
    · rfl
  · have same : next.id = event.id := (congrArg Event.id content).trans key
    change ((db.events.replace next).find? id).map _ = _
    rw [Table.find?_replace,same]
    split
    · rename_i this
      rw [detailsOf,← this,found,Option.map_some,Option.map_some,Option.map_some,Option.map_some,content]
      rfl
    · rfl

theorem execute_restates (statement : Statement) (fault : Fault) (world : World) (id : ID) :
    Restates id ⟨statement,(execute statement fault world).1⟩ fault world.db (execute statement fault world).2.db := by
  by_cases still : statement.editsEvents = false
  · apply Restates.kept
    · cases statement with
      | createEvent | updateEvent => cases still
      | _ => rfl
    · rw [Database.detailsOf,(execute_untouched statement fault world).events still]
      rfl
  cases statement with
  | createEvent event =>
    rcases write_cases World.put fault world (world.db.createEvent world.clock event) with ⟨_,after,_,ok,result⟩ | ⟨error,result⟩
    · have executed : execute (.createEvent event) fault world = _ := result
      rw [executed]
      rcases Database.createEvent_details ok id with ⟨distinct,same⟩ | ⟨rfl,fresh,now⟩
      · exact .kept (if_neg distinct) same
      · exact .created event (if_pos rfl) rfl fresh now
    · have executed : execute (.createEvent event) fault world = _ := result
      rw [executed]
      exact .kept rfl rfl
  | updateEvent event =>
    rcases write_cases World.put fault world (world.db.updateEvent event) with ⟨_,after,committed,ok,result⟩ | ⟨error,result⟩
    · have executed : execute (.updateEvent event) fault world = _ := result
      rw [executed]
      have now := Database.updateEvent_details ok id
      by_cases same : event.id = id
      · rw [if_pos same] at now
        exact .rewritten event (if_pos same) rfl same committed now
      · rw [if_neg same] at now
        exact .kept (if_neg same) now
    · have executed : execute (.updateEvent event) fault world = _ := result
      rw [executed]
      exact .kept rfl rfl
  | _ => exact absurd rfl still

/-! Reviews. -/

theorem reading_append {exchanges : List (Exchange Statement Reply)} {exchange : Exchange Statement Reply} {copy : Event}
    (reads : reading (exchanges ++ [exchange]) = some copy) :
    (∃ id, exchange = ⟨.findEventByID id,.ok copy⟩) ∨ exchange.1 = .now ∧ reading exchanges = some copy := by
  cases exchanges with
  | nil =>
    simp only [List.nil_append,reading] at reads
    split at reads
    · rename_i id event later same
      cases same
      cases reads
      exact .inl ⟨id,rfl⟩
    · cases reads
  | cons first rest =>
    simp only [List.cons_append,reading] at reads
    split at reads
    · rename_i id event later same
      cases same
      simp only [List.all_append,List.all_cons,List.all_nil,Bool.and_true,Bool.and_eq_true,decide_eq_true_eq] at reads
      split at reads
      · rename_i both
        refine .inr ⟨both.2,?_⟩
        simp only [reading,if_pos both.1]
        exact reads
      · cases reads
    · cases reads

theorem copyOf_eq_some {config : Pool} {index : Nat} {copy : Event} : copyOf config index = some copy ↔
    ∃ thread, config.threads[index]? = some thread ∧ thread.call.reviews = true ∧
      thread.head.any Statement.withinEdit = true ∧ reading (config.state.exchanges index) = some copy := by
  unfold copyOf
  cases config.threads[index]? with
  | none => simp
  | some thread => simp [and_assoc]

def WritesBack (exchanges : List (Exchange Statement Reply)) (head : Option Statement) : Prop :=
  ∀ event, head = some (.updateEvent event) →
    ∃ copy, reading exchanges = some copy ∧ event.id = copy.id ∧ event.details = copy.details

theorem WritesBack.plain {exchanges : List (Exchange Statement Reply)} {head : Option Statement}
    (plain : ∀ statement, head = some statement → statement.editsEvents = false) : WritesBack exchanges head := by
  intro event isHead
  cases plain _ isHead

section Reviews
variable {id : ID}

theorem save_writesBack (copy : Event) (reviewed : Time → Event)
    (same : ∀ now, (reviewed now).id = copy.id ∧ (reviewed now).details = copy.details)
    {rest : Time → Except DbError Unit → Task (Except Error Event)}
    (plain : ∀ now reply, (rest now reply).Issues fun statement => statement.editsEvents = false) :
    (timeNow >>= fun now => EventRepo.updateEvent (reviewed now) >>= rest now).Always fun exchanges left =>
      WritesBack (⟨.findEventByID id,.ok copy⟩ :: exchanges) left.head := by
  refine ⟨.plain (by simp [Statement.editsEvents]),fun now => ⟨.plain (by simp [Statement.editsEvents]),fun again => ?_⟩⟩
  refine ⟨?_,fun reply => ?_⟩
  · intro event head
    cases head
    exact ⟨copy,rfl,same now⟩
  · apply (Program.Always.of_issues (plain now reply)).mono
    intro exchanges left first
    exact .plain first

theorem approveEvent_writesBack (eventID adminUserID : ID) :
    (EventService.approveEvent eventID adminUserID).Always fun exchanges left => WritesBack exchanges left.head := by
  refine ⟨.plain (by simp [Statement.editsEvents]),?_⟩
  rintro (error | copy)
  · exact .plain (by simp)
  simp only [Program.done_bind]
  split
  · exact .plain (by simp)
  apply save_writesBack copy
  · intro now
    exact ⟨rfl,rfl⟩
  · rintro now (error | _)
    · trivial
    apply Program.Issues.bind
    · exact listTicketTypesByEvent_issues rfl
    rintro (error | types)
    · trivial
    apply Program.Issues.bind
    · exact initAll_issues types (fun _ _ => rfl) fun _ _ => rfl
    rintro (error | _) <;> trivial

theorem rejectEvent_writesBack (eventID adminUserID : ID) :
    (EventService.rejectEvent eventID adminUserID).Always fun exchanges left => WritesBack exchanges left.head := by
  refine ⟨.plain (by simp [Statement.editsEvents]),?_⟩
  rintro (error | copy)
  · exact .plain (by simp)
  simp only [Program.done_bind]
  split
  · exact .plain (by simp)
  apply save_writesBack copy
  · intro now
    exact ⟨rfl,rfl⟩
  · rintro now (error | _) <;> trivial

theorem cancelEvent_writesBack (eventID userID : ID) :
    (EventService.cancelEvent eventID userID).Always fun exchanges left => WritesBack exchanges left.head := by
  refine ⟨.plain (by simp [Statement.editsEvents]),?_⟩
  rintro (error | copy)
  · exact .plain (by simp)
  simp only [Program.done_bind]
  split
  · exact .plain (by simp)
  split
  · exact .plain (by simp)
  apply save_writesBack copy
  · intro now
    exact ⟨rfl,rfl⟩
  · rintro now (error | _)
    · trivial
    · exact ⟨rfl,fun at_ => ⟨rfl,fun _ => trivial⟩⟩

theorem review_writesBack (reservationTTL : Nat) {call : Call} (reviews : call.reviews = true) :
    (program reservationTTL call).Always fun exchanges left => WritesBack exchanges left.head := by
  have mapped {task : Task (Except Error Event)} (always : task.Always fun exchanges left => WritesBack exchanges left.head) :
      (Result.event <$> task).Always fun exchanges left => WritesBack exchanges left.head := by
    apply Program.Always.map
    simpa only [Program.head_map] using always
  cases call with
  | approveEvent eventID adminUserID => exact mapped (approveEvent_writesBack eventID adminUserID)
  | rejectEvent eventID adminUserID => exact mapped (rejectEvent_writesBack eventID adminUserID)
  | cancelEvent eventID userID => exact mapped (cancelEvent_writesBack eventID userID)
  | _ => cases reviews

end Reviews

section Runs
variable {reservationTTL : Nat} {config after : Pool} {action : Step}

theorem copyOf_review (talked : Talked (service reservationTTL) config) {index : Nat} {call : Call} {event : Event}
    {next : Reply (.updateEvent event) → Task Result}
    (found : config.threads[index]? = some ⟨call,some (.perform (.updateEvent event) next)⟩)
    (reviews : call.reviews = true) :
    ∃ copy, copyOf config index = some copy ∧ event.id = copy.id ∧ event.details = copy.details := by
  obtain ⟨left,writesBack,isLeft⟩ := talked.always found (review_writesBack reservationTTL reviews)
  cases isLeft _ rfl
  obtain ⟨copy,reads,same⟩ := writesBack event rfl
  exact ⟨copy,copyOf_eq_some.mpr ⟨_,found,reviews,rfl,reads⟩,same⟩

def Fresh (config : Pool) : Prop :=
  ∀ index copy, copyOf config index = some copy → config.state.world.db.detailsOf copy.id = some copy.details

theorem Fresh.review (fresh : Fresh config) (talked : Talked (service reservationTTL) config)
    {index : Nat} {call : Call} {statement : Statement} {next : Reply statement → Task Result} (fault : Fault)
    (issued : Footprint call statement) (found : config.threads[index]? = some ⟨call,some (.perform statement next)⟩)
    (reviews : call.reviews = true) (id : ID) :
    (execute statement fault config.state.world).2.db.detailsOf id = config.state.world.db.detailsOf id := by
  cases execute_restates statement fault config.state.world id with
  | kept _ same => exact same
  | created event _ same =>
    cases same
    cases call with
    | approveEvent | rejectEvent | cancelEvent => exact issued.elim
    | _ => cases reviews
  | rewritten event said same key committed now =>
    cases same
    obtain ⟨copy,held,sameID,details⟩ := copyOf_review talked found reviews
    have stored := fresh index copy held
    rw [← sameID,key,← details] at stored
    rw [now,stored]
    rfl

theorem Fresh.start (fresh : Fresh config) (talked : Talked (service reservationTTL) config) (call : Call) :
    Fresh {config with threads := config.threads ++ [⟨call,some (program reservationTTL call)⟩]} := by
  intro index copy held
  obtain ⟨thread,found,reviews,within,reads⟩ := copyOf_eq_some.mp held
  rcases Nat.lt_or_ge index config.threads.length with inside | beyond
  · rw [List.getElem?_append_left inside] at found
    exact fresh index copy (copyOf_eq_some.mpr ⟨thread,found,reviews,within,reads⟩)
  · rw [talked.silent index beyond] at reads
    cases reads

theorem Fresh.stop (fresh : Fresh config) {index : Nat} {call : Call} :
    Fresh {config with threads := config.threads.set index ⟨call,none⟩} := by
  intro position copy held
  obtain ⟨thread,found,reviews,within,reads⟩ := copyOf_eq_some.mp held
  rw [List.getElem?_set] at found
  split at found
  · split at found
    · cases found
      cases within
    · cases found
  · exact fresh position copy (copyOf_eq_some.mpr ⟨thread,found,reviews,within,reads⟩)

theorem Fresh.self (fresh : Fresh config) {index : Nat} {call : Call} {statement : Statement} {fault : Fault}
    {next : Reply statement → Task Result} (found : config.threads[index]? = some ⟨call,some (.perform statement next)⟩)
    (reviews : call.reviews = true) {copy : Event}
    (reads : reading (config.state.exchanges index ++ [⟨statement,(execute statement fault config.state.world).1⟩]) =
      some copy) : (execute statement fault config.state.world).2.db.detailsOf copy.id = some copy.details := by
  rcases reading_append reads with ⟨id,same⟩ | ⟨same,before⟩
  · cases congrArg Sigma.fst same
    have reply : (execute (.findEventByID id) fault config.state.world).1 = .ok copy := by simpa using same
    have read : config.state.world.db.findEventByID id = .ok copy := query_ok reply
    have unread : (execute (.findEventByID id) fault config.state.world).2 = config.state.world := query_world _ _ _
    have key := Database.findEventByID_id read
    rw [unread,Database.detailsOf,key]
    unfold Database.findEventByID at read
    split at read
    · cases read
    · rename_i row stored
      cases read
      rw [stored]
      rfl
  · cases same
    exact fresh index copy (copyOf_eq_some.mpr ⟨_,found,reviews,rfl,before⟩)

theorem Fresh.step (fresh : Fresh config) (talked : Talked (service reservationTTL) config) {index : Nat} {call : Call}
    {statement : Statement} {fault : Fault} {next : Reply statement → Task Result} (issued : Footprint call statement)
    (found : config.threads[index]? = some ⟨call,some (.perform statement next)⟩)
    (permitted : editsUnread config index statement fault = true) :
    Fresh ⟨config.state.after (service reservationTTL) index statement fault,config.threads.set index
      ⟨call,some (next (execute statement fault config.state.world).1)⟩⟩ := by
  intro position copy held
  obtain ⟨thread,present,reviewing,within,reads⟩ := copyOf_eq_some.mp held
  by_cases same : index = position
  · subst same
    rw [List.getElem?_set_self (List.getElem?_eq_some_iff.mp found).1] at present
    cases present
    rw [State.exchanges_after_self] at reads
    exact fresh.self found reviewing reads
  rw [List.getElem?_set_ne same] at present
  rw [State.exchanges_after_other _ _ _ same] at reads
  have copied := copyOf_eq_some.mpr ⟨thread,present,reviewing,within,reads⟩
  have stored := fresh position copy copied
  change (execute statement fault config.state.world).2.db.detailsOf copy.id = some copy.details
  by_cases reviews : call.reviews = true
  · rw [fresh.review talked fault issued found reviews]
    exact stored
  cases execute_restates statement fault config.state.world copy.id with
  | kept _ unchanged => rw [unchanged,stored]
  | created _ _ _ absent =>
    rw [absent] at stored
    cases stored
  | rewritten event _ isWrite key committed =>
    -- nobody holds a copy of what an organizer writes
    cases isWrite
    subst committed
    have caller := Config.callAt_thread found
    simp only [editsUnread,caller,Option.any_some,Bool.or_eq_true,reviews,Bool.false_eq_true,false_or,
      List.all_eq_true] at permitted
    have bound := (List.getElem?_eq_some_iff.mp present).1
    have other := permitted position (List.mem_range.mpr bound)
    rw [copied] at other
    simp [key] at other

theorem fresh_of_run (run : Run (service reservationTTL) (Stepwise editsUnread) (.idle .initial) config) :
    Fresh config := by
  apply run.invariant Fresh
  · intro index copy held
    obtain ⟨thread,found,_⟩ := copyOf_eq_some.mp held
    cases found
  · intro config action after before fresh permitted taken
    have talked := Talked.of_run before
    cases action with
    | start call =>
      cases taken
      exact fresh.start talked call
    | step index fault =>
      obtain ⟨call,statement,next,found,rfl⟩ := Config.next_step _ _ _ _ _ taken
      exact fresh.step talked (Run.issues (program_issues reservationTTL) before found) found (permitted.meets found)
    | stop index =>
      obtain ⟨call,program,found,rfl⟩ := Config.next_stop _ _ _ _ taken
      exact fresh.stop

def Faithful (config : Pool) : Prop :=
  ∀ id details, config.state.world.db.detailsOf id = some details → lastEdit config id = some details

theorem lastEdit_start (talked : Talked (service reservationTTL) config) (call : Call) (id : ID) :
    lastEdit {config with threads := config.threads ++ [⟨call,some (program reservationTTL call)⟩]} id =
      lastEdit config id := by
  unfold lastEdit
  congr 1
  apply List.filter_congr
  rintro ⟨index,statement,reply⟩ member
  obtain ⟨thread,found⟩ := talked.thread_of_exchange (State.mem_exchanges.mpr member)
  have bound := (List.getElem?_eq_some_iff.mp found).1
  simp only [Config.calls,List.map_append,List.getElem?_append_left (List.length_map .. ▸ bound)]

theorem lastEdit_step {index : Nat} {call : Call} {statement : Statement} {fault : Fault}
    {next : Reply statement → Task Result} (found : config.threads[index]? = some ⟨call,some (.perform statement next)⟩)
    (id : ID) : lastEdit ⟨config.state.after (service reservationTTL) index statement fault,config.threads.set index
      ⟨call,some (next (execute statement fault config.state.world).1)⟩⟩ id =
    (if call.authors then stores id ⟨statement,(execute statement fault config.state.world).1⟩ else none).or
      (lastEdit config id) := by
  have caller := Config.callAt_thread found
  have calls : (Config.mk (config.state.after (service reservationTTL) index statement fault) (config.threads.set index
      ⟨call,some (next (execute statement fault config.state.world).1)⟩)).calls = config.calls := Config.calls_set found _
  unfold lastEdit
  rw [calls,State.after_history,List.filter_cons,caller]
  by_cases authors : call.authors = true
  · simp only [Option.any_some,authors,if_true]
    change List.findSome? _ (Concurrency.Event.mk index statement (execute statement fault config.state.world).1 :: _) = _
    rw [List.findSome?_cons]
    cases stores id ⟨statement,(execute statement fault config.state.world).1⟩ <;> rfl
  · simp [authors]

theorem Footprint.authors {call : Call} {statement : Statement} (inside : Footprint call statement)
    (edits : statement.editsEvents = true) : call.authors = true ∨ call.reviews = true := by
  cases statement with
  | createEvent | updateEvent =>
    cases call with
    | createEvent | updateEvent => exact .inl rfl
    | approveEvent | rejectEvent | cancelEvent => exact .inr rfl
    | _ => exact inside.elim
  | _ => cases edits

theorem Faithful.step (faithful : Faithful config) (fresh : Fresh config) (talked : Talked (service reservationTTL) config)
    {index : Nat} {call : Call} {statement : Statement} {fault : Fault} {next : Reply statement → Task Result}
    (issued : Footprint call statement) (found : config.threads[index]? = some ⟨call,some (.perform statement next)⟩) :
    Faithful ⟨config.state.after (service reservationTTL) index statement fault,config.threads.set index
      ⟨call,some (next (execute statement fault config.state.world).1)⟩⟩ := by
  intro id details stored
  change (execute statement fault config.state.world).2.db.detailsOf id = some details at stored
  rw [lastEdit_step found]
  have authored (edits : statement.editsEvents = true) (other : call.reviews ≠ true) : call.authors = true :=
    (issued.authors edits).resolve_right other
  by_cases reviews : call.reviews = true
  · have kept := fresh.review talked fault issued found reviews id
    have notAuthor : call.authors = false := by
      cases call with
      | createEvent | updateEvent => cases reviews
      | _ => rfl
    rw [notAuthor]
    exact faithful id details (kept.symm.trans stored)
  cases execute_restates statement fault config.state.world id with
  | kept silent same =>
    rw [silent,ite_self]
    exact faithful id details (same.symm.trans stored)
  | created event said isCreate _ now =>
    cases isCreate
    rw [if_pos (authored rfl reviews),said]
    exact now.symm.trans stored
  | rewritten event said isWrite _ _ now =>
    cases isWrite
    rw [if_pos (authored rfl reviews),said]
    obtain ⟨_,_,same⟩ := Option.map_eq_some_iff.mp (now.symm.trans stored)
    exact congrArg some same

theorem faithful_of_run (run : Run (service reservationTTL) (Stepwise editsUnread) (.idle .initial) config) :
    Faithful config := by
  apply run.invariant Faithful
  · intro id details stored
    cases stored
  · intro config action after before faithful permitted taken
    have talked := Talked.of_run before
    cases action with
    | start call =>
      cases taken
      intro id details stored
      exact (lastEdit_start talked call id).trans (faithful id details stored)
    | step index fault =>
      obtain ⟨call,statement,next,found,rfl⟩ := Config.next_step _ _ _ _ _ taken
      exact faithful.step (fresh_of_run before) talked (Run.issues (program_issues reservationTTL) before found) found
    | stop index =>
      obtain ⟨call,program,found,rfl⟩ := Config.next_stop _ _ _ _ taken
      intro id details stored
      have calls := Config.calls_set found none
      unfold lastEdit Config.calls
      rw [calls]
      exact faithful id details stored

end Runs

/-- The columns that a review is meant to change. -/
def Event.Reviewed (before after : Event) : Prop := after = {before with
  status := after.status
  reviewedBy := after.reviewedBy
  reviewedAt := after.reviewedAt
  updatedAt := after.updatedAt}

theorem Event.Reviewed.overwritten {stored event : Event} (same : event.details = stored.details) :
    stored.Reviewed (stored.overwritten event) := by
  obtain ⟨title,description,startAt,endAt⟩ := Details.mk.inj same
  unfold Event.Reviewed Event.overwritten
  rw [title,description,startAt,endAt]

theorem Database.updateEvent_reviewed {db after : Database} {event : Event} (ok : db.updateEvent event = .ok ((),after))
    (same : ∀ details ∈ db.detailsOf event.id, event.details = details) {row : EventRow} (member : row ∈ db.events.rows) :
    ∃ later ∈ after.events.rows, row.event.Reviewed later.event := by
  rcases updateEvent_row ok with ⟨_,rfl⟩ | ⟨stored,next,found,key,content,rfl⟩
  · exact ⟨row,member,rfl⟩
  have nextKey : next.id = stored.id := (congrArg Event.id content).trans rfl
  by_cases this : row.id = stored.id
  · have isStored : row = stored := db.events.eq_of_key member (Table.find?_mem found) this
    subst isStored
    refine ⟨next,(Table.mem_replace db.events next next).mpr (.inr ⟨rfl,?_⟩),?_⟩
    · rw [show EventRow.id next = event.id from nextKey.trans key,found]
      rfl
    · rw [content]
      apply Event.Reviewed.overwritten
      exact same _ (key ▸ detailsOf_mem member)
  · exact ⟨row,(Table.mem_replace db.events next row).mpr (.inl ⟨member,fun other => this (other.trans nextKey)⟩),rfl⟩

/-- Where no organizer's write comes between a review's read and its write, stored events have the details
that their organizer gave them last, and the write of a review changes only the columns of the review. -/
theorem edits_not_reverted (reservationTTL : Nat) (config : Pool)
    (run : Run (service reservationTTL) (Stepwise editsUnread) (.idle .initial) config) :
    (∀ row ∈ config.state.world.db.events.rows, lastEdit config row.id = some row.event.details) ∧
    ∀ index event fault after, config.headAt index = some (.updateEvent event) →
      config.calls[index]?.any Call.reviews = true →
      config.next (service reservationTTL) (.step index fault) = some after →
      ∀ row ∈ config.state.world.db.events.rows, ∃ later ∈ after.state.world.db.events.rows,
        row.event.Reviewed later.event := by
  constructor
  · intro row member
    exact faithful_of_run run row.id _ (Database.detailsOf_mem member)
  · intro index event fault after head reviewing taken row member
    obtain ⟨call,next,found⟩ := Config.headAt_thread head
    obtain ⟨_,_,_,again,rfl⟩ := Config.next_step _ _ _ _ _ taken
    cases found.symm.trans again
    have reviews : call.reviews = true := by simpa [Config.callAt_thread found] using reviewing
    obtain ⟨copy,held,sameID,sameDetails⟩ := copyOf_review (Talked.of_run run) found reviews
    have stored := fresh_of_run run index copy held
    change ∃ later ∈ (execute (.updateEvent event) fault config.state.world).2.db.events.rows, _
    rcases write_cases World.put fault config.state.world (config.state.world.db.updateEvent event) with
      ⟨_,written,_,ok,result⟩ | ⟨_,result⟩
    · rw [show execute (.updateEvent event) fault config.state.world = _ from result]
      apply Database.updateEvent_reviewed ok _ member
      intro details isStored
      rw [sameID,stored] at isStored
      cases isStored
      exact sameDetails
    · rw [show execute (.updateEvent event) fault config.state.world = _ from result]
      exact ⟨row,member,rfl⟩

def retitled : List Step :=
  .start (.createEvent 7 concert) :: undisturbed 0 4 ++ .start (.updateEvent 0 7 "u" "" 1 2) :: undisturbed 1 4 ++
    .start (.approveEvent 0 9) :: undisturbed 2 3

theorem edits_not_reverted_retitled : ∃ config after : Pool,
    Run (service 900) (Stepwise editsUnread) (.idle .initial) config ∧
    config.next (service 900) (.step 2 .none) = some after ∧ lastEdit config 0 = some ⟨"u","",1,2⟩ ∧
    after.state.world.db.statusOf 0 = some .published ∧
    (∀ row ∈ config.state.world.db.events.rows, lastEdit config row.id = some row.event.details) ∧
    ∀ row ∈ config.state.world.db.events.rows, ∃ later ∈ after.state.world.db.events.rows,
      row.event.Reviewed later.event := by
  obtain ⟨config,run,outcome⟩ := exists_run_of_replay (service 900) (Stepwise editsUnread) retitled (.idle .initial)
    (fun config => config.calls[2]?.any Call.reviews && lastEdit config 0 = some ⟨"u","",1,2⟩ &&
      config.headAt 2 = some (.updateEvent ⟨0,7,"u","","v","a",10,1,2,.published,some 9,some 0,0,0⟩) &&
      (config.next (service 900) (.step 2 .none)).any fun after => after.state.world.db.statusOf 0 = some .published)
    (by decide +kernel)
  simp only [Bool.and_eq_true,decide_eq_true_eq] at outcome
  obtain ⟨⟨⟨reviews,title⟩,head⟩,moves⟩ := outcome
  obtain ⟨after,taken,published⟩ := Option.any_eq_true _ _ |>.mp moves
  obtain ⟨faithful,reviewed⟩ := edits_not_reverted 900 config run
  exact ⟨config,after,run,taken,title,of_decide_eq_true published,faithful,reviewed 2 _ .none after head reviews taken⟩

/-- The organizer's new title is stored and acknowledged after the approval's read; the approval then writes
the old title back. -/
theorem edit_reverted : ∃ config : Pool, Run (service 900) Anything (.idle .initial) config ∧
    config.returned 2 = some (.updateEvent 0 7 "u" "" 1 2,
      .event (.ok ⟨0,7,"u","","v","a",10,1,2,.pending,none,none,0,0⟩)) ∧
    config.returned 1 = some (.approveEvent 0 9,
      .event (.ok ⟨0,7,"t","","v","a",10,1,2,.published,some 9,some 0,0,0⟩)) ∧
    lastEdit config 0 = some ⟨"u","",1,2⟩ ∧ config.state.world.db.detailsOf 0 = some ⟨"t","",1,2⟩ := by
  obtain ⟨config,run,outcome⟩ := exists_run_of_replay (service 900) Anything
    (.start (.createEvent 7 concert) :: undisturbed 0 4 ++ .start (.approveEvent 0 9) :: undisturbed 1 1 ++
      .start (.updateEvent 0 7 "u" "" 1 2) :: undisturbed 2 4 ++ undisturbed 1 6) (.idle .initial)
    (fun config => config.returned 2 = some (.updateEvent 0 7 "u" "" 1 2,
        .event (.ok ⟨0,7,"u","","v","a",10,1,2,.pending,none,none,0,0⟩)) &&
      config.returned 1 = some (.approveEvent 0 9,
        .event (.ok ⟨0,7,"t","","v","a",10,1,2,.published,some 9,some 0,0,0⟩)) &&
      lastEdit config 0 = some ⟨"u","",1,2⟩ && config.state.world.db.detailsOf 0 = some ⟨"t","",1,2⟩)
    (by decide +kernel)
  simp only [Bool.and_eq_true,decide_eq_true_eq] at outcome
  obtain ⟨⟨⟨updated,approved⟩,said⟩,stored⟩ := outcome
  exact ⟨config,run,updated,approved,said,stored⟩

end Ticketbus.Ticketing
