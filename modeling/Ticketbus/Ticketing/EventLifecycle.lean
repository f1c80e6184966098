import Ticketbus.Ticketing.Seats
import Mathlib.Data.Multiset.Count
import Mathlib.Algebra.Order.Group.Multiset

/-! The states of an event. All four lifecycle operations read the row, check its
status in memory and write every column back, so a write is only as good as the
read before it. Where no status changes between the two, the stored statuses follow
the diagram, one approval at most goes through, and each counter is initialised at
most once. -/
namespace Ticketbus.Ticketing
open Ticketbus.Concurrency Ticketbus.Relational

def EventStatus.Steps : EventStatus → EventStatus → Prop
  | .draft,.draft | .pending,.pending | .pending,.published | .pending,.rejected
  | .published,.cancelled => True
  | _,_ => False

def EventStatus.editable : EventStatus → Bool
  | .draft | .pending => true
  | _ => false

def inits (history : List (Concurrency.Event Statement Reply)) (id : ID) : Nat :=
  history.countP (opens id)

def Database.statusOf (db : Database) (id : ID) : Option EventStatus :=
  (db.events.find? id).map fun row => row.event.status

theorem Database.statusOf_mem {db : Database} {row : EventRow} (member : row ∈ db.events.rows) :
    db.statusOf row.id = some row.event.status := by
  rw [Database.statusOf,Table.find?_of_mem member]
  rfl

/-- What a lifecycle call holds between its statements: the status it has read and
will overwrite, an approval that went through, and the counters it has to set. -/
inductive Right where
  | edit (eventID : ID) (status : EventStatus)
  | approval (eventID : ID)
  | opening (ticketTypeID : ID)
  deriving DecidableEq

abbrev Rights := Multiset Right

def Unopened (state : View) (rights : Rights) (eventID : ID) : Prop :=
  .approval eventID ∈ rights ∨
    ∃ status, state.world.db.statusOf eventID = some status ∧ status.editable = true

structure Ordered (state : View) (rights : Rights) : Prop where
  edits : ∀ id status, .edit id status ∈ rights → state.world.db.statusOf id = some status
  approvals : ∀ id, rights.count (.approval id) ≤ 1
  approved : ∀ id, .approval id ∈ rights →
    ∃ status, state.world.db.statusOf id = some status ∧ status.editable = false
  openings : ∀ id, inits state.history id + rights.count (.opening id) ≤ 1
  unopened : ∀ id row, state.world.db.ticketTypes.find? id = some row →
    Unopened state rights row.eventID → inits state.history id + rights.count (.opening id) = 0
  absent : ∀ id, state.world.db.ticketTypes.find? id = none →
    inits state.history id + rights.count (.opening id) = 0

theorem Ordered.mono {state : View} {total less : Rights} (ordered : Ordered state total)
    (smaller : less ≤ total) : Ordered state less where
  edits id status member := ordered.edits id status (Multiset.mem_of_le smaller member)
  approvals id := (Multiset.count_le_of_le _ smaller).trans (ordered.approvals id)
  approved id member := ordered.approved id (Multiset.mem_of_le smaller member)
  openings id := by
    have fewer := Multiset.count_le_of_le (.opening id) smaller
    have := ordered.openings id
    omega
  unopened id row found unopened := by
    have fewer := Multiset.count_le_of_le (.opening id) smaller
    have none := ordered.unopened id row found (unopened.imp_left (Multiset.mem_of_le smaller))
    omega
  absent id missing := by
    have fewer := Multiset.count_le_of_le (.opening id) smaller
    have none := ordered.absent id missing
    omega

theorem Ordered.step {before after : View} {total kept : Rights} (ordered : Ordered before total)
    (persists : Persists before.world.db after.world.db)
    (counts : ∀ id, inits after.history id + kept.count (.opening id) ≤
      inits before.history id + total.count (.opening id))
    (edits : ∀ id status, .edit id status ∈ kept → after.world.db.statusOf id = some status)
    (approvals : ∀ id, kept.count (.approval id) ≤ 1)
    (approved : ∀ id, .approval id ∈ kept →
      ∃ status, after.world.db.statusOf id = some status ∧ status.editable = false)
    (closed : ∀ id, (before.world.db.events.find? id).isSome → Unopened after kept id →
      Unopened before total id) : Ordered after kept := by
  refine ⟨edits,approvals,approved,fun id => (counts id).trans (ordered.openings id),?_,?_⟩
  · intro id row found unopened
    cases earlier : before.world.db.ticketTypes.find? id with
    | none =>
      have none := ordered.absent id earlier
      have := counts id
      omega
    | some old =>
      obtain ⟨next,present,_,event⟩ := persists.ticketTypes id old earlier
      cases found.symm.trans present
      have stored := before.world.db.ticketTypes_event old (Table.find?_mem earlier)
      have none := ordered.unopened id old earlier (closed _ stored (event ▸ unopened))
      have := counts id
      omega
  · intro id missing
    have earlier : before.world.db.ticketTypes.find? id = none := by
      cases earlier : before.world.db.ticketTypes.find? id with
      | none => rfl
      | some old =>
        obtain ⟨next,present,_⟩ := persists.ticketTypes id old earlier
        cases missing.symm.trans present
    have none := ordered.absent id earlier
    have := counts id
    omega

theorem Ordered.same {before after : View} {total : Rights} (ordered : Ordered before total)
    (db : after.world.db = before.world.db) (counts : ∀ id, inits after.history id = inits before.history id) :
    Ordered after total := by
  refine ordered.step (db ▸ .refl _) (fun id => by rw [counts]) (fun id status member => ?_)
    ordered.approvals (fun id member => ?_) fun id _ unopened => ?_
  · rw [db]
    exact ordered.edits id status member
  · rw [db]
    exact ordered.approved id member
  · unfold Unopened at unopened
    rw [db] at unopened
    exact unopened

/-! What single statements do to stored statuses and to the count. -/

theorem statusOf_kept {statement : Statement} (fault : Fault) (world : World) {id : ID} {status : EventStatus}
    (other : ∀ event, statement ≠ .updateEvent event) (stored : world.db.statusOf id = some status) :
    (execute statement fault world).2.db.statusOf id = some status := by
  by_cases still : statement.editsEvents = false
  · rw [Database.statusOf,(execute_untouched statement fault world).events still]
    exact stored
  cases statement with
  | createEvent event =>
    refine write_part World.db (fun db => db.statusOf id = some status) stored fun value after ok => ?_
    obtain ⟨row,fresh,_,_,rfl⟩ := Database.createEvent_ok ok
    have distinct : row.id ≠ id := by
      rintro rfl
      rw [Database.statusOf,fresh] at stored
      cases stored
    change ((world.db.events.insert row fresh).find? id).map _ = _
    rw [Table.find?_insert,if_neg distinct]
    exact stored
  | updateEvent event => exact absurd rfl (other event)
  | _ => exact absurd rfl still

theorem inits_other (thread : Nat) (statement : Statement) (reply : Reply statement)
    (history : List (Concurrency.Event Statement Reply)) (id : ID)
    (other : ∀ id total, statement ≠ .init id total) :
    inits (⟨thread,statement,reply⟩ :: history) id = inits history id := by
  unfold inits
  apply List.countP_cons_of_neg
  cases statement with
  | init id total => exact absurd rfl (other id total)
  | _ => exact Bool.false_ne_true

theorem inits_init (thread : Nat) (opened id : ID) (total : Int) (reply : Except DbError Nat)
    (history : List (Concurrency.Event Statement Reply)) :
    inits (⟨thread,.init opened total,reply⟩ :: history) id =
      inits history id + if reply.isOk ∧ opened = id then 1 else 0 := by
  unfold inits
  rw [List.countP_cons]
  cases reply <;> simp [opens,Except.isOk,Except.toBool]

theorem Ordered.quiet {reservationTTL index : Nat} {call : Call} {state : View} {total : Rights}
    {statement : Statement} {fault : Fault} (ordered : Ordered state total)
    (furnished : Furnished state.world.db) (justified : Justified false call state.world.db statement)
    (noUpdate : ∀ event, statement ≠ .updateEvent event) (noInit : ∀ id total, statement ≠ .init id total) :
    Ordered (state.after (service reservationTTL) index statement fault) total := by
  have persists := (execute_advances call statement fault state.world furnished justified).1
  have kept {id : ID} {status : EventStatus} (stored : state.world.db.statusOf id = some status) :
      (execute statement fault state.world).2.db.statusOf id = some status :=
    statusOf_kept fault state.world noUpdate stored
  refine ordered.step persists (fun id => ?_) (fun id status member => kept (ordered.edits id status member))
    ordered.approvals (fun id member => ?_) fun id stored unopened => ?_
  · rw [State.after_history,inits_other _ _ _ _ _ noInit]
  · obtain ⟨status,found,closed⟩ := ordered.approved id member
    exact ⟨status,kept found,closed⟩
  · rcases unopened with member | ⟨status,found,editable⟩
    · exact .inl member
    · obtain ⟨row,present⟩ := Option.isSome_iff_exists.mp stored
      have earlier : state.world.db.statusOf id = some row.event.status := by
        rw [Database.statusOf,present]
        rfl
      have same : row.event.status = status := Option.some.inj ((kept earlier).symm.trans found)
      exact .inr ⟨row.event.status,earlier,same ▸ editable⟩

theorem statusOf_written {db after : Database} {event : Event} (ok : db.updateEvent event = .ok ((),after))
    (stored : (db.statusOf event.id).isSome) (id : ID) :
    after.statusOf id = if event.id = id then some event.status else db.statusOf id := by
  rcases Database.updateEvent_ok ok with ⟨missing,rfl⟩ | ⟨row,next,found,key,status,_,rfl⟩
  · rw [Database.statusOf,missing] at stored
    cases stored
  · change ((db.events.replace next).find? id).map _ = _
    rw [Table.find?_replace,show EventRow.id next = event.id from key]
    by_cases same : event.id = id
    · rw [if_pos same,if_pos same,← same,found]
      exact congrArg some status
    · rw [if_neg same,if_neg same]
      rfl

def granted (event : Event) (status : EventStatus) : Rights :=
  if status.editable ∧ !event.status.editable then {.approval event.id} else 0

theorem EventStatus.Steps.editable {status next : EventStatus} (steps : status.Steps next)
    (before : next.editable = true) : status.editable = true := by
  cases status with
  | draft | pending => rfl
  | _ => cases next <;> first | exact steps.elim | cases before

theorem granted_mem {event : Event} {status : EventStatus} {right : Right} (member : right ∈ granted event status) :
    right = .approval event.id ∧ status.editable = true ∧ event.status.editable = false := by
  unfold granted at member
  split at member
  · rename_i both
    exact ⟨Multiset.mem_singleton.mp member,both.1,by simpa using both.2⟩
  · exact absurd member (Multiset.notMem_zero _)

theorem Ordered.granted_once {state : View} {frame : Rights} {event : Event} {status : EventStatus}
    (ordered : Ordered state ({.edit event.id status} + frame)) (id : ID) :
    (granted event status + frame).count (.approval id) ≤ 1 := by
  have fewer := ordered.approvals id
  rw [Multiset.count_add] at fewer ⊢
  unfold granted
  split
  · rename_i both
    by_cases same : event.id = id
    · subst same
      have none : frame.count (.approval event.id) = 0 := by
        refine Multiset.count_eq_zero.mpr fun member => ?_
        obtain ⟨other,found,closed⟩ := ordered.approved event.id (Multiset.mem_add.mpr (.inr member))
        have read : state.world.db.statusOf event.id = some status := ordered.edits _ _ (by simp)
        cases read.symm.trans found
        rw [both.1] at closed
        cases closed
      rw [none]
      simp
    · rw [Multiset.count_singleton,if_neg (by simpa using Ne.symm same)]
      omega
  · rw [Multiset.count_zero]
    omega

theorem Ordered.written {before after : View} {frame : Rights} {event : Event} {status : EventStatus}
    (ordered : Ordered before ({.edit event.id status} + frame)) (steps : status.Steps event.status)
    (persists : Persists before.world.db after.world.db)
    (counts : ∀ id, inits after.history id = inits before.history id)
    (stored : ∀ id, after.world.db.statusOf id =
      if event.id = id then some event.status else before.world.db.statusOf id)
    (alone : before.world.db.statusOf event.id = some event.status ∨
      ∀ other, .edit event.id other ∉ frame) : Ordered after (granted event status + frame) := by
  have read : before.world.db.statusOf event.id = some status :=
    ordered.edits _ _ (by simp)
  have framed {right : Right} (member : right ∈ frame) : right ∈ ({.edit event.id status} + frame : Rights) :=
    Multiset.mem_add.mpr (.inr member)
  refine ordered.step persists (fun id => ?_) (fun id other member => ?_) ordered.granted_once (fun id member => ?_)
    fun id _ unopened => ?_
  · have none : (granted event status).count (.opening id) = 0 :=
      Multiset.count_eq_zero.mpr fun member => by cases (granted_mem member).1
    rw [counts,Multiset.count_add,Multiset.count_add,none]
    omega
  · rcases Multiset.mem_add.mp member with own | framedEdit
    · cases (granted_mem own).1
    · have earlier := ordered.edits id other (framed framedEdit)
      rw [stored]
      split
      · rename_i same
        subst same
        -- another editor of the event may only hold the status that is written
        rcases alone with unchanged | nobody
        · rw [← unchanged,earlier]
        · exact absurd framedEdit (nobody other)
      · exact earlier
  · rcases Multiset.mem_add.mp member with own | framedApproval
    · obtain ⟨same,_,closed⟩ := granted_mem own
      cases same
      exact ⟨event.status,by rw [stored,if_pos rfl],closed⟩
    · obtain ⟨other,found,closed⟩ := ordered.approved id (framed framedApproval)
      rw [stored]
      split
      · rename_i same
        subst same
        cases read.symm.trans found
        refine ⟨event.status,rfl,Bool.eq_false_iff.mpr fun open_ => ?_⟩
        rw [steps.editable open_] at closed
        cases closed
      · exact ⟨other,found,closed⟩
  · rcases unopened with member | ⟨other,found,open_⟩
    · rcases Multiset.mem_add.mp member with own | framedApproval
      · obtain ⟨same,open_,_⟩ := granted_mem own
        cases same
        exact .inr ⟨status,read,open_⟩
      · exact .inl (framed framedApproval)
    · rw [stored] at found
      split at found
      · rename_i same
        subst same
        cases found
        exact .inr ⟨status,read,steps.editable open_⟩
      · exact .inr ⟨other,found,open_⟩

theorem Ordered.read {state : View} {frame : Rights} {id : ID} {status : EventStatus}
    (ordered : Ordered state frame) (stored : state.world.db.statusOf id = some status) :
    Ordered state ({.edit id status} + frame) := by
  have counted (right : Right) (other : right ≠ .edit id status) :
      ({.edit id status} + frame : Rights).count right = frame.count right := by
    rw [Multiset.count_add,Multiset.count_singleton,if_neg other,zero_add]
  have framed {right : Right} (member : right ∈ ({.edit id status} + frame : Rights))
      (other : right ≠ .edit id status) : right ∈ frame := by
    rw [Multiset.mem_add,Multiset.mem_singleton] at member
    exact member.resolve_left other
  refine ⟨?_,?_,?_,?_,?_,?_⟩
  · intro other held member
    by_cases same : Right.edit other held = .edit id status
    · cases same
      exact stored
    · exact ordered.edits other held (framed member same)
  · intro other
    rw [counted _ (by simp)]
    exact ordered.approvals other
  · exact fun other member => ordered.approved other (framed member (by simp))
  · intro other
    rw [counted _ (by simp)]
    exact ordered.openings other
  · intro other row found unopened
    rw [counted _ (by simp)]
    exact ordered.unopened other row found (unopened.imp_left fun member => framed member (by simp))
  · intro other missing
    rw [counted _ (by simp)]
    exact ordered.absent other missing

def openingsOf (types : List TicketType) : Rights := types.map fun ticketType => Right.opening ticketType.id

theorem openingsOf_mem {types : List TicketType} {right : Right} (member : right ∈ openingsOf types) :
    ∃ ticketType ∈ types, right = .opening ticketType.id := by
  obtain ⟨ticketType,inside,rfl⟩ := List.mem_map.mp (Multiset.mem_coe.mp member)
  exact ⟨ticketType,inside,rfl⟩

theorem openingsOf_nodup {db : Database} {eventID : ID} {types : List TicketType}
    (part : types <+: db.listTicketTypesByEvent eventID) : (openingsOf types).Nodup := by
  have ids : (types.map TicketType.id).Nodup := by
    have all : ((db.listTicketTypesByEvent eventID).map TicketType.id).Nodup := by
      rw [Database.listTicketTypesByEvent,List.map_map]
      exact db.ticketTypes.distinct.sublist (List.filter_sublist.map _)
    exact all.sublist (part.sublist.map _)
  have rights := ids.map (f := Right.opening) fun _ _ same => Right.opening.inj same
  rw [List.map_map] at rights
  exact Multiset.coe_nodup.mpr rights

theorem openingsOf_count {db : Database} {eventID : ID} {types : List TicketType}
    (part : types <+: db.listTicketTypesByEvent eventID) (id : ID) :
    (Right.opening id ∈ openingsOf types ∧ (openingsOf types).count (.opening id) = 1) ∨
      (openingsOf types).count (.opening id) = 0 := by
  have once := Multiset.nodup_iff_count_le_one.mp (openingsOf_nodup part) (.opening id)
  by_cases member : Right.opening id ∈ openingsOf types
  · have := Multiset.one_le_count_iff_mem.mpr member
    exact .inl ⟨member,by omega⟩
  · exact .inr (Multiset.count_eq_zero.mpr member)

theorem mem_frame_of_openings {types : List TicketType} {frame : Rights} {right : Right}
    (member : right ∈ openingsOf types + frame) (other : ∀ id, right ≠ .opening id) : right ∈ frame := by
  rcases Multiset.mem_add.mp member with listed | framed
  · obtain ⟨ticketType,_,same⟩ := openingsOf_mem listed
    exact absurd same (other _)
  · exact framed

theorem count_approval_add (eventID id : ID) (frame : Rights) :
    ({.approval eventID} + frame : Rights).count (.opening id) = frame.count (.opening id) := by
  rw [Multiset.count_add,Multiset.count_singleton,if_neg (by simp),zero_add]

theorem Ordered.approval_unique {state : View} {frame : Rights} {eventID : ID}
    (ordered : Ordered state ({.approval eventID} + frame)) : Right.approval eventID ∉ frame := by
  intro member
  have twice := ordered.approvals eventID
  have once := Multiset.one_le_count_iff_mem.mpr member
  rw [Multiset.count_add,Multiset.count_singleton_self] at twice
  omega

theorem Ordered.listed_fresh {state : View} {frame : Rights} {eventID id : ID} {types : List TicketType}
    (ordered : Ordered state ({.approval eventID} + frame))
    (part : types <+: state.world.db.listTicketTypesByEvent eventID) (member : Right.opening id ∈ openingsOf types) :
    ∃ row, state.world.db.ticketTypes.find? id = some row ∧ row.eventID = eventID ∧
      inits state.history id + frame.count (.opening id) = 0 := by
  obtain ⟨ticketType,inside,same⟩ := openingsOf_mem member
  obtain ⟨row,listed,rfl⟩ := List.mem_map.mp (part.subset inside)
  obtain ⟨isRow,isEvent⟩ := List.mem_filter.mp listed
  cases same
  have found := Table.find?_of_mem isRow
  have event : row.eventID = eventID := of_decide_eq_true isEvent
  refine ⟨row,found,event,?_⟩
  have none := ordered.unopened row.id row found (.inl (event ▸ by simp))
  rw [count_approval_add] at none
  exact none

theorem Ordered.listed {state : View} {frame : Rights} {eventID : ID} {types : List TicketType}
    (ordered : Ordered state ({.approval eventID} + frame))
    (part : types <+: state.world.db.listTicketTypesByEvent eventID) :
    Ordered state (openingsOf types + frame) := by
  obtain ⟨stored,isStored,closed⟩ := ordered.approved eventID (by simp)
  have before {right : Right} (member : right ∈ openingsOf types + frame) (other : ∀ id, right ≠ .opening id) :
      right ∈ ({.approval eventID} + frame : Rights) :=
    Multiset.mem_add.mpr (.inr (mem_frame_of_openings member other))
  refine ⟨?_,?_,?_,?_,?_,?_⟩
  · exact fun id status member => ordered.edits id status (before member (by simp))
  · intro id
    have none : (openingsOf types).count (.approval id) = 0 := by
      refine Multiset.count_eq_zero.mpr fun member => ?_
      obtain ⟨_,_,same⟩ := openingsOf_mem member
      cases same
    have fewer := ordered.approvals id
    rw [Multiset.count_add] at fewer ⊢
    omega
  · exact fun id member => ordered.approved id (before member (by simp))
  · intro id
    rw [Multiset.count_add]
    rcases openingsOf_count part id with ⟨member,one⟩ | none
    · obtain ⟨_,_,_,zero⟩ := ordered.listed_fresh part member
      omega
    · have fewer := ordered.openings id
      rw [count_approval_add] at fewer
      omega
  · intro id row found unopened
    rw [Multiset.count_add]
    rcases openingsOf_count part id with ⟨member,one⟩ | none
    · -- the event is closed and its approval is spent, so nothing of it counts as unopened
      obtain ⟨same,isSame,event,_⟩ := ordered.listed_fresh part member
      cases found.symm.trans isSame
      rcases unopened with approval | ⟨status,isStatus,open_⟩
      · rw [event] at approval
        exact absurd (mem_frame_of_openings approval (by simp)) ordered.approval_unique
      · rw [event] at isStatus
        cases isStored.symm.trans isStatus
        rw [open_] at closed
        cases closed
    · have zero := ordered.unopened id row found (unopened.imp_left fun member => before member (by simp))
      rw [count_approval_add] at zero
      omega
  · intro id missing
    rw [Multiset.count_add]
    rcases openingsOf_count part id with ⟨member,_⟩ | none
    · obtain ⟨row,found,_⟩ := ordered.listed_fresh part member
      cases missing.symm.trans found
    · have zero := ordered.absent id missing
      rw [count_approval_add] at zero
      omega

theorem Ordered.initialised {reservationTTL index : Nat} {call : Call} {state : View} {rest frame : Rights}
    {id : ID} {total : Int} {fault : Fault} (ordered : Ordered state (.opening id ::ₘ rest + frame))
    (furnished : Furnished state.world.db) (justified : Justified false call state.world.db (.init id total)) :
    Ordered (state.after (service reservationTTL) index (.init id total) fault) (rest + frame) := by
  have persists := (execute_advances call (.init id total) fault state.world furnished justified).1
  have less : rest + frame ≤ .opening id ::ₘ rest + frame := by
    rw [Multiset.cons_add]
    exact Multiset.le_cons_self _ _
  have smaller := ordered.mono less
  have kept (event : ID) : (execute (.init id total) fault state.world).2.db.statusOf event =
      state.world.db.statusOf event := by
    rw [Database.statusOf,(execute_untouched (.init id total) fault state.world).events rfl]
    rfl
  refine ordered.step persists (fun other => ?_) (fun event status member => ?_) smaller.approvals
    (fun event member => ?_) fun event _ unopened => ?_
  · rw [State.after_history,inits_init,Multiset.cons_add,Multiset.count_cons]
    by_cases same : id = other
    · subst same
      rw [if_pos (rfl : Right.opening id = .opening id)]
      split <;> omega
    · rw [if_neg fun both => same both.2]
      omega
  · rw [State.after_world]
    exact (kept event).trans (smaller.edits event status member)
  · rw [State.after_world]
    obtain ⟨status,stored,closed⟩ := smaller.approved event member
    exact ⟨status,(kept event).trans stored,closed⟩
  · rcases unopened with member | ⟨status,stored,open_⟩
    · exact .inl (Multiset.mem_of_le less member)
    · exact .inr ⟨status,(kept event).symm.trans stored,open_⟩

/-! The protocol. -/

def Call.edits (id : ID) : Call → Bool
  | .updateEvent eventID .. => eventID = id
  | .approveEvent eventID _ => eventID = id
  | .rejectEvent eventID _ => eventID = id
  | .cancelEvent eventID _ => eventID = id
  | _ => false

def Statement.withinEdit : Statement → Bool
  | .now | .updateEvent _ => true
  | _ => false

def editing : Protocol Statement Reply World Fault Call Rights where
  evolves _ _ := True
  evolves_refl _ := trivial
  evolves_trans _ _ _ _ _ := trivial
  invariant := Ordered
  permits _ call state frame statement _ := Furnished state.world.db ∧
    Justified false call state.world.db statement ∧
    ∀ event, statement = .updateEvent event → state.world.db.statusOf event.id = some event.status ∨
      ∀ status, .edit event.id status ∉ frame
  fits _ call _ own statement :=
    (∀ id status, .edit id status ∈ own → call.edits id = true ∧ statement.withinEdit = true) ∧
    ∀ event, statement = .updateEvent event →
      ∃ status, .edit event.id status ∈ own ∧ status.Steps event.status

section Programs
variable {reservationTTL index : Nat} {call : Call} {α : Type} {state : View} {own : Rights}

theorem editing_quiet {post : α → View → Rights → Prop} {statement : Statement}
    {next : Reply statement → Task α} (noUpdate : ∀ event, statement ≠ .updateEvent event)
    (noInit : ∀ id total, statement ≠ .init id total)
    (within : ∀ id status, .edit id status ∈ own → call.edits id = true ∧ statement.withinEdit = true)
    (continues : ∀ (later : View) (fault : Fault), ∃ kept ≤ own,
      Holds (service reservationTTL) editing index call post (next (execute statement fault later.world).1)
        (later.after (service reservationTTL) index statement fault) kept) :
    Holds (service reservationTTL) editing index call post (.perform statement next) state own := by
  intro later _ frame ordered
  refine ⟨⟨within,fun event same => absurd same (noUpdate event)⟩,
    fun fault ⟨furnished,justified,_⟩ => ⟨trivial,?_⟩⟩
  obtain ⟨kept,less,rest⟩ := continues later fault
  have smaller := ordered.mono (add_le_add_left less frame)
  exact ⟨kept,smaller.quiet furnished justified noUpdate noInit,rest⟩

theorem editing_find {post : α → View → Rights → Prop} {id : ID} {next : Except DbError Event → Task α}
    (failed : ∀ error later, Holds (service reservationTTL) editing index call post (next (.error error)) later 0)
    (found : ∀ event later, event.id = id → ∃ kept ≤ ({.edit id event.status} : Rights),
      Holds (service reservationTTL) editing index call post (next (.ok event)) later kept) :
    Holds (service reservationTTL) editing index call post (.perform (.findEventByID id) next) state 0 := by
  intro later _ frame ordered
  refine ⟨⟨by simp,by simp⟩,fun fault ⟨furnished,justified,_⟩ => ⟨trivial,?_⟩⟩
  have quiet : Ordered (later.after (service reservationTTL) index (.findEventByID id) fault) frame := by
    rw [zero_add] at ordered
    exact Ordered.quiet ordered furnished justified (by simp) (by simp)
  cases reply : ((service reservationTTL).execute (.findEventByID id) fault later.world).1 with
  | error error => exact ⟨0,by rwa [zero_add],failed error _⟩
  | ok event =>
    have read : later.world.db.findEventByID id = .ok event := query_ok reply
    obtain ⟨row,stored,rfl⟩ : ∃ row, later.world.db.events.find? id = some row ∧ row.event = event := by
      unfold Database.findEventByID at read
      split at read
      · cases read
      · rename_i row stored
        cases read
        exact ⟨row,stored,rfl⟩
    have status : (later.after (service reservationTTL) index (.findEventByID id) fault).world.db.statusOf id =
        some row.event.status := by
      rw [State.after_world,show ((service reservationTTL).execute (.findEventByID id) fault later.world).2.db =
        later.world.db from execute_reads fault later.world rfl,Database.statusOf,stored]
      rfl
    obtain ⟨kept,less,rest⟩ := found row.event _ (show EventRow.id row = id from Table.find?_key stored)
    exact ⟨kept,(quiet.read status).mono (add_le_add_left less frame),rest⟩

theorem editing_write {post : α → View → Rights → Prop} {event : Event} {status : EventStatus}
    {next : Except DbError Unit → Task α} (edits : call.edits event.id = true)
    (steps : status.Steps event.status)
    (failed : ∀ error later, Holds (service reservationTTL) editing index call post (next (.error error)) later 0)
    (written : ∀ later, ∃ kept ≤ granted event status,
      Holds (service reservationTTL) editing index call post (next (.ok ())) later kept) :
    Holds (service reservationTTL) editing index call post (.perform (.updateEvent event) next) state
      {.edit event.id status} := by
  intro later _ frame ordered
  refine ⟨⟨?_,?_⟩,fun fault ⟨furnished,justified,alone⟩ => ⟨trivial,?_⟩⟩
  · intro id other member
    cases Multiset.mem_singleton.mp member
    exact ⟨edits,rfl⟩
  · intro other same
    cases same
    exact ⟨status,by simp,steps⟩
  have persists := (execute_advances call (.updateEvent event) fault later.world furnished justified).1
  have counts (reply : Except DbError Unit) (id : ID) :
      inits (⟨index,.updateEvent event,reply⟩ :: later.history) id = inits later.history id :=
    inits_other _ _ _ _ _ (by simp)
  rcases write_cases World.put fault later.world (later.world.db.updateEvent event) with
    ⟨value,after,_,ok,result⟩ | ⟨error,result⟩
  · have executed : (service reservationTTL).execute (.updateEvent event) fault later.world = _ := result
    obtain ⟨kept,less,rest⟩ := written (later.after (service reservationTTL) index (.updateEvent event) fault)
    rw [executed]
    refine ⟨kept,Ordered.mono ?_ (add_le_add_left less frame),rest⟩
    refine ordered.written steps persists (fun id => counts _ id) ?_ (alone event rfl)
    have isStored : (later.world.db.statusOf event.id).isSome := by
      rw [ordered.edits event.id status (by simp)]
      rfl
    intro id
    rw [State.after_world,executed]
    exact statusOf_written ok isStored id
  · have executed : (service reservationTTL).execute (.updateEvent event) fault later.world = _ := result
    rw [executed]
    refine ⟨0,?_,failed error _⟩
    have smaller := ordered.mono (add_le_add_left (Multiset.zero_le _) frame)
    refine smaller.same ?_ fun id => counts _ id
    rw [State.after_world,executed]

theorem editing_list {post : α → View → Rights → Prop} {eventID : ID}
    {next : Except DbError (Rows TicketType) → Task α}
    (failed : ∀ error later, Holds (service reservationTTL) editing index call post (next (.error error)) later 0)
    (listed : ∀ rows later, Holds (service reservationTTL) editing index call post (next (.ok rows)) later
      (openingsOf rows.items)) :
    Holds (service reservationTTL) editing index call post (.perform (.listTicketTypesByEvent eventID) next)
      state {.approval eventID} := by
  intro later _ frame ordered
  refine ⟨⟨by simp,by simp⟩,fun fault ⟨furnished,justified,_⟩ => ⟨trivial,?_⟩⟩
  have quiet : Ordered (later.after (service reservationTTL) index (.listTicketTypesByEvent eventID) fault)
      ({.approval eventID} + frame) := Ordered.quiet ordered furnished justified (by simp) (by simp)
  cases reply : ((service reservationTTL).execute (.listTicketTypesByEvent eventID) fault later.world).1 with
  | error error =>
    exact ⟨0,quiet.mono (add_le_add_left (Multiset.zero_le _) frame),failed error _⟩
  | ok rows =>
    have part : rows.items <+: later.world.db.listTicketTypesByEvent eventID := stream_part reply
    refine ⟨openingsOf rows.items,quiet.listed ?_,listed rows _⟩
    rwa [State.after_world,show ((service reservationTTL).execute (.listTicketTypesByEvent eventID) fault
      later.world).2.db = later.world.db from execute_reads fault later.world rfl]

theorem editing_initAll {post : Except Error Unit → View → Rights → Prop} (types : List TicketType)
    (returns : ∀ result later, post result later 0) :
    Holds (service reservationTTL) editing index call post (EventService.initAll types) state
      (openingsOf types) := by
  induction types generalizing state with
  | nil => exact fun later _ => returns _ later
  | cons ticketType rest ih =>
    have noEdits (types : List TicketType) (id : ID) (status : EventStatus)
        (member : .edit id status ∈ openingsOf types) : False := by
      obtain ⟨_,_,same⟩ := openingsOf_mem member
      cases same
    have split : openingsOf (ticketType :: rest) = .opening ticketType.id ::ₘ openingsOf rest := rfl
    intro later _ frame ordered
    refine ⟨⟨fun id status member => (noEdits _ id status member).elim,by simp⟩,
      fun fault ⟨furnished,justified,_⟩ => ⟨trivial,?_⟩⟩
    rw [split] at ordered
    have initialised : Ordered (later.after (service reservationTTL) index
        (.init ticketType.id ticketType.quantity) fault) (openingsOf rest + frame) :=
      Ordered.initialised ordered furnished justified
    rcases ((service reservationTTL).execute (.init ticketType.id ticketType.quantity) fault later.world).1 with
      error | count
    · refine ⟨0,initialised.mono (add_le_add_left (Multiset.zero_le _) frame),?_⟩
      exact fun final _ => returns _ final
    · refine ⟨openingsOf rest,initialised,?_⟩
      refine editing_quiet (by simp) (by simp) (fun id status member => (noEdits _ id status member).elim)
        fun second again => ?_
      rcases (execute (.setPrice ticketType.id ticketType.priceRupiah) again second.world).1 with error | count
      · exact ⟨0,Multiset.zero_le _,fun final _ => returns _ final⟩
      · exact ⟨_,le_refl _,ih⟩

theorem editing_updateEvent {post : Except DbError Unit → View → Rights → Prop} {event : Event}
    {status : EventStatus} (edits : call.edits event.id = true) (steps : status.Steps event.status)
    (failed : ∀ error later, post (.error error) later 0)
    (written : ∀ later, post (.ok ()) later (granted event status)) :
    Holds (service reservationTTL) editing index call post (EventRepo.updateEvent event) state
      {.edit event.id status} := by
  refine editing_quiet (by simp) (by simp) (fun id other member => ?_) fun later fault => ⟨_,le_refl _,?_⟩
  · cases Multiset.mem_singleton.mp member
    exact ⟨edits,rfl⟩
  · refine editing_write edits steps (fun error final last _ => failed error last) fun final => ?_
    exact ⟨_,le_refl _,fun last _ => written last⟩

def Idle (own : Rights) : Prop := ∀ id status, .edit id status ∉ own

theorem Idle.zero : Idle 0 := fun _ _ => Multiset.notMem_zero _

theorem idle_granted (event : Event) (status : EventStatus) : Idle (granted event status) := by
  intro id other member
  unfold granted at member
  split at member
  · cases Multiset.mem_singleton.mp member
  · exact Multiset.notMem_zero _ member

theorem editing_now {post : α → View → Rights → Prop} {id : ID} {status : EventStatus} {rest : Time → Task α}
    (edits : call.edits id = true)
    (continues : ∀ now later, Holds (service reservationTTL) editing index call post (rest now) later
      {.edit id status}) :
    Holds (service reservationTTL) editing index call post (timeNow >>= rest) state {.edit id status} := by
  refine editing_quiet (by simp) (by simp) (fun other held member => ?_)
    fun later fault => ⟨_,le_refl _,continues _ _⟩
  cases Multiset.mem_singleton.mp member
  exact ⟨edits,rfl⟩

private theorem approve_edits (eventID adminUserID : ID) :
    Holds (service reservationTTL) editing index (.approveEvent eventID adminUserID) (fun _ _ own => Idle own)
      (EventService.approveEvent eventID adminUserID) state 0 := by
  have edits : (Call.approveEvent eventID adminUserID).edits eventID = true := by simp [Call.edits]
  refine editing_find (fun error later final _ => .zero) fun event later same => ?_
  subst same
  simp only [Program.done_bind]
  split
  · exact ⟨0,Multiset.zero_le _,fun final _ => .zero⟩
  · rename_i checked
    have pending := not_not.mp checked
    refine ⟨_,le_refl _,editing_now edits fun now second => ?_⟩
    refine Holds.bind (editing_updateEvent edits (by rw [pending]; trivial) ?_ fun third => ?_)
    · exact fun error final last _ => .zero
    · rw [granted,if_pos (by simp [pending,EventStatus.editable])]
      refine editing_list (fun error later final _ => .zero) fun rows fourth => ?_
      simp only [Program.done_bind]
      refine Holds.bind (editing_initAll rows.items fun result last => ?_)
      cases result <;> exact fun final _ => .zero

private theorem reject_edits (eventID adminUserID : ID) :
    Holds (service reservationTTL) editing index (.rejectEvent eventID adminUserID) (fun _ _ own => Idle own)
      (EventService.rejectEvent eventID adminUserID) state 0 := by
  have edits : (Call.rejectEvent eventID adminUserID).edits eventID = true := by simp [Call.edits]
  refine editing_find (fun error later final _ => .zero) fun event later same => ?_
  subst same
  simp only [Program.done_bind]
  split
  · exact ⟨0,Multiset.zero_le _,fun final _ => .zero⟩
  · rename_i checked
    have pending := not_not.mp checked
    refine ⟨_,le_refl _,editing_now edits fun now second => ?_⟩
    refine Holds.bind (editing_updateEvent edits (by rw [pending]; trivial) ?_ fun third => ?_)
    · exact fun error final last _ => .zero
    · exact fun final _ => idle_granted _ _

private theorem cancel_edits (eventID userID : ID) :
    Holds (service reservationTTL) editing index (.cancelEvent eventID userID) (fun _ _ own => Idle own)
      (EventService.cancelEvent eventID userID) state 0 := by
  have edits : (Call.cancelEvent eventID userID).edits eventID = true := by simp [Call.edits]
  refine editing_find (fun error later final _ => .zero) fun event later same => ?_
  subst same
  simp only [Program.done_bind]
  split
  · exact ⟨0,Multiset.zero_le _,fun final _ => .zero⟩
  · rename_i checked
    have published := not_not.mp checked
    split
    · exact ⟨0,Multiset.zero_le _,fun final _ => .zero⟩
    · refine ⟨_,le_refl _,editing_now edits fun now second => ?_⟩
      refine Holds.bind (editing_updateEvent edits (by rw [published]; trivial) ?_ fun third => ?_)
      · exact fun error final last _ => .zero
      · have none : granted {event with status := .cancelled, updatedAt := now} event.status = 0 := by
          rw [granted,if_neg (by simp [published,EventStatus.editable])]
        rw [none]
        refine editing_quiet (by simp) (by simp) (by simp) fun fourth fault => ⟨0,le_refl _,?_⟩
        refine editing_quiet (by simp) (by simp) (by simp) fun fifth again => ⟨0,le_refl _,?_⟩
        exact fun final _ => .zero

private theorem update_edits (eventID organizerID : ID) (title description : String) (startAt endAt : Time) :
    Holds (service reservationTTL) editing index
      (.updateEvent eventID organizerID title description startAt endAt) (fun _ _ own => Idle own)
      (EventService.updateEvent eventID organizerID title description startAt endAt) state 0 := by
  have edits : (Call.updateEvent eventID organizerID title description startAt endAt).edits eventID = true := by
    simp [Call.edits]
  refine editing_find (fun error later final _ => .zero) fun event later same => ?_
  subst same
  simp only [Program.done_bind]
  split
  · exact ⟨0,Multiset.zero_le _,fun final _ => .zero⟩
  · split
    · exact ⟨0,Multiset.zero_le _,fun final _ => .zero⟩
    · rename_i checked
      have same : event.status.Steps event.status := by
        cases status : event.status <;> simp_all [EventStatus.Steps]
      refine ⟨_,le_refl _,editing_now edits fun now second => ?_⟩
      refine Holds.bind (editing_updateEvent edits same ?_ fun third => ?_)
      · exact fun error final last _ => .zero
      · exact fun final _ => idle_granted _ _

private theorem others_edit {statement : Statement} (inside : Footprint call statement)
    (other : ∀ id, call.edits id = false) :
    (∀ event, statement ≠ .updateEvent event) ∧ ∀ id total, statement ≠ .init id total := by
  have edits {id : ID} (edits : call.edits id = true) : False := by
    rw [other id] at edits
    cases edits
  cases statement with
  | updateEvent | init =>
    cases call with
    | updateEvent | approveEvent | rejectEvent | cancelEvent => exact (edits (decide_eq_true rfl)).elim
    | _ => exact inside.elim
  | _ => exact ⟨by simp,by simp⟩

theorem program_edits (call : Call) :
    Holds (service reservationTTL) editing index call (fun _ _ own => Idle own)
      (program reservationTTL call) state 0 := by
  have mapped {first : Task (Except Error Event)}
      (holds : Holds (service reservationTTL) editing index call (fun _ _ own => Idle own) first state 0) :
      Holds (service reservationTTL) editing index call (fun _ _ own => Idle own)
        (Result.event <$> first) state 0 := by
    refine Holds.bind (Holds.consequence holds ?_)
    exact fun value later own idle final _ => idle
  cases call with
  | updateEvent eventID organizerID title description startAt endAt =>
    exact mapped (update_edits eventID organizerID title description startAt endAt)
  | approveEvent eventID adminUserID => exact mapped (approve_edits eventID adminUserID)
  | rejectEvent eventID adminUserID => exact mapped (reject_edits eventID adminUserID)
  | cancelEvent eventID userID => exact mapped (cancel_edits eventID userID)
  | _ =>
    refine Holds.of_issues (program_issues reservationTTL _) ?_ fun _ _ => Idle.zero
    intro statement inside later frame ordered
    obtain ⟨noUpdate,noInit⟩ := others_edit inside fun id => rfl
    refine ⟨⟨by simp,fun event same => absurd same (noUpdate event)⟩,
      fun fault ⟨furnished,justified,_⟩ => ⟨trivial,?_⟩⟩
    exact Ordered.quiet ordered furnished justified noUpdate noInit

end Programs

def overwrites (id : ID) (thread : Thread Statement Reply Call Result) : Bool :=
  thread.call.edits id && thread.head.any Statement.withinEdit

/-- A write that changes the stored status of an event is executed only while no
other call on that event is between its read and its write. -/
def editsAlone (config : Pool) (index : Nat) : Statement → Fault → Bool
  | .updateEvent event,_ => config.state.world.db.statusOf event.id = some event.status ||
      (config.threads.eraseIdx index).all fun thread => !overwrites event.id thread
  | _,_ => true

/-- The steps of the event diagram, from one pool to the next: stored statuses follow
the diagram, every write is a step of it, and no counter has been set twice. -/
def FollowsDiagram (before after : Pool) : Prop :=
  (∀ row ∈ before.state.world.db.events.rows, ∃ next ∈ after.state.world.db.events.rows,
    next.id = row.id ∧
      (next.event.status = row.event.status ∨ row.event.status.Steps next.event.status)) ∧
  (∀ index event, after.state.history = ⟨index,.updateEvent event,.ok ()⟩ :: before.state.history →
    ∀ row ∈ before.state.world.db.events.rows, row.id = event.id →
      row.event.status.Steps event.status) ∧
  ∀ id, inits after.state.history id ≤ 1

theorem edits_obeyed (reservationTTL : Nat) :
    Obeys (service reservationTTL) editing (fun _ _ _ _ own => Idle own) (Stepwise editsAlone)
      (.idle .initial) where
  starts config call _ _ := program_edits call
  steps config index fault call statement next own others run permitted found _ fitting := by
    refine ⟨furnished_of_run furnished_initial run,
      justified_of_run (Reads.any _) furnished_initial run found,?_⟩
    rintro event rfl
    have alone := permitted.meets found
    simp only [editsAlone,Bool.or_eq_true,decide_eq_true_eq,List.all_eq_true] at alone
    refine alone.imp_right fun nobody status member => ?_
    obtain ⟨other,inside,holds⟩ := mem_sum_tokens member
    obtain ⟨position,⟨otherCall,program⟩,distinct,isThere,fits⟩ := fitting other inside
    have quiet := nobody _ (List.mem_eraseIdx_iff_getElem?.mpr ⟨position,distinct,isThere⟩)
    -- a thread that holds the status is about to overwrite it
    match program,fits with
    | none,fits =>
      rw [show other = 0 from fits] at holds
      exact Multiset.notMem_zero _ holds
    | some (.done value),fits => exact fits event.id status holds
    | some (.perform op next),fits =>
      obtain ⟨edits,within⟩ := fits.1 event.id status holds
      have busy : overwrites event.id ⟨otherCall,some (.perform op next)⟩ = true := by
        simp only [overwrites,Thread.head,Option.bind_some,Program.head_perform,Option.any_some]
        rw [edits,within]
        rfl
      rw [busy] at quiet
      cases quiet
  stops config index thread own frame _ _ _ _ ordered :=
    ordered.mono (Multiset.le_add_left ..)

theorem ordered_of_run {reservationTTL : Nat} {config : Pool}
    (run : Run (service reservationTTL) (Stepwise editsAlone) (.idle .initial) config) :
    PoolHolds (service reservationTTL) editing (fun _ _ _ _ own => Idle own) config := by
  refine PoolHolds.run (PoolHolds.idle World.initial ?_) (edits_obeyed reservationTTL) run
  refine ⟨by simp,by simp,by simp,fun id => Nat.zero_le _,fun id row found => ?_,fun id missing => rfl⟩
  cases found

theorem write_steps {reservationTTL : Nat} {config : Pool}
    (run : Run (service reservationTTL) (Stepwise editsAlone) (.idle .initial) config) {index : Nat}
    {call : Call} {event : Event} {next : Reply (.updateEvent event) → Task Result}
    (found : config.threads[index]? = some ⟨call,some (.perform (.updateEvent event) next)⟩) :
    ∃ status, config.state.world.db.statusOf event.id = some status ∧ status.Steps event.status := by
  obtain ⟨own,frame,fits,ordered⟩ := (ordered_of_run run).thread_fits index _ found
  obtain ⟨status,held,steps⟩ := fits.2 event rfl
  exact ⟨status,ordered.edits event.id status (Multiset.mem_add.mpr (.inl held)),steps⟩

theorem status_steps {reservationTTL : Nat} {config after : Pool} {action : Step}
    (run : Run (service reservationTTL) (Stepwise editsAlone) (.idle .initial) config)
    (taken : config.next (service reservationTTL) action = some after) {id : ID} {status : EventStatus}
    (stored : config.state.world.db.statusOf id = some status) :
    ∃ next, after.state.world.db.statusOf id = some next ∧ (next = status ∨ status.Steps next) := by
  rcases Config.next_state taken with same | ⟨index,fault,call,statement,next,rfl,issued,rfl⟩
  · rw [same]
    exact ⟨status,stored,.inl rfl⟩
  · by_cases update : ∃ event, statement = .updateEvent event
    · obtain ⟨event,rfl⟩ := update
      obtain ⟨read,found,steps⟩ := write_steps run issued
      refine write_part World.db (fun db => ∃ next, db.statusOf id = some next ∧
        (next = status ∨ status.Steps next)) ⟨status,stored,.inl rfl⟩ fun value written ok => ?_
      rw [statusOf_written ok (by rw [found]; rfl)]
      split
      · rename_i same
        rw [same,stored] at found
        cases found
        exact ⟨event.status,rfl,.inr steps⟩
      · exact ⟨status,stored,.inl rfl⟩
    · have other : ∀ event, statement ≠ .updateEvent event := fun event same => update ⟨event,same⟩
      exact ⟨status,statusOf_kept fault config.state.world other stored,.inl rfl⟩

/-- In every run in which statuses are changed alone, every step follows the diagram. -/
theorem events_follow_diagram (reservationTTL : Nat) (config after : Pool) (action : Step)
    (run : Run (service reservationTTL) (Stepwise editsAlone) (.idle .initial) config)
    (permitted : Stepwise editsAlone config action)
    (taken : config.next (service reservationTTL) action = some after) : FollowsDiagram config after := by
  have later := run.step action permitted taken
  refine ⟨?_,?_,?_⟩
  · intro row member
    obtain ⟨status,stored,moves⟩ := status_steps run taken (Database.statusOf_mem member)
    obtain ⟨next,present,rfl⟩ := Option.map_eq_some_iff.mp stored
    exact ⟨next,Table.find?_mem present,Table.find?_key present,moves⟩
  · intro index event executed row member key
    obtain ⟨fault,call,next,rfl,issued,_⟩ := Config.next_event _ _ _ _ taken _ _ _ executed
    obtain ⟨status,stored,steps⟩ := write_steps run issued
    rw [← key,Database.statusOf_mem member] at stored
    cases stored
    exact steps
  · intro id
    obtain ⟨total,ordered⟩ := (ordered_of_run later).invariant_holds
    have := ordered.openings id
    omega

/-- An event is created and approved, and its approval is its only lifecycle call. -/
theorem events_follow_diagram_approved : ∃ config after : Pool,
    Run (service 900) (Stepwise editsAlone) (.idle .initial) config ∧
    config.state.world.db.statusOf 0 = some .pending ∧ after.state.world.db.statusOf 0 = some .published ∧
    FollowsDiagram config after := by
  obtain ⟨config,run,published⟩ := exists_run_of_replay (service 900) (Stepwise editsAlone)
    (publication.take 9) (.idle .initial) (fun config => config.state.world.db.statusOf 0 = some .pending &&
      decide (Stepwise editsAlone config (.step 1 .none)) &&
      (config.next (service 900) (.step 1 .none)).any fun after =>
        after.state.world.db.statusOf 0 = some .published) (by decide +kernel)
  simp only [Bool.and_eq_true,decide_eq_true_eq,Option.any_eq_true] at published
  obtain ⟨⟨pending,permitted⟩,after,taken,now⟩ := published
  exact ⟨config,after,run,pending,now,events_follow_diagram 900 config after _ run permitted taken⟩

/-- An approval and a rejection that have both read the pending event: the approval
is stored, and the rejection is stored over it. -/
theorem published_event_rejected : ¬∀ (reservationTTL : Nat) (config after : Pool) (action : Step),
    Run (service reservationTTL) Anything (.idle .initial) config →
    config.next (service reservationTTL) action = some after → FollowsDiagram config after := by
  intro follows
  obtain ⟨config,run,outcome⟩ := exists_run_of_replay (service 900) Anything
    (.start (.createEvent 7 concert) :: undisturbed 0 4 ++ .start (.approveEvent 0 9) :: undisturbed 1 1 ++
      .start (.rejectEvent 0 9) :: undisturbed 2 3 ++ undisturbed 1 3) (.idle .initial)
    (fun config => config.state.world.db.events.rows.any (fun row => row.event.status = .published) &&
      (config.next (service 900) (.step 2 .none)).any fun after =>
        after.state.world.db.events.rows.all fun row => row.event.status = .rejected) (by decide +kernel)
  simp only [Bool.and_eq_true,Option.any_eq_true,List.any_eq_true,List.all_eq_true,decide_eq_true_eq]
    at outcome
  obtain ⟨⟨row,member,published⟩,after,taken,rejected⟩ := outcome
  obtain ⟨next,present,_,moves⟩ := (follows 900 config after _ run taken).1 row member
  rw [rejected next present,published] at moves
  rcases moves with same | steps
  · cases same
  · exact steps

end Ticketbus.Ticketing
