import Ticketbus.Ticketing.BookingLifecycle
import Mathlib.Data.Multiset.Filter

/-! What the ticketing service has to publish: `event.cancelled` for a cancelled event,
`ticket.issued` for each item of a confirmed booking. The call that has made the change
owes the rows until it has inserted them. -/
namespace Ticketbus.Ticketing
open Ticketbus.Concurrency Ticketbus.Relational

inductive Duty where
  | cancellation (eventID : ID)
  | ticket (itemID : ID)
  deriving DecidableEq

abbrev Duties := Multiset Duty

def Message.ticketOf (itemID : ID) : Message → Bool
  | .ticketIssued id .. => id = itemID
  | .eventCancelled .. => false

def issued (world : World) (itemID : ID) : Nat := world.outbox.messages.countP (Message.ticketOf itemID)

def isConfirmation (bookingID : ID) : Concurrency.Event Statement Reply → Bool
  | ⟨_,.updateStatusIfPending id _,reply⟩ => id = bookingID && reply = .ok 1
  | _ => false

def everConfirmed (history : List (Concurrency.Event Statement Reply)) (bookingID : ID) : Bool :=
  history.any (isConfirmation bookingID)

def ticketsDue (state : View) (itemID : ID) : Nat :=
  match state.world.db.items.find? itemID with
  | some row => if everConfirmed state.history row.bookingID then 1 else 0
  | none => 0

structure Covered (state : View) (owed : Duties) : Prop where
  confirmed : ∀ row ∈ state.world.db.bookings.rows, row.status = .confirmed → everConfirmed state.history row.id = true
  moved : ∀ id, everConfirmed state.history id = true →
    ∃ row, state.world.db.bookings.find? id = some row ∧ row.status ≠ .pending
  tickets : ∀ itemID, issued state.world itemID + owed.count (.ticket itemID) = ticketsDue state itemID
  events : ∀ row ∈ state.world.db.events.rows, row.event.status = .cancelled →
    (∃ at_, .eventCancelled row.id at_ ∈ state.world.outbox.messages) ∨ .cancellation row.id ∈ owed

def Statement.unremarkable : Statement → Bool
  | .createEvent event | .updateEvent event => event.status ≠ .cancelled
  | .updateStatusIfPending _ _ | .outbox (.insert _) => false
  | _ => true

section Statements
variable {reservationTTL index : Nat} {call : Call} {state : View} {statement : Statement} {fault : Fault}
variable {owed kept : Duties}

theorem execute_messages (world : World) (other : ∀ message, statement ≠ .outbox (.insert message)) :
    (execute statement fault world).2.outbox.messages = world.outbox.messages := by
  have unwritten {α : Type} (outcome : Except DbError (α × Database)) :
      (write World.put fault world outcome).2.outbox.messages = world.outbox.messages := by
    rcases write_cases World.put fault world outcome with ⟨_,_,_,_,result⟩ | ⟨_,result⟩ <;> rw [result]
  cases statement with
  | newString | now | advance _ => rfl
  | findEventByID _ | eventStatus _ | getPrice _ | findBooking _ =>
    exact congrArg (fun world : World => world.outbox.messages) (query_world ..)
  | listTicketTypesByEvent _ | listItems _ | listBookings _ | listBookingsByUser _ =>
    exact congrArg (fun world : World => world.outbox.messages) (stream_world ..)
  | initiateTxnForBooking request =>
    change (send fault world {world with requests := request :: world.requests}).2.outbox.messages = _
    rcases send_world fault world {world with requests := request :: world.requests} with same | same <;> rw [same]
  | outbox statement =>
    rcases Outbox.execute_messages statement fault world.outbox with same | ⟨message,rfl,_⟩
    · exact same
    · exact absurd rfl (other message)
  | _ => exact unwritten _

theorem issued_kept (world : World) (other : ∀ message, statement ≠ .outbox (.insert message)) (itemID : ID) :
    issued (execute statement fault world).2 itemID = issued world itemID := by
  rw [issued,execute_messages world other,issued]

theorem everConfirmed_kept {reply : Reply statement}
    (history : List (Concurrency.Event Statement Reply)) (id : ID)
    (other : isConfirmation id ⟨index,statement,reply⟩ = false) :
    everConfirmed (⟨index,statement,reply⟩ :: history) id = everConfirmed history id := by
  rw [everConfirmed,List.any_cons,other]
  rfl

theorem isConfirmation_other {reply : Reply statement} (id : ID)
    (other : ∀ id status, statement ≠ .updateStatusIfPending id status) :
    isConfirmation id ⟨index,statement,reply⟩ = false := by
  cases statement <;> first | rfl | exact absurd rfl (other _ _)

private theorem reaches_moved {status next : BookingStatus} (reaches : status.Reaches next)
    (moved : status ≠ .pending) : next ≠ .pending := by
  cases status with
  | pending => exact absurd rfl moved
  | confirmed =>
    rcases reaches with rfl | rfl <;> simp
  | expired =>
    rw [show next = .expired from reaches]
    simp
  | cancelled =>
    rw [show next = .cancelled from reaches]
    simp

private theorem ticketsDue_created {after : Database} {booking : Booking} {row : BookingRow} {rows : List BookingItemRow}
    (covered : Covered state owed) (own : ∀ item ∈ booking.items, item.bookingID = booking.id)
    (created : state.world.db.Created booking row rows after)
    {later : View} (db : later.world.db = after)
    (history : ∀ id, everConfirmed later.history id = everConfirmed state.history id) (itemID : ID) :
    ticketsDue later itemID = ticketsDue state itemID := by
  have unconfirmed : everConfirmed state.history booking.id = false := by
    by_contra confirmed
    obtain ⟨stored,found,_⟩ := covered.moved _ (Bool.not_eq_false _ ▸ confirmed)
    rw [created.fresh] at found
    cases found
  have new (item : BookingItemRow) (member : item ∈ rows) : everConfirmed state.history item.bookingID = false := by
    rw [Database.stored_bookingID own created.stored item member]
    exact unconfirmed
  unfold ticketsDue
  rw [db]
  cases before : state.world.db.items.find? itemID with
  | some item =>
    have kept : after.items.find? itemID = some item := by
      rw [Table.find?_eq_some] at before ⊢
      exact ⟨by rw [created.appended]; exact List.mem_append_left _ before.1,before.2⟩
    rw [kept]
    simp only [history]
  | none =>
    cases found : after.items.find? itemID with
    | none => rfl
    | some item =>
      have member := Table.find?_mem found
      rw [created.appended] at member
      rcases List.mem_append.mp member with old | inserted
      · rw [← Table.find?_key found,Table.find?_of_mem old] at before
        cases before
      · simp [history,new item inserted]

private theorem ticketsDue_kept (covered : Covered state owed)
    (justified : Justified true call state.world.db statement)
    (other : ∀ id status, statement ≠ .updateStatusIfPending id status) (itemID : ID) :
    ticketsDue (state.after (service reservationTTL) index statement fault) itemID = ticketsDue state itemID := by
  have history (id : ID) : everConfirmed (state.after (service reservationTTL) index statement fault).history id =
      everConfirmed state.history id := everConfirmed_kept _ _ (isConfirmation_other id other)
  have unchanged {later : Database} (same : later.items = state.world.db.items)
      (written : (state.after (service reservationTTL) index statement fault).world.db = later) :
      ticketsDue (state.after (service reservationTTL) index statement fault) itemID = ticketsDue state itemID := by
    unfold ticketsDue
    rw [written,same]
    simp only [history]
  by_cases creates : ∃ booking, statement = .create booking
  · obtain ⟨booking,rfl⟩ := creates
    rcases write_cases World.put fault state.world (state.world.db.create state.world.clock booking) with
      ⟨value,db,_,ok,result⟩ | ⟨error,result⟩
    · obtain ⟨row,rows,created⟩ := Database.create_created justified.2.2 ok
      exact ticketsDue_created covered justified.2.2 created (congrArg (fun pair => pair.2.db) result) history itemID
    · exact unchanged rfl (congrArg (fun pair => pair.2.db) result)
  · exact unchanged (execute_items fault state.world fun booking same => creates ⟨booking,same⟩) rfl

private theorem cancelled_kept (quiet : statement.unremarkable = true) {world : World} {row : EventRow}
    (member : row ∈ (execute statement fault world).2.db.events.rows) (cancelled : row.event.status = .cancelled) :
    row ∈ world.db.events.rows := by
  by_cases edits : statement.editsEvents = true
  · cases statement with
    | createEvent event =>
      revert member
      refine write_part World.db (fun db => row ∈ db.events.rows → row ∈ world.db.events.rows) id ?_
      intro value after ok member
      obtain ⟨new,fresh,_,status,rfl⟩ := Database.createEvent_ok ok
      rcases (Table.mem_insert _ _ _ fresh).mp member with old | rfl
      · exact old
      · rw [status] at cancelled
        simp [Statement.unremarkable,cancelled] at quiet
    | updateEvent event =>
      revert member
      refine write_part World.db (fun db => row ∈ db.events.rows → row ∈ world.db.events.rows) id ?_
      intro value after ok member
      rcases Database.updateEvent_ok ok with ⟨_,rfl⟩ | ⟨old,next,_,_,status,_,rfl⟩
      · exact member
      · rcases (Table.mem_replace ..).mp member with ⟨kept,_⟩ | ⟨rfl,_⟩
        · exact kept
        · rw [status] at cancelled
          simp [Statement.unremarkable,cancelled] at quiet
    | _ => cases edits
  · rw [(execute_untouched statement fault world).events (Bool.eq_false_iff.mpr edits)] at member
    exact member

theorem Covered.unremarkable (covered : Covered state owed) (furnished : Furnished state.world.db)
    (justified : Justified true call state.world.db statement) (quiet : statement.unremarkable = true) :
    Covered (state.after (service reservationTTL) index statement fault) owed := by
  have persists := (execute_advances call statement fault state.world furnished justified).1
  have noInsert : ∀ message, statement ≠ .outbox (.insert message) := by
    rintro message rfl
    cases quiet
  have noConfirm : ∀ id status, statement ≠ .updateStatusIfPending id status := by
    rintro id status rfl
    cases quiet
  have history (id : ID) : everConfirmed (state.after (service reservationTTL) index statement fault).history id =
      everConfirmed state.history id := everConfirmed_kept _ _ (isConfirmation_other id noConfirm)
  refine ⟨fun row member confirmed => ?_,fun id ever => ?_,fun itemID => ?_,fun row member cancelled => ?_⟩
  · rw [history]
    rcases (booking_origin statement fault state.world row member).1 with
      ⟨old,stored,key,status⟩ | ⟨booking,rfl,status⟩ | rfl | ⟨booking,rfl,_⟩
    · rw [← key]
      exact covered.confirmed old stored (status.trans confirmed)
    · rw [confirmed,justified.1] at status
      cases status
    · cases quiet
    · have retired := justified.retires.2
      rw [confirmed] at retired
      cases retired
  · rw [history] at ever
    obtain ⟨row,found,moved⟩ := covered.moved id ever
    obtain ⟨next,stays,_,_,reaches⟩ := persists.bookings id row found
    exact ⟨next,stays,reaches_moved reaches moved⟩
  · rw [ticketsDue_kept covered justified noConfirm]
    exact (congrArg (· + _) (issued_kept state.world noInsert itemID)).trans (covered.tickets itemID)
  · have messages : (state.after (service reservationTTL) index statement fault).world.outbox.messages =
        state.world.outbox.messages := execute_messages state.world noInsert
    rw [messages]
    exact covered.events row (cancelled_kept quiet member cancelled) cancelled

theorem Covered.step {later : View} (covered : Covered state owed)
    (history : ∀ id, everConfirmed later.history id = everConfirmed state.history id)
    (bookings : later.world.db.bookings = state.world.db.bookings) (items : later.world.db.items = state.world.db.items)
    (tickets : ∀ itemID, issued later.world itemID + kept.count (.ticket itemID) =
      issued state.world itemID + owed.count (.ticket itemID))
    (events : ∀ row ∈ later.world.db.events.rows, row.event.status = .cancelled →
      (∃ at_, .eventCancelled row.id at_ ∈ later.world.outbox.messages) ∨ .cancellation row.id ∈ kept) :
    Covered later kept where
  confirmed row member := by
    rw [history]
    exact covered.confirmed row (bookings ▸ member)
  moved id ever := by
    rw [history] at ever
    rw [bookings]
    exact covered.moved id ever
  tickets itemID := by
    rw [tickets itemID,covered.tickets itemID]
    unfold ticketsDue
    rw [items]
    simp only [history]
  events := events

def ticketsOf (db : Database) (bookingID : ID) : Duties :=
  ((db.itemsOf bookingID).map fun row => Duty.ticket row.id : List Duty)

theorem count_ticketsOf (db : Database) (bookingID itemID : ID) : (ticketsOf db bookingID).count (.ticket itemID) =
    match db.items.find? itemID with
    | some row => if row.bookingID = bookingID then 1 else 0
    | none => 0 := by
  have distinct : ((db.itemsOf bookingID).map fun row => Duty.ticket row.id).Nodup := by
    have ids : ((db.itemsOf bookingID).map BookingItemRow.id).Nodup :=
      db.items.distinct.sublist (List.filter_sublist.map _)
    have mapped := ids.map (f := Duty.ticket) fun _ _ same => Duty.ticket.inj same
    rwa [List.map_map] at mapped
  rw [ticketsOf,Multiset.coe_count]
  split
  · rename_i row found
    have key : row.id = itemID := Table.find?_key found
    split
    · rename_i same
      refine List.count_eq_one_of_mem distinct (List.mem_map.mpr ⟨row,?_,by rw [key]⟩)
      exact List.mem_filter.mpr ⟨Table.find?_mem found,decide_eq_true same⟩
    · rename_i other
      refine List.count_eq_zero_of_not_mem fun member => other ?_
      obtain ⟨item,inside,same⟩ := List.mem_map.mp member
      have stored := List.mem_filter.mp inside
      have equal := db.items.eq_of_key stored.1 (Table.find?_mem found) ((Duty.ticket.inj same).trans key.symm)
      exact equal ▸ of_decide_eq_true stored.2
  · rename_i absent
    refine List.count_eq_zero_of_not_mem fun member => ?_
    obtain ⟨item,inside,same⟩ := List.mem_map.mp member
    exact (Table.find?_eq_none _ _).mp absent item (List.mem_filter.mp inside).1 (Duty.ticket.inj same)

theorem everConfirmed_confirm {id : ID} {status : BookingStatus} {reply : Except DbError Nat}
    (history : List (Concurrency.Event Statement Reply)) (other : ID) :
    everConfirmed (⟨index,.updateStatusIfPending id status,reply⟩ :: history) other =
      ((id = other && reply = .ok 1) || everConfirmed history other) := rfl

theorem ticketsDue_confirm {later : View} {id : ID} (items : later.world.db.items = state.world.db.items)
    (history : ∀ other, everConfirmed later.history other = (id = other || everConfirmed state.history other))
    (before : everConfirmed state.history id = false) (itemID : ID) :
    ticketsDue later itemID = ticketsDue state itemID + (ticketsOf state.world.db id).count (.ticket itemID) := by
  rw [count_ticketsOf]
  unfold ticketsDue
  rw [items]
  cases state.world.db.items.find? itemID with
  | none => rfl
  | some row =>
    simp only [history]
    by_cases same : id = row.bookingID
    · simp [← same,before]
    · simp [same,Ne.symm same]

private theorem Covered.confirmed_applied {db : Database} {row next : BookingRow} {history}
    (covered : Covered state owed) (pending : row.status = .pending) (now : next.status = .confirmed)
    (change : state.world.db.Moved row next db)
    (records : ∀ other, everConfirmed history other = (row.id = other || everConfirmed state.history other)) :
    Covered ⟨{state.world with db := db},history⟩ (ticketsOf state.world.db row.id + owed) := by
  have before : everConfirmed state.history row.id = false := by
    by_contra already
    obtain ⟨stored,found,moved⟩ := covered.moved row.id (Bool.not_eq_false _ ▸ already)
    cases found.symm.trans change.1
    exact moved pending
  have frame : db.items = state.world.db.items ∧ db.events = state.world.db.events := by
    obtain ⟨_,_,_,_,_,rfl⟩ := change
    exact ⟨rfl,rfl⟩
  refine ⟨fun found member confirmed => ?_,fun other ever => ?_,fun itemID => ?_,fun found member cancelled => ?_⟩
  · rw [records]
    rcases change.row_cases member with ⟨rfl,key⟩ | old
    · simp [key]
    · rw [covered.confirmed found old confirmed,Bool.or_true]
  · rw [change.found]
    rw [records] at ever
    split
    · exact ⟨next,rfl,by simp [now]⟩
    · rename_i distinct
      exact covered.moved other (by simpa [distinct] using ever)
  · have due : ticketsDue ⟨{state.world with db := db},history⟩ itemID = ticketsDue state itemID + _ :=
      ticketsDue_confirm frame.1 records before itemID
    rw [due,← covered.tickets itemID,Multiset.count_add]
    change issued state.world itemID + _ = _
    omega
  · rcases covered.events found (frame.2 ▸ member) cancelled with published | duty
    · exact .inl published
    · exact .inr (Multiset.mem_add.mpr (.inr duty))

theorem Covered.confirm {id : ID} (covered : Covered state owed) :
    ((execute (.updateStatusIfPending id .confirmed) fault state.world).1 = .ok 1 ∧
      Covered (state.after (service reservationTTL) index (.updateStatusIfPending id .confirmed) fault)
        (ticketsOf state.world.db id + owed)) ∨
    ((execute (.updateStatusIfPending id .confirmed) fault state.world).1 ≠ .ok 1 ∧
      Covered (state.after (service reservationTTL) index (.updateStatusIfPending id .confirmed) fault) owed) := by
  have unapplied (reply : Except DbError Nat) (other : reply ≠ .ok 1)
      (result : (service reservationTTL).execute (.updateStatusIfPending id .confirmed) fault state.world =
        (reply,state.world)) :
      (execute (.updateStatusIfPending id .confirmed) fault state.world).1 ≠ .ok 1 ∧
        Covered (state.after (service reservationTTL) index (.updateStatusIfPending id .confirmed) fault) owed := by
    rw [State.after_eq result]
    refine ⟨fun applied => other ((congrArg Prod.fst result).symm.trans applied),?_⟩
    refine covered.step (fun any => ?_) rfl rfl (fun _ => rfl) covered.events
    rw [everConfirmed_confirm]
    simp [other]
  rcases write_cases World.put fault state.world (state.world.db.updateStatusIfPending id .confirmed) with
    ⟨count,db,_,ok,result⟩ | ⟨error,result⟩
  · rcases Database.updateStatusIfPending_ok ok with ⟨rfl,rfl⟩ | ⟨rfl,row,next,rfl,pending,change,now⟩
    · exact .inr (unapplied (.ok 0) (by simp) result)
    · refine .inl ⟨congrArg Prod.fst result,?_⟩
      have executed : (service reservationTTL).execute (.updateStatusIfPending row.id .confirmed) fault state.world =
          (.ok 1,{state.world with db := db}) := result
      rw [State.after_eq executed]
      refine covered.confirmed_applied pending now change fun other => ?_
      rw [everConfirmed_confirm]
      simp
  · exact .inr (unapplied (.error error) nofun result)

theorem Covered.insertTicket {itemID bookingID userID eventID ticketTypeID : ID}
    (covered : Covered state (.ticket itemID ::ₘ owed)) :
    Covered (state.after (service reservationTTL) index
      (.outbox (.insert (.ticketIssued itemID bookingID userID eventID ticketTypeID))) .none) owed := by
  have inserted : (state.after (service reservationTTL) index
      (.outbox (.insert (.ticketIssued itemID bookingID userID eventID ticketTypeID))) .none).world.outbox.messages =
      state.world.outbox.messages ++ [.ticketIssued itemID bookingID userID eventID ticketTypeID] :=
    Outbox.Store.messages_insert _ _
  refine covered.step (fun _ => rfl) rfl rfl (fun other => ?_) fun row member cancelled => ?_
  · rw [issued,inserted,List.countP_append,List.countP_singleton,Multiset.count_cons,issued]
    by_cases same : itemID = other
    · simp only [Message.ticketOf,same,decide_true,if_true]
      omega
    · simp [Message.ticketOf,same,Ne.symm same]
  · rw [inserted]
    rcases covered.events row member cancelled with ⟨at_,published⟩ | duty
    · exact .inl ⟨at_,List.mem_append_left _ published⟩
    · rcases Multiset.mem_cons.mp duty with other | stays
      · cases other
      · exact .inr stays

theorem Covered.insertCancelled {id : ID} {at_ : Time} {own : Duties} (covered : Covered state (own + owed))
    (only : ∀ duty ∈ own, duty = .cancellation id) :
    Covered (state.after (service reservationTTL) index (.outbox (.insert (.eventCancelled id at_))) .none) owed := by
  have inserted : (state.after (service reservationTTL) index
      (.outbox (.insert (.eventCancelled id at_))) .none).world.outbox.messages =
      state.world.outbox.messages ++ [.eventCancelled id at_] := Outbox.Store.messages_insert _ _
  refine covered.step (fun _ => rfl) rfl rfl (fun other => ?_) fun row member cancelled => ?_
  · have none : own.count (.ticket other) = 0 :=
      Multiset.count_eq_zero_of_notMem fun inside => by cases only _ inside
    rw [issued,inserted,List.countP_append,List.countP_singleton,Multiset.count_add,none,issued,zero_add]
    rfl
  · rw [inserted]
    rcases covered.events row member cancelled with ⟨at_,published⟩ | duty
    · exact .inl ⟨at_,List.mem_append_left _ published⟩
    · rcases Multiset.mem_add.mp duty with mine | stays
      · rw [Duty.cancellation.inj (only _ mine)]
        exact .inl ⟨at_,List.mem_append_right _ List.mem_cons_self⟩
      · exact .inr stays

theorem Covered.cancel {event : Event} (covered : Covered state owed) :
    Covered (state.after (service reservationTTL) index (.updateEvent event) fault)
      (.cancellation event.id ::ₘ owed) := by
  have messages : (state.after (service reservationTTL) index (.updateEvent event) fault).world.outbox.messages =
      state.world.outbox.messages := execute_messages state.world nofun
  have untouched := execute_untouched (.updateEvent event) fault state.world
  refine covered.step (fun _ => rfl) (untouched.bookings rfl) (execute_items fault state.world nofun)
    (fun itemID => ?_) fun row member cancelled => ?_
  · rw [issued,messages,Multiset.count_cons_of_ne (by simp),issued]
  · rw [messages]
    have owes (isOld : row ∈ state.world.db.events.rows) :
        (∃ at_, .eventCancelled row.id at_ ∈ state.world.outbox.messages) ∨
          .cancellation row.id ∈ Duty.cancellation event.id ::ₘ owed := by
      rcases covered.events row isOld cancelled with published | duty
      · exact .inl published
      · exact .inr (Multiset.mem_cons_of_mem duty)
    revert member
    refine write_part World.db (fun db => row ∈ db.events.rows → _) owes fun value after ok member => ?_
    rcases Database.updateEvent_ok ok with ⟨_,rfl⟩ | ⟨old,next,_,key,_,_,rfl⟩
    · exact owes member
    · rcases (Table.mem_replace ..).mp member with ⟨kept,_⟩ | ⟨rfl,_⟩
      · exact owes kept
      · rw [key]
        exact .inr (Multiset.mem_cons_self _ _)

theorem Covered.unwritten (covered : Covered state owed)
    (other : ∀ id status, statement ≠ .updateStatusIfPending id status)
    (same : (execute statement fault state.world).2 = state.world) :
    Covered (state.after (service reservationTTL) index statement fault) owed := by
  have world : (state.after (service reservationTTL) index statement fault).world = state.world := same
  refine covered.step (fun id => everConfirmed_kept _ _ (isConfirmation_other id other)) ?_ ?_ (fun _ => ?_) ?_
  · rw [world]
  · rw [world]
  · rw [world]
  · rw [world]
    exact covered.events

end Statements

def announcing : Protocol Statement Reply World Fault Call Duties where
  evolves before after := Persists before.world.db after.world.db
  evolves_refl := Persists.view_refl
  evolves_trans := Persists.view_trans
  invariant := Covered
  permits _ call state _ statement fault := Furnished state.world.db ∧ Justified true call state.world.db statement ∧
    unbroken true statement fault = true ∧ ∀ message, statement = .outbox (.insert message) → fault = .none
  fits _ _ _ own statement := own ≠ 0 → statement = .now ∨ ∃ message, statement = .outbox (.insert message)

section Programs
variable {reservationTTL index : Nat} {call : Call} {α β : Type} {state : View} {own : Duties}

abbrev Announces (reservationTTL index : Nat) (call : Call) (post : α → View → Duties → Prop) (program : Task α)
    (state : View) (own : Duties) : Prop :=
  Holds (service reservationTTL) announcing index call post program state own

theorem Announces.perform {post : α → View → Duties → Prop} {statement : Statement} {next : Reply statement → Task α}
    (quiet : statement.unremarkable = true)
    (continues : ∀ (later : View) (fault : Fault), unbroken true statement fault = true →
      Persists state.world.db later.world.db →
      Persists later.world.db (execute statement fault later.world).2.db →
      Announces reservationTTL index call post (next (execute statement fault later.world).1)
        (later.after (service reservationTTL) index statement fault) 0) :
    Announces reservationTTL index call post (.perform statement next) state 0 := by
  intro later before frame covered
  refine ⟨fun owes => absurd rfl owes,fun fault ⟨furnished,justified,whole,_⟩ => ?_⟩
  have persists := (execute_advances call statement fault later.world furnished justified).1
  exact ⟨persists,0,covered.unremarkable furnished justified quiet,continues later fault whole before persists⟩

theorem Announces.of_issues {post : α → View → Duties → Prop} {program : Task α}
    (issues : program.Issues fun statement => statement.unremarkable = true)
    (returns : ∀ value (later : View), Persists state.world.db later.world.db → post value later 0) :
    Announces reservationTTL index call post program state 0 := by
  refine Holds.of_issues_from issues (.any program) ?_ fun value later _ persists => returns value later persists
  intro statement quiet later frame _ covered
  refine ⟨fun owes => absurd rfl owes,fun fault ⟨furnished,justified,_,_⟩ => ?_⟩
  exact ⟨(execute_advances call statement fault later.world furnished justified).1,
    covered.unremarkable furnished justified quiet⟩

theorem Announces.of_keeps {post : α → View → Prop} {program : Task α}
    (keeps : Keeps true reservationTTL index call post program state)
    (issues : program.Issues fun statement => statement.unremarkable = true) :
    Announces reservationTTL index call (fun value later own => own = 0 ∧ post value later) program state 0 := by
  induction program generalizing state with
  | done value => exact fun later persists => ⟨rfl,keeps later persists⟩
  | perform statement next ih =>
    intro later before frame covered
    refine ⟨fun owes => absurd rfl owes,fun fault ⟨furnished,justified,whole,_⟩ => ?_⟩
    obtain ⟨persists,_,_,rest⟩ := (keeps later before PUnit.unit furnished).2 fault whole
    exact ⟨persists,0,covered.unremarkable furnished justified issues.1,ih _ rest (issues.2 _)⟩

def Empty (_ : α) (_ : View) (own : Duties) : Prop := own = 0

private theorem announces_cancelled {id : ID} {next : Except DbError Unit → Task α} {at_ : Time}
    (only : ∀ duty ∈ own, duty = .cancellation id)
    (continues : ∀ reply later, Announces reservationTTL index call Empty (next reply) later 0) :
    Announces reservationTTL index call Empty (.perform (.outbox (.insert (.eventCancelled id at_))) next) state own := by
  intro later before frame covered
  refine ⟨fun _ => .inr ⟨_,rfl⟩,fun fault ⟨furnished,justified,_,safe⟩ => ?_⟩
  cases safe _ rfl
  refine ⟨.refl _,0,?_,continues _ _⟩
  rw [zero_add]
  exact covered.insertCancelled only

private theorem announces_now {next : Time → Task α} {post : α → View → Duties → Prop}
    (continues : ∀ now later, Persists state.world.db later.world.db →
      Announces reservationTTL index call post (next now) later own) :
    Announces reservationTTL index call post (.perform .now next) state own := by
  intro later before frame covered
  refine ⟨fun _ => .inl rfl,fun fault ⟨furnished,justified,_,_⟩ => ?_⟩
  exact ⟨.refl _,own,covered.unremarkable furnished justified rfl,continues _ _ before⟩

private theorem announces_cancel {event : Event} {next : Except DbError Unit → Task α}
    {post : α → View → Duties → Prop}
    (failed : ∀ error later, Announces reservationTTL index call post (next (.error error)) later 0)
    (stored : ∀ later, Announces reservationTTL index call post (next (.ok ())) later {.cancellation event.id}) :
    Announces reservationTTL index call post (.perform (.updateEvent event) next) state 0 := by
  intro later before frame covered
  rw [zero_add] at covered
  refine ⟨fun owes => absurd rfl owes,fun fault ⟨furnished,justified,_,_⟩ => ?_⟩
  refine ⟨(execute_advances call _ fault later.world furnished justified).1,?_⟩
  rcases write_cases World.put fault later.world (later.world.db.updateEvent event) with
    ⟨value,db,_,_,result⟩ | ⟨error,result⟩
  · refine ⟨{.cancellation event.id},Multiset.singleton_add _ frame ▸ covered.cancel,?_⟩
    rw [show ((service reservationTTL).execute (.updateEvent event) fault later.world).1 = .ok () from
      congrArg Prod.fst result]
    exact stored _
  · refine ⟨0,?_,?_⟩
    · rw [zero_add]
      exact covered.unwritten nofun (congrArg Prod.snd result)
    · rw [show ((service reservationTTL).execute (.updateEvent event) fault later.world).1 = .error error from
        congrArg Prod.fst result]
      exact failed error _

private theorem cancelEvent_announces (eventID userID : ID) :
    Announces reservationTTL index call Empty (EventService.cancelEvent eventID userID) state 0 := by
  refine Announces.perform rfl fun later fault _ _ _ => ?_
  rcases (execute (.findEventByID eventID) fault later.world).1 with error | event
  · exact .done fun _ _ => rfl
  simp only [Program.done_bind]
  split
  · exact .done fun _ _ => rfl
  split
  · exact .done fun _ _ => rfl
  refine announces_now fun now second _ => announces_now fun again third _ => ?_
  refine announces_cancel (fun error fourth => .done fun _ _ => rfl) fun fourth => ?_
  refine announces_now fun at_ fifth _ => announces_cancelled (fun duty mine => ?_) fun _ _ => .done fun _ _ => rfl
  exact Multiset.mem_singleton.mp mine

private theorem reprocess_announces (eventID userID : ID) (checkOwner : Bool) :
    Announces reservationTTL index call Empty (EventService.reprocessCancellation eventID userID checkOwner) state 0 := by
  refine Announces.perform rfl fun later fault _ _ _ => ?_
  rcases (execute (.findEventByID eventID) fault later.world).1 with error | event
  · exact .done fun _ _ => rfl
  simp only [Program.done_bind]
  split
  · exact .done fun _ _ => rfl
  split
  · exact .done fun _ _ => rfl
  refine announces_now fun at_ fifth _ => announces_cancelled (fun duty mine => ?_) fun _ _ => .done fun _ _ => rfl
  exact absurd mine (Multiset.notMem_zero _)

private theorem announces_confirm {id : ID} {tickets : Duties} {next : Except DbError Nat → Task α}
    {post : α → View → Duties → Prop}
    (known : ∀ later : View, Persists state.world.db later.world.db → ticketsOf later.world.db id = tickets)
    (otherwise : ∀ reply later, reply ≠ .ok 1 → Announces reservationTTL index call post (next reply) later 0)
    (applied : ∀ later, Announces reservationTTL index call post (next (.ok 1)) later tickets) :
    Announces reservationTTL index call post (.perform (.updateStatusIfPending id .confirmed) next) state 0 := by
  intro later before frame covered
  rw [zero_add] at covered
  refine ⟨fun owes => absurd rfl owes,fun fault ⟨furnished,justified,_,_⟩ => ?_⟩
  refine ⟨(execute_advances call _ fault later.world furnished justified).1,?_⟩
  rcases covered.confirm with ⟨reply,owing⟩ | ⟨reply,still⟩
  · refine ⟨tickets,known later before ▸ owing,?_⟩
    rw [show ((service reservationTTL).execute (.updateStatusIfPending id .confirmed) fault later.world).1 = .ok 1 from
      reply]
    exact applied _
  · refine ⟨0,?_,otherwise _ _ reply⟩
    rw [zero_add]
    exact still

private theorem issueTickets_announces (bookingID : ID) (booking : Booking) (items : List BookingItem) :
    Announces reservationTTL index call Empty (BookingService.issueTickets bookingID booking items) state
      (items.map fun item => Duty.ticket item.id : List Duty) := by
  induction items generalizing state with
  | nil => exact .done fun _ _ => rfl
  | cons item rest ih =>
    intro later before frame covered
    refine ⟨fun _ => .inr ⟨_,rfl⟩,fun fault ⟨furnished,justified,_,safe⟩ => ?_⟩
    cases safe _ rfl
    rw [List.map_cons,← Multiset.cons_coe,Multiset.cons_add] at covered
    exact ⟨.refl _,_,covered.insertTicket,ih⟩

private theorem Snapshot.tickets {db : Database} {booking : Booking} (snapshot : Snapshot true db booking) :
    ticketsOf db booking.id = (booking.items.map fun item => Duty.ticket item.id : List Duty) := by
  obtain ⟨_,_,_,_,_,_,whole⟩ := snapshot
  rw [whole rfl,List.map_map]
  rfl

private theorem confirm_announces (bookingID paymentID : ID) :
    Announces reservationTTL index call Empty (BookingService.confirm bookingID paymentID) state 0 := by
  have loads : Keeps true reservationTTL index call (fun loaded later => ∀ booking, loaded = .ok (some booking) →
      booking.id = bookingID ∧ Snapshot true later.world.db booking)
      (BookingService.loadPendingBooking bookingID) state := by
    refine .loadPendingBooking (fun _ _ _ none => by cases none) fun booking later _ same _ snapshot other isOther => ?_
    cases isOther
    exact ⟨same,snapshot⟩
  have quiet : (BookingService.loadPendingBooking bookingID).Issues fun statement => statement.unremarkable = true :=
    loadPendingBooking_issues bookingID (fun _ => rfl) fun _ => rfl
  refine .bind (Holds.consequence (Announces.of_keeps loads quiet) ?_)
  rintro loaded later _ ⟨rfl,knows⟩
  rcases loaded with error | _ | booking
  · exact Holds.done fun _ _ => rfl
  · exact Holds.done fun _ _ => rfl
  obtain ⟨rfl,snapshot⟩ := knows booking rfl
  refine Holds.bind (Announces.of_issues (isPublished_issues rfl) fun published second persists => ?_)
  rcases published with error | _ | _
  · exact .done fun _ _ => rfl
  · refine Announces.perform rfl fun third fault _ _ _ => ?_
    rcases (execute (.transitionAndReleaseSeats booking .cancelled) fault third.world).1 with error | applied
    · exact .done fun _ _ => rfl
    · exact .done fun _ _ => rfl
  · refine announces_confirm (fun final after => (snapshot.later (persists.trans after)).tickets) ?_ ?_
    · intro reply third unapplied
      rcases reply with error | count
      · exact .done fun _ _ => rfl
      · have other : decide (count = 1) = false := decide_eq_false fun same => unapplied (by rw [same])
        simp only [Except.map,Program.done_bind,other]
        exact .done fun _ _ => rfl
    · intro third
      have issues : Announces reservationTTL index call Empty
          ((BookingService.issueTickets booking.id booking booking.items).bind fun _ => .done (.ok () : Except Error Unit))
          third (booking.items.map fun item => Duty.ticket item.id : List Duty) := by
        refine .bind (Holds.consequence (issueTickets_announces booking.id booking booking.items) ?_)
        rintro _ final _ rfl
        exact Holds.done fun _ _ => rfl
      exact issues

def Call.remarkable : Call → Bool
  | .cancelEvent .. | .reprocessCancellation .. | .confirm .. => true
  | _ => false

private theorem footprint_plain {statement : Statement} (inside : Footprint call statement)
    (other : call.remarkable = false) : statement.unremarkable = true := by
  cases statement with
  | createEvent event =>
    cases call with
    | createEvent organizerID request => simp [Statement.unremarkable,inside.pending]
    | _ => exact inside.elim
  | updateEvent event =>
    cases call with
    | updateEvent eventID organizerID title description startAt endAt =>
      rcases inside with status | status <;> simp [Statement.unremarkable,status]
    | approveEvent | rejectEvent => simp [Statement.unremarkable,show event.status = _ from inside]
    | _ => first | exact inside.elim | cases other
  | updateStatusIfPending id status => cases call <;> first | exact inside.elim | cases other
  | outbox statement =>
    cases statement with
    | insert message => cases message <;> cases call <;> first | exact inside.elim | cases other
    | _ => rfl
  | _ => rfl

private theorem Announces.map {first : Task α} (f : α → β)
    (announces : Announces reservationTTL index call Empty first state 0) :
    Announces reservationTTL index call Empty (f <$> first) state 0 := by
  refine .bind (Holds.consequence announces ?_)
  rintro value later _ rfl
  exact Holds.done fun _ _ => rfl

theorem program_announces (call : Call) :
    Announces reservationTTL index call Empty (program reservationTTL call) state 0 := by
  cases call with
  | cancelEvent eventID userID => exact Announces.map _ (cancelEvent_announces eventID userID)
  | reprocessCancellation eventID userID checkOwner => exact Announces.map _ (reprocess_announces eventID userID checkOwner)
  | confirm bookingID paymentID => exact Announces.map _ (confirm_announces bookingID paymentID)
  | _ =>
    refine Announces.of_issues ((program_issues reservationTTL _).mono fun statement inside => ?_) fun _ _ _ => rfl
    exact footprint_plain inside rfl

end Programs

def Statement.inserts : Statement → Bool
  | .outbox inner => inner.inserts
  | _ => false

/-- A call that has nothing left to do before it inserts an outbox row; reading the clock takes no
time and no connection. -/
def aboutToAnnounce : Pool → Thread Statement Reply Call Result → Bool := Nearing .now World.clock Statement.inserts

def announcesSafely (_ : Pool) (_ : Nat) (statement : Statement) (fault : Fault) : Bool :=
  (!statement.inserts || fault = .none) && unbroken true statement fault

/-- No outbox row is lost: its insert does not fail, no call is stopped right before it, and
the items that tickets are issued for were all read. -/
abbrev Dependable : Pool → Step → Prop := Sparing aboutToAnnounce (Stepwise announcesSafely)

section Runs
variable {reservationTTL : Nat} {config : Pool}

private theorem covered_spared {index : Nat} {thread : Thread Statement Reply Call Result} {own frame : Duties}
    (run : Run (service reservationTTL) Dependable (.idle .initial) config)
    (permitted : Dependable config (.stop index)) (found : config.threads[index]? = some thread)
    (holds : ThreadHolds (service reservationTTL) announcing (fun _ _ => Empty) index thread config.state own)
    (covered : Covered config.state (own + frame)) : Covered config.state frame := by
  refine ThreadHolds.unburdened .none rfl ?_ ?_ (fun _ _ _ none => none) permitted.1 found holds covered
  · refine fun later same => ⟨⟨?_,trivial,rfl,nofun⟩,fun covered => ?_⟩
    · rw [same]
      exact furnished_of_run furnished_initial run
    · exact covered.step (fun _ => rfl) rfl rfl (fun _ => rfl) covered.events
  · intro later kept statement fits other quiet
    by_contra owes
    rcases fits owes with rfl | ⟨message,rfl⟩
    · exact other rfl
    · cases quiet

theorem Covered.initial : Covered ⟨World.initial,[]⟩ 0 where
  confirmed _ member := by cases member
  moved _ ever := by cases ever
  tickets _ := rfl
  events _ member := by cases member

theorem announcing_obeyed : Obeys (service reservationTTL) announcing (fun _ _ => Empty) Dependable (.idle .initial) where
  starts config call _ _ := program_announces call
  steps config index fault call statement next own others run permitted found _ _ := by
    have safe : announcesSafely config index statement fault = true := Stepwise.meets permitted found
    simp only [announcesSafely,Bool.and_eq_true] at safe
    have reads : Reads true Dependable := by
      intro config index fault call statement next permitted found
      exact (Bool.and_eq_true_iff.mp (Stepwise.meets permitted found : announcesSafely _ _ _ _ = true)).2
    refine ⟨furnished_of_run furnished_initial run,justified_of_run reads furnished_initial run found,safe.2,?_⟩
    rintro message rfl
    simpa [Statement.inserts,Outbox.Statement.inserts] using safe.1
  stops config index thread own frame run permitted found holds covered :=
    covered_spared run permitted found holds covered

private theorem announcing_holds (run : Run (service reservationTTL) Dependable (.idle .initial) config) :
    PoolHolds (service reservationTTL) announcing (fun _ _ => Empty) config :=
  PoolHolds.run (PoolHolds.idle _ Covered.initial) announcing_obeyed run

theorem cancellation_announced (run : Run (service reservationTTL) Dependable (.idle .initial) config)
    (quiet : config.Quiet) {row : EventRow} (member : row ∈ config.state.world.db.events.rows)
    (cancelled : row.event.status = .cancelled) :
    ∃ at_, .eventCancelled row.id at_ ∈ config.state.world.outbox.messages := by
  have covered : Covered config.state 0 := (announcing_holds run).quiet quiet fun _ _ _ _ _ none => none
  rcases covered.events row member cancelled with published | duty
  · exact published
  · exact absurd duty (Multiset.notMem_zero _)

theorem tickets_issued {middle : Pool} (run : Run (service reservationTTL) Dependable (.idle .initial) middle)
    (later : Run (service reservationTTL) Dependable middle config) (quiet : config.Quiet) {row : BookingRow}
    (member : row ∈ middle.state.world.db.bookings.rows) (confirmed : row.status = .confirmed) {item : BookingItemRow}
    (own : item ∈ config.state.world.db.itemsOf row.id) : issued config.state.world item.id = 1 := by
  obtain ⟨_,before⟩ := (announcing_holds run).invariant_holds
  have covered : Covered config.state 0 := (announcing_holds (run.trans later)).quiet quiet fun _ _ _ _ _ none => none
  have ever : everConfirmed config.state.history row.id = true := by
    obtain ⟨event,executed,records⟩ := List.any_eq_true.mp (before.confirmed row member confirmed)
    exact List.any_eq_true.mpr ⟨event,later.event_kept executed,records⟩
  obtain ⟨stored,same⟩ := List.mem_filter.mp own
  have counted := covered.tickets item.id
  rw [ticketsDue,Table.find?_of_mem stored] at counted
  simpa [of_decide_eq_true same,ever] using counted

end Runs

end Ticketbus.Ticketing
