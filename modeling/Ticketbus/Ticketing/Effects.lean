import Ticketbus.Ticketing.Statement

/-! What each committed write does to the tables. Every later proof about a write
goes through these inversions and not through its definition. -/
namespace Ticketbus.Ticketing
open Ticketbus.Relational

namespace Database
variable {db after : Database}

theorem createEvent_ok {now : Time} {event : Event} (ok : db.createEvent now event = .ok ((),after)) :
    ∃ row fresh, row.id = event.id ∧ row.event.status = event.status ∧
      after = db.addEvent row fresh := by
  unfold createEvent at ok
  split at ok
  · simp only at ok
    split at ok
    · rename_i check fresh
      cases ok
      exact ⟨_,fresh,rfl,rfl,rfl⟩
    · cases ok
  · split at ok <;> cases ok

theorem findEventByID_id {id : ID} {event : Event} (ok : db.findEventByID id = .ok event) : event.id = id := by
  unfold findEventByID at ok
  split at ok
  · cases ok
  · rename_i row found
    cases ok
    have key : row.id = id := Table.find?_key found
    exact key

theorem findBooking_ok {id : ID} {row : BookingRow} :
    db.findBooking id = .ok row ↔ db.bookings.find? id = some row := by
  unfold findBooking
  cases db.bookings.find? id with
  | none => simp
  | some stored => simp

theorem updateEvent_ok {event : Event} (ok : db.updateEvent event = .ok ((),after)) :
    (db.events.find? event.id = none ∧ after = db) ∨
    ∃ row next, db.events.find? event.id = some row ∧ next.id = event.id ∧
      next.event.status = event.status ∧ next.event.organizerID = row.event.organizerID ∧
      after = db.setEvent next := by
  unfold updateEvent at ok
  split at ok
  · rename_i absent
    cases ok
    exact .inl ⟨absent,rfl⟩
  · rename_i row found
    cases ok
    refine .inr ⟨row,_,found,?_,?_,?_,rfl⟩
    · have key := Table.find?_key found
      exact key
    · rfl
    · rfl

theorem createTicketType_ok {ticketType : TicketType}
    (ok : db.createTicketType ticketType = .ok ((),after)) :
    ∃ row fresh event, row.id = ticketType.id ∧ row.eventID = ticketType.eventID ∧
      row.quantity = ticketType.quantity ∧ row.availableSeat = 0 ∧
      after = db.addTicketType row fresh event := by
  unfold createTicketType at ok
  split at ok
  · split at ok
    · split at ok
      · simp only at ok
        split at ok
        · rename_i fresh
          split at ok
          · rename_i event
            cases ok
            exact ⟨_,fresh,event,rfl,rfl,rfl,rfl,rfl⟩
          · cases ok
        · cases ok
      · cases ok
    · split at ok <;> cases ok
  · cases ok

def Reseated (db : Database) (row next : TicketTypeRow) (after : Database) : Prop :=
  db.ticketTypes.find? row.id = some row ∧ next.id = row.id ∧ next.eventID = row.eventID ∧
    next.quantity = row.quantity ∧ ∃ event, after = db.setTicketType next event

theorem Reseated.found {row next : TicketTypeRow} (change : db.Reseated row next after) :
    after.ticketTypes.find? row.id = some next := by
  obtain ⟨found,key,_,_,_,rfl⟩ := change
  change (db.ticketTypes.replace next).find? row.id = some next
  rw [← key] at found ⊢
  exact Table.find?_replace_self found

theorem Reseated.others {row next : TicketTypeRow} {id : ID} (change : db.Reseated row next after)
    (distinct : row.id ≠ id) : after.ticketTypes.find? id = db.ticketTypes.find? id := by
  obtain ⟨_,key,_,_,_,rfl⟩ := change
  exact Table.find?_replace_ne (key ▸ distinct)

theorem setSeat_ok {row : TicketTypeRow} {member : row ∈ db.ticketTypes.rows} {seats : Int}
    (ok : db.setSeat row member seats = .ok after) :
    ∃ next, db.Reseated row next after ∧ next.availableSeat = seats := by
  unfold setSeat at ok
  split at ok
  · cases ok
    refine ⟨_,⟨Table.find?_of_mem member,?_,?_,?_,_,rfl⟩,?_⟩ <;> rfl
  · cases ok

private theorem setSeat_map_ok {row : TicketTypeRow} {member : row ∈ db.ticketTypes.rows}
    {seats : Int} {count : Nat}
    (ok : (db.setSeat row member seats).map (fun next => (1,next)) = .ok (count,after)) :
    count = 1 ∧ ∃ next, db.Reseated row next after ∧ next.availableSeat = seats := by
  cases written : db.setSeat row member seats with
  | error error =>
    rw [written] at ok
    cases ok
  | ok store =>
    rw [written] at ok
    cases ok
    exact ⟨rfl,setSeat_ok written⟩

theorem initSeats_ok {id : ID} {total : Int} {count : Nat}
    (ok : db.initSeats id total = .ok (count,after)) :
    (count = 0 ∧ db.ticketTypes.find? id = none ∧ after = db) ∨
    (count = 1 ∧ ∃ row next, row.id = id ∧ db.Reseated row next after ∧
      next.availableSeat = total) := by
  unfold initSeats at ok
  split at ok
  · split at ok
    · rename_i absent
      cases ok
      exact .inl ⟨rfl,absent,rfl⟩
    · rename_i row found
      obtain ⟨one,next,reseated,seats⟩ := setSeat_map_ok ok
      exact .inr ⟨one,row,next,Table.find?_key found,reseated,seats⟩
  · cases ok

theorem reserveSeats_ok {id : ID} {qty : Int} {count : Nat}
    (ok : db.reserveSeats id qty = .ok (count,after)) :
    (count = 0 ∧ after = db) ∨
    (count = 1 ∧ ∃ row next, row.id = id ∧ db.Reseated row next after ∧
      qty ≤ row.availableSeat ∧ next.availableSeat = row.availableSeat - qty) := by
  unfold reserveSeats at ok
  split at ok
  · split at ok
    · cases ok
      exact .inl ⟨rfl,rfl⟩
    · rename_i row found
      split at ok
      · rename_i enough
        obtain ⟨one,next,reseated,seats⟩ := setSeat_map_ok ok
        exact .inr ⟨one,row,next,Table.find?_key found,reseated,enough,seats⟩
      · cases ok
        exact .inl ⟨rfl,rfl⟩
  · cases ok

theorem releaseSeats_ok {id : ID} {qty : Int} {count : Nat}
    (ok : db.releaseSeats id qty = .ok (count,after)) :
    (count = 0 ∧ db.ticketTypes.find? id = none ∧ after = db) ∨
    (count = 1 ∧ ∃ row next, row.id = id ∧ db.Reseated row next after ∧
      next.availableSeat = min row.quantity (row.availableSeat + qty)) := by
  unfold releaseSeats at ok
  split at ok
  · split at ok
    · rename_i absent
      cases ok
      exact .inl ⟨rfl,absent,rfl⟩
    · rename_i row found
      split at ok
      · obtain ⟨one,next,reseated,seats⟩ := setSeat_map_ok ok
        exact .inr ⟨one,row,next,Table.find?_key found,reseated,seats⟩
      · cases ok
  · cases ok

theorem setPrice_ok {id : ID} {price : Int} {count : Nat}
    (ok : db.setPrice id price = .ok (count,after)) :
    after = db ∨ ∃ row next, row.id = id ∧ db.Reseated row next after ∧
      next.availableSeat = row.availableSeat := by
  unfold setPrice at ok
  split at ok
  · split at ok
    · cases ok
      exact .inl rfl
    · rename_i row found
      cases ok
      have member := Table.find?_mem found
      refine .inr ⟨row,_,Table.find?_key found,⟨Table.find?_of_mem member,?_,?_,?_,_,rfl⟩,?_⟩ <;> rfl
  · cases ok

def StoredAs (item : BookingItem) (row : BookingItemRow) : Prop :=
  row.id = item.id ∧ row.bookingID = item.bookingID ∧ row.ticketTypeID = item.ticketTypeID ∧
    row.quantity = item.quantity

def charge (item : BookingItem) : Int :=
  if item.totalPriceRupiah = 0 then goInt (item.unitPriceRupiah * item.quantity) else item.totalPriceRupiah

def Charged (item : BookingItem) (row : BookingItemRow) : Prop :=
  StoredAs item row ∧ row.totalPriceRupiah = charge item

theorem insertItem_ok {item : BookingItem} (ok : db.insertItem item = .ok after) :
    ∃ row fresh booking, Charged item row ∧ after = db.addItem row fresh booking := by
  unfold insertItem at ok
  extract_lets totalPrice at ok
  split at ok
  · split at ok
    · simp only at ok
      split at ok
      · rename_i fresh
        split at ok
        · rename_i booking
          cases ok
          exact ⟨_,fresh,booking,⟨⟨rfl,rfl,rfl,rfl⟩,rfl⟩,rfl⟩
        · cases ok
      · cases ok
    · cases ok
  · split at ok <;> cases ok

theorem insertItems_ok {items : List BookingItem} (ok : items.foldlM insertItem db = .ok after) :
    ∃ rows, List.Forall₂ Charged items rows ∧ after.items.rows = db.items.rows ++ rows ∧
      after.events = db.events ∧ after.ticketTypes = db.ticketTypes ∧
      after.bookings = db.bookings := by
  induction items generalizing db with
  | nil =>
    cases ok
    exact ⟨[],.nil,by simp,rfl,rfl,rfl⟩
  | cons item rest ih =>
    rw [List.foldlM_cons] at ok
    cases inserted : db.insertItem item with
    | error error =>
      rw [inserted] at ok
      cases ok
    | ok middle =>
      rw [inserted] at ok
      obtain ⟨row,fresh,booking,stored,rfl⟩ := insertItem_ok inserted
      obtain ⟨rows,all,appended,events,types,bookings⟩ := ih ok
      refine ⟨row :: rows,.cons stored all,?_,events,types,bookings⟩
      rw [appended]
      simp [addItem,Table.insert]

theorem create_charged {now : Time} {booking : Booking} (ok : db.create now booking = .ok ((),after)) :
    ∃ row fresh event rows, row.id = booking.id ∧ row.userID = booking.userID ∧
      row.eventID = booking.eventID ∧ row.status = booking.status ∧
      List.Forall₂ Charged booking.items rows ∧ after.items.rows = db.items.rows ++ rows ∧
      after.events = db.events ∧ after.ticketTypes = db.ticketTypes ∧
      after.bookings = (db.addBooking row fresh event).bookings := by
  unfold create at ok
  split at ok
  · rename_i check
    simp only at ok
    split at ok
    · rename_i fresh
      split at ok
      · rename_i event
        let row : BookingRow :=
          ⟨booking.id,booking.userID,booking.eventID,booking.status,booking.expiresAt,now,check⟩
        cases folded : booking.items.foldlM insertItem (db.addBooking row fresh event) with
        | error error =>
          rw [folded] at ok
          cases ok
        | ok store =>
          rw [folded] at ok
          cases ok
          obtain ⟨rows,all,appended,events,types,bookings⟩ := insertItems_ok folded
          exact ⟨row,fresh,event,rows,rfl,rfl,rfl,rfl,all,appended,events,types,bookings⟩
      · cases ok
    · cases ok
  · cases ok

theorem create_ok {now : Time} {booking : Booking} (ok : db.create now booking = .ok ((),after)) :
    ∃ row fresh event rows, row.id = booking.id ∧ row.userID = booking.userID ∧
      row.eventID = booking.eventID ∧ row.status = booking.status ∧
      List.Forall₂ StoredAs booking.items rows ∧ after.items.rows = db.items.rows ++ rows ∧
      after.events = db.events ∧ after.ticketTypes = db.ticketTypes ∧
      after.bookings = (db.addBooking row fresh event).bookings := by
  obtain ⟨row,fresh,event,rows,id,user,sameEvent,status,stored,rest⟩ := create_charged ok
  exact ⟨row,fresh,event,rows,id,user,sameEvent,status,stored.imp fun _ _ charged => charged.1,rest⟩

def Moved (db : Database) (row next : BookingRow) (after : Database) : Prop :=
  db.bookings.find? row.id = some row ∧ next.id = row.id ∧ next.userID = row.userID ∧
    next.eventID = row.eventID ∧ ∃ event, after = db.setBooking next event

theorem Moved.found {row next : BookingRow} (change : db.Moved row next after) (id : ID) :
    after.bookings.find? id = if row.id = id then some next else db.bookings.find? id := by
  obtain ⟨found,key,_,_,event,rfl⟩ := change
  rw [show (db.setBooking next event).bookings.find? id = _ from Table.find?_replace ..,key]
  by_cases same : row.id = id
  · rw [if_pos same,if_pos same,← same,found]
    rfl
  · rw [if_neg same,if_neg same]

theorem setStatus_ok {row : BookingRow} {member : row ∈ db.bookings.rows} {status : BookingStatus}
    (ok : db.setStatus row member status = .ok after) :
    ∃ next, db.Moved row next after ∧ next.status = status := by
  unfold setStatus at ok
  split at ok
  · cases ok
    refine ⟨_,⟨Table.find?_of_mem member,?_,?_,?_,_,rfl⟩,?_⟩ <;> rfl
  · cases ok

theorem updateStatusIfPending_ok {id : ID} {status : BookingStatus} {count : Nat}
    (ok : db.updateStatusIfPending id status = .ok (count,after)) :
    (count = 0 ∧ after = db) ∨
    (count = 1 ∧ ∃ row next, row.id = id ∧ row.status = .pending ∧ db.Moved row next after ∧
      next.status = status) := by
  unfold updateStatusIfPending at ok
  split at ok
  · cases ok
    exact .inl ⟨rfl,rfl⟩
  · rename_i row found
    split at ok
    · rename_i pending
      cases written : db.setStatus row (Table.find?_mem found) status with
      | error error =>
        rw [written] at ok
        cases ok
      | ok store =>
        rw [written] at ok
        cases ok
        obtain ⟨next,moved,same⟩ := setStatus_ok written
        exact .inr ⟨rfl,row,next,Table.find?_key found,pending,moved,same⟩
    · cases ok
      exact .inl ⟨rfl,rfl⟩

def releaseAll (db : Database) (items : List BookingItem) : Except DbError Database :=
  items.foldlM (fun db item => (db.releaseSeats item.ticketTypeID item.quantity).map Prod.snd) db

theorem releaseAll_cons {item : BookingItem} {rest : List BookingItem}
    (ok : db.releaseAll (item :: rest) = .ok after) :
    ∃ count middle, db.releaseSeats item.ticketTypeID item.quantity = .ok (count,middle) ∧
      middle.releaseAll rest = .ok after := by
  unfold releaseAll at ok
  rw [List.foldlM_cons] at ok
  cases outcome : db.releaseSeats item.ticketTypeID item.quantity with
  | error error =>
    rw [outcome] at ok
    cases ok
  | ok pair =>
    rw [outcome] at ok
    exact ⟨pair.1,pair.2,rfl,ok⟩

/-- Releasing the items changes one of their ticket types after the other. -/
theorem releaseAll_steps {items : List BookingItem} {motive : Database → Prop} (ok : db.releaseAll items = .ok after)
    (initially : motive db) (steps : ∀ {middle next : Database} {row other : TicketTypeRow},
      (∃ item ∈ items, row.id = item.ticketTypeID) → middle.Reseated row other next → motive middle → motive next) :
    motive after := by
  induction items generalizing db with
  | nil =>
    cases ok
    exact initially
  | cons item rest ih =>
    obtain ⟨count,middle,released,remaining⟩ := releaseAll_cons ok
    refine ih remaining ?_ fun ⟨other,member,same⟩ => steps ⟨other,List.mem_cons_of_mem _ member,same⟩
    rcases releaseSeats_ok released with ⟨_,_,rfl⟩ | ⟨_,row,next,key,change,_⟩
    · exact initially
    · exact steps ⟨item,List.mem_cons_self,key⟩ change initially

theorem transitionAndReleaseSeats_ok {booking : Booking} {toStatus : BookingStatus} {applied : Bool}
    (ok : db.transitionAndReleaseSeats booking toStatus = .ok (applied,after)) :
    (applied = false ∧ after = db ∧
      ∀ row, db.bookings.find? booking.id = some row → row.status ≠ booking.status) ∨
    (applied = true ∧ ∃ row next middle, row.id = booking.id ∧ row.status = booking.status ∧
      db.Moved row next middle ∧ next.status = toStatus ∧
      middle.releaseAll booking.items = .ok after) := by
  unfold transitionAndReleaseSeats at ok
  split at ok
  · rename_i absent
    cases ok
    refine .inl ⟨rfl,rfl,fun row found => ?_⟩
    cases absent.symm.trans found
  · rename_i row found
    split at ok
    · rename_i same
      cases written : db.setStatus row (Table.find?_mem found) toStatus with
      | error error =>
        rw [written] at ok
        cases ok
      | ok middle =>
        rw [written] at ok
        change (middle.releaseAll booking.items >>= fun released => .ok (true,released)) = _ at ok
        cases released : middle.releaseAll booking.items with
        | error error =>
          rw [released] at ok
          cases ok
        | ok store =>
          rw [released] at ok
          cases ok
          obtain ⟨next,moved,status⟩ := setStatus_ok written
          exact .inr ⟨rfl,row,next,middle,Table.find?_key found,same,moved,status,released⟩
    · rename_i other
      cases ok
      refine .inl ⟨rfl,rfl,fun stored isStored => ?_⟩
      cases found.symm.trans isStored
      exact other

theorem releaseAll_frame {items : List BookingItem} (ok : db.releaseAll items = .ok after) :
    after.events = db.events ∧ after.bookings = db.bookings ∧ after.items = db.items := by
  refine releaseAll_steps (motive := fun after => after.events = db.events ∧ after.bookings = db.bookings ∧
    after.items = db.items) ok ⟨rfl,rfl,rfl⟩ ?_
  rintro middle next row other _ ⟨_,_,_,_,_,rfl⟩ frame
  exact frame

theorem delete_ok {id : ID} {count : Nat} (ok : db.delete id = .ok (count,after)) :
    after = db ∨ ∃ row unused, db.bookings.find? id = some row ∧ after = db.removeBooking id unused := by
  unfold delete at ok
  split at ok
  · cases ok
    exact .inl rfl
  · rename_i row found
    split at ok
    · split at ok
      · rename_i unused
        cases ok
        exact .inr ⟨row,unused,found,rfl⟩
      · cases ok
    · cases ok
      exact .inl rfl

end Database

def Statement.writes : Statement → Bool
  | .createEvent _ | .updateEvent _ | .createTicketType _ | .init _ _ | .reserve _ _ | .release _ _
  | .setPrice _ _ | .create _ | .updateStatusIfPending _ _ | .transitionAndReleaseSeats _ _
  | .delete _ => true
  | _ => false

theorem execute_reads {statement : Statement} (fault : Fault) (world : World)
    (reads : statement.writes = false) : (execute statement fault world).2.db = world.db := by
  cases statement with
  | newString | now | advance _ | outbox _ => rfl
  | findEventByID id => exact congrArg World.db (query_world ..)
  | eventStatus id => exact congrArg World.db (query_world ..)
  | getPrice id => exact congrArg World.db (query_world ..)
  | findBooking id => exact congrArg World.db (query_world ..)
  | listTicketTypesByEvent id => exact congrArg World.db (stream_world ..)
  | listItems id => exact congrArg World.db (stream_world ..)
  | listBookings id => exact congrArg World.db (stream_world ..)
  | listBookingsByUser id => exact congrArg World.db (stream_world ..)
  | initiateTxnForBooking request =>
    have arrived := send_world fault world {world with requests := request :: world.requests}
    rcases arrived with same | same
    · exact congrArg World.db same
    · have unchanged := congrArg World.db same
      exact unchanged
  | _ => cases reads

def Reseats : Statement → TicketTypeRow → TicketTypeRow → Prop
  | .init id total,row,next => row.id = id ∧ next.availableSeat = total
  | .reserve id qty,row,next => row.id = id ∧ qty ≤ row.availableSeat ∧ next.availableSeat = row.availableSeat - qty
  | .release id qty,row,next => row.id = id ∧ next.availableSeat = min row.quantity (row.availableSeat + qty)
  | .setPrice id _,row,next => row.id = id ∧ next.availableSeat = row.availableSeat
  | _,_,_ => False

inductive Effect (db : Database) : Statement → Database → Prop
  | same {statement : Statement} : Effect db statement db
  | addEvent {event : Event} {row : EventRow} {fresh : db.events.find? row.id = none} (id : row.id = event.id)
      (status : row.event.status = event.status) : Effect db (.createEvent event) (db.addEvent row fresh)
  | setEvent {event : Event} {row next : EventRow} (found : db.events.find? event.id = some row)
      (key : next.id = event.id) (status : next.event.status = event.status)
      (owner : next.event.organizerID = row.event.organizerID) : Effect db (.updateEvent event) (db.setEvent next)
  | addTicketType {ticketType : TicketType} {row : TicketTypeRow} {fresh : db.ticketTypes.find? row.id = none}
      {event : (db.events.find? row.eventID).isSome} (id : row.id = ticketType.id)
      (eventID : row.eventID = ticketType.eventID) (quantity : row.quantity = ticketType.quantity)
      (empty : row.availableSeat = 0) : Effect db (.createTicketType ticketType) (db.addTicketType row fresh event)
  | reseat {statement : Statement} {row next : TicketTypeRow} {after : Database} (seats : Reseats statement row next)
      (change : db.Reseated row next after) : Effect db statement after
  | create {booking : Booking} {now : Time} {after : Database} (ok : db.create now booking = .ok ((),after)) :
      Effect db (.create booking) after
  | confirm {status : BookingStatus} {row next : BookingRow} {after : Database} (pending : row.status = .pending)
      (change : db.Moved row next after) (now : next.status = status) :
      Effect db (.updateStatusIfPending row.id status) after
  | retire {booking : Booking} {toStatus : BookingStatus} {row next : BookingRow} {middle after : Database}
      (key : row.id = booking.id) (before : row.status = booking.status) (change : db.Moved row next middle)
      (now : next.status = toStatus) (released : middle.releaseAll booking.items = .ok after) :
      Effect db (.transitionAndReleaseSeats booking toStatus) after
  | delete {id : ID} {row : BookingRow} {unused : db.itemsOf id = []} (found : db.bookings.find? id = some row) :
      Effect db (.delete id) (db.removeBooking id unused)

theorem execute_effect (statement : Statement) (fault : Fault) (world : World) :
    Effect world.db statement (execute statement fault world).2.db := by
  cases statement with
  | createEvent event =>
    refine write_part World.db (Effect world.db _) .same fun value after ok => ?_
    obtain ⟨row,fresh,id,status,rfl⟩ := Database.createEvent_ok ok
    exact .addEvent id status
  | updateEvent event =>
    refine write_part World.db (Effect world.db _) .same fun value after ok => ?_
    rcases Database.updateEvent_ok ok with ⟨_,rfl⟩ | ⟨row,next,found,key,status,owner,rfl⟩
    · exact .same
    · exact .setEvent found key status owner
  | createTicketType ticketType =>
    refine write_part World.db (Effect world.db _) .same fun value after ok => ?_
    obtain ⟨row,fresh,event,id,eventID,quantity,empty,rfl⟩ := Database.createTicketType_ok ok
    exact .addTicketType id eventID quantity empty
  | init id total =>
    refine write_part World.db (Effect world.db _) .same fun value after ok => ?_
    rcases Database.initSeats_ok ok with ⟨_,_,rfl⟩ | ⟨_,row,next,key,change,seats⟩
    · exact .same
    · exact .reseat ⟨key,seats⟩ change
  | reserve id qty =>
    refine write_part World.db (Effect world.db _) .same fun value after ok => ?_
    rcases Database.reserveSeats_ok ok with ⟨_,rfl⟩ | ⟨_,row,next,key,change,enough,seats⟩
    · exact .same
    · exact .reseat ⟨key,enough,seats⟩ change
  | release id qty =>
    refine write_part World.db (Effect world.db _) .same fun value after ok => ?_
    rcases Database.releaseSeats_ok ok with ⟨_,_,rfl⟩ | ⟨_,row,next,key,change,seats⟩
    · exact .same
    · exact .reseat ⟨key,seats⟩ change
  | setPrice id price =>
    refine write_part World.db (Effect world.db _) .same fun value after ok => ?_
    rcases Database.setPrice_ok ok with rfl | ⟨row,next,key,change,seats⟩
    · exact .same
    · exact .reseat ⟨key,seats⟩ change
  | create booking => exact write_part World.db (Effect world.db _) .same fun value after ok => .create ok
  | updateStatusIfPending id status =>
    refine write_part World.db (Effect world.db _) .same fun value after ok => ?_
    rcases Database.updateStatusIfPending_ok ok with ⟨_,rfl⟩ | ⟨_,row,next,rfl,pending,change,now⟩
    · exact .same
    · exact .confirm pending change now
  | transitionAndReleaseSeats booking toStatus =>
    refine write_part World.db (Effect world.db _) .same fun value after ok => ?_
    rcases Database.transitionAndReleaseSeats_ok ok with
      ⟨_,rfl,_⟩ | ⟨_,row,next,middle,key,before,change,now,released⟩
    · exact .same
    · exact .retire key before change now released
  | delete id =>
    refine write_part World.db (Effect world.db _) .same fun value after ok => ?_
    rcases Database.delete_ok ok with rfl | ⟨row,unused,found,rfl⟩
    · exact .same
    · exact .delete found
  | _ =>
    rw [execute_reads fault world rfl]
    exact .same

def Statement.movesBookings : Statement → Bool
  | .create _ | .updateStatusIfPending _ _ | .transitionAndReleaseSeats _ _ | .delete _ => true
  | _ => false

def Statement.editsEvents : Statement → Bool
  | .createEvent _ | .updateEvent _ => true
  | _ => false

structure Untouched (statement : Statement) (before after : Database) : Prop where
  events : statement.editsEvents = false → after.events = before.events
  bookings : statement.movesBookings = false → after.bookings = before.bookings

theorem Untouched.refl (statement : Statement) (db : Database) : Untouched statement db db :=
  ⟨fun _ => rfl,fun _ => rfl⟩

theorem Untouched.reseated {statement : Statement} {db after : Database} {row next : TicketTypeRow}
    (change : db.Reseated row next after) : Untouched statement db after := by
  obtain ⟨_,_,_,_,_,rfl⟩ := change
  exact ⟨fun _ => rfl,fun _ => rfl⟩

theorem Untouched.moving {statement : Statement} {db after : Database}
    (moves : statement.movesBookings = true) (same : after.events = db.events) :
    Untouched statement db after := by
  refine ⟨fun _ => same,fun still => ?_⟩
  rw [moves] at still
  cases still

theorem execute_untouched (statement : Statement) (fault : Fault) (world : World) :
    Untouched statement world.db (execute statement fault world).2.db := by
  have effect := execute_effect statement fault world
  generalize (execute statement fault world).2.db = after at effect ⊢
  cases effect with
  | same => exact .refl _ _
  | addEvent _ _ => exact ⟨nofun,fun _ => rfl⟩
  | setEvent _ _ _ _ => exact ⟨nofun,fun _ => rfl⟩
  | addTicketType _ _ _ _ => exact ⟨fun _ => rfl,fun _ => rfl⟩
  | reseat _ change => exact .reseated change
  | create ok =>
    obtain ⟨row,fresh,event,rows,_,_,_,_,_,_,same,_⟩ := Database.create_ok ok
    exact .moving rfl same
  | confirm _ change _ =>
    obtain ⟨_,_,_,_,event,rfl⟩ := change
    exact .moving rfl rfl
  | retire _ _ change _ released =>
    obtain ⟨_,_,_,_,event,rfl⟩ := change
    exact .moving rfl (Database.releaseAll_frame released).1
  | delete _ => exact .moving rfl rfl

theorem execute_items {statement : Statement} (fault : Fault) (world : World)
    (other : ∀ booking, statement ≠ .create booking) :
    (execute statement fault world).2.db.items = world.db.items := by
  have effect := execute_effect statement fault world
  generalize (execute statement fault world).2.db = after at effect ⊢
  cases effect with
  | same | addEvent _ _ | setEvent _ _ _ _ | addTicketType _ _ _ _ | delete _ => rfl
  | reseat _ change =>
    obtain ⟨_,_,_,_,_,rfl⟩ := change
    rfl
  | create ok => exact absurd rfl (other _)
  | confirm _ change _ =>
    obtain ⟨_,_,_,_,_,rfl⟩ := change
    rfl
  | retire _ _ change _ released =>
    obtain ⟨_,_,_,_,_,rfl⟩ := change
    exact (Database.releaseAll_frame released).2.2

def StatusOrigin (statement : Statement) (before : Database) (row : BookingRow) : Prop :=
  (∃ old ∈ before.bookings.rows, old.id = row.id ∧ old.status = row.status) ∨
  (∃ booking, statement = .create booking ∧ row.status = booking.status) ∨
  statement = .updateStatusIfPending row.id row.status ∨
  ∃ booking, statement = .transitionAndReleaseSeats booking row.status ∧ booking.id = row.id

theorem Database.Moved.row_cases {db after : Database} {row next found : BookingRow}
    (change : db.Moved row next after) (member : found ∈ after.bookings.rows) :
    (found = next ∧ found.id = row.id) ∨ found ∈ db.bookings.rows := by
  have stored := Table.find?_of_mem member
  rw [change.found] at stored
  split at stored
  · rename_i same
    exact .inl ⟨(Option.some.inj stored).symm,same.symm⟩
  · exact .inr (Table.find?_mem stored)

/-- Whose the booking is, and of which event. -/
def OwnerOrigin (statement : Statement) (before : Database) (row : BookingRow) : Prop :=
  (∃ old ∈ before.bookings.rows, old.userID = row.userID ∧ old.eventID = row.eventID) ∨
    ∃ booking, statement = .create booking ∧ booking.userID = row.userID ∧ booking.eventID = row.eventID

theorem booking_origin (statement : Statement) (fault : Fault) (world : World) :
    ∀ row ∈ (execute statement fault world).2.db.bookings.rows,
      StatusOrigin statement world.db row ∧ OwnerOrigin statement world.db row := by
  have initially : ∀ row ∈ world.db.bookings.rows, StatusOrigin statement world.db row ∧ OwnerOrigin statement world.db row :=
    fun row member => ⟨.inl ⟨row,member,rfl,rfl⟩,.inl ⟨row,member,rfl,rfl⟩⟩
  have owned {row next : BookingRow} {after : Database} (change : world.db.Moved row next after) :
      OwnerOrigin statement world.db next := by
    obtain ⟨found,_,user,event,_⟩ := change
    exact .inl ⟨row,Table.find?_mem found,user.symm,event.symm⟩
  have effect := execute_effect statement fault world
  generalize (execute statement fault world).2.db = after at effect ⊢
  intro row member
  cases effect with
  | same | addEvent _ _ | setEvent _ _ _ _ | addTicketType _ _ _ _ => exact initially row member
  | reseat _ change =>
    obtain ⟨_,_,_,_,_,rfl⟩ := change
    exact initially row member
  | create ok =>
    obtain ⟨new,fresh,event,_,_,user,sameEvent,status,_,_,_,_,bookings⟩ := Database.create_ok ok
    rw [bookings] at member
    have inserted : row ∈ (world.db.bookings.insert new fresh).rows := member
    rcases (Table.mem_insert ..).mp inserted with old | rfl
    · exact initially row old
    · exact ⟨.inr (.inl ⟨_,rfl,status⟩),.inr ⟨_,rfl,user.symm,sameEvent.symm⟩⟩
  | confirm _ change now =>
    rcases change.row_cases member with ⟨rfl,key⟩ | stays
    · exact ⟨.inr (.inr (.inl (by rw [key,now]))),owned change⟩
    · exact initially row stays
  | retire key _ change now released =>
    rw [(Database.releaseAll_frame released).2.1] at member
    rcases change.row_cases member with ⟨rfl,same⟩ | stays
    · exact ⟨.inr (.inr (.inr ⟨_,by rw [now],key.symm.trans same.symm⟩)),owned change⟩
    · exact initially row stays
  | delete _ => exact initially row ((Table.mem_erase ..).mp member).1

end Ticketbus.Ticketing
