import Ticketbus.Ticketing.Effects
import Ticketbus.Ticketing.Footprint

/-! What a call still knows of a row it read earlier. Bookings and ticket types
are never removed, a booking's items never change and its status only moves
forward, so a snapshot stays true up to the status. Each statement is issued with
the facts its program has established by then. -/
namespace Ticketbus.Ticketing
open Ticketbus.Concurrency Ticketbus.Relational

/-- The statuses a booking can still come to have. -/
def BookingStatus.Reaches : BookingStatus → BookingStatus → Prop
  | .pending,_ => True
  | .confirmed,next => next = .confirmed ∨ next = .cancelled
  | .expired,next => next = .expired
  | .cancelled,next => next = .cancelled

instance : (status next : BookingStatus) → Decidable (status.Reaches next)
  | .pending,_ => inferInstanceAs (Decidable True)
  | .confirmed,next => inferInstanceAs (Decidable (next = .confirmed ∨ next = .cancelled))
  | .expired,next => inferInstanceAs (Decidable (next = .expired))
  | .cancelled,next => inferInstanceAs (Decidable (next = .cancelled))

theorem BookingStatus.Reaches.refl (status : BookingStatus) : status.Reaches status := by
  cases status <;> simp [BookingStatus.Reaches]

theorem BookingStatus.Reaches.trans {first middle last : BookingStatus}
    (before : first.Reaches middle) (after : middle.Reaches last) : first.Reaches last := by
  cases first <;> cases middle <;> cases last <;> simp_all [BookingStatus.Reaches]

structure Persists (before after : Database) : Prop where
  events : ∀ id row, before.events.find? id = some row →
    ∃ next, after.events.find? id = some next ∧ next.event.organizerID = row.event.organizerID
  ticketTypes : ∀ id row, before.ticketTypes.find? id = some row →
    ∃ next, after.ticketTypes.find? id = some next ∧ next.quantity = row.quantity ∧
      next.eventID = row.eventID
  bookings : ∀ id row, before.bookings.find? id = some row →
    ∃ next, after.bookings.find? id = some next ∧ next.userID = row.userID ∧
      next.eventID = row.eventID ∧ row.status.Reaches next.status
  items : ∀ id, (before.bookings.find? id).isSome → after.itemsOf id = before.itemsOf id

namespace Persists

theorem refl (db : Database) : Persists db db where
  events _ row found := ⟨row,found,rfl⟩
  ticketTypes _ row found := ⟨row,found,rfl,rfl⟩
  bookings _ row found := ⟨row,found,rfl,rfl,.refl _⟩
  items _ _ := rfl

theorem trans {first middle last : Database} (before : Persists first middle)
    (after : Persists middle last) : Persists first last where
  events id row found := by
    obtain ⟨next,present,owner⟩ := before.events id row found
    obtain ⟨final,stays,same⟩ := after.events id next present
    exact ⟨final,stays,same.trans owner⟩
  ticketTypes id row found := by
    obtain ⟨next,present,quantity,event⟩ := before.ticketTypes id row found
    obtain ⟨final,stays,sameQuantity,sameEvent⟩ := after.ticketTypes id next present
    exact ⟨final,stays,sameQuantity.trans quantity,sameEvent.trans event⟩
  bookings id row found := by
    obtain ⟨next,present,user,event,reaches⟩ := before.bookings id row found
    obtain ⟨final,stays,sameUser,sameEvent,further⟩ := after.bookings id next present
    exact ⟨final,stays,sameUser.trans user,sameEvent.trans event,reaches.trans further⟩
  items id present := by
    obtain ⟨row,found⟩ := Option.isSome_iff_exists.mp present
    obtain ⟨next,stays,_⟩ := before.bookings id row found
    have still : (middle.bookings.find? id).isSome := by simp [stays]
    exact (after.items id still).trans (before.items id present)

theorem stored {before after : Database} {id : ID} (persists : Persists before after)
    (present : (before.bookings.find? id).isSome) : (after.bookings.find? id).isSome := by
  obtain ⟨row,found⟩ := Option.isSome_iff_exists.mp present
  obtain ⟨next,stays,_⟩ := persists.bookings id row found
  rw [stays]
  rfl

theorem addEvent (db : Database) (row : EventRow) (fresh : db.events.find? row.id = none) :
    Persists db (db.addEvent row fresh) where
  events _ old found := ⟨old,Table.find?_insert_of_some fresh found,rfl⟩
  ticketTypes := (refl db).ticketTypes
  bookings := (refl db).bookings
  items := (refl db).items

theorem setEvent (db : Database) (row next : EventRow) (found : db.events.find? next.id = some row)
    (owner : next.event.organizerID = row.event.organizerID) : Persists db (db.setEvent next) where
  events id old present := by
    change ∃ after, (db.events.replace next).find? id = some after ∧ _
    rw [Table.find?_replace]
    split
    · rename_i same
      rw [same,present] at found
      cases found
      exact ⟨next,by simp [present],owner⟩
    · exact ⟨old,present,rfl⟩
  ticketTypes := (refl db).ticketTypes
  bookings := (refl db).bookings
  items := (refl db).items

theorem addTicketType (db : Database) (row : TicketTypeRow)
    (fresh : db.ticketTypes.find? row.id = none) (event : (db.events.find? row.eventID).isSome) :
    Persists db (db.addTicketType row fresh event) where
  events := (refl db).events
  ticketTypes _ old found := ⟨old,Table.find?_insert_of_some fresh found,rfl,rfl⟩
  bookings := (refl db).bookings
  items := (refl db).items

theorem reseated {db after : Database} {row next : TicketTypeRow} (change : db.Reseated row next after) :
    Persists db after := by
  obtain ⟨found,key,sameEvent,quantity,event,rfl⟩ := change
  refine ⟨(refl db).events,?_,(refl db).bookings,(refl db).items⟩
  intro id old present
  change ∃ after, (db.ticketTypes.replace next).find? id = some after ∧ _
  rw [Table.find?_replace]
  split
  · rename_i same
    rw [← key,same,present] at found
    cases found
    exact ⟨next,by simp [present],quantity,sameEvent⟩
  · exact ⟨old,present,rfl,rfl⟩

theorem moved {db after : Database} {row next : BookingRow} (change : db.Moved row next after)
    (forward : row.status.Reaches next.status) : Persists db after := by
  have stored := change.found
  obtain ⟨found,_,user,sameEvent,event,rfl⟩ := change
  refine ⟨(refl db).events,(refl db).ticketTypes,?_,(refl db).items⟩
  intro id old present
  rw [stored]
  split
  · rename_i same
    rw [same,present] at found
    cases found
    exact ⟨next,rfl,user,sameEvent,forward⟩
  · exact ⟨old,present,rfl,rfl,.refl _⟩

theorem releaseAll {db after : Database} {items : List BookingItem}
    (ok : db.releaseAll items = .ok after) : Persists db after :=
  Database.releaseAll_steps ok (refl db) fun _ change before => before.trans (reseated change)

end Persists

namespace Database

theorem itemsOf_absent (db : Database) (id : ID) (absent : db.bookings.find? id = none) :
    db.itemsOf id = [] := by
  apply List.filter_eq_nil_iff.mpr
  intro row member same
  have present := db.items_booking row member
  rw [of_decide_eq_true same,absent] at present
  cases present

theorem itemsOf_append {db after : Database} {rows : List BookingItemRow}
    (appended : after.items.rows = db.items.rows ++ rows) (id : ID) :
    after.itemsOf id = db.itemsOf id ++ rows.filter (fun row => row.bookingID = id) := by
  unfold itemsOf
  rw [appended,List.filter_append]

theorem stored_bookingID {id : ID} {items : List BookingItem} {rows : List BookingItemRow}
    (own : ∀ item ∈ items, item.bookingID = id) (stored : List.Forall₂ StoredAs items rows) :
    ∀ row ∈ rows, row.bookingID = id := by
  intro row member
  obtain ⟨item,inside,same⟩ := forall₂_source stored row member
  exact same.2.1.trans (own item inside)

/-- What `Create` leaves behind, for a booking whose items are its own. -/
structure Created (db : Database) (booking : Booking) (row : BookingRow) (rows : List BookingItemRow)
    (after : Database) : Prop where
  id : row.id = booking.id
  user : row.userID = booking.userID
  event : row.eventID = booking.eventID
  status : row.status = booking.status
  fresh : db.bookings.find? booking.id = none
  stored : List.Forall₂ StoredAs booking.items rows
  appended : after.items.rows = db.items.rows ++ rows
  events : after.events = db.events
  ticketTypes : after.ticketTypes = db.ticketTypes
  bookings : after.bookings.rows = db.bookings.rows ++ [row]
  found : ∀ id, after.bookings.find? id = if booking.id = id then some row else db.bookings.find? id
  others : ∀ id, id ≠ booking.id → after.itemsOf id = db.itemsOf id
  own : after.itemsOf booking.id = rows

theorem create_created {db after : Database} {now : Time} {booking : Booking}
    (own : ∀ item ∈ booking.items, item.bookingID = booking.id)
    (ok : db.create now booking = .ok ((),after)) : ∃ row rows, db.Created booking row rows after := by
  obtain ⟨row,fresh,event,rows,id,user,sameEvent,status,stored,appended,events,types,bookings⟩ :=
    create_ok ok
  have belong := stored_bookingID own stored
  refine ⟨row,rows,id,user,sameEvent,status,id ▸ fresh,stored,appended,events,types,?_,?_,?_,?_⟩
  · rw [bookings]
    rfl
  · intro wanted
    rw [bookings,← id]
    exact Table.find?_insert _ _ _ fresh
  · intro other distinct
    have none : rows.filter (fun row => row.bookingID = other) = [] := by
      apply List.filter_eq_nil_iff.mpr
      intro stored member same
      exact distinct ((of_decide_eq_true same).symm.trans (belong stored member))
    rw [itemsOf_append appended,none,List.append_nil]
  · have all : rows.filter (fun row => row.bookingID = booking.id) = rows := by
      apply List.filter_eq_self.mpr
      intro stored member
      exact decide_eq_true (belong stored member)
    rw [itemsOf_append appended,itemsOf_absent db booking.id (id ▸ fresh),all,List.nil_append]

end Database

theorem Persists.created {db after : Database} {booking : Booking} {row : BookingRow}
    {rows : List BookingItemRow} (created : db.Created booking row rows after) : Persists db after where
  events id old found := ⟨old,by rw [created.events]; exact found,rfl⟩
  ticketTypes id old found := ⟨old,by rw [created.ticketTypes]; exact found,rfl,rfl⟩
  bookings id old found := by
    have distinct : booking.id ≠ id := by
      intro same
      rw [← same,created.fresh] at found
      cases found
    exact ⟨old,by rw [created.found,if_neg distinct]; exact found,rfl,rfl,.refl _⟩
  items id present := by
    apply created.others
    intro same
    rw [same,created.fresh] at present
    cases present

def Furnished (db : Database) : Prop := ∀ row ∈ db.bookings.rows, db.itemsOf row.id ≠ []

def unbroken (whole : Bool) : Statement → Fault → Bool
  | .listItems _,.broken _ => !whole
  | _,_ => true

/-- A booking as a call read it: the row may have moved on, its items are a part of
the stored ones, and all of them where item reads are whole. -/
def Snapshot (whole : Bool) (db : Database) (booking : Booking) : Prop :=
  ∃ row, db.bookings.find? booking.id = some row ∧ row.userID = booking.userID ∧
    row.eventID = booking.eventID ∧ booking.status.Reaches row.status ∧
    booking.items <+: (db.itemsOf booking.id).map BookingRepo.scanItem ∧
    (whole = true → booking.items = (db.itemsOf booking.id).map BookingRepo.scanItem)

def Call.Writes : Call → Event → Prop
  | .updateEvent eventID ..,event => event.id = eventID
  | .approveEvent eventID _,event => event.id = eventID ∧ event.status = .published
  | .rejectEvent eventID _,event => event.id = eventID ∧ event.status = .rejected
  | .cancelEvent eventID _,event => event.id = eventID ∧ event.status = .cancelled
  | _,_ => False

/-- The event whose tickets a call deals with. -/
def Call.Serves (db : Database) : Call → ID → Prop
  | .reserve _ _ request,eventID => request.eventID = eventID
  | .confirm bookingID _,eventID | .expireOnPaymentExpired bookingID,eventID =>
    (db.bookings.find? bookingID).map BookingRow.eventID = some eventID
  | .cancelBookings ofEvent,eventID | .approveEvent ofEvent _,eventID => ofEvent = eventID
  | _,_ => False

def Justified (whole : Bool) (call : Call) (db : Database) : Statement → Prop
  | .create booking => booking.status = .pending ∧ booking.items ≠ [] ∧
      ∀ item ∈ booking.items, item.bookingID = booking.id
  | .updateStatusIfPending id status => status = .confirmed ∧ ∃ paymentID, call = .confirm id paymentID
  | .transitionAndReleaseSeats booking toStatus => Snapshot whole db booking ∧
      ((booking.status = .pending ∧ toStatus = .expired ∧ call = .expireOnPaymentExpired booking.id) ∨
        ((booking.status = .pending ∨ booking.status = .confirmed) ∧ toStatus = .cancelled)) ∧
      call.Serves db booking.eventID
  | .init id total => ∃ row, db.ticketTypes.find? id = some row ∧ row.quantity = total ∧ call.Serves db row.eventID
  | .setPrice id _ => ∃ row, db.ticketTypes.find? id = some row ∧ call.Serves db row.eventID
  | .updateEvent event => call.Writes event
  | .eventStatus eventID => ∃ bookingID paymentID row, call = .confirm bookingID paymentID ∧
      db.bookings.find? bookingID = some row ∧ row.eventID = eventID
  | _ => True

theorem Snapshot.event {whole : Bool} {db : Database} {booking : Booking} (snapshot : Snapshot whole db booking) :
    (db.bookings.find? booking.id).map BookingRow.eventID = some booking.eventID := by
  obtain ⟨row,found,_,event,_⟩ := snapshot
  rw [found,Option.map_some,event]

theorem Snapshot.later {whole : Bool} {before after : Database} {booking : Booking}
    (snapshot : Snapshot whole before booking) (persists : Persists before after) :
    Snapshot whole after booking := by
  obtain ⟨row,found,user,event,reaches,items⟩ := snapshot
  obtain ⟨next,stays,sameUser,sameEvent,further⟩ := persists.bookings _ _ found
  refine ⟨next,stays,sameUser.trans user,sameEvent.trans event,reaches.trans further,?_⟩
  rw [persists.items booking.id (by simp [found])]
  exact items

def Advances (before after : Database) : Prop := Persists before after ∧ (Furnished before → Furnished after)

namespace Advances

theorem refl (db : Database) : Advances db db := ⟨.refl db,id⟩

theorem trans {first middle last : Database} (before : Advances first middle)
    (after : Advances middle last) : Advances first last :=
  ⟨before.1.trans after.1,after.2 ∘ before.2⟩

theorem of_persists {before after : Database} (persists : Persists before after)
    (old : ∀ row ∈ after.bookings.rows, (before.bookings.find? row.id).isSome) :
    Advances before after := by
  refine ⟨persists,fun furnished row member => ?_⟩
  obtain ⟨earlier,found⟩ := Option.isSome_iff_exists.mp (old row member)
  rw [persists.items row.id (old row member),← Table.find?_key found]
  exact furnished earlier (Table.find?_mem found)

private theorem same_bookings {before after : Database} (persists : Persists before after)
    (same : after.bookings = before.bookings) : Advances before after := by
  apply of_persists persists
  intro row member
  rw [same] at member
  rw [Table.find?_of_mem member]
  rfl

theorem reseated {db after : Database} {row next : TicketTypeRow}
    (change : db.Reseated row next after) : Advances db after := by
  apply same_bookings (.reseated change)
  obtain ⟨_,_,_,_,_,rfl⟩ := change
  rfl

theorem moved {db after : Database} {row next : BookingRow} (change : db.Moved row next after)
    (forward : row.status.Reaches next.status) : Advances db after := by
  apply of_persists (.moved change forward)
  obtain ⟨found,key,_,_,event,rfl⟩ := change
  intro other member
  rcases (Table.mem_replace ..).mp member with ⟨inside,_⟩ | ⟨rfl,present⟩
  · rw [Table.find?_of_mem inside]
    rfl
  · exact present

theorem releaseAll {db after : Database} {items : List BookingItem}
    (ok : db.releaseAll items = .ok after) : Advances db after :=
  same_bookings (.releaseAll ok) (Database.releaseAll_frame ok).2.1

theorem created {db after : Database} {booking : Booking} {row : BookingRow}
    {rows : List BookingItemRow} (created : db.Created booking row rows after)
    (some : booking.items ≠ []) : Advances db after := by
  have persists := Persists.created created
  refine ⟨persists,fun furnished other member => ?_⟩
  rw [created.bookings,List.mem_append,List.mem_singleton] at member
  rcases member with old | rfl
  · have present : (db.bookings.find? other.id).isSome := by simp [Table.find?_of_mem old]
    rw [persists.items other.id present]
    exact furnished other old
  · rw [created.id,created.own]
    intro empty
    have none := created.stored
    rw [empty,List.forall₂_nil_right_iff] at none
    exact some none

end Advances

theorem Furnished.has_items {db : Database} {id : ID} {row : BookingRow} (furnished : Furnished db)
    (found : db.bookings.find? id = some row) : db.itemsOf id ≠ [] :=
  Table.find?_key found ▸ furnished row (Table.find?_mem found)

theorem execute_advances {whole : Bool} (call : Call) (statement : Statement) (fault : Fault) (world : World)
    (furnished : Furnished world.db) (justified : Justified whole call world.db statement) :
    Advances world.db (execute statement fault world).2.db := by
  have effect := execute_effect statement fault world
  generalize (execute statement fault world).2.db = after at effect ⊢
  cases effect with
  | same => exact .refl _
  | addEvent _ _ => exact Advances.same_bookings (.addEvent ..) rfl
  | setEvent found key _ owner => exact Advances.same_bookings (.setEvent _ _ _ (key ▸ found) owner) rfl
  | addTicketType _ _ _ _ => exact Advances.same_bookings (.addTicketType ..) rfl
  | reseat _ change => exact .reseated change
  | create ok =>
    obtain ⟨_,some,own⟩ := justified
    obtain ⟨row,rows,created⟩ := Database.create_created own ok
    exact .created created some
  | confirm pending change _ => exact .moved change (by rw [pending]; trivial)
  | retire _ same change status released =>
    refine Advances.trans (.moved change ?_) (.releaseAll released)
    rw [same,status]
    rcases justified.2.1 with ⟨pending,rfl,_⟩ | ⟨pending | confirmed,rfl⟩
    · rw [pending]
      trivial
    · rw [pending]
      trivial
    · rw [confirmed]
      exact .inr rfl
  | delete found => exact absurd ‹_› (furnished.has_items found)

theorem Persists.view_refl (state : View) : Persists state.world.db state.world.db := .refl _

theorem Persists.view_trans (first middle last : View) (before : Persists first.world.db middle.world.db)
    (after : Persists middle.world.db last.world.db) : Persists first.world.db last.world.db := before.trans after

/-- The protocol of snapshots: no thread owns anything, the database moves on, and
every statement is justified when it is issued. -/
def snapshots (whole : Bool) : Protocol Statement Reply World Fault Call PUnit where
  evolves before after := Persists before.world.db after.world.db
  evolves_refl := Persists.view_refl
  evolves_trans := Persists.view_trans
  invariant state _ := Furnished state.world.db
  permits _ _ _ _ statement fault := unbroken whole statement fault = true
  fits _ call state _ statement := Justified whole call state.world.db statement

section Programs
variable {whole : Bool} {reservationTTL index : Nat} {call : Call} {α β : Type} {state : View}

abbrev Keeps (whole : Bool) (reservationTTL index : Nat) (call : Call) (post : α → View → Prop) (program : Task α)
    (state : View) : Prop := Sustains (service reservationTTL) (snapshots whole) index call post program state

theorem snapshots_stable : (snapshots whole).Stable (service reservationTTL) := by
  intro index call state statement fault furnished justified _
  have advances := execute_advances call statement fault state.world furnished justified
  exact ⟨advances.1,advances.2 furnished⟩

theorem Keeps.perform {post : α → View → Prop} {statement : Statement} {next : Reply statement → Task α}
    (justified : ∀ later : View, Persists state.world.db later.world.db →
      Justified whole call later.world.db statement)
    (continues : ∀ (later : View) (fault : Fault), unbroken whole statement fault = true →
      Persists state.world.db later.world.db →
      Persists later.world.db (execute statement fault later.world).2.db →
      Keeps whole reservationTTL index call post (next (execute statement fault later.world).1)
        (later.after (service reservationTTL) index statement fault)) :
    Keeps whole reservationTTL index call post (.perform statement next) state :=
  Sustains.perform snapshots_stable justified fun later fault _ => continues later fault

def Free (statement : Statement) : Prop := ∀ whole call db, Justified whole call db statement

theorem Keeps.of_issues {post : α → View → Prop} {program : Task α} (issues : program.Issues Free)
    (returns : ∀ value later, post value later) :
    Keeps whole reservationTTL index call post program state :=
  Sustains.of_issues snapshots_stable (issues.mono fun _ free (later : View) _ => free whole call later.world.db) (.any program)
    fun value later _ _ => returns value later

/-! The reads give snapshots. -/

theorem scanned_part {db : Database} {id : ID} {fault : Fault} {world : World} {rows : Rows BookingItemRow}
    (ok : (stream fault world (db.itemsOf id)).1 = .ok rows) :
    rows.items.map BookingRepo.scanItem <+: (db.itemsOf id).map BookingRepo.scanItem :=
  (stream_part ok).map BookingRepo.scanItem

def Known (db : Database) (row : BookingRow) : Prop :=
  ∃ present, db.bookings.find? row.id = some present ∧ present.userID = row.userID ∧
    present.eventID = row.eventID ∧ row.status.Reaches present.status

theorem Known.later {before after : Database} {row : BookingRow} (known : Known before row)
    (persists : Persists before after) : Known after row := by
  obtain ⟨present,found,user,event,reaches⟩ := known
  obtain ⟨next,stays,sameUser,sameEvent,further⟩ := persists.bookings _ _ found
  exact ⟨next,stays,sameUser.trans user,sameEvent.trans event,reaches.trans further⟩

theorem Known.of_mem {db : Database} {row : BookingRow} (member : row ∈ db.bookings.rows) :
    Known db row := ⟨row,Table.find?_of_mem member,rfl,rfl,.refl _⟩

theorem Keeps.scanItems {post : Except DbError Booking → View → Prop} {row : BookingRow}
    (known : Known state.world.db row)
    (failed : ∀ error later, Persists state.world.db later.world.db → post (.error error) later)
    (loaded : ∀ (booking : Booking) (later : View), Persists state.world.db later.world.db →
      booking.id = row.id → booking.status = row.status → booking.eventID = row.eventID →
      Snapshot whole later.world.db booking → post (.ok booking) later) :
    Keeps whole reservationTTL index call post (BookingRepo.scanItems row) state := by
  refine Keeps.perform (fun _ _ => trivial) fun later fault unbroken before step => ?_
  have soFar := before.trans step
  cases reply : (execute (.listItems row.id) fault later.world).1 with
  | error error => exact .done fun final after => failed error final (soFar.trans after)
  | ok rows =>
    refine .done fun final after => ?_
    have persists := soFar.trans after
    obtain ⟨last,stays,user,event,reaches⟩ := known.later persists
    refine loaded _ final persists rfl rfl rfl ⟨last,stays,user,event,reaches,?_⟩
    obtain ⟨present,isPresent,_⟩ := known
    have unchanged : final.world.db.itemsOf row.id = later.world.db.itemsOf row.id := by
      rw [persists.items row.id (by simp [isPresent]),before.items row.id (by simp [isPresent])]
    rw [show final.world.db.itemsOf (BookingRepo.assemble row rows.items).id = _ from unchanged]
    refine ⟨scanned_part reply,fun isWhole => ?_⟩
    have complete : rows.items = later.world.db.itemsOf row.id := by
      refine stream_complete (fun count broken => ?_) reply
      rw [broken,isWhole] at unbroken
      cases unbroken
    exact congrArg (List.map BookingRepo.scanItem) complete

theorem Keeps.findByID {post : Except DbError Booking → View → Prop} {id : ID}
    (failed : ∀ error later, Persists state.world.db later.world.db → post (.error error) later)
    (loaded : ∀ (booking : Booking) (later : View), Persists state.world.db later.world.db →
      booking.id = id → Snapshot whole later.world.db booking → post (.ok booking) later) :
    Keeps whole reservationTTL index call post (BookingRepo.findByID id) state := by
  refine Keeps.perform (fun _ _ => trivial) fun later fault _ before step => ?_
  have soFar := before.trans step
  cases reply : (execute (.findBooking id) fault later.world).1 with
  | error error => exact .done fun final after => failed error final (soFar.trans after)
  | ok row =>
    have found : later.world.db.bookings.find? id = some row := Database.findBooking_ok.mp (query_ok reply)
    have key : row.id = id := Table.find?_key found
    refine Keeps.scanItems ?_ ?_ ?_
    · obtain ⟨next,stays,user,event,reaches⟩ := step.bookings id row found
      exact ⟨next,by rw [key]; exact stays,user,event,reaches⟩
    · exact fun error final after => failed error final (soFar.trans after)
    · intro booking final after same _ _ snapshot
      exact loaded booking final (soFar.trans after) (same.trans key) snapshot

theorem Keeps.loadAll {post : Except DbError (List Booking) → View → Prop} (eventID : ID) (rows : List BookingRow)
    (known : ∀ row ∈ rows, Known state.world.db row ∧ row.eventID = eventID)
    (failed : ∀ error later, Persists state.world.db later.world.db → post (.error error) later)
    (loaded : ∀ (bookings : List Booking) (later : View), Persists state.world.db later.world.db →
      (∀ booking ∈ bookings, Snapshot whole later.world.db booking ∧ booking.eventID = eventID) →
      post (.ok bookings) later) :
    Keeps whole reservationTTL index call post (BookingRepo.loadAll rows) state := by
  induction rows generalizing state post with
  | nil => exact .done fun later persists => loaded [] later persists (by simp)
  | cons row rest ih =>
    obtain ⟨isKnown,own⟩ := known row List.mem_cons_self
    refine .bind (Keeps.scanItems isKnown ?_ ?_)
    · exact fun error later before => .done fun final after => failed error final (before.trans after)
    · intro booking later before _ _ event snapshot
      refine .bind (ih ?_ ?_ ?_)
      · exact fun other member => (known other (List.mem_cons_of_mem _ member)).imp_left (·.later before)
      · exact fun error middle step => .done fun final after =>
          failed error final ((before.trans step).trans after)
      · intro bookings middle step snapshots
        refine .done fun final after => loaded _ final ((before.trans step).trans after) ?_
        intro other member
        rcases List.mem_cons.mp member with rfl | inside
        · exact ⟨snapshot.later (step.trans after),event.trans own⟩
        · exact (snapshots other inside).imp_left (·.later after)

theorem Keeps.listByEventID {post : Except DbError (List Booking) → View → Prop} {eventID : ID}
    (failed : ∀ error later, Persists state.world.db later.world.db → post (.error error) later)
    (loaded : ∀ (bookings : List Booking) (later : View), Persists state.world.db later.world.db →
      (∀ booking ∈ bookings, Snapshot whole later.world.db booking ∧ booking.eventID = eventID) →
      post (.ok bookings) later) :
    Keeps whole reservationTTL index call post (BookingRepo.listByEventID eventID) state := by
  refine Keeps.perform (fun _ _ => trivial) fun later fault _ before step => ?_
  have soFar := before.trans step
  cases reply : (execute (.listBookings eventID) fault later.world).1 with
  | error error => exact .done fun final after => failed error final (soFar.trans after)
  | ok rows =>
    have part : rows.items <+: later.world.db.listBookings eventID := stream_part reply
    obtain ⟨items,err⟩ := rows
    cases err with
    | some error => exact .done fun final after => failed error final (soFar.trans after)
    | none =>
      refine Keeps.loadAll eventID items ?_ ?_ ?_
      · intro row member
        obtain ⟨stored,own⟩ := Database.mem_newestBookings.mp (part.subset member)
        exact ⟨(Known.of_mem stored).later step,of_decide_eq_true own⟩
      · exact fun error final after => failed error final (soFar.trans after)
      · exact fun bookings final after => loaded bookings final (soFar.trans after)

/-! The programs whose statements need a justification. -/

abbrev Any {α : Type} : α → View → Prop := fun _ _ => True

theorem Keeps.cancelAll (eventID : ID) (bookings : List Booking)
    (snapshots : ∀ booking ∈ bookings, Snapshot whole state.world.db booking ∧ booking.eventID = eventID) :
    Keeps whole reservationTTL index (.cancelBookings eventID) Any (BookingService.cancelAll bookings) state := by
  induction bookings generalizing state with
  | nil => exact .done fun _ _ => trivial
  | cons booking rest ih =>
    obtain ⟨snapshot,own⟩ := snapshots booking List.mem_cons_self
    have remaining : ∀ other ∈ rest, Snapshot whole state.world.db other ∧ other.eventID = eventID :=
      fun other member => snapshots other (List.mem_cons_of_mem _ member)
    unfold BookingService.cancelAll
    split
    · exact ih remaining
    · rename_i live
      refine Keeps.perform ?_ fun later fault _ before step => ?_
      · intro later persists
        refine ⟨snapshot.later persists,.inr ⟨?_,rfl⟩,own.symm⟩
        by_contra neither
        exact live ⟨fun same => neither (.inr same),fun same => neither (.inl same)⟩
      · cases (execute (.transitionAndReleaseSeats booking .cancelled) fault later.world).1 with
        | error error => exact .done fun _ _ => trivial
        | ok applied =>
          exact ih fun other member => (remaining other member).imp_left (·.later (before.trans step))

theorem Keeps.loadPendingBooking {post : Except Error (Option Booking) → View → Prop} {id : ID}
    (nothing : ∀ later, Persists state.world.db later.world.db → post (.ok none) later)
    (loaded : ∀ (booking : Booking) (later : View), Persists state.world.db later.world.db →
      booking.id = id → booking.status = .pending → Snapshot whole later.world.db booking →
      post (.ok (some booking)) later) :
    Keeps whole reservationTTL index call post (BookingService.loadPendingBooking id) state := by
  refine .bind (Keeps.findByID ?_ ?_)
  · exact fun error later before => .done fun final after => nothing final (before.trans after)
  · intro booking later before same snapshot
    simp only
    split
    · exact .done fun final after => nothing final (before.trans after)
    · rename_i pending
      exact .done fun final after => loaded booking final (before.trans after) same
        (not_not.mp pending) (snapshot.later after)

theorem Keeps.map {first : Task α} (f : α → β) (keeps : Keeps whole reservationTTL index call Any first state) :
    Keeps whole reservationTTL index call Any (f <$> first) state := by
  refine .bind (Holds.consequence keeps ?_)
  exact fun value later _ _ => Sustains.done fun _ _ => trivial

theorem Keeps.isPublished {post : Except DbError Bool → View → Prop} {eventID : ID}
    (checks : ∀ later : View, Persists state.world.db later.world.db →
      Justified whole call later.world.db (.eventStatus eventID))
    (returns : ∀ published later, Persists state.world.db later.world.db → post published later) :
    Keeps whole reservationTTL index call post (EventStatusRepo.isPublished eventID) state := by
  refine Keeps.perform checks fun later fault _ before step => ?_
  have soFar := before.trans step
  rcases (execute (.eventStatus eventID) fault later.world).1 with error | status
  · cases error <;> exact .done fun final after => returns _ final (soFar.trans after)
  · exact .done fun final after => returns _ final (soFar.trans after)

private theorem confirm_keeps (bookingID paymentID : ID) :
    Keeps whole reservationTTL index (.confirm bookingID paymentID) Any
      (BookingService.confirm bookingID paymentID) state := by
  refine .bind (Keeps.loadPendingBooking ?_ ?_)
  · exact fun later before => .done fun _ _ => trivial
  · rintro booking later before rfl pending snapshot
    refine .bind (Keeps.isPublished (fun final after => ?_) fun published second between => ?_)
    · obtain ⟨row,found,_,event,_⟩ := snapshot.later after
      exact ⟨booking.id,paymentID,row,rfl,found,event⟩
    rcases published with error | _ | _
    · exact .done fun _ _ => trivial
    · refine Keeps.perform ?_ fun third fault _ _ _ => ?_
      · intro final after
        have kept := snapshot.later (between.trans after)
        exact ⟨kept,.inr ⟨.inl pending,rfl⟩,kept.event⟩
      · cases (execute (.transitionAndReleaseSeats booking .cancelled) fault third.world).1 with
        | error error => exact .done fun _ _ => trivial
        | ok applied => exact .done fun _ _ => trivial
    · refine Keeps.perform (fun _ _ => ⟨rfl,paymentID,rfl⟩) fun third fault _ _ _ => ?_
      rcases (execute (.updateStatusIfPending booking.id .confirmed) fault third.world).1 with error | count
      · exact .done fun _ _ => trivial
      · refine Keeps.of_issues ?_ fun _ _ => trivial
        simp only [Except.map,Program.done_bind]
        split
        · trivial
        · trivial
        · exact (issueTickets_issues booking.id booking _ fun _ _ _ _ _ => trivial).bind fun _ => trivial

private theorem expire_keeps (bookingID : ID) :
    Keeps whole reservationTTL index (.expireOnPaymentExpired bookingID) Any
      (BookingService.expireOnPaymentExpired bookingID) state := by
  refine .bind (Keeps.loadPendingBooking ?_ ?_)
  · exact fun later before => .done fun _ _ => trivial
  · rintro booking later before rfl pending snapshot
    refine Keeps.perform ?_ fun second fault _ _ _ => ?_
    · exact fun final after => ⟨snapshot.later after,.inl ⟨pending,rfl,rfl⟩,(snapshot.later after).event⟩
    · cases (execute (.transitionAndReleaseSeats booking .expired) fault second.world).1 with
      | error error => exact .done fun _ _ => trivial
      | ok applied => exact .done fun _ _ => trivial

private theorem cancelBookings_keeps (eventID : ID) :
    Keeps whole reservationTTL index (.cancelBookings eventID) Any (BookingService.cancelBookings eventID) state := by
  refine .bind (Keeps.listByEventID ?_ ?_)
  · exact fun error later before => .done fun _ _ => trivial
  · exact fun bookings later before snapshots => Keeps.cancelAll eventID bookings snapshots

theorem Keeps.nameItems {post : List BookingItem → View → Prop} (bookingID : ID)
    (items : List BookingItem)
    (returns : ∀ named later, Named bookingID items named →
      Persists state.world.db later.world.db → post named later) :
    Keeps whole reservationTTL index call post (BookingService.nameItems bookingID items) state := by
  induction items generalizing state post with
  | nil => exact .done fun later persists => returns [] later .nil persists
  | cons item rest ih =>
    refine Keeps.perform (fun _ _ => trivial) fun later fault _ before step => ?_
    rw [Program.done_bind]
    refine .bind (ih fun named second all between => ?_)
    refine .done fun final after => returns _ final (.cons ⟨rfl,rfl,rfl⟩ all) ?_
    exact ((before.trans step).trans between).trans after

theorem Named.own {bookingID : ID} {items named : List BookingItem} (all : Named bookingID items named) :
    ∀ item ∈ named, item.bookingID = bookingID := by
  intro item member
  obtain ⟨_,_,same⟩ := forall₂_source all item member
  exact same.1

private theorem reserve_keeps (userID : ID) (userEmail : String) (request : ReserveRequest) :
    Keeps whole reservationTTL index call Any
      (BookingHandler.reserve reservationTTL userID userEmail request) state := by
  unfold BookingHandler.reserve
  split
  · unfold BookingService.reserve
    split
    · exact .done fun _ _ => trivial
    · rename_i some
      refine .bind (Keeps.of_issues (reserveItems_issues _ _ (fun _ _ _ _ _ => trivial) (fun _ _ _ _ => trivial)
        fun _ _ _ _ _ => trivial) fun reserved later => ?_)
      cases reserved with
      | error error => exact .done fun _ _ => trivial
      | ok value =>
        refine Keeps.perform (fun _ _ => trivial) fun second _ _ _ _ => ?_
        refine Keeps.perform (fun _ _ => trivial) fun third fault _ _ _ => ?_
        refine Keeps.perform (fun _ _ => trivial) fun fourth _ _ _ _ => ?_
        rw [Program.done_bind]
        refine .bind (Keeps.nameItems _ _ fun named fifth all _ => ?_)
        refine Keeps.perform (fun _ _ => ⟨rfl,?_,all.own⟩) fun sixth again _ _ _ => Keeps.of_issues ?_ fun _ _ => trivial
        · intro empty
          change named = [] at empty
          rw [Named,empty,List.forall₂_nil_right_iff] at all
          exact some all
        · -- after the booking has been stored nothing needs a justification
          have rollback : (BookingService.rollbackSeats named).Issues Free :=
            rollbackSeats_issues named fun _ _ _ _ _ => trivial
          generalize (execute (.create _) again sixth.world).1 = created
          cases created with
          | error error => exact rollback.bind fun _ => trivial
          | ok value =>
            refine (initiateTxnForBooking_issues fun _ _ _ => trivial).bind fun initiated => ?_
            cases initiated with
            | error error => exact ⟨fun _ _ _ => trivial,fun _ => rollback.bind fun _ => trivial⟩
            | ok value => trivial
  · exact .done fun _ _ => trivial

def Stocked (db : Database) (eventID : ID) (types : List TicketType) : Prop :=
  ∀ ticketType ∈ types, ∃ row, db.ticketTypes.find? ticketType.id = some row ∧
    row.quantity = ticketType.quantity ∧ row.eventID = eventID

theorem Stocked.later {before after : Database} {eventID : ID} {types : List TicketType}
    (stocked : Stocked before eventID types) (persists : Persists before after) : Stocked after eventID types := by
  intro ticketType member
  obtain ⟨row,found,quantity,event⟩ := stocked ticketType member
  obtain ⟨next,stays,sameQuantity,sameEvent⟩ := persists.ticketTypes _ _ found
  exact ⟨next,stays,sameQuantity.trans quantity,sameEvent.trans event⟩

theorem Stocked.listed (db : Database) (eventID : ID) : Stocked db eventID (db.listTicketTypesByEvent eventID) := by
  intro ticketType member
  obtain ⟨row,inside,rfl⟩ := List.mem_map.mp member
  obtain ⟨stored,own⟩ := List.mem_filter.mp inside
  exact ⟨row,Table.find?_of_mem stored,rfl,of_decide_eq_true own⟩

theorem Keeps.initAll {eventID adminUserID : ID} (types : List TicketType)
    (stocked : Stocked state.world.db eventID types) : Keeps whole reservationTTL index
      (.approveEvent eventID adminUserID) Any (EventService.initAll types) state := by
  induction types generalizing state with
  | nil => exact .done fun _ _ => trivial
  | cons ticketType rest ih =>
    refine Keeps.perform ?_ fun later fault _ before step => ?_
    · intro later persists
      obtain ⟨row,found,quantity,event⟩ := stocked.later persists ticketType List.mem_cons_self
      exact ⟨row,found,quantity,event.symm⟩
    · rcases (execute (.init ticketType.id ticketType.quantity) fault later.world).1 with error | count
      · exact .done fun _ _ => trivial
      · refine Keeps.perform (fun later persists => ?_) fun second again _ between further => ?_
        · obtain ⟨row,found,_,event⟩ := stocked.later ((before.trans step).trans persists) ticketType List.mem_cons_self
          exact ⟨row,found,event.symm⟩
        rcases (execute (.setPrice ticketType.id ticketType.priceRupiah) again second.world).1 with
          error | count
        · exact .done fun _ _ => trivial
        · apply ih
          have soFar := ((before.trans step).trans between).trans further
          exact fun other member => stocked.later soFar other (List.mem_cons_of_mem _ member)

theorem Keeps.findEventByID {post : α → View → Prop} {id : ID} {next : Except DbError Event → Task α}
    (failed : ∀ error later, Keeps whole reservationTTL index call post (next (.error error)) later)
    (found : ∀ event later, event.id = id → Keeps whole reservationTTL index call post (next (.ok event)) later) :
    Keeps whole reservationTTL index call post (.perform (.findEventByID id) next) state := by
  refine Keeps.perform (fun _ _ => trivial) fun later fault _ _ _ => ?_
  cases reply : (execute (.findEventByID id) fault later.world).1 with
  | error error => exact failed error _
  | ok event =>
    exact found event _ (Database.findEventByID_id (query_ok reply))

theorem Keeps.updateEvent {post : Except DbError Unit → View → Prop} {event : Event}
    (writes : ∀ now, call.Writes {event with updatedAt := now}) (returns : ∀ reply later, post reply later) :
    Keeps whole reservationTTL index call post (EventRepo.updateEvent event) state := by
  refine Keeps.perform (fun _ _ => trivial) fun later _ _ _ _ => ?_
  refine Keeps.perform (fun _ _ => writes _) fun second _ _ _ _ => ?_
  exact .done fun final _ => returns _ final

private theorem approve_keeps (eventID adminUserID : ID) :
    Keeps whole reservationTTL index (.approveEvent eventID adminUserID) Any
      (EventService.approveEvent eventID adminUserID) state := by
  refine Keeps.findEventByID (fun error later => .done fun _ _ => trivial) fun event first same => ?_
  simp only [Program.done_bind]
  split
  · exact .done fun _ _ => trivial
  · refine Keeps.perform (fun _ _ => trivial) fun second _ _ _ _ => ?_
    rw [Program.done_bind]
    refine .bind (Keeps.updateEvent (fun now => ⟨same,rfl⟩) fun updated third => ?_)
    rcases updated with error | _
    · exact .done fun _ _ => trivial
    · refine Keeps.perform (fun _ _ => trivial) fun fourth again _ _ step => ?_
      cases reply : (execute (.listTicketTypesByEvent eventID) again fourth.world).1 with
      | error error => exact .done fun _ _ => trivial
      | ok rows =>
        have part : rows.items <+: fourth.world.db.listTicketTypesByEvent eventID := stream_part reply
        have stocked : Stocked (execute (.listTicketTypesByEvent eventID) again fourth.world).2.db eventID
            rows.items := by
          refine Stocked.later ?_ step
          exact fun ticketType member => Stocked.listed _ eventID ticketType (part.subset member)
        have kept : Keeps whole reservationTTL index (.approveEvent eventID adminUserID) Any
            (EventService.initAll rows.items)
            (fourth.after (service reservationTTL) index (.listTicketTypesByEvent eventID) again) :=
          .initAll rows.items stocked
        simp only [Program.done_bind]
        refine .bind (Holds.consequence kept ?_)
        intro done last _ _
        cases done with
        | error error => exact Sustains.done fun _ _ => trivial
        | ok value => exact Sustains.done fun _ _ => trivial

private theorem reject_keeps (eventID adminUserID : ID) :
    Keeps whole reservationTTL index (.rejectEvent eventID adminUserID) Any
      (EventService.rejectEvent eventID adminUserID) state := by
  refine Keeps.findEventByID (fun error later => .done fun _ _ => trivial) fun event first same => ?_
  simp only [Program.done_bind]
  split
  · exact .done fun _ _ => trivial
  · refine Keeps.perform (fun _ _ => trivial) fun second _ _ _ _ => ?_
    rw [Program.done_bind]
    refine .bind (Keeps.updateEvent (fun now => ⟨same,rfl⟩) fun updated third => ?_)
    cases updated <;> exact .done fun _ _ => trivial

private theorem cancel_keeps (eventID userID : ID) :
    Keeps whole reservationTTL index (.cancelEvent eventID userID) Any
      (EventService.cancelEvent eventID userID) state := by
  refine Keeps.findEventByID (fun error later => .done fun _ _ => trivial) fun event first same => ?_
  simp only [Program.done_bind]
  split
  · exact .done fun _ _ => trivial
  · split
    · exact .done fun _ _ => trivial
    · refine Keeps.perform (fun _ _ => trivial) fun second _ _ _ _ => ?_
      rw [Program.done_bind]
      refine .bind (Keeps.updateEvent (fun now => ⟨same,rfl⟩) fun updated third => ?_)
      rcases updated with error | _
      · exact .done fun _ _ => trivial
      · refine Keeps.perform (fun _ _ => trivial) fun fourth _ _ _ _ => ?_
        refine Keeps.perform (fun _ _ => trivial) fun fifth _ _ _ _ => ?_
        exact .done fun _ _ => trivial

private theorem update_keeps (eventID organizerID : ID) (title description : String) (startAt endAt : Time) :
    Keeps whole reservationTTL index (.updateEvent eventID organizerID title description startAt endAt) Any
      (EventService.updateEvent eventID organizerID title description startAt endAt) state := by
  refine Keeps.findEventByID (fun error later => .done fun _ _ => trivial) fun event first same => ?_
  simp only [Program.done_bind]
  split
  · exact .done fun _ _ => trivial
  · split
    · exact .done fun _ _ => trivial
    · refine Keeps.perform (fun _ _ => trivial) fun second _ _ _ _ => ?_
      rw [Program.done_bind]
      refine .bind (Keeps.updateEvent (fun now => same) fun updated third => ?_)
      cases updated <;> exact .done fun _ _ => trivial

private theorem free_of_footprint {statement : Statement} (inside : Footprint call statement)
    (edit : ∀ event, statement ≠ .updateEvent event) (other : call.ofSale = false) : Free statement := by
  intro whole _ db
  cases statement with
  | create | updateStatusIfPending | transitionAndReleaseSeats | init | setPrice | eventStatus =>
    cases (inside.ofSale rfl).symm.trans other
  | updateEvent event => exact absurd rfl (edit event)
  | _ => trivial

theorem program_keeps (call : Call) :
    Keeps whole reservationTTL index call Any (program reservationTTL call) state := by
  have issues := program_issues reservationTTL call
  cases call with
  | updateEvent eventID organizerID title description startAt endAt =>
    exact Keeps.map _ (update_keeps eventID organizerID title description startAt endAt)
  | approveEvent eventID adminUserID => exact Keeps.map _ (approve_keeps eventID adminUserID)
  | rejectEvent eventID adminUserID => exact Keeps.map _ (reject_keeps eventID adminUserID)
  | cancelEvent eventID userID => exact Keeps.map _ (cancel_keeps eventID userID)
  | reserve userID userEmail request => exact Keeps.map _ (reserve_keeps userID userEmail request)
  | confirm bookingID paymentID => exact Keeps.map _ (confirm_keeps bookingID paymentID)
  | expireOnPaymentExpired bookingID => exact Keeps.map _ (expire_keeps bookingID)
  | cancelBookings eventID => exact Keeps.map _ (cancelBookings_keeps eventID)
  | _ =>
    refine Keeps.of_issues (issues.mono fun statement inside => ?_) fun _ _ => trivial
    refine free_of_footprint inside ?_ rfl
    rintro event rfl
    exact inside

end Programs

def Reads (whole : Bool) (guard : Pool → Step → Prop) : Prop :=
  ∀ config index fault call statement next, guard config (.step index fault) →
    config.threads[index]? = some ⟨call,some (.perform statement next)⟩ →
    unbroken whole statement fault = true

theorem Reads.any (guard : Pool → Step → Prop) : Reads false guard := by
  intro config index fault call statement next _ _
  cases statement with
  | listItems bookingID => cases fault <;> rfl
  | _ => rfl

theorem furnished_initial : Furnished World.initial.db := by
  intro row member
  cases member

section Runs
variable {whole : Bool} {reservationTTL : Nat} {guard : Pool → Step → Prop} {world : World} {config : Pool}

theorem snapshots_hold (reads : Reads whole guard) (furnished : Furnished world.db)
    (run : Run (service reservationTTL) guard (.idle world) config) :
    PoolHolds (service reservationTTL) (snapshots whole) (fun _ _ _ _ _ => True) config := by
  refine PoolHolds.run (PoolHolds.idle world furnished) ?_ run
  refine ⟨?_,?_,?_⟩
  · exact fun config call _ _ => program_keeps call
  · intro config index fault call statement next _ _ _ permitted found _ _
    exact reads config index fault call statement next permitted found
  · exact fun _ _ _ _ _ _ _ _ _ furnished => furnished

theorem furnished_of_run (furnished : Furnished world.db)
    (run : Run (service reservationTTL) guard (.idle world) config) :
    Furnished config.state.world.db := by
  obtain ⟨_,kept⟩ := (snapshots_hold (Reads.any guard) furnished run).invariant_holds
  exact kept

theorem justified_of_run (reads : Reads whole guard) (furnished : Furnished world.db)
    (run : Run (service reservationTTL) guard (.idle world) config) {index : Nat} {call : Call}
    {statement : Statement} {next : Reply statement → Task Result}
    (found : config.threads[index]? = some ⟨call,some (.perform statement next)⟩) :
    Justified whole call config.state.world.db statement := by
  obtain ⟨_,_,fits,_⟩ := (snapshots_hold reads furnished run).thread_fits index _ found
  exact fits

theorem persists_of_next (furnished : Furnished world.db)
    (run : Run (service reservationTTL) guard (.idle world) config) {action : Step} {after : Pool}
    (taken : config.next (service reservationTTL) action = some after) :
    Persists config.state.world.db after.state.world.db := by
  rcases Config.next_state taken with same | ⟨index,fault,call,statement,next,rfl,found,rfl⟩
  · rw [same]
    exact .refl _
  · have justified := justified_of_run (Reads.any guard) furnished run found
    exact (execute_advances call statement fault _ (furnished_of_run furnished run) justified).1

theorem persists_of_run (furnished : Furnished world.db)
    (run : Run (service reservationTTL) guard (.idle world) config) {last : Pool}
    (after : Run (service reservationTTL) guard config last) :
    Persists config.state.world.db last.state.world.db := by
  refine after.invariant (fun last => Persists config.state.world.db last.state.world.db) (.refl _) ?_
  intro middle action next between before permitted taken
  exact before.trans (persists_of_next furnished (run.trans between) taken)

end Runs
end Ticketbus.Ticketing
