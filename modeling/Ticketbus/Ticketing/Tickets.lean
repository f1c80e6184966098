import Ticketbus.Ticketing.Announcements
import Ticketbus.Ticketing.SettledMessages

/-! Tickets under duplicated confirmations. The call whose update has confirmed a booking
owns one ticket for each of its items, and every inserted row uses one up; nobody else can
come to own them, from whatever database the calls start. -/
namespace Ticketbus.Ticketing
open Ticketbus.Concurrency Ticketbus.Relational

def Call.settles : Call → Bool
  | .confirm .. | .expireOnPaymentExpired _ | .cancelBookings _ => true
  | _ => false

def Statement.settling : Statement → Bool
  | .findBooking _ | .listItems _ | .listBookings _ | .eventStatus _ => true
  | .updateStatusIfPending _ status | .transitionAndReleaseSeats _ status => status ≠ .pending
  | .outbox (.insert (.ticketIssued ..)) => true
  | _ => false

/-- The messages that the outbox has received, the oldest first. -/
def received : List (Concurrency.Event Statement Reply) → List Message
  | [] => []
  | ⟨_,.outbox (.insert message),.ok _⟩ :: earlier => received earlier ++ [message]
  | _ :: earlier => received earlier

theorem received_kept {index : Nat} {statement : Statement} {reply : Reply statement}
    (other : ∀ message, statement ≠ .outbox (.insert message)) (earlier : List (Concurrency.Event Statement Reply)) :
    received (⟨index,statement,reply⟩ :: earlier) = received earlier := by
  cases statement with
  | outbox statement =>
    cases statement with
    | insert message => exact absurd rfl (other message)
    | _ => rfl
  | _ => rfl

def BookingRow.owner (row : BookingRow) : ID × ID := (row.userID,row.eventID)

/-- Items stay, bookings keep their user and their event, and one that has been decided does
not become pending again. -/
structure Retains (before after : Database) : Prop where
  items : after.items = before.items
  owners : ∀ id, (after.bookings.find? id).map BookingRow.owner = (before.bookings.find? id).map BookingRow.owner
  decided : ∀ id row, before.bookings.find? id = some row → row.status ≠ .pending →
    ∃ next, after.bookings.find? id = some next ∧ next.status ≠ .pending

namespace Retains

theorem refl (db : Database) : Retains db db := ⟨rfl,fun _ => rfl,fun _ row found decided => ⟨row,found,decided⟩⟩

theorem trans {first middle last : Database} (before : Retains first middle) (after : Retains middle last) :
    Retains first last where
  items := after.items.trans before.items
  owners id := (after.owners id).trans (before.owners id)
  decided id row found decided := by
    obtain ⟨next,stays,still⟩ := before.decided id row found decided
    exact after.decided id next stays still

theorem itemsOf {before after : Database} (retains : Retains before after) (id : ID) :
    after.itemsOf id = before.itemsOf id := by
  rw [Database.itemsOf,retains.items,Database.itemsOf]

theorem moved {db after : Database} {row next : BookingRow} (change : db.Moved row next after)
    (decided : next.status ≠ .pending) : Retains db after := by
  have found := change.found
  obtain ⟨old,_,user,event,_,rfl⟩ := change
  refine ⟨rfl,fun id => ?_,fun id stored isStored still => ?_⟩
  · rw [found]
    split
    · rename_i same
      rw [← same,old]
      exact congrArg some (Prod.ext user event)
    · rfl
  · rw [found]
    split
    · exact ⟨next,rfl,decided⟩
    · exact ⟨stored,isStored,still⟩

end Retains

theorem execute_retains {statement : Statement} (settling : statement.settling = true) (fault : Fault) (world : World) :
    Retains world.db (execute statement fault world).2.db := by
  have effect := execute_effect statement fault world
  generalize (execute statement fault world).2.db = after at effect ⊢
  cases effect with
  | same => exact .refl _
  | addEvent | setEvent | addTicketType | create | delete => cases settling
  | reseat seats change =>
    cases statement <;> first | exact seats.elim | cases settling
  | confirm pending change now => exact .moved change (now ▸ of_decide_eq_true settling)
  | retire key before change now released =>
    have moved := Retains.moved change (now ▸ of_decide_eq_true settling)
    obtain ⟨_,bookings,items⟩ := Database.releaseAll_frame released
    exact ⟨items.trans moved.items,bookings ▸ moved.owners,bookings ▸ moved.decided⟩

/-- The ticket is one of the booking: it has the booking's user and event and the item's
ticket type. -/
def Carries (db : Database) (itemID bookingID userID eventID ticketTypeID : ID) : Prop :=
  (db.bookings.find? bookingID).map BookingRow.owner = some (userID,eventID) ∧
    ∃ item, db.items.find? itemID = some item ∧ item.bookingID = bookingID ∧ item.ticketTypeID = ticketTypeID

theorem Carries.congr {before after : Database} (retains : Retains before after)
    {itemID bookingID userID eventID ticketTypeID : ID} :
    Carries after itemID bookingID userID eventID ticketTypeID ↔
      Carries before itemID bookingID userID eventID ticketTypeID := by
  rw [Carries,retains.owners,retains.items,Carries]

structure OneTicket (origin : Database) (state : View) (owed : Duties) : Prop where
  retains : Retains origin state.world.db
  moved : ∀ id, everConfirmed state.history id = true →
    ∃ row, state.world.db.bookings.find? id = some row ∧ row.status ≠ .pending
  tickets : ∀ itemID, (received state.history).countP (Message.ticketOf itemID) + owed.count (.ticket itemID) ≤
    ticketsDue state itemID

section Statements
variable {reservationTTL index : Nat} {origin : Database} {state : View} {statement : Statement} {fault : Fault}
variable {owed own : Duties}

theorem OneTicket.weaken (one : OneTicket origin state (own + owed)) : OneTicket origin state owed := by
  refine ⟨one.retains,one.moved,fun itemID => le_trans ?_ (one.tickets itemID)⟩
  rw [Multiset.count_add]
  omega

theorem OneTicket.step {later : View} {kept : Duties} (one : OneTicket origin state owed)
    (retains : Retains state.world.db later.world.db)
    (history : ∀ id, everConfirmed later.history id = everConfirmed state.history id)
    (tickets : ∀ itemID, (received later.history).countP (Message.ticketOf itemID) + kept.count (.ticket itemID) ≤
      (received state.history).countP (Message.ticketOf itemID) + owed.count (.ticket itemID)) :
    OneTicket origin later kept := by
  refine ⟨one.retains.trans retains,fun id ever => ?_,fun itemID => le_trans (tickets itemID) ?_⟩
  · obtain ⟨row,found,decided⟩ := one.moved id (history id ▸ ever)
    exact retains.decided id row found decided
  · have due : ticketsDue later itemID = ticketsDue state itemID := by
      unfold ticketsDue
      rw [retains.items]
      simp only [history]
    rw [due]
    exact one.tickets itemID

theorem OneTicket.settling (one : OneTicket origin state owed) (settling : statement.settling = true)
    (noConfirm : ∀ id status, statement ≠ .updateStatusIfPending id status)
    (noInsert : ∀ message, statement ≠ .outbox (.insert message)) :
    OneTicket origin (state.after (service reservationTTL) index statement fault) owed := by
  refine one.step (execute_retains settling fault state.world) (fun id => ?_) fun itemID => ?_
  · exact everConfirmed_kept _ _ (isConfirmation_other id noConfirm)
  · rw [State.after,received_kept noInsert]

theorem OneTicket.confirm {id : ID} (one : OneTicket origin state owed) :
    ((execute (.updateStatusIfPending id .confirmed) fault state.world).1 = .ok 1 ∧
      OneTicket origin (state.after (service reservationTTL) index (.updateStatusIfPending id .confirmed) fault)
        (ticketsOf state.world.db id + owed)) ∨
    ((execute (.updateStatusIfPending id .confirmed) fault state.world).1 ≠ .ok 1 ∧
      OneTicket origin (state.after (service reservationTTL) index (.updateStatusIfPending id .confirmed) fault)
        owed) := by
  have retains : Retains state.world.db (execute (.updateStatusIfPending id .confirmed) fault state.world).2.db :=
    execute_retains rfl fault state.world
  have noInsert (message : Message) : Statement.updateStatusIfPending id .confirmed ≠ .outbox (.insert message) := nofun
  by_cases reply : (execute (.updateStatusIfPending id .confirmed) fault state.world).1 = .ok 1
  · obtain ⟨db,written,world⟩ := write_ok reply
    have world : (execute (.updateStatusIfPending id .confirmed) fault state.world).2 = {state.world with db := db} := world
    rcases Database.updateStatusIfPending_ok written with ⟨none,_⟩ | ⟨_,row,next,rfl,pending,change,now⟩
    · cases none
    have history (other : ID) : everConfirmed (state.after (service reservationTTL) index
        (.updateStatusIfPending row.id .confirmed) fault).history other =
          (row.id = other || everConfirmed state.history other) := by
      rw [State.after,everConfirmed_confirm]
      simp [show ((service reservationTTL).execute (.updateStatusIfPending row.id .confirmed) fault state.world).1 = .ok 1
        from reply]
    -- the row was pending, and no confirmed booking goes back to pending
    have before : everConfirmed state.history row.id = false := by
      by_contra already
      obtain ⟨stored,found,decided⟩ := one.moved row.id (Bool.not_eq_false _ ▸ already)
      cases found.symm.trans change.1
      exact decided pending
    refine .inl ⟨reply,one.retains.trans retains,fun other ever => ?_,fun itemID => ?_⟩
    · by_cases same : row.id = other
      · rw [State.after,show ((service reservationTTL).execute _ fault state.world).2 = _ from world,change.found,if_pos same]
        exact ⟨next,rfl,by simp [now]⟩
      · rw [history] at ever
        obtain ⟨stored,found,decided⟩ := one.moved other (by simpa [same] using ever)
        exact retains.decided other stored found decided
    · rw [ticketsDue_confirm retains.items history before itemID,Multiset.count_add,State.after,received_kept noInsert]
      have bound := one.tickets itemID
      omega
  · refine .inr ⟨reply,one.step retains (fun other => ?_) fun itemID => ?_⟩
    · rw [State.after,everConfirmed_confirm]
      simp [show ((service reservationTTL).execute (.updateStatusIfPending id .confirmed) fault state.world).1 ≠ .ok 1
        from reply]
    · rw [State.after,received_kept noInsert]

theorem OneTicket.insert {itemID bookingID userID eventID ticketTypeID : ID}
    (one : OneTicket origin state (.ticket itemID ::ₘ owed)) :
    OneTicket origin (state.after (service reservationTTL) index
      (.outbox (.insert (.ticketIssued itemID bookingID userID eventID ticketTypeID))) fault) owed := by
  refine one.step (.refl _) (fun _ => rfl) fun other => ?_
  have used : (if itemID = other then 1 else 0) + owed.count (.ticket other) =
      (Duty.ticket itemID ::ₘ owed).count (.ticket other) := by
    rw [Multiset.count_cons]
    by_cases same : itemID = other
    · simp [same,Nat.add_comm]
    · simp [same,Ne.symm same]
  cases fault with
  | none =>
    change (received state.history ++ [_]).countP _ + _ ≤ _
    rw [List.countP_append,List.countP_singleton,Nat.add_assoc,← used]
    simp [Message.ticketOf]
  | fail | broken _ =>
    change (received state.history).countP _ + _ ≤ _
    omega

end Statements

def Entitled (index : Nat) (call : Call) (state : View) (itemID bookingID userID eventID ticketTypeID : ID) : Prop :=
  (∃ paymentID, call = .confirm bookingID paymentID) ∧
    ⟨index,.updateStatusIfPending bookingID .confirmed,.ok 1⟩ ∈ state.history ∧
    Carries state.world.db itemID bookingID userID eventID ticketTypeID

/-- A call owns the tickets that it may still issue. -/
def ticketing (origin : Database) : Protocol Statement Reply World Fault Call Duties where
  evolves before after := Retains before.world.db after.world.db ∧ before.history <:+ after.history
  evolves_refl _ := ⟨.refl _,List.suffix_rfl⟩
  evolves_trans _ _ _ before after := ⟨before.1.trans after.1,before.2.trans after.2⟩
  invariant := OneTicket origin
  permits _ _ _ _ _ _ := True
  fits index call state _
    | .outbox (.insert (.ticketIssued itemID bookingID userID eventID ticketTypeID)) =>
      Entitled index call state itemID bookingID userID eventID ticketTypeID
    | _ => True

theorem Entitled.later {index : Nat} {call : Call} {state later : View}
    {itemID bookingID userID eventID ticketTypeID : ID} {origin : Database}
    (entitled : Entitled index call state itemID bookingID userID eventID ticketTypeID)
    (evolves : (ticketing origin).evolves state later) :
    Entitled index call later itemID bookingID userID eventID ticketTypeID :=
  ⟨entitled.1,evolves.2.subset entitled.2.1,(Carries.congr evolves.1).mpr entitled.2.2⟩

def Sees (db : Database) (bookingID : ID) (booking : Booking) : Prop :=
  (db.bookings.find? bookingID).map BookingRow.owner = some (booking.userID,booking.eventID) ∧
    ∃ rows, rows <+: db.itemsOf bookingID ∧ booking.items = rows.map BookingRepo.scanItem

theorem Sees.later {before after : Database} {bookingID : ID} {booking : Booking} (sees : Sees before bookingID booking)
    (retains : Retains before after) : Sees after bookingID booking := by
  rw [Sees,retains.owners,retains.itemsOf]
  exact sees

theorem Sees.carries {db : Database} {bookingID : ID} {booking : Booking} (sees : Sees db bookingID booking)
    {item : BookingItem} (listed : item ∈ booking.items) :
    Carries db item.id bookingID booking.userID booking.eventID item.ticketTypeID := by
  obtain ⟨owner,rows,part,same⟩ := sees
  rw [same] at listed
  obtain ⟨row,inside,rfl⟩ := List.mem_map.mp listed
  obtain ⟨stored,own⟩ := List.mem_filter.mp (part.subset inside)
  exact ⟨owner,row,Table.find?_of_mem stored,of_decide_eq_true own,rfl⟩

theorem Sees.tickets {db : Database} {bookingID : ID} {booking : Booking} (sees : Sees db bookingID booking) :
    ∃ others, ticketsOf db bookingID = (booking.items.map fun item => Duty.ticket item.id : List Duty) + others := by
  obtain ⟨_,rows,⟨rest,whole⟩,same⟩ := sees
  refine ⟨(rest.map fun row => Duty.ticket row.id : List Duty),?_⟩
  rw [ticketsOf,← whole,List.map_append,same,List.map_map,Multiset.coe_add]
  rfl

section Programs
variable {reservationTTL index : Nat} {call : Call} {α β : Type} {origin : Database} {state : View}

abbrev Issuing (reservationTTL index : Nat) (call : Call) (origin : Database) (post : α → View → Duties → Prop)
    (program : Task α) (state : View) (own : Duties) : Prop :=
  Holds (service reservationTTL) (ticketing origin) index call post program state own

def Statement.plain (statement : Statement) : Prop :=
  statement.settling = true ∧ (∀ id status, statement ≠ .updateStatusIfPending id status) ∧
    ∀ message, statement ≠ .outbox (.insert message)

theorem Statement.plain.fits {statement : Statement} (plain : statement.plain) (own : Duties) :
    (ticketing origin).fits index call state own statement := by
  cases statement with
  | outbox statement =>
    cases statement with
    | insert message => exact absurd rfl (plain.2.2 message)
    | _ => trivial
  | _ => trivial

theorem evolves_after {statement : Statement} (settling : statement.settling = true) (fault : Fault) :
    (ticketing origin).evolves state (state.after (service reservationTTL) index statement fault) :=
  ⟨execute_retains settling fault state.world,List.suffix_cons ..⟩

theorem Issuing.of_issues {post : α → View → Duties → Prop} {program : Task α} (issues : program.Issues Statement.plain)
    (returns : ∀ value later, (ticketing origin).evolves state later → post value later 0) :
    Issuing reservationTTL index call origin post program state 0 := by
  refine Holds.of_issues_from issues (.any program) ?_ fun value later _ evolves => returns value later evolves
  intro statement plain later frame _ one
  exact ⟨plain.fits 0,fun fault _ => ⟨evolves_after plain.1 fault,one.settling plain.1 plain.2.1 plain.2.2⟩⟩

theorem Issuing.perform {post : α → View → Duties → Prop} {statement : Statement} {next : Reply statement → Task α}
    (plain : statement.plain)
    (continues : ∀ (later : View) (fault : Fault), (ticketing origin).evolves state later →
      Retains later.world.db (later.after (service reservationTTL) index statement fault).world.db →
      Issuing reservationTTL index call origin post (next (execute statement fault later.world).1)
        (later.after (service reservationTTL) index statement fault) 0) :
    Issuing reservationTTL index call origin post (.perform statement next) state 0 := by
  intro later before frame one
  refine ⟨plain.fits 0,fun fault _ => ?_⟩
  have evolves : (ticketing origin).evolves later (later.after (service reservationTTL) index statement fault) :=
    evolves_after plain.1 fault
  exact ⟨evolves,0,one.settling plain.1 plain.2.1 plain.2.2,continues later fault before evolves.1⟩

theorem findByID_issuing (id : ID) :
    Issuing reservationTTL index call origin
      (fun found later own => own = 0 ∧ ∀ booking, found = .ok booking → Sees later.world.db id booking)
      (BookingRepo.findByID id) state 0 := by
  refine Issuing.perform ⟨rfl,nofun,nofun⟩ fun later fault _ step => ?_
  cases reply : (execute (.findBooking id) fault later.world).1 with
  | error error => exact .done fun _ _ => ⟨rfl,nofun⟩
  | ok row =>
    have found : later.world.db.bookings.find? id = some row := Database.findBooking_ok.mp (query_ok reply)
    have key : row.id = id := Table.find?_key found
    refine Issuing.perform ⟨rfl,nofun,nofun⟩ fun second fault before next => ?_
    cases items : (execute (.listItems row.id) fault second.world).1 with
    | error error => exact .done fun _ _ => ⟨rfl,nofun⟩
    | ok rows =>
      refine .done fun last after => ⟨rfl,fun booking isBooking => ?_⟩
      cases isBooking
      have sees : Sees second.world.db id (BookingRepo.assemble row rows.items) := by
        refine ⟨?_,rows.items,key ▸ stream_part items,rfl⟩
        rw [before.1.owners,step.owners,found]
        rfl
      exact sees.later (next.trans after.1)

theorem loadPendingBooking_issuing (id : ID) :
    Issuing reservationTTL index call origin
      (fun loaded later own => own = 0 ∧ ∀ booking, loaded = .ok (some booking) → Sees later.world.db id booking)
      (BookingService.loadPendingBooking id) state 0 := by
  refine .bind (Holds.consequence (findByID_issuing id) ?_)
  rintro found later _ ⟨rfl,sees⟩
  cases found with
  | error error => exact Holds.done fun _ _ => ⟨rfl,nofun⟩
  | ok booking =>
    simp only
    split
    · exact Holds.done fun _ _ => ⟨rfl,nofun⟩
    · refine Holds.done fun last after => ⟨rfl,fun other isOther => ?_⟩
      cases isOther
      exact (sees booking rfl).later after.1

abbrev Whatever (_ : α) (_ : View) (_ : Duties) : Prop := True

theorem issueTickets_issuing {bookingID : ID} {booking : Booking} {items : List BookingItem} {others : Duties}
    (entitled : ∀ item ∈ items,
      Entitled index call state item.id bookingID booking.userID booking.eventID item.ticketTypeID) :
    Issuing reservationTTL index call origin Whatever (BookingService.issueTickets bookingID booking items) state
      ((items.map fun item => Duty.ticket item.id : List Duty) + others) := by
  induction items generalizing state with
  | nil => exact .done fun _ _ => trivial
  | cons item rest ih =>
    intro later before frame one
    refine ⟨(entitled item List.mem_cons_self).later before,fun fault _ => ?_⟩
    rw [List.map_cons,← Multiset.cons_coe,Multiset.cons_add,Multiset.cons_add] at one
    have evolves : (ticketing origin).evolves later (later.after (service reservationTTL) index (.outbox (.insert
        (.ticketIssued item.id bookingID booking.userID booking.eventID item.ticketTypeID))) fault) :=
      evolves_after rfl fault
    refine ⟨evolves,_,one.insert,ih fun other inside => ?_⟩
    exact ((entitled other (List.mem_cons_of_mem _ inside)).later before).later evolves

theorem Issuing.confirm {id : ID} {next : Except DbError Nat → Task α} {post : α → View → Duties → Prop}
    (otherwise : ∀ reply later, reply ≠ .ok 1 → Issuing reservationTTL index call origin post (next reply) later 0)
    (applied : ∀ later : View, (ticketing origin).evolves state later →
      ⟨index,.updateStatusIfPending id .confirmed,.ok 1⟩ ∈ later.history →
      Issuing reservationTTL index call origin post (next (.ok 1)) later (ticketsOf later.world.db id)) :
    Issuing reservationTTL index call origin post (.perform (.updateStatusIfPending id .confirmed) next) state 0 := by
  intro later before frame one
  rw [zero_add] at one
  have evolves {fault : Fault} : (ticketing origin).evolves later
      (later.after (service reservationTTL) index (.updateStatusIfPending id .confirmed) fault) := evolves_after rfl fault
  refine ⟨trivial,fun fault _ => ⟨evolves,?_⟩⟩
  rcases one.confirm with ⟨reply,owning⟩ | ⟨reply,still⟩
  · have reply : ((service reservationTTL).execute (.updateStatusIfPending id .confirmed) fault later.world).1 = .ok 1 :=
      reply
    refine ⟨_,owning,?_⟩
    rw [reply]
    have same : ticketsOf (later.after (service reservationTTL) index (.updateStatusIfPending id .confirmed) fault).world.db
        id = ticketsOf later.world.db id := by
      rw [ticketsOf,evolves.1.itemsOf,ticketsOf]
    rw [← same]
    refine applied _ ((ticketing origin).evolves_trans _ _ _ before evolves) ?_
    rw [State.after,reply]
    exact List.mem_cons_self
  · refine ⟨0,?_,otherwise _ _ reply⟩
    rw [zero_add]
    exact still

theorem confirm_issuing (bookingID paymentID : ID) :
    Issuing reservationTTL index (.confirm bookingID paymentID) origin Whatever
      (BookingService.confirm bookingID paymentID) state 0 := by
  refine .bind (Holds.consequence (loadPendingBooking_issuing bookingID) ?_)
  rintro loaded later _ ⟨rfl,sees⟩
  rcases loaded with error | _ | booking
  · exact Holds.done fun _ _ => trivial
  · exact Holds.done fun _ _ => trivial
  have copy := sees booking rfl
  refine Holds.bind (Issuing.of_issues (isPublished_issues ⟨rfl,nofun,nofun⟩) fun published second evolves => ?_)
  rcases published with error | _ | _
  · exact .done fun _ _ => trivial
  · refine Issuing.perform ⟨rfl,nofun,nofun⟩ fun third fault _ _ => ?_
    rcases (execute (.transitionAndReleaseSeats booking .cancelled) fault third.world).1 with error | applied
    · exact .done fun _ _ => trivial
    · exact .done fun _ _ => trivial
  · refine Issuing.confirm (fun reply third unapplied => ?_) fun third before confirmed => ?_
    · rcases reply with error | count
      · exact .done fun _ _ => trivial
      · have other : decide (count = 1) = false := decide_eq_false fun same => unapplied (by rw [same])
        simp only [Except.map,Program.done_bind,other]
        exact .done fun _ _ => trivial
    · have seen := copy.later (evolves.1.trans before.1)
      obtain ⟨others,tickets⟩ := seen.tickets
      rw [tickets]
      have issues : Issuing reservationTTL index (.confirm bookingID paymentID) origin Whatever
          ((BookingService.issueTickets bookingID booking booking.items).bind fun _ => .done (.ok () : Except Error Unit))
          third ((booking.items.map fun item => Duty.ticket item.id : List Duty) + others) := by
        refine .bind (Holds.consequence (issueTickets_issuing fun item listed => ?_) fun _ _ _ _ => ?_)
        · exact ⟨⟨paymentID,rfl⟩,confirmed,seen.carries listed⟩
        · exact Holds.done fun _ _ => trivial
      exact issues

theorem plain_of_footprint {statement : Statement} {about : ID} (inside : Footprint call statement)
    (releases : call = .expireOnPaymentExpired about ∨ call = .cancelBookings about) : statement.plain := by
  rcases releases with rfl | rfl <;> cases statement with
  | findBooking | listItems | listBookings => exact ⟨rfl,nofun,nofun⟩
  | transitionAndReleaseSeats booking status => cases status <;> first | exact ⟨rfl,nofun,nofun⟩ | exact inside.elim
  | _ => exact inside.elim

theorem program_issuing {call : Call} (settles : call.settles = true) :
    Issuing reservationTTL index call origin Whatever (program reservationTTL call) state 0 := by
  cases call with
  | confirm bookingID paymentID =>
    refine .bind (Holds.consequence (confirm_issuing bookingID paymentID) fun _ _ _ _ => ?_)
    exact Holds.done fun _ _ => trivial
  | expireOnPaymentExpired | cancelBookings =>
    refine Issuing.of_issues ((program_issues reservationTTL _).mono fun statement inside => ?_) fun _ _ _ => trivial
    first | exact plain_of_footprint inside (.inl rfl) | exact plain_of_footprint inside (.inr rfl)
  | _ => cases settles

end Programs

section Runs
variable {reservationTTL : Nat} {world : World} {config : Pool}

theorem OneTicket.initial (world : World) : OneTicket world.db ⟨world,[]⟩ 0 where
  retains := .refl _
  moved _ ever := nomatch ever
  tickets _ := Nat.zero_le _

theorem ticketing_obeyed : Obeys (service reservationTTL) (ticketing world.db) (fun _ _ => Whatever)
    (Admitting Call.settles Anything) (.idle world) where
  starts _ _ _ permitted := program_issuing permitted.1
  steps _ _ _ _ _ _ _ _ _ _ _ _ _ := trivial
  stops _ _ _ _ _ _ _ _ _ one := one.weaken

theorem ticketing_holds (run : Run (service reservationTTL) (Admitting Call.settles Anything) (.idle world) config) :
    PoolHolds (service reservationTTL) (ticketing world.db) (fun _ _ => Whatever) config :=
  PoolHolds.run (PoolHolds.idle _ (OneTicket.initial world)) ticketing_obeyed run

theorem messages_received {guard : Pool → Step → Prop} (run : Run (service reservationTTL) guard (.idle world) config) :
    config.state.world.outbox.messages = world.outbox.messages ++ received config.state.history := by
  refine run.state_invariant (fun state => state.world.outbox.messages =
    world.outbox.messages ++ received state.history) (List.append_nil _).symm ?_
  intro config index fault call statement next _ before _ _
  by_cases inserts : ∃ message, statement = .outbox (.insert message)
  · obtain ⟨message,rfl⟩ := inserts
    cases fault with
    | none =>
      change (config.state.world.outbox.insert message).messages = _ ++ (received config.state.history ++ [message])
      rw [Outbox.Store.messages_insert,before,List.append_assoc]
    | fail | broken _ => exact before
  · have other (message : Message) : statement ≠ .outbox (.insert message) := fun same => inserts ⟨message,same⟩
    rw [State.after,received_kept other]
    exact (execute_messages config.state.world other).trans before

def Database.bookingStatus (db : Database) (id : ID) : Option BookingStatus :=
  (db.bookings.find? id).map BookingRow.status

/-- Before the rest of the record, a statement of the call has moved the booking from pending
to confirmed. -/
def ConfirmedBy (reservationTTL : Nat) (world : World) (index : Nat) (bookingID : ID)
    (earlier : List (Concurrency.Event Statement Reply)) : Prop :=
  ∃ (before after : Pool) (fault : Fault),
    Run (service reservationTTL) (Admitting Call.settles Anything) (.idle world) before ∧
    before.headAt index = some (.updateStatusIfPending bookingID .confirmed) ∧
    before.next (service reservationTTL) (.step index fault) = some after ∧ after.state.history <:+ earlier ∧
    before.state.world.db.bookingStatus bookingID = some .pending ∧
    after.state.world.db.bookingStatus bookingID = some .confirmed

theorem update_applied {id : ID} {fault : Fault} {after : World}
    (executed : execute (.updateStatusIfPending id .confirmed) fault world = (.ok 1,after)) :
    world.db.bookingStatus id = some .pending ∧ after.db.bookingStatus id = some .confirmed := by
  obtain ⟨db,written,stored⟩ := write_ok (congrArg Prod.fst executed)
  have stored : (execute (.updateStatusIfPending id .confirmed) fault world).2 = {world with db := db} := stored
  rw [executed] at stored
  rcases Database.updateStatusIfPending_ok written with ⟨none,_⟩ | ⟨_,row,next,rfl,pending,change,now⟩
  · cases none
  · rw [show after = {world with db := db} from stored,Database.bookingStatus,Database.bookingStatus,change.1,change.found,
      if_pos rfl]
    exact ⟨congrArg some pending,congrArg some now⟩

theorem confirmedBy_of_recorded {index : Nat} {bookingID : ID}
    (run : Run (service reservationTTL) (Admitting Call.settles Anything) (.idle world) config)
    (recorded : ⟨index,.updateStatusIfPending bookingID .confirmed,.ok 1⟩ ∈ config.state.history) :
    ConfirmedBy reservationTTL world index bookingID config.state.history := by
  obtain ⟨later,earlier,split⟩ := List.append_of_mem recorded
  obtain ⟨before,_,found,taken,executed,added,_⟩ := run.taken_at split
  refine ⟨_,_,_,before,?_,taken,?_,update_applied executed⟩
  · rw [Config.headAt,found]
    rfl
  · rw [added,split]
    exact List.suffix_append _ _

theorem one_ticket_per_item
    (run : Run (service reservationTTL) (Admitting Call.settles Anything) (.idle world) config) :
    config.state.world.outbox.messages = world.outbox.messages ++ received config.state.history ∧
    (∀ itemID, (received config.state.history).countP (Message.ticketOf itemID) ≤ 1) ∧
    ∀ later earlier index itemID bookingID userID eventID ticketTypeID, config.state.history = later ++
        ⟨index,.outbox (.insert (.ticketIssued itemID bookingID userID eventID ticketTypeID)),.ok ()⟩ :: earlier →
      (∃ paymentID, config.threads[index]?.map Thread.call = some (.confirm bookingID paymentID)) ∧
      ConfirmedBy reservationTTL world index bookingID earlier ∧
      Carries world.db itemID bookingID userID eventID ticketTypeID := by
  refine ⟨messages_received run,fun itemID => ?_,fun later earlier index itemID bookingID userID eventID ticketTypeID
    recorded => ?_⟩
  · obtain ⟨owed,one⟩ := (ticketing_holds run).invariant_holds
    have due : ticketsDue config.state itemID ≤ 1 := by
      unfold ticketsDue
      split
      · split <;> omega
      · omega
    have bound := one.tickets itemID
    omega
  · obtain ⟨before,history,found,_,_,_,remaining⟩ := run.taken_at recorded
    obtain ⟨own,frame,fits,one⟩ := (ticketing_holds before).thread_fits index _ found
    obtain ⟨⟨paymentID,rfl⟩,confirmed,carries⟩ : Entitled .. := fits
    refine ⟨⟨paymentID,remaining.call_stable index _ ?_⟩,history ▸ confirmedBy_of_recorded before confirmed,?_⟩
    · rw [found]
      rfl
    · exact (Carries.congr one.retains).mp carries

/-- Two workers have both read a pending booking before either writes. The second update
finds it confirmed, and there is one ticket. -/
theorem one_ticket_per_item_duplicated : ∃ config : Pool,
    Run (service 900) (Admitting Call.settles Anything) (.idle booked) config ∧
    config.returned 0 = some (.confirm 3 9,.unit (.ok ())) ∧ config.returned 1 = some (.confirm 3 9,.unit (.ok ())) ∧
    received config.state.history = [.ticketIssued 4 3 8 0 1] ∧
    (received config.state.history).countP (Message.ticketOf 4) ≤ 1 := by
  obtain ⟨config,run,outcome⟩ := exists_run_of_replay (service 900) (Admitting Call.settles Anything)
    ([.start (.confirm 3 9),.start (.confirm 3 9)] ++ undisturbed 0 3 ++ undisturbed 1 3 ++ undisturbed 0 1 ++
      undisturbed 1 1 ++ undisturbed 0 1) (.idle booked)
    (fun config => decide (config.returned 0 = some (.confirm 3 9,.unit (.ok ()))) &&
      decide (config.returned 1 = some (.confirm 3 9,.unit (.ok ()))) &&
      decide (received config.state.history = [.ticketIssued 4 3 8 0 1])) (by decide +kernel)
  simp only [Bool.and_eq_true,decide_eq_true_eq] at outcome
  exact ⟨config,run,outcome.1.1,outcome.1.2,outcome.2,(one_ticket_per_item run).2.1 4⟩

end Runs

end Ticketbus.Ticketing
