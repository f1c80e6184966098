import Ticketbus.Ticketing.Service

/-! Which statements each call can issue, whatever it is answered. A proof about
one kind of statement then only has to look at the calls that issue it. -/
namespace Ticketbus.Ticketing
open Ticketbus.Concurrency Ticketbus.Relational Program

structure Details where
  title : String
  description : String
  startAt : Time
  endAt : Time
  deriving DecidableEq

def Event.details (event : Event) : Details := ⟨event.title,event.description,event.startAt,event.endAt⟩

def CreateEventRequest.details (request : CreateEventRequest) : Details :=
  ⟨request.title,request.description,request.startAt,request.endAt⟩

structure Composed (organizerID : ID) (request : CreateEventRequest) (event : Event) : Prop where
  organizer : event.organizerID = organizerID
  details : event.details = request.details
  venue : event.venueName = request.venueName ∧ event.venueAddress = request.venueAddress ∧
    event.venueCapacity = request.venueCapacity
  pending : event.status = .pending

structure BookedFor (userID : ID) (request : ReserveRequest) (booking : Booking) : Prop where
  user : booking.userID = userID
  event : booking.eventID = request.eventID
  items : ∀ item ∈ booking.items, item.ticketTypeID ∈ request.items.map ReserveItemRequest.ticketTypeID

def Footprint : Call → Statement → Prop
  | .createEvent organizerID request,.createEvent event => Composed organizerID request event
  | .createEvent _ _,.newString | .createEvent _ _,.createTicketType _ => True
  | .updateEvent ..,.updateEvent event => event.status = .draft ∨ event.status = .pending
  | .updateEvent ..,.now | .updateEvent ..,.findEventByID _ => True
  | .approveEvent _ _,.updateEvent event => event.status = .published
  | .approveEvent _ _,.now | .approveEvent _ _,.findEventByID _ | .approveEvent _ _,.listTicketTypesByEvent _
  | .approveEvent _ _,.init _ _ | .approveEvent _ _,.setPrice _ _ => True
  | .rejectEvent _ _,.updateEvent event => event.status = .rejected
  | .rejectEvent _ _,.now | .rejectEvent _ _,.findEventByID _ => True
  | .cancelEvent _ _,.updateEvent event => event.status = .cancelled
  | .cancelEvent _ _,.now | .cancelEvent _ _,.findEventByID _
  | .cancelEvent _ _,.outbox (.insert (.eventCancelled _ _)) => True
  | .reprocessCancellation .. ,.now | .reprocessCancellation ..,.findEventByID _
  | .reprocessCancellation ..,.outbox (.insert (.eventCancelled _ _)) => True
  | .reserve _ _ request,.reserve id _ | .reserve _ _ request,.release id _ =>
    id ∈ request.items.map ReserveItemRequest.ticketTypeID
  | .reserve userID _ request,.create booking => BookedFor userID request booking
  | .reserve ..,.now | .reserve ..,.newString | .reserve ..,.getPrice _ | .reserve ..,.delete _
  | .reserve ..,.initiateTxnForBooking _ => True
  | .confirm _ _,.findBooking _ | .confirm _ _,.listItems _ | .confirm _ _,.eventStatus _
  | .confirm _ _,.updateStatusIfPending _ .confirmed | .confirm _ _,.transitionAndReleaseSeats _ .cancelled
  | .confirm _ _,.outbox (.insert (.ticketIssued ..)) => True
  | .expireOnPaymentExpired _,.findBooking _ | .expireOnPaymentExpired _,.listItems _
  | .expireOnPaymentExpired _,.transitionAndReleaseSeats _ .expired => True
  | .cancelBookings _,.listBookings _ | .cancelBookings _,.listItems _
  | .cancelBookings _,.transitionAndReleaseSeats _ .cancelled => True
  | .getBooking _,.findBooking _ | .getBooking _,.listItems _ => True
  | .listMyBookings _,.listBookingsByUser _ | .listMyBookings _,.listItems _ => True
  | .listByEventID _,.listBookings _ | .listByEventID _,.listItems _ => True
  | .processBatch,.outbox .undelivered | .processBatch,.outbox (.produce _)
  | .processBatch,.outbox (.markDelivered _) => True
  | .wait _,.advance _ => True
  | _,_ => False

/-! Who issues a statement. -/

def Call.ofSale : Call → Bool
  | .approveEvent .. | .reserve .. | .confirm .. | .expireOnPaymentExpired _ | .cancelBookings _ => true
  | _ => false

def Statement.ofSale : Statement → Bool
  | .init .. | .setPrice .. | .reserve .. | .release .. | .create _ | .eventStatus _ | .updateStatusIfPending ..
  | .transitionAndReleaseSeats .. => true
  | _ => false

def Statement.reserves : Statement → Bool
  | .reserve .. | .release .. | .create _ | .initiateTxnForBooking _ => true
  | _ => false

namespace Footprint
variable {call : Call} {statement : Statement}

theorem ofSale (inside : Footprint call statement) (sale : statement.ofSale = true) : call.ofSale = true := by
  cases statement with
  | init | setPrice | reserve | release | create | eventStatus | updateStatusIfPending | transitionAndReleaseSeats =>
    cases call <;> first | rfl | exact inside.elim
  | _ => cases sale

theorem reserves (inside : Footprint call statement) (reserves : statement.reserves = true) :
    ∃ userID userEmail request, call = .reserve userID userEmail request := by
  cases statement with
  | reserve | release | create | initiateTxnForBooking =>
    cases call with
    | reserve userID userEmail request => exact ⟨userID,userEmail,request,rfl⟩
    | _ => exact inside.elim
  | _ => cases reserves

theorem approves {id : ID} {total : Int} (inside : Footprint call (.init id total)) :
    ∃ eventID adminUserID, call = .approveEvent eventID adminUserID := by
  cases call with
  | approveEvent eventID adminUserID => exact ⟨eventID,adminUserID,rfl⟩
  | _ => exact inside.elim

end Footprint

section Parts
variable {permitted : Statement → Prop}

/-! One repository call issues one statement, or the read of a booking and its items. -/

theorem getPrice_issues {id : ID} (allowed : permitted (.getPrice id)) :
    (SeatCounter.getPrice id).Issues permitted := by
  refine ⟨allowed,fun reply => ?_⟩
  rcases reply with error | price
  · cases error <;> trivial
  · trivial

theorem reserve_issues {id : ID} {qty : Int} (allowed : permitted (.reserve id qty)) :
    (SeatCounter.reserve id qty).Issues permitted := by
  refine ⟨allowed,fun reply => ?_⟩
  rcases reply with error | count
  · trivial
  · cases count <;> trivial

theorem isPublished_issues {id : ID} (allowed : permitted (.eventStatus id)) :
    (EventStatusRepo.isPublished id).Issues permitted := by
  refine ⟨allowed,fun reply => ?_⟩
  rcases reply with error | status
  · cases error <;> trivial
  · trivial

theorem initiateTxnForBooking_issues {request : InitiateRequest}
    (allowed : permitted (.initiateTxnForBooking request)) :
    (PaymentClient.initiateTxnForBooking request).Issues permitted := by
  refine ⟨allowed,fun reply => ?_⟩
  cases reply <;> trivial

theorem updateEvent_issues {event : Event} (now : permitted .now)
    (allowed : ∀ now, permitted (.updateEvent {event with updatedAt := now})) :
    (EventRepo.updateEvent event).Issues permitted := ⟨now,fun _ => ⟨allowed _,fun _ => trivial⟩⟩

theorem listTicketTypesByEvent_issues {id : ID} (allowed : permitted (.listTicketTypesByEvent id)) :
    (EventRepo.listTicketTypesByEvent id).Issues permitted := by
  refine ⟨allowed,fun reply => ?_⟩
  cases reply <;> trivial

theorem scanItems_issues {row : BookingRow} (allowed : ∀ id, permitted (.listItems id)) :
    (BookingRepo.scanItems row).Issues permitted := by
  refine ⟨allowed _,fun reply => ?_⟩
  cases reply <;> trivial

theorem findByID_issues {id : ID} (find : ∀ id, permitted (.findBooking id))
    (items : ∀ id, permitted (.listItems id)) : (BookingRepo.findByID id).Issues permitted := by
  refine ⟨find id,fun reply => ?_⟩
  cases reply with
  | error error => trivial
  | ok row => exact scanItems_issues items

theorem loadAll_issues (items : ∀ id, permitted (.listItems id)) (rows : List BookingRow) :
    (BookingRepo.loadAll rows).Issues permitted := by
  induction rows with
  | nil => trivial
  | cons row rest ih =>
    refine (scanItems_issues items).bind fun loaded => ?_
    cases loaded with
    | error error => trivial
    | ok booking =>
      refine ih.bind fun others => ?_
      cases others <;> trivial

theorem scanBookings_issues (items : ∀ id, permitted (.listItems id)) (reply : Except DbError (Rows BookingRow)) :
    (BookingRepo.scanBookings reply).Issues permitted := by
  rcases reply with error | ⟨rows,_ | error⟩
  · trivial
  · exact loadAll_issues items rows
  · trivial

theorem listByEventID_issues {id : ID} (list : permitted (.listBookings id))
    (items : ∀ id, permitted (.listItems id)) : (BookingRepo.listByEventID id).Issues permitted :=
  ⟨list,scanBookings_issues items⟩

/-! The loops of the services. -/

theorem rollbackSeats_issues (items : List BookingItem)
    (release : ∀ item ∈ items, permitted (.release item.ticketTypeID item.quantity)) :
    (BookingService.rollbackSeats items).Issues permitted := by
  induction items with
  | nil => trivial
  | cons item rest ih =>
    exact ⟨release item List.mem_cons_self,fun _ =>
      ih fun other member => release other (List.mem_cons_of_mem _ member)⟩

def beforeFailed (failed : ID) (items : List BookingItem) : List BookingItem :=
  items.takeWhile fun item => item.ticketTypeID ≠ failed

theorem rollbackBefore_issues (failed : ID) (items : List BookingItem)
    (release : ∀ item ∈ beforeFailed failed items, permitted (.release item.ticketTypeID item.quantity)) :
    (BookingService.rollbackBefore failed items).Issues permitted := by
  induction items with
  | nil => trivial
  | cons item rest ih =>
    unfold BookingService.rollbackBefore
    split
    · trivial
    · rename_i other
      have kept : beforeFailed failed (item :: rest) = item :: beforeFailed failed rest := by
        simp [beforeFailed,other]
      rw [kept] at release
      exact ⟨release item List.mem_cons_self,fun _ =>
        ih fun other member => release other (List.mem_cons_of_mem _ member)⟩

theorem reserveItems_issues (items rest : List BookingItem)
    (release : ∀ item ∈ items, permitted (.release item.ticketTypeID item.quantity))
    (price : ∀ id, permitted (.getPrice id))
    (reserve : ∀ item ∈ rest, permitted (.reserve item.ticketTypeID item.quantity)) :
    (BookingService.reserveItems items rest).Issues permitted := by
  induction rest with
  | nil => trivial
  | cons item rest ih =>
    refine (getPrice_issues (price _)).bind fun priced => ?_
    cases priced with
    | error error => trivial
    | ok realPrice =>
      simp only
      split
      · trivial
      · refine (reserve_issues (reserve item List.mem_cons_self)).bind fun reserved => ?_
        cases reserved with
        | error error =>
          refine (rollbackBefore_issues item.ticketTypeID items fun other member => ?_).bind fun _ => trivial
          exact release other ((List.takeWhile_sublist _).subset member)
        | ok value => exact ih fun other member => reserve other (List.mem_cons_of_mem _ member)

theorem nameItems_issues (newString : permitted .newString) (bookingID : ID)
    (items : List BookingItem) : (BookingService.nameItems bookingID items).Issues permitted := by
  induction items with
  | nil => trivial
  | cons item rest ih => exact ⟨newString,fun _ => ih.bind fun _ => trivial⟩

def Named (bookingID : ID) (items named : List BookingItem) : Prop :=
  List.Forall₂ (fun item own => own.bookingID = bookingID ∧ own.ticketTypeID = item.ticketTypeID ∧
    own.quantity = item.quantity) items named

theorem nameItems_returns (bookingID : ID) (items : List BookingItem) :
    (BookingService.nameItems bookingID items).Returns (Named bookingID items) := by
  induction items with
  | nil => exact .nil
  | cons item rest ih => exact fun id => ih.bind fun named all => .cons ⟨rfl,rfl,rfl⟩ all

theorem issueTickets_issues (bookingID : ID) (booking : Booking) (items : List BookingItem)
    (insert : ∀ item ∈ items, permitted (.outbox (.insert
      (.ticketIssued item.id bookingID booking.userID booking.eventID item.ticketTypeID)))) :
    (BookingService.issueTickets bookingID booking items).Issues permitted := by
  induction items with
  | nil => trivial
  | cons item rest ih =>
    exact ⟨insert item List.mem_cons_self,fun _ =>
      ih fun other member => insert other (List.mem_cons_of_mem _ member)⟩

theorem cancelAll_issues (transition : ∀ booking, permitted (.transitionAndReleaseSeats booking .cancelled))
    (bookings : List Booking) : (BookingService.cancelAll bookings).Issues permitted := by
  induction bookings with
  | nil => trivial
  | cons booking rest ih =>
    unfold BookingService.cancelAll
    split
    · exact ih
    · refine ⟨transition _,fun reply => ?_⟩
      cases reply with
      | error error => trivial
      | ok applied => exact ih

theorem nameTypes_issues (newString : permitted .newString) (eventID : ID)
    (ticketTypes : List TicketType) : (EventService.nameTypes eventID ticketTypes).Issues permitted := by
  induction ticketTypes with
  | nil => trivial
  | cons ticketType rest ih => exact ⟨newString,fun _ => ih.bind fun _ => trivial⟩

theorem createTicketTypes_issues (create : ∀ ticketType, permitted (.createTicketType ticketType))
    (ticketTypes : List TicketType) : (EventRepo.createTicketTypes ticketTypes).Issues permitted := by
  induction ticketTypes with
  | nil => trivial
  | cons ticketType rest ih =>
    refine ⟨create _,fun reply => ?_⟩
    cases reply with
    | error error => trivial
    | ok value => exact ih

theorem initAll_issues (ticketTypes : List TicketType)
    (init : ∀ ticketType ∈ ticketTypes, permitted (.init ticketType.id ticketType.quantity))
    (price : ∀ ticketType ∈ ticketTypes, permitted (.setPrice ticketType.id ticketType.priceRupiah)) :
    (EventService.initAll ticketTypes).Issues permitted := by
  induction ticketTypes with
  | nil => trivial
  | cons ticketType rest ih =>
    refine ⟨init ticketType List.mem_cons_self,fun reply => ?_⟩
    cases reply with
    | error error => trivial
    | ok count =>
      refine ⟨price ticketType List.mem_cons_self,fun reply => ?_⟩
      cases reply with
      | error error => trivial
      | ok count =>
        exact ih (fun other member => init other (List.mem_cons_of_mem _ member))
          fun other member => price other (List.mem_cons_of_mem _ member)

end Parts

/-! Each call stays inside its footprint. -/

private theorem createEvent_issues (organizerID : ID) (request : CreateEventRequest) :
    (EventHandler.createEvent organizerID request).Issues (Footprint (.createEvent organizerID request)) := by
  unfold EventHandler.createEvent
  split
  · unfold EventService.createEvent
    simp only
    split
    · trivial
    · split
      · trivial
      · refine ⟨trivial,fun eventID => ⟨⟨rfl,rfl,⟨rfl,rfl,rfl⟩,rfl⟩,fun reply => ?_⟩⟩
        cases reply with
        | error error => trivial
        | ok value =>
          refine (nameTypes_issues trivial _ _).bind fun named => ?_
          refine (createTicketTypes_issues (fun _ => trivial) _).bind fun created => ?_
          cases created <;> trivial
  · trivial

private theorem updateEvent_call_issues (eventID organizerID : ID) (title description : String)
    (startAt endAt : Time) :
    (EventService.updateEvent eventID organizerID title description startAt endAt).Issues
      (Footprint (.updateEvent eventID organizerID title description startAt endAt)) := by
  refine ⟨trivial,fun reply => ?_⟩
  cases reply with
  | error error => trivial
  | ok event =>
    simp only [done_bind]
    split
    · trivial
    · split
      · trivial
      · rename_i editable
        have status := (not_and_or.mp editable).imp not_not.mp not_not.mp
        refine ⟨trivial,fun now => (updateEvent_issues trivial fun _ => status).bind fun updated => ?_⟩
        cases updated <;> trivial

private theorem approveEvent_issues (eventID adminUserID : ID) :
    (EventService.approveEvent eventID adminUserID).Issues
      (Footprint (.approveEvent eventID adminUserID)) := by
  refine ⟨trivial,fun reply => ?_⟩
  cases reply with
  | error error => trivial
  | ok event =>
    simp only [done_bind]
    split
    · trivial
    · refine ⟨trivial,fun now => (updateEvent_issues trivial fun _ => rfl).bind fun updated => ?_⟩
      cases updated with
      | error error => trivial
      | ok value =>
        refine (listTicketTypesByEvent_issues trivial).bind fun listed => ?_
        cases listed with
        | error error => trivial
        | ok types =>
          refine (initAll_issues types (fun _ _ => trivial) fun _ _ => trivial).bind fun done => ?_
          cases done <;> trivial

private theorem rejectEvent_issues (eventID adminUserID : ID) :
    (EventService.rejectEvent eventID adminUserID).Issues
      (Footprint (.rejectEvent eventID adminUserID)) := by
  refine ⟨trivial,fun reply => ?_⟩
  cases reply with
  | error error => trivial
  | ok event =>
    simp only [done_bind]
    split
    · trivial
    · refine ⟨trivial,fun now => (updateEvent_issues trivial fun _ => rfl).bind fun updated => ?_⟩
      cases updated <;> trivial

private theorem cancelEvent_issues (eventID userID : ID) :
    (EventService.cancelEvent eventID userID).Issues (Footprint (.cancelEvent eventID userID)) := by
  refine ⟨trivial,fun reply => ?_⟩
  cases reply with
  | error error => trivial
  | ok event =>
    simp only [done_bind]
    split
    · trivial
    · split
      · trivial
      · refine ⟨trivial,fun now => (updateEvent_issues trivial fun _ => rfl).bind fun updated => ?_⟩
        cases updated with
        | error error => trivial
        | ok value => exact ⟨trivial,fun at_ => ⟨trivial,fun _ => trivial⟩⟩

private theorem reprocessCancellation_issues (eventID userID : ID) (checkOwner : Bool) :
    (EventService.reprocessCancellation eventID userID checkOwner).Issues
      (Footprint (.reprocessCancellation eventID userID checkOwner)) := by
  refine ⟨trivial,fun reply => ?_⟩
  cases reply with
  | error error => trivial
  | ok event =>
    simp only [done_bind]
    split
    · trivial
    · split
      · trivial
      · exact ⟨trivial,fun at_ => ⟨trivial,fun _ => trivial⟩⟩

theorem bookingItems_asked {request : ReserveRequest} {item : BookingItem} (member : item ∈ request.bookingItems) :
    item.ticketTypeID ∈ request.items.map ReserveItemRequest.ticketTypeID := by
  obtain ⟨asked,inside,rfl⟩ := List.mem_map.mp member
  exact List.mem_map_of_mem inside

theorem reserve_call_issues (reservationTTL : Nat) (userID : ID) (userEmail : String) (request : ReserveRequest) :
    (BookingHandler.reserve reservationTTL userID userEmail request).Issues
      (Footprint (.reserve userID userEmail request)) := by
  unfold BookingHandler.reserve
  split
  · unfold BookingService.reserve
    split
    · trivial
    · refine (reserveItems_issues _ _ (fun _ => bookingItems_asked) (fun _ => trivial)
        fun _ => bookingItems_asked).bind fun reserved => ?_
      cases reserved with
      | error error => trivial
      | ok value =>
        refine ⟨trivial,fun now => ⟨trivial,fun bookingID => ⟨trivial,fun createdAt => ?_⟩⟩⟩
        refine (nameItems_issues trivial bookingID _).bind_returns (nameItems_returns bookingID _) fun named all => ?_
        have asked : ∀ item ∈ named,
            item.ticketTypeID ∈ request.items.map ReserveItemRequest.ticketTypeID := by
          intro item member
          obtain ⟨source,inside,_,same,_⟩ := forall₂_source all item member
          rw [same]
          exact bookingItems_asked inside
        refine ⟨⟨rfl,rfl,asked⟩,fun created => ?_⟩
        cases created with
        | error error => exact (rollbackSeats_issues named asked).bind fun _ => trivial
        | ok value =>
          refine (initiateTxnForBooking_issues trivial).bind fun initiated => ?_
          cases initiated with
          | error error =>
            exact ⟨trivial,fun _ => (rollbackSeats_issues named asked).bind fun _ => trivial⟩
          | ok value => trivial
  · trivial

theorem loadPendingBooking_issues {permitted : Statement → Prop} (bookingID : ID)
    (find : ∀ id, permitted (.findBooking id)) (items : ∀ id, permitted (.listItems id)) :
    (BookingService.loadPendingBooking bookingID).Issues permitted := by
  refine (findByID_issues find items).bind fun found => ?_
  cases found with
  | error error => trivial
  | ok booking =>
    simp only
    split <;> trivial

private theorem confirm_issues (bookingID paymentID : ID) :
    (BookingService.confirm bookingID paymentID).Issues (Footprint (.confirm bookingID paymentID)) := by
  refine (loadPendingBooking_issues bookingID (fun _ => trivial) (fun _ => trivial)).bind fun loaded => ?_
  rcases loaded with error | _ | booking
  · trivial
  · trivial
  · refine (isPublished_issues trivial).bind fun published => ?_
    rcases published with error | _ | _
    · trivial
    · refine ⟨trivial,fun reply => ?_⟩
      cases reply <;> trivial
    · refine ⟨trivial,fun reply => ?_⟩
      rcases reply with error | count
      · trivial
      · simp only [Except.map,done_bind]
        split
        · trivial
        · trivial
        · exact (issueTickets_issues bookingID booking _ fun _ _ => trivial).bind fun _ => trivial

private theorem expireOnPaymentExpired_issues (bookingID : ID) :
    (BookingService.expireOnPaymentExpired bookingID).Issues
      (Footprint (.expireOnPaymentExpired bookingID)) := by
  refine (loadPendingBooking_issues bookingID (fun _ => trivial) (fun _ => trivial)).bind fun loaded => ?_
  rcases loaded with error | _ | booking
  · trivial
  · trivial
  · refine ⟨trivial,fun reply => ?_⟩
    cases reply <;> trivial

private theorem cancelBookings_issues (eventID : ID) :
    (BookingService.cancelBookings eventID).Issues (Footprint (.cancelBookings eventID)) := by
  refine (listByEventID_issues trivial fun _ => trivial).bind fun listed => ?_
  cases listed with
  | error error => trivial
  | ok bookings => exact cancelAll_issues (fun _ => trivial) bookings

private theorem processBatch_issues : OutboxStore.processBatch.Issues (Footprint .processBatch) :=
  Issues.embed (Outbox.processBatch_issues trivial (fun _ => trivial) fun _ => trivial)

theorem program_issues (reservationTTL : Nat) (call : Call) :
    (program reservationTTL call).Issues (Footprint call) := by
  cases call with
  | createEvent organizerID request => exact Issues.map _ (createEvent_issues organizerID request)
  | updateEvent eventID organizerID title description startAt endAt =>
    exact Issues.map _ (updateEvent_call_issues eventID organizerID title description startAt endAt)
  | approveEvent eventID adminUserID => exact Issues.map _ (approveEvent_issues eventID adminUserID)
  | rejectEvent eventID adminUserID => exact Issues.map _ (rejectEvent_issues eventID adminUserID)
  | cancelEvent eventID userID => exact Issues.map _ (cancelEvent_issues eventID userID)
  | reprocessCancellation eventID userID checkOwner =>
    exact Issues.map _ (reprocessCancellation_issues eventID userID checkOwner)
  | reserve userID userEmail request =>
    exact Issues.map _ (reserve_call_issues reservationTTL userID userEmail request)
  | confirm bookingID paymentID => exact Issues.map _ (confirm_issues bookingID paymentID)
  | expireOnPaymentExpired bookingID => exact Issues.map _ (expireOnPaymentExpired_issues bookingID)
  | cancelBookings eventID => exact Issues.map _ (cancelBookings_issues eventID)
  | getBooking bookingID => exact Issues.map _ (findByID_issues (fun _ => trivial) fun _ => trivial)
  | listMyBookings userID => exact Issues.map _ ⟨trivial,scanBookings_issues fun _ => trivial⟩
  | listByEventID eventID => exact Issues.map _ (listByEventID_issues trivial fun _ => trivial)
  | processBatch => exact Issues.map _ processBatch_issues
  | wait duration => exact ⟨trivial,fun _ => trivial⟩

end Ticketbus.Ticketing
