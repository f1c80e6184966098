import Ticketbus.Ticketing.Repository

/-! `EventService` and the create handler in front of it. Every lifecycle
operation reads the row, checks its status in memory and writes all mutable
columns back. -/
namespace Ticketbus.Ticketing
open Ticketbus.Concurrency Ticketbus.Relational

structure TicketTypeRequest where
  name : String
  priceRupiah : Int
  quantity : Int
  maxPerOrder : Int
  deriving DecidableEq, Repr

structure CreateEventRequest where
  title : String
  description : String
  venueName : String
  venueAddress : String
  venueCapacity : Int
  startAt : Time
  endAt : Time
  ticketTypes : List TicketTypeRequest
  deriving DecidableEq, Repr

namespace CreateEventRequest

/-- The `validate` tags: `required` refuses the zero value of its field, a price of
zero included, and `omitempty` lets `max_per_order` be left out. -/
def valid (request : CreateEventRequest) : Bool :=
  request.title ≠ "" && request.venueName ≠ "" && request.venueAddress ≠ "" &&
    decide (1 ≤ request.venueCapacity ∧ Int8 request.venueCapacity) &&
    request.startAt ≠ 0 && request.endAt ≠ 0 && !request.ticketTypes.isEmpty &&
    request.ticketTypes.all fun ticketType =>
      ticketType.name ≠ "" &&
      decide (1 ≤ ticketType.priceRupiah ∧ Int8 ticketType.priceRupiah) &&
      decide (1 ≤ ticketType.quantity ∧ Int8 ticketType.quantity) &&
      decide (0 ≤ ticketType.maxPerOrder ∧ Int8 ticketType.maxPerOrder)

/-- The handler fills in five tickets per order where none was given. -/
def domainTypes (request : CreateEventRequest) : List TicketType :=
  request.ticketTypes.map fun ticketType =>
    ⟨0,0,ticketType.name,ticketType.priceRupiah,ticketType.quantity,
      if ticketType.maxPerOrder = 0 then 5 else ticketType.maxPerOrder⟩

end CreateEventRequest

namespace EventService

def totalQty (ticketTypes : List TicketType) : Int :=
  ticketTypes.foldl (fun total ticketType => goInt (total + ticketType.quantity)) 0

def nameTypes (eventID : ID) : List TicketType → Task (List TicketType)
  | [] => return []
  | ticketType :: rest => do
    let id ← newString
    let named ← nameTypes eventID rest
    return {ticketType with id := id, eventID := eventID} :: named

def createEvent (organizerID : ID) (request : CreateEventRequest) : Task (Except Error Event) := do
  let ticketTypes := request.domainTypes
  if ticketTypes = [] then return .error .ticketTypesEmpty
  if totalQty ticketTypes > request.venueCapacity then return .error .capacityExceeded
  let eventID ← newString
  let event : Event := ⟨eventID,organizerID,request.title,request.description,request.venueName,
    request.venueAddress,request.venueCapacity,request.startAt,request.endAt,.pending,none,none,0,0⟩
  match ← EventRepo.createEvent event with
  | .error error => return .error (.db error)
  | .ok () =>
    let named ← nameTypes eventID ticketTypes
    match ← EventRepo.createTicketTypes named with
    | .error error => return .error (.db error)
    | .ok () => return .ok event

def updateEvent (eventID organizerID : ID) (title description : String) (startAt endAt : Time) :
    Task (Except Error Event) := do
  match ← EventRepo.findEventByID eventID with
  | .error _ => return .error .eventNotFound
  | .ok event =>
    if event.organizerID ≠ organizerID then return .error .notEventOwner
    else if event.status ≠ .draft ∧ event.status ≠ .pending then return .error .eventNotEditable
    else
      let now ← timeNow
      let event := {event with
        title := title
        description := description
        startAt := startAt
        endAt := endAt
        updatedAt := now}
      match ← EventRepo.updateEvent event with
      | .error error => return .error (.db error)
      | .ok () => return .ok event

/-- The loop of `ApproveEvent` that sets each counter and price. -/
def initAll : List TicketType → Task (Except Error Unit)
  | [] => return .ok ()
  | ticketType :: rest => do
    match ← SeatCounter.init ticketType.id ticketType.quantity with
    | .error error => return .error (.db error)
    | .ok () =>
      match ← SeatCounter.setPrice ticketType.id ticketType.priceRupiah with
      | .error error => return .error (.db error)
      | .ok () => initAll rest

def approveEvent (eventID adminUserID : ID) : Task (Except Error Event) := do
  match ← EventRepo.findEventByID eventID with
  | .error _ => return .error .eventNotFound
  | .ok event =>
    if event.status ≠ .pending then return .error .eventNotApprovable
    else
      let now ← timeNow
      let event := {event with
        status := .published
        reviewedBy := some adminUserID
        reviewedAt := some now
        updatedAt := now}
      match ← EventRepo.updateEvent event with
      | .error error => return .error (.db error)
      | .ok () =>
        match ← EventRepo.listTicketTypesByEvent eventID with
        | .error error => return .error (.db error)
        | .ok types =>
          match ← initAll types with
          | .error error => return .error error
          | .ok () => return .ok event

def rejectEvent (eventID adminUserID : ID) : Task (Except Error Event) := do
  match ← EventRepo.findEventByID eventID with
  | .error _ => return .error .eventNotFound
  | .ok event =>
    if event.status ≠ .pending then return .error .eventNotApprovable
    else
      let now ← timeNow
      let event := {event with
        status := .rejected
        reviewedBy := some adminUserID
        reviewedAt := some now
        updatedAt := now}
      match ← EventRepo.updateEvent event with
      | .error error => return .error (.db error)
      | .ok () => return .ok event

def cancelEvent (eventID userID : ID) : Task (Except Error Event) := do
  match ← EventRepo.findEventByID eventID with
  | .error _ => return .error .eventNotFound
  | .ok event =>
    if event.status ≠ .published then return .error .eventNotCancellable
    else if event.organizerID ≠ userID then return .error .notEventOwner
    else
      let now ← timeNow
      let event := {event with status := .cancelled, updatedAt := now}
      match ← EventRepo.updateEvent event with
      | .error error => return .error (.db error)
      | .ok () =>
        let at_ ← timeNow
        let _ ← OutboxStore.insert (.eventCancelled event.id at_)
        return .ok event

/-- `checkOwner` is off for the admin variant. -/
def reprocessCancellation (eventID userID : ID) (checkOwner : Bool) : Task (Except Error Event) := do
  match ← EventRepo.findEventByID eventID with
  | .error _ => return .error .eventNotFound
  | .ok event =>
    if event.status ≠ .cancelled then return .error .eventNotCancelled
    else if checkOwner ∧ event.organizerID ≠ userID then return .error .notEventOwner
    else
      let at_ ← timeNow
      let _ ← OutboxStore.insert (.eventCancelled event.id at_)
      return .ok event

end EventService

/-- `EventHandler.CreateEvent`. -/
def EventHandler.createEvent (organizerID : ID) (request : CreateEventRequest) :
    Task (Except Error Event) :=
  if request.valid then EventService.createEvent organizerID request
  else return .error .badRequest

end Ticketbus.Ticketing
