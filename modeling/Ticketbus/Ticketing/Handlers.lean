import Ticketbus.Http.Validation
import Ticketbus.Ticketing.Service

/-! The handlers of the ticketing service around its calls: the bodies with their `validate`
tags, the call that a request comes to, and the responses that show bookings. An id from the
path is `none` where it is not a UUID; instants are shown to the second. -/
namespace Ticketbus.Ticketing
open Ticketbus.Http Ticketbus.Relational

structure UpdateEventRequest where
  title : String
  description : String
  startAt : Time
  endAt : Time
  deriving DecidableEq, Repr

structure RejectRequest where
  reason : String
  deriving DecidableEq, Repr

def UpdateEventRequest.checks (request : UpdateEventRequest) : List FieldChecks :=
  [⟨"Title",[required request.title]⟩,⟨"StartAt",[("required",request.startAt ≠ 0)]⟩,
    ⟨"EndAt",[("required",request.endAt ≠ 0)]⟩]

def RejectRequest.checks (request : RejectRequest) : List FieldChecks := [⟨"Reason",[required request.reason]⟩]

structure BookingItemResp where
  id : ID
  ticketTypeID : ID
  quantity : Int
  unitPriceRupiah : Int
  totalPriceRupiah : Int
  deriving DecidableEq, Repr

structure BookingResponse where
  id : ID
  userID : ID
  eventID : ID
  status : BookingStatus
  expiresAt : Option Int
  totalRupiah : Int
  items : List BookingItemResp
  deriving DecidableEq, Repr

inductive Body where
  | booking (data : BookingResponse)
  | bookings (data : List BookingResponse)
  | error (message : String)
  deriving DecidableEq, Repr

structure Response where
  status : Nat
  body : Body
  deriving DecidableEq, Repr

def bookingToResponse (booking : Booking) : BookingResponse where
  id := booking.id
  userID := booking.userID
  eventID := booking.eventID
  status := booking.status
  expiresAt := booking.expiresAt.map (· / 1000000000)
  totalRupiah := booking.totalRupiah
  items := booking.items.map fun item =>
    ⟨item.id,item.ticketTypeID,item.quantity,item.unitPriceRupiah,item.totalPriceRupiah⟩

def Response.shown (response : Response) : List BookingResponse :=
  match response.body with
  | .booking data => [data]
  | .bookings data => data
  | .error _ => []

namespace EventHandler

def invalidBody : Response := ⟨400,.error "invalid request body"⟩

def decode {Request : Type} (struct : String) (checks : Request → List FieldChecks) (body : Option Request) :
    Except Response Request :=
  match body with
  | none => .error invalidBody
  | some request =>
    match validate struct (checks request) with
    | some message => .error ⟨400,.error message⟩
    | none => .ok request

def about (eventID : Option ID) (call : ID → Call) : Except Response Call :=
  match eventID with
  | none => .error ⟨404,.error "event not found"⟩
  | some eventID => .ok (call eventID)

def updateEvent (eventID : Option ID) (userID : ID) (body : Option UpdateEventRequest) : Except Response Call := do
  let request ← decode "UpdateEventRequest" UpdateEventRequest.checks body
  about eventID fun eventID =>
    .updateEvent eventID userID request.title request.description request.startAt request.endAt

def approveEvent (eventID : Option ID) (userID : ID) : Except Response Call := about eventID (.approveEvent · userID)

def rejectEvent (eventID : Option ID) (userID : ID) (body : Option RejectRequest) : Except Response Call := do
  let _ ← decode "RejectRequest" RejectRequest.checks body
  about eventID (.rejectEvent · userID)

def cancelEvent (eventID : Option ID) (userID : ID) : Except Response Call := about eventID (.cancelEvent · userID)

def reprocessCancellation (eventID : Option ID) (userID : ID) (role : String) : Except Response Call :=
  about eventID (.reprocessCancellation · userID (role ≠ "admin"))

end EventHandler

namespace BookingHandler

def unauthenticated : Response := ⟨401,.error "authentication required"⟩

def bookingNotFound : Response := ⟨404,.error "booking not found"⟩

/-- A booking of somebody else is one that there is not. -/
def getBooking (userID : ID) : Except DbError Booking → Response
  | .error _ => bookingNotFound
  | .ok booking => if booking.userID ≠ userID then bookingNotFound else ⟨200,.booking (bookingToResponse booking)⟩

def listMyBookings : Except DbError (List Booking) → Response
  | .error _ => ⟨500,.error "failed to list bookings"⟩
  | .ok bookings => ⟨200,.bookings (bookings.map bookingToResponse)⟩

end BookingHandler

/-- The calls that consumers, the outbox worker and the clock make. -/
def Call.internal : Call → Bool
  | .confirm .. | .expireOnPaymentExpired _ | .cancelBookings _ | .listByEventID _ | .processBatch | .wait _ => true
  | _ => false

end Ticketbus.Ticketing
