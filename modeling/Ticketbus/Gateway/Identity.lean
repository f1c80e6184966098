import Ticketbus.Http.Routing
import Ticketbus.Auth.Schema

/-! From a client's request through the Traefik routers and a service's middlewares to a
handler, and the identity that the handler acts on. Tokens are verified by a function that
stands for the RS256 check at the time of the request. -/
namespace Ticketbus.Gateway
open Ticketbus.Http

/-- The values of the `X-Authenticated-User-` headers or of the context keys; what is not
set reads as the empty text. -/
structure Identity where
  userID : String
  role : String
  email : String
  deriving DecidableEq, Repr

def Identity.empty : Identity := ⟨"","",""⟩

structure Claims where
  userID : String
  email : String
  role : String
  deriving DecidableEq, Repr

def Claims.identity (claims : Claims) : Identity := ⟨claims.userID,claims.role,claims.email⟩

structure Request where
  method : Method
  /-- The path as it was sent. -/
  target : Path
  /-- Whether net/url keeps the escaped path, which chi then routes on. -/
  rawPath : Bool
  authorization : List Char
  identity : Identity
  internalKey : String
  deriving DecidableEq, Repr

namespace Request

def routePath (request : Request) (path : Path) : Path := if request.rawPath then request.target else path

def claiming (request : Request) (identity : Identity) : Request := {request with identity := identity}

end Request

/-- A response that is written before a handler is reached. -/
structure Refusal where
  status : Nat
  message : String
  deriving DecidableEq, Repr

def unauthorized (message : String) : Refusal := ⟨401,message⟩

def notFound : Refusal := ⟨404,"404 page not found"⟩

structure Config where
  verifyToken : List Char → Option Claims
  internalKey : String

/-! The handlers and the middlewares in front of them. -/

inductive Field where
  | userID
  | role
  | email
  deriving DecidableEq, Repr

inductive Handler where
  | health
  | register
  | registerOrganizer
  | login
  | refresh
  | verify
  | me
  | listPublished
  | getEvent
  | createEvent
  | updateEvent
  | cancelEvent
  | reprocessCancellation
  | listMyEvents
  | listAll
  | listPending
  | approveEvent
  | rejectEvent
  | reserve
  | release
  | listMyBookings
  | getBooking
  | webhook
  | mockSessionWebhook
  | initiateTxnForBooking
  | processPayment
  | getPaymentStatus
  | getStatus
  | getTransaction
  | listTransactions
  deriving DecidableEq, Repr

def Handler.reads : Handler → List Field
  | .me | .createEvent | .updateEvent | .cancelEvent | .listMyEvents | .approveEvent | .rejectEvent | .listMyBookings
  | .getBooking | .processPayment | .getTransaction | .listTransactions => [.userID]
  | .reprocessCancellation => [.userID,.role]
  | .reserve => [.userID,.email]
  | _ => []

def Identity.restrict (identity : Identity) (fields : List Field) : Identity where
  userID := if .userID ∈ fields then identity.userID else ""
  role := if .role ∈ fields then identity.role else ""
  email := if .email ∈ fields then identity.email else ""

inductive Middleware where
  | withUserContext
  | bearerAuth
  | requireRole (role : Auth.Role)
  | requireInternalKey
  deriving DecidableEq, Repr

def roleText : Auth.Role → String
  | .admin => "admin"
  | .eo => "eo"
  | .customer => "customer"

def bearerToken (authorization : List Char) : Option (List Char) := authorization.dropPrefix? "Bearer ".toList

namespace Middleware

/-- A header that is not empty goes into the context. -/
def inject (header value : String) : String := if header = "" then value else header

def run (config : Config) (request : Request) (context : Identity) : Middleware → Except Refusal Identity
  | .withUserContext => .ok {
      userID := inject request.identity.userID context.userID
      role := inject request.identity.role context.role
      email := inject request.identity.email context.email}
  | .bearerAuth =>
    if context.userID ≠ "" then .ok context
    else
      match bearerToken request.authorization with
      | none => .error (unauthorized "missing or invalid authorization header")
      | some token =>
        match config.verifyToken token with
        | none => .error (unauthorized "invalid token")
        | some claims => .ok claims.identity
  | .requireRole role =>
    if context.role = roleText role then .ok context else .error ⟨403,"insufficient permissions"⟩
  | .requireInternalKey =>
    if request.internalKey = config.internalKey then .ok context else .error (unauthorized "invalid internal key")

end Middleware

structure Endpoint where
  middlewares : List Middleware
  handler : Handler
  deriving DecidableEq, Repr

def enter (config : Config) (request : Request) : List Middleware → Identity → Except Refusal Identity
  | [],context => .ok context
  | middleware :: rest,context => do
    let context ← middleware.run config request context
    enter config request rest context

/-! The routes of the services. -/

inductive Service where
  | auth
  | ticketing
  | payment
  deriving DecidableEq, Repr

/-- `r.Use` and `r.With`: the middleware goes in front of those that are already there. -/
def use (middleware : Middleware) (routes : List (Route Endpoint)) : List (Route Endpoint) :=
  routes.map fun route => {route with
    endpoint := {route.endpoint with middlewares := middleware :: route.endpoint.middlewares}}

def handle (method : Method) (pattern : List Segment) (handler : Handler) : Route Endpoint :=
  ⟨method,.fixed "" :: pattern,⟨[],handler⟩⟩

def AuthHandler.routes : List (Route Endpoint) :=
  [handle .post [.fixed "api",.fixed "auth",.fixed "register"] .register,
    handle .post [.fixed "api",.fixed "auth",.fixed "register",.fixed "organizer"] .registerOrganizer,
    handle .post [.fixed "api",.fixed "auth",.fixed "login"] .login,
    handle .post [.fixed "api",.fixed "auth",.fixed "refresh"] .refresh,
    handle .get [.fixed "api",.fixed "auth",.fixed "verify"] .verify] ++
  use .withUserContext (use .bearerAuth [handle .get [.fixed "api",.fixed "auth",.fixed "me"] .me])

def EventHandler.routes : List (Route Endpoint) :=
  [handle .get [.fixed "api",.fixed "events"] .listPublished,
    handle .get [.fixed "api",.fixed "events",.param "id"] .getEvent] ++
  use .withUserContext (use (.requireRole .eo)
    [handle .post [.fixed "api",.fixed "events"] .createEvent,
      handle .put [.fixed "api",.fixed "events",.param "id"] .updateEvent,
      handle .post [.fixed "api",.fixed "events",.param "id",.fixed "cancel"] .cancelEvent,
      handle .post [.fixed "api",.fixed "events",.param "id",.fixed "cancel-reprocess"] .reprocessCancellation,
      handle .get [.fixed "api",.fixed "events",.fixed "mine"] .listMyEvents]) ++
  use .withUserContext (use (.requireRole .admin)
    [handle .get [.fixed "api",.fixed "admin",.fixed "events"] .listAll,
      handle .get [.fixed "api",.fixed "events",.fixed "pending"] .listPending,
      handle .post [.fixed "api",.fixed "events",.param "id",.fixed "approve"] .approveEvent,
      handle .post [.fixed "api",.fixed "events",.param "id",.fixed "reject"] .rejectEvent,
      handle .post [.fixed "api",.fixed "admin",.fixed "events",.param "id",.fixed "cancel-reprocess"]
        .reprocessCancellation])

def BookingHandler.routes : List (Route Endpoint) :=
  use .withUserContext (use (.requireRole .customer)
    [handle .post [.fixed "api",.fixed "bookings",.fixed "reserve"] .reserve,
      handle .delete [.fixed "api",.fixed "bookings",.fixed "reserve",.param "id"] .release]) ++
  use .withUserContext (
    use (.requireRole .customer) [handle .get [.fixed "api",.fixed "bookings"] .listMyBookings] ++
      [handle .get [.fixed "api",.fixed "bookings",.param "id"] .getBooking])

def PaymentHandler.routes : List (Route Endpoint) :=
  [handle .post [.fixed "api",.fixed "payments",.fixed "webhook"] .webhook,
    handle .post [.fixed "api",.fixed "payments",.fixed "booking",.fixed "mock",.param "booking_id",.param "status"]
      .mockSessionWebhook] ++
  use .requireInternalKey [handle .post [.fixed "api",.fixed "payments",.fixed "internal"] .initiateTxnForBooking] ++
  use .withUserContext (use (.requireRole .customer)
    [handle .post [.fixed "api",.fixed "payments",.fixed "booking",.param "booking_id"] .processPayment,
      handle .get [.fixed "api",.fixed "payments",.fixed "booking",.param "booking_id"] .getPaymentStatus,
      handle .get [.fixed "api",.fixed "payments",.param "id",.fixed "status"] .getStatus,
      handle .get [.fixed "api",.fixed "payments",.param "txn_id"] .getTransaction,
      handle .get [.fixed "api",.fixed "payments"] .listTransactions])

/-- The router that `main` sets up. -/
def Service.routes : Service → List (Route Endpoint)
  | .auth => use .withUserContext
      (handle .get [.fixed "api",.fixed "auth",.fixed "health"] .health :: AuthHandler.routes)
  | .ticketing =>
    [handle .get [.fixed "api",.fixed "events",.fixed "health"] .health,
      handle .get [.fixed "api",.fixed "bookings",.fixed "health"] .health] ++
    EventHandler.routes ++ BookingHandler.routes
  | .payment => handle .get [.fixed "api",.fixed "payments",.fixed "health"] .health :: PaymentHandler.routes

/-- What a service does with a request: the handler that it gets to and the identity that
this handler acts on. -/
def dispatch (config : Config) (service : Service) (request : Request) (path : Path) :
    Except Refusal (Handler × Identity) :=
  let segments := (request.routePath path).splitOn '/'
  match search request.method service.routes segments with
  | none => .error (if service.routes.any fun route => fits route.pattern segments then ⟨405,""⟩ else notFound)
  | some endpoint => do
    let context ← enter config request endpoint.middlewares .empty
    return (endpoint.handler,context.restrict endpoint.handler.reads)

/-! The gateway. -/

namespace Routers

def auth : Router Service where
  rule := .pathPrefix "/api/auth"
  service := .auth
  forwardAuth := false
  priority := 20

def eventProtected : Router Service where
  rule := .pathPrefix "/api/events"
  service := .ticketing
  forwardAuth := true
  priority := 10

def eventPublic : Router Service where
  rule := .and (.and (.and (.and (.and (.pathPrefix "/api/events") (.method .get)) (.not (.path "/api/events/mine")))
    (.not (.path "/api/events/pending"))) (.not (.path "/api/events/organizers")))
    (.not (.path "/api/events/organizers/me"))
  service := .ticketing
  forwardAuth := false
  priority := 20

def bookings : Router Service where
  rule := .pathPrefix "/api/bookings"
  service := .ticketing
  forwardAuth := true
  priority := 20

def paymentWebhook : Router Service where
  rule := .pathPrefix "/api/payments/webhook"
  service := .payment
  forwardAuth := false
  priority := 30

def adminEvents : Router Service where
  rule := .pathPrefix "/api/admin/events"
  service := .ticketing
  forwardAuth := true
  priority := 20

def payments : Router Service where
  rule := .and (.and (.pathPrefix "/api/payments") (.not (.pathPrefix "/api/payments/internal")))
    (.not (.pathPrefix "/api/payments/booking/mock"))
  service := .payment
  forwardAuth := true
  priority := 20

end Routers

def routers : List (Router Service) :=
  [Routers.auth,Routers.eventProtected,Routers.eventPublic,Routers.bookings,Routers.paymentWebhook,Routers.adminEvents,
    Routers.payments]

/-- `Verify`, which the forward-auth middleware asks. -/
def AuthHandler.verify (config : Config) (authorization : List Char) : Except Refusal Claims :=
  if authorization = [] then .error (unauthorized "missing Authorization header")
  else
    match bearerToken authorization with
    | none => .error (unauthorized "invalid Authorization header")
    | some token =>
      match config.verifyToken token with
      | none => .error (unauthorized "invalid token")
      | some claims => .ok claims

def relay (config : Config) (router : Router Service) (request : Request) (path : Path) :
    Except Refusal (Handler × Identity) :=
  if router.forwardAuth then do
    let claims ← AuthHandler.verify config request.authorization
    dispatch config router.service (request.claiming claims.identity) path
  else dispatch config router.service request path

def serve (config : Config) (request : Request) : Except Refusal (Handler × Identity) :=
  match unescape request.target with
  | none => .error ⟨400,"400 Bad Request"⟩
  | some path =>
    match choose routers request.method path with
    | none => .error notFound
    | some router => relay config router request path

/-- The request's token is verified and has these claims. -/
def Verified (config : Config) (request : Request) (claims : Claims) : Prop :=
  ∃ token, bearerToken request.authorization = some token ∧ config.verifyToken token = some claims

/-! Behind forward-auth the identity headers are those of the verified token. -/

theorem verify_verified {config : Config} {request : Request} {claims : Claims}
    (verified : AuthHandler.verify config request.authorization = .ok claims) : Verified config request claims := by
  unfold AuthHandler.verify at verified
  split at verified
  · cases verified
  · split at verified
    · cases verified
    · rename_i token bearer
      split at verified
      · cases verified
      · rename_i found
        cases verified
        exact ⟨token,bearer,found⟩

/-- A context that knows the caller by the claims, or not at all. -/
def Known (claims : Claims) (context : Identity) : Prop := context = .empty ∨ context = claims.identity

theorem inject_known (header value : String) (known : value = "" ∨ value = header) :
    Middleware.inject header value = header := by
  unfold Middleware.inject
  split
  · rename_i unset
    rcases known with rfl | rfl
    · exact unset.symm
    · rfl
  · rfl

/-- What a service's answer says about the caller comes from the request's token. -/
def Vouched (config : Config) (request : Request) : Except Refusal (Handler × Identity) → Prop
  | .error _ => True
  | .ok (handler,identity) =>
    identity = .empty ∨ ∃ claims, Verified config request claims ∧ identity = claims.identity.restrict handler.reads

def Middleware.blind : Middleware → Bool
  | .withUserContext | .requireInternalKey => true
  | .bearerAuth | .requireRole _ => false

def Endpoint.blind (endpoint : Endpoint) : Bool :=
  endpoint.handler.reads = [] && endpoint.middlewares.all Middleware.blind

def Endpoint.answer (config : Config) (request : Request) (endpoint : Endpoint) : Except Refusal (Handler × Identity) :=
  (enter config request endpoint.middlewares .empty).map fun context =>
    (endpoint.handler,context.restrict endpoint.handler.reads)

theorem dispatch_found {config : Config} {service : Service} {request : Request} {path : Path} {endpoint : Endpoint}
    (found : search request.method service.routes ((request.routePath path).splitOn '/') = some endpoint) :
    dispatch config service request path = endpoint.answer config request := by
  simp only [dispatch,found,Endpoint.answer]
  cases enter config request endpoint.middlewares .empty <;> rfl

def Vouches (config : Config) (request : Request) (userID : String) : Prop :=
  ∃ claims, Verified config request claims ∧ claims.userID = userID

theorem Vouches.unique {config : Config} {request : Request} {left right : String} (first : Vouches config request left)
    (second : Vouches config request right) : left = right := by
  obtain ⟨_,⟨token,bearer,verified⟩,rfl⟩ := first
  obtain ⟨_,⟨same,again,alsoVerified⟩,rfl⟩ := second
  cases bearer.symm.trans again
  cases verified.symm.trans alsoVerified
  rfl

def oneToken : Config := ⟨fun token => if token = "t".toList then some ⟨"8","a@b","customer"⟩ else none,"key"⟩

def bookingRequest : Request := ⟨.get,"/api/bookings/7".toList,false,"Bearer t".toList,.empty,""⟩

end Ticketbus.Gateway
