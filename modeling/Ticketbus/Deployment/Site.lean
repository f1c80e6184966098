import Ticketbus.Auth.AuthHandler
import Ticketbus.Ticketing.Handlers
import Ticketbus.Payment.Webhooks
import Ticketbus.Gateway.Callers
import Ticketbus.Deployment.System
import Ticketbus.Deployment.Wire

/-! The three services behind the gateway. Every call from outside is a request that the
gateway has relayed to a handler; consumers, workers, pollers, the request for a transaction
and the seeding of the admins are the only others. -/
namespace Ticketbus.Deployment
open Ticketbus.Concurrency

namespace Site

/-- The configuration. `verifyAccessToken` is the RS256 check at an instant; it reads back
what `GenerateAccessToken` has signed. -/
structure Settings where
  auth : Auth.Settings
  payment : Payment.Settings
  codec : Wire.Codec
  reservationTTL : Nat
  seeds : List Auth.AdminSeed
  internalKey : String
  callbackToken : String
  isEmail : String → Bool
  verifyAccessToken : Auth.Time → String → Option Gateway.Claims
  verify_sign : ∀ now id email role signedAt claims,
    verifyAccessToken now (auth.sign id email role signedAt) = some claims →
      claims = ⟨codec.uuid id,email,Gateway.roleText role⟩

/-- What handlers read of a request besides its caller: the parameter in its path, a header,
and what its body decodes to, for each of the structs that are decoded. -/
structure Content where
  parameter : String := ""
  callbackToken : String := ""
  register : Option Auth.RegisterRequest := none
  registerOrganizer : Option Auth.RegisterOrganizerRequest := none
  login : Option Auth.LoginRequest := none
  refresh : Option Auth.RefreshRequest := none
  createEvent : Option Ticketing.CreateEventRequest := none
  updateEvent : Option Ticketing.UpdateEventRequest := none
  reject : Option Ticketing.RejectRequest := none
  reserve : Option Ticketing.ReserveRequest := none
  webhook : Option (Option Json.Value) := none

abbrev Call := Auth.Call ⊕ Wire.Call
abbrev Response := Auth.Response ⊕ Ticketing.Response ⊕ Payment.Response

/-- A request that has come to a call, the identity that its handler was given, and the
call's place in the pool of its service. -/
structure Visit where
  request : Gateway.Request
  callbackToken : String
  identity : Gateway.Identity
  call : Call
  index : Nat
  deriving DecidableEq

inductive Move where
  | auth (action : Auth.Step)
  | system (move : Deployment.Move)
  | visit (request : Gateway.Request) (content : Content)

end Site

structure Site where
  auth : Auth.Pool
  system : System
  visits : List Site.Visit

namespace Site

def initial : Site := ⟨.idle .initial,.initial,[]⟩

def ticketing (site : Site) : Ticketing.Pool := site.system.1

def payment (site : Site) : Payment.Pool := site.system.2

namespace Settings
variable (settings : Settings)

def gateway (site : Site) : Gateway.Config where
  verifyToken token := settings.verifyAccessToken site.auth.state.world.clock (String.ofList token)
  internalKey := settings.internalKey

def authenticating (outcome : Except Auth.Response Auth.Call) : Except Response Call := (outcome.mapError .inl).map .inl

/-- Where a handler of the ticketing service gets to that acts for a user. A token has a
UUID for its user. -/
def actingFor (identity : Gateway.Identity) (handler : Ticketing.ID → Except Ticketing.Response Ticketing.Call) :
    Option (Except Response Call) :=
  (settings.codec.readUUID identity.userID).map fun userID =>
    ((handler userID).mapError fun response => .inr (.inl response)).map fun call => .inr (.inl call)

/-- Where a handler of the payment service gets to. -/
def paying (outcome : Except Payment.Response Payment.Call) : Except Response Call :=
  (outcome.mapError fun response => .inr (.inr response)).map fun call => .inr (.inr call)

/-- What a handler makes of a request. The other handlers read only, or are internal. -/
def handle (handler : Gateway.Handler) (identity : Gateway.Identity) (content : Content) :
    Option (Except Response Call) :=
  let id := settings.codec.readUUID content.parameter
  match handler with
  | .register => some (authenticating (Auth.AuthHandler.register settings.isEmail content.register))
  | .registerOrganizer =>
    some (authenticating (Auth.AuthHandler.registerOrganizer settings.isEmail content.registerOrganizer))
  | .login => some (authenticating (Auth.AuthHandler.login settings.isEmail content.login))
  | .refresh => some (authenticating (Auth.AuthHandler.refresh content.refresh))
  | .me =>
    if identity.userID = "" then some (.error (.inl ⟨401,.error "missing authentication"⟩))
    else
      match settings.codec.readUUID identity.userID with
      | none => some (.error (.inl ⟨404,.error "user not found"⟩))
      | some userID => some (.ok (.inl (.getMe userID)))
  | .createEvent =>
    match content.createEvent with
    | none => some (.error (.inr (.inl Ticketing.EventHandler.invalidBody)))
    | some request => settings.actingFor identity fun userID => .ok (.createEvent userID request)
  | .updateEvent =>
    settings.actingFor identity fun userID => Ticketing.EventHandler.updateEvent id userID content.updateEvent
  | .approveEvent => settings.actingFor identity fun userID => Ticketing.EventHandler.approveEvent id userID
  | .rejectEvent =>
    settings.actingFor identity fun userID => Ticketing.EventHandler.rejectEvent id userID content.reject
  | .cancelEvent => settings.actingFor identity fun userID => Ticketing.EventHandler.cancelEvent id userID
  | .reprocessCancellation =>
    settings.actingFor identity fun userID => Ticketing.EventHandler.reprocessCancellation id userID identity.role
  | .reserve =>
    match content.reserve with
    | none => some (.error (.inr (.inl Ticketing.EventHandler.invalidBody)))
    | some request =>
      if identity.userID = "" then some (.error (.inr (.inl Ticketing.BookingHandler.unauthenticated)))
      else settings.actingFor identity fun userID => .ok (.reserve userID identity.email request)
  | .getBooking =>
    match id with
    | none => some (.error (.inr (.inl Ticketing.BookingHandler.bookingNotFound)))
    | some id => some (.ok (.inr (.inl (.getBooking id))))
  | .listMyBookings =>
    if identity.userID = "" then some (.error (.inr (.inl Ticketing.BookingHandler.unauthenticated)))
    else settings.actingFor identity fun userID => .ok (.listMyBookings userID)
  | .processPayment =>
    if identity.userID = "" then some (.error (.inr (.inr ⟨401,.error "authentication required"⟩)))
    else (settings.codec.readUUID identity.userID).map fun userID =>
      paying (Payment.PaymentHandler.processPayment userID id)
  | .webhook =>
    some (paying (Payment.PaymentHandler.webhook settings.callbackToken content.callbackToken settings.codec.readUUID
      content.webhook))
  | _ => none

def seeding : Auth.Step → Bool
  | .start (.seedAdmins admins) => admins = settings.seeds
  | .start (.wait _) => true
  | .start _ => false
  | .step .. | .stop _ => true

end Settings

/-- The calls of the other two services that requests from outside come to. -/
def outside : Wire.Call → Bool
  | .inl call => !call.internal
  | .inr (.processPayment ..) | .inr (.handleSessionWebhook _) => true
  | .inr _ => false

/-- What the other two services start by themselves or for each other. -/
def working : Deployment.Move → Bool
  | .inl (.start call) => !outside (.inl call)
  | .inr (.start call) => !outside (.inr call)
  | _ => true

/-- The move by which a call of the two services is started, and its place. -/
def start (system : System) : Wire.Call → Deployment.Move × Nat
  | .inl call => (.inl (.start call),system.1.calls.length)
  | .inr call => (.inr (.start call),system.2.calls.length)

def next (settings : Settings) (site : Site) : Move → Option Site
  | .auth action =>
    if settings.seeding action then
      (site.auth.next (Auth.service settings.auth) action).map fun after => {site with auth := after}
    else none
  | .system move =>
    if working move && delivers site.system move then
      (Deployment.next settings.reservationTTL settings.payment site.system move).map fun after =>
        {site with system := after}
    else none
  | .visit request content =>
    match Gateway.serve (settings.gateway site) request with
    | .error _ => some site
    | .ok (handler,identity) =>
      match settings.handle handler identity content with
      | none => none
      | some (.error _) => some site
      | some (.ok (.inl call)) =>
        (site.auth.next (Auth.service settings.auth) (.start call)).map fun after => {site with
          auth := after
          visits := ⟨request,content.callbackToken,identity,.inl call,site.auth.calls.length⟩ :: site.visits}
      | some (.ok (.inr call)) =>
        (Deployment.next settings.reservationTTL settings.payment site.system (start site.system call).1).map
          fun after => {site with
            system := after
            visits := ⟨request,content.callbackToken,identity,.inr call,(start site.system call).2⟩ :: site.visits}

def signed (site : Site) (token : String) : Bool :=
  site.auth.state.history.any fun event =>
    match event with
    | ⟨_,.generateAccessToken _ _ _,some (text,_)⟩ => text = token
    | _ => false

/-- Signatures cannot be forged: a token that is verified has been signed. -/
def Unforged (settings : Settings) (site : Site) : Move → Prop
  | .visit request _ => ∀ token, Gateway.bearerToken request.authorization = some token →
    ((settings.gateway site).verifyToken token).isSome → site.signed (String.ofList token) = true
  | .auth _ | .system _ => True

instance (settings : Settings) (site : Site) : (move : Move) → Decidable (Unforged settings site move)
  | .visit request _ =>
    match is : Gateway.bearerToken request.authorization with
    | none => .isTrue fun token isToken => by rw [is] at isToken; cases isToken
    | some token =>
      decidable_of_iff (((settings.gateway site).verifyToken token).isSome → site.signed (String.ofList token) = true)
        ⟨fun holds other isToken => by rw [is] at isToken; cases isToken; exact holds,fun holds => holds token is⟩
  | .auth _ | .system _ => .isTrue trivial

/-- The responses of the ticketing service that show bookings. -/
def Settings.respond (settings : Settings) (identity : Gateway.Identity) :
    Ticketing.Call → Ticketing.Result → Option Ticketing.Response
  | .getBooking _,.booking outcome =>
    match settings.codec.readUUID identity.userID with
    | none => some Ticketing.BookingHandler.bookingNotFound
    | some userID => some (Ticketing.BookingHandler.getBooking userID outcome)
  | .listMyBookings _,.bookings outcome => some (Ticketing.BookingHandler.listMyBookings outcome)
  | _,_ => none

/-- What a visit is answered when its call has returned. -/
def answer (settings : Settings) (site : Site) (visit : Visit) : Option Response :=
  match visit.call with
  | .inl call => (site.auth.returned visit.index).bind fun returned => (Auth.respond call returned.2).map .inl
  | .inr (.inl call) => (site.ticketing.returned visit.index).bind fun returned =>
    (settings.respond visit.identity call returned.2).map fun response => .inr (.inl response)
  | .inr (.inr _) => none

end Site
end Ticketbus.Deployment
