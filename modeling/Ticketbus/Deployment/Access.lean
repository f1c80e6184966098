import Ticketbus.Deployment.Site
import Ticketbus.Deployment.Agreement
import Ticketbus.Auth.Accounts
import Ticketbus.Ticketing.Authorship

/-! Who is behind what is stored and shown. A request that comes to a call of the ticketing
or the payment service carries a token, or the callback token of the payment gateway; a token
was signed for a user who had logged in. So every event, every booking and every payment leads
back to an account with the role for it, and to its password. -/
namespace Ticketbus.Deployment.Site
open Ticketbus.Concurrency

def Permits (user : Auth.User) : Wire.Call → Prop
  | .inl (.createEvent userID _) | .inl (.updateEvent _ userID _ _ _ _) | .inl (.cancelEvent _ userID) =>
    userID = user.id ∧ user.role = .eo
  | .inl (.approveEvent _ userID) | .inl (.rejectEvent _ userID) => userID = user.id ∧ user.role = .admin
  | .inl (.reprocessCancellation _ userID checkOwner) =>
    userID = user.id ∧ (user.role = .eo ∧ checkOwner = true ∨ user.role = .admin ∧ checkOwner = false)
  | .inl (.reserve userID email _) => userID = user.id ∧ email = user.email ∧ user.role = .customer
  | .inl (.listMyBookings userID) | .inr (.processPayment _ userID) => userID = user.id ∧ user.role = .customer
  | .inl (.getBooking _) => True
  | _ => False

/-- The auth service has signed the request's token for the user. -/
def Presents (site : Site) (request : Gateway.Request) (user : Auth.User) : Prop :=
  ∃ token index ttl, Gateway.bearerToken request.authorization = some token ∧
    ⟨index,.generateAccessToken user.id user.email user.role,some (String.ofList token,ttl)⟩ ∈ site.auth.state.history

structure Member (settings : Settings) (site : Site) (user : Auth.User) : Prop where
  created : Auth.Created site.auth.state user
  account : Auth.Account settings.auth site.auth user
  authenticated : Auth.Authenticated settings.auth site.auth user
  seeded : user.role = .admin → ∃ seed ∈ settings.seeds, user.email = seed.email ∧
    ∃ salt, settings.auth.hash salt seed.password = some user.passwordHash
  unique : ∀ other, Auth.Created site.auth.state other → other.id = user.id → other = user

/-- A request with a token of a member, who may make it, has come to the call. -/
def Authorized (settings : Settings) (site : Site) (call : Wire.Call) : Prop :=
  ∃ visit ∈ site.visits, visit.call = .inr call ∧ ∃ user, site.Presents visit.request user ∧ Member settings site user ∧
    Permits user call

/-! What handlers come to. -/

def Acts (settings : Settings) (handler : Gateway.Handler) (identity : Gateway.Identity) : Wire.Call → Prop
  | .inl (.createEvent userID _) => handler = .createEvent ∧ settings.codec.readUUID identity.userID = some userID
  | .inl (.updateEvent _ userID _ _ _ _) =>
    handler = .updateEvent ∧ settings.codec.readUUID identity.userID = some userID
  | .inl (.cancelEvent _ userID) => handler = .cancelEvent ∧ settings.codec.readUUID identity.userID = some userID
  | .inl (.approveEvent _ userID) => handler = .approveEvent ∧ settings.codec.readUUID identity.userID = some userID
  | .inl (.rejectEvent _ userID) => handler = .rejectEvent ∧ settings.codec.readUUID identity.userID = some userID
  | .inl (.reprocessCancellation _ userID checkOwner) => handler = .reprocessCancellation ∧
    settings.codec.readUUID identity.userID = some userID ∧ checkOwner = decide (identity.role ≠ "admin")
  | .inl (.reserve userID email _) => handler = .reserve ∧ settings.codec.readUUID identity.userID = some userID ∧
    email = identity.email
  | .inl (.listMyBookings userID) =>
    handler = .listMyBookings ∧ settings.codec.readUUID identity.userID = some userID
  | .inl (.getBooking _) => handler = .getBooking
  | .inr (.processPayment _ userID) =>
    handler = .processPayment ∧ settings.codec.readUUID identity.userID = some userID
  | _ => False

def Signals (settings : Settings) (callbackToken : String) (call : Wire.Call) : Prop :=
  callbackToken = settings.callbackToken ∧ ∃ payload, call = .inr (.handleSessionWebhook payload)

section Handlers
variable {settings : Settings} {handler : Gateway.Handler} {identity : Gateway.Identity} {content : Content}

theorem authenticating_ok {outcome : Except Auth.Response Auth.Call} {call : Call}
    (ok : Settings.authenticating outcome = .ok call) : ∃ own, outcome = .ok own ∧ call = .inl own := by
  cases outcome with
  | error response => cases ok
  | ok own =>
    cases ok
    exact ⟨own,rfl,rfl⟩

theorem actingFor_ok {make : Ticketing.ID → Except Ticketing.Response Ticketing.Call} {call : Call}
    (ok : settings.actingFor identity make = some (.ok call)) :
    ∃ userID own, settings.codec.readUUID identity.userID = some userID ∧ make userID = .ok own ∧
      call = .inr (.inl own) := by
  obtain ⟨userID,read,made⟩ := Option.map_eq_some_iff.mp ok
  cases outcome : make userID with
  | error response =>
    rw [outcome] at made
    cases made
  | ok own =>
    rw [outcome] at made
    cases made
    exact ⟨userID,own,read,outcome,rfl⟩

theorem paying_ok {outcome : Except Payment.Response Payment.Call} {call : Call}
    (ok : Settings.paying outcome = .ok call) : ∃ own, outcome = .ok own ∧ call = .inr (.inr own) := by
  cases outcome with
  | error response => cases ok
  | ok own =>
    cases ok
    exact ⟨own,rfl,rfl⟩

theorem about_ok {eventID : Option Ticketing.ID} {make : Ticketing.ID → Ticketing.Call} {call : Ticketing.Call}
    (ok : Ticketing.EventHandler.about eventID make = .ok call) : ∃ id, call = make id := by
  cases eventID with
  | none => cases ok
  | some id =>
    cases ok
    exact ⟨id,rfl⟩

theorem updateEvent_ok {eventID : Option Ticketing.ID} {userID : Ticketing.ID} {body : Option Ticketing.UpdateEventRequest}
    {call : Ticketing.Call} (ok : Ticketing.EventHandler.updateEvent eventID userID body = .ok call) :
    ∃ id title description startAt endAt, call = .updateEvent id userID title description startAt endAt := by
  unfold Ticketing.EventHandler.updateEvent at ok
  cases decoded : Ticketing.EventHandler.decode "UpdateEventRequest" Ticketing.UpdateEventRequest.checks body with
  | error response =>
    rw [decoded] at ok
    cases ok
  | ok request =>
    rw [decoded] at ok
    obtain ⟨id,rfl⟩ := about_ok ok
    exact ⟨id,_,_,_,_,rfl⟩

theorem rejectEvent_ok {eventID : Option Ticketing.ID} {userID : Ticketing.ID} {body : Option Ticketing.RejectRequest}
    {call : Ticketing.Call} (ok : Ticketing.EventHandler.rejectEvent eventID userID body = .ok call) :
    ∃ id, call = .rejectEvent id userID := by
  unfold Ticketing.EventHandler.rejectEvent at ok
  cases decoded : Ticketing.EventHandler.decode "RejectRequest" Ticketing.RejectRequest.checks body with
  | error response =>
    rw [decoded] at ok
    cases ok
  | ok request =>
    rw [decoded] at ok
    exact about_ok ok

theorem handle_ok {call : Call} (handled : settings.handle handler identity content = some (.ok call)) :
    (∃ own, call = .inl own ∧ own.open = true) ∨ ∃ own, call = .inr own ∧
      (Acts settings handler identity own ∨ Signals settings content.callbackToken own) := by
  cases handler with
  | register =>
    obtain ⟨own,ok,rfl⟩ := authenticating_ok (Option.some.inj handled)
    exact .inl ⟨own,rfl,Auth.AuthHandler.register_open ok⟩
  | registerOrganizer =>
    obtain ⟨own,ok,rfl⟩ := authenticating_ok (Option.some.inj handled)
    exact .inl ⟨own,rfl,Auth.AuthHandler.registerOrganizer_open ok⟩
  | login =>
    obtain ⟨own,ok,rfl⟩ := authenticating_ok (Option.some.inj handled)
    exact .inl ⟨own,rfl,Auth.AuthHandler.login_open ok⟩
  | refresh =>
    obtain ⟨own,ok,rfl⟩ := authenticating_ok (Option.some.inj handled)
    exact .inl ⟨own,rfl,Auth.AuthHandler.refresh_open ok⟩
  | me =>
    simp only [Settings.handle] at handled
    split at handled
    · cases handled
    · split at handled
      · cases handled
      · cases handled
        exact .inl ⟨_,rfl,rfl⟩
  | createEvent =>
    simp only [Settings.handle] at handled
    split at handled
    · cases handled
    · obtain ⟨userID,own,read,made,rfl⟩ := actingFor_ok handled
      cases made
      exact .inr ⟨_,rfl,.inl ⟨rfl,read⟩⟩
  | updateEvent =>
    obtain ⟨userID,own,read,made,rfl⟩ := actingFor_ok handled
    obtain ⟨id,title,description,startAt,endAt,rfl⟩ := updateEvent_ok made
    exact .inr ⟨_,rfl,.inl ⟨rfl,read⟩⟩
  | rejectEvent =>
    obtain ⟨userID,own,read,made,rfl⟩ := actingFor_ok handled
    obtain ⟨id,rfl⟩ := rejectEvent_ok made
    exact .inr ⟨_,rfl,.inl ⟨rfl,read⟩⟩
  | approveEvent | cancelEvent =>
    obtain ⟨userID,own,read,made,rfl⟩ := actingFor_ok handled
    obtain ⟨id,rfl⟩ := about_ok made
    exact .inr ⟨_,rfl,.inl ⟨rfl,read⟩⟩
  | reprocessCancellation =>
    obtain ⟨userID,own,read,made,rfl⟩ := actingFor_ok handled
    obtain ⟨id,rfl⟩ := about_ok made
    exact .inr ⟨_,rfl,.inl ⟨rfl,read,rfl⟩⟩
  | reserve =>
    simp only [Settings.handle] at handled
    split at handled
    · cases handled
    · split at handled
      · cases handled
      · obtain ⟨userID,own,read,made,rfl⟩ := actingFor_ok handled
        cases made
        exact .inr ⟨_,rfl,.inl ⟨rfl,read,rfl⟩⟩
  | listMyBookings =>
    simp only [Settings.handle] at handled
    split at handled
    · cases handled
    · obtain ⟨userID,own,read,made,rfl⟩ := actingFor_ok handled
      cases made
      exact .inr ⟨_,rfl,.inl ⟨rfl,read⟩⟩
  | getBooking =>
    simp only [Settings.handle] at handled
    split at handled
    · cases handled
    · cases handled
      exact .inr ⟨_,rfl,.inl rfl⟩
  | processPayment =>
    simp only [Settings.handle] at handled
    split at handled
    · cases handled
    · obtain ⟨userID,read,made⟩ := Option.map_eq_some_iff.mp handled
      obtain ⟨own,ok,rfl⟩ := paying_ok made
      cases booking : settings.codec.readUUID content.parameter with
      | none =>
        rw [booking] at ok
        cases ok
      | some bookingID =>
        rw [booking] at ok
        cases ok
        exact .inr ⟨_,rfl,.inl ⟨rfl,read⟩⟩
  | webhook =>
    obtain ⟨own,ok,rfl⟩ := paying_ok (Option.some.inj handled)
    obtain ⟨same,payload,rfl⟩ := Payment.PaymentHandler.webhook_ok ok
    exact .inr ⟨_,rfl,.inr ⟨same,payload,rfl⟩⟩
  | _ => cases handled

theorem Acts.known {call : Wire.Call} (acts : Acts settings handler identity call) :
    handler.restricted = true ∧ .userID ∈ handler.reads := by
  rcases call with call | call
  · cases call with
    | createEvent | updateEvent | cancelEvent | approveEvent | rejectEvent | reprocessCancellation | reserve
    | listMyBookings =>
      obtain ⟨rfl,_⟩ := acts
      decide
    | getBooking =>
      cases acts
      decide
    | _ => exact acts.elim
  · cases call with
    | processPayment =>
      obtain ⟨rfl,_⟩ := acts
      decide
    | _ => exact acts.elim

theorem Acts.permits {call : Wire.Call} (acts : Acts settings handler identity call) {user : Auth.User}
    (own : identity = (⟨settings.codec.uuid user.id,user.email,Gateway.roleText user.role⟩ : Gateway.Claims).identity.restrict
      handler.reads) (admitted : handler.admits (Gateway.roleText user.role) = true) : Permits user call := by
  subst own
  have read : settings.codec.readUUID (settings.codec.uuid user.id) = some user.id := settings.codec.readUUID_uuid user.id
  have role {known : Auth.Role} (same : decide (Gateway.roleText user.role = Gateway.roleText known) = true) :
      user.role = known := Gateway.roleText_injective (of_decide_eq_true same)
  rcases call with call | call
  · cases call with
    | createEvent | updateEvent | cancelEvent | approveEvent | rejectEvent | listMyBookings =>
      obtain ⟨rfl,isUser⟩ := acts
      exact ⟨Option.some.inj (isUser.symm.trans read),role admitted⟩
    | reserve =>
      obtain ⟨rfl,isUser,isEmail⟩ := acts
      exact ⟨Option.some.inj (isUser.symm.trans read),isEmail,role admitted⟩
    | reprocessCancellation =>
      obtain ⟨rfl,isUser,isRole⟩ := acts
      refine ⟨Option.some.inj (isUser.symm.trans read),?_⟩
      have named : Gateway.roleText user.role = Gateway.roleText .eo ∨
          Gateway.roleText user.role = Gateway.roleText .admin := of_decide_eq_true admitted
      rcases named with same | same
      · have organizer : user.role = .eo := Gateway.roleText_injective same
        refine .inl ⟨organizer,isRole.trans ?_⟩
        simp [Gateway.Identity.restrict,Gateway.Claims.identity,Gateway.Handler.reads,organizer,Gateway.roleText]
      · have admin : user.role = .admin := Gateway.roleText_injective same
        refine .inr ⟨admin,isRole.trans ?_⟩
        simp [Gateway.Identity.restrict,Gateway.Claims.identity,Gateway.Handler.reads,admin,Gateway.roleText]
    | getBooking => trivial
    | _ => exact acts.elim
  · cases call with
    | processPayment =>
      obtain ⟨rfl,isUser⟩ := acts
      exact ⟨Option.some.inj (isUser.symm.trans read),role admitted⟩
    | _ => exact acts.elim

theorem delivers_start {call : Wire.Call} {system : System} {callbackToken : String}
    (backed : Acts settings handler identity call ∨ Signals settings callbackToken call) :
    Delivers system (start system call).1 := by
  rcases backed with acts | ⟨_,payload,rfl⟩
  · rcases call with call | call
    · cases call <;> first | rfl | exact acts.elim
    · cases call <;> first | rfl | exact acts.elim
  · rfl

end Handlers

/-! What a move does. -/

def Admitted (settings : Settings) (call : Auth.Call) : Prop :=
  call.open = true ∨ call = .seedAdmins settings.seeds ∨ ∃ duration, call = .wait duration

/-- What a move does. A call of the other services that a visit has started is backed by its
token or by the callback token. -/
inductive Advance (settings : Settings) (site : Site) : Move → Site → Prop
  | still (move : Move) : Advance settings site move site
  | auth (move : Move) (action : Auth.Step) (after : Auth.Pool) (visits : List Visit)
      (taken : site.auth.next (Auth.service settings.auth) action = some after)
      (admitted : ∀ call, action = .start call → Admitted settings call)
      (others : ∀ visit ∈ visits, visit ∈ site.visits ∨ ∃ call, visit.call = .inl call) (kept : site.visits ⊆ visits) :
      Advance settings site move ⟨after,site.system,visits⟩
  | system (move : Deployment.Move) (after : System)
      (taken : Deployment.next settings.reservationTTL settings.payment site.system move = some after)
      (own : working move = true) (delivered : Delivers site.system move) :
      Advance settings site (.system move) ⟨site.auth,after,site.visits⟩
  | visit (request : Gateway.Request) (content : Content) (handler : Gateway.Handler)
      (identity : Gateway.Identity) (call : Wire.Call) (after : System)
      (served : Gateway.serve (settings.gateway site) request = .ok (handler,identity))
      (backed : Acts settings handler identity call ∨ Signals settings content.callbackToken call)
      (taken : Deployment.next settings.reservationTTL settings.payment site.system (start site.system call).1 =
        some after) :
      Advance settings site (.visit request content) ⟨site.auth,after,
        ⟨request,content.callbackToken,identity,.inr call,(start site.system call).2⟩ :: site.visits⟩

theorem next_advance {settings : Settings} {site after : Site} {move : Move}
    (taken : next settings site move = some after) : Advance settings site move after := by
  cases move with
  | auth action =>
    simp only [next] at taken
    split at taken
    · rename_i own
      obtain ⟨pool,moved,rfl⟩ := Option.map_eq_some_iff.mp taken
      refine .auth _ action pool site.visits moved (fun call is => ?_) (fun visit inside => .inl inside) fun _ => id
      subst is
      cases call with
      | seedAdmins admins => exact .inr (.inl (congrArg Auth.Call.seedAdmins (of_decide_eq_true own)))
      | wait duration => exact .inr (.inr ⟨duration,rfl⟩)
      | _ => cases own
    · cases taken
  | system move =>
    simp only [next] at taken
    split at taken
    · rename_i permitted
      obtain ⟨own,delivered⟩ := Bool.and_eq_true_iff.mp permitted
      obtain ⟨moved,isMoved,rfl⟩ := Option.map_eq_some_iff.mp taken
      exact .system move moved isMoved own delivered
    · cases taken
  | visit request content =>
    simp only [next] at taken
    split at taken
    · cases taken
      exact .still _
    · rename_i handler identity served
      split at taken
      · cases taken
      · cases taken
        exact .still _
      · rename_i call handled
        obtain ⟨pool,moved,rfl⟩ := Option.map_eq_some_iff.mp taken
        refine .auth _ _ pool _ moved (fun other is => ?_) (fun visit inside => ?_) (List.subset_cons_self _ _)
        · cases is
          obtain ⟨own,is,isOpen⟩ | ⟨own,is,_⟩ := handle_ok handled
          · cases is
            exact .inl isOpen
          · cases is
        · rcases List.mem_cons.mp inside with rfl | old
          · exact .inr ⟨call,rfl⟩
          · exact .inl old
      · rename_i call handled
        obtain ⟨moved,isMoved,rfl⟩ := Option.map_eq_some_iff.mp taken
        obtain ⟨own,is,_⟩ | ⟨own,is,backed⟩ := handle_ok handled
        · cases is
        · cases is
          exact .visit request content handler identity call moved served backed isMoved

/-! Which calls have been started. -/

def CallAt (system : System) (index : Nat) : Wire.Call → Prop
  | .inl call => system.1.calls[index]? = some call
  | .inr call => system.2.calls[index]? = some call

section Calls
variable {reservationTTL : Nat} {settings : Payment.Settings} {system after : System} {move : Deployment.Move}

theorem CallAt.kept {index : Nat} {call : Wire.Call} (at_ : CallAt system index call)
    (taken : Deployment.next reservationTTL settings system move = some after) : CallAt after index call := by
  rcases move with action | action
  · obtain ⟨moved,isMoved,rfl⟩ := Option.map_eq_some_iff.mp taken
    cases call with
    | inl call => exact Config.callAt_kept isMoved at_
    | inr call => exact at_
  · obtain ⟨moved,isMoved,rfl⟩ := Option.map_eq_some_iff.mp taken
    cases call with
    | inl call => exact at_
    | inr call => exact Config.callAt_kept isMoved at_

theorem CallAt.fresh {index : Nat} {call : Wire.Call} (at_ : CallAt after index call)
    (taken : Deployment.next reservationTTL settings system move = some after) :
    CallAt system index call ∨ move = (start system call).1 ∧ index = (start system call).2 := by
  rcases move with action | action
  · obtain ⟨moved,isMoved,rfl⟩ := Option.map_eq_some_iff.mp taken
    cases call with
    | inr call => exact .inl at_
    | inl call =>
      rcases Config.callAt_fresh isMoved at_ with old | ⟨rfl,rfl⟩
      · exact .inl old
      · exact .inr ⟨rfl,rfl⟩
  · obtain ⟨moved,isMoved,rfl⟩ := Option.map_eq_some_iff.mp taken
    cases call with
    | inl call => exact .inl at_
    | inr call =>
      rcases Config.callAt_fresh isMoved at_ with old | ⟨rfl,rfl⟩
      · exact .inl old
      · exact .inr ⟨rfl,rfl⟩

theorem start_injective {call other : Wire.Call} (same : (start system call).1 = (start system other).1) :
    call = other := by
  cases call <;> cases other <;> cases same <;> rfl

theorem working_start (call : Wire.Call) : working (start system call).1 = !outside call := by
  cases call <;> rfl

theorem callAt_start {call : Wire.Call}
    (taken : Deployment.next reservationTTL settings system (start system call).1 = some after) :
    CallAt after (start system call).2 call := by
  cases call with
  | inl call =>
    cases taken
    simp [CallAt,start,Config.calls]
  | inr call =>
    cases taken
    simp [CallAt,start,Config.calls]

end Calls

/-! Three runs with three accounts. -/

/-- An admin, an organizer and a customer, and the tokens that are signed for them. -/
def sandbox : Settings where
  auth := {Auth.sandbox with
    sign id email role _ :=
      if (id,email,role) = (0,"a",.admin) then "0"
      else if (id,email,role) = (1,"o",.eo) then "1"
      else if (id,email,role) = (2,"c",.customer) then "2"
      else ""}
  payment := Payment.sandbox
  codec := Wire.unary
  reservationTTL := 900000000000
  seeds := [⟨"a","password","n"⟩]
  internalKey := "key"
  callbackToken := "callback"
  isEmail _ := true
  verifyAccessToken _ token :=
    if token = "0" then some ⟨Wire.unary.uuid 0,"a","admin"⟩
    else if token = "1" then some ⟨Wire.unary.uuid 1,"o","eo"⟩
    else if token = "2" then some ⟨Wire.unary.uuid 2,"c","customer"⟩
    else none
  verify_sign now id email role signedAt claims verified := by
    simp only [Prod.mk.injEq] at verified
    split_ifs at verified <;> simp_all [Gateway.roleText]

def post (target token : String) : Gateway.Request :=
  ⟨.post,target.toList,false,("Bearer " ++ token).toList,.empty,""⟩

/-- Moves of the ticketing service, and of the payment service. -/
def booking (actions : List Ticketing.Step) : List Move := actions.map fun action => .system (.inl action)
def paying (actions : List Payment.Step) : List Move := actions.map fun action => .system (.inr action)

def arrivals : List Move :=
  .auth (.start (.seedAdmins sandbox.seeds)) :: (Auth.undisturbed 0 4).map .auth ++
  .visit (post "/api/auth/register" "") {register := some ⟨"o","password","n","eo"⟩} ::
    (Auth.undisturbed 1 4).map .auth ++
  .visit (post "/api/auth/register" "") {register := some ⟨"c","password","n","customer"⟩} ::
    (Auth.undisturbed 2 4).map .auth ++
  (["a","o","c"].zipIdx 3).flatMap fun user =>
    .visit (post "/api/auth/login" "") {login := some ⟨user.1,"password"⟩} :: (Auth.undisturbed user.2 6).map .auth

def publication : List Move := arrivals ++
  .visit (post "/api/events" "1") {createEvent := some Ticketing.concert} :: booking (Ticketing.undisturbed 0 4) ++
  .visit (post "/api/events/e/approve" "0") {} :: booking (Ticketing.undisturbed 1 7)

/-- The customer reserves tickets and looks at the booking. -/
def reservation : List Move := publication ++
  .visit (post "/api/bookings/reserve" "2") {reserve := some Ticketing.fourTickets} ::
    booking (Ticketing.undisturbed 2 8) ++
  .visit {post "/api/bookings/bb" "2" with method := .get} {parameter := "bb"} :: booking (Ticketing.undisturbed 3 2)

def purchase : List Move := reservation ++
  paying (.start (.initiateTxnForBooking ⟨2,0,2,"c",20,900000000000⟩) :: Payment.undisturbed 0 2) ++
  .visit (post "/api/payments/booking/bb" "2") {parameter := "bb"} :: paying (Payment.undisturbed 1 7) ++
  .visit (post "/api/payments/webhook" "") {
    callbackToken := "callback"
    webhook := some (some (.object [("event",.string "payment_session.completed"),
      ("data",.object [("reference_id",.string "bb"),("payment_session_id",.string "ps")])]))} ::
    paying (Payment.undisturbed 2 4) ++
  paying (.start .processBatch :: Payment.undisturbed 3 3) ++
  booking (.start (.confirm 2 0) :: Ticketing.undisturbed 4 5)

/-! What every visit has carried. -/

def Tokened (settings : Settings) (site : Site) (visit : Visit) (call : Wire.Call) : Prop :=
  ∃ user, site.Presents visit.request user ∧ Auth.Created site.auth.state user ∧
    settings.codec.readUUID visit.identity.userID = some user.id ∧ Permits user call

structure Carried (settings : Settings) (site : Site) (visit : Visit) (call : Wire.Call) : Prop where
  started : CallAt site.system visit.index call
  backed : Tokened settings site visit call ∨ Signals settings visit.callbackToken call

structure Sound (settings : Settings) (site : Site) : Prop where
  auth : Run (Auth.service settings.auth) Anything (.idle .initial) site.auth
  system : Path (Deployment.next settings.reservationTTL settings.payment) Delivers .initial site.system
  admitted : ∀ call ∈ site.auth.calls, Admitted settings call
  asked : ∀ index call, CallAt site.system index call → outside call = true →
    ∃ visit ∈ site.visits, visit.call = .inr call ∧ visit.index = index
  carried : ∀ visit ∈ site.visits, ∀ call, visit.call = .inr call → Carried settings site visit call

section Invariant
variable {settings : Settings} {site after : Site} {move : Move}

theorem Sound.ticketing (sound : Sound settings site) :
    Run (Ticketing.service settings.reservationTTL) Anything (.idle .initial) site.ticketing :=
  sound.system.left fun _ _ _ => trivial

theorem Sound.payment (sound : Sound settings site) :
    Run (Payment.service settings.payment) Anything (.idle .initial) site.payment :=
  sound.system.right fun _ _ _ => trivial

theorem signed_event {token : String} (isSigned : site.signed token = true) : ∃ index id email role ttl,
    ⟨index,.generateAccessToken id email role,some (token,ttl)⟩ ∈ site.auth.state.history := by
  obtain ⟨event,member,signs⟩ := List.any_eq_true.mp isSigned
  split at signs
  · rename_i index id email role text ttl
    cases of_decide_eq_true signs
    exact ⟨index,id,email,role,ttl,member⟩
  · cases signs

theorem Sound.caller (sound : Sound settings site) {request : Gateway.Request} {content : Content}
    (permitted : Unforged settings site (.visit request content)) {handler : Gateway.Handler}
    {identity : Gateway.Identity} (served : Gateway.serve (settings.gateway site) request = .ok (handler,identity))
    {call : Wire.Call} (acts : Acts settings handler identity call) :
    ∃ user, site.Presents request user ∧ Auth.Created site.auth.state user ∧
      settings.codec.readUUID identity.userID = some user.id ∧ Permits user call := by
  obtain ⟨claims,⟨token,bearer,verified⟩,rfl,admitted⟩ := Gateway.restricted_caller served acts.known.1
  obtain ⟨index,id,email,role,ttl,member⟩ := signed_event (permitted token bearer (by rw [verified]; rfl))
  obtain ⟨time,content⟩ := Auth.signed_content sound.auth member
  simp only [Settings.gateway,content] at verified
  obtain rfl := settings.verify_sign _ id email role time claims verified
  obtain ⟨user,rfl,rfl,rfl,created,_⟩ := Auth.signed_for_user sound.auth member
  refine ⟨user,⟨token,index,ttl,bearer,member⟩,created,?_,acts.permits rfl admitted⟩
  rw [Gateway.Identity.restrict,if_pos acts.known.2]
  exact settings.codec.readUUID_uuid user.id

theorem Tokened.later {visit : Visit} {call : Wire.Call} (tokened : Tokened settings site visit call)
    (step : Run (Auth.service settings.auth) Anything site.auth after.auth) : Tokened settings after visit call := by
  obtain ⟨user,⟨token,index,ttl,bearer,signed⟩,⟨position,created⟩,read,permits⟩ := tokened
  exact ⟨user,⟨token,index,ttl,bearer,Run.event_kept step signed⟩,⟨position,Run.event_kept step created⟩,read,permits⟩

theorem Sound.next (sound : Sound settings site) (permitted : Unforged settings site move)
    (taken : next settings site move = some after) : Sound settings after := by
  cases next_advance taken with
  | still => exact sound
  | auth _ action pool visits moved admitted others kept =>
    have step : Run (Auth.service settings.auth) Anything site.auth pool := .step action .refl trivial moved
    refine ⟨sound.auth.trans step,sound.system,fun call member => ?_,fun index call at_ isOutside => ?_,
      fun visit inside call is => ?_⟩
    · rcases Config.next_calls _ _ _ _ moved with same | ⟨new,isStart,same⟩
      · rw [same] at member
        exact sound.admitted call member
      · rw [same] at member
        rcases List.mem_append.mp member with old | isNew
        · exact sound.admitted call old
        · cases List.mem_singleton.mp isNew
          exact admitted call isStart
    · obtain ⟨visit,inside,is⟩ := sound.asked index call at_ isOutside
      exact ⟨visit,kept inside,is⟩
    · rcases others visit inside with old | ⟨other,isOther⟩
      · obtain ⟨started,backed⟩ := sound.carried visit old call is
        exact ⟨started,backed.imp (fun tokened => tokened.later step) id⟩
      · cases isOther.symm.trans is
  | system move moved isMoved own delivered =>
    refine ⟨sound.auth,.step move sound.system delivered isMoved,sound.admitted,fun index call at_ isOutside => ?_,
      fun visit inside call is => ?_⟩
    · rcases at_.fresh isMoved with old | ⟨rfl,rfl⟩
      · exact sound.asked index call old isOutside
      · -- what the services start by themselves is not for requests
        rw [working_start,isOutside] at own
        cases own
    · obtain ⟨started,backed⟩ := sound.carried visit inside call is
      exact ⟨started.kept isMoved,backed⟩
  | visit request content handler identity call moved served backed isMoved =>
    refine ⟨sound.auth,.step _ sound.system (delivers_start backed) isMoved,sound.admitted,
      fun index other at_ isOutside => ?_,fun visit inside other is => ?_⟩
    · rcases at_.fresh isMoved with old | ⟨same,rfl⟩
      · obtain ⟨visit,inside,is⟩ := sound.asked index other old isOutside
        exact ⟨visit,List.mem_cons_of_mem _ inside,is⟩
      · obtain rfl := start_injective same
        exact ⟨_,List.mem_cons_self,rfl,rfl⟩
    · rcases List.mem_cons.mp inside with rfl | old
      · cases is
        exact ⟨callAt_start isMoved,backed.imp (sound.caller permitted served) id⟩
      · obtain ⟨started,known⟩ := sound.carried visit old other is
        exact ⟨started.kept isMoved,known⟩

theorem sound_of_path (path : Path (next settings) (Unforged settings) initial site) : Sound settings site := by
  refine path.invariant (Sound settings) ⟨.refl,.refl,?_,?_,?_⟩ fun site move after _ sound permitted taken =>
    sound.next permitted taken
  · simp [initial,Config.idle,Config.calls]
  · intro index call at_
    cases call <;> cases at_
  · simp [initial]

theorem Sound.member (sound : Sound settings site) {request : Gateway.Request} {user : Auth.User}
    (presents : site.Presents request user) (created : Auth.Created site.auth.state user) : Member settings site user := by
  obtain ⟨token,index,ttl,_,signed⟩ := presents
  obtain ⟨_,minted⟩ := Auth.minted_of_run sound.auth
  obtain ⟨owner,isID,_,_,known,authenticated⟩ := Auth.signed_for_user sound.auth signed
  obtain rfl := minted.unique user owner created known isID
  have account := Auth.account_of_created sound.auth created
  refine ⟨created,account,authenticated,fun isAdmin => ?_,fun other isKnown same => minted.unique other user isKnown created same⟩
  obtain ⟨_,call,password,_,started,creates,salt,hashed⟩ := account
  rcases sound.admitted call (List.mem_of_getElem? started) with isOpen | rfl | ⟨duration,rfl⟩
  · -- what requests register is not an admin
    cases call with
    | register email given name role =>
      obtain ⟨_,_,_,rfl⟩ := creates
      exact absurd isAdmin (of_decide_eq_true isOpen)
    | registerOrganizer email given name =>
      obtain ⟨_,_,_,role⟩ := creates
      cases isAdmin.symm.trans role
    | seedAdmins | deleteUser | wait => cases isOpen
    | login | refreshToken | getMe => exact creates.elim
  · obtain ⟨_,seed,configured,email,rfl⟩ := creates
    exact ⟨seed,configured,email,salt,hashed⟩
  · exact creates.elim

theorem Sound.authorized (sound : Sound settings site) {index : Nat} {call : Wire.Call}
    (started : CallAt site.system index call) (isOutside : outside call = true)
    (other : ∀ payload, call ≠ .inr (.handleSessionWebhook payload)) : Authorized settings site call := by
  obtain ⟨visit,inside,is,_⟩ := sound.asked index call started isOutside
  rcases (sound.carried visit inside call is).backed with ⟨user,presents,created,_,permits⟩ | ⟨_,payload,isWebhook⟩
  · exact ⟨visit,inside,is,user,presents,sound.member presents created,permits⟩
  · exact absurd isWebhook (other payload)

/-- Everything in a stored event was asked for by requests with tokens of members of the right
role: its details by its organizer, its publication or rejection by an admin of the configuration. -/
theorem events_authorized (path : Path (next settings) (Unforged settings) initial site) :
    ∀ row ∈ site.ticketing.state.world.db.events.rows,
      Ticketing.Authored (fun call => Authorized settings site (.inl call)) row.event := by
  intro row member
  have sound := sound_of_path path
  refine ((Ticketing.attributed_of_run sound.ticketing).rows row member).mono fun call lifecycle started => ?_
  obtain ⟨index,found⟩ := List.mem_iff_getElem?.mp started
  have at_ : CallAt site.system index (.inl call) := found
  refine sound.authorized at_ ?_ (fun payload is => by cases is)
  cases call <;> first | rfl | cases lifecycle

theorem events_authorized_published : ∃ site : Site, Path (next sandbox) (Unforged sandbox) initial site ∧
    site.ticketing.state.world.db.events.rows.map (fun row => row.event.status) = [.published] ∧
    ∀ row ∈ site.ticketing.state.world.db.events.rows,
      Ticketing.Authored (fun call => Authorized sandbox site (.inl call)) row.event := by
  obtain ⟨site,path,outcome⟩ := exists_path_of_follow (next sandbox) (Unforged sandbox) publication initial
    (fun site => site.ticketing.state.world.db.events.rows.map (fun row => row.event.status) = [.published])
    (by decide +kernel)
  exact ⟨site,path,of_decide_eq_true outcome,events_authorized path⟩

/-- The booking of an event was asked for by a request with a token of the customer. -/
def Reserves (settings : Settings) (site : Site) (user : Auth.User) (eventID : Ticketing.ID) : Prop :=
  user.role = .customer ∧ Member settings site user ∧ ∃ visit ∈ site.visits, ∃ request,
    visit.call = .inr (.inl (.reserve user.id user.email request)) ∧ request.eventID = eventID ∧
      site.Presents visit.request user

theorem Sound.reserved (sound : Sound settings site) {userID eventID : Ticketing.ID}
    (reserved : Ticketing.Reserved (· ∈ site.ticketing.calls) userID eventID) :
    ∃ user, user.id = userID ∧ Reserves settings site user eventID := by
  obtain ⟨email,request,started,event⟩ := reserved
  obtain ⟨index,found⟩ := List.mem_iff_getElem?.mp started
  have at_ : CallAt site.system index (.inl (.reserve userID email request)) := found
  obtain ⟨visit,inside,is,user,presents,member,rfl,rfl,role⟩ := sound.authorized at_ rfl fun payload is => by cases is
  exact ⟨user,rfl,role,member,visit,inside,request,is,event,presents⟩

theorem Sound.shown (sound : Sound settings site) {visit : Visit} {call : Ticketing.Call} {value : Ticketing.Result}
    {userID : Ticketing.ID} (returned : site.ticketing.returned visit.index = some (call,value))
    (read : settings.codec.readUUID visit.identity.userID = some userID) (own : ∀ other, call = .listMyBookings other → other = userID)
    {response : Ticketing.Response} (answered : settings.respond visit.identity call value = some response) :
    ∀ shown ∈ response.shown, shown.userID = userID ∧
      Ticketing.Reserved (· ∈ site.ticketing.calls) shown.userID shown.eventID := by
  intro shown member
  unfold Settings.respond at answered
  split at answered
  · rename_i id outcome
    rw [read] at answered
    cases outcome with
    | error error =>
      cases answered
      cases member
    | ok booking =>
      have reserved := Ticketing.reserved_of_found sound.ticketing returned
      cases answered
      simp only [Ticketing.BookingHandler.getBooking] at member
      split at member
      · cases member
      · rename_i isOwner
        cases List.mem_singleton.mp member
        exact ⟨not_not.mp isOwner,reserved⟩
  · rename_i other outcome
    cases outcome with
    | error error =>
      cases answered
      cases member
    | ok bookings =>
      have listed := Ticketing.reserved_of_listed sound.ticketing returned
      cases answered
      obtain ⟨booking,inside,rfl⟩ := List.mem_map.mp member
      obtain ⟨user,reserved⟩ := listed booking inside
      exact ⟨user.trans (own other rfl),reserved⟩
  · cases answered

/-- A booking is shown only to requests with a token of the customer who has reserved it. -/
theorem bookings_shown_to_owner (path : Path (next settings) (Unforged settings) initial site) (visit : Visit)
    (inside : visit ∈ site.visits) (response : Ticketing.Response)
    (answered : answer settings site visit = some (.inr (.inl response))) (shown : Ticketing.BookingResponse)
    (member : shown ∈ response.shown) :
    ∃ user, shown.userID = user.id ∧ site.Presents visit.request user ∧ Reserves settings site user shown.eventID := by
  have sound := sound_of_path path
  unfold answer at answered
  split at answered
  · obtain ⟨returned,_,made⟩ := Option.bind_eq_some_iff.mp answered
    obtain ⟨_,_,isAuth⟩ := Option.map_eq_some_iff.mp made
    cases isAuth
  · rename_i call is
    obtain ⟨⟨caller,value⟩,returned,made⟩ := Option.bind_eq_some_iff.mp answered
    obtain ⟨_,responded,same⟩ := Option.map_eq_some_iff.mp made
    cases same
    obtain ⟨started,⟨user,presents,created,read,permits⟩ | ⟨_,_,isWebhook⟩⟩ := sound.carried visit inside _ is
    · obtain rfl : caller = call := by
        have thread := Config.callAt_thread (Config.returned_thread returned)
        exact Option.some.inj (thread.symm.trans started)
      have own (other : Ticketing.ID) (lists : caller = .listMyBookings other) : other = user.id := by
        subst lists
        exact permits.1
      obtain ⟨isUser,reserved⟩ := sound.shown returned read own responded shown member
      obtain ⟨owner,isOwner,reserves⟩ := sound.reserved reserved
      obtain rfl := reserves.2.1.unique user created (isUser.symm.trans isOwner.symm)
      exact ⟨user,isUser,presents,reserves⟩
    · cases isWebhook
  · cases answered

def showsBooking (site : Site) : Bool :=
  site.visits.head?.any fun visit =>
    match answer sandbox site visit with
    | some (.inr (.inl response)) => response.shown.any fun shown => shown.userID = 2
    | _ => false

theorem bookings_shown_to_owner_reserved : ∃ site : Site, Path (next sandbox) (Unforged sandbox) initial site ∧
    ∃ visit ∈ site.visits, ∃ response, answer sandbox site visit = some (.inr (.inl response)) ∧
      ∃ shown ∈ response.shown, ∃ user, shown.userID = user.id ∧ site.Presents visit.request user ∧
        Reserves sandbox site user shown.eventID := by
  obtain ⟨site,path,outcome⟩ := exists_path_of_follow (next sandbox) (Unforged sandbox) reservation initial showsBooking
    (by decide +kernel)
  obtain ⟨visit,first,shows⟩ := (Option.any_eq_true _ _).mp outcome
  have inside := List.mem_of_mem_head? first
  split at shows
  · rename_i response answered
    obtain ⟨shown,member,_⟩ := List.any_eq_true.mp shows
    exact ⟨site,path,visit,inside,response,answered,shown,member,
      bookings_shown_to_owner path visit inside response answered shown member⟩
  · cases shows

/-- A request with the callback token has reported the payment of the booking, and was
compared with the transaction that was stored for it. -/
def Paid (settings : Settings) (site : Site) (bookingID : Payment.ID) : Prop :=
  ∃ visit ∈ site.visits, ∃ payload txn, visit.callbackToken = settings.callbackToken ∧
    visit.call = .inr (.inr (.handleSessionWebhook (some payload))) ∧ payload.referenceID = some bookingID ∧
      payload.Reports txn ∧ ⟨visit.index,.findByBookingID bookingID,.ok txn⟩ ∈ site.payment.state.history

theorem Sound.paid (sound : Sound settings site) {call : Ticketing.Call} (started : call ∈ site.ticketing.calls)
    {bookingID : Ticketing.ID} (named : consumed call = some (bookingID,.completed)) : Paid settings site bookingID := by
  obtain ⟨message,published,rfl,completed⟩ := asked_of_path sound.system call started _ _ named
  have inserted := (Payment.sound_of_run .initial sound.payment).broker message published
  obtain ⟨index,payload,txn,found,reference,reports,read⟩ :=
    Payment.reported_of_message sound.payment inserted completed
  have at_ : CallAt site.system index (.inr (.handleSessionWebhook (some payload))) := found
  obtain ⟨visit,inside,is,rfl⟩ := sound.asked _ _ at_ rfl
  rcases (sound.carried visit inside _ is).backed with ⟨_,_,_,_,permits⟩ | ⟨callback,_⟩
  · exact permits.elim
  · exact ⟨visit,inside,payload,txn,callback,is,reference,reports,read⟩

/-- A booking is confirmed only once a request with the callback token of the payment gateway
has reported its payment, and a request with a token of its customer has reserved it. -/
theorem confirmed_once_paid (path : Path (next settings) (Unforged settings) initial site) :
    ∀ row ∈ site.ticketing.state.world.db.bookings.rows, row.status = .confirmed →
      Paid settings site row.id ∧ ∃ user, user.id = row.userID ∧ Reserves settings site user row.eventID := by
  intro row member confirmed
  have sound := sound_of_path path
  have settled : paymentOf row.status = some .completed := by rw [confirmed]; rfl
  obtain ⟨call,started,named⟩ := caused_of_run sound.ticketing row member .completed settled
  exact ⟨sound.paid started named,sound.reserved (Ticketing.reserved_of_run sound.ticketing row member)⟩

theorem confirmed_once_paid_purchase : ∃ site : Site, Path (next sandbox) (Unforged sandbox) initial site ∧
    site.ticketing.state.world.db.bookings.rows.map (fun row => (row.id,row.status)) = [(2,.confirmed)] ∧
    ∀ row ∈ site.ticketing.state.world.db.bookings.rows, row.status = .confirmed →
      Paid sandbox site row.id ∧ ∃ user, user.id = row.userID ∧ Reserves sandbox site user row.eventID := by
  obtain ⟨site,path,outcome⟩ := exists_path_of_follow (next sandbox) (Unforged sandbox) purchase initial
    (fun site => site.ticketing.state.world.db.bookings.rows.map (fun row => (row.id,row.status)) = [(2,.confirmed)])
    (by decide +kernel)
  exact ⟨site,path,of_decide_eq_true outcome,confirmed_once_paid path⟩

end Invariant
end Ticketbus.Deployment.Site
