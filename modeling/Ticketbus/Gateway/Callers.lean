import Ticketbus.Gateway.Identity

/-! Who gets to the handlers that are not for everybody. -/
namespace Ticketbus.Gateway
open Ticketbus.Http

def Handler.restricted : Handler → Bool
  | .createEvent | .updateEvent | .cancelEvent | .reprocessCancellation | .listMyEvents | .listAll | .listPending
  | .approveEvent | .rejectEvent | .reserve | .release | .listMyBookings | .getBooking | .processPayment => true
  | _ => false

def Handler.admits (handler : Handler) (role : String) : Bool :=
  match handler with
  | .createEvent | .updateEvent | .cancelEvent | .listMyEvents => role = roleText .eo
  | .listAll | .listPending | .approveEvent | .rejectEvent => role = roleText .admin
  | .reprocessCancellation => role = roleText .eo ∨ role = roleText .admin
  | .reserve | .release | .listMyBookings | .processPayment => role = roleText .customer
  | _ => true

theorem roleText_injective : Function.Injective roleText := by
  intro role other same
  cases role <;> cases other <;> first | rfl | exact absurd same (by decide)

theorem restricted_routes : ∀ router ∈ routers, ∀ route ∈ router.service.routes,
    route.endpoint.handler.restricted = true → router.rule.excludes route = true ∨ router.forwardAuth = true ∧
      (route.endpoint = ⟨[.withUserContext],.getBooking⟩ ∨ ∃ role ∈ [Auth.Role.admin,.eo,.customer],
        route.endpoint.middlewares = [.withUserContext,.requireRole role] ∧
          route.endpoint.handler.admits (roleText role) = true) := by
  decide +kernel

section Forwarded
variable {config : Config} {request : Request} {claims : Claims} {context : Identity}

theorem withUserContext_forwarded (headers : request.identity = claims.identity) :
    Middleware.withUserContext.run config request .empty = .ok claims.identity := by
  simp only [Middleware.run,Identity.empty,inject_known _ _ (.inl rfl),headers]

theorem enter_getBooking (headers : request.identity = claims.identity)
    (entered : enter config request [.withUserContext] .empty = .ok context) : context = claims.identity := by
  rw [enter,withUserContext_forwarded headers] at entered
  cases entered
  rfl

theorem enter_role (headers : request.identity = claims.identity) {role : Auth.Role}
    (entered : enter config request [.withUserContext,.requireRole role] .empty = .ok context) :
    context = claims.identity ∧ claims.role = roleText role := by
  rw [enter,withUserContext_forwarded headers] at entered
  change (Middleware.requireRole role).run config request claims.identity >>= pure = .ok context at entered
  rw [bind_pure] at entered
  simp only [Middleware.run] at entered
  split at entered
  · rename_i same
    cases entered
    exact ⟨rfl,same⟩
  · cases entered

end Forwarded

/-- The way of a request to a handler: the router, the route and the headers that the service
got, which are the claims' behind forward-auth. -/
structure Way (config : Config) (request : Request) (handler : Handler) (identity : Identity) (path : Path)
    (router : Router Service) (route : Route Endpoint) (headers context : Identity) : Prop where
  unescaped : unescape request.target = some path
  chosen : choose routers request.method path = some router
  inside : route ∈ router.service.routes
  method : route.method = request.method
  fitting : fits route.pattern ((request.routePath path).splitOn '/') = true
  reached : route.endpoint.handler = handler
  entered : enter config (request.claiming headers) route.endpoint.middlewares .empty = .ok context
  given : identity = context.restrict handler.reads
  claimed : router.forwardAuth = true → ∃ claims, Verified config request claims ∧ headers = claims.identity

section Served
variable {config : Config} {request : Request} {handler : Handler} {identity : Identity}

theorem dispatch_ok {service : Service} {path : Path}
    (dispatched : dispatch config service request path = .ok (handler,identity)) :
    ∃ route ∈ service.routes, ∃ context, route.method = request.method ∧
      fits route.pattern ((request.routePath path).splitOn '/') = true ∧ route.endpoint.handler = handler ∧
        enter config request route.endpoint.middlewares .empty = .ok context ∧
          identity = context.restrict handler.reads := by
  cases located : search request.method service.routes ((request.routePath path).splitOn '/') with
  | none =>
    simp only [dispatch,located] at dispatched
    cases dispatched
  | some endpoint =>
    rw [dispatch_found located,Endpoint.answer] at dispatched
    obtain ⟨route,inside,method,fitting,rfl⟩ := search_fits located
    cases entered : enter config request route.endpoint.middlewares .empty with
    | error refusal =>
      rw [entered] at dispatched
      cases dispatched
    | ok context =>
      rw [entered] at dispatched
      cases dispatched
      exact ⟨route,inside,context,method,fitting,rfl,entered,rfl⟩

theorem way_of_serve (served : serve config request = .ok (handler,identity)) :
    ∃ path router route headers context, Way config request handler identity path router route headers context := by
  unfold serve at served
  split at served
  · cases served
  rename_i path unescaped
  split at served
  · cases served
  rename_i router chosen
  unfold relay at served
  split at served
  · cases verified : AuthHandler.verify config request.authorization with
    | error refusal =>
      rw [verified] at served
      cases served
    | ok claims =>
      rw [verified] at served
      obtain ⟨route,inside,context,method,fitting,reached,entered,given⟩ := dispatch_ok served
      exact ⟨path,router,route,claims.identity,context,unescaped,chosen,inside,method,fitting,reached,entered,given,
        fun _ => ⟨claims,verify_verified verified,rfl⟩⟩
  · rename_i unchecked
    obtain ⟨route,inside,context,method,fitting,reached,entered,given⟩ := dispatch_ok served
    exact ⟨path,router,route,request.identity,context,unescaped,chosen,inside,method,fitting,reached,entered,given,
      fun checked => absurd checked unchecked⟩

theorem routePath_seen {path : Path} (unescaped : unescape request.target = some path) :
    request.routePath path = path ∨ unescape (request.routePath path) = some path := by
  unfold Request.routePath
  split
  · exact .inr unescaped
  · exact .inl rfl

theorem restricted_caller (served : serve config request = .ok (handler,identity))
    (restricted : handler.restricted = true) :
    ∃ claims, Verified config request claims ∧ identity = claims.identity.restrict handler.reads ∧
      handler.admits claims.role = true := by
  obtain ⟨path,router,route,headers,context,way⟩ := way_of_serve served
  obtain ⟨listed,accepted⟩ := choose_accepts way.chosen
  have isHandler := way.reached
  rw [← isHandler] at restricted
  rcases restricted_routes router listed route way.inside restricted with excluded | ⟨checked,only⟩
  · rw [← way.method,Rule.excludes_sound excluded (routePath_seen way.unescaped) way.fitting] at accepted
    cases accepted
  · obtain ⟨claims,verified,rfl⟩ := way.claimed checked
    have entered := way.entered
    refine ⟨claims,verified,?_⟩
    rw [way.given]
    rcases only with only | ⟨role,_,middlewares,admitted⟩
    · rw [only] at entered isHandler
      obtain rfl := enter_getBooking rfl entered
      subst isHandler
      exact ⟨rfl,rfl⟩
    · rw [middlewares] at entered
      obtain ⟨rfl,same⟩ := enter_role rfl entered
      rw [same,← isHandler]
      exact ⟨rfl,admitted⟩

end Served

/-- The handlers for the other services and for tests. -/
def Handler.internal : Handler → Bool
  | .initiateTxnForBooking | .mockSessionWebhook => true
  | _ => false

theorem internal_routes : ∀ router ∈ routers, ∀ route ∈ router.service.routes,
    route.endpoint.handler.internal = true → '%' ∉ stem route.pattern ∧ router.rule.bars (stem route.pattern) = true := by
  decide +kernel

/-- However its path is escaped, no request from outside gets to an internal handler. -/
theorem internal_unreachable (config : Config) (request : Request) (handler : Handler) (identity : Identity)
    (served : serve config request = .ok (handler,identity)) : handler.internal = false := by
  obtain ⟨path,router,route,headers,context,way⟩ := way_of_serve served
  obtain ⟨listed,accepted⟩ := choose_accepts way.chosen
  by_contra reached
  rw [← way.reached] at reached
  obtain ⟨plain,barred⟩ := internal_routes router listed route way.inside (Bool.eq_true_of_not_eq_false reached)
  obtain ⟨rest,spelled,_⟩ := fits_stem way.fitting
  rw [List.intercalate_splitOn] at spelled
  have sent : stem route.pattern <+: request.routePath path := ⟨rest,spelled.symm⟩
  have begins : stem route.pattern <+: path := by
    rcases routePath_seen way.unescaped with same | unescaped
    · exact same ▸ sent
    · exact unescape_begins plain sent unescaped
  rw [Rule.bars_sound barred begins] at accepted
  cases accepted

/-- A request for the simulated webhook, with one letter of its path escaped. -/
theorem internal_unreachable_escaped :
    serve oneToken ⟨.post,"/api/payments/booking/%6dock/7/success".toList,true,"Bearer t".toList,.empty,""⟩ =
      .error ⟨404,"404 page not found"⟩ ∧
    serve oneToken bookingRequest = .ok (.getBooking,⟨"8","",""⟩) ∧ Handler.getBooking.internal = false := by
  have served : serve oneToken bookingRequest = .ok (.getBooking,⟨"8","",""⟩) := by decide +kernel
  exact ⟨by decide +kernel,served,internal_unreachable _ _ _ _ served⟩

end Ticketbus.Gateway
