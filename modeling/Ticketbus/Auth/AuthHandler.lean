import Ticketbus.Http.Validation
import Ticketbus.Auth.AuthService

/-! `AuthHandler` around the calls of the service: the bodies with their `validate` tags, the
call that a request comes to, and the response to what the call returns. -/
namespace Ticketbus.Auth
open Ticketbus.Http

structure RegisterRequest where
  email : String
  password : String
  name : String
  role : String
  deriving DecidableEq, Repr

structure RegisterOrganizerRequest where
  email : String
  password : String
  name : String
  organizerName : String
  description : String
  profileLink : String
  contactEmail : String
  deriving DecidableEq, Repr

structure LoginRequest where
  email : String
  password : String
  deriving DecidableEq, Repr

structure RefreshRequest where
  refreshToken : String
  deriving DecidableEq, Repr

section Checks
variable (isEmail : String → Bool)

/-- An address is `required,email`. -/
def addressChecks (name address : String) : FieldChecks := ⟨name,[required address,("email",isEmail address)]⟩

/-- A new password is `required,min=8`, counted in characters. -/
def passwordChecks (password : String) : FieldChecks := ⟨"Password",[required password,("min",8 ≤ password.length)]⟩

/-- The role has no `omitempty`, so that it cannot be left out. -/
def RegisterRequest.checks (request : RegisterRequest) : List FieldChecks :=
  [addressChecks isEmail "Email" request.email,passwordChecks request.password,⟨"Name",[required request.name]⟩,
    ⟨"Role",[("oneof",request.role = "customer" ∨ request.role = "eo")]⟩]

def RegisterOrganizerRequest.checks (request : RegisterOrganizerRequest) : List FieldChecks :=
  [addressChecks isEmail "Email" request.email,passwordChecks request.password,⟨"Name",[required request.name]⟩,
    ⟨"OrganizerName",[required request.organizerName]⟩,addressChecks isEmail "ContactEmail" request.contactEmail]

def LoginRequest.checks (request : LoginRequest) : List FieldChecks :=
  [addressChecks isEmail "Email" request.email,⟨"Password",[required request.password]⟩]

def RefreshRequest.checks (request : RefreshRequest) : List FieldChecks :=
  [⟨"RefreshToken",[required request.refreshToken]⟩]

end Checks

structure UserResponse where
  id : ID
  email : String
  name : String
  role : Role
  deriving DecidableEq, Repr

inductive Body where
  | user (data : UserResponse)
  | tokens (accessToken : String) (expiresIn : Int) (refreshToken : String)
  | error (message : String)
  deriving DecidableEq, Repr

structure Response where
  status : Nat
  body : Body
  deriving DecidableEq, Repr

def userToResponse (user : User) : UserResponse := ⟨user.id,user.email,user.name,user.role⟩

def readRole (text : String) : Option Role :=
  if text = "admin" then some .admin
  else if text = "eo" then some .eo
  else if text = "customer" then some .customer
  else none

namespace AuthHandler

/-- The decoding and the validation that all handlers begin with. -/
def decode {Request : Type} (struct : String) (checks : Request → List FieldChecks) (body : Option Request) :
    Except Response Request :=
  match body with
  | none => .error ⟨400,.error "invalid request body"⟩
  | some request =>
    match validate struct (checks request) with
    | some message => .error ⟨400,.error ("validation failed: " ++ message)⟩
    | none => .ok request

section Requests
variable (isEmail : String → Bool)

def register (body : Option RegisterRequest) : Except Response Call := do
  let request ← decode "RegisterRequest" (RegisterRequest.checks isEmail) body
  let role := if request.role = "" then "customer" else request.role
  match readRole role with
  | none => .error ⟨500,.error "registration failed"⟩
  | some role => return .register request.email request.password request.name role

def registerOrganizer (body : Option RegisterOrganizerRequest) : Except Response Call := do
  let request ← decode "RegisterOrganizerRequest" (RegisterOrganizerRequest.checks isEmail) body
  return .registerOrganizer request.email request.password request.name

def login (body : Option LoginRequest) : Except Response Call := do
  let request ← decode "LoginRequest" (LoginRequest.checks isEmail) body
  return .login request.email request.password

def refresh (body : Option RefreshRequest) : Except Response Call := do
  let request ← decode "RefreshRequest" RefreshRequest.checks body
  return .refreshToken request.refreshToken

end Requests

/-- The end of `Register` and of `RegisterOrganizer`. -/
def registered : Except Error User → Response
  | .error .userExists => ⟨409,.error "user with this email already exists"⟩
  | .error _ => ⟨500,.error "registration failed"⟩
  | .ok user => ⟨201,.user (userToResponse user)⟩

def loggedIn : Except Error TokenPair → Response
  | .error .invalidCredentials => ⟨401,.error "invalid email or password"⟩
  | .error _ => ⟨500,.error "login failed"⟩
  | .ok pair => ⟨200,.tokens pair.accessToken pair.expiresIn pair.refreshToken⟩

def refreshed : Except Error TokenPair → Response
  | .error .tokenNotFound => ⟨401,.error "refresh token not found"⟩
  | .error .tokenExpired => ⟨401,.error "refresh token expired"⟩
  | .error _ => ⟨500,.error "token refresh failed"⟩
  | .ok pair => ⟨200,.tokens pair.accessToken pair.expiresIn pair.refreshToken⟩

def me : Except Error User → Response
  | .error _ => ⟨404,.error "user not found"⟩
  | .ok user => ⟨200,.user (userToResponse user)⟩

end AuthHandler

def respond : Call → Result → Option Response
  | .register ..,.user outcome | .registerOrganizer ..,.user outcome => some (AuthHandler.registered outcome)
  | .login ..,.pair outcome => some (AuthHandler.loggedIn outcome)
  | .refreshToken _,.pair outcome => some (AuthHandler.refreshed outcome)
  | .getMe _,.user outcome => some (AuthHandler.me outcome)
  | _,_ => none

def Call.open : Call → Bool
  | .register _ _ _ role => role ≠ .admin
  | .registerOrganizer .. | .login .. | .refreshToken _ | .getMe _ => true
  | .deleteUser _ | .seedAdmins _ | .wait _ => false

namespace AuthHandler
variable {isEmail : String → Bool}

theorem decode_ok {Request : Type} {struct : String} {checks : Request → List FieldChecks} {body : Option Request}
    {request : Request} (ok : decode struct checks body = .ok request) :
    ∀ field ∈ checks request, ∀ tag ∈ field.tags, tag.2 = true := by
  cases body with
  | none => cases ok
  | some sent =>
    simp only [decode] at ok
    split at ok
    · cases ok
    · rename_i passed
      cases ok
      exact validate_eq_none.mp passed

theorem decoded_of_ok {Request : Type} {struct : String} {checks : Request → List FieldChecks} {body : Option Request}
    {next : Request → Except Response Call} {call : Call} (ok : (decode struct checks body >>= next) = .ok call) :
    ∃ request, decode struct checks body = .ok request ∧ next request = .ok call := by
  cases decoded : decode struct checks body with
  | error response =>
    rw [decoded] at ok
    cases ok
  | ok request =>
    rw [decoded] at ok
    exact ⟨request,rfl,ok⟩

theorem register_open {body : Option RegisterRequest} {call : Call} (ok : register isEmail body = .ok call) :
    call.open = true := by
  obtain ⟨request,decoded,ok⟩ := decoded_of_ok ok
  have named := decode_ok decoded ⟨"Role",[("oneof",request.role = "customer" ∨ request.role = "eo")]⟩
    (by simp [RegisterRequest.checks]) _ (List.mem_singleton.mpr rfl)
  rcases of_decide_eq_true named with role | role
  · rw [role] at ok
    cases ok
    rfl
  · rw [role] at ok
    cases ok
    rfl

theorem registerOrganizer_open {body : Option RegisterOrganizerRequest} {call : Call}
    (ok : registerOrganizer isEmail body = .ok call) : call.open = true := by
  obtain ⟨request,_,ok⟩ := decoded_of_ok ok
  cases ok
  rfl

theorem login_open {body : Option LoginRequest} {call : Call} (ok : login isEmail body = .ok call) :
    call.open = true := by
  obtain ⟨request,_,ok⟩ := decoded_of_ok ok
  cases ok
  rfl

theorem refresh_open {body : Option RefreshRequest} {call : Call} (ok : refresh body = .ok call) :
    call.open = true := by
  obtain ⟨request,_,ok⟩ := decoded_of_ok ok
  cases ok
  rfl

end AuthHandler
end Ticketbus.Auth
