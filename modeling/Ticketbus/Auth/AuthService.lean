import Ticketbus.Auth.Statement
import Ticketbus.Concurrency.Ownership

/-! `AuthService` as programs over its statements, and as a pool of calls. -/
namespace Ticketbus.Auth
open Ticketbus.Concurrency Ticketbus.Relational

abbrev Task (α : Type) := Program Statement Reply α

/-- The service's errors; `db` is an error of the store passed on as it is. -/
inductive Error where
  | db (cause : DbError)
  | userExists
  | invalidCredentials
  | userNotFound
  | tokenNotFound
  | tokenExpired
  | hashFailed
  | signFailed
  | generateFailed
  deriving DecidableEq, Repr

structure AdminSeed where
  email : String
  password : String
  name : String
  deriving DecidableEq, Repr

def newString : Task ID := .perform .newString .done

def timeNow : Task Time := .perform .now .done

namespace UserRepo

def create (user : User) : Task (Except DbError Unit) := .perform (.createUser user) .done

def findByEmail (email : String) : Task (Except DbError User) := .perform (.findByEmail email) .done

def findByID (id : ID) : Task (Except DbError User) := .perform (.findUserByID id) .done

def deleteByID (id : ID) : Task (Except DbError Unit) := .perform (.deleteUserByID id) .done

end UserRepo

namespace RefreshTokenRepo

def create (token : RefreshToken) : Task (Except DbError Unit) := .perform (.createToken token) .done

def findByHash (hash : String) : Task (Except DbError RefreshToken) := .perform (.findByHash hash) .done

def deleteByHash (hash : String) : Task (Except DbError Unit) := .perform (.deleteByHash hash) .done

end RefreshTokenRepo

namespace Hasher

def hash (password : String) : Task (Option String) := .perform (.hashPassword password) .done

end Hasher

namespace TokenService

def generateAccessToken (userID : ID) (email : String) (role : Role) : Task (Option (String × Int)) :=
  .perform (.generateAccessToken userID email role) .done

def generateRefreshToken : Task (Option String) := .perform .generateRefreshToken .done

end TokenService

namespace AuthService

/-- A new user, the end of `Register` and of `seedOne`. -/
def createAccount (email password name : String) (role : Role) : Task (Except Error User) := do
  match ← Hasher.hash password with
  | none => return .error .hashFailed
  | some passwordHash =>
    let id ← newString
    let user : User := ⟨id,email,passwordHash,name,role⟩
    match ← UserRepo.create user with
    | .error error => return .error (.db error)
    | .ok () => return .ok user

/-- An email that cannot be looked up counts as one that is free. -/
def register (email password name : String) (role : Role) : Task (Except Error User) := do
  match ← UserRepo.findByEmail email with
  | .ok _ => return .error .userExists
  | .error _ => createAccount email password name role

def registerOrganizer (email password name : String) : Task (Except Error User) := register email password name .eo

/-- A new pair of tokens for a user, the end of `Login` and of `RefreshToken`. -/
def issueTokens (settings : Settings) (user : User) : Task (Except Error TokenPair) := do
  match ← TokenService.generateAccessToken user.id user.email user.role with
  | none => return .error .signFailed
  | some (accessToken,ttl) =>
    match ← TokenService.generateRefreshToken with
    | none => return .error .generateFailed
    | some refreshToken =>
      let id ← newString
      let now ← timeNow
      match ← RefreshTokenRepo.create ⟨id,user.id,settings.hashRefreshToken refreshToken,
          now + settings.refreshTokenTTL⟩ with
      | .error error => return .error (.db error)
      | .ok () => return .ok ⟨accessToken,refreshToken,Int.tdiv ttl 1000000000⟩

def login (settings : Settings) (email password : String) : Task (Except Error TokenPair) := do
  match ← UserRepo.findByEmail email with
  | .error _ => return .error .invalidCredentials
  | .ok user =>
    if settings.verify password user.passwordHash then issueTokens settings user
    else return .error .invalidCredentials

def refreshToken (settings : Settings) (rawRefreshToken : String) : Task (Except Error TokenPair) := do
  let hash := settings.hashRefreshToken rawRefreshToken
  match ← RefreshTokenRepo.findByHash hash with
  | .error _ => return .error .tokenNotFound
  | .ok stored =>
    let now ← timeNow
    if stored.expiresAt < now then return .error .tokenExpired
    else
      match ← UserRepo.findByID stored.userID with
      | .error _ => return .error .userNotFound
      | .ok user =>
        match ← RefreshTokenRepo.deleteByHash hash with
        | .error error => return .error (.db error)
        | .ok () => issueTokens settings user

def getMe (userID : ID) : Task (Except Error User) := do
  match ← UserRepo.findByID userID with
  | .error error => return .error (.db error)
  | .ok user => return .ok user

def deleteUser (userID : ID) : Task (Except Error Unit) := do
  match ← UserRepo.deleteByID userID with
  | .error error => return .error (.db error)
  | .ok () => return .ok ()

/-- `strings.SplitN(email, "@", 2)[0]`. -/
def localPart (email : String) : String := String.ofList (email.toList.takeWhile (· ≠ '@'))

def seedOne (email password name : String) : Task (Except Error Bool) := do
  match ← UserRepo.findByEmail email with
  | .ok _ => return .ok false
  | .error _ =>
    match ← createAccount email password name .admin with
    | .error error => return .error error
    | .ok _ => return .ok true

/-- The number of admins created so far, and the error that ended the loop. -/
def seedAdmins (created : Nat) : List AdminSeed → Task (Nat × Except Error Unit)
  | [] => return (created,.ok ())
  | seed :: rest => do
    let name := if seed.name = "" then localPart seed.email else seed.name
    match ← seedOne seed.email seed.password name with
    | .error error => return (created,.error error)
    | .ok true => seedAdmins (created + 1) rest
    | .ok false => seedAdmins created rest

end AuthService

inductive Call where
  | register (email password name : String) (role : Role)
  | registerOrganizer (email password name : String)
  | login (email password : String)
  | refreshToken (rawRefreshToken : String)
  | getMe (userID : ID)
  | deleteUser (userID : ID)
  | seedAdmins (admins : List AdminSeed)
  | wait (duration : Nat)
  deriving DecidableEq

inductive Result where
  | user (outcome : Except Error User)
  | pair (outcome : Except Error TokenPair)
  | unit (outcome : Except Error Unit)
  | seeded (created : Nat) (outcome : Except Error Unit)
  deriving DecidableEq

def program (settings : Settings) : Call → Task Result
  | .register email password name role => .user <$> AuthService.register email password name role
  | .registerOrganizer email password name => .user <$> AuthService.registerOrganizer email password name
  | .login email password => .pair <$> AuthService.login settings email password
  | .refreshToken rawRefreshToken => .pair <$> AuthService.refreshToken settings rawRefreshToken
  | .getMe userID => .user <$> AuthService.getMe userID
  | .deleteUser userID => .unit <$> AuthService.deleteUser userID
  | .seedAdmins admins => (fun outcome => .seeded outcome.1 outcome.2) <$> AuthService.seedAdmins 0 admins
  | .wait duration => .perform (.advance duration) fun _ => .done (.unit (.ok ()))

def service (settings : Settings) : Service Statement Reply World Fault Call Result where
  execute := execute settings
  program := program settings

abbrev Pool := Config Statement Reply World Call Result
abbrev Step := Action Call Fault
abbrev View := State Statement Reply World

end Ticketbus.Auth
