import Ticketbus.Auth.Schema
import Ticketbus.Concurrency.Program

/-! The auth service's statements: the SQL of its repositories, and what its hasher and
its token service are asked for. -/
namespace Ticketbus.Auth
open Ticketbus.Concurrency Ticketbus.Relational

/-- The configuration, and the cryptography as functions. `hash` takes the salt that
bcrypt has drawn; `refreshToken` numbers the values that are drawn, none of them twice. -/
structure Settings where
  accessTokenTTL : Int
  refreshTokenTTL : Int
  hash : Nat → String → Option String
  verify : String → String → Bool
  sign : ID → String → Role → Time → String
  refreshToken : Nat → String
  hashRefreshToken : String → String
  refreshToken_injective : Function.Injective refreshToken
  hash_injective : Function.Injective hashRefreshToken

namespace Database

/-- INSERT INTO users -/
def createUser (db : Database) (user : User) : Except DbError (Unit × Database) :=
  if fresh : db.users.find? user.id = none then
    if unused : db.userWith user.email = none then .ok ((),db.addUser user fresh unused)
    else .error .uniqueViolation
  else .error .uniqueViolation

/-- INSERT INTO refresh_tokens -/
def createToken (db : Database) (token : RefreshToken) : Except DbError (Unit × Database) :=
  if fresh : db.tokens.find? token.id = none then
    if user : (db.users.find? token.userID).isSome then .ok ((),db.addToken token fresh user)
    else .error .foreignKeyViolation
  else .error .uniqueViolation

def findByEmail (db : Database) (email : String) : Except DbError User :=
  match db.userWith email with
  | none => .error .noRows
  | some user => .ok user

def findUserByID (db : Database) (id : ID) : Except DbError User :=
  match db.users.find? id with
  | none => .error .noRows
  | some user => .ok user

/-- SELECT ... WHERE token_hash = $1, of which the first row is scanned. -/
def findByHash (db : Database) (hash : String) : Except DbError RefreshToken :=
  match db.tokens.rows.find? fun token => token.tokenHash = hash with
  | none => .error .noRows
  | some token => .ok token

/-- DELETE FROM refresh_tokens WHERE token_hash = $1, whatever there is. -/
def deleteByHash (db : Database) (hash : String) : Database := db.keepTokens fun token => token.tokenHash ≠ hash

end Database

inductive Statement where
  | newString
  | now
  | advance (duration : Nat)
  | hashPassword (password : String)
  | generateAccessToken (userID : ID) (email : String) (role : Role)
  | generateRefreshToken
  | createUser (user : User)
  | findByEmail (email : String)
  | findUserByID (id : ID)
  | deleteUserByID (id : ID)
  | createToken (token : RefreshToken)
  | findByHash (hash : String)
  | deleteByHash (hash : String)
  deriving DecidableEq

@[reducible] def Reply : Statement → Type
  | .newString => ID
  | .now => Time
  | .advance _ => Unit
  | .hashPassword _ => Option String
  | .generateAccessToken _ _ _ => Option (String × Int)
  | .generateRefreshToken => Option String
  | .createUser _ => Except DbError Unit
  | .findByEmail _ => Except DbError User
  | .findUserByID _ => Except DbError User
  | .deleteUserByID _ => Except DbError Unit
  | .createToken _ => Except DbError Unit
  | .findByHash _ => Except DbError RefreshToken
  | .deleteByHash _ => Except DbError Unit

abbrev World.put (world : World) (db : Database) : World := {world with db := db}

/-- What is asked of the cryptography fails on any fault. -/
def unlessFaulty {α : Type} (fault : Fault) (value : Option α) : Option α :=
  match fault with
  | .none => value
  | _ => none

def execute (settings : Settings) (statement : Statement) (fault : Fault) (world : World) :
    Reply statement × World :=
  match statement with
  | .newString => (world.nextID,{world with nextID := world.nextID + 1})
  | .now => (world.clock,world)
  | .advance duration => ((),{world with clock := world.clock + duration})
  | .hashPassword password =>
    (unlessFaulty fault (settings.hash world.salts password),{world with salts := world.salts + 1})
  | .generateAccessToken userID email role =>
    (unlessFaulty fault (some (settings.sign userID email role world.clock,settings.accessTokenTTL)),world)
  | .generateRefreshToken =>
    (unlessFaulty fault (some (settings.refreshToken world.issued)),{world with issued := world.issued + 1})
  | .createUser user => write World.put fault world (world.db.createUser user)
  | .findByEmail email => query fault world (world.db.findByEmail email)
  | .findUserByID id => query fault world (world.db.findUserByID id)
  | .deleteUserByID id => write World.put fault world (.ok ((),world.db.removeUser id))
  | .createToken token => write World.put fault world (world.db.createToken token)
  | .findByHash hash => query fault world (world.db.findByHash hash)
  | .deleteByHash hash => write World.put fault world (.ok ((),world.db.deleteByHash hash))

end Ticketbus.Auth
