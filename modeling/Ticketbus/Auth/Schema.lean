import Ticketbus.Relational.Table
import Ticketbus.Relational.Statement

/-! The auth service's data: its domain types and the tables of its migrations. The
database carries its primary keys, the UNIQUE email and the foreign key of the refresh
tokens; their `token_hash` is not UNIQUE. -/
namespace Ticketbus.Auth
open Ticketbus.Relational

abbrev ID := Nat

/-- Instants in nanoseconds, counted from Go's zero time. -/
abbrev Time := Int

inductive Role where
  | admin
  | eo
  | customer
  deriving DecidableEq, Repr

structure User where
  id : ID
  email : String
  passwordHash : String
  name : String
  role : Role
  deriving DecidableEq, Repr

structure RefreshToken where
  id : ID
  userID : ID
  tokenHash : String
  expiresAt : Time
  deriving DecidableEq, Repr

structure TokenPair where
  accessToken : String
  refreshToken : String
  expiresIn : Int
  deriving DecidableEq, Repr

structure Database where
  users : Table User User.id
  tokens : Table RefreshToken RefreshToken.id
  emails_unique : (users.rows.map User.email).Nodup
  tokens_user : ∀ token ∈ tokens.rows, (users.find? token.userID).isSome

namespace Database

def empty : Database := ⟨∅,∅,List.nodup_nil,by simp⟩

def userWith (db : Database) (email : String) : Option User := db.users.rows.find? fun user => user.email = email

def addUser (db : Database) (user : User) (fresh : db.users.find? user.id = none)
    (unused : db.userWith user.email = none) : Database where
  users := db.users.insert user fresh
  tokens := db.tokens
  emails_unique := Table.unique_append db.emails_unique unused
  tokens_user token member := Table.find?_insert_isSome user fresh (db.tokens_user token member)

def addToken (db : Database) (token : RefreshToken) (fresh : db.tokens.find? token.id = none)
    (user : (db.users.find? token.userID).isSome) : Database where
  users := db.users
  tokens := db.tokens.insert token fresh
  emails_unique := db.emails_unique
  tokens_user := by
    intro other member
    rcases (Table.mem_insert ..).mp member with inside | rfl
    · exact db.tokens_user other inside
    · exact user

/-- The tokens that a DELETE leaves. -/
def keepTokens (db : Database) (kept : RefreshToken → Bool) : Database where
  users := db.users
  tokens := ⟨db.tokens.rows.filter kept,db.tokens.distinct.sublist (List.filter_sublist.map _)⟩
  emails_unique := db.emails_unique
  tokens_user token member := db.tokens_user token (List.mem_of_mem_filter member)

/-- A user goes with its tokens, as of ON DELETE CASCADE. -/
def removeUser (db : Database) (id : ID) : Database where
  users := db.users.erase id
  tokens := ⟨db.tokens.rows.filter fun token => token.userID ≠ id,
    db.tokens.distinct.sublist (List.filter_sublist.map _)⟩
  emails_unique := db.emails_unique.sublist (List.filter_sublist.map _)
  tokens_user := by
    intro token member
    obtain ⟨stored,other⟩ := List.mem_filter.mp member
    obtain ⟨user,found⟩ := Option.isSome_iff_exists.mp (db.tokens_user token stored)
    have kept : user ∈ (db.users.erase id).rows := by
      refine List.mem_filter.mpr ⟨Table.find?_mem found,decide_eq_true ?_⟩
      rw [Table.find?_key found]
      exact of_decide_eq_true other
    rw [← Table.find?_key found]
    exact Table.isSome_of_mem kept

end Database

/-- Everything outside the service's own memory: its database, the clock, and the
supplies of uuids, of salts and of refresh tokens. -/
structure World where
  db : Database
  clock : Time
  nextID : ID
  salts : Nat
  issued : Nat

def World.initial : World := ⟨.empty,0,0,0,0⟩

end Ticketbus.Auth
