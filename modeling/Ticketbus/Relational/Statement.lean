import Mathlib.Algebra.Ring.Int.Defs
import Mathlib.Data.List.TakeDrop

/-! Statements against a relational store and how they can fail. It is assumed of the
database that a statement that reports an error has had no effect: a COMMIT that is executed
while its reply gets lost is not among the faults. A row stream may break off after a prefix,
in which case the error is only visible to a caller that asks for it. A message
to another process may arrive although its sender is told of an error. -/
namespace Ticketbus.Relational

inductive DbError where
  | connection
  | uniqueViolation
  | foreignKeyViolation
  | checkViolation
  | outOfRange
  | noRows
  deriving DecidableEq, Repr

/-- What the environment does to one statement. `broken n` cuts a row stream
after `n` rows; for a message to another process it loses the reply. -/
inductive Fault where
  | none
  | fail
  | broken (rows : Nat)
  deriving DecidableEq, Repr

def failingAt (position : Nat) : Nat → Fault := fun index => if index = position then .fail else .none

/-- A finished row stream: the scanned rows, and what `rows.Err()` would report. -/
structure Rows (α : Type) where
  items : List α
  err : Option DbError
  deriving DecidableEq, Repr

def Int4 (value : Int) : Prop := -2147483648 ≤ value ∧ value ≤ 2147483647

instance (value : Int) : Decidable (Int4 value) := inferInstanceAs (Decidable (_ ∧ _))

/-- The range of a PostgreSQL BIGINT, and of Go's `int`. -/
def Int8 (value : Int) : Prop := -9223372036854775808 ≤ value ∧ value ≤ 9223372036854775807

instance (value : Int) : Decidable (Int8 value) := inferInstanceAs (Decidable (_ ∧ _))

/-- Go's `int` arithmetic: two's complement at 64 bits. -/
def goInt (value : Int) : Int := Int.bmod value 18446744073709551616

theorem goInt_eq {value : Int} (small : Int8 value) : goInt value = value :=
  Int.bmod_eq_of_le_mul_two (by unfold Int8 at small; omega) (by unfold Int8 at small; omega)

theorem goInt_lt (value : Int) : goInt value < 9223372036854775808 := Int.bmod_lt (by decide)

theorem goInt_foldl {α : Type} (value : α → Int) (items : List α) (start : Int) :
    items.foldl (fun sum item => goInt (sum + value item)) (goInt start) = goInt (start + (items.map value).sum) := by
  induction items generalizing start with
  | nil => simp
  | cons item rest ih =>
    have head : goInt (goInt start + value item) = goInt (start + value item) := Int.bmod_add_bmod
    rw [List.foldl_cons,head,ih,List.map_cons,List.sum_cons,Int.add_assoc]

theorem goInt_add_eq_iff (first second : Int) : goInt (first + second) = goInt first ↔ goInt second = 0 := by
  unfold goInt
  rw [Int.bmod_eq_bmod_iff_bmod_sub_eq_zero,Int.add_comm,Int.add_sub_cancel]

theorem goInt_neg_le_iff {value : Int} (positive : 0 ≤ value) :
    goInt (-value) ≤ -value ↔ value ≤ 9223372036854775808 := by
  constructor
  · intro below
    have least : -9223372036854775808 ≤ goInt (-value) := Int.le_bmod (by decide)
    omega
  · intro fits
    exact Int.le_of_eq (Int.bmod_eq_of_le_mul_two (by omega) (by omega))

variable {World α : Type}

def query (fault : Fault) (world : World) (outcome : Except DbError α) : Except DbError α × World :=
  match fault with
  | .none => (outcome,world)
  | _ => (.error .connection,world)

def stream (fault : Fault) (world : World) (all : List α) : Except DbError (Rows α) × World :=
  match fault with
  | .none => (.ok ⟨all,none⟩,world)
  | .fail => (.error .connection,world)
  | .broken count => (.ok ⟨all.take count,some .connection⟩,world)

/-- The rows that a stream has brought when it ends. -/
def Fault.delivers (fault : Fault) (all : List α) : List α :=
  match fault with
  | .broken count => all.take count
  | _ => all

def Fault.Cuts (fault : Fault) (all : List α) : Prop :=
  match fault with
  | .broken count => count < all.length
  | _ => False

instance : (fault : Fault) → (all : List α) → Decidable (fault.Cuts all)
  | .none,_ => inferInstanceAs (Decidable False)
  | .fail,_ => inferInstanceAs (Decidable False)
  | .broken count,all => inferInstanceAs (Decidable (count < all.length))

/-- A write, or a whole transaction: it commits, or it reports an error and leaves the store alone. A commit whose
answer gets lost is not among the faults; for messages it is, see `send`. -/
def commit (fault : Fault) (world : World) (outcome : Except DbError (α × World)) :
    Except DbError α × World :=
  match fault,outcome with
  | .none,.ok (value,next) => (.ok value,next)
  | .none,.error error => (.error error,world)
  | _,_ => (.error .connection,world)

/-- A message to another process, whose reply may get lost. -/
def send (fault : Fault) (world sent : World) : Except DbError Unit × World :=
  match fault with
  | .none => (.ok (),sent)
  | .fail => (.error .connection,world)
  | .broken _ => (.error .connection,sent)

@[simp] theorem query_world (fault : Fault) (world : World) (outcome : Except DbError α) :
    (query fault world outcome).2 = world := by
  cases fault <;> rfl

@[simp] theorem stream_world (fault : Fault) (world : World) (all : List α) :
    (stream fault world all).2 = world := by
  cases fault <;> rfl

theorem query_eq {fault : Fault} {world later : World} {outcome reply : Except DbError α}
    (executed : query fault world outcome = (reply,later)) : later = world := by
  rw [← query_world fault world outcome,executed]

theorem stream_eq {fault : Fault} {world later : World} {all : List α} {reply : Except DbError (Rows α)}
    (executed : stream fault world all = (reply,later)) : later = world := by
  rw [← stream_world fault world all,executed]

theorem query_ok_iff {fault : Fault} {world : World} {outcome : Except DbError α} {value : α} :
    (query fault world outcome).1 = .ok value ↔ fault = .none ∧ outcome = .ok value := by
  cases fault with
  | none => simp [query]
  | fail => simp [query]
  | broken count => simp [query]

theorem query_ok {fault : Fault} {world : World} {outcome : Except DbError α} {value : α}
    (ok : (query fault world outcome).1 = .ok value) : outcome = .ok value := (query_ok_iff.mp ok).2

theorem query_fails {fault : Fault} (failed : fault ≠ .none) (world : World) (outcome : Except DbError α) :
    query fault world outcome = (.error .connection,world) := by
  cases fault with
  | none => exact absurd rfl failed
  | fail => rfl
  | broken count => rfl

theorem commit_fails {fault : Fault} (failed : fault ≠ .none) (world : World) (outcome : Except DbError (α × World)) :
    commit fault world outcome = (.error .connection,world) := by
  cases fault with
  | none => exact absurd rfl failed
  | fail => rfl
  | broken count => rfl

theorem Fault.delivers_prefix (fault : Fault) (all : List α) : fault.delivers all <+: all := by
  cases fault with
  | none => exact List.prefix_rfl
  | fail => exact List.prefix_rfl
  | broken count => exact List.take_prefix count all

theorem Fault.delivers_eq_iff (fault : Fault) (all : List α) : fault.delivers all = all ↔ ¬ fault.Cuts all := by
  cases fault with
  | none => simp [delivers,Cuts]
  | fail => simp [delivers,Cuts]
  | broken count => simp [delivers,Cuts]

theorem stream_ok {fault : Fault} {world : World} {all : List α} {rows : Rows α}
    (ok : (stream fault world all).1 = .ok rows) : rows.items = fault.delivers all := by
  cases fault with
  | none =>
    cases ok
    rfl
  | fail => cases ok
  | broken count =>
    cases ok
    rfl

theorem stream_part {fault : Fault} {world : World} {all : List α} {rows : Rows α}
    (ok : (stream fault world all).1 = .ok rows) : rows.items <+: all :=
  stream_ok ok ▸ fault.delivers_prefix all

theorem stream_complete {fault : Fault} {world : World} {all : List α} {rows : Rows α}
    (whole : ∀ count, fault ≠ .broken count)
    (ok : (stream fault world all).1 = .ok rows) : rows.items = all := by
  rw [stream_ok ok,Fault.delivers_eq_iff]
  cases fault with
  | none => exact id
  | fail => exact id
  | broken count => exact absurd rfl (whole count)

theorem stream_checked {fault : Fault} {world : World} {all items : List α}
    (ok : (stream fault world all).1 = .ok ⟨items,none⟩) : items = all := by
  cases fault with
  | none =>
    cases ok
    rfl
  | fail => cases ok
  | broken count => cases ok

theorem commit_cases (fault : Fault) (world : World) (outcome : Except DbError (α × World)) :
    (∃ value next, fault = .none ∧ outcome = .ok (value,next) ∧
      commit fault world outcome = (.ok value,next)) ∨
    (∃ error, commit fault world outcome = (.error error,world)) := by
  cases fault with
  | none =>
    cases outcome with
    | error error => exact .inr ⟨error,rfl⟩
    | ok pair => exact .inl ⟨pair.1,pair.2,rfl,rfl,rfl⟩
  | fail => exact .inr ⟨.connection,rfl⟩
  | broken count => exact .inr ⟨.connection,rfl⟩

section Write
variable {Part : Type} {put : World → Part → World} {fault : Fault} {world later : World}
variable {outcome : Except DbError (α × Part)} {reply : Except DbError α} {value : α} {error : DbError}

def write (put : World → Part → World) (fault : Fault) (world : World) (outcome : Except DbError (α × Part)) :
    Except DbError α × World := commit fault world (outcome.map fun pair => (pair.1,put world pair.2))

theorem write_cases (put : World → Part → World) (fault : Fault) (world : World)
    (outcome : Except DbError (α × Part)) :
    (∃ value part, fault = .none ∧ outcome = .ok (value,part) ∧
      write put fault world outcome = (.ok value,put world part)) ∨
    (∃ error, write put fault world outcome = (.error error,world)) := by
  rcases commit_cases fault world (outcome.map fun pair => (pair.1,put world pair.2)) with
    ⟨value,next,noFault,same,result⟩ | ⟨error,result⟩
  · cases outcome with
    | error error => cases same
    | ok pair =>
      cases same
      exact .inl ⟨pair.1,pair.2,noFault,rfl,result⟩
  · exact .inr ⟨error,result⟩

theorem write_eq (executed : write put fault world outcome = (reply,later)) :
    (∃ value part, reply = .ok value ∧ outcome = .ok (value,part) ∧ later = put world part) ∨
    ∃ error, reply = .error error ∧ later = world := by
  rcases write_cases put fault world outcome with ⟨value,part,_,same,result⟩ | ⟨error,result⟩
  · cases executed.symm.trans result
    exact .inl ⟨value,part,rfl,same,rfl⟩
  · cases executed.symm.trans result
    exact .inr ⟨error,rfl,rfl⟩

theorem write_committed (executed : write put fault world outcome = (.ok value,later)) :
    ∃ part, outcome = .ok (value,part) ∧ later = put world part := by
  rcases write_eq executed with ⟨_,part,reply,same,isPut⟩ | ⟨_,reply,_⟩
  · cases reply
    exact ⟨part,same,isPut⟩
  · cases reply

theorem write_failed (executed : write put fault world outcome = (.error error,later)) : later = world := by
  rcases write_eq executed with ⟨_,_,reply,_⟩ | ⟨_,_,same⟩
  · cases reply
  · exact same

theorem write_ok (ok : (write put fault world outcome).1 = .ok value) :
    ∃ part, outcome = .ok (value,part) ∧ (write put fault world outcome).2 = put world part :=
  write_committed (Prod.ext ok rfl)

theorem write_error (failed : (write put fault world outcome).1 = .error error) :
    (write put fault world outcome).2 = world := write_failed (Prod.ext failed rfl)

theorem write_keeps (property : World → Prop) (initially : property world)
    (committed : ∀ value part, outcome = .ok (value,part) → property (put world part)) :
    property (write put fault world outcome).2 := by
  rcases write_cases put fault world outcome with ⟨value,part,_,ok,result⟩ | ⟨error,result⟩
  · rw [result]
    exact committed value part ok
  · rw [result]
    exact initially

theorem write_part (get : World → Part) (property : Part → Prop) (initially : property (get world))
    (committed : ∀ value part, outcome = .ok (value,part) → property part)
    (reads : ∀ part, get (put world part) = part := by intros; rfl) :
    property (get (write put fault world outcome).2) :=
  write_keeps (fun after => property (get after)) initially fun value part ok => (reads part).symm ▸ committed value part ok

theorem write_frame (frame : World → World) (apart : ∀ part, put (frame world) part = frame (put world part)) :
    write put fault (frame world) outcome =
      ((write put fault world outcome).1,frame (write put fault world outcome).2) := by
  cases fault with
  | none =>
    cases outcome with
    | error error => rfl
    | ok pair => exact congrArg (Prod.mk _) (apart pair.2)
  | fail => rfl
  | broken count => rfl

end Write

theorem send_world (fault : Fault) (world sent : World) :
    (send fault world sent).2 = world ∨ (send fault world sent).2 = sent := by
  cases fault with
  | none => exact .inr rfl
  | fail => exact .inl rfl
  | broken count => exact .inr rfl

end Ticketbus.Relational
