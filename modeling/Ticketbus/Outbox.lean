import Mathlib.Data.List.Sort
import Ticketbus.Concurrency.Program
import Ticketbus.Relational.Statement
import Ticketbus.Relational.Table

/-! The outbox shared by the services (pkg/outbox): the table, the store that
inserts into it, and the worker that publishes undelivered rows to Kafka. -/
namespace Ticketbus.Outbox
open Ticketbus.Concurrency Ticketbus.Relational

structure Row (Message : Type) where
  id : Nat
  message : Message
  delivered : Bool
  deriving DecidableEq, Repr

/-- The outbox table with its BIGSERIAL counter, and the messages that the producer has sent;
which of them a topic gets is not decided here. -/
structure Store (Message : Type) where
  rows : Table (Row Message) Row.id
  serial : Nat
  broker : List Message
  below : ∀ row ∈ rows.rows, row.id < serial

namespace Store
variable {Message : Type}

def empty : Store Message := ⟨∅,0,[],by simp⟩

/-- The messages that have been inserted, delivered or not. -/
def messages (store : Store Message) : List Message := store.rows.rows.map Row.message

def insert (store : Store Message) (message : Message) : Store Message where
  rows := store.rows.insert ⟨store.serial,message,false⟩ (by
    rw [Table.find?_eq_none]
    intro row member
    exact Nat.ne_of_lt (store.below row member))
  serial := store.serial + 1
  broker := store.broker
  below := by
    intro row member
    rcases (Table.mem_insert ..).mp member with old | rfl
    · exact Nat.lt_succ_of_lt (store.below row old)
    · exact Nat.lt_succ_self _

def markDelivered (store : Store Message) (id : Nat) : Store Message :=
  match found : store.rows.find? id with
  | none => store
  | some row =>
    { store with
      rows := store.rows.replace {row with delivered := true}
      below := by
        intro other member
        rcases (Table.mem_replace ..).mp member with ⟨old,_⟩ | ⟨rfl,_⟩
        · exact store.below other old
        · exact store.below row (Table.find?_mem found) }

def produce (store : Store Message) (message : Message) : Store Message :=
  {store with broker := message :: store.broker}

@[simp] theorem messages_insert (store : Store Message) (message : Message) :
    (store.insert message).messages = store.messages ++ [message] := by
  simp [messages,insert,Table.insert]

@[simp] theorem messages_produce (store : Store Message) (message : Message) :
    (store.produce message).messages = store.messages := rfl

@[simp] theorem messages_markDelivered (store : Store Message) (id : Nat) :
    (store.markDelivered id).messages = store.messages := by
  unfold markDelivered
  split
  · rfl
  · rename_i row found
    have key : row.id = id := Table.find?_key found
    have stored : store.rows.find? row.id = some row := key.symm ▸ found
    exact store.rows.map_replace {row with delivered := true} row Row.message stored rfl

@[simp] theorem broker_markDelivered (store : Store Message) (id : Nat) :
    (store.markDelivered id).broker = store.broker := by
  unfold markDelivered
  split <;> rfl

/-- SELECT ... WHERE delivered = false ORDER BY id LIMIT 100 -/
def undelivered (store : Store Message) : List (Row Message) :=
  ((store.rows.rows.filter (fun row => !row.delivered)).insertionSort (fun left right => left.id ≤ right.id)).take 100

theorem undelivered_stored {store : Store Message} {row : Row Message} (selected : row ∈ store.undelivered) :
    row ∈ store.rows.rows ∧ row.delivered = false := by
  have waiting := (List.mem_insertionSort _).mp (List.mem_of_mem_take selected)
  simpa using List.mem_filter.mp waiting

end Store

inductive Statement (Message : Type) where
  | insert (message : Message)
  | undelivered
  | produce (message : Message)
  | markDelivered (id : Nat)
  deriving DecidableEq

def Statement.inserts {Message : Type} : Statement Message → Bool
  | .insert _ => true
  | _ => false

@[reducible] def Reply {Message : Type} : Statement Message → Type
  | .insert _ => Except DbError Unit
  | .undelivered => Except DbError (Rows (Row Message))
  | .produce _ => Except DbError Unit
  | .markDelivered _ => Except DbError Unit

def execute {Message : Type} (statement : Statement Message) (fault : Fault) (store : Store Message) :
    Reply statement × Store Message :=
  match statement with
  | .insert message => commit fault store (.ok ((),store.insert message))
  | .undelivered => stream fault store store.undelivered
  | .produce message => send fault store (store.produce message)
  | .markDelivered id => commit fault store (.ok ((),store.markDelivered id))

theorem execute_messages {Message : Type} (statement : Statement Message) (fault : Fault)
    (store : Store Message) :
    (execute statement fault store).2.messages = store.messages ∨
      ∃ message, statement = .insert message ∧ fault = .none ∧
        (execute statement fault store).2.messages = store.messages ++ [message] := by
  cases statement with
  | insert message =>
    cases fault with
    | none => exact .inr ⟨message,rfl,rfl,Store.messages_insert store message⟩
    | fail | broken _ => exact .inl rfl
  | undelivered => exact .inl (congrArg Store.messages (stream_world ..))
  | produce message =>
    rcases send_world fault store (store.produce message) with same | same
    · exact .inl (congrArg Store.messages same)
    · exact .inl ((congrArg Store.messages same).trans (Store.messages_produce store message))
  | markDelivered id =>
    cases fault with
    | none => exact .inl (Store.messages_markDelivered store id)
    | fail | broken _ => exact .inl rfl

theorem execute_broker {Message : Type} (statement : Statement Message) (fault : Fault)
    (store : Store Message) :
    (execute statement fault store).2.broker = store.broker ∨
      ∃ message, statement = .produce message ∧
        (execute statement fault store).2.broker = message :: store.broker := by
  cases statement with
  | insert message => cases fault <;> exact .inl rfl
  | undelivered => exact .inl (congrArg Store.broker (stream_world ..))
  | produce message =>
    rcases send_world fault store (store.produce message) with same | same
    · exact .inl (congrArg Store.broker same)
    · exact .inr ⟨message,rfl,congrArg Store.broker same⟩
  | markDelivered id =>
    cases fault with
    | none => exact .inl (Store.broker_markDelivered store id)
    | fail | broken _ => exact .inl rfl

theorem execute_messages_mono {Message : Type} (statement : Statement Message) (fault : Fault)
    (store : Store Message) (message : Message) (inserted : message ∈ store.messages) :
    message ∈ (execute statement fault store).2.messages := by
  rcases execute_messages statement fault store with same | ⟨_,_,_,same⟩
  · rwa [same]
  · rw [same]
    exact List.mem_append_left _ inserted

/-- `Store.Insert`. -/
def insert {Message : Type} (message : Message) :
    Program (Statement Message) Reply (Except DbError Unit) := .perform (.insert message) .done

/-- `Worker.publish`. -/
def publish {Message : Type} (row : Row Message) :
    Program (Statement Message) Reply (Except DbError Unit) := .perform (.produce row.message) .done

def selectUndelivered {Message : Type} :
    Program (Statement Message) Reply (Except DbError (Rows (Row Message))) := .perform .undelivered .done

def markDelivered {Message : Type} (id : Nat) :
    Program (Statement Message) Reply (Except DbError Unit) := .perform (.markDelivered id) .done

/-- The worker's jobs loop over one batch: a row that fails to publish is left
for a later pass, a row whose mark fails will be published again. -/
def publishAll {Message : Type} : List (Row Message) → Program (Statement Message) Reply Unit
  | [] => return ()
  | row :: rest => do
    match ← publish row with
    | .error _ => publishAll rest
    | .ok _ =>
      let _ ← markDelivered row.id
      publishAll rest

def processBatch {Message : Type} : Program (Statement Message) Reply Unit := do
  match ← selectUndelivered with
  | .error _ => return ()
  -- a scan error skips its row; the end of the stream is not checked for errors
  | .ok rows => publishAll rows.items

theorem publishAll_issues {Message : Type} {permitted : Statement Message → Prop}
    (produce : ∀ message, permitted (.produce message)) (mark : ∀ id, permitted (.markDelivered id))
    (rows : List (Row Message)) : (publishAll rows).Issues permitted := by
  induction rows with
  | nil => trivial
  | cons row rest ih =>
    refine ⟨produce _,fun reply => ?_⟩
    cases reply with
    | error error => exact ih
    | ok value => exact ⟨mark _,fun _ => ih⟩

theorem processBatch_issues {Message : Type} {permitted : Statement Message → Prop}
    (select : permitted .undelivered) (produce : ∀ message, permitted (.produce message))
    (mark : ∀ id, permitted (.markDelivered id)) : processBatch.Issues permitted := by
  refine ⟨select,fun reply => ?_⟩
  cases reply with
  | error error => trivial
  | ok rows => exact publishAll_issues produce mark rows.items

end Ticketbus.Outbox
