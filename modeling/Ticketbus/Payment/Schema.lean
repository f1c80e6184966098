import Ticketbus.Outbox
import Mathlib.Data.List.Sort

/-! The payment service's data: its domain types and the tables of its migrations.
Rows carry their CHECK constraints, tables their primary keys and the database
its UNIQUE columns and its foreign key. -/
namespace Ticketbus.Payment
open Ticketbus.Relational

abbrev ID := Nat

/-- Instants in nanoseconds, counted from Go's zero time. -/
abbrev Time := Int

inductive TransactionStatus where
  | initiated
  | pending
  | completed
  | expired
  deriving DecidableEq, Repr

/-- `ActiveStatuses`. -/
def TransactionStatus.active : TransactionStatus → Bool
  | .initiated | .pending => true
  | .completed | .expired => false

/-- The column `refund_status` of a transaction. -/
inductive RefundStatus where
  | none
  | pending
  | success
  deriving DecidableEq, Repr

/-- The column `status` of a refund request. -/
inductive RefundState where
  | pending
  | processing
  | succeeded
  | failed
  deriving DecidableEq, Repr

inductive RefundReason where
  | latePayment
  | eventCancelled
  deriving DecidableEq, Repr

/-- The two forms of key, `late-payment:` and `event-cancelled:` before a transaction id. -/
inductive IdempotencyKey where
  | latePayment (transactionID : ID)
  | eventCancelled (transactionID : ID)
  deriving DecidableEq, Repr

def IdempotencyKey.transactionID : IdempotencyKey → ID
  | .latePayment id | .eventCancelled id => id

structure Transaction where
  id : ID
  userID : ID
  bookingID : ID
  eventID : ID
  amountRupiah : Int
  currency : String
  status : TransactionStatus
  provider : String
  providerRef : String
  paymentLinkURL : String
  customerEmail : String
  refundStatus : RefundStatus
  expiresAt : Option Time
  createdAt : Time
  deriving DecidableEq, Repr

structure RefundRequest where
  id : ID
  eventID : ID
  bookingID : ID
  transactionID : ID
  customerEmail : String
  amountRupiah : Int
  currency : String
  status : RefundState
  reason : RefundReason
  providerRef : String
  idempotencyKey : IdempotencyKey
  deriving DecidableEq, Repr

inductive ExpiryReason where
  | gatewayExpired
  | internalExpiryFallback
  deriving DecidableEq, Repr

/-- Messages of the payment outbox: the topics `payment.completed` and `payment.expired`. -/
inductive Message where
  | completed (transactionID bookingID eventID userID : ID) (at_ : Time)
  | expired (transactionID bookingID eventID userID : ID) (reason : ExpiryReason) (at_ : Time)
  deriving DecidableEq, Repr

namespace Message

def transactionID : Message → ID
  | .completed id .. | .expired id .. => id

def bookingID : Message → ID
  | .completed _ id .. | .expired _ id .. => id

def eventID : Message → ID
  | .completed _ _ id .. | .expired _ _ id .. => id

def userID : Message → ID
  | .completed _ _ _ id _ | .expired _ _ _ id .. => id

/-- The status of the transaction that the topic reports. -/
def outcome : Message → TransactionStatus
  | .completed .. => .completed
  | .expired .. => .expired

end Message

/-- What `CreateSession` asks of the gateway. -/
structure SessionRequest where
  refID : ID
  amountRupiah : Int
  currency : String
  expiresAt : Time
  allowedChannels : List String
  email : String
  deriving DecidableEq, Repr

structure SessionResult where
  providerRef : String
  paymentLinkURL : String
  expiresAt : Time
  deriving DecidableEq, Repr

structure TransactionRow where
  transaction : Transaction
  check : 0 ≤ transaction.amountRupiah ∧ Int8 transaction.amountRupiah
  deriving DecidableEq

structure RefundRow where
  refund : RefundRequest
  check : 0 ≤ refund.amountRupiah ∧ Int8 refund.amountRupiah
  deriving DecidableEq

def TransactionRow.id (row : TransactionRow) : ID := row.transaction.id

def TransactionRow.bookingID (row : TransactionRow) : ID := row.transaction.bookingID

/-- The columns of a transaction that any UPDATE writes; the others never change. -/
def TransactionRow.write (row : TransactionRow) (status : TransactionStatus)
    (providerRef paymentLinkURL : String) (refundStatus : RefundStatus) : TransactionRow :=
  ⟨{row.transaction with
    status := status
    providerRef := providerRef
    paymentLinkURL := paymentLinkURL
    refundStatus := refundStatus},row.check⟩

def RefundRow.id (row : RefundRow) : ID := row.refund.id

def RefundRow.key (row : RefundRow) : IdempotencyKey := row.refund.idempotencyKey

structure Database where
  transactions : Table TransactionRow TransactionRow.id
  refunds : Table RefundRow RefundRow.id
  bookings_unique : (transactions.rows.map TransactionRow.bookingID).Nodup
  keys_unique : (refunds.rows.map RefundRow.key).Nodup
  refunds_transaction : ∀ row ∈ refunds.rows, (transactions.find? row.refund.transactionID).isSome

namespace Database

def empty : Database := ⟨∅,∅,List.nodup_nil,List.nodup_nil,by simp⟩

def transactionOf (db : Database) (bookingID : ID) : Option TransactionRow :=
  db.transactions.rows.find? fun row => row.bookingID = bookingID

def refundFor (db : Database) (key : IdempotencyKey) : Option RefundRow :=
  db.refunds.rows.find? fun row => row.key = key

def addTransaction (db : Database) (row : TransactionRow) (fresh : db.transactions.find? row.id = none)
    (unbooked : db.transactionOf row.bookingID = none) : Database where
  transactions := db.transactions.insert row fresh
  refunds := db.refunds
  bookings_unique := Table.unique_append db.bookings_unique unbooked
  keys_unique := db.keys_unique
  refunds_transaction refund member := Table.find?_insert_isSome row fresh (db.refunds_transaction refund member)

def setTransaction (db : Database) (row : TransactionRow) (member : row ∈ db.transactions.rows)
    (status : TransactionStatus) (providerRef paymentLinkURL : String) (refundStatus : RefundStatus) :
    Database where
  transactions := db.transactions.replace (row.write status providerRef paymentLinkURL refundStatus)
  refunds := db.refunds
  bookings_unique := by
    have same := db.transactions.map_replace (row.write status providerRef paymentLinkURL refundStatus) row
      TransactionRow.bookingID (Table.find?_of_mem member) rfl
    rw [same]
    exact db.bookings_unique
  keys_unique := db.keys_unique
  refunds_transaction := by
    intro refund member
    rw [Table.find?_replace_isSome]
    exact db.refunds_transaction refund member

def addRefund (db : Database) (row : RefundRow) (fresh : db.refunds.find? row.id = none)
    (unkeyed : db.refundFor row.key = none)
    (transaction : (db.transactions.find? row.refund.transactionID).isSome) : Database where
  transactions := db.transactions
  refunds := db.refunds.insert row fresh
  bookings_unique := db.bookings_unique
  keys_unique := Table.unique_append db.keys_unique unkeyed
  refunds_transaction := by
    intro refund member
    rcases (Table.mem_insert ..).mp member with inside | rfl
    · exact db.refunds_transaction refund inside
    · exact transaction

end Database

/-- Everything outside the service's own memory: its database and outbox, the
sessions open at the gateway and how many it has created, the clock and the uuid supply. -/
structure World where
  db : Database
  outbox : Outbox.Store Message
  sessions : List String
  created : Nat
  clock : Time
  nextID : ID

def World.initial : World := ⟨.empty,.empty,[],0,0,0⟩

end Ticketbus.Payment
