import Ticketbus.Payment.Schema

/-! The statements that the payment service issues, one for each SQL statement of
its repositories and for each request to the gateway, and what becomes of them. -/
namespace Ticketbus.Payment
open Ticketbus.Relational

namespace Database

def create (db : Database) (now : Time) (txn : Transaction) : Except DbError (Unit × Database) :=
  if check : 0 ≤ txn.amountRupiah ∧ Int8 txn.amountRupiah then
    let row : TransactionRow := ⟨{txn with createdAt := now},check⟩
    if fresh : db.transactions.find? row.id = none then
      if unbooked : db.transactionOf row.bookingID = none then .ok ((),db.addTransaction row fresh unbooked)
      else .error .uniqueViolation
    else .error .uniqueViolation
  else .error .checkViolation

/-- SELECT ... WHERE booking_id=$1; the column is UNIQUE. -/
def findByBookingID (db : Database) (bookingID : ID) : Except DbError Transaction :=
  match db.transactionOf bookingID with
  | none => .error .noRows
  | some row => .ok row.transaction

/-- UPDATE transactions SET status=$1, provider_ref=$2 WHERE id=$3 AND a condition on the status. -/
def transition (db : Database) (condition : TransactionStatus → Bool) (id : ID) (status : TransactionStatus)
    (providerRef : String) : Except DbError (Nat × Database) :=
  match found : db.transactions.find? id with
  | none => .ok (0,db)
  | some row =>
    if condition row.transaction.status then
      .ok (1,db.setTransaction row (Table.find?_mem found) status providerRef row.transaction.paymentLinkURL
        row.transaction.refundStatus)
    else .ok (0,db)

/-- WHERE id=$3 AND status IN ('initiated','pending') -/
def transitionIfActive (db : Database) (id : ID) (status : TransactionStatus) (providerRef : String) :
    Except DbError (Nat × Database) := db.transition TransactionStatus.active id status providerRef

/-- WHERE id=$3 AND status='initiated' -/
def transitionIfInitiated (db : Database) (id : ID) (status : TransactionStatus) (providerRef : String) :
    Except DbError (Nat × Database) := db.transition (fun stored => stored = .initiated) id status providerRef

/-- UPDATE transactions SET provider_ref=$1, payment_link_url=$2 WHERE id=$3 -/
def updateSession (db : Database) (id : ID) (providerRef paymentLinkURL : String) :
    Except DbError (Unit × Database) :=
  match found : db.transactions.find? id with
  | none => .ok ((),db)
  | some row => .ok ((),db.setTransaction row (Table.find?_mem found) row.transaction.status providerRef
      paymentLinkURL row.transaction.refundStatus)

/-- UPDATE transactions SET refund_status=$1 WHERE id=$2 -/
def updateRefundStatus (db : Database) (id : ID) (refundStatus : RefundStatus) :
    Except DbError (Unit × Database) :=
  match found : db.transactions.find? id with
  | none => .ok ((),db)
  | some row => .ok ((),db.setTransaction row (Table.find?_mem found) row.transaction.status
      row.transaction.providerRef row.transaction.paymentLinkURL refundStatus)

def listByEventID (db : Database) (eventID : ID) : List Transaction :=
  ((db.transactions.rows.filter (fun row => row.transaction.eventID = eventID)).insertionSort
    (fun left right => right.transaction.createdAt ≤ left.transaction.createdAt)).map TransactionRow.transaction

/-- Whether an active transaction's deadline has passed. -/
def overdue (now : Time) (txn : Transaction) : Bool :=
  txn.status.active && txn.expiresAt.any fun expiresAt => expiresAt ≤ now

/-- ... AND expires_at <= $1 ORDER BY expires_at ASC LIMIT $2 -/
def listActiveExpired (db : Database) (now : Time) (limit : Nat) : List Transaction :=
  (((db.transactions.rows.map TransactionRow.transaction).filter (overdue now)).insertionSort
    (fun left right => left.expiresAt.getD 0 ≤ right.expiresAt.getD 0)).take limit

/-- INSERT INTO refund_requests ... ON CONFLICT (idempotency_key) DO NOTHING -/
def createRefund (db : Database) (refund : RefundRequest) : Except DbError (Unit × Database) :=
  if check : 0 ≤ refund.amountRupiah ∧ Int8 refund.amountRupiah then
    let row : RefundRow := ⟨refund,check⟩
    if unkeyed : db.refundFor row.key = none then
      if fresh : db.refunds.find? row.id = none then
        if transaction : (db.transactions.find? row.refund.transactionID).isSome then
          .ok ((),db.addRefund row fresh unkeyed transaction)
        else .error .foreignKeyViolation
      else .error .uniqueViolation
    else .ok ((),db)
  else .error .checkViolation

end Database

inductive Statement where
  | newString
  | now
  | advance (duration : Nat)
  | create (txn : Transaction)
  | findByBookingID (bookingID : ID)
  | transitionIfActive (id : ID) (status : TransactionStatus) (providerRef : String)
  | transitionIfInitiated (id : ID) (status : TransactionStatus) (providerRef : String)
  | updateSession (id : ID) (providerRef paymentLinkURL : String)
  | updateRefundStatus (id : ID) (refundStatus : RefundStatus)
  | listByEventID (eventID : ID)
  | listActiveExpired (now : Time) (limit : Nat)
  | createRefund (refund : RefundRequest)
  | createSession (request : SessionRequest)
  | cancelSession (providerRef : String)
  | outbox (statement : Outbox.Statement Message)
  deriving DecidableEq

@[reducible] def Reply : Statement → Type
  | .newString => ID
  | .now => Time
  | .advance _ => Unit
  | .create _ => Except DbError Unit
  | .findByBookingID _ => Except DbError Transaction
  | .transitionIfActive _ _ _ => Except DbError Nat
  | .transitionIfInitiated _ _ _ => Except DbError Nat
  | .updateSession _ _ _ => Except DbError Unit
  | .updateRefundStatus _ _ => Except DbError Unit
  | .listByEventID _ => Except DbError (Rows Transaction)
  | .listActiveExpired _ _ => Except DbError (Rows Transaction)
  | .createRefund _ => Except DbError Unit
  | .createSession _ => Except DbError SessionResult
  | .cancelSession _ => Except DbError Unit
  | .outbox statement => Outbox.Reply statement

/-- The gateway's answer to its n-th request, and the settings of `PaymentService`. -/
structure Settings where
  gateway : Nat → SessionRequest → SessionResult
  provider : String
  gatewayExpiryBufferMin : Int
  allowedChannels : List String

abbrev World.put (world : World) (db : Database) : World := {world with db := db}

/-- The gateway opens a session; its answer may get lost. -/
def World.open (world : World) (fault : Fault) (result : SessionResult) : Except DbError SessionResult × World :=
  let sent := send fault world
    {world with sessions := result.providerRef :: world.sessions, created := world.created + 1}
  (sent.1.map fun _ => result,sent.2)

def execute (settings : Settings) (statement : Statement) (fault : Fault) (world : World) :
    Reply statement × World :=
  match statement with
  | .newString => (world.nextID,{world with nextID := world.nextID + 1})
  | .now => (world.clock,world)
  | .advance duration => ((),{world with clock := world.clock + duration})
  | .create txn => write World.put fault world (world.db.create world.clock txn)
  | .findByBookingID bookingID => query fault world (world.db.findByBookingID bookingID)
  | .transitionIfActive id status providerRef =>
    write World.put fault world (world.db.transitionIfActive id status providerRef)
  | .transitionIfInitiated id status providerRef =>
    write World.put fault world (world.db.transitionIfInitiated id status providerRef)
  | .updateSession id providerRef paymentLinkURL =>
    write World.put fault world (world.db.updateSession id providerRef paymentLinkURL)
  | .updateRefundStatus id refundStatus => write World.put fault world (world.db.updateRefundStatus id refundStatus)
  | .listByEventID eventID => stream fault world (world.db.listByEventID eventID)
  | .listActiveExpired now limit => stream fault world (world.db.listActiveExpired now limit)
  | .createRefund refund => write World.put fault world (world.db.createRefund refund)
  | .createSession request => world.open fault (settings.gateway world.created request)
  | .cancelSession providerRef =>
    send fault world {world with sessions := world.sessions.filter (· ≠ providerRef)}
  | .outbox statement =>
    let outcome := Outbox.execute statement fault world.outbox
    (outcome.1,{world with outbox := outcome.2})

end Ticketbus.Payment
