import Ticketbus.Auth.Schema
import Ticketbus.Payment.PaymentService
import Mathlib.Algebra.Order.BigOperators.Group.List
import Mathlib.Algebra.Order.Ring.Nat

/-! The read endpoints of the payment service, each of which makes one query. An id from
the path is `none` where it is not a UUID; instants are shown to the second. -/
namespace Ticketbus.Payment
open Ticketbus.Relational

/-- What `WithUserContext` has put into the context, if anything. -/
structure Caller where
  userID : Option ID
  role : Option Auth.Role
  deriving DecidableEq, Repr

structure TransactionResponse where
  id : ID
  bookingID : ID
  eventID : ID
  amountRupiah : Int
  currency : String
  status : TransactionStatus
  refundStatus : RefundStatus
  paymentLinkURL : Option String
  expiresAt : Option Int
  createdAt : Int
  deriving DecidableEq, Repr

structure PaymentStatusResponse where
  transactionID : ID
  status : TransactionStatus
  paymentLinkURL : Option String
  amountRupiah : Int
  currency : String
  deriving DecidableEq, Repr

inductive Body where
  | transaction (data : TransactionResponse)
  | transactions (data : List TransactionResponse)
  | paymentStatus (data : PaymentStatusResponse)
  | error (message : String)
  deriving DecidableEq, Repr

structure Response where
  status : Nat
  body : Body
  deriving DecidableEq, Repr

/-- A text with the tag `omitempty`. -/
def omitEmpty (text : String) : Option String := if text = "" then none else some text

def seconds (time : Time) : Int := time / 1000000000

/-- `formatTime`: nothing is shown for nil and for the zero time. -/
def formatTime : Option Time → Option Int
  | none => none
  | some time => if time = 0 then none else some (seconds time)

namespace Database

/-- SELECT ... WHERE id=$1 -/
def findByID (db : Database) : Option ID → Except DbError Transaction
  | none => .error .outOfRange
  | some id =>
    match db.transactions.find? id with
    | none => .error .noRows
    | some row => .ok row.transaction

/-- `findByBookingID` for an id from the path. -/
def findByBooking (db : Database) : Option ID → Except DbError Transaction
  | none => .error .outOfRange
  | some bookingID => db.findByBookingID bookingID

/-- SELECT ... WHERE user_id=$1 ORDER BY created_at DESC, which leaves the order of rows
that were created at the same instant to PostgreSQL. -/
def ListsByUser (db : Database) (userID : ID) (txns : List Transaction) : Prop :=
  txns.Perm ((db.transactions.rows.filter fun row => row.transaction.userID = userID).map TransactionRow.transaction) ∧
    txns.Pairwise fun left right => right.createdAt ≤ left.createdAt

end Database

/-- `PaymentService.GetPaymentStatus`: every error is a missing transaction. -/
def PaymentService.getPaymentStatus (reply : Except DbError Transaction) : Except Error Transaction :=
  reply.mapError fun _ => .transactionNotFound

namespace PaymentHandler

def notFound : Response := ⟨404,.error "transaction not found"⟩

def summary (txn : Transaction) : TransactionResponse :=
  ⟨txn.id,txn.bookingID,txn.eventID,txn.amountRupiah,txn.currency,txn.status,txn.refundStatus,none,none,
    seconds txn.createdAt⟩

/-- GET /api/payments/booking/{booking_id} -/
def getPaymentStatus (db : Database) (fault : Fault) (bookingID : Option ID) : Response :=
  match PaymentService.getPaymentStatus (query fault () (db.findByBooking bookingID)).1 with
  | .error .transactionNotFound => notFound
  | .error _ => ⟨500,.error "failed to load payment status"⟩
  | .ok txn => ⟨200,.paymentStatus ⟨txn.id,txn.status,omitEmpty txn.paymentLinkURL,txn.amountRupiah,txn.currency⟩⟩

/-- GET /api/payments/{id}/status -/
def getStatus (db : Database) (fault : Fault) (id : Option ID) : Response :=
  match (query fault () (db.findByID id)).1 with
  | .error _ => notFound
  | .ok txn => ⟨200,.transaction (summary txn)⟩

/-- GET /api/payments/{txn_id} -/
def getTransaction (db : Database) (fault : Fault) (caller : Caller) (txnID : Option ID) : Response :=
  match (query fault () (db.findByID txnID)).1 with
  | .error _ => notFound
  | .ok txn =>
    if some txn.userID ≠ caller.userID then notFound
    else ⟨200,.transaction {summary txn with
      paymentLinkURL := omitEmpty txn.paymentLinkURL
      expiresAt := formatTime txn.expiresAt}⟩

/-- GET /api/payments, with the rows as PostgreSQL has ordered them. -/
def listTransactions (fault : Fault) (txns : List Transaction) : Response :=
  match TransactionRepo.collectTxns (stream fault () txns).1 with
  | .error _ => ⟨500,.error "failed to list transactions"⟩
  | .ok txns => ⟨200,.transactions (txns.map summary)⟩

end PaymentHandler

inductive ReadRequest where
  | listTransactions
  | getTransaction (txnID : Option ID)
  | getStatus (id : Option ID)
  | getPaymentStatus (bookingID : Option ID)
  deriving DecidableEq, Repr

/-- The responses that a request can get; all four routes are behind `RequireRole`. -/
def Serves (db : Database) (fault : Fault) (caller : Caller) (request : ReadRequest) (response : Response) : Prop :=
  if caller.role = some .customer then
    match request with
    | .listTransactions =>
      match caller.userID with
      | none => response = ⟨401,.error "authentication required"⟩
      | some userID => ∃ txns, db.ListsByUser userID txns ∧ response = PaymentHandler.listTransactions fault txns
    | .getTransaction txnID => response = PaymentHandler.getTransaction db fault caller txnID
    | .getStatus id => response = PaymentHandler.getStatus db fault id
    | .getPaymentStatus bookingID => response = PaymentHandler.getPaymentStatus db fault bookingID
  else response = ⟨403,.error "insufficient permissions"⟩

/-! Whose transactions a response can depend on. -/

section Visibility
variable {userID : ID} {one other : Database}

/-- Two databases with the same transactions of a user. -/
def Agree (userID : ID) (one other : Database) : Prop :=
  ∀ row : TransactionRow, row.transaction.userID = userID → (row ∈ one.transactions.rows ↔ row ∈ other.transactions.rows)

theorem Agree.symm (agree : Agree userID one other) : Agree userID other one := fun row own => (agree row own).symm

/-- The transaction that a request asks for by an id, whoever's it is. -/
def ReadRequest.names (request : ReadRequest) (row : TransactionRow) : Bool :=
  match request with
  | .getTransaction (some txnID) => row.id = txnID
  | .getStatus (some id) => row.id = id
  | .getPaymentStatus (some bookingID) => row.bookingID = bookingID
  | _ => false

def ReadRequest.named (request : ReadRequest) (db : Database) : Option TransactionRow :=
  db.transactions.rows.find? request.names

theorem ReadRequest.names_unique (request : ReadRequest) (db : Database) {left right : TransactionRow}
    (inLeft : left ∈ db.transactions.rows) (inRight : right ∈ db.transactions.rows)
    (isLeft : request.names left = true) (isRight : request.names right = true) : left = right := by
  have same_id {id : ID} (first : left.id = id) (second : right.id = id) : left = right :=
    db.transactions.eq_of_key inLeft inRight (first.trans second.symm)
  cases request with
  | listTransactions => cases isLeft
  | getTransaction txnID =>
    cases txnID with
    | none => cases isLeft
    | some txnID => exact same_id (of_decide_eq_true isLeft) (of_decide_eq_true isRight)
  | getStatus id =>
    cases id with
    | none => cases isLeft
    | some id => exact same_id (of_decide_eq_true isLeft) (of_decide_eq_true isRight)
  | getPaymentStatus bookingID =>
    cases bookingID with
    | none => cases isLeft
    | some bookingID =>
      exact List.inj_on_of_nodup_map db.bookings_unique inLeft inRight
        ((of_decide_eq_true isLeft).trans (of_decide_eq_true isRight).symm)

theorem ReadRequest.named_of_mem {request : ReadRequest} {db : Database} {row : TransactionRow}
    (stored : row ∈ db.transactions.rows) (isNamed : request.names row = true) : request.named db = some row := by
  cases found : request.named db with
  | none => exact absurd isNamed (List.find?_eq_none.mp found row stored)
  | some other =>
    rw [request.names_unique db (List.mem_of_find?_eq_some found) stored (List.find?_some found) isNamed]

theorem Agree.named (agree : Agree userID one other) (request : ReadRequest) {row : TransactionRow}
    (found : request.named one = some row) (own : row.transaction.userID = userID) : request.named other = some row :=
  ReadRequest.named_of_mem ((agree row own).mp (List.mem_of_find?_eq_some found)) (List.find?_some found)

theorem Agree.listsByUser (agree : Agree userID one other) {txns : List Transaction}
    (lists : one.ListsByUser userID txns) : other.ListsByUser userID txns := by
  refine ⟨lists.1.trans (List.Perm.map _ ?_),lists.2⟩
  have distinct (db : Database) : (db.transactions.rows.filter fun row => row.transaction.userID = userID).Nodup :=
    (List.Nodup.of_map _ db.transactions.distinct).filter _
  refine (List.perm_ext_iff_of_nodup (distinct one) (distinct other)).mpr fun row => ?_
  rw [List.mem_filter,List.mem_filter]
  constructor
  · rintro ⟨stored,own⟩
    exact ⟨(agree row (of_decide_eq_true own)).mp stored,own⟩
  · rintro ⟨stored,own⟩
    exact ⟨(agree row (of_decide_eq_true own)).mpr stored,own⟩

theorem getTransaction_hidden {db : Database} {fault : Fault} {caller : Caller} {id : ID}
    (hidden : ∀ row, db.transactions.find? id = some row → some row.transaction.userID ≠ caller.userID) :
    PaymentHandler.getTransaction db fault caller (some id) = PaymentHandler.notFound := by
  unfold PaymentHandler.getTransaction
  split
  · rfl
  · rename_i txn reply
    have read := query_ok reply
    simp only [Database.findByID] at read
    split at read
    · cases read
    · rename_i row found
      cases read
      exact if_pos (hidden row found)

theorem Agree.getTransaction (agree : Agree userID one other) (fault : Fault) (role : Option Auth.Role) (txnID : Option ID) :
    PaymentHandler.getTransaction one fault ⟨some userID,role⟩ txnID =
      PaymentHandler.getTransaction other fault ⟨some userID,role⟩ txnID := by
  cases txnID with
  | none => rfl
  | some id =>
    by_cases visible : ∃ row, one.transactions.find? id = some row ∧ row.transaction.userID = userID
    · obtain ⟨row,found,own⟩ := visible
      have copy : other.transactions.find? id = some row :=
        agree.named (.getTransaction (some id)) found own
      simp only [PaymentHandler.getTransaction,Database.findByID,found,copy]
    · have hidden (row : TransactionRow) (found : one.transactions.find? id = some row) :
          some row.transaction.userID ≠ some userID :=
        fun own => visible ⟨row,found,Option.some.inj own⟩
      have alsoHidden (row : TransactionRow) (found : other.transactions.find? id = some row) :
          some row.transaction.userID ≠ some userID :=
        fun own => visible ⟨row,agree.symm.named (.getTransaction (some id)) found (Option.some.inj own),
          Option.some.inj own⟩
      rw [getTransaction_hidden hidden,getTransaction_hidden alsoHidden]

/-- The two requests that do not ask whose transaction it is. -/
def ReadRequest.unchecked : ReadRequest → Bool
  | .getStatus (some _) | .getPaymentStatus (some _) => true
  | _ => false

/-- The transactions agree in the columns that the request shows. -/
def ReadRequest.Alike (request : ReadRequest) (left right : Transaction) : Prop :=
  match request with
  | .getPaymentStatus _ => left.id = right.id ∧ left.status = right.status ∧
      left.paymentLinkURL = right.paymentLinkURL ∧ left.amountRupiah = right.amountRupiah ∧
      left.currency = right.currency
  | _ => left.id = right.id ∧ left.bookingID = right.bookingID ∧ left.eventID = right.eventID ∧
      left.amountRupiah = right.amountRupiah ∧ left.currency = right.currency ∧ left.status = right.status ∧
      left.refundStatus = right.refundStatus ∧ seconds left.createdAt = seconds right.createdAt

/-- What the request asks for by its id is absent from both databases, or looks alike in them. -/
def ReadRequest.Same (request : ReadRequest) (one other : Database) : Prop :=
  Option.Rel (fun left right => request.Alike left.transaction right.transaction) (request.named one)
    (request.named other)

theorem ReadRequest.Alike.status {request : ReadRequest} {left right : Transaction}
    (alike : request.Alike left right) : left.status = right.status := by
  unfold Alike at alike
  split at alike
  · exact alike.2.1
  · exact alike.2.2.2.2.2.1

theorem ReadRequest.Alike.refl (request : ReadRequest) (txn : Transaction) : request.Alike txn txn := by
  unfold Alike
  split <;> simp

theorem omitEmpty_inj {left right : String} : omitEmpty left = omitEmpty right ↔ left = right := by
  unfold omitEmpty
  split <;> split <;> simp_all

theorem getStatus_eq_iff (one other : Database) (id : ID) :
    PaymentHandler.getStatus one .none (some id) = PaymentHandler.getStatus other .none (some id) ↔
      (ReadRequest.getStatus (some id)).Same one other := by
  change _ ↔ Option.Rel _ (one.transactions.find? id) (other.transactions.find? id)
  cases first : one.transactions.find? id <;> cases second : other.transactions.find? id <;>
    simp [PaymentHandler.getStatus,query,Database.findByID,first,second,PaymentHandler.notFound,ReadRequest.Alike,
      PaymentHandler.summary]

theorem getPaymentStatus_eq_iff (one other : Database) (bookingID : ID) :
    PaymentHandler.getPaymentStatus one .none (some bookingID) =
        PaymentHandler.getPaymentStatus other .none (some bookingID) ↔
      (ReadRequest.getPaymentStatus (some bookingID)).Same one other := by
  change _ ↔ Option.Rel _ (one.transactionOf bookingID) (other.transactionOf bookingID)
  cases first : one.transactionOf bookingID <;> cases second : other.transactionOf bookingID <;>
    simp [PaymentHandler.getPaymentStatus,PaymentService.getPaymentStatus,query,Database.findByBooking,
      Database.findByBookingID,first,second,PaymentHandler.notFound,ReadRequest.Alike,omitEmpty_inj,Except.mapError]

theorem response_eq_iff {left right : Response} : (∀ response, response = left ↔ response = right) ↔ left = right :=
  ⟨fun same => (same left).mp rfl,fun same response => by rw [same]⟩

theorem Agree.answers (agree : Agree userID one other) (role : Option Auth.Role) (request : ReadRequest) (fault : Fault) :
    (∀ response, Serves one fault ⟨some userID,role⟩ request response ↔
        Serves other fault ⟨some userID,role⟩ request response) ↔
      role ≠ some .customer ∨ request.unchecked = false ∨ fault ≠ .none ∨ request.Same one other := by
  by_cases customer : role = some .customer
  · simp only [Serves,customer,if_true,ne_eq,not_true_eq_false,false_or]
    cases request with
    | listTransactions =>
      refine iff_of_true (fun response => ⟨?_,?_⟩) (.inl rfl)
      · rintro ⟨txns,lists,rfl⟩
        exact ⟨txns,agree.listsByUser lists,rfl⟩
      · rintro ⟨txns,lists,rfl⟩
        exact ⟨txns,agree.symm.listsByUser lists,rfl⟩
    | getTransaction txnID =>
      refine iff_of_true (response_eq_iff.mpr ?_) (.inl rfl)
      exact agree.getTransaction fault _ txnID
    | getStatus id =>
      cases id with
      | none => exact iff_of_true (response_eq_iff.mpr rfl) (.inl rfl)
      | some id =>
        rw [response_eq_iff]
        by_cases fails : fault = .none
        · simp [fails,getStatus_eq_iff,ReadRequest.unchecked]
        · refine iff_of_true ?_ (.inr (.inl fails))
          simp only [PaymentHandler.getStatus,query_fails fails]
    | getPaymentStatus bookingID =>
      cases bookingID with
      | none => exact iff_of_true (response_eq_iff.mpr rfl) (.inl rfl)
      | some bookingID =>
        rw [response_eq_iff]
        by_cases fails : fault = .none
        · simp [fails,getPaymentStatus_eq_iff,ReadRequest.unchecked]
        · refine iff_of_true ?_ (.inr (.inl fails))
          simp only [PaymentHandler.getPaymentStatus,query_fails fails]
  · simp [Serves,customer]

theorem exists_unused (rows : List TransactionRow) (column : TransactionRow → ID) :
    ∃ unused, rows.find? (fun row => column row = unused) = none := by
  refine ⟨(rows.map column).sum + 1,List.find?_eq_none.mpr fun row stored same => ?_⟩
  have below : column row ≤ (rows.map column).sum := List.single_le_sum (by simp) _ (List.mem_map_of_mem stored)
  rw [of_decide_eq_true same] at below
  exact Nat.not_succ_le_self _ below

theorem Agree.add (row : TransactionRow) (fresh : one.transactions.find? row.id = none)
    (unbooked : one.transactionOf row.bookingID = none) (foreign : row.transaction.userID ≠ userID) :
    Agree userID one (one.addTransaction row fresh unbooked) := by
  intro other own
  have inserted : other ∈ (one.addTransaction row fresh unbooked).transactions.rows ↔
      other ∈ one.transactions.rows ∨ other = row := by
    simp [Database.addTransaction,Table.insert]
  rw [inserted,or_iff_left]
  rintro rfl
  exact foreign own

theorem Agree.write {row : TransactionRow} (stored : row ∈ one.transactions.rows) (status : TransactionStatus)
    (foreign : row.transaction.userID ≠ userID) :
    Agree userID one (one.setTransaction row stored status row.transaction.providerRef row.transaction.paymentLinkURL
      row.transaction.refundStatus) := by
  intro other own
  refine Iff.trans ?_ (Table.mem_replace one.transactions _ other).symm
  constructor
  · intro member
    refine .inl ⟨member,fun same => foreign ?_⟩
    rw [← one.transactions.eq_of_key member stored same,own]
  · rintro (⟨member,_⟩ | ⟨rfl,_⟩)
    · exact member
    · exact absurd own foreign

theorem ReadRequest.exists_row {request : ReadRequest} (unchecked : request.unchecked = true)
    (absent : request.named one = none) (userID : ID) : ∃ row : TransactionRow, request.names row = true ∧
      one.transactions.find? row.id = none ∧ one.transactionOf row.bookingID = none ∧ row.transaction.userID = userID := by
  have free : 0 ≤ (0 : Int) ∧ Int8 0 := by decide
  cases request with
  | getStatus id =>
    cases id with
    | none => cases unchecked
    | some id =>
      obtain ⟨bookingID,unbooked⟩ := exists_unused one.transactions.rows TransactionRow.bookingID
      exact ⟨⟨⟨id,userID,bookingID,0,0,"",.initiated,"","","","",.none,none,0⟩,free⟩,decide_eq_true rfl,absent,
        unbooked,rfl⟩
  | getPaymentStatus bookingID =>
    cases bookingID with
    | none => cases unchecked
    | some bookingID =>
      obtain ⟨id,fresh⟩ := exists_unused one.transactions.rows TransactionRow.id
      exact ⟨⟨⟨id,userID,bookingID,0,0,"",.initiated,"","","","",.none,none,0⟩,free⟩,decide_eq_true rfl,fresh,
        absent,rfl⟩
  | _ => cases unchecked

theorem exists_agree {request : ReadRequest} (unchecked : request.unchecked = true)
    (foreign : ∀ row, request.named one = some row → row.transaction.userID ≠ userID) :
    ∃ other, Agree userID one other ∧ ¬request.Same one other := by
  cases found : request.named one with
  | none =>
    obtain ⟨row,isNamed,fresh,unbooked,owner⟩ := request.exists_row unchecked found (userID + 1)
    refine ⟨_,.add row fresh unbooked (owner ▸ Nat.succ_ne_self userID),fun same => ?_⟩
    have stored : row ∈ (one.addTransaction row fresh unbooked).transactions.rows := by
      simp [Database.addTransaction,Table.insert]
    rw [ReadRequest.Same,found,ReadRequest.named_of_mem stored isNamed] at same
    cases same
  | some row =>
    have stored := List.mem_of_find?_eq_some found
    obtain ⟨status,changed⟩ : ∃ status, row.transaction.status ≠ status := by
      cases row.transaction.status with
      | pending => exact ⟨.initiated,by decide⟩
      | _ => exact ⟨.pending,by decide⟩
    refine ⟨_,.write stored status (foreign row found),fun same => ?_⟩
    have written : row.write status row.transaction.providerRef row.transaction.paymentLinkURL
        row.transaction.refundStatus ∈ (one.setTransaction row stored status row.transaction.providerRef
          row.transaction.paymentLinkURL row.transaction.refundStatus).transactions.rows :=
      (Table.mem_replace ..).mpr (.inr ⟨rfl,(Table.isSome_of_mem stored : (one.transactions.find? row.id).isSome)⟩)
    have isNamed := List.find?_some found
    rw [ReadRequest.Same,found,ReadRequest.named_of_mem written (by cases request <;> exact isNamed)] at same
    cases same with
    | some alike => exact changed alike.status

/-- Two databases that agree on a customer's transactions answer the customer's request alike exactly if the query
fails, the request is none of the two status requests, or what it names looks alike in both. No other user's
transaction makes a difference exactly if a status request names one of the customer's own. -/
theorem own_payments_only (userID : ID) (role : Option Auth.Role) (request : ReadRequest) (fault : Fault) (one : Database) :
    (∀ other, Agree userID one other →
      ((∀ response, Serves one fault ⟨some userID,role⟩ request response ↔
          Serves other fault ⟨some userID,role⟩ request response) ↔
        role ≠ some .customer ∨ request.unchecked = false ∨ fault ≠ .none ∨ request.Same one other)) ∧
    ((∀ other, Agree userID one other → ∀ response, Serves one fault ⟨some userID,role⟩ request response ↔
          Serves other fault ⟨some userID,role⟩ request response) ↔
      role ≠ some .customer ∨ request.unchecked = false ∨ fault ≠ .none ∨
        ∃ row, request.named one = some row ∧ row.transaction.userID = userID) := by
  refine ⟨fun other agree => agree.answers role request fault,⟨fun alike => ?_,fun condition other agree => ?_⟩⟩
  · by_contra never
    simp only [ne_eq,not_or,not_not,Bool.not_eq_false,not_exists,not_and] at never
    obtain ⟨customer,unchecked,executed,foreign⟩ := never
    obtain ⟨other,agree,differs⟩ := exists_agree unchecked foreign
    rcases (agree.answers role request fault).mp (alike other agree) with barred | checked | fails | same
    · exact barred customer
    · cases unchecked.symm.trans checked
    · exact fails executed
    · exact differs same
  · refine (agree.answers role request fault).mpr (condition.imp_right (Or.imp_right (Or.imp_right ?_)))
    rintro ⟨row,found,own⟩
    rw [ReadRequest.Same,found,agree.named request found own]
    exact .some (.refl request row.transaction)

end Visibility

def paidByAnother : Database :=
  Database.empty.addTransaction
    ⟨⟨1,8,3,0,10,"IDR",.completed,"sandbox","ps","link","e",.none,none,0⟩,by decide⟩ rfl rfl

/-- User 5 asks for a transaction of user 8 and is told that there is none. -/
theorem own_payments_only_hidden :
    Serves paidByAnother .none ⟨some 5,some .customer⟩ (.getTransaction (some 1)) PaymentHandler.notFound := by
  have agree : Agree 5 .empty paidByAnother := by
    intro row own
    constructor
    · exact nofun
    · intro stored
      cases List.mem_singleton.mp stored
      cases own
  exact (((own_payments_only 5 (some .customer) (.getTransaction (some 1)) .none .empty).1 paidByAnother agree).mpr
    (.inr (.inl rfl)) PaymentHandler.notFound).mp rfl

/-- User 5 has no transaction in either database, and the two status requests show the one
of user 8. -/
theorem foreign_payment_shown :
    (∀ row ∈ paidByAnother.transactions.rows, row.transaction.userID = 8) ∧
    Serves .empty .none ⟨some 5,some .customer⟩ (.getStatus (some 1)) PaymentHandler.notFound ∧
    Serves paidByAnother .none ⟨some 5,some .customer⟩ (.getStatus (some 1))
      ⟨200,.transaction ⟨1,3,0,10,"IDR",.completed,.none,none,none,0⟩⟩ ∧
    ¬Serves paidByAnother .none ⟨some 5,some .customer⟩ (.getStatus (some 1)) PaymentHandler.notFound ∧
    Serves .empty .none ⟨some 5,some .customer⟩ (.getPaymentStatus (some 3)) PaymentHandler.notFound ∧
    Serves paidByAnother .none ⟨some 5,some .customer⟩ (.getPaymentStatus (some 3))
      ⟨200,.paymentStatus ⟨1,.completed,some "link",10,"IDR"⟩⟩ ∧
    ¬Serves paidByAnother .none ⟨some 5,some .customer⟩ (.getPaymentStatus (some 3)) PaymentHandler.notFound := by
  simp only [Serves]
  decide +kernel

end Ticketbus.Payment
