import Ticketbus.Concurrency.Locks
import Ticketbus.Ticketing.Loaders
import Ticketbus.Ticketing.Rollback

/-! Concurrent calls of `TransitionAndReleaseSeats`, one UPDATE at a time. An UPDATE takes
the lock of the row that it changes, and waits while another transaction holds it; the
locks are held until the transaction ends. What a transaction has written is seen when it
commits. -/
namespace Ticketbus.Ticketing
open Ticketbus.Concurrency Ticketbus.Relational

inductive Row where
  | booking (id : ID)
  | ticketType (id : ID)
  deriving DecidableEq, Repr

/-- The arguments of a call; the booking is the caller's copy. -/
structure ReleaseCall where
  booking : Booking
  toStatus : BookingStatus
  deriving DecidableEq, Repr

inductive Progress where
  | starting
  | releasing (items : List BookingItem)
  | ended
  deriving DecidableEq, Repr

/-- The committed database, the locks and how far each transaction has come. -/
structure Transactions (Agent : Type) where
  db : Database
  holder : Row → Option Agent
  progress : Agent → Progress

inductive Move where
  | proceed
  | rollback
  deriving DecidableEq, Repr

namespace Transactions
variable {Agent : Type} [DecidableEq Agent]

def start (db : Database) : Transactions Agent := ⟨db,fun _ => none,fun _ => .starting⟩

/-- The row that the next UPDATE of a transaction changes, if there is one. -/
def request (calls : Agent → ReleaseCall) (state : Transactions Agent) (agent : Agent) : Option Row :=
  match state.progress agent with
  | .starting =>
    match state.db.bookings.find? (calls agent).booking.id with
    | none => none
    | some row => if row.status = (calls agent).booking.status then some (.booking (calls agent).booking.id) else none
  | .releasing (item :: _) =>
    if (state.db.ticketTypes.find? item.ticketTypeID).isSome then some (.ticketType item.ticketTypeID) else none
  | .releasing [] | .ended => none

def grant (state : Transactions Agent) (agent : Agent) (row : Row) (next : Progress) : Transactions Agent where
  db := state.db
  holder := Function.update state.holder row (some agent)
  progress := Function.update state.progress agent next

def pass (state : Transactions Agent) (agent : Agent) (next : Progress) : Transactions Agent where
  db := state.db
  holder := state.holder
  progress := Function.update state.progress agent next

def finish (state : Transactions Agent) (agent : Agent) (db : Database) : Transactions Agent where
  db := db
  holder := fun row => if state.holder row = some agent then none else state.holder row
  progress := Function.update state.progress agent .ended

def proceed (calls : Agent → ReleaseCall) (state : Transactions Agent) (agent : Agent) : Option (Transactions Agent) :=
  match state.progress agent with
  | .starting =>
    match state.request calls agent with
    | none => some (state.finish agent state.db)
    | some row =>
      if state.holder row = none ∨ state.holder row = some agent then
        some (state.grant agent row (.releasing (calls agent).booking.items))
      else none
  | .releasing (_ :: rest) =>
    match state.request calls agent with
    | none => some (state.pass agent (.releasing rest))
    | some row =>
      if state.holder row = none ∨ state.holder row = some agent then some (state.grant agent row (.releasing rest))
      else none
  | .releasing [] =>
    match state.db.transitionAndReleaseSeats (calls agent).booking (calls agent).toStatus with
    | .error _ => some (state.finish agent state.db)
    | .ok (_,db) => some (state.finish agent db)
  | .ended => none

/-- A transaction can be rolled back at any time, by an error or by PostgreSQL. -/
def step (calls : Agent → ReleaseCall) (state : Transactions Agent) (agent : Agent) : Move → Option (Transactions Agent)
  | .proceed => state.proceed calls agent
  | .rollback => if state.progress agent = .ended then none else some (state.finish agent state.db)

def Reaches (calls : Agent → ReleaseCall) : Transactions Agent → Transactions Agent → Prop :=
  Relation.ReflTransGen fun state after => ∃ agent move, state.step calls agent move = some after

/-- A transaction cannot go on because another one holds the lock that it needs. -/
def Waits (calls : Agent → ReleaseCall) (state : Transactions Agent) (agent other : Agent) : Prop :=
  ∃ row, state.request calls agent = some row ∧ state.holder row = some other ∧ other ≠ agent

/-! The locks of a state, without the data. -/

def plan (call : ReleaseCall) : Progress → List Row
  | .starting => .booking call.booking.id :: call.booking.items.map fun item => .ticketType item.ticketTypeID
  | .releasing items => items.map fun item => .ticketType item.ticketTypeID
  | .ended => []

def locking (calls : Agent → ReleaseCall) (state : Transactions Agent) : Locking Agent Row where
  holder := state.holder
  wanted := fun agent => plan (calls agent) (state.progress agent)

variable {calls : Agent → ReleaseCall} {state after : Transactions Agent} {agent other : Agent}

theorem plan_update (next : Progress) :
    (fun other => plan (calls other) (Function.update state.progress agent next other)) =
      Function.update (state.locking calls).wanted agent (plan (calls agent) next) := by
  funext other
  exact Function.apply_update (fun other => plan (calls other)) state.progress agent next other

theorem locking_grant (row : Row) (next : Progress) :
    (state.grant agent row next).locking calls = (state.locking calls).take agent row (plan (calls agent) next) := by
  rw [locking,grant,Locking.take,plan_update]
  rfl

theorem locking_pass (next : Progress) :
    (state.pass agent next).locking calls = (state.locking calls).skip agent (plan (calls agent) next) := by
  rw [locking,pass,Locking.skip,plan_update]
  rfl

theorem locking_finish (db : Database) :
    (state.finish agent db).locking calls = (state.locking calls).finish agent := by
  rw [locking,finish,Locking.finish,plan_update]
  rfl

omit [DecidableEq Agent] in
theorem request_cases {row : Row} (requested : state.request calls agent = some row) :
    (state.progress agent = .starting ∧ row = .booking (calls agent).booking.id ∧
      ∃ stored, state.db.bookings.find? (calls agent).booking.id = some stored ∧
        stored.status = (calls agent).booking.status) ∨
    ∃ item rest, state.progress agent = .releasing (item :: rest) ∧ row = .ticketType item.ticketTypeID := by
  unfold request at requested
  split at requested
  · rename_i start
    split at requested
    · cases requested
    · rename_i stored found
      split at requested
      · rename_i same
        cases requested
        exact .inl ⟨start,rfl,stored,found,same⟩
      · cases requested
  · rename_i item rest next
    split at requested
    · cases requested
      exact .inr ⟨item,rest,next,rfl⟩
    · cases requested
  · cases requested
  · cases requested

inductive Stepped (calls : Agent → ReleaseCall) (state : Transactions Agent) (agent : Agent) :
    Transactions Agent → Prop
  | first {row : BookingRow} (start : state.progress agent = .starting)
      (found : state.db.bookings.find? (calls agent).booking.id = some row)
      (same : row.status = (calls agent).booking.status)
      (free : state.holder (.booking (calls agent).booking.id) = none ∨
        state.holder (.booking (calls agent).booking.id) = some agent) :
      Stepped calls state agent
        (state.grant agent (.booking (calls agent).booking.id) (.releasing (calls agent).booking.items))
  | item {item : BookingItem} {rest : List BookingItem} (next : state.progress agent = .releasing (item :: rest))
      (free : state.holder (.ticketType item.ticketTypeID) = none ∨
        state.holder (.ticketType item.ticketTypeID) = some agent) :
      Stepped calls state agent (state.grant agent (.ticketType item.ticketTypeID) (.releasing rest))
  | pass {item : BookingItem} {rest : List BookingItem} (next : state.progress agent = .releasing (item :: rest)) :
      Stepped calls state agent (state.pass agent (.releasing rest))
  | rollback : Stepped calls state agent (state.finish agent state.db)
  | commit {applied : Bool} {db : Database} (last : state.progress agent = .releasing [])
      (written : state.db.transitionAndReleaseSeats (calls agent).booking (calls agent).toStatus = .ok (applied,db)) :
      Stepped calls state agent (state.finish agent db)

theorem stepped_of_step {move : Move} (step : state.step calls agent move = some after) :
    Stepped calls state agent after := by
  cases move with
  | rollback =>
    simp only [Transactions.step] at step
    split at step
    · cases step
    · cases step
      exact .rollback
  | proceed =>
    simp only [Transactions.step,proceed] at step
    split at step
    · rename_i start
      split at step
      · cases step
        exact .rollback
      · rename_i row requested
        split at step
        · rename_i free
          cases step
          rcases request_cases requested with ⟨_,rfl,stored,found,same⟩ | ⟨item,rest,next,_⟩
          · exact .first start found same free
          · cases start.symm.trans next
        · cases step
    · rename_i item rest next
      split at step
      · cases step
        exact .pass next
      · rename_i row requested
        split at step
        · rename_i free
          cases step
          rcases request_cases requested with ⟨start,_⟩ | ⟨_,_,same,rfl⟩
          · cases start.symm.trans next
          · cases next.symm.trans same
            exact .item next free
        · cases step
    · rename_i last
      split at step
      · cases step
        exact .rollback
      · rename_i written
        cases step
        exact .commit last written
    · cases step

theorem Stepped.locking (stepped : Stepped calls state agent after) :
    Locking.Step (state.locking calls) (after.locking calls) := by
  have wanted {progress : Progress} (same : state.progress agent = progress) :
      (state.locking calls).wanted agent = plan (calls agent) progress :=
    congrArg (plan (calls agent)) same
  cases stepped with
  | first start _ _ free =>
    rw [locking_grant]
    exact .take (wanted start) free
  | item next free =>
    rw [locking_grant]
    exact .take (wanted next) free
  | pass next =>
    rw [locking_pass]
    exact .skip (wanted next)
  | rollback | commit =>
    rw [locking_finish]
    exact .finish _ agent

omit [DecidableEq Agent] in
theorem Waits.locking (waits : state.Waits calls agent other) : (state.locking calls).Waits agent other := by
  obtain ⟨row,requested,holds,foreign⟩ := waits
  rcases request_cases requested with ⟨start,rfl,_⟩ | ⟨item,rest,next,rfl⟩
  · exact ⟨_,_,congrArg (plan (calls agent)) start,holds,foreign⟩
  · exact ⟨_,_,congrArg (plan (calls agent)) next,holds,foreign⟩

theorem Reaches.locking (reaches : Reaches calls state after) :
    Relation.ReflTransGen Locking.Step (state.locking calls) (after.locking calls) :=
  reaches.lift (Transactions.locking calls) fun _ _ ⟨_,_,step⟩ => (stepped_of_step step).locking

def follow (calls : Agent → ReleaseCall) : List (Agent × Move) → Transactions Agent → Option (Transactions Agent)
  | [],state => some state
  | (agent,move) :: rest,state => (state.step calls agent move).bind (follow calls rest)

theorem reaches_of_follow {moves : List (Agent × Move)} (followed : follow calls moves state = some after) :
    Reaches calls state after := by
  induction moves generalizing state with
  | nil =>
    cases followed
    exact .refl
  | cons move rest ih =>
    obtain ⟨next,step,remaining⟩ := Option.bind_eq_some_iff.mp followed
    exact .head ⟨move.1,move.2,step⟩ (ih remaining)

/-! A lock keeps the row as the transaction has found it. -/

def Kept (calls : Agent → ReleaseCall) (state : Transactions Agent) : Prop :=
  ∀ agent items, state.progress agent = .releasing items →
    state.holder (.booking (calls agent).booking.id) = some agent ∧
      ∃ row, state.db.bookings.find? (calls agent).booking.id = some row ∧ row.status = (calls agent).booking.status

omit [DecidableEq Agent] in
theorem Kept.distinct (kept : state.Kept calls) {items : List BookingItem}
    (busy : state.progress other = .releasing items) (foreign : other ≠ agent)
    (free : state.holder (.booking (calls agent).booking.id) = none ∨
      state.holder (.booking (calls agent).booking.id) = some agent) :
    (calls agent).booking.id ≠ (calls other).booking.id := by
  intro same
  have holds := (kept other items busy).1
  rw [← same] at holds
  rcases free with free | own
  · cases free.symm.trans holds
  · exact foreign (Option.some.inj (holds.symm.trans own))

theorem Kept.finish (kept : state.Kept calls) {db : Database}
    (stored : ∀ other items, other ≠ agent → state.progress other = .releasing items →
      db.bookings.find? (calls other).booking.id = state.db.bookings.find? (calls other).booking.id) :
    (state.finish agent db).Kept calls := by
  intro other items busy
  change Function.update state.progress agent .ended other = _ at busy
  by_cases own : other = agent
  · rw [own,Function.update_self] at busy
    cases busy
  · rw [Function.update_of_ne own] at busy
    obtain ⟨holds,row,found,same⟩ := kept other items busy
    refine ⟨?_,row,(stored other items own busy).trans found,same⟩
    change (if state.holder _ = some agent then none else state.holder _) = _
    rw [holds,if_neg fun mine => own (Option.some.inj mine)]

theorem Kept.step (kept : state.Kept calls) (stepped : Stepped calls state agent after) : after.Kept calls := by
  intro other items busy
  cases stepped with
  | @first row start found same free =>
    change Function.update state.progress agent _ other = _ at busy
    by_cases own : other = agent
    · subst own
      exact ⟨Function.update_self ..,row,found,same⟩
    · rw [Function.update_of_ne own] at busy
      obtain ⟨holds,stored⟩ := kept other items busy
      refine ⟨?_,stored⟩
      have apart := kept.distinct busy own free
      exact (Function.update_of_ne (fun same => apart (Row.booking.inj same).symm) ..).trans holds
  | @item item rest next free =>
    change Function.update state.progress agent _ other = _ at busy
    have before : ∃ items, state.progress other = .releasing items := by
      by_cases own : other = agent
      · exact ⟨_,own ▸ next⟩
      · exact ⟨items,(Function.update_of_ne own ..).symm.trans busy⟩
    obtain ⟨items,busy⟩ := before
    obtain ⟨holds,stored⟩ := kept other items busy
    have apart : Row.booking (calls other).booking.id ≠ .ticketType item.ticketTypeID := nofun
    exact ⟨(Function.update_of_ne apart (some agent) state.holder).trans holds,stored⟩
  | @pass item rest next =>
    change Function.update state.progress agent _ other = _ at busy
    by_cases own : other = agent
    · exact kept other _ (own ▸ next)
    · exact kept other items ((Function.update_of_ne own ..).symm.trans busy)
  | rollback => exact kept.finish (fun _ _ _ _ => rfl) other items busy
  | @commit applied db last written =>
    refine kept.finish (fun other items foreign busy => ?_) other items busy
    rcases Database.transitionAndReleaseSeats_ok written with
      ⟨_,rfl,_⟩ | ⟨_,row,next,middle,key,_,moved,_,released⟩
    · rfl
    · have apart := kept.distinct busy foreign (.inr (kept agent [] last).1)
      rw [(Database.releaseAll_frame released).2.1,moved.found,if_neg (key ▸ apart)]

theorem Reaches.kept {db : Database} (reaches : Reaches calls (.start db) state) : state.Kept calls := by
  induction reaches with
  | refl => exact fun _ _ start => nomatch start
  | tail _ step ih =>
    obtain ⟨agent,move,step⟩ := step
    exact ih.step (stepped_of_step step)

/-- A transaction that has locked its booking finds it as it was when it commits: the
steps of a call do together what the one statement of the service's model does. -/
theorem commit_applies {db : Database} (reaches : Reaches calls (.start db) state) {items : List BookingItem}
    (busy : state.progress agent = .releasing items) {applied : Bool} {written : Database}
    (committed : state.db.transitionAndReleaseSeats (calls agent).booking (calls agent).toStatus =
      .ok (applied,written)) : applied = true := by
  obtain ⟨_,row,found,same⟩ := reaches.kept agent items busy
  rcases Database.transitionAndReleaseSeats_ok committed with ⟨_,_,changed⟩ | ⟨applied,_⟩
  · exact absurd same (changed row found)
  · exact applied

end Transactions

inductive Row.Before (before : ID → ID → Prop) : Row → Row → Prop
  | kinds (bookingID ticketTypeID : ID) : Before before (.booking bookingID) (.ticketType ticketTypeID)
  | ticketTypes {one other : ID} (ordered : before one other) : Before before (.ticketType one) (.ticketType other)

instance (before : ID → ID → Prop) [IsStrictOrder ID before] : IsStrictOrder Row (Row.Before before) where
  irrefl := by
    rintro row ⟨⟩
    rename_i id itself
    exact irrefl id itself
  trans := by
    intro first second third one two
    cases one with
    | kinds bookingID ticketTypeID =>
      cases two
      exact .kinds _ _
    | ticketTypes ordered =>
      cases two with
      | ticketTypes next => exact .ticketTypes (IsTrans.trans _ _ _ ordered next)

/-- The items' ticket types follow the order, repetitions apart. -/
def Booking.Along (before : ID → ID → Prop) (booking : Booking) : Prop :=
  booking.items.Pairwise fun one other => one.ticketTypeID = other.ticketTypeID ∨ before one.ticketTypeID other.ticketTypeID

instance (before : ID → ID → Prop) [DecidableRel before] (booking : Booking) : Decidable (booking.Along before) :=
  inferInstanceAs (Decidable (List.Pairwise _ _))

/-- Where every call has its items along one order of the ticket types, no cycle of waiting
transactions is ever reached. -/
theorem releases_never_deadlock {Agent : Type} [DecidableEq Agent] (calls : Agent → ReleaseCall)
    (before : ID → ID → Prop) [IsStrictOrder ID before] (along : ∀ agent, (calls agent).booking.Along before)
    (db : Database) (state : Transactions Agent) (reaches : Transactions.Reaches calls (.start db) state)
    (agent : Agent) : ¬Relation.TransGen (state.Waits calls) agent agent := by
  intro cycle
  have ordered : ((Transactions.start db).locking calls).Ordered (Row.Before before) := by
    refine ⟨fun agent => ?_,fun agent lock held => nomatch held⟩
    refine List.pairwise_cons.mpr ⟨fun row later => ?_,?_⟩
    · obtain ⟨item,_,rfl⟩ := List.mem_map.mp later
      exact .inr (.kinds _ _)
    · refine List.pairwise_map.mpr ((along agent).imp fun ordered => ?_)
      rcases ordered with same | ordered
      · exact .inl (congrArg Row.ticketType same)
      · exact .inr (.ticketTypes ordered)
  exact (ordered.run reaches.locking).acyclic agent (cycle.lift id fun _ _ waits => waits.locking)

/-- Two pending bookings of the same two ticket types, in different orders. -/
def crossed : Database :=
  ((((onHold.addBooking (awaiting 4 9) rfl rfl).addItem (oneSeat 5 3 1) rfl rfl).addItem (oneSeat 6 3 2) rfl rfl).addItem
    (oneSeat 7 4 2) rfl rfl).addItem (oneSeat 8 4 1) rfl rfl

/-- The copies that two workers have of these bookings; the second one's items can be listed
in either order. -/
def crossedCalls (swapped : Bool) (worker : Bool) : ReleaseCall :=
  if worker then
    ⟨⟨4,9,0,.pending,some 100,10,if swapped then [⟨7,4,2,1,5,5⟩,⟨8,4,1,1,5,5⟩] else [⟨8,4,1,1,5,5⟩,⟨7,4,2,1,5,5⟩]⟩,.expired⟩
  else ⟨⟨3,8,0,.pending,some 100,10,[⟨5,3,1,1,5,5⟩,⟨6,3,2,1,5,5⟩]⟩,.expired⟩

/-- The second worker waits for the first, and there is no cycle. -/
theorem releases_never_deadlock_aligned : ∃ state, Transactions.Reaches (crossedCalls false) (.start crossed) state ∧
    state.Waits (crossedCalls false) true false ∧
    ∀ worker, ¬Relation.TransGen (state.Waits (crossedCalls false)) worker worker := by
  have view : (Transactions.follow (crossedCalls false) [(false,.proceed),(true,.proceed),(false,.proceed)]
      (.start crossed)).map (fun state => (state.request (crossedCalls false) true,state.holder (.ticketType 1))) =
        some (some (.ticketType 1),some false) := by
    decide +kernel
  obtain ⟨state,followed,view⟩ := Option.map_eq_some_iff.mp view
  have reaches := Transactions.reaches_of_follow followed
  refine ⟨state,reaches,⟨_,congrArg Prod.fst view,congrArg Prod.snd view,nofun⟩,?_⟩
  have along : ∀ worker, (crossedCalls false worker).booking.Along (· < ·) := by decide
  exact releases_never_deadlock (crossedCalls false) (· < ·) along crossed state reaches

/-- Both workers have loaded their bookings from the database. Each locks its booking and
its first ticket type, and then needs the ticket type of the other. -/
theorem releases_deadlock :
    (∀ worker, ((BookingRepo.findByID (crossedCalls true worker).booking.id).run execute (fun _ => .none)
      {stocked with db := crossed}).value = .ok (crossedCalls true worker).booking) ∧
    ∃ state, Transactions.Reaches (crossedCalls true) (.start crossed) state ∧
      state.Waits (crossedCalls true) false true ∧ state.Waits (crossedCalls true) true false ∧
      Relation.TransGen (state.Waits (crossedCalls true)) false false := by
  refine ⟨by decide +kernel,?_⟩
  have view : (Transactions.follow (crossedCalls true)
      [(false,.proceed),(true,.proceed),(false,.proceed),(true,.proceed)] (.start crossed)).map (fun state =>
        ((state.request (crossedCalls true) false,state.holder (.ticketType 2)),
          state.request (crossedCalls true) true,state.holder (.ticketType 1))) =
        some ((some (.ticketType 2),some true),some (.ticketType 1),some false) := by
    decide +kernel
  obtain ⟨state,followed,view⟩ := Option.map_eq_some_iff.mp view
  obtain ⟨first,second⟩ := Prod.mk.inj view
  have one : state.Waits (crossedCalls true) false true := ⟨_,congrArg Prod.fst first,congrArg Prod.snd first,nofun⟩
  have two : state.Waits (crossedCalls true) true false := ⟨_,congrArg Prod.fst second,congrArg Prod.snd second,nofun⟩
  exact ⟨state,Transactions.reaches_of_follow followed,one,two,.tail (.single one) two⟩

end Ticketbus.Ticketing
