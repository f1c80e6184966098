import Mathlib.Data.List.TakeWhile
import Ticketbus.Ticketing.Seats
import Ticketbus.Concurrency.Sequential

/-! What a `Reserve` that fails before its `Create` leaves behind, with no other request
running. The loop takes the seats of one line after the other; a line whose price does not
match ends it there and then, a line that finds no seats gives back the lines in front of
the first one with its ticket type. -/
namespace Ticketbus.Ticketing
open Ticketbus.Concurrency Ticketbus.Relational

/-- The quantities of a ticket type among the lines of a request. -/
def ordered (id : ID) (lines : List BookingItem) : Int :=
  ((lines.filter fun line => line.ticketTypeID = id).map BookingItem.quantity).sum

theorem ordered_append (id : ID) (left right : List BookingItem) :
    ordered id (left ++ right) = ordered id left + ordered id right := by
  simp [ordered]

theorem ordered_cons (id : ID) (line : BookingItem) (rest : List BookingItem) :
    ordered id (line :: rest) = (if line.ticketTypeID = id then line.quantity else 0) + ordered id rest := by
  by_cases same : line.ticketTypeID = id <;> simp [ordered,same]

theorem ordered_perm {left right : List BookingItem} (perm : left.Perm right) (id : ID) :
    ordered id left = ordered id right := ((perm.filter _).map _).sum_eq

theorem ordered_nonneg (id : ID) {lines : List BookingItem} (positive : ∀ line ∈ lines, 0 ≤ line.quantity) :
    0 ≤ ordered id lines := by
  apply List.sum_nonneg
  intro quantity member
  obtain ⟨line,inside,rfl⟩ := List.mem_map.mp member
  exact positive line (List.mem_of_mem_filter inside)

theorem eq_nil_of_ordered {lines : List BookingItem} (positive : ∀ line ∈ lines, 0 < line.quantity)
    (none : ∀ id, ordered id lines = 0) : lines = [] := by
  cases lines with
  | nil => rfl
  | cons line rest =>
    obtain ⟨first,others⟩ := List.forall_mem_cons.mp positive
    have nonneg := ordered_nonneg line.ticketTypeID fun other member => le_of_lt (others other member)
    have sum := none line.ticketTypeID
    rw [ordered_cons,if_pos rfl] at sum
    omega

/-- The statements by which the loop checks and takes lines. -/
def attempts (lines : List BookingItem) : List Statement :=
  lines.flatMap fun line => [.getPrice line.ticketTypeID,.reserve line.ticketTypeID line.quantity]

/-- The statements by which lines are given back. -/
def handbacks (lines : List BookingItem) : List Statement :=
  lines.map fun line => .release line.ticketTypeID line.quantity

theorem beforeFailed_append (failed : ID) (before rest : List BookingItem) {item : BookingItem}
    (same : item.ticketTypeID = failed) :
    beforeFailed failed (before ++ item :: rest) = before.takeWhile (·.ticketTypeID ≠ failed) := by
  unfold beforeFailed
  rw [List.takeWhile_append]
  split
  · rename_i whole
    rw [(List.takeWhile_prefix _).eq_of_length whole]
    simp [same]
  · rfl

namespace Database

/-- `available_seat` of a ticket type that is stored. -/
def availableSeat (db : Database) (id : ID) : Option Int :=
  (db.ticketTypes.find? id).map TicketTypeRow.availableSeat

def priceOf (db : Database) (id : ID) : Option Int := (db.ticketTypes.find? id).map TicketTypeRow.priceRupiah

variable {db after : Database}

theorem getPrice_ok {id : ID} {price : Int} : db.getPrice id = .ok price ↔ db.priceOf id = some price := by
  unfold getPrice priceOf
  cases db.ticketTypes.find? id with
  | none => simp
  | some row => simp

theorem reserveSeats_priceOf {id other : ID} {qty : Int} {count : Nat}
    (ok : db.reserveSeats id qty = .ok (count,after)) : after.priceOf other = db.priceOf other := by
  unfold reserveSeats at ok
  split at ok
  · split at ok
    · cases ok
      rfl
    · rename_i row found
      split at ok
      · unfold setSeat at ok
        split at ok
        · cases ok
          refine Table.find?_map_replace db.ticketTypes _ row TicketTypeRow.priceRupiah ?_ ?_ other
          · exact Table.find?_of_mem (Table.find?_mem found)
          · rfl
        · cases ok
      · cases ok
        rfl
  · cases ok

end Database

structure Lacks (before after : Database) (lines : List BookingItem) : Prop where
  bookings : after.bookings = before.bookings
  items : after.items = before.items
  seats : ∀ id, Option.Rel (fun old row : TicketTypeRow => row.quantity = old.quantity ∧
      row.availableSeat = old.availableSeat - ordered id lines)
    (before.ticketTypes.find? id) (after.ticketTypes.find? id)
  stored : ∀ line ∈ lines, before.ticketTypes.find? line.ticketTypeID ≠ none

namespace Lacks
variable {start db after : Database} {lines less : List BookingItem}

theorem refl (db : Database) : Lacks db db [] := by
  refine ⟨rfl,rfl,fun id => ?_,nofun⟩
  cases db.ticketTypes.find? id with
  | none => exact .none
  | some row => exact .some ⟨rfl,by simp [ordered]⟩

theorem perm (lacks : Lacks start db lines) (same : lines.Perm less) : Lacks start db less where
  bookings := lacks.bookings
  items := lacks.items
  seats := fun id => ordered_perm same id ▸ lacks.seats id
  stored := fun line member => lacks.stored line (same.mem_iff.mpr member)

theorem availableSeat (lacks : Lacks start db lines) (id : ID) :
    db.availableSeat id = (start.availableSeat id).map fun seats => seats - ordered id lines := by
  have related := lacks.seats id
  unfold Database.availableSeat
  generalize start.ticketTypes.find? id = old at related
  generalize db.ticketTypes.find? id = new at related
  cases related with
  | none => rfl
  | some same => simp [same.2]

theorem restored (lacks : Lacks start db lines) {id : ID} (none : ordered id lines = 0) :
    db.availableSeat id = start.availableSeat id := by
  rw [lacks.availableSeat,none]
  simp

theorem ordered_eq_zero (lacks : Lacks start db lines) {id : ID}
    (same : db.availableSeat id = start.availableSeat id) : ordered id lines = 0 := by
  rw [lacks.availableSeat] at same
  cases found : start.ticketTypes.find? id with
  | none =>
    have other : ∀ line ∈ lines, line.ticketTypeID ≠ id := by
      rintro line member rfl
      exact lacks.stored line member found
    rw [ordered,List.filter_eq_nil_iff.mpr (by simpa using other)]
    rfl
  | some row =>
    simp [Database.availableSeat,found] at same
    exact same

theorem reseated {row next : TicketTypeRow} (lacks : Lacks start db lines) (change : db.Reseated row next after)
    (others : ∀ id, row.id ≠ id → ordered id less = ordered id lines)
    (stored : ∀ line ∈ less, start.ticketTypes.find? line.ticketTypeID ≠ none)
    (seat : next.availableSeat = row.availableSeat + ordered row.id lines - ordered row.id less) :
    Lacks start after less := by
  refine ⟨change.frame.2.trans lacks.bookings,change.frame.1.trans lacks.items,fun id => ?_,stored⟩
  have before := lacks.seats id
  by_cases same : row.id = id
  · subst same
    rw [change.found]
    rw [change.1] at before
    generalize start.ticketTypes.find? row.id = stored at before
    cases before with
    | some related => exact .some ⟨change.2.2.2.1.trans related.1,by omega⟩
  · rw [change.others same,others id same]
    exact before

theorem taken {line : BookingItem} {count : Nat} (lacks : Lacks start db lines)
    (ok : db.reserveSeats line.ticketTypeID line.quantity = .ok (count + 1,after)) :
    Lacks start after (lines ++ [line]) := by
  rcases Database.reserveSeats_ok ok with ⟨none,_⟩ | ⟨_,row,next,key,change,_,seat⟩
  · cases none
  · refine lacks.reseated change (fun id other => ?_) (List.forall_mem_append.mpr ⟨lacks.stored,?_⟩) ?_
    · rw [ordered_append,ordered_cons,if_neg (key ▸ other)]
      simp [ordered]
    · have before := lacks.seats line.ticketTypeID
      rw [← key,change.1] at before
      intro other member
      rw [List.mem_singleton.mp member,← key]
      rintro absent
      rw [absent] at before
      cases before
    · rw [ordered_append,ordered_cons,if_pos key.symm,seat]
      simp [ordered]
      omega

theorem released {line : BookingItem} {count : Nat} (lacks : Lacks start db (line :: lines))
    (positive : ∀ line ∈ lines, 0 ≤ line.quantity)
    (ok : db.releaseSeats line.ticketTypeID line.quantity = .ok (count,after)) : Lacks start after lines := by
  rcases Database.releaseSeats_ok ok with ⟨_,absent,rfl⟩ | ⟨_,row,next,key,change,seat⟩
  · refine ⟨lacks.bookings,lacks.items,fun id => ?_,(List.forall_mem_cons.mp lacks.stored).2⟩
    have before := lacks.seats id
    by_cases same : line.ticketTypeID = id
    · subst same
      rw [absent] at before ⊢
      generalize start.ticketTypes.find? line.ticketTypeID = stored at before
      cases before with
      | none => exact .none
    · rwa [ordered_cons,if_neg same,zero_add] at before
  · have sum := ordered_cons row.id line lines
    rw [if_pos key.symm] at sum
    have room : row.availableSeat + line.quantity ≤ row.quantity := by
      have before := lacks.seats row.id
      rw [change.1] at before
      generalize start.ticketTypes.find? row.id = stored at before
      cases before with
      | @some old _ related =>
        have bound := old.seat_check.2
        have rest := ordered_nonneg row.id positive
        omega
    refine lacks.reseated change (fun id other => ?_) (List.forall_mem_cons.mp lacks.stored).2 ?_
    · rw [ordered_cons,if_neg (key ▸ other),zero_add]
    · rw [seat,min_eq_right room,sum]
      omega

end Lacks

/-- The reply to a `Release` reports no error. -/
def succeeds : Exchange Statement Reply → Bool
  | ⟨.release _ _,.error _⟩ => false
  | _ => true

def Left (start before after : Database) (lines : List BookingItem)
    (trace : List (Exchange Statement Reply)) (kept : List BookingItem) : Prop :=
  kept.Sublist lines ∧ (kept = [] ↔ ∀ exchange ∈ trace, succeeds exchange = true) ∧
    ∀ others, (∀ line ∈ lines ++ others, 0 ≤ line.quantity) → Lacks start before (lines ++ others) →
      Lacks start after (kept ++ others)

theorem Left.cons {start before after : Database} {lines kept : List BookingItem}
    {trace : List (Exchange Statement Reply)} {exchange : Exchange Statement Reply}
    (left : Left start before after lines trace kept) (ok : succeeds exchange = true) :
    Left start before after lines (exchange :: trace) kept := by
  refine ⟨left.1,left.2.1.trans ?_,left.2.2⟩
  rw [List.forall_mem_cons,and_iff_right ok]

theorem rollbackSeats_ends (start : Database) (lines : List BookingItem) (world : World) :
    (BookingService.rollbackSeats lines).Ensures execute (fun outcome => outcome.ops = handbacks lines ∧
      ∃ kept, Left start world.db outcome.world.db lines outcome.trace kept) world := by
  induction lines generalizing world with
  | nil => exact ⟨rfl,[],.slnil,by simp,fun _ _ lacks => lacks⟩
  | cons line rest ih =>
    intro fault
    rcases write_cases World.put fault world (world.db.releaseSeats line.ticketTypeID line.quantity) with
      ⟨count,db,_,released,result⟩ | ⟨error,result⟩
    · rw [show execute (.release line.ticketTypeID line.quantity) fault world = _ from result]
      refine (ih _).mono fun outcome ⟨ops,kept,part,all,lacks⟩ =>
        ⟨by rw [Outcome.ops_after,ops]; rfl,kept,part.cons _,?_,fun others nonneg before => ?_⟩
      · rw [all,Outcome.after,List.forall_mem_cons]
        simp [succeeds]
      · have nonneg := (List.forall_mem_cons.mp nonneg).2
        exact lacks others nonneg (before.released nonneg released)
    · rw [show execute (.release line.ticketTypeID line.quantity) fault world = _ from result]
      refine (ih _).mono fun outcome ⟨ops,kept,part,_,lacks⟩ =>
        ⟨by rw [Outcome.ops_after,ops]; rfl,line :: kept,part.cons_cons _,?_,fun others nonneg before => ?_⟩
      · rw [Outcome.after,List.forall_mem_cons]
        simp [succeeds]
      · have moved : (rest ++ line :: others).Perm (line :: rest ++ others) := List.perm_middle
        refine (lacks (line :: others) (fun own member => nonneg own (moved.mem_iff.mp member))
          (before.perm moved.symm)).perm List.perm_middle

inductive LoopEnds (start : Database) (items taken rest : List BookingItem)
    (outcome : Outcome Statement Reply World (Except Error Unit)) : Prop
  | passed (value : outcome.value = .ok ())
  | rejected (before later : List BookingItem) (line : BookingItem) (error : Error)
      (whole : rest = before ++ line :: later) (value : outcome.value = .error error)
      (other : ∀ cause, error ≠ .noSeatsAvailableFor cause)
      (ops : outcome.ops = attempts before ++ [.getPrice line.ticketTypeID])
      (lacks : Lacks start outcome.world.db (taken ++ before))
  | short (before later : List BookingItem) (line : BookingItem) (cause : Error)
      (whole : rest = before ++ line :: later) (value : outcome.value = .error (.noSeatsAvailableFor cause))
      (ops : outcome.ops = attempts (before ++ [line]) ++ handbacks (beforeFailed line.ticketTypeID items))
      (left : ∃ reserved kept, Lacks start reserved (taken ++ before) ∧
        Left start reserved outcome.world.db (beforeFailed line.ticketTypeID items) outcome.trace kept)

namespace LoopEnds
variable {start : Database} {items taken rest : List BookingItem}
variable {outcome : Outcome Statement Reply World (Except Error Unit)}

theorem cons {line : BookingItem} {price : Reply (.getPrice line.ticketTypeID)}
    {reply : Reply (.reserve line.ticketTypeID line.quantity)} (ends : LoopEnds start items (taken ++ [line]) rest outcome) :
    LoopEnds start items taken (line :: rest)
      ((outcome.after ⟨.reserve line.ticketTypeID line.quantity,reply⟩).after ⟨.getPrice line.ticketTypeID,price⟩) := by
  cases ends with
  | passed value => exact .passed value
  | rejected before later failed error whole value other ops lacks =>
    refine .rejected (line :: before) later failed error (by rw [whole]; rfl) value other ?_ ?_
    · rw [Outcome.ops_after,Outcome.ops_after,ops]
      rfl
    · rw [List.append_cons]
      exact lacks
  | short before later failed cause whole value ops left =>
    refine .short (line :: before) later failed cause (by rw [whole]; rfl) value ?_ ?_
    · rw [Outcome.ops_after,Outcome.ops_after,ops]
      rfl
    · rw [List.append_cons]
      obtain ⟨reserved,kept,lacks,left⟩ := left
      exact ⟨reserved,kept,lacks,(left.cons rfl).cons rfl⟩

end LoopEnds

theorem reserveItems_ends (items taken rest : List BookingItem) (start : Database) (world : World)
    (lacks : Lacks start world.db taken) :
    (BookingService.reserveItems items rest).Ensures execute (LoopEnds start items taken rest) world := by
  -- along the loop the seats of the lines already taken lack, and no others
  induction rest generalizing taken world with
  | nil => exact .passed rfl
  | cons line rest ih =>
    have refused {world : World} {price : Reply (.getPrice line.ticketTypeID)} (error : Error)
        (other : ∀ cause, error ≠ .noSeatsAvailableFor cause) (lacks : Lacks start world.db taken) :
        LoopEnds start items taken (line :: rest)
          (Outcome.after ⟨.error error,world,[]⟩ ⟨.getPrice line.ticketTypeID,price⟩) :=
      .rejected [] rest line error rfl rfl other rfl (by rw [List.append_nil]; exact lacks)
    intro fault
    have same : (execute (.getPrice line.ticketTypeID) fault world).2 = world := query_world ..
    rw [same]
    rcases (execute (.getPrice line.ticketTypeID) fault world).1 with error | price
    · cases error <;> exact refused _ (by simp) lacks
    simp only [Program.done_bind]
    split
    · exact refused _ (by simp) lacks
    intro fault
    -- both ways to fail, an error and a count of zero, end in the same rollback
    have failed (cause : Error) (reply : Reply (.reserve line.ticketTypeID line.quantity)) :
        Program.Ensures execute (fun outcome => LoopEnds start items taken (line :: rest)
          ((outcome.after ⟨.reserve line.ticketTypeID line.quantity,reply⟩).after
            ⟨.getPrice line.ticketTypeID,.ok price⟩))
          ((BookingService.rollbackBefore line.ticketTypeID items).bind fun _ =>
            .done (.error (.noSeatsAvailableFor cause))) world := by
      rw [rollbackBefore_eq]
      refine .bind ((rollbackSeats_ends start _ world).mono fun outcome ⟨ops,kept,left⟩ => ?_)
      refine .short [] rest line cause rfl rfl ?_ ⟨world.db,kept,by rwa [List.append_nil],?_⟩
      · rw [Outcome.ops_after,Outcome.ops_after,Outcome.ops_append,ops]
        simp [Outcome.ops,attempts,beforeFailed]
      · refine Left.cons (Left.cons ?_ rfl) rfl
        change Left _ _ _ _ (outcome.trace ++ []) _
        rwa [List.append_nil]
    rcases write_cases World.put fault world (world.db.reserveSeats line.ticketTypeID line.quantity) with
      ⟨count,db,_,ok,result⟩ | ⟨error,result⟩
    · rw [show execute (.reserve line.ticketTypeID line.quantity) fault world = _ from result]
      cases count with
      | zero =>
        rcases Database.reserveSeats_ok ok with ⟨_,rfl⟩ | ⟨one,_⟩
        · exact failed _ _
        · cases one
      | succ count => exact (ih (taken ++ [line]) _ (lacks.taken ok)).mono fun outcome ends => ends.cons
    · rw [show execute (.reserve line.ticketTypeID line.quantity) fault world = _ from result]
      exact failed _ _

/-- The lines in front of the first one that the check of its price rejects: its ticket type is
not stored, its lookup fails, or it names another price. A line that passes is two statements. -/
def accepted (db : Database) : (Nat → Fault) → List BookingItem → List BookingItem
  | _,[] => []
  | faults,line :: rest =>
    if faults 0 = .none ∧ db.priceOf line.ticketTypeID = some line.unitPriceRupiah then
      line :: accepted db (fun position => faults (position + 2)) rest
    else []

theorem accepted_congr {db other : Database} (same : ∀ id, db.priceOf id = other.priceOf id) (faults : Nat → Fault)
    (lines : List BookingItem) : accepted db faults lines = accepted other faults lines := by
  induction lines generalizing faults with
  | nil => rfl
  | cons line rest ih => simp only [accepted,same,ih]

section Round
variable (items rest : List BookingItem) {line : BookingItem} {faults : Nat → Fault} {world : World}

theorem getPrice_replies {price : Int} : (execute (.getPrice line.ticketTypeID) (faults 0) world).1 = .ok price ↔
    faults 0 = .none ∧ world.db.priceOf line.ticketTypeID = some price :=
  query_ok_iff.trans (and_congr_right fun _ => Database.getPrice_ok)

theorem reserveItems_refused
    (refused : ¬ (faults 0 = .none ∧ world.db.priceOf line.ticketTypeID = some line.unitPriceRupiah)) :
    ((BookingService.reserveItems items (line :: rest)).run execute faults world).ops = [.getPrice line.ticketTypeID] := by
  change Outcome.ops (Outcome.after (Program.run execute _ _ _) ⟨.getPrice line.ticketTypeID,_⟩) = _
  rw [Outcome.ops_after]
  rcases reply : (execute (.getPrice line.ticketTypeID) (faults 0) world).1 with error | price
  · cases error <;> rfl
  simp only [Program.done_bind]
  split
  · rfl
  · rename_i equal
    rw [not_not.mp equal] at refused
    exact absurd (getPrice_replies.mp reply) refused

theorem rollbackBefore_ops (failed : ID) (error : Error) :
    (Program.run execute ((BookingService.rollbackBefore failed items).bind fun _ =>
      .done (.error error : Except Error Unit)) faults world).ops = handbacks (beforeFailed failed items) := by
  have given : Program.Ensures execute (fun outcome => outcome.ops = handbacks (beforeFailed failed items))
      ((BookingService.rollbackBefore failed items).bind fun _ => .done (.error error : Except Error Unit)) world := by
    rw [rollbackBefore_eq]
    refine .bind ((rollbackSeats_ends world.db _ world).mono fun outcome ends => ?_)
    change List.map Sigma.fst (outcome.trace ++ []) = _
    rw [List.append_nil]
    exact ends.1
  exact given.run faults

theorem reserveItems_checked (faultless : faults 0 = .none)
    (priced : world.db.priceOf line.ticketTypeID = some line.unitPriceRupiah) :
    (∃ next : World, (∀ id, next.db.priceOf id = world.db.priceOf id) ∧
      ((BookingService.reserveItems items (line :: rest)).run execute faults world).ops =
        .getPrice line.ticketTypeID :: .reserve line.ticketTypeID line.quantity ::
          ((BookingService.reserveItems items rest).run execute (fun position => faults (position + 2)) next).ops) ∨
    ((BookingService.reserveItems items (line :: rest)).run execute faults world).ops =
      .getPrice line.ticketTypeID :: .reserve line.ticketTypeID line.quantity ::
        handbacks (beforeFailed line.ticketTypeID items) := by
  have reply : (execute (.getPrice line.ticketTypeID) (faults 0) world).1 = .ok line.unitPriceRupiah :=
    getPrice_replies.mpr ⟨faultless,priced⟩
  have same : (execute (.getPrice line.ticketTypeID) (faults 0) world).2 = world := query_world ..
  change (∃ next : World, _ ∧ Outcome.ops (Outcome.after (Program.run execute _ _ _) ⟨.getPrice line.ticketTypeID,_⟩) = _) ∨
    Outcome.ops (Outcome.after (Program.run execute _ _ _) ⟨.getPrice line.ticketTypeID,_⟩) = _
  simp only [Outcome.ops_after,same]
  rw [reply]
  simp only [Program.done_bind,ne_eq,not_true_eq_false,if_false]
  change (∃ next : World, _ ∧ _ :: Outcome.ops (Outcome.after (Program.run execute _ _ _)
      ⟨.reserve line.ticketTypeID line.quantity,_⟩) = _) ∨
    _ :: Outcome.ops (Outcome.after (Program.run execute _ _ _) ⟨.reserve line.ticketTypeID line.quantity,_⟩) = _
  simp only [Outcome.ops_after]
  rcases write_cases World.put (faults 1) world (world.db.reserveSeats line.ticketTypeID line.quantity) with
    ⟨count,db,_,ok,result⟩ | ⟨error,result⟩
  · rw [show execute (.reserve line.ticketTypeID line.quantity) (faults (0 + 1)) world = _ from result]
    cases count with
    | zero => exact .inr (congrArg _ (congrArg _ (rollbackBefore_ops items _ _)))
    | succ count => exact .inl ⟨{world with db := db},fun id => Database.reserveSeats_priceOf ok,rfl⟩
  · rw [show execute (.reserve line.ticketTypeID line.quantity) (faults (0 + 1)) world = _ from result]
    exact .inr (congrArg _ (congrArg _ (rollbackBefore_ops items _ _)))

theorem reserveItems_accepted {before later : List BookingItem} (whole : rest = before ++ line :: later)
    (ops : ((BookingService.reserveItems items rest).run execute faults world).ops =
      attempts before ++ [.getPrice line.ticketTypeID]) : accepted world.db faults rest = before := by
  induction rest generalizing before faults world with
  | nil => simp at whole
  | cons head tail ih =>
    unfold accepted
    split
    · rename_i passes
      obtain _ | ⟨first,others⟩ := before
      · rcases reserveItems_checked items tail passes.1 passes.2 with ⟨_,_,round⟩ | round <;> simp [attempts,round] at ops
      obtain ⟨rfl,remaining⟩ := List.cons.inj whole
      have split : attempts (head :: others) = .getPrice head.ticketTypeID ::
        .reserve head.ticketTypeID head.quantity :: attempts others := rfl
      rcases reserveItems_checked items tail passes.1 passes.2 with ⟨next,kept,round⟩ | round
      · rw [round,split] at ops
        rw [accepted_congr (fun id => (kept id).symm),ih remaining (by simpa using ops)]
      · -- what is given back ends with no lookup
        rw [round,split] at ops
        have last : Statement.getPrice line.ticketTypeID ∈ handbacks (beforeFailed head.ticketTypeID items) := by
          simp only [List.cons_append,List.cons.injEq,true_and] at ops
          simp [ops]
        obtain ⟨_,_,isRelease⟩ := List.mem_map.mp last
        cases isRelease
    · rename_i refused
      rw [reserveItems_refused items tail refused] at ops
      cases before with
      | nil => rfl
      | cons first others => simp [attempts] at ops

end Round

/-! `Reserve` as a whole. -/

def Statement.looksUpPrice : Statement → Bool
  | .getPrice _ => true
  | _ => false

def Statement.Unpriced (statement : Statement) : Prop := statement.looksUpPrice = false

def Statement.takesSeats : Statement → Bool
  | .reserve _ _ => true
  | _ => false

/-- How many lines the loop has tried to take. -/
def tried (outcome : Outcome Statement Reply World (Except Error Reservation)) : Nat :=
  outcome.ops.countP Statement.takesSeats

/-- The check of a price has ended the call: the lookup is its last statement. -/
def rejected (outcome : Outcome Statement Reply World (Except Error Reservation)) : Bool :=
  outcome.ops.getLast?.any Statement.looksUpPrice

inductive ReserveEnds (start : Database) (items : List BookingItem)
    (outcome : Outcome Statement Reply World (Except Error Reservation)) : Prop
  | empty (ops : outcome.ops = []) (value : outcome.value = .error .invalidQuantity)
  | stopped (loop : Outcome Statement Reply World (Except Error Unit)) (error : Error)
      (ends : LoopEnds start items [] items loop) (failed : loop.value = .error error)
      (value : outcome.value = .error error) (world : outcome.world = loop.world) (trace : outcome.trace = loop.trace)
  | continued (before after : List Statement) (ops : outcome.ops = before ++ .now :: after)
      (unpriced : ∀ op ∈ after, op.Unpriced)
      (value : ∀ cause, outcome.value ≠ .error (.noSeatsAvailableFor cause))

theorem reserve_ends (reservationTTL : Nat) (userID : ID) (userEmail : String) (eventID : ID)
    (items : List BookingItem) (world : World) :
    (BookingService.reserve reservationTTL userID userEmail eventID items).Ensures execute
      (ReserveEnds world.db items) world := by
  unfold BookingService.reserve
  split
  · exact .empty rfl rfl
  refine .bind ((reserveItems_ends items [] items world.db world (.refl _)).mono fun loop ends => ?_)
  cases outcome : loop.value with
  | error error => exact .stopped loop error ends outcome rfl rfl (List.append_nil _)
  | ok value =>
    intro fault
    refine (Program.Ensures.of_issues (?_ : Program.Issues Statement.Unpriced _)
      (?_ : Program.Returns (fun value : Except Error Reservation =>
        ∀ cause, value ≠ .error (.noSeatsAvailableFor cause)) _) _).mono fun last ⟨value,ops⟩ => ?_
    · refine ⟨rfl,fun bookingID => ⟨rfl,fun createdAt => ?_⟩⟩
      have names : Statement.Unpriced .newString := rfl
      refine (nameItems_issues names bookingID items).bind fun named => ⟨rfl,fun created => ?_⟩
      have undone : (BookingService.rollbackSeats named).Issues Statement.Unpriced :=
        rollbackSeats_issues named fun _ _ => rfl
      cases created with
      | error error => exact undone.bind fun _ => trivial
      | ok value =>
        refine ⟨rfl,fun sent => ?_⟩
        cases sent with
        | error error => exact ⟨rfl,fun _ => undone.bind fun _ => trivial⟩
        | ok value => trivial
    · intro bookingID createdAt
      refine (Program.Returns.any (BookingService.nameItems bookingID items)).bind fun named _ created => ?_
      have undone := Program.Returns.any (BookingService.rollbackSeats named)
      cases created with
      | error error => exact undone.bind fun _ _ => by simp [Program.Returns]
      | ok value =>
        intro sent
        cases sent with
        | error error => exact fun _ => undone.bind fun _ _ => by simp [Program.Returns]
        | ok value => simp [Program.Returns]
    · exact .continued loop.ops last.ops (by simp) ops value

/-- Two ticket types of one event, at 5 each, with five of ten seats left. -/
def stocked : World :=
  {World.initial with
    db := ((Database.empty.addEvent
        ⟨⟨0,7,"t","d","v","a",20,1,2,.published,none,none,0,0⟩,by decide⟩ rfl).addTicketType
        ⟨1,0,"a",5,10,5,4,by decide,by decide,by decide,by decide⟩ rfl rfl).addTicketType
        ⟨2,0,"b",5,10,5,4,by decide,by decide,by decide,by decide⟩ rfl rfl
    nextID := 3}

def atPrice (id : ID) (name : String) (priceRupiah : Int) (check : 0 ≤ priceRupiah ∧ Int8 priceRupiah) : TicketTypeRow :=
  ⟨id,0,name,priceRupiah,10,5,4,check,by decide,by decide,by decide⟩

def awaiting (id userID : ID) : BookingRow := ⟨id,userID,0,.pending,some 100,0,by decide⟩

def oneSeat (id bookingID ticketTypeID : ID) : BookingItemRow := ⟨id,bookingID,ticketTypeID,1,5,by decide,by decide⟩

def onHold : Database := stocked.db.addBooking (awaiting 3 8) rfl rfl

/-- A line of a request for tickets at the given price. -/
def lineOf (ticketTypeID : ID) (quantity unitPriceRupiah : Int) : BookingItem :=
  ⟨0,0,ticketTypeID,quantity,unitPriceRupiah,0⟩

section Failures
variable (reservationTTL : Nat) (faults : Nat → Fault) (world : World) (userID : ID) (userEmail : String)
variable (eventID : ID) (items : List BookingItem)

/-- `Reserve` with no other request running. -/
def reserveAlone : Outcome Statement Reply World (Except Error Reservation) :=
  (BookingService.reserve reservationTTL userID userEmail eventID items).run execute faults world

theorem reserveAlone_ends : ReserveEnds world.db items
    (reserveAlone reservationTTL faults world userID userEmail eventID items) :=
  (reserve_ends reservationTTL userID userEmail eventID items world).run faults

theorem countP_attempts (lines : List BookingItem) : (attempts lines).countP Statement.takesSeats = lines.length := by
  induction lines with
  | nil => rfl
  | cons line rest ih =>
    rw [show attempts (line :: rest) = .getPrice line.ticketTypeID ::
      .reserve line.ticketTypeID line.quantity :: attempts rest from rfl,List.countP_cons,List.countP_cons,ih]
    rfl

theorem countP_handbacks (lines : List BookingItem) : (handbacks lines).countP Statement.takesSeats = 0 := by
  rw [List.countP_eq_zero]
  intro statement member
  obtain ⟨line,_,rfl⟩ := List.mem_map.mp member
  simp [Statement.takesSeats]

theorem not_rejected {outcome : Outcome Statement Reply World (Except Error Reservation)}
    {before after : List Statement} {statement : Statement} (ops : outcome.ops = before ++ statement :: after)
    (unpriced : ∀ op ∈ statement :: after, op.Unpriced) : rejected outcome = false := by
  have last : outcome.ops.getLast? = (statement :: after).getLast? := by
    rw [ops,List.getLast?_append_cons]
  unfold rejected
  rw [last]
  cases found : (statement :: after).getLast? with
  | none => rfl
  | some final =>
    have free : final.Unpriced := unpriced final (List.mem_of_getLast? found)
    exact free

theorem reserveAlone_loop (some : items ≠ []) :
    (reserveAlone reservationTTL faults world userID userEmail eventID items).ops =
      ((BookingService.reserveItems items items).run execute faults world).ops ∨
    Statement.now ∈ (reserveAlone reservationTTL faults world userID userEmail eventID items).ops := by
  unfold reserveAlone BookingService.reserve
  rw [if_neg some]
  change ((Program.bind (BookingService.reserveItems items items) _).run execute faults world).ops = _ ∨
    _ ∈ ((Program.bind (BookingService.reserveItems items items) _).run execute faults world).ops
  rw [Program.run_bind,Outcome.ops_append]
  cases ((BookingService.reserveItems items items).run execute faults world).value with
  | error error => exact .inl (List.append_nil _)
  | ok value => exact .inr (List.mem_append_right _ List.mem_cons_self)

theorem rejected_lacks
    (isRejected : rejected (reserveAlone reservationTTL faults world userID userEmail eventID items) = true) :
    Lacks world.db (reserveAlone reservationTTL faults world userID userEmail eventID items).world.db
      (accepted world.db faults items) := by
  have loop := reserveAlone_loop reservationTTL faults world userID userEmail eventID items
  have ends := reserveAlone_ends reservationTTL faults world userID userEmail eventID items
  generalize reserveAlone reservationTTL faults world userID userEmail eventID items = outcome at *
  cases ends with
  | empty ops => simp [rejected,ops] at isRejected
  | continued before after ops unpriced =>
    rw [not_rejected ops (List.forall_mem_cons.mpr ⟨rfl,unpriced⟩)] at isRejected
    cases isRejected
  | stopped ended error ends failed value world trace =>
    have ops : outcome.ops = ended.ops := congrArg (List.map Sigma.fst) trace
    cases ends with
    | passed value => cases failed.symm.trans value
    | short before later line cause whole value made restored =>
      have shape : outcome.ops = (attempts before ++ [.getPrice line.ticketTypeID]) ++
          .reserve line.ticketTypeID line.quantity :: handbacks (beforeFailed line.ticketTypeID items) := by
        rw [ops,made]
        simp [attempts]
      have free : ∀ op ∈ handbacks (beforeFailed line.ticketTypeID items), op.Unpriced := by
        intro statement member
        obtain ⟨line,_,rfl⟩ := List.mem_map.mp member
        rfl
      rw [not_rejected shape (List.forall_mem_cons.mpr ⟨rfl,free⟩)] at isRejected
      cases isRejected
    | rejected before later line error whole value other made lacks =>
      rw [ops,made] at loop
      have same := (loop (by simp [whole])).resolve_right (by simp [attempts])
      rw [reserveItems_accepted items items whole same.symm,world]
      exact lacks

/-- A reservation that a price check ends leaves every counter and the bookings as they were
exactly if the lines in front of the rejected one, taken together, ask for no seat. -/
theorem rejected_reservation_inert
    (isRejected : rejected (reserveAlone reservationTTL faults world userID userEmail eventID items) = true) :
    ((∀ id, (reserveAlone reservationTTL faults world userID userEmail eventID items).world.db.availableSeat id =
      world.db.availableSeat id) ∧
    (reserveAlone reservationTTL faults world userID userEmail eventID items).world.db.bookings = world.db.bookings ∧
    (reserveAlone reservationTTL faults world userID userEmail eventID items).world.db.items = world.db.items) ↔
    ∀ id, ordered id (accepted world.db faults items) = 0 := by
  have lacks := rejected_lacks reservationTTL faults world userID userEmail eventID items isRejected
  constructor
  · rintro ⟨unchanged,_⟩ id
    exact lacks.ordered_eq_zero (unchanged id)
  · intro untaken
    exact ⟨fun id => lacks.restored (untaken id),lacks.bookings,lacks.items⟩

theorem rejected_reservation_inert_first :
    rejected (reserveAlone 900 (fun _ => .none) stocked 3 "e" 0 [lineOf 1 2 6,lineOf 2 1 5]) = true ∧
    (reserveAlone 900 (fun _ => .none) stocked 3 "e" 0 [lineOf 1 2 6,lineOf 2 1 5]).value =
      .error (.priceMismatch 5 6) ∧
    ∀ id, (reserveAlone 900 (fun _ => .none) stocked 3 "e" 0 [lineOf 1 2 6,lineOf 2 1 5]).world.db.availableSeat id =
      stocked.db.availableSeat id := by
  have inert := rejected_reservation_inert 900 (fun _ => .none) stocked 3 "e" 0 [lineOf 1 2 6,lineOf 2 1 5]
    (by decide +kernel)
  exact ⟨by decide +kernel,by decide +kernel,(inert.mpr fun _ => rfl).1⟩

/-- The price of the second line does not match; the two seats of the first are gone. -/
theorem rejected_reservation_keeps_seats :
    (reserveAlone 900 (fun _ => .none) stocked 3 "e" 0 [lineOf 1 2 5,lineOf 2 1 6]).value =
      .error (.priceMismatch 5 6) ∧
    rejected (reserveAlone 900 (fun _ => .none) stocked 3 "e" 0 [lineOf 1 2 5,lineOf 2 1 6]) = true ∧
    stocked.db.availableSeat 1 = some 5 ∧
    (reserveAlone 900 (fun _ => .none) stocked 3 "e" 0 [lineOf 1 2 5,lineOf 2 1 6]).world.db.availableSeat 1 =
      some 3 := by
  decide +kernel

/-- No line in front of the k-th one has its ticket type. -/
def unrepeated (items : List BookingItem) (k : Nat) : Prop :=
  ∀ item ∈ items[k]?, ∀ line ∈ items.take k, line.ticketTypeID ≠ item.ticketTypeID

instance (items : List BookingItem) (k : Nat) : Decidable (unrepeated items k) :=
  inferInstanceAs (Decidable (∀ item ∈ items[k]?, ∀ line ∈ items.take k, line.ticketTypeID ≠ item.ticketTypeID))

/-- Where the k-th line finds no seats, exactly the lines in front of it are given back if and
only if none of them has its ticket type. Every counter is then as before the call if no
`Release` fails, and, where every line asks for a seat, only then. -/
theorem shortage_rolled_back (k : Nat) (cause : Error)
    (short : (reserveAlone reservationTTL faults world userID userEmail eventID items).value =
      .error (.noSeatsAvailableFor cause))
    (kth : tried (reserveAlone reservationTTL faults world userID userEmail eventID items) = k + 1) :
    ((reserveAlone reservationTTL faults world userID userEmail eventID items).ops =
      attempts (items.take (k + 1)) ++ handbacks (items.take k) ↔ unrepeated items k) ∧
    ((∀ line ∈ items.take k, 0 ≤ line.quantity) → unrepeated items k →
      (∀ exchange ∈ (reserveAlone reservationTTL faults world userID userEmail eventID items).trace,
        succeeds exchange = true) →
      ∀ id, (reserveAlone reservationTTL faults world userID userEmail eventID items).world.db.availableSeat id =
        world.db.availableSeat id) ∧
    ((∀ line ∈ items.take k, 0 < line.quantity) →
      (∀ id, (reserveAlone reservationTTL faults world userID userEmail eventID items).world.db.availableSeat id =
        world.db.availableSeat id) →
      unrepeated items k ∧ ∀ exchange ∈ (reserveAlone reservationTTL faults world userID userEmail eventID items).trace,
        succeeds exchange = true) := by
  have ends := reserveAlone_ends reservationTTL faults world userID userEmail eventID items
  generalize reserveAlone reservationTTL faults world userID userEmail eventID items = outcome at *
  cases ends with
  | empty ops value => cases short.symm.trans value
  | continued before after ops unpriced value => exact absurd short (value cause)
  | stopped loop error ends failed value world trace =>
    have ops : outcome.ops = loop.ops := congrArg (List.map Sigma.fst) trace
    cases short.symm.trans value
    cases ends with
    | passed value => cases failed.symm.trans value
    | rejected before later line error whole value other => exact absurd (Except.error.inj (value.symm.trans failed)) (other _)
    | short before later line cause whole value made left =>
      have count : tried outcome = before.length + 1 := by
        rw [tried,ops,made,List.countP_append,countP_attempts,countP_handbacks]
        simp
      have size : k = before.length := by omega
      subst size
      have front : items.take before.length = before := by rw [whole,List.take_left]
      have through : items.take (before.length + 1) = before ++ [line] := by
        rw [whole,List.take_append]
        simp
      -- the rollback gives back the lines up to the first one of the failed type
      have undo : beforeFailed line.ticketTypeID items = before.takeWhile (·.ticketTypeID ≠ line.ticketTypeID) := by
        rw [whole]
        exact beforeFailed_append line.ticketTypeID before later rfl
      have all : unrepeated items before.length ↔ before.takeWhile (·.ticketTypeID ≠ line.ticketTypeID) = before := by
        rw [List.takeWhile_eq_self_iff]
        simp [unrepeated,whole]
      obtain ⟨reserved,kept,lacks,part,successes,leaves⟩ := left
      rw [undo] at part leaves
      rw [all,front,through,ops,made,undo,trace,world]
      refine ⟨?_,fun nonneg same ok id => ?_,fun positive restored => ?_⟩
      · rw [List.append_right_inj]
        constructor
        · intro same
          apply (List.takeWhile_prefix _).eq_of_length
          simpa [handbacks] using congrArg List.length same
        · exact congrArg handbacks
      · rw [same] at leaves
        have none := leaves [] (by simpa using nonneg) (by simpa using lacks)
        rw [successes.mpr ok] at none
        exact none.restored rfl
      · -- every line that was not given back asks for a seat, so there is none
        have cut : before.takeWhile (·.ticketTypeID ≠ line.ticketTypeID) ++
            before.dropWhile (·.ticketTypeID ≠ line.ticketTypeID) = before := List.takeWhile_append_dropWhile
        have lacking := leaves (before.dropWhile (·.ticketTypeID ≠ line.ticketTypeID))
          (by rw [cut]; exact fun own member => le_of_lt (positive own member)) (by rw [cut]; exact lacks)
        have inside : ∀ own ∈ kept ++ before.dropWhile (·.ticketTypeID ≠ line.ticketTypeID), own ∈ before := by
          intro own member
          rw [← cut]
          exact (part.append_right _).subset member
        obtain ⟨noneKept,noneLeft⟩ := List.append_eq_nil_iff.mp (eq_nil_of_ordered
          (fun own member => positive own (inside own member)) fun id => lacking.ordered_eq_zero (restored id))
        rw [noneLeft,List.append_nil] at cut
        exact ⟨cut,successes.mp noneKept⟩

/-- The second line asks for more than is left, and the first is given back. -/
theorem shortage_rolled_back_second :
    (reserveAlone 900 (fun _ => .none) stocked 3 "e" 0 [lineOf 1 2 5,lineOf 2 6 5]).ops =
      [.getPrice 1,.reserve 1 2,.getPrice 2,.reserve 2 6,.release 1 2] ∧
    ∀ id, (reserveAlone 900 (fun _ => .none) stocked 3 "e" 0 [lineOf 1 2 5,lineOf 2 6 5]).world.db.availableSeat id =
      stocked.db.availableSeat id := by
  obtain ⟨ops,restored,_⟩ := shortage_rolled_back 900 (fun _ => .none) stocked 3 "e" 0 [lineOf 1 2 5,lineOf 2 6 5] 1
    .noSeatsAvailable (by decide +kernel) (by decide +kernel)
  exact ⟨ops.mpr (by decide +kernel),restored (by decide +kernel) (by decide +kernel) (by decide +kernel)⟩

/-- Two lines with one ticket type: the second finds no seats, and nothing is given back. -/
theorem shortage_not_rolled_back :
    (reserveAlone 900 (fun _ => .none) stocked 3 "e" 0 [lineOf 1 2 5,lineOf 1 4 5]).value =
      .error (.noSeatsAvailableFor .noSeatsAvailable) ∧
    (reserveAlone 900 (fun _ => .none) stocked 3 "e" 0 [lineOf 1 2 5,lineOf 1 4 5]).ops =
      [.getPrice 1,.reserve 1 2,.getPrice 1,.reserve 1 4] ∧
    stocked.db.availableSeat 1 = some 5 ∧
    (reserveAlone 900 (fun _ => .none) stocked 3 "e" 0 [lineOf 1 2 5,lineOf 1 4 5]).world.db.availableSeat 1 =
      some 3 := by
  decide +kernel

end Failures

end Ticketbus.Ticketing
