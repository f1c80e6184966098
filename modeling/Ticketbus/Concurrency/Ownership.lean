import Ticketbus.Concurrency.Pool
import Mathlib.Algebra.BigOperators.Group.List.Basic
import Mathlib.Algebra.GroupWithZero.Nat
import Mathlib.Algebra.Order.Group.Multiset
import Mathlib.Algebra.Order.PUnit

/-! A program logic for pools. A protocol says how the shared state may evolve
and which invariant ties it to the resources the threads own; `Holds` is the
weakest precondition of one program under it. What a thread knows is closed
under evolution, so statements of other threads cannot invalidate it, and what
it owns is counted in the invariant exactly once. -/
namespace Ticketbus.Concurrency
variable {Op : Type} {Reply : Op → Type} {World Fault Call Result Resource α β : Type}

/-- `permits` restricts the statements a thread may take next to the resources of
the other threads; `fits` is what must be true of a thread whenever it is about
to issue a statement. -/
structure Protocol (Op : Type) (Reply : Op → Type) (World Fault Call Resource : Type) where
  evolves : State Op Reply World → State Op Reply World → Prop
  evolves_refl : ∀ state, evolves state state
  evolves_trans : ∀ first middle last, evolves first middle → evolves middle last → evolves first last
  invariant : State Op Reply World → Resource → Prop
  permits : Nat → Call → State Op Reply World → Resource → Op → Fault → Prop
  fits : Nat → Call → State Op Reply World → Resource → Op → Prop

variable [AddCommMonoid Resource]
variable (service : Service Op Reply World Fault Call Result)
variable (protocol : Protocol Op Reply World Fault Call Resource)

/-- From any state the present one evolves into, the program keeps the protocol
at each of its statements and returns only with the postcondition. -/
def Holds (index : Nat) (call : Call) (post : α → State Op Reply World → Resource → Prop) :
    Program Op Reply α → State Op Reply World → Resource → Prop
  | .done value,state,own => ∀ later, protocol.evolves state later → post value later own
  | .perform op next,state,own =>
    ∀ later, protocol.evolves state later → ∀ frame, protocol.invariant later (own + frame) →
      protocol.fits index call later own op ∧
      ∀ fault, protocol.permits index call later frame op fault →
        protocol.evolves later (later.after service index op fault) ∧
        ∃ kept, protocol.invariant (later.after service index op fault) (kept + frame) ∧
          Holds index call post (next (service.execute op fault later.world).1)
            (later.after service index op fault) kept

variable {service protocol} {index : Nat} {call : Call}
variable {post weak : α → State Op Reply World → Resource → Prop}

theorem Holds.later {program : Program Op Reply α} {state next : State Op Reply World} {own : Resource}
    (holds : Holds service protocol index call post program state own)
    (evolved : protocol.evolves state next) :
    Holds service protocol index call post program next own := by
  cases program with
  | done value =>
    exact fun later after => holds later (protocol.evolves_trans _ _ _ evolved after)
  | perform op continuation =>
    exact fun later after => holds later (protocol.evolves_trans _ _ _ evolved after)

theorem Holds.consequence {program : Program Op Reply α} {state : State Op Reply World} {own : Resource}
    (holds : Holds service protocol index call post program state own)
    (weaker : ∀ value later own, post value later own → weak value later own) :
    Holds service protocol index call weak program state own := by
  induction program generalizing state own with
  | done value => exact fun later after => weaker _ _ _ (holds later after)
  | perform op next ih =>
    intro later after frame inv
    obtain ⟨fits,steps⟩ := holds later after frame inv
    refine ⟨fits,fun fault permitted => ?_⟩
    obtain ⟨evolved,kept,inv,rest⟩ := steps fault permitted
    exact ⟨evolved,kept,inv,ih _ rest⟩

theorem Holds.bind {first : Program Op Reply β} {rest : β → Program Op Reply α}
    {state : State Op Reply World} {own : Resource}
    (holds : Holds service protocol index call
      (fun value later own => Holds service protocol index call post (rest value) later own)
      first state own) :
    Holds service protocol index call post (first.bind rest) state own := by
  induction first generalizing state own with
  | done value => exact holds state (protocol.evolves_refl state)
  | perform op next ih =>
    intro later after frame inv
    obtain ⟨fits,steps⟩ := holds later after frame inv
    refine ⟨fits,fun fault permitted => ?_⟩
    obtain ⟨evolved,kept,inv,remaining⟩ := steps fault permitted
    exact ⟨evolved,kept,inv,ih _ remaining⟩

theorem Holds.done {value : α} {state : State Op Reply World} {own : Resource}
    (returns : ∀ later, protocol.evolves state later → post value later own) :
    Holds service protocol index call post (.done value) state own := returns

theorem Holds.of_issues_from {permitted : Op → Prop} {good : α → Prop} {program : Program Op Reply α}
    {state : State Op Reply World} {own : Resource} (issues : program.Issues permitted)
    (gives : program.Returns good)
    (kept : ∀ op, permitted op → ∀ later frame, protocol.evolves state later →
      protocol.invariant later (own + frame) →
      protocol.fits index call later own op ∧ ∀ fault, protocol.permits index call later frame op fault →
        protocol.evolves later (later.after service index op fault) ∧
        protocol.invariant (later.after service index op fault) (own + frame))
    (returns : ∀ value later, good value → protocol.evolves state later → post value later own) :
    Holds service protocol index call post program state own := by
  induction program generalizing state with
  | done value => exact fun later evolved => returns value later gives evolved
  | perform op next ih =>
    intro later before frame inv
    obtain ⟨fits,steps⟩ := kept op issues.1 later frame before inv
    refine ⟨fits,fun fault allowed => ?_⟩
    obtain ⟨evolved,inv⟩ := steps fault allowed
    have soFar := protocol.evolves_trans _ _ _ before evolved
    refine ⟨evolved,own,inv,ih _ (issues.2 _) (gives _) ?_ ?_⟩
    · exact fun other allowed final frame after =>
        kept other allowed final frame (protocol.evolves_trans _ _ _ soFar after)
    · exact fun value final isGood after => returns value final isGood (protocol.evolves_trans _ _ _ soFar after)

theorem Holds.of_issues {permitted : Op → Prop} {program : Program Op Reply α}
    {state : State Op Reply World} {own : Resource} (issues : program.Issues permitted)
    (kept : ∀ op, permitted op → ∀ later frame, protocol.invariant later (own + frame) →
      protocol.fits index call later own op ∧ ∀ fault, protocol.permits index call later frame op fault →
        protocol.evolves later (later.after service index op fault) ∧
        protocol.invariant (later.after service index op fault) (own + frame))
    (returns : ∀ value later, post value later own) :
    Holds service protocol index call post program state own :=
  .of_issues_from issues (.any program) (fun op allowed later frame _ => kept op allowed later frame)
    fun value later _ _ => returns value later

theorem Holds.unburdened [DecidableEq Op] {program : Program Op Reply α} {state : State Op Reply World}
    {own frame : Resource} {op : Op} {value : World → Reply op} {burden : Op → Bool} (fault : Fault)
    (answered : service.execute op fault state.world = (value state.world,state.world))
    (allowed : ∀ later : State Op Reply World, later.world = state.world →
      protocol.permits index call later frame op fault ∧
        (protocol.invariant (later.after service index op fault) frame → protocol.invariant later frame))
    (free : ∀ later own other, protocol.fits index call later own other → other ≠ op → burden other = false → own = 0)
    (returns : ∀ value later own, post value later own → own = 0)
    (holds : Holds service protocol index call post program state own) (inv : protocol.invariant state (own + frame))
    (light : (program.upcoming op (value state.world)).all (fun other => !burden other) = true) :
    protocol.invariant state frame := by
  induction program generalizing state own with
  | done value =>
    rw [returns value state own (holds state (protocol.evolves_refl state)),zero_add] at inv
    exact inv
  | perform other next ih =>
    obtain ⟨fits,steps⟩ := holds state (protocol.evolves_refl state) frame inv
    unfold Program.upcoming at light
    split at light
    · rename_i same
      subst same
      obtain ⟨permitted,back⟩ := allowed state rfl
      obtain ⟨_,kept,counted,rest⟩ := steps fault permitted
      have world : (state.after service index op fault).world = state.world := congrArg Prod.snd answered
      rw [congrArg Prod.fst answered] at rest
      refine back (ih (value state.world) ?_ ?_ rest counted ?_)
      · rw [world]
        exact answered
      · rw [world]
        exact allowed
      · rw [world]
        exact light
    · rename_i different
      have none := free state own other fits (Ne.symm different) (by simpa using light)
      rw [none,zero_add] at inv
      exact inv

variable (service protocol)

abbrev Clears (index : Nat) (call : Call) (program : Program Op Reply α) (state : State Op Reply World)
    (own : Resource) : Prop := Holds service protocol index call (fun _ _ kept => kept = 0) program state own

variable {service protocol} in
theorem Clears.done {value : α} {state : State Op Reply World} :
    Clears service protocol index call (.done value) state 0 := fun _ _ => rfl

variable {service protocol} in
theorem Clears.bind {first : Program Op Reply β} {rest : β → Program Op Reply α} {state : State Op Reply World}
    {own : Resource} (clears : Clears service protocol index call first state own)
    (continues : ∀ value later, Clears service protocol index call (rest value) later 0) :
    Clears service protocol index call (first.bind rest) state own := by
  refine Holds.bind (Holds.consequence clears ?_)
  rintro value later _ rfl
  exact continues value later

section Stable
variable (protocol : Protocol Op Reply World Fault Call PUnit)

def Protocol.Stable : Prop := ∀ index call state op fault, protocol.invariant state PUnit.unit →
  protocol.fits index call state PUnit.unit op → protocol.permits index call state PUnit.unit op fault →
    protocol.evolves state (state.after service index op fault) ∧
      protocol.invariant (state.after service index op fault) PUnit.unit

abbrev Sustains (index : Nat) (call : Call) (post : α → State Op Reply World → Prop) (program : Program Op Reply α)
    (state : State Op Reply World) : Prop :=
  Holds service protocol index call (fun value later _ => post value later) program state PUnit.unit

variable {service protocol} {post : α → State Op Reply World → Prop} {state : State Op Reply World}

theorem Sustains.perform (stable : protocol.Stable service) {op : Op} {next : Reply op → Program Op Reply α}
    (fits : ∀ later, protocol.evolves state later → protocol.fits index call later PUnit.unit op)
    (continues : ∀ later fault, protocol.invariant later PUnit.unit →
      protocol.permits index call later PUnit.unit op fault → protocol.evolves state later →
      protocol.evolves later (later.after service index op fault) →
      Sustains service protocol index call post (next (service.execute op fault later.world).1)
        (later.after service index op fault)) :
    Sustains service protocol index call post (.perform op next) state := by
  intro later before frame inv
  refine ⟨fits later before,fun fault permitted => ?_⟩
  obtain ⟨evolved,kept⟩ := stable index call later op fault inv (fits later before) permitted
  exact ⟨evolved,PUnit.unit,kept,continues later fault inv permitted before evolved⟩

theorem Sustains.done {value : α} (returns : ∀ later, protocol.evolves state later → post value later) :
    Sustains service protocol index call post (.done value) state := returns

theorem Sustains.bind {first : Program Op Reply β} {rest : β → Program Op Reply α}
    (sustains : Sustains service protocol index call
      (fun value later => Sustains service protocol index call post (rest value) later) first state) :
    Sustains service protocol index call post (first.bind rest) state := Holds.bind sustains

theorem Sustains.of_issues (stable : protocol.Stable service) {program : Program Op Reply α} {good : α → Prop}
    (issues : program.Issues fun op => ∀ later, protocol.evolves state later →
      protocol.fits index call later PUnit.unit op) (gives : program.Returns good)
    (returns : ∀ value later, good value → protocol.evolves state later → post value later) :
    Sustains service protocol index call post program state :=
  Holds.of_issues_from issues gives (fun op fits later _ before inv => ⟨fits later before,fun fault permitted =>
    stable index call later op fault inv (fits later before) permitted⟩) returns

end Stable

variable (results : Nat → Call → Result → State Op Reply World → Resource → Prop)

def ThreadHolds (index : Nat) (thread : Thread Op Reply Call Result)
    (state : State Op Reply World) (own : Resource) : Prop :=
  match thread.program with
  | some program => Holds service protocol index thread.call (results index thread.call) program state own
  | none => own = 0

variable {service protocol results} in
theorem ThreadHolds.unburdened [DecidableEq Op] {config : Config Op Reply World Call Result} {index : Nat}
    {thread : Thread Op Reply Call Result} {own frame : Resource} {op : Op} {value : World → Reply op}
    {burden : Op → Bool} (fault : Fault)
    (answered : service.execute op fault config.state.world = (value config.state.world,config.state.world))
    (allowed : ∀ later : State Op Reply World, later.world = config.state.world →
      protocol.permits index thread.call later frame op fault ∧
        (protocol.invariant (later.after service index op fault) frame → protocol.invariant later frame))
    (free : ∀ later own other, protocol.fits index thread.call later own other → other ≠ op →
      burden other = false → own = 0)
    (returns : ∀ value later own, results index thread.call value later own → own = 0)
    (spared : config.threads[index]?.all (fun thread => !Nearing op value burden config thread) = true)
    (found : config.threads[index]? = some thread)
    (holds : ThreadHolds service protocol results index thread config.state own)
    (inv : protocol.invariant config.state (own + frame)) : protocol.invariant config.state frame := by
  obtain ⟨call,program⟩ := thread
  cases program with
  | none =>
    rw [show own = 0 from holds,zero_add] at inv
    exact inv
  | some program =>
    rw [found] at spared
    refine Holds.unburdened fault answered allowed free returns holds inv ?_
    cases next : program.upcoming op (value config.state.world) with
    | none => rfl
    | some other => simpa [Nearing,next] using spared

/-- What is known of a thread from where it stands: before a statement, `fits`;
after its return, its postcondition. -/
def ThreadFits (index : Nat) (thread : Thread Op Reply Call Result)
    (state : State Op Reply World) (own : Resource) : Prop :=
  match thread.program with
  | some (.perform op _) => protocol.fits index thread.call state own op
  | some (.done value) => results index thread.call value state own
  | none => own = 0

def PoolHolds (config : Config Op Reply World Call Result) : Prop :=
  ∃ owns : List Resource, owns.length = config.threads.length ∧
    (∀ index thread own, config.threads[index]? = some thread → owns[index]? = some own →
      ThreadHolds service protocol results index thread config.state own) ∧
    protocol.invariant config.state owns.sum

structure Obeys (guard : Config Op Reply World Call Result → Action Call Fault → Prop)
    (first : Config Op Reply World Call Result) : Prop where
  starts : ∀ config call, Run service guard first config → guard config (.start call) →
    Holds service protocol config.threads.length call (results config.threads.length call)
      (service.program call) config.state 0
  steps : ∀ config index fault call op next (own : Resource) (others : List Resource),
    Run service guard first config →
    guard config (.step index fault) →
    config.threads[index]? = some ⟨call,some (.perform op next)⟩ →
    protocol.invariant config.state (own + others.sum) →
    (∀ other ∈ others, ∃ position thread, position ≠ index ∧
      config.threads[position]? = some thread ∧
      ThreadFits protocol results position thread config.state other) →
    protocol.permits index call config.state others.sum op fault
  stops : ∀ config index thread own frame, Run service guard first config →
    guard config (.stop index) → config.threads[index]? = some thread →
    ThreadHolds service protocol results index thread config.state own →
    protocol.invariant config.state (own + frame) → protocol.invariant config.state frame

variable {service protocol results}

theorem ThreadHolds.fits {index : Nat} {thread : Thread Op Reply Call Result}
    {state : State Op Reply World} {own frame : Resource}
    (holds : ThreadHolds service protocol results index thread state own)
    (inv : protocol.invariant state (own + frame)) :
    ThreadFits protocol results index thread state own := by
  obtain ⟨call,program⟩ := thread
  cases program with
  | none => exact holds
  | some program =>
    cases program with
    | done value => exact holds state (protocol.evolves_refl state)
    | perform op next => exact (holds state (protocol.evolves_refl state) frame inv).1

theorem ThreadHolds.later {index : Nat} {thread : Thread Op Reply Call Result}
    {state next : State Op Reply World} {own : Resource}
    (holds : ThreadHolds service protocol results index thread state own)
    (evolved : protocol.evolves state next) :
    ThreadHolds service protocol results index thread next own := by
  obtain ⟨call,program⟩ := thread
  cases program with
  | none => exact holds
  | some program => exact Holds.later holds evolved

private theorem sum_split (owns : List Resource) (index : Nat) (bound : index < owns.length) :
    owns.sum = owns[index] + (owns.take index ++ owns.drop (index + 1)).sum := by
  conv_lhs => rw [← List.take_append_drop index owns,List.drop_eq_getElem_cons bound]
  simp only [List.sum_append,List.sum_cons]
  exact add_left_comm _ _ _

private theorem sum_set_split (owns : List Resource) (index : Nat) (kept : Resource)
    (bound : index < owns.length) :
    (owns.set index kept).sum = kept + (owns.take index ++ owns.drop (index + 1)).sum := by
  rw [List.set_eq_take_cons_drop kept bound]
  simp only [List.sum_append,List.sum_cons]
  exact add_left_comm _ _ _

omit [AddCommMonoid Resource] in
private theorem others_position (owns : List Resource) (index : Nat) (other : Resource)
    (member : other ∈ owns.take index ++ owns.drop (index + 1)) :
    ∃ position, position ≠ index ∧ owns[position]? = some other := by
  rcases List.mem_append.mp member with before | after
  · obtain ⟨position,bound,equal⟩ := List.mem_iff_getElem.mp before
    have small : position < index := by
      have := bound
      rw [List.length_take] at this
      omega
    refine ⟨position,by omega,?_⟩
    rw [← equal,List.getElem_take]
    exact List.getElem?_eq_getElem _
  · obtain ⟨position,bound,equal⟩ := List.mem_iff_getElem.mp after
    refine ⟨index + 1 + position,by omega,?_⟩
    rw [← equal,List.getElem_drop]
    exact List.getElem?_eq_getElem _

namespace PoolHolds
variable {guard : Config Op Reply World Call Result → Action Call Fault → Prop}
variable {first config after : Config Op Reply World Call Result}

private theorem start (holds : PoolHolds service protocol results config)
    (obeys : Obeys service protocol results guard first) (run : Run service guard first config)
    (call : Call) (permitted : guard config (.start call)) :
    PoolHolds service protocol results
      {config with threads := config.threads ++ [⟨call,some (service.program call)⟩]} := by
  obtain ⟨owns,size,threads,inv⟩ := holds
  refine ⟨owns ++ [0],by simp [size],?_,by simpa using inv⟩
  intro index thread own found owned
  rcases Nat.lt_or_ge index config.threads.length with bound | beyond
  · rw [List.getElem?_append_left bound] at found
    rw [List.getElem?_append_left (by omega)] at owned
    exact threads index thread own found owned
  · rw [List.getElem?_append_right beyond] at found
    rw [List.getElem?_append_right (by omega)] at owned
    have zero : index - config.threads.length = 0 := by
      have := (List.getElem?_eq_some_iff.mp found).1
      simp only [List.length_singleton] at this
      omega
    rw [zero] at found
    rw [show index - owns.length = 0 by omega] at owned
    cases found
    cases owned
    have same : index = config.threads.length := by omega
    subst same
    exact obeys.starts config call run permitted

private theorem step (holds : PoolHolds service protocol results config)
    (obeys : Obeys service protocol results guard first) (run : Run service guard first config)
    (index : Nat) (fault : Fault) (permitted : guard config (.step index fault))
    (taken : config.next service (.step index fault) = some after) :
    PoolHolds service protocol results after := by
  obtain ⟨owns,size,threads,inv⟩ := holds
  obtain ⟨call,op,next,found,rfl⟩ := Config.next_step _ _ _ _ _ taken
  have bound : index < owns.length := size ▸ (List.getElem?_eq_some_iff.mp found).1
  rw [sum_split owns index bound] at inv
  have holds := threads index _ _ found (List.getElem?_eq_getElem bound)
  have fitting : ∀ other ∈ owns.take index ++ owns.drop (index + 1), ∃ position thread,
      position ≠ index ∧ config.threads[position]? = some thread ∧
      ThreadFits protocol results position thread config.state other := by
    intro other member
    obtain ⟨position,distinct,owned⟩ := others_position owns index other member
    have inside : position < owns.length := (List.getElem?_eq_some_iff.mp owned).1
    have present := List.getElem?_eq_getElem (size ▸ inside : position < config.threads.length)
    refine ⟨position,_,distinct,present,?_⟩
    have total := inv
    rw [← sum_split owns index bound,sum_split owns position inside] at total
    have value : owns[position] = other := (List.getElem?_eq_some_iff.mp owned).2
    rw [value] at total
    exact (threads position _ other present owned).fits total
  have allowed := obeys.steps config index fault call op next _ _ run permitted found inv fitting
  obtain ⟨_,steps⟩ := holds config.state (protocol.evolves_refl _) _ inv
  obtain ⟨evolved,kept,counted,rest⟩ := steps fault allowed
  refine ⟨owns.set index kept,by simp [size],?_,by rw [sum_set_split _ _ _ bound]; exact counted⟩
  intro position thread own present owned
  by_cases equal : index = position
  · subst equal
    rw [List.getElem?_set_self (size ▸ bound)] at present
    rw [List.getElem?_set_self bound] at owned
    cases present
    cases owned
    exact rest
  · rw [List.getElem?_set_ne equal] at present owned
    exact (threads position thread own present owned).later evolved

private theorem stop (holds : PoolHolds service protocol results config)
    (obeys : Obeys service protocol results guard first) (run : Run service guard first config)
    (index : Nat) (permitted : guard config (.stop index))
    (taken : config.next service (.stop index) = some after) :
    PoolHolds service protocol results after := by
  obtain ⟨owns,size,threads,inv⟩ := holds
  obtain ⟨call,program,found,rfl⟩ := Config.next_stop _ _ _ _ taken
  have bound : index < owns.length := size ▸ (List.getElem?_eq_some_iff.mp found).1
  rw [sum_split owns index bound] at inv
  have holds := threads index _ _ found (List.getElem?_eq_getElem bound)
  have dropped := obeys.stops config index _ _ _ run permitted found holds inv
  refine ⟨owns.set index 0,by simp [size],?_,?_⟩
  · intro position thread own present owned
    by_cases equal : index = position
    · subst equal
      rw [List.getElem?_set_self (size ▸ bound)] at present
      rw [List.getElem?_set_self bound] at owned
      cases present
      cases owned
      exact rfl
    · rw [List.getElem?_set_ne equal] at present owned
      exact threads position thread own present owned
  · rw [sum_set_split _ _ _ bound,zero_add]
    exact dropped

theorem run (initially : PoolHolds service protocol results first)
    (obeys : Obeys service protocol results guard first) (run : Run service guard first after) :
    PoolHolds service protocol results after := by
  refine run.invariant (PoolHolds service protocol results) initially ?_
  intro config action next before holds permitted taken
  cases action with
  | start call =>
    cases taken
    exact start holds obeys before call permitted
  | step index fault => exact step holds obeys before index fault permitted taken
  | stop index => exact stop holds obeys before index permitted taken

theorem consequence {weak : Nat → Call → Result → State Op Reply World → Resource → Prop}
    (holds : PoolHolds service protocol results config)
    (weaker : ∀ index call value later own, index < config.threads.length →
      results index call value later own → weak index call value later own) :
    PoolHolds service protocol weak config := by
  obtain ⟨owns,size,threads,inv⟩ := holds
  refine ⟨owns,size,?_,inv⟩
  intro index ⟨call,program⟩ own found owned
  have kept := threads index _ own found owned
  have bound : index < config.threads.length := (List.getElem?_eq_some_iff.mp found).1
  cases program with
  | none => exact kept
  | some program =>
    exact Holds.consequence kept fun value later own => weaker index call value later own bound

theorem idle (world : World) (inv : protocol.invariant ⟨world,[]⟩ 0) :
    PoolHolds service protocol results (Config.idle world) :=
  ⟨[],rfl,fun _ _ _ found => by simp [Config.idle] at found,by simpa [Config.idle] using inv⟩

theorem thread_fits (holds : PoolHolds service protocol results config) (index : Nat)
    (thread : Thread Op Reply Call Result) (found : config.threads[index]? = some thread) :
    ∃ own frame, ThreadFits protocol results index thread config.state own ∧
      protocol.invariant config.state (own + frame) := by
  obtain ⟨owns,size,threads,inv⟩ := holds
  have bound : index < owns.length := size ▸ (List.getElem?_eq_some_iff.mp found).1
  rw [sum_split owns index bound] at inv
  exact ⟨_,_,(threads index _ _ found (List.getElem?_eq_getElem bound)).fits inv,inv⟩

theorem quiet (holds : PoolHolds service protocol results config) (isQuiet : config.Quiet)
    (returns : ∀ index call value state own, results index call value state own → own = 0) :
    protocol.invariant config.state 0 := by
  obtain ⟨owns,size,threads,inv⟩ := holds
  have none : ∀ own ∈ owns, own = 0 := by
    intro own member
    obtain ⟨index,bound,same⟩ := List.mem_iff_getElem.mp member
    have inside : index < config.threads.length := size ▸ bound
    have found := List.getElem?_eq_getElem inside
    have rests := isQuiet _ (List.mem_of_getElem? found)
    have held := threads index _ own found (same ▸ List.getElem?_eq_getElem bound)
    generalize config.threads[index] = thread at rests held
    obtain ⟨call,program⟩ := thread
    rcases program with _ | ⟨value⟩ | ⟨op,next⟩
    · exact held
    · exact returns index call value config.state own (held _ (protocol.evolves_refl _))
    · exact absurd rfl rests
  rw [List.sum_eq_zero none] at inv
  exact inv

theorem invariant_holds (holds : PoolHolds service protocol results config) :
    ∃ total, protocol.invariant config.state total := by
  obtain ⟨owns,_,_,inv⟩ := holds
  exact ⟨owns.sum,inv⟩

end PoolHolds

theorem mem_sum_tokens {Token : Type} {token : Token} {others : List (Multiset Token)}
    (member : token ∈ others.sum) : ∃ other ∈ others, token ∈ other := by
  induction others with
  | nil => exact absurd member (Multiset.notMem_zero _)
  | cons first rest ih =>
    rw [List.sum_cons,Multiset.mem_add] at member
    rcases member with here | there
    · exact ⟨first,List.mem_cons_self,here⟩
    · obtain ⟨other,inside,holds⟩ := ih there
      exact ⟨other,List.mem_cons_of_mem _ inside,holds⟩

end Ticketbus.Concurrency
