import Mathlib.Logic.Function.Basic
import Mathlib.Logic.Relation
import Mathlib.Order.RelClasses

/-! Transactions that take exclusive locks one after the other and hold them to their end.
Where all of them take their locks along one order, no cycle of waiting transactions arises. -/
namespace Ticketbus.Concurrency
variable {Agent Lock : Type}

structure Locking (Agent Lock : Type) where
  holder : Lock → Option Agent
  wanted : Agent → List Lock

namespace Locking

section Steps
variable [DecidableEq Agent] [DecidableEq Lock]

def take (state : Locking Agent Lock) (agent : Agent) (lock : Lock) (rest : List Lock) : Locking Agent Lock where
  holder := Function.update state.holder lock (some agent)
  wanted := Function.update state.wanted agent rest

def skip (state : Locking Agent Lock) (agent : Agent) (rest : List Lock) : Locking Agent Lock where
  holder := state.holder
  wanted := Function.update state.wanted agent rest

def finish (state : Locking Agent Lock) (agent : Agent) : Locking Agent Lock where
  holder := fun lock => if state.holder lock = some agent then none else state.holder lock
  wanted := Function.update state.wanted agent []

inductive Step : Locking Agent Lock → Locking Agent Lock → Prop
  | take {state : Locking Agent Lock} {agent : Agent} {lock : Lock} {rest : List Lock}
      (next : state.wanted agent = lock :: rest) (free : state.holder lock = none ∨ state.holder lock = some agent) :
      Step state (state.take agent lock rest)
  | skip {state : Locking Agent Lock} {agent : Agent} {lock : Lock} {rest : List Lock}
      (next : state.wanted agent = lock :: rest) : Step state (state.skip agent rest)
  | finish (state : Locking Agent Lock) (agent : Agent) : Step state (state.finish agent)

end Steps

def Waits (state : Locking Agent Lock) (agent other : Agent) : Prop :=
  ∃ lock rest, state.wanted agent = lock :: rest ∧ state.holder lock = some other ∧ other ≠ agent

section Order
variable (before : Lock → Lock → Prop)

structure Ordered (state : Locking Agent Lock) : Prop where
  wanted : ∀ agent, (state.wanted agent).Pairwise fun one other => one = other ∨ before one other
  held : ∀ agent lock, state.holder lock = some agent → ∀ next ∈ state.wanted agent, lock = next ∨ before lock next

variable {before}

theorem Ordered.shrink {state after : Locking Agent Lock} (ordered : state.Ordered before)
    (wanted : ∀ agent, (after.wanted agent).Sublist (state.wanted agent))
    (held : ∀ agent lock, after.holder lock = some agent →
      state.holder lock = some agent ∨ state.wanted agent = lock :: after.wanted agent) : after.Ordered before := by
  refine ⟨fun agent => (ordered.wanted agent).sublist (wanted agent),fun agent lock holds next later => ?_⟩
  rcases held agent lock holds with old | new
  · exact ordered.held agent lock old next ((wanted agent).subset later)
  · exact (List.pairwise_cons.mp (new ▸ ordered.wanted agent)).1 next later

theorem update_sublist [DecidableEq Agent] {wanted : Agent → List Lock} {agent : Agent} {rest : List Lock}
    (shorter : rest.Sublist (wanted agent)) (other : Agent) :
    (Function.update wanted agent rest other).Sublist (wanted other) := by
  by_cases same : other = agent
  · subst same
    rwa [Function.update_self]
  · simp [Function.update_of_ne same]

theorem Ordered.step [DecidableEq Agent] [DecidableEq Lock] {state after : Locking Agent Lock}
    (ordered : state.Ordered before) (step : Step state after) : after.Ordered before := by
  cases step with
  | @take agent lock rest next free =>
    refine ordered.shrink (update_sublist (next ▸ List.sublist_cons_self lock rest)) fun other held holds => ?_
    change Function.update state.holder lock (some agent) held = some other at holds
    change _ ∨ state.wanted other = held :: Function.update state.wanted agent rest other
    by_cases new : held = lock
    · rw [new,Function.update_self] at holds
      cases holds
      rw [new,Function.update_self]
      exact .inr next
    · rw [Function.update_of_ne new] at holds
      exact .inl holds
  | @skip agent lock rest next =>
    exact ordered.shrink (update_sublist (next ▸ List.sublist_cons_self lock rest)) fun other held holds => .inl holds
  | finish agent =>
    refine ordered.shrink (update_sublist (List.nil_sublist _)) fun other lock holds => .inl ?_
    simp only [finish] at holds
    split at holds
    · cases holds
    · exact holds

theorem Ordered.run [DecidableEq Agent] [DecidableEq Lock] {state after : Locking Agent Lock}
    (ordered : state.Ordered before) (steps : Relation.ReflTransGen Step state after) : after.Ordered before := by
  induction steps with
  | refl => exact ordered
  | tail _ step ih => exact ih.step step

theorem Ordered.chain [IsStrictOrder Lock before] {state : Locking Agent Lock} (ordered : state.Ordered before)
    {first last : Agent} (chain : Relation.TransGen state.Waits first last) :
    ∃ wish rest held, state.wanted first = wish :: rest ∧ state.holder wish ≠ some first ∧
      state.holder held = some last ∧ (wish = held ∨ before wish held) := by
  induction chain with
  | single waits =>
    obtain ⟨lock,rest,next,holds,other⟩ := waits
    exact ⟨lock,rest,lock,next,fun own => other (Option.some.inj (holds.symm.trans own)),holds,.inl rfl⟩
  | @tail middle last _ waits ih =>
    obtain ⟨wish,rest,held,next,foreign,holds,ascends⟩ := ih
    obtain ⟨lock,later,wants,taken,other⟩ := waits
    refine ⟨wish,rest,lock,next,foreign,taken,.inr ?_⟩
    have step : before held lock := by
      rcases ordered.held middle held holds lock (wants ▸ List.mem_cons_self) with rfl | step
      · exact absurd (Option.some.inj (taken.symm.trans holds)) other
      · exact step
    rcases ascends with rfl | ascends
    · exact step
    · exact IsTrans.trans _ _ _ ascends step

theorem Ordered.acyclic [IsStrictOrder Lock before] {state : Locking Agent Lock} (ordered : state.Ordered before)
    (agent : Agent) : ¬Relation.TransGen state.Waits agent agent := by
  intro cycle
  obtain ⟨wish,rest,held,next,foreign,holds,ascends⟩ := ordered.chain cycle
  have descends := ordered.held agent held holds wish (next ▸ List.mem_cons_self)
  rcases ascends with rfl | ascends
  · exact foreign holds
  · rcases descends with rfl | descends
    · exact foreign holds
    · exact irrefl wish (IsTrans.trans _ _ _ ascends descends)

end Order

end Locking

end Ticketbus.Concurrency
