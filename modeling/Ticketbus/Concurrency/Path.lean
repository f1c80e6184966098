import Mathlib.Data.List.Basic

/-! Paths through a transition system whose actions are guarded: what is reached, what
stays true along the way, and paths found by executing a list of actions. -/
namespace Ticketbus.Concurrency
variable {Node Act : Type} {next : Node → Act → Option Node} {guard : Node → Act → Prop}
variable {first middle last : Node}

/-- The nodes reached from a first one by actions that all meet the guard. -/
inductive Path (next : Node → Act → Option Node) (guard : Node → Act → Prop) (first : Node) : Node → Prop
  | refl : Path next guard first first
  | step {middle last : Node} (action : Act) (path : Path next guard first middle)
      (permitted : guard middle action) (taken : next middle action = some last) : Path next guard first last

namespace Path

theorem trans (before : Path next guard first middle) (after : Path next guard middle last) :
    Path next guard first last := by
  induction after with
  | refl => exact before
  | step action path permitted taken ih => exact .step action ih permitted taken

theorem mono {weak : Node → Act → Prop} (weaker : ∀ node action, guard node action → weak node action)
    (path : Path next guard first last) : Path next weak first last := by
  induction path with
  | refl => exact .refl
  | step action path permitted taken ih => exact .step action ih (weaker _ _ permitted) taken

theorem invariant (property : Node → Prop) (initially : property first)
    (kept : ∀ node action after, Path next guard first node → property node →
      guard node action → next node action = some after → property after)
    (path : Path next guard first last) : property last := by
  induction path with
  | refl => exact initially
  | step action path permitted taken ih => exact kept _ _ _ path ih permitted taken

end Path

/-- A path with the nodes it passes, the last one first. -/
inductive Trail (next : Node → Act → Option Node) (guard : Node → Act → Prop) (first : Node) :
    List Node → Node → Prop
  | refl : Trail next guard first [first] first
  | step {nodes : List Node} {middle last : Node} (action : Act) (trail : Trail next guard first nodes middle)
      (permitted : guard middle action) (taken : next middle action = some last) :
      Trail next guard first (last :: nodes) last

namespace Trail
variable {nodes : List Node}

theorem path (trail : Trail next guard first nodes last) : Path next guard first last := by
  induction trail with
  | refl => exact .refl
  | step action trail permitted taken ih => exact .step action ih permitted taken

theorem first_mem (trail : Trail next guard first nodes last) : first ∈ nodes := by
  induction trail with
  | refl => exact List.mem_cons_self
  | step action trail permitted taken ih => exact List.mem_cons_of_mem _ ih

theorem crosses (property : Node → Prop) (trail : Trail next guard first nodes last) (before : ¬property first)
    (finally_ : property last) : ∃ middle action after, Path next guard first middle ∧
      next middle action = some after ∧ ¬property middle ∧ property after ∧ after ∈ nodes := by
  induction trail with
  | refl => exact absurd finally_ before
  | @step nodes middle last action trail permitted taken ih =>
    by_cases already : property middle
    · obtain ⟨earlier,action,after,path,taken,missing,holds,member⟩ := ih already
      exact ⟨earlier,action,after,path,taken,missing,holds,List.mem_cons_of_mem _ member⟩
    · exact ⟨middle,action,last,trail.path,taken,already,finally_,List.mem_cons_self⟩

end Trail

def Anything (_ : Node) (_ : Act) : Prop := True

instance (node : Node) (action : Act) : Decidable (Anything node action) := inferInstanceAs (Decidable True)

def follow (next : Node → Act → Option Node) (guard : Node → Act → Prop)
    [∀ node action, Decidable (guard node action)] : Node → List Act → Option Node
  | node,[] => some node
  | node,action :: rest =>
    if guard node action then (next node action).bind fun after => follow next guard after rest
    else none

theorem path_of_follow (next : Node → Act → Option Node) (guard : Node → Act → Prop)
    [∀ node action, Decidable (guard node action)] (actions : List Act) (first last : Node)
    (ok : follow next guard first actions = some last) : Path next guard first last := by
  induction actions generalizing first with
  | nil =>
    cases ok
    exact .refl
  | cons action rest ih =>
    simp only [follow] at ok
    split at ok
    · rename_i permitted
      obtain ⟨middle,taken,remaining⟩ := Option.bind_eq_some_iff.mp ok
      exact (Path.step action .refl permitted taken).trans (ih middle remaining)
    · contradiction

def followTrail (next : Node → Act → Option Node) (guard : Node → Act → Prop)
    [∀ node action, Decidable (guard node action)] : List Node → Node → List Act → Option (List Node × Node)
  | nodes,node,[] => some (nodes,node)
  | nodes,node,action :: rest =>
    if guard node action then
      (next node action).bind fun after => followTrail next guard (after :: nodes) after rest
    else none

theorem trail_of_follow (next : Node → Act → Option Node) (guard : Node → Act → Prop)
    [∀ node action, Decidable (guard node action)] (actions : List Act) {first node last : Node}
    {nodes all : List Node} (trail : Trail next guard first nodes node)
    (ok : followTrail next guard nodes node actions = some (all,last)) : Trail next guard first all last := by
  induction actions generalizing nodes node with
  | nil =>
    cases ok
    exact trail
  | cons action rest ih =>
    simp only [followTrail] at ok
    split at ok
    · rename_i permitted
      obtain ⟨after,taken,remaining⟩ := Option.bind_eq_some_iff.mp ok
      exact ih (.step action trail permitted taken) remaining
    · contradiction

theorem exists_path_of_follow (next : Node → Act → Option Node) (guard : Node → Act → Prop)
    [∀ node action, Decidable (guard node action)] (actions : List Act) (first : Node) (test : Node → Bool)
    (ok : (follow next guard first actions).any test = true) :
    ∃ last, Path next guard first last ∧ test last = true := by
  obtain ⟨last,executed,passed⟩ := (Option.any_eq_true _ _).mp ok
  exact ⟨last,path_of_follow next guard actions first last executed,passed⟩

/-! Two systems side by side: every action is one of theirs, and the guard sees both. -/

section Coupling
variable {Left Right LeftAct RightAct : Type}
variable {onLeft : Left → LeftAct → Option Left} {onRight : Right → RightAct → Option Right}
variable {guard : Left × Right → LeftAct ⊕ RightAct → Prop} {first last : Left × Right}

def coupled (onLeft : Left → LeftAct → Option Left) (onRight : Right → RightAct → Option Right) (both : Left × Right) :
    LeftAct ⊕ RightAct → Option (Left × Right)
  | .inl action => (onLeft both.1 action).map fun after => (after,both.2)
  | .inr action => (onRight both.2 action).map fun after => (both.1,after)

theorem Path.left {own : Left → LeftAct → Prop} (path : Path (coupled onLeft onRight) guard first last)
    (weaker : ∀ both action, guard both (.inl action) → own both.1 action) : Path onLeft own first.1 last.1 := by
  refine path.invariant (fun both => Path onLeft own first.1 both.1) .refl ?_
  intro both action after _ before permitted taken
  cases action with
  | inl action =>
    obtain ⟨moved,isMoved,rfl⟩ := Option.map_eq_some_iff.mp taken
    exact .step action before (weaker _ _ permitted) isMoved
  | inr action =>
    obtain ⟨moved,_,rfl⟩ := Option.map_eq_some_iff.mp taken
    exact before

theorem Path.right {own : Right → RightAct → Prop} (path : Path (coupled onLeft onRight) guard first last)
    (weaker : ∀ both action, guard both (.inr action) → own both.2 action) : Path onRight own first.2 last.2 := by
  refine path.invariant (fun both => Path onRight own first.2 both.2) .refl ?_
  intro both action after _ before permitted taken
  cases action with
  | inl action =>
    obtain ⟨moved,_,rfl⟩ := Option.map_eq_some_iff.mp taken
    exact before
  | inr action =>
    obtain ⟨moved,isMoved,rfl⟩ := Option.map_eq_some_iff.mp taken
    exact .step action before (weaker _ _ permitted) isMoved

end Coupling

end Ticketbus.Concurrency
