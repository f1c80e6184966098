import Ticketbus.Concurrency.Pool

/-! One program that has the store to itself: its statements are executed one after
the other, each under whatever fault the environment has for it. -/
namespace Ticketbus.Concurrency
variable {Op : Type} {Reply : Op → Type} {World Fault α β : Type}

abbrev Exchange (Op : Type) (Reply : Op → Type) := (op : Op) × Reply op

/-- What is left when a program has returned; the trace has its first statement first. -/
structure Outcome (Op : Type) (Reply : Op → Type) (World α : Type) where
  value : α
  world : World
  trace : List (Exchange Op Reply)

/-- The outcome of a program one of whose statements was executed before. -/
def Outcome.after (outcome : Outcome Op Reply World α) (exchange : Exchange Op Reply) : Outcome Op Reply World α :=
  {outcome with trace := exchange :: outcome.trace}

def Outcome.append (first : Outcome Op Reply World α) (last : Outcome Op Reply World β) :
    Outcome Op Reply World β := {last with trace := first.trace ++ last.trace}

def Outcome.ops (outcome : Outcome Op Reply World α) : List Op := outcome.trace.map Sigma.fst

@[simp] theorem Outcome.ops_after (outcome : Outcome Op Reply World α) (exchange : Exchange Op Reply) :
    (outcome.after exchange).ops = exchange.1 :: outcome.ops := rfl

@[simp] theorem Outcome.ops_append (first : Outcome Op Reply World α) (last : Outcome Op Reply World β) :
    (first.append last).ops = first.ops ++ last.ops := List.map_append

namespace Program
variable (execute : (op : Op) → Fault → World → Reply op × World)

/-- Run a program alone; the n-th statement meets the n-th fault. -/
def run : Program Op Reply α → (Nat → Fault) → World → Outcome Op Reply World α
  | .done value,_,world => ⟨value,world,[]⟩
  | .perform op next,faults,world =>
    let reply := execute op (faults 0) world
    (run (next reply.1) (fun position => faults (position + 1)) reply.2).after ⟨op,reply.1⟩

def Ensures : (Outcome Op Reply World α → Prop) → Program Op Reply α → World → Prop
  | post,.done value,world => post ⟨value,world,[]⟩
  | post,.perform op next,world => ∀ fault,
    Ensures (fun outcome => post (outcome.after ⟨op,(execute op fault world).1⟩)) (next (execute op fault world).1)
      (execute op fault world).2

/-- A program run again and again, each time from where the last run has left. -/
def runs (program : Program Op Reply α) : List (Nat → Fault) → World → List (Outcome Op Reply World α)
  | [],_ => []
  | faults :: rest,world =>
    program.run execute faults world :: program.runs rest (program.run execute faults world).world

def afterRuns (program : Program Op Reply α) (faults : List (Nat → Fault)) (world : World) : World :=
  faults.foldl (fun world faults => (program.run execute faults world).world) world

variable {execute}

theorem run_step {op : Op} {next : Reply op → Program Op Reply α} {faults : Nat → Fault} {world : World}
    (post : Outcome Op Reply World α → Prop)
    (ends : ∀ reply later, execute op (faults 0) world = (reply,later) →
      post (((next reply).run execute (fun position => faults (position + 1)) later).after ⟨op,reply⟩)) :
    post ((Program.perform op next).run execute faults world) := ends _ _ rfl

theorem run_ends {op : Op} {next : Reply op → Program Op Reply α} {faults : Nat → Fault} {world : World}
    (post : α → World → Prop)
    (ends : ∀ reply later, execute op (faults 0) world = (reply,later) →
      post ((next reply).run execute (fun position => faults (position + 1)) later).value
        ((next reply).run execute (fun position => faults (position + 1)) later).world) :
    post ((Program.perform op next).run execute faults world).value ((Program.perform op next).run execute faults world).world :=
  ends _ _ rfl

theorem run_bind (first : Program Op Reply α) (rest : α → Program Op Reply β) (faults : Nat → Fault) (world : World) :
    (first.bind rest).run execute faults world = (first.run execute faults world).append
      ((rest (first.run execute faults world).value).run execute
        (fun position => faults (position + (first.run execute faults world).trace.length))
        (first.run execute faults world).world) := by
  induction first generalizing faults world with
  | done value => rfl
  | perform op next ih =>
    change ((Program.bind (next _) rest).run execute _ _).after _ = _
    rw [ih]
    rfl

theorem Ensures.run {post : Outcome Op Reply World α → Prop} {program : Program Op Reply α} {world : World}
    (ensures : program.Ensures execute post world) (faults : Nat → Fault) : post (program.run execute faults world) := by
  induction program generalizing post faults world with
  | done value => exact ensures
  | perform op next ih => exact ih _ (ensures (faults 0)) _

theorem Ensures.of_all {post : Outcome Op Reply World α → Prop} (program : Program Op Reply α) (world : World)
    (all : ∀ outcome, post outcome) : program.Ensures execute post world := by
  induction program generalizing post world with
  | done value => exact all _
  | perform op next ih => exact fun fault => ih _ _ fun outcome => all _

theorem Ensures.and {post other : Outcome Op Reply World α → Prop} {program : Program Op Reply α} {world : World}
    (ensures : program.Ensures execute post world) (also : program.Ensures execute other world) :
    program.Ensures execute (fun outcome => post outcome ∧ other outcome) world := by
  induction program generalizing post other world with
  | done value => exact ⟨ensures,also⟩
  | perform op next ih => exact fun fault => ih _ (ensures fault) (also fault)

theorem Ensures.mono {post weak : Outcome Op Reply World α → Prop} {program : Program Op Reply α} {world : World}
    (ensures : program.Ensures execute post world) (weaker : ∀ outcome, post outcome → weak outcome) :
    program.Ensures execute weak world := by
  induction program generalizing post weak world with
  | done value => exact weaker _ ensures
  | perform op next ih => exact fun fault => ih _ (ensures fault) fun outcome => weaker _

theorem Ensures.perform {post : Outcome Op Reply World α → Prop} {op : Op} {next : Reply op → Program Op Reply α}
    {world : World}
    (ensures : ∀ reply later, (next reply).Ensures execute (fun outcome => post (outcome.after ⟨op,reply⟩)) later) :
    (Program.perform op next).Ensures execute post world := fun _ => ensures _ _

theorem Ensures.step {post : Outcome Op Reply World α → Prop} {op : Op} {next : Reply op → Program Op Reply α}
    {world : World}
    (ensures : ∀ fault reply later, execute op fault world = (reply,later) →
      (next reply).Ensures execute (fun outcome => post (outcome.after ⟨op,reply⟩)) later) :
    (Program.perform op next).Ensures execute post world := fun fault => ensures fault _ _ rfl

theorem Ensures.bind {post : Outcome Op Reply World β → Prop} {first : Program Op Reply α}
    {rest : α → Program Op Reply β} {world : World}
    (ensures : first.Ensures execute
      (fun outcome => (rest outcome.value).Ensures execute (fun last => post (outcome.append last)) outcome.world) world) :
    (first.bind rest).Ensures execute post world := by
  induction first generalizing post world with
  | done value => exact ensures
  | perform op next ih => exact fun fault => ih _ (ensures fault)

theorem Ensures.of_issues {permitted : Op → Prop} {good : α → Prop} {program : Program Op Reply α}
    (issues : program.Issues permitted) (returns : program.Returns good) (world : World) :
    program.Ensures execute (fun outcome => good outcome.value ∧ ∀ op ∈ outcome.ops, permitted op) world := by
  induction program generalizing world with
  | done value => exact ⟨returns,by simp [Outcome.ops]⟩
  | perform op next ih =>
    intro fault
    refine (ih _ (issues.2 _) (returns _) _).mono fun outcome ⟨value,ops⟩ => ⟨value,?_⟩
    rw [Outcome.ops_after]
    exact List.forall_mem_cons.mpr ⟨issues.1,ops⟩

theorem Ensures.keeps {permitted : Op → Prop} {property : World → Prop} {program : Program Op Reply α} {world : World}
    (issues : program.Issues permitted)
    (kept : ∀ op fault world, permitted op → property world → property (execute op fault world).2)
    (initially : property world) : program.Ensures execute (fun outcome => property outcome.world) world := by
  induction program generalizing world with
  | done value => exact initially
  | perform op next ih => exact fun fault => ih _ (issues.2 _) (kept op fault world issues.1 initially)

end Program

end Ticketbus.Concurrency
