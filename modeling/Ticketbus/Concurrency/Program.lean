import Mathlib.Data.List.Basic

/-! Programs cut at their statements. A program is the tree of the statements it
issues against a shared store, branching on each reply, so that other programs
can run between any two of its statements. Nothing here fixes the statements,
their replies or what they do. -/
namespace Ticketbus.Concurrency

inductive Program (Op : Type) (Reply : Op → Type) (α : Type) : Type where
  | done (value : α)
  | perform (op : Op) (next : Reply op → Program Op Reply α)

namespace Program
variable {Op : Type} {Reply : Op → Type} {α β γ : Type}

def bind : Program Op Reply α → (α → Program Op Reply β) → Program Op Reply β
  | .done value,rest => rest value
  | .perform op next,rest => .perform op (fun reply => (next reply).bind rest)

instance : Monad (Program Op Reply) where
  pure := .done
  bind := bind

def statement (op : Op) : Program Op Reply (Reply op) := .perform op .done

def head : Program Op Reply α → Option Op
  | .done _ => none
  | .perform op _ => some op

@[simp] theorem head_done (value : α) : (.done value : Program Op Reply α).head = none := rfl

@[simp] theorem head_perform (op : Op) (next : Reply op → Program Op Reply α) :
    (Program.perform op next).head = some op := rfl

@[simp] theorem pure_eq (value : α) : (pure value : Program Op Reply α) = .done value := rfl

@[simp] theorem bind_eq (first : Program Op Reply α) (rest : α → Program Op Reply β) :
    first >>= rest = first.bind rest := rfl

@[simp] theorem done_bind (value : α) (rest : α → Program Op Reply β) :
    (.done value : Program Op Reply α).bind rest = rest value := rfl

@[simp] theorem perform_bind (op : Op) (next : Reply op → Program Op Reply α)
    (rest : α → Program Op Reply β) :
    (Program.perform op next).bind rest = .perform op (fun reply => (next reply).bind rest) := rfl

def Issues (permitted : Op → Prop) : Program Op Reply α → Prop
  | .done _ => True
  | .perform op next => permitted op ∧ ∀ reply, (next reply).Issues permitted

theorem Issues.mono {weak strong : Op → Prop} (weaker : ∀ op, strong op → weak op)
    {program : Program Op Reply α} (issues : program.Issues strong) : program.Issues weak := by
  induction program with
  | done value => trivial
  | perform op next ih => exact ⟨weaker op issues.1,fun reply => ih reply (issues.2 reply)⟩

theorem Issues.bind {permitted : Op → Prop} {first : Program Op Reply α}
    {rest : α → Program Op Reply β} (issues : first.Issues permitted)
    (continues : ∀ value, (rest value).Issues permitted) : (first.bind rest).Issues permitted := by
  induction first with
  | done value => exact continues value
  | perform op next ih => exact ⟨issues.1,fun reply => ih reply (issues.2 reply)⟩

theorem Issues.of_bind {permitted : Op → Prop} {first : Program Op Reply α} {rest : α → Program Op Reply β}
    (issues : (first.bind rest).Issues permitted) : first.Issues permitted := by
  induction first with
  | done value => trivial
  | perform op next ih => exact ⟨issues.1,fun reply => ih reply (issues.2 reply)⟩

theorem Issues.map {permitted : Op → Prop} {first : Program Op Reply α} (f : α → β)
    (issues : first.Issues permitted) : (f <$> first).Issues permitted :=
  issues.bind fun _ => trivial

theorem Issues.statement {permitted : Op → Prop} {op : Op} (allowed : permitted op) :
    (Program.statement op : Program Op Reply (Reply op)).Issues permitted :=
  ⟨allowed,fun _ => trivial⟩

def Returns (good : α → Prop) : Program Op Reply α → Prop
  | .done value => good value
  | .perform _ next => ∀ reply, (next reply).Returns good

theorem Returns.any (program : Program Op Reply α) : program.Returns fun _ => True := by
  induction program with
  | done value => trivial
  | perform op next ih => exact ih

theorem Returns.bind {middle : α → Prop} {good : β → Prop} {first : Program Op Reply α}
    {rest : α → Program Op Reply β} (returns : first.Returns middle)
    (continues : ∀ value, middle value → (rest value).Returns good) : (first.bind rest).Returns good := by
  induction first with
  | done value => exact continues value returns
  | perform op next ih => exact fun reply => ih reply (returns reply)

def upcoming [DecidableEq Op] (op : Op) (value : Reply op) : Program Op Reply α → Option Op
  | .done _ => none
  | .perform other next => if same : op = other then (next (same ▸ value)).upcoming op value else some other

theorem Issues.head {permitted : Op → Prop} {program : Program Op Reply α} (issues : program.Issues permitted)
    {op : Op} (first : program.head = some op) : permitted op := by
  cases program with
  | done value => cases first
  | perform op next =>
    cases first
    exact issues.1

theorem Issues.bind_returns {permitted : Op → Prop} {good : α → Prop} {first : Program Op Reply α}
    {rest : α → Program Op Reply β} (issues : first.Issues permitted) (returns : first.Returns good)
    (continues : ∀ value, good value → (rest value).Issues permitted) : (first.bind rest).Issues permitted := by
  induction first with
  | done value => exact continues value returns
  | perform op next ih => exact ⟨issues.1,fun reply => ih reply (issues.2 reply) (returns reply)⟩

def Once (kind : Op → Prop) : Program Op Reply α → Prop
  | .done _ => True
  | .perform op next =>
    (¬kind op ∧ ∀ reply, (next reply).Once kind) ∨ ∀ reply, (next reply).Issues fun op => ¬kind op

theorem Once.of_issues {kind : Op → Prop} {program : Program Op Reply α}
    (issues : program.Issues fun op => ¬kind op) : program.Once kind := by
  induction program with
  | done value => trivial
  | perform op next ih => exact .inl ⟨issues.1,fun reply => ih reply (issues.2 reply)⟩

theorem Once.continues {kind : Op → Prop} {op : Op} {next : Reply op → Program Op Reply α}
    (once : (Program.perform op next).Once kind) (reply : Reply op) : (next reply).Once kind := by
  rcases once with ⟨_,rest⟩ | rest
  · exact rest reply
  · exact .of_issues (rest reply)

theorem Once.map {kind : Op → Prop} {first : Program Op Reply α} (f : α → β) (once : first.Once kind) :
    (f <$> first).Once kind := by
  induction first with
  | done value => trivial
  | perform op next ih =>
    rcases once with ⟨other,rest⟩ | rest
    · exact .inl ⟨other,fun reply => ih reply (rest reply)⟩
    · exact .inr fun reply => (rest reply).map f

def embed {Inner : Type} {InnerReply : Inner → Type} (into : Inner → Op)
    (back : ∀ op, Reply (into op) → InnerReply op) :
    Program Inner InnerReply α → Program Op Reply α
  | .done value => .done value
  | .perform op next => .perform (into op) (fun reply => embed into back (next (back op reply)))

theorem Issues.embed {Inner : Type} {InnerReply : Inner → Type} {into : Inner → Op}
    {back : ∀ op, Reply (into op) → InnerReply op} {permitted : Op → Prop}
    {program : Program Inner InnerReply α} (issues : program.Issues fun op => permitted (into op)) :
    (program.embed into back).Issues permitted := by
  induction program with
  | done value => trivial
  | perform op next ih => exact ⟨issues.1,fun reply => ih _ (issues.2 _)⟩

/-- After each reply the program goes on as the link says: with its next statement, or
with none if it returns. -/
def Linked (link : (op : Op) → Reply op → Option Op → Prop) : Program Op Reply α → Prop
  | .done _ => True
  | .perform op next => ∀ reply, link op reply (next reply).head ∧ (next reply).Linked link

theorem Linked.bind {link : (op : Op) → Reply op → Option Op → Prop} {permitted : Op → Prop}
    {first : Program Op Reply α} {rest : α → Program Op Reply β} (issues : first.Issues permitted)
    (free : ∀ op reply following, permitted op →
      (∀ next, following = some next → permitted next ∨ ∃ value, (rest value).head = some next) →
      link op reply following)
    (continues : ∀ value, (rest value).Linked link) : (first.bind rest).Linked link := by
  induction first with
  | done value => exact continues value
  | perform op next ih =>
    intro reply
    refine ⟨free op reply _ issues.1 fun following same => ?_,ih reply (issues.2 reply)⟩
    have inside := issues.2 reply
    change ((next reply).bind rest).head = some following at same
    cases continued : next reply with
    | done value =>
      rw [continued] at same
      exact .inr ⟨value,same⟩
    | perform op after =>
      rw [continued] at same inside
      cases same
      exact .inl inside.1

theorem bind_done (program : Program Op Reply α) : program.bind .done = program := by
  induction program with
  | done value => rfl
  | perform op next ih => exact congrArg (Program.perform op) (funext ih)

theorem Linked.of_issues {link : (op : Op) → Reply op → Option Op → Prop} {permitted : Op → Prop}
    {program : Program Op Reply α} (issues : program.Issues permitted)
    (free : ∀ op reply following, permitted op → (∀ next, following = some next → permitted next) →
      link op reply following) : program.Linked link := by
  rw [← bind_done program]
  refine .bind issues (fun op reply following here after => free op reply following here fun next same => ?_)
    fun _ => trivial
  rcases after next same with inside | ⟨value,none⟩
  · exact inside
  · cases none

theorem head_map (f : α → β) (program : Program Op Reply α) : (f <$> program).head = program.head := by
  cases program <;> rfl

theorem Linked.map {link : (op : Op) → Reply op → Option Op → Prop} {first : Program Op Reply α} (f : α → β)
    (linked : first.Linked link) : (f <$> first).Linked link := by
  induction first with
  | done value => trivial
  | perform op next ih =>
    intro reply
    obtain ⟨here,after⟩ := linked reply
    refine ⟨?_,ih reply after⟩
    change link op reply (f <$> next reply).head
    rw [head_map]
    exact here

end Program
end Ticketbus.Concurrency
