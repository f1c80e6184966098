import Ticketbus.Concurrency.Path
import Ticketbus.Concurrency.Program

/-! Pools of programs over one shared store. A pool advances one statement of one
thread at a time, in any order; a statement may be given a fault, new calls may
start at any moment, and the process running a thread may stop between two of
its statements. The replies handed out so far are kept as a history. -/
namespace Ticketbus.Concurrency
variable {Op : Type} {Reply : Op → Type} {World Fault Call Result : Type}

/-- What a service is: the effect of each statement under each fault, and the
program that every call runs. -/
structure Service (Op : Type) (Reply : Op → Type) (World Fault Call Result : Type) where
  execute : (op : Op) → Fault → World → Reply op × World
  program : Call → Program Op Reply Result

/-- One executed statement with the reply its thread was given. -/
structure Event (Op : Type) (Reply : Op → Type) where
  thread : Nat
  op : Op
  reply : Reply op

structure State (Op : Type) (Reply : Op → Type) (World : Type) where
  world : World
  history : List (Event Op Reply)

/-- A started call; `program` is `none` once the process running it has stopped. -/
structure Thread (Op : Type) (Reply : Op → Type) (Call Result : Type) where
  call : Call
  program : Option (Program Op Reply Result)

structure Config (Op : Type) (Reply : Op → Type) (World Call Result : Type) where
  state : State Op Reply World
  threads : List (Thread Op Reply Call Result)

inductive Action (Call Fault : Type) where
  | start (call : Call)
  | step (index : Nat) (fault : Fault)
  | stop (index : Nat)

def State.after (service : Service Op Reply World Fault Call Result)
    (state : State Op Reply World) (index : Nat) (op : Op) (fault : Fault) : State Op Reply World :=
  let outcome := service.execute op fault state.world
  ⟨outcome.2,⟨index,op,outcome.1⟩ :: state.history⟩

@[simp] theorem State.after_world (service : Service Op Reply World Fault Call Result)
    (state : State Op Reply World) (index : Nat) (op : Op) (fault : Fault) :
    (state.after service index op fault).world = (service.execute op fault state.world).2 := rfl

@[simp] theorem State.after_history (service : Service Op Reply World Fault Call Result)
    (state : State Op Reply World) (index : Nat) (op : Op) (fault : Fault) :
    (state.after service index op fault).history =
      ⟨index,op,(service.execute op fault state.world).1⟩ :: state.history := rfl

theorem State.after_eq {service : Service Op Reply World Fault Call Result} {state : State Op Reply World}
    {op : Op} {fault : Fault} {reply : Reply op} {world : World}
    (executed : service.execute op fault state.world = (reply,world)) (index : Nat) :
    state.after service index op fault = ⟨world,⟨index,op,reply⟩ :: state.history⟩ := by
  unfold State.after
  rw [executed]

namespace Thread

def head (thread : Thread Op Reply Call Result) : Option Op := thread.program.bind Program.head

/-- A thread that has neither returned nor been stopped. -/
def Running (thread : Thread Op Reply Call Result) : Prop := thread.head.isSome

instance (thread : Thread Op Reply Call Result) : Decidable thread.Running :=
  inferInstanceAs (Decidable (thread.head.isSome = true))

end Thread

namespace Config

/-- The pool over a store before any call has started. -/
def idle (world : World) : Config Op Reply World Call Result := ⟨⟨world,[]⟩,[]⟩

/-- The statement that the thread at an index issues next. -/
def headAt (config : Config Op Reply World Call Result) (index : Nat) : Option Op :=
  config.threads[index]?.bind Thread.head

def Quiet (config : Config Op Reply World Call Result) : Prop :=
  ∀ thread ∈ config.threads, ¬thread.Running

instance (config : Config Op Reply World Call Result) : Decidable config.Quiet :=
  inferInstanceAs (Decidable (∀ thread ∈ config.threads, ¬thread.Running))

/-- The call at an index and its result, once it has returned. -/
def returned (config : Config Op Reply World Call Result) (index : Nat) : Option (Call × Result) :=
  match config.threads[index]? with
  | some ⟨call,some (.done value)⟩ => some (call,value)
  | _ => none

theorem returned_thread {config : Config Op Reply World Call Result} {index : Nat} {call : Call}
    {value : Result} (isReturned : config.returned index = some (call,value)) :
    config.threads[index]? = some ⟨call,some (.done value)⟩ := by
  unfold returned at isReturned
  split at isReturned
  · rename_i found
    cases isReturned
    exact found
  · cases isReturned

theorem headAt_thread {config : Config Op Reply World Call Result} {index : Nat} {op : Op}
    (head : config.headAt index = some op) :
    ∃ call next, config.threads[index]? = some ⟨call,some (.perform op next)⟩ := by
  obtain ⟨⟨call,program⟩,found,issues⟩ := Option.bind_eq_some_iff.mp head
  obtain ⟨program,rfl,same⟩ := Option.bind_eq_some_iff.mp issues
  cases program with
  | done value => cases same
  | perform op next =>
    cases same
    exact ⟨call,next,found⟩

def next (service : Service Op Reply World Fault Call Result)
    (config : Config Op Reply World Call Result) :
    Action Call Fault → Option (Config Op Reply World Call Result)
  | .start call =>
    some {config with threads := config.threads ++ [⟨call,some (service.program call)⟩]}
  | .step index fault =>
    match config.threads[index]? with
    | some ⟨call,some (.perform op next)⟩ =>
      some ⟨config.state.after service index op fault,config.threads.set index
        ⟨call,some (next (service.execute op fault config.state.world).1)⟩⟩
    | _ => none
  | .stop index =>
    match config.threads[index]? with
    | some ⟨call,some _⟩ => some {config with threads := config.threads.set index ⟨call,none⟩}
    | _ => none

theorem next_step (service : Service Op Reply World Fault Call Result)
    (config last : Config Op Reply World Call Result) (index : Nat) (fault : Fault)
    (taken : config.next service (.step index fault) = some last) :
    ∃ call op next, config.threads[index]? = some ⟨call,some (.perform op next)⟩ ∧
      last = ⟨config.state.after service index op fault,config.threads.set index
        ⟨call,some (next (service.execute op fault config.state.world).1)⟩⟩ := by
  simp only [Config.next] at taken
  split at taken
  · rename_i call op next found
    exact ⟨call,op,next,found,(Option.some.inj taken).symm⟩
  · contradiction

theorem next_stop (service : Service Op Reply World Fault Call Result)
    (config last : Config Op Reply World Call Result) (index : Nat)
    (taken : config.next service (.stop index) = some last) :
    ∃ call program, config.threads[index]? = some ⟨call,some program⟩ ∧
      last = {config with threads := config.threads.set index ⟨call,none⟩} := by
  simp only [Config.next] at taken
  split at taken
  · rename_i call program found
    exact ⟨call,program,found,(Option.some.inj taken).symm⟩
  · contradiction

theorem next_state {service : Service Op Reply World Fault Call Result}
    {config last : Config Op Reply World Call Result} {action : Action Call Fault}
    (taken : config.next service action = some last) :
    last.state = config.state ∨ ∃ index fault call op next, action = .step index fault ∧
      config.threads[index]? = some ⟨call,some (.perform op next)⟩ ∧
      last = ⟨config.state.after service index op fault,config.threads.set index
        ⟨call,some (next (service.execute op fault config.state.world).1)⟩⟩ := by
  cases action with
  | start call =>
    cases taken
    exact .inl rfl
  | step index fault =>
    obtain ⟨call,op,next,found,isLast⟩ := next_step _ _ _ _ _ taken
    exact .inr ⟨index,fault,call,op,next,rfl,found,isLast⟩
  | stop index =>
    obtain ⟨call,program,found,rfl⟩ := next_stop _ _ _ _ taken
    exact .inl rfl

/-- The calls that have been started so far. -/
def calls (config : Config Op Reply World Call Result) : List Call := config.threads.map Thread.call

theorem calls_set {config : Config Op Reply World Call Result} {index : Nat} {call : Call}
    {program : Option (Program Op Reply Result)} (found : config.threads[index]? = some ⟨call,program⟩)
    (later : Option (Program Op Reply Result)) :
    (config.threads.set index ⟨call,later⟩).map Thread.call = config.calls := by
  have bound : index < config.threads.length := (List.getElem?_eq_some_iff.mp found).1
  apply List.ext_getElem?
  intro position
  simp only [calls,List.getElem?_map]
  by_cases same : index = position
  · rw [← same,List.getElem?_set_self bound,found]
    rfl
  · rw [List.getElem?_set_ne same]

theorem next_calls (service : Service Op Reply World Fault Call Result)
    (config last : Config Op Reply World Call Result) (action : Action Call Fault)
    (taken : config.next service action = some last) :
    last.calls = config.calls ∨ ∃ call, action = .start call ∧ last.calls = config.calls ++ [call] := by
  cases action with
  | start call =>
    cases taken
    exact .inr ⟨call,rfl,by simp [calls]⟩
  | step index fault =>
    obtain ⟨call,op,next,found,rfl⟩ := next_step _ _ _ _ _ taken
    exact .inl (calls_set found _)
  | stop index =>
    obtain ⟨call,program,found,rfl⟩ := next_stop _ _ _ _ taken
    exact .inl (calls_set found _)

theorem calls_kept {service : Service Op Reply World Fault Call Result}
    {config last : Config Op Reply World Call Result} {action : Action Call Fault}
    (taken : config.next service action = some last) {call : Call} (started : call ∈ config.calls) :
    call ∈ last.calls := by
  rcases next_calls _ _ _ _ taken with same | ⟨_,_,same⟩
  · rwa [same]
  · rw [same]
    exact List.mem_append_left _ started

theorem callAt_kept {service : Service Op Reply World Fault Call Result}
    {config last : Config Op Reply World Call Result} {action : Action Call Fault}
    (taken : config.next service action = some last) {index : Nat} {call : Call}
    (started : config.calls[index]? = some call) : last.calls[index]? = some call := by
  rcases next_calls _ _ _ _ taken with same | ⟨_,_,same⟩
  · rwa [same]
  · rw [same,List.getElem?_append_left (List.getElem?_eq_some_iff.mp started).1]
    exact started

theorem callAt_fresh {service : Service Op Reply World Fault Call Result}
    {config last : Config Op Reply World Call Result} {action : Action Call Fault}
    (taken : config.next service action = some last) {index : Nat} {call : Call}
    (started : last.calls[index]? = some call) :
    config.calls[index]? = some call ∨ action = .start call ∧ index = config.calls.length := by
  rcases next_calls _ _ _ _ taken with same | ⟨new,rfl,same⟩
  · rw [same] at started
    exact .inl started
  · rw [same] at started
    by_cases old : index < config.calls.length
    · rw [List.getElem?_append_left old] at started
      exact .inl started
    · rw [List.getElem?_append_right (Nat.le_of_not_lt old),List.getElem?_singleton] at started
      split at started
      · cases started
        exact .inr ⟨rfl,by omega⟩
      · cases started

theorem callAt_thread {config : Config Op Reply World Call Result} {index : Nat}
    {thread : Thread Op Reply Call Result} (found : config.threads[index]? = some thread) :
    config.calls[index]? = some thread.call := by
  rw [calls,List.getElem?_map,found]
  rfl

theorem thread_of_callAt {config : Config Op Reply World Call Result} {index : Nat} {call : Call}
    (started : config.calls[index]? = some call) :
    ∃ program, config.threads[index]? = some ⟨call,program⟩ := by
  rw [calls,List.getElem?_map] at started
  obtain ⟨⟨_,program⟩,found,rfl⟩ := Option.map_eq_some_iff.mp started
  exact ⟨program,found⟩

theorem next_cases {service : Service Op Reply World Fault Call Result}
    {config last : Config Op Reply World Call Result} {action : Action Call Fault}
    (taken : config.next service action = some last) {position : Nat} {thread : Thread Op Reply Call Result}
    (found : last.threads[position]? = some thread) :
    config.threads[position]? = some thread ∨
    (action = .stop position ∧ thread.program = none ∧
      ∃ program, config.threads[position]? = some ⟨thread.call,some program⟩) ∨
    (action = .start thread.call ∧ position = config.threads.length ∧
      thread.program = some (service.program thread.call)) ∨
    ∃ fault op next, action = .step position fault ∧
      config.threads[position]? = some ⟨thread.call,some (.perform op next)⟩ ∧
      thread.program = some (next (service.execute op fault config.state.world).1) := by
  cases action with
  | start call =>
    cases taken
    rw [List.getElem?_append] at found
    split at found
    · exact .inl found
    · rename_i beyond
      obtain ⟨within,same⟩ := List.getElem?_eq_some_iff.mp found
      have last : position - config.threads.length = 0 := by simpa using within
      simp only [last,List.getElem_cons_zero] at same
      cases same
      exact .inr (.inr (.inl ⟨rfl,by omega,rfl⟩))
  | step index fault =>
    obtain ⟨call,op,next,present,rfl⟩ := next_step _ _ _ _ _ taken
    rw [List.getElem?_set] at found
    split at found
    · rename_i same
      split at found
      · cases found
        exact .inr (.inr (.inr ⟨fault,op,next,by rw [same],same ▸ present,rfl⟩))
      · cases found
    · exact .inl found
  | stop index =>
    obtain ⟨call,program,present,rfl⟩ := next_stop _ _ _ _ taken
    rw [List.getElem?_set] at found
    split at found
    · rename_i same
      split at found
      · cases found
        exact .inr (.inl ⟨by rw [same],rfl,program,same ▸ present⟩)
      · cases found
    · exact .inl found

theorem next_thread {service : Service Op Reply World Fault Call Result}
    {config last : Config Op Reply World Call Result} {action : Action Call Fault}
    (taken : config.next service action = some last) {position : Nat} {thread : Thread Op Reply Call Result}
    (found : last.threads[position]? = some thread) :
    (∃ before, config.threads[position]? = some before ∧ before.call = thread.call ∧
      (thread.Running → before.Running)) ∨
    (action = .start thread.call ∧ position = config.threads.length) := by
  rcases next_cases taken found with same | ⟨_,stopped,program,present⟩ | ⟨started,beyond,_⟩ |
    ⟨fault,op,next,_,present,_⟩
  · exact .inl ⟨thread,same,rfl,fun running => running⟩
  · refine .inl ⟨_,present,rfl,fun running => ?_⟩
    simp [Thread.Running,Thread.head,stopped] at running
  · exact .inr ⟨started,beyond⟩
  · exact .inl ⟨_,present,rfl,fun _ => rfl⟩

theorem thread_kept {service : Service Op Reply World Fault Call Result}
    {config last : Config Op Reply World Call Result} {action : Action Call Fault}
    (taken : config.next service action = some last) {index : Nat} {thread : Thread Op Reply Call Result}
    (found : config.threads[index]? = some thread) (waits : ∀ fault, action ≠ .step index fault)
    (lives : action ≠ .stop index) : last.threads[index]? = some thread := by
  have bound : index < config.threads.length := (List.getElem?_eq_some_iff.mp found).1
  cases action with
  | start call =>
    cases taken
    rw [← found]
    exact List.getElem?_append_left bound
  | step other fault =>
    obtain ⟨_,_,_,_,rfl⟩ := next_step _ _ _ _ _ taken
    have distinct : other ≠ index := fun same => waits fault (by rw [same])
    rw [← found]
    exact List.getElem?_set_ne distinct
  | stop other =>
    obtain ⟨_,_,_,rfl⟩ := next_stop _ _ _ _ taken
    have distinct : other ≠ index := fun same => lives (by rw [same])
    rw [← found]
    exact List.getElem?_set_ne distinct

theorem headAt_kept {service : Service Op Reply World Fault Call Result}
    {config last : Config Op Reply World Call Result} {action : Action Call Fault}
    (taken : config.next service action = some last) {index : Nat} {op : Op} (head : config.headAt index = some op)
    (waits : ∀ fault, action ≠ .step index fault) (lives : action ≠ .stop index) : last.headAt index = some op := by
  obtain ⟨thread,found,issues⟩ := Option.bind_eq_some_iff.mp head
  exact Option.bind_eq_some_iff.mpr ⟨thread,thread_kept taken found waits lives,issues⟩

theorem next_event (service : Service Op Reply World Fault Call Result)
    (config last : Config Op Reply World Call Result) (action : Action Call Fault)
    (taken : config.next service action = some last) (index : Nat) (op : Op) (reply : Reply op)
    (executed : last.state.history = ⟨index,op,reply⟩ :: config.state.history) :
    ∃ fault call next, action = .step index fault ∧
      config.threads[index]? = some ⟨call,some (.perform op next)⟩ ∧
      service.execute op fault config.state.world = (reply,last.state.world) := by
  have longer : last.state.history ≠ config.state.history := by
    rw [executed]
    exact List.cons_ne_self _ _
  rcases next_state taken with same | ⟨position,fault,call,issued,next,rfl,found,rfl⟩
  · exact absurd (congrArg State.history same) longer
  · cases (List.cons.inj executed).1
    exact ⟨fault,call,next,rfl,found,rfl⟩

end Config

/-- Runs from a first pool in which every action meets the guard. -/
abbrev Run (service : Service Op Reply World Fault Call Result)
    (guard : Config Op Reply World Call Result → Action Call Fault → Prop)
    (first last : Config Op Reply World Call Result) : Prop := Path (Config.next service) guard first last

/-- The guard that tests every statement at the moment it is taken. -/
def Stepwise (condition : Config Op Reply World Call Result → Nat → Op → Fault → Bool)
    (config : Config Op Reply World Call Result) : Action Call Fault → Prop
  | .step index fault => (config.headAt index).all (fun op => condition config index op fault) = true
  | _ => True

instance (condition : Config Op Reply World Call Result → Nat → Op → Fault → Bool)
    (config : Config Op Reply World Call Result) :
    (action : Action Call Fault) → Decidable (Stepwise condition config action)
  | .start _ => inferInstanceAs (Decidable True)
  | .step _ _ => inferInstanceAs (Decidable (_ = true))
  | .stop _ => inferInstanceAs (Decidable True)

theorem Stepwise.meets {condition : Config Op Reply World Call Result → Nat → Op → Fault → Bool}
    {config : Config Op Reply World Call Result} {index : Nat} {fault : Fault} {call : Call} {op : Op}
    {next : Reply op → Program Op Reply Result} (permitted : Stepwise condition config (.step index fault))
    (found : config.threads[index]? = some ⟨call,some (.perform op next)⟩) :
    condition config index op fault = true := by
  have head : config.headAt index = some op := by
    unfold Config.headAt
    rw [found]
    rfl
  change (config.headAt index).all (fun op => condition config index op fault) = true at permitted
  rw [head] at permitted
  exact permitted

def Nearing [DecidableEq Op] (op : Op) (value : World → Reply op) (kind : Op → Bool)
    (config : Config Op Reply World Call Result) (thread : Thread Op Reply Call Result) : Bool :=
  thread.program.any fun program => (program.upcoming op (value config.state.world)).any kind

def Sparing (spared : Config Op Reply World Call Result → Thread Op Reply Call Result → Bool)
    (guard : Config Op Reply World Call Result → Action Call Fault → Prop)
    (config : Config Op Reply World Call Result) : Action Call Fault → Prop
  | .stop index => config.threads[index]?.all (fun thread => !spared config thread) = true ∧ guard config (.stop index)
  | action => guard config action

instance (spared : Config Op Reply World Call Result → Thread Op Reply Call Result → Bool)
    (guard : Config Op Reply World Call Result → Action Call Fault → Prop)
    [∀ config action, Decidable (guard config action)] (config : Config Op Reply World Call Result) :
    (action : Action Call Fault) → Decidable (Sparing spared guard config action)
  | .start call => inferInstanceAs (Decidable (guard config (.start call)))
  | .step index fault => inferInstanceAs (Decidable (guard config (.step index fault)))
  | .stop index => inferInstanceAs (Decidable (_ = true ∧ guard config (.stop index)))

/-- The guard that also restricts which calls may start. -/
def Admitting (allowed : Call → Bool) (guard : Config Op Reply World Call Result → Action Call Fault → Prop)
    (config : Config Op Reply World Call Result) : Action Call Fault → Prop
  | .start call => allowed call = true ∧ guard config (.start call)
  | action => guard config action

instance (allowed : Call → Bool) (guard : Config Op Reply World Call Result → Action Call Fault → Prop)
    [∀ config action, Decidable (guard config action)] (config : Config Op Reply World Call Result) :
    (action : Action Call Fault) → Decidable (Admitting allowed guard config action)
  | .start call => inferInstanceAs (Decidable (allowed call = true ∧ guard config (.start call)))
  | .step index fault => inferInstanceAs (Decidable (guard config (.step index fault)))
  | .stop index => inferInstanceAs (Decidable (guard config (.stop index)))

/-- The guard under which calls that share a key do not overlap. -/
def Serial {Key : Type} (key : Call → Option Key) (config : Config Op Reply World Call Result) :
    Action Call Fault → Prop
  | .start call => ∀ thread ∈ config.threads, thread.Running → ∀ shared ∈ key call, key thread.call ≠ some shared
  | _ => True

instance {Key : Type} [DecidableEq Key] (key : Call → Option Key) (config : Config Op Reply World Call Result) :
    (action : Action Call Fault) → Decidable (Serial key config action)
  | .start call => inferInstanceAs (Decidable
      (∀ thread ∈ config.threads, thread.Running → ∀ shared ∈ key call, key thread.call ≠ some shared))
  | .step _ _ => inferInstanceAs (Decidable True)
  | .stop _ => inferInstanceAs (Decidable True)

structure Spent (kind : Op → Prop) (config : Config Op Reply World Call Result) : Prop where
  rest : ∀ event ∈ config.state.history, kind event.op → ∃ thread, config.threads[event.thread]? = some thread ∧
    ∀ program ∈ thread.program, program.Issues fun op => ¬kind op
  single : ∀ left ∈ config.state.history, ∀ right ∈ config.state.history, kind left.op → kind right.op →
    left.thread = right.thread → left = right

theorem Spent.next {service : Service Op Reply World Fault Call Result} {kind : Op → Prop}
    {config after : Config Op Reply World Call Result} {action : Action Call Fault} (spent : Spent kind config)
    (once : ∀ (index : Nat) (call : Call) (program : Program Op Reply Result),
      config.threads[index]? = some ⟨call,some program⟩ → program.Once kind)
    (taken : config.next service action = some after) : Spent kind after := by
  cases action with
  | start call =>
    cases taken
    refine ⟨fun event member isKind => ?_,spent.single⟩
    obtain ⟨thread,found,none⟩ := spent.rest event member isKind
    refine ⟨thread,?_,none⟩
    rw [List.getElem?_append_left (List.getElem?_eq_some_iff.mp found).1]
    exact found
  | step index fault =>
    obtain ⟨call,op,next,found,rfl⟩ := Config.next_step _ _ _ _ _ taken
    have bound : index < config.threads.length := (List.getElem?_eq_some_iff.mp found).1
    refine ⟨fun event member isKind => ?_,fun left inLeft right inRight isLeft isRight same => ?_⟩
    · rcases List.mem_cons.mp member with rfl | old
      · refine ⟨_,List.getElem?_set_self bound,fun program held => ?_⟩
        cases held
        rcases once index call _ found with ⟨other,_⟩ | none
        · exact absurd isKind other
        · exact none _
      · obtain ⟨thread,present,none⟩ := spent.rest event old isKind
        by_cases this : index = event.thread
        · rw [← this,found] at present
          cases present
          rw [← this]
          refine ⟨_,List.getElem?_set_self bound,fun program held => ?_⟩
          cases held
          exact (none _ rfl).2 _
        · exact ⟨thread,(List.getElem?_set_ne this).trans present,none⟩
    -- a thread with such a statement behind it is not about to issue another
    · have fresh {event : Event Op Reply} (old : event ∈ config.state.history) (isKind : kind event.op)
          (also : kind op) (this : event.thread = index) : False := by
        obtain ⟨thread,present,none⟩ := spent.rest event old isKind
        rw [this,found] at present
        cases present
        exact (none _ rfl).1 also
      rcases List.mem_cons.mp inLeft with rfl | oldLeft <;> rcases List.mem_cons.mp inRight with rfl | oldRight
      · rfl
      · exact (fresh oldRight isRight isLeft same.symm).elim
      · exact (fresh oldLeft isLeft isRight same).elim
      · exact spent.single left oldLeft right oldRight isLeft isRight same
  | stop index =>
    obtain ⟨call,program,found,rfl⟩ := Config.next_stop _ _ _ _ taken
    have bound : index < config.threads.length := (List.getElem?_eq_some_iff.mp found).1
    refine ⟨fun event member isKind => ?_,spent.single⟩
    obtain ⟨thread,present,none⟩ := spent.rest event member isKind
    by_cases this : index = event.thread
    · rw [← this]
      refine ⟨_,List.getElem?_set_self bound,fun program held => ?_⟩
      cases held
    · exact ⟨thread,(List.getElem?_set_ne this).trans present,none⟩

namespace Run
variable {service : Service Op Reply World Fault Call Result}
variable {guard : Config Op Reply World Call Result → Action Call Fault → Prop}
variable {first middle last : Config Op Reply World Call Result}

theorem calls_kept (run : Run service guard first last) {call : Call} (started : call ∈ first.calls) :
    call ∈ last.calls :=
  run.invariant (fun config => call ∈ config.calls) started fun _ _ _ _ kept _ taken => Config.calls_kept taken kept

theorem state_invariant (property : State Op Reply World → Prop) (initially : property first.state)
    (kept : ∀ config index fault call op next, Run service guard first config → property config.state →
      guard config (.step index fault) → config.threads[index]? = some ⟨call,some (.perform op next)⟩ →
      property (config.state.after service index op fault))
    (run : Run service guard first last) : property last.state := by
  refine run.invariant (fun config => property config.state) initially ?_
  intro config action after before holds permitted taken
  rcases Config.next_state taken with same | ⟨index,fault,call,op,next,rfl,found,rfl⟩
  · exact same ▸ holds
  · exact kept config index fault call op next before holds permitted found

theorem event_kept (run : Run service guard first last) {event : Event Op Reply}
    (executed : event ∈ first.state.history) : event ∈ last.state.history := by
  refine run.state_invariant (fun state => event ∈ state.history) executed ?_
  intro config index fault call op next _ before _ _
  exact List.mem_cons_of_mem _ before

inductive TakenAt (service : Service Op Reply World Fault Call Result)
    (guard : Config Op Reply World Call Result → Action Call Fault → Prop)
    (first last : Config Op Reply World Call Result) (event : Event Op Reply) (earlier : List (Event Op Reply)) : Prop
  | intro {middle after : Config Op Reply World Call Result} {call : Call}
      {next : Reply event.op → Program Op Reply Result} {fault : Fault} (before : Run service guard first middle)
      (history : middle.state.history = earlier)
      (found : middle.threads[event.thread]? = some ⟨call,some (.perform event.op next)⟩)
      (taken : middle.next service (.step event.thread fault) = some after)
      (executed : service.execute event.op fault middle.state.world = (event.reply,after.state.world))
      (added : after.state.history = event :: earlier) (remaining : Run service guard middle last)

theorem taken_at {world : World} (run : Run service guard (.idle world) last) {event : Event Op Reply}
    {later earlier : List (Event Op Reply)} (recorded : last.state.history = later ++ event :: earlier) :
    TakenAt service guard (.idle world) last event earlier := by
  induction run generalizing later with
  | refl => simp [Config.idle] at recorded
  | @step config last action path permitted taken ih =>
    have goesOn {later} (same : config.state.history = later ++ event :: earlier) :
        TakenAt service guard (.idle world) last event earlier := by
      obtain ⟨before,history,found,steps,executed,added,remaining⟩ := ih same
      exact ⟨before,history,found,steps,executed,added,.step action remaining permitted taken⟩
    rcases Config.next_state taken with same | ⟨position,fault,call,issued,next,rfl,found,rfl⟩
    · rw [same] at recorded
      exact goesOn recorded
    · cases later with
      | nil =>
        obtain ⟨rfl,history⟩ := List.cons.inj recorded
        exact ⟨path,history,found,taken,rfl,recorded,.step _ .refl permitted taken⟩
      | cons newest later => exact goesOn (List.cons.inj recorded).2

theorem executed {world : World} (run : Run service guard (.idle world) last) {index : Nat} {op : Op} {reply : Reply op}
    (member : ⟨index,op,reply⟩ ∈ last.state.history) :
    ∃ middle fault, Run service guard (.idle world) middle ∧ Run service guard middle last ∧
      (service.execute op fault middle.state.world).1 = reply := by
  obtain ⟨later,earlier,recorded⟩ := List.append_of_mem member
  obtain ⟨before,_,_,_,executed,_,remaining⟩ := run.taken_at recorded
  exact ⟨_,_,before,remaining,congrArg Prod.fst executed⟩

theorem programs_keep (property : Call → Program Op Reply Result → Prop) {world : World}
    (starts : ∀ call, property call (service.program call))
    (continues : ∀ call op next reply, property call (.perform op next) → property call (next reply))
    (run : Run service guard (.idle world) last) {index : Nat} {call : Call} {program : Program Op Reply Result}
    (found : last.threads[index]? = some ⟨call,some program⟩) : property call program := by
  refine run.invariant (fun config => ∀ index call program, config.threads[index]? = some ⟨call,some program⟩ →
    property call program) (fun _ _ _ found => by simp [Config.idle] at found) ?_ index call program found
  intro config action after _ before _ taken index call program found
  rcases Config.next_cases taken found with same | ⟨_,stopped,_⟩ | ⟨_,_,fresh⟩ | ⟨fault,op,next,_,present,goes⟩
  · exact before index call program same
  · cases stopped
  · rw [Option.some.inj fresh]
    exact starts call
  · rw [Option.some.inj goes]
    exact continues call op next _ (before index call _ present)

theorem linked {link : (op : Op) → Reply op → Option Op → Prop} {world : World}
    (programs : ∀ call, (service.program call).Linked link)
    (run : Run service guard (.idle world) last) {index : Nat} {call : Call} {program : Program Op Reply Result}
    (found : last.threads[index]? = some ⟨call,some program⟩) : program.Linked link :=
  run.programs_keep (fun _ program => program.Linked link) programs
    (fun _ _ _ reply linked => (linked reply).2) found

theorem issues {permitted : Call → Op → Prop} {world : World}
    (programs : ∀ call, (service.program call).Issues (permitted call))
    (run : Run service guard (.idle world) last) {index : Nat} {call : Call} {op : Op}
    {next : Reply op → Program Op Reply Result}
    (found : last.threads[index]? = some ⟨call,some (.perform op next)⟩) : permitted call op :=
  (run.programs_keep (fun call program => program.Issues (permitted call)) programs
    (fun _ _ _ reply issues => issues.2 reply) found).1

theorem once {kind : Op → Prop} {world : World} (programs : ∀ call, (service.program call).Once kind)
    (run : Run service guard (.idle world) last) : Spent kind last := by
  refine run.invariant (Spent kind) ⟨by simp [Config.idle],by simp [Config.idle]⟩ ?_
  intro config action after before spent _ taken
  refine spent.next (fun index call program found => ?_) taken
  exact programs_keep (fun _ program => program.Once kind) programs
    (fun _ _ _ reply once => once.continues reply) before found

theorem serial {Key : Type} {key : Call → Option Key} {world : World}
    (run : Run service (Serial key) (.idle world) last) {left right : Nat} {one other : Thread Op Reply Call Result}
    (isOne : last.threads[left]? = some one) (isOther : last.threads[right]? = some other) (distinct : left ≠ right)
    (running : one.Running) (runs : other.Running) {shared : Key} (has : key one.call = some shared) :
    key other.call ≠ some shared := by
  refine run.invariant (fun config => ∀ left right one other, config.threads[left]? = some one →
    config.threads[right]? = some other → left ≠ right → one.Running → other.Running →
    ∀ shared, key one.call = some shared → key other.call ≠ some shared)
    (fun _ _ _ _ found => by simp [Config.idle] at found) ?_ left right one other isOne isOther distinct running runs
    shared has
  intro config action after _ before permitted taken left right one other isOne isOther distinct running runs shared has
  rcases Config.next_thread taken isOne with ⟨earlier,present,same,ran⟩ | ⟨rfl,started⟩
  · rcases Config.next_thread taken isOther with ⟨earlier',present',same',ran'⟩ | ⟨rfl,_⟩
    · rw [← same']
      exact before left right earlier earlier' present present' distinct (ran running) (ran' runs) shared (same ▸ has)
    · intro has'
      exact permitted earlier (List.mem_of_getElem? present) (ran running) shared has' (same ▸ has)
  · rcases Config.next_thread taken isOther with ⟨earlier',present',same',ran'⟩ | ⟨_,started'⟩
    · rw [← same']
      exact permitted earlier' (List.mem_of_getElem? present') (ran' runs) shared has
    · exact absurd (started.trans started'.symm) distinct

theorem call_stable (run : Run service guard first last) (index : Nat) (call : Call)
    (found : first.threads[index]?.map Thread.call = some call) :
    last.threads[index]?.map Thread.call = some call := by
  refine run.invariant (fun config => config.threads[index]?.map Thread.call = some call) found ?_
  intro config action after _ named _ taken
  obtain ⟨thread,present,same⟩ := Option.map_eq_some_iff.mp named
  have bound : index < config.threads.length := (List.getElem?_eq_some_iff.mp present).1
  cases action with
  | start call =>
    cases taken
    simpa [List.getElem?_append_left bound] using named
  | step other fault =>
    obtain ⟨otherCall,op,next,at_other,rfl⟩ := Config.next_step _ _ _ _ _ taken
    by_cases equal : other = index
    · subst other
      cases present.symm.trans at_other
      simpa [List.getElem?_set,bound] using same
    · simpa [List.getElem?_set,equal] using named
  | stop other =>
    obtain ⟨otherCall,program,at_other,rfl⟩ := Config.next_stop _ _ _ _ taken
    by_cases equal : other = index
    · subst other
      cases present.symm.trans at_other
      simpa [List.getElem?_set,bound] using same
    · simpa [List.getElem?_set,equal] using named

theorem calls_admitted {allowed : Call → Bool} (run : Run service (Admitting allowed guard) first last)
    (initially : ∀ thread ∈ first.threads, allowed thread.call = true) :
    ∀ thread ∈ last.threads, allowed thread.call = true := by
  refine run.invariant (fun config => ∀ thread ∈ config.threads, allowed thread.call = true) initially ?_
  intro config action after _ admitted permitted taken thread member
  cases action with
  | start call =>
    cases taken
    rcases List.mem_append.mp member with old | new
    · exact admitted thread old
    · cases List.mem_singleton.mp new
      exact permitted.1
  | step index fault =>
    obtain ⟨call,op,next,found,rfl⟩ := Config.next_step _ _ _ _ _ taken
    have same : allowed call = true := admitted _ (List.mem_of_getElem? found)
    rcases List.mem_or_eq_of_mem_set member with old | rfl
    · exact admitted thread old
    · exact same
  | stop index =>
    obtain ⟨call,program,found,rfl⟩ := Config.next_stop _ _ _ _ taken
    have same : allowed call = true := admitted _ (List.mem_of_getElem? found)
    rcases List.mem_or_eq_of_mem_set member with old | rfl
    · exact admitted thread old
    · exact same

end Run

abbrev replay (service : Service Op Reply World Fault Call Result)
    (guard : Config Op Reply World Call Result → Action Call Fault → Prop)
    [∀ config action, Decidable (guard config action)] (first : Config Op Reply World Call Result)
    (actions : List (Action Call Fault)) : Option (Config Op Reply World Call Result) :=
  follow (Config.next service) guard first actions

theorem exists_run_of_replay (service : Service Op Reply World Fault Call Result)
    (guard : Config Op Reply World Call Result → Action Call Fault → Prop)
    [∀ config action, Decidable (guard config action)] (actions : List (Action Call Fault))
    (first : Config Op Reply World Call Result) (test : Config Op Reply World Call Result → Bool)
    (ok : (replay service guard first actions).any test = true) :
    ∃ last, Run service guard first last ∧ test last = true :=
  exists_path_of_follow _ _ actions first test ok

end Ticketbus.Concurrency
