import Ticketbus.Concurrency.Sequential

/-! What one program has said and been told. In a pool the exchanges of a thread are a
conversation of its program, whatever the other threads did in between; so a fact about
all conversations of a program is a fact about every interleaving. -/
namespace Ticketbus.Concurrency
variable {Op : Type} {Reply : Op → Type} {World Fault Call Result α β : Type}

inductive Conversation : Program Op Reply α → List (Exchange Op Reply) → Program Op Reply α → Prop
  | refl (program : Program Op Reply α) : Conversation program [] program
  | step {op : Op} {next : Reply op → Program Op Reply α} {exchanges : List (Exchange Op Reply)}
      {last : Program Op Reply α} (reply : Reply op) (rest : Conversation (next reply) exchanges last) :
      Conversation (.perform op next) (⟨op,reply⟩ :: exchanges) last

namespace Conversation
variable {program last : Program Op Reply α} {exchanges : List (Exchange Op Reply)}

theorem append {middle : Program Op Reply α} {more : List (Exchange Op Reply)}
    (before : Conversation program exchanges middle) (after : Conversation middle more last) :
    Conversation program (exchanges ++ more) last := by
  induction before with
  | refl program => exact after
  | step reply rest ih => exact .step reply (ih after)

theorem snoc {op : Op} {next : Reply op → Program Op Reply α}
    (before : Conversation program exchanges (.perform op next)) (reply : Reply op) :
    Conversation program (exchanges ++ [⟨op,reply⟩]) (next reply) :=
  before.append (.step reply (.refl _))

end Conversation

namespace Program

def Always : (List (Exchange Op Reply) → Program Op Reply α → Prop) → Program Op Reply α → Prop
  | property,.done value => property [] (.done value)
  | property,.perform op next => property [] (.perform op next) ∧
      ∀ reply, (next reply).Always fun exchanges left => property (⟨op,reply⟩ :: exchanges) left

theorem Always.mono {property weak : List (Exchange Op Reply) → Program Op Reply α → Prop}
    {program : Program Op Reply α} (always : program.Always property)
    (weaker : ∀ exchanges left, property exchanges left → weak exchanges left) : program.Always weak := by
  induction program generalizing property weak with
  | done value => exact weaker _ _ always
  | perform op next ih =>
    exact ⟨weaker _ _ always.1,fun reply => ih reply (always.2 reply) fun exchanges left => weaker _ left⟩

theorem Always.of_issues {permitted : Op → Prop} {program : Program Op Reply α} (issues : program.Issues permitted) :
    program.Always fun _ left => ∀ op, left.head = some op → permitted op := by
  induction program with
  | done value =>
    intro op head
    cases head
  | perform op next ih => exact ⟨fun first head => issues.head head,fun reply => ih reply (issues.2 reply)⟩

theorem Always.of_permitted {permitted : Op → Prop} {program : Program Op Reply α} (issues : program.Issues permitted) :
    program.Always fun exchanges _ => ∀ exchange ∈ exchanges, permitted exchange.1 := by
  induction program with
  | done value =>
    intro exchange member
    cases member
  | perform op next ih =>
    refine ⟨fun exchange member => (by cases member),fun reply => ?_⟩
    exact (ih reply (issues.2 reply)).mono fun exchanges _ rest => List.forall_mem_cons.mpr ⟨issues.1,rest⟩

theorem Always.bind {property : List (Exchange Op Reply) → Program Op Reply β → Prop} {first : Program Op Reply α}
    {rest : α → Program Op Reply β} (always : first.Always fun exchanges left => property exchanges (left.bind rest))
    (continues : ∀ exchanges value, Conversation first exchanges (.done value) →
      (rest value).Always fun more left => property (exchanges ++ more) left) : (first.bind rest).Always property := by
  induction first generalizing property with
  | done value => exact continues [] value (.refl _)
  | perform op next ih =>
    exact ⟨always.1,fun reply => ih reply (always.2 reply) fun exchanges value talk =>
      continues _ value (.step reply talk)⟩

theorem Always.map {property : List (Exchange Op Reply) → Program Op Reply β → Prop} {program : Program Op Reply α}
    (f : α → β) (always : program.Always fun exchanges left => property exchanges (f <$> left)) :
    (f <$> program).Always property := by
  induction program generalizing property with
  | done value => exact always
  | perform op next ih => exact ⟨always.1,fun reply => ih reply (always.2 reply)⟩

theorem Always.conversation {property : List (Exchange Op Reply) → Program Op Reply α → Prop}
    {program left : Program Op Reply α} {exchanges : List (Exchange Op Reply)} (always : program.Always property)
    (talk : Conversation program exchanges left) : property exchanges left := by
  induction talk generalizing property with
  | refl program =>
    cases program with
    | done value => exact always
    | perform op next => exact always.1
  | step reply rest ih => exact ih (always.2 reply)

theorem Always.seq {property : List (Exchange Op Reply) → Prop} {first : Program Op Reply α}
    {rest : α → Program Op Reply β} (append : ∀ before after, property before → property after → property (before ++ after))
    (always : first.Always fun exchanges _ => property exchanges)
    (continues : ∀ value, (rest value).Always fun exchanges _ => property exchanges) :
    (first.bind rest).Always fun exchanges _ => property exchanges := by
  refine .bind always fun exchanges value talk => (continues value).mono fun more _ holds => ?_
  exact append exchanges more (always.conversation talk) holds

def Yields : (List (Exchange Op Reply) → α → Prop) → Program Op Reply α → Prop
  | property,.done value => property [] value
  | property,.perform op next => ∀ reply, (next reply).Yields fun exchanges value => property (⟨op,reply⟩ :: exchanges) value

theorem Yields.mono {property weak : List (Exchange Op Reply) → α → Prop} {program : Program Op Reply α}
    (yields : program.Yields property) (weaker : ∀ exchanges value, property exchanges value → weak exchanges value) :
    program.Yields weak := by
  induction program generalizing property weak with
  | done value => exact weaker [] value yields
  | perform op next ih => exact fun reply => ih reply (yields reply) fun exchanges value => weaker _ value

theorem Yields.of_returns {good : α → Prop} {program : Program Op Reply α} (returns : program.Returns good) :
    program.Yields fun _ value => good value := by
  induction program with
  | done value => exact returns
  | perform op next ih => exact fun reply => ih reply (returns reply)

theorem Yields.map {property : List (Exchange Op Reply) → β → Prop} {program : Program Op Reply α} (f : α → β)
    (yields : program.Yields fun exchanges value => property exchanges (f value)) : (f <$> program).Yields property := by
  induction program generalizing property with
  | done value => exact yields
  | perform op next ih => exact fun reply => ih reply (yields reply)

theorem Yields.conversation {property : List (Exchange Op Reply) → α → Prop} {program : Program Op Reply α}
    {exchanges : List (Exchange Op Reply)} {value : α} (yields : program.Yields property)
    (talk : Conversation program exchanges (.done value)) : property exchanges value := by
  generalize isLast : Program.done value = last at talk
  induction talk generalizing property with
  | refl program =>
    subst isLast
    exact yields
  | step reply rest ih => exact ih (yields reply) isLast

end Program

/-- The exchanges of one thread, the first one first. -/
def State.exchanges (state : State Op Reply World) (index : Nat) : List (Exchange Op Reply) :=
  ((state.history.filter fun event => event.thread = index).map fun event => ⟨event.op,event.reply⟩).reverse

theorem State.mem_exchanges {state : State Op Reply World} {index : Nat} {op : Op} {reply : Reply op} :
    ⟨op,reply⟩ ∈ state.exchanges index ↔ ⟨index,op,reply⟩ ∈ state.history := by
  simp only [exchanges,List.mem_reverse,List.mem_map,List.mem_filter,decide_eq_true_eq]
  constructor
  · rintro ⟨⟨thread,op,reply⟩,⟨member,rfl⟩,same⟩
    cases same
    exact member
  · intro member
    exact ⟨_,⟨member,rfl⟩,rfl⟩

variable {service : Service Op Reply World Fault Call Result}

theorem State.exchanges_after_self (state : State Op Reply World) (index : Nat) (op : Op) (fault : Fault) :
    (state.after service index op fault).exchanges index =
      state.exchanges index ++ [⟨op,(service.execute op fault state.world).1⟩] := by
  simp [exchanges]

theorem State.exchanges_after_other (state : State Op Reply World) {index other : Nat} (op : Op) (fault : Fault)
    (distinct : other ≠ index) : (state.after service other op fault).exchanges index = state.exchanges index := by
  simp [exchanges,distinct]

/-- What a pool knows of its threads: each has talked its way from its call's program to what is
left of it, and no thread that is yet to come has said anything. -/
structure Talked (service : Service Op Reply World Fault Call Result)
    (config : Config Op Reply World Call Result) : Prop where
  threads : ∀ index thread, config.threads[index]? = some thread → ∃ left,
    Conversation (service.program thread.call) (config.state.exchanges index) left ∧
    ∀ program ∈ thread.program, program = left
  silent : ∀ index, config.threads.length ≤ index → config.state.exchanges index = []

namespace Talked
variable {config after : Config Op Reply World Call Result}

private theorem start (talked : Talked service config) (call : Call) :
    Talked service {config with threads := config.threads ++ [⟨call,some (service.program call)⟩]} := by
  constructor
  · intro index thread found
    rcases Nat.lt_or_ge index config.threads.length with inside | beyond
    · rw [List.getElem?_append_left inside] at found
      exact talked.threads index thread found
    · rw [List.getElem?_append_right beyond,List.getElem?_singleton] at found
      split at found
      · cases found
        refine ⟨service.program call,?_,fun program held => (Option.mem_some_iff.mp held).symm⟩
        rw [talked.silent index beyond]
        exact .refl _
      · cases found
  · intro index beyond
    apply talked.silent index
    simp only [List.length_append] at beyond
    omega

private theorem step (talked : Talked service config) {index : Nat} {call : Call} {op : Op}
    {next : Reply op → Program Op Reply Result} (found : config.threads[index]? = some ⟨call,some (.perform op next)⟩)
    (fault : Fault) : Talked service ⟨config.state.after service index op fault,config.threads.set index
      ⟨call,some (next (service.execute op fault config.state.world).1)⟩⟩ := by
  have bound : index < config.threads.length := (List.getElem?_eq_some_iff.mp found).1
  constructor
  · intro position thread present
    by_cases same : index = position
    · subst same
      rw [List.getElem?_set_self bound] at present
      cases present
      obtain ⟨left,talk,isLeft⟩ := talked.threads index _ found
      cases isLeft _ rfl
      rw [State.exchanges_after_self]
      exact ⟨_,talk.snoc _,fun program held => (Option.mem_some_iff.mp held).symm⟩
    · rw [List.getElem?_set_ne same] at present
      rw [State.exchanges_after_other _ _ _ same]
      exact talked.threads position thread present
  · intro position beyond
    rw [List.length_set] at beyond
    rw [State.exchanges_after_other _ _ _ (by omega)]
    exact talked.silent position beyond

private theorem stop (talked : Talked service config) {index : Nat} {call : Call}
    {program : Program Op Reply Result} (found : config.threads[index]? = some ⟨call,some program⟩) :
    Talked service {config with threads := config.threads.set index ⟨call,none⟩} := by
  have bound : index < config.threads.length := (List.getElem?_eq_some_iff.mp found).1
  constructor
  · intro position thread present
    by_cases same : index = position
    · subst same
      rw [List.getElem?_set_self bound] at present
      cases present
      obtain ⟨left,talk,_⟩ := talked.threads index _ found
      exact ⟨left,talk,by simp⟩
    · rw [List.getElem?_set_ne same] at present
      exact talked.threads position thread present
  · intro position beyond
    rw [List.length_set] at beyond
    exact talked.silent position beyond

theorem of_run {guard : Config Op Reply World Call Result → Action Call Fault → Prop} {world : World}
    (run : Run service guard (.idle world) config) : Talked service config := by
  apply run.invariant (Talked service)
  · exact ⟨fun index thread found => by simp [Config.idle] at found,fun _ _ => rfl⟩
  · intro config action after _ talked _ taken
    cases action with
    | start call =>
      cases taken
      exact talked.start call
    | step index fault =>
      obtain ⟨call,op,next,found,rfl⟩ := Config.next_step _ _ _ _ _ taken
      exact talked.step found fault
    | stop index =>
      obtain ⟨call,program,found,rfl⟩ := Config.next_stop _ _ _ _ taken
      exact talked.stop found

theorem thread_of_exchange (talked : Talked service config) {index : Nat} {exchange : Exchange Op Reply}
    (member : exchange ∈ config.state.exchanges index) : ∃ thread, config.threads[index]? = some thread := by
  apply Option.ne_none_iff_exists'.mp
  intro absent
  rw [talked.silent index (List.getElem?_eq_none_iff.mp absent)] at member
  cases member

theorem always (talked : Talked service config) {index : Nat} {thread : Thread Op Reply Call Result}
    (found : config.threads[index]? = some thread)
    {property : List (Exchange Op Reply) → Program Op Reply Result → Prop}
    (programs : (service.program thread.call).Always property) :
    ∃ left, property (config.state.exchanges index) left ∧ ∀ program ∈ thread.program, program = left := by
  obtain ⟨left,talk,isLeft⟩ := talked.threads index thread found
  exact ⟨left,programs.conversation talk,isLeft⟩

theorem event (talked : Talked service config) {index : Nat} {op : Op} {reply : Reply op}
    (member : ⟨index,op,reply⟩ ∈ config.state.history) {property : Call → List (Exchange Op Reply) → Prop}
    (programs : ∀ call, (service.program call).Always fun exchanges _ => property call exchanges) :
    ∃ call, config.calls[index]? = some call ∧ property call (config.state.exchanges index) := by
  obtain ⟨thread,found⟩ := talked.thread_of_exchange (State.mem_exchanges.mpr member)
  obtain ⟨_,holds,_⟩ := talked.always found (programs thread.call)
  exact ⟨thread.call,Config.callAt_thread found,holds⟩

theorem yields (talked : Talked service config) {index : Nat} {call : Call} {value : Result}
    (returned : config.returned index = some (call,value)) {property : List (Exchange Op Reply) → Result → Prop}
    (programs : (service.program call).Yields property) : property (config.state.exchanges index) value := by
  obtain ⟨left,talk,isLeft⟩ := talked.threads index _ (Config.returned_thread returned)
  cases isLeft _ rfl
  exact programs.conversation talk

end Talked
end Ticketbus.Concurrency
