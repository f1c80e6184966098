import Ticketbus.Outbox
import Ticketbus.Concurrency.Mirror

/-! A service whose world has an outbox. Its calls insert messages; one call of its own makes
a pass of the worker. Next to a pool whose worker never runs there is one over the same
data whose worker publishes every message as soon as it has been inserted. -/
namespace Ticketbus.Outbox
open Ticketbus.Concurrency Ticketbus.Relational

namespace Store
variable {Message : Type} {store : Store Message}

def Flushed (store : Store Message) : Prop := ∀ row ∈ store.rows.rows, row.delivered = true ∧ row.message ∈ store.broker

theorem flushed_empty : (empty : Store Message).Flushed := by
  intro row member
  simp [empty] at member

theorem Flushed.published (flushed : store.Flushed) {message : Message} (inserted : message ∈ store.messages) :
    message ∈ store.broker := by
  obtain ⟨row,member,rfl⟩ := List.mem_map.mp inserted
  exact (flushed row member).2

theorem Flushed.undelivered_insert (flushed : store.Flushed) (message : Message) :
    (store.insert message).undelivered = [⟨store.serial,message,false⟩] := by
  have none : store.rows.rows.filter (fun row => !row.delivered) = [] := by
    rw [List.filter_eq_nil_iff]
    intro row member
    simp [(flushed row member).1]
  unfold undelivered
  rw [show (store.insert message).rows.rows = store.rows.rows ++ [⟨store.serial,message,false⟩] from rfl,
    List.filter_append,none]
  rfl

theorem mem_insert {message : Message} {row : Row Message} :
    row ∈ (store.insert message).rows.rows ↔ row ∈ store.rows.rows ∨ row = ⟨store.serial,message,false⟩ := by
  simp [insert,Table.insert]

theorem Flushed.delivered_insert (flushed : store.Flushed) (message : Message) :
    (((store.insert message).produce message).markDelivered store.serial).Flushed := by
  have last : ⟨store.serial,message,false⟩ ∈ ((store.insert message).produce message).rows.rows :=
    mem_insert.mpr (.inr rfl)
  have present := Table.find?_of_mem last
  intro row member
  rw [broker_markDelivered]
  unfold markDelivered at member
  split at member
  · rename_i absent
    cases absent.symm.trans present
  · rename_i found isFound
    cases isFound.symm.trans present
    rcases (Table.mem_replace ..).mp member with ⟨old,distinct⟩ | ⟨rfl,_⟩
    · rcases mem_insert.mp old with stored | rfl
      · exact ⟨(flushed row stored).1,List.mem_cons_of_mem _ (flushed row stored).2⟩
      · exact absurd rfl distinct
    · exact ⟨rfl,List.mem_cons_self⟩

end Store

variable {Op : Type} {Reply : Op → Type} {World Call Result Message : Type}
variable {service : Service Op Reply World Fault Call Result}

structure Host (service : Service Op Reply World Fault Call Result) (Message : Type) where
  statement : Statement Message → Op
  answer : (inner : Statement Message) → Reply (statement inner) → Outbox.Reply inner
  store : World → Store Message
  put : World → Store Message → World
  batch : Call
  finish : Unit → Result
  program_batch : service.program batch = finish <$> processBatch.embed statement answer
  store_put : ∀ world own, store (put world own) = own := by intros; rfl
  put_put : ∀ world own other, put (put world own) other = put world other := by intros; rfl
  put_store : ∀ world, put world (store world) = world := by intros; rfl
  answers : ∀ inner fault world,
    answer inner (service.execute (statement inner) fault world).1 = (execute inner fault (store world)).1 := by
      intros; rfl
  executes : ∀ inner fault world,
    (service.execute (statement inner) fault world).2 = put world (execute inner fault (store world)).2 := by
      intros; rfl
  insert_reply : ∀ message fault world own,
    (service.execute (statement (.insert message)) fault (put world own)).1 =
      (service.execute (statement (.insert message)) fault world).1
  /-- No other statement looks at the outbox. -/
  frame : ∀ op, (∀ inner, op ≠ statement inner) → ∀ fault world own,
    service.execute op fault (put world own) =
      ((service.execute op fault world).1,put (service.execute op fault world).2 own)

namespace Host
variable (host : Host service Message) {small large after : Config Op Reply World Call Result}

theorem untouched (op : Op) (outside : ∀ inner, op ≠ host.statement inner) (fault : Fault) (world : World) :
    host.store (service.execute op fault world).2 = host.store world := by
  have framed := host.frame op outside fault world (host.store world)
  rw [host.put_store] at framed
  rw [framed,host.store_put]

def Calm (op : Op) : Prop := ∀ inner, op = host.statement inner → ∃ message, inner = .insert message

def Alike (world world' : World) : Prop :=
  ∃ own, world' = host.put world own ∧ own.messages = (host.store world).messages

variable {host}

theorem Alike.messages {world world' : World} (alike : host.Alike world world') :
    (host.store world').messages = (host.store world).messages := by
  obtain ⟨own,rfl,same⟩ := alike
  rw [host.store_put,same]

theorem Alike.put {world world' : World} (alike : host.Alike world world') {own : Store Message}
    (same : own.messages = (host.store world').messages) : host.Alike world (host.put world' own) := by
  have kept : own.messages = (host.store world).messages := same.trans alike.messages
  obtain ⟨before,rfl,_⟩ := alike
  exact ⟨own,host.put_put world before own,kept⟩

theorem messages_next (host : Host service Message) {config later : Config Op Reply World Call Result}
    {action : Action Call Fault} (taken : config.next service action = some later) :
    (host.store config.state.world).messages <+: (host.store later.state.world).messages := by
  rcases Config.next_state taken with same | ⟨index,fault,call,op,next,_,_,rfl⟩
  · exact same ▸ List.prefix_rfl
  · rw [State.after_world]
    by_cases outside : ∀ inner, op ≠ host.statement inner
    · exact host.untouched op outside fault config.state.world ▸ List.prefix_rfl
    · push Not at outside
      obtain ⟨inner,rfl⟩ := outside
      rw [host.executes,host.store_put]
      rcases execute_messages inner fault (host.store config.state.world) with same | ⟨message,_,_,more⟩
      · exact same ▸ List.prefix_rfl
      · rw [more]
        exact List.prefix_append ..

theorem Alike.execute {world world' : World} (alike : host.Alike world world') {op : Op} (calm : host.Calm op)
    (fault : Fault) : (service.execute op fault world').1 = (service.execute op fault world).1 ∧
      host.Alike (service.execute op fault world).2 (service.execute op fault world').2 := by
  obtain ⟨own,rfl,same⟩ := alike
  by_cases outside : ∀ inner, op ≠ host.statement inner
  · rw [host.frame op outside]
    exact ⟨rfl,own,rfl,by rw [host.untouched op outside,same]⟩
  · push Not at outside
    obtain ⟨inner,rfl⟩ := outside
    obtain ⟨message,rfl⟩ := calm inner rfl
    refine ⟨host.insert_reply message fault world own,(Outbox.execute (.insert message) fault own).2,?_,?_⟩
    · rw [host.executes,host.executes,host.store_put,host.put_put,host.put_put]
    · rw [host.executes,host.store_put]
      cases fault with
      | none => exact (own.messages_insert message).trans ((congrArg (· ++ [message]) same).trans
          ((host.store world).messages_insert message).symm)
      | fail | broken _ => exact same

theorem execute_store (world : World) {op : Op} (calm : host.Calm op) (fault : Fault) :
    host.store (service.execute op fault world).2 = host.store world ∨
      ∃ message, host.store (service.execute op fault world).2 = (host.store world).insert message := by
  by_cases outside : ∀ inner, op ≠ host.statement inner
  · exact .inl (host.untouched op outside fault world)
  · push Not at outside
    obtain ⟨inner,rfl⟩ := outside
    obtain ⟨message,rfl⟩ := calm inner rfl
    rw [host.executes,host.store_put]
    cases fault with
    | none => exact .inr ⟨message,rfl⟩
    | fail | broken _ => exact .inl rfl

def Passing (host : Host service Message) (_ : Config Op Reply World Call Result) (action : Action Call Fault) : Prop :=
  ∀ call, action = .start call → call = host.batch

/-- What the larger pool does for an action of the smaller one: the action, and passes. -/
def Along (host : Host service Message) (first : Config Op Reply World Call Result) (action : Action Call Fault)
    (config : Config Op Reply World Call Result) (act : Action Call Fault) : Prop :=
  ∀ call, act = .start call → call = host.batch ∨ (config = first ∧ action = .start call)

theorem Passing.along {first config : Config Op Reply World Call Result} {action act : Action Call Fault}
    (passing : host.Passing config act) : host.Along first action config act :=
  fun call starts => .inl (passing call starts)

section Background
variable [DecidableEq Call]

def foreground (host : Host service Message) (call : Call) : Bool := decide (call ≠ host.batch)

theorem background (host : Host service Message) : host.foreground host.batch = false := by
  simp [foreground]

abbrev Mirrored (host : Host service Message) (small large : Config Op Reply World Call Result) : Prop :=
  Mirrors host.foreground host.Alike small large ∧ (host.store large.state.world).Flushed

theorem calm_of_run {Footprint : Call → Op → Prop} {guard : Config Op Reply World Call Result → Action Call Fault → Prop}
    {world : World} {config : Config Op Reply World Call Result}
    (issues : ∀ call, (service.program call).Issues (Footprint call))
    (quiet : ∀ call inner, Footprint call (host.statement inner) → call ≠ host.batch → ∃ message, inner = .insert message)
    (run : Run service (Admitting host.foreground guard) (.idle world) config) (index : Nat) (call : Call) (op : Op)
    (next : Reply op → Program Op Reply Result)
    (found : config.threads[index]? = some ⟨call,some (.perform op next)⟩) : host.Calm op := by
  have inside := run.issues issues found
  have foreground := run.calls_admitted (by simp [Config.idle]) _ (List.mem_of_getElem? found)
  rintro inner rfl
  exact quiet call inner inside (of_decide_eq_true foreground)

theorem pass_step (mirrors : Mirrors host.foreground host.Alike small large) {index : Nat} {inner : Statement Message}
    {rest : Outbox.Reply inner → Program (Statement Message) Outbox.Reply Unit}
    (found : large.threads[index]? =
      some ⟨host.batch,some (host.finish <$> (Program.perform inner rest).embed host.statement host.answer)⟩)
    {reply : Outbox.Reply inner} {own : Store Message}
    (executed : execute inner .none (host.store large.state.world) = (reply,own))
    (same : own.messages = (host.store large.state.world).messages) :
    ∃ after, large.next service (.step index .none) = some after ∧
      Mirrors host.foreground host.Alike small after ∧ host.store after.state.world = own ∧
      after.threads[index]? =
        some ⟨host.batch,some (host.finish <$> (rest reply).embed host.statement host.answer)⟩ := by
  have answered : host.answer inner (service.execute (host.statement inner) .none large.state.world).1 = reply := by
    rw [host.answers,executed]
  have left : (service.execute (host.statement inner) .none large.state.world).2 = host.put large.state.world own := by
    rw [host.executes,executed]
  have bound : index < large.threads.length := (List.getElem?_eq_some_iff.mp found).1
  refine ⟨_,by simp only [Config.next,found]; rfl,mirrors.stepBackground found host.background ?_,?_,?_⟩
  · rw [left]
    exact mirrors.worlds.put same
  · exact (congrArg host.store left).trans (host.store_put ..)
  · rw [List.getElem?_set_self bound,← answered]
    rfl

theorem flush (mirrors : Mirrors host.foreground host.Alike small large) {store : Store Message} {message : Message}
    (flushed : store.Flushed) (inserted : host.store large.state.world = store.insert message) :
    ∃ after, Path (Config.next service) host.Passing large after ∧ host.Mirrored small after := by
  let row : Row Message := ⟨store.serial,message,false⟩
  have selected : execute .undelivered .none (store.insert message) = (.ok ⟨[row],none⟩,store.insert message) := by
    unfold execute
    rw [flushed.undelivered_insert]
    rfl
  let started : Config Op Reply World Call Result :=
    {large with threads := large.threads ++ [⟨host.batch,some (service.program host.batch)⟩]}
  have begun : started.threads[large.threads.length]? = some ⟨host.batch,some (service.program host.batch)⟩ :=
    List.getElem?_concat_length
  rw [host.program_batch] at begun
  have mirrors : Mirrors host.foreground host.Alike small started := mirrors.startBackground host.background
  obtain ⟨first,read,mirrors,kept,found⟩ := pass_step mirrors begun ((congrArg _ inserted).trans selected)
    (congrArg Store.messages inserted).symm
  obtain ⟨second,sent,mirrors,produced,found⟩ := pass_step mirrors found (congrArg _ kept) (by rw [kept]; rfl)
  obtain ⟨third,marked,mirrors,delivered,_⟩ := pass_step mirrors found (congrArg _ produced)
    (by rw [produced]; exact Store.messages_markDelivered ..)
  have path : Path (Config.next service) host.Passing large started :=
    .step (.start host.batch) .refl (fun _ same => (Action.start.inj same).symm) rfl
  refine ⟨third,.step _ (.step _ (.step _ path ?_ read) ?_ sent) ?_ marked,mirrors,?_⟩
  iterate 3 exact fun _ is => by cases is
  rw [delivered]
  exact flushed.delivered_insert message

theorem Mirrored.step (mirrored : host.Mirrored small large) {index : Nat} {fault : Fault}
    (calm : ∀ call op next, small.threads[index]? = some ⟨call,some (.perform op next)⟩ → host.Calm op)
    (taken : small.next service (.step index fault) = some after) :
    ∃ after', Path (Config.next service) host.Passing large after' ∧ host.Mirrored after after' := by
  obtain ⟨mirrors,flushed⟩ := mirrored
  obtain ⟨call,op,next,place,after',found,moved,mirrors,world⟩ := mirrors.step
    (fun call op next found => mirrors.worlds.execute (calm call op next found) fault) taken
  have path : Path (Config.next service) host.Passing large after' := .step _ .refl (fun _ is => by cases is) moved
  rcases execute_store large.state.world (calm call op next found) fault with same | ⟨message,inserted⟩
  · exact ⟨after',path,mirrors,by rw [world,same]; exact flushed⟩
  · obtain ⟨last,passed,mirrored⟩ := flush mirrors flushed ((congrArg host.store world).trans inserted)
    exact ⟨last,path.trans passed,mirrored⟩

theorem Mirrored.next (mirrored : host.Mirrored small large) {action : Action Call Fault}
    (taken : small.next service action = some after) (starts : ∀ call, action = .start call → host.foreground call = true)
    (calm : ∀ (index : Nat) call op next, small.threads[index]? = some ⟨call,some (.perform op next)⟩ → host.Calm op) :
    ∃ after', Path (Config.next service) (host.Along large action) large after' ∧ host.Mirrored after after' := by
  cases action with
  | start call =>
    obtain ⟨after',moved,mirrors,same⟩ := mirrored.1.start (starts call rfl) taken
    refine ⟨after',.step (.start call) .refl (fun _ same => .inr ⟨rfl,same⟩) moved,mirrors,?_⟩
    rw [same]
    exact mirrored.2
  | step index fault =>
    obtain ⟨after',path,mirrored⟩ := mirrored.step (calm index) taken
    exact ⟨after',path.mono fun _ _ passing => passing.along,mirrored⟩
  | stop index =>
    obtain ⟨place,after',moved,mirrors,same⟩ := mirrored.1.stop taken
    refine ⟨after',.step (.stop place) .refl (fun _ is => by cases is) moved,mirrors,?_⟩
    rw [same]
    exact mirrored.2

end Background
end Host
end Ticketbus.Outbox
