import Ticketbus.Concurrency.Crew
import Ticketbus.Concurrency.Path
import Mathlib.Logic.Function.Basic

/-! `Consumer.Consume` (pkg/kafka) with its reader, its workers and the committed offsets
of its group. `ReadMessage` hands an offset to the committer when it returns the message;
the committer flushes what it was handed at moments of its own. The process may stop
anywhere and is started again from the committed offsets. Topic, headers and tracing,
which no decision depends on, are left out. -/
namespace Ticketbus.Kafka
open Ticketbus.Concurrency
variable {Payload : Type}

structure Record (Payload : Type) where
  key : String
  value : Payload
  deriving DecidableEq, Repr

structure Message (Payload : Type) where
  partition : Nat
  offset : Nat
  key : String
  value : Payload
  deriving DecidableEq, Repr

/-- Where the loop of `Consume` is. -/
inductive Loop (Payload : Type) where
  | reading
  | sending (message : Message Payload)
  | waiting
  | returned
  deriving DecidableEq, Repr

/-- `position` is where the reader goes on in each partition, and the offset that the
committer has been handed. -/
structure Consumer (Payload : Type) where
  concurrency : Nat
  position : Nat → Nat
  cancelled : Bool
  loop : Loop Payload
  crew : Crew (Message Payload) (Message Payload)

structure Handling (Payload : Type) where
  message : Message Payload
  outcome : Except String Unit
  deriving DecidableEq

structure Group (Payload : Type) where
  partitions : List (List (Record Payload))
  committed : Nat → Nat
  consumer : Option (Consumer Payload)
  handled : List (Handling Payload)

def Group.initial (partitions : List (List (Record Payload))) : Group Payload := ⟨partitions,fun _ => 0,none,[]⟩

/-- `WithConcurrency`. -/
def withConcurrency (n : Int) : Nat := (if n < 1 then 1 else n).toNat

/-- `NewConsumer` and the start of `Consume`. -/
def newConsumer (committed : Nat → Nat) (n : Int) : Consumer Payload :=
  ⟨withConcurrency n,committed,false,.reading,.muster (withConcurrency n * 2) (withConcurrency n)⟩

inductive Move (Payload : Type) where
  | produce (partition : Nat) (record : Record Payload)
  | start (concurrency : Int)
  | cancel
  /-- `ReadMessage` returns the next message of a partition, or an error. -/
  | read (partition : Nat)
  | fail
  /-- The two branches of the `select`. -/
  | send
  | drop
  | receive (hand : Nat)
  | handle (hand : Nat) (outcome : Except String Unit)
  | wait
  | flush (partition : Nat)
  | stop

namespace Consumer

def read (consumer : Consumer Payload) (partitions : List (List (Record Payload))) (partition : Nat) :
    Option (Consumer Payload) :=
  match consumer.loop,partitions[partition]?.bind fun records => records[consumer.position partition]? with
  | .reading,some record => some {consumer with
      position := Function.update consumer.position partition (consumer.position partition + 1)
      loop := .sending ⟨partition,consumer.position partition,record.key,record.value⟩}
  | _,_ => none

/-- `close(jobs)` on the way out. -/
def leave (consumer : Consumer Payload) : Consumer Payload :=
  {consumer with loop := .waiting,crew := consumer.crew.close}

def fail (consumer : Consumer Payload) : Option (Consumer Payload) :=
  match consumer.loop with
  | .reading => some consumer.leave
  | _ => none

def send (consumer : Consumer Payload) : Option (Consumer Payload) :=
  match consumer.loop with
  | .sending message => (consumer.crew.send message).map fun crew => {consumer with loop := .reading,crew := crew}
  | _ => none

/-- The context is done while a message is in hand. -/
def drop (consumer : Consumer Payload) : Option (Consumer Payload) :=
  match consumer.loop with
  | .sending _ => if consumer.cancelled then some consumer.leave else none
  | _ => none

def wait (consumer : Consumer Payload) : Option (Consumer Payload) :=
  match consumer.loop with
  | .waiting => if consumer.crew.dismissed then some {consumer with loop := .returned} else none
  | _ => none

/-- No message is held between its read and the end of its handling. -/
def idle (consumer : Consumer Payload) : Bool :=
  (match consumer.loop with
    | .sending _ => false
    | _ => true) && consumer.crew.idle

end Consumer

namespace Group

def advance (group : Group Payload) (step : Consumer Payload → Option (Consumer Payload)) : Option (Group Payload) :=
  (group.consumer.bind step).map fun consumer => {group with consumer := some consumer}

def produce (group : Group Payload) (partition : Nat) (record : Record Payload) : Group Payload :=
  {group with partitions := group.partitions.modify partition (· ++ [record])}

/-- A call of the handler returns; its error is only printed. -/
def handle (group : Group Payload) (consumer : Consumer Payload) (hand : Nat) (outcome : Except String Unit) :
    Option (Group Payload) :=
  (consumer.crew.jobAt hand).map fun message => {group with
    consumer := some {consumer with crew := consumer.crew.proceed hand .receiving}
    handled := ⟨message,outcome⟩ :: group.handled}

def next (group : Group Payload) : Move Payload → Option (Group Payload)
  | .produce partition record => some (group.produce partition record)
  | .start concurrency =>
    match group.consumer with
    | none => some {group with consumer := some (newConsumer group.committed concurrency)}
    | some _ => none
  | .cancel => group.advance fun consumer => some {consumer with cancelled := true}
  | .read partition => group.advance fun consumer => consumer.read group.partitions partition
  | .fail => group.advance Consumer.fail
  | .send => group.advance Consumer.send
  | .drop => group.advance Consumer.drop
  | .receive hand => group.advance fun consumer =>
    (consumer.crew.receive id hand).map fun crew => {consumer with crew := crew}
  | .handle hand outcome => group.consumer.bind fun consumer => group.handle consumer hand outcome
  | .wait => group.advance Consumer.wait
  | .flush partition => group.consumer.map fun consumer =>
    {group with committed := Function.update group.committed partition (consumer.position partition)}
  | .stop => group.consumer.map fun _ => {group with consumer := none}

def messageAt (group : Group Payload) (partition offset : Nat) : Option (Message Payload) :=
  (group.partitions[partition]?.bind fun records => records[offset]?).map fun record =>
    ⟨partition,offset,record.key,record.value⟩

/-- A call of the handler on the message has returned nil. -/
def Done (group : Group Payload) (partition offset : Nat) : Prop :=
  ∃ message, group.messageAt partition offset = some message ∧ ⟨message,.ok ()⟩ ∈ group.handled

def AtLeastOnce (group : Group Payload) : Prop :=
  ∀ partition offset, offset < group.committed partition → group.Done partition offset

end Group

/-- Handlers succeed, no message in hand is dropped, and offsets are flushed only while no
message is on its way. -/
def cautious (group : Group Payload) : Move Payload → Bool
  | .handle _ (.error _) | .drop => false
  | .flush _ => group.consumer.all Consumer.idle
  | _ => true

def Cautious (group : Group Payload) (move : Move Payload) : Prop := cautious group move = true

instance (group : Group Payload) (move : Move Payload) : Decidable (Cautious group move) :=
  inferInstanceAs (Decidable (_ = true))

/-- The message is in the hands of the loop, queued, or with a worker. -/
def Consumer.Holds (consumer : Consumer Payload) (message : Message Payload) : Prop :=
  consumer.loop = .sending message ∨ consumer.crew.Has id message

theorem Consumer.not_holds_of_idle {consumer : Consumer Payload} (isIdle : consumer.idle = true)
    (message : Message Payload) : ¬consumer.Holds message := by
  simp only [Consumer.idle,Bool.and_eq_true] at isIdle
  rintro (sending | held)
  · rw [sending] at isIdle
    exact absurd isIdle.1 Bool.false_ne_true
  · exact Crew.not_has_of_idle isIdle.2 message held

/-- What the committer has been handed was handled or is still held. -/
structure Sound (group : Group Payload) : Prop where
  committed : group.AtLeastOnce
  handed : ∀ consumer, group.consumer = some consumer → ∀ partition offset, offset < consumer.position partition →
    group.Done partition offset ∨
      ∃ message, group.messageAt partition offset = some message ∧ consumer.Holds message

/-- The consumer has read nothing and let go of nothing. -/
def Consumer.Keeps (consumer next : Consumer Payload) : Prop :=
  next.position = consumer.position ∧ ∀ message, consumer.Holds message → next.Holds message

section Steps
variable {group after : Group Payload} {consumer next : Consumer Payload}

theorem Sound.advance {step : Consumer Payload → Option (Consumer Payload)} (sound : Sound group)
    (steps : ∀ consumer next, step consumer = some next → (∀ message, consumer.Holds message → next.Holds message) ∧
      ∀ partition offset, offset < next.position partition → offset < consumer.position partition ∨
        ∃ message, group.messageAt partition offset = some message ∧ next.Holds message)
    (taken : group.advance step = some after) : Sound after := by
  obtain ⟨next,stepped,rfl⟩ := Option.map_eq_some_iff.mp taken
  obtain ⟨consumer,present,moved⟩ := Option.bind_eq_some_iff.mp stepped
  obtain ⟨keeps,reads⟩ := steps consumer next moved
  refine ⟨sound.committed,fun other isOther partition offset below => ?_⟩
  cases isOther
  rcases reads partition offset below with old | new
  · rcases sound.handed consumer present partition offset old with done | ⟨message,found,held⟩
    · exact .inl done
    · exact .inr ⟨message,found,keeps message held⟩
  · exact .inr new

theorem Sound.keeping {step : Consumer Payload → Option (Consumer Payload)} (sound : Sound group)
    (steps : ∀ consumer next, step consumer = some next → consumer.Keeps next)
    (taken : group.advance step = some after) : Sound after := by
  refine sound.advance (fun consumer next moved => ?_) taken
  obtain ⟨position,keeps⟩ := steps consumer next moved
  exact ⟨keeps,fun partition offset below => .inl (position ▸ below)⟩

private theorem read_holds {partition : Nat} (read : consumer.read group.partitions partition = some next) :
    (∀ message, consumer.Holds message → next.Holds message) ∧
    ∀ other offset, offset < next.position other → offset < consumer.position other ∨
      ∃ message, group.messageAt other offset = some message ∧ next.Holds message := by
  unfold Consumer.read at read
  split at read
  · rename_i record reading found
    cases read
    refine ⟨fun message holds => holds.elim (fun sending => ?_) .inr,fun other offset below => ?_⟩
    · rw [reading] at sending
      cases sending
    simp only [Function.update_apply] at below
    split at below
    · rename_i same
      subst same
      rcases Nat.lt_succ_iff_lt_or_eq.mp below with old | rfl
      · exact .inl old
      · exact .inr ⟨_,by rw [Group.messageAt,found]; rfl,.inl rfl⟩
    · exact .inl below
  · cases read

private theorem keeps_crew (idle : ∀ message, consumer.loop ≠ .sending message)
    (position : next.position = consumer.position)
    (crew : ∀ message, consumer.crew.Has id message → next.crew.Has id message) : consumer.Keeps next :=
  ⟨position,fun message holds => holds.elim (fun sending => absurd sending (idle message)) fun held => .inr (crew message held)⟩

private theorem send_keeps (sent : consumer.send = some next) : consumer.Keeps next := by
  unfold Consumer.send at sent
  split at sent
  · rename_i current sending
    obtain ⟨crew,queued,rfl⟩ := Option.map_eq_some_iff.mp sent
    refine ⟨rfl,fun message holds => ?_⟩
    rcases holds with mine | held
    · cases sending.symm.trans mine
      exact .inr (Crew.Has.sent queued)
    · exact .inr (held.send queued)
  · cases sent

private theorem fail_keeps (failed : consumer.fail = some next) : consumer.Keeps next := by
  unfold Consumer.fail at failed
  split at failed
  · rename_i reading
    cases failed
    exact keeps_crew (by simp [reading]) rfl fun _ held => held
  · cases failed

private theorem wait_keeps (waited : consumer.wait = some next) : consumer.Keeps next := by
  unfold Consumer.wait at waited
  split at waited
  · rename_i waiting
    split at waited
    · cases waited
      exact keeps_crew (by simp [waiting]) rfl fun _ held => held
    · cases waited
  · cases waited

private theorem receive_keeps {hand : Nat}
    (received : (consumer.crew.receive id hand).map (fun crew => {consumer with crew := crew}) = some next) :
    consumer.Keeps next := by
  obtain ⟨crew,taken,rfl⟩ := Option.map_eq_some_iff.mp received
  exact ⟨rfl,fun message holds => holds.imp id fun held => held.receive taken⟩

theorem Sound.handle {hand : Nat} (sound : Sound group) (present : group.consumer = some consumer)
    (taken : group.handle consumer hand (.ok ()) = some after) : Sound after := by
  obtain ⟨current,busy,rfl⟩ := Option.map_eq_some_iff.mp taken
  have more {partition offset : Nat} (done : group.Done partition offset) :
      ∃ message, group.messageAt partition offset = some message ∧
        ⟨message,.ok ()⟩ ∈ (⟨current,.ok ()⟩ :: group.handled : List (Handling Payload)) := by
    obtain ⟨message,found,handled⟩ := done
    exact ⟨message,found,List.mem_cons_of_mem _ handled⟩
  refine ⟨fun partition offset below => more (sound.committed partition offset below),?_⟩
  intro other isOther partition offset below
  cases isOther
  rcases sound.handed consumer present partition offset below with done | ⟨message,found,sending | held⟩
  · exact .inl (more done)
  · exact .inr ⟨message,found,.inl sending⟩
  · rcases held.proceed busy with same | kept
    · cases same
      exact .inl ⟨_,found,List.mem_cons_self⟩
    · exact .inr ⟨message,found,.inr kept⟩

theorem messageAt_produce {partition place offset : Nat} {record : Record Payload} {message : Message Payload}
    (found : group.messageAt partition offset = some message) :
    (group.produce place record).messageAt partition offset = some message := by
  obtain ⟨content,stored,rfl⟩ := Option.map_eq_some_iff.mp found
  obtain ⟨records,present,inside⟩ := Option.bind_eq_some_iff.mp stored
  have kept : (group.produce place record).partitions[partition]?.bind (fun records => records[offset]?) = some content := by
    rw [show (group.produce place record).partitions = group.partitions.modify place (· ++ [record]) from rfl,
      List.getElem?_modify,present]
    by_cases same : place = partition
    · simp [same,List.getElem?_append_left (List.getElem?_eq_some_iff.mp inside).1,inside]
    · simp [same,inside]
  rw [Group.messageAt,kept]
  rfl

theorem Sound.produce {place : Nat} {record : Record Payload} (sound : Sound group) :
    Sound (group.produce place record) := by
  have more {partition offset : Nat} (done : group.Done partition offset) :
      (group.produce place record).Done partition offset := by
    obtain ⟨message,found,handled⟩ := done
    exact ⟨message,messageAt_produce found,handled⟩
  refine ⟨fun partition offset below => more (sound.committed partition offset below),?_⟩
  intro consumer present partition offset below
  rcases sound.handed consumer present partition offset below with done | ⟨message,found,held⟩
  · exact .inl (more done)
  · exact .inr ⟨message,messageAt_produce found,held⟩

theorem Sound.flush {partition : Nat} (sound : Sound group) (present : group.consumer = some consumer)
    (isIdle : consumer.idle = true) :
    Sound {group with committed := Function.update group.committed partition (consumer.position partition)} := by
  refine ⟨fun other offset below => ?_,sound.handed⟩
  simp only [Function.update_apply] at below
  split at below
  · rename_i same
    subst same
    rcases sound.handed consumer present other offset below with done | ⟨message,_,held⟩
    · exact done
    · exact absurd held (Consumer.not_holds_of_idle isIdle message)
  · exact sound.committed other offset below

theorem next_sound {move : Move Payload} (sound : Sound group) (permitted : Cautious group move)
    (taken : group.next move = some after) : Sound after := by
  cases move with
  | produce partition record =>
    cases taken
    exact sound.produce
  | start concurrency =>
    simp only [Group.next] at taken
    split at taken
    · cases taken
      refine ⟨sound.committed,fun consumer isNew partition offset below => ?_⟩
      cases isNew
      exact .inl (sound.committed partition offset below)
    · cases taken
  | cancel =>
    refine sound.keeping (fun consumer next same => ?_) taken
    cases same
    exact ⟨rfl,fun _ holds => holds⟩
  | read partition => exact sound.advance (fun _ _ read => read_holds read) taken
  | fail => exact sound.keeping (fun _ _ failed => fail_keeps failed) taken
  | send => exact sound.keeping (fun _ _ sent => send_keeps sent) taken
  | drop => cases permitted
  | receive hand => exact sound.keeping (fun _ _ received => receive_keeps received) taken
  | handle hand outcome =>
    obtain ⟨consumer,present,handled⟩ := Option.bind_eq_some_iff.mp taken
    cases outcome with
    | error error => cases permitted
    | ok value => exact sound.handle present handled
  | wait => exact sound.keeping (fun _ _ waited => wait_keeps waited) taken
  | flush partition =>
    obtain ⟨consumer,present,rfl⟩ := Option.map_eq_some_iff.mp taken
    have isIdle : group.consumer.all Consumer.idle = true := permitted
    rw [present] at isIdle
    exact sound.flush present isIdle
  | stop =>
    obtain ⟨consumer,present,rfl⟩ := Option.map_eq_some_iff.mp taken
    exact ⟨sound.committed,nofun⟩

end Steps

theorem Sound.initial (partitions : List (List (Record Payload))) : Sound (.initial partitions) where
  committed _ _ below := absurd below (Nat.not_lt_zero _)
  handed _ present := by cases present

/-- In every run of a group over any topic, with any number of workers, any cancellation of
the context and any number of stops and restarts of the process. -/
theorem handled_at_least_once (partitions : List (List (Record Payload))) (group : Group Payload)
    (path : Path Group.next Cautious (.initial partitions) group) : group.AtLeastOnce := by
  have sound : Sound group := by
    refine path.invariant Sound (.initial partitions) ?_
    exact fun _ _ _ _ before permitted taken => next_sound before permitted taken
  exact sound.committed

/-- Two orders, the second of them handled first. -/
def orders : List (List (Record Nat)) := [[⟨"a",1⟩,⟨"b",2⟩]]

theorem handled_at_least_once_orders : ∃ group : Group Nat,
    Path Group.next Cautious (.initial orders) group ∧ group.committed 0 = 2 ∧ group.AtLeastOnce := by
  obtain ⟨group,path,committed⟩ := exists_path_of_follow Group.next Cautious
    [.start 2,.read 0,.send,.read 0,.send,.receive 0,.receive 1,.handle 1 (.ok ()),.handle 0 (.ok ()),.flush 0,.stop]
    (.initial orders) (fun group => group.committed 0 = 2) (by decide +kernel)
  exact ⟨group,path,of_decide_eq_true committed,handled_at_least_once orders group path⟩

/-- The handler fails on a message whose offset is committed all the same. -/
theorem failed_message_committed : ¬∀ (Payload : Type) (partitions : List (List (Record Payload)))
    (group : Group Payload), Path Group.next Anything (.initial partitions) group → group.AtLeastOnce := by
  intro never
  obtain ⟨group,path,outcome⟩ := exists_path_of_follow Group.next Anything
    [.start 1,.read 0,.send,.receive 0,.handle 0 (.error "unavailable"),.flush 0] (.initial orders)
    (fun group => group.committed 0 = 1 && group.handled.all fun call => !(call.outcome matches .ok _))
    (by decide +kernel)
  simp only [Bool.and_eq_true,decide_eq_true_eq,List.all_eq_true] at outcome
  obtain ⟨message,_,handled⟩ := never Nat orders group path 0 0 (by rw [outcome.1]; exact Nat.zero_lt_one)
  exact absurd (outcome.2 _ handled) Bool.false_ne_true

end Ticketbus.Kafka
