import Ticketbus.Outbox.Worker
import Ticketbus.Kafka.Consumer

/-! From the outbox tables to the handlers. Each source has a table and its workers, each
subscriber a consumer group on one topic; a group reads the topic's partitions at its own
pace. A call of `Produce` makes up to three attempts, each of which may leave a copy of the
message in a partition of its own (`LeastBytes`), whatever the caller is told: the `Writer`
sets no `RequiredAcks` and so awaits none, and a nil may stand for a record that no broker has. -/
namespace Ticketbus.Outbox
open Ticketbus.Concurrency Ticketbus.Relational
variable {Payload : Type} {cluster after : Cluster Payload} {move : Move Payload}

theorem Cluster.next_store (taken : cluster.next move = some after) :
    (after.store = cluster.store ∧ after.publications = cluster.publications) ∨
    (∃ topic key payload fault, move = .insert topic key (some payload) fault ∧
      after = cluster.insert ⟨topic,key,payload⟩ fault) ∨
    (∃ index hand worker batch row fault, cluster.batchAt index = some (worker,batch) ∧
      batch.crew.jobAt hand = some (.publish row) ∧ after = cluster.publish index hand worker batch row fault) ∨
    ∃ index hand worker batch row fault, cluster.batchAt index = some (worker,batch) ∧
      batch.crew.jobAt hand = some (.mark row) ∧ after = cluster.mark index hand worker batch row fault := by
  cases move with
  | insert topic key payload fault =>
    cases taken
    cases payload with
    | none => exact .inl ⟨rfl,rfl⟩
    | some payload => exact .inr (.inl ⟨topic,key,payload,fault,rfl,rfl⟩)
  | launch concurrency =>
    cases taken
    exact .inl ⟨rfl,rfl⟩
  | query index fault unscanned =>
    simp only [Cluster.next] at taken
    split at taken
    · cases taken
      unfold Cluster.query
      split
      · exact .inl ⟨rfl,rfl⟩
      · split
        · exact .inl ⟨rfl,rfl⟩
        · exact .inl ⟨rfl,rfl⟩
    · cases taken
  | send index =>
    simp only [Cluster.next] at taken
    split at taken
    · obtain ⟨crew,_,rfl⟩ := Option.map_eq_some_iff.mp taken
      exact .inl ⟨rfl,rfl⟩
    · cases taken
  | close index =>
    simp only [Cluster.next] at taken
    split at taken
    · split at taken
      · cases taken
      · cases taken
        exact .inl ⟨rfl,rfl⟩
    · cases taken
  | receive index hand =>
    simp only [Cluster.next] at taken
    split at taken
    · obtain ⟨crew,_,rfl⟩ := Option.map_eq_some_iff.mp taken
      exact .inl ⟨rfl,rfl⟩
    · cases taken
  | work index hand fault =>
    simp only [Cluster.next] at taken
    split at taken
    · rename_i worker batch found
      split at taken
      · rename_i row busy
        cases taken
        exact .inr (.inr (.inl ⟨index,hand,worker,batch,row,fault,found,busy,rfl⟩))
      · rename_i row busy
        cases taken
        exact .inr (.inr (.inr ⟨index,hand,worker,batch,row,fault,found,busy,rfl⟩))
      · cases taken
    · cases taken
  | wait index =>
    simp only [Cluster.next] at taken
    split at taken
    · split at taken
      · cases taken
        exact .inl ⟨rfl,rfl⟩
      · cases taken
    · cases taken
  | stop index =>
    simp only [Cluster.next] at taken
    split at taken
    · cases taken
      exact .inl ⟨rfl,rfl⟩
    · cases taken

/-- The call of `Produce` that a move is, if its record has left the worker. -/
def Cluster.sent (before after : Cluster Payload) : Option (Publication Payload) :=
  if before.store.broker.length < after.store.broker.length then after.publications.head? else none

/-- The only row that newly counts as published is that of the call. -/
def Cluster.Reports (before after : Cluster Payload) : Prop :=
  ∀ id record, Published after id record → Published before id record ∨ before.sent after = some ⟨id,record,.ok ()⟩

private theorem sent_none (same : after.store.broker = cluster.store.broker) : cluster.sent after = none := by
  unfold Cluster.sent
  rw [same]
  exact if_neg (Nat.lt_irrefl _)

private theorem sent_some {record : Record Payload} {call : Publication Payload}
    (more : after.store.broker = record :: cluster.store.broker)
    (called : after.publications = call :: cluster.publications) : cluster.sent after = some call := by
  unfold Cluster.sent
  rw [more,called]
  exact if_pos (Nat.lt_succ_self _)

private theorem reports_same (publications : after.publications = cluster.publications) : cluster.Reports after := by
  intro id record published
  unfold Published at published
  rw [publications] at published
  exact .inl published

private theorem publish_sent (index hand : Nat) (worker : Worker Payload) (batch : Batch Payload) (row : Entry Payload)
    (fault : Fault) :
    (∀ call, cluster.sent (cluster.publish index hand worker batch row fault) = some call →
      call.id = row.id ∧ call.record = row.message) ∧
    cluster.Reports (cluster.publish index hand worker batch row fault) := by
  cases fault with
  | none =>
    have sent : cluster.sent (cluster.publish index hand worker batch row .none) = some ⟨row.id,row.message,.ok ()⟩ :=
      sent_some rfl rfl
    refine ⟨fun call isCall => ?_,fun id record published => ?_⟩
    · cases sent.symm.trans isCall
      exact ⟨rfl,rfl⟩
    · rcases List.mem_cons.mp published with same | old
      · cases same
        exact .inr sent
      · exact .inl old
  | fail =>
    have sent : cluster.sent (cluster.publish index hand worker batch row .fail) = none := sent_none rfl
    refine ⟨fun call isCall => ?_,fun id record published => ?_⟩
    · cases sent.symm.trans isCall
    · rcases List.mem_cons.mp published with same | old
      · cases same
      · exact .inl old
  | broken count =>
    refine ⟨fun call isCall => ?_,fun id record published => ?_⟩
    · cases (sent_some rfl rfl).symm.trans isCall
      exact ⟨rfl,rfl⟩
    · rcases List.mem_cons.mp published with same | old
      · cases same
      · exact .inl old

theorem Cluster.next_sent (sound : Sound cluster) (taken : cluster.next move = some after) :
    cluster.Reports after ∧
      ∀ call, cluster.sent after = some call → Stored cluster.store call.id call.record := by
  rcases next_store taken with ⟨same,publications⟩ | ⟨_,_,_,fault,_,rfl⟩ |
    ⟨index,hand,worker,batch,row,fault,found,busy,rfl⟩ | ⟨index,hand,worker,batch,row,fault,found,busy,rfl⟩
  · refine ⟨reports_same publications,fun call sent => ?_⟩
    rw [sent_none (congrArg Store.broker same)] at sent
    cases sent
  · refine ⟨reports_same rfl,fun call sent => ?_⟩
    rw [sent_none (by cases fault <;> rfl)] at sent
    cases sent
  · obtain ⟨sent,reports⟩ := publish_sent index hand worker batch row fault
    refine ⟨reports,fun call isSent => ?_⟩
    obtain ⟨id,record⟩ := sent call isSent
    rw [id,record]
    exact (batch_ready sound found).2.hands _ (Crew.jobAt_mem busy)
  · refine ⟨reports_same rfl,fun call sent => ?_⟩
    have kept : (cluster.mark index hand worker batch row fault).store.broker = cluster.store.broker := by
      cases fault with
      | none | broken _ => exact Store.broker_markDelivered ..
      | fail => rfl
    rw [sent_none kept] at sent
    cases sent

theorem Cluster.next_messages (taken : cluster.next move = some after)
    (other : ∀ topic key payload fault, move ≠ .insert topic key payload fault) :
    after.store.messages = cluster.store.messages := by
  rcases next_store taken with ⟨same,_⟩ | ⟨_,_,_,_,rfl,_⟩ | ⟨index,hand,worker,batch,row,fault,_,_,rfl⟩ |
    ⟨index,hand,worker,batch,row,fault,_,_,rfl⟩
  · rw [same]
  · exact absurd rfl (other _ _ _ _)
  · cases fault <;> rfl
  · cases fault with
    | none | broken _ => exact Store.messages_markDelivered ..
    | fail => rfl

end Ticketbus.Outbox

namespace Ticketbus.Kafka
open Ticketbus.Concurrency Ticketbus.Relational

section Groups
variable {Payload : Type} {group after : Group Payload} {move : Move Payload}

/-- The message is what the topic has at its place. -/
def Group.Real (group : Group Payload) (message : Message Payload) : Prop :=
  group.messageAt message.partition message.offset = some message

def Group.Logged (group : Group Payload) (record : Record Payload) : Prop :=
  ∃ partition offset, group.messageAt partition offset = some ⟨partition,offset,record.key,record.value⟩

/-- A consumer holds and handles nothing but messages of its topic. -/
structure Group.Genuine (group : Group Payload) : Prop where
  sending : ∀ consumer, group.consumer = some consumer → ∀ message, consumer.loop = .sending message → group.Real message
  crew : ∀ consumer, group.consumer = some consumer → consumer.crew.Each group.Real group.Real
  handled : ∀ call ∈ group.handled, group.Real call.message

theorem Group.Genuine.initial (partitions : List (List (Record Payload))) : (Group.initial partitions).Genuine := by
  refine ⟨?_,?_,?_⟩
  · intro consumer present
    cases present
  · intro consumer present
    cases present
  · intro call member
    cases member

theorem Group.Genuine.produce (genuine : group.Genuine) (place : Nat) (record : Record Payload) :
    (group.produce place record).Genuine := by
  have kept (message : Message Payload) (real : group.Real message) : (group.produce place record).Real message :=
    messageAt_produce real
  refine ⟨?_,?_,?_⟩
  · exact fun consumer present message sending => kept message (genuine.sending consumer present message sending)
  · exact fun consumer present => (genuine.crew consumer present).mono kept kept
  · exact fun call member => kept _ (genuine.handled call member)

private theorem Group.Genuine.advance {step : Consumer Payload → Option (Consumer Payload)} (genuine : group.Genuine)
    (steps : ∀ consumer next, group.consumer = some consumer → step consumer = some next →
      (∀ message, next.loop = .sending message → group.Real message) ∧ next.crew.Each group.Real group.Real)
    (taken : group.advance step = some after) : after.Genuine := by
  obtain ⟨next,stepped,rfl⟩ := Option.map_eq_some_iff.mp taken
  obtain ⟨consumer,present,moved⟩ := Option.bind_eq_some_iff.mp stepped
  obtain ⟨sending,crew⟩ := steps consumer next present moved
  refine ⟨?_,?_,genuine.handled⟩
  · intro other isOther
    cases isOther
    exact sending
  · intro other isOther
    cases isOther
    exact crew

private theorem read_genuine {consumer next : Consumer Payload} {partition : Nat}
    (read : consumer.read group.partitions partition = some next) :
    (∀ message, next.loop = .sending message → group.Real message) ∧ next.crew = consumer.crew := by
  unfold Consumer.read at read
  split at read
  · rename_i record reading found
    cases read
    refine ⟨fun message sending => ?_,rfl⟩
    cases sending
    change group.messageAt _ _ = _
    rw [Group.messageAt,found]
    rfl
  · cases read

theorem Group.Genuine.next (genuine : group.Genuine) (taken : group.next move = some after) : after.Genuine := by
  cases move with
  | produce partition record =>
    cases taken
    exact genuine.produce partition record
  | start concurrency =>
    simp only [Group.next] at taken
    split at taken
    · cases taken
      refine ⟨?_,?_,genuine.handled⟩
      · intro consumer present message sending
        cases present
        cases sending
      · intro consumer present
        cases present
        exact .muster ..
    · cases taken
  | cancel =>
    refine genuine.advance (fun consumer next present same => ?_) taken
    cases same
    exact ⟨genuine.sending consumer present,genuine.crew consumer present⟩
  | read partition =>
    refine genuine.advance (fun consumer next present read => ?_) taken
    obtain ⟨sending,same⟩ := read_genuine read
    exact ⟨sending,same ▸ genuine.crew consumer present⟩
  | fail =>
    refine genuine.advance (fun consumer next present failed => ?_) taken
    unfold Consumer.fail at failed
    split at failed
    · cases failed
      exact ⟨fun message sending => (by cases sending),genuine.crew consumer present |>.queue,(genuine.crew consumer present).hands⟩
    · cases failed
  | send =>
    refine genuine.advance (fun consumer next present sent => ?_) taken
    unfold Consumer.send at sent
    split at sent
    · rename_i message sending
      obtain ⟨crew,queued,rfl⟩ := Option.map_eq_some_iff.mp sent
      refine ⟨fun other reading => (by cases reading),?_⟩
      exact (genuine.crew consumer present).send (genuine.sending consumer present message sending) queued
    · cases sent
  | drop =>
    refine genuine.advance (fun consumer next present dropped => ?_) taken
    unfold Consumer.drop at dropped
    split at dropped
    · split at dropped
      · cases dropped
        exact ⟨fun message sending => (by cases sending),(genuine.crew consumer present).queue,(genuine.crew consumer present).hands⟩
      · cases dropped
    · cases dropped
  | receive hand =>
    refine genuine.advance (fun consumer next present received => ?_) taken
    obtain ⟨crew,isCrew,rfl⟩ := Option.map_eq_some_iff.mp received
    exact ⟨genuine.sending consumer present,(genuine.crew consumer present).receive (fun _ real => real) isCrew⟩
  | handle hand outcome =>
    obtain ⟨consumer,present,handled⟩ := Option.bind_eq_some_iff.mp taken
    obtain ⟨message,busy,rfl⟩ := Option.map_eq_some_iff.mp handled
    have real := (genuine.crew consumer present).hands _ (Crew.jobAt_mem busy)
    refine ⟨?_,?_,?_⟩
    · intro other isOther
      cases isOther
      exact genuine.sending consumer present
    · intro other isOther
      cases isOther
      exact (genuine.crew consumer present).proceed fun job is => (by cases is)
    · intro call member
      rcases List.mem_cons.mp member with rfl | old
      · exact real
      · exact genuine.handled call old
  | wait =>
    refine genuine.advance (fun consumer next present waited => ?_) taken
    unfold Consumer.wait at waited
    split at waited
    · split at waited
      · cases waited
        exact ⟨fun message sending => (by cases sending),genuine.crew consumer present⟩
      · cases waited
    · cases waited
  | flush partition =>
    obtain ⟨consumer,present,rfl⟩ := Option.map_eq_some_iff.mp taken
    exact ⟨genuine.sending,genuine.crew,genuine.handled⟩
  | stop =>
    obtain ⟨consumer,present,rfl⟩ := Option.map_eq_some_iff.mp taken
    refine ⟨?_,?_,genuine.handled⟩
    · intro other isOther
      cases isOther
    · intro other isOther
      cases isOther

theorem next_partitions (taken : group.next move = some after) (reads : ∀ place record, move ≠ .produce place record) :
    after.partitions = group.partitions := by
  have advanced {step : Consumer Payload → Option (Consumer Payload)} (taken : group.advance step = some after) :
      after.partitions = group.partitions := by
    obtain ⟨_,_,rfl⟩ := Option.map_eq_some_iff.mp taken
    rfl
  cases move with
  | produce place record => exact absurd rfl (reads place record)
  | start concurrency =>
    simp only [Group.next] at taken
    split at taken
    · cases taken
      rfl
    · cases taken
  | handle hand outcome =>
    obtain ⟨_,_,handled⟩ := Option.bind_eq_some_iff.mp taken
    obtain ⟨_,_,rfl⟩ := Option.map_eq_some_iff.mp handled
    rfl
  | flush partition =>
    obtain ⟨_,_,rfl⟩ := Option.map_eq_some_iff.mp taken
    rfl
  | stop =>
    obtain ⟨_,_,rfl⟩ := Option.map_eq_some_iff.mp taken
    rfl
  | cancel | read | fail | send | drop | receive | wait => exact advanced taken

def Group.messageOf (group : Group Payload) (hand : Nat) : Option (Message Payload) :=
  group.consumer.bind fun consumer => consumer.crew.jobAt hand

theorem messageAt_produced {place partition offset : Nat} {record : Record Payload} {message : Message Payload}
    (found : (group.produce place record).messageAt partition offset = some message) :
    group.messageAt partition offset = some message ∨ (message.key = record.key ∧ message.value = record.value) := by
  obtain ⟨content,stored,rfl⟩ := Option.map_eq_some_iff.mp found
  obtain ⟨records,present,inside⟩ := Option.bind_eq_some_iff.mp stored
  rw [show (group.produce place record).partitions = group.partitions.modify place (· ++ [record]) from rfl,
    List.getElem?_modify] at present
  obtain ⟨old,isOld,rfl⟩ := Option.map_eq_some_iff.mp present
  have before (same : old[offset]? = some content) :
      group.messageAt partition offset = some ⟨partition,offset,content.key,content.value⟩ := by
    unfold Group.messageAt
    rw [isOld,Option.bind_some,same]
    rfl
  split at inside
  · rw [List.getElem?_append] at inside
    split at inside
    · exact .inl (before inside)
    · cases List.mem_singleton.mp (List.mem_of_getElem? inside)
      exact .inr ⟨rfl,rfl⟩
  · exact .inl (before inside)

theorem logged_produce {place : Nat} (inside : place < group.partitions.length) (record : Record Payload) :
    (group.produce place record).Logged record := by
  refine ⟨place,(group.partitions[place]).length,?_⟩
  unfold Group.messageAt
  rw [show (group.produce place record).partitions = group.partitions.modify place (· ++ [record]) from rfl,
    List.getElem?_modify,List.getElem?_eq_getElem inside]
  simp

theorem Group.Logged.produce {record new : Record Payload} (logged : group.Logged record) (place : Nat) :
    (group.produce place new).Logged record := by
  obtain ⟨partition,offset,found⟩ := logged
  exact ⟨partition,offset,messageAt_produce found⟩

/-- The copies of one record that the attempts of a `Produce` have left. -/
def Group.produceAll (group : Group Payload) (places : List Nat) (record : Record Payload) : Group Payload :=
  places.foldl (fun group place => group.produce place record) group

structure Group.Extended (before after : Group Payload) (record : Record Payload) : Prop where
  size : after.partitions.length = before.partitions.length
  genuine : before.Genuine → after.Genuine
  sound : Sound before → Sound after
  kept : ∀ old, before.Logged old → after.Logged old
  origin : ∀ partition offset message, after.messageAt partition offset = some message →
    before.messageAt partition offset = some message ∨ (message.key = record.key ∧ message.value = record.value)
  consumer : after.consumer = before.consumer ∧ after.handled = before.handled

theorem produceAll_extended (group : Group Payload) (places : List Nat) (record : Record Payload) :
    group.Extended (group.produceAll places record) record := by
  induction places generalizing group with
  | nil => exact ⟨rfl,id,id,fun _ => id,fun _ _ _ => .inl,rfl,rfl⟩
  | cons place rest ih =>
    have later := ih (group.produce place record)
    refine ⟨?_,?_,?_,?_,?_,later.consumer⟩
    · exact later.size.trans (List.length_modify ..)
    · exact fun genuine => later.genuine (genuine.produce place record)
    · exact fun sound => later.sound sound.produce
    · exact fun old logged => later.kept old (logged.produce place)
    · intro partition offset message found
      rcases later.origin partition offset message found with before | new
      · exact messageAt_produced before
      · exact .inr new

theorem logged_produceAll {places : List Nat} (some : places ≠ []) (inside : ∀ place ∈ places, place < group.partitions.length)
    (record : Record Payload) : (group.produceAll places record).Logged record := by
  cases places with
  | nil => exact absurd rfl some
  | cons place rest =>
    exact (produceAll_extended _ rest record).kept record (logged_produce (inside place List.mem_cons_self) record)

end Groups

/-- The partitions that `EnsureTopics` is asked to create, and the attempts of a `Writer`. -/
def topicPartitions : Nat := 4

def maxAttempts : Nat := 3

/-- The tables, the groups, and the rows for which a `Produce` has returned nil and left nothing. -/
structure Bus (Source Subscriber Payload : Type) where
  outboxes : Source → Outbox.Cluster Payload
  groups : Subscriber → Group Payload
  lost : List (Source × Nat)

inductive Bus.Move (Source Subscriber Payload : Type) where
  /-- A move around one of the tables; a record that is sent arrives at these partitions. -/
  | relay (source : Source) (move : Outbox.Move Payload) (places : List Nat)
  | consume (subscriber : Subscriber) (move : Kafka.Move Payload)

namespace Bus
variable {Source Subscriber Payload : Type}

def initial : Bus Source Subscriber Payload := ⟨fun _ => .initial,fun _ => .initial (List.replicate topicPartitions []),[]⟩

section Next
variable [DecidableEq Source] [DecidableEq Subscriber] (topic : Subscriber → String)

/-- A record arrives in its topic, for all the groups that read it, or nowhere. -/
def publish (bus : Bus Source Subscriber Payload) (source : Source) (call : Outbox.Publication Payload)
    (places : List Nat) : Bus Source Subscriber Payload :=
  {bus with
    groups := fun subscriber =>
      if topic subscriber = call.record.topic then
        (bus.groups subscriber).produceAll places ⟨call.record.key,call.record.payload⟩
      else bus.groups subscriber
    lost :=
      match places,call.reply with
      | [],.ok _ => (source,call.id) :: bus.lost
      | _,_ => bus.lost}

def setOutbox (bus : Bus Source Subscriber Payload) (source : Source) (cluster : Outbox.Cluster Payload) :
    Bus Source Subscriber Payload := {bus with outboxes := Function.update bus.outboxes source cluster}

def setGroup (bus : Bus Source Subscriber Payload) (subscriber : Subscriber) (group : Group Payload) :
    Bus Source Subscriber Payload := {bus with groups := Function.update bus.groups subscriber group}

def next (bus : Bus Source Subscriber Payload) : Move Source Subscriber Payload → Option (Bus Source Subscriber Payload)
  | .relay source move places =>
    ((bus.outboxes source).next move).bind fun cluster =>
      match (bus.outboxes source).sent cluster with
      | none => if places = [] then some (bus.setOutbox source cluster) else none
      | some call =>
        if places.length ≤ maxAttempts ∧ ∀ place ∈ places, place < topicPartitions then
          some ((bus.setOutbox source cluster).publish topic source call places)
        else none
  | .consume _ (.produce _ _) => none
  | .consume subscriber move => ((bus.groups subscriber).next move).map (bus.setGroup subscriber)

end Next

/-- Between the tables and one group on a topic nothing is made up, and nothing that was
acknowledged is missing but what is on record as lost. -/
structure Serves (outboxes : Source → Outbox.Cluster Payload) (lost : List (Source × Nat)) (topic : String)
    (group : Group Payload) : Prop where
  sized : group.partitions.length = topicPartitions
  genuine : group.Genuine
  logged : ∀ partition offset message, group.messageAt partition offset = some message →
    ∃ source id, Outbox.Stored (outboxes source).store id ⟨topic,message.key,message.value⟩
  arrived : ∀ source id record, Outbox.Published (outboxes source) id record → record.topic = topic →
    (source,id) ∈ lost ∨ group.Logged ⟨record.key,record.payload⟩

structure Faithful (topic : Subscriber → String) (bus : Bus Source Subscriber Payload) : Prop where
  outboxes : ∀ source, Outbox.Sound (bus.outboxes source)
  groups : ∀ subscriber, Serves bus.outboxes bus.lost (topic subscriber) (bus.groups subscriber)

section Serving
variable {outboxes : Source → Outbox.Cluster Payload} {lost more : List (Source × Nat)} {topic : String}
variable {group after : Group Payload}

theorem Serves.initial (topic : String) :
    Serves (fun _ : Source => (.initial : Outbox.Cluster Payload)) [] topic
      (.initial (List.replicate topicPartitions [])) where
  sized := List.length_replicate
  genuine := .initial _
  logged partition offset message found := by
    obtain ⟨record,stored,_⟩ := Option.map_eq_some_iff.mp found
    obtain ⟨records,present,inside⟩ := Option.bind_eq_some_iff.mp stored
    cases (List.mem_replicate.mp (List.mem_of_getElem? present)).2
    cases inside
  arrived _ _ _ published := by cases published

theorem Serves.consume {move : Kafka.Move Payload} (serves : Serves outboxes lost topic group)
    (taken : group.next move = some after) (reads : ∀ place record, move ≠ .produce place record) :
    Serves outboxes lost topic after := by
  have partitions := next_partitions taken reads
  have messages (partition offset : Nat) : after.messageAt partition offset = group.messageAt partition offset := by
    unfold Group.messageAt
    rw [partitions]
  refine ⟨?_,serves.genuine.next taken,fun partition offset message found => ?_,fun source id record published isTopic => ?_⟩
  · rw [partitions]
    exact serves.sized
  · exact serves.logged partition offset message ((messages partition offset).symm.trans found)
  · refine (serves.arrived source id record published isTopic).imp_right fun logged => ?_
    obtain ⟨partition,offset,found⟩ := logged
    exact ⟨partition,offset,(messages partition offset).trans found⟩

variable [DecidableEq Source] {source : Source} {cluster : Outbox.Cluster Payload}

theorem stored_update {other : Source} {id : Nat} {record : Outbox.Record Payload}
    (grows : Outbox.Extends (outboxes source) cluster) (stored : Outbox.Stored (outboxes other).store id record) :
    Outbox.Stored (Function.update outboxes source cluster other).store id record := by
  by_cases same : other = source
  · subst same
    rw [Function.update_self]
    exact grows.rows _ _ stored
  · rw [Function.update_of_ne same]
    exact stored

private theorem arrived_update (grown : lost ⊆ more)
    (kept : ∀ record : Record Payload, group.Logged record → after.Logged record)
    (before : ∀ source id record, Outbox.Published (outboxes source) id record → record.topic = topic →
      (source,id) ∈ lost ∨ group.Logged ⟨record.key,record.payload⟩)
    (arrived : ∀ id record, Outbox.Published cluster id record → record.topic = topic →
      Outbox.Published (outboxes source) id record ∨ (source,id) ∈ more ∨ after.Logged ⟨record.key,record.payload⟩)
    (other : Source) (id : Nat) (record : Outbox.Record Payload)
    (published : Outbox.Published (Function.update outboxes source cluster other) id record)
    (isTopic : record.topic = topic) : (other,id) ∈ more ∨ after.Logged ⟨record.key,record.payload⟩ := by
  have old (published : Outbox.Published (outboxes other) id record) :
      (other,id) ∈ more ∨ after.Logged ⟨record.key,record.payload⟩ :=
    (before other id record published isTopic).imp (fun member => grown member) (kept _)
  by_cases same : other = source
  · subst same
    rw [Function.update_self] at published
    exact (arrived id record published isTopic).elim old fun either => either
  · rw [Function.update_of_ne same] at published
    exact old published

theorem Serves.extend {id : Nat} {record : Outbox.Record Payload} (serves : Serves outboxes lost topic group)
    (grown : lost ⊆ more) (grows : Outbox.Extends (outboxes source) cluster)
    (stored : Outbox.Stored (outboxes source).store id record)
    (isTopic : record.topic = topic) (extended : group.Extended after ⟨record.key,record.payload⟩)
    (arrived : ∀ id record, Outbox.Published cluster id record → record.topic = topic →
      Outbox.Published (outboxes source) id record ∨ (source,id) ∈ more ∨ after.Logged ⟨record.key,record.payload⟩) :
    Serves (Function.update outboxes source cluster) more topic after := by
  refine ⟨extended.size.trans serves.sized,extended.genuine serves.genuine,?_,?_⟩
  · intro partition offset message found
    rcases extended.origin partition offset message found with old | ⟨key,value⟩
    · obtain ⟨other,id,stored⟩ := serves.logged partition offset message old
      exact ⟨other,id,stored_update grows stored⟩
    · refine ⟨source,id,?_⟩
      rw [key,value,← isTopic]
      exact stored_update grows stored
  · exact arrived_update grown extended.kept serves.arrived arrived

theorem Serves.grow (serves : Serves outboxes lost topic group) (grown : lost ⊆ more)
    (grows : Outbox.Extends (outboxes source) cluster)
    (arrived : ∀ id record, Outbox.Published cluster id record → record.topic = topic →
      Outbox.Published (outboxes source) id record) :
    Serves (Function.update outboxes source cluster) more topic group := by
  refine ⟨serves.sized,serves.genuine,?_,?_⟩
  · intro partition offset message found
    obtain ⟨other,id,stored⟩ := serves.logged partition offset message found
    exact ⟨other,id,stored_update grows stored⟩
  · exact arrived_update grown (fun _ => id) serves.arrived fun id record published isTopic =>
      .inl (arrived id record published isTopic)

end Serving

section Moves
variable [DecidableEq Source] [DecidableEq Subscriber] {topic : Subscriber → String}
variable {bus after : Bus Source Subscriber Payload} {move : Move Source Subscriber Payload}

theorem next_cases (taken : bus.next topic move = some after) :
    (∃ source moved cluster, move = .relay source moved [] ∧ (bus.outboxes source).next moved = some cluster ∧
      (bus.outboxes source).sent cluster = none ∧ after = bus.setOutbox source cluster) ∨
    (∃ source moved cluster call places, move = .relay source moved places ∧
      (bus.outboxes source).next moved = some cluster ∧ (bus.outboxes source).sent cluster = some call ∧
      (∀ place ∈ places, place < topicPartitions) ∧
      after = (bus.setOutbox source cluster).publish topic source call places) ∨
    ∃ subscriber moved group, move = .consume subscriber moved ∧ (∀ place record, moved ≠ .produce place record) ∧
      (bus.groups subscriber).next moved = some group ∧ after = bus.setGroup subscriber group := by
  cases move with
  | relay source moved places =>
    simp only [Bus.next] at taken
    obtain ⟨cluster,isNext,rest⟩ := Option.bind_eq_some_iff.mp taken
    split at rest
    · rename_i nothing
      split at rest
      · rename_i empty
        subst empty
        cases rest
        exact .inl ⟨source,moved,cluster,rfl,isNext,nothing,rfl⟩
      · cases rest
    · rename_i call sent
      split at rest
      · rename_i allowed
        cases rest
        exact .inr (.inl ⟨source,moved,cluster,call,places,rfl,isNext,sent,allowed.2,rfl⟩)
      · cases rest
  | consume subscriber moved =>
    cases moved with
    | produce place record => cases taken
    | _ =>
      obtain ⟨group,isGroup,rfl⟩ := Option.map_eq_some_iff.mp taken
      exact .inr (.inr ⟨subscriber,_,group,rfl,fun _ _ is => (by cases is),isGroup,rfl⟩)

omit [DecidableEq Subscriber] in
theorem Faithful.setOutbox {source : Source} {cluster : Outbox.Cluster Payload} {groups : Subscriber → Group Payload}
    {lost : List (Source × Nat)} (faithful : bus.Faithful topic) (sound : Outbox.Sound cluster)
    (serves : ∀ subscriber,
      Serves (Function.update bus.outboxes source cluster) lost (topic subscriber) (groups subscriber)) :
    Faithful topic ⟨Function.update bus.outboxes source cluster,groups,lost⟩ := by
  refine ⟨fun other => ?_,serves⟩
  simp only
  by_cases same : other = source
  · subst same
    rw [Function.update_self]
    exact sound
  · rw [Function.update_of_ne same]
    exact faithful.outboxes other

omit [DecidableEq Source] in
theorem Faithful.setGroup {subscriber : Subscriber} {group : Group Payload} (faithful : bus.Faithful topic)
    (serves : Serves bus.outboxes bus.lost (topic subscriber) group) : (bus.setGroup subscriber group).Faithful topic := by
  refine ⟨faithful.outboxes,fun other => ?_⟩
  simp only [Bus.setGroup]
  by_cases same : other = subscriber
  · subst same
    rw [Function.update_self]
    exact serves
  · rw [Function.update_of_ne same]
    exact faithful.groups other

omit [DecidableEq Source] [DecidableEq Subscriber] in
theorem lost_publish (topic : Subscriber → String) (bus : Bus Source Subscriber Payload) (source : Source) (call : Outbox.Publication Payload) (places : List Nat) :
    bus.lost ⊆ (bus.publish topic source call places).lost ∧
      (places = [] → call.reply = .ok () → (source,call.id) ∈ (bus.publish topic source call places).lost) := by
  simp only [publish]
  split
  · exact ⟨fun _ => List.mem_cons_of_mem _,fun _ _ => List.mem_cons_self⟩
  · rename_i other
    exact ⟨fun _ => id,fun nowhere acknowledged => (other _ nowhere acknowledged).elim⟩

theorem Faithful.next (faithful : bus.Faithful topic) (taken : bus.next topic move = some after) :
    after.Faithful topic := by
  rcases next_cases taken with ⟨source,moved,cluster,_,isNext,nothing,rfl⟩ |
    ⟨source,moved,cluster,call,places,_,isNext,sent,inside,rfl⟩ | ⟨subscriber,moved,group,_,reads,isNext,rfl⟩
  · obtain ⟨grows,sound⟩ := Outbox.Cluster.next_sound (faithful.outboxes source) isNext
    obtain ⟨reports,_⟩ := Outbox.Cluster.next_sent (faithful.outboxes source) isNext
    refine faithful.setOutbox sound fun subscriber => (faithful.groups subscriber).grow (fun _ => id) grows ?_
    intro id record published _
    rcases reports id record published with old | sent
    · exact old
    · cases nothing.symm.trans sent
  · obtain ⟨grows,sound⟩ := Outbox.Cluster.next_sound (faithful.outboxes source) isNext
    obtain ⟨reports,stored⟩ := Outbox.Cluster.next_sent (faithful.outboxes source) isNext
    have isStored := stored call sent
    obtain ⟨grown,loses⟩ := lost_publish topic (bus.setOutbox source cluster) source call places
    refine faithful.setOutbox sound fun subscriber => ?_
    have serves := faithful.groups subscriber
    by_cases isTopic : topic subscriber = call.record.topic
    · rw [if_pos isTopic]
      refine serves.extend grown grows isStored isTopic.symm (produceAll_extended ..) fun id record published _ => ?_
      refine (reports id record published).imp_right fun isSent => ?_
      cases sent.symm.trans isSent
      by_cases nowhere : places = []
      · exact .inl (loses nowhere rfl)
      · exact .inr (logged_produceAll nowhere (fun place member => serves.sized.symm ▸ inside place member) _)
    · rw [if_neg isTopic]
      refine serves.grow grown grows fun id record published otherTopic => ?_
      rcases reports id record published with old | isSent
      · exact old
      · cases sent.symm.trans isSent
        exact absurd otherTopic.symm isTopic
  · exact faithful.setGroup ((faithful.groups subscriber).consume isNext reads)

theorem faithful_of_path {guard : Bus Source Subscriber Payload → Move Source Subscriber Payload → Prop}
    (path : Path (Bus.next topic) guard .initial bus) : bus.Faithful topic := by
  refine path.invariant (Faithful topic) ⟨fun _ => Outbox.sound_of_path .refl,fun _ => .initial _⟩ ?_
  intro bus move after _ faithful _ taken
  exact faithful.next taken

/-- Consumers in whose groups handlers succeed, nothing in hand is dropped and offsets are
flushed only while nothing is on its way. -/
def Careful (bus : Bus Source Subscriber Payload) : Move Source Subscriber Payload → Prop
  | .relay .. => True
  | .consume subscriber move => Cautious (bus.groups subscriber) move

instance (bus : Bus Source Subscriber Payload) : (move : Move Source Subscriber Payload) → Decidable (bus.Careful move)
  | .relay .. => inferInstanceAs (Decidable True)
  | .consume subscriber move => inferInstanceAs (Decidable (Cautious (bus.groups subscriber) move))

theorem sound_of_path (path : Path (Bus.next topic) Careful .initial bus) (subscriber : Subscriber) :
    Sound (bus.groups subscriber) := by
  refine path.invariant (fun bus => Sound (bus.groups subscriber)) (.initial _) ?_
  intro bus move after _ sound careful taken
  rcases next_cases taken with ⟨source,moved,cluster,_,_,_,rfl⟩ |
    ⟨source,moved,cluster,call,places,_,_,_,_,rfl⟩ | ⟨other,moved,group,rfl,_,isNext,rfl⟩
  · exact sound
  · change Sound (if topic subscriber = call.record.topic then _ else _)
    split
    · exact (produceAll_extended ..).sound sound
    · exact sound
  · change Sound (Function.update bus.groups other group subscriber)
    by_cases same : subscriber = other
    · subst same
      rw [Function.update_self]
      exact next_sound sound careful isNext
    · rw [Function.update_of_ne same]
      exact sound

end Moves
end Bus

/-- The group has committed everything that its topic has. -/
def Group.CaughtUp {Payload : Type} (group : Group Payload) : Prop :=
  ∀ partition records, group.partitions[partition]? = some records → records.length ≤ group.committed partition

section EndToEnd
variable {Source Subscriber Payload : Type} [DecidableEq Source] [DecidableEq Subscriber]

/-- Whatever is lost, repeated or reordered on the way, no handler is ever called with
anything but the topic, key and payload of a row that was committed to some table. -/
theorem handled_was_committed (topic : Subscriber → String) (bus : Bus Source Subscriber Payload)
    (path : Path (Bus.next topic) Anything .initial bus) :
    ∀ subscriber, ∀ call ∈ (bus.groups subscriber).handled, ∃ source, ∃ row ∈ (bus.outboxes source).store.rows.rows,
      row.message = ⟨topic subscriber,call.message.key,call.message.value⟩ := by
  intro subscriber call member
  have serves := (Bus.faithful_of_path path).groups subscriber
  obtain ⟨source,id,row,stored,_,content⟩ := serves.logged _ _ _ (serves.genuine.handled call member)
  exact ⟨source,row,stored,content⟩

/-- A row that is marked as delivered has been handled, with success, in every group on its
topic that has committed all its topic has, unless a `Produce` of it was acknowledged and lost. -/
theorem delivered_end_to_end (topic : Subscriber → String) (bus : Bus Source Subscriber Payload)
    (path : Path (Bus.next topic) Bus.Careful .initial bus) (subscriber : Subscriber)
    (caughtUp : (bus.groups subscriber).CaughtUp) :
    ∀ source, ∀ row ∈ (bus.outboxes source).store.rows.rows, row.delivered = true → row.message.topic = topic subscriber →
      (source,row.id) ∉ bus.lost → ∃ call ∈ (bus.groups subscriber).handled, call.outcome = .ok () ∧ call.message.key = row.message.key ∧
        call.message.value = row.message.payload := by
  intro source row stored delivered isTopic kept
  have faithful := Bus.faithful_of_path path
  have published := (faithful.outboxes source).delivered row stored delivered
  obtain ⟨partition,offset,found⟩ :=
    ((faithful.groups subscriber).arrived source row.id row.message published isTopic).resolve_left kept
  -- the place of the message lies below the committed offset of its partition
  have below : offset < (bus.groups subscriber).committed partition := by
    obtain ⟨_,inLog,_⟩ := Option.map_eq_some_iff.mp found
    obtain ⟨records,present,inside⟩ := Option.bind_eq_some_iff.mp inLog
    exact lt_of_lt_of_le (List.getElem?_eq_some_iff.mp inside).1 (caughtUp partition records present)
  obtain ⟨message,isMessage,handled⟩ := (Bus.sound_of_path path subscriber).committed partition offset below
  cases found.symm.trans isMessage
  exact ⟨_,handled,rfl,rfl,rfl⟩

/-- One row, published with a lost reply and then once more, read by two groups. -/
def broadcast : List (Bus.Move Unit Bool Nat) :=
  [.relay () (.insert "t" "a" (some 7) .none) [],.relay () (.launch 1) [],.relay () (.query 0 .none []) [],
    .relay () (.send 0) [],.relay () (.receive 0 0) [],.relay () (.work 0 0 (.broken 0)) [1,3],.relay () (.close 0) [],
    .relay () (.receive 0 0) [],.relay () (.wait 0) [],.relay () (.query 0 .none []) [],.relay () (.send 0) [],
    .relay () (.receive 0 0) [],.relay () (.work 0 0 .none) [1],.relay () (.work 0 0 .none) []] ++
  [true,false].flatMap fun group => ([.start 1,.read 3,.send,.receive 0,.handle 0 (.ok ()),.read 1,.send,.receive 0,
    .handle 0 (.ok ()),.read 1,.send,.receive 0,.handle 0 (.ok ()),.flush 1,.flush 3].map (.consume group))

theorem handled_was_committed_broadcast : ∃ bus : Bus Unit Bool Nat,
    Path (Bus.next fun _ => "t") Anything .initial bus ∧ (bus.groups true).handled.length = 3 ∧
    ∀ subscriber, ∀ call ∈ (bus.groups subscriber).handled, ∃ source, ∃ row ∈ (bus.outboxes source).store.rows.rows,
      row.message = ⟨"t",call.message.key,call.message.value⟩ := by
  obtain ⟨bus,path,handled⟩ := exists_path_of_follow (Bus.next fun _ => "t") Anything broadcast .initial
    (fun bus => (bus.groups true).handled.length = 3) (by decide +kernel)
  exact ⟨bus,path,of_decide_eq_true handled,handled_was_committed _ bus path⟩

theorem delivered_end_to_end_broadcast : ∃ bus : Bus Unit Bool Nat,
    Path (Bus.next fun _ => "t") Bus.Careful .initial bus ∧
    (bus.outboxes ()).store.rows.rows = [⟨0,⟨"t","a",7⟩,true⟩] ∧ bus.lost = [] ∧
    ∀ subscriber, (bus.groups subscriber).CaughtUp ∧
    ∀ source, ∀ row ∈ (bus.outboxes source).store.rows.rows, row.delivered = true → row.message.topic = "t" →
      (source,row.id) ∉ bus.lost → ∃ call ∈ (bus.groups subscriber).handled, call.outcome = .ok () ∧ call.message.key = row.message.key ∧
        call.message.value = row.message.payload := by
  obtain ⟨bus,path,outcome⟩ := exists_path_of_follow (Bus.next fun _ => "t") Bus.Careful broadcast .initial
    (fun bus => decide ((bus.outboxes ()).store.rows.rows = [⟨0,⟨"t","a",7⟩,true⟩] ∧ bus.lost = []) && [true,false].all fun group =>
      (List.range 4).all fun partition => (bus.groups group).partitions.length ≤ 4 &&
        ((bus.groups group).partitions[partition]?.all fun records =>
          decide (records.length ≤ (bus.groups group).committed partition))) (by decide +kernel)
  simp only [Bool.and_eq_true,decide_eq_true_eq,List.all_eq_true,List.mem_range,Option.all_eq_true] at outcome
  have caughtUp (subscriber : Bool) : (bus.groups subscriber).CaughtUp := by
    intro partition records present
    have inside := (List.getElem?_eq_some_iff.mp present).1
    have each := outcome.2 subscriber (by cases subscriber <;> simp)
    have size := (each 0 (by decide)).1
    exact (each partition (by omega)).2 records present
  exact ⟨bus,path,outcome.1.1,outcome.1.2,fun subscriber => ⟨caughtUp subscriber,
    delivered_end_to_end _ bus path subscriber (caughtUp subscriber)⟩⟩

end EndToEnd

end Ticketbus.Kafka
