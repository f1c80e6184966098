import Ticketbus.Outbox
import Ticketbus.Concurrency.Crew
import Ticketbus.Concurrency.Path

/-! Any number of workers over one outbox table, each with its own goroutines, next to
any number of inserts. A statement may be refused, or applied with its reply lost; a
worker may stop anywhere. The trace context of a row, which only reaches the headers of
its message, is left out. -/
namespace Ticketbus.Outbox
open Ticketbus.Concurrency Ticketbus.Relational
variable {Payload : Type}

/-- What `Insert` stores and `Produce` sends; the payload is a JSON value. -/
structure Record (Payload : Type) where
  topic : String
  key : String
  payload : Payload
  deriving DecidableEq, Repr

abbrev Entry (Payload : Type) := Row (Record Payload)

/-- Where a goroutine is with the row it has received. -/
inductive Stage (Payload : Type) where
  | publish (row : Entry Payload)
  | mark (row : Entry Payload)
  deriving DecidableEq, Repr

/-- `processBatch` after its query: the rows it still has to send, and its goroutines. -/
structure Batch (Payload : Type) where
  unsent : List (Entry Payload)
  crew : Crew (Entry Payload) (Stage Payload)

structure Worker (Payload : Type) where
  concurrency : Nat
  batch : Option (Batch Payload)
  stopped : Bool

/-- `NewWorker`. -/
def newWorker (concurrency : Int) : Worker Payload := ⟨(if concurrency < 1 then 1 else concurrency).toNat,none,false⟩

/-- A call of `Produce`, with the id of the row it was made for. -/
structure Publication (Payload : Type) where
  id : Nat
  record : Record Payload
  reply : Except DbError Unit

/-- The table, the workers, the inserts that have returned nil and the calls of `Produce`. -/
structure Cluster (Payload : Type) where
  store : Store (Record Payload)
  workers : List (Worker Payload)
  inserted : List (Record Payload)
  publications : List (Publication Payload)

def Cluster.initial : Cluster Payload := ⟨.empty,[],[],[]⟩

inductive Move (Payload : Type) where
  /-- `Insert`, with the payload that `json.Marshal` gives, if it does. -/
  | insert (topic key : String) (payload : Option Payload) (fault : Fault)
  | launch (concurrency : Int)
  /-- A tick of a worker, with the rows that its `Scan` fails on. -/
  | query (worker : Nat) (fault : Fault) (unscanned : List Nat)
  | send (worker : Nat)
  | close (worker : Nat)
  | receive (worker hand : Nat)
  | work (worker hand : Nat) (fault : Fault)
  | wait (worker : Nat)
  | stop (worker : Nat)

namespace Cluster

def batchAt (cluster : Cluster Payload) (index : Nat) : Option (Worker Payload × Batch Payload) :=
  match cluster.workers[index]? with
  | some worker => if worker.stopped then none else worker.batch.map fun batch => (worker,batch)
  | none => none

def setWorker (cluster : Cluster Payload) (index : Nat) (worker : Worker Payload) : Cluster Payload :=
  {cluster with workers := cluster.workers.set index worker}

def setCrew (cluster : Cluster Payload) (index : Nat) (worker : Worker Payload) (batch : Batch Payload)
    (crew : Crew (Entry Payload) (Stage Payload)) : Cluster Payload :=
  cluster.setWorker index {worker with batch := some {batch with crew := crew}}

/-- The query and the scan loop of `processBatch`; goroutines are only started for a row. -/
def query (cluster : Cluster Payload) (index : Nat) (worker : Worker Payload) (fault : Fault)
    (unscanned : List Nat) : Cluster Payload :=
  match (stream fault cluster.store cluster.store.undelivered).1 with
  | .error _ => cluster
  | .ok rows =>
    match rows.items.filter fun row => row.id ∉ unscanned with
    | [] => cluster
    | row :: rest => cluster.setWorker index
        {worker with batch := some ⟨row :: rest,.muster (row :: rest).length worker.concurrency⟩}

/-- `publish` of a row: a failure sends the goroutine back to the channel. -/
def publish (cluster : Cluster Payload) (index hand : Nat) (worker : Worker Payload) (batch : Batch Payload)
    (row : Entry Payload) (fault : Fault) : Cluster Payload :=
  let outcome := Relational.send fault cluster.store (cluster.store.produce row.message)
  let next : Hand (Stage Payload) :=
    match outcome.1 with
    | .error _ => .receiving
    | .ok _ => .busy (.mark row)
  {cluster with
    store := outcome.2
    publications := ⟨row.id,row.message,outcome.1⟩ :: cluster.publications}.setCrew
      index worker batch (batch.crew.proceed hand next)

/-- The UPDATE of a published row, whose error is only logged. -/
def mark (cluster : Cluster Payload) (index hand : Nat) (worker : Worker Payload) (batch : Batch Payload)
    (row : Entry Payload) (fault : Fault) : Cluster Payload :=
  {cluster with store := (Relational.send fault cluster.store (cluster.store.markDelivered row.id)).2}.setCrew
    index worker batch (batch.crew.proceed hand .receiving)

/-- `Insert`. -/
def insert (cluster : Cluster Payload) (record : Record Payload) (fault : Fault) : Cluster Payload :=
  let outcome := Relational.send fault cluster.store (cluster.store.insert record)
  {cluster with
    store := outcome.2
    inserted :=
      match outcome.1 with
      | .error _ => cluster.inserted
      | .ok _ => cluster.inserted ++ [record]}

def next (cluster : Cluster Payload) : Move Payload → Option (Cluster Payload)
  | .insert topic key payload fault =>
    some (payload.elim cluster fun payload => cluster.insert ⟨topic,key,payload⟩ fault)
  | .launch concurrency => some {cluster with workers := cluster.workers ++ [newWorker concurrency]}
  | .query index fault unscanned =>
    match cluster.workers[index]? with
    | some ⟨concurrency,none,false⟩ => some (cluster.query index ⟨concurrency,none,false⟩ fault unscanned)
    | _ => none
  | .send index =>
    match cluster.batchAt index with
    | some (worker,⟨row :: unsent,crew⟩) =>
      (crew.send row).map fun crew => cluster.setWorker index {worker with batch := some ⟨unsent,crew⟩}
    | _ => none
  | .close index =>
    match cluster.batchAt index with
    | some (worker,⟨[],crew⟩) =>
      if crew.jobs.closed then none else some (cluster.setCrew index worker ⟨[],crew⟩ crew.close)
    | _ => none
  | .receive index hand =>
    match cluster.batchAt index with
    | some (worker,batch) => (batch.crew.receive .publish hand).map (cluster.setCrew index worker batch)
    | none => none
  | .work index hand fault =>
    match cluster.batchAt index with
    | some (worker,batch) =>
      match batch.crew.jobAt hand with
      | some (.publish row) => some (cluster.publish index hand worker batch row fault)
      | some (.mark row) => some (cluster.mark index hand worker batch row fault)
      | none => none
    | none => none
  | .wait index =>
    match cluster.batchAt index with
    | some (worker,batch) =>
      if batch.crew.dismissed then some (cluster.setWorker index {worker with batch := none}) else none
    | none => none
  | .stop index =>
    match cluster.workers[index]? with
    | some worker => some (cluster.setWorker index {worker with batch := none,stopped := true})
    | none => none

end Cluster

/-! What is kept: rows stay as they were inserted, and a row is marked only after a call
of `Produce` for it has returned nil. -/

def Stored (store : Store (Record Payload)) (id : Nat) (record : Record Payload) : Prop :=
  ∃ row ∈ store.rows.rows, row.id = id ∧ row.message = record

/-- A call of `Produce` for the row has returned nil. -/
def Published (cluster : Cluster Payload) (id : Nat) (record : Record Payload) : Prop :=
  ⟨id,record,.ok ()⟩ ∈ cluster.publications

structure Extends (before after : Cluster Payload) : Prop where
  rows : ∀ id record, Stored before.store id record → Stored after.store id record
  publications : ∀ id record, Published before id record → Published after id record

namespace Extends

theorem refl (cluster : Cluster Payload) : Extends cluster cluster := ⟨fun _ _ => id,fun _ _ => id⟩

theorem trans {first middle last : Cluster Payload} (before : Extends first middle) (after : Extends middle last) :
    Extends first last :=
  ⟨fun id record stored => after.rows id record (before.rows id record stored),
    fun id record published => after.publications id record (before.publications id record published)⟩

end Extends

def Stage.Ready (cluster : Cluster Payload) : Stage Payload → Prop
  | .publish row => Stored cluster.store row.id row.message
  | .mark row => Published cluster row.id row.message

def Batch.Ready (cluster : Cluster Payload) (batch : Batch Payload) : Prop :=
  (∀ row ∈ batch.unsent, Stored cluster.store row.id row.message) ∧
    batch.crew.Each (fun row => Stored cluster.store row.id row.message) (Stage.Ready cluster)

structure Sound (cluster : Cluster Payload) : Prop where
  delivered : ∀ row ∈ cluster.store.rows.rows, row.delivered = true → Published cluster row.id row.message
  publications : ∀ call ∈ cluster.publications, Stored cluster.store call.id call.record
  inserted : cluster.inserted.Sublist cluster.store.messages
  workers : ∀ worker ∈ cluster.workers, ∀ batch ∈ worker.batch, batch.Ready cluster

theorem Batch.Ready.later {before after : Cluster Payload} {batch : Batch Payload} (ready : batch.Ready before)
    (grows : Extends before after) : batch.Ready after := by
  refine ⟨fun row member => grows.rows _ _ (ready.1 row member),ready.2.mono (fun row => grows.rows _ _) ?_⟩
  intro stage known
  cases stage with
  | publish row => exact grows.rows _ _ known
  | mark row => exact grows.publications _ _ known

section Table
variable {store : Store (Record Payload)} {id : Nat} {record : Record Payload}

theorem mem_insert {new : Record Payload} {row : Entry Payload} :
    row ∈ (store.insert new).rows.rows ↔ row ∈ store.rows.rows ∨ row = ⟨store.serial,new,false⟩ := by
  simp [Store.insert]

theorem Stored.insert (stored : Stored store id record) (new : Record Payload) :
    Stored (store.insert new) id record := by
  obtain ⟨row,member,same⟩ := stored
  exact ⟨row,mem_insert.mpr (.inl member),same⟩

theorem mem_markDelivered {marked : Nat} {row : Entry Payload}
    (member : row ∈ (store.markDelivered marked).rows.rows) :
    ∃ old ∈ store.rows.rows, old.id = row.id ∧ old.message = row.message ∧
      (row.delivered = true → old.delivered = true ∨ old.id = marked) := by
  unfold Store.markDelivered at member
  split at member
  · exact ⟨row,member,rfl,rfl,.inl⟩
  · rename_i old found
    rcases (Table.mem_replace ..).mp member with ⟨same,_⟩ | ⟨rfl,_⟩
    · exact ⟨row,same,rfl,rfl,.inl⟩
    · exact ⟨old,Table.find?_mem found,rfl,rfl,fun _ => .inr (Table.find?_key found)⟩

theorem Stored.markDelivered (stored : Stored store id record) (marked : Nat) :
    Stored (store.markDelivered marked) id record := by
  obtain ⟨row,member,rfl,rfl⟩ := stored
  unfold Store.markDelivered
  split
  · exact ⟨row,member,rfl,rfl⟩
  · rename_i old found
    by_cases same : row.id = old.id
    · have this : row = old := by
        have present := Table.find?_of_mem member
        rw [same,Table.find?_key found,found] at present
        exact (Option.some.inj present).symm
      subst this
      have present : (store.rows.find? row.id).isSome := Table.isSome_of_mem member
      exact ⟨{row with delivered := true},(Table.mem_replace ..).mpr (.inr ⟨rfl,present⟩),rfl,rfl⟩
    · exact ⟨row,(Table.mem_replace ..).mpr (.inl ⟨member,same⟩),rfl,rfl⟩

end Table

namespace Cluster
variable {cluster after : Cluster Payload}

theorem batchAt_mem {index : Nat} {worker : Worker Payload} {batch : Batch Payload}
    (found : cluster.batchAt index = some (worker,batch)) : worker ∈ cluster.workers ∧ batch ∈ worker.batch := by
  unfold batchAt at found
  split at found
  · rename_i present
    split at found
    · cases found
    · obtain ⟨_,is,same⟩ := Option.map_eq_some_iff.mp found
      cases same
      exact ⟨List.mem_of_getElem? present,is⟩
  · cases found

theorem sound_setWorker {index : Nat} {worker : Worker Payload} (sound : Sound cluster)
    (ready : ∀ batch ∈ worker.batch, batch.Ready cluster) : Sound (cluster.setWorker index worker) := by
  refine ⟨sound.delivered,sound.publications,sound.inserted,fun other member batch is => ?_⟩
  rcases List.mem_or_eq_of_mem_set member with old | rfl
  · exact sound.workers other old batch is
  · exact ready batch is

theorem extends_setWorker (index : Nat) (worker : Worker Payload) :
    Extends cluster (cluster.setWorker index worker) := ⟨fun _ _ => id,fun _ _ => id⟩

theorem batch_ready {index : Nat} {worker : Worker Payload} {batch : Batch Payload} (sound : Sound cluster)
    (found : cluster.batchAt index = some (worker,batch)) : batch.Ready cluster := by
  obtain ⟨member,is⟩ := batchAt_mem found
  exact sound.workers worker member batch is

theorem setBatch_sound (sound : Sound cluster) (index : Nat) (worker : Worker Payload) {batch : Batch Payload}
    (ready : batch.Ready cluster) :
    Extends cluster (cluster.setWorker index {worker with batch := some batch}) ∧
      Sound (cluster.setWorker index {worker with batch := some batch}) := by
  refine ⟨extends_setWorker ..,sound_setWorker sound fun other is => ?_⟩
  cases is
  exact ready

theorem sound_extended (sound : Sound cluster) (grows : Extends cluster after) (same : after.workers = cluster.workers)
    (delivered : ∀ row ∈ after.store.rows.rows, row.delivered = true → Published after row.id row.message)
    (publications : ∀ call ∈ after.publications, Stored after.store call.id call.record)
    (inserted : after.inserted.Sublist after.store.messages) : Sound after := by
  refine ⟨delivered,publications,inserted,fun worker member batch is => ?_⟩
  exact (sound.workers worker (same ▸ member) batch is).later grows

theorem insert_sound (sound : Sound cluster) (record : Record Payload) (fault : Fault) :
    Extends cluster (cluster.insert record fault) ∧ Sound (cluster.insert record fault) := by
  have grows : Extends cluster {cluster with store := cluster.store.insert record} :=
    ⟨fun _ _ stored => stored.insert record,fun _ _ => id⟩
  have undelivered (row : Entry Payload) (member : row ∈ (cluster.store.insert record).rows.rows)
      (delivered : row.delivered = true) : Published cluster row.id row.message := by
    rcases mem_insert.mp member with old | rfl
    · exact sound.delivered row old delivered
    · cases delivered
  have published (call : Publication Payload) (member : call ∈ cluster.publications) :=
    (sound.publications call member).insert record
  cases fault with
  | none =>
    refine ⟨⟨grows.rows,grows.publications⟩,sound_extended sound ⟨grows.rows,grows.publications⟩ rfl undelivered published ?_⟩
    change (cluster.inserted ++ [record]).Sublist (cluster.store.insert record).messages
    rw [Store.messages_insert]
    exact sound.inserted.append (.refl _)
  | fail => exact ⟨.refl cluster,sound⟩
  | broken count =>
    refine ⟨⟨grows.rows,grows.publications⟩,sound_extended sound ⟨grows.rows,grows.publications⟩ rfl undelivered published ?_⟩
    change cluster.inserted.Sublist (cluster.store.insert record).messages
    rw [Store.messages_insert]
    exact sound.inserted.trans (List.sublist_append_left ..)

theorem query_sound (sound : Sound cluster) (index : Nat) (worker : Worker Payload) (fault : Fault)
    (unscanned : List Nat) : Extends cluster (cluster.query index worker fault unscanned) ∧
      Sound (cluster.query index worker fault unscanned) := by
  unfold query
  split
  · exact ⟨.refl cluster,sound⟩
  rename_i rows read
  split
  · exact ⟨.refl cluster,sound⟩
  rename_i row rest scanned
  refine setBatch_sound sound index worker ⟨fun other member => ?_,.muster ..⟩
  have inside : other ∈ rows.items := List.mem_of_mem_filter (scanned ▸ member)
  exact ⟨other,(Store.undelivered_stored ((stream_part read).subset inside)).1,rfl,rfl⟩

section Hands
variable {index hand : Nat} {worker : Worker Payload} {batch : Batch Payload} {row : Entry Payload}

theorem setCrew_sound {middle : Cluster Payload} {next : Hand (Stage Payload)} (grown : Extends cluster middle)
    (sound : Sound middle) (ready : batch.Ready cluster) (known : ∀ stage, next = .busy stage → stage.Ready middle) :
    Extends cluster (middle.setCrew index worker batch (batch.crew.proceed hand next)) ∧
      Sound (middle.setCrew index worker batch (batch.crew.proceed hand next)) := by
  refine ⟨grown.trans (extends_setWorker ..),sound_setWorker sound fun other is => ?_⟩
  cases is
  obtain ⟨unsent,each⟩ := ready.later grown
  exact ⟨unsent,each.proceed known⟩

theorem call_sound (sound : Sound cluster) (known : Stored cluster.store row.id row.message)
    (store : Store (Record Payload)) (rows : store.rows = cluster.store.rows) (reply : Except DbError Unit) :
    Extends cluster {cluster with
      store := store
      publications := ⟨row.id,row.message,reply⟩ :: cluster.publications} ∧
    Sound {cluster with
      store := store
      publications := ⟨row.id,row.message,reply⟩ :: cluster.publications} := by
  have kept (id : Nat) (record : Record Payload) (stored : Stored cluster.store id record) : Stored store id record := by
    unfold Stored
    rw [rows]
    exact stored
  have grows : Extends cluster {cluster with
      store := store
      publications := ⟨row.id,row.message,reply⟩ :: cluster.publications} :=
    ⟨kept,fun _ _ published => List.mem_cons_of_mem _ published⟩
  refine ⟨grows,sound_extended sound grows rfl ?_ ?_ ?_⟩
  · intro other member delivered
    exact List.mem_cons_of_mem _ (sound.delivered other (rows ▸ member) delivered)
  · intro call member
    rcases List.mem_cons.mp member with rfl | old
    · exact kept _ _ known
    · exact kept _ _ (sound.publications call old)
  · unfold Store.messages
    rw [rows]
    exact sound.inserted

theorem publish_sound (sound : Sound cluster) (ready : batch.Ready cluster)
    (known : Stored cluster.store row.id row.message) (fault : Fault) :
    Extends cluster (cluster.publish index hand worker batch row fault) ∧
      Sound (cluster.publish index hand worker batch row fault) := by
  cases fault with
  | none =>
    obtain ⟨grown,sound⟩ := call_sound sound known (cluster.store.produce row.message) rfl (.ok ())
    refine setCrew_sound grown sound ready fun stage is => ?_
    cases is
    exact List.mem_cons_self
  | fail =>
    obtain ⟨grown,sound⟩ := call_sound sound known cluster.store rfl (.error .connection)
    exact setCrew_sound grown sound ready fun stage is => (nomatch is)
  | broken count =>
    obtain ⟨grown,sound⟩ := call_sound sound known (cluster.store.produce row.message) rfl (.error .connection)
    exact setCrew_sound grown sound ready fun stage is => (nomatch is)

theorem mark_sound (sound : Sound cluster) (ready : batch.Ready cluster)
    (published : Published cluster row.id row.message) (fault : Fault) :
    Extends cluster (cluster.mark index hand worker batch row fault) ∧
      Sound (cluster.mark index hand worker batch row fault) := by
  have grows : Extends cluster {cluster with store := cluster.store.markDelivered row.id} :=
    ⟨fun _ _ stored => stored.markDelivered row.id,fun _ _ => id⟩
  have marked : Sound {cluster with store := cluster.store.markDelivered row.id} := by
    refine sound_extended sound grows rfl ?_ (fun call member => (sound.publications call member).markDelivered row.id) ?_
    · intro other member delivered
      obtain ⟨old,stored,same,message,origin⟩ := mem_markDelivered member
      rw [← same,← message]
      rcases origin delivered with before | this
      · exact sound.delivered old stored before
      · -- the record on file for the id is the one that was published
        obtain ⟨copy,inside,(key : copy.id = row.id),(content : copy.message = row.message)⟩ :=
          sound.publications _ published
        have equal : old = copy := by
          have present := Table.find?_of_mem stored
          rw [this,← key,Table.find?_of_mem inside] at present
          exact (Option.some.inj present).symm
        rw [equal,key,content]
        exact published
    · rw [Store.messages_markDelivered]
      exact sound.inserted
  rcases send_world fault cluster.store (cluster.store.markDelivered row.id) with same | same
  · unfold mark
    rw [same]
    exact setCrew_sound (.refl cluster) sound ready fun stage is => (nomatch is)
  · unfold mark
    rw [same]
    exact setCrew_sound grows marked ready fun stage is => (nomatch is)

end Hands

theorem launch_sound (sound : Sound cluster) (concurrency : Int) :
    Extends cluster {cluster with workers := cluster.workers ++ [newWorker concurrency]} ∧
      Sound {cluster with workers := cluster.workers ++ [newWorker concurrency]} := by
  refine ⟨⟨fun _ _ => id,fun _ _ => id⟩,sound.delivered,sound.publications,sound.inserted,?_⟩
  intro worker member batch is
  rcases List.mem_append.mp member with old | new
  · exact sound.workers worker old batch is
  · cases List.mem_singleton.mp new
    cases is

theorem next_sound {move : Move Payload} (sound : Sound cluster) (taken : cluster.next move = some after) :
    Extends cluster after ∧ Sound after := by
  cases move with
  | insert topic key payload fault =>
    cases taken
    cases payload with
    | none => exact ⟨.refl cluster,sound⟩
    | some payload => exact insert_sound sound _ fault
  | launch concurrency =>
    cases taken
    exact launch_sound sound concurrency
  | query index fault unscanned =>
    simp only [next] at taken
    split at taken
    · cases taken
      exact query_sound sound index _ fault unscanned
    · cases taken
  | send index =>
    simp only [next] at taken
    split at taken
    · rename_i worker row unsent crew found
      obtain ⟨sent,isSent,rfl⟩ := Option.map_eq_some_iff.mp taken
      obtain ⟨all,each⟩ := batch_ready sound found
      have rest : ∀ other ∈ unsent, Stored cluster.store other.id other.message :=
        fun other inside => all other (List.mem_cons_of_mem _ inside)
      exact setBatch_sound sound index worker ⟨rest,each.send (all row List.mem_cons_self) isSent⟩
    · cases taken
  | close index =>
    simp only [next] at taken
    split at taken
    · rename_i worker crew found
      split at taken
      · cases taken
      cases taken
      obtain ⟨all,each⟩ := batch_ready sound found
      exact setBatch_sound sound index worker ⟨all,each.queue,each.hands⟩
    · cases taken
  | receive index hand =>
    simp only [next] at taken
    split at taken
    · rename_i worker batch found
      obtain ⟨crew,received,rfl⟩ := Option.map_eq_some_iff.mp taken
      obtain ⟨all,each⟩ := batch_ready sound found
      have begins (row : Entry Payload) (stored : Stored cluster.store row.id row.message) :
          Stage.Ready cluster (.publish row) := stored
      exact setBatch_sound sound index worker ⟨all,each.receive begins received⟩
    · cases taken
  | work index hand fault =>
    simp only [next] at taken
    split at taken
    · rename_i worker batch found
      have ready := batch_ready sound found
      split at taken
      · rename_i row busy
        cases taken
        exact publish_sound sound ready (ready.2.hands _ (Crew.jobAt_mem busy)) fault
      · rename_i row busy
        cases taken
        exact mark_sound sound ready (ready.2.hands _ (Crew.jobAt_mem busy)) fault
      · cases taken
    · cases taken
  | wait index =>
    simp only [next] at taken
    split at taken
    · split at taken
      · cases taken
        exact ⟨extends_setWorker ..,sound_setWorker sound fun batch is => (nomatch is)⟩
      · cases taken
    · cases taken
  | stop index =>
    simp only [next] at taken
    split at taken
    · cases taken
      exact ⟨extends_setWorker ..,sound_setWorker sound fun batch is => (nomatch is)⟩
    · cases taken

end Cluster

section Runs
variable {middle last : Cluster Payload}

theorem sound_of_path (path : Path Cluster.next Anything (.initial : Cluster Payload) last) : Sound last := by
  refine path.invariant Sound ⟨fun row member => ?_,fun call member => ?_,.slnil,fun worker member => ?_⟩ ?_
  · cases member
  · cases member
  · cases member
  · intro cluster move after _ sound _ taken
    exact (Cluster.next_sound sound taken).2

theorem extends_of_path (before : Path Cluster.next Anything (.initial : Cluster Payload) middle)
    (after : Path Cluster.next Anything middle last) : Extends middle last := by
  refine after.invariant (Extends middle) (.refl middle) ?_
  intro cluster move next reached grown _ taken
  exact grown.trans (Cluster.next_sound (sound_of_path (before.trans reached)) taken).1

end Runs

/-- In every run of any number of workers and inserts: a row is delivered only if a call of
`Produce` for its topic, key and payload has returned nil; what was inserted stays, and is
undelivered as long as no such call has; and every call was made for some stored row. -/
theorem published_as_committed (middle last : Cluster Payload)
    (before : Path Cluster.next Anything .initial middle) (after : Path Cluster.next Anything middle last) :
    (∀ row ∈ last.store.rows.rows, row.delivered = true → ⟨row.id,row.message,.ok ()⟩ ∈ last.publications) ∧
    middle.inserted.Sublist middle.store.messages ∧
    (∀ row ∈ middle.store.rows.rows, ⟨row.id,row.message,.ok ()⟩ ∉ last.publications →
      ⟨row.id,row.message,false⟩ ∈ last.store.rows.rows) ∧
    ∀ call ∈ last.publications, ∃ row ∈ last.store.rows.rows, row.id = call.id ∧ row.message = call.record := by
  have sound := sound_of_path (before.trans after)
  refine ⟨sound.delivered,(sound_of_path before).inserted,?_,sound.publications⟩
  intro row stored unpublished
  obtain ⟨kept,member,same,message⟩ := (extends_of_path before after).rows row.id row.message ⟨row,stored,rfl,rfl⟩
  have undelivered : kept.delivered = false := by
    cases is : kept.delivered with
    | false => rfl
    | true =>
      have published := sound.delivered kept member is
      rw [same,message] at published
      exact absurd published unpublished
  have equal : kept = ⟨row.id,row.message,false⟩ := by rw [← same,← message,← undelivered]
  exact equal ▸ member

/-- Two inserts; a worker with two goroutines publishes the second row and marks it, and
loses the reply to its publication of the first. -/
def halfDelivered : List (Move Nat) :=
  [.insert "t" "a" (some 1) .none,.insert "t" "b" (some 2) .none,.launch 2,.query 0 .none [],.send 0,.receive 0 0,
    .send 0,.close 0,.receive 0 1,.work 0 1 .none,.work 0 0 (.broken 0),.work 0 1 .none]

theorem published_as_committed_half : ∃ last : Cluster Nat, Path Cluster.next Anything .initial last ∧
    last.store.rows.rows = [⟨0,⟨"t","a",1⟩,false⟩,⟨1,⟨"t","b",2⟩,true⟩] ∧
    (∀ row ∈ last.store.rows.rows, row.delivered = true → ⟨row.id,row.message,.ok ()⟩ ∈ last.publications) ∧
    (∀ row ∈ last.store.rows.rows, ⟨row.id,row.message,.ok ()⟩ ∉ last.publications →
      ⟨row.id,row.message,false⟩ ∈ last.store.rows.rows) ∧
    ∀ call ∈ last.publications, ∃ row ∈ last.store.rows.rows, row.id = call.id ∧ row.message = call.record := by
  obtain ⟨last,path,rows⟩ := exists_path_of_follow Cluster.next Anything halfDelivered .initial
    (fun last => last.store.rows.rows = [⟨0,⟨"t","a",1⟩,false⟩,⟨1,⟨"t","b",2⟩,true⟩]) (by decide +kernel)
  obtain ⟨delivered,_,kept,published⟩ := published_as_committed last last path .refl
  exact ⟨last,path,of_decide_eq_true rows,delivered,kept,published⟩

end Ticketbus.Outbox
