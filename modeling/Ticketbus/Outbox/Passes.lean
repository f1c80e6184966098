import Ticketbus.Outbox.Worker
import Ticketbus.Outbox.Backlog

/-! Whole passes of one worker: `processBatch` from its query to the return of `wg.Wait`,
with its goroutines interleaved in any way. A pass comes to its end, and it does to the
table what a sweep does to the backlog. -/
namespace Ticketbus.Outbox
open Ticketbus.Concurrency Ticketbus.Relational
variable {Payload : Type}

def Stage.Meets (failing : Nat → Bool) (fault : Fault) : Stage Payload → Prop
  | .publish row => fault = .none ↔ failing row.id = false
  | .mark _ => fault = .none

/-- A fault that a stage meets in such a pass. -/
def Stage.fault (failing : Nat → Bool) : Stage Payload → Fault
  | .publish row => if failing row.id then .fail else .none
  | .mark _ => .none

theorem Stage.meets_fault (failing : Nat → Bool) (stage : Stage Payload) : stage.Meets failing (stage.fault failing) := by
  cases stage with
  | mark row => rfl
  | publish row =>
    unfold Meets fault
    cases failing row.id <;> simp

namespace Cluster

def Passing (index : Nat) (failing : Nat → Bool) (cluster : Cluster Payload) : Move Payload → Prop
  | .send worker | .close worker | .receive worker _ | .wait worker => worker = index
  | .work worker hand fault => worker = index ∧ ∀ who batch stage, cluster.batchAt index = some (who,batch) →
      batch.crew.jobAt hand = some stage → stage.Meets failing fault
  | _ => False

def Pass (index : Nat) (failing : Nat → Bool) (first last : Cluster Payload) : Prop :=
  ∃ begun, first.next (.query index .none []) = some begun ∧ Path Cluster.next (Passing index failing) begun last ∧
    ∃ concurrency, last.workers[index]? = some ⟨concurrency,none,false⟩

inductive Passes (index : Nat) (failing : Nat → Bool) (first : Cluster Payload) : Nat → Cluster Payload → Prop
  | none : Passes index failing first 0 first
  | next {count : Nat} {middle last : Cluster Payload} (before : Passes index failing first count middle)
      (pass : Pass index failing middle last) : Passes index failing first (count + 1) last

end Cluster

def marked {Message : Type} (done : List Nat) (row : Row Message) : Row Message :=
  {row with delivered := row.delivered || decide (row.id ∈ done)}

section Table
variable {Message : Type}

theorem marked_of_not_mem {done : List Nat} {row : Row Message} (other : row.id ∉ done) : marked done row = row := by
  simp [marked,other]

theorem marked_cons (id : Nat) (done : List Nat) (row : Row Message) :
    marked [id] (marked done row) = marked (id :: done) row := by
  simp [marked,Bool.or_comm,Bool.or_left_comm]

theorem markDelivered_rows (store : Store Message) (id : Nat) :
    (store.markDelivered id).rows.rows = store.rows.rows.map (marked [id]) := by
  unfold Store.markDelivered
  split
  · rename_i absent
    have other := (store.rows.find?_eq_none id).mp absent
    have same : store.rows.rows.map (marked [id]) = store.rows.rows.map fun row => row :=
      List.map_congr_left fun row member => marked_of_not_mem (by simpa using other row member)
    rw [same,List.map_id']
  · rename_i row found
    apply List.map_congr_left
    intro old member
    have key : row.id = id := Table.find?_key found
    by_cases same : old.id = row.id
    · have equal : old = row := store.rows.eq_of_key member (Table.find?_mem found) same
      simp [marked,equal,key]
    · rw [marked_of_not_mem (by simpa [key] using same)]
      exact if_neg same

end Table

def Stage.effort : Stage Payload → Nat
  | .publish _ => 2
  | .mark _ => 1

def Batch.weight (batch : Batch Payload) : Nat := 4 * batch.unsent.length + batch.crew.weight 2 Stage.effort

def Stage.Due (failing : Nat → Bool) (todo : List (Entry Payload)) (cluster : Cluster Payload) : Stage Payload → Prop
  | .publish row => row ∈ todo
  | .mark row => row ∈ todo ∧ failing row.id = false ∧ Published cluster row.id row.message

section Pass
variable (index concurrency : Nat) (failing : Nat → Bool) (first : Cluster Payload)

structure Working (now : Cluster Payload) (batch : Batch Payload) (done : List Nat) : Prop where
  at_ : now.workers[index]? = some ⟨concurrency,some batch,false⟩
  table : now.store.rows.rows = first.store.rows.rows.map (marked done)
  publications : first.publications ⊆ now.publications
  delivered : ∀ id ∈ done, ∃ row ∈ pending first.store.rows.rows, row.id = id ∧ failing id = false ∧
    Published now id row.message
  unsent : ∀ row ∈ batch.unsent, row ∈ pending first.store.rows.rows
  each : batch.crew.Each (· ∈ pending first.store.rows.rows)
    (Stage.Due failing (pending first.store.rows.rows) now)
  all : ∀ row ∈ pending first.store.rows.rows, row ∈ batch.unsent ∨ batch.crew.Has .publish row ∨
    .busy (.mark row) ∈ batch.crew.hands ∨ failing row.id = true ∨ row.id ∈ done
  fed : batch.crew.Fed batch.unsent
  hands : batch.crew.hands.length = concurrency

structure Swept (last : Cluster Payload) : Prop where
  at_ : last.workers[index]? = some ⟨concurrency,none,false⟩
  table : last.store.rows.rows = sweep failing first.store.rows.rows
  publications : first.publications ⊆ last.publications
  published : ∀ row ∈ pending first.store.rows.rows, failing row.id = false → Published last row.id row.message

theorem rests {index concurrency : Nat} {failing : Nat → Bool} {cluster : Cluster Payload} {move : Move Payload}
    (rest : cluster.workers[index]? = some ⟨concurrency,none,false⟩) (permitted : cluster.Passing index failing move) :
    cluster.next move = none := by
  have none : cluster.batchAt index = none := by
    unfold Cluster.batchAt
    rw [rest]
    rfl
  cases move with
  | insert _ _ _ _ | launch _ | query _ _ _ | stop _ => cases permitted
  | send _ | close _ | receive _ _ | wait _ =>
    cases permitted
    simp only [Cluster.next,none]
  | work _ _ _ =>
    cases permitted.1
    simp only [Cluster.next,none]

namespace Working
variable {index concurrency failing first}
variable {now after : Cluster Payload} {batch : Batch Payload} {done : List Nat}

theorem batchAt (working : Working index concurrency failing first now batch done) :
    now.batchAt index = some (⟨concurrency,some batch,false⟩,batch) := by
  unfold Cluster.batchAt
  rw [working.at_]
  rfl

theorem setWorker_at (working : Working index concurrency failing first now batch done) (worker : Worker Payload) :
    (now.setWorker index worker).workers[index]? = some worker := by
  have bound := (List.getElem?_eq_some_iff.mp working.at_).1
  exact List.getElem?_set_self bound

theorem setBatch (working : Working index concurrency failing first now batch done) {unsent : List (Entry Payload)}
    {crew : Crew (Entry Payload) (Stage Payload)} (sent : ∀ row ∈ unsent, row ∈ batch.unsent)
    (each : crew.Each (· ∈ pending first.store.rows.rows) (Stage.Due failing (pending first.store.rows.rows) now))
    (queued : ∀ row ∈ batch.unsent, row ∈ unsent ∨ crew.Has .publish row)
    (kept : ∀ row, batch.crew.Has .publish row → crew.Has .publish row)
    (marks : ∀ row, .busy (.mark row) ∈ batch.crew.hands → .busy (.mark row) ∈ crew.hands)
    (fed : crew.Fed unsent) (hands : crew.hands.length = batch.crew.hands.length) :
    Working index concurrency failing first
      (now.setWorker index ⟨concurrency,some ⟨unsent,crew⟩,false⟩) ⟨unsent,crew⟩ done where
  at_ := working.setWorker_at _
  table := working.table
  publications := working.publications
  delivered := working.delivered
  unsent row member := working.unsent row (sent row member)
  each := each
  all row member := by
    rcases working.all row member with unsent | has | busy | other
    · exact (queued row unsent).imp id .inl
    · exact .inr (.inl (kept row has))
    · exact .inr (.inr (.inl (marks row busy)))
    · exact .inr (.inr (.inr other))
  fed := fed
  hands := hands.trans working.hands

theorem send (working : Working index concurrency failing first now batch done)
    (taken : now.next (.send index) = some after) :
    ∃ later, Working index concurrency failing first after later done ∧ later.weight < batch.weight := by
  obtain ⟨unsent,crew⟩ := batch
  simp only [Cluster.next,working.batchAt] at taken
  cases unsent with
  | nil => cases taken
  | cons row unsent =>
    obtain ⟨sent,isSent,rfl⟩ := Option.map_eq_some_iff.mp taken
    have same := Crew.hands_send isSent
    refine ⟨⟨unsent,sent⟩,working.setBatch (fun other member => List.mem_cons_of_mem _ member) ?_ ?_ ?_ ?_ ?_ ?_,?_⟩
    · exact working.each.send (working.unsent row List.mem_cons_self) isSent
    · intro other member
      rcases List.mem_cons.mp member with rfl | rest
      · exact .inr (.sent isSent)
      · exact .inl rest
    · exact fun other has => has.send isSent
    · intro other busy
      rw [same]
      exact busy
    · exact working.fed.send isSent
    · rw [same]
    · have heavier := Crew.weight_send 2 Stage.effort isSent
      simp only [Batch.weight,List.length_cons]
      omega

theorem close (working : Working index concurrency failing first now batch done)
    (taken : now.next (.close index) = some after) :
    ∃ later, Working index concurrency failing first after later done ∧ later.weight < batch.weight := by
  obtain ⟨unsent,crew⟩ := batch
  simp only [Cluster.next,working.batchAt] at taken
  cases unsent with
  | cons row unsent => cases taken
  | nil =>
    simp only at taken
    split at taken
    · cases taken
    rename_i open_
    cases taken
    refine ⟨⟨[],crew.close⟩,working.setBatch (fun _ => id) ⟨working.each.queue,working.each.hands⟩ (fun _ => .inl)
      (fun _ => id) (fun _ => id) working.fed.close rfl,?_⟩
    have lighter := Crew.weight_close 2 Stage.effort (Bool.eq_false_of_not_eq_true open_)
    simp only [Batch.weight]
    omega

theorem receive {hand : Nat} (working : Working index concurrency failing first now batch done)
    (taken : now.next (.receive index hand) = some after) :
    ∃ later, Working index concurrency failing first after later done ∧ later.weight < batch.weight := by
  simp only [Cluster.next,working.batchAt] at taken
  obtain ⟨crew,received,rfl⟩ := Option.map_eq_some_iff.mp taken
  refine ⟨⟨batch.unsent,crew⟩,working.setBatch (fun _ => id) (working.each.receive (fun _ => id) received) (fun _ => .inl)
    (fun _ has => has.receive received) (fun _ busy => Crew.busy_receive busy received) (working.fed.receive received)
    (Crew.hands_receive received),?_⟩
  have lighter : crew.weight 2 Stage.effort < batch.crew.weight 2 Stage.effort :=
    Crew.weight_receive (fun _ => le_refl 2) received
  simp only [Batch.weight]
  omega

theorem proceed {hand : Nat} {stage : Stage Payload} {middle : Cluster Payload} {more : List Nat}
    (working : Working index concurrency failing first now batch done) (next : Hand (Stage Payload))
    (found : batch.crew.jobAt hand = some stage) (workers : middle.workers = now.workers)
    (table : middle.store.rows.rows = first.store.rows.rows.map (marked more))
    (grown : now.publications ⊆ middle.publications) (extended : done ⊆ more)
    (delivered : ∀ id ∈ more, ∃ row ∈ pending first.store.rows.rows, row.id = id ∧ failing id = false ∧
      Published middle id row.message)
    (active : next ≠ .finished) (known : ∀ job, next = .busy job → job.Due failing (pending first.store.rows.rows) middle)
    (settled : ∀ row, stage = .publish row ∨ stage = .mark row →
      next = .busy (.mark row) ∨ failing row.id = true ∨ row.id ∈ more) :
    Working index concurrency failing first (middle.setCrew index ⟨concurrency,some batch,false⟩ batch
      (batch.crew.proceed hand next)) ⟨batch.unsent,batch.crew.proceed hand next⟩ more where
  at_ := by
    have bound := (List.getElem?_eq_some_iff.mp working.at_).1
    rw [← workers] at bound
    exact List.getElem?_set_self bound
  table := table
  publications := fun call member => grown (working.publications member)
  delivered := delivered
  unsent := working.unsent
  each := by
    refine (working.each.mono (fun _ => id) fun job due => ?_).proceed known
    cases job with
    | publish row => exact due
    | mark row => exact ⟨due.1,due.2.1,grown due.2.2⟩
  all row member := by
    have replaced (same : stage = .publish row ∨ stage = .mark row) :
        .busy (.mark row) ∈ (batch.crew.proceed hand next).hands ∨ failing row.id = true ∨ row.id ∈ more := by
      rcases settled row same with rfl | other
      · exact .inl (Crew.busy_proceeded found _)
      · exact .inr other
    -- each row stays where it was in the pass, but for the one this goroutine had
    rcases working.all row member with unsent | has | busy | fails | marked
    · exact .inl unsent
    · rcases has.proceed found with this | still
      · exact .inr (.inr (replaced (.inl this.symm)))
      · exact .inr (.inl still)
    · rcases Crew.busy_proceed busy found with this | still
      · exact .inr (.inr (replaced (.inr this.symm)))
      · exact .inr (.inr (.inl still))
    · exact .inr (.inr (.inr (.inl fails)))
    · exact .inr (.inr (.inr (.inr (extended marked))))
  fed := working.fed.proceed active
  hands := List.length_set.trans working.hands

theorem publish {hand : Nat} {row : Entry Payload} {fault : Fault}
    (working : Working index concurrency failing first now batch done)
    (found : batch.crew.jobAt hand = some (.publish row)) (meets : fault = .none ↔ failing row.id = false) :
    ∃ later, Working index concurrency failing first
      (now.publish index hand ⟨concurrency,some batch,false⟩ batch row fault) later done ∧
      later.weight < batch.weight := by
  have due : row ∈ pending first.store.rows.rows := working.each.hands _ (Crew.jobAt_mem found)
  have grown (reply : Except DbError Unit) : now.publications ⊆ ⟨row.id,row.message,reply⟩ :: now.publications :=
    List.subset_cons_self ..
  have delivered (reply : Except DbError Unit) (id : Nat) (inside : id ∈ done) :
      ∃ other ∈ pending first.store.rows.rows, other.id = id ∧ failing id = false ∧
        ⟨id,other.message,.ok ()⟩ ∈ ⟨row.id,row.message,reply⟩ :: now.publications := by
    obtain ⟨other,member,same,works,published⟩ := working.delivered id inside
    exact ⟨other,member,same,works,grown reply published⟩
  have failed (bad : failing row.id = true) (other : Entry Payload)
      (same : Stage.publish row = .publish other ∨ Stage.publish row = .mark other) :
      Hand.receiving = .busy (Stage.mark other) ∨ failing other.id = true ∨ other.id ∈ done := by
    rcases same with same | same
    · cases same
      exact .inr (.inl bad)
    · cases same
  have lighter (next : Hand (Stage Payload)) (less : next.weight Stage.effort ≤ 2) :
      (⟨batch.unsent,batch.crew.proceed hand next⟩ : Batch Payload).weight < batch.weight :=
    Nat.add_lt_add_left (Crew.weight_proceed 2 found less) _
  have bad (faulty : fault ≠ .none) : failing row.id = true := by
    by_contra good
    exact faulty (meets.mpr (Bool.eq_false_of_not_eq_true good))
  cases fault with
  | none =>
    refine ⟨_,working.proceed (.busy (.mark row)) found rfl working.table (grown (.ok ())) (List.Subset.refl _)
      (delivered _) nofun ?_ ?_,lighter _ (le_refl 2)⟩
    · intro job same
      cases same
      exact ⟨due,meets.mp rfl,List.mem_cons_self⟩
    · intro other same
      rcases same with same | same
      · cases same
        exact .inl rfl
      · cases same
  | fail | broken _ =>
    exact ⟨_,working.proceed .receiving found rfl working.table (grown _) (List.Subset.refl _) (delivered _) nofun nofun
      (failed (bad nofun)),lighter _ (Nat.le_succ 1)⟩

theorem mark {hand : Nat} {row : Entry Payload} (working : Working index concurrency failing first now batch done)
    (found : batch.crew.jobAt hand = some (.mark row)) :
    ∃ later, Working index concurrency failing first
      (now.mark index hand ⟨concurrency,some batch,false⟩ batch row .none) later (row.id :: done) ∧
      later.weight < batch.weight := by
  obtain ⟨due,works,published⟩ := working.each.hands _ (Crew.jobAt_mem found)
  refine ⟨_,working.proceed .receiving found rfl ?_ (List.Subset.refl _) (List.subset_cons_self ..) ?_ nofun nofun ?_,
    Nat.add_lt_add_left (Crew.weight_proceed 2 found (le_refl 1)) _⟩
  · change (now.store.markDelivered row.id).rows.rows = _
    rw [markDelivered_rows,working.table,List.map_map]
    exact List.map_congr_left fun other _ => marked_cons row.id done other
  · intro id inside
    rcases List.mem_cons.mp inside with rfl | old
    · exact ⟨row,due,rfl,works,published⟩
    · exact working.delivered id old
  · intro other same
    rcases same with same | same
    · cases same
    · cases same
      exact .inr (.inr List.mem_cons_self)

theorem wait (working : Working index concurrency failing first now batch done) (crewed : 0 < concurrency)
    (taken : now.next (.wait index) = some after) : Swept index concurrency failing first after := by
  simp only [Cluster.next,working.batchAt] at taken
  split at taken
  swap
  · cases taken
  rename_i dismissed
  cases taken
  obtain ⟨unsent,queue,idle⟩ := working.fed.dismissed (by rw [working.hands]; exact crewed) dismissed
  -- with nothing unsent, queued or in hand, a row has failed or has been marked
  have all (row : Entry Payload) (member : row ∈ pending first.store.rows.rows) (works : failing row.id = false) :
      row.id ∈ done := by
    rcases working.all row member with left | (queued | busy) | busy | fails | isDone
    · rw [unsent] at left
      cases left
    · rw [queue] at queued
      cases queued
    · exact absurd busy (idle _)
    · exact absurd busy (idle _)
    · rw [works] at fails
      cases fails
    · exact isDone
  refine ⟨working.setWorker_at _,?_,working.publications,fun row member works => ?_⟩
  · change now.store.rows.rows = sweep failing first.store.rows.rows
    rw [working.table]
    apply List.map_congr_left
    intro row member
    unfold settle
    split
    · rename_i taken
      obtain ⟨other,inside,same⟩ := List.mem_map.mp taken.1
      have isDone := all other inside (by rw [same]; exact taken.2)
      simp [marked,← same,isDone]
    · rename_i other
      apply marked_of_not_mem
      intro isDone
      obtain ⟨copy,inside,same,works,_⟩ := working.delivered row.id isDone
      exact other ⟨List.mem_map.mpr ⟨copy,inside,same⟩,works⟩
  · obtain ⟨copy,inside,same,_,published⟩ := working.delivered row.id (all row member works)
    have equal : copy = row := first.store.rows.eq_of_key (pending_stored inside).1 (pending_stored member).1 same
    rw [← equal] at published ⊢
    exact published

theorem step {move : Move Payload} (working : Working index concurrency failing first now batch done)
    (crewed : 0 < concurrency) (permitted : now.Passing index failing move) (taken : now.next move = some after) :
    (∃ later more, Working index concurrency failing first after later more ∧ later.weight < batch.weight) ∨
      Swept index concurrency failing first after := by
  cases move with
  | insert _ _ _ _ | launch _ | query _ _ _ | stop _ => cases permitted
  | send worker =>
    cases permitted
    obtain ⟨later,goesOn⟩ := working.send taken
    exact .inl ⟨later,done,goesOn⟩
  | close worker =>
    cases permitted
    obtain ⟨later,goesOn⟩ := working.close taken
    exact .inl ⟨later,done,goesOn⟩
  | receive worker hand =>
    cases permitted
    obtain ⟨later,goesOn⟩ := working.receive taken
    exact .inl ⟨later,done,goesOn⟩
  | work worker hand fault =>
    obtain ⟨rfl,meets⟩ := permitted
    simp only [Cluster.next,working.batchAt] at taken
    split at taken
    · rename_i row found
      cases taken
      obtain ⟨later,goesOn⟩ := working.publish found (meets _ _ _ working.batchAt found)
      exact .inl ⟨later,done,goesOn⟩
    · rename_i row found
      cases taken
      obtain rfl : fault = .none := meets _ _ _ working.batchAt found
      obtain ⟨later,goesOn⟩ := working.mark found
      exact .inl ⟨later,_,goesOn⟩
    · cases taken
  | wait worker =>
    cases permitted
    exact .inr (working.wait crewed taken)

theorem progress (working : Working index concurrency failing first now batch done) :
    ∃ move, now.Passing index failing move ∧ (now.next move).isSome = true := by
  obtain ⟨unsent,crew⟩ := batch
  have here := working.batchAt
  cases unsent with
  | cons row unsent =>
    obtain ⟨after,sent⟩ := working.fed.send_isSome
    exact ⟨.send index,rfl,by simp [Cluster.next,here,sent]⟩
  | nil =>
    cases closed : crew.jobs.closed with
    | false => exact ⟨.close index,rfl,by simp [Cluster.next,here,closed]⟩
    | true =>
      cases dismissed : crew.dismissed with
      | true => exact ⟨.wait index,rfl,by simp [Cluster.next,here,dismissed]⟩
      | false =>
        rcases Crew.exists_step Stage.publish closed dismissed with ⟨hand,stage,found⟩ | ⟨hand,after,received⟩
        · refine ⟨.work index hand (stage.fault failing),⟨rfl,fun who batch other at_ job => ?_⟩,?_⟩
          · cases here.symm.trans at_
            cases found.symm.trans job
            exact stage.meets_fault failing
          · cases stage <;> simp [Cluster.next,here,found]
        · exact ⟨.receive index hand,rfl,by simp [Cluster.next,here,received]⟩

theorem completes (working : Working index concurrency failing first now batch done) (crewed : 0 < concurrency) :
    ∃ last, Path Cluster.next (Cluster.Passing index failing) now last ∧ Swept index concurrency failing first last := by
  generalize size : batch.weight = weight
  induction weight using Nat.strong_induction_on generalizing now batch done with
  | h weight ih =>
    obtain ⟨move,permitted,enabled⟩ := working.progress
    obtain ⟨after,taken⟩ := Option.isSome_iff_exists.mp enabled
    have first : Path Cluster.next (Cluster.Passing index failing) now after := .step move .refl permitted taken
    rcases working.step crewed permitted taken with ⟨later,more,goesOn,lighter⟩ | swept
    · obtain ⟨last,path,swept⟩ := ih later.weight (size ▸ lighter) goesOn rfl
      exact ⟨last,first.trans path,swept⟩
    · exact ⟨after,first,swept⟩

theorem of_path {last : Cluster Payload} (working : Working index concurrency failing first now batch done)
    (crewed : 0 < concurrency) (path : Path Cluster.next (Cluster.Passing index failing) now last) :
    (∃ later more, Working index concurrency failing first last later more) ∨
      Swept index concurrency failing first last := by
  refine path.invariant (fun last => (∃ later more, Working index concurrency failing first last later more) ∨
    Swept index concurrency failing first last) (.inl ⟨batch,done,working⟩) ?_
  intro node move after _ before permitted taken
  rcases before with ⟨later,more,goesOn⟩ | swept
  · rcases goesOn.step crewed permitted taken with ⟨next,nextDone,still,_⟩ | ended
    · exact .inl ⟨next,nextDone,still⟩
    · exact .inr ended
  · have stuck := rests swept.at_ permitted
    rw [stuck] at taken
    cases taken

end Working

variable {index concurrency failing first}
variable {begun last : Cluster Payload}

variable (failing) in
theorem query_begins (rest : first.workers[index]? = some ⟨concurrency,none,false⟩)
    (taken : first.next (.query index .none []) = some begun) :
    (∃ batch, Working index concurrency failing first begun batch []) ∨
      Swept index concurrency failing first begun := by
  simp only [Cluster.next,rest] at taken
  cases taken
  have read : (stream .none first.store first.store.undelivered).1 = .ok ⟨pending first.store.rows.rows,none⟩ := rfl
  have scanned : (pending first.store.rows.rows).filter (fun row => row.id ∉ []) = pending first.store.rows.rows := by
    simp
  unfold Cluster.query
  rw [read]
  simp only [scanned]
  cases todo : pending first.store.rows.rows with
  | nil =>
    refine .inr ⟨rest,?_,List.Subset.refl _,?_⟩
    · have none : settle failing (pending first.store.rows.rows) = id := funext fun row => if_neg (by simp [todo])
      rw [sweep,none,List.map_id]
    · simp [todo]
  | cons row more =>
    have bound := (List.getElem?_eq_some_iff.mp rest).1
    refine .inl ⟨⟨row :: more,_⟩,List.getElem?_set_self bound,?_,List.Subset.refl _,List.forall_mem_nil _,?_,.muster ..,?_,.muster ..,?_⟩
    · have none : (marked [] : Entry Payload → Entry Payload) = id := funext fun row => marked_of_not_mem List.not_mem_nil
      rw [none,List.map_id]
      rfl
    · rw [todo]
      exact fun _ => id
    · rw [todo]
      exact fun _ => .inl
    · exact List.length_replicate

theorem pass_swept (rest : first.workers[index]? = some ⟨concurrency,none,false⟩) (crewed : 0 < concurrency)
    (pass : first.Pass index failing last) : Swept index concurrency failing first last := by
  obtain ⟨begun,queried,path,_,ended⟩ := pass
  rcases query_begins failing rest queried with ⟨batch,working⟩ | swept
  · rcases working.of_path crewed path with ⟨_,_,still⟩ | swept
    · cases ended.symm.trans still.at_
    · exact swept
  · -- between two passes no move of a pass is possible
    have same : last = begun := by
      refine path.invariant (fun last => last = begun) rfl ?_
      intro node move after _ unmoved permitted taken
      rw [unmoved] at permitted taken
      rw [rests swept.at_ permitted] at taken
      cases taken
    rw [same]
    exact swept

theorem exists_pass (rest : first.workers[index]? = some ⟨concurrency,none,false⟩) (crewed : 0 < concurrency)
    (failing : Nat → Bool) : ∃ last, first.Pass index failing last := by
  have taken : ∃ begun, first.next (.query index .none []) = some begun := by
    simp only [Cluster.next,rest]
    exact ⟨_,rfl⟩
  obtain ⟨begun,queried⟩ := taken
  rcases query_begins failing rest queried with ⟨batch,working⟩ | swept
  · obtain ⟨last,path,swept⟩ := working.completes crewed
    exact ⟨last,begun,queried,path,concurrency,swept.at_⟩
  · exact ⟨begun,begun,queried,.refl,concurrency,swept.at_⟩

structure Drained (index concurrency : Nat) (failing : Nat → Bool) (first : Cluster Payload) (count : Nat)
    (last : Cluster Payload) : Prop where
  at_ : last.workers[index]? = some ⟨concurrency,none,false⟩
  table : last.store.rows.rows = (sweep failing)^[count] first.store.rows.rows
  published : ∀ row ∈ last.store.rows.rows, row.delivered = true →
    (∃ old ∈ first.store.rows.rows, old.id = row.id ∧ old.delivered = true) ∨ Published last row.id row.message

theorem drained_of_passes {count : Nat} (rest : first.workers[index]? = some ⟨concurrency,none,false⟩)
    (crewed : 0 < concurrency) (passes : first.Passes index failing count last) :
    Drained index concurrency failing first count last := by
  induction passes with
  | none => exact ⟨rest,rfl,fun row member delivered => .inl ⟨row,member,rfl,delivered⟩⟩
  | @next count middle last before pass ih =>
    have swept := pass_swept ih.at_ crewed pass
    refine ⟨swept.at_,?_,fun row member delivered => ?_⟩
    · rw [swept.table,ih.table,Function.iterate_succ_apply']
    · rw [swept.table] at member
      obtain ⟨old,stored,rfl⟩ := List.mem_map.mp member
      rw [settle_id,settle_message]
      cases already : old.delivered with
      | true => exact (ih.published old stored already).imp id fun published => swept.publications published
      | false =>
        unfold settle at delivered
        split at delivered
        · rename_i taken
          obtain ⟨copy,inside,same⟩ := List.mem_map.mp taken.1
          have equal : copy = old := middle.store.rows.eq_of_key (pending_stored inside).1 stored same
          exact .inr (swept.published old (equal ▸ inside) taken.2)
        · rw [already] at delivered
          cases delivered

theorem exists_passes (rest : first.workers[index]? = some ⟨concurrency,none,false⟩) (crewed : 0 < concurrency)
    (failing : Nat → Bool) (count : Nat) : ∃ last, first.Passes index failing count last := by
  induction count with
  | zero => exact ⟨first,.none⟩
  | succ count ih =>
    obtain ⟨middle,before⟩ := ih
    obtain ⟨last,pass⟩ := exists_pass (drained_of_passes rest crewed before).at_ crewed failing
    exact ⟨last,.next before pass⟩

end Pass

def Cluster.backlog (cluster : Cluster Payload) : Nat := cluster.store.rows.rows.countP fun row => !row.delivered

theorem newWorker_crewed (concurrency : Int) : 0 < (newWorker concurrency : Worker Payload).concurrency := by
  unfold newWorker
  split <;> simp only <;> omega

private theorem delivered_of_ahead {index count : Nat} {concurrency : Nat} {failing : Nat → Bool} {first last : Cluster Payload}
    (drained : Drained index concurrency failing first count last) {row : Entry Payload}
    (member : row ∈ first.store.rows.rows) (waits : row.delivered = false) (works : failing row.id = false)
    (enough : healthy failing first.store.rows.rows row.id ≤ count)
    (unblocked : ahead failing first.store.rows.rows row.id < 100) :
    ⟨row.id,row.message,true⟩ ∈ last.store.rows.rows ∧ ⟨row.id,row.message,.ok ()⟩ ∈ last.publications := by
  obtain ⟨settled,inside,id,message,delivered⟩ :=
    delivered_sweeps count first.store.rows.distinct member works unblocked (.inr enough)
  rw [← drained.table] at inside
  have copy : settled = ⟨row.id,row.message,true⟩ := by rw [← id,← message,← delivered]
  rw [copy] at inside
  refine ⟨inside,(drained.published _ inside rfl).resolve_left ?_⟩
  rintro ⟨old,stored,same,before⟩
  rw [first.store.rows.eq_of_key stored member same,waits] at before
  cases before

/-- As many passes as there are undelivered rows can be made; and after them an undelivered row
that can be published has been published and marked delivered exactly if fewer than a
hundred undelivered rows that cannot be published have lower ids. -/
theorem backlog_delivered (index : Nat) (concurrency : Int) (failing : Nat → Bool) (first : Cluster Payload)
    (rest : first.workers[index]? = some (newWorker concurrency)) :
    (∃ last, first.Passes index failing first.backlog last) ∧
    ∀ last, first.Passes index failing first.backlog last →
      ∀ row ∈ first.store.rows.rows, row.delivered = false → failing row.id = false →
        ((⟨row.id,row.message,true⟩ ∈ last.store.rows.rows ∧ ⟨row.id,row.message,.ok ()⟩ ∈ last.publications) ↔
          ahead failing first.store.rows.rows row.id < 100) := by
  have crewed : 0 < (newWorker concurrency : Worker Payload).concurrency := newWorker_crewed concurrency
  refine ⟨exists_passes rest crewed failing _,fun last passes row member waits works => ?_⟩
  have drained := drained_of_passes rest crewed passes
  constructor
  · rintro ⟨marked,_⟩
    by_contra blocked
    have left := blocked_sweeps first.backlog first.store.rows.distinct member waits (Nat.le_of_not_lt blocked)
    rw [← drained.table] at left
    have same : (⟨row.id,row.message,true⟩ : Entry Payload) = row := last.store.rows.eq_of_key marked left rfl
    rw [← same] at waits
    cases waits
  · refine delivered_of_ahead drained member waits works ?_
    apply List.countP_mono_left
    intro other _ counted
    exact (Bool.and_eq_true_iff.mp counted).1

/-- Two undelivered rows, and a worker with two goroutines. -/
def waiting : Cluster Nat := ⟨(Store.empty.insert ⟨"t","a",1⟩).insert ⟨"t","b",2⟩,[newWorker 2],[],[]⟩

/-- The second row is delivered although the first cannot be published. -/
theorem backlog_delivered_second : ∃ last, waiting.Passes 0 (fun id => id = 0) waiting.backlog last ∧
    ⟨1,⟨"t","b",2⟩,true⟩ ∈ last.store.rows.rows ∧ ⟨1,⟨"t","b",2⟩,.ok ()⟩ ∈ last.publications := by
  obtain ⟨⟨last,passes⟩,delivered⟩ := backlog_delivered 0 2 (fun id => id = 0) waiting rfl
  refine ⟨last,passes,(delivered last passes ⟨1,⟨"t","b",2⟩,false⟩ ?_ rfl rfl).mpr ?_⟩
  · exact List.mem_cons_of_mem _ List.mem_cons_self
  · decide

/-- A hundred rows that cannot be published in front of one that can. -/
def clogged : Cluster Nat where
  store := {
    rows := ⟨(List.range 101).map fun id => ⟨id,⟨"t","k",id⟩,false⟩,by
      rw [List.map_map]
      exact List.nodup_range.map fun _ _ => id⟩
    serial := 101
    broker := []
    below := by
      intro row member
      obtain ⟨id,inside,rfl⟩ := List.mem_map.mp member
      exact List.mem_range.mp inside }
  workers := [newWorker 1]
  inserted := []
  publications := []

/-- After 101 passes over 101 undelivered rows the last one, which could be published, is
undelivered. -/
theorem backlog_blocked : clogged.backlog = 101 ∧ ∃ last, clogged.Passes 0 (fun id => id < 100) 101 last ∧
    ⟨100,⟨"t","k",100⟩,false⟩ ∈ last.store.rows.rows := by
  refine ⟨by decide +kernel,?_⟩
  have rest : clogged.workers[0]? = some ⟨1,none,false⟩ := rfl
  obtain ⟨last,passes⟩ := exists_passes rest Nat.zero_lt_one (fun id => id < 100) 101
  refine ⟨last,passes,?_⟩
  rw [(drained_of_passes rest Nat.zero_lt_one passes).table]
  refine blocked_sweeps 101 clogged.store.rows.distinct ?_ rfl (by decide +kernel)
  exact List.mem_map.mpr ⟨100,by simp,rfl⟩

end Ticketbus.Outbox
