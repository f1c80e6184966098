import Mathlib.Algebra.GroupWithZero.Nat

/-! Goroutines that share a channel: a buffered channel, and a crew that ranges over it
until it is closed and drained. -/
namespace Ticketbus.Concurrency
variable {α Job : Type}

structure Channel (α : Type) where
  capacity : Nat
  queue : List α
  closed : Bool
  deriving DecidableEq, Repr

inductive Hand (Job : Type) where
  | receiving
  | busy (job : Job)
  | finished
  deriving DecidableEq, Repr

def Hand.weight (effort : Job → Nat) : Hand Job → Nat
  | .receiving => 1
  | .busy job => effort job + 1
  | .finished => 0

structure Crew (α Job : Type) where
  jobs : Channel α
  hands : List (Hand Job)
  deriving DecidableEq, Repr

namespace Crew

def muster (capacity concurrency : Nat) : Crew α Job := ⟨⟨capacity,[],false⟩,List.replicate concurrency .receiving⟩

def send (crew : Crew α Job) (value : α) : Option (Crew α Job) :=
  if crew.jobs.closed = false ∧ crew.jobs.queue.length < crew.jobs.capacity then
    some {crew with jobs := {crew.jobs with queue := crew.jobs.queue ++ [value]}}
  else none

def close (crew : Crew α Job) : Crew α Job := {crew with jobs := {crew.jobs with closed := true}}

/-- The head of the loop at one of the hands. It takes the next value, or leaves the loop
when the channel is closed and drained; otherwise it blocks. -/
def receive (begin : α → Job) (crew : Crew α Job) (index : Nat) : Option (Crew α Job) :=
  match crew.hands[index]?,crew.jobs.queue with
  | some .receiving,value :: rest =>
    some ⟨{crew.jobs with queue := rest},crew.hands.set index (.busy (begin value))⟩
  | some .receiving,[] =>
    if crew.jobs.closed then some {crew with hands := crew.hands.set index .finished} else none
  | _,_ => none

def jobAt (crew : Crew α Job) (index : Nat) : Option Job :=
  match crew.hands[index]? with
  | some (.busy job) => some job
  | _ => none

def proceed (crew : Crew α Job) (index : Nat) (hand : Hand Job) : Crew α Job :=
  {crew with hands := crew.hands.set index hand}

def dismissed (crew : Crew α Job) : Bool :=
  crew.hands.all fun hand =>
    match hand with
    | .finished => true
    | _ => false

structure Each (queued : α → Prop) (busy : Job → Prop) (crew : Crew α Job) : Prop where
  queue : ∀ value ∈ crew.jobs.queue, queued value
  hands : ∀ job, .busy job ∈ crew.hands → busy job

theorem jobAt_mem {crew : Crew α Job} {index : Nat} {job : Job} (found : crew.jobAt index = some job) :
    .busy job ∈ crew.hands := by
  unfold jobAt at found
  split at found
  · rename_i present
    cases found
    exact List.mem_of_getElem? present
  · cases found

namespace Each
variable {queued : α → Prop} {busy : Job → Prop} {crew after : Crew α Job}

theorem mono {queued' : α → Prop} {busy' : Job → Prop} (each : crew.Each queued busy)
    (queues : ∀ value, queued value → queued' value) (works : ∀ job, busy job → busy' job) :
    crew.Each queued' busy' :=
  ⟨fun value member => queues value (each.queue value member),fun job member => works job (each.hands job member)⟩

theorem muster (capacity concurrency : Nat) : (Crew.muster capacity concurrency : Crew α Job).Each queued busy := by
  refine ⟨fun value member => (nomatch member),fun job member => ?_⟩
  cases (List.mem_replicate.mp member).2

theorem send {value : α} (each : crew.Each queued busy) (good : queued value)
    (sent : crew.send value = some after) : after.Each queued busy := by
  unfold Crew.send at sent
  split at sent
  · cases sent
    refine ⟨fun other member => ?_,each.hands⟩
    rcases List.mem_append.mp member with old | new
    · exact each.queue other old
    · cases List.mem_singleton.mp new
      exact good
  · cases sent

theorem proceed {index : Nat} {hand : Hand Job} (each : crew.Each queued busy)
    (good : ∀ job, hand = .busy job → busy job) : (crew.proceed index hand).Each queued busy := by
  refine ⟨each.queue,fun job member => ?_⟩
  rcases List.mem_or_eq_of_mem_set member with old | new
  · exact each.hands job old
  · exact good job new.symm

theorem receive {begin : α → Job} {index : Nat} (each : crew.Each queued busy)
    (begins : ∀ value, queued value → busy (begin value)) (received : crew.receive begin index = some after) :
    after.Each queued busy := by
  unfold Crew.receive at received
  split at received
  · rename_i value rest _ same
    cases received
    have shorter : Each queued busy ⟨{crew.jobs with queue := rest},crew.hands⟩ :=
      ⟨fun other member => each.queue other (same ▸ List.mem_cons_of_mem _ member),each.hands⟩
    refine shorter.proceed fun job is => ?_
    cases is
    exact begins value (each.queue value (same ▸ List.mem_cons_self))
  · split at received
    · cases received
      exact each.proceed fun job is => by cases is
    · cases received
  · cases received

end Each

theorem hands_send {crew after : Crew α Job} {value : α} (sent : crew.send value = some after) :
    after.hands = crew.hands := by
  unfold Crew.send at sent
  split at sent
  · cases sent
    rfl
  · cases sent

theorem hands_receive {begin : α → Job} {crew after : Crew α Job} {index : Nat}
    (received : crew.receive begin index = some after) : after.hands.length = crew.hands.length := by
  unfold Crew.receive at received
  split at received
  · cases received
    exact List.length_set
  · split at received
    · cases received
      exact List.length_set
    · cases received
  · cases received

def Has (begin : α → Job) (crew : Crew α Job) (value : α) : Prop :=
  value ∈ crew.jobs.queue ∨ .busy (begin value) ∈ crew.hands

def idle (crew : Crew α Job) : Bool :=
  crew.jobs.queue.isEmpty && crew.hands.all fun hand =>
    match hand with
    | .busy _ => false
    | _ => true

theorem not_has_of_idle {begin : α → Job} {crew : Crew α Job} (isIdle : crew.idle = true) (value : α) :
    ¬crew.Has begin value := by
  simp only [idle,Bool.and_eq_true,List.isEmpty_iff,List.all_eq_true] at isIdle
  rintro (queued | busy)
  · rw [isIdle.1] at queued
    cases queued
  · exact absurd (isIdle.2 _ busy) Bool.false_ne_true

private theorem mem_set_of_mem {β : Type} {values : List β} {index : Nat} {value new : β} (member : value ∈ values)
    (other : values[index]? ≠ some value) : value ∈ values.set index new := by
  obtain ⟨position,found⟩ := List.mem_iff_getElem?.mp member
  have distinct : index ≠ position := fun same => other (same ▸ found)
  exact List.mem_iff_getElem?.mpr ⟨position,by rw [List.getElem?_set_ne distinct,found]⟩

section Busy
variable {begin : α → Job} {crew after : Crew α Job} {job : Job}

theorem busy_receive {index : Nat} (busy : .busy job ∈ crew.hands) (received : crew.receive begin index = some after) :
    .busy job ∈ after.hands := by
  unfold Crew.receive at received
  split at received
  · rename_i free _
    cases received
    exact mem_set_of_mem busy (by simp [free])
  · rename_i free _
    split at received
    · cases received
      exact mem_set_of_mem busy (by simp [free])
    · cases received
  · cases received

theorem busy_proceed {index : Nat} {other : Job} {hand : Hand Job} (busy : .busy job ∈ crew.hands)
    (found : crew.jobAt index = some other) : job = other ∨ .busy job ∈ (crew.proceed index hand).hands := by
  unfold Crew.jobAt at found
  split at found
  · rename_i present
    cases found
    by_cases same : job = other
    · exact .inl same
    · exact .inr (mem_set_of_mem busy (by simp [present,Ne.symm same]))
  · cases found

theorem busy_proceeded {index : Nat} {other : Job} (found : crew.jobAt index = some other) (hand : Hand Job) :
    hand ∈ (crew.proceed index hand).hands := by
  unfold Crew.jobAt at found
  split at found
  · rename_i present
    exact List.mem_set (List.getElem?_eq_some_iff.mp present).1 _
  · cases found

end Busy

namespace Has
variable {begin : α → Job} {crew after : Crew α Job} {value : α}

theorem send {other : α} (has : crew.Has begin value) (sent : crew.send other = some after) :
    after.Has begin value := by
  unfold Crew.send at sent
  split at sent
  · cases sent
    exact has.imp (List.mem_append_left _) id
  · cases sent

theorem sent (isSent : crew.send value = some after) : after.Has begin value := by
  unfold Crew.send at isSent
  split at isSent
  · cases isSent
    exact .inl (List.mem_append_right _ List.mem_cons_self)
  · cases isSent

theorem receive {index : Nat} (has : crew.Has begin value) (received : crew.receive begin index = some after) :
    after.Has begin value := by
  rcases has with queued | busy
  · unfold Crew.receive at received
    split at received
    · rename_i first rest free same
      cases received
      rw [same] at queued
      rcases List.mem_cons.mp queued with rfl | later
      · exact .inr (List.mem_set (List.getElem?_eq_some_iff.mp free).1 _)
      · exact .inl later
    · rename_i same
      rw [same] at queued
      cases queued
    · cases received
  · exact .inr (busy_receive busy received)

theorem proceed {index : Nat} {job : Job} {hand : Hand Job} (has : crew.Has begin value)
    (found : crew.jobAt index = some job) : begin value = job ∨ (crew.proceed index hand).Has begin value := by
  rcases has with queued | busy
  · exact .inr (.inl queued)
  · exact (busy_proceed busy found).imp id .inr

end Has

/-! A producer that sends all it has, closes the channel and waits. -/

structure Fed (unsent : List α) (crew : Crew α Job) : Prop where
  closed : crew.jobs.closed = true → unsent = []
  finished : .finished ∈ crew.hands → crew.jobs.closed = true ∧ crew.jobs.queue = []
  room : unsent.length + crew.jobs.queue.length ≤ crew.jobs.capacity

namespace Fed
variable {begin : α → Job} {crew after : Crew α Job} {unsent : List α}

theorem muster (values : List α) (concurrency : Nat) : Fed values (Crew.muster values.length concurrency : Crew α Job) := by
  refine ⟨nofun,fun member => ?_,Nat.le_refl _⟩
  cases (List.mem_replicate.mp member).2

theorem send {value : α} (fed : Fed (value :: unsent) crew) (sent : crew.send value = some after) :
    Fed unsent after := by
  unfold Crew.send at sent
  split at sent
  · rename_i allowed
    cases sent
    refine ⟨fun closed => ?_,fun finished => ?_,?_⟩
    · cases fed.closed closed
    · cases fed.closed (fed.finished finished).1
    · have room := fed.room
      simp only [List.length_cons,List.length_append,List.length_nil] at room ⊢
      omega
  · cases sent

theorem send_isSome {value : α} (fed : Fed (value :: unsent) crew) : ∃ after, crew.send value = some after := by
  have open_ : crew.jobs.closed = false := by
    cases closed : crew.jobs.closed with
    | false => rfl
    | true => cases fed.closed closed
  have room := fed.room
  rw [List.length_cons] at room
  exact ⟨_,if_pos ⟨open_,by omega⟩⟩

theorem close (fed : Fed [] crew) : Fed [] crew.close :=
  ⟨fun _ => rfl,fun finished => ⟨rfl,(fed.finished finished).2⟩,fed.room⟩

theorem receive {index : Nat} (fed : Fed unsent crew) (received : crew.receive begin index = some after) :
    Fed unsent after := by
  unfold Crew.receive at received
  split at received
  · rename_i value rest _ same
    cases received
    refine ⟨fed.closed,fun finished => ?_,?_⟩
    · rcases List.mem_or_eq_of_mem_set finished with old | new
      · have empty := (fed.finished old).2
        rw [same] at empty
        cases empty
      · cases new
    · have room := fed.room
      rw [same,List.length_cons] at room
      exact Nat.le_of_succ_le room
  · rename_i same
    split at received
    · rename_i closed
      cases received
      exact ⟨fed.closed,fun _ => ⟨closed,same⟩,fed.room⟩
    · cases received
  · cases received

theorem proceed {index : Nat} {hand : Hand Job} (fed : Fed unsent crew) (working : hand ≠ .finished) :
    Fed unsent (crew.proceed index hand) := by
  refine ⟨fed.closed,fun finished => ?_,fed.room⟩
  rcases List.mem_or_eq_of_mem_set finished with old | new
  · exact fed.finished old
  · exact absurd new.symm working

theorem dismissed (fed : Fed unsent crew) (crewed : 0 < crew.hands.length) (isDismissed : crew.dismissed = true) :
    unsent = [] ∧ crew.jobs.queue = [] ∧ ∀ job, .busy job ∉ crew.hands := by
  simp only [Crew.dismissed,List.all_eq_true] at isDismissed
  obtain ⟨hand,member⟩ := List.exists_mem_of_length_pos crewed
  have finished : .finished ∈ crew.hands := by
    have done := isDismissed hand member
    split at done
    · exact member
    · cases done
  obtain ⟨closed,empty⟩ := fed.finished finished
  refine ⟨fed.closed closed,empty,fun job busy => ?_⟩
  cases isDismissed _ busy

end Fed

def weight (height : Nat) (effort : Job → Nat) (crew : Crew α Job) : Nat :=
  (height + 1) * crew.jobs.queue.length + (if crew.jobs.closed then 0 else 1) +
    (crew.hands.map (Hand.weight effort)).sum

section Weight
variable (height : Nat) (effort : Job → Nat) {begin : α → Job} {crew after : Crew α Job}

private theorem sum_set {β : Type} (cost : β → Nat) {values : List β} {index : Nat} {old : β}
    (found : values[index]? = some old) (new : β) :
    ((values.set index new).map cost).sum + cost old = (values.map cost).sum + cost new := by
  induction values generalizing index with
  | nil => cases found
  | cons value rest ih =>
    cases index with
    | zero =>
      cases found
      simp only [List.set_cons_zero,List.map_cons,List.sum_cons]
      omega
    | succ index =>
      have later := ih found
      simp only [List.set_cons_succ,List.map_cons,List.sum_cons]
      omega

theorem weight_send {value : α} (sent : crew.send value = some after) :
    after.weight height effort = crew.weight height effort + (height + 1) := by
  unfold Crew.send at sent
  split at sent
  · cases sent
    simp only [weight,List.length_append,List.length_cons,List.length_nil,Nat.zero_add,Nat.mul_add,Nat.mul_one]
    omega
  · cases sent

theorem weight_close (open_ : crew.jobs.closed = false) :
    crew.close.weight height effort + 1 = crew.weight height effort := by
  simp only [weight,close,open_,if_true,Bool.false_eq_true,if_false]
  omega

variable {height effort} in
theorem weight_receive {index : Nat} (bounded : ∀ value, effort (begin value) ≤ height)
    (received : crew.receive begin index = some after) : after.weight height effort < crew.weight height effort := by
  unfold Crew.receive at received
  split at received
  · rename_i value rest free same
    cases received
    have hands := sum_set (Hand.weight effort) free (.busy (begin value))
    have bound := bounded value
    simp only [weight,same,List.length_cons,Nat.mul_add,Nat.mul_one,Hand.weight] at hands ⊢
    omega
  · rename_i free same
    split at received
    · cases received
      have hands := sum_set (Hand.weight effort) free .finished
      simp only [weight,Hand.weight] at hands ⊢
      omega
    · cases received
  · cases received

variable {effort} in
theorem weight_proceed {index : Nat} {job : Job} {hand : Hand Job} (found : crew.jobAt index = some job)
    (less : hand.weight effort ≤ effort job) :
    (crew.proceed index hand).weight height effort < crew.weight height effort := by
  unfold Crew.jobAt at found
  split at found
  · rename_i present
    cases found
    have hands := sum_set (Hand.weight effort) present hand
    have cost : Hand.weight effort (.busy job) = effort job + 1 := rfl
    change (height + 1) * crew.jobs.queue.length + (if crew.jobs.closed then 0 else 1) +
      ((crew.hands.set index hand).map (Hand.weight effort)).sum < crew.weight height effort
    unfold weight
    omega
  · cases found

end Weight

theorem exists_step (begin : α → Job) {crew : Crew α Job} (closed : crew.jobs.closed = true)
    (active : crew.dismissed = false) : (∃ index job, crew.jobAt index = some job) ∨
      ∃ index after, crew.receive begin index = some after := by
  simp only [dismissed,List.all_eq_false] at active
  obtain ⟨hand,member,unfinished⟩ := active
  obtain ⟨index,found⟩ := List.mem_iff_getElem?.mp member
  cases hand with
  | finished => exact absurd rfl unfinished
  | busy job => exact .inl ⟨index,job,by rw [jobAt,found]⟩
  | receiving =>
    refine .inr ⟨index,?_⟩
    unfold receive
    rw [found]
    cases crew.jobs.queue with
    | nil => exact ⟨_,if_pos closed⟩
    | cons value rest => exact ⟨_,rfl⟩

end Crew
end Ticketbus.Concurrency
