import Ticketbus.Outbox

/-! The backlog of an outbox under one pass after the other. A pass takes up the hundred
undelivered rows with the lowest ids and delivers those among them that can be published,
so a row is reached in the end unless a hundred rows that cannot be are in front of it. -/
namespace Ticketbus.Outbox

section Limit
variable {α : Type} {key : α → Nat} {sorted : List α} {limit : Nat} {value : α}

theorem countP_of_mem_take (order : sorted.Pairwise fun left right => key left ≤ key right)
    (taken : value ∈ sorted.take limit) : sorted.countP (fun other => key other < key value) < limit := by
  obtain ⟨before,after,split⟩ := List.append_of_mem taken
  have whole : sorted = before ++ value :: (after ++ sorted.drop limit) := by
    rw [← List.cons_append,← List.append_assoc,← split,List.take_append_drop]
  have short : before.length < limit := by
    have size := congrArg List.length split
    rw [List.length_append,List.length_cons,List.length_take] at size
    omega
  have behind : (value :: (after ++ sorted.drop limit)).countP (fun other => key other < key value) = 0 := by
    rw [whole,List.pairwise_append] at order
    have above := (List.pairwise_cons.mp order.2.1).1
    rw [List.countP_eq_zero]
    intro other listed
    rcases List.mem_cons.mp listed with rfl | later
    · simp
    · simpa using above other later
  calc sorted.countP (fun other => key other < key value)
      = before.countP (fun other => key other < key value) := by
        conv_lhs => rw [whole]
        rw [List.countP_append,behind,add_zero]
    _ ≤ before.length := List.countP_le_length
    _ < limit := short

theorem mem_take_of_countP (order : sorted.Pairwise fun left right => key left ≤ key right) (member : value ∈ sorted)
    (distinct : ∀ other ∈ sorted, key other = key value → other = value)
    (few : sorted.countP (fun other => key other < key value) < limit) : value ∈ sorted.take limit := by
  have whole := List.take_append_drop limit sorted
  by_contra missed
  have later : value ∈ sorted.drop limit := by
    rw [← whole] at member
    exact (List.mem_append.mp member).resolve_left missed
  have full : (sorted.take limit).length = limit := by
    have size := List.length_pos_of_mem later
    rw [List.length_drop] at size
    rw [List.length_take]
    omega
  have front : ∀ other ∈ sorted.take limit, decide (key other < key value) = true := by
    intro other taken
    rw [← whole,List.pairwise_append] at order
    have ordered := order.2.2 other taken value later
    have different : key other ≠ key value := fun same =>
      missed (distinct other (List.mem_of_mem_take taken) same ▸ taken)
    exact decide_eq_true (by omega)
  have all := List.countP_eq_length.mpr front
  rw [← whole,List.countP_append,all,full] at few
  omega

theorem countP_lt {values : List α} {test strong : α → Bool} (stronger : ∀ value ∈ values, strong value = true → test value = true)
    (member : value ∈ values) (passes : test value = true) (fails : strong value = false) :
    values.countP strong < values.countP test := by
  obtain ⟨before,after,rfl⟩ := List.append_of_mem member
  have first : before.countP strong ≤ before.countP test :=
    List.countP_mono_left fun other inside => stronger other (List.mem_append_left _ inside)
  have second : after.countP strong ≤ after.countP test :=
    List.countP_mono_left fun other inside => stronger other (List.mem_append_right _ (List.mem_cons_of_mem _ inside))
  rw [List.countP_append,List.countP_append,List.countP_cons,List.countP_cons,passes,fails]
  simp only [if_true,Bool.false_eq_true,if_false]
  omega

end Limit

variable {Message : Type}

def pending (rows : List (Row Message)) : List (Row Message) :=
  ((rows.filter fun row => !row.delivered).insertionSort fun left right => left.id ≤ right.id).take 100

/-- The undelivered rows of a kind in front of an id. -/
def ahead (kind : Nat → Bool) (rows : List (Row Message)) (id : Nat) : Nat :=
  rows.countP fun row => !row.delivered && (kind row.id && decide (row.id < id))

def settle (failing : Nat → Bool) (batch : List (Row Message)) (row : Row Message) : Row Message :=
  if row.id ∈ batch.map Row.id ∧ failing row.id = false then {row with delivered := true} else row

def sweep (failing : Nat → Bool) (rows : List (Row Message)) : List (Row Message) :=
  rows.map (settle failing (pending rows))

section Rows
variable {failing : Nat → Bool} {rows batch : List (Row Message)} {row : Row Message}

theorem ahead_mono {kind : Nat → Bool} {id later : Nat} (order : id ≤ later) :
    ahead kind rows id ≤ ahead kind rows later := by
  apply List.countP_mono_left
  intro other _ counted
  simp only [Bool.and_eq_true,decide_eq_true_eq] at counted ⊢
  exact ⟨counted.1,counted.2.1,by omega⟩

theorem mem_pending_iff (distinct : (rows.map Row.id).Nodup) (member : row ∈ rows) (waits : row.delivered = false) :
    row ∈ pending rows ↔ ahead (fun _ => true) rows row.id < 100 := by
  have total : Std.Total (fun left right : Row Message => left.id ≤ right.id) := ⟨fun left right => le_total _ _⟩
  have trans : IsTrans (Row Message) (fun left right => left.id ≤ right.id) := ⟨fun _ _ _ => le_trans⟩
  have waiting : row ∈ rows.filter fun row => !row.delivered := List.mem_filter.mpr ⟨member,by simp [waits]⟩
  have inside := (List.mem_insertionSort fun left right : Row Message => left.id ≤ right.id).mpr waiting
  have count : ahead (fun _ => true) rows row.id = ((rows.filter fun row => !row.delivered).insertionSort
      fun left right => left.id ≤ right.id).countP fun other => other.id < row.id := by
    rw [(List.perm_insertionSort _ _).countP_eq,List.countP_filter]
    simp [ahead,Bool.and_comm]
  rw [count]
  have order := List.pairwise_insertionSort (fun left right : Row Message => left.id ≤ right.id)
    (rows.filter fun row => !row.delivered)
  constructor
  · exact countP_of_mem_take order
  · refine mem_take_of_countP order inside fun other listed same => ?_
    have stored := List.mem_of_mem_filter ((List.mem_insertionSort _).mp listed)
    exact List.inj_on_of_nodup_map distinct stored member same

theorem pending_stored (taken : row ∈ pending rows) : row ∈ rows ∧ row.delivered = false := by
  have waiting := (List.mem_insertionSort _).mp (List.mem_of_mem_take taken)
  simpa using List.mem_filter.mp waiting

@[simp] theorem settle_id : (settle failing batch row).id = row.id := by
  unfold settle
  split <;> rfl

@[simp] theorem settle_message : (settle failing batch row).message = row.message := by
  unfold settle
  split <;> rfl

theorem settle_delivered (delivered : row.delivered = true) : (settle failing batch row).delivered = true := by
  unfold settle
  split
  · rfl
  · exact delivered

theorem settle_waits (waits : (settle failing batch row).delivered = false) : settle failing batch row = row := by
  unfold settle at waits ⊢
  split at waits
  · cases waits
  · rename_i other
    rw [if_neg other]

theorem sweep_ids : (sweep failing rows).map Row.id = rows.map Row.id := by
  rw [sweep,List.map_map]
  exact List.map_congr_left fun _ _ => settle_id

theorem ahead_sweep {id : Nat} : ahead failing (sweep failing rows) id = ahead failing rows id := by
  unfold ahead sweep
  rw [List.countP_map]
  apply List.countP_congr
  intro other _
  rw [Function.comp_apply,settle_id]
  cases fails : failing other.id with
  | false => simp
  | true =>
    have same : settle failing (pending rows) other = other := by simp [settle,fails]
    rw [same]

def healthy (failing : Nat → Bool) (rows : List (Row Message)) (id : Nat) : Nat :=
  rows.countP fun row => !row.delivered && (!failing row.id && decide (row.id ≤ id))

theorem exists_first (member : row ∈ rows) (waits : row.delivered = false) (good : failing row.id = false) :
    ∃ first ∈ rows, first.delivered = false ∧ failing first.id = false ∧ first.id ≤ row.id ∧
      ∀ other ∈ rows, other.delivered = false → failing other.id = false → first.id ≤ other.id := by
  classical
  have some : ∃ id, ∃ other ∈ rows, other.delivered = false ∧ failing other.id = false ∧ other.id = id :=
    ⟨row.id,row,member,waits,good,rfl⟩
  obtain ⟨first,stored,undelivered,works,least⟩ := Nat.find_spec some
  refine ⟨first,stored,undelivered,works,?_,fun other inside open_ fine => ?_⟩
  · rw [least]
    exact Nat.find_min' some ⟨row,member,waits,good,rfl⟩
  · rw [least]
    exact Nat.find_min' some ⟨other,inside,open_,fine,rfl⟩

theorem healthy_sweep (distinct : (rows.map Row.id).Nodup) (member : row ∈ rows) (waits : row.delivered = false)
    (good : failing row.id = false) (unblocked : ahead failing rows row.id < 100) :
    healthy failing (sweep failing rows) row.id < healthy failing rows row.id := by
  obtain ⟨first,stored,undelivered,works,order,least⟩ := exists_first member waits good
  -- only failing rows are in front of it, so it is taken up
  have front : ahead (fun _ => true) rows first.id ≤ ahead failing rows first.id := by
    apply List.countP_mono_left
    intro other inside counted
    simp only [Bool.and_eq_true,Bool.not_eq_true',Bool.true_and,decide_eq_true_eq] at counted ⊢
    refine ⟨counted.1,?_,counted.2⟩
    by_contra fine
    have later := least other inside counted.1 (Bool.eq_false_of_not_eq_true fine)
    omega
  have taken : first ∈ pending rows := by
    rw [mem_pending_iff distinct stored undelivered]
    exact lt_of_le_of_lt front (lt_of_le_of_lt (ahead_mono order) unblocked)
  unfold healthy sweep
  rw [List.countP_map]
  refine countP_lt (fun other inside counted => ?_) stored (by simp [undelivered,works,order]) ?_
  · simp only [Function.comp_apply,Bool.and_eq_true,Bool.not_eq_true'] at counted ⊢
    rw [settle_waits counted.1] at counted
    exact counted
  · have settled : (settle failing (pending rows) first).delivered = true := by
      rw [settle,if_pos ⟨List.mem_map_of_mem taken,works⟩]
    simp [settled]

theorem settle_stored (member : row ∈ rows) : settle failing (pending rows) row ∈ sweep failing rows :=
  List.mem_map_of_mem member

theorem delivered_sweeps (passes : Nat) (distinct : (rows.map Row.id).Nodup) (member : row ∈ rows)
    (good : failing row.id = false) (unblocked : ahead failing rows row.id < 100)
    (enough : row.delivered = true ∨ healthy failing rows row.id ≤ passes) :
    ∃ last ∈ (sweep failing)^[passes] rows, last.id = row.id ∧ last.message = row.message ∧ last.delivered = true := by
  induction passes generalizing rows row with
  | zero =>
    refine ⟨row,member,rfl,rfl,enough.elim id fun none => ?_⟩
    have counted := List.countP_eq_zero.mp (Nat.le_zero.mp none) row member
    simpa [good] using counted
  | succ passes ih =>
    rw [Function.iterate_succ_apply]
    have again : ((sweep failing rows).map Row.id).Nodup := by
      rw [sweep_ids]
      exact distinct
    have fewer : (settle failing (pending rows) row).delivered = true ∨
        healthy failing (sweep failing rows) row.id ≤ passes := by
      cases waits : row.delivered with
      | true => exact .inl (settle_delivered waits)
      | false =>
        have less := healthy_sweep distinct member waits good unblocked
        rw [waits] at enough
        exact .inr (by simp only [Bool.false_eq_true,false_or] at enough; omega)
    have rest := ih again (settle_stored member) (by rw [settle_id]; exact good)
      (by rw [settle_id,ahead_sweep]; exact unblocked) (by rw [settle_id]; exact fewer)
    rw [settle_id,settle_message] at rest
    exact rest

theorem blocked_sweeps (passes : Nat) (distinct : (rows.map Row.id).Nodup) (member : row ∈ rows)
    (waits : row.delivered = false) (blocked : 100 ≤ ahead failing rows row.id) :
    row ∈ (sweep failing)^[passes] rows := by
  induction passes generalizing rows with
  | zero => exact member
  | succ passes ih =>
    rw [Function.iterate_succ_apply]
    have all : ahead failing rows row.id ≤ ahead (fun _ => true) rows row.id := by
      apply List.countP_mono_left
      intro other _ counted
      simp only [Bool.and_eq_true,Bool.true_and] at counted ⊢
      exact ⟨counted.1,counted.2.2⟩
    have missed : row.id ∉ (pending rows).map Row.id := by
      intro listed
      obtain ⟨other,taken,same⟩ := List.mem_map.mp listed
      have equal := List.inj_on_of_nodup_map distinct (pending_stored taken).1 member same
      have few := (mem_pending_iff distinct member waits).mp (equal ▸ taken)
      omega
    have stays : settle failing (pending rows) row = row := if_neg fun taken => missed taken.1
    refine ih (by rw [sweep_ids]; exact distinct) ?_ (by rw [ahead_sweep]; exact blocked)
    have stored : settle failing (pending rows) row ∈ sweep failing rows := settle_stored member
    rw [stays] at stored
    exact stored

end Rows
end Ticketbus.Outbox
