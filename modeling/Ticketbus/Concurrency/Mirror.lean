import Ticketbus.Concurrency.Pool

/-! Simulation of one transition system by another, and of a pool by one that also runs
calls in the background. -/
namespace Ticketbus.Concurrency

section Simulation
variable {Node Act Node' Act' : Type} {next : Node → Act → Option Node} {guard : Node → Act → Prop}
variable {next' : Node' → Act' → Option Node'} {guard' : Node' → Act' → Prop}

theorem Path.simulated {first last : Node} {first' : Node'} (alike : Node → Node' → Prop) (initially : alike first first')
    (matched : ∀ node action after node', Path next guard first node → guard node action →
      next node action = some after → alike node node' →
      ∃ after', Path next' guard' node' after' ∧ alike after after')
    (path : Path next guard first last) : ∃ last', Path next' guard' first' last' ∧ alike last last' := by
  induction path with
  | refl => exact ⟨first',.refl,initially⟩
  | step action path permitted taken ih =>
    obtain ⟨node',before,related⟩ := ih
    obtain ⟨after',rest,still⟩ := matched _ action _ node' path permitted taken related
    exact ⟨after',before.trans rest,still⟩

end Simulation

section Coupling
variable {Left Right LeftAct RightAct : Type}
variable {onLeft : Left → LeftAct → Option Left} {onRight : Right → RightAct → Option Right}
variable {guard : Left × Right → LeftAct ⊕ RightAct → Prop} {left left' : Left} {right right' : Right}

theorem Path.besideRight {own : Left → LeftAct → Prop} (path : Path onLeft own left left')
    (permitted : ∀ node action, own node action → guard (node,right) (.inl action)) :
    Path (coupled onLeft onRight) guard (left,right) (left',right) := by
  induction path with
  | refl => exact .refl
  | step action path allowed taken ih =>
    exact .step (.inl action) ih (permitted _ _ allowed) (Option.map_eq_some_iff.mpr ⟨_,taken,rfl⟩)

theorem Path.besideLeft {own : Right → RightAct → Prop} (path : Path onRight own right right')
    (permitted : ∀ node action, own node action → guard (left,node) (.inr action)) :
    Path (coupled onLeft onRight) guard (left,right) (left,right') := by
  induction path with
  | refl => exact .refl
  | step action path allowed taken ih =>
    exact .step (.inr action) ih (permitted _ _ allowed) (Option.map_eq_some_iff.mpr ⟨_,taken,rfl⟩)

end Coupling

section Filter
variable {α : Type} {keep : α → Bool} {items : List α} {index : Nat} {item : α}

theorem exists_getElem_of_filter (found : (items.filter keep)[index]? = some item) :
    ∃ place, items[place]? = some item ∧
      ∀ other, keep other = true → (items.set place other).filter keep = (items.filter keep).set index other := by
  induction items generalizing index with
  | nil => cases found
  | cons first rest ih =>
    by_cases kept : keep first = true
    · rw [List.filter_cons_of_pos kept] at found
      cases index with
      | zero =>
        cases found
        refine ⟨0,rfl,fun other isKept => ?_⟩
        rw [List.set_cons_zero,List.filter_cons_of_pos isKept,List.filter_cons_of_pos kept,List.set_cons_zero]
      | succ index =>
        obtain ⟨place,isPlace,replaced⟩ := ih found
        refine ⟨place + 1,isPlace,fun other isKept => ?_⟩
        rw [List.set_cons_succ,List.filter_cons_of_pos kept,List.filter_cons_of_pos kept,List.set_cons_succ,
          replaced other isKept]
    · rw [List.filter_cons_of_neg kept] at found
      obtain ⟨place,isPlace,replaced⟩ := ih found
      refine ⟨place + 1,isPlace,fun other isKept => ?_⟩
      rw [List.set_cons_succ,List.filter_cons_of_neg kept,List.filter_cons_of_neg kept,replaced other isKept]

theorem filter_set_of_not (found : items[index]? = some item) (dropped : keep item = false) {other : α}
    (alsoDropped : keep other = false) : (items.set index other).filter keep = items.filter keep := by
  induction items generalizing index with
  | nil => rfl
  | cons first rest ih =>
    cases index with
    | zero =>
      cases found
      rw [List.set_cons_zero,List.filter_cons_of_neg (by simp [alsoDropped]),List.filter_cons_of_neg (by simp [dropped])]
    | succ index => rw [List.set_cons_succ,List.filter_cons,List.filter_cons,ih found]

end Filter

variable {Op : Type} {Reply : Op → Type} {World Fault Call Result : Type}
variable {service : Service Op Reply World Fault Call Result}

/-- The larger pool runs the calls of the smaller one and others besides, over a world that
is like the smaller one's. -/
structure Mirrors (foreground : Call → Bool) (alike : World → World → Prop)
    (small large : Config Op Reply World Call Result) : Prop where
  threads : large.threads.filter (fun thread => foreground thread.call) = small.threads
  worlds : alike small.state.world large.state.world

namespace Mirrors
variable {foreground : Call → Bool} {alike : World → World → Prop}
variable {small large after : Config Op Reply World Call Result}

theorem idle (world world' : World) (related : alike world world') :
    Mirrors foreground alike (Config.idle world : Config Op Reply World Call Result) (Config.idle world') :=
  ⟨rfl,related⟩

theorem start (mirrors : Mirrors foreground alike small large) {call : Call} (isForeground : foreground call = true)
    (taken : small.next service (.start call) = some after) :
    ∃ after', large.next service (.start call) = some after' ∧ Mirrors foreground alike after after' ∧
      after'.state = large.state := by
  cases taken
  refine ⟨_,rfl,⟨?_,mirrors.worlds⟩,rfl⟩
  rw [List.filter_append,mirrors.threads]
  simp [isForeground]

theorem step (mirrors : Mirrors foreground alike small large) {index : Nat} {fault : Fault}
    (blind : ∀ call op next, small.threads[index]? = some ⟨call,some (.perform op next)⟩ →
      (service.execute op fault large.state.world).1 = (service.execute op fault small.state.world).1 ∧
      alike (service.execute op fault small.state.world).2 (service.execute op fault large.state.world).2)
    (taken : small.next service (.step index fault) = some after) :
    ∃ call op next place after', small.threads[index]? = some ⟨call,some (.perform op next)⟩ ∧
      large.next service (.step place fault) = some after' ∧ Mirrors foreground alike after after' ∧
      after'.state.world = (service.execute op fault large.state.world).2 := by
  obtain ⟨call,op,next,found,rfl⟩ := Config.next_step _ _ _ _ _ taken
  obtain ⟨same,related⟩ := blind call op next found
  have kept := found
  rw [← mirrors.threads] at kept
  obtain ⟨place,present,replaced⟩ := exists_getElem_of_filter kept
  have isForeground : foreground call = true := (List.mem_filter.mp (List.mem_of_getElem? kept)).2
  refine ⟨call,op,next,place,⟨large.state.after service place op fault,large.threads.set place
    ⟨call,some (next (service.execute op fault large.state.world).1)⟩⟩,found,?_,⟨?_,related⟩,rfl⟩
  · simp only [Config.next,present]
  · rw [same,← mirrors.threads]
    exact replaced _ isForeground

theorem stop (mirrors : Mirrors foreground alike small large) {index : Nat}
    (taken : small.next service (.stop index) = some after) :
    ∃ place after', large.next service (.stop place) = some after' ∧ Mirrors foreground alike after after' ∧
      after'.state = large.state := by
  obtain ⟨call,program,found,rfl⟩ := Config.next_stop _ _ _ _ taken
  have kept := found
  rw [← mirrors.threads] at kept
  obtain ⟨place,present,replaced⟩ := exists_getElem_of_filter kept
  have isForeground : foreground call = true := (List.mem_filter.mp (List.mem_of_getElem? kept)).2
  refine ⟨place,{large with threads := large.threads.set place ⟨call,none⟩},?_,⟨?_,mirrors.worlds⟩,rfl⟩
  · simp only [Config.next,present]
  · rw [← mirrors.threads]
    exact replaced _ isForeground

theorem startBackground (mirrors : Mirrors foreground alike small large) {call : Call} (background : foreground call = false) :
    Mirrors foreground alike small {large with threads := large.threads ++ [⟨call,some (service.program call)⟩]} := by
  refine ⟨?_,mirrors.worlds⟩
  rw [List.filter_append,mirrors.threads]
  simp [background]

theorem stepBackground (mirrors : Mirrors foreground alike small large) {index : Nat} {fault : Fault} {call : Call} {op : Op}
    {next : Reply op → Program Op Reply Result} (found : large.threads[index]? = some ⟨call,some (.perform op next)⟩)
    (background : foreground call = false)
    (related : alike small.state.world (service.execute op fault large.state.world).2) :
    Mirrors foreground alike small ⟨large.state.after service index op fault,large.threads.set index
      ⟨call,some (next (service.execute op fault large.state.world).1)⟩⟩ := by
  refine ⟨?_,related⟩
  rw [← mirrors.threads]
  exact filter_set_of_not found background background

end Mirrors
end Ticketbus.Concurrency
