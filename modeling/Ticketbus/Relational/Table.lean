import Mathlib.Data.List.Nodup
import Mathlib.Data.List.Forall2
import Mathlib.Algebra.BigOperators.Group.List.Basic

/-! Tables with a primary key. A table carries the proof that its key column is
unique, so a lookup by key is a partial function and an update by key touches at
most one row. -/
namespace Ticketbus.Relational

structure Table (Row : Type) {Key : Type} (key : Row → Key) where
  rows : List Row
  distinct : (rows.map key).Nodup

namespace Table
variable {Row Key : Type} {key : Row → Key}

def empty : Table Row key := ⟨[],List.nodup_nil⟩

instance : EmptyCollection (Table Row key) := ⟨empty⟩

@[simp] theorem rows_empty : (∅ : Table Row key).rows = [] := rfl

theorem eq_of_key (table : Table Row key) {left right : Row} (inLeft : left ∈ table.rows)
    (inRight : right ∈ table.rows) (same : key left = key right) : left = right :=
  List.inj_on_of_nodup_map table.distinct inLeft inRight same

variable [DecidableEq Key]

def find? (table : Table Row key) (wanted : Key) : Option Row :=
  table.rows.find? (fun row => key row = wanted)

theorem unique_append {Column : Type} [DecidableEq Column] {column : Row → Column} {rows : List Row} {row : Row}
    (unique : (rows.map column).Nodup) (free : rows.find? (fun old => column old = column row) = none) :
    ((rows ++ [row]).map column).Nodup := by
  rw [List.map_append,List.map_singleton,List.nodup_append]
  refine ⟨unique,List.nodup_singleton _,?_⟩
  intro used member other single
  obtain ⟨old,inside,rfl⟩ := List.mem_map.mp member
  rw [List.mem_singleton.mp single]
  exact fun same => List.find?_eq_none.mp free old inside (decide_eq_true same)

/-- INSERT of a row whose key is not in use. -/
def insert (table : Table Row key) (row : Row) (fresh : table.find? (key row) = none) : Table Row key where
  rows := table.rows ++ [row]
  distinct := unique_append table.distinct fresh

def replace (table : Table Row key) (row : Row) : Table Row key where
  rows := table.rows.map (fun old => if key old = key row then row else old)
  distinct := by
    have same : (table.rows.map (fun old => if key old = key row then row else old)).map key =
        table.rows.map key := by
      rw [List.map_map]
      apply List.map_congr_left
      intro old _
      by_cases equal : key old = key row <;> simp [equal]
    rw [same]
    exact table.distinct

def erase (table : Table Row key) (unwanted : Key) : Table Row key where
  rows := table.rows.filter (fun row => key row ≠ unwanted)
  distinct := table.distinct.sublist (List.filter_sublist.map key)

theorem find?_eq_some (table : Table Row key) (wanted : Key) (row : Row) :
    table.find? wanted = some row ↔ row ∈ table.rows ∧ key row = wanted := by
  constructor
  · intro found
    exact ⟨List.mem_of_find?_eq_some found,by simpa using List.find?_some found⟩
  · rintro ⟨member,rfl⟩
    cases found : table.find? (key row) with
    | none =>
      simp only [find?,List.find?_eq_none,decide_eq_true_eq] at found
      exact absurd rfl (found row member)
    | some other =>
      have inside : other ∈ table.rows := List.mem_of_find?_eq_some found
      have same : key other = key row := by simpa using List.find?_some found
      rw [table.eq_of_key inside member same]

theorem find?_mem {table : Table Row key} {wanted : Key} {row : Row}
    (found : table.find? wanted = some row) : row ∈ table.rows :=
  ((table.find?_eq_some wanted row).mp found).1

theorem find?_key {table : Table Row key} {wanted : Key} {row : Row}
    (found : table.find? wanted = some row) : key row = wanted :=
  ((table.find?_eq_some wanted row).mp found).2

theorem find?_of_mem {table : Table Row key} {row : Row} (member : row ∈ table.rows) :
    table.find? (key row) = some row := (table.find?_eq_some _ row).mpr ⟨member,rfl⟩

theorem isSome_of_mem {table : Table Row key} {row : Row} (member : row ∈ table.rows) :
    (table.find? (key row)).isSome := by
  rw [find?_of_mem member]
  rfl

theorem find?_eq_none (table : Table Row key) (wanted : Key) :
    table.find? wanted = none ↔ ∀ row ∈ table.rows, key row ≠ wanted := by
  simp [find?]

@[simp] theorem mem_insert (table : Table Row key) (row other : Row)
    (fresh : table.find? (key row) = none) :
    other ∈ (table.insert row fresh).rows ↔ other ∈ table.rows ∨ other = row := by
  simp [insert]

theorem mem_replace (table : Table Row key) (row other : Row) :
    other ∈ (table.replace row).rows ↔
      (other ∈ table.rows ∧ key other ≠ key row) ∨
        (other = row ∧ (table.find? (key row)).isSome) := by
  simp only [replace,List.mem_map]
  constructor
  · rintro ⟨old,member,rfl⟩
    by_cases same : key old = key row
    · rw [if_pos same,← same,find?_of_mem member]
      exact .inr ⟨rfl,rfl⟩
    · rw [if_neg same]
      exact .inl ⟨member,same⟩
  · rintro (⟨member,distinct⟩ | ⟨rfl,present⟩)
    · exact ⟨other,member,if_neg distinct⟩
    · obtain ⟨old,found⟩ := Option.isSome_iff_exists.mp present
      exact ⟨old,find?_mem found,if_pos (find?_key found)⟩

@[simp] theorem mem_erase (table : Table Row key) (unwanted : Key) (row : Row) :
    row ∈ (table.erase unwanted).rows ↔ row ∈ table.rows ∧ key row ≠ unwanted := by
  simp [erase]

theorem find?_insert (table : Table Row key) (row : Row) (wanted : Key)
    (fresh : table.find? (key row) = none) :
    (table.insert row fresh).find? wanted = if key row = wanted then some row else table.find? wanted := by
  by_cases same : key row = wanted
  · rw [if_pos same,find?_eq_some]
    exact ⟨by simp,same⟩
  · rw [if_neg same]
    simp [find?,insert,same]

theorem find?_insert_of_some {table : Table Row key} {row old : Row} {wanted : Key}
    (fresh : table.find? (key row) = none) (found : table.find? wanted = some old) :
    (table.insert row fresh).find? wanted = some old := by
  rw [find?_insert,if_neg ?_,found]
  rintro rfl
  cases fresh.symm.trans found

theorem find?_insert_isSome {table : Table Row key} {wanted : Key} (row : Row) (fresh : table.find? (key row) = none)
    (present : (table.find? wanted).isSome) : ((table.insert row fresh).find? wanted).isSome := by
  obtain ⟨old,found⟩ := Option.isSome_iff_exists.mp present
  rw [find?_insert_of_some fresh found]
  rfl

theorem find?_replace (table : Table Row key) (row : Row) (wanted : Key) :
    (table.replace row).find? wanted =
      if key row = wanted then (table.find? wanted).map (fun _ => row) else table.find? wanted := by
  by_cases same : key row = wanted
  · rw [if_pos same]
    cases found : table.find? wanted with
    | none =>
      rw [find?_eq_none] at found
      rw [Option.map_none,find?_eq_none]
      intro other member
      rcases (table.mem_replace row other).mp member with ⟨inside,_⟩ | ⟨rfl,present⟩
      · exact found other inside
      · obtain ⟨old,isOld⟩ := Option.isSome_iff_exists.mp present
        exact absurd ((find?_key isOld).trans same) (found old (find?_mem isOld))
    | some old =>
      rw [Option.map_some,find?_eq_some,mem_replace]
      exact ⟨.inr ⟨rfl,by rw [same,found]; rfl⟩,same⟩
  · rw [if_neg same]
    have equivalent (other : Row) :
        (table.replace row).find? wanted = some other ↔ table.find? wanted = some other := by
      rw [find?_eq_some,find?_eq_some,mem_replace]
      constructor
      · rintro ⟨⟨inside,_⟩ | ⟨rfl,_⟩,isWanted⟩
        · exact ⟨inside,isWanted⟩
        · exact absurd isWanted same
      · rintro ⟨inside,isWanted⟩
        exact ⟨.inl ⟨inside,fun equal => same (equal ▸ isWanted)⟩,isWanted⟩
    exact Option.ext equivalent

theorem find?_replace_self {table : Table Row key} {row old : Row}
    (found : table.find? (key row) = some old) : (table.replace row).find? (key row) = some row := by
  rw [find?_replace,if_pos rfl,found,Option.map_some]

theorem find?_replace_ne {table : Table Row key} {row : Row} {wanted : Key}
    (distinct : key row ≠ wanted) : (table.replace row).find? wanted = table.find? wanted := by
  rw [find?_replace,if_neg distinct]

theorem find?_replace_isSome (table : Table Row key) (row : Row) (wanted : Key) :
    ((table.replace row).find? wanted).isSome = (table.find? wanted).isSome := by
  rw [find?_replace]
  split <;> simp

theorem map_replace {β : Type} (table : Table Row key) (row old : Row) (column : Row → β)
    (found : table.find? (key row) = some old) (same : column row = column old) :
    (table.replace row).rows.map column = table.rows.map column := by
  simp only [replace,List.map_map]
  apply List.map_congr_left
  intro other member
  simp only [Function.comp_apply]
  split
  · rename_i equal
    have stored : other = old := by
      rw [← equal,find?_of_mem member] at found
      exact Option.some.inj found
    rw [same,stored]
  · rfl

theorem find?_map_replace {β : Type} (table : Table Row key) (row old : Row) (column : Row → β)
    (found : table.find? (key row) = some old) (same : column row = column old) (wanted : Key) :
    ((table.replace row).find? wanted).map column = (table.find? wanted).map column := by
  rw [find?_replace]
  split
  · rename_i isWanted
    rw [← isWanted,found,Option.map_some,Option.map_some,Option.map_some,same]
  · rfl

theorem find?_erase (table : Table Row key) (unwanted wanted : Key) :
    (table.erase unwanted).find? wanted = if unwanted = wanted then none else table.find? wanted := by
  by_cases same : unwanted = wanted
  · rw [if_pos same,find?_eq_none]
    intro row member
    rw [← same]
    exact ((table.mem_erase unwanted row).mp member).2
  · rw [if_neg same]
    apply Option.ext
    intro row
    rw [find?_eq_some,find?_eq_some,mem_erase]
    exact ⟨fun ⟨⟨inside,_⟩,isWanted⟩ => ⟨inside,isWanted⟩,
      fun ⟨inside,isWanted⟩ => ⟨⟨inside,fun equal => same (equal.symm.trans isWanted)⟩,isWanted⟩⟩

end Table

theorem forall₂_source {α β : Type} {related : α → β → Prop} {sources : List α} {images : List β}
    (all : List.Forall₂ related sources images) : ∀ image ∈ images, ∃ source ∈ sources, related source image := by
  induction all with
  | nil => simp
  | cons head tail ih =>
    intro image member
    rcases List.mem_cons.mp member with rfl | inside
    · exact ⟨_,List.mem_cons_self,head⟩
    · obtain ⟨source,present,same⟩ := ih image inside
      exact ⟨source,List.mem_cons_of_mem _ present,same⟩

end Ticketbus.Relational
