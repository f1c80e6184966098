import Mathlib.Data.List.Sort
import Mathlib.Data.List.Nodup
import Mathlib.Data.Nat.Find

/-! Reading a result page by page. ORDER BY fixes the sequence of the sort keys and leaves rows with equal
keys in any order, which need not be the same in the next query; LIMIT and OFFSET cut a page out of whatever
came. The pages of several queries fit together exactly when no page boundary separates rows with equal keys. -/
namespace Ticketbus.Relational

structure Listing {Row Key : Type} [LinearOrder Key] (key : Row → Key) (matching : List Row) where
  rows : List Row
  complete : rows.Perm matching
  sorted : rows.Pairwise fun left right => key left ≤ key right

namespace Listing
variable {Row Key : Type} [LinearOrder Key] {key : Row → Key} {matching : List Row}

def arranged (key : Row → Key) {arrangement matching : List Row} (same : arrangement.Perm matching) :
    Listing key matching where
  rows := arrangement.insertionSort fun left right => key left ≤ key right
  complete := (List.perm_insertionSort _ _).trans same
  sorted := by
    have total : Std.Total fun left right : Row => key left ≤ key right := ⟨fun left right => le_total _ _⟩
    have trans : IsTrans Row fun left right => key left ≤ key right := ⟨fun _ _ _ => le_trans⟩
    exact List.pairwise_insertionSort _ _

instance : Nonempty (Listing key matching) := ⟨arranged key (.refl matching)⟩

theorem length_rows (listing : Listing key matching) : listing.rows.length = matching.length :=
  listing.complete.length_eq

end Listing

section Boundary
variable {Row Key : Type} [LinearOrder Key] {key : Row → Key} {matching : List Row}

def sortedKeys (key : Row → Key) (matching : List Row) : List Key :=
  (matching.map key).insertionSort (· ≤ ·)

def Separated (key : Row → Key) (matching : List Row) (position : Nat) : Prop :=
  ((sortedKeys key matching).take position).Disjoint ((sortedKeys key matching).drop position)

theorem Listing.map_key (listing : Listing key matching) : listing.rows.map key = sortedKeys key matching := by
  apply List.Perm.eq_of_pairwise' (List.pairwise_map.mpr listing.sorted) (List.pairwise_insertionSort (· ≤ ·) _)
  exact (listing.complete.map key).trans (List.perm_insertionSort _ _).symm

theorem Separated.of_nodup (distinct : (matching.map key).Nodup) (position : Nat) :
    Separated key matching position := by
  apply List.disjoint_take_drop ?_ le_rfl
  exact (List.perm_insertionSort _ _).nodup_iff.mpr distinct

theorem Separated.of_length_le {position : Nat} (long : matching.length ≤ position) :
    Separated key matching position := by
  have length : (sortedKeys key matching).length = matching.length := by
    rw [sortedKeys,List.length_insertionSort,List.length_map]
  rw [Separated,List.drop_eq_nil_of_le (length.trans_le long)]
  exact List.disjoint_nil_right _

theorem Separated.take_eq_filter {position : Nat} (apart : Separated key matching position)
    (listing : Listing key matching) :
    listing.rows.take position =
      listing.rows.filter fun row => key row ∈ (sortedKeys key matching).take position := by
  have before : ∀ row ∈ listing.rows.take position, key row ∈ (sortedKeys key matching).take position := by
    intro row member
    rw [← listing.map_key,← List.map_take]
    exact List.mem_map_of_mem member
  have behind : ∀ row ∈ listing.rows.drop position, key row ∉ (sortedKeys key matching).take position := by
    intro row member early
    apply apart early
    rw [← listing.map_key,← List.map_drop]
    exact List.mem_map_of_mem member
  conv_rhs => rw [← List.take_append_drop position listing.rows,List.filter_append]
  rw [List.filter_eq_self.mpr (by simpa using before),List.filter_eq_nil_iff.mpr (by simpa using behind),
    List.append_nil]

theorem Separated.take_perm {position : Nat} (apart : Separated key matching position)
    (one other : Listing key matching) : (one.rows.take position).Perm (other.rows.take position) := by
  rw [apart.take_eq_filter one,apart.take_eq_filter other]
  exact (one.complete.trans other.complete.symm).filter _

end Boundary

def Covers {Item : Type} (pages : Nat → List Item) (items : List Item) : Prop :=
  ∃ count, pages count = [] ∧ (∀ number < count, pages number ≠ []) ∧ ((List.range count).flatMap pages).Perm items

theorem Covers.map {Item Shown : Type} {pages : Nat → List Item} {items : List Item} (covered : Covers pages items)
    (display : Item → Shown) : Covers (fun number => (pages number).map display) (items.map display) := by
  obtain ⟨count,last,before,all⟩ := covered
  refine ⟨count,by simp [last],?_,?_⟩
  · intro number early
    simpa using before number early
  · rw [← List.map_flatMap]
    exact all.map display

namespace Listing
variable {Row Key : Type} [LinearOrder Key] {key : Row → Key} {matching : List Row}

def page (listing : Listing key matching) (limit offset : Nat) : List Row :=
  (listing.rows.drop offset).take limit

theorem page_eq_nil (listing : Listing key matching) {limit : Nat} (positive : 0 < limit) (offset : Nat) :
    listing.page limit offset = [] ↔ matching.length ≤ offset := by
  rw [page,List.take_eq_nil_iff,List.drop_eq_nil_iff,listing.length_rows]
  omega

theorem mem_page {listing : Listing key matching} {limit position : Nat} {row : Row} (positive : 0 < limit)
    (found : listing.rows[position]? = some row) : row ∈ listing.page limit (position / limit * limit) := by
  have within : position % limit < limit := Nat.mod_lt _ positive
  have place : position / limit * limit + position % limit = position := Nat.div_add_mod' _ _
  apply List.mem_of_getElem? (i := position % limit)
  rw [page,List.getElem?_take_of_lt within,List.getElem?_drop,place]
  exact found

theorem pages_perm (listings : Nat → Listing key matching) (limit : Nat)
    (apart : ∀ number, Separated key matching (number * limit)) (listing : Listing key matching) (count : Nat) :
    ((List.range count).flatMap fun number => (listings number).page limit (number * limit)).Perm
      (listing.rows.take (count * limit)) := by
  induction count generalizing listing with
  | zero => simp
  | succ count ih =>
    -- The last page continues the rows that its own delivery has before it.
    have whole : (listings count).rows.take (count * limit) ++ (listings count).page limit (count * limit) =
        (listings count).rows.take ((count + 1) * limit) := by
      rw [page,Nat.succ_mul,List.take_add]
    rw [List.range_succ,List.flatMap_append,List.flatMap_singleton]
    apply ((ih (listings count)).append_right _).trans
    rw [whole]
    exact (apart (count + 1)).take_perm _ _

theorem pages_cover (listings : Nat → Listing key matching) {limit : Nat} (positive : 0 < limit)
    (apart : ∀ number, Separated key matching (number * limit)) :
    Covers (fun number => (listings number).page limit (number * limit)) matching := by
  have ends : ∃ count, matching.length ≤ count * limit := ⟨matching.length,Nat.le_mul_of_pos_right _ positive⟩
  refine ⟨Nat.find ends,?_,?_,?_⟩
  · exact (page_eq_nil _ positive _).mpr (Nat.find_spec ends)
  · intro number early empty
    exact Nat.find_min ends early ((page_eq_nil _ positive _).mp empty)
  · have listing := listings 0
    apply (pages_perm listings limit apart listing _).trans
    rw [List.take_of_length_le (listing.length_rows.trans_le (Nat.find_spec ends))]
    exact listing.complete

theorem exists_exchanged (listing : Listing key matching) {first second : Nat} {left right : Row}
    (atFirst : listing.rows[first]? = some left) (atSecond : listing.rows[second]? = some right)
    (tie : key left = key right) : ∃ other : Listing key matching, other.rows[second]? = some left := by
  obtain ⟨firstInside,rfl⟩ := List.getElem?_eq_some_iff.mp atFirst
  obtain ⟨secondInside,rfl⟩ := List.getElem?_eq_some_iff.mp atSecond
  let rows := (listing.rows.set first listing.rows[second]).set second listing.rows[first]
  have keys : rows.map key = listing.rows.map key := by
    have unchanged {position : Nat} (inside : position < listing.rows.length) :
        (listing.rows.map key).set position (key listing.rows[position]) = listing.rows.map key := by
      rw [← List.map_set,List.set_getElem_self]
    rw [List.map_set,List.map_set,← tie,unchanged,tie,unchanged]
  have sorted : (rows.map key).Pairwise (· ≤ ·) := by
    rw [keys]
    exact List.pairwise_map.mpr listing.sorted
  refine ⟨⟨rows,(List.set_set_perm firstInside secondInside).trans listing.complete,List.pairwise_map.mp sorted⟩,?_⟩
  simp [rows,secondInside]

theorem exists_tie (listing : Listing key matching) {position : Nat} (tied : ¬ Separated key matching position) :
    ∃ first second left right, first < position ∧ position ≤ second ∧ listing.rows[first]? = some left ∧
      listing.rows[second]? = some right ∧ key left = key right := by
  simp only [Separated,List.Disjoint,not_forall,← listing.map_key,← List.map_take,← List.map_drop] at tied
  obtain ⟨_,before,behind,_⟩ := tied
  obtain ⟨left,inFront,rfl⟩ := List.mem_map.mp before
  obtain ⟨right,inRest,tie⟩ := List.mem_map.mp behind
  obtain ⟨first,early,rfl⟩ := List.mem_take_iff_getElem.mp inFront
  obtain ⟨distance,late,rfl⟩ := List.mem_drop_iff_getElem.mp inRest
  refine ⟨first,position + distance,_,_,by omega,by omega,?_,?_,tie.symm⟩
  · exact List.getElem?_eq_getElem (by omega)
  · exact List.getElem?_eq_getElem (by omega)

theorem exists_repetition {limit : Nat} (positive : 0 < limit) {number : Nat}
    (tied : ¬ Separated key matching (number * limit)) :
    ∃ (listings : Nat → Listing key matching) (row : Row) (early late : Nat), early < late ∧
      row ∈ (listings early).page limit (early * limit) ∧ row ∈ (listings late).page limit (late * limit) := by
  obtain ⟨listing⟩ : Nonempty (Listing key matching) := inferInstance
  obtain ⟨first,second,left,right,before,behind,atFirst,atSecond,tie⟩ := listing.exists_tie tied
  obtain ⟨other,exchanged⟩ := listing.exists_exchanged atFirst atSecond tie
  have apart : first / limit < second / limit :=
    ((Nat.div_lt_iff_lt_mul positive).mpr before).trans_le ((Nat.le_div_iff_mul_le positive).mpr behind)
  -- The row comes on the page of its own position, and again on that of the row it ties with.
  refine ⟨fun page => if page = first / limit then listing else other,left,_,_,apart,?_,?_⟩
  · simpa using mem_page positive atFirst
  · simpa [apart.ne'] using mem_page positive exchanged

theorem not_covers {Item : Type} {display : Row → Item} (distinct : (matching.map display).Nodup)
    {listings : Nat → Listing key matching} {limit : Nat} (positive : 0 < limit) {row : Row} {early late : Nat}
    (order : early < late) (first : row ∈ (listings early).page limit (early * limit))
    (again : row ∈ (listings late).page limit (late * limit)) :
    ¬ Covers (fun number => ((listings number).page limit (number * limit)).map display) (matching.map display) := by
  rintro ⟨count,last,_,all⟩
  have within : late < count := by
    have short := (page_eq_nil _ positive _).mp (List.map_eq_nil_iff.mp last)
    have long := mt (page_eq_nil (listings late) positive _).mpr (List.ne_nil_of_mem again)
    exact Nat.lt_of_mul_lt_mul_right ((not_le.mp long).trans_le short)
  have apart := List.pairwise_iff_getElem.mp (List.nodup_flatMap.mp (all.nodup_iff.mpr distinct)).2 early late
    (by simpa using order.trans within) (by simpa using within) order
  rw [List.getElem_range,List.getElem_range] at apart
  exact apart (List.mem_map_of_mem first) (List.mem_map_of_mem again)

theorem pages_cover_iff {Item : Type} {display : Row → Item} (distinct : (matching.map display).Nodup) {limit : Nat}
    (positive : 0 < limit) :
    (∀ listings : Nat → Listing key matching,
      Covers (fun number => ((listings number).page limit (number * limit)).map display) (matching.map display)) ↔
      ∀ number, Separated key matching (number * limit) := by
  constructor
  · intro covered number
    by_contra tied
    obtain ⟨listings,row,early,late,order,first,again⟩ := exists_repetition positive tied
    exact not_covers distinct positive order first again (covered listings)
  · intro apart listings
    exact (pages_cover listings positive apart).map display

end Listing

end Ticketbus.Relational
