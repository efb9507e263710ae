import Mathlib.Algebra.GroupWithZero.Nat
import Mathlib.Data.List.Basic
import Mathlib.Data.List.Forall2
import Mathlib.Data.List.Nodup
import Mathlib.Order.Lattice

/-!
# Lists

A list falls into groups by a key: the members of each key in their order.  The groups
of different keys put together are the members of the list, and those of a list sorted
by the key give the list back.
-/

namespace FortranStyle

/-! ## Groups -/

section Groups

variable {α κ : Type} [BEq κ] [LawfulBEq κ] (key : α → κ)

/-- Members without one key make up the same groups of all other keys. -/
theorem flatMap_filter_of_notMem {removed : κ} {keys : List κ} (notListed : removed ∉ keys)
    (xs : List α) :
    keys.flatMap (fun k => (xs.filter (key · != removed)).filter (key · == k)) =
      keys.flatMap fun k => xs.filter (key · == k) := by
  apply List.flatMap_congr
  intro k listed
  rw [List.filter_filter]
  apply List.filter_congr
  intro x _
  by_cases same : key x = k
  · subst same
    have different : (key x != removed) = true := by
      rw [bne_iff_ne]
      exact fun same => notListed (same ▸ listed)
    simp [different]
  · simp [same]

/-- The groups of a list by different keys are its members. -/
theorem perm_flatMap_filter {keys : List κ} (distinct : keys.Nodup) {xs : List α}
    (covers : ∀ x ∈ xs, key x ∈ keys) :
    (keys.flatMap fun k => xs.filter (key · == k)).Perm xs := by
  induction keys generalizing xs with
  | nil =>
    have nothing : xs = [] := List.eq_nil_iff_forall_not_mem.mpr fun x member => by
      simpa using covers x member
    rw [nothing]
    exact .nil
  | cons k rest ih =>
    obtain ⟨notListed, distinct⟩ := List.nodup_cons.mp distinct
    have others : ∀ x ∈ xs.filter (key · != k), key x ∈ rest := by
      intro x member
      obtain ⟨member, different⟩ := List.mem_filter.mp member
      exact (List.mem_cons.mp (covers x member)).resolve_left (bne_iff_ne.mp different)
    rw [List.flatMap_cons, ← flatMap_filter_of_notMem key notListed]
    exact ((ih distinct others).append_left _).trans (List.filter_append_perm _ xs)

/-- A property is counted group by group. -/
theorem sum_countP_filter {keys : List κ} (distinct : keys.Nodup) {xs : List α}
    (covers : ∀ x ∈ xs, key x ∈ keys) (p : α → Bool) :
    (keys.map fun k => (xs.filter (key · == k)).countP p).sum = xs.countP p := by
  rw [← (perm_flatMap_filter key distinct covers).countP_eq p, List.countP_flatMap]
  rfl

/-- Among members with different keys, the key of one selects it alone. -/
theorem filter_key_eq_singleton {x : α} {xs : List α} (distinct : (xs.map key).Nodup)
    (member : x ∈ xs) : xs.filter (key · == key x) = [x] := by
  induction xs with
  | nil => contradiction
  | cons y ys ih =>
    rw [List.map_cons, List.nodup_cons] at distinct
    obtain ⟨fresh, distinct⟩ := distinct
    rcases List.mem_cons.mp member with rfl | later
    · have others : ys.filter (key · == key x) = [] := by
        rw [List.filter_eq_nil_iff]
        intro y member same
        apply fresh
        rw [← eq_of_beq same]
        exact List.mem_map_of_mem member
      simp [others]
    · have other : (key y == key x) = false := by
        rw [beq_eq_false_iff_ne]
        rintro same
        apply fresh
        rw [same]
        exact List.mem_map_of_mem later
      rw [List.filter_cons_of_neg (by simp [other])]
      exact ih distinct later

end Groups

section OrderedGroups

variable {α κ : Type} [LinearOrder κ] (key : α → κ)

/-- In a list that is sorted by a key the members with the least key come first. -/
theorem filter_append_filter_of_sorted {least : κ} {xs : List α}
    (sorted : xs.Pairwise fun first second => key first ≤ key second)
    (bounded : ∀ x ∈ xs, least ≤ key x) :
    xs.filter (key · == least) ++ xs.filter (key · != least) = xs := by
  induction xs with
  | nil => rfl
  | cons x rest ih =>
    obtain ⟨below, sorted⟩ := List.pairwise_cons.mp sorted
    obtain ⟨least_le, bounded⟩ := List.forall_mem_cons.mp bounded
    by_cases same : key x = least
    · rw [List.filter_cons_of_pos (by simp [same]), List.filter_cons_of_neg (by simp [same]),
        List.cons_append, ih sorted bounded]
    · have larger : ∀ y ∈ x :: rest, key y ≠ least := by
        have less : least < key x := lt_of_le_of_ne least_le (Ne.symm same)
        exact List.forall_mem_cons.mpr
          ⟨same, fun y member => (less.trans_le (below y member)).ne'⟩
      rw [List.filter_eq_nil_iff.mpr (by simpa using larger),
        List.filter_eq_self.mpr (by simpa using larger), List.nil_append]

/-- The groups of a sorted list in the order of their keys give the list back. -/
theorem flatMap_filter_of_sorted {keys : List κ} (increasing : keys.Pairwise (· < ·))
    {xs : List α} (sorted : xs.Pairwise fun first second => key first ≤ key second)
    (covers : ∀ x ∈ xs, key x ∈ keys) :
    keys.flatMap (fun k => xs.filter (key · == k)) = xs := by
  induction keys generalizing xs with
  | nil =>
    exact (List.eq_nil_iff_forall_not_mem.mpr fun x member => by simpa using covers x member).symm
  | cons k rest ih =>
    obtain ⟨below, increasing⟩ := List.pairwise_cons.mp increasing
    have notListed : k ∉ rest := fun listed => lt_irrefl k (below k listed)
    have bounded : ∀ x ∈ xs, k ≤ key x := by
      intro x member
      rcases List.mem_cons.mp (covers x member) with same | listed
      · exact same.ge
      · exact (below _ listed).le
    have others : ∀ x ∈ xs.filter (key · != k), key x ∈ rest := by
      intro x member
      obtain ⟨member, different⟩ := List.mem_filter.mp member
      exact (List.mem_cons.mp (covers x member)).resolve_left (bne_iff_ne.mp different)
    rw [List.flatMap_cons, ← flatMap_filter_of_notMem key notListed,
      ih increasing (sorted.filter _) others, filter_append_filter_of_sorted key sorted bounded]

end OrderedGroups

/-! ## Repetitions and related lists -/

/-- What is left of a list without its repetitions has none. -/
theorem nodup_eraseDups {α : Type} [BEq α] [LawfulBEq α] (xs : List α) : xs.eraseDups.Nodup := by
  cases xs with
  | nil => exact List.nodup_nil
  | cons x rest =>
    rw [List.eraseDups_cons, List.nodup_cons, List.mem_eraseDups]
    exact ⟨by simp, nodup_eraseDups _⟩
termination_by xs.length
decreasing_by exact Nat.lt_succ_of_le (List.length_filter_le _ rest)

/-- Each member of a list is related to one of the list that is related to it. -/
theorem exists_rel_of_mem {α β : Type} {R : α → β → Prop} {first : List α} {second : List β}
    {right : β} (related : List.Forall₂ R first second) (member : right ∈ second) :
    ∃ left ∈ first, R left right := by
  induction related with
  | nil => contradiction
  | @cons left other _ _ rel _ ih =>
    rcases List.mem_cons.mp member with rfl | member
    · exact ⟨left, List.mem_cons_self, rel⟩
    · obtain ⟨found, listed, rel⟩ := ih member
      exact ⟨found, List.mem_cons_of_mem _ listed, rel⟩

end FortranStyle
