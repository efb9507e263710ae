import Mathlib.Data.Prod.Lex
import Mathlib.Data.String.Basic
import FortranStyle.Diagnostic

/-!
# Sorting diagnostics

Diagnostics are compared by a key which leaves their severity and their message out,
so different diagnostics can be alike to the order.  Sorting keeps those as they
came.  Hence it makes no difference whether diagnostics are dropped before or after
sorting, and the sorted list is known from the diagnostics of each file by itself.
-/

namespace FortranStyle.Diagnostic

/-! ## The order -/

/-- What the order of diagnostics compares: file, line, column and rule. -/
def key (diagnostic : Diagnostic) : String ×ₗ Int ×ₗ Int ×ₗ String :=
  toLex (diagnostic.file, toLex (diagnostic.line, toLex (diagnostic.column, diagnostic.rule)))

theorem le_iff_key_le {first second : Diagnostic} :
    le first second = true ↔ first.key ≤ second.key := by
  simp only [le, key, Prod.Lex.toLex_le_toLex]
  by_cases sameFile : first.file = second.file
  · by_cases sameLine : first.line = second.line
    · by_cases sameColumn : first.column = second.column
      · simp [sameFile, sameLine, sameColumn]
      · simp [sameFile, sameLine, sameColumn]
    · simp [sameFile, sameLine]
  · simp [sameFile]

theorem le_trans' (first second third : Diagnostic) (below : le first second = true)
    (above : le second third = true) : le first third = true :=
  le_iff_key_le.mpr ((le_iff_key_le.mp below).trans (le_iff_key_le.mp above))

theorem le_total' (first second : Diagnostic) : (le first second || le second first) = true := by
  rw [Bool.or_eq_true, le_iff_key_le, le_iff_key_le]
  exact le_total _ _

theorem file_le_of_le {first second : Diagnostic} (below : le first second = true) :
    first.file ≤ second.file := by
  rw [le_iff_key_le, key, key, Prod.Lex.toLex_le_toLex] at below
  exact below.elim le_of_lt fun same => same.1.le

/-! ## Sorted lists -/

theorem pairwise_sort (diagnostics : List Diagnostic) :
    (sort diagnostics).Pairwise fun first second => le first second = true :=
  List.pairwise_mergeSort le_trans' le_total' diagnostics

theorem mem_sort {diagnostic : Diagnostic} {diagnostics : List Diagnostic} :
    diagnostic ∈ sort diagnostics ↔ diagnostic ∈ diagnostics :=
  List.mem_mergeSort

/-- The first diagnostic is put between those that it may not precede and the
others. -/
theorem sort_cons (diagnostic : Diagnostic) (rest : List Diagnostic) :
    sort (diagnostic :: rest) =
        (sort rest).filter (fun other => !le diagnostic other) ++
          diagnostic :: (sort rest).filter (le diagnostic) ∧
      sort rest =
        (sort rest).filter (fun other => !le diagnostic other) ++
          (sort rest).filter (le diagnostic) := by
  obtain ⟨front, back, whole, rest_eq, before⟩ :=
    List.mergeSort_cons le_trans' le_total' diagnostic rest
  have after : ∀ other ∈ back, le diagnostic other = true := by
    have sorted := pairwise_sort (diagnostic :: rest)
    rw [sort, whole, List.pairwise_append, List.pairwise_cons] at sorted
    exact sorted.2.1.1
  have front_eq : (sort rest).filter (fun other => !le diagnostic other) = front := by
    rw [sort, rest_eq, List.filter_append, List.filter_eq_self.mpr before,
      List.filter_eq_nil_iff.mpr (by simpa using after), List.append_nil]
  have back_eq : (sort rest).filter (le diagnostic) = back := by
    rw [sort, rest_eq, List.filter_append, List.filter_eq_nil_iff.mpr (by simpa using before),
      List.filter_eq_self.mpr after, List.nil_append]
  rw [front_eq, back_eq]
  exact ⟨whole, rest_eq⟩

/-- Diagnostics may be dropped before or after sorting. -/
theorem filter_sort (p : Diagnostic → Bool) (diagnostics : List Diagnostic) :
    (sort diagnostics).filter p = sort (diagnostics.filter p) := by
  induction diagnostics with
  | nil => simp [sort]
  | cons diagnostic rest ih =>
    obtain ⟨whole, rest_eq⟩ := sort_cons diagnostic rest
    by_cases kept : p diagnostic = true
    · rw [whole, List.filter_cons_of_pos kept, (sort_cons diagnostic _).1, ← ih,
        List.filter_append, List.filter_cons_of_pos kept, List.filter_comm p, List.filter_comm p]
    · rw [whole, List.filter_cons_of_neg kept, ← ih, List.filter_append,
        List.filter_cons_of_neg kept, ← List.filter_append, ← rest_eq]

/-! ## The diagnostics of single files -/

/-- Sorted lists are equal when each file has the same diagnostics in both. -/
theorem eq_of_filter_file {first second : List Diagnostic}
    (firstSorted : first.Pairwise fun a b => le a b = true)
    (secondSorted : second.Pairwise fun a b => le a b = true)
    (same : ∀ file, first.filter (·.file == file) = second.filter (·.file == file)) :
    first = second := by
  induction first generalizing second with
  | nil =>
    cases second with
    | nil => rfl
    | cons head tail => simpa using same head.file
  | cons head tail ih =>
    cases second with
    | nil => simpa using same head.file
    | cons head' tail' =>
      have mem_iff (other : Diagnostic) : other ∈ head :: tail ↔ other ∈ head' :: tail' := by
        have listed : other ∈ (head :: tail).filter (·.file == other.file) ↔
            other ∈ (head' :: tail').filter (·.file == other.file) := by rw [same]
        simpa [List.mem_filter] using listed
      have least {a b : Diagnostic} {rest : List Diagnostic}
          (sorted : (a :: rest).Pairwise fun a b => le a b = true) (member : b ∈ a :: rest) :
          a.file ≤ b.file := by
        cases member with
        | head => exact le_rfl
        | tail _ member => exact file_le_of_le (List.rel_of_pairwise_cons sorted member)
      have file_eq : head.file = head'.file :=
        le_antisymm (least firstSorted ((mem_iff head').mpr List.mem_cons_self))
          (least secondSorted ((mem_iff head).mp List.mem_cons_self))
      have heads := same head.file
      rw [List.filter_cons_of_pos (by simp), List.filter_cons_of_pos (by simp [file_eq])] at heads
      obtain ⟨rfl, -⟩ := List.cons.inj heads
      congr 1
      refine ih firstSorted.of_cons secondSorted.of_cons fun file => ?_
      have whole := same file
      simp only [List.filter_cons] at whole
      split at whole
      · exact (List.cons.inj whole).2
      · exact whole

/-- What sorting gives is known from the diagnostics of each file. -/
theorem sort_eq_of_filter_file {first second : List Diagnostic}
    (same : ∀ file, first.filter (·.file == file) = second.filter (·.file == file)) :
    sort first = sort second := by
  refine eq_of_filter_file (pairwise_sort first) (pairwise_sort second) fun file => ?_
  rw [filter_sort, filter_sort, same]

end FortranStyle.Diagnostic
