/-!
# Names in order

Texts are ordered by the code points of their characters.
-/

namespace FortranStyle.Text

/-- The texts in order, repeated ones kept. -/
def sorted (names : List String) : List String :=
  names.mergeSort (· ≤ ·)

/-- The different texts among the given ones, in order. -/
def sortedSet (names : List String) : List String :=
  sorted names.eraseDups

theorem mem_sorted_iff {name : String} {names : List String} :
    name ∈ sorted names ↔ name ∈ names := by
  simp [sorted]

theorem mem_sortedSet_iff {name : String} {names : List String} :
    name ∈ sortedSet names ↔ name ∈ names := by
  simp [sortedSet, mem_sorted_iff]

end FortranStyle.Text
