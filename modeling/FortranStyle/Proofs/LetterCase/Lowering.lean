import FortranStyle.Proofs.Transcription.Token
import Mathlib.Data.Bool.AllAny

/-!
# Lowering a source

A source in which every ASCII capital is replaced by its small letter is a copy of
the source: no character changes its class, and every text keeps its small form.
The only facts about single letters are those about the twenty-six capitals and
the one about the tables of small forms, none of which is an ASCII capital.
-/

namespace FortranStyle.LetterCase

/-! ## Capitals -/

/-- The ASCII capitals. -/
def capitals : List Char :=
  "ABCDEFGHIJKLMNOPQRSTUVWXYZ".toList

theorem mem_capitals {c : Char} (low : 65 ≤ c.toNat) (high : c.toNat ≤ 90) : c ∈ capitals := by
  have listed : ∀ index < 26, Char.ofNat (65 + index) ∈ capitals := by decide
  have member := listed (c.toNat - 65) (by omega)
  rwa [Nat.add_sub_cancel' low, Char.ofNat_toNat] at member

theorem toLower_eq_self {c : Char} (other : c ∉ capitals) : c.toLower = c := by
  have noCapital : ¬(c.val ≥ 'A'.val ∧ c.val ≤ 'Z'.val) := by
    rintro ⟨low, high⟩
    exact other (mem_capitals (UInt32.le_iff_toNat_le.mp low) (UInt32.le_iff_toNat_le.mp high))
  exact dif_neg noCapital

/-- What does not tell a capital from its small letter does not tell any character
from its small form. -/
theorem toLower_congr {α : Type} [DecidableEq α] {f : Char → α}
    (capital : capitals.all fun c => f c.toLower = f c)
    (c : Char) : f c.toLower = f c := by
  by_cases member : c ∈ capitals
  · exact List.all_iff_forall_prop.mp capital c member
  · rw [toLower_eq_self member]

/-! ## Classes of characters -/

theorem isAlpha_toLower (c : Char) : c.toLower.isAlpha = c.isAlpha :=
  toLower_congr (by decide) c

theorem isDigit_toLower (c : Char) : c.toLower.isDigit = c.isDigit :=
  toLower_congr (by decide) c

theorem toLower_eq_iff {c d : Char} (other : d.isAlpha = false) : c.toLower = d ↔ c = d := by
  have congr := toLower_congr (f := fun c => decide (c = d))
    (List.all_iff_forall_prop.mpr fun c member => ?_) c
  · simpa using congr
  · have letter : ∀ c ∈ capitals, c.isAlpha = true ∧ c.toLower.isAlpha = true :=
      List.all_iff_forall_prop.mp (by decide)
    obtain ⟨alpha, alpha'⟩ := letter c member
    have ne : c ≠ d := by
      rintro rfl
      simp [alpha] at other
    have ne' : c.toLower ≠ d := by
      rintro rfl
      simp [alpha'] at other
    simp [ne, ne']

/-! ## Small forms -/

theorem isCaseIgnorable_toLower (c : Char) :
    Text.isCaseIgnorable c.toLower = Text.isCaseIgnorable c :=
  toLower_congr (by decide +kernel) c

theorem isCased_toLower (c : Char) : Text.isCased c.toLower = Text.isCased c :=
  toLower_congr (by decide +kernel) c

theorem lowerChar_toLower (c : Char) : Text.lowerChar c.toLower = Text.lowerChar c :=
  toLower_congr (by decide) c

theorem casedFirst_lowered (cs : List Char) :
    Text.casedFirst (cs.map Char.toLower) = Text.casedFirst cs := by
  induction cs with
  | nil => rfl
  | cons c rest ih =>
    rw [List.map_cons, Text.casedFirst, Text.casedFirst, isCaseIgnorable_toLower, isCased_toLower,
      ih]

theorem lowerChars_lowered (before cs : List Char) :
    Text.lowerChars (before.map Char.toLower) (cs.map Char.toLower) =
      Text.lowerChars before cs := by
  induction cs generalizing before with
  | nil => rfl
  | cons c rest ih =>
    have sigma : c.toLower = 'Σ' ↔ c = 'Σ' := toLower_eq_iff (by decide)
    rw [List.map_cons, Text.lowerChars, Text.lowerChars, ← List.map_cons, ih, lowerChar_toLower,
      casedFirst_lowered, casedFirst_lowered]
    simp only [sigma]

theorem notMem_capitals_of_lt {n : Nat} (high : 90 < n) : Char.ofNat n ∉ capitals := by
  intro member
  have bounds : ∀ c ∈ capitals, 65 ≤ c.toNat ∧ c.toNat ≤ 90 :=
    List.all_iff_forall_prop.mp (by decide)
  have between := bounds _ member
  rw [Char.ofNat] at between
  by_cases valid : n.isValidChar
  · rw [dif_pos valid] at between
    have toNat_eq : (Char.ofNatAux n valid).toNat = n := rfl
    omega
  · rw [dif_neg valid] at between
    exact absurd between (by decide)

theorem lt_of_image? {run : Text.CaseRun} (above : 90 < run.first + run.shift) {n image : Nat}
    (image_eq : run.image? n = some image) : 90 < image := by
  rw [Text.CaseRun.image?] at image_eq
  split at image_eq
  · have := Option.some.inj image_eq
    omega
  · contradiction

/-- Every run of the table of small forms goes to code points above the ASCII
capitals. -/
theorem lt_mapRuns {n : Nat} (high : 90 < n) : 90 < Text.mapRuns Text.lowerRuns n := by
  have above : ∀ run ∈ Text.lowerRuns, 90 < run.first + run.shift := by decide +kernel
  rw [Text.mapRuns]
  cases found : Text.lowerRuns.findSome? (·.image? n) with
  | none => exact high
  | some image =>
    obtain ⟨run, listed, image_eq⟩ := List.exists_of_findSome?_eq_some found
    exact lt_of_image? (above run listed) image_eq

theorem notMem_capitals_of_mem_mapLetter {c image : Char} (high : 90 < c.toNat)
    (member : image ∈ Text.mapLetter Text.lowerSpecials Text.lowerRuns c) : image ∉ capitals := by
  have above : ∀ entry ∈ Text.lowerSpecials, ∀ n ∈ entry.2, 90 < n := by decide
  rw [Text.mapLetter] at member
  split at member
  · rename_i images found
    obtain ⟨n, listed, rfl⟩ := List.mem_map.mp member
    obtain ⟨before, behind, table_eq, -⟩ := List.lookup_eq_some_iff.mp found
    have entry : (c.toNat, images) ∈ Text.lowerSpecials := by
      rw [table_eq]
      exact List.mem_append_right before (.head behind)
    exact notMem_capitals_of_lt (above _ entry n listed)
  · rw [List.mem_singleton.mp member]
    exact notMem_capitals_of_lt (lt_mapRuns high)

theorem toLower_notMem_capitals (c : Char) : c.toLower ∉ capitals := by
  by_cases member : c ∈ capitals
  · have small : ∀ c ∈ capitals, c.toLower ∉ capitals := List.all_iff_forall_prop.mp (by decide)
    exact small c member
  · rwa [toLower_eq_self member]

/-- No small form holds an ASCII capital. -/
theorem notMem_capitals_of_mem_lowerChars {before cs : List Char} {image : Char}
    (member : image ∈ Text.lowerChars before cs) : image ∉ capitals := by
  induction cs generalizing before with
  | nil => simp [Text.lowerChars] at member
  | cons c rest ih =>
    rw [Text.lowerChars] at member
    rcases List.mem_append.mp member with first | later
    · split at first
      · split at first <;> (rw [List.mem_singleton.mp first]; decide)
      · rw [Text.lowerChar] at first
        split at first
        · rw [List.mem_singleton.mp first]
          exact toLower_notMem_capitals c
        · exact notMem_capitals_of_mem_mapLetter (by omega) first
    · exact ih later

end LetterCase

/-- The copy in small ASCII letters, every character in its place. -/
def Transcription.lowering : Transcription where
  char := Char.toLower
  line := id
  column _ column := column
  isAlpha_char := LetterCase.isAlpha_toLower
  char_of_not_isAlpha c other := (LetterCase.toLower_eq_iff other).mpr rfl
  lower_copy text := by
    rw [Text.lower, String.toList_ofList]
    exact congrArg String.ofList (LetterCase.lowerChars_lowered [] text.toList)
  copy_lower text := by
    rw [Text.lower, String.toList_ofList, List.map_congr_left fun c member =>
        LetterCase.toLower_eq_self (LetterCase.notMem_capitals_of_mem_lowerChars member),
      List.map_id']
  line_zero := rfl

end FortranStyle
