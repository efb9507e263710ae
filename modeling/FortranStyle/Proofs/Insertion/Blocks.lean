import Mathlib.Data.List.Basic
import Mathlib.Order.Monotone.Basic

/-!
# Inserting lines

Lines can be inserted in front of every line of a source and behind its last
line: a function tells the block that is inserted at each place.  Every line of
the source then has a new number, and the numbers in between are those of the
inserted lines.

What is known of each line by its number can therefore be read off a table for
the source with the lines inserted, as the table for the source with blocks of
blanks inserted.
-/

namespace FortranStyle

variable {α β : Type}

/-- Insert blocks in front of the elements of a list, and behind the last one.
The elements are counted from the given number on. -/
def insertBlocks (blocks : Nat → List α) (n : Nat) : List α → List α
  | [] => blocks n
  | first :: rest => blocks n ++ first :: insertBlocks blocks (n + 1) rest

/-- The new number of a line, lines being numbered from one. -/
def renumber (blocks : Nat → List α) : Nat → Nat
  | 0 => 0
  | n + 1 => renumber blocks n + (blocks n).length + 1

theorem renumber_strictMono (blocks : Nat → List α) : StrictMono (renumber blocks) :=
  strictMono_nat_of_lt_succ fun n => by
    rw [renumber]
    omega

theorem renumber_map (f : α → β) (blocks : Nat → List α) :
    renumber (fun n => (blocks n).map f) = renumber blocks := by
  funext n
  induction n with
  | zero => rfl
  | succ n ih => rw [renumber, renumber, ih, List.length_map]

theorem map_insertBlocks (f : α → β) (blocks : Nat → List α) (n : Nat) (list : List α) :
    (insertBlocks blocks n list).map f =
      insertBlocks (fun n => (blocks n).map f) n (list.map f) := by
  induction list generalizing n with
  | nil => rfl
  | cons first rest ih =>
    rw [insertBlocks, List.map_append, List.map_cons, ih, List.map_cons, insertBlocks]

/-- A number between the new numbers of two successive lines is that of no
line. -/
theorem ne_renumber {blocks : Nat → List α} {n number : Nat} (low : renumber blocks n < number)
    (high : number < renumber blocks (n + 1)) (m : Nat) : renumber blocks m ≠ number := by
  rintro rfl
  rw [(renumber_strictMono blocks).lt_iff_lt] at low high
  omega

/-! ## Tables -/

section Tables

variable {blocks : Nat → List α} {old new : Nat → Option β}

theorem map_range'_block
    (inserted : ∀ number, (∀ line, renumber blocks line ≠ number) → new number = none) (n : Nat) :
    (List.range' (renumber blocks n + 1) (blocks n).length).map new =
      (blocks n).map fun _ => none := by
  rw [List.map_const', List.eq_replicate_iff, List.length_map, List.length_range']
  refine ⟨rfl, ?_⟩
  intro value member
  obtain ⟨number, between, rfl⟩ := List.mem_map.mp member
  rw [List.mem_range'_1] at between
  refine inserted number (ne_renumber between.1 ?_)
  rw [renumber]
  omega

/-- A table by line numbers after an insertion is the old one with gaps, when the
old lines have what they had and the inserted lines have nothing. -/
theorem map_range'_insertBlocks (kept : ∀ line, new (renumber blocks line) = old line)
    (inserted : ∀ number, (∀ line, renumber blocks line ≠ number) → new number = none)
    (n : Nat) (list : List α) :
    (List.range' (renumber blocks n + 1) (insertBlocks blocks n list).length).map new =
      insertBlocks (fun n => (blocks n).map fun _ => none) n
        ((List.range' (n + 1) list.length).map old) := by
  induction list generalizing n with
  | nil => exact map_range'_block inserted n
  | cons first rest ih =>
    have next : renumber blocks n + 1 + (blocks n).length = renumber blocks (n + 1) :=
      Nat.add_right_comm ..
    rw [insertBlocks, List.length_append, List.length_cons, ← List.range'_append_1,
      List.map_append, map_range'_block inserted, next, List.range'_succ, List.map_cons, kept, ih,
      List.length_cons, List.range'_succ, List.map_cons, insertBlocks]

end Tables

end FortranStyle
