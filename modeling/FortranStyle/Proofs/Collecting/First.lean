import FortranStyle.Diagnostic.Collection
import FortranStyle.Proofs.Sorting.Stable

/-!
# The first of its kind

A collection is given diagnostics one by one or several at once.  It keeps of all
that say the same about the same place the first one, in the order in which they
came; neither the severity nor the mark of a partial scan makes a difference.  So
its entries are known from the diagnostics alone, however they were handed in.
-/

namespace FortranStyle

namespace Diagnostic

/-- What two diagnostics have in common when they say the same. -/
def identity (diagnostic : Diagnostic) : String × String × Int × Int × String :=
  (diagnostic.rule, diagnostic.file, diagnostic.line, diagnostic.column, diagnostic.message)

theorem sameKey_iff {first second : Diagnostic} :
    first.sameKey second = true ↔ first.identity = second.identity := by
  simp only [sameKey, identity, Bool.and_eq_true, beq_iff_eq, Prod.mk.injEq]
  tauto

/-- Of the diagnostics that say the same the first one, in order. -/
def firsts : List Diagnostic → List Diagnostic
  | [] => []
  | diagnostic :: rest => diagnostic :: (firsts rest).filter (!diagnostic.sameKey ·)

/-- The first diagnostics are those with none before them that says the same. -/
theorem mem_firsts_iff {diagnostic : Diagnostic} {given : List Diagnostic} :
    diagnostic ∈ firsts given ↔ ∃ before after, given = before ++ diagnostic :: after ∧
      ∀ earlier ∈ before, earlier.identity ≠ diagnostic.identity := by
  induction given with
  | nil => simp [firsts]
  | cons head rest ih =>
    have later : (!head.sameKey diagnostic) = true ↔ head.identity ≠ diagnostic.identity := by
      rw [Bool.not_eq_true', ← Bool.not_eq_true, sameKey_iff]
    rw [firsts, List.mem_cons, List.mem_filter, ih, later]
    constructor
    · rintro (rfl | ⟨⟨before, after, rfl, fresh⟩, different⟩)
      · exact ⟨[], rest, rfl, List.forall_mem_nil _⟩
      · exact ⟨head :: before, after, rfl, List.forall_mem_cons.mpr ⟨different, fresh⟩⟩
    · rintro ⟨before, after, given_eq, fresh⟩
      cases before with
      | nil => exact .inl (List.cons.inj given_eq).1.symm
      | cons other before =>
        obtain ⟨rfl, rfl⟩ := List.cons.inj given_eq
        obtain ⟨different, fresh⟩ := List.forall_mem_cons.mp fresh
        exact .inr ⟨⟨before, after, rfl, fresh⟩, different⟩

theorem nodup_identity_firsts (given : List Diagnostic) :
    ((firsts given).map identity).Nodup := by
  induction given with
  | nil => exact List.nodup_nil
  | cons head rest ih =>
    rw [firsts, List.map_cons, List.nodup_cons]
    constructor
    · rintro repeated
      obtain ⟨other, listed, same⟩ := List.mem_map.mp repeated
      have different := (List.mem_filter.mp listed).2
      rw [sameKey_iff.mpr same.symm] at different
      contradiction
    · exact ih.sublist (List.filter_sublist.map identity)

/-- Every diagnostic that is given says the same as a first one. -/
theorem exists_mem_firsts {diagnostic : Diagnostic} {given : List Diagnostic}
    (member : diagnostic ∈ given) :
    ∃ first ∈ firsts given, first.identity = diagnostic.identity := by
  induction given with
  | nil => contradiction
  | cons head rest ih =>
    by_cases same : head.identity = diagnostic.identity
    · exact ⟨head, List.mem_cons_self, same⟩
    · rcases List.mem_cons.mp member with rfl | member
      · exact absurd rfl same
      · obtain ⟨first, listed, first_eq⟩ := ih member
        refine ⟨first, List.mem_cons_of_mem _ (List.mem_filter.mpr ⟨listed, ?_⟩), first_eq⟩
        rw [Bool.not_eq_true', ← Bool.not_eq_true, sameKey_iff, first_eq]
        exact same

end Diagnostic

/-! ## What a collection keeps -/

namespace Collection

open Diagnostic (firsts)

variable (collection : Collection)

theorem holds_iff {diagnostic : Diagnostic} :
    collection.holds diagnostic = true ↔
      ∃ entry ∈ collection.entries, entry.identity = diagnostic.identity := by
  simp only [holds, List.any_eq_true, Diagnostic.sameKey_iff]

/-- The entries of a collection grow by the first diagnostics that it does not hold
yet. -/
theorem entries_extend (given : List Diagnostic) :
    (collection.extend given).entries =
      collection.entries ++ (firsts given).filter (!collection.holds ·) := by
  induction given generalizing collection with
  | nil => simp [extend, firsts]
  | cons head rest ih =>
    have stepped : collection.extend (head :: rest) = (collection.add head).extend rest := rfl
    rw [stepped, ih, add, firsts]
    split
    · rename_i held
      -- What says the same as the head is held as well, so filtering it out first changes nothing.
      have dropped (other : Diagnostic) :
          (!collection.holds other && !head.sameKey other) = !collection.holds other := by
        cases same : head.sameKey other with
        | false => simp
        | true =>
          have heldToo : collection.holds other = true := by
            rw [holds_iff] at held ⊢
            rwa [← Diagnostic.sameKey_iff.mp same]
          simp [heldToo]
      rw [List.filter_cons_of_neg (by simp [held]), List.filter_filter]
      simp only [dropped]
    · rename_i fresh
      have grown (other : Diagnostic) :
          (!(⟨collection.entries ++ [head]⟩ : Collection).holds other) =
            (!collection.holds other && !head.sameKey other) := by
        simp [holds]
      rw [List.filter_cons_of_pos (by simpa using fresh), List.filter_filter]
      simp only [grown, List.append_assoc, List.singleton_append]

/-! ## Telling what is new -/

theorem insert_snd_eq_true_iff {diagnostic : Diagnostic} :
    (collection.insert diagnostic).2 = true ↔
      ∀ entry ∈ collection.entries, entry.identity ≠ diagnostic.identity := by
  rw [insert, Bool.not_eq_true', ← Bool.not_eq_true, holds_iff]
  push Not
  rfl

/-- A collection that is extended tells by how much it grows. -/
theorem insertAll_eq (given : List Diagnostic) :
    (collection.insertAll given).1 = collection.extend given ∧
      collection.size + (collection.insertAll given).2 = (collection.extend given).size := by
  induction given generalizing collection with
  | nil => exact ⟨rfl, rfl⟩
  | cons head rest ih =>
    obtain ⟨after_eq, size_eq⟩ := ih (collection.add head)
    refine ⟨after_eq, ?_⟩
    have stepped : collection.extend (head :: rest) = (collection.add head).extend rest := rfl
    rw [stepped, ← size_eq]
    simp only [insertAll, insert]
    by_cases held : collection.holds head = true
    · simp [add, held]
    · rw [Bool.not_eq_true] at held
      simp only [add, held, size, Bool.not_false, if_true, Bool.false_eq_true, if_false,
        List.length_append, List.length_singleton]
      omega

/-! ## Calls -/

/-- A call that gives diagnostics to a collection. -/
inductive Call
  | add (diagnostic : Diagnostic)
  | extend (diagnostics : List Diagnostic)

/-- The diagnostics that a call gives. -/
def Call.given : Call → List Diagnostic
  | add diagnostic => [diagnostic]
  | extend diagnostics => diagnostics

/-- Carry out a call. -/
def receive (collection : Collection) : Call → Collection
  | .add diagnostic => (collection.insert diagnostic).1
  | .extend diagnostics => (collection.insertAll diagnostics).1

/-- What successive calls make of an empty collection. -/
def ofCalls (calls : List Call) : Collection :=
  calls.foldl receive empty

theorem receive_eq (call : Call) : collection.receive call = collection.extend call.given := by
  cases call with
  | add diagnostic => rfl
  | extend diagnostics => exact (collection.insertAll_eq diagnostics).1

/-- However diagnostics are handed in, a collection keeps the first ones. -/
theorem entries_ofCalls (calls : List Call) :
    (ofCalls calls).entries = firsts (calls.flatMap Call.given) := by
  have handed (collection : Collection) :
      calls.foldl receive collection = collection.extend (calls.flatMap Call.given) := by
    induction calls generalizing collection with
    | nil => rfl
    | cons call rest ih =>
      rw [List.foldl_cons, ih, receive_eq, List.flatMap_cons, extend, extend, extend,
        List.foldl_append]
  rw [ofCalls, handed, entries_extend]
  simp [empty, holds]

/-- What a collection tells about a diagnostic is known from those given before. -/
theorem insert_ofCalls_snd_eq_true_iff (calls : List Call) (diagnostic : Diagnostic) :
    ((ofCalls calls).insert diagnostic).2 = true ↔
      ∀ earlier ∈ calls.flatMap Call.given, earlier.identity ≠ diagnostic.identity := by
  rw [insert_snd_eq_true_iff, entries_ofCalls]
  constructor
  · intro fresh earlier member same
    obtain ⟨first, listed, first_eq⟩ := Diagnostic.exists_mem_firsts member
    exact fresh first listed (first_eq.trans same)
  · intro fresh first listed
    obtain ⟨before, after, given_eq, -⟩ := Diagnostic.mem_firsts_iff.mp listed
    exact fresh first (given_eq ▸ by simp)

end Collection

end FortranStyle
