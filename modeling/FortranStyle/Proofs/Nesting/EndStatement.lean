import FortranStyle.Statement.Boundary

/-!
# The form of END statements

END stands alone, makes one word with the kind of what it closes, or has the kind behind
it.  The statements that are read as closers are exactly these.
-/

namespace FortranStyle.Statement

/-- An END statement tells the kind of what it closes behind END, in one word with it, or
not at all. -/
inductive IsEndStatement : List Token → Closer → Prop
  | joined {first : Token} {rest : List Token} {kind : BlockKind}
      (isEnd : first.isWord ("end" ++ kind.word) = true) :
      IsEndStatement (first :: rest) ⟨some kind, rest⟩
  | bare {first : Token} (isEnd : first.isWord "end" = true) : IsEndStatement [first] ⟨none, []⟩
  | parted {first second : Token} {rest : List Token} {kind : BlockKind}
      (isEnd : first.isWord "end" = true) (named : second.isWord kind.word = true) :
      IsEndStatement (first :: second :: rest) ⟨some kind, rest⟩

theorem ofWord?_eq_some_iff {word : String} {kind : BlockKind} :
    BlockKind.ofWord? word = some kind ↔ kind.word = word := by
  constructor
  · intro found
    rw [BlockKind.ofWord?] at found
    simpa using List.find?_some found
  · rintro rfl
    exact kind.ofWord?_word

theorem joinedEnd?_eq_some_iff {token : Token} {kind : BlockKind} :
    joinedEnd? token = some kind ↔ token.isWord ("end" ++ kind.word) = true := by
  constructor
  · intro found
    rw [joinedEnd?] at found
    simpa using List.find?_some found
  · intro isEnd
    obtain ⟨isName, lower_eq⟩ := Bool.and_eq_true_iff.mp isEnd
    have same : (fun other : BlockKind => token.isWord ("end" ++ other.word)) =
        fun other => other.word == kind.word := by
      funext other
      rw [Token.isWord, isName, eq_of_beq lower_eq, Bool.true_and, Bool.eq_iff_iff, beq_iff_eq,
        beq_iff_eq, String.append_right_inj, eq_comm]
    rw [joinedEnd?, same]
    exact kind.ofWord?_word

/-- END alone is none of the words that END makes with a kind. -/
theorem joinedEnd?_of_isWord {token : Token} (isEnd : token.isWord "end" = true) :
    joinedEnd? token = none := by
  rw [joinedEnd?, List.find?_eq_none]
  intro kind _ joined
  obtain ⟨-, lower_eq⟩ := Bool.and_eq_true_iff.mp isEnd
  obtain ⟨-, joined_eq⟩ := Bool.and_eq_true_iff.mp joined
  have apart : "end" ≠ "end" ++ kind.word := by
    rcases kind with kind | kind | _ | _ | kind <;> (try cases kind) <;> decide
  exact apart ((eq_of_beq lower_eq).symm.trans (eq_of_beq joined_eq))

theorem word_eq_iff {token : Token} {kind : BlockKind} :
    kind.word = token.word ↔ token.isWord kind.word = true := by
  have filled : kind.word ≠ "" := by
    rcases kind with kind | kind | _ | _ | kind <;> (try cases kind) <;> decide
  rw [Token.word, Token.isWord]
  split
  · rename_i isName
    rw [isName, Bool.true_and, beq_iff_eq, eq_comm]
  · rename_i noName
    simp [noName, filled]

/-- The closing statements are the END statements. -/
theorem closer?_eq_some_iff {tokens : List Token} {closer : Closer} :
    closer? tokens = some closer ↔ IsEndStatement tokens closer := by
  constructor
  · intro closes
    cases tokens with
    | nil => contradiction
    | cons first rest =>
      simp only [closer?] at closes
      split at closes
      · rename_i kind joined
        cases closes
        exact .joined (joinedEnd?_eq_some_iff.mp joined)
      · split at closes
        · rename_i isEnd
          cases rest with
          | nil =>
            cases closes
            exact .bare isEnd
          | cons second trailing =>
            obtain ⟨kind, found, rfl⟩ := Option.map_eq_some_iff.mp closes
            exact .parted isEnd (word_eq_iff.mp (ofWord?_eq_some_iff.mp found))
        · contradiction
  · rintro (isEnd | isEnd | ⟨isEnd, named⟩)
    · simp only [closer?, joinedEnd?_eq_some_iff.mpr isEnd]
    · simp only [closer?, joinedEnd?_of_isWord isEnd, isEnd, if_true]
    · simp only [closer?, joinedEnd?_of_isWord isEnd, isEnd, if_true,
        ofWord?_eq_some_iff.mpr (word_eq_iff.mpr named), Option.map_some]

end FortranStyle.Statement
