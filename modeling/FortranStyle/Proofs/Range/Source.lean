import FortranStyle.Proofs.Locality.Trace
import FortranStyle.Proofs.Range.Recording
import FortranStyle.Proofs.Reading.Order

/-!
# Ranges of a source

The code tokens of a source stand one behind the other, so its statements are read
from top to bottom, and at every time all that has closed is settled down to the
last line read.  What is left open at the end of the source closes at its last
line, and then no block is open any more.
-/

namespace FortranStyle

/-! ## Runs -/

/-- Successive runs of tokens have a line between them. -/
theorem exists_line_between {first second : List Token} {now last : Nat} (now_le : now ≤ last)
    (between : ∀ token ∈ first ++ second, now ≤ token.line ∧ token.line ≤ last)
    (ordered : (first ++ second).Pairwise fun first second => first.line ≤ second.line) :
    ∃ middle, now ≤ middle ∧ middle ≤ last ∧ (∀ token ∈ first, token.line ≤ middle) ∧
      ∀ token ∈ second, middle ≤ token.line := by
  rw [List.forall_mem_append] at between
  rcases List.eq_nil_or_concat first with rfl | ⟨init, lastToken, rfl⟩
  · exact ⟨now, le_rfl, now_le, List.forall_mem_nil _, fun token member =>
      (between.2 token member).1⟩
  · have lastToken_mem : lastToken ∈ init.concat lastToken := by simp
    obtain ⟨now_le, le_last⟩ := between.1 lastToken lastToken_mem
    obtain ⟨inFirst, -, across⟩ := List.pairwise_append.mp ordered
    refine ⟨lastToken.line, now_le, le_last, ?_, across lastToken lastToken_mem⟩
    rw [List.concat_eq_append, List.pairwise_append] at inFirst
    rw [List.concat_eq_append, List.forall_mem_append, List.forall_mem_singleton]
    exact ⟨fun token member => inFirst.2.2 token member lastToken (List.mem_singleton_self _),
      le_rfl⟩

/-- Statements that are read from top to bottom settle all that they close. -/
theorem ScanState.Settled.run {state : ScanState} {statements : List (List Token)}
    {now last : Nat} (settled : state.Settled now) (now_pos : 1 ≤ now) (now_le : now ≤ last)
    (between : ∀ token ∈ statements.flatten, now ≤ token.line ∧ token.line ≤ last)
    (ordered : statements.flatten.Pairwise fun first second => first.line ≤ second.line) :
    (state.run statements).Settled last := by
  induction statements generalizing state now with
  | nil => exact settled.mono now_le
  | cons statement rest ih =>
    rw [List.flatten_cons] at between ordered
    obtain ⟨middle, now_le_middle, middle_le, above, below⟩ :=
      exists_line_between now_le between ordered
    rw [List.forall_mem_append] at between
    obtain ⟨inStatement, inRest, -⟩ := List.pairwise_append.mp ordered
    have stepped := settled.step now_pos now_le_middle
      (fun token member => ⟨(between.1 token member).1, above token member⟩) inStatement
    exact ih stepped (now_pos.trans now_le_middle) middle_le
      (fun token member => ⟨below token member, (between.2 token member).2⟩) inRest

/-! ## Sources -/

namespace Tokenized

/-- The tokens of the statements stand on lines of the source. -/
theorem line_of_mem_statements (source : List String) :
    ∀ token ∈ (ofLines source).statements.flatten,
      1 ≤ token.line ∧ token.line ≤ source.length := by
  intro token member
  rw [statements, flatten_statementsOf, List.mem_filter] at member
  obtain ⟨member, code⟩ := member
  have upright := (pairwise_precedes source).2 token member code
  rw [(ofLines_eq source).1, readLines_eq, Part.tokens_append, List.mem_append] at member
  rcases member with inLines | dangling
  · obtain ⟨-, endLine_lt, started⟩ :=
      token_of_linesPart (nothingAbove 1) (source.map lineText) token inLines code
    rw [List.length_map] at endLine_lt
    have line_le : token.line ≤ token.endLine := by
      unfold NotBehind Token.start Token.stop at upright
      omega
    rcases started with below | ⟨literal, carried, -⟩
    · exact ⟨below, by omega⟩
    · contradiction
  · rw [isCode_danglingPart _ token dangling] at code
    contradiction

/-- The tokens of the statements stand on the same line or one below the other. -/
theorem pairwise_line_statements (source : List String) :
    (ofLines source).statements.flatten.Pairwise fun first second => first.line ≤ second.line := by
  obtain ⟨precedes, upright⟩ := pairwise_precedes source
  rw [statements, flatten_statementsOf]
  refine precedes.imp_of_mem fun {first second} firstMember _ ordered => ?_
  rw [List.mem_filter] at firstMember
  have standing := upright first firstMember.1 firstMember.2
  unfold Token.Precedes Before NotBehind Token.start Token.stop at *
  omega

end Tokenized

/-- At the end of a source with lines nothing is open, and all that has closed has
ranges in the source. -/
theorem settled_ofTokenized {source : List String} (nonempty : 1 ≤ source.length) :
    let outline := Outline.ofTokenized (.ofLines source)
    (∀ unit ∈ outline.units, unit.Complete source.length) ∧
      Successive 1 source.length outline.external ∧
      AllRanged source.length outline.external [] := by
  intro outline
  have counted : (Tokenized.ofLines source).lines.length = source.length := by
    simp [Tokenized.ofLines]
  have start : ScanState.initial.Settled 1 :=
    ⟨.outermost (.nil 1 1) (.nil 1), List.forall_mem_nil _⟩
  have closed := (start.run le_rfl nonempty (Tokenized.line_of_mem_statements source)
    (Tokenized.pairwise_line_statements source)).closeAll
      (ScanState.initial.run (Tokenized.ofLines source).statements).depth
  obtain ⟨spans, complete⟩ := closed
  rw [ScanState.frames_closeAll] at spans
  have outline_eq :
      outline = .ofStatements source.length (Tokenized.ofLines source).statements := by
    rw [← counted]
    rfl
  rw [outline_eq, Outline.ofStatements, max_eq_left nonempty]
  cases spans with
  | outermost successive all => exact ⟨complete, successive, all⟩

/-- Every program unit and procedure of a source has a range of lines in the
source; the ranges of the procedures that it holds, directly or as bodies of an
interface block, lie in it; and procedures next to each other have successive
ranges. -/
theorem ranges_nested (source : List String) :
    let outline := Outline.ofTokenized (.ofLines source)
    (∀ unit ∈ outline.units, unit.Ranged source.length) ∧
      (∀ held ∈ outline.procedures, held.1.Ranged source.length) ∧
      Successive 1 source.length outline.external := by
  intro outline
  rcases Nat.eq_zero_or_pos source.length with empty | nonempty
  · obtain rfl := List.length_eq_zero_iff.mp empty
    exact ⟨List.forall_mem_nil _, List.forall_mem_nil _, .nil 1 0⟩
  · obtain ⟨complete, successive, all⟩ := settled_ofTokenized nonempty
    refine ⟨fun unit member => (complete unit member).ranged, ?_, successive⟩
    rw [Outline.procedures, List.forall_mem_append]
    constructor
    · intro held member
      obtain ⟨unit, listed, inUnit⟩ := List.mem_flatMap.mp member
      obtain ⟨procedure, inside, rfl⟩ := List.mem_map.mp inUnit
      exact (complete unit listed).all procedure inside
    · intro held member
      obtain ⟨procedure, inside, rfl⟩ := List.mem_map.mp member
      exact all procedure (List.mem_append_left _ inside)

/-- Procedures that are not closed end where the module around them does. -/
theorem ranges_nested_unclosed :
    let source := ["module m", "contains", "subroutine a", "x = 1", "subroutine b", "end module"]
    let outline := Outline.ofTokenized (.ofLines source)
    (outline.procedures.map fun held => (held.1.name, held.1.startLine, held.1.endLine)) =
        [("a", 3, 6), ("b", 5, 6)] ∧
      ∀ held ∈ outline.procedures, held.1.Ranged 6 := by
  intro source outline
  exact ⟨by decide +kernel, (ranges_nested source).2.1⟩

end FortranStyle
