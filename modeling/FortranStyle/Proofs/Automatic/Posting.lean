import FortranStyle.Proofs.Ledger.History

/-!
# Postings

A declaration is judged when it is posted: what is known then are the named constants of
its own scope and of the program unit around.  Later postings stand behind it, so a
judgement by the constants in front of a declaration stays right.
-/

namespace FortranStyle

/-- A declaration in a ledger, with what is known of the ledger from its start on. -/
structure Posting where
  home : Home
  holder : Token
  arguments : Option (List Token)
  declaration : Declaration

/-- Whether a declaration with a dimension can be automatic at all. -/
def Declaration.isPlainArray (declaration : Declaration) : Bool :=
  !declaration.dimension.isEmpty && !declaration.has "allocatable" &&
    !declaration.has "pointer" && !declaration.isParameter

theorem Declaration.hasRunTimeBounds_iff {declaration : Declaration} {constants : List String} :
    declaration.hasRunTimeBounds constants = true ↔
      declaration.isPlainArray = true ∧
        ∃ token ∈ declaration.dimension, token.kind = .identifier ∧ token.lower ∉ constants := by
  rw [hasRunTimeBounds, ← isPlainArray, Bool.and_eq_true, List.any_eq_true]
  simp

namespace Posting

/-- The place of the declared name. -/
def place (posting : Posting) : Nat × Nat :=
  posting.declaration.token.start

/-- The declaration is that of a local variable of a procedure. -/
def IsLocal (posting : Posting) : Prop :=
  ∃ arguments, posting.arguments = some arguments ∧
    ∀ argument ∈ arguments, argument.lower ≠ posting.declaration.name

/-- A declaration in front, in the same scope or in the program unit around, makes a name a
named constant. -/
def Knows (postings : Multiset Posting) (posting : Posting) (name : String) : Prop :=
  ∃ earlier ∈ postings, earlier.declaration.isParameter = true ∧
    earlier.declaration.name = name ∧ Before earlier.place posting.place ∧
    (earlier.holder = posting.holder ∨
      earlier.home = posting.home ∧ earlier.arguments = none)

/-- A declaration is automatic exactly when it is that of a local array with a name in its
bounds that is not known to be a constant. -/
def Judged (postings : Multiset Posting) (posting : Posting) : Prop :=
  posting.declaration.isAutomatic = true ↔
    posting.IsLocal ∧ posting.declaration.isPlainArray = true ∧
      ∃ token ∈ posting.declaration.dimension, token.kind = .identifier ∧
        ¬posting.Knows postings token.lower

/-- All declarations are judged by those in front of them. -/
def Settled (postings : Multiset Posting) : Prop :=
  ∀ posting ∈ postings, posting.Judged postings

variable {postings : Multiset Posting} {posting later : Posting}

/-- What is posted behind a declaration is not known to it. -/
theorem knows_cons (behind : ¬Before later.place posting.place) (name : String) :
    posting.Knows (later ::ₘ postings) name ↔ posting.Knows postings name := by
  constructor
  · rintro ⟨earlier, member, isParameter, name_eq, order, visible⟩
    rcases Multiset.mem_cons.mp member with rfl | old
    · exact absurd order behind
    · exact ⟨earlier, old, isParameter, name_eq, order, visible⟩
  · rintro ⟨earlier, member, known⟩
    exact ⟨earlier, Multiset.mem_cons_of_mem member, known⟩

theorem judged_cons (behind : ¬Before later.place posting.place) :
    posting.Judged (later ::ₘ postings) ↔ posting.Judged postings := by
  simp only [Judged, knows_cons behind]

theorem Settled.cons (settled : Settled postings)
    (inFront : ∀ earlier ∈ postings, Before earlier.place posting.place)
    (judged : posting.Judged postings) : Settled (posting ::ₘ postings) := by
  intro other member
  rcases Multiset.mem_cons.mp member with rfl | old
  · exact (judged_cons (by unfold Before; omega)).mpr judged
  · have order := inFront other old
    exact (judged_cons (by unfold Before at *; omega)).mpr (settled other old)

end Posting

namespace Ledger

/-- The declarations of a ledger as postings. -/
def postings (entry : Home × Ledger) : Multiset Posting :=
  entry.2.declarations.map fun declaration =>
    Posting.mk entry.1 entry.2.token entry.2.arguments declaration

/-- The postings of all ledgers. -/
def posted (ledgers : Multiset (Home × Ledger)) : Multiset Posting :=
  ledgers.bind postings

theorem mem_posted {ledgers : Multiset (Home × Ledger)} {posting : Posting} :
    posting ∈ posted ledgers ↔
      ∃ entry ∈ ledgers, ∃ declaration ∈ entry.2.declarations,
        Posting.mk entry.1 entry.2.token entry.2.arguments declaration = posting := by
  simp only [posted, Multiset.mem_bind, postings, Multiset.mem_coe, List.mem_map]

theorem posted_cons (home : Home) (ledger : Ledger) (others : Multiset (Home × Ledger)) :
    posted ({(home, ledger)} + others) = postings (home, ledger) + posted others := by
  rw [posted, Multiset.add_bind, Multiset.singleton_bind, posted]

/-- The place of a posting is that of a token in the ledgers. -/
theorem exists_written_of_mem_posted {ledgers : Multiset (Home × Ledger)} {posting : Posting}
    (member : posting ∈ posted ledgers) : posting.declaration.token ∈ written ledgers := by
  obtain ⟨entry, entered, declaration, declared, rfl⟩ := mem_posted.mp member
  refine Multiset.mem_bind.mpr ⟨entry, entered, ?_⟩
  exact List.mem_cons_of_mem _ (List.mem_append_left _ (List.mem_map_of_mem declared))

/-! ## Declaring -/

section Declaring

variable {home : Home} {ledger : Ledger} {others : Multiset (Home × Ledger)}
  {unitConstants : List String}

/-- The constants that are given are those of the program unit with the place of a ledger, if
this is the ledger of a procedure. -/
def GivesUnit (home : Home) (ledger : Ledger) (others : Multiset (Home × Ledger))
    (unitConstants : List String) : Prop :=
  ledger.arguments ≠ none → ∀ name, name ∈ unitConstants ↔
    ∃ posting ∈ posted others, posting.home = home ∧ posting.arguments = none ∧
      posting.declaration.isParameter = true ∧ posting.declaration.name = name

theorem posted_declare (declaration : Declaration) :
    posted ({(home, ledger.declare unitConstants declaration)} + others) =
      ⟨home, ledger.token, ledger.arguments, ledger.judge unitConstants declaration⟩ ::ₘ
        posted ({(home, ledger)} + others) := by
  rw [posted_cons, posted_cons, postings, postings, declare]
  dsimp only
  rw [List.map_append, ← Multiset.coe_add, List.map_singleton, Multiset.coe_singleton,
    ← Multiset.singleton_add]
  abel

/-- The constants by which a declaration of a procedure is judged are those known to it. -/
theorem knows_iff {declaration : Declaration} (isProcedure : ledger.arguments ≠ none)
    (alone : ∀ entry ∈ others, entry.2.token ≠ ledger.token)
    (gives : GivesUnit home ledger others unitConstants)
    (inFront : ∀ earlier ∈ posted ({(home, ledger)} + others),
      Before earlier.place declaration.token.start) (name : String) :
    (Posting.mk home ledger.token ledger.arguments declaration).Knows
        (posted ({(home, ledger)} + others)) name ↔
      name ∈ ledger.constants ++ unitConstants := by
  rw [List.mem_append, gives isProcedure name, Ledger.constants]
  simp only [List.mem_map, List.mem_filter]
  constructor
  · rintro ⟨earlier, member, isParameter, name_eq, -, visible⟩
    rw [posted_cons, Multiset.mem_add] at member
    rcases member with own | other
    · obtain ⟨declared, listed, rfl⟩ := List.mem_map.mp (Multiset.mem_coe.mp own)
      exact .inl ⟨declared, ⟨listed, isParameter⟩, name_eq⟩
    · rcases visible with same | ⟨home_eq, isUnit⟩
      · obtain ⟨entry, entered, declared, -, rfl⟩ := mem_posted.mp other
        exact absurd same (alone entry entered)
      · exact .inr ⟨earlier, other, home_eq, isUnit, isParameter, name_eq⟩
  · rintro (⟨declared, ⟨listed, isParameter⟩, name_eq⟩ |
      ⟨earlier, other, home_eq, isUnit, isParameter, name_eq⟩)
    · have member : Posting.mk home ledger.token ledger.arguments declared ∈
          posted ({(home, ledger)} + others) := by
        rw [posted_cons]
        exact Multiset.mem_add.mpr (.inl (Multiset.mem_coe.mpr (List.mem_map_of_mem listed)))
      exact ⟨_, member, isParameter, name_eq, inFront _ member, .inl rfl⟩
    · have member : earlier ∈ posted ({(home, ledger)} + others) := by
        rw [posted_cons]
        exact Multiset.mem_add.mpr (.inr other)
      exact ⟨earlier, member, isParameter, name_eq, inFront _ member, .inr ⟨home_eq, isUnit⟩⟩

theorem hasLocal_iff (name : String) :
    ledger.hasLocal name = true ↔
      ∃ arguments, ledger.arguments = some arguments ∧
        ∀ argument ∈ arguments, argument.lower ≠ name := by
  rw [hasLocal, Option.any_eq_true]
  simp

/-- A declaration is judged rightly. -/
theorem judged_judge {declaration : Declaration} (plain : declaration.isAutomatic = false)
    (alone : ∀ entry ∈ others, entry.2.token ≠ ledger.token)
    (gives : GivesUnit home ledger others unitConstants)
    (inFront : ∀ earlier ∈ posted ({(home, ledger)} + others),
      Before earlier.place declaration.token.start) :
    (Posting.mk home ledger.token ledger.arguments
      (ledger.judge unitConstants declaration)).Judged (posted ({(home, ledger)} + others)) := by
  cases isProcedure : ledger.arguments with
  | none => simp [Posting.Judged, Posting.IsLocal, judge, isProcedure, plain]
  | some arguments =>
    have procedure : ledger.arguments ≠ none := by simp [isProcedure]
    have known := knows_iff procedure alone gives inFront
    have judged : (ledger.judge unitConstants declaration).isAutomatic =
        (ledger.hasLocal declaration.name &&
          declaration.hasRunTimeBounds (ledger.constants ++ unitConstants)) := by
      simp [judge, isProcedure]
    rw [Posting.Judged, judged, Bool.and_eq_true, hasLocal_iff,
      Declaration.hasRunTimeBounds_iff, ← isProcedure]
    simp only [← known]
    rfl

theorem settled_foldl {declarations : List Declaration}
    (plain : ∀ declaration ∈ declarations, declaration.isAutomatic = false)
    (alone : ∀ entry ∈ others, entry.2.token ≠ ledger.token)
    (gives : GivesUnit home ledger others unitConstants)
    (ordered : declarations.Pairwise fun first second =>
      Before first.token.start second.token.start)
    (inFront : ∀ earlier ∈ posted ({(home, ledger)} + others),
      ∀ declaration ∈ declarations, Before earlier.place declaration.token.start)
    (settled : Posting.Settled (posted ({(home, ledger)} + others))) :
    Posting.Settled
      (posted ({(home, declarations.foldl (declare unitConstants) ledger)} + others)) := by
  induction declarations generalizing ledger with
  | nil => exact settled
  | cons declaration rest ih =>
    rw [List.forall_mem_cons] at plain
    rw [List.pairwise_cons] at ordered
    have first := fun earlier member => inFront earlier member declaration List.mem_cons_self
    rw [List.foldl_cons]
    refine ih plain.2 alone gives ordered.2 ?_ ?_
    · rw [posted_declare]
      intro earlier member
      rcases Multiset.mem_cons.mp member with rfl | old
      · exact ordered.1
      · exact fun later listed => inFront earlier old later (List.mem_cons_of_mem _ listed)
    · rw [posted_declare]
      exact settled.cons first (judged_judge plain.1 alone gives first)

end Declaring

end Ledger

end FortranStyle
