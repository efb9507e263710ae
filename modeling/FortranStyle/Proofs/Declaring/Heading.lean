import FortranStyle.Proofs.Declaring.Entity
import FortranStyle.Statement.Header

/-!
# Headers of procedures and typed declarations

A header has its marks in front, with type specifications anywhere among them, then FUNCTION or
SUBROUTINE, a name, perhaps arguments in brackets, and perhaps a RESULT and a BIND clause.  It is
read for what it says, also when its names are spelled like words of a header.  A declaration
starts with a type specification too; no declaration is taken for a header.
-/

namespace FortranStyle.Statement

open FortranStyle.Bracket (IsRound)

/-! ## The form of a header -/

/-- What stands in front of FUNCTION or SUBROUTINE, and the marks in it in small letters. -/
inductive IsMarks : List Token → List String → Prop
  | nothing : IsMarks [] []
  | mark {token : Token} {front : List Token} {marks : List String}
      (listed : token.isAmong Vocabulary.procedureMarks = true) (later : IsMarks front marks) :
      IsMarks (token :: front) (token.lower :: marks)
  | spec {spec front : List Token} {marks : List String}
      (isSpec : IsTypeSpec ["type", "class"] spec) (later : IsMarks front marks) :
      IsMarks (spec ++ front) marks

/-- The arguments of a procedure, which may be missing. -/
inductive IsArguments : List Token → List Token → Prop
  | nothing : IsArguments [] []
  | empty {bracket : List Token} (round : IsRound bracket []) : IsArguments bracket []
  | listed {bracket list names : List Token} (round : IsRound bracket list)
      (lists : Lists names list) : IsArguments bracket names

/-- A RESULT clause, which may be missing. -/
inductive IsResult : List Token → Option Token → Prop
  | nothing : IsResult [] none
  | named {word name : Token} {bracket : List Token} (isWord : word.isWord "result" = true)
      (round : IsRound bracket [name]) : IsResult (word :: bracket) (some name)

/-- A clause `BIND(C)` or `BIND(C, NAME=literal)`, which may be missing. -/
inductive IsBind : List Token → Prop
  | nothing : IsBind []
  | bare {word opening language closing : Token} (isWord : word.isWord "bind" = true)
      (opens : opening.isOp "(" = true) (isC : language.isWord "c" = true)
      (closes : closing.isOp ")" = true) : IsBind [word, opening, language, closing]
  | named {word opening language comma keyword sign literal closing : Token}
      (isWord : word.isWord "bind" = true) (opens : opening.isOp "(" = true)
      (isC : language.isWord "c" = true) (isComma : comma.isOp "," = true)
      (isKeyword : keyword.isWord "name" = true) (isSign : sign.isOp "=" = true)
      (isLiteral : literal.kind = .string) (closes : closing.isOp ")" = true) :
      IsBind [word, opening, language, comma, keyword, sign, literal, closing]

/-- The first statement of a procedure, and what it says. -/
inductive IsHeader : List Token → Header → Prop
  | intro {front list before clause after arguments : List Token} {marks : List String}
      {word name : Token} {kind : ProcedureKind} {result : Option Token}
      (isMarks : IsMarks front marks) (isKind : procedureKind? word = some kind)
      (isName : name.isName = true) (isArguments : IsArguments list arguments)
      (isBefore : IsBind before) (isResult : IsResult clause result) (isAfter : IsBind after) :
      IsHeader (front ++ word :: name :: (list ++ (before ++ (clause ++ after))))
        ⟨kind, name, marks, arguments, result.map (·.lower)⟩

/-! ## The form of a declaration -/

/-- The words that mean something in front of the name of a procedure. -/
def headerWords : List String :=
  ["function", "subroutine", "type", "class"] ++ Vocabulary.procedureMarks ++
    Vocabulary.intrinsicTypes

/-- A declaration of entities, with attributes or a double colon or directly behind the type
specification. -/
inductive IsTyped : List Token → Prop
  | marked {spec rest : List Token} {sign : Token} (isSpec : IsTypeSpec ["type", "class"] spec)
      (isSign : sign.isOp "," = true ∨ sign.isOp "::" = true) : IsTyped (spec ++ sign :: rest)
  | named {spec rest : List Token} {name : Token} (isSpec : IsTypeSpec ["type", "class"] spec)
      (isName : name.isName = true) (other : name.isAmong headerWords = false) :
      IsTyped (spec ++ name :: rest)
  | listed {spec listing : List Token} {entities : List Entity}
      (isSpec : IsTypeSpec ["type", "class"] spec) (isListing : IsListing listing entities) :
      IsTyped (spec ++ listing)

/-! ## Marks -/

/-- What the words that may start a type specification are not. -/
theorem procedureKind?_of_typeWord {token : Token} {word : String} (reads : token.Reads word)
    (member : word ∈ Vocabulary.intrinsicTypes ++ ["type", "class"]) :
    procedureKind? token = none ∧ token.isAmong Vocabulary.procedureMarks = false := by
  have other : ∀ word ∈ Vocabulary.intrinsicTypes ++ ["type", "class"], word ≠ "function" ∧
      word ≠ "subroutine" ∧ Vocabulary.procedureMarks.contains word = false := by
    decide
  obtain ⟨noFunction, noSubroutine, noMark⟩ := other word member
  constructor
  · simp [procedureKind?, reads.isWord_eq, noFunction, noSubroutine]
  · rw [reads.isAmong_eq, noMark]

theorem isName_of_procedureKind? {token : Token} {kind : ProcedureKind}
    (isKind : procedureKind? token = some kind) : token.isName = true := by
  unfold procedureKind? at isKind
  split at isKind
  · exact (Token.reads_of_isWord ‹_›).isName
  · split at isKind
    · exact (Token.reads_of_isWord ‹_›).isName
    · contradiction

section Marks

variable {token : Token} (rest : List Token)

theorem headerMarks?_of_procedureKind? {kind : ProcedureKind}
    (isKind : procedureKind? token = some kind) :
    headerMarks? (token :: rest) = some ([], token :: rest) := by
  rw [headerMarks?, isKind, Option.isSome_some, if_pos rfl]

theorem headerMarks?_of_isAmong (other : procedureKind? token = none)
    (listed : token.isAmong Vocabulary.procedureMarks = true) :
    headerMarks? (token :: rest) =
      (headerMarks? rest).map fun (marks, tail) => (token.lower :: marks, tail) := by
  rw [headerMarks?, other, Option.isSome_none, if_neg Bool.false_ne_true, if_pos listed]

theorem headerMarks?_of_other (other : procedureKind? token = none)
    (noMark : token.isAmong Vocabulary.procedureMarks = false) :
    headerMarks? (token :: rest) =
      if token.isAmong Vocabulary.intrinsicTypes ||
          (isDerivedTypeWord token && rest.head?.any (·.isOp "(")) then
        headerMarks? (typeSpec (token :: rest)).rest
      else none := by
  rw [headerMarks?, other, Option.isSome_none, if_neg Bool.false_ne_true, noMark,
    if_neg Bool.false_ne_true]

end Marks

/-- A type specification is passed over. -/
theorem headerMarks?_spec {spec : List Token} (isSpec : IsTypeSpec ["type", "class"] spec)
    {rest : List Token} (apart : IsApart rest) :
    headerMarks? (spec ++ rest) = headerMarks? rest := by
  have rest_eq := isSpec.rest_typeSpec (by decide) apart
  obtain ⟨first, more, rfl, word, reads, typed⟩ := isSpec.exists_cons
  rw [List.cons_append] at rest_eq ⊢
  have member : word ∈ Vocabulary.intrinsicTypes ++ ["type", "class"] :=
    List.mem_append.mpr (typed.imp_right And.left)
  obtain ⟨other, noMark⟩ := procedureKind?_of_typeWord reads member
  rw [headerMarks?_of_other _ other noMark, rest_eq, if_pos]
  rcases typed with intrinsic | ⟨isDerived, opens⟩
  · rw [reads.isAmong_eq, List.contains_iff_mem.mpr intrinsic, Bool.true_or]
  · rw [isDerivedTypeWord, reads.isAmong_eq ["type", "class"], List.contains_iff_mem.mpr isDerived]
    cases more with
    | nil => contradiction
    | cons bracket more => simpa using .inr opens

namespace IsMarks

variable {front : List Token} {marks : List String} (isMarks : IsMarks front marks)
include isMarks

theorem isApart {rest : List Token} (later : IsApart rest) : IsApart (front ++ rest) := by
  cases isMarks with
  | nothing => exact later
  | mark listed _ => exact isApart_of_isName (Bool.and_eq_true_iff.mp listed).1 _
  | spec isSpec _ =>
    obtain ⟨first, more, rfl, word, reads, -⟩ := isSpec.exists_cons
    exact isApart_of_isName reads.isName _

/-- The marks are read up to FUNCTION or SUBROUTINE. -/
theorem headerMarks?_eq {word : Token} {kind : ProcedureKind}
    (isKind : procedureKind? word = some kind) (rest : List Token) :
    headerMarks? (front ++ word :: rest) = some (marks, word :: rest) := by
  have isName := isName_of_procedureKind? isKind
  induction isMarks with
  | nothing => exact headerMarks?_of_procedureKind? rest isKind
  | @mark token front marks listed _ ih =>
    obtain ⟨mark, member, reads⟩ := exists_reads_of_isAmong listed
    have other : procedureKind? token = none := by
      have noKind : mark ≠ "function" ∧ mark ≠ "subroutine" := by
        constructor <;> rintro rfl <;> exact absurd member (by decide)
      simp [procedureKind?, reads.isWord_eq, noKind]
    rw [List.cons_append, headerMarks?_of_isAmong _ other listed, ih, Option.map_some]
  | spec isSpec later ih =>
    rw [List.append_assoc,
      headerMarks?_spec isSpec (later.isApart (isApart_of_isName isName rest)), ih]

end IsMarks

/-! ## Arguments and clauses -/

theorem Lists.items_eq {list names : List Token} (lists : Lists names list) :
    Bracket.items list = names.map ([·]) := by
  have items_eq : Bracket.items ([] ++ list) = ([] ++ names.take 1) :: names.tail.map ([·]) :=
    lists.split_append (by simp)
  rw [List.nil_append, List.nil_append] at items_eq
  rw [items_eq]
  cases lists <;> rfl

/-- The arguments are the names in the brackets. -/
theorem Lists.argumentNames_eq {list names : List Token} (lists : Lists names list) :
    argumentNames list = names := by
  rw [argumentNames, lists.items_eq, List.filterMap_map]
  refine Eq.trans (List.filterMap_congr fun name listed => ?_) List.filterMap_some
  exact if_pos (lists.isName_of_mem name listed)

theorem resultName?_cons {token : Token} (other : token.isWord "result" = false)
    (found : Option String) (rest : List Token) :
    resultName? found (token :: rest) = resultName? found rest := by
  rcases rest with _ | ⟨bracket, _ | ⟨name, rest⟩⟩
  · simp [resultName?]
  · simp [resultName?]
  · rw [resultName?, other, Bool.false_and, if_neg Bool.false_ne_true]

namespace IsBind

variable {clause : List Token} (isBind : IsBind clause)
include isBind

theorem isApart {rest : List Token} (later : IsApart rest) : IsApart (clause ++ rest) := by
  cases isBind with
  | nothing => exact later
  | bare isWord => exact isApart_of_isName (Token.reads_of_isWord isWord).isName _
  | named isWord => exact isApart_of_isName (Token.reads_of_isWord isWord).isName _

/-- A BIND clause names no result. -/
theorem resultName?_append (found : Option String) (rest : List Token) :
    resultName? found (clause ++ rest) = resultName? found rest := by
  have noWord {token : Token} {word : String} (isWord : token.isWord word = true)
      (other : word ≠ "result") : token.isWord "result" = false := by
    simpa [(Token.reads_of_isWord isWord).isWord_eq] using other
  have noSign {token : Token} {operator : String} (isOp : token.isOp operator = true) :
      token.isWord "result" = false := by
    rw [Token.isWord, Token.isName_of_isOp isOp, Bool.false_and]
  cases isBind with
  | nothing => rfl
  | bare isWord opens isC closes =>
    simp only [List.cons_append, List.nil_append]
    rw [resultName?_cons (noWord isWord (by decide)), resultName?_cons (noSign opens),
      resultName?_cons (noWord isC (by decide)), resultName?_cons (noSign closes)]
  | named isWord opens isC isComma isKeyword isSign isLiteral closes =>
    have noLiteral {literal : Token} (isLiteral : literal.kind = .string) :
        literal.isWord "result" = false := by
      simp [Token.isWord, Token.isName, isLiteral]
    simp only [List.cons_append, List.nil_append]
    rw [resultName?_cons (noWord isWord (by decide)), resultName?_cons (noSign opens),
      resultName?_cons (noWord isC (by decide)), resultName?_cons (noSign isComma),
      resultName?_cons (noWord isKeyword (by decide)), resultName?_cons (noSign isSign),
      resultName?_cons (noLiteral isLiteral), resultName?_cons (noSign closes)]

end IsBind

namespace IsResult

variable {clause : List Token} {result : Option Token} (isResult : IsResult clause result)
include isResult

theorem isApart {rest : List Token} (later : IsApart rest) : IsApart (clause ++ rest) := by
  cases isResult with
  | nothing => exact later
  | named isWord _ => exact isApart_of_isName (Token.reads_of_isWord isWord).isName _

theorem resultName?_append (rest : List Token) :
    resultName? none (clause ++ rest) = resultName? (result.map (·.lower)) rest := by
  cases isResult with
  | nothing => rfl
  | @named word name bracket isWord round =>
    have beyond_eq := round.beyond_append rest
    cases round with
    | intro opens _ closes =>
      simp only [List.cons_append, List.nil_append] at beyond_eq ⊢
      rw [resultName?, isWord, opens, Bool.and_self, if_pos rfl, beyond_eq]
      rfl

end IsResult

/-! ## Headers -/

theorem IsApart.noBracket {rest : List Token} (apart : IsApart rest) :
    rest.head?.any (·.isOp "(") = false := by
  cases rest with
  | nil => rfl
  | cons token more =>
    simp only [IsApart, List.head?_cons, Option.all_some, Bool.and_eq_true,
      Bool.not_eq_true'] at apart
    exact apart.1

/-- A header is read for what it says. -/
theorem IsHeader.header?_eq {tokens : List Token} {header : Header}
    (isHeader : IsHeader tokens header) : header? tokens = some header := by
  cases isHeader with
  | @intro front list before clause after arguments marks word name kind result isMarks isKind
      isName isArguments isBefore isResult isAfter =>
    have result_eq : resultName? none (before ++ (clause ++ after)) = result.map (·.lower) := by
      have after_eq := isAfter.resultName?_append (result.map (·.lower)) []
      rw [List.append_nil] at after_eq
      rw [isBefore.resultName?_append, isResult.resultName?_append, after_eq]
      simp [resultName?]
    have apart : IsApart (before ++ (clause ++ after)) := by
      have last : IsApart (after ++ []) := isAfter.isApart rfl
      rw [List.append_nil] at last
      exact isBefore.isApart (isResult.isApart last)
    have within {bracket inner : List Token} (round : IsRound bracket inner) :
        (bracket ++ (before ++ (clause ++ after))).head?.any (·.isOp "(") = true := by
      obtain ⟨opening, more, rfl, opens⟩ := round.exists_cons
      exact opens
    rw [header?, isMarks.headerMarks?_eq isKind]
    dsimp only
    rw [if_pos isName, isKind, Option.map_some]
    cases isArguments with
    | nothing => rw [List.nil_append, apart.noBracket, if_neg Bool.false_ne_true, result_eq]
    | empty round =>
      rw [if_pos (within round), round.inside_append, round.beyond_append, result_eq]
      rfl
    | listed round lists =>
      rw [if_pos (within round), round.inside_append, round.beyond_append, result_eq,
        lists.argumentNames_eq]

/-! ## Declarations -/

theorem header?_eq_none {tokens : List Token} (noMarks : headerMarks? tokens = none) :
    header? tokens = none := by
  rw [header?, noMarks]

/-- A run that starts with no name. -/
def StartsBare (tokens : List Token) : Prop :=
  tokens.head?.all (!·.isName) = true

theorem startsBare_of_isOp {token : Token} {operator : String} (isOp : token.isOp operator = true)
    (rest : List Token) : StartsBare (token :: rest) := by
  simp [StartsBare, Token.isName_of_isOp isOp]

/-- A sign other than a bracket or a star is apart from what is in front of it, and no name. -/
theorem isApart_of_either {token : Token} {first second : String}
    (isSign : token.isOp first = true ∨ token.isOp second = true)
    (other : first ∉ ["(", "*"] ∧ second ∉ ["(", "*"]) (rest : List Token) :
    IsApart (token :: rest) ∧ StartsBare (token :: rest) := by
  simp only [List.mem_cons, List.not_mem_nil, or_false, not_or] at other
  obtain ⟨⟨noBracket, noStar⟩, noBracket', noStar'⟩ := other
  rcases isSign with isSign | isSign
  · exact ⟨isApart_of_isOp isSign noBracket noStar rest, startsBare_of_isOp isSign rest⟩
  · exact ⟨isApart_of_isOp isSign noBracket' noStar' rest, startsBare_of_isOp isSign rest⟩

theorem StartsBare.headerMarks?_eq {tokens : List Token} (bare : StartsBare tokens) :
    headerMarks? tokens = none := by
  cases tokens with
  | nil => rw [headerMarks?]
  | cons token rest =>
    have noName : token.isName = false := by simpa [StartsBare] using bare
    rw [headerMarks?]
    simp [procedureKind?, isDerivedTypeWord, Token.isWord, Token.isAmong, noName]

theorem typeSpec_of_startsBare (first : Token) {rest : List Token} (bare : StartsBare rest) :
    typeSpec (first :: rest) = .ofSuffix first.lower rest := by
  cases rest with
  | nil => rfl
  | cons second more =>
    have noName : second.isName = false := by simpa [StartsBare] using bare
    simp [typeSpec, noName]

/-- What ends an entity: nothing, or the comma in front of the next. -/
def IsEnd (rest : List Token) : Prop :=
  rest.head?.all (·.isOp ",") = true

section End

variable {rest : List Token} (isEnd : IsEnd rest)
include isEnd

theorem IsEnd.isApart : IsApart rest ∧ StartsBare rest := by
  cases rest with
  | nil => exact ⟨rfl, rfl⟩
  | cons comma more =>
    have isComma : comma.isOp "," = true := by simpa [IsEnd] using isEnd
    exact ⟨isApart_of_isOp isComma (by decide) (by decide) _, startsBare_of_isOp isComma _⟩

theorem IsInitializer.isApart {value : List Token} {initializer : Option (List Token)}
    (isInitializer : IsInitializer value initializer) :
    IsApart (value ++ rest) ∧ StartsBare (value ++ rest) := by
  cases isInitializer with
  | nothing => exact isEnd.isApart
  | value isSign _ => exact isApart_of_either isSign (by decide) _

end End

theorem IsLength.startsBare {length rest : List Token} (isLength : IsLength length)
    (apart : IsApart rest) (bare : StartsBare rest) :
    (length ++ rest).head?.any (·.isOp "(") = false ∧ StartsBare (length ++ rest) := by
  have star {token : Token} (isStar : token.isOp "*" = true) (more : List Token) :
      (token :: more).head?.any (·.isOp "(") = false ∧ StartsBare (token :: more) :=
    ⟨Position.isOp_eq_false isStar (by decide), startsBare_of_isOp isStar _⟩
  cases isLength with
  | nothing => exact ⟨apart.noBracket, bare⟩
  | size isStar _ => exact star isStar _
  | round isStar _ => exact star isStar _

/-- Behind the length of a type no name follows in a list of entities. -/
theorem IsLength.startsBare_ofSuffix {length rest : List Token} (isLength : IsLength length)
    {name : String} (intrinsic : Vocabulary.intrinsicTypes.contains name = true)
    (apart : IsApart rest) (bare : StartsBare rest) :
    StartsBare (TypeSpec.ofSuffix name (length ++ rest)).rest := by
  cases isLength with
  | nothing => rwa [List.nil_append, rest_ofSuffix name apart]
  | size isStar isSize =>
    rwa [List.cons_append, List.singleton_append,
      rest_ofSuffix_size isStar intrinsic (Token.isOp_of_kind_ne isSize "(")]
  | round isStar round =>
    rwa [List.cons_append, rest_ofSuffix_length isStar intrinsic round]

theorem IsDimension.startsBare {bounds rest : List Token} {dimension : Option (List Token)}
    (isDimension : IsDimension bounds dimension) (bare : StartsBare rest) :
    StartsBare (bounds ++ rest) := by
  cases isDimension with
  | nothing => exact bare
  | bounds round =>
    obtain ⟨opening, more, rfl, opens⟩ := round.exists_cons
    exact startsBare_of_isOp opens _

/-- FUNCTION and SUBROUTINE need a name behind them. -/
theorem header?_of_startsBare {word : Token} {kind : ProcedureKind}
    (isKind : procedureKind? word = some kind) {rest : List Token} (bare : StartsBare rest) :
    header? (word :: rest) = none := by
  rw [header?, headerMarks?_of_procedureKind? rest isKind]
  cases rest with
  | nil => rfl
  | cons name more =>
    have noName : name.isName = false := by simpa [StartsBare] using bare
    simp [noName]

/-- An entity in front of the end of its declaration starts no header, whatever its name. -/
theorem IsEntity.header?_eq_none {run rest : List Token} {entity : Entity}
    (isEntity : IsEntity run entity) (isEnd : IsEnd rest) : header? (run ++ rest) = none := by
  cases isEntity with
  | @intro name bounds length value dimension initializer isName isDimension isLength
      isInitializer =>
    obtain ⟨apart, bareValue⟩ := isInitializer.isApart isEnd
    obtain ⟨noBracket, bareLength⟩ := isLength.startsBare apart bareValue
    have bare := isDimension.startsBare bareLength
    have tail_eq : name :: (bounds ++ (length ++ value)) ++ rest =
        name :: (bounds ++ (length ++ (value ++ rest))) := by
      simp
    rw [tail_eq]
    cases isKind : procedureKind? name with
    | some kind => exact header?_of_startsBare isKind bare
    | none =>
    apply Statement.header?_eq_none
    cases isMark : name.isAmong Vocabulary.procedureMarks with
    | true => rw [headerMarks?_of_isAmong _ isKind isMark, bare.headerMarks?_eq, Option.map_none]
    | false =>
    rw [headerMarks?_of_other _ isKind isMark, typeSpec_of_startsBare name bare]
    split
    · -- The name is taken for a type, and the bounds or the length for its selector.
      rename_i isType
      refine StartsBare.headerMarks?_eq ?_
      cases isDimension with
      | nothing =>
        rw [List.nil_append, noBracket, Bool.and_false, Bool.or_false] at isType
        exact isLength.startsBare_ofSuffix (contains_lower_of_isAmong isType) apart bareValue
      | bounds round => rwa [rest_ofSuffix_round _ round]
    · rfl

theorem IsListing.exists_run {listing : List Token} {entities : List Entity}
    (isListing : IsListing listing entities) :
    ∃ run entity rest, listing = run ++ rest ∧ IsEntity run entity ∧ IsEnd rest := by
  cases isListing with
  | one isEntity => exact ⟨_, _, [], (List.append_nil _).symm, isEntity, rfl⟩
  | more isEntity isComma _ => exact ⟨_, _, _, rfl, isEntity, isComma⟩

/-- No declaration is taken for a header. -/
theorem IsTyped.header?_eq_none {tokens : List Token} (isTyped : IsTyped tokens) :
    header? tokens = none := by
  have passed {spec rest : List Token} (isSpec : IsTypeSpec ["type", "class"] spec)
      (apart : IsApart rest) : header? (spec ++ rest) = header? rest := by
    rw [header?, header?, headerMarks?_spec isSpec apart]
  cases isTyped with
  | @marked spec rest sign isSpec isSign =>
    obtain ⟨apart, bare⟩ := isApart_of_either isSign (by decide) rest
    rw [passed isSpec apart]
    exact Statement.header?_eq_none bare.headerMarks?_eq
  | @named spec rest name isSpec isName other =>
    rw [passed isSpec (isApart_of_isName isName _)]
    simp only [headerWords, Token.isAmong, isName, Bool.true_and, List.contains_eq_mem,
      decide_eq_false_iff_not, List.mem_append, List.mem_cons, List.not_mem_nil, or_false,
      not_or] at other
    obtain ⟨⟨⟨noFunction, noSubroutine, noType, noClass⟩, noMark⟩, noIntrinsic⟩ := other
    apply Statement.header?_eq_none
    simp [headerMarks?, procedureKind?, isDerivedTypeWord, Token.isWord, Token.isAmong, noFunction,
      noSubroutine, noType, noClass, noMark, noIntrinsic]
  | listed isSpec isListing =>
    obtain ⟨run, entity, rest, rfl, isEntity, isEnd⟩ := isListing.exists_run
    have apart : IsApart (run ++ rest) := by
      obtain ⟨more, rfl, isName⟩ := isEntity.exists_cons
      exact isApart_of_isName isName _
    rw [passed isSpec apart, isEntity.header?_eq_none isEnd]

/-- A header with any marks, a type specification among them, any name and any clauses is read
for what it says; a declaration is read as no header. -/
theorem header?_of_form (tokens : List Token) :
    (∀ header, IsHeader tokens header → header? tokens = some header) ∧
      (IsTyped tokens → header? tokens = none) :=
  ⟨fun _ isHeader => isHeader.header?_eq, IsTyped.header?_eq_none⟩

/-- A function called RESULT has a result clause, and an array called FUNCTION is declared. -/
theorem header?_of_form_result :
    let result : Token := ⟨.keyword, "Result", 1, 23, 1, 28⟩
    let argument : Token := ⟨.keyword, "in", 1, 30, 1, 31⟩
    (Tokenized.ofLines ["real(8) PURE function Result(in) result(R)",
        "real function(3), x"]).statements.map header? =
      [some ⟨.function, result, ["pure"], [argument], some "r"⟩, none] := by
  intro result argument
  let opening (line column : Nat) : Token := ⟨.operator, "(", line, column, line, column⟩
  let closing (line column : Nat) : Token := ⟨.operator, ")", line, column, line, column⟩
  let real (line : Nat) : Token := ⟨.keyword, "real", line, 1, line, 4⟩
  let size : Token := ⟨.number, "8", 1, 6, 1, 6⟩
  let pure : Token := ⟨.keyword, "PURE", 1, 9, 1, 12⟩
  let function : Token := ⟨.keyword, "function", 1, 14, 1, 21⟩
  let clause : Token := ⟨.keyword, "result", 1, 34, 1, 39⟩
  let value : Token := ⟨.identifier, "R", 1, 41, 1, 41⟩
  let array : Token := ⟨.keyword, "function", 2, 6, 2, 13⟩
  let bound : Token := ⟨.number, "3", 2, 15, 2, 15⟩
  let comma : Token := ⟨.operator, ",", 2, 17, 2, 17⟩
  let other : Token := ⟨.identifier, "x", 2, 19, 2, 19⟩
  let header : List Token :=
    (real 1 :: opening 1 5 :: ([size] ++ [closing 1 7])) ++ [pure] ++ function :: result ::
      (opening 1 29 :: ([argument] ++ [closing 1 32]) ++
        ([] ++ (clause :: opening 1 40 :: ([value] ++ [closing 1 42]) ++ [])))
  let declaration : List Token :=
    [real 2] ++ (array :: (opening 2 14 :: ([bound] ++ [closing 2 16]) ++ ([] ++ [])) ++
      comma :: [other])
  have statements_eq : (Tokenized.ofLines ["real(8) PURE function Result(in) result(R)",
      "real function(3), x"]).statements = [header, declaration] := by
    decide +kernel
  have isHeader : IsHeader header ⟨.function, result, [pure.lower], [argument],
      some value.lower⟩ := by
    have selector : IsRound (opening 1 5 :: ([size] ++ [closing 1 7])) [size] :=
      .intro rfl (by decide +kernel) rfl
    have arguments : IsRound (opening 1 29 :: ([argument] ++ [closing 1 32])) [argument] :=
      .intro rfl (by decide +kernel) rfl
    have named : IsRound (opening 1 40 :: ([value] ++ [closing 1 42])) [value] :=
      .intro rfl (by decide +kernel) rfl
    have marked : IsMarks [pure] [pure.lower] := .mark (by decide +kernel) .nothing
    exact .intro (.spec (.selector (by decide +kernel) (by decide +kernel) selector) marked)
      (by decide +kernel) rfl (.listed arguments (.one rfl)) .nothing
      (.named (by decide +kernel) named) .nothing
  have isTyped : IsTyped declaration := by
    have bounds : IsRound (opening 2 14 :: ([bound] ++ [closing 2 16])) [bound] :=
      .intro rfl (by decide +kernel) rfl
    have first : IsEntity (array :: (opening 2 14 :: ([bound] ++ [closing 2 16]) ++ ([] ++ [])))
        ⟨array, some [bound], none⟩ :=
      .intro rfl (.bounds bounds) .nothing .nothing
    have second : IsEntity [other] ⟨other, none, none⟩ := .intro rfl .nothing .nothing .nothing
    exact .listed (.plain (by decide +kernel) (by decide +kernel)) (.more first rfl (.one second))
  have lower_eq : pure.lower = "pure" ∧ value.lower = "r" := by decide +kernel
  rw [statements_eq, List.map_cons, List.map_singleton, (header?_of_form header).1 _ isHeader,
    (header?_of_form declaration).2 isTyped, lower_eq.1, lower_eq.2]

end FortranStyle.Statement
