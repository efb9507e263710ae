import FortranStyle.Statement.Bracket

/-!
# Copies of tokens

A transcription copies a source with other letters at other places.  It may
exchange letters only for letters with the same small form, and it leaves every
other character as it is.  So a copied token is a name, a word, an operator or a
bracket exactly when the token is, and whatever is read off a run of tokens by
kinds, words and operators can be read off its copy.
-/

namespace FortranStyle

/-- A copy of a source with other letters at other places. -/
structure Transcription where
  /-- What is written for a character. -/
  char : Char → Char
  /-- The line to which a line goes. -/
  line : Nat → Nat
  /-- The column to which a column of a line goes. -/
  column : Nat → Nat → Nat
  isAlpha_char : ∀ c, (char c).isAlpha = c.isAlpha
  char_of_not_isAlpha : ∀ c, c.isAlpha = false → char c = c
  /-- Copies have the same small form. -/
  lower_copy : ∀ text : String, Text.lower (.ofList (text.toList.map char)) = Text.lower text
  /-- Small letters are kept. -/
  copy_lower : ∀ text : String, (Text.lower text).toList.map char = (Text.lower text).toList
  line_zero : line 0 = 0

/-- The operators that readers of statements look for. -/
def Token.delimiters : List String :=
  ["(", "(/", "[", ")", "/)", "]", ",", ":", "::", "=", "=>", "%", "*"]

namespace Transcription

variable (copy : Transcription)

/-- Copy a text. -/
def text (text : String) : String :=
  .ofList (text.toList.map copy.char)

/-- Copy a token. -/
def token (token : Token) : Token :=
  { kind := token.kind
    text := copy.text token.text
    line := copy.line token.line
    column := copy.column token.line token.column
    endLine := copy.line token.endLine
    endColumn := copy.column token.endLine token.endColumn }

/-! ## Texts -/

@[simp]
theorem lower_text (text : String) : Text.lower (copy.text text) = Text.lower text :=
  copy.lower_copy text

@[simp]
theorem text_lower (text : String) : copy.text (Text.lower text) = Text.lower text := by
  rw [Transcription.text, copy.copy_lower, String.ofList_toList]

theorem toList_text (text : String) : (copy.text text).toList = text.toList.map copy.char := by
  rw [Transcription.text, String.toList_ofList]

theorem text_join (texts : List String) :
    copy.text (String.join texts) = String.join (texts.map copy.text) := by
  rw [← String.toList_inj, toList_text, String.toList_join, String.toList_join, List.map_flatMap,
    List.flatMap_map]
  simp only [toList_text]

/-- A character that is no letter is written for itself alone. -/
theorem char_eq_iff {c d : Char} (other : d.isAlpha = false) : copy.char c = d ↔ c = d := by
  constructor
  · intro copied
    have letter := copy.isAlpha_char c
    rw [copied, other] at letter
    rw [← copied, copy.char_of_not_isAlpha c letter.symm]
  · rintro rfl
    exact copy.char_of_not_isAlpha c other

/-- A text without letters is written for itself alone. -/
theorem text_eq_iff {text other : String} (plain : ∀ c ∈ other.toList, c.isAlpha = false) :
    copy.text text = other ↔ text = other := by
  rw [← String.toList_inj, ← String.toList_inj, toList_text]
  generalize text.toList = cs
  generalize other.toList = ds at plain
  induction ds generalizing cs with
  | nil => simp
  | cons d ds ih =>
    cases cs with
    | nil => simp
    | cons c cs =>
      rw [List.forall_mem_cons] at plain
      simp [copy.char_eq_iff plain.1, ih cs plain.2]

/-! ## Tokens -/

@[simp]
theorem kind_token (token : Token) : (copy.token token).kind = token.kind :=
  rfl

@[simp]
theorem text_token (token : Token) : (copy.token token).text = copy.text token.text :=
  rfl

@[simp]
theorem line_token (token : Token) : (copy.token token).line = copy.line token.line :=
  rfl

@[simp]
theorem column_token (token : Token) :
    (copy.token token).column = copy.column token.line token.column :=
  rfl

@[simp]
theorem lower_token (token : Token) : (copy.token token).lower = token.lower :=
  copy.lower_text token.text

@[simp]
theorem isName_token (token : Token) : (copy.token token).isName = token.isName :=
  rfl

@[simp]
theorem isWord_token (token : Token) (word : String) :
    (copy.token token).isWord word = token.isWord word := by
  simp [Token.isWord]

@[simp]
theorem isAmong_token (token : Token) (words : List String) :
    (copy.token token).isAmong words = token.isAmong words := by
  simp [Token.isAmong]

@[simp]
theorem word_token (token : Token) : (copy.token token).word = token.word := by
  simp [Token.word]

theorem isAlpha_of_mem_delimiters {operator : String} (listed : operator ∈ Token.delimiters) :
    ∀ c ∈ operator.toList, c.isAlpha = false := by
  have plain : Token.delimiters.all (·.toList.all (!·.isAlpha)) = true := by decide
  simpa using List.all_eq_true.mp plain operator listed

@[simp]
theorem isOp_token {operator : String} (listed : operator ∈ Token.delimiters) (token : Token) :
    (copy.token token).isOp operator = token.isOp operator := by
  have text_iff : copy.text token.text = operator ↔ token.text = operator :=
    copy.text_eq_iff (isAlpha_of_mem_delimiters listed)
  rw [Token.isOp, Token.isOp, kind_token, text_token, Bool.eq_iff_iff]
  simp [text_iff]

@[simp]
theorem isOpening_token (token : Token) : (copy.token token).isOpening = token.isOpening := by
  simp (disch := decide) [Token.isOpening]

@[simp]
theorem isClosing_token (token : Token) : (copy.token token).isClosing = token.isClosing := by
  simp (disch := decide) [Token.isClosing]

/-! ## Runs of tokens -/

@[simp]
theorem spelling_tokens (tokens : List Token) :
    spelling (tokens.map copy.token) = spelling tokens := by
  have texts_eq : (tokens.map copy.token).map (·.text) = (tokens.map (·.text)).map copy.text := by
    simp
  rw [spelling, texts_eq, ← text_join, lower_text]
  rfl

/-! ## Brackets -/

@[simp]
theorem depthAfter_token (depth : Int) (token : Token) :
    Bracket.depthAfter depth (copy.token token) = Bracket.depthAfter depth token := by
  simp [Bracket.depthAfter]

@[simp]
theorem closingIndex?_tokens (depth : Int) (tokens : List Token) :
    Bracket.closingIndex? depth (tokens.map copy.token) = Bracket.closingIndex? depth tokens := by
  induction tokens generalizing depth with
  | nil => rfl
  | cons token rest ih => simp [Bracket.closingIndex?, ih]

@[simp]
theorem partner_tokens (tokens : List Token) :
    Bracket.partner (tokens.map copy.token) = Bracket.partner tokens := by
  simp [Bracket.partner]

@[simp]
theorem inside_tokens (tokens : List Token) :
    Bracket.inside (tokens.map copy.token) = (Bracket.inside tokens).map copy.token := by
  rw [Bracket.inside, Bracket.inside, partner_tokens, List.map_drop, List.map_take]

@[simp]
theorem beyond_tokens (tokens : List Token) :
    Bracket.beyond (tokens.map copy.token) = (Bracket.beyond tokens).map copy.token := by
  simp [Bracket.beyond]

theorem splitFrom_tokens {separator : String} (listed : separator ∈ Token.delimiters) (depth : Int)
    (tokens : List Token) :
    Bracket.splitFrom separator depth (tokens.map copy.token) =
      (Bracket.splitFrom separator depth tokens).map (List.map copy.token) := by
  induction tokens generalizing depth with
  | nil => rfl
  | cons token rest ih =>
    simp only [List.map_cons, Bracket.splitFrom, isOpening_token, isClosing_token,
      copy.isOp_token listed, depthAfter_token, ih]
    split
    · rfl
    · cases Bracket.splitFrom separator (Bracket.depthAfter depth token) rest <;> rfl

@[simp]
theorem items_tokens (tokens : List Token) :
    Bracket.items (tokens.map copy.token) = (Bracket.items tokens).map (List.map copy.token) :=
  copy.splitFrom_tokens (by decide) 0 tokens

theorem findFrom?_tokens {operator : String} (listed : operator ∈ Token.delimiters) (depth : Int)
    (tokens : List Token) :
    Bracket.findFrom? operator depth (tokens.map copy.token) =
      Bracket.findFrom? operator depth tokens := by
  induction tokens generalizing depth with
  | nil => rfl
  | cons token rest ih => simp [Bracket.findFrom?, copy.isOp_token listed, ih]

@[simp]
theorem find?_tokens {operator : String} (listed : operator ∈ Token.delimiters)
    (tokens : List Token) :
    Bracket.find? operator (tokens.map copy.token) = Bracket.find? operator tokens :=
  copy.findFrom?_tokens listed 0 tokens

end Transcription

end FortranStyle
