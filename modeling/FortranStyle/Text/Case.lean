import FortranStyle.Text.CaseTable
import FortranStyle.Text.Ranges

/-!
# Small and capital letters

The full mappings of Unicode: a letter may have several characters as its
counterpart, and the capital sigma has two small forms, one of them for the end
of a word.  Inside ASCII the mappings are the familiar ones.
-/

namespace FortranStyle.Text

/-- The counterpart of a code point in a table of runs, or the code point
itself. -/
def mapRuns (runs : List CaseRun) (n : Nat) : Nat :=
  (runs.findSome? (·.image? n)).getD n

/-- The counterpart of a letter outside ASCII. -/
def mapLetter (specials : List (Nat × List Nat)) (runs : List CaseRun) (c : Char) : List Char :=
  match specials.lookup c.toNat with
  | some image => image.map Char.ofNat
  | none => [Char.ofNat (mapRuns runs c.toNat)]

/-- The small form of a character, wherever it stands. -/
def lowerChar (c : Char) : List Char :=
  if c.toNat < 128 then [c.toLower] else mapLetter lowerSpecials lowerRuns c

/-- The capital form of a character. -/
def upperChar (c : Char) : List Char :=
  if c.toNat < 128 then [c.toUpper] else mapLetter upperSpecials upperRuns c

/-- A character which is passed over when a sigma looks for its neighbours. -/
def isCaseIgnorable (c : Char) : Bool :=
  inRanges caseIgnorableRanges c.toNat

/-- A letter that has case. -/
def isCased (c : Char) : Bool :=
  inRanges casedRanges c.toNat

/-- Whether the first character that is not passed over has case. -/
def casedFirst : List Char → Bool
  | [] => false
  | c :: rest => if isCaseIgnorable c then casedFirst rest else isCased c

/-- The small form of a text whose part before the list is given in reverse.  A
capital sigma becomes the final sigma when a letter stands before it and none
after it. -/
def lowerChars (before : List Char) : List Char → List Char
  | [] => []
  | c :: rest =>
      let image :=
        if c = 'Σ' then
          if casedFirst before && !casedFirst rest then ['ς'] else ['σ']
        else
          lowerChar c
      image ++ lowerChars (c :: before) rest

/-- The small form of a text. -/
def lower (s : String) : String :=
  String.ofList (lowerChars [] s.toList)

/-- The capital form of a text. -/
def upper (s : String) : String :=
  String.ofList (s.toList.flatMap upperChar)

end FortranStyle.Text
