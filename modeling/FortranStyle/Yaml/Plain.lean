import FortranStyle.Yaml.Moment
import FortranStyle.Yaml.Scalar

/-!
# What plain scalars stand for

A scalar without quotes is a truth value, a number, a date or nothing at all where
it is written like one, and a text otherwise.
-/

namespace FortranStyle.Yaml

/-- Why a document stands for no value. -/
inductive Fault
  /-- The text is no document, and the reader may say why. -/
  | malformed (said : Option String)
  /-- A scalar is written like a number or a date that does not exist. -/
  | noSuchValue (reason : String)
deriving DecidableEq, Repr

namespace Plain

/-- The truth value that a word stands for, in lower case, in upper case or
capitalized. -/
def truth? (text : String) : Option Bool :=
  if ["yes", "Yes", "YES", "true", "True", "TRUE", "on", "On", "ON"].contains text then
    some true
  else if ["no", "No", "NO", "false", "False", "FALSE", "off", "Off", "OFF"].contains text then
    some false
  else none

/-- Whether a word stands for nothing. -/
def isNull (text : String) : Bool :=
  ["", "~", "null", "Null", "NULL"].contains text

/-- Take a sign; whether it is negative. -/
def takeSign : List Char → Bool × List Char
  | '-' :: rest => (true, rest)
  | '+' :: rest => (false, rest)
  | cs => (false, cs)

/-- Whether the character is a digit of a base up to sixteen. -/
def isDigitOf (base : Nat) (c : Char) : Bool :=
  (Scalar.hexValue? c).any (· < base)

/-- Digits and underscores between them, the first being a digit. -/
def isSpaced (cs : List Char) : Bool :=
  cs.head?.any Char.isDigit && cs.all fun c => c.isDigit || c == '_'

/-- The number that digits write, underscores left out. -/
def number (base : Nat) (cs : List Char) : Nat :=
  (cs.filterMap Scalar.hexValue?).foldl (fun n digit => n * base + digit) 0

/-- The parts between the colons of a text. -/
def splitColons : List Char → List (List Char)
  | [] => [[]]
  | c :: rest =>
      if c = ':' then [] :: splitColons rest else (splitColons rest).modifyHead (c :: ·)

/-- A part of a number to base sixty, of one or two digits. -/
def isSixtieth : List Char → Bool
  | [c] => c.isDigit
  | [c, d] => '0' ≤ c && c ≤ '5' && d.isDigit
  | _ => false

/-- The whole number without sign that a text writes: after `0b`, `0x` or `0` to
base two, sixteen or eight, with colons to base sixty, and to base ten
otherwise. -/
def natural? (cs : List Char) : Option (Except Fault Nat) :=
  let digitsOf (base : Nat) (digits : List Char) : Option (Except Fault Nat) :=
    if digits.isEmpty || !digits.all fun c => isDigitOf base c || c == '_' then none
    else if digits.all (· == '_') then
      some (.error (.noSuchValue s!"invalid literal for int() with base {base}: ''"))
    else some (.ok (number base digits))
  match cs with
  | ['0'] => some (.ok 0)
  | '0' :: 'b' :: digits => digitsOf 2 digits
  | '0' :: 'x' :: digits => digitsOf 16 digits
  | '0' :: digits =>
      if digits.all fun c => isDigitOf 8 c || c == '_' then some (.ok (number 8 digits)) else none
  | _ =>
      match splitColons cs with
      | first :: sixtieths =>
          if isSpaced first && sixtieths.all isSixtieth then
            some (.ok (sixtieths.foldl (fun n part => n * 60 + number 10 part) (number 10 first)))
          else none
      | [] => none

/-- The whole number that a text writes. -/
def integer? (cs : List Char) : Option (Except Fault Int) :=
  let (isNegative, cs) := takeSign cs
  (natural? cs).map (·.map fun n => if isNegative then -(n : Int) else n)

/-- The exponent that a text writes, with its sign; none is zero. -/
def exponent? : List Char → Option Int
  | [] => some 0
  | mark :: rest =>
      let (isNegative, digits) := takeSign rest
      if (mark == 'e' || mark == 'E') && digits.length < rest.length && !digits.isEmpty &&
          digits.all Char.isDigit then
        let n : Int := number 10 digits
        some (if isNegative then -n else n)
      else none

/-- The digits around a point, as a decimal. -/
def decimal (whole fraction : List Char) (exponent : Int) : Decimal :=
  let places := (fraction.filter Char.isDigit).length
  ⟨number 10 (whole ++ fraction), exponent - places⟩

/-- The number with a point and without sign that a text writes, perhaps to base
sixty. -/
def pointed? (cs : List Char) : Option Float :=
  let whole := cs.takeWhile (· != '.')
  match cs.drop whole.length with
  | [] => none
  | _ :: rest =>
      let fraction := rest.takeWhile fun c => c.isDigit || c == '_'
      (exponent? (rest.drop fraction.length)).bind fun exponent =>
        match splitColons whole with
        | [digits] =>
            if isSpaced digits || (digits.isEmpty && isSpaced fraction) then
              some (decimal digits fraction exponent).toFloat
            else none
        | first :: sixtieths =>
            if isSpaced first && sixtieths.all isSixtieth && rest.length == fraction.length then
              let last := (decimal (sixtieths.getLastD []) fraction 0).toFloat
              let others := (first :: sixtieths.dropLast).reverse
              let (sum, _) := others.foldl
                (fun (sum, base) part => (sum + Float.ofNat (number 10 part) * base, base * 60))
                (last, (60 : Float))
              some sum
            else none
        | [] => none

/-- The number with a point that a text writes.  A text without digits before the
point takes no sign. -/
def real? (cs : List Char) : Option Float :=
  let (isNegative, body) := takeSign cs
  let signed (x : Float) := if isNegative then -x else x
  if [".inf", ".Inf", ".INF"].contains (String.ofList body) then some (signed (1 / 0))
  else if [".nan", ".NaN", ".NAN"].contains (String.ofList cs) then some (0 / 0)
  else if body.head? = some '.' ∧ body.length < cs.length then none
  else (pointed? body).map signed

/-- The value of a plain scalar. -/
def value (text : String) : Except Fault Value :=
  let cs := text.toList
  match truth? text with
  | some truth => .ok (.bool truth)
  | none =>
      if isNull text then .ok .null
      else
        match real? cs, integer? cs, Moment.ofText? cs with
        | some x, _, _ => .ok (.real x)
        | none, some n, _ => n.map .int
        | none, none, some moment =>
            match moment.fault? with
            | some reason => .error (.noSuchValue reason)
            | none => .ok moment.value
        | none, none, none =>
            -- These two stand for no value of their own.
            if text = "=" ∨ text = "<<" then .error (.malformed none) else .ok (.text text)

end Plain

end FortranStyle.Yaml
