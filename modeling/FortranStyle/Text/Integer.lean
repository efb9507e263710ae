import FortranStyle.Text.Blank

/-!
# Whole numbers as they are typed

A number may have a sign and blanks around it.  Its digits are the decimal digits of
any script, and single underscores may stand between them.
-/

namespace FortranStyle.Text

/-- The zeros of all scripts, in order.  The other nine digits follow each of them. -/
def zeros : List Nat :=
  [0x30, 0x660, 0x6f0, 0x7c0, 0x966, 0x9e6, 0xa66, 0xae6, 0xb66, 0xbe6, 0xc66, 0xce6, 0xd66,
    0xde6, 0xe50, 0xed0, 0xf20, 0x1040, 0x1090, 0x17e0, 0x1810, 0x1946, 0x19d0, 0x1a80, 0x1a90,
    0x1b50, 0x1bb0, 0x1c40, 0x1c50, 0xa620, 0xa8d0, 0xa900, 0xa9d0, 0xa9f0, 0xaa50, 0xabf0,
    0xff10, 0x104a0, 0x10d30, 0x11066, 0x110f0, 0x11136, 0x111d0, 0x112f0, 0x11450, 0x114d0,
    0x11650, 0x116c0, 0x11730, 0x118e0, 0x11950, 0x11c50, 0x11d50, 0x11da0, 0x16a60, 0x16ac0,
    0x16b50, 0x1d7ce, 0x1d7d8, 0x1d7e2, 0x1d7ec, 0x1d7f6, 0x1e140, 0x1e2f0, 0x1e950, 0x1fbf0]

/-- The value of a decimal digit. -/
def digitValue? (c : Char) : Option Nat :=
  (zeros.find? fun first => first ≤ c.toNat && c.toNat ≤ first + 9).map (c.toNat - ·)

/-- Whether the character is a decimal digit. -/
def isDigit (c : Char) : Bool :=
  (digitValue? c).isSome

/-- A blank character that may stand around a number: all of them, except for the
four separators of records. -/
def isAroundNumber (c : Char) : Bool :=
  isBlank c && !(0x1c ≤ c.toNat && c.toNat ≤ 0x1f)

/-- The digits of a number, single underscores between them left out. -/
def spacedDigits? : List Char → Option (List Nat)
  | [] => none
  | [c] => (digitValue? c).map fun digit => [digit]
  | c :: '_' :: rest => do return (← digitValue? c) :: (← spacedDigits? rest)
  | c :: rest => do return (← digitValue? c) :: (← spacedDigits? rest)

/-- The greatest number of digits that is read. -/
def longestNumber : Nat :=
  4300

/-- The number that digits alone write. -/
def natural? (cs : List Char) : Option Nat :=
  (spacedDigits? cs).bind fun digits =>
    if digits.length ≤ longestNumber then some (digits.foldl (fun n digit => n * 10 + digit) 0)
    else none

/-- The whole number that a text writes. -/
def integer? (text : String) : Option Int :=
  match dropEndWhile isAroundNumber (text.toList.dropWhile isAroundNumber) with
  | '-' :: digits => (natural? digits).map fun n => -(n : Int)
  | '+' :: digits => (natural? digits).map fun n => (n : Int)
  | digits => (natural? digits).map fun n => (n : Int)

/-- Whether a text is a minus sign with a decimal number behind it, with or without
a point.  A line feed may follow. -/
def isNegativeNumber (text : String) : Bool :=
  match text.toList with
  | '-' :: rest =>
      let rest := if rest.getLast? = some '\n' then rest.dropLast else rest
      let fraction := rest.dropWhile isDigit
      match fraction with
      | [] => !rest.isEmpty
      | '.' :: digits => !digits.isEmpty && digits.all isDigit
      | _ => false
  | _ => false

end FortranStyle.Text
