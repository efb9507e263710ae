import FortranStyle.Text.Quoted

/-!
# Reading UTF-8

Bytes are read as the characters they encode.  A sequence that is cut short, that
is too long for its character, or that encodes no character is an error with its
place.  A byte order mark in front of a source is dropped.
-/

namespace FortranStyle.Text

/-- Why some bytes are no character. -/
inductive Utf8Cause
  | badStart
  | badContinuation
  | cutShort
deriving DecidableEq, Repr

/-- Bytes that are no character: their place, their number, and the first of
them. -/
structure Utf8Error where
  position : Nat
  count : Nat
  first : UInt8
  cause : Utf8Cause
deriving DecidableEq, Repr

namespace Utf8Error

/-- The text shown for a cause. -/
def reason : Utf8Cause → String
  | .badStart => "invalid start byte"
  | .badContinuation => "invalid continuation byte"
  | .cutShort => "unexpected end of data"

/-- The text shown for an error. -/
def message (error : Utf8Error) : String :=
  let place :=
    if error.count = 1 then
      s!"byte 0x{String.ofList (hexDigits 2 error.first.toNat)} in position {error.position}"
    else
      s!"bytes in position {error.position}-{error.position + error.count - 1}"
  s!"'utf-8' codec can't decode {place}: {reason error.cause}"

end Utf8Error

/-- The number of bytes after a start byte, and the range of the first of
them. -/
def continuation? (start : Nat) : Option (Nat × Nat × Nat) :=
  if start < 0x80 then some (0, 0, 0)
  else if start < 0xc2 then none
  else if start < 0xe0 then some (1, 0x80, 0xbf)
  else if start = 0xe0 then some (2, 0xa0, 0xbf)
  else if start = 0xed then some (2, 0x80, 0x9f)
  else if start < 0xf0 then some (2, 0x80, 0xbf)
  else if start = 0xf0 then some (3, 0x90, 0xbf)
  else if start < 0xf4 then some (3, 0x80, 0xbf)
  else if start = 0xf4 then some (3, 0x80, 0x8f)
  else none

/-- Read the bytes after a start byte, of which the next lies between `low` and
`high`: the code point they give together with the bits read before, and the
bytes that remain.  On failure, the number of bytes read and the cause. -/
def readTail (low high : Nat) (bits : Nat) :
    (count : Nat) → List UInt8 → Except (Nat × Utf8Cause) (Nat × List UInt8)
  | 0, bytes => .ok (bits, bytes)
  | _ + 1, [] => .error (0, .cutShort)
  | count + 1, byte :: rest =>
      if low ≤ byte.toNat ∧ byte.toNat ≤ high then
        (readTail 0x80 0xbf (bits * 64 + byte.toNat % 64) count rest).mapError
          fun (seen, cause) => (seen + 1, cause)
      else
        .error (0, .badContinuation)

/-- The bits of a code point that its start byte holds. -/
def startBits (count start : Nat) : Nat :=
  match count with
  | 0 => start
  | 1 => start % 32
  | 2 => start % 16
  | _ => start % 8

/-- Read one character from the bytes behind its start byte. -/
def readChar (start : UInt8) (rest : List UInt8) : Except (Nat × Utf8Cause) (Char × List UInt8) :=
  match continuation? start.toNat with
  | none => .error (0, .badStart)
  | some (count, low, high) =>
      (readTail low high (startBits count start.toNat) count rest).map
        fun (n, rest) => (Char.ofNat n, rest)

theorem length_le_of_readTail {low high bits count : Nat} {bytes rest : List UInt8} {n : Nat}
    (read : readTail low high bits count bytes = .ok (n, rest)) :
    rest.length ≤ bytes.length := by
  induction count generalizing low high bits bytes with
  | zero =>
    simp only [readTail, Except.ok.injEq, Prod.mk.injEq] at read
    simp [read.2]
  | succ count ih =>
    cases bytes with
    | nil => simp [readTail] at read
    | cons byte bytes =>
      simp only [readTail] at read
      split at read
      · cases tail : readTail 0x80 0xbf (bits * 64 + byte.toNat % 64) count bytes with
        | error e =>
          rw [tail] at read
          contradiction
        | ok result =>
          rw [tail] at read
          cases read
          exact Nat.le_trans (ih tail) (by simp)
      · simp at read

theorem length_le_of_readChar {start : UInt8} {bytes rest : List UInt8} {c : Char}
    (read : readChar start bytes = .ok (c, rest)) : rest.length ≤ bytes.length := by
  unfold readChar at read
  split at read
  · simp at read
  · next count low high _ =>
    cases tail : readTail low high (startBits count start.toNat) count bytes with
    | error e => simp [tail, Except.map] at read
    | ok result =>
      simp only [tail, Except.map, Except.ok.injEq, Prod.mk.injEq] at read
      rw [← read.2]
      exact length_le_of_readTail tail

/-- Read bytes from the given position on.  The characters before it are given in
reverse. -/
def decodeFrom (position : Nat) (before : List Char) (bytes : List UInt8) :
    Except Utf8Error (List Char) :=
  match bytes with
  | [] => .ok before.reverse
  | start :: rest =>
      match read : readChar start rest with
      | .ok (c, tail) => decodeFrom (position + 1 + (rest.length - tail.length)) (c :: before) tail
      | .error (seen, cause) => .error ⟨position, seen + 1, start, cause⟩
termination_by bytes.length
decreasing_by
  have := length_le_of_readChar read
  simp only [List.length_cons]
  omega

/-- The bytes of a byte order mark. -/
def byteOrderMark : List UInt8 :=
  [0xef, 0xbb, 0xbf]

/-- Read bytes as characters, a byte order mark like any other. -/
def decodePlain (bytes : List UInt8) : Except Utf8Error (List Char) :=
  decodeFrom 0 [] bytes

/-- Read bytes as characters.  Positions are counted behind the byte order mark,
and a file that consists of the beginning of a mark is empty. -/
def decode (bytes : List UInt8) : Except Utf8Error (List Char) :=
  if bytes.length < 3 ∧ bytes.isPrefixOf byteOrderMark then .ok []
  else if byteOrderMark.isPrefixOf bytes then decodeFrom 0 [] (bytes.drop 3)
  else decodeFrom 0 [] bytes

end FortranStyle.Text
