import FortranStyle.Text.Utf8
import Mathlib.Tactic.SplitIfs

/-!
# Reading what UTF-8 encodes

A character is read back from the bytes that encode it, whatever follows them.  So a text is
read back from its encoding, and a byte order mark in front of it is dropped; a text whose own
first character is the mark loses it.
-/

namespace FortranStyle.Text

/-! ## Bytes behind a start byte -/

theorem readTail_cons {low high bits count : Nat} {byte : UInt8} {bytes : List UInt8}
    {result : Nat × List UInt8} (within : low ≤ byte.toNat ∧ byte.toNat ≤ high)
    (read : readTail 0x80 0xbf (bits * 64 + byte.toNat % 64) count bytes = .ok result) :
    readTail low high bits (count + 1) (byte :: bytes) = .ok result := by
  rw [readTail, if_pos within, read]
  rfl

/-- The byte behind a start byte that holds the last six bits of a number. -/
def continuationByte (n : Nat) : UInt8 :=
  UInt8.ofNat (n % 0x40 + 0x80)

theorem toNat_continuationByte (n : Nat) : (continuationByte n).toNat = n % 64 + 128 :=
  UInt8.toNat_ofNat_of_lt' (by change n % 64 + 128 < 256; omega)

/-- A byte that holds six more bits of a number adds them to the bits read before. -/
theorem readTail_continuationByte {low high n count : Nat} {bytes : List UInt8}
    {result : Nat × List UInt8} (within : low ≤ n % 64 + 128 ∧ n % 64 + 128 ≤ high)
    (read : readTail 0x80 0xbf n count bytes = .ok result) :
    readTail low high (n / 64) (count + 1) (continuationByte n :: bytes) = .ok result := by
  have number_eq : n / 64 * 64 + (continuationByte n).toNat % 64 = n := by
    rw [toNat_continuationByte]
    omega
  exact readTail_cons (by rwa [toNat_continuationByte]) (number_eq.symm ▸ read)

/-- Behind the first of them every such byte may stand. -/
theorem readTail_next {n count : Nat} {bytes : List UInt8} {result : Nat × List UInt8}
    (read : readTail 0x80 0xbf n count bytes = .ok result) :
    readTail 0x80 0xbf (n / 64) (count + 1) (continuationByte n :: bytes) = .ok result :=
  readTail_continuationByte (by omega) read

/-! ## Start bytes -/

theorem continuation?_two {n : Nat} (least : 0x80 ≤ n) (most : n ≤ 0x7ff) :
    continuation? (n / 64 % 32 + 0xc0) = some (1, 0x80, 0xbf) := by
  rw [continuation?, if_neg (by omega), if_neg (by omega), if_pos (by omega)]

/-- The second of three bytes may be what encodes a character, and no surrogate. -/
theorem continuation?_three {n : Nat} (least : 0x800 ≤ n) (most : n ≤ 0xffff)
    (valid : n.isValidChar) : ∃ low high,
      continuation? (n / 4096 % 16 + 0xe0) = some (2, low, high) ∧
        low ≤ n / 64 % 64 + 128 ∧ n / 64 % 64 + 128 ≤ high := by
  rw [Nat.isValidChar] at valid
  rw [continuation?, if_neg (by omega), if_neg (by omega), if_neg (by omega)]
  split_ifs
  all_goals first | exact ⟨_, _, rfl, by omega, by omega⟩ | omega

/-- The second of four bytes may be what encodes a character, and no greater number. -/
theorem continuation?_four {n : Nat} (least : 0x10000 ≤ n) (valid : n.isValidChar) :
    ∃ low high, continuation? (n / 262144 % 8 + 0xf0) = some (3, low, high) ∧
      low ≤ n / 4096 % 64 + 128 ∧ n / 4096 % 64 + 128 ≤ high := by
  rw [Nat.isValidChar] at valid
  rw [continuation?, if_neg (by omega), if_neg (by omega), if_neg (by omega), if_neg (by omega),
    if_neg (by omega), if_neg (by omega)]
  split_ifs
  all_goals first | exact ⟨_, _, rfl, by omega, by omega⟩ | omega

/-- A character is read when the bytes behind its start byte are. -/
theorem readChar_eq {start count low high : Nat} {c : Char} {bytes rest : List UInt8}
    (small : start < 256) (starts : continuation? start = some (count, low, high))
    (read : readTail low high (startBits count start) count bytes = .ok (c.toNat, rest)) :
    readChar (UInt8.ofNat start) bytes = .ok (c, rest) := by
  rw [readChar, UInt8.toNat_ofNat_of_lt' small, starts]
  simp only [read, Except.map, Char.ofNat_toNat]

/-- A character is read back from the bytes that encode it, whatever follows them. -/
theorem readChar_utf8EncodeChar (c : Char) (rest : List UInt8) :
    ∃ start tail, String.utf8EncodeChar c = start :: tail ∧
      readChar start (tail ++ rest) = .ok (c, rest) := by
  have valid : c.toNat.isValidChar := c.valid
  have done : readTail 0x80 0xbf c.toNat 0 rest = .ok (c.toNat, rest) := rfl
  have number_eq : c.val.toNat = c.toNat := rfl
  simp only [String.utf8EncodeChar, number_eq]
  generalize n_eq : c.toNat = n at valid done
  split_ifs with one two three
  · refine ⟨_, _, rfl, readChar_eq (by omega) (?_ : continuation? n = some (0, 0, 0)) ?_⟩
    · rw [continuation?, if_pos (by omega)]
    · rw [n_eq]
      rfl
  · refine ⟨_, _, rfl, readChar_eq (by omega) (continuation?_two (by omega) two) ?_⟩
    have bits_eq : startBits 1 (n / 64 % 32 + 0xc0) = n / 64 := by
      rw [startBits]
      omega
    rw [bits_eq, n_eq]
    exact readTail_next done
  · obtain ⟨low, high, starts, within⟩ := continuation?_three (by omega) three valid
    refine ⟨_, _, rfl, readChar_eq (by omega) starts ?_⟩
    have bits_eq : startBits 2 (n / 4096 % 16 + 0xe0) = n / 64 / 64 := by
      rw [startBits]
      omega
    rw [bits_eq, n_eq]
    exact readTail_continuationByte within (readTail_next done)
  · obtain ⟨low, high, starts, within⟩ := continuation?_four (by omega) valid
    refine ⟨_, _, rfl, readChar_eq (by omega) starts ?_⟩
    have bits_eq : startBits 3 (n / 262144 % 8 + 0xf0) = n / 64 / 64 / 64 := by
      rw [Nat.isValidChar] at valid
      rw [startBits]
      · omega
      all_goals omega
    have second_eq : n / 4096 = n / 64 / 64 := by omega
    rw [second_eq] at within
    rw [bits_eq, n_eq, second_eq]
    exact readTail_continuationByte within (readTail_next (readTail_next done))

/-! ## Texts -/

/-- A text is read back from its encoding. -/
theorem decodeFrom_utf8EncodeChar (position : Nat) (before cs : List Char) :
    decodeFrom position before (cs.flatMap String.utf8EncodeChar) =
      .ok (before.reverse ++ cs) := by
  induction cs generalizing position before with
  | nil =>
    rw [List.flatMap_nil, decodeFrom, List.append_nil]
  | cons c rest ih =>
    obtain ⟨start, tail, encoded, read⟩ :=
      readChar_utf8EncodeChar c (rest.flatMap String.utf8EncodeChar)
    rw [List.flatMap_cons, encoded, List.cons_append, decodeFrom]
    split
    · rename_i found more found_eq
      rw [read] at found_eq
      cases found_eq
      rw [ih, List.reverse_cons, List.append_assoc, List.singleton_append]
    · rename_i failed
      rw [read] at failed
      contradiction

/-- The bytes of a byte order mark encode the mark. -/
theorem utf8EncodeChar_mark : String.utf8EncodeChar '\uFEFF' = byteOrderMark := by
  decide

/-- The encoding of a text starts with a byte order mark only if the text does. -/
theorem head?_of_byteOrderMark_isPrefix {cs : List Char}
    (marked : byteOrderMark <+: cs.flatMap String.utf8EncodeChar) : cs.head? = some '\uFEFF' := by
  obtain ⟨bytes, bytes_eq⟩ := marked
  cases cs with
  | nil => contradiction
  | cons c rest =>
    obtain ⟨start, tail, encoded, read⟩ :=
      readChar_utf8EncodeChar c (rest.flatMap String.utf8EncodeChar)
    obtain ⟨start', tail', encoded', read'⟩ := readChar_utf8EncodeChar '\uFEFF' bytes
    rw [List.flatMap_cons, encoded, ← utf8EncodeChar_mark, encoded', List.cons_append,
      List.cons_append] at bytes_eq
    obtain ⟨rfl, tail_eq⟩ := List.cons.inj bytes_eq
    rw [← tail_eq, read'] at read
    cases read
    rfl

/-- No text is encoded by a part of a byte order mark. -/
theorem not_isPrefix_byteOrderMark {cs : List Char} (written : cs ≠ [])
    (short : (cs.flatMap String.utf8EncodeChar).length < 3) :
    ¬cs.flatMap String.utf8EncodeChar <+: byteOrderMark := by
  intro cut
  obtain ⟨c, rest, rfl⟩ := List.exists_cons_of_ne_nil written
  obtain ⟨start, tail, encoded, read⟩ :=
    readChar_utf8EncodeChar c (rest.flatMap String.utf8EncodeChar)
  rw [List.flatMap_cons, encoded, List.cons_append] at cut short
  obtain ⟨rfl, more⟩ := List.cons_prefix_cons.mp cut
  generalize tail ++ rest.flatMap String.utf8EncodeChar = bytes at read short more
  rcases bytes with _ | ⟨second, _ | ⟨third, bytes⟩⟩
  · contradiction
  · obtain ⟨rfl, -⟩ := List.cons_prefix_cons.mp more
    contradiction
  · simp only [List.length_cons] at short
    omega

theorem decode_of_marked (cs : List Char) :
    decode (('\uFEFF' :: cs).flatMap String.utf8EncodeChar) = .ok cs := by
  rw [List.flatMap_cons, utf8EncodeChar_mark, decode, if_neg, if_pos]
  · exact decodeFrom_utf8EncodeChar 0 [] cs
  · exact List.isPrefixOf_iff_prefix.mpr (List.prefix_append _ _)
  · rintro ⟨short, -⟩
    have mark_length : byteOrderMark.length = 3 := rfl
    rw [List.length_append] at short
    omega

/-- A text that does not start with a byte order mark is read back from its encoding. -/
theorem decode_of_unmarked {cs : List Char} (unmarked : cs.head? ≠ some '\uFEFF') :
    decode (cs.flatMap String.utf8EncodeChar) = .ok cs := by
  by_cases written : cs = []
  · subst written
    rfl
  rw [decode, if_neg, if_neg]
  · exact decodeFrom_utf8EncodeChar 0 [] cs
  · rw [List.isPrefixOf_iff_prefix]
    exact mt head?_of_byteOrderMark_isPrefix unmarked
  · rintro ⟨short, cut⟩
    exact not_isPrefix_byteOrderMark written short (List.isPrefixOf_iff_prefix.mp cut)

end FortranStyle.Text
