/-!
# UTF-8

Bytes and characters. Names of interfaces are ordered by their bytes, the system hands them over as
bytes, and output is counted in bytes.

Bytes that are not UTF-8 can still be read: `decodeLossy` puts one replacement character for each
longest run of bytes that begins a character and does not complete one, and for each byte that can
begin none. The reader takes one byte at a time. After a leading byte it knows which ranges the next
bytes have to lie in, and a byte outside them starts afresh.
-/

namespace HostAddresses.Utf8

/-- The bytes of a text. -/
def bytes (text : String) : List UInt8 := text.toList.flatMap String.utf8EncodeChar

@[simp] theorem bytes_append (s t : String) : bytes (s ++ t) = bytes s ++ bytes t := by
  simp [bytes]

/-- Whether a text comes before another in the order of their bytes. -/
def Before (s t : String) : Prop := bytes s < bytes t

instance (s t : String) : Decidable (Before s t) := inferInstanceAs (Decidable (bytes s < bytes t))

theorem bytes_injective {s t : String} (h : bytes s = bytes t) : s = t := by
  apply String.toByteArray_inj.mp
  rw [← String.utf8Encode_toList, ← String.utf8Encode_toList, List.utf8Encode, List.utf8Encode]
  exact congrArg List.toByteArray h

theorem before_trans {s t u : String} (hst : Before s t) (htu : Before t u) : Before s u :=
  List.lt_trans hst htu

/-- Of two texts that differ, one comes before the other. -/
theorem before_of_not_before {s t : String} (hne : s ≠ t) (h : ¬ Before t s) : Before s t := by
  rcases List.le_iff_lt_or_eq.mp (List.not_lt.mp h) with hlt | heq
  · exact hlt
  · exact absurd (bytes_injective heq) hne

/-! ## Reading bytes that need not be UTF-8 -/

/-- A character of which some bytes have been read. -/
structure Partial where
  /-- The bits read so far, as a number. -/
  value : Nat
  /-- The range in which each byte still owed has to lie, by its first and its last. -/
  owed : List (Nat × Nat)

/-- No byte has been read. -/
def Partial.none : Partial := ⟨0, []⟩

/-- The ranges in which the bytes after a leading byte have to lie. -/
def owedAfter (lead : Nat) : List (Nat × Nat) :=
  let any := (0x80, 0xbf)
  if lead < 0xc2 then []
  else if lead < 0xe0 then [any]
  else if lead = 0xe0 then [(0xa0, 0xbf), any]
  else if lead = 0xed then [(0x80, 0x9f), any]
  else if lead < 0xf0 then [any, any]
  else if lead = 0xf0 then [(0x90, 0xbf), any, any]
  else if lead < 0xf4 then [any, any, any]
  else if lead = 0xf4 then [(0x80, 0x8f), any, any]
  else []

/-- The character that stands for bytes that are none. -/
def replacement : Char := '\ufffd'

/-- A byte between characters: what it writes, and what it begins. -/
def begin (b : Nat) : List Char × Partial :=
  if b < 0x80 then ([Char.ofNat b], .none)
  else
    match owedAfter b with
    | [] => ([replacement], .none)
    | owed => ([], ⟨b % 1 <<< (6 - owed.length), owed⟩)

/-- A byte after those of `p`: what it writes, and what is then begun. -/
def step (p : Partial) (b : Nat) : List Char × Partial :=
  match p.owed with
  | [] => begin b
  | (low, high) :: owed =>
    if low ≤ b ∧ b ≤ high then
      let value := 64 * p.value + b % 64
      if owed = [] then ([Char.ofNat value], .none) else ([], ⟨value, owed⟩)
    else (replacement :: (begin b).1, (begin b).2)

/-- The characters of bytes that follow those of `p`. -/
def decodeFrom (p : Partial) : List UInt8 → List Char
  | [] => if p.owed = [] then [] else [replacement]
  | b :: bytes => (step p b.toNat).1 ++ decodeFrom (step p b.toNat).2 bytes

/-- The text of bytes, with replacement characters where they are not UTF-8. -/
def decodeLossy (bytes : List UInt8) : String := String.ofList (decodeFrom .none bytes)

theorem toNat_ofNat {n : Nat} (h : n < 256) : (UInt8.ofNat n).toNat = n := by
  simp [UInt8.toNat_ofNat', Nat.mod_eq_of_lt h]

end HostAddresses.Utf8
