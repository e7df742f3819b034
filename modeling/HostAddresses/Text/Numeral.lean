/-!
# Numerals

Digits in bases up to sixteen, read and written.

* `natural?` reads one digit or more, however many zeros lead;
* `bounded?` also takes one `+` in front, and refuses a value above a limit;
* `padded` writes a number with at least a given number of digits.

Written digits are lower case, and a hexadecimal letter is read in either case. What is written is
read back: `natural?_digits` and `natural?_padded`.
-/

namespace HostAddresses.Numeral

/-! ## Reading -/

/-- The value of a hexadecimal digit. -/
def value? (c : Char) : Option Nat :=
  if '0' ≤ c ∧ c ≤ '9' then some (c.toNat - '0'.toNat)
  else if 'a' ≤ c ∧ c ≤ 'f' then some (c.toNat - 'a'.toNat + 10)
  else if 'A' ≤ c ∧ c ≤ 'F' then some (c.toNat - 'A'.toNat + 10)
  else none

/-- The value of a digit, if it is one in this base. -/
def digit? (base : Nat) (c : Char) : Option Nat := (value? c).filter (· < base)

/-- The number that some more digits make of one that has been read so far. -/
def extend? (base read : Nat) : List Char → Option Nat
  | [] => some read
  | c :: digits => do extend? base (base * read + (← digit? base c)) digits

/-- The number written by one digit or more. -/
def natural? (base : Nat) (digits : List Char) : Option Nat :=
  if digits = [] then none else extend? base 0 digits

/-- A numeral without its sign, if that is `+`. -/
def unsigned : List Char → List Char
  | '+' :: digits => digits
  | digits => digits

/-- The number written by an optional `+` and one digit or more, if it is at most `limit`. -/
def bounded? (base limit : Nat) (text : List Char) : Option Nat :=
  (natural? base (unsigned text)).filter (· ≤ limit)

/-! ## Writing -/

/-- The digits of a number. -/
abbrev digits (base n : Nat) : List Char := Nat.toDigits base n

/-- The digits of a number, with zeros in front up to `width` of them. -/
def padded (base width n : Nat) : List Char := (digits base n).leftpad width '0'

/-! ## The characters of a numeral -/

/-- A character that is no digit of a base is in no numeral of that base. -/
theorem not_mem_digits {base : Nat} {c : Char} (hbase : 1 < base)
    (h : ∀ d < base, c ≠ Nat.digitChar d) (n : Nat) : c ∉ digits base n := by
  induction n using Nat.strongRecOn with
  | ind n ih =>
    by_cases hlt : n < base
    · rw [digits, Nat.toDigits_of_lt_base hlt, List.mem_singleton]
      exact h n hlt
    · rw [digits, Nat.toDigits_of_base_le hbase (by omega), List.mem_append,
        List.mem_singleton, not_or]
      exact ⟨ih (n / base) (Nat.div_lt_self (by omega) hbase),
        h (n % base) (Nat.mod_lt n (by omega))⟩

theorem not_mem_padded {base : Nat} {c : Char} (hbase : 1 < base)
    (h : ∀ d < base, c ≠ Nat.digitChar d) (width n : Nat) : c ∉ padded base width n := by
  rw [padded, List.leftpad, List.mem_append, not_or]
  refine ⟨?_, not_mem_digits hbase h n⟩
  intro hzero
  exact h 0 (by omega) (List.eq_of_mem_replicate hzero)

/-! ## What is written is read back -/

theorem value?_digitChar {n : Nat} (h : n < 16) : value? n.digitChar = some n := by
  revert n
  decide

theorem digit?_digitChar {base n : Nat} (hbase : base ≤ 16) (h : n < base) :
    digit? base n.digitChar = some n := by
  simp [digit?, value?_digitChar (Nat.lt_of_lt_of_le h hbase), h]

theorem extend?_append (base read : Nat) (l l' : List Char) :
    extend? base read (l ++ l') = extend? base read l >>= fun read => extend? base read l' := by
  induction l generalizing read with
  | nil => rfl
  | cons c l ih =>
    simp only [List.cons_append, extend?]
    cases digit? base c with
    | none => rfl
    | some n => exact ih _

theorem extend?_zeros {base : Nat} (hbase : 0 < base) (h16 : base ≤ 16) (count : Nat) :
    extend? base 0 (List.replicate count '0') = some 0 := by
  induction count with
  | zero => rfl
  | succ count ih =>
    have hzero : digit? base '0' = some 0 := digit?_digitChar h16 hbase
    simp [List.replicate_succ, extend?, hzero, ih]

theorem extend?_digits {base : Nat} (hbase : 1 < base) (h16 : base ≤ 16) (n : Nat) :
    extend? base 0 (digits base n) = some n := by
  induction n using Nat.strongRecOn with
  | ind n ih =>
    by_cases h : n < base
    · rw [digits, Nat.toDigits_of_lt_base h]
      simp [extend?, digit?_digitChar h16 h]
    · -- all digits but the last are those of the quotient
      have hpos : 0 < base := by omega
      have hlt : n / base < n := Nat.div_lt_self (by omega) hbase
      have hmod : n % base < base := Nat.mod_lt n hpos
      rw [digits, Nat.toDigits_of_base_le hbase (by omega), extend?_append, ih _ hlt]
      simp [extend?, digit?_digitChar h16 hmod, Nat.div_add_mod]

/-- The digits of a number are read back. -/
theorem natural?_digits {base : Nat} (hbase : 1 < base) (h16 : base ≤ 16) (n : Nat) :
    natural? base (digits base n) = some n := by
  rw [natural?, if_neg Nat.toDigits_ne_nil, extend?_digits hbase h16]

/-- The digits of a number are read back from behind zeros. -/
theorem natural?_padded {base : Nat} (hbase : 1 < base) (h16 : base ≤ 16) (width n : Nat) :
    natural? base (padded base width n) = some n := by
  rw [natural?, padded, List.leftpad, if_neg (by simp [Nat.toDigits_ne_nil]), extend?_append,
    extend?_zeros (by omega) h16]
  exact extend?_digits hbase h16 n

end HostAddresses.Numeral
