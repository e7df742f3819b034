import HostAddresses.Proofs.Traversal
import HostAddresses.Text.Numeral
import Mathlib.Data.Nat.Digits.Lemmas
import Mathlib.Tactic.Ring

/-!
# Which texts are numerals

A numeral can be told without reading it: it is one digit or more, a letter in either case, and the
number is what the digits come to by their places (`Numeral.Denotes`). Reading gives this number and
refuses everything else:

* `natural?_eq_some_iff` for numerals without a sign;
* `bounded?_eq_some_iff` for those that may have one `+` in front and must not exceed a limit.

Zeros may lead, as many as there are. Without them a number has one decimal numeral, the shortest
(`eq_digits_of_natural?`).
-/

namespace HostAddresses.Numeral

variable {base : Nat}

/-! ## Digits -/

/-- A character is the digit of this value. A letter may be of either case. -/
def IsDigit (base : Nat) (c : Char) (d : Nat) : Prop :=
  d < base ∧ (c = Nat.digitChar d ∨ c = (Nat.digitChar d).toUpper)

theorem value?_sound {c : Char} {d : Nat} (h : value? c = some d) : IsDigit 16 c d := by
  -- all digits are ASCII, so there are only so many characters to look at
  have hascii : c.toNat < 128 := by
    unfold value? at h
    split at h
    · next hrange =>
      have hle : c.toNat ≤ '9'.toNat := hrange.2
      exact Nat.lt_of_le_of_lt hle (by decide)
    split at h
    · next hrange =>
      have hle : c.toNat ≤ 'f'.toNat := hrange.2
      exact Nat.lt_of_le_of_lt hle (by decide)
    split at h
    · next hrange =>
      have hle : c.toNat ≤ 'F'.toNat := hrange.2
      exact Nat.lt_of_le_of_lt hle (by decide)
    · cases h
  have hall : ∀ n < 128, ∀ d ∈ value? (Char.ofNat n), d < 16 ∧
      (Char.ofNat n = Nat.digitChar d ∨ Char.ofNat n = (Nat.digitChar d).toUpper) := by
    decide +kernel
  have hc := hall c.toNat hascii d
  rw [Char.ofNat_toNat] at hc
  exact hc h

theorem value?_complete {c : Char} {d : Nat} (h : IsDigit 16 c d) : value? c = some d := by
  obtain ⟨hlt, rfl | rfl⟩ := h
  · exact value?_digitChar hlt
  · revert d
    decide

theorem digit?_eq_some_iff (h16 : base ≤ 16) {c : Char} {d : Nat} :
    digit? base c = some d ↔ IsDigit base c d := by
  rw [digit?, Option.filter_eq_some_iff, decide_eq_true_iff]
  constructor
  · rintro ⟨hvalue, hlt⟩
    exact ⟨hlt, (value?_sound hvalue).2⟩
  · rintro ⟨hlt, hchar⟩
    exact ⟨value?_complete ⟨Nat.lt_of_lt_of_le hlt h16, hchar⟩, hlt⟩

/-! ## Numerals without a sign -/

/-- **What a numeral is:** one digit or more, with the number that they come to by their places. -/
structure Denotes (base : Nat) (text : List Char) (n : Nat) : Prop where
  ne_nil : text ≠ []
  places : ∃ ds, List.Forall₂ (IsDigit base) text ds ∧ n = Nat.ofDigits base ds.reverse

/-- What more digits make of a number: it moves up by their places, and they are added. -/
theorem extend?_eq_some_iff (h16 : base ≤ 16) {read n : Nat} {text : List Char} :
    extend? base read text = some n ↔ ∃ ds, List.Forall₂ (IsDigit base) text ds ∧
      n = read * base ^ ds.length + Nat.ofDigits base ds.reverse := by
  induction text generalizing read with
  | nil =>
    constructor
    · rintro ⟨⟩
      exact ⟨[], .nil, by simp⟩
    · rintro ⟨ds, hds, rfl⟩
      cases hds
      simp [extend?]
  | cons c text ih =>
    have hplace : ∀ (d : Nat) (ds : List Nat),
        (base * read + d) * base ^ ds.length + Nat.ofDigits base ds.reverse =
          read * base ^ (d :: ds).length + Nat.ofDigits base (d :: ds).reverse := by
      intro d ds
      rw [Nat.ofDigits_reverse_cons, List.length_cons]
      ring
    rw [extend?, Option.bind_eq_bind, Option.bind_eq_some_iff]
    constructor
    · rintro ⟨d, hd, hrest⟩
      obtain ⟨ds, hds, rfl⟩ := ih.mp hrest
      exact ⟨d :: ds, .cons ((digit?_eq_some_iff h16).mp hd) hds, hplace d ds⟩
    · rintro ⟨_, hds, rfl⟩
      cases hds with
      | @cons _ d _ ds hd hds =>
        exact ⟨d, (digit?_eq_some_iff h16).mpr hd, ih.mpr ⟨ds, hds, (hplace d ds).symm⟩⟩

/-- **A numeral is read** as what it denotes, and nothing else is read. -/
theorem natural?_eq_some_iff (h16 : base ≤ 16) {text : List Char} {n : Nat} :
    natural? base text = some n ↔ Denotes base text n := by
  have hplaces : extend? base 0 text = some n ↔ ∃ ds, List.Forall₂ (IsDigit base) text ds ∧
      n = Nat.ofDigits base ds.reverse := by
    simp only [extend?_eq_some_iff h16, Nat.zero_mul, Nat.zero_add]
  unfold natural?
  split
  · next hnil => exact ⟨nofun, fun h => absurd hnil h.ne_nil⟩
  · next hne => exact hplaces.trans ⟨fun h => ⟨hne, h⟩, fun h => h.places⟩

namespace Denotes

variable {text : List Char} {n m : Nat}

/-- A numeral has nothing but digits. -/
theorem not_mem (h16 : base ≤ 16) (h : Denotes base text n) {c : Char}
    (hc : digit? base c = none) : c ∉ text := by
  intro hmem
  obtain ⟨ds, hds, -⟩ := h.places
  obtain ⟨d, -, hd⟩ := exists_of_mem_forall₂ hds hmem
  rw [(digit?_eq_some_iff h16).mpr hd] at hc
  cases hc

/-- A number is below the power that its numeral is long. -/
theorem lt_pow (hbase : 1 < base) (h : Denotes base text n) : n < base ^ text.length := by
  obtain ⟨ds, hds, rfl⟩ := h.places
  have hdigit : ∀ d ∈ ds.reverse, d < base := by
    intro d hd
    obtain ⟨c, -, hc⟩ := exists_of_mem_forall₂ hds.flip (List.mem_reverse.mp hd)
    exact hc.1
  have hlt := Nat.ofDigits_lt_base_pow_length hbase hdigit
  rwa [List.length_reverse, ← hds.length_eq] at hlt

end Denotes

/-! ## Numerals with a sign -/

/-- A numeral that may have one `+` in front. -/
inductive Signed (base : Nat) : List Char → Nat → Prop where
  | plain {digits : List Char} {n : Nat} : Denotes base digits n → Signed base digits n
  | plus {digits : List Char} {n : Nat} : Denotes base digits n → Signed base ('+' :: digits) n

theorem not_digit_plus (base : Nat) : digit? base '+' = none := rfl

theorem natural?_unsigned_iff (h16 : base ≤ 16) {text : List Char} {n : Nat} :
    natural? base (unsigned text) = some n ↔ Signed base text n := by
  rw [natural?_eq_some_iff h16]
  constructor
  · intro h
    unfold unsigned at h
    split at h
    · exact .plus h
    · exact .plain h
  · intro h
    cases h with
    | plus h => exact h
    | plain h =>
      -- what is in front of such a numeral is a digit, so there is no sign to take off
      have hplus := h.not_mem h16 (not_digit_plus base)
      unfold unsigned
      split
      · exact absurd List.mem_cons_self hplus
      · exact h

/-- **A numeral below a limit is read,** with or without a sign. -/
theorem bounded?_eq_some_iff (h16 : base ≤ 16) {limit : Nat} {text : List Char} {n : Nat} :
    bounded? base limit text = some n ↔ Signed base text n ∧ n ≤ limit := by
  rw [bounded?, Option.filter_eq_some_iff, decide_eq_true_iff, natural?_unsigned_iff h16]

namespace Signed

variable {text : List Char} {n m : Nat}

theorem unique (h16 : base ≤ 16) (h : Signed base text n) (h' : Signed base text m) : n = m := by
  have hread := (natural?_unsigned_iff h16).mpr h
  rw [(natural?_unsigned_iff h16).mpr h', Option.some.injEq] at hread
  exact hread.symm

theorem ne_nil (h : Signed base text n) : text ≠ [] := by
  cases h with
  | plain h => exact h.ne_nil
  | plus _ => exact List.cons_ne_nil _ _

end Signed

/-! ## Numerals of one length -/

/-- The digits of numerals that are written. -/
def lowerDigits : List Char := "0123456789abcdef".toList

theorem digitChar_mem_lowerDigits {d : Nat} (h : d < 16) : Nat.digitChar d ∈ lowerDigits := by
  revert d
  decide

theorem IsDigit.eq_digitChar_of_lower {c : Char} {d : Nat} (h : IsDigit 16 c d)
    (hlower : c ∈ lowerDigits) : c = Nat.digitChar d := by
  have hupper : ∀ d < 16, (Nat.digitChar d).toUpper ∈ lowerDigits →
      (Nat.digitChar d).toUpper = Nat.digitChar d := by decide
  obtain ⟨hlt, hc | hc⟩ := h
  · exact hc
  · exact hc.trans (hupper d hlt (hc ▸ hlower))

/-- **A number has one numeral of a length** in lower case. -/
theorem Denotes.eq_of_lower {text text' : List Char} {n : Nat} (h : Denotes 16 text n)
    (h' : Denotes 16 text' n) (hlength : text.length = text'.length)
    (hlower : ∀ c ∈ text, c ∈ lowerDigits) (hlower' : ∀ c ∈ text', c ∈ lowerDigits) :
    text = text' := by
  have hdigits : ∀ {text : List Char} {ds : List Nat}, List.Forall₂ (IsDigit 16) text ds →
      (∀ c ∈ text, c ∈ lowerDigits) → text = ds.map Nat.digitChar ∧ ∀ d ∈ ds.reverse, d < 16 := by
    intro text ds hds hlower
    constructor
    · have hchars := (List.forall₂_and_left text ds).mpr ⟨hlower, hds⟩
      have heq := hchars.imp fun _ _ hc => hc.2.eq_digitChar_of_lower hc.1
      rwa [← List.forall₂_map_right_iff, List.forall₂_eq_eq_eq] at heq
    · intro d hd
      obtain ⟨c, -, hc⟩ := exists_of_mem_forall₂ hds.flip (List.mem_reverse.mp hd)
      exact hc.1
  obtain ⟨ds, hds, hn⟩ := h.places
  obtain ⟨ds', hds', hn'⟩ := h'.places
  obtain ⟨htext, hlt⟩ := hdigits hds hlower
  obtain ⟨htext', hlt'⟩ := hdigits hds' hlower'
  have hlengths : ds.reverse.length = ds'.reverse.length := by
    rw [List.length_reverse, List.length_reverse, ← hds.length_eq, ← hds'.length_eq, hlength]
  have hreverse := Nat.ofDigits_inj_of_len_eq (by decide) hlengths hlt hlt' (hn.symm.trans hn')
  rw [htext, htext', List.reverse_inj.mp hreverse]

/-! ## The shortest numeral -/

/-- Below ten a digit has no case. -/
theorem IsDigit.eq_digitChar (h10 : base ≤ 10) {c : Char} {d : Nat} (h : IsDigit base c d) :
    c = Nat.digitChar d := by
  have hcase : ∀ d < 10, (Nat.digitChar d).toUpper = Nat.digitChar d := by decide
  obtain ⟨hlt, hc | hc⟩ := h
  · exact hc
  · rw [hc, hcase d (Nat.lt_of_lt_of_le hlt h10)]

/-- Digits behind the numeral of a number make up the numeral of what is read of both. -/
theorem digits_append_of_extend? (hbase : 1 < base) (h10 : base ≤ 10) {read n : Nat}
    {text : List Char} (hread : 0 < read) (h : extend? base read text = some n) :
    digits base read ++ text = digits base n := by
  induction text generalizing read with
  | nil =>
    cases h
    exact List.append_nil _
  | cons c text ih =>
    rw [extend?, Option.bind_eq_bind, Option.bind_eq_some_iff] at h
    obtain ⟨d, hd, hrest⟩ := h
    have hdigit := (digit?_eq_some_iff (by omega)).mp hd
    have hpos : 0 < base * read + d := Nat.add_pos_left (Nat.mul_pos (by omega) hread) d
    have hnext : digits base read ++ [c] = digits base (base * read + d) := by
      rw [hdigit.eq_digitChar h10, ← Nat.toDigits_of_lt_base hdigit.1,
        Nat.toDigits_append_toDigits hbase hread hdigit.1]
    rw [← ih hpos hrest, ← hnext, List.append_assoc, List.singleton_append]

/-- **Without leading zeros** a numeral is the shortest one of its number. -/
theorem eq_digits_of_natural? (hbase : 1 < base) (h10 : base ≤ 10) {n : Nat} {text : List Char}
    (hzero : text.head? = some '0' → text.length = 1) (h : natural? base text = some n) :
    text = digits base n := by
  cases text with
  | nil => cases h
  | cons c text =>
    rw [natural?, if_neg (List.cons_ne_nil c text), extend?, Option.bind_eq_bind,
      Option.bind_eq_some_iff] at h
    obtain ⟨d, hd, hrest⟩ := h
    have hdigit := (digit?_eq_some_iff (by omega)).mp hd
    have hc := hdigit.eq_digitChar h10
    rw [Nat.mul_zero, Nat.zero_add] at hrest
    by_cases hd0 : d = 0
    · -- the first digit is zero, so it is the only one
      subst hd0
      have hlength := hzero (congrArg some hc)
      obtain rfl := List.length_eq_zero_iff.mp (Nat.succ.inj hlength)
      cases hrest
      rw [hc, digits, Nat.toDigits_zero]
      rfl
    · have happend := digits_append_of_extend? hbase h10 (Nat.pos_of_ne_zero hd0) hrest
      rw [digits, Nat.toDigits_of_lt_base hdigit.1, ← hc] at happend
      exact happend

end HostAddresses.Numeral
