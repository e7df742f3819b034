import HostAddresses.Proofs.MaskText
import HostAddresses.Proofs.Prefixes

/-!
# Which texts are masks

The masks of a form are told without reading them: as many groups as the form has, each a numeral
with or without a `+` in front, of a number that fits the width (`Netmask.Form.Denotes`). The numbers
are the digits of one large number, the netmask, and its set bits are those of the groups, since no
group reaches into the next (`Bits.flatMap_ofNat`).

Counting gives these set bits, and refuses every other text. Which of its faults is named is said by
`Netmask.Form.Refuses`: the number of groups before any group, and of the groups the first that is
none.

The two kinds of masks differ in the values of their forms only, so all of this is proved of any
form. `prefixLength4_exact` is what it says of dotted masks.
-/

namespace HostAddresses

/-! ## The number that groups form -/

namespace Bits

theorem ofNat_congr {width n m : Nat} (h : ∀ i < width, n.testBit i = m.testBit i) :
    ofNat width n = ofNat width m := by
  induction width with
  | zero => rfl
  | succ width ih =>
    rw [ofNat, ofNat, h width (Nat.lt_succ_self width), ih fun i hi => h i (Nat.lt_succ_of_lt hi)]

/-- The bits of a number with another one behind it. -/
theorem ofNat_two_pow_mul_add (width : Nat) {more low : Nat} (h : low < 2 ^ more) (high : Nat) :
    ofNat (width + more) (2 ^ more * high + low) = ofNat width high ++ ofNat more low := by
  have hhigh : (2 ^ more * high + low) / 2 ^ more = high := by
    rw [Nat.mul_add_div (Nat.two_pow_pos more), Nat.div_eq_of_lt h, Nat.add_zero]
  have hlow : ofNat more (2 ^ more * high + low) = ofNat more low := by
    refine ofNat_congr fun i hi => ?_
    rw [Nat.testBit_two_pow_mul_add high h, if_pos hi]
  rw [ofNat_add, hhigh, hlow]

variable {width : Nat} {values : List Nat}

/-- **The bits of numbers of one width,** one number after the other, are those of the number that
they form. -/
theorem flatMap_ofNat (hwidth : 0 < width) (h : ∀ n ∈ values, n < 2 ^ width) :
    values.flatMap (ofNat width) =
      ofNat (width * values.length) (Nat.ofDigits (2 ^ width) values.reverse) := by
  induction values with
  | nil => rfl
  | cons n values ih =>
    obtain ⟨-, hvalues⟩ := List.forall_mem_cons.mp h
    have hbase : 1 < 2 ^ width := Nat.one_lt_two_pow (by omega)
    have hlow : Nat.ofDigits (2 ^ width) values.reverse < 2 ^ (width * values.length) := by
      have hlt := Nat.ofDigits_lt_base_pow_length hbase
        (fun d hd => hvalues d (List.mem_reverse.mp hd))
      rwa [List.length_reverse, ← Nat.pow_mul] at hlt
    rw [List.flatMap_cons, ih hvalues, Nat.ofDigits_reverse_cons, ← Nat.pow_mul, List.length_cons,
      Nat.mul_succ, Nat.add_comm (width * _), Nat.add_comm (Nat.ofDigits _ _),
      ofNat_two_pow_mul_add width hlow]

theorem sum_setBits (hwidth : 0 < width) (h : ∀ n ∈ values, n < 2 ^ width) :
    (values.map (setBits width)).sum =
      setBits (width * values.length) (Nat.ofDigits (2 ^ width) values.reverse) := by
  rw [setBits, ← flatMap_ofNat hwidth h]
  exact List.count_flatMap.symm

end Bits

/-! ## Masks of a form -/

namespace Netmask.Form

variable {form : Form} {text : String} {values : List Nat}

/-- A group of a mask: a numeral, perhaps with one `+` in front, of a number that fits the width. -/
def IsGroup (form : Form) (group : List Char) (n : Nat) : Prop :=
  Numeral.Signed form.base group n ∧ n < 2 ^ form.width

/-- **Which mask a text denotes:** it has as many groups as the form, and these are its numbers. -/
structure Denotes (form : Form) (text : String) (values : List Nat) : Prop where
  count : values.length = form.groups
  groups : ∃ pieces, Separated.Pieces form.separator text.toList pieces ∧
    List.Forall₂ form.IsGroup pieces values

/-- **What is wrong with a text** that is no mask of a form. The number of groups is looked at before
the groups, and of several bad groups the first one is named. -/
inductive Refuses (form : Form) (text : String) : Error → Prop where
  | count : text.toList.count form.separator + 1 ≠ form.groups →
    Refuses form text (.groupCount form.groups (text.toList.count form.separator + 1))
  | group {before after : List (List Char)} {group : List Char} :
    Separated.Pieces form.separator text.toList (before ++ group :: after) →
    (before ++ group :: after).length = form.groups →
    (∀ piece ∈ before, ∃ n, form.IsGroup piece n) → (∀ n, ¬ form.IsGroup group n) →
    Refuses form text (.badGroup (String.ofList group))

theorem bounded?_iff (hbase : form.base ≤ 16) {group : List Char} {n : Nat} :
    Numeral.bounded? form.base (1 <<< form.width - 1) group = some n ↔ form.IsGroup group n := by
  have hpos := Nat.two_pow_pos form.width
  rw [Numeral.bounded?_eq_some_iff hbase, IsGroup, Nat.one_shiftLeft, Nat.le_sub_one_iff_lt hpos]

theorem value_eq_ok_iff_isGroup (hbase : form.base ≤ 16) {group : List Char} {n : Nat} :
    form.value group = .ok n ↔ form.IsGroup group n := value_eq_ok_iff.trans (bounded?_iff hbase)

theorem value_eq_error_iff (hbase : form.base ≤ 16) {group : List Char} {e : Error} :
    form.value group = .error e ↔
      (∀ n, ¬ form.IsGroup group n) ∧ e = .badGroup (String.ofList group) := by
  simp only [← bounded?_iff hbase]
  unfold value
  cases Numeral.bounded? form.base (1 <<< form.width - 1) group with
  | none =>
    constructor
    · rintro ⟨⟩
      exact ⟨nofun, rfl⟩
    · rintro ⟨-, rfl⟩
      rfl
  | some n => exact ⟨nofun, fun h => absurd rfl (h.1 n)⟩

theorem reads_iff_denotes (hbase : form.base ≤ 16) :
    form.Reads text values ↔ form.Denotes text values := by
  have hgroups : ∀ pieces, List.Forall₂ (fun group n =>
      Numeral.bounded? form.base (1 <<< form.width - 1) group = some n) pieces values ↔
      List.Forall₂ form.IsGroup pieces values := by
    intro pieces
    simp only [bounded?_iff hbase]
  constructor
  · intro h
    exact ⟨h.count, _, Separated.splitOn_eq_iff.mp rfl, (hgroups _).mp h.groups⟩
  · rintro ⟨hcount, pieces, hpieces, hvalues⟩
    rw [← Separated.splitOn_eq_iff] at hpieces
    subst hpieces
    exact ⟨(hgroups _).mpr hvalues, hcount⟩

/-- **A text is counted** if and only if it is a mask. -/
theorem prefixLength_eq_ok_iff_denotes (hbase : form.base ≤ 16) {n : Nat} :
    form.prefixLength text = .ok n ↔
      ∃ values, form.Denotes text values ∧ n = (values.map (Bits.setBits form.width)).sum := by
  simp only [prefixLength_eq_ok_iff, reads_iff_denotes hbase]

/-- **A text is refused** for what is wrong with it. -/
theorem prefixLength_eq_error_iff (hbase : form.base ≤ 16) {e : Error} :
    form.prefixLength text = .error e ↔ form.Refuses text e := by
  have hlength := Separated.length_splitOn form.separator text.toList
  by_cases hcount : (text.toList.splitOn form.separator).length = form.groups
  · rw [prefixLength_of_count hcount, map_eq_error_iff, mapM_eq_error_iff]
    constructor
    · rintro ⟨before, group, after, hgroups, hbefore, hgroup⟩
      obtain ⟨hbad, rfl⟩ := (value_eq_error_iff hbase).mp hgroup
      refine .group (Separated.splitOn_eq_iff.mp hgroups) (hgroups ▸ hcount) ?_ hbad
      intro piece hpiece
      obtain ⟨n, hn⟩ := hbefore piece hpiece
      exact ⟨n, (value_eq_ok_iff_isGroup hbase).mp hn⟩
    · intro h
      cases h with
      | count hne => exact absurd (hlength.symm.trans hcount) hne
      | @group before after group hpieces _ hbefore hbad =>
        refine ⟨before, group, after, Separated.splitOn_eq_iff.mpr hpieces, ?_,
          (value_eq_error_iff hbase).mpr ⟨hbad, rfl⟩⟩
        intro piece hpiece
        obtain ⟨n, hn⟩ := hbefore piece hpiece
        exact ⟨n, (value_eq_ok_iff_isGroup hbase).mpr hn⟩
  · rw [prefixLength_of_count_ne hcount, hlength]
    rw [hlength] at hcount
    constructor
    · rintro ⟨⟩
      exact .count hcount
    · intro h
      cases h with
      | count _ => rfl
      | group hpieces hgroups _ _ =>
        rw [← Separated.splitOn_eq_iff.mpr hpieces, hlength] at hgroups
        exact absurd hgroups hcount

/-- Between two separators without anything between them there is no group. -/
theorem not_denotes_of_gap (h : [form.separator, form.separator] <:+: text.toList) :
    ¬ form.Denotes text values := by
  rintro ⟨-, pieces, hpieces, hvalues⟩
  obtain ⟨n, -, hgroup⟩ := exists_of_mem_forall₂ hvalues (hpieces.nil_mem h)
  exact hgroup.1.ne_nil rfl

/-- The numbers of a mask fit their groups. -/
theorem Denotes.lt (h : form.Denotes text values) : ∀ n ∈ values, n < 2 ^ form.width := by
  intro n hn
  obtain ⟨pieces, -, hvalues⟩ := h.groups
  obtain ⟨piece, -, hgroup⟩ := exists_of_mem_forall₂ hvalues.flip hn
  exact hgroup.2

theorem Denotes.sum_setBits (hwidth : 0 < form.width) (h : form.Denotes text values) :
    (values.map (Bits.setBits form.width)).sum =
      Bits.setBits (form.width * form.groups) (Nat.ofDigits (2 ^ form.width) values.reverse) := by
  rw [Bits.sum_setBits hwidth h.lt, h.count]

end Netmask.Form

/-! ## Dotted masks -/

/-- **Which texts are dotted masks, and what they count.** A text is counted if and only if it is
four numerals of numbers that fit an octet, and then as the set bits of the four numbers. These are
the set bits of the number of 32 bits that they form, so there are at most 32. Every other text is
refused for what is wrong with it. -/
theorem Netmask.prefixLength4_exact (text : String) :
    (∀ n, prefixLength4 text = .ok n ↔
      ∃ values, dotted.Denotes text values ∧ n = (values.map (Bits.setBits 8)).sum) ∧
    (∀ values, dotted.Denotes text values →
      (values.map (Bits.setBits 8)).sum = Bits.setBits 32 (Nat.ofDigits 256 values.reverse) ∧
        (values.map (Bits.setBits 8)).sum ≤ 32) ∧
    ∀ e, prefixLength4 text = .error e ↔ dotted.Refuses text e := by
  have hbase : dotted.base ≤ 16 := by decide
  refine ⟨fun n => Form.prefixLength_eq_ok_iff_denotes hbase, fun values h => ?_,
    fun e => Form.prefixLength_eq_error_iff hbase⟩
  have hsum := h.sum_setBits (by decide)
  exact ⟨hsum, hsum ▸ Bits.setBits_le 32 _⟩

/-- Zeros may lead and a `+` may stand in front; of two bad groups the first is named. -/
example : Netmask.prefixLength4 "+255.0000255.0.+0" = .ok 16 ∧
    Netmask.prefixLength4 "255.256.++1.0" = .error (.badGroup "256") ∧
    Netmask.prefixLength4 "256.x" = .error (.groupCount 4 2) := by
  decide +kernel

end HostAddresses
