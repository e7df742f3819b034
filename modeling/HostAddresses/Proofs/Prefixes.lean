import HostAddresses.IPv6.Basic
import Mathlib.Algebra.Ring.Nat

/-!
# Netmasks that are prefixes

A netmask is a prefix if its set bits are its first ones (`Bits.Contiguous`). Such a netmask is
known by its length, and this file makes that exact:

* `Bits.leadingOnes?_replicate`: the length is read off it;
* `IPv4.bits_mask`, `IPv6.bits_mask`: the netmask that is made of a length has just as many ones in
  front;
* `IPv4.mask_count`, `IPv6.mask_count`: so a netmask that is a prefix is made again from the number
  of its set bits. This is the step where it counts that bits determine an address.
-/

namespace HostAddresses

namespace Bits

/-- All ones stand in front of all zeros. -/
def Contiguous (bits : List Bool) : Prop :=
  ∃ ones zeros, bits = List.replicate ones true ++ List.replicate zeros false

theorem count_replicate (ones zeros : Nat) :
    (List.replicate ones true ++ List.replicate zeros false).count true = ones := by
  rw [List.count_append, List.count_replicate_self, List.count_replicate]
  simp

/-- **The length of a prefix is read off it.** -/
theorem leadingOnes?_replicate (ones zeros : Nat) :
    leadingOnes? (List.replicate ones true ++ List.replicate zeros false) = some ones := by
  have htake : (List.replicate ones true ++ List.replicate zeros false).takeWhile id =
      List.replicate ones true := by
    rw [List.takeWhile_append_of_pos (by simp)]
    cases zeros <;> simp [List.replicate_succ]
  have hdrop : (List.replicate ones true ++ List.replicate zeros false).drop ones =
      List.replicate zeros false := List.drop_left' List.length_replicate
  have hnone : true ∉ List.replicate zeros false := by simp
  rw [leadingOnes?, htake, List.length_replicate, hdrop, if_neg hnone]

theorem Contiguous.leadingOnes? {bits : List Bool} (h : Contiguous bits) :
    Bits.leadingOnes? bits = some (bits.count true) := by
  obtain ⟨ones, zeros, rfl⟩ := h
  rw [leadingOnes?_replicate, count_replicate]

/-- Such bits are known by their number and by how many of them are set. -/
theorem Contiguous.eq_replicate {bits : List Bool} (h : Contiguous bits) :
    bits = List.replicate (bits.count true) true ++
      List.replicate (bits.length - bits.count true) false := by
  obtain ⟨ones, zeros, rfl⟩ := h
  rw [count_replicate, List.length_append, List.length_replicate, List.length_replicate,
    Nat.add_sub_cancel_left]

/-! ## The bits of one group of a prefix -/

theorem ones_eq (width n : Nat) : ones width n = 2 ^ width - 2 ^ (width - n) := by
  rw [ones, Nat.one_shiftLeft, Nat.one_shiftLeft]

theorem ones_lt (width n : Nat) : ones width n < 2 ^ width := by
  have hwidth := Nat.two_pow_pos width
  have hrest := Nat.two_pow_pos (width - n)
  rw [ones_eq]
  omega

theorem testBit_ones {width n i : Nat} (h : i < width) :
    (ones width n).testBit i = decide (width - n ≤ i) := by
  have hpos := Nat.two_pow_pos (width - n)
  have hle : 2 ^ (width - n) ≤ 2 ^ width := Nat.pow_le_pow_right (by omega) (by omega)
  have hsucc : 2 ^ (width - n) = (2 ^ (width - n) - 1) + 1 := by omega
  rw [ones_eq, hsucc, Nat.testBit_two_pow_sub_succ (by omega), Nat.testBit_two_pow_sub_one,
    decide_eq_true h, Bool.true_and, ← decide_not]
  exact decide_eq_decide.mpr Nat.not_lt

theorem ofNat_ones (width n : Nat) :
    ofNat width (ones width n) =
      List.replicate (min n width) true ++ List.replicate (width - n) false := by
  -- the low bits, as many as are looked at: the zeros come first from below
  have hlow : ∀ k ≤ width, ofNat k (ones width n) =
      List.replicate (k - (width - n)) true ++ List.replicate (min k (width - n)) false := by
    intro k hk
    induction k with
    | zero => simp [ofNat]
    | succ k ih =>
      rw [ofNat, testBit_ones hk, ih (by omega)]
      by_cases hbit : width - n ≤ k
      · have hones : k + 1 - (width - n) = k - (width - n) + 1 := by omega
        have hzeros : min (k + 1) (width - n) = min k (width - n) := by omega
        rw [decide_eq_true hbit, hones, hzeros, List.replicate_succ, List.cons_append]
      · have hnone : k - (width - n) = 0 := by omega
        have hnone' : k + 1 - (width - n) = 0 := by omega
        have hzeros : min (k + 1) (width - n) = min k (width - n) + 1 := by omega
        rw [decide_eq_false hbit, hnone, hnone', hzeros, List.replicate_succ]
        rfl
  have hones : width - (width - n) = min n width := by omega
  have hzeros : min width (width - n) = width - n := by omega
  rw [hlow width (Nat.le_refl width), hones, hzeros]

/-! ## The bits of a prefix, group by group -/

/-- Groups of a prefix of length `n`: full ones, one that may be full in part, and empty ones. -/
theorem flatMap_prefix (width n groups : Nat) :
    ((List.range groups).flatMap fun i =>
      List.replicate (min (n - width * i) width) true ++
        List.replicate (width - (n - width * i)) false) =
      List.replicate (min n (width * groups)) true ++
        List.replicate (width * groups - n) false := by
  induction groups with
  | zero => simp
  | succ groups ih =>
    rw [List.range_succ, List.flatMap_append, ih, List.flatMap_singleton, Nat.mul_succ]
    generalize width * groups = before
    by_cases h : n ≤ before
    · -- the last group is empty
      have hmin : min (n - before) width = 0 := by omega
      have hzeros : before - n + (width - (n - before)) = before + width - n := by omega
      rw [hmin, List.replicate_zero, List.nil_append, List.append_assoc,
        List.replicate_append_replicate, hzeros, Nat.min_eq_left h, Nat.min_eq_left (by omega)]
    · -- all groups before the last are full
      have hzeros : before - n = 0 := by omega
      have hones : min n before + min (n - before) width = min n (before + width) := by omega
      have hlast : width - (n - before) = before + width - n := by omega
      rw [hzeros, List.replicate_zero, List.append_nil, ← List.append_assoc,
        List.replicate_append_replicate, hones, hlast]

/-- The bits of the groups that a length gives, whatever the groups are made of. -/
theorem flatMap_ones {α : Type} {width : Nat} {make : Nat → α} {number : α → Nat}
    (hnumber : ∀ n < 2 ^ width, number (make n) = n) (n groups : Nat) :
    (((List.range groups).map fun i => make (ones width (n - width * i))).flatMap fun a =>
      ofNat width (number a)) =
      List.replicate (min n (width * groups)) true ++
        List.replicate (width * groups - n) false := by
  have hgroup : ∀ i, ofNat width (number (make (ones width (n - width * i)))) =
      List.replicate (min (n - width * i) width) true ++
        List.replicate (width - (n - width * i)) false := by
    intro i
    rw [hnumber _ (ones_lt width _), ofNat_ones]
  rw [List.flatMap_map]
  simp only [hgroup]
  exact flatMap_prefix width n groups

/-! ## Bits determine a number -/

/-- The first bits of a number are those of a quotient, and the others are its low bits. -/
theorem ofNat_add (width more n : Nat) :
    ofNat (width + more) n = ofNat width (n / 2 ^ more) ++ ofNat more n := by
  induction width with
  | zero => rw [Nat.zero_add, ofNat, List.nil_append]
  | succ width ih =>
    rw [Nat.succ_add, ofNat, ofNat, ih, Nat.testBit_div_two_pow, List.cons_append]

theorem testBit_eq_of_ofNat {width n m : Nat} (h : ofNat width n = ofNat width m) {i : Nat}
    (hi : i < width) : n.testBit i = m.testBit i := by
  induction width with
  | zero => omega
  | succ width ih =>
    obtain ⟨hbit, hrest⟩ := List.cons.inj h
    by_cases heq : i = width
    · rw [heq, hbit]
    · exact ih hrest (by omega)

theorem ofNat_injective {width n m : Nat} (hn : n < 2 ^ width) (hm : m < 2 ^ width)
    (h : ofNat width n = ofNat width m) : n = m := by
  refine Nat.eq_of_testBit_eq fun i => ?_
  by_cases hi : i < width
  · exact testBit_eq_of_ofNat h hi
  · -- both numbers have no bits behind the width
    have hpow : 2 ^ width ≤ 2 ^ i := Nat.pow_le_pow_right (by omega) (by omega)
    rw [Nat.testBit_lt_two_pow (by omega), Nat.testBit_lt_two_pow (by omega)]

/-- Numbers of one width, one after the other, are told apart by their bits. -/
theorem flatMap_ofNat_injective {α : Type} {width : Nat} {number : α → Nat}
    (hlt : ∀ a, number a < 2 ^ width) (hinj : Function.Injective number) {l l' : List α}
    (hlen : l.length = l'.length)
    (h : (l.flatMap fun a => ofNat width (number a)) = l'.flatMap fun a => ofNat width (number a)) :
    l = l' := by
  induction l generalizing l' with
  | nil => exact (List.length_eq_zero_iff.mp hlen.symm).symm
  | cons a l ih =>
    cases l' with
    | nil => simp at hlen
    | cons b l' =>
      rw [List.flatMap_cons, List.flatMap_cons] at h
      obtain ⟨hhead, htail⟩ := List.append_inj h (by simp)
      have heq := hinj (ofNat_injective (hlt a) (hlt b) hhead)
      rw [heq, ih (Nat.succ.inj hlen) htail]

theorem length_flatMap_ofNat {α : Type} (width : Nat) (number : α → Nat) (l : List α) :
    (l.flatMap fun a => ofNat width (number a)).length = width * l.length := by
  induction l with
  | nil => rfl
  | cons a l ih =>
    rw [List.flatMap_cons, List.length_append, ih, length_ofNat, List.length_cons]
    rw [Nat.mul_succ, Nat.add_comm]

end Bits

/-! ## IPv4 -/

namespace IPv4

theorem length_bits (a : IPv4) : a.bits.length = 32 := by
  rw [bits, Bits.length_flatMap_ofNat, a.length_octets]

theorem bits_injective {a b : IPv4} (h : a.bits = b.bits) : a = b := by
  have hinj : Function.Injective UInt8.toNat := fun _ _ => UInt8.toNat_inj.mp
  have hoctets : a.octets = b.octets :=
    Bits.flatMap_ofNat_injective UInt8.toNat_lt hinj (a.length_octets.trans b.length_octets.symm) h
  cases a
  cases b
  cases hoctets
  rfl

/-- **The netmask of a length** has that many ones in front. -/
theorem bits_mask (length : Nat) :
    (mask length).bits =
      List.replicate (min length 32) true ++ List.replicate (32 - length) false := by
  have hnumber : ∀ n < 2 ^ 8, (UInt8.ofNat n).toNat = n := fun _ => UInt8.toNat_ofNat_of_lt'
  exact Bits.flatMap_ones hnumber length 4

theorem contiguous_mask (length : Nat) : Bits.Contiguous (mask length).bits :=
  ⟨_, _, bits_mask length⟩

theorem count_bits_le (m : IPv4) : m.bits.count true ≤ 32 := by
  have h := List.count_le_length (a := true) (l := m.bits)
  rwa [length_bits] at h

/-- **A netmask that is a prefix** is the one of the number of its set bits. -/
theorem mask_count {m : IPv4} (h : Bits.Contiguous m.bits) : mask (m.bits.count true) = m := by
  apply bits_injective
  have heq := h.eq_replicate
  rw [length_bits] at heq
  rw [bits_mask, Nat.min_eq_left m.count_bits_le]
  exact heq.symm

end IPv4

/-! ## IPv6 -/

namespace IPv6

theorem length_bits (a : IPv6) : a.bits.length = 128 := by
  rw [bits, Bits.length_flatMap_ofNat, a.length_groups]

theorem bits_injective {a b : IPv6} (h : a.bits = b.bits) : a = b := by
  have hinj : Function.Injective UInt16.toNat := fun _ _ => UInt16.toNat_inj.mp
  have hgroups : a.groups = b.groups :=
    Bits.flatMap_ofNat_injective UInt16.toNat_lt hinj (a.length_groups.trans b.length_groups.symm) h
  cases a
  cases b
  cases hgroups
  rfl

/-- **The netmask of a length** has that many ones in front. -/
theorem bits_mask (length : Nat) :
    (mask length).bits =
      List.replicate (min length 128) true ++ List.replicate (128 - length) false := by
  have hnumber : ∀ n < 2 ^ 16, (UInt16.ofNat n).toNat = n := fun _ => UInt16.toNat_ofNat_of_lt'
  exact Bits.flatMap_ones hnumber length 8

theorem contiguous_mask (length : Nat) : Bits.Contiguous (mask length).bits :=
  ⟨_, _, bits_mask length⟩

theorem count_bits_le (m : IPv6) : m.bits.count true ≤ 128 := by
  have h := List.count_le_length (a := true) (l := m.bits)
  rwa [length_bits] at h

/-- **A netmask that is a prefix** is the one of the number of its set bits. -/
theorem mask_count {m : IPv6} (h : Bits.Contiguous m.bits) : mask (m.bits.count true) = m := by
  apply bits_injective
  have heq := h.eq_replicate
  rw [length_bits] at heq
  rw [bits_mask, Nat.min_eq_left m.count_bits_le]
  exact heq.symm

end IPv6

end HostAddresses
