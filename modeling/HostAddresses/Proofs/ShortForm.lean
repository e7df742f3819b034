import HostAddresses.Proofs.AddressText
import HostAddresses.Proofs.LongForm

/-!
# The short form of an address

An address has one short form, which can be told without writing it (`IPv6.IsShort`): an address
that stands for an IPv4 address ends in its dotted form; any other one has a gap for its longest run
of two zero groups or more, the first of equals, or no gap if there is no such run. This is the text
that is written (`IPv6.isShort_iff`).

It is one of the texts that denote the address, so it is written out as the long form, and a scope
behind it can be cut off. A dotted mask is counted as it is written (`Netmask.readBack_toText`).
-/

namespace HostAddresses

namespace IPv6

/-! ## The short form -/

/-- An address in `::ffff:0:0/96` stands for the IPv4 address of its last groups. -/
def StandsFor (a : IPv6) (v4 : IPv4) : Prop :=
  a.groups = List.replicate 5 0 ++ [0xffff] ++ groupsOfIPv4 v4

/-- **The short form of an address.** -/
inductive IsShort (a : IPv6) : List Char → Prop where
  | mapped {v4 : IPv4} : a.StandsFor v4 → IsShort a ("::ffff:".toList ++ v4.chars)
  | full : (∀ v4, ¬ a.StandsFor v4) → (∀ start, ¬ HasZeros a.groups start 2) →
    IsShort a (joined a.groups)
  | gap {start length : Nat} : (∀ v4, ¬ a.StandsFor v4) → IsLongest a.groups start length →
    2 ≤ length →
    IsShort a
      (joined (a.groups.take start) ++ [':', ':'] ++ joined (a.groups.drop (start + length)))

theorem octets_of_group (high low : UInt8) :
    UInt8.ofNat ((group high low).toNat / 256) = high ∧
      UInt8.ofNat (group high low).toNat = low := by
  have hhigh := high.toNat_lt
  have hlow := low.toNat_lt
  have hgroup : (group high low).toNat = 256 * high.toNat + low.toNat := by
    rw [group, UInt16.toNat_ofNat_of_lt' (by simp only [UInt16.size]; omega)]
  rw [hgroup]
  constructor
  · apply UInt8.toNat_inj.mp
    rw [UInt8.toNat_ofNat']
    omega
  · apply UInt8.toNat_inj.mp
    rw [UInt8.toNat_ofNat']
    omega

theorem mapped?_eq_some_iff {a : IPv6} {v4 : IPv4} : a.mapped? = some v4 ↔ a.StandsFor v4 := by
  refine ⟨groups_of_mapped?, fun h => ?_⟩
  obtain ⟨octets, hlength⟩ := v4
  match octets, hlength with
  | [b₁, b₂, b₃, b₄], hlength =>
    have hgroups : a.groups = [0, 0, 0, 0, 0, 0xffff, group b₁ b₂, group b₃ b₄] := h
    obtain ⟨h₁, h₂⟩ := octets_of_group b₁ b₂
    obtain ⟨h₃, h₄⟩ := octets_of_group b₃ b₄
    rw [mapped?, hgroups]
    simp only [List.flatMap_cons, List.flatMap_nil, List.cons_append, List.nil_append, h₁, h₂, h₃,
      h₄]
    rfl

/-- An address that stands for no other is written with its longest run of zeros as a gap. -/
theorem chars_of_isLongest {a : IPv6} (hnone : ∀ v4, ¬ a.StandsFor v4)
    (h : IsLongest a.groups start length) : a.chars =
      if 2 ≤ length then
        joined (a.groups.take start) ++ [':', ':'] ++ joined (a.groups.drop (start + length))
      else joined a.groups := by
  have hmapped : a.mapped? = none := by
    rw [Option.eq_none_iff_forall_ne_some]
    exact fun v4 hv4 => hnone v4 (mapped?_eq_some_iff.mp hv4)
  obtain ⟨rfl, rfl⟩ := h.unique (isLongest_longestZeroRun a.groups)
  rw [chars, hmapped]
  rfl

/-- **An address has one short form,** and it is what is written. -/
theorem isShort_iff {a : IPv6} {text : List Char} : IsShort a text ↔ text = a.chars := by
  have hrun := isLongest_longestZeroRun a.groups
  constructor
  · intro h
    cases h with
    | mapped hv4 => rw [chars, mapped?_eq_some_iff.mpr hv4]
    | full hnone hzeros =>
      have hlength : ¬ 2 ≤ (longestZeroRun a.groups).2 := fun htwo =>
        hzeros _ fun i hi => hrun.zeros i (Nat.lt_of_lt_of_le hi htwo)
      rw [chars_of_isLongest hnone hrun, if_neg hlength]
    | gap hnone hlongest htwo => rw [chars_of_isLongest hnone hlongest, if_pos htwo]
  · rintro rfl
    by_cases hmapped : ∃ v4, a.StandsFor v4
    · obtain ⟨v4, hv4⟩ := hmapped
      rw [chars, mapped?_eq_some_iff.mpr hv4]
      exact .mapped hv4
    · have hnone : ∀ v4, ¬ a.StandsFor v4 := not_exists.mp hmapped
      rw [chars_of_isLongest hnone hrun]
      by_cases htwo : 2 ≤ (longestZeroRun a.groups).2
      · rw [if_pos htwo]
        exact .gap hnone hrun htwo
      · rw [if_neg htwo]
        exact .full hnone fun start hzeros => htwo (hrun.longest start 2 hzeros)

end IPv6

/-! ## Reading back -/

/-- **What is written for an address is read back.** The text of an IPv6 address is its short form.
It is written out as the eight groups of the address with four digits each, and it is what is left
when a scope behind it is cut off, whatever the scope is. The text of an IPv4 address is counted as
a mask, as the number of its set bits. -/
theorem Netmask.readBack_toText :
    (∀ a : IPv6,
      (∀ text, IPv6.IsShort a text ↔ text = a.toText.toList) ∧
      (∃ long, expand6 a.toText = .ok long ∧ Separated.Pieces ':' long.toList
        (a.groups.map fun g => Numeral.padded 16 4 g.toNat)) ∧
      '%' ∉ a.toText.toList ∧
      ∀ scope, IPv6.withoutScope (a.toText ++ "%" ++ scope) = a.toText) ∧
    ∀ m : IPv4, prefixLength4 m.toText = .ok (m.bits.count true) := by
  refine ⟨fun a => ⟨fun text => ?_, ?_, ?_, a.withoutScope_scopedText⟩, prefixLength4_toText⟩
  · rw [IPv6.toText, String.toList_ofList]
    exact IPv6.isShort_iff
  · exact ⟨a.expanded, expand6_toText a, a.pieces_expanded⟩
  · rw [IPv6.toText, String.toList_ofList]
    exact a.percent_not_mem_chars

/-- Of two runs that are as long, the first is the gap, and a single zero group is none. -/
example : IPv6.toText ⟨[0, 0, 1, 0, 0, 2, 0, 3], rfl⟩ = "::1:0:0:2:0:3" ∧
    IPv6.toText ⟨[1, 0, 2, 3, 4, 5, 6, 7], rfl⟩ = "1:0:2:3:4:5:6:7" ∧
    IPv6.toText ⟨[0, 0, 0, 0, 0, 0xffff, 0xc000, 0x207], rfl⟩ = "::ffff:192.0.2.7" := by
  decide +kernel

end HostAddresses
