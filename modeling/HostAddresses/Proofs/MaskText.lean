import HostAddresses.Proofs.Netmask
import HostAddresses.Proofs.Traversal

/-!
# The netmask that a text writes

A text may write a netmask in many ways: with leading zeros, with a `+` in front of a group, with a
gap. What is counted are the set bits of the netmask and nothing of the text, and a text that writes
none is refused. So counting is known by the relation between a text and the netmask it writes:

* `Netmask.Dotted` for four decimal groups (`prefixLength4_eq_ok_iff`);
* reading an IPv6 address for masks in any of its forms (`prefixLengthOfAddress6_eq_ok_iff`). Such a
  text is refused for one reason only: it is no address (`prefixLengthOfAddress6_eq_error_iff`).
-/

namespace HostAddresses

namespace Netmask

/-! ## Groups and their values -/

namespace Form

/-- The groups of a text have these values, and there are as many of them as there should be. -/
structure Reads (form : Form) (text : String) (values : List Nat) : Prop where
  groups : List.Forall₂
    (fun group n => Numeral.bounded? form.base (1 <<< form.width - 1) group = some n)
    (text.toList.splitOn form.separator) values
  count : values.length = form.groups

variable {form : Form} {text : String}

theorem value_eq_ok_iff {group : List Char} {n : Nat} :
    form.value group = .ok n ↔
      Numeral.bounded? form.base (1 <<< form.width - 1) group = some n := by
  unfold value
  cases Numeral.bounded? form.base (1 <<< form.width - 1) group with
  | none => exact ⟨nofun, nofun⟩
  | some m =>
    constructor
    · intro h
      exact congrArg some (Except.ok.inj h)
    · intro h
      exact congrArg Except.ok (Option.some.inj h)

/-- **A mask is counted** if and only if its groups have values, as the set bits of these. -/
theorem prefixLength_eq_ok_iff {n : Nat} :
    form.prefixLength text = .ok n ↔
      ∃ values, form.Reads text values ∧ n = (values.map (Bits.setBits form.width)).sum := by
  have hvalues : ∀ values, (text.toList.splitOn form.separator).mapM form.value = .ok values ↔
      List.Forall₂
        (fun group n => Numeral.bounded? form.base (1 <<< form.width - 1) group = some n)
        (text.toList.splitOn form.separator) values := by
    intro values
    rw [mapM_eq_ok_iff]
    simp only [value_eq_ok_iff]
  constructor
  · intro h
    by_cases hcount : (text.toList.splitOn form.separator).length = form.groups
    · rw [prefixLength_of_count hcount] at h
      cases hall : (text.toList.splitOn form.separator).mapM form.value with
      | error e =>
        rw [hall] at h
        cases h
      | ok values =>
        rw [hall] at h
        cases h
        have hgroups := (hvalues values).mp hall
        exact ⟨values, ⟨hgroups, hgroups.length_eq.symm.trans hcount⟩, rfl⟩
    · rw [prefixLength_of_count_ne hcount] at h
      cases h
  · rintro ⟨values, hreads, rfl⟩
    have hcount := hreads.groups.length_eq.trans hreads.count
    rw [prefixLength_of_count hcount, (hvalues values).mpr hreads.groups]
    rfl

end Form

/-! ## Dotted masks -/

/-- A text writes this netmask in four decimal groups. -/
def Dotted (text : String) (m : IPv4) : Prop := dotted.Reads text (m.octets.map UInt8.toNat)

/-- The values that are read off four groups are the octets of a netmask. -/
theorem exists_dotted {text : String} {values : List Nat} (h : dotted.Reads text values) :
    ∃ m : IPv4, m.octets.map UInt8.toNat = values := by
  -- no group is above the limit, so each value fits an octet
  have hoctet : ∀ n ∈ values, (UInt8.ofNat n).toNat = n := by
    intro n hn
    obtain ⟨group, -, hgroup⟩ := exists_of_mem_forall₂ h.groups.flip hn
    have hle := ((Numeral.bounded?_eq_some_iff (by decide)).mp hgroup).2
    exact UInt8.toNat_ofNat_of_lt' (Nat.lt_of_le_of_lt hle (by decide))
  have hlength : (values.map UInt8.ofNat).length = 4 := by
    rw [List.length_map]
    exact h.count
  refine ⟨⟨values.map UInt8.ofNat, hlength⟩, ?_⟩
  show (values.map UInt8.ofNat).map UInt8.toNat = values
  rw [List.map_map]
  exact (List.map_congr_left hoctet).trans (List.map_id' values)

/-- **A dotted mask is counted** if and only if it writes a netmask, as the set bits of that. -/
theorem prefixLength4_eq_ok_iff {text : String} {n : Nat} :
    prefixLength4 text = .ok n ↔ ∃ m, Dotted text m ∧ n = m.bits.count true := by
  unfold prefixLength4
  rw [Form.prefixLength_eq_ok_iff]
  constructor
  · rintro ⟨values, hreads, rfl⟩
    obtain ⟨m, rfl⟩ := exists_dotted hreads
    exact ⟨m, hreads, (count_octets m).symm⟩
  · rintro ⟨m, hreads, rfl⟩
    exact ⟨_, hreads, count_octets m⟩

/-! ## Masks that are written as IPv6 addresses -/

theorem prefixLengthOfAddress6_of_some {text : String} {m : IPv6} (h : IPv6.ofText? text = some m) :
    prefixLengthOfAddress6 text = .ok (m.bits.count true) := by
  rw [prefixLengthOfAddress6, expand6, h]
  exact prefixLength6_expanded m

theorem prefixLengthOfAddress6_of_none {text : String} (h : IPv6.ofText? text = none) :
    prefixLengthOfAddress6 text = .error (.notIPv6 text) := by
  rw [prefixLengthOfAddress6, expand6, h]
  rfl

/-- **An IPv6 mask is counted** if and only if it is an address, as the set bits of that. -/
theorem prefixLengthOfAddress6_eq_ok_iff {text : String} {n : Nat} :
    prefixLengthOfAddress6 text = .ok n ↔
      ∃ m, IPv6.ofText? text = some m ∧ n = m.bits.count true := by
  cases h : IPv6.ofText? text with
  | none =>
    rw [prefixLengthOfAddress6_of_none h]
    exact ⟨nofun, fun ⟨m, hm, _⟩ => (nomatch hm)⟩
  | some m =>
    rw [prefixLengthOfAddress6_of_some h]
    constructor
    · intro hn
      exact ⟨m, rfl, (Except.ok.inj hn).symm⟩
    · rintro ⟨m', hm, rfl⟩
      cases hm
      rfl

/-- **An IPv6 mask is refused** if and only if it is no address. What is counted is the long form,
and no long form is refused. -/
theorem prefixLengthOfAddress6_eq_error_iff {text : String} {cause : Error} :
    prefixLengthOfAddress6 text = .error cause ↔
      IPv6.ofText? text = none ∧ cause = .notIPv6 text := by
  cases h : IPv6.ofText? text with
  | none =>
    rw [prefixLengthOfAddress6_of_none h]
    exact ⟨fun hcause => ⟨rfl, (Except.error.inj hcause).symm⟩, fun hcause => by rw [hcause.2]⟩
  | some m =>
    rw [prefixLengthOfAddress6_of_some h]
    exact ⟨nofun, fun hnone => (nomatch hnone.1)⟩

end Netmask

end HostAddresses
