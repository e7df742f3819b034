import HostAddresses.Netmask
import HostAddresses.Proofs.ReadBack
import Mathlib.Algebra.Ring.Nat

/-!
# Every mask that is written is read

A netmask reaches a report as text, and the text of any address may be one. This file says that no
such text is refused, and that what is read off it is the number of set bits of the address:

* `prefixLength4_toText` for the dotted form of the 2³² IPv4 addresses;
* `prefixLengthOfAddress6_toText` for the short form of the 2¹²⁸ IPv6 addresses. The short form is
  no mask of eight groups in general, so this one goes through reading it back and writing it out.

Both come from one lemma about a form of masks, `prefixLength_join`.
-/

namespace HostAddresses

namespace Netmask

namespace Form

variable {α : Type} {form : Form} {write : α → List Char} {number : α → Nat}

theorem value_of_denotes (hbase : form.base ≤ 16) {text : List Char} {n : Nat}
    (h : Numeral.Denotes form.base text n) (hlt : n < 2 ^ form.width) :
    form.value text = .ok n := by
  have hle : n ≤ 1 <<< form.width - 1 := by omega
  rw [value, (Numeral.bounded?_eq_some_iff hbase).mpr ⟨.plain h, hle⟩]

/-- With the right number of groups it is up to the groups whether there is a count. -/
theorem prefixLength_of_count {text : String}
    (h : (text.toList.splitOn form.separator).length = form.groups) :
    form.prefixLength text = ((text.toList.splitOn form.separator).mapM form.value).map
      fun values => (values.map (Bits.setBits form.width)).sum := by
  rw [prefixLength, if_pos h]
  cases (text.toList.splitOn form.separator).mapM form.value <;> rfl

theorem prefixLength_of_count_ne {text : String}
    (h : (text.toList.splitOn form.separator).length ≠ form.groups) :
    form.prefixLength text =
      .error (.groupCount form.groups (text.toList.splitOn form.separator).length) := if_neg h

/-- **A mask whose groups are read is read,** and its set bits are those of the groups. -/
theorem prefixLength_join {items : List α} (hlen : items.length = form.groups) (hne : items ≠ [])
    (hfree : ∀ a, form.separator ∉ write a) (hvalue : ∀ a, form.value (write a) = .ok (number a)) :
    form.prefixLength (String.ofList (Separated.join form.separator write items)) =
      .ok ((items.map number).map (Bits.setBits form.width)).sum := by
  have hvalues : (items.map write).mapM form.value = .ok (items.map number) := by
    rw [mapM_eq_ok_iff, List.forall₂_map_left_iff, List.forall₂_map_right_iff, List.forall₂_same]
    exact fun a _ => hvalue a
  have hpieces : (String.ofList (Separated.join form.separator write items)).toList.splitOn
      form.separator = items.map write := by
    rw [String.toList_ofList, Separated.splitOn_join hne hfree]
  have hcount : (items.map write).length = form.groups := by rw [List.length_map, hlen]
  rw [prefixLength_of_count (by rw [hpieces, hcount]), hpieces, hvalues]
  rfl

end Form

/-! ## Dotted masks -/

theorem dotted_value_digits (o : UInt8) :
    dotted.value (Numeral.digits 10 o.toNat) = .ok o.toNat := by
  have hread : Numeral.natural? 10 (Numeral.digits 10 o.toNat) = some o.toNat :=
    Numeral.natural?_digits (by decide) (by decide) o.toNat
  exact Form.value_of_denotes (by decide) ((Numeral.natural?_eq_some_iff (by decide)).mp hread)
    o.toNat_lt

/-- The set bits of a netmask are those of its octets. -/
theorem count_octets (m : IPv4) :
    m.bits.count true = ((m.octets.map UInt8.toNat).map (Bits.setBits dotted.width)).sum := by
  rw [List.map_map]
  exact List.count_flatMap

/-- **Every dotted mask is read** as the number of its set bits. -/
theorem prefixLength4_toText (m : IPv4) : prefixLength4 m.toText = .ok (m.bits.count true) := by
  rw [count_octets]
  exact Form.prefixLength_join m.length_octets m.octets_ne_nil IPv4.dot_not_mem_digits
    dotted_value_digits

/-! ## Masks of eight groups -/

theorem colons_value_padded (g : UInt16) :
    colons.value (Numeral.padded 16 4 g.toNat) = .ok g.toNat :=
  Form.value_of_denotes (by decide) (IPv6.isGroup_padded g).denotes g.toNat_lt

/-- The set bits of a netmask are those of its groups. -/
theorem count_groups (m : IPv6) :
    m.bits.count true = ((m.groups.map UInt16.toNat).map (Bits.setBits colons.width)).sum := by
  rw [List.map_map]
  exact List.count_flatMap

theorem expand6_toText (m : IPv6) : expand6 m.toText = .ok m.expanded := by
  rw [expand6, IPv6.ofText?_toText]

theorem prefixLength6_expanded (m : IPv6) : prefixLength6 m.expanded = .ok (m.bits.count true) := by
  rw [count_groups]
  exact Form.prefixLength_join m.length_groups m.groups_ne_nil
    (fun g => (IPv6.isGroup_padded g).colonFree) colons_value_padded

/-- **Every IPv6 address is read as a mask,** as the number of its set bits. -/
theorem prefixLengthOfAddress6_toText (m : IPv6) :
    prefixLengthOfAddress6 m.toText = .ok (m.bits.count true) := by
  -- the short form may have a gap, so what is counted is the long form of what it is read as
  rw [prefixLengthOfAddress6, expand6_toText]
  exact prefixLength6_expanded m

end Netmask

end HostAddresses
