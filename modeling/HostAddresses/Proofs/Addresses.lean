import HostAddresses.Proofs.AddressText
import HostAddresses.Summary

/-!
# The addresses of an interface

A summary is text. What it is the text of is said here: at most one address of each kind, and for
the addresses of both families perhaps a netmask. `Addresses.summary` puts them into words, with the
number of set bits of the netmask behind an address.

Nothing but the netmask gets lost on the way: the part of a field before its `/` is read back as the
address, and an empty field is read as none (`ofText?_ipv4`, `ofText?_ipv6`, `ofText?_mac`).
-/

namespace HostAddresses

/-- At most one address of each kind, with the netmasks that are known. -/
structure Addresses where
  ipv4 : Option (IPv4 × Option IPv4)
  ipv6 : Option (IPv6 × Option IPv6)
  mac : Option Mac
deriving DecidableEq

/-- The text of an address, with the number of set bits of its netmask if that is known. -/
def withLength (address : String) : Option (List Bool) → String
  | none => address
  | some mask => address ++ "/" ++ toString (mask.count true)

/-- A text up to its first `/`. -/
def addressPart (text : String) : String := String.ofList (text.toList.takeWhile (· ≠ '/'))

theorem addressPart_withLength {address : String} (h : '/' ∉ address.toList)
    (mask : Option (List Bool)) : addressPart (withLength address mask) = address := by
  cases mask with
  | none => rw [withLength, addressPart, takeWhile_of_not_mem h, String.ofList_toList]
  | some mask =>
    have hchars : (address ++ "/" ++ toString (mask.count true)).toList =
        address.toList ++ '/' :: (toString (mask.count true)).toList := by simp
    rw [withLength, addressPart, hchars, takeWhile_append_mark h, String.ofList_toList]

namespace Addresses

/-- The summary of an interface with these addresses. -/
def summary (a : Addresses) (name : String) : Summary where
  name := name
  ipv4 := (a.ipv4.map fun (ip, mask) => withLength ip.toText (mask.map IPv4.bits)).getD ""
  ipv6 := (a.ipv6.map fun (ip, mask) => withLength ip.toText (mask.map IPv6.bits)).getD ""
  mac := (a.mac.map Mac.toText).getD ""

/-! ## The addresses are read back -/

/-- **The IPv4 address is read back** from what stands before the length of its prefix. -/
theorem ofText?_ipv4 (a : Addresses) (name : String) :
    IPv4.ofText? (addressPart (a.summary name).ipv4) = a.ipv4.map Prod.fst := by
  unfold summary
  cases a.ipv4 with
  | none => exact IPv4.ofText?_empty
  | some found =>
    obtain ⟨ip, mask⟩ := found
    have hslash : '/' ∉ ip.toText.toList := by
      rw [IPv4.toText, String.toList_ofList]
      exact ip.slash_not_mem_chars
    show IPv4.ofText? (addressPart (withLength ip.toText _)) = some ip
    rw [addressPart_withLength hslash]
    exact ip.ofText?_toText

/-- **The IPv6 address is read back** from what stands before the length of its prefix. -/
theorem ofText?_ipv6 (a : Addresses) (name : String) :
    IPv6.ofText? (addressPart (a.summary name).ipv6) = a.ipv6.map Prod.fst := by
  unfold summary
  cases a.ipv6 with
  | none => exact IPv6.ofText?_empty
  | some found =>
    obtain ⟨ip, mask⟩ := found
    have hslash : '/' ∉ ip.toText.toList := by
      rw [IPv6.toText, String.toList_ofList]
      exact ip.slash_not_mem_chars
    show IPv6.ofText? (addressPart (withLength ip.toText _)) = some ip
    rw [addressPart_withLength hslash]
    exact ip.ofText?_toText

/-- **The hardware address is read back.** -/
theorem ofText?_mac (a : Addresses) (name : String) :
    Mac.ofText? (a.summary name).mac = a.mac := by
  unfold summary
  cases a.mac with
  | none => exact Mac.ofText?_empty
  | some m => exact m.ofText?_toText

/-- The hardware address is written by its bytes. -/
theorem written_mac {a : Addresses} {m : Mac} (h : a.mac = some m) (name : String) :
    Mac.Written (a.summary name).mac m.bytes := by
  unfold summary
  rw [h]
  exact m.written_toText

/-! ## No scope is left -/

theorem percent_not_mem_digits (n : Nat) : '%' ∉ Numeral.digits 10 n :=
  Numeral.not_mem_digits (by decide) (by decide) n

/-- **No scope is left** in a summary. -/
theorem percent_not_mem_ipv6 (a : Addresses) (name : String) :
    '%' ∉ (a.summary name).ipv6.toList := by
  unfold summary
  cases a.ipv6 with
  | none => simp
  | some found =>
    obtain ⟨ip, mask⟩ := found
    have hip : '%' ∉ ip.toText.toList := by
      rw [IPv6.toText, String.toList_ofList]
      exact ip.percent_not_mem_chars
    show '%' ∉ (withLength ip.toText (mask.map IPv6.bits)).toList
    cases mask with
    | none => exact hip
    | some mask =>
      have hlength := percent_not_mem_digits (mask.bits.count true)
      simp [withLength, hip, hlength]

end Addresses

end HostAddresses
