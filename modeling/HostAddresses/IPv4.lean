import HostAddresses.Bits
import HostAddresses.Text.Numeral
import HostAddresses.Text.Separated

/-!
# IPv4 addresses

An address is four octets. Its text is the dotted form, and `ofText?` reads exactly the texts in
which every octet is written without leading zeros.
-/

namespace HostAddresses

/-- An IPv4 address. -/
structure IPv4 where
  /-- The octets, in network order. -/
  octets : List UInt8
  length_octets : octets.length = 4
deriving DecidableEq

namespace IPv4

/-- The address with these octets, if there are four. -/
def ofOctets? (octets : List UInt8) : Option IPv4 :=
  if h : octets.length = 4 then some ⟨octets, h⟩ else none

@[simp] theorem ofOctets?_octets (a : IPv4) : ofOctets? a.octets = some a := by
  simp [ofOctets?, a.length_octets]

/-- The address `0.0.0.0`. -/
def zero : IPv4 := ⟨[0, 0, 0, 0], rfl⟩

instance : Inhabited IPv4 := ⟨zero⟩

/-- The bits of an address, the most significant first. -/
def bits (a : IPv4) : List Bool := a.octets.flatMap fun o => Bits.ofNat 8 o.toNat

/-- The netmask of a network whose prefix has this length. -/
def mask (length : Nat) : IPv4 where
  octets := (List.range 4).map fun i => UInt8.ofNat (Bits.ones 8 (length - 8 * i))
  length_octets := by simp

/-! ## Text -/

/-- The characters of the dotted form. -/
def chars (a : IPv4) : List Char :=
  Separated.join '.' (fun o => Numeral.digits 10 o.toNat) a.octets

/-- The dotted form of an address. -/
def toText (a : IPv4) : String := String.ofList a.chars

/-- The octet written by one to three digits, the first of which is zero only if it is alone. -/
def octet? (digits : List Char) : Option UInt8 :=
  if digits.length ≤ 3 ∧ (digits.head? = some '0' → digits.length = 1) then
    ((Numeral.natural? 10 digits).filter (· < 256)).map UInt8.ofNat
  else none

/-- The address with this dotted form. -/
def ofChars? (text : List Char) : Option IPv4 :=
  Separated.split? '.' octet? text >>= ofOctets?

/-- The address with this dotted form. -/
def ofText? (text : String) : Option IPv4 := ofChars? text.toList

/-! ## The dotted form is read back -/

theorem octet?_digits (o : UInt8) : octet? (Numeral.digits 10 o.toNat) = some o := by
  have h : ∀ n < 256, octet? (Numeral.digits 10 n) = some (UInt8.ofNat n) := by decide +kernel
  simpa using h o.toNat o.toNat_lt

theorem dot_not_mem_digits (o : UInt8) : '.' ∉ Numeral.digits 10 o.toNat :=
  Numeral.not_mem_digits (by decide) (by decide) o.toNat

theorem octets_ne_nil (a : IPv4) : a.octets ≠ [] := by
  intro h
  simpa [h] using a.length_octets

theorem ofChars?_chars (a : IPv4) : ofChars? a.chars = some a := by
  rw [ofChars?, chars,
    Separated.split?_join a.octets_ne_nil dot_not_mem_digits octet?_digits]
  exact ofOctets?_octets a

/-- The dotted form of an address is read back. -/
theorem ofText?_toText (a : IPv4) : ofText? a.toText = some a := by
  simp [ofText?, toText, ofChars?_chars]

end IPv4

end HostAddresses
