import HostAddresses.Text.Numeral
import HostAddresses.Text.Separated

/-!
# Hardware addresses

A hardware address is six bytes, written as pairs of lower-case hexadecimal digits with `:` between
them.
-/

namespace HostAddresses

/-- A hardware address. -/
structure Mac where
  /-- The bytes, in the order in which they are written. -/
  bytes : List UInt8
  length_bytes : bytes.length = 6
deriving DecidableEq

namespace Mac

/-- The address with these bytes, if there are six. -/
def ofBytes? (bytes : List UInt8) : Option Mac :=
  if h : bytes.length = 6 then some ⟨bytes, h⟩ else none

@[simp] theorem ofBytes?_bytes (m : Mac) : ofBytes? m.bytes = some m := by
  simp [ofBytes?, m.length_bytes]

/-- The first six bytes of a hardware field, which ends in as many zeros as needed. -/
def ofField (field : List UInt8) : Mac where
  bytes := (field ++ List.replicate 6 0).take 6
  length_bytes := by simp

/-- The text of an address. -/
def toText (m : Mac) : String :=
  String.ofList (Separated.join ':' (fun b => Numeral.padded 16 2 b.toNat) m.bytes)

/-- The byte written by two hexadecimal digits. -/
def byte? (digits : List Char) : Option UInt8 :=
  if digits.length = 2 then (Numeral.natural? 16 digits).map UInt8.ofNat else none

/-- The address with this text. -/
def ofText? (text : String) : Option Mac := Separated.split? ':' byte? text.toList >>= ofBytes?

/-! ## The text is read back -/

theorem byte?_padded (b : UInt8) : byte? (Numeral.padded 16 2 b.toNat) = some b := by
  have h : ∀ n < 256, byte? (Numeral.padded 16 2 n) = some (UInt8.ofNat n) := by decide +kernel
  simpa using h b.toNat b.toNat_lt

theorem colon_not_mem_padded (b : UInt8) : ':' ∉ Numeral.padded 16 2 b.toNat := by
  have h : ∀ n < 256, ':' ∉ Numeral.padded 16 2 n := by decide +kernel
  exact h b.toNat b.toNat_lt

theorem bytes_ne_nil (m : Mac) : m.bytes ≠ [] := by
  intro h
  simpa [h] using m.length_bytes

/-- The text of an address is read back. -/
theorem ofText?_toText (m : Mac) : ofText? m.toText = some m := by
  rw [ofText?, toText, String.toList_ofList,
    Separated.split?_join m.bytes_ne_nil colon_not_mem_padded byte?_padded]
  exact ofBytes?_bytes m

end Mac

end HostAddresses
