import HostAddresses.Proofs.Pieces
import HostAddresses.Proofs.ReadBack
import HostAddresses.IPv6.Scope
import HostAddresses.Mac
import Mathlib.Data.List.TakeWhile

/-!
# What the text of an address does not hold

The text of an address is a part of longer texts: a scope may follow it behind `%`, and the length
of a prefix behind `/`. Both can be told apart from the address since an address is written in
hexadecimal digits, colons and dots only. So

* cutting a text before its first `%` gives the address back, whatever the scope is, even if the
  name of the interface holds a `%` itself (`withoutScope_toText`, `withoutScope_scopedText`);
* no address has an empty text, and no empty text is an address.

The text of a hardware address is six pairs of digits (`Mac.written_toText`).
-/

namespace HostAddresses

theorem takeWhile_of_not_mem {c : Char} {text : List Char} (h : c ∉ text) :
    text.takeWhile (· ≠ c) = text := by
  rw [List.takeWhile_eq_self_iff]
  intro a ha
  have hne : a ≠ c := fun heq => h (heq ▸ ha)
  simpa using hne

/-- What stands before a mark that is in no part of it is found again. -/
theorem takeWhile_append_mark {c : Char} {text : List Char} (h : c ∉ text) (rest : List Char) :
    (text ++ c :: rest).takeWhile (· ≠ c) = text := by
  have htake := takeWhile_of_not_mem h
  rw [List.takeWhile_append, htake]
  simp

/-! ## IPv4 addresses -/

namespace IPv4

theorem not_mem_chars {c : Char} (hdot : c ≠ '.') (hdigit : ∀ d < 10, c ≠ Nat.digitChar d)
    (a : IPv4) : c ∉ a.chars := by
  refine Separated.not_mem_join hdot ?_ a.octets
  intro o
  exact Numeral.not_mem_digits (by decide) hdigit o.toNat

theorem slash_not_mem_chars (a : IPv4) : '/' ∉ a.chars :=
  not_mem_chars (by decide) (by decide) a

theorem ofText?_empty : ofText? "" = none := by decide

theorem toText_ne_empty (a : IPv4) : a.toText ≠ "" := by
  intro h
  have hread := ofText?_toText a
  rw [h, ofText?_empty] at hread
  cases hread

end IPv4

/-! ## IPv6 addresses -/

namespace IPv6

theorem not_mem_joined {c : Char} (hcolon : c ≠ ':') (hdigit : ∀ d < 16, c ≠ Nat.digitChar d)
    (groups : List UInt16) : c ∉ joined groups := by
  refine Separated.not_mem_join hcolon ?_ groups
  intro g
  exact Numeral.not_mem_digits (by decide) hdigit g.toNat

theorem not_mem_compressed {c : Char} (hcolon : c ≠ ':') (hdigit : ∀ d < 16, c ≠ Nat.digitChar d)
    (groups : List UInt16) : c ∉ compressed groups := by
  have hjoined := not_mem_joined hcolon hdigit
  unfold compressed
  generalize longestZeroRun groups = run
  obtain ⟨start, length⟩ := run
  dsimp only
  split
  · simp [hjoined, hcolon]
  · exact hjoined groups

/-- **The characters of an address** are hexadecimal digits, colons and dots. -/
theorem not_mem_chars {c : Char} (hcolon : c ≠ ':') (hdot : c ≠ '.')
    (hdigit : ∀ d < 16, c ≠ Nat.digitChar d) (a : IPv6) : c ∉ a.chars := by
  unfold chars
  split
  · rename_i v4 _
    have hf : c ≠ 'f' := hdigit 15 (by decide)
    -- a decimal digit is one of the hexadecimal ones
    have hv4 : c ∉ v4.chars := IPv4.not_mem_chars hdot (fun d hd => hdigit d (by omega)) v4
    simp [hcolon, hf, hv4]
  · exact not_mem_compressed hcolon hdigit a.groups

theorem percent_not_mem_chars (a : IPv6) : '%' ∉ a.chars :=
  not_mem_chars (by decide) (by decide) (by decide) a

theorem slash_not_mem_chars (a : IPv6) : '/' ∉ a.chars :=
  not_mem_chars (by decide) (by decide) (by decide) a

theorem ofText?_empty : ofText? "" = none := by decide

theorem toText_ne_empty (a : IPv6) : a.toText ≠ "" := by
  intro h
  have hread := ofText?_toText a
  rw [h, ofText?_empty] at hread
  cases hread

/-! ## Scopes -/

theorem withoutScope_toText (a : IPv6) : withoutScope a.toText = a.toText := by
  rw [withoutScope, toText, String.toList_ofList, takeWhile_of_not_mem a.percent_not_mem_chars]

/-- **A scope is cut off again,** whatever the name of the interface is. -/
theorem withoutScope_scopedText (a : IPv6) (interface : String) :
    withoutScope (a.scopedText interface) = a.toText := by
  have hchars : (a.scopedText interface).toList = a.chars ++ '%' :: interface.toList := by
    simp [scopedText, toText]
  rw [withoutScope, hchars, takeWhile_append_mark a.percent_not_mem_chars, toText]

/-- A text is cut before its first `%`, if it has one. -/
structure ScopeCut (text cut : String) : Prop where
  unscoped : '%' ∉ cut.toList
  rest : text = cut ∨ ∃ scope, text = cut ++ "%" ++ scope

/-- **A text is cut in one way,** and this is it. -/
theorem scopeCut_iff {text cut : String} : ScopeCut text cut ↔ cut = withoutScope text := by
  constructor
  · rintro ⟨hfree, rfl | ⟨scope, rfl⟩⟩
    · rw [withoutScope, takeWhile_of_not_mem hfree, String.ofList_toList]
    · have hchars : (cut ++ "%" ++ scope).toList = cut.toList ++ '%' :: scope.toList := by simp
      rw [withoutScope, hchars, takeWhile_append_mark hfree, String.ofList_toList]
  · rintro rfl
    by_cases hmark : '%' ∈ text.toList
    · obtain ⟨before, scope, hsplit, hfree⟩ := List.eq_append_cons_of_mem hmark
      have hcut : withoutScope text = String.ofList before := by
        rw [withoutScope, hsplit, takeWhile_append_mark hfree]
      rw [hcut]
      refine ⟨by rwa [String.toList_ofList], Or.inr ⟨String.ofList scope, ?_⟩⟩
      rw [← String.toList_inj, hsplit]
      simp
    · rw [withoutScope, takeWhile_of_not_mem hmark, String.ofList_toList]
      exact ⟨hmark, Or.inl rfl⟩

end IPv6

/-! ## Hardware addresses -/

namespace Mac

theorem ofText?_empty : ofText? "" = none := by decide

/-- **Bytes are written** as pairs of lower-case hexadecimal digits with `:` between them. -/
def Written (text : String) (bytes : List UInt8) : Prop :=
  Separated.Pieces ':' text.toList
    (bytes.map fun b => [Nat.digitChar (b.toNat / 16), Nat.digitChar (b.toNat % 16)])

theorem padded_eq_pair (b : UInt8) :
    Numeral.padded 16 2 b.toNat = [Nat.digitChar (b.toNat / 16), Nat.digitChar (b.toNat % 16)] := by
  have h : ∀ n < 256,
      Numeral.padded 16 2 n = [Nat.digitChar (n / 16), Nat.digitChar (n % 16)] := by
    decide +kernel
  exact h b.toNat b.toNat_lt

/-- The text of an address is that of its bytes. -/
theorem written_toText (m : Mac) : Written m.toText m.bytes := by
  rw [Written, toText, String.toList_ofList, ← funext padded_eq_pair]
  refine ⟨?_, ?_, rfl⟩
  · rw [Ne, List.map_eq_nil_iff]
    exact m.bytes_ne_nil
  · exact List.forall_mem_map.mpr fun b _ => colon_not_mem_padded b

end Mac

end HostAddresses
