import HostAddresses.Proofs.AddressGrammar
import HostAddresses.Proofs.ZeroRuns

/-!
# The text of an IPv6 address is read back

Both forms in which an address is written are texts that denote it (`denotes_chars`,
`denotes_expanded`), so reading undoes writing, and either form determines the address.

The short form has one gap or none. The gap is a run of zero groups (`HasZeros.eq_append`), and an
address that stands for an IPv4 address has five zero groups in front of the last three.
-/

namespace HostAddresses.IPv6

/-! ## Groups that are written -/

theorem length_digits_le (g : UInt16) : (Numeral.digits 16 g.toNat).length ≤ 4 :=
  (Nat.length_toDigits_le_iff (by decide) (by decide)).mpr g.toNat_lt

theorem isGroup_digits (g : UInt16) : IsGroup (Numeral.digits 16 g.toNat) g where
  short := length_digits_le g
  denotes := (Numeral.natural?_eq_some_iff (by decide)).mp
    (Numeral.natural?_digits (by decide) (by decide) _)

theorem length_padded (g : UInt16) : (Numeral.padded 16 4 g.toNat).length = 4 := by
  rw [Numeral.padded, List.length_leftpad]
  exact Nat.max_eq_left (length_digits_le g)

theorem isGroup_padded (g : UInt16) : IsGroup (Numeral.padded 16 4 g.toNat) g where
  short := Nat.le_of_eq (length_padded g)
  denotes := (Numeral.natural?_eq_some_iff (by decide)).mp
    (Numeral.natural?_padded (by decide) (by decide) 4 _)

section Write

variable {write : UInt16 → List Char} (hwrite : ∀ g, IsGroup (write g) g)

include hwrite

theorem forall₂_map_write (gs : List UInt16) : List.Forall₂ IsGroup (gs.map write) gs :=
  List.forall₂_map_left_iff.mpr (List.forall₂_same.mpr fun g _ => hwrite g)

/-- All groups of an address are a text of it. -/
theorem denotes_join (a : IPv6) : Denotes (Separated.join ':' write a.groups) a :=
  .full (.groups (forall₂_map_write hwrite a.groups)) rfl

/-- The groups around a gap are a text of the address. -/
theorem denotes_gap {a : IPv6} {before after : List UInt16} {zeros : Nat} (hzeros : 0 < zeros)
    (hgroups : a.groups = before ++ List.replicate zeros 0 ++ after) :
    Denotes (Separated.join ':' write before ++ [':', ':'] ++ Separated.join ':' write after) a :=
  .gap (forall₂_map_write hwrite before) (.groups (forall₂_map_write hwrite after)) hzeros hgroups
    rfl

end Write

/-! ## The short form -/

theorem denotes_compressed (a : IPv6) : Denotes (compressed a.groups) a := by
  unfold compressed
  have hrun := (isLongest_longestZeroRun a.groups).zeros
  generalize longestZeroRun a.groups = run at hrun
  obtain ⟨start, length⟩ := run
  show Denotes (if 2 ≤ length then joined (a.groups.take start) ++ [':', ':'] ++
    joined (a.groups.drop (start + length)) else joined a.groups) a
  by_cases h : 2 ≤ length
  · have hlength : 0 < length := by omega
    rw [if_pos h]
    exact denotes_gap isGroup_digits hlength hrun.eq_append
  · rw [if_neg h]
    exact denotes_join isGroup_digits a

/-! ## Addresses that stand for IPv4 addresses -/

theorem group_div_mod (g : UInt16) :
    group (UInt8.ofNat (g.toNat / 256)) (UInt8.ofNat g.toNat) = g := by
  have hlt := g.toNat_lt
  apply UInt16.toNat_inj.mp
  simp only [group, UInt16.toNat_ofNat', UInt8.toNat_ofNat']
  omega

theorem groups_of_mapped? {a : IPv6} {v4 : IPv4} (h : a.mapped? = some v4) :
    a.groups = List.replicate 5 0 ++ [0xffff] ++ groupsOfIPv4 v4 := by
  unfold mapped? at h
  split at h
  · rename_i high low hgroups
    rw [IPv4.ofOctets?] at h
    simp only [List.flatMap_cons, List.flatMap_nil, List.cons_append, List.nil_append] at h
    simp only [List.length_cons, List.length_nil, Nat.zero_add, Nat.reduceAdd, dite_true,
      Option.some.injEq] at h
    rw [hgroups, ← h]
    show _ = [0, 0, 0, 0, 0, 0xffff, group (UInt8.ofNat (high.toNat / 256)) (UInt8.ofNat high.toNat),
      group (UInt8.ofNat (low.toNat / 256)) (UInt8.ofNat low.toNat)]
    rw [group_div_mod, group_div_mod]
  · cases h

theorem denotes_mapped {a : IPv6} {v4 : IPv4} (h : a.mapped? = some v4) :
    Denotes ("::ffff:".toList ++ v4.chars) a := by
  have hffff : IsGroup "ffff".toList 0xffff := isGroup_digits 0xffff
  have hgroups : a.groups = [] ++ List.replicate 5 0 ++ ([0xffff] ++ groupsOfIPv4 v4) :=
    groups_of_mapped? h
  -- the dotted form is the last piece behind a gap at the start
  refine .gap .nil (.dotted (.cons hffff .nil)) (by decide) hgroups ?_
  simp [List.intercalate]

/-! ## The two forms -/

/-- **The short form of an address denotes it.** -/
theorem denotes_chars (a : IPv6) : Denotes a.chars a := by
  unfold chars
  cases h : a.mapped? with
  | some v4 => exact denotes_mapped h
  | none => exact denotes_compressed a

/-- **The long form of an address denotes it.** -/
theorem denotes_expanded (a : IPv6) : Denotes a.expanded.toList a := by
  rw [expanded, String.toList_ofList]
  exact denotes_join isGroup_padded a

/-- The short form of an address is read back. -/
theorem ofText?_toText (a : IPv6) : ofText? a.toText = some a := by
  rw [ofText?, toText, String.toList_ofList]
  exact (denotes_chars a).complete

end HostAddresses.IPv6
