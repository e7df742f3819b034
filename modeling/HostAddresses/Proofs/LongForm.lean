import HostAddresses.Proofs.MaskGrammar

/-!
# The long form of an address

An address has many texts and one long form: eight groups of four digits, all in lower case
(`Netmask.IsLong`). Writing an address out goes from any of its texts to this one
(`Netmask.expand6_eq_ok_iff`). So addresses are told apart by their long forms, and the long form is
written out as itself.

The long form is a mask of eight groups as well. That is why a mask in any form of an address is
counted once it is written out, and is refused for one reason only, that it is no address
(`Netmask.expand6_normalizes`).

There are texts that are both, an address and a mask of eight groups, and each way of reading takes
texts that the other refuses. Of those that both take, both see the same groups
(`Netmask.values_eq_groups`), so they count the same (`Netmask.prefixLength6_exact`).
-/

namespace HostAddresses

/-! ## Addresses of eight pieces -/

namespace IPv6

theorem length_groupsOfIPv4 (a : IPv4) : (groupsOfIPv4 a).length = 2 := by
  obtain ⟨octets, hlength⟩ := a
  match octets, hlength with
  | [_, _, _, _], _ => rfl

/-- **An address in eight pieces** has a group in each, and neither a gap nor a dotted end. -/
theorem Denotes.groups_of_pieces {text : List Char} {a : IPv6} {pieces : List (List Char)}
    (h : Denotes text a) (hpieces : Separated.Pieces ':' text pieces) (hlength : pieces.length = 8)
    (hne : [] ∉ pieces) : List.Forall₂ IsGroup pieces a.groups := by
  cases h with
  | gap _ _ _ _ htext => exact absurd (hpieces.nil_mem ⟨_, _, htext.symm⟩) hne
  | @full parts hparts htext =>
    obtain rfl := (hparts.pieces_of_address htext).unique hpieces
    have hgroups := a.length_groups
    generalize a.groups = groups at hparts hgroups
    cases hparts with
    | groups hgroup => exact hgroup
    | @dotted parts gs v4 hgroup =>
      -- the dotted end is one piece for two groups, so there are seven pieces
      have hparts := hgroup.length_eq
      rw [List.length_append, List.length_singleton] at hlength
      rw [List.length_append, length_groupsOfIPv4] at hgroups
      omega

/-- An address as a number of 128 bits. -/
def number (a : IPv6) : Nat := Nat.ofDigits (2 ^ 16) (a.groups.map UInt16.toNat).reverse

theorem bits_eq_ofNat (a : IPv6) : a.bits = Bits.ofNat 128 a.number := by
  have hlt : ∀ n ∈ a.groups.map UInt16.toNat, n < 2 ^ 16 := by
    intro n hn
    obtain ⟨g, -, rfl⟩ := List.mem_map.mp hn
    exact g.toNat_lt
  have hbits := Bits.flatMap_ofNat (by decide) hlt
  rw [List.flatMap_map, List.length_map, a.length_groups] at hbits
  exact hbits

theorem count_bits (a : IPv6) : a.bits.count true = Bits.setBits 128 a.number := by
  rw [bits_eq_ofNat, Bits.setBits]

/-! ## The long form -/

/-- **A text in long form:** eight groups of four lower-case digits. -/
def IsLong (text : List Char) : Prop :=
  ∃ pieces, Separated.Pieces ':' text pieces ∧ pieces.length = 8 ∧
    ∀ piece ∈ pieces, piece.length = 4 ∧ ∀ c ∈ piece, c ∈ Numeral.lowerDigits

theorem padded_lower (g : UInt16) : ∀ c ∈ Numeral.padded 16 4 g.toNat, c ∈ Numeral.lowerDigits := by
  intro c hc
  by_contra hlower
  refine Numeral.not_mem_padded (by decide) ?_ 4 g.toNat hc
  rintro d hd rfl
  exact hlower (Numeral.digitChar_mem_lowerDigits hd)

/-- The pieces of the long form are the groups of the address. -/
theorem pieces_expanded (a : IPv6) :
    Separated.Pieces ':' a.expanded.toList (a.groups.map fun g => Numeral.padded 16 4 g.toNat) where
  ne_nil := mt List.map_eq_nil_iff.mp a.groups_ne_nil
  free := List.forall_mem_map.mpr fun g _ => (isGroup_padded g).colonFree
  text_eq := by
    rw [expanded, String.toList_ofList]
    rfl

theorem isLong_expanded (a : IPv6) : IsLong a.expanded.toList := by
  refine ⟨_, a.pieces_expanded, ?_, ?_⟩
  · rw [List.length_map, a.length_groups]
  · exact List.forall_mem_map.mpr fun g _ => ⟨length_padded g, padded_lower g⟩

/-- **An address has one long form.** -/
theorem IsLong.eq_expanded {long : String} {a : IPv6} (h : IsLong long.toList)
    (ha : Denotes long.toList a) : long = a.expanded := by
  obtain ⟨pieces, hpieces, hlength, hlong⟩ := h
  have hne : [] ∉ pieces := by
    intro hnil
    cases (hlong [] hnil).1
  have hgroups := ha.groups_of_pieces hpieces hlength hne
  -- each piece is the only one of its length for its group
  have hpadded := ((List.forall₂_and_left pieces a.groups).mpr ⟨hlong, hgroups⟩).imp
    fun piece g h => h.2.denotes.eq_of_lower (isGroup_padded g).denotes
      (h.1.1.trans (length_padded g).symm) h.1.2 (padded_lower g)
  rw [← List.forall₂_map_right_iff, List.forall₂_eq_eq_eq] at hpadded
  rw [← String.ofList_toList (s := long), hpieces.text_eq, hpadded]
  rfl

end IPv6

namespace Netmask

/-- **Writing out** goes from any text of an address to its long form. -/
theorem expand6_eq_ok_iff {text long : String} :
    expand6 text = .ok long ↔ ∃ a, IPv6.Denotes text.toList a ∧ long = a.expanded := by
  constructor
  · intro h
    unfold expand6 at h
    split at h
    · next a ha =>
      cases h
      exact ⟨a, IPv6.ofText?_eq_some_iff.mp ha, rfl⟩
    · cases h
  · rintro ⟨a, ha, rfl⟩
    rw [expand6, IPv6.ofText?_eq_some_iff.mpr ha]

theorem expand6_of_denotes {text : String} {a : IPv6} (h : IPv6.Denotes text.toList a) :
    expand6 text = .ok a.expanded := expand6_eq_ok_iff.mpr ⟨a, h, rfl⟩

theorem expand6_inj {text text' : String} {a b : IPv6} (h : IPv6.Denotes text.toList a)
    (h' : IPv6.Denotes text'.toList b) : expand6 text = expand6 text' ↔ a = b := by
  rw [expand6_of_denotes h, expand6_of_denotes h']
  constructor
  · intro heq
    have hlong := IPv6.denotes_expanded a
    rw [Except.ok.inj heq] at hlong
    exact hlong.unique (IPv6.denotes_expanded b)
  · rintro rfl
    rfl

/-! ## Masks of eight groups that are addresses -/

/-- **A text that is a mask of eight groups and an address** has the same groups as either. -/
theorem values_eq_groups {text : String} {values : List Nat} {a : IPv6}
    (h : colons.Denotes text values) (ha : IPv6.Denotes text.toList a) :
    values = a.groups.map UInt16.toNat := by
  obtain ⟨hcount, pieces, hpieces, hvalues⟩ := h
  have hne : [] ∉ pieces := by
    intro hnil
    obtain ⟨n, -, hgroup⟩ := exists_of_mem_forall₂ hvalues hnil
    exact hgroup.1.ne_nil rfl
  have hgroups := ha.groups_of_pieces hpieces (hvalues.length_eq.trans hcount) hne
  have hsigned : List.Forall₂ (Numeral.Signed 16) pieces values := hvalues.imp fun _ _ h => h.1
  have hplain : List.Forall₂ (Numeral.Signed 16) pieces (a.groups.map UInt16.toNat) :=
    List.forall₂_map_right_iff.mpr (hgroups.imp fun _ _ h => .plain h.denotes)
  have hunique : Relator.RightUnique (Numeral.Signed 16) := fun _ _ _ =>
    Numeral.Signed.unique (by decide)
  exact List.right_unique_forall₂' hunique hsigned hplain

/-- **Which texts are masks of eight groups, and what they count.** A text is counted if and only if
it is eight hexadecimal numerals of numbers that fit sixteen bits, and then as the set bits of the
eight numbers. These are the set bits of the number of 128 bits that they form. Every other text is
refused for what is wrong with it, one with a gap among them. Of a text that is an address too, the
long form counts the same. -/
theorem prefixLength6_exact (text : String) :
    (∀ n, prefixLength6 text = .ok n ↔
      ∃ values, colons.Denotes text values ∧ n = (values.map (Bits.setBits 16)).sum) ∧
    (∀ values, colons.Denotes text values →
      (values.map (Bits.setBits 16)).sum = Bits.setBits 128 (Nat.ofDigits 65536 values.reverse) ∧
        (values.map (Bits.setBits 16)).sum ≤ 128) ∧
    (∀ e, prefixLength6 text = .error e ↔ colons.Refuses text e) ∧
    ([':', ':'] <:+: text.toList → ∃ e, prefixLength6 text = .error e) ∧
    ∀ n long, prefixLength6 text = .ok n → expand6 text = .ok long → prefixLength6 long = .ok n := by
  have hbase : colons.base ≤ 16 := by decide
  have hcounted : ∀ n, prefixLength6 text = .ok n ↔
      ∃ values, colons.Denotes text values ∧ n = (values.map (Bits.setBits 16)).sum :=
    fun n => Form.prefixLength_eq_ok_iff_denotes hbase
  refine ⟨hcounted, fun values h => ?_, fun e => Form.prefixLength_eq_error_iff hbase,
    fun hgap => ?_, fun n long hn hlong => ?_⟩
  · have hsum := h.sum_setBits (by decide)
    exact ⟨hsum, hsum ▸ Bits.setBits_le 128 _⟩
  · cases hread : prefixLength6 text with
    | error e => exact ⟨e, rfl⟩
    | ok n =>
      obtain ⟨values, hvalues, -⟩ := (hcounted n).mp hread
      exact absurd hvalues (Form.not_denotes_of_gap hgap)
  · obtain ⟨values, hvalues, rfl⟩ := (hcounted n).mp hn
    obtain ⟨a, ha, rfl⟩ := expand6_eq_ok_iff.mp hlong
    rw [prefixLength6_expanded, values_eq_groups hvalues ha, count_groups]
    rfl

/-- Neither way of reading takes all that the other takes. -/
example : Netmask.prefixLength6 "+ff:0:0:0:0:0:0:00001" = .ok 9 ∧
    Netmask.expand6 "+ff:0:0:0:0:0:0:00001" = .error (.notIPv6 "+ff:0:0:0:0:0:0:00001") ∧
    Netmask.prefixLength6 "ff::1" = .error (.groupCount 8 3) := by
  decide +kernel

/-- **Writing an address out.** The long form of a text is the one text in long form that denotes the
same address, and there is one if and only if the text denotes an address. It is written out as
itself, and counted as the set bits of the address. Two texts have one long form if and only if they
denote one address. So a mask that is written out before it is counted is refused for no other reason
than that it is no address. -/
theorem expand6_normalizes (text : String) :
    (∀ long, expand6 text = .ok long ↔ ∃ a, IPv6.Denotes text.toList a ∧
      IPv6.Denotes long.toList a ∧ IPv6.IsLong long.toList) ∧
    ((∃ long, expand6 text = .ok long) ↔ ∃ a, IPv6.Denotes text.toList a) ∧
    (∀ a long, IPv6.Denotes text.toList a → expand6 text = .ok long →
      expand6 long = .ok long ∧ prefixLength6 long = .ok (Bits.setBits 128 a.number)) ∧
    (∀ a text' b, IPv6.Denotes text.toList a → IPv6.Denotes text'.toList b →
      (expand6 text = expand6 text' ↔ a = b)) ∧
    (∀ n, prefixLengthOfAddress6 text = .ok n ↔
      ∃ a, IPv6.Denotes text.toList a ∧ n = Bits.setBits 128 a.number) ∧
    ∀ e, prefixLengthOfAddress6 text = .error e ↔
      (∀ a, ¬ IPv6.Denotes text.toList a) ∧ e = .notIPv6 text := by
  refine ⟨fun long => ?_, ?_, fun a long ha hlong => ?_, fun a text' b => expand6_inj, fun n => ?_,
    fun e => ?_⟩
  · rw [expand6_eq_ok_iff]
    constructor
    · rintro ⟨a, ha, rfl⟩
      exact ⟨a, ha, a.denotes_expanded, a.isLong_expanded⟩
    · rintro ⟨a, ha, hdenotes, hlong⟩
      exact ⟨a, ha, hlong.eq_expanded hdenotes⟩
  · constructor
    · rintro ⟨long, hlong⟩
      obtain ⟨a, ha, -⟩ := expand6_eq_ok_iff.mp hlong
      exact ⟨a, ha⟩
    · rintro ⟨a, ha⟩
      exact ⟨_, expand6_of_denotes ha⟩
  · rw [expand6_of_denotes ha, Except.ok.injEq] at hlong
    subst hlong
    refine ⟨expand6_of_denotes a.denotes_expanded, ?_⟩
    rw [prefixLength6_expanded, a.count_bits]
  · simp only [prefixLengthOfAddress6_eq_ok_iff, IPv6.ofText?_eq_some_iff, IPv6.count_bits]
  · simp only [prefixLengthOfAddress6_eq_error_iff, Option.eq_none_iff_forall_ne_some, ne_eq,
      IPv6.ofText?_eq_some_iff]

/-- Any text of an address goes to one long form, which need not be a mask of eight groups. -/
example : Netmask.expand6 "::FFFF:1.2.3.4" =
      .ok "0000:0000:0000:0000:0000:ffff:0102:0304" ∧
    Netmask.expand6 "0:0::ffff:102:304" = Netmask.expand6 "::FFFF:1.2.3.4" ∧
    Netmask.prefixLengthOfAddress6 "::FFFF:1.2.3.4" = .ok 21 := by
  decide +kernel

end Netmask

end HostAddresses
