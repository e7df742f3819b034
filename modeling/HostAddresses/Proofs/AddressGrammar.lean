import HostAddresses.IPv6.Reader
import HostAddresses.Proofs.Numerals
import HostAddresses.Proofs.Pieces

/-!
# Which texts are addresses

An IPv4 address has one text, its dotted form (`IPv4.ofChars?_eq_some_iff`). An IPv6 address has
many: any of its groups may have zeros in front, up to four digits in all, the last two groups may be
written as an IPv4 address, and a run of zero groups may be a gap. `IPv6.Denotes` is the grammar of
these texts and does not say how they are read.

Reading gives the address that a text denotes, and refuses all other texts
(`IPv6.ofChars?_eq_some_iff`). What has to be seen for this is where the gap is. No group is empty or
holds a colon, so there is no `::` between groups, and the first one is the gap.
-/

namespace HostAddresses

/-! ## IPv4 -/

namespace IPv4

theorem eq_digits_of_octet? {piece : List Char} {o : UInt8} (h : octet? piece = some o) :
    piece = Numeral.digits 10 o.toNat := by
  unfold octet? at h
  split at h
  · next hform =>
    obtain ⟨n, hn, rfl⟩ := Option.map_eq_some_iff.mp h
    obtain ⟨hread, hlt⟩ := Option.filter_eq_some_iff.mp hn
    rw [UInt8.toNat_ofNat_of_lt' (of_decide_eq_true hlt)]
    exact Numeral.eq_digits_of_natural? (by decide) (by decide) hform.2 hread
  · cases h

/-- **An IPv4 address has one text.** -/
theorem ofChars?_eq_some_iff {text : List Char} {a : IPv4} :
    ofChars? text = some a ↔ text = a.chars := by
  constructor
  · intro h
    obtain ⟨octets, hoctets, ha⟩ := Option.bind_eq_some_iff.mp h
    have htext := Separated.eq_join_of_split? (fun _ _ => eq_digits_of_octet?) hoctets
    unfold ofOctets? at ha
    split at ha
    · cases ha
      exact htext
    · cases ha
  · rintro rfl
    exact ofChars?_chars a

theorem ofChars?_of_not_mem {text : List Char} (h : '.' ∉ text) : ofChars? text = none := by
  rw [ofChars?, Separated.split?, List.splitOn_eq_singleton h]
  cases hpiece : octet? text with
  | none => simp [hpiece]
  | some o => simp [hpiece, ofOctets?]

theorem colon_not_mem_chars (a : IPv4) : ':' ∉ a.chars := by
  refine Separated.not_mem_join (by decide) ?_ _
  intro o h
  exact absurd (Nat.isDigit_of_mem_toDigits (by decide) (by decide) h) (by decide)

theorem chars_ne_nil (a : IPv4) : a.chars ≠ [] := by
  intro h
  have hread := ofChars?_chars a
  rw [h] at hread
  cases hread

end IPv4

/-! ## Groups -/

namespace IPv6

/-- A group: one to four hexadecimal digits. -/
structure IsGroup (piece : List Char) (g : UInt16) : Prop where
  short : piece.length ≤ 4
  denotes : Numeral.Denotes 16 piece g.toNat

theorem group?_eq_some_iff {piece : List Char} {g : UInt16} :
    group? piece = some g ↔ IsGroup piece g := by
  unfold group?
  constructor
  · intro h
    split at h
    · next hshort =>
      obtain ⟨n, hread, rfl⟩ := Option.map_eq_some_iff.mp h
      have hdenotes := (Numeral.natural?_eq_some_iff (by decide)).mp hread
      have hpow : 16 ^ piece.length ≤ 16 ^ 4 := Nat.pow_le_pow_right (by decide) hshort
      have hlt : n < 16 ^ 4 := Nat.lt_of_lt_of_le (hdenotes.lt_pow (by decide)) hpow
      refine ⟨hshort, ?_⟩
      rwa [UInt16.toNat_ofNat_of_lt' hlt]
    · cases h
  · intro h
    rw [if_pos h.short, (Numeral.natural?_eq_some_iff (by decide)).mpr h.denotes, Option.map_some,
      UInt16.ofNat_toNat]

namespace IsGroup

variable {piece : List Char} {g : UInt16}

theorem ne_nil (h : IsGroup piece g) : piece ≠ [] := h.denotes.ne_nil

theorem colonFree (h : IsGroup piece g) : ':' ∉ piece := h.denotes.not_mem (by decide) rfl

theorem dotFree (h : IsGroup piece g) : '.' ∉ piece := h.denotes.not_mem (by decide) rfl

end IsGroup

/-- Pieces that write groups, of which the last may be an IPv4 address. -/
inductive GroupsToEnd : List (List Char) → List UInt16 → Prop where
  | groups {pieces : List (List Char)} {gs : List UInt16} :
    List.Forall₂ IsGroup pieces gs → GroupsToEnd pieces gs
  | dotted {pieces : List (List Char)} {gs : List UInt16} {a : IPv4} :
    List.Forall₂ IsGroup pieces gs → GroupsToEnd (pieces ++ [a.chars]) (gs ++ groupsOfIPv4 a)

theorem groupsToEnd?_cons {pieces : List (List Char)} (hne : pieces ≠ []) (piece : List Char) :
    groupsToEnd? (piece :: pieces) =
      (group? piece).bind fun g => (groupsToEnd? pieces).map (g :: ·) := by
  obtain ⟨next, pieces, rfl⟩ := List.exists_cons_of_ne_nil hne
  rw [groupsToEnd?]
  · cases group? piece <;> cases groupsToEnd? (next :: pieces) <;> rfl
  · exact List.cons_ne_nil next pieces

theorem lastGroups?_eq_some_iff {piece : List Char} {gs : List UInt16} :
    lastGroups? piece = some gs ↔ (∃ g, IsGroup piece g ∧ gs = [g]) ∨
      ∃ a : IPv4, piece = a.chars ∧ gs = groupsOfIPv4 a := by
  unfold lastGroups?
  cases hdotted : IPv4.ofChars? piece with
  | some a =>
    constructor
    · intro h
      exact .inr ⟨a, IPv4.ofChars?_eq_some_iff.mp hdotted, (Option.some_inj.mp h).symm⟩
    · rintro (⟨g, hg, rfl⟩ | ⟨b, hb, rfl⟩)
      · rw [IPv4.ofChars?_of_not_mem hg.dotFree] at hdotted
        cases hdotted
      · rw [IPv4.ofChars?_eq_some_iff.mpr hb] at hdotted
        cases hdotted
        rfl
  | none =>
    constructor
    · intro h
      obtain ⟨g, hg, rfl⟩ := Option.map_eq_some_iff.mp h
      exact .inl ⟨g, group?_eq_some_iff.mp hg, rfl⟩
    · rintro (⟨g, hg, rfl⟩ | ⟨b, hb, -⟩)
      · exact Option.map_eq_some_iff.mpr ⟨g, group?_eq_some_iff.mpr hg, rfl⟩
      · rw [IPv4.ofChars?_eq_some_iff.mpr hb] at hdotted
        cases hdotted

namespace GroupsToEnd

variable {pieces : List (List Char)} {gs : List UInt16}

theorem sound (h : groupsToEnd? pieces = some gs) : GroupsToEnd pieces gs := by
  induction pieces generalizing gs with
  | nil =>
    cases h
    exact .groups .nil
  | cons piece pieces ih =>
    by_cases hlast : pieces = []
    · subst hlast
      obtain ⟨g, hg, rfl⟩ | ⟨a, rfl, rfl⟩ := lastGroups?_eq_some_iff.mp h
      · exact .groups (.cons hg .nil)
      · exact .dotted .nil
    · rw [groupsToEnd?_cons hlast, Option.bind_eq_some_iff] at h
      obtain ⟨g, hg, hrest⟩ := h
      obtain ⟨gs, hgs, rfl⟩ := Option.map_eq_some_iff.mp hrest
      have hgroup := group?_eq_some_iff.mp hg
      cases ih hgs with
      | groups hgroups => exact .groups (.cons hgroup hgroups)
      | dotted hgroups => exact .dotted (.cons hgroup hgroups)

theorem read_cons {piece : List Char} {g : UInt16} (hg : IsGroup piece g) (hne : pieces ≠ [])
    (h : groupsToEnd? pieces = some gs) : groupsToEnd? (piece :: pieces) = some (g :: gs) := by
  rw [groupsToEnd?_cons hne, group?_eq_some_iff.mpr hg, h]
  rfl

theorem complete (h : GroupsToEnd pieces gs) : groupsToEnd? pieces = some gs := by
  cases h with
  | groups hgroups =>
    induction hgroups with
    | nil => rfl
    | @cons piece g pieces gs hg hrest ih =>
      cases hrest with
      | nil => exact lastGroups?_eq_some_iff.mpr (.inl ⟨g, hg, rfl⟩)
      | cons _ _ => exact read_cons hg (List.cons_ne_nil _ _) ih
  | @dotted pieces gs a hgroups =>
    induction hgroups with
    | nil => exact lastGroups?_eq_some_iff.mpr (.inr ⟨a, rfl, rfl⟩)
    | cons hg _ ih => exact read_cons hg (by simp) ih

/-- No piece is empty or holds a colon. -/
theorem piece (h : GroupsToEnd pieces gs) : ∀ piece ∈ pieces, piece ≠ [] ∧ ':' ∉ piece := by
  have hgroup : ∀ {pieces gs}, List.Forall₂ IsGroup pieces gs →
      ∀ piece ∈ pieces, piece ≠ [] ∧ ':' ∉ piece := by
    intro pieces gs hgroups piece hpiece
    obtain ⟨g, -, hg⟩ := exists_of_mem_forall₂ hgroups hpiece
    exact ⟨hg.ne_nil, hg.colonFree⟩
  cases h with
  | groups hgroups => exact hgroup hgroups
  | @dotted _ _ a hgroups =>
    refine List.forall_mem_append.mpr ⟨hgroup hgroups, List.forall_mem_singleton.mpr ?_⟩
    exact ⟨a.chars_ne_nil, a.colon_not_mem_chars⟩

theorem ne_nil (h : GroupsToEnd pieces gs) (hgs : gs ≠ []) : pieces ≠ [] := by
  rintro rfl
  exact hgs (Option.some_inj.mp h.complete).symm

end GroupsToEnd

/-! ## The gap -/

/-- What stands in front of a gap, put behind some more text. -/
def behind (front : List Char) : Option (List Char × List Char) → Option (List Char × List Char) :=
  Option.map fun (left, right) => (front ++ left, right)

theorem behind_nil (split : Option (List Char × List Char)) : behind [] split = split := by
  cases split <;> rfl

theorem behind_behind (front front' : List Char) (split : Option (List Char × List Char)) :
    behind front (behind front' split) = behind (front ++ front') split := by
  cases split with
  | none => rfl
  | some sides => simp [behind]

theorem splitGap_append {front : List Char} (h : ':' ∉ front) (rest : List Char) :
    splitGap (front ++ rest) = behind front (splitGap rest) := by
  induction front with
  | nil => exact (behind_nil _).symm
  | cons c front ih =>
    obtain ⟨hc, hfront⟩ := not_or.mp (mt List.mem_cons.mpr h)
    rw [List.cons_append, splitGap, ih hfront]
    · cases splitGap rest <;> rfl
    · intro _ hcolon _
      exact hc hcolon.symm

theorem splitGap_colon_cons {c : Char} (h : c ≠ ':') (rest : List Char) :
    splitGap (':' :: c :: rest) = behind [':'] (splitGap (c :: rest)) := by
  rw [splitGap]
  · cases splitGap (c :: rest) <;> rfl
  · intro _ _ hcolon
    exact h (List.cons.inj hcolon).1

/-- **No gap comes about between pieces:** the first one stands behind them. -/
theorem splitGap_intercalate_append {pieces : List (List Char)}
    (h : ∀ piece ∈ pieces, piece ≠ [] ∧ ':' ∉ piece) (rest : List Char) :
    splitGap ([':'].intercalate pieces ++ rest) =
      behind ([':'].intercalate pieces) (splitGap rest) := by
  induction pieces with
  | nil => exact (behind_nil _).symm
  | cons piece pieces ih =>
    obtain ⟨⟨-, hpiece⟩, hrest⟩ := List.forall_mem_cons.mp h
    cases pieces with
    | nil =>
      rw [List.intercalate_singleton]
      exact splitGap_append hpiece rest
    | cons next pieces =>
      obtain ⟨⟨hne, hnext⟩, -⟩ := List.forall_mem_cons.mp hrest
      obtain ⟨c, next, rfl⟩ := List.exists_cons_of_ne_nil hne
      have hc : c ≠ ':' := fun heq => hnext (heq ▸ List.mem_cons_self)
      have ih := ih hrest
      rw [List.intercalate_cons_cons_left, List.cons_append] at ih
      rw [List.intercalate_cons_cons, List.intercalate_cons_cons_left, List.append_assoc,
        List.append_assoc, splitGap_append hpiece, List.singleton_append, List.cons_append,
        splitGap_colon_cons hc, ih, behind_behind, behind_behind]

theorem splitGap_sound {text left right : List Char} (h : splitGap text = some (left, right)) :
    text = left ++ [':', ':'] ++ right := by
  fun_induction splitGap text generalizing left right with
  | case1 rest =>
    cases h
    rfl
  | case2 c rest _ ih =>
    obtain ⟨⟨front, right'⟩, hrest, heq⟩ := Option.map_eq_some_iff.mp h
    cases heq
    rw [ih hrest]
    rfl
  | case3 => cases h

/-! ## Whole addresses -/

/-- **Which address a text denotes.** The text has all eight groups, or a gap in place of one zero
group or more. What stands behind the gap, or in a text without one all of it, may end in an IPv4
address. -/
inductive Denotes (text : List Char) (a : IPv6) : Prop where
  | full {pieces : List (List Char)} : GroupsToEnd pieces a.groups →
    text = [':'].intercalate pieces → Denotes text a
  | gap {left right : List (List Char)} {before after : List UInt16} {zeros : Nat} :
    List.Forall₂ IsGroup left before → GroupsToEnd right after → 0 < zeros →
    a.groups = before ++ List.replicate zeros 0 ++ after →
    text = [':'].intercalate left ++ [':', ':'] ++ [':'].intercalate right → Denotes text a

theorem groups_ne_nil (a : IPv6) : a.groups ≠ [] := by
  intro h
  simpa [h] using a.length_groups

theorem groups_of_ofGroups? {groups : List UInt16} {a : IPv6} (h : ofGroups? groups = some a) :
    groups = a.groups := by
  unfold ofGroups? at h
  split at h
  · cases h
    rfl
  · cases h

theorem intercalate_pieces (side : List Char) : [':'].intercalate (pieces side) = side := by
  unfold pieces
  split
  · next hnil => rw [hnil, List.intercalate_nil]
  · exact List.intercalate_splitOn ':'

theorem pieces_intercalate {parts : List (List Char)}
    (h : ∀ piece ∈ parts, piece ≠ [] ∧ ':' ∉ piece) : pieces ([':'].intercalate parts) = parts := by
  unfold pieces
  cases parts with
  | nil => rfl
  | cons piece parts =>
    obtain ⟨c, piece, rfl⟩ := List.exists_cons_of_ne_nil (h piece List.mem_cons_self).1
    rw [if_neg (by simp [List.intercalate_cons_cons_left]),
      List.splitOn_intercalate ':' (fun piece hpiece => (h piece hpiece).2) (List.cons_ne_nil _ _)]

/-- The pieces of an address without a gap are those that write its groups. -/
theorem GroupsToEnd.pieces_of_address {text : List Char} {a : IPv6} {pieces : List (List Char)}
    (h : GroupsToEnd pieces a.groups) (htext : text = [':'].intercalate pieces) :
    Separated.Pieces ':' text pieces where
  ne_nil := h.ne_nil a.groups_ne_nil
  free piece hpiece := (h.piece piece hpiece).2
  text_eq := htext

theorem Denotes.sound {text : List Char} {a : IPv6} (h : ofChars? text = some a) :
    Denotes text a := by
  unfold ofChars? at h
  split at h
  · obtain ⟨groups, hgroups, ha⟩ := Option.bind_eq_some_iff.mp h
    rw [groups_of_ofGroups? ha] at hgroups
    exact .full (.sound hgroups) (List.intercalate_splitOn ':').symm
  · next left right hsplit =>
    obtain ⟨before, hbefore, h⟩ := Option.bind_eq_some_iff.mp h
    obtain ⟨after, hafter, h⟩ := Option.bind_eq_some_iff.mp h
    dsimp only at h
    split at h
    · next hroom =>
      have hleft := (mapM_eq_some_iff.mp hbefore).imp fun _ _ => group?_eq_some_iff.mp
      refine .gap hleft (.sound hafter) (Nat.sub_pos_of_lt hroom) (groups_of_ofGroups? h).symm ?_
      rw [intercalate_pieces, intercalate_pieces]
      exact splitGap_sound hsplit
    · cases h

theorem Denotes.complete {text : List Char} {a : IPv6} (h : Denotes text a) :
    ofChars? text = some a := by
  cases h with
  | @full pieces hpieces htext =>
    have hsplit : splitGap text = none := by
      have happend := splitGap_intercalate_append hpieces.piece []
      rwa [List.append_nil, ← htext] at happend
    unfold ofChars?
    rw [hsplit]
    dsimp only
    rw [Separated.splitOn_eq_iff.mpr (hpieces.pieces_of_address htext), hpieces.complete]
    exact ofGroups?_groups a
  | @gap left right before after zeros hleft hright hzeros hgroups htext =>
    have hlength : before.length + zeros + after.length = 8 := by
      simpa [hgroups, Nat.add_assoc] using a.length_groups
    have hleftPieces := (GroupsToEnd.groups hleft).piece
    have hsplit : splitGap text =
        some ([':'].intercalate left, [':'].intercalate right) := by
      rw [htext, List.append_assoc, splitGap_intercalate_append hleftPieces]
      simp [splitGap, behind]
    have hbefore : (pieces ([':'].intercalate left)).mapM group? = some before := by
      rw [pieces_intercalate hleftPieces, mapM_eq_some_iff]
      exact hleft.imp fun _ _ => group?_eq_some_iff.mpr
    have hafter : groupsToEnd? (pieces ([':'].intercalate right)) = some after := by
      rw [pieces_intercalate hright.piece]
      exact hright.complete
    -- the gap stands for as many groups as the two sides leave out
    have hroom : before.length + after.length < 8 := by omega
    have hrun : 8 - (before.length + after.length) = zeros := by omega
    unfold ofChars?
    rw [hsplit]
    dsimp only
    rw [hbefore, hafter]
    show (if before.length + after.length < 8 then
      ofGroups? (before ++ List.replicate (8 - (before.length + after.length)) 0 ++ after)
      else none) = some a
    rw [if_pos hroom, hrun, ← hgroups]
    exact ofGroups?_groups a

/-- **A text is read as the address that it denotes,** and no other text is read. -/
theorem ofChars?_eq_some_iff {text : List Char} {a : IPv6} :
    ofChars? text = some a ↔ Denotes text a := ⟨.sound, Denotes.complete⟩

theorem ofText?_eq_some_iff {text : String} {a : IPv6} :
    ofText? text = some a ↔ Denotes text.toList a := ofChars?_eq_some_iff

theorem Denotes.unique {text : List Char} {a b : IPv6} (h : Denotes text a) (h' : Denotes text b) :
    a = b := by
  have hread := h.complete
  rw [h'.complete, Option.some_inj] at hread
  exact hread.symm

end IPv6

end HostAddresses
