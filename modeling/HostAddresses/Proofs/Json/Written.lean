import HostAddresses.Proofs.Json.Completeness

/-!
# What is written is read back

Every document is written as JSON that says this document, in both layouts, whatever characters its
strings have. So the strict reader gives it back (`read?_toText`), and documents with one text are
one document (`toText_inj`).

The layouts differ only in the whitespace of the marks: a line break goes with the brace or the
comma in front of it, or with the brace behind it.
-/

namespace HostAddresses.Json

/-! ## What a document says -/

mutual

/-- What a document says. -/
def value : Json → Value
  | .string s => .string s
  | .object members => .object (values members)

def values : List (String × Json) → List (String × Value)
  | [] => []
  | (name, document) :: members => (name, document.value) :: values members

end

theorem values_eq_map (members : List (String × Json)) :
    values members = members.map fun (name, document) => (name, document.value) := by
  induction members with
  | nil => rfl
  | cons m members ih => exact congrArg _ ih

mutual

/-- Documents that say the same are the same. -/
theorem value_inj {document document' : Json} (h : document.value = document'.value) :
    document = document' := by
  cases document with
  | string s =>
    cases document' with
    | string s' => exact congrArg Json.string (Value.string.inj h)
    | object members' => cases h
  | object members =>
    cases document' with
    | string s' => cases h
    | object members' => exact congrArg Json.object (values_inj (Value.object.inj h))

theorem values_inj {members members' : List (String × Json)}
    (h : values members = values members') : members = members' := by
  cases members with
  | nil =>
    cases members' with
    | nil => rfl
    | cons m' members' => cases h
  | cons m members =>
    cases members' with
    | nil => cases h
    | cons m' members' =>
      obtain ⟨hfirst, hmore⟩ := List.cons.inj h
      obtain ⟨hname, hvalue⟩ := Prod.mk.inj hfirst
      exact congrArg₂ List.cons (Prod.ext hname (value_inj hvalue)) (values_inj hmore)

end

/-! ## Strings -/

theorem codeUnit_padded {n : Nat} (h : n < 0x20) : CodeUnit (Numeral.padded 16 4 n) n := by
  refine ⟨?_, Numeral.natural?_padded (by decide) (by decide) 4 n⟩
  have hlen : (Numeral.digits 16 n).length ≤ 4 := by
    revert n
    decide
  rw [Numeral.padded, List.length_leftpad]
  exact Nat.max_eq_left hlen

theorem spells_control {c : Char} (h : c.toNat < 0x20) :
    Spells (['\\', 'u'] ++ Numeral.padded 16 4 c.toNat) c := by
  -- no control character is half of a surrogate pair
  have hhigh : isHigh c.toNat = false := by
    rw [isHigh, decide_eq_false_iff_not]
    omega
  have hlow : isLow c.toNat = false := by
    rw [isLow, decide_eq_false_iff_not]
    omega
  have hcode := Spells.code (codeUnit_padded h) hhigh hlow
  rwa [Char.ofNat_toNat] at hcode

/-- **Every character is spelled.** -/
theorem spells_escape (c : Char) : Spells (escape c) c := by
  unfold escape
  split
  · exact .letter (by decide)
  · exact .letter (by decide)
  · exact .letter (by decide)
  · exact .letter (by decide)
  · exact .letter (by decide)
  · exact .letter (by decide)
  · exact .letter (by decide)
  · next hquote hslash _ _ _ _ _ =>
    split
    · next hcontrol => exact spells_control hcontrol
    · next hplain => exact .plain (Nat.le_of_not_lt hplain) hquote hslash

theorem spellsAll_escape (cs : List Char) : SpellsAll (cs.flatMap escape) cs := by
  induction cs with
  | nil => exact .nil
  | cons c cs ih =>
    rw [List.flatMap_cons]
    exact .cons (spells_escape c) ih

theorem isString_quote (s : String) : IsString (quote s) s := by
  have h := IsString.quoted (spellsAll_escape s.toList)
  rwa [String.ofList_toList] at h

/-! ## Marks -/

theorem space_lineBreak (layout : Layout) (depth : Nat) : Space (lineBreak layout depth) := by
  cases layout with
  | compact => exact List.forall_mem_nil _
  | indented =>
    intro c hc
    obtain rfl | hc := List.mem_cons.mp hc
    · rfl
    · rw [List.eq_of_mem_replicate hc]
      rfl

theorem mark_before (c : Char) {space : List Char} (h : Space space) : Mark c (c :: space) :=
  ⟨[], space, List.forall_mem_nil _, h, rfl⟩

theorem mark_after (c : Char) {space : List Char} (h : Space space) : Mark c (space ++ [c]) :=
  ⟨space, [], h, List.forall_mem_nil _, rfl⟩

theorem mark_colon (layout : Layout) : Mark ':' (colon layout) := by
  cases layout with
  | compact => exact mark_before ':' (List.forall_mem_nil _)
  | indented => exact mark_before ':' (List.forall_mem_singleton.mpr rfl)

/-! ## Documents -/

theorem isMember_write {layout : Layout} {depth : Nat} (name : String) {document : Json}
    (h : Denotes (write layout depth document) document.value) :
    IsMember Denotes (quote name ++ colon layout ++ write layout depth document)
      (name, document.value) :=
  .mk (isString_quote name) (mark_colon layout) h

mutual

/-- **Every document is written as what it says.** -/
theorem denotes_write (layout : Layout) (depth : Nat) (document : Json) :
    Denotes (write layout depth document) document.value := by
  cases document with
  | string s =>
    rw [write, value]
    exact .string (isString_quote s)
  | object members =>
    cases members with
    | nil =>
      rw [write, value]
      exact .object (mark_before '\x7b' (List.forall_mem_nil _)) .nil
        (mark_after '\x7d' (List.forall_mem_nil _))
    | cons m members =>
      obtain ⟨name, document⟩ := m
      have hfirst := isMember_write name (denotes_write layout (depth + 1) document)
      have hmore := more_writeMore layout (depth + 1) members
      have hobject := Denotes.object
        (mark_before '\x7b' (space_lineBreak layout (depth + 1))) (.cons hfirst hmore)
        (mark_after '\x7d' (space_lineBreak layout depth))
      rw [write, value, values]
      simpa using hobject

theorem more_writeMore (layout : Layout) (depth : Nat) (members : List (String × Json)) :
    More (IsMember Denotes) (writeMore layout depth members) (values members) := by
  cases members with
  | nil =>
    rw [writeMore, values]
    exact .nil
  | cons m members =>
    obtain ⟨name, document⟩ := m
    have hmember := isMember_write name (denotes_write layout depth document)
    have hmore := More.cons (mark_before ',' (space_lineBreak layout depth)) hmember
      (more_writeMore layout depth members)
    rw [writeMore, values]
    simpa using hmore

end

/-- **The text of a document is JSON.** -/
theorem toText_is_json (layout : Layout) (document : Json) :
    Says (document.toText layout).toList document.value := by
  refine ⟨[], write layout 0 document, [], List.forall_mem_nil _, denotes_write layout 0 document,
    List.forall_mem_nil _, ?_⟩
  rw [toText, String.toList_ofList]
  simp

/-- **What is written is read back.** -/
theorem read?_toText (layout : Layout) (document : Json) :
    read? (document.toText layout) = some document.value :=
  read?_complete (toText_is_json layout document)

/-- **A text is the text of one document,** whatever the layouts are. -/
theorem toText_inj {layout layout' : Layout} {document document' : Json}
    (h : document.toText layout = document'.toText layout') : document = document' := by
  have hread := read?_toText layout document
  rw [h, read?_toText, Option.some.injEq] at hread
  exact (value_inj hread).symm

end HostAddresses.Json
