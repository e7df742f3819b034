import HostAddresses.Proofs.Numerals
import HostAddresses.Proofs.ReportText

/-!
# Layout is whitespace outside of strings

The two layouts of a document differ in whitespace only. Whitespace may stand in a string too, and
so may braces, colons and quotes, so a text has to be run through from its start to know where a
character of it stands (`Place`). A quote starts a string or ends it, unless a backslash stands
before it. That is how the grammar has it: no spelling of a character ends its string
(`Within.spells`).

`content` leaves out what is whitespace outside of a string, and keeps everything else with its
place. It is the same for both layouts, and the compact layout has nothing to leave out
(`LaidOut.content_eq`). So

* the indented text without its layout is the compact text, character by character (`stripped`);
* the strings have the same characters in both (`inStrings`).
-/

namespace HostAddresses

namespace Json

/-! ## Places -/

/-- Where a character of a text stands. -/
inductive Place where
  /-- Outside of all strings. -/
  | outside
  /-- In a string, or at its end. -/
  | inside
  /-- In a string, behind a backslash. -/
  | escaped
deriving DecidableEq

namespace Place

/-- Where the next character stands. -/
def next : Place → Char → Place
  | .outside, c => if c = '"' then .inside else .outside
  | .inside, c => if c = '"' then .outside else if c = '\\' then .escaped else .inside
  | .escaped, _ => .inside

/-- Where the character behind a text stands. -/
def after (place : Place) (text : List Char) : Place := text.foldl next place

/-- The characters of a text, each with the place where it stands. -/
def mark : Place → List Char → List (Place × Char)
  | _, [] => []
  | place, c :: text => (place, c) :: mark (place.next c) text

@[simp] theorem after_append (place : Place) (text more : List Char) :
    place.after (text ++ more) = (place.after text).after more := List.foldl_append

@[simp] theorem mark_append (place : Place) (text more : List Char) :
    place.mark (text ++ more) = place.mark text ++ (place.after text).mark more := by
  induction text generalizing place with
  | nil => rfl
  | cons c text ih => exact congrArg _ (ih (place.next c))

theorem map_snd_mark (place : Place) (text : List Char) :
    (place.mark text).map Prod.snd = text := by
  induction text generalizing place with
  | nil => rfl
  | cons c text ih => exact congrArg _ (ih (place.next c))

end Place

/-- Whitespace that stands outside of all strings. -/
def isLayout (marked : Place × Char) : Bool := marked.1 = .outside ∧ isSpace marked.2

/-- The characters of a text that are no layout, each with the place where it stands. -/
def content (text : List Char) : List (Place × Char) :=
  (Place.outside.mark text).filter fun marked => !isLayout marked

/-- A text without its layout. -/
def stripped (text : String) : String := String.ofList ((content text.toList).map Prod.snd)

/-- The characters of the strings of a text, with the quote that ends each. -/
def inStrings (text : String) : List (Place × Char) :=
  (Place.outside.mark text.toList).filter fun marked => marked.1 ≠ .outside

/-! ## Strings -/

/-- Text in a string, which does not end it. -/
structure Within (text : List Char) : Prop where
  after_eq : Place.inside.after text = .inside
  marks : ∀ marked ∈ Place.inside.mark text, marked.1 ≠ .outside

namespace Within

variable {text more : List Char}

theorem nil : Within [] where
  after_eq := rfl
  marks := List.forall_mem_nil _

theorem append (h : Within text) (hmore : Within more) : Within (text ++ more) where
  after_eq := by rw [Place.after_append, h.after_eq, hmore.after_eq]
  marks := by
    intro marked hmarked
    rw [Place.mark_append, h.after_eq, List.mem_append] at hmarked
    rcases hmarked with hmarked | hmarked
    · exact h.marks marked hmarked
    · exact hmore.marks marked hmarked

theorem plain {c : Char} (hquote : c ≠ '"') (hslash : c ≠ '\\') : Within [c] where
  after_eq := by
    show Place.inside.next c = .inside
    rw [Place.next, if_neg hquote, if_neg hslash]
  marks := by
    intro marked hmarked
    rw [List.mem_singleton.mp hmarked]
    exact nofun

/-- Behind a backslash any character is in the string, a quote too. -/
theorem letter (c : Char) : Within ['\\', c] where
  after_eq := rfl
  marks := by
    intro marked hmarked
    rcases List.mem_cons.mp hmarked with rfl | hletter
    · exact nofun
    · rw [List.mem_singleton.mp hletter]
      exact nofun

theorem of_forall (h : ∀ c ∈ text, c ≠ '"' ∧ c ≠ '\\') : Within text := by
  induction text with
  | nil => exact nil
  | cons c text ih =>
    obtain ⟨⟨hquote, hslash⟩, hrest⟩ := List.forall_mem_cons.mp h
    exact (plain hquote hslash).append (ih hrest)

theorem codeUnit {n : Nat} (h : CodeUnit text n) : Within text := by
  have hdigits := (Numeral.natural?_eq_some_iff (Nat.le_refl 16)).mp h.2
  refine of_forall fun c hc => ⟨?_, ?_⟩
  · intro heq
    exact hdigits.not_mem (Nat.le_refl 16) rfl (heq ▸ hc)
  · intro heq
    exact hdigits.not_mem (Nat.le_refl 16) rfl (heq ▸ hc)

/-- **No spelling of a character ends its string.** -/
theorem spells {c : Char} (h : Spells text c) : Within text := by
  cases h with
  | plain _ hquote hslash => exact plain hquote hslash
  | letter _ => exact letter _
  | code hdigits _ _ => exact (letter 'u').append (codeUnit hdigits)
  | pair hhigh _ hlow _ =>
    have first := (letter 'u').append (codeUnit hhigh)
    have second := (letter 'u').append (codeUnit hlow)
    exact first.append second

theorem spellsAll {cs : List Char} (h : SpellsAll text cs) : Within text := by
  induction h with
  | nil => exact nil
  | cons hfirst _ ih => exact (spells hfirst).append ih

end Within

/-- Of a string nothing is layout, and behind it the text is outside of all strings. -/
theorem mark_isString {text : List Char} {s : String} (h : IsString text s) :
    Place.outside.after text = .outside ∧
      ∀ marked ∈ Place.outside.mark text, isLayout marked = false := by
  cases h with
  | @quoted text cs hchars =>
    have hwithin := Within.spellsAll hchars
    have hafter : Place.inside.after (text ++ ['"']) = .outside := by
      rw [Place.after_append, hwithin.after_eq]
      rfl
    have hplaces : ∀ marked ∈ Place.inside.mark (text ++ ['"']), marked.1 ≠ .outside := by
      intro marked hmarked
      rw [Place.mark_append, hwithin.after_eq, List.mem_append] at hmarked
      rcases hmarked with hmarked | hmarked
      · exact hwithin.marks marked hmarked
      · rw [List.mem_singleton.mp hmarked]
        exact nofun
    have hrest : ∀ marked ∈ Place.inside.mark (text ++ ['"']), isLayout marked = false :=
      fun marked hmarked => decide_eq_false fun hlayout => hplaces marked hmarked hlayout.1
    -- the opening quote stands outside, but it is no whitespace
    exact ⟨hafter, List.forall_mem_cons.mpr ⟨by decide, hrest⟩⟩

/-! ## Layouts of one text -/

/-- A text is another one with layout added, and that one has none. -/
structure LaidOut (text bare : List Char) : Prop where
  after_text : Place.outside.after text = .outside
  after_bare : Place.outside.after bare = .outside
  content_eq : content text = Place.outside.mark bare

namespace LaidOut

variable {text bare text' bare' : List Char}

theorem append (h : LaidOut text bare) (h' : LaidOut text' bare') :
    LaidOut (text ++ text') (bare ++ bare') where
  after_text := by rw [Place.after_append, h.after_text, h'.after_text]
  after_bare := by rw [Place.after_append, h.after_bare, h'.after_bare]
  content_eq := by
    have hmark : content (text ++ text') = content text ++ content text' := by
      rw [content, Place.mark_append, h.after_text, List.filter_append]
      rfl
    rw [hmark, h.content_eq, h'.content_eq, Place.mark_append, h.after_bare]

theorem space (h : Space text) : LaidOut text [] := by
  induction text with
  | nil => exact ⟨rfl, rfl, rfl⟩
  | cons c text ih =>
    obtain ⟨hc, hrest⟩ := List.forall_mem_cons.mp h
    have hne : c ≠ '"' := by
      intro heq
      exact absurd hc (heq ▸ by decide)
    have hlayout : isLayout (.outside, c) = true := decide_eq_true ⟨rfl, hc⟩
    have hcontent : content [c] = [] := by
      show List.filter _ [(Place.outside, c)] = []
      rw [List.filter_singleton, hlayout]
      rfl
    have hfirst : LaidOut [c] [] := ⟨if_neg hne, rfl, hcontent⟩
    exact hfirst.append (ih hrest)

/-- What has no layout is laid out as it is. -/
theorem refl (hafter : Place.outside.after text = .outside)
    (h : ∀ marked ∈ Place.outside.mark text, isLayout marked = false) : LaidOut text text where
  after_text := hafter
  after_bare := hafter
  content_eq := by
    refine List.filter_eq_self.mpr fun marked hmarked => ?_
    rw [h marked hmarked]
    rfl

theorem char {c : Char} (hnext : Place.outside.next c = .outside) (hspace : isSpace c = false) :
    LaidOut [c] [c] := by
  refine refl hnext (List.forall_mem_singleton.mpr (decide_eq_false ?_))
  intro hlayout
  rw [hspace] at hlayout
  exact Bool.false_ne_true hlayout.2

theorem string (s : String) : LaidOut (quote s) (quote s) := by
  obtain ⟨hafter, hmarks⟩ := mark_isString (isString_quote s)
  exact refl hafter hmarks

theorem lineBreak (layout : Layout) (depth depth' : Nat) :
    LaidOut (lineBreak layout depth) (Json.lineBreak .compact depth') :=
  space (space_lineBreak layout depth)

theorem colon (layout : Layout) : LaidOut (colon layout) (Json.colon .compact) := by
  have hcolon : LaidOut [':'] [':'] := char rfl rfl
  cases layout with
  | compact => exact hcolon
  | indented => exact hcolon.append (space (List.forall_mem_singleton.mpr rfl))

end LaidOut

/-! ## Documents -/

mutual

/-- **Every layout is the compact one with layout added,** however deep the document stands. -/
theorem laidOut_write (layout : Layout) (depth depth' : Nat) (document : Json) :
    LaidOut (write layout depth document) (write .compact depth' document) := by
  have hopening : LaidOut ['\x7b'] ['\x7b'] := .char rfl rfl
  have hclosing : LaidOut ['\x7d'] ['\x7d'] := .char rfl rfl
  cases document with
  | string s =>
    rw [write, write]
    exact .string s
  | object members =>
    cases members with
    | nil =>
      rw [write, write]
      exact hopening.append hclosing
    | cons m members =>
      obtain ⟨name, document⟩ := m
      have hname := (LaidOut.string name).append (.colon layout)
      have hvalue := laidOut_write layout (depth + 1) (depth' + 1) document
      have hmore := laidOut_writeMore layout (depth + 1) (depth' + 1) members
      have hobject := ((((hopening.append (.lineBreak layout (depth + 1) (depth' + 1))).append
        hname).append hvalue).append hmore).append
        ((LaidOut.lineBreak layout depth depth').append hclosing)
      rw [write, write]
      simpa using hobject

theorem laidOut_writeMore (layout : Layout) (depth depth' : Nat) (members : List (String × Json)) :
    LaidOut (writeMore layout depth members) (writeMore .compact depth' members) := by
  cases members with
  | nil =>
    rw [writeMore, writeMore]
    exact .space (List.forall_mem_nil _)
  | cons m members =>
    obtain ⟨name, document⟩ := m
    have hcomma : LaidOut [','] [','] := .char rfl rfl
    have hname := (LaidOut.string name).append (.colon layout)
    have hvalue := laidOut_write layout depth depth' document
    have hmore := laidOut_writeMore layout depth depth' members
    have hmembers := (((hcomma.append (.lineBreak layout depth depth')).append hname).append
      hvalue).append hmore
    rw [writeMore, writeMore]
    simpa using hmembers

end

theorem content_toText (layout : Layout) (document : Json) :
    content (document.toText layout).toList =
      Place.outside.mark (document.toText .compact).toList := by
  rw [toText, toText, String.toList_ofList, String.toList_ofList]
  exact (laidOut_write layout 0 0 document).content_eq

/-- **Without its layout a text is the compact text.** -/
theorem stripped_toText (layout : Layout) (document : Json) :
    stripped (document.toText layout) = document.toText .compact := by
  rw [stripped, content_toText, Place.map_snd_mark, String.ofList_toList]

/-- Spaces and marks in a string stay, behind a quote too that does not end it. -/
example : stripped "\x7b\n  \"a \\\" : \": \"\x7d\"\n\x7d" = "\x7b\"a \\\" : \":\"\x7d\"\x7d" := by
  decide

/-- Layout is in no string. -/
theorem inStrings_eq (text : String) :
    inStrings text = (content text.toList).filter fun marked => marked.1 ≠ .outside := by
  rw [content, List.filter_filter, inStrings]
  refine List.filter_congr fun marked _ => ?_
  rw [isLayout]
  by_cases hplace : marked.1 = .outside
  · simp [hplace]
  · simp [hplace]

/-- **The strings of a text do not depend on its layout.** -/
theorem inStrings_toText (layout : Layout) (document : Json) :
    inStrings (document.toText layout) = inStrings (document.toText .compact) := by
  rw [inStrings_eq, content_toText, inStrings]

end Json

/-! ## Reports -/

/-- **A report is laid out without a change to what it says.** Without its layout its text is the
compact text; the strings in it are those of the compact text, character by character; and what is
read in it does not depend on the layout. -/
theorem Report.toText_laidOut (report : Report) (layout : Json.Layout) :
    Json.stripped (report.toText layout) = report.toText .compact ∧
      Json.inStrings (report.toText layout) = Json.inStrings (report.toText .compact) ∧
      Json.read? (report.toText layout) = some report.said := by
  refine ⟨Json.stripped_toText layout report.toJson, Json.inStrings_toText layout report.toJson, ?_⟩
  rw [toText, Json.read?_toText, value_toJson]

end HostAddresses
