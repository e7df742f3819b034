import HostAddresses.Proofs.Collecting
import HostAddresses.Proofs.Delivery
import HostAddresses.Proofs.Json.Written
import HostAddresses.Proofs.Numerals

/-!
# Lines

Names and addresses may hold any character, a newline too, and a report is read line by line all the
same. No character of a string is spelled with a control character (`Json.Spells.printed`), and
between the strings there is none but the newlines of the layout. So

* the compact text of a document is one line, and what a sink takes of a report is this line and the
  newline behind it;
* the indented text has a newline for each break of the layout (`Json.breaks`): five for an
  interface, and one in front of the last brace.
-/

namespace HostAddresses

namespace Numeral

theorem IsDigit.printed {c : Char} {d : Nat} (h : IsDigit 16 c d) : 0x20 ≤ c.toNat := by
  have hdigits : ∀ d < 16,
      0x20 ≤ (Nat.digitChar d).toNat ∧ 0x20 ≤ (Nat.digitChar d).toUpper.toNat := by decide
  obtain ⟨hlt, rfl | rfl⟩ := h
  · exact (hdigits d hlt).1
  · exact (hdigits d hlt).2

end Numeral

namespace Json

/-! ## Strings -/

/-- Text without control characters. -/
def Printed (text : List Char) : Prop := ∀ c ∈ text, 0x20 ≤ c.toNat

instance (text : List Char) : Decidable (Printed text) :=
  List.decidableBAll (fun c : Char => 0x20 ≤ c.toNat) text

theorem Printed.append {text more : List Char} (h : Printed text) (hmore : Printed more) :
    Printed (text ++ more) := List.forall_mem_append.mpr ⟨h, hmore⟩

theorem printed_letter {l c : Char} (h : (l, c) ∈ letters) : Printed ['\\', l] := by
  have hletters : ∀ entry ∈ letters, 0x20 ≤ entry.1.toNat := by decide
  exact List.forall_mem_cons.mpr ⟨by decide, List.forall_mem_singleton.mpr (hletters _ h)⟩

theorem CodeUnit.printed {digits : List Char} {n : Nat} (h : CodeUnit digits n) :
    Printed ('\\' :: 'u' :: digits) := by
  obtain ⟨ds, hds, -⟩ := ((Numeral.natural?_eq_some_iff (Nat.le_refl 16)).mp h.2).places
  have hdigits : Printed digits := by
    intro c hc
    obtain ⟨d, -, hd⟩ := exists_of_mem_forall₂ hds hc
    exact hd.printed
  have hmark : Printed ['\\', 'u'] := by decide
  exact hmark.append hdigits

/-- **No character is spelled with a control character,** not even one of these. -/
theorem Spells.printed {text : List Char} {c : Char} (h : Spells text c) : Printed text := by
  cases h with
  | plain hprinted _ _ => exact List.forall_mem_singleton.mpr hprinted
  | letter hletter => exact printed_letter hletter
  | code hdigits _ _ => exact hdigits.printed
  | pair hhigh _ hlow _ => exact hhigh.printed.append hlow.printed

theorem SpellsAll.printed {text cs : List Char} (h : SpellsAll text cs) : Printed text := by
  induction h with
  | nil => exact List.forall_mem_nil _
  | cons hfirst _ ih => exact hfirst.printed.append ih

theorem IsString.printed {text : List Char} {s : String} (h : IsString text s) : Printed text := by
  cases h with
  | quoted hchars =>
    have hquote : Printed ['"'] := by decide
    exact (hquote.append hchars.printed).append hquote

/-! ## Breaks -/

/-- Text whose control characters are newlines, as many as told. -/
structure Breaks (text : List Char) (count : Nat) : Prop where
  controls : ∀ c ∈ text, c = '\n' ∨ 0x20 ≤ c.toNat
  count_eq : text.count '\n' = count

namespace Breaks

variable {text more : List Char} {count count' : Nat}

theorem append (h : Breaks text count) (hmore : Breaks more count') :
    Breaks (text ++ more) (count + count') where
  controls := List.forall_mem_append.mpr ⟨h.controls, hmore.controls⟩
  count_eq := by rw [List.count_append, h.count_eq, hmore.count_eq]

theorem of_printed (h : Printed text) : Breaks text 0 where
  controls c hc := .inr (h c hc)
  count_eq := by
    refine List.count_eq_zero_of_not_mem fun hnewline => ?_
    exact absurd (h '\n' hnewline) (by decide)

/-- Without newlines there are no control characters. -/
theorem printed (h : Breaks text 0) : Printed text := by
  intro c hc
  rcases h.controls c hc with rfl | hprinted
  · exact absurd hc (List.count_eq_zero.mp h.count_eq)
  · exact hprinted

theorem string (s : String) : Breaks (quote s) 0 := of_printed (isString_quote s).printed

end Breaks

/-- How many newlines a break of the layout is. -/
def Layout.newlines : Layout → Nat
  | .compact => 0
  | .indented => 1

theorem breaks_lineBreak (layout : Layout) (depth : Nat) :
    Breaks (lineBreak layout depth) layout.newlines := by
  cases layout with
  | compact => exact .of_printed (List.forall_mem_nil _)
  | indented =>
    have hspaces : Printed (List.replicate (2 * depth) ' ') := by
      intro c hc
      rw [List.eq_of_mem_replicate hc]
      decide
    have hnewline : Breaks ['\n'] 1 := ⟨List.forall_mem_singleton.mpr (.inl rfl), rfl⟩
    exact hnewline.append (.of_printed hspaces)

theorem breaks_colon (layout : Layout) : Breaks (colon layout) 0 := by
  refine .of_printed ?_
  cases layout <;> decide

/-! ## Documents -/

mutual

/-- How many breaks the layout of a document has: one in front of each member, and one behind the
last. -/
def breaks : Json → Nat
  | .string _ => 0
  | .object [] => 0
  | .object ((_, value) :: members) => breaks value + breaksMore members + 2

/-- How many breaks members after the first have. -/
def breaksMore : List (String × Json) → Nat
  | [] => 0
  | (_, value) :: members => breaks value + breaksMore members + 1

end

mutual

/-- **The text of a document has the newlines of its breaks,** and no other control character. -/
theorem breaks_write (layout : Layout) (depth : Nat) (document : Json) :
    Breaks (write layout depth document) (layout.newlines * document.breaks) := by
  have hopening : Breaks ['\x7b'] 0 := .of_printed (by decide)
  have hclosing : Breaks ['\x7d'] 0 := .of_printed (by decide)
  cases document with
  | string s =>
    rw [write, breaks, Nat.mul_zero]
    exact .string s
  | object members =>
    cases members with
    | nil =>
      rw [write, breaks, Nat.mul_zero]
      exact hopening.append hclosing
    | cons m members =>
      obtain ⟨name, document⟩ := m
      have hname := (Breaks.string name).append (breaks_colon layout)
      have hvalue := breaks_write layout (depth + 1) document
      have hmore := breaks_writeMore layout (depth + 1) members
      have hobject := ((((hopening.append (breaks_lineBreak layout (depth + 1))).append
        hname).append hvalue).append hmore).append
        ((breaks_lineBreak layout depth).append hclosing)
      rw [write, breaks, Nat.mul_add, Nat.mul_add]
      convert hobject using 1
      · simp
      · ring

theorem breaks_writeMore (layout : Layout) (depth : Nat) (members : List (String × Json)) :
    Breaks (writeMore layout depth members) (layout.newlines * breaksMore members) := by
  cases members with
  | nil =>
    rw [writeMore, breaksMore, Nat.mul_zero]
    exact .of_printed (List.forall_mem_nil _)
  | cons m members =>
    obtain ⟨name, document⟩ := m
    have hcomma : Breaks [','] 0 := .of_printed (by decide)
    have hname := (Breaks.string name).append (breaks_colon layout)
    have hvalue := breaks_write layout depth document
    have hmore := breaks_writeMore layout depth members
    have hmembers := (((hcomma.append (breaks_lineBreak layout depth)).append hname).append
      hvalue).append hmore
    rw [writeMore, breaksMore, Nat.mul_add, Nat.mul_add]
    convert hmembers using 1
    · simp
    · ring

end

theorem breaks_toText (layout : Layout) (document : Json) :
    Breaks (document.toText layout).toList (layout.newlines * document.breaks) := by
  rw [toText, String.toList_ofList]
  exact breaks_write layout 0 document

/-- **The compact text of a document is one line,** whatever its strings have in them. -/
theorem printed_toText (document : Json) : Printed (document.toText .compact).toList := by
  have h := breaks_toText .compact document
  rw [Layout.newlines, Nat.zero_mul] at h
  exact h.printed

end Json

/-! ## Bytes -/

namespace Utf8

theorem printed_ofNat {n : Nat} (h : 0x20 ≤ n) (h256 : n < 256) : 0x20 ≤ (UInt8.ofNat n).toNat := by
  rwa [toNat_ofNat h256]

/-- A control character is none of the bytes of another character. -/
theorem printed_encoded {c : Char} (h : 0x20 ≤ c.toNat) :
    ∀ b ∈ String.utf8EncodeChar c, 0x20 ≤ b.toNat := by
  change 0x20 ≤ c.val.toNat at h
  unfold String.utf8EncodeChar
  generalize c.val.toNat = n at h
  simp only
  split
  · exact List.forall_mem_singleton.mpr (printed_ofNat h (by omega))
  split
  · simp only [List.forall_mem_cons]
    exact ⟨printed_ofNat (by omega) (by omega), printed_ofNat (by omega) (by omega), nofun⟩
  split
  · simp only [List.forall_mem_cons]
    exact ⟨printed_ofNat (by omega) (by omega), printed_ofNat (by omega) (by omega),
      printed_ofNat (by omega) (by omega), nofun⟩
  · simp only [List.forall_mem_cons]
    exact ⟨printed_ofNat (by omega) (by omega), printed_ofNat (by omega) (by omega),
      printed_ofNat (by omega) (by omega), printed_ofNat (by omega) (by omega), nofun⟩

theorem printed_bytes {text : String} (h : Json.Printed text.toList) :
    ∀ b ∈ bytes text, 0x20 ≤ b.toNat := by
  intro b hb
  obtain ⟨c, hc, hbyte⟩ := List.mem_flatMap.mp hb
  exact printed_encoded (h c hc) b hbyte

end Utf8

/-! ## Reports -/

theorem Summary.breaks_toJson (s : Summary) : s.toJson.breaks = 4 := rfl

namespace Report

/-- A member has five breaks: one of its own, and the four of its summary. -/
theorem breaksMore_members (entries : List (String × Summary)) :
    Json.breaksMore (entries.map fun (name, s) => (name, s.toJson)) = 5 * entries.length := by
  induction entries with
  | nil => rfl
  | cons entry entries ih =>
    rw [List.map_cons, Json.breaksMore, ih, Summary.breaks_toJson, List.length_cons]
    omega

theorem breaks_toJson {report : Report} (h : 0 < NameMap.size report) :
    report.toJson.breaks = 5 * NameMap.size report + 1 := by
  obtain ⟨entries⟩ := report
  cases entries with
  | nil => exact absurd h (Nat.lt_irrefl 0)
  | cons entry entries =>
    have hsize : NameMap.size ⟨entry :: entries⟩ = entries.length + 1 := List.length_cons
    rw [toJson, List.map_cons, Json.breaks, breaksMore_members, Summary.breaks_toJson, hsize]
    omega

theorem toJson_of_size_eq_zero {report : Report} (h : NameMap.size report = 0) :
    report.toJson = .object [] := by
  rw [toJson, List.length_eq_zero_iff.mp h, List.map_nil]

/-- **How many lines the text of a report has.** -/
structure Lines (report : Report) : Prop where
  compact : Json.Printed (report.toText .compact).toList
  /-- No control character of the indented text is anything but a newline. -/
  indented : ∀ c ∈ (report.toText .indented).toList, c = '\n' ∨ 0x20 ≤ c.toNat
  count : 0 < NameMap.size report →
    (report.toText .indented).toList.count '\n' = 5 * NameMap.size report + 1
  empty : NameMap.size report = 0 → report.toText .indented = "\x7b\x7d"

theorem lines (report : Report) : report.Lines where
  compact := Json.printed_toText report.toJson
  indented := (Json.breaks_toText .indented report.toJson).controls
  count h := by
    rw [toText, (Json.breaks_toText .indented report.toJson).count_eq, breaks_toJson h]
    exact Nat.one_mul _
  empty h := by
    rw [toText, toJson_of_size_eq_zero h]
    rfl

/-- Bytes are the compact text of a report and the only newline behind it. -/
structure OneLine (report : Report) (taken : List UInt8) : Prop where
  taken_eq : taken = Utf8.bytes (report.toText .compact) ++ [0x0a]
  printed : ∀ b ∈ Utf8.bytes (report.toText .compact), 0x20 ≤ b.toNat
  count : taken.count 0x0a = 1

theorem oneLine (report : Report) :
    report.OneLine (Utf8.bytes (report.toText .compact) ++ [0x0a]) where
  taken_eq := rfl
  printed := Utf8.printed_bytes report.lines.compact
  count := by
    have hnewline : (0x0a : UInt8) ∉ Utf8.bytes (report.toText .compact) := by
      intro hmem
      exact absurd (Utf8.printed_bytes report.lines.compact _ hmem) (by decide)
    rw [List.count_append, List.count_eq_zero_of_not_mem hnewline, List.count_singleton_self]

/-- **A report is one line.** The text of any report has only the newlines of its layout, whatever
its strings are. A delivery that does not fail has left the compact text of the report as one line
with the sink, however the sink takes its bytes. -/
theorem delivered_lines :
    (∀ report : Report, report.Lines) ∧
      ∀ (listing : Traced Table) (sink : Output.Sink),
        (Output.Delivery.deliver sink (textOfListing .compact listing).outcome).error = none →
          ∃ report, (ofListing listing).outcome = .ok report ∧
            report.OneLine
              (Output.Delivery.deliver sink (textOfListing .compact listing).outcome).taken := by
  refine ⟨lines, fun listing sink hdelivered => ?_⟩
  obtain ⟨text, htext, htaken⟩ := Output.Delivery.taken_of_error_none hdelivered
  rw [htaken]
  rw [outcome_textOfListing] at htext
  cases hreport : (ofListing listing).outcome with
  | error e =>
    rw [hreport] at htext
    cases htext
  | ok report =>
    rw [hreport] at htext
    cases htext
    exact ⟨report, rfl, report.oneLine⟩

/-- A name with a newline in it starts no line. -/
example : toText .compact ⟨[("a\nb", .empty "a\nb")]⟩ =
    "\x7b\"a\\nb\":\x7b\"ipv4\":\"\",\"ipv6\":\"\",\"mac\":\"\"\x7d\x7d" := rfl

end Report

end HostAddresses
