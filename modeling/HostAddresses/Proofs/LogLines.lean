import HostAddresses.Proofs.Pieces
import HostAddresses.Proofs.RunLog

/-!
# The lines of a log

Each event is one line of the log, and the line starts with the mark of the event's level
(`Log.Starts`), so a log can be searched line by line. Names and addresses are worded as they are,
so this asks that there is no newline in them (`Interface.Plain`). Netmasks may be any text. They
are quoted, and so is what a summary says of an address and its netmask, so no event is broken by
them (`Report.Logs.plain`).

What is written for an event is then one line (`Log.IsLine.front`), and lines that each have an end
are split apart at these ends (`Separated.splitOn_ended`).
-/

namespace HostAddresses

/-! ## Texts of one line -/

/-- A text without a newline. -/
def Unbroken (text : String) : Prop := '\n' ∉ text.toList

instance (text : String) : Decidable (Unbroken text) := inferInstanceAs (Decidable (¬ _))

namespace Unbroken

theorem append {text more : String} (h : Unbroken text) (hmore : Unbroken more) :
    Unbroken (text ++ more) := by
  rw [Unbroken, String.toList_append, List.mem_append, not_or]
  exact ⟨h, hmore⟩

theorem nat (n : Nat) : Unbroken (toString n) := by
  have hchars : (toString n).toList = Numeral.digits 10 n := String.toList_ofList
  rw [Unbroken, hchars]
  exact Numeral.not_mem_digits (by decide) (by decide) n

theorem int (n : Int) : Unbroken (toString n) := by
  cases n with
  | ofNat n => exact nat n
  | negSucc n =>
    have hminus : Unbroken "-" := by decide
    exact hminus.append (nat (n + 1))

theorem quoted (text : String) : Unbroken (Quoted.ofString text) :=
  Quoted.newline_not_mem_ofString text

theorem quotedOption (text : Option String) : Unbroken (Quoted.ofOption text) := by
  cases text with
  | none => decide
  | some text =>
    have hopening : Unbroken "Some(" := by decide
    exact (hopening.append (quoted text)).append (by decide)

theorem familyName (family : Family) : Unbroken family.name := by
  cases family with
  | other number =>
    have hword : Unbroken "family " := by decide
    exact hword.append (int number)
  | _ => decide

end Unbroken

/-! ## Events of one line -/

/-- There is no newline in the name and the addresses of an interface. Netmasks may be any text. -/
structure Interface.Plain (i : Interface) : Prop where
  name : Unbroken i.name
  addresses : ∀ r ∈ i.records, Unbroken r.address

/-- There is no newline in what an event says without quoting it. -/
def Event.Plain : Event → Prop
  | .listed source _ => Unbroken source
  | .record interface r => Unbroken interface ∧ Unbroken r.address
  | .ignored interface _ | .replaced interface => Unbroken interface
  | .summarized s => Unbroken s.name
  | .failed description => Unbroken description
  | .enumerated _ | .collected _ => True

/-- **What such an event says is one line,** for everything else is quoted. -/
theorem Event.Plain.unbroken_message {e : Event} (h : e.Plain) : Unbroken e.message := by
  cases e with
  | listed source count =>
    have hsource : Unbroken source := h
    exact ((hsource.append (by decide)).append (.nat count)).append (by decide)
  | enumerated count =>
    have hword : Unbroken "Enumerated " := by decide
    exact (hword.append (.nat count)).append (by decide)
  | record interface r =>
    obtain ⟨hname, haddress⟩ := h
    have hcolon : Unbroken ": " := by decide
    have hspace : Unbroken " " := by decide
    have hfamily := (hname.append hcolon).append (.familyName r.family)
    have hrecord := (hfamily.append hspace).append haddress
    exact (hrecord.append (by decide)).append (.quotedOption r.netmask)
  | ignored interface family =>
    have hname : Unbroken interface := h
    exact ((hname.append (by decide)).append (.familyName family)).append (by decide)
  | summarized s =>
    have hname : Unbroken s.name := h
    have hfirst : Unbroken ": ipv4=" := by decide
    have hsecond : Unbroken " ipv6=" := by decide
    have hthird : Unbroken "mac=" := by decide
    have hipv4 := (hname.append hfirst).append (.quoted s.ipv4)
    have hipv6 := (hipv4.append hsecond).append (.quoted s.ipv6)
    exact (hipv6.append (by decide)).append (hthird.append (.quoted s.mac))
  | replaced interface =>
    have hname : Unbroken interface := h
    have hword : Unbroken "Interface " := by decide
    exact (hword.append hname).append (by decide)
  | collected count =>
    have hword : Unbroken "Collected addresses for " := by decide
    exact (hword.append (.nat count)).append (by decide)
  | failed description => exact h

/-! ## The events of plain interfaces -/

theorem Interface.Plain.event {i : Interface} {x : Log.Entry} (h : i.Plain) (hx : i.Has x) :
    x.event.Plain := by
  cases hx with
  | record hr => exact ⟨h.name, h.addresses _ hr⟩
  | ignored _ => exact h.name
  | summarized hs =>
    show Unbroken _
    rw [Interface.name_of_summary hs]
    exact h.name
  | replaced => exact h.name

/-- **A run on plain interfaces has plain events,** also if it stops at a netmask. -/
theorem Report.Logs.plain {source : Option String} {listed : Except ReportFailure Table}
    {entries : List Log.Entry} (h : Logs source listed entries)
    (hsource : ∀ name, source = some name → Unbroken name)
    (hlisted : ∀ t, listed = .ok t → ∀ i ∈ t, i.Plain) : ∀ x ∈ entries, x.event.Plain := by
  intro x hx
  obtain ⟨t, hlist, hopening | ⟨i, hi, hhas⟩ | rfl⟩ := h.mem hx
  · rcases Table.mem_opening hopening with ⟨name, hname, rfl⟩ | rfl
    · exact hsource name hname
    · trivial
  · exact (hlisted t hlist i hi).event hhas
  · trivial

/-! ## Lines -/

namespace Log

theorem unbroken_mark (style : Style) (level : Level) : Unbroken (level.mark style) := by
  cases style <;> cases level <;> decide

theorem newline_not_mem_escape {c : Char} (h : c ≠ '\n') : '\n' ∉ escape c := by
  have hdigits := Quoted.newline_not_mem_digits c.toNat
  unfold escape
  dsimp only
  split
  · simpa using hdigits
  split
  · simpa using hdigits
  · rw [List.mem_singleton]
    exact h.symm

/-- A wording stays one line when it is escaped. -/
theorem unbroken_escaped {message : String} (h : Unbroken message) :
    Unbroken (escaped message) := by
  rw [Unbroken, escaped, String.toList_ofList, List.mem_flatMap]
  rintro ⟨c, hc, hnewline⟩
  have hne : c ≠ '\n' := by
    rintro rfl
    exact h hc
  exact newline_not_mem_escape hne hnewline

/-- A line starts with the mark of the event's level. -/
def Starts (style : Style) (x : Entry) (line : List Char) : Prop :=
  ∃ mark, Level.Marked style x.level mark ∧ (mark ++ " ").toList <+: line

/-- **The line of a plain event** is one line, with a newline behind it. -/
theorem IsLine.front {style : Style} {x : Entry} {text : String} (h : IsLine style x text)
    (hplain : x.event.Plain) :
    ∃ front, text.toList = front ++ ['\n'] ∧ '\n' ∉ front ∧ Starts style x front := by
  obtain @⟨mark, wording, written, hmark, hsays, hwritten⟩ := h
  refine ⟨(mark ++ " " ++ written).toList, String.toList_append, ?_, mark, hmark, ?_⟩
  · have hwording : Unbroken wording := by
      rw [Event.says_iff.mp hsays]
      exact hplain.unbroken_message
    have hstart : Unbroken (mark ++ " ") := by
      rw [Level.marked_iff.mp hmark]
      exact (unbroken_mark style x.level).append (by decide)
    rw [written_iff.mp hwritten]
    exact hstart.append (unbroken_escaped hwording)
  · rw [String.toList_append (s := mark ++ " ")]
    exact List.prefix_append _ _

/-- **The lines of plain events,** one for each. -/
theorem exists_fronts {style : Style} {entries : List Entry} {lines : List String}
    (h : List.Forall₂ (IsLine style) entries lines) (hplain : ∀ x ∈ entries, x.event.Plain) :
    ∃ fronts, (String.join lines).toList.splitOn '\n' = fronts ++ [[]] ∧
      List.Forall₂ (Starts style) entries fronts := by
  have hfronts : ∃ fronts : List (List Char),
      (String.join lines).toList = fronts.flatMap (· ++ ['\n']) ∧
      (∀ front ∈ fronts, '\n' ∉ front) ∧ List.Forall₂ (Starts style) entries fronts := by
    rw [String.toList_join]
    induction h with
    | nil => exact ⟨[], rfl, List.forall_mem_nil _, .nil⟩
    | cons hline _ ih =>
      obtain ⟨hx, hmore⟩ := List.forall_mem_cons.mp hplain
      obtain ⟨front, htext, hfree, hstarts⟩ := hline.front hx
      obtain ⟨fronts, hrest, hallFree, hallStart⟩ := ih hmore
      refine ⟨front :: fronts, ?_, List.forall_mem_cons.mpr ⟨hfree, hallFree⟩,
        .cons hstarts hallStart⟩
      rw [List.flatMap_cons, List.flatMap_cons, htext, hrest]
  obtain ⟨fronts, htext, hfree, hstarts⟩ := hfronts
  refine ⟨fronts, ?_, hstarts⟩
  rw [htext]
  exact Separated.splitOn_ended hfree

end Log

/-! ## The log of a run -/

namespace Repository

theorem unbroken_announcer (r : Repository) : ∀ name, r.announcer = some name → Unbroken name := by
  intro name hname
  cases r with
  | given listed => cases hname
  | adapters all =>
    cases hname
    decide
  | asked source host =>
    cases source <;> cases hname <;> decide

/-- **A log can be searched line by line.** If there is no newline in the names and addresses of
what a repository lists, the log of a run has one line for each event that it shows, and the line
starts with the mark of the event's level: in a log that is kept its name, as in
`ifreport: info:`, and on a terminal its sign, as in `[+]`. Netmasks may be any text, and the run
may stop at one of them. -/
theorem logged_lines (r : Repository)
    (hplain : ∀ t, r.listing.outcome = .ok t → ∀ i ∈ t, i.Plain) :
    ∃ entries, r.RunsWith entries ∧ ∀ layout style verbosity, ∃ lines,
      (Report.logged layout style verbosity r.listing).1.toList.splitOn '\n' = lines ++ [[]] ∧
      List.Forall₂ (Log.Starts style) (entries.filter fun x => Level.enabled verbosity x.level)
        lines := by
  obtain ⟨entries, hlogs, hevents⟩ := Report.exists_logs r.announced_listing
  have hruns := runsWith_of_logs hlogs hevents
  have hentries := hlogs.plain r.unbroken_announcer hplain
  refine ⟨entries, hruns, fun layout style verbosity => ?_⟩
  obtain ⟨lines, hlogged, hlines⟩ := hruns.logged layout style verbosity
  rw [hlogged]
  exact Log.exists_fronts hlines fun x hx => hentries x (List.mem_filter.mp hx).1

/-- A table with a netmask of two lines, of which the second looks like a line of the log. -/
def twoLineNetmask : Table :=
  [⟨"eth0", [⟨.inet, "192.0.2.7", some "255.0.0.0\nifreport: error: \"eth0\" is down"⟩]⟩]

/-- The netmask is refused, and its second line is no line of the log. -/
theorem logged_lines_twoLineNetmask :
    (∀ t, (given (.ok twoLineNetmask)).listing.outcome = .ok t → ∀ i ∈ t, i.Plain) ∧
    (∃ e, (Report.logged .compact .named 3 (given (.ok twoLineNetmask)).listing).2 = .error e) ∧
    ∃ entries, (given (.ok twoLineNetmask)).RunsWith entries ∧ ∃ lines,
      (Report.logged .compact .named 3 (given (.ok twoLineNetmask)).listing).1.toList.splitOn '\n' =
        lines ++ [[]] ∧
      List.Forall₂ (Log.Starts .named) (entries.filter fun x => Level.enabled 3 x.level)
        lines := by
  have hplain : ∀ t, (given (.ok twoLineNetmask)).listing.outcome = .ok t → ∀ i ∈ t, i.Plain := by
    rintro t ⟨⟩ i hi
    rw [List.mem_singleton.mp hi]
    exact ⟨by decide, by decide⟩
  obtain ⟨entries, hruns, hlines⟩ := logged_lines _ hplain
  exact ⟨hplain, ⟨_, rfl⟩, entries, hruns, hlines .compact .named 3⟩

end Repository

end HostAddresses
