import HostAddresses.Log.Line
import HostAddresses.Proofs.Events
import HostAddresses.Proofs.Networks
import HostAddresses.Source.Basic

/-!
# The log of a run

A run has one sequence of events, each with its level, whatever its log shows of them
(`Repository.RunsWith`). A log shows the events of some levels (`Level.enabled`), each in a line of
its own (`Log.IsLine`). It shows more of them if it is asked for more, and the report is the same.

Each interface has a new name or a notice, so the notices and the names make up the table
(`Table.Passes.countP_isReplaced`). Whether there is a report can be told from the log: only a run
that ends well says how many names there are, and no other event is of that level.
-/

namespace HostAddresses

/-! ## Notices and names -/

/-- A notice that a name has been there before. -/
def Event.isReplaced : Event → Bool
  | .replaced _ => true
  | _ => false

theorem Record.Traces.countP_isReplaced {interface : String} {records : List Record}
    {traces : List Log.Entry} (h : Traces interface records traces) :
    traces.countP (·.event.isReplaced) = 0 := by
  rw [List.countP_eq_zero]
  intro x hx
  rcases h.mem hx with ⟨r, -, rfl⟩ | ⟨family, rfl⟩
  · exact Bool.false_ne_true
  · exact Bool.false_ne_true

namespace Table

variable {earlier t : Table}

/-- **An interface has a notice or a new name.** -/
theorem countP_notice (earlier : Table) (i : Interface) :
    (notice earlier i).countP (·.event.isReplaced) + nameCount (earlier ++ [i]) =
      nameCount earlier + 1 := by
  have hnames : ((earlier ++ [i]).map Interface.name).toFinset =
      insert i.name (earlier.map Interface.name).toFinset := by
    ext name
    simp
  have hmem : i.name ∈ (earlier.map Interface.name).toFinset ↔ ∃ j ∈ earlier, j.name = i.name := by
    rw [List.mem_toFinset, List.mem_map]
  unfold notice nameCount
  rw [hnames]
  by_cases h : ∃ j ∈ earlier, j.name = i.name
  · rw [if_pos h, Finset.insert_eq_of_mem (hmem.mpr h), Nat.add_comm]
    rfl
  · rw [if_neg h, Finset.card_insert_of_notMem (fun hi => h (hmem.mp hi)), List.countP_nil,
      Nat.zero_add]

/-- **Notices and names make up the interfaces.** -/
theorem Passes.countP_isReplaced {passed : List Log.Entry} (h : Passes earlier t passed) :
    passed.countP (·.event.isReplaced) + nameCount (earlier ++ t) =
      nameCount earlier + t.length := by
  induction h with
  | nil => simp
  | @cons earlier t i s traces more hs htraces _ ih =>
    have hnotice := countP_notice earlier i
    have hsplit : earlier ++ [i] ++ t = earlier ++ i :: t := by simp
    rw [hsplit] at ih
    have hcount : (traces ++ ⟨.debug, .summarized s⟩ :: notice earlier i ++ more).countP
          (·.event.isReplaced) =
        (notice earlier i).countP (·.event.isReplaced) + more.countP (·.event.isReplaced) := by
      rw [List.countP_append, List.countP_append, htraces.countP_isReplaced, Nat.zero_add]
      rfl
    rw [hcount, List.length_cons]
    omega

end Table

/-! ## Levels -/

/-- Which levels the log of a run shows if it has been asked for more this many times. -/
def Level.enabled : Nat → Level → Bool
  | 0, _ => false
  | 1, level => level = .info
  | 2, level => level = .info ∨ level = .debug
  | _, _ => true

/-- A log that is asked for more leaves nothing out. -/
theorem Level.enabled_mono {v w : Nat} (h : v ≤ w) {level : Level} (hv : enabled v level = true) :
    enabled w level = true := by
  match v, w with
  | 0, _ => cases hv
  | _, _ + 3 => rfl
  | 1, 1 | 2, 2 => exact hv
  | 1, 2 => exact decide_eq_true (.inl (of_decide_eq_true hv))
  | _ + 1, 0 | _ + 2, 1 | _ + 3, 2 => omega

/-- Of the levels that the events of a run have, a log of the program shows these. -/
theorem Level.shows_ofVerbosity {level : Level} (herror : level ≠ .error) (hwarn : level ≠ .warn)
    (verbosity : Nat) : (ofVerbosity verbosity).shows level = enabled verbosity level := by
  match verbosity with
  | 0 | 1 | 2 | _ + 3 =>
    cases level with
    | error => exact absurd rfl herror
    | warn => exact absurd rfl hwarn
    | _ => rfl

namespace Report

variable {source : Option String} {listed : Except ReportFailure Table} {entries : List Log.Entry}

/-- **The log of a run** has the lines of the events that it shows. -/
theorem Logs.exists_lines (h : Logs source listed entries) (style : Style) (verbosity : Nat) :
    ∃ lines, Log.text style (.ofVerbosity verbosity) (entries.map Log.Entry.event) =
        String.join lines ∧
      List.Forall₂ (Log.IsLine style) (entries.filter fun x => Level.enabled verbosity x.level)
        lines := by
  have hshown : Log.shown (.ofVerbosity verbosity) (entries.map Log.Entry.event) =
      (entries.filter fun x => Level.enabled verbosity x.level).map Log.Entry.event := by
    rw [Log.shown, List.filter_map]
    refine congrArg _ (List.filter_congr fun x hx => ?_)
    obtain ⟨hlevel, herror, hwarn⟩ := h.level hx
    rw [← Level.shows_ofVerbosity herror hwarn, hlevel]
    rfl
  refine ⟨(entries.filter fun x => Level.enabled verbosity x.level).map fun x =>
    Log.line style x.event, ?_, ?_⟩
  · rw [Log.text, hshown, List.map_map]
    rfl
  · rw [List.forall₂_map_right_iff, List.forall₂_same]
    intro x hx
    exact (Log.isLine_iff (h.level (List.mem_filter.mp hx).1).1).mpr rfl

/-! ## How a run ends -/

/-- The text of the report of what has been listed, without a log. -/
def unlogged (layout : Json.Layout) (listed : Except ReportFailure Table) :
    Except ReportFailure String := do
  let t ← listed
  let all ← t.mapM Interface.summary
  return toText layout (all.foldl put .empty)

/-- The log of a run that has been asked for more this many times, and how the run ends. -/
def logged (layout : Json.Layout) (style : Style) (verbosity : Nat) (listing : Traced Table) :
    String × Except ReportFailure String :=
  let text := textOfListing layout listing
  (Log.text style (.ofVerbosity verbosity) text.events, text.outcome)

/-- **A log does not change the report.** -/
theorem outcome_textOfListing_eq_unlogged (layout : Json.Layout) (listing : Traced Table) :
    (textOfListing layout listing).outcome = unlogged layout listing.outcome := by
  rw [outcome_textOfListing, outcome_ofListing, summaries, unlogged]
  cases listing.outcome with
  | error e => rfl
  | ok t =>
    show Except.map _ (Except.map _ (t.mapM Interface.summary)) = t.mapM Interface.summary >>= _
    cases t.mapM Interface.summary <;> rfl

/-- There is a text if and only if there is a table and all of its interfaces have summaries. -/
theorem unlogged_eq_ok_iff (layout : Json.Layout) :
    (∃ text, unlogged layout listed = .ok text) ↔
      ∃ t, listed = .ok t ∧ ∀ i ∈ t, ∃ s, i.summary = .ok s := by
  cases listed with
  | error e => simp [unlogged, bind, Except.bind]
  | ok t =>
    simp only [Except.ok.injEq, exists_eq_left', ← exists_mapM_eq_ok_iff]
    show (∃ text, t.mapM Interface.summary >>= _ = .ok text) ↔ _
    cases t.mapM Interface.summary with
    | error e => simp [bind, Except.bind]
    | ok all => exact ⟨fun _ => ⟨all, rfl⟩, fun _ => ⟨_, rfl⟩⟩

theorem Logs.of_ok {layout : Json.Layout} {text : String} (h : Logs source listed entries)
    (htext : unlogged layout listed = .ok text) :
    ∃ t, listed = .ok t ∧ entries.getLast? = some ⟨.info, .collected t.nameCount⟩ ∧
      entries.countP (·.event.isReplaced) + t.nameCount = t.length := by
  obtain ⟨t, hlisted, hall⟩ := (unlogged_eq_ok_iff layout).mp ⟨text, htext⟩
  subst hlisted
  refine ⟨t, rfl, ?_⟩
  cases h with
  | stopped hfails _ _ => exact absurd hall hfails.not_summarized
  | collected hpassed =>
    have hopening : (t.opening source).countP (·.event.isReplaced) = 0 := by cases source <;> rfl
    have hcount := hpassed.countP_isReplaced
    rw [List.nil_append] at hcount
    refine ⟨List.getLast?_concat, ?_⟩
    rw [List.countP_append, List.countP_append, hopening, Nat.zero_add]
    exact hcount.trans (Nat.zero_add _)

theorem Logs.of_error {layout : Json.Layout} {e : ReportFailure} (h : Logs source listed entries)
    (htext : unlogged layout listed = .error e) : ∀ x ∈ entries, x.level ≠ .info := by
  have hdetail : ∀ {x : Log.Entry}, x.level = .debug ∨ x.level = .trace → x.level ≠ .info := by
    rintro x (hx | hx) hinfo
    · exact nomatch hx.symm.trans hinfo
    · exact nomatch hx.symm.trans hinfo
  intro x hx
  cases h with
  | unlisted e => cases hx
  | stopped _ hpassed htraces =>
    rcases List.mem_append.mp hx with hfront | htrace
    · rcases List.mem_append.mp hfront with hopening | hpass
      · rcases Table.mem_opening hopening with ⟨name, -, rfl⟩ | rfl
        · exact nofun
        · exact nofun
      · obtain ⟨i, -, hhas⟩ := hpassed.has hpass
        exact hdetail hhas.level
    · exact hdetail (Interface.has_of_traces htraces htrace).level
  | @collected t passed hpassed =>
    obtain ⟨text, hok⟩ := (unlogged_eq_ok_iff layout).mpr ⟨t, rfl, hpassed.summarized⟩
    rw [hok] at htext
    cases htext

end Report

/-! ## All repositories -/

/-- Where the table of a run comes from. -/
inductive Repository where
  /-- It is given, or a failure, and nothing is said about it. -/
  | given (listed : Except ReportFailure Table)
  /-- It is that of some adapters. -/
  | adapters (all : List Adapter)
  /-- It is what a source says of a host. -/
  | asked (source : Source) (host : Host)

namespace Repository

/-- Lists the interfaces of a repository. -/
def listing : Repository → Traced Table
  | .given listed => .ofExcept listed
  | .adapters all => Networks.table all
  | .asked source host => source.listing host

/-- The name under which a repository says how many interfaces it has listed, if it does. -/
def announcer : Repository → Option String
  | .given _ => none
  | .adapters _ => some "pnet"
  | .asked .getifaddrs _ => some "getifaddrs"
  | .asked .datalink _ => some "pnet"

theorem announced_ok {source : Option String} {events : List Event} {t : Table}
    (h : events = source.toList.map (.listed · t.length)) :
    Report.Announced source ⟨events, .ok t⟩ where
  listed := by
    intro t' ht
    cases ht
    exact h
  unlisted := nofun

theorem announced_error (source : Option String) (e : ReportFailure) :
    Report.Announced source (.fail e) where
  listed := nofun
  unlisted _ _ := rfl

theorem announced_table (all : List Adapter) :
    Report.Announced (some "pnet") (Networks.table all) := by
  by_cases h : all = []
  · rw [h, Networks.table_nil]
    exact announced_error _ _
  · have htable : Networks.table all =
        ⟨[.listed "pnet" all.length], .ok (all.map Adapter.interface)⟩ := by
      rw [Networks.table, if_neg h]
      rfl
    rw [htable]
    refine announced_ok ?_
    rw [List.length_map]
    rfl

theorem announced_listing (r : Repository) : Report.Announced r.announcer r.listing := by
  cases r with
  | given listed => exact ⟨fun _ _ => rfl, fun _ _ => rfl⟩
  | adapters all => exact announced_table all
  | asked source host =>
    cases source with
    | datalink => exact announced_table (Networks.adapters host)
    | getifaddrs =>
      cases host with
      | failing errno => exact announced_error _ _
      | listing entries => exact announced_ok rfl

/-- The events of a run with their levels, and what its log shows of them. -/
structure RunsWith (r : Repository) (entries : List Log.Entry) : Prop where
  /-- These are the events of what has been listed. -/
  logs : Report.Logs r.announcer r.listing.outcome entries
  /-- There are no others. -/
  only : ∀ entries', Report.Logs r.announcer r.listing.outcome entries' → entries' = entries
  /-- The log has the lines of the events that it shows, and the run ends as it does without. -/
  logged : ∀ layout style verbosity, ∃ lines,
    Report.logged layout style verbosity r.listing =
      (String.join lines, Report.unlogged layout r.listing.outcome) ∧
    List.Forall₂ (Log.IsLine style) (entries.filter fun x => Level.enabled verbosity x.level) lines
  /-- A log that is asked for more leaves nothing out. -/
  more : ∀ v w, v ≤ w → (entries.filter fun x => Level.enabled v x.level).Sublist
    (entries.filter fun x => Level.enabled w x.level)
  /-- The notices and the number of names make up the table. -/
  succeeded : ∀ layout text, Report.unlogged layout r.listing.outcome = .ok text →
    ∃ t, r.listing.outcome = .ok t ∧ entries.getLast? = some ⟨.info, .collected t.nameCount⟩ ∧
      entries.countP (·.event.isReplaced) + t.nameCount = t.length
  failed : ∀ layout e, Report.unlogged layout r.listing.outcome = .error e →
    ∀ x ∈ entries, x.level ≠ .info

/-- The events of a run are all that its log shows something of. -/
theorem runsWith_of_logs {r : Repository} {entries : List Log.Entry}
    (h : Report.Logs r.announcer r.listing.outcome entries)
    (hevents : (Report.ofListing r.listing).events = entries.map Log.Entry.event) :
    r.RunsWith entries := by
  refine ⟨h, fun _ h' => h'.unique h, ?_, ?_, ?_, ?_⟩
  · intro layout style verbosity
    obtain ⟨lines, htext, hlines⟩ := h.exists_lines style verbosity
    refine ⟨lines, ?_, hlines⟩
    unfold Report.logged
    dsimp only
    rw [Report.outcome_textOfListing_eq_unlogged, Report.events_textOfListing, hevents, htext]
  · intro v w hle
    exact List.monotone_filter_right _ fun x hx => Level.enabled_mono hle hx
  · intro layout text htext
    exact h.of_ok htext
  · intro layout e htext
    exact h.of_error htext

/-- **A run has one sequence of events,** whatever is shown of it. -/
theorem exists_runsWith (r : Repository) : ∃ entries, r.RunsWith entries := by
  obtain ⟨entries, hlogs, hevents⟩ := Report.exists_logs r.announced_listing
  exact ⟨entries, runsWith_of_logs hlogs hevents⟩

end Repository

end HostAddresses
