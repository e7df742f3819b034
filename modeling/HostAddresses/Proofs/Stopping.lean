import HostAddresses.Proofs.ExitStatus
import HostAddresses.Proofs.Spelling

/-!
# Where reading arguments stops

Help, the version, and whatever is no option end the reading where they stand (`Options.Stops`), if
the arguments in front of them spell options of which none is given again. What stands behind them
is not read, so it may be anything, and the run does not ask the host (`Program.run_of_stops`).
-/

namespace HostAddresses

namespace Options

/-- The names of all options. -/
def names : List String := ["pretty", "source", "verbose", "help", "version"]

/-- **Arguments that stop the reading,** and why. -/
inductive Stops : String → Stop → Prop where
  | helpLetter : Stops "-h" (.help false)
  | helpName : Stops "--help" (.help true)
  | versionLetter : Stops "-V" .version
  | versionName : Stops "--version" .version
  /-- It does not begin like an option. -/
  | bare {argument : String} : argument.toList.head? ≠ some '-' → Stops argument .unknown
  /-- It begins with a name, up to `=`, that no option has. -/
  | name {text : String} : text ≠ "" →
    String.ofList (text.toList.takeWhile (· ≠ '=')) ∉ names → Stops ("--" ++ text) .unknown

variable {rs : List Request} {stop : Stop}

theorem Reads.exists_ok {α : Type} {P : α → Prop} {x : Except Stop α} (h : Reads P rs x)
    (honce : AtMostOnce rs) : ∃ a, x = .ok a ∧ P a := by
  cases h with
  | ok ha => exact ⟨_, rfl, ha⟩
  | repeated hrepeated => exact absurd honce hrepeated

theorem ofName?_of_not_mem {name : String} (h : name ∉ names) : Switch.ofName? name = none := by
  simp only [names, List.mem_cons, List.not_mem_nil, or_false, not_or] at h
  obtain ⟨hpretty, -, hverbose, hhelp, hversion⟩ := h
  rw [Switch.ofName?, if_neg hpretty, if_neg hverbose, if_neg hhelp, if_neg hversion]

namespace Progress

variable {p : Progress}

theorem Heard.switch_help (h : p.Heard rs) (honce : AtMostOnce rs) (long : Bool) :
    p.switch (.help long) = .error (.help long) := by
  obtain ⟨q, hq, -⟩ := h.settle.exists_ok honce
  rw [Progress.switch, hq]
  rfl

theorem Heard.switch_version (h : p.Heard rs) (honce : AtMostOnce rs) :
    p.switch .version = .error .version := by
  obtain ⟨q, hq, -⟩ := h.settle.exists_ok honce
  rw [Progress.switch, hq]
  rfl

theorem named_of_not_mem {text : List Char}
    (h : String.ofList (text.takeWhile (· ≠ '=')) ∉ names) : p.named text = .error .unknown := by
  have hsource : String.ofList (text.takeWhile (· ≠ '=')) ≠ "source" := by
    intro heq
    rw [heq] at h
    exact h (by decide)
  rw [named, if_neg hsource, ofName?_of_not_mem h]

theorem argument_bare {a : String} (hopened : p.closed = false) (hpending : p.pending ≠ .awaited)
    (h : a.toList.head? ≠ some '-') : p.argument a = .error .unknown := by
  rw [argument]
  generalize a.toList = text at h
  cases text with
  | nil => simp [hopened, hpending]
  | cons c text =>
    have hc : c ≠ '-' := fun heq => h (congrArg some heq)
    simp [hopened, hpending, hc]

/-- **Such an argument stops the reading** behind options of which none is given again. -/
theorem Heard.stops {a : String} (h : p.Heard rs) (honce : AtMostOnce rs) (hstop : Stops a stop) :
    p.argument a = .error stop := by
  have hnamed {name : String} (hname : name ≠ "") :
      p.argument ("--" ++ name) = p.named name.toList :=
    argument_named h.opened h.not_awaited hname
  have hcluster {letter : Char} (hletter : letter ≠ '-') :
      p.argument (String.ofList ['-', letter]) = p.cluster [letter] :=
    argument_cluster h.opened h.not_awaited hletter []
  cases hstop with
  | helpLetter =>
    have hread : p.argument "-h" = p.switch (.help false) >>= (·.cluster []) := hcluster (by decide)
    rw [hread, h.switch_help honce]
    rfl
  | helpName =>
    have hread : p.argument ("--" ++ "help") = p.switch (.help true) := hnamed (by decide)
    exact hread.trans (h.switch_help honce true)
  | versionLetter =>
    have hread : p.argument "-V" = p.switch .version >>= (·.cluster []) := hcluster (by decide)
    rw [hread, h.switch_version honce]
    rfl
  | versionName =>
    have hread : p.argument ("--" ++ "version") = p.switch .version := hnamed (by decide)
    exact hread.trans (h.switch_version honce)
  | bare hbare => exact argument_bare h.opened h.not_awaited hbare
  | name htext hname =>
    rw [hnamed htext]
    exact named_of_not_mem hname

end Progress

theorem read_of_stops {phrases : List Phrase} {a : String} (honce : AtMostOnce (asked phrases))
    (hstop : Stops a stop) (later : List String) :
    read (spelling phrases ++ a :: later) = .error stop := by
  have hreads := Progress.settled_start.heard.phrases phrases
  obtain ⟨p, hp, hheard⟩ := hreads.exists_ok honce
  rw [read, List.foldlM_append, hp]
  show (List.foldlM Progress.argument p (a :: later) >>= Progress.finish) = _
  rw [List.foldlM_cons, hheard.stops honce hstop]
  rfl

end Options

namespace Program

open Options

/-- **A run that stops at an argument** reads nothing behind it and does not ask the host: for a sink
it is the same whatever these are. It ends well if and only if it has been asked for help or for the
version, and otherwise with status 2 and without output. -/
theorem run_of_stops {phrases : List Phrase} {a : String} {stop : Stop}
    (honce : AtMostOnce (asked phrases)) (hstop : Stops a stop) (later : List String) :
    read (spelling phrases ++ a :: later) = .error stop ∧
    ∀ host sink,
      StoppedAt stop (run (spelling phrases ++ a :: later) host sink) ∧
      ∀ later' host', run (spelling phrases ++ a :: later') host' sink =
        run (spelling phrases ++ a :: later) host sink := by
  have hread := read_of_stops honce hstop
  have hrun : ∀ later host sink,
      run (spelling phrases ++ a :: later) host sink = stopped stop sink := by
    intro later host sink
    rw [run, hread]
  refine ⟨hread later, fun host sink => ⟨?_, fun later' host' => ?_⟩⟩
  · rw [hrun]
    exact stoppedAt stop sink
  · rw [hrun, hrun]

/-- A source that is still to be looked at does not keep `-h` from stopping. -/
theorem run_of_stops_pendingSource :
    AtMostOnce (asked [.letters .verbose [.pretty], .sourceLetter [] .next .datalink]) ∧
    Stops "-h" (.help false) ∧
    read ["-vp", "-s", "datalink", "-h", "-p", "-s", "lo"] = .error (.help false) ∧
    (run ["-vp", "-s", "datalink", "-h", "-p", "-s", "lo"] (.failing 1) .unlimited).exitCode = 0 ∧
    run ["-vp", "-s", "datalink", "-h", "eth0"] (.listing []) .unlimited =
      run ["-vp", "-s", "datalink", "-h", "-p", "-s", "lo"] (.failing 1) .unlimited := by
  have honce : AtMostOnce
      (asked [.letters .verbose [.pretty], .sourceLetter [] .next .datalink]) :=
    ⟨by decide, by decide⟩
  obtain ⟨hread, hrun⟩ := run_of_stops honce .helpLetter ["-p", "-s", "lo"]
  obtain ⟨hstopped, hsame⟩ := hrun (.failing 1) .unlimited
  exact ⟨honce, .helpLetter, hread, hstopped.exitCode, hsame ["eth0"] (.listing [])⟩

end Program

end HostAddresses
