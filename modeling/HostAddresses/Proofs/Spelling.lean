import HostAddresses.Options.Reader
import Mathlib.Data.List.Perm.Basic

/-!
# Options as they are spelled

What the user asks for is a sequence of requests, and a sequence of requests can be spelled in many
ways: an option by its name or by its letter, letters together in one cluster, and the value of a
source in the same argument or in the next one. A `Phrase` is a piece of such a spelling that ends
where an option ends.

The reader knows what has been asked for, however it was spelled (`Progress.Heard`). One phrase adds
its requests (`Progress.Heard.phrase`), so all of them add theirs, unless something that can be
asked for once is asked for twice. A source in an argument of its own is looked at late, but it
counts as asked for at once.
-/

namespace HostAddresses.Options

/-! ## Spellings -/

/-- An option without a value. -/
inductive Flag where
  | pretty
  | verbose
deriving DecidableEq

namespace Flag

/-- The letter of an option. -/
def letter : Flag → Char
  | .pretty => 'p'
  | .verbose => 'v'

/-- The name of an option. -/
def name : Flag → String
  | .pretty => "pretty"
  | .verbose => "verbose"

end Flag

/-- What is asked for by one option. -/
inductive Request where
  | flag (f : Flag)
  | source (s : Source)
deriving DecidableEq

/-- Where the value behind a letter stands. -/
inductive Place where
  /-- In the next argument. -/
  | next
  /-- In the same argument. -/
  | attached
  /-- In the same argument, behind `=`. -/
  | assigned

/-- Options that are spelled together. -/
inductive Phrase where
  /-- An option by its name. -/
  | name (f : Flag)
  /-- The name of the source option, and a source behind `=`. -/
  | sourceName (s : Source)
  /-- The name of the source option, and a source in the next argument. -/
  | sourceNameNext (s : Source)
  /-- One letter or more. -/
  | letters (first : Flag) (more : List Flag)
  /-- The letter of the source option with a source, perhaps behind other letters. -/
  | sourceLetter (before : List Flag) (place : Place) (s : Source)

/-- A cluster of letters with more behind them. -/
def clusterOf (flags : List Flag) (rest : List Char) : String :=
  String.ofList ('-' :: (flags.map Flag.letter ++ rest))

namespace Phrase

/-- The arguments of a phrase. -/
def arguments : Phrase → List String
  | .name f => ["--" ++ f.name]
  | .sourceName s => ["--source=" ++ s.name]
  | .sourceNameNext s => ["--source", s.name]
  | .letters first more => [clusterOf (first :: more) []]
  | .sourceLetter before .next s => [clusterOf before ['s'], s.name]
  | .sourceLetter before .attached s => [clusterOf before ('s' :: s.name.toList)]
  | .sourceLetter before .assigned s => [clusterOf before ('s' :: '=' :: s.name.toList)]

/-- What is asked for by a phrase, in order. -/
def requests : Phrase → List Request
  | .name f => [.flag f]
  | .sourceName s => [.source s]
  | .sourceNameNext s => [.source s]
  | .letters first more => (first :: more).map .flag
  | .sourceLetter before _ s => before.map .flag ++ [.source s]

end Phrase

/-- Arguments that spell requests one after the other. -/
def spelling (phrases : List Phrase) : List String := phrases.flatMap Phrase.arguments

/-- What is asked for by a spelling. -/
def asked (phrases : List Phrase) : List Request := phrases.flatMap Phrase.requests

/-! ## What is asked for -/

/-- The source of a request, if it is one for a source. -/
def Request.source? : Request → Option Source
  | .flag _ => none
  | .source s => some s

/-- The sources that are asked for. -/
def sources (rs : List Request) : List Source := rs.filterMap Request.source?

/-- Nothing but more in the log is asked for twice. -/
structure AtMostOnce (rs : List Request) : Prop where
  pretty : rs.count (.flag .pretty) ≤ 1
  source : (sources rs).length ≤ 1

/-- Options that are what is asked for. -/
structure Grants (rs : List Request) (o : Options) : Prop where
  pretty : o.pretty = true ↔ .flag .pretty ∈ rs
  source : ∀ s, .source s ∈ rs → o.source = s
  /-- Without a source that is asked for, there is one by default. -/
  unasked : (∀ s, .source s ∉ rs) → o.source = .getifaddrs
  /-- The count does not go beyond its limit. -/
  verbosity : o.verbosity = min 255 (rs.count (.flag .verbose))

variable {rs more : List Request}

theorem sources_append : sources (rs ++ more) = sources rs ++ sources more :=
  List.filterMap_append

theorem mem_sources_iff {s : Source} : s ∈ sources rs ↔ .source s ∈ rs := by
  unfold sources
  rw [List.mem_filterMap]
  constructor
  · rintro ⟨r, hr, hs⟩
    cases r with
    | flag f => cases hs
    | source s' =>
      cases hs
      exact hr
  · intro h
    exact ⟨_, h, rfl⟩

theorem AtMostOnce.of_append (h : AtMostOnce (rs ++ more)) : AtMostOnce rs where
  pretty := by
    have hpretty := h.pretty
    rw [List.count_append] at hpretty
    omega
  source := by
    have hsource := h.source
    rw [sources_append, List.length_append] at hsource
    omega

/-- **What is asked for decides on the options.** -/
theorem Grants.unique {o o' : Options} (h : Grants rs o) (h' : Grants rs o') : o = o' := by
  have hpretty : o.pretty = o'.pretty := Bool.eq_iff_iff.mpr (h.pretty.trans h'.pretty.symm)
  have hsource : o.source = o'.source := by
    by_cases hasked : ∃ s, .source s ∈ rs
    · obtain ⟨s, hs⟩ := hasked
      rw [h.source s hs, h'.source s hs]
    · have hnone : ∀ s, .source s ∉ rs := fun s hs => hasked ⟨s, hs⟩
      rw [h.unasked hnone, h'.unasked hnone]
  have hverbosity : o.verbosity = o'.verbosity := h.verbosity.trans h'.verbosity.symm
  cases o
  cases o'
  cases hpretty
  cases hsource
  cases hverbosity
  rfl

theorem Grants.of_perm {rs' : List Request} {o : Options} (h : Grants rs o) (hperm : rs.Perm rs') :
    Grants rs' o where
  pretty := by rw [← hperm.mem_iff, h.pretty]
  source s hs := h.source s (hperm.mem_iff.mpr hs)
  unasked hnone := h.unasked fun s hs => hnone s (hperm.mem_iff.mp hs)
  verbosity := by rw [← hperm.count_eq, h.verbosity]

theorem AtMostOnce.of_perm {rs' : List Request} (h : AtMostOnce rs) (hperm : rs.Perm rs') :
    AtMostOnce rs' where
  pretty := by
    rw [← hperm.count_eq]
    exact h.pretty
  source := by
    have hsources : (sources rs).Perm (sources rs') := hperm.filterMap Request.source?
    rw [← hsources.length_eq]
    exact h.source

/-! ## What has been asked for -/

/-- Reading goes on, unless something has been asked for twice. -/
inductive Reads {α : Type} (P : α → Prop) (rs : List Request) : Except Stop α → Prop where
  | ok {a : α} : P a → Reads P rs (.ok a)
  | repeated : ¬ AtMostOnce rs → Reads P rs (.error .repeated)

theorem Reads.bind {α β : Type} {P : α → Prop} {Q : β → Prop} {x : Except Stop α}
    {f : α → Except Stop β} (h : Reads P rs x) (hf : ∀ a, P a → Reads Q (rs ++ more) (f a)) :
    Reads Q (rs ++ more) (x >>= f) := by
  cases h with
  | ok ha => exact hf _ ha
  | repeated hrepeated => exact .repeated fun hmore => hrepeated hmore.of_append

/-- What follows may ask for nothing more. -/
theorem Reads.bind_same {α β : Type} {P : α → Prop} {Q : β → Prop} {x : Except Stop α}
    {f : α → Except Stop β} (h : Reads P rs x) (hf : ∀ a, P a → Reads Q rs (f a)) :
    Reads Q rs (x >>= f) := by
  cases h with
  | ok ha => exact hf _ ha
  | repeated hrepeated => exact .repeated hrepeated

theorem Reads.imp {α : Type} {P Q : α → Prop} {x : Except Stop α} (h : Reads P rs x)
    (himp : ∀ a, P a → Q a) : Reads Q rs x := by
  cases h with
  | ok ha => exact .ok (himp _ ha)
  | repeated hrepeated => exact .repeated hrepeated

/-- The switch of an option. -/
def Flag.switch : Flag → Switch
  | .pretty => .pretty
  | .verbose => .verbose

/-- A value that is still to be looked at is the name of a source. -/
inductive Pending.Holds : Pending → List Source → Prop where
  | none : Holds .none []
  | given (s : Source) : Holds (.given s.name) [s]

namespace Progress

/-- What has been asked for so far, apart from sources. -/
structure Counts (p : Progress) (rs : List Request) : Prop where
  opened : p.closed = false
  pretty : rs.count (.flag .pretty) = p.pretty.toNat
  verbosity : p.verbosity = min 255 (rs.count (.flag .verbose))

/-- **What has been asked for so far.** No value is awaited, and nothing is asked for twice but a
source of which the value is still to be looked at. -/
structure Heard (p : Progress) (rs : List Request) : Prop extends p.Counts rs where
  source : ∃ last, p.pending.Holds last ∧ sources rs = p.source.toList ++ last

/-- What has been asked for so far, and there is no value to be looked at. -/
structure Settled (p : Progress) (rs : List Request) : Prop extends p.Counts rs where
  pending : p.pending = .none
  source : sources rs = p.source.toList

variable {p : Progress}

theorem Settled.heard (h : p.Settled rs) : p.Heard rs where
  toCounts := h.toCounts
  source := by
    refine ⟨[], ?_, ?_⟩
    · rw [h.pending]
      exact .none
    · rw [h.source, List.append_nil]

theorem settled_start : Settled .start [] where
  opened := rfl
  pretty := rfl
  verbosity := rfl
  pending := rfl
  source := rfl

theorem Heard.not_awaited (h : p.Heard rs) : p.pending ≠ .awaited := by
  obtain ⟨last, hlast, -⟩ := h.source
  intro hawaited
  rw [hawaited] at hlast
  cases hlast

theorem Counts.source (h : p.Counts rs) (s : Source) : p.Counts (rs ++ [.source s]) where
  opened := h.opened
  pretty := by
    rw [List.count_append, h.pretty]
    rfl
  verbosity := by
    rw [List.count_append, h.verbosity]
    rfl

/-! ## Sources -/

theorem ofName?_name (s : Source) : Source.ofName? s.name = some s := by
  cases s <;> decide

/-- **A source is taken** unless there is one. -/
theorem Counts.setSource {s : Source} (h : p.Counts rs) (hpending : p.pending = .none)
    (hsources : sources rs = p.source.toList ++ [s]) :
    Reads (·.Settled rs) rs (p.setSource s.name) := by
  rw [Progress.setSource, ofName?_name]
  cases hsource : p.source with
  | some s' =>
    refine .repeated fun honce => ?_
    have htwo := honce.source
    rw [hsources, hsource] at htwo
    exact absurd htwo (Nat.not_succ_le_self 1)
  | none =>
    rw [hsource] at hsources
    exact .ok ⟨⟨h.opened, h.pretty, h.verbosity⟩, hpending, hsources⟩

/-- **A pending value is looked at,** and nothing more is asked for. -/
theorem Heard.settle (h : p.Heard rs) : Reads (·.Settled rs) rs p.settle := by
  obtain ⟨hcounts, last, hlast, hsources⟩ := h
  unfold Progress.settle
  generalize hpending : p.pending = pending at hlast
  cases hlast with
  | none =>
    rw [List.append_nil] at hsources
    exact .ok ⟨hcounts, hpending, hsources⟩
  | given s =>
    have hcounts' : Counts { p with pending := .none } rs :=
      ⟨hcounts.opened, hcounts.pretty, hcounts.verbosity⟩
    exact hcounts'.setSource rfl hsources

/-- A source with its value in the same argument. -/
theorem Heard.sourceWithValue (h : p.Heard rs) (s : Source) :
    Reads (·.Settled (rs ++ [.source s])) (rs ++ [.source s])
      (p.sourceWithValue s.name.toList) := by
  refine h.settle.bind fun q hq => ?_
  rw [String.ofList_toList]
  refine (hq.toCounts.source s).setSource hq.pending ?_
  rw [sources_append, hq.source]
  rfl

/-- An argument that may be a value is the one that is awaited. -/
theorem argument_of_awaited {value : String} (hopened : p.closed = false)
    (hpending : p.pending = .awaited) (hvalue : isValue value.toList = true) :
    p.argument value = .ok { p with pending := .given value } := by
  simp [argument, hopened, hpending, hvalue]

theorem isValue_name (s : Source) : isValue s.name.toList = true := by
  cases s <;> decide

/-- A source with its value in the next argument. -/
theorem Heard.awaitSource (h : p.Heard rs) (s : Source) :
    Reads (·.Heard (rs ++ [.source s])) (rs ++ [.source s])
      (p.awaitSource >>= (·.argument s.name)) := by
  unfold Progress.awaitSource
  rw [bind_assoc]
  refine h.settle.bind fun q hq => ?_
  have hcounts := hq.toCounts.source s
  have hvalue : argument { q with pending := .awaited } s.name =
      .ok { q with pending := .given s.name } :=
    argument_of_awaited hq.opened rfl (isValue_name s)
  show Reads _ _ (argument { q with pending := .awaited } s.name)
  rw [hvalue]
  refine .ok ⟨⟨hcounts.opened, hcounts.pretty, hcounts.verbosity⟩, [s], .given s, ?_⟩
  rw [sources_append, hq.source]
  rfl

/-! ## Flags -/

theorem Heard.switch (h : p.Heard rs) (f : Flag) :
    Reads (·.Settled (rs ++ [.flag f])) (rs ++ [.flag f]) (p.switch f.switch) := by
  refine h.settle.bind fun q hq => ?_
  have hsources : sources (rs ++ [.flag f]) = q.source.toList := by
    rw [sources_append, hq.source]
    exact List.append_nil _
  cases f with
  | pretty =>
    show Reads _ _ (if q.pretty then .error .repeated else .ok { q with pretty := true })
    have hcount : List.count (.flag .pretty) (rs ++ [.flag .pretty]) = q.pretty.toNat + 1 := by
      rw [List.count_append, hq.pretty]
      rfl
    cases hpretty : q.pretty with
    | true =>
      refine .repeated fun honce => ?_
      have htwo := honce.pretty
      rw [hcount, hpretty] at htwo
      exact absurd htwo (Nat.not_succ_le_self 1)
    | false =>
      rw [hpretty] at hcount
      refine .ok ⟨⟨hq.opened, hcount, ?_⟩, hq.pending, hsources⟩
      rw [List.count_append, hq.verbosity]
      rfl
  | verbose =>
    refine .ok ⟨⟨hq.opened, ?_, ?_⟩, hq.pending, hsources⟩
    · rw [List.count_append, hq.pretty]
      rfl
    · have hcount : List.count (.flag .verbose) (rs ++ [.flag .verbose]) =
          rs.count (.flag .verbose) + 1 := by
        rw [List.count_append]
        rfl
      rw [hcount]
      show min 255 (q.verbosity + 1) = _
      rw [hq.verbosity]
      omega

/-- Reads the letters of options without a value. -/
def flags (p : Progress) (fs : List Flag) : Except Stop Progress :=
  fs.foldlM (fun p f => p.switch f.switch) p

theorem Heard.flags (h : p.Heard rs) (fs : List Flag) :
    Reads (·.Heard (rs ++ fs.map .flag)) (rs ++ fs.map .flag) (p.flags fs) := by
  induction fs generalizing p rs with
  | nil =>
    rw [List.map_nil, List.append_nil]
    exact .ok h
  | cons f fs ih =>
    have hsplit : rs ++ (f :: fs).map .flag = rs ++ [.flag f] ++ fs.map .flag := by simp
    rw [hsplit, Progress.flags, List.foldlM_cons]
    exact (h.switch f).bind fun q hq => ih hq.heard

/-- A cluster is read letter by letter. -/
theorem cluster_flags (p : Progress) (fs : List Flag) (rest : List Char) :
    p.cluster (fs.map Flag.letter ++ rest) = p.flags fs >>= (·.cluster rest) := by
  induction fs generalizing p with
  | nil => rfl
  | cons f fs ih =>
    have hletter : p.cluster (f.letter :: (fs.map Flag.letter ++ rest)) =
        p.switch f.switch >>= (·.cluster (fs.map Flag.letter ++ rest)) := by
      cases f <;> rfl
    rw [List.map_cons, List.cons_append, hletter, Progress.flags, List.foldlM_cons, bind_assoc]
    exact congrArg _ (funext ih)

/-! ## Arguments -/

section Argument

variable (hopened : p.closed = false) (hpending : p.pending ≠ .awaited)

include hopened hpending

theorem argument_named {name : String} (hname : name ≠ "") :
    p.argument ("--" ++ name) = p.named name.toList := by
  obtain ⟨c, text, htext⟩ := List.exists_cons_of_ne_nil (mt String.toList_eq_nil_iff.mp hname)
  have hchars : ("--" ++ name).toList = '-' :: '-' :: c :: text := by
    rw [String.toList_append, htext]
    rfl
  rw [argument, hchars, htext]
  simp [hopened, hpending]

theorem argument_cluster {letter : Char} (hletter : letter ≠ '-') (letters : List Char) :
    p.argument (String.ofList ('-' :: letter :: letters)) = p.cluster (letter :: letters) := by
  rw [argument, String.toList_ofList]
  simp [hopened, hpending, hletter]

/-- A cluster is read letter by letter, up to what stands behind its flags. -/
theorem argument_clusterOf {fs : List Flag} {rest : List Char}
    (hrest : fs ≠ [] ∨ rest.head? = some 's') :
    p.argument (clusterOf fs rest) = p.flags fs >>= (·.cluster rest) := by
  rw [← cluster_flags, clusterOf]
  cases fs with
  | nil =>
    rcases hrest with hfs | hhead
    · exact absurd rfl hfs
    · obtain ⟨value, rfl⟩ := List.head?_eq_some_iff.mp hhead
      exact argument_cluster hopened hpending (by decide) value
  | cons f fs =>
    have hletter : f.letter ≠ '-' := by cases f <;> decide
    exact argument_cluster hopened hpending hletter _

end Argument

theorem foldlM_one (p : Progress) (a : String) : [a].foldlM argument p = p.argument a :=
  bind_pure _

theorem foldlM_two (p : Progress) (a b : String) :
    [a, b].foldlM argument p = p.argument a >>= (·.argument b) := by
  rw [List.foldlM_cons]
  exact congrArg _ (funext fun q => foldlM_one q b)

theorem named_flag (p : Progress) (f : Flag) : p.named f.name.toList = p.switch f.switch := by
  cases f <;> rfl

theorem named_source (p : Progress) (s : Source) :
    p.named ("source=" ++ s.name).toList = p.sourceWithValue s.name.toList := by
  cases s <;> rfl

theorem cluster_source (p : Progress) (s : Source) :
    p.cluster ('s' :: s.name.toList) = p.sourceWithValue s.name.toList := by
  cases s <;> rfl

/-! ## Phrases -/

theorem Heard.name (h : p.Heard rs) (f : Flag) :
    Reads (·.Settled (rs ++ [.flag f])) (rs ++ [.flag f]) (p.argument ("--" ++ f.name)) := by
  have hname : f.name ≠ "" := by cases f <;> decide
  rw [argument_named h.opened h.not_awaited hname, named_flag]
  exact h.switch f

theorem Heard.sourceName (h : p.Heard rs) (s : Source) :
    Reads (·.Settled (rs ++ [.source s])) (rs ++ [.source s])
      (p.argument ("--source=" ++ s.name)) := by
  have hname : "source=" ++ s.name ≠ "" := by cases s <;> decide
  have hsplit : "--source=" ++ s.name = "--" ++ ("source=" ++ s.name) := by
    rw [← String.append_assoc]
    rfl
  rw [hsplit, argument_named h.opened h.not_awaited hname, named_source]
  exact h.sourceWithValue s

theorem Heard.sourceNameNext (h : p.Heard rs) (s : Source) :
    Reads (·.Heard (rs ++ [.source s])) (rs ++ [.source s])
      (p.argument "--source" >>= (·.argument s.name)) := by
  have hname : p.argument ("--" ++ "source") = p.named "source".toList :=
    argument_named h.opened h.not_awaited (by decide)
  change p.argument "--source" = p.awaitSource at hname
  rw [hname]
  exact h.awaitSource s

/-- A letter with its value stands behind the letters of flags. -/
theorem Heard.sourceLetter (h : p.Heard rs) (before : List Flag) (place : Place) (s : Source) :
    Reads (·.Heard (rs ++ (before.map .flag ++ [.source s])))
      (rs ++ (before.map .flag ++ [.source s]))
      ((Phrase.sourceLetter before place s).arguments.foldlM argument p) := by
  have hcluster (value : List Char) :
      p.argument (clusterOf before ('s' :: value)) =
        p.flags before >>= (·.cluster ('s' :: value)) :=
    argument_clusterOf h.opened h.not_awaited (.inr rfl)
  rw [← List.append_assoc]
  cases place with
  | next =>
    rw [Phrase.arguments, foldlM_two, hcluster, bind_assoc]
    exact (h.flags before).bind fun q hq => hq.awaitSource s
  | attached =>
    rw [Phrase.arguments, foldlM_one, hcluster]
    refine (h.flags before).bind fun q hq => ?_
    rw [cluster_source]
    exact (hq.sourceWithValue s).imp fun _ hr => hr.heard
  | assigned =>
    rw [Phrase.arguments, foldlM_one, hcluster]
    refine (h.flags before).bind fun q hq => ?_
    exact (hq.sourceWithValue s).imp fun _ hr => hr.heard

/-- **A phrase asks for its requests.** -/
theorem Heard.phrase (h : p.Heard rs) (phrase : Phrase) :
    Reads (·.Heard (rs ++ phrase.requests)) (rs ++ phrase.requests)
      (phrase.arguments.foldlM argument p) := by
  cases phrase with
  | name f =>
    rw [Phrase.arguments, foldlM_one]
    exact (h.name f).imp fun _ hq => hq.heard
  | sourceName s =>
    rw [Phrase.arguments, foldlM_one]
    exact (h.sourceName s).imp fun _ hq => hq.heard
  | sourceNameNext s =>
    rw [Phrase.arguments, foldlM_two]
    exact h.sourceNameNext s
  | letters first more =>
    have hcluster : p.argument (clusterOf (first :: more) []) = p.flags (first :: more) >>= pure :=
      argument_clusterOf h.opened h.not_awaited (.inl (List.cons_ne_nil _ _))
    rw [Phrase.arguments, foldlM_one, hcluster, bind_pure]
    exact h.flags (first :: more)
  | sourceLetter before place s => exact h.sourceLetter before place s

/-- **Phrases ask for all of their requests,** one after the other. -/
theorem Heard.phrases (h : p.Heard rs) (phrases : List Phrase) :
    Reads (·.Heard (rs ++ asked phrases)) (rs ++ asked phrases)
      ((spelling phrases).foldlM argument p) := by
  induction phrases generalizing p rs with
  | nil =>
    rw [asked, List.flatMap_nil, List.append_nil]
    exact .ok h
  | cons phrase phrases ih =>
    have hasked : rs ++ asked (phrase :: phrases) = rs ++ phrase.requests ++ asked phrases := by
      rw [asked, List.flatMap_cons, List.append_assoc]
      rfl
    have hspelling : spelling (phrase :: phrases) = phrase.arguments ++ spelling phrases :=
      List.flatMap_cons
    rw [hasked, hspelling, List.foldlM_append]
    exact (h.phrase phrase).bind fun q hq => ih hq

/-! ## The end of the arguments -/

/-- What has been asked for is asked for once. -/
theorem Settled.atMostOnce (h : p.Settled rs) : AtMostOnce rs where
  pretty := by
    rw [h.pretty]
    exact Bool.toNat_le p.pretty
  source := by
    rw [h.source]
    exact Option.length_toList_le

theorem Settled.grants (h : p.Settled rs) :
    Grants rs ⟨p.pretty, p.source.getD .getifaddrs, p.verbosity⟩ where
  pretty := by
    rw [← List.count_pos_iff, h.pretty]
    show p.pretty = true ↔ 0 < p.pretty.toNat
    generalize p.pretty = pretty
    revert pretty
    decide
  source s hs := by
    have hmem : s ∈ p.source.toList := h.source ▸ mem_sources_iff.mpr hs
    rw [Option.mem_toList.mp hmem]
    rfl
  unasked hnone := by
    cases hsource : p.source with
    | none => rfl
    | some s =>
      have hmem : s ∈ sources rs := by
        rw [h.source, hsource]
        exact List.mem_singleton_self s
      exact absurd (mem_sources_iff.mp hmem) (hnone s)
  verbosity := h.verbosity

theorem Heard.finish (h : p.Heard rs) :
    Reads (fun o => AtMostOnce rs ∧ Grants rs o) rs p.finish := by
  refine h.settle.bind_same fun q hq => ?_
  exact .ok ⟨hq.atMostOnce, hq.grants⟩

end Progress

/-- **A spelling is read as what it asks for,** unless that is something twice. -/
theorem reads_spelling (phrases : List Phrase) :
    Reads (fun o => AtMostOnce (asked phrases) ∧ Grants (asked phrases) o) (asked phrases)
      (read (spelling phrases)) := by
  have hphrases := Progress.settled_start.heard.phrases phrases
  rw [List.nil_append] at hphrases
  exact hphrases.bind_same fun p hp => hp.finish

theorem Reads.eq_of_perm {rs' : List Request} {x y : Except Stop Options}
    (h : Reads (fun o => AtMostOnce rs ∧ Grants rs o) rs x)
    (h' : Reads (fun o => AtMostOnce rs' ∧ Grants rs' o) rs' y) (hperm : rs.Perm rs') : y = x := by
  cases h with
  | ok ho =>
    cases h' with
    | ok ho' => rw [ho'.2.unique (ho.2.of_perm hperm)]
    | repeated hrepeated => exact absurd (ho.1.of_perm hperm) hrepeated
  | repeated hrepeated =>
    cases h' with
    | ok ho' => exact absurd (ho'.1.of_perm hperm.symm) hrepeated
    | repeated _ => rfl

/-- **How options are read.** They can be spelled in any way: by name, by letter or in clusters,
with the value of a source in the same argument or in the next one. The options are read if and only
if neither an indented report nor a source is asked for twice, and then they are what is asked for,
in whatever order and spelling. Otherwise the reason is that something is given again. -/
theorem read_spelling (phrases : List Phrase) :
    ((∃ o, read (spelling phrases) = .ok o) ↔ AtMostOnce (asked phrases)) ∧
    (∀ o, read (spelling phrases) = .ok o → Grants (asked phrases) o) ∧
    (¬ AtMostOnce (asked phrases) →
      read (spelling phrases) = .error .repeated ∧ Stop.repeated.exitCode = 2) ∧
    ∀ phrases', (asked phrases).Perm (asked phrases') →
      read (spelling phrases') = read (spelling phrases) := by
  have hreads := reads_spelling phrases
  refine ⟨?_, ?_, ?_, fun phrases' hperm => hreads.eq_of_perm (reads_spelling phrases') hperm⟩
  · generalize read (spelling phrases) = answer at hreads
    cases hreads with
    | ok ho => exact ⟨fun _ => ho.1, fun _ => ⟨_, rfl⟩⟩
    | repeated hrepeated => exact ⟨nofun, fun honce => absurd honce hrepeated⟩
  · intro o ho
    rw [ho] at hreads
    cases hreads with
    | ok hgrants => exact hgrants.2
  · intro hrepeated
    generalize read (spelling phrases) = answer at hreads
    cases hreads with
    | ok ho => exact absurd ho.1 hrepeated
    | repeated _ => exact ⟨rfl, rfl⟩

/-- Letters and a source share an argument, and the count goes on behind them. -/
example : spelling [.sourceLetter [.verbose, .pretty] .next .datalink, .name .verbose] =
      ["-vps", "datalink", "--verbose"] ∧
    read ["-vps", "datalink", "--verbose"] = .ok ⟨true, .datalink, 2⟩ ∧
    read ["-s", "datalink", "-s=datalink"] = .error .repeated := by
  decide +kernel

end HostAddresses.Options
