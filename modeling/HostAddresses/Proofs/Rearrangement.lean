import HostAddresses.Proofs.Summarizing

/-!
# The order of a table does not show

A table lists interfaces, and an interface lists records. What of both orders reaches a report is
little: of an interface the last record of each family, and of a name its last interface. So a table
may be rearranged (`Table.Rearranged`) in two ways at once:

* interfaces of different names change places, those of one name do not;
* the records of an interface are replaced by any that end alike in every family.

Both tables then give the same text, or neither gives one. All interfaces count for whether there is
a text, those included that a later one of their name replaces, and this too survives: an interface
keeps its summary, or the lack of one, wherever it is put.
-/

namespace HostAddresses

/-! ## Interfaces that end alike -/

namespace Interface

/-- Two interfaces of one name whose records end alike in every family. -/
structure EndsLike (i j : Interface) : Prop where
  name : i.name = j.name
  inet : Record.last? .inet i.records = Record.last? .inet j.records
  inet6 : Record.last? .inet6 i.records = Record.last? .inet6 j.records
  /-- A netmask means nothing on a hardware address. -/
  link : (Record.last? .link i.records).map Record.address =
    (Record.last? .link j.records).map Record.address

theorem EndsLike.ofRecords_eq {i j : Interface} (h : i.EndsLike j) :
    Findings.ofRecords i.records = Findings.ofRecords j.records := by
  have hinet : (Findings.ofRecords i.records).inet = (Findings.ofRecords j.records).inet := by
    rw [Findings.inet_ofRecords, Findings.inet_ofRecords, Record.findSomeRev?_inet?,
      Record.findSomeRev?_inet?, h.inet]
  have hinet6 : (Findings.ofRecords i.records).inet6 = (Findings.ofRecords j.records).inet6 := by
    rw [Findings.inet6_ofRecords, Findings.inet6_ofRecords, Record.findSomeRev?_inet6?,
      Record.findSomeRev?_inet6?, h.inet6]
  have hmac : (Findings.ofRecords i.records).mac = (Findings.ofRecords j.records).mac := by
    rw [Findings.mac_ofRecords, Findings.mac_ofRecords, Record.findSomeRev?_link?,
      Record.findSomeRev?_link?, h.link]
  -- the three together are all that has been found
  obtain ⟨hipv4, hmask4⟩ := Prod.mk.inj hinet
  obtain ⟨hipv6, hmask6⟩ := Prod.mk.inj hinet6
  generalize Findings.ofRecords i.records = f at hipv4 hmask4 hipv6 hmask6 hmac ⊢
  generalize Findings.ofRecords j.records = g at hipv4 hmask4 hipv6 hmask6 hmac ⊢
  obtain ⟨_, _, _, _, _⟩ := f
  obtain ⟨_, _, _, _, _⟩ := g
  cases hipv4
  cases hmask4
  cases hipv6
  cases hmask6
  cases hmac
  rfl

/-- **Interfaces that end alike have one summary,** or fail alike. -/
theorem EndsLike.summary_eq {i j : Interface} (h : i.EndsLike j) : i.summary = j.summary := by
  unfold summary
  rw [h.ofRecords_eq, h.name]

end Interface

/-! ## Rearranging -/

namespace Table

/-- A table with its interfaces in another order, but for those of one name, and each with other
records that end like its own. -/
def Rearranged (t t' : Table) : Prop :=
  ∃ moved : Table, t.Perm moved ∧
    (∀ name, moved.filter (·.name = name) = t.filter (·.name = name)) ∧
    List.Forall₂ Interface.EndsLike moved t'

/-- The failure of an interface of a table whose netmask cannot be read. -/
def Malformed (t : Table) (e : ReportFailure) : Prop :=
  ∃ i ∈ t, i.summary = .error e ∧
    ∃ family mask cause, e = .badNetmask i.name family mask cause

variable {t t' : Table}

theorem malformed_of_mapM {e : ReportFailure} (h : t.mapM Interface.summary = .error e) :
    Malformed t e := by
  obtain ⟨before, i, after, rfl, -, hfail⟩ := mapM_eq_error_iff.mp h
  have hi : i ∈ before ++ i :: after := List.mem_append_right before List.mem_cons_self
  exact ⟨i, hi, hfail, Interface.badNetmask_of_summary hfail⟩

/-- A table of which every interface has a summary has none that fails. -/
theorem not_malformed_of_mapM {all : List Summary} (h : t.mapM Interface.summary = .ok all)
    (e : ReportFailure) : ¬ Malformed t e := by
  rintro ⟨i, hi, hfail, -⟩
  obtain ⟨s, hs⟩ := exists_mapM_eq_ok_iff.mp ⟨all, h⟩ i hi
  rw [hfail] at hs
  cases hs

theorem Malformed.perm {e : ReportFailure} (h : Malformed t e) (hperm : t.Perm t') :
    Malformed t' e := by
  obtain ⟨i, hi, hfail⟩ := h
  exact ⟨i, hperm.mem_iff.mp hi, hfail⟩

end Table

namespace Report

/-- **The report does not depend on the order** of interfaces that differ in their names. -/
theorem foldl_put_eq {t t' : Table} {all all' : List Summary}
    (h : t.mapM Interface.summary = .ok all) (h' : t'.mapM Interface.summary = .ok all')
    (hname : ∀ name, t'.filter (·.name = name) = t.filter (·.name = name)) :
    all.foldl put .empty = all'.foldl put .empty := by
  refine (sound_empty.foldl_put all).ordered.ext (sound_empty.foldl_put all').ordered fun name => ?_
  have hlast := map_findRev?_summaries (mapM_eq_ok_iff.mp h) name
  have hlast' := map_findRev?_summaries (mapM_eq_ok_iff.mp h') name
  -- the last interface of a name is the last of those of the name
  have hsame : (t'.findRev? fun i => i.name = name) = t.findRev? fun i => i.name = name := by
    rw [← findRev?_filter, hname name, findRev?_filter]
  rw [hsame, ← hlast] at hlast'
  have hinj : Function.Injective (Except.ok : Summary → Except ReportFailure Summary) :=
    fun _ _ heq => Except.ok.inj heq
  rw [find?_foldl_put, find?_foldl_put, Option.map_injective hinj hlast']

theorem outcome_textOfListing_pure (layout : Json.Layout) (t : Table) :
    (textOfListing layout (pure t)).outcome =
      (t.mapM Interface.summary).map fun all => toText layout (all.foldl put .empty) := by
  rw [outcome_textOfListing, outcome_ofListing]
  show ((t.mapM Interface.summary).map _).map _ = _
  cases t.mapM Interface.summary <;> rfl

/-- **A table may be rearranged.** Either both tables give the same text in a layout, or neither
gives one because of a netmask that cannot be read, which may be another one in each. -/
theorem text_of_rearranged {t t' : Table} (h : Table.Rearranged t t') (layout : Json.Layout) :
    (∃ text, (textOfListing layout (pure t)).outcome = .ok text ∧
      (textOfListing layout (pure t')).outcome = .ok text) ∨
    (∃ e e', (textOfListing layout (pure t)).outcome = .error e ∧
      (textOfListing layout (pure t')).outcome = .error e' ∧
      Table.Malformed t e ∧ Table.Malformed t' e') := by
  obtain ⟨moved, hperm, hname, hends⟩ := h
  have hmoved : moved.mapM Interface.summary = t'.mapM Interface.summary :=
    mapM_eq_of_forall₂ hends fun _ _ => Interface.EndsLike.summary_eq
  rw [outcome_textOfListing_pure, outcome_textOfListing_pure, ← hmoved]
  cases ht : t.mapM Interface.summary with
  | ok all =>
    cases ht' : moved.mapM Interface.summary with
    | ok all' =>
      have hreport := foldl_put_eq ht ht' hname
      exact Or.inl ⟨_, rfl, congrArg (fun report => Except.ok (toText layout report)) hreport.symm⟩
    | error e' =>
      -- the interface that fails has not failed in its old place
      have hback := (Table.malformed_of_mapM ht').perm hperm.symm
      exact absurd hback (Table.not_malformed_of_mapM ht e')
  | error e =>
    have hmalformed := Table.malformed_of_mapM ht
    cases ht' : moved.mapM Interface.summary with
    | ok all' =>
      exact absurd (hmalformed.perm hperm) (Table.not_malformed_of_mapM ht' e)
    | error e' =>
      refine Or.inr ⟨e, e', rfl, rfl, hmalformed, ?_⟩
      exact Table.malformed_of_mapM (hmoved ▸ ht')

end Report

/-- A table that lists a name twice, with another between, and a netmask that would not be read if
its record were the last. -/
def Table.scattered : Table :=
  [⟨"wlan0", [⟨.inet, "10.0.0.1", some "10"⟩, ⟨.inet, "10.0.0.2", some "255.0.255.0"⟩]⟩,
    ⟨"lo", []⟩,
    ⟨"wlan0", [⟨.inet6, "fe80::1%wlan0", some "ffff::"⟩, ⟨.link, "02:42:ac:00:00:02", none⟩,
      ⟨.inet, "10.0.0.3", some "255.0.0.0"⟩]⟩]

/-- The same with both entries of the name in front, and other records where they do not count. -/
def Table.gathered : Table :=
  [⟨"wlan0", [⟨.inet, "10.0.0.2", some "255.0.255.0"⟩]⟩,
    ⟨"wlan0", [⟨.inet, "10.0.0.3", some "255.0.0.0"⟩, ⟨.link, "02:42:ac:00:00:02", some "ff"⟩,
      ⟨.other 40, "cid: 1 port: 2", none⟩, ⟨.inet6, "fe80::1%wlan0", some "ffff::"⟩]⟩,
    ⟨"lo", [⟨.other 16, "pid: 1 groups: 0", none⟩]⟩]

theorem Report.text_of_gathered :
    Table.Rearranged Table.scattered Table.gathered ∧
      ∃ text, (textOfListing .indented (pure Table.scattered)).outcome = .ok text ∧
        (textOfListing .indented (pure Table.gathered)).outcome = .ok text := by
  have hmoved : Table.Rearranged Table.scattered Table.gathered := by
    refine ⟨_, .cons _ (.swap _ _ _), ?_, ?_⟩
    · intro name
      by_cases hlo : "lo" = name
      · subst hlo
        rfl
      · simp [Table.scattered, List.filter_cons, hlo]
    · exact .cons ⟨rfl, by decide, by decide, by decide⟩
        (.cons ⟨rfl, by decide, by decide, by decide⟩
          (.cons ⟨rfl, by decide, by decide, by decide⟩ .nil))
  refine ⟨hmoved, ?_⟩
  rcases text_of_rearranged hmoved .indented with htext | ⟨e, _, hfail, _⟩
  · exact htext
  · -- every netmask of the first table is read
    have hok : (Table.scattered.mapM Interface.summary).toOption.isSome = true := by
      decide +kernel
    rw [outcome_textOfListing_pure] at hfail
    cases hall : Table.scattered.mapM Interface.summary with
    | ok all =>
      rw [hall] at hfail
      cases hfail
    | error e' =>
      rw [hall] at hok
      cases hok

end HostAddresses
