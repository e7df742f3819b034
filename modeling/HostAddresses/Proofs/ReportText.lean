import HostAddresses.Proofs.Json.Written
import HostAddresses.Proofs.Session

/-!
# The text of a report says all of it

Whatever steps a session takes, the text of its report is JSON that says which summaries the report
holds, in the order of their names (`Report.ReadBack`). Nothing is lost in it, so reports with one
text are one report.

That is so although a summary is written without its name. A report holds a summary under its own
name and under no other, so the key in front of the summary is as good as the name in it
(`Report.Holds.entries_eq`). Of reports made in another way it would not be true.
-/

namespace HostAddresses

/-! ## One summary -/

/-- What the text of a summary has to say. -/
def Summary.said (s : Summary) : Json.Value :=
  .object [("ipv4", .string s.ipv4), ("ipv6", .string s.ipv6), ("mac", .string s.mac)]

theorem Summary.value_toJson (s : Summary) : s.toJson.value = s.said := by
  simp only [toJson, said, Json.value, Json.values]

/-- A summary is its name and what its document says. -/
theorem Summary.ext_toJson {s t : Summary} (hname : s.name = t.name) (h : s.toJson = t.toJson) :
    s = t := by
  obtain ⟨name, ipv4, ipv6, mac⟩ := s
  simp only [toJson, Json.object.injEq, List.cons.injEq, Prod.mk.injEq, Json.string.injEq, true_and,
    and_true] at h
  obtain ⟨hipv4, hipv6, hmac⟩ := h
  dsimp only at hname
  rw [hname, hipv4, hipv6, hmac]

namespace Report

/-- What the text of a report has to say: its summaries, in order, each behind the name under which
it stands. -/
def said (report : Report) : Json.Value :=
  .object ((NameMap.entries report).map fun (name, s) => (name, s.said))

theorem value_toJson (report : Report) : report.toJson.value = report.said := by
  rw [toJson, Json.value, Json.values_eq_map, List.map_map, said]
  refine congrArg Json.Value.object (List.map_congr_left fun entry _ => ?_)
  exact congrArg (Prod.mk entry.1) entry.2.value_toJson

/-- **What is read in the text of a report.** -/
structure ReadBack (report : Report) (layout : Json.Layout) : Prop where
  /-- The text is JSON, and says one thing. -/
  json : ∀ v, Json.Says (report.toText layout).toList v ↔ v = report.said
  read : Json.read? (report.toText layout) = some report.said
  /-- The names increase, and none occurs twice. -/
  increasing : (NameMap.names report).Pairwise Utf8.Before
  nodup : (NameMap.names report).Nodup
  /-- The name in front of a summary is its own. -/
  names : NameMap.names report = (NameMap.values report).map Summary.name
  /-- The summaries are those that the report answers. -/
  stored : ∀ s, s ∈ NameMap.values report ↔ report.find? s.name = some s

namespace Holds

variable {report report' : Report} {map map' : Summaries}

theorem entries_eq (h : report.Holds map) :
    NameMap.entries report = (NameMap.values report).map fun s => (s.name, s) := by
  rw [NameMap.values, List.map_map]
  refine (List.map_id _).symm.trans (List.map_congr_left fun entry hentry => ?_)
  exact Prod.ext (h.keyed_entry hentry).symm rfl

theorem readBack (h : report.Holds map) (layout : Json.Layout) : report.ReadBack layout where
  json := by
    intro v
    rw [← Json.read?_eq_some_iff, toText, Json.read?_toText, value_toJson, Option.some.injEq,
      eq_comm]
  read := by rw [toText, Json.read?_toText, value_toJson]
  increasing := List.pairwise_map.mpr h.ordered
  nodup := h.ordered.nodup_names
  names := by
    rw [NameMap.names, h.entries_eq, List.map_map]
    rfl
  stored := by
    intro s
    rw [h.lists_values.mem_iff, h.find?]

/-- **Reports with one text are one report.** -/
theorem toText_inj (h : report.Holds map) (h' : report'.Holds map') {layout : Json.Layout}
    (htext : report.toText layout = report'.toText layout) : report = report' := by
  have hjson := Json.toText_inj htext
  rw [h.toJson_eq, h'.toJson_eq, Json.object.injEq] at hjson
  have hvalues : NameMap.values report = NameMap.values report' := by
    refine List.map_injective_iff.mpr ?_ hjson
    intro s t hst
    exact Summary.ext_toJson (Prod.mk.inj hst).1 (Prod.mk.inj hst).2
  have hentries : NameMap.entries report = NameMap.entries report' := by
    rw [h.entries_eq, h'.entries_eq, hvalues]
  exact congrArg NameMap.mk hentries

/-- A name that is not the key would be lost. -/
example :
    toText .compact ⟨[("a", .empty "a")]⟩ = toText .compact ⟨[("a", .empty "b")]⟩ ∧
      (⟨[("a", .empty "a")]⟩ : Report) ≠ ⟨[("a", .empty "b")]⟩ := ⟨rfl, by decide⟩

end Holds

end Report

/-! ## The reports of sessions -/

namespace Session

/-- The report that some steps build. -/
def built (steps : List Step) : Report := (empty.after steps).report

/-- **Whatever is built is read back,** and no two reports that can be built have one text. -/
theorem built_readBack (steps : List Step) (layout : Json.Layout) :
    (built steps).ReadBack layout ∧
      ∀ steps', (built steps).toText layout = (built steps').toText layout ↔
        built steps = built steps' := by
  have hbuilt := fun steps => (tracks_after tracks_empty steps).report
  refine ⟨(hbuilt steps).readBack layout, fun steps' => ⟨?_, ?_⟩⟩
  · exact (hbuilt steps).toText_inj (hbuilt steps')
  · intro h
    rw [h]

end Session

end HostAddresses
