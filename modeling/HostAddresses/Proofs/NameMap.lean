import HostAddresses.NameMap

/-!
# A map is what it says about its names

`find?` sees everything that there is in a map whose names increase: such a map holds an entry if
and only if `find?` answers it (`Ordered.find?_eq_some_iff`), no name occurs twice in it, and two
such maps that answer alike are equal, entry by entry (`Ordered.ext`). So the list behind a map is
no more than a way to write the map down, and equality of maps is equality of what they say.
-/

namespace HostAddresses

theorem Utf8.before_irrefl (s : String) : ¬ Before s s := List.lt_irrefl (bytes s)

/-- Lists whose keys increase are equal if they hold the same. -/
theorem eq_of_increasing {β : Type} (key : β → String) {l l' : List β}
    (h : l.Pairwise fun a b => Utf8.Before (key a) (key b))
    (h' : l'.Pairwise fun a b => Utf8.Before (key a) (key b)) (hmem : ∀ b, b ∈ l ↔ b ∈ l') :
    l = l' := by
  have hnodup : ∀ {m : List β}, (m.Pairwise fun a b => Utf8.Before (key a) (key b)) → m.Nodup := by
    intro m hm
    refine hm.imp ?_
    intro a b hlt heq
    exact Utf8.before_irrefl (key b) (heq ▸ hlt)
  have hperm : l.Perm l' := (List.perm_ext_iff_of_nodup (hnodup h) (hnodup h')).mpr hmem
  refine List.Perm.eq_of_pairwise ?_ h h' hperm
  intro a b _ _ hab hba
  exact absurd (Utf8.before_trans hab hba) (Utf8.before_irrefl (key a))

namespace NameMap

variable {α : Type}

/-- The names of a map, in order. -/
def names (map : NameMap α) : List String := map.entries.map Prod.fst

theorem length_names (map : NameMap α) : map.names.length = map.size := List.length_map _

theorem isEmpty_iff (map : NameMap α) : map.isEmpty = true ↔ map.size = 0 := by
  rw [isEmpty, List.isEmpty_iff, size, List.length_eq_zero_iff]

theorem find?_insert (map : NameMap α) (name other : String) (a : α) :
    (map.insert name a).find? other = if other = name then some a else map.find? other := by
  by_cases h : other = name
  · rw [if_pos h, h, find?_insert_self]
  · rw [if_neg h, find?_insert_of_ne map h]

theorem mem_names_iff {map : NameMap α} {name : String} :
    name ∈ map.names ↔ ∃ a, map.find? name = some a := by
  obtain ⟨entries⟩ := map
  simp only [names, find?, List.mem_map, Option.map_eq_some_iff]
  constructor
  · rintro ⟨entry, hmem, rfl⟩
    cases h : entries.find? fun e => e.1 = entry.1 with
    | none => exact absurd (List.find?_eq_none.mp h entry hmem) (by simp)
    | some e => exact ⟨e.2, e, rfl, rfl⟩
  · rintro ⟨_, entry, hfind, rfl⟩
    exact ⟨entry, List.mem_of_find?_eq_some hfind, by simpa using List.find?_some hfind⟩

namespace Ordered

variable {map : NameMap α}

theorem nodup_names (h : map.Ordered) : map.names.Nodup := by
  refine List.pairwise_map.mpr (h.imp ?_)
  intro a b hlt heq
  exact Utf8.before_irrefl b.1 (heq ▸ hlt)

/-- **A map holds an entry if and only if it answers it.** -/
theorem find?_eq_some_iff (h : map.Ordered) {name : String} {a : α} :
    map.find? name = some a ↔ (name, a) ∈ map.entries := by
  obtain ⟨entries⟩ := map
  simp only [Ordered, find?] at h ⊢
  induction entries with
  | nil => simp
  | cons entry rest ih =>
    obtain ⟨hhead, htail⟩ := List.pairwise_cons.mp h
    by_cases heq : entry.1 = name
    · -- the names behind the head are all greater, so none of them is its name again
      have hrest : (name, a) ∉ rest := fun hmem =>
        Utf8.before_irrefl name (heq ▸ hhead (name, a) hmem)
      obtain ⟨n, b⟩ := entry
      subst heq
      simp [hrest, eq_comm]
    · have hne : (name, a) ≠ entry := fun hentry => heq (by rw [← hentry])
      rw [List.find?_cons_of_neg (by simpa using heq), ih htail, List.mem_cons]
      exact ⟨Or.inr, fun hmem => hmem.resolve_left hne⟩

/-- **Maps that answer alike are equal.** -/
theorem ext {map' : NameMap α} (h : map.Ordered) (h' : map'.Ordered)
    (hfind : ∀ name, map.find? name = map'.find? name) : map = map' := by
  have hentries : map.entries = map'.entries := by
    refine eq_of_increasing Prod.fst h h' fun e => ?_
    rw [← h.find?_eq_some_iff, ← h'.find?_eq_some_iff, hfind]
  obtain ⟨entries⟩ := map
  exact congrArg NameMap.mk hentries

/-- Maps of the same names list them alike, whatever their values are. -/
theorem names_ext {β : Type} {map' : NameMap β} (h : map.Ordered) (h' : map'.Ordered)
    (hmem : ∀ name, name ∈ map.names ↔ name ∈ map'.names) : map.names = map'.names :=
  eq_of_increasing id (List.pairwise_map.mpr h) (List.pairwise_map.mpr h') hmem

end Ordered

end NameMap

end HostAddresses
