import HostAddresses.Proofs.Sockets
import Mathlib.Data.List.Basic

/-!
# Every entry is gathered

The table by socket addresses holds what the entries become, sorted by name and in no other way
changed. That is said by `Table.Gathers`, which does not mention how a table is made:

* a name stands in the table if and only if an entry has it, even if none of its entries becomes a
  record;
* names stand in the order of their first entries, so none stands twice;
* under a name stand the records of its entries, in the order of the entries.

No record is lost on the way and none is added (`Table.Gathers.perm_records`), and there is only one
table that gathers the entries (`Table.Gathers.eq`).
-/

namespace HostAddresses

namespace Grouping

/-! ## The order of first appearance -/

/-- **Names stand in the order in which they first appear.** -/
theorem pairwise_idxOf_eraseDups (names : List String) :
    names.eraseDups.Pairwise fun a b => names.idxOf a < names.idxOf b := by
  induction names using List.reverseRecOn with
  | nil => exact List.Pairwise.nil
  | append_singleton names name ih =>
    -- the last name does not move the ones that have appeared before it
    have hkept : ∀ a ∈ names.eraseDups, (names ++ [name]).idxOf a = names.idxOf a := by
      intro a ha
      exact List.idxOf_append_of_mem (List.mem_eraseDups.mp ha)
    have hbefore : names.eraseDups.Pairwise fun a b =>
        (names ++ [name]).idxOf a < (names ++ [name]).idxOf b := by
      refine ih.imp_of_mem ?_
      intro a b ha hb hlt
      rw [hkept a ha, hkept b hb]
      exact hlt
    rw [eraseDups_concat]
    by_cases h : name ∈ names
    · rw [if_pos h]
      exact hbefore
    · rw [if_neg h, List.pairwise_append]
      refine ⟨hbefore, List.pairwise_singleton _ _, ?_⟩
      intro a ha b hb
      have hlast : (names ++ [name]).idxOf name = names.length := by
        rw [List.idxOf_append_of_notMem h, List.idxOf_cons_self, Nat.add_zero]
      rw [List.mem_singleton.mp hb, hkept a ha, hlast]
      exact List.idxOf_lt_length_of_mem (List.mem_eraseDups.mp ha)

/-! ## Nothing is lost -/

/-- Items that are put under their keys are all the items, each as often as before. -/
theorem perm_flatMap_filter {ι κ : Type} [DecidableEq κ] {key : ι → κ} {keys : List κ}
    (hnodup : keys.Nodup) {items : List ι} (hmem : ∀ i ∈ items, key i ∈ keys) :
    (keys.flatMap fun k => items.filter (key · = k)).Perm items := by
  induction keys generalizing items with
  | nil =>
    have hnone : items = [] := List.eq_nil_iff_forall_not_mem.mpr fun i hi => nomatch hmem i hi
    rw [hnone]
    exact List.Perm.refl _
  | cons k keys ih =>
    obtain ⟨hk, hnodup⟩ := List.nodup_cons.mp hnodup
    have hothers : ∀ i ∈ items.filter fun i => !decide (key i = k), key i ∈ keys := by
      intro i hi
      obtain ⟨hitem, hother⟩ := List.mem_filter.mp hi
      have hne : key i ≠ k := by simpa using hother
      exact (List.mem_cons.mp (hmem i hitem)).resolve_left hne
    -- what the first key leaves are the items of the other keys, and all of them
    have hsame : ∀ k' ∈ keys, (items.filter fun i => !decide (key i = k)).filter (key · = k') =
        items.filter (key · = k') := by
      intro k' hk'
      have hne : k' ≠ k := fun heq => hk (heq ▸ hk')
      rw [List.filter_filter]
      refine List.filter_congr fun i _ => ?_
      by_cases h : key i = k'
      · simp [h, hne]
      · simp [h]
    have hrest := ih hnodup hothers
    rw [List.flatMap_congr hsame] at hrest
    rw [List.flatMap_cons]
    exact (hrest.append_left _).trans (List.filter_append_perm _ items)

end Grouping

namespace Table

/-! ## What it is to gather entries -/

/-- A table holds what entries become, gathered by name. -/
structure Gathers (t : Table) (entries : List Host.Entry) : Prop where
  /-- The names are those that entries have. -/
  names : ∀ name, name ∈ t.map Interface.name ↔ ∃ e ∈ entries, e.interface = name
  /-- No name stands twice. -/
  nodup : (t.map Interface.name).Nodup
  /-- A name stands before another if the first entry that has it does. -/
  order : (t.map Interface.name).Pairwise fun a b =>
    (entries.map Host.Entry.interface).idxOf a < (entries.map Host.Entry.interface).idxOf b
  /-- Under a name stand the records that its entries become, in the order of the entries. -/
  records : ∀ i ∈ t, i.records =
    (entries.filter (·.interface = i.name)).filterMap Host.Entry.record?

namespace Gathers

variable {t t' : Table} {entries : List Host.Entry}

/-- **No record is lost,** and none is added or doubled. -/
theorem perm_records (h : t.Gathers entries) :
    (t.flatMap Interface.records).Perm (entries.filterMap Host.Entry.record?) := by
  have hmem : ∀ e ∈ entries, e.interface ∈ t.map Interface.name := fun e he =>
    (h.names e.interface).mpr ⟨e, he, rfl⟩
  have hperm := (Grouping.perm_flatMap_filter h.nodup hmem).filterMap Host.Entry.record?
  rw [List.flatMap_map, List.filterMap_flatMap] at hperm
  rw [List.flatMap_congr h.records]
  exact hperm

theorem names_eq (h : t.Gathers entries) (h' : t'.Gathers entries) :
    t.map Interface.name = t'.map Interface.name := by
  have hmem : ∀ name, name ∈ t.map Interface.name ↔ name ∈ t'.map Interface.name := fun name =>
    (h.names name).trans (h'.names name).symm
  have hperm := (List.perm_ext_iff_of_nodup h.nodup h'.nodup).mpr hmem
  refine hperm.eq_of_pairwise ?_ h.order h'.order
  intro a b _ _ hab hba
  exact absurd hab (Nat.lt_asymm hba)

/-- An interface is known by its name. -/
theorem map_interfaceOf (h : t.Gathers entries) :
    t = (t.map Interface.name).map (Sockets.interfaceOf entries) := by
  rw [List.map_map]
  refine (List.map_id t).symm.trans (List.map_congr_left fun i hi => ?_)
  have hrecords := h.records i hi
  obtain ⟨name, records⟩ := i
  exact congrArg (Interface.mk name) hrecords

/-- **Only one table gathers the entries.** -/
theorem eq (h : t.Gathers entries) (h' : t'.Gathers entries) : t = t' := by
  rw [h.map_interfaceOf, h'.map_interfaceOf, h.names_eq h']

end Gathers

end Table

/-! ## The table of a host -/

namespace Sockets

theorem map_name_table (entries : List Host.Entry) :
    (table entries).map Interface.name = Host.names entries := by
  rw [table_eq, List.map_map]
  exact List.map_id' _

/-- **The table gathers the entries,** however their names are interleaved. -/
theorem gathers_table (entries : List Host.Entry) : (table entries).Gathers entries where
  names := by
    intro name
    rw [map_name_table, Host.mem_names_iff]
  nodup := by
    rw [map_name_table]
    exact Grouping.nodup_eraseDups _
  order := by
    rw [map_name_table]
    exact Grouping.pairwise_idxOf_eraseDups _
  records := by
    intro i hi
    rw [table_eq] at hi
    obtain ⟨name, -, rfl⟩ := List.mem_map.mp hi
    rfl

/-- **This source fails at no list of entries.** It makes the one table that gathers them, and the
records of the table are those that the entries become, no more and no fewer. -/
theorem outcome_listing_gathers (entries : List Host.Entry) :
    ∃ t, (listing (.listing entries)).outcome = .ok t ∧ t.Gathers entries ∧
      (∀ t' : Table, t'.Gathers entries → t' = t) ∧
      (t.flatMap Interface.records).Perm (entries.filterMap Host.Entry.record?) := by
  have hgathers := gathers_table entries
  refine ⟨table entries, outcome_listing entries, hgathers, ?_, hgathers.perm_records⟩
  intro t' h'
  exact h'.eq hgathers

end Sockets

end HostAddresses
