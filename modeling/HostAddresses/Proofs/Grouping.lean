import HostAddresses.Grouping
import Mathlib.Data.List.Induction

/-!
# What grouping gathers

Items are added one after the other to groups that an association list holds, and each group is
itself a fold of the items that it has been given. This file says what comes out of both folds
without mentioning either:

* a field that an item may overwrite ends as the **last** item that overwrites it has it, and a
  field that an item may extend ends as all extensions in a row;
* the groups are one for every name, in the order in which the names first appear, and the group of
  a name is the fold of the items of that name alone. How the names are interleaved does not matter.
-/

namespace HostAddresses.Grouping

/-! ## One field of a fold -/

section Fields

variable {σ α β : Type}

/-- A field that items overwrite is as the last item that overwrites it has it. -/
theorem field_foldl_overwrite {field : σ → β} {note : σ → α → σ} {value : α → Option β}
    (h : ∀ s a, field (note s a) = (value a).getD (field s)) (items : List α) (s : σ) :
    field (items.foldl note s) = (items.findSomeRev? value).getD (field s) := by
  induction items generalizing s with
  | nil => rfl
  | cons a items ih =>
    rw [List.foldl_cons, ih, h, List.findSomeRev?]
    cases items.findSomeRev? value with
    | none => rfl
    | some b => rfl

/-- A field that items may extend is what it was, and then all extensions in order. -/
theorem field_foldl_append {field : σ → List β} {note : σ → α → σ} {more : α → Option β}
    (h : ∀ s a, field (note s a) = field s ++ (more a).toList) (items : List α) (s : σ) :
    field (items.foldl note s) = field s ++ items.filterMap more := by
  induction items generalizing s with
  | nil => simp
  | cons a items ih =>
    rw [List.foldl_cons, ih, h, List.filterMap_cons]
    cases more a with
    | none => simp
    | some b => simp

/-- A field that no item touches stays. -/
theorem field_foldl_same {field : σ → β} {note : σ → α → σ}
    (h : ∀ s a, field (note s a) = field s) (items : List α) (s : σ) :
    field (items.foldl note s) = field s := by
  induction items generalizing s with
  | nil => rfl
  | cons a items ih => rw [List.foldl_cons, ih, h]

end Fields

/-! ## Names in order of first appearance -/

variable {ι α : Type}

theorem eraseDups_concat (names : List String) (name : String) :
    (names ++ [name]).eraseDups =
      if name ∈ names then names.eraseDups else names.eraseDups ++ [name] := by
  rw [List.eraseDups_append]
  by_cases h : name ∈ names
  · simp [h, List.removeAll]
  · simp [h, List.removeAll, List.eraseDups_cons]

/-- No name appears first more than once. -/
theorem nodup_eraseDups (names : List String) : names.eraseDups.Nodup := by
  induction names using List.reverseRecOn with
  | nil => exact List.nodup_nil
  | append_singleton names name ih =>
    rw [eraseDups_concat]
    by_cases h : name ∈ names
    · rw [if_pos h]
      exact ih
    · rw [if_neg h, List.nodup_append]
      refine ⟨ih, by simp, ?_⟩
      intro n hn m hm heq
      rw [List.mem_singleton] at hm
      exact h (hm ▸ heq ▸ List.mem_eraseDups.mp hn)

/-! ## The groups -/

theorem update_of_mem {name : String} {names : List String} (h : name ∈ names) (hnd : names.Nodup)
    (fresh : α) (change : α → α) (group : String → α) :
    update name fresh change (names.map fun n => (n, group n)) =
      names.map fun n => (n, if n = name then change (group n) else group n) := by
  induction names with
  | nil => exact absurd h (by simp)
  | cons n names ih =>
    obtain ⟨hn, hnd⟩ := List.nodup_cons.mp hnd
    rw [List.map_cons, List.map_cons, update]
    by_cases heq : n = name
    · -- the name does not occur again, so the rest stays
      rw [if_pos heq, if_pos heq]
      refine congrArg _ (List.map_congr_left fun m hm => ?_)
      have hne : m ≠ name := fun hmn => hn (by rwa [heq, ← hmn])
      rw [if_neg hne]
    · rw [if_neg heq, if_neg heq, ih ((List.mem_cons.mp h).resolve_left (Ne.symm heq)) hnd]

theorem update_of_not_mem {name : String} {names : List String} (h : name ∉ names)
    (fresh : α) (change : α → α) (group : String → α) :
    update name fresh change (names.map fun n => (n, group n)) =
      (names.map fun n => (n, group n)) ++ [(name, change fresh)] := by
  induction names with
  | nil => rfl
  | cons n names ih =>
    rw [List.mem_cons, not_or] at h
    rw [List.map_cons, update, if_neg (Ne.symm h.1), ih h.2, List.cons_append]

variable {nameOf : ι → String} {fresh : String → α} {note : α → ι → α}

/-- **What grouping gathers.** One group for every name, and in it the items of that name. -/
theorem groups_eq (items : List ι) :
    groups nameOf fresh note items =
      (items.map nameOf).eraseDups.map fun name =>
        (name, (items.filter (nameOf · = name)).foldl note (fresh name)) := by
  induction items using List.reverseRecOn with
  | nil => rfl
  | append_singleton items item ih =>
    have hadd : groups nameOf fresh note (items ++ [item]) =
        add nameOf fresh note (groups nameOf fresh note items) item := by
      rw [groups, List.foldl_append]
      rfl
    have hgroup : ∀ name, ((items ++ [item]).filter (nameOf · = name)).foldl note (fresh name) =
        if name = nameOf item
        then note ((items.filter (nameOf · = name)).foldl note (fresh name)) item
        else (items.filter (nameOf · = name)).foldl note (fresh name) := by
      intro name
      rw [List.filter_append, List.foldl_append]
      by_cases h : nameOf item = name
      · simp [h]
      · simp [h, Ne.symm h]
    rw [hadd, add, ih, List.map_append, List.map_singleton, eraseDups_concat]
    simp only [hgroup]
    by_cases h : nameOf item ∈ items.map nameOf
    · rw [if_pos h, update_of_mem (List.mem_eraseDups.mpr h) (nodup_eraseDups _)]
    · have hnot : nameOf item ∉ (items.map nameOf).eraseDups := fun hm =>
        h (List.mem_eraseDups.mp hm)
      rw [if_neg h, update_of_not_mem hnot, List.map_append, List.map_singleton, if_pos rfl]
      have hnone : items.filter (nameOf · = nameOf item) = [] := by
        rw [List.filter_eq_nil_iff]
        intro i hi hname
        exact h (List.mem_map.mpr ⟨i, hi, by simpa using hname⟩)
      rw [hnone]
      refine congrArg (· ++ _) (List.map_congr_left fun name hname => ?_)
      have hne : name ≠ nameOf item := fun heq => hnot (by rwa [← heq])
      rw [if_neg hne]

end HostAddresses.Grouping
