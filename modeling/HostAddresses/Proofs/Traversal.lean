import Mathlib.Data.List.Forall2

/-!
# Traversals that may fail

A list is run through and every item gives a result or a failure, and the first failure ends it all.
Both ends are known exactly: all items have given their results, in order (`mapM_eq_ok_iff`), or
there is an item that has failed with all items before it having given a result, whatever the items
behind it are (`mapM_eq_error_iff`).
-/

namespace HostAddresses

variable {α β ε : Type} {f : α → Except ε β}

/-- What stands in one of two lists that go together has a partner in the other. -/
theorem exists_of_mem_forall₂ {R : α → β → Prop} {l : List α} {l' : List β}
    (h : List.Forall₂ R l l') {a : α} (ha : a ∈ l) : ∃ b ∈ l', R a b := by
  induction h with
  | nil => cases ha
  | cons hb _ ih =>
    rcases List.mem_cons.mp ha with rfl | ha
    · exact ⟨_, List.mem_cons_self, hb⟩
    · obtain ⟨b, hmem, hrel⟩ := ih ha
      exact ⟨b, List.mem_cons_of_mem _ hmem, hrel⟩

/-- An item that gives a result is passed. -/
theorem mapM_cons_of_ok {a : α} {b : β} (h : f a = .ok b) (l : List α) :
    (a :: l).mapM f = (l.mapM f).map (b :: ·) := by
  rw [List.mapM_cons, h]
  cases l.mapM f <;> rfl

/-- An item that fails ends it all. -/
theorem mapM_cons_of_error {a : α} {e : ε} (h : f a = .error e) (l : List α) :
    (a :: l).mapM f = .error e := by
  rw [List.mapM_cons, h]
  rfl

/-- **A traversal succeeds** if and only if every item gives a result. -/
theorem mapM_eq_ok_iff {l : List α} {bs : List β} :
    l.mapM f = .ok bs ↔ List.Forall₂ (fun a b => f a = .ok b) l bs := by
  constructor
  · intro h
    induction l generalizing bs with
    | nil =>
      cases h
      exact .nil
    | cons a l ih =>
      cases ha : f a with
      | error e =>
        rw [mapM_cons_of_error ha] at h
        cases h
      | ok b =>
        rw [mapM_cons_of_ok ha] at h
        cases hl : l.mapM f with
        | error e =>
          rw [hl] at h
          cases h
        | ok cs =>
          rw [hl] at h
          cases h
          exact .cons ha (ih hl)
  · intro h
    induction h with
    | nil => rfl
    | cons ha _ ih =>
      rw [mapM_cons_of_ok ha, ih]
      rfl

/-- The same where a failure has no reason. -/
theorem mapM_eq_some_iff {f : α → Option β} {l : List α} {bs : List β} :
    l.mapM f = some bs ↔ List.Forall₂ (fun a b => f a = some b) l bs := by
  induction l generalizing bs with
  | nil =>
    rw [List.mapM_nil, List.forall₂_nil_left_iff]
    exact Option.some_inj.trans eq_comm
  | cons a l ih =>
    rw [List.mapM_cons, Option.bind_eq_bind, Option.bind_eq_some_iff, List.forall₂_cons_left_iff]
    constructor
    · rintro ⟨b, hb, hrest⟩
      obtain ⟨cs, hcs, hbs⟩ := Option.bind_eq_some_iff.mp hrest
      exact ⟨b, cs, hb, ih.mp hcs, (Option.some_inj.mp hbs).symm⟩
    · rintro ⟨b, cs, hb, hcs, rfl⟩
      exact ⟨b, hb, Option.bind_eq_some_iff.mpr ⟨cs, ih.mpr hcs, rfl⟩⟩

/-- **A traversal fails** if and only if there is a first item that does. -/
theorem mapM_eq_error_iff {l : List α} {e : ε} :
    l.mapM f = .error e ↔ ∃ before a after, l = before ++ a :: after ∧
      (∀ b ∈ before, ∃ r, f b = .ok r) ∧ f a = .error e := by
  constructor
  · intro h
    induction l with
    | nil => cases h
    | cons a l ih =>
      cases ha : f a with
      | error e' =>
        rw [mapM_cons_of_error ha] at h
        cases h
        exact ⟨[], a, l, rfl, nofun, ha⟩
      | ok r =>
        rw [mapM_cons_of_ok ha] at h
        cases hl : l.mapM f with
        | ok bs =>
          rw [hl] at h
          cases h
        | error e' =>
          -- the first failure is behind the head, which is passed
          rw [hl] at h
          cases h
          obtain ⟨before, c, after, rfl, hbefore, hc⟩ := ih hl
          refine ⟨a :: before, c, after, rfl, ?_, hc⟩
          exact List.forall_mem_cons.mpr ⟨⟨r, ha⟩, hbefore⟩
  · rintro ⟨before, a, after, rfl, hbefore, ha⟩
    induction before with
    | nil => exact mapM_cons_of_error ha after
    | cons b before ih =>
      obtain ⟨⟨r, hr⟩, hrest⟩ := List.forall_mem_cons.mp hbefore
      rw [List.cons_append, mapM_cons_of_ok hr, ih hrest]
      rfl

/-- What is made of a result does not fail. -/
theorem map_eq_error_iff {outcome : Except ε α} {g : α → β} {e : ε} :
    outcome.map g = .error e ↔ outcome = .error e := by
  cases outcome with
  | error e' =>
    constructor
    · rintro ⟨⟩
      rfl
    · rintro ⟨⟩
      rfl
  | ok a => exact ⟨nofun, nofun⟩

theorem exists_mapM_eq_ok_iff {l : List α} :
    (∃ bs, l.mapM f = .ok bs) ↔ ∀ a ∈ l, ∃ b, f a = .ok b := by
  constructor
  · rintro ⟨bs, h⟩ a ha
    obtain ⟨b, -, hb⟩ := exists_of_mem_forall₂ (mapM_eq_ok_iff.mp h) ha
    exact ⟨b, hb⟩
  · intro h
    cases hl : l.mapM f with
    | ok bs => exact ⟨bs, rfl⟩
    | error e =>
      obtain ⟨before, a, after, rfl, -, ha⟩ := mapM_eq_error_iff.mp hl
      obtain ⟨b, hb⟩ := h a (List.mem_append_right before List.mem_cons_self)
      rw [ha] at hb
      cases hb

/-- Items that give the same in pairs are run through alike. -/
theorem mapM_eq_of_forall₂ {R : α → α → Prop} {l l' : List α} (h : List.Forall₂ R l l')
    (hR : ∀ a a', R a a' → f a = f a') : l.mapM f = l'.mapM f := by
  induction h with
  | nil => rfl
  | cons ha _ ih => rw [List.mapM_cons, List.mapM_cons, hR _ _ ha, ih]

end HostAddresses
