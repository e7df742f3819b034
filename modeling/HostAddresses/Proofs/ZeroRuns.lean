import HostAddresses.IPv6.Printer

/-!
# Runs of zero groups

The gap of an address stands for the longest run of its zero groups, and for the first of those that
are as long (`IPv6.IsLongest`). There is one such run, and the search finds it
(`IPv6.isLongest_longestZeroRun`): it looks at one start after the other, and what it has found is
the best run of those that start in front of where it is (`IPv6.IsBest`).
-/

namespace HostAddresses.IPv6

/-! ## Runs -/

/-- As many groups as this are zero, from here on. -/
def HasZeros (groups : List UInt16) (start length : Nat) : Prop :=
  ∀ i < length, groups[start + i]? = some 0

/-- **The longest run of zeros,** and the first of those that are as long. -/
structure IsLongest (groups : List UInt16) (start length : Nat) : Prop where
  zeros : HasZeros groups start length
  longest : ∀ start' length', HasZeros groups start' length' → length' ≤ length
  first : ∀ start', HasZeros groups start' length → start ≤ start'

variable {groups : List UInt16} {start length : Nat}

theorem IsLongest.unique {start' length' : Nat} (h : IsLongest groups start length)
    (h' : IsLongest groups start' length') : start = start' ∧ length = length' := by
  have hlength : length = length' :=
    Nat.le_antisymm (h'.longest _ _ h.zeros) (h.longest _ _ h'.zeros)
  subst hlength
  exact ⟨Nat.le_antisymm (h.first _ h'.zeros) (h'.first _ h.zeros), rfl⟩

theorem le_leadingZeros_iff :
    length ≤ leadingZeros groups ↔ ∀ i < length, groups[i]? = some 0 := by
  induction groups generalizing length with
  | nil =>
    cases length with
    | zero => exact ⟨fun _ i hi => absurd hi (Nat.not_lt_zero i), fun _ => Nat.zero_le _⟩
    | succ n => exact ⟨nofun, fun h => nomatch h 0 (Nat.succ_pos n)⟩
  | cons g gs ih =>
    cases length with
    | zero => exact ⟨fun _ i hi => absurd hi (Nat.not_lt_zero i), fun _ => Nat.zero_le _⟩
    | succ n =>
      rw [Nat.forall_lt_succ_left]
      simp only [List.getElem?_cons_zero, List.getElem?_cons_succ, ← ih, Option.some.injEq]
      by_cases hg : g = 0 <;> simp [leadingZeros, hg]

/-- A run of zeros goes no further than the zeros from its start on. -/
theorem hasZeros_iff :
    HasZeros groups start length ↔ length ≤ leadingZeros (groups.drop start) := by
  simp only [HasZeros, le_leadingZeros_iff, List.getElem?_drop]

theorem eq_zeros_append (groups : List UInt16) {length : Nat} (h : length ≤ leadingZeros groups) :
    groups = List.replicate length 0 ++ groups.drop length := by
  induction groups generalizing length with
  | nil =>
    have h0 : length = 0 := by simpa [leadingZeros] using h
    simp [h0]
  | cons g gs ih =>
    cases length with
    | zero => simp
    | succ length =>
      by_cases hg : g = 0
      · have hle : length ≤ leadingZeros gs := by
          simpa [leadingZeros, hg] using h
        rw [List.drop_succ_cons, List.replicate_succ, List.cons_append, ← ih hle, hg]
      · simp [leadingZeros, hg] at h

/-- What stands before and behind a run of zeros. -/
theorem HasZeros.eq_append (h : HasZeros groups start length) :
    groups = groups.take start ++ List.replicate length 0 ++ groups.drop (start + length) := by
  rw [List.append_assoc, ← List.drop_drop, ← eq_zeros_append _ (hasZeros_iff.mp h),
    List.take_append_drop]

/-! ## The longest run -/

theorem leadingZeros_drop_of_le (h : groups.length ≤ start) :
    leadingZeros (groups.drop start) = 0 := by
  rw [List.drop_eq_nil_of_le h]
  rfl

/-- The best run after a look at one more start. -/
def better (groups : List UInt16) (best : Nat × Nat) (start : Nat) : Nat × Nat :=
  if best.2 < leadingZeros (groups.drop start) then (start, leadingZeros (groups.drop start))
  else best

/-- A run is the first of the longest ones that start in front of a place. -/
structure IsBest (groups : List UInt16) (bound : Nat) (run : Nat × Nat) : Prop where
  zeros : run.2 ≤ leadingZeros (groups.drop run.1)
  longest : ∀ start < bound, leadingZeros (groups.drop start) ≤ run.2
  first : ∀ start < run.1, leadingZeros (groups.drop start) < run.2

theorem IsBest.better {bound : Nat} {run : Nat × Nat} (h : IsBest groups bound run) :
    IsBest groups (bound + 1) (better groups run bound) := by
  unfold IPv6.better
  split
  · next hlt =>
    refine ⟨Nat.le_refl _, fun start hstart => ?_, fun start hstart => ?_⟩
    · rcases Nat.lt_succ_iff_lt_or_eq.mp hstart with hbefore | rfl
      · exact Nat.le_trans (h.longest start hbefore) (Nat.le_of_lt hlt)
      · exact Nat.le_refl _
    · exact Nat.lt_of_le_of_lt (h.longest start hstart) hlt
  · next hle =>
    refine ⟨h.zeros, fun start hstart => ?_, h.first⟩
    rcases Nat.lt_succ_iff_lt_or_eq.mp hstart with hbefore | rfl
    · exact h.longest start hbefore
    · exact Nat.le_of_not_lt hle

theorem isBest_foldl (groups : List UInt16) (bound : Nat) :
    IsBest groups bound ((List.range bound).foldl (better groups) (0, 0)) := by
  induction bound with
  | zero => exact ⟨Nat.zero_le _, nofun, nofun⟩
  | succ bound ih =>
    rw [List.range_succ, List.foldl_append]
    exact ih.better

/-- **What is found is the longest run of zeros.** -/
theorem isLongest_longestZeroRun (groups : List UInt16) :
    IsLongest groups (longestZeroRun groups).1 (longestZeroRun groups).2 := by
  have hbest : IsBest groups groups.length (longestZeroRun groups) := isBest_foldl groups _
  refine ⟨hasZeros_iff.mpr hbest.zeros, fun start length hzeros => ?_, fun start hzeros => ?_⟩
  · have hle := hasZeros_iff.mp hzeros
    by_cases hstart : start < groups.length
    · exact Nat.le_trans hle (hbest.longest start hstart)
    · rw [leadingZeros_drop_of_le (Nat.le_of_not_lt hstart)] at hle
      exact Nat.le_trans hle (Nat.zero_le _)
  · refine Nat.le_of_not_lt fun hlt => ?_
    have hshorter := hbest.first start hlt
    exact absurd (hasZeros_iff.mp hzeros) (Nat.not_le_of_lt hshorter)

end HostAddresses.IPv6
