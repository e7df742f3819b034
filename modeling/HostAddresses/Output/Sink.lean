/-!
# Sinks

Something that bytes are written to, call by call. A sink takes at most `chunk` bytes in one call
and at most `limit` bytes in all, and refuses a call that comes after the limit.

Writing all of some bytes takes as many calls as needed. It ends early with the first failure, or
when a call takes no byte, and what has been taken by then stays written. By `write_eq` it does
not matter how the bytes are split into calls.
-/

namespace HostAddresses.Output

/-- Why bytes cannot be written. -/
inductive Failure where
  | brokenPipe
  | permissionDenied
  | timedOut
  | wouldBlock
  | writeZero
  /-- The device is full. -/
  | noSpace
  /-- A call has taken no byte. -/
  | incomplete
deriving DecidableEq

/-- The wording of a failure. -/
def Failure.message : Failure → String
  | .brokenPipe => "broken pipe"
  | .permissionDenied => "permission denied"
  | .timedOut => "timed out"
  | .wouldBlock => "operation would block"
  | .writeZero => "write zero"
  | .noSpace => "No space left on device (os error 28)"
  | .incomplete => "failed to write whole buffer"

/-- How a sink refuses a call. -/
inductive Refusal where
  /-- The call fails. -/
  | failure (f : Failure)
  /-- The call takes no byte. -/
  | nothing
deriving DecidableEq

/-- Why bytes cannot be written when a call is refused like this. -/
def Refusal.reason : Refusal → Failure
  | .failure f => f
  | .nothing => .incomplete

/-- Something that bytes are written to. -/
structure Sink where
  /-- The most bytes that one call takes, if there is a most. -/
  chunk : Option Nat
  /-- The most bytes that all calls take, if there is a most. -/
  limit : Option Nat
  /-- What happens to a call after the limit. -/
  refusal : Refusal
  /-- How the sink fails when it is flushed, if it does. -/
  flushFailure : Option Failure
deriving DecidableEq

namespace Sink

/-- A sink that takes everything. -/
def unlimited : Sink := ⟨none, none, .failure .brokenPipe, none⟩

/-- A device that is full. -/
def full : Sink := ⟨none, some 0, .failure .noSpace, none⟩

/-- The lesser of a number and a bound, if there is a bound. -/
def atMost (bound : Option Nat) (n : Nat) : Nat := (bound.map (min n)).getD n

/-- How many of `offered` bytes there is room for after `used` bytes. -/
def room (sink : Sink) (used offered : Nat) : Nat := atMost (sink.limit.map (· - used)) offered

/-- How many of `offered` bytes one call takes after `used` bytes. -/
def call (sink : Sink) (used offered : Nat) : Except Failure Nat :=
  if sink.room used offered = 0 then
    match sink.refusal with
    | .failure f => .error f
    | .nothing => .ok 0
  else .ok (atMost sink.chunk (sink.room used offered))

/-- Writes all of some bytes after `used` bytes: the bytes that are taken, and why not all are. -/
def write (sink : Sink) (used : Nat) (bytes : List UInt8) : List UInt8 × Option Failure :=
  if bytes = [] then ([], none)
  else
    match sink.call used bytes.length with
    | .error f => ([], some f)
    | .ok 0 => ([], some .incomplete)
    | .ok (n + 1) =>
      let rest := sink.write (used + (n + 1)) (bytes.drop (n + 1))
      (bytes.take (n + 1) ++ rest.1, rest.2)
termination_by bytes.length
decreasing_by
  rename_i h
  have := List.length_pos_iff.mpr h
  simp only [List.length_drop]
  omega

/-! ## What is taken does not depend on the calls -/

theorem atMost_le (bound : Option Nat) (n : Nat) : atMost bound n ≤ n := by
  cases bound with
  | none => exact Nat.le_refl n
  | some m => exact Nat.min_le_left n m

theorem atMost_pos {bound : Option Nat} (h : bound ≠ some 0) {n : Nat} (hn : 0 < n) :
    0 < atMost bound n := by
  cases bound with
  | none => exact hn
  | some m =>
    have hm : m ≠ 0 := fun h0 => h (h0 ▸ rfl)
    exact Nat.lt_min.mpr ⟨hn, Nat.pos_of_ne_zero hm⟩

theorem room_sub (sink : Sink) (used offered n : Nat) :
    sink.room (used + n) (offered - n) = sink.room used offered - n := by
  unfold room
  cases sink.limit with
  | none => rfl
  | some m =>
    simp only [atMost, Option.map_some, Option.getD_some]
    omega

/-- A call takes some bytes and no more than there is room for, or there is no room. -/
theorem call_cases {sink : Sink} (hchunk : sink.chunk ≠ some 0) (used offered : Nat) :
    (sink.room used offered = 0 ∧
      (sink.call used offered = .ok 0 ∧ sink.refusal.reason = .incomplete ∨
        sink.call used offered = .error sink.refusal.reason)) ∨
    ∃ n, sink.call used offered = .ok (n + 1) ∧ n + 1 ≤ sink.room used offered := by
  unfold call
  by_cases h : sink.room used offered = 0
  · rw [if_pos h]
    cases sink.refusal with
    | failure f => exact Or.inl ⟨h, Or.inr rfl⟩
    | nothing => exact Or.inl ⟨h, Or.inl ⟨rfl, rfl⟩⟩
  · rw [if_neg h]
    have hpos := atMost_pos hchunk (Nat.pos_of_ne_zero h)
    obtain ⟨n, hn⟩ := Nat.exists_eq_succ_of_ne_zero (Nat.ne_of_gt hpos)
    have hle := atMost_le sink.chunk (sink.room used offered)
    exact Or.inr ⟨n, by rw [hn], by omega⟩

/-- As many bytes are taken as there is room for, and writing fails if that is not all of them. -/
theorem write_eq {sink : Sink} (hchunk : sink.chunk ≠ some 0) (used : Nat)
    (bytes : List UInt8) :
    sink.write used bytes =
      (bytes.take (sink.room used bytes.length),
        if sink.room used bytes.length < bytes.length then some sink.refusal.reason else none) := by
  fun_induction sink.write used bytes with
  | case1 used => simp
  | case2 used bytes hne f hcall =>
    -- only a call without room fails, so nothing more is taken
    have hlen : 0 < bytes.length := List.length_pos_iff.mpr hne
    rcases call_cases hchunk used bytes.length with ⟨h0, ⟨h, _⟩ | h⟩ | ⟨n, h, _⟩
    · simp [h] at hcall
    · simp only [h, Except.error.injEq] at hcall
      simp [h0, hlen, hcall]
    · simp [h] at hcall
  | case3 used bytes hne hcall =>
    have hlen : 0 < bytes.length := List.length_pos_iff.mpr hne
    rcases call_cases hchunk used bytes.length with ⟨h0, ⟨_, h⟩ | h⟩ | ⟨n, h, _⟩
    · simp [h0, hlen, h]
    · simp [h] at hcall
    · simp [h] at hcall
  | case4 used bytes hne n hcall rest ih =>
    -- what one call takes and what the later ones take add up to the room there was
    have hle : n + 1 ≤ sink.room used bytes.length := by
      rcases call_cases hchunk used bytes.length with ⟨_, ⟨h, _⟩ | h⟩ | ⟨m, h, hm⟩
      · simp [h] at hcall
      · simp [h] at hcall
      · simp only [h, Except.ok.injEq] at hcall
        omega
    have hlen : sink.room used bytes.length ≤ bytes.length := atMost_le _ _
    rw [List.length_drop, room_sub] at ih
    simp only [rest, ih, Prod.mk.injEq]
    refine ⟨?_, ?_⟩
    · rw [← List.take_add, Nat.add_sub_cancel' hle]
    · by_cases hlt : sink.room used bytes.length < bytes.length
      · rw [if_pos hlt, if_pos (by omega)]
      · rw [if_neg hlt, if_neg (by omega)]

end Sink

end HostAddresses.Output
