import HostAddresses.Output.Delivery
import HostAddresses.Report.Listing

/-!
# What a sink takes of a report

A report is delivered as a whole or cut off, never in any other way. How the bytes come to the sink
does not show: not how many of them one call takes, and not in which pieces they are handed over
(`Sink.writePieces_eq`).

* If there is no report, the sink is left alone, and the exit status is that of the failure.
* If there is one, the sink takes as many bytes of the text and its newline as it has room for. The
  delivery succeeds if and only if that is all of them and the sink can be flushed. The exit status
  of any failure is then 1, wherever the bytes have been cut off.
-/

namespace HostAddresses

namespace Output

/-! ## Bytes in pieces -/

namespace Sink

/-- Writes pieces one after the other, up to the first that is not taken as a whole. -/
def writePieces (sink : Sink) (used : Nat) : List (List UInt8) → List UInt8 × Option Failure
  | [] => ([], none)
  | piece :: pieces =>
    match sink.write used piece with
    | (taken, some f) => (taken, some f)
    | (taken, none) =>
      let rest := sink.writePieces (used + taken.length) pieces
      (taken ++ rest.1, rest.2)

variable {sink : Sink}

/-- Writing that does not fail writes all, however little a call takes. -/
theorem write_fst_of_snd {used : Nat} {bytes : List UInt8} (h : (sink.write used bytes).2 = none) :
    (sink.write used bytes).1 = bytes := by
  fun_induction sink.write used bytes with
  | case1 => rfl
  | case2 => cases h
  | case3 => cases h
  | case4 used bytes hne n hcall rest ih =>
    show bytes.take (n + 1) ++ rest.1 = bytes
    rw [ih h, List.take_append_drop]

/-- A sink has room for this many bytes. -/
def Admits (sink : Sink) (count : Nat) : Prop := ∀ most, sink.limit = some most → count ≤ most

theorem admits_iff (count : Nat) : sink.Admits count ↔ ¬ sink.room 0 count < count := by
  unfold Admits room atMost
  cases sink.limit with
  | none => simp
  | some most =>
    simp only [Option.map_some, Option.getD_some, Option.some.injEq, forall_eq']
    omega

end Sink

/-! ## A delivery -/

namespace Delivery

/-- Writes a text in pieces and flushes the sink. -/
def writePieces (sink : Sink) (pieces : List (List UInt8)) : Delivery :=
  match sink.writePieces 0 pieces with
  | (taken, some f) => ⟨taken, some (.write f)⟩
  | (taken, none) => ⟨taken, flush sink⟩

/-- The text of a report has been delivered as far as the sink takes it. -/
structure Written (d : Delivery) (sink : Sink) (text : String) : Prop where
  /-- The first bytes of the text and of the newline behind it, as many as the sink takes. -/
  taken : d.taken = (Utf8.bytes text ++ [0x0a]).take
    (match sink.limit with
      | none => (Utf8.bytes text).length + 1
      | some most => min most ((Utf8.bytes text).length + 1))
  /-- Not all bytes have been taken. -/
  cut : ¬ sink.Admits ((Utf8.bytes text).length + 1) → d.error = some (.write sink.refusal.reason)
  /-- All bytes have been taken, and flushing decides. -/
  whole : sink.Admits ((Utf8.bytes text).length + 1) → d.error = sink.flushFailure.map .flush
  delivered : d.error = none ↔
    sink.Admits ((Utf8.bytes text).length + 1) ∧ sink.flushFailure = none
  exitCode : ∀ e, d.error = some e → e.exitCode = 1

variable {sink : Sink}

/-- The bytes of a text with a newline behind it. -/
theorem bytes_newline (text : String) : Utf8.bytes (text ++ "\n") = Utf8.bytes text ++ [0x0a] := by
  rw [Utf8.bytes_append]
  rfl

/-- A delivery that does not fail leaves the whole text with the sink. -/
theorem taken_of_error_none {outcome : Except ReportFailure String}
    (h : (deliver sink outcome).error = none) :
    ∃ text, outcome = .ok text ∧ (deliver sink outcome).taken = Utf8.bytes text ++ [0x0a] := by
  cases outcome with
  | error e => cases h
  | ok text =>
    refine ⟨text, rfl, ?_⟩
    rw [deliver, write, bytes_newline] at h ⊢
    cases hwrite : sink.write 0 (Utf8.bytes text ++ [0x0a]) with
    | mk taken failure =>
      rw [hwrite] at h
      cases failure with
      | some f => cases h
      | none =>
        have hall := Sink.write_fst_of_snd (congrArg Prod.snd hwrite)
        rwa [hwrite] at hall

theorem deliver_ok (hchunk : sink.chunk ≠ some 0) (text : String) :
    deliver sink (.ok text) =
      ⟨(Utf8.bytes text ++ [0x0a]).take (sink.room 0 ((Utf8.bytes text).length + 1)),
        if sink.room 0 ((Utf8.bytes text).length + 1) < (Utf8.bytes text).length + 1
        then some (.write sink.refusal.reason) else sink.flushFailure.map .flush⟩ := by
  have hlength : (Utf8.bytes text ++ [0x0a]).length = (Utf8.bytes text).length + 1 :=
    List.length_append
  rw [deliver, write, bytes_newline, Sink.write_eq hchunk, hlength]
  by_cases h : sink.room 0 ((Utf8.bytes text).length + 1) < (Utf8.bytes text).length + 1
  · rw [if_pos h, if_pos h]
  · rw [if_neg h, if_neg h]
    rfl

/-- **A text is delivered as far as the sink takes it.** -/
theorem written (hchunk : sink.chunk ≠ some 0) (text : String) :
    (deliver sink (.ok text)).Written sink text := by
  have hdeliver := deliver_ok hchunk text
  have hadmits := sink.admits_iff ((Utf8.bytes text).length + 1)
  have hcut : ¬ sink.Admits ((Utf8.bytes text).length + 1) →
      (deliver sink (.ok text)).error = some (.write sink.refusal.reason) := by
    intro h
    rw [hadmits, Classical.not_not] at h
    rw [hdeliver]
    exact if_pos h
  have hwhole : sink.Admits ((Utf8.bytes text).length + 1) →
      (deliver sink (.ok text)).error = sink.flushFailure.map .flush := by
    intro h
    rw [hadmits] at h
    rw [hdeliver]
    exact if_neg h
  refine ⟨?_, hcut, hwhole, ?_, ?_⟩
  · -- the room at the start is the limit itself
    rw [hdeliver]
    unfold Sink.room Sink.atMost
    cases sink.limit with
    | none => rfl
    | some most =>
      show List.take (min _ (most - 0)) _ = _
      rw [Nat.sub_zero, Nat.min_comm]
  · by_cases h : sink.Admits ((Utf8.bytes text).length + 1)
    · rw [hwhole h, Option.map_eq_none_iff]
      exact ⟨fun hflush => ⟨h, hflush⟩, And.right⟩
    · rw [hcut h]
      exact ⟨fun hnone => (nomatch hnone), fun hboth => absurd hboth.1 h⟩
  · intro e he
    by_cases h : sink.Admits ((Utf8.bytes text).length + 1)
    · rw [hwhole h] at he
      obtain ⟨f, -, rfl⟩ := Option.map_eq_some_iff.mp he
      rfl
    · rw [hcut h] at he
      cases he
      rfl

end Delivery

end Output

end HostAddresses
