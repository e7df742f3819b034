import HostAddresses.Proofs.Traversal
import HostAddresses.Text.Separated

/-!
# The pieces of a text

A text with separators has one list of pieces: those that are the text when they are put together,
and of which none holds the separator (`Separated.Pieces`). Splitting gives this list, and there is
one more of them than there are separators.
-/

namespace HostAddresses.Separated

variable {separator : Char} {text : List Char} {pieces : List (List Char)}

/-- **The pieces of a text** between its separators. -/
structure Pieces (separator : Char) (text : List Char) (pieces : List (List Char)) : Prop where
  ne_nil : pieces ≠ []
  free : ∀ piece ∈ pieces, separator ∉ piece
  text_eq : text = [separator].intercalate pieces

/-- Splitting in front of a character: a separator ends an empty piece, and any other character goes
to the first piece of the rest. -/
theorem splitOn_cons_cases (separator c : Char) (text : List Char) :
    (c = separator ∧ (c :: text).splitOn separator = [] :: text.splitOn separator) ∨
    ∃ piece rest, c ≠ separator ∧ text.splitOn separator = piece :: rest ∧
      (c :: text).splitOn separator = (c :: piece) :: rest := by
  rw [List.splitOn_cons_eq_if_modifyHead]
  by_cases hc : c = separator
  · exact .inl ⟨hc, if_pos (beq_iff_eq.mpr hc)⟩
  · obtain ⟨piece, rest, hrest⟩ := List.exists_cons_of_ne_nil (List.splitOn_ne_nil separator text)
    refine .inr ⟨piece, rest, hc, hrest, ?_⟩
    rw [if_neg (mt beq_iff_eq.mp hc), hrest, List.modifyHead_cons]

theorem not_mem_of_mem_splitOn {piece : List Char} (h : piece ∈ text.splitOn separator) :
    separator ∉ piece := by
  induction text generalizing piece with
  | nil =>
    rw [List.splitOn_nil, List.mem_singleton] at h
    rw [h]
    exact List.not_mem_nil
  | cons c text ih =>
    rcases splitOn_cons_cases separator c text with ⟨-, hsplit⟩ | ⟨first, rest, hc, htext, hsplit⟩
    · rw [hsplit] at h
      rcases List.mem_cons.mp h with rfl | h
      · exact List.not_mem_nil
      · exact ih h
    · rw [hsplit] at h
      rcases List.mem_cons.mp h with rfl | h
      · have hfirst : separator ∉ first := ih (htext ▸ List.mem_cons_self)
        exact List.not_mem_cons_of_ne_of_not_mem (Ne.symm hc) hfirst
      · exact ih (htext ▸ List.mem_cons_of_mem first h)

/-- **There is one more piece than there are separators.** -/
theorem length_splitOn (separator : Char) (text : List Char) :
    (text.splitOn separator).length = text.count separator + 1 := by
  induction text with
  | nil => rfl
  | cons c text ih =>
    rcases splitOn_cons_cases separator c text with ⟨hc, hsplit⟩ | ⟨first, rest, hc, htext, hsplit⟩
    · rw [hsplit, List.length_cons, ih, hc, List.count_cons_self]
    · rw [htext] at ih
      rw [hsplit, List.count_cons_of_ne hc, ← ih]
      rfl

/-- **Splitting gives the pieces of a text,** and no other list is that. -/
theorem splitOn_eq_iff : text.splitOn separator = pieces ↔ Pieces separator text pieces := by
  constructor
  · rintro rfl
    exact ⟨List.splitOn_ne_nil separator text, fun _ => not_mem_of_mem_splitOn,
      (List.intercalate_splitOn separator).symm⟩
  · intro h
    rw [h.text_eq]
    exact List.splitOn_intercalate separator h.free h.ne_nil

theorem Pieces.unique {pieces' : List (List Char)} (h : Pieces separator text pieces)
    (h' : Pieces separator text pieces') : pieces = pieces' :=
  (splitOn_eq_iff.mpr h).symm.trans (splitOn_eq_iff.mpr h')

/-- Between two separators without anything between them stands an empty piece. -/
theorem Pieces.nil_mem (h : Pieces separator text pieces)
    (hgap : [separator, separator] <:+: text) : [] ∈ pieces := by
  obtain ⟨front, rest, rfl⟩ := hgap
  have hsplit : (front ++ [separator, separator] ++ rest).splitOn separator =
      front.splitOn separator ++ [] :: rest.splitOn separator := by
    rw [List.append_assoc, List.cons_append, List.splitOn_append_cons_self]
    exact congrArg _ (List.splitOn_append_cons_self_of_not_mem List.not_mem_nil rest)
  rw [← splitOn_eq_iff.mpr h, hsplit]
  exact List.mem_append_right _ List.mem_cons_self

/-- Lines that each have a separator behind them are split apart, and nothing is behind the last. -/
theorem splitOn_ended {lines : List (List Char)} (h : ∀ line ∈ lines, separator ∉ line) :
    (lines.flatMap (· ++ [separator])).splitOn separator = lines ++ [[]] := by
  induction lines with
  | nil => rfl
  | cons line lines ih =>
    obtain ⟨hline, hmore⟩ := List.forall_mem_cons.mp h
    have hsplit : (line :: lines).flatMap (· ++ [separator]) =
        line ++ separator :: lines.flatMap (· ++ [separator]) := by
      rw [List.flatMap_cons, List.append_assoc]
      rfl
    rw [hsplit, List.splitOn_append_cons_self_of_not_mem hline, ih hmore]
    rfl

/-- Where all pieces are read, the text is made of what is written for them. -/
theorem eq_join_of_split? {α : Type} {write : α → List Char} {read : List Char → Option α}
    (hread : ∀ piece a, read piece = some a → piece = write a) {items : List α}
    (h : split? separator read text = some items) : text = join separator write items := by
  have hpieces := (mapM_eq_some_iff.mp h).imp hread
  rw [← List.forall₂_map_right_iff, List.forall₂_eq_eq_eq] at hpieces
  rw [join, ← hpieces, List.intercalate_splitOn]

end HostAddresses.Separated
