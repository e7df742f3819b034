/-!
# Separated pieces

Texts made of pieces with a separator between them. Pieces that do not hold the separator are split
apart as they were put together, so if every piece is read back, all of them are.
-/

namespace HostAddresses.Separated

variable {α : Type}

/-- The pieces that `write` makes of some items, with `separator` between them. -/
def join (separator : Char) (write : α → List Char) (items : List α) : List Char :=
  [separator].intercalate (items.map write)

/-- The items that `read` makes of the pieces between separators, if it reads every one. -/
def split? (separator : Char) (read : List Char → Option α) (text : List Char) : Option (List α) :=
  (text.splitOn separator).mapM read

theorem splitOn_join {separator : Char} {write : α → List Char} {items : List α}
    (hne : items ≠ []) (hfree : ∀ a, separator ∉ write a) :
    (join separator write items).splitOn separator = items.map write := by
  refine List.splitOn_intercalate separator ?_ (by simpa using hne)
  intro piece hpiece
  obtain ⟨a, _, rfl⟩ := List.mem_map.mp hpiece
  exact hfree a

theorem mapM_map {write : α → List Char} {read : List Char → Option α}
    (hread : ∀ a, read (write a) = some a) (items : List α) :
    (items.map write).mapM read = some items := by
  induction items with
  | nil => rfl
  | cons a items ih => simp [hread, ih]

/-- What is put together is read back. -/
theorem split?_join {separator : Char} {write : α → List Char} {read : List Char → Option α}
    {items : List α} (hne : items ≠ []) (hfree : ∀ a, separator ∉ write a)
    (hread : ∀ a, read (write a) = some a) :
    split? separator read (join separator write items) = some items := by
  rw [split?, splitOn_join hne hfree, mapM_map hread]

/-- A character is in no piece and is not the separator, so it is not in the text. -/
theorem not_mem_join {separator c : Char} {write : α → List Char} (hc : c ≠ separator)
    (hfree : ∀ a, c ∉ write a) (items : List α) : c ∉ join separator write items := by
  induction items with
  | nil => simp [join, List.intercalate]
  | cons a items ih =>
    cases items with
    | nil => simpa [join, List.intercalate] using hfree a
    | cons b rest =>
      have hrest : c ∉ join separator write (b :: rest) := ih
      intro h
      simp only [join, List.map_cons, List.intercalate, List.intersperse_cons_cons,
        List.flatten_cons, List.mem_append, List.mem_singleton] at h hrest
      rcases h with h | h | h
      · exact hfree a h
      · exact hc h
      · exact hrest h

end HostAddresses.Separated
