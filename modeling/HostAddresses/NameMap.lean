import HostAddresses.Text.Utf8

/-!
# Maps from names

A finite map from names, kept as a list in the order of the names' bytes.

* `find?` is the view: two lemmas say what `insert` does to it.
* `Ordered` says that the names increase, so that none occurs twice. `insert` keeps it.
-/

namespace HostAddresses

/-- A map from names. -/
structure NameMap (α : Type) where
  /-- The names with their values, in order. -/
  entries : List (String × α)
deriving DecidableEq

namespace NameMap

variable {α : Type}

/-- The map without names. -/
def empty : NameMap α := ⟨[]⟩

/-- The value of a name. -/
def find? (map : NameMap α) (name : String) : Option α :=
  (map.entries.find? fun entry => entry.1 = name).map Prod.snd

/-- The number of names. -/
def size (map : NameMap α) : Nat := map.entries.length

/-- Whether there is no name. -/
def isEmpty (map : NameMap α) : Bool := map.entries.isEmpty

/-- The values, in the order of their names. -/
def values (map : NameMap α) : List α := map.entries.map Prod.snd

/-- Puts a name into a list of entries, in front of the first that comes after it. -/
def insertEntry (name : String) (a : α) : List (String × α) → List (String × α)
  | [] => [(name, a)]
  | entry :: rest =>
    if entry.1 = name then (name, a) :: rest
    else if Utf8.Before name entry.1 then (name, a) :: entry :: rest
    else entry :: insertEntry name a rest

/-- Gives a name a value, in place of any that it had. -/
def insert (map : NameMap α) (name : String) (a : α) : NameMap α :=
  ⟨insertEntry name a map.entries⟩

/-! ## What a map says about a name -/

@[simp] theorem find?_empty (name : String) : (empty : NameMap α).find? name = none := rfl

@[simp] theorem find?_insert_self (map : NameMap α) (name : String) (a : α) :
    (map.insert name a).find? name = some a := by
  obtain ⟨entries⟩ := map
  simp only [find?, insert]
  induction entries with
  | nil => simp [insertEntry]
  | cons entry rest ih =>
    simp only [insertEntry]
    split
    · simp
    · rename_i hne
      split
      · simp
      · simpa [List.find?_cons, hne] using ih

theorem find?_insert_of_ne (map : NameMap α) {name other : String} (h : other ≠ name) (a : α) :
    (map.insert name a).find? other = map.find? other := by
  obtain ⟨entries⟩ := map
  simp only [find?, insert]
  induction entries with
  | nil => simp [insertEntry, h.symm]
  | cons entry rest ih =>
    simp only [insertEntry]
    split
    · rename_i heq
      simp [heq, h.symm]
    · split
      · simp [h.symm]
      · simp only [List.find?_cons]
        split
        · rfl
        · exact ih

/-! ## The order of the names -/

/-- The names increase. -/
def Ordered (map : NameMap α) : Prop :=
  map.entries.Pairwise fun a b => Utf8.Before a.1 b.1

theorem ordered_empty : (empty : NameMap α).Ordered := List.Pairwise.nil

theorem mem_insertEntry {name : String} {a : α} {entries : List (String × α)} {e : String × α}
    (h : e ∈ insertEntry name a entries) : e = (name, a) ∨ e ∈ entries := by
  induction entries with
  | nil => simpa [insertEntry] using h
  | cons entry rest ih =>
    simp only [insertEntry] at h
    split at h
    · rcases List.mem_cons.mp h with h | h
      · exact Or.inl h
      · exact Or.inr (List.mem_cons_of_mem _ h)
    · split at h
      · exact List.mem_cons.mp h
      · rcases List.mem_cons.mp h with h | h
        · exact Or.inr (h ▸ List.mem_cons_self)
        · exact (ih h).imp id (List.mem_cons_of_mem _)

theorem ordered_insert {map : NameMap α} (h : map.Ordered) (name : String) (a : α) :
    (map.insert name a).Ordered := by
  obtain ⟨entries⟩ := map
  simp only [Ordered, insert] at h ⊢
  induction entries with
  | nil => simp [insertEntry]
  | cons entry rest ih =>
    obtain ⟨hhead, htail⟩ := List.pairwise_cons.mp h
    simp only [insertEntry]
    split
    · rename_i heq
      exact List.pairwise_cons.mpr ⟨heq ▸ hhead, htail⟩
    · rename_i hne
      split
      · rename_i hlt
        refine List.pairwise_cons.mpr ⟨?_, h⟩
        intro e he
        -- the new name is before the head, and so before all that the head is before
        rcases List.mem_cons.mp he with he | he
        · exact he ▸ hlt
        · exact Utf8.before_trans hlt (hhead e he)
      · rename_i hnlt
        refine List.pairwise_cons.mpr ⟨?_, ih htail⟩
        intro e he
        rcases mem_insertEntry he with he | he
        · exact he ▸ Utf8.before_of_not_before hne hnlt
        · exact hhead e he

end NameMap

end HostAddresses
