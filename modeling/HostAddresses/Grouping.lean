/-!
# Grouping by name

Items that belong to names, in any order, are gathered by name. The groups stand in the order in
which their names first appear, and every item is added to the group of its name.
-/

namespace HostAddresses.Grouping

variable {ι α : Type}

/-- Changes the group of a name. A name without a group gets a fresh one, behind all others. -/
def update (name : String) (fresh : α) (change : α → α) : List (String × α) → List (String × α)
  | [] => [(name, change fresh)]
  | (other, group) :: rest =>
    if other = name then (other, change group) :: rest
    else (other, group) :: update name fresh change rest

/-- Adds an item to the group of its name. -/
def add (nameOf : ι → String) (fresh : String → α) (note : α → ι → α) (groups : List (String × α))
    (item : ι) : List (String × α) :=
  update (nameOf item) (fresh (nameOf item)) (note · item) groups

/-- The groups of items, by their names. -/
def groups (nameOf : ι → String) (fresh : String → α) (note : α → ι → α) (items : List ι) :
    List (String × α) :=
  items.foldl (add nameOf fresh note) []

end HostAddresses.Grouping
