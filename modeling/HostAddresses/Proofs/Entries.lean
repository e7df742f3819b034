import HostAddresses.Host.Basic
import HostAddresses.Mac
import HostAddresses.Proofs.Addresses
import HostAddresses.Proofs.LossyText

/-!
# What the entries of a host say

The addresses of an interface, as they are read off the entries of its name and with no detour by a
table: of each kind the one that the **last** entry of that kind has, together with the netmask of
that entry. A netmask counts only if it is of the family of its address. Scopes say nothing here.

Both sources are measured against this (`Addresses.ofEntries`).
-/

namespace HostAddresses

/-! ## The last of a list that says something -/

section Last

variable {α β γ : Type}

theorem findSomeRev?_filterMap (f : α → Option β) (g : β → Option γ) (l : List α) :
    (l.filterMap f).findSomeRev? g = l.findSomeRev? fun a => (f a).bind g := by
  induction l with
  | nil => rfl
  | cons a l ih =>
    rw [List.filterMap_cons, List.findSomeRev?]
    cases h : f a with
    | none =>
      rw [← ih]
      dsimp only [Option.bind_none]
      cases (l.filterMap f).findSomeRev? g <;> rfl
    | some b =>
      rw [← ih]
      rfl

theorem findSomeRev?_map (f : α → β) (g : β → Option γ) (l : List α) :
    (l.map f).findSomeRev? g = l.findSomeRev? fun a => g (f a) := by
  induction l with
  | nil => rfl
  | cons a l ih =>
    rw [List.map_cons, List.findSomeRev?, ih]
    rfl

theorem findSomeRev?_map_result (f : α → Option β) (g : β → γ) (l : List α) :
    (l.findSomeRev? fun a => (f a).map g) = (l.findSomeRev? f).map g := by
  induction l with
  | nil => rfl
  | cons a l ih =>
    rw [List.findSomeRev?, List.findSomeRev?, ih]
    cases l.findSomeRev? f <;> rfl

/-- The last of what items become is what the last item says, in other words. -/
theorem findSomeRev?_filterMap_eq {δ : Type} {f : α → Option β} {g : β → Option γ}
    {found : α → Option δ} {write : δ → γ} (h : ∀ a, (f a).bind g = (found a).map write)
    (l : List α) : (l.filterMap f).findSomeRev? g = (l.findSomeRev? found).map write := by
  rw [findSomeRev?_filterMap, funext h, findSomeRev?_map_result]

theorem findSomeRev?_append (f : α → Option β) (l l' : List α) :
    (l ++ l').findSomeRev? f = (l'.findSomeRev? f).or (l.findSomeRev? f) := by
  induction l with
  | nil => exact Option.or_none.symm
  | cons a l ih =>
    rw [List.cons_append, List.findSomeRev?, List.findSomeRev?, ih]
    cases l'.findSomeRev? f <;> rfl

theorem findSomeRev?_none (l : List α) : (l.findSomeRev? fun _ => (none : Option β)) = none := by
  induction l with
  | nil => rfl
  | cons a l ih => rw [List.findSomeRev?, ih]

/-- Two ways to look for the last agree if they agree on what is found, and the second finds nothing
where the first does not. What either finds before the last does not matter. -/
theorem findSomeRev?_eq_of_last {f g : α → Option β} {P : β → Prop}
    (hnone : ∀ a, f a = none → g a = none) (hsome : ∀ a b, P b → f a = some b → g a = some b)
    {l : List α} (hlast : ∀ b, l.findSomeRev? f = some b → P b) :
    l.findSomeRev? g = l.findSomeRev? f := by
  induction l with
  | nil => rfl
  | cons a l ih =>
    rw [List.findSomeRev?] at hlast
    rw [List.findSomeRev?, List.findSomeRev?]
    cases h : l.findSomeRev? f with
    | some b =>
      -- the last is behind the head
      rw [h] at hlast ih
      rw [ih hlast]
    | none =>
      rw [h] at hlast ih
      rw [ih (fun _ hb => nomatch hb)]
      cases ha : f a with
      | none => exact hnone a ha
      | some b => exact hsome a b (hlast b ha) ha

/-! The last that passes a test is found by the same recursion. -/

theorem findRev?_cons (p : α → Bool) (a : α) (l : List α) :
    (a :: l).findRev? p = (l.findRev? p).or (if p a then some a else none) := by
  rw [List.findRev?]
  cases l.findRev? p with
  | some b => rfl
  | none => cases p a <;> rfl

theorem findRev?_map (f : α → β) (p : β → Bool) (l : List α) :
    (l.map f).findRev? p = (l.findRev? fun a => p (f a)).map f := by
  induction l with
  | nil => rfl
  | cons a l ih =>
    rw [List.map_cons, findRev?_cons, findRev?_cons, ih]
    cases l.findRev? fun a => p (f a) with
    | some b => rfl
    | none => cases p (f a) <;> rfl

theorem findRev?_eq_some {p : α → Bool} {a : α} {l : List α} (h : l.findRev? p = some a) :
    a ∈ l ∧ p a = true := by
  induction l with
  | nil => cases h
  | cons b l ih =>
    rw [findRev?_cons] at h
    cases hl : l.findRev? p with
    | some c =>
      rw [hl, Option.some_or] at h
      obtain ⟨hmem, hp⟩ := ih (hl.trans h)
      exact ⟨List.mem_cons_of_mem b hmem, hp⟩
    | none =>
      rw [hl, Option.none_or] at h
      by_cases hb : p b = true
      · rw [if_pos hb] at h
        cases h
        exact ⟨List.mem_cons_self, hb⟩
      · rw [if_neg hb] at h
        cases h

/-- If anything passes, there is a last that does. -/
theorem exists_findRev? {p : α → Bool} {l : List α} (h : ∃ a ∈ l, p a = true) :
    ∃ a, l.findRev? p = some a := by
  obtain ⟨a, hmem, hp⟩ := h
  induction l with
  | nil => cases hmem
  | cons b l ih =>
    rw [findRev?_cons]
    rcases List.mem_cons.mp hmem with rfl | hl
    · rw [if_pos hp]
      cases l.findRev? p with
      | some c => exact ⟨c, rfl⟩
      | none => exact ⟨a, rfl⟩
    · obtain ⟨c, hc⟩ := ih hl
      exact ⟨c, by rw [hc, Option.some_or]⟩

/-- What does not pass may be left out. -/
theorem findRev?_filter (p : α → Bool) (l : List α) :
    (l.filter p).findRev? p = l.findRev? p := by
  induction l with
  | nil => rfl
  | cons a l ih =>
    rw [findRev?_cons]
    by_cases ha : p a = true
    · rw [List.filter_cons_of_pos ha, findRev?_cons, ih]
    · rw [List.filter_cons_of_neg ha, ih, if_neg ha, Option.or_none]

theorem findSomeRev?_eq_findRev? (p : α → Bool) (g : α → β) (l : List α) :
    (l.findSomeRev? fun a => if p a then some (g a) else none) = (l.findRev? p).map g := by
  induction l with
  | nil => rfl
  | cons a l ih =>
    rw [List.findSomeRev?, findRev?_cons, ih]
    cases l.findRev? p with
    | some b => rfl
    | none => cases p a <;> rfl

end Last

/-! ## One entry -/

namespace Host.Entry

/-- The netmask of an entry, if it is one of IPv4. -/
def inetMask? (e : Entry) : Option IPv4 :=
  match e.mask with
  | some (.inet m) => some m
  | _ => none

/-- The netmask of an entry, if it is one of IPv6. -/
def inet6Mask? (e : Entry) : Option IPv6 :=
  match e.mask with
  | some (.inet6 m _) => some m
  | _ => none

/-- The IPv4 address of an entry, with its netmask. -/
def inet? (e : Entry) : Option (IPv4 × Option IPv4) :=
  match e.address with
  | some (.inet a) => some (a, e.inetMask?)
  | _ => none

/-- The IPv6 address of an entry, with its netmask. -/
def inet6? (e : Entry) : Option (IPv6 × Option IPv6) :=
  match e.address with
  | some (.inet6 a _) => some (a, e.inet6Mask?)
  | _ => none

/-- The field of an entry that holds a hardware address. -/
def field? (e : Entry) : Option (List UInt8) :=
  match e.address with
  | some (.packet field) => some field
  | _ => none

/-- The hardware address of an entry: the first six bytes of its field. -/
def link? (e : Entry) : Option Mac :=
  match e.address with
  | some (.packet field) => some (Mac.ofField field)
  | _ => none

/-- The last hardware address is that of the last hardware field. -/
theorem findSomeRev?_link? (entries : List Entry) :
    entries.findSomeRev? link? = (entries.findSomeRev? field?).map Mac.ofField := by
  have hlink : ∀ e : Entry, e.link? = e.field?.map Mac.ofField := by
    intro e
    unfold link? field?
    split <;> rfl
  rw [funext hlink, findSomeRev?_map_result]

variable {e : Entry}

theorem inetMask?_eq_some_iff {m : IPv4} : e.inetMask? = some m ↔ e.mask = some (.inet m) := by
  unfold inetMask?
  split <;> simp_all

theorem inet6Mask?_eq_some_iff {m : IPv6} :
    e.inet6Mask? = some m ↔ ∃ scope, e.mask = some (.inet6 m scope) := by
  unfold inet6Mask?
  split <;> simp_all

theorem inet?_eq_some_iff {ip : IPv4} {mask : Option IPv4} :
    e.inet? = some (ip, mask) ↔ e.address = some (.inet ip) ∧ e.inetMask? = mask := by
  unfold inet?
  split <;> simp_all

theorem inet6?_eq_some_iff {ip : IPv6} {mask : Option IPv6} :
    e.inet6? = some (ip, mask) ↔
      (∃ scope, e.address = some (.inet6 ip scope)) ∧ e.inet6Mask? = mask := by
  unfold inet6?
  split <;> simp_all

/-- **How the name of an entry is read.** -/
structure NameRead (e : Entry) : Prop where
  /-- The bytes of a text are read as the text. -/
  text : ∀ text : String, e.name = text.toList.flatMap String.utf8EncodeChar → e.interface = text
  /-- In any other bytes, replacement characters stand where they go on with no character. -/
  decoded : ∀ text : String, e.interface = text ↔ Utf8.Decodes e.name text.toList

theorem nameRead (e : Entry) : e.NameRead where
  text := by
    intro text hname
    rw [interface, hname]
    exact Utf8.decodeLossy_bytes text
  decoded _ := Utf8.decodes_iff

end Host.Entry

/-! ## All entries -/

namespace Host

/-- The names that entries have, in the order in which they first appear. -/
def names (entries : List Entry) : List String := (entries.map Entry.interface).eraseDups

/-- The entries of a name. -/
def entriesOf (entries : List Entry) (name : String) : List Entry :=
  entries.filter (·.interface = name)

theorem mem_names_iff {entries : List Entry} {name : String} :
    name ∈ names entries ↔ ∃ e ∈ entries, e.interface = name := by
  rw [names, List.mem_eraseDups, List.mem_map]

theorem names_ne_nil {entries : List Entry} (h : entries ≠ []) : names entries ≠ [] := by
  obtain ⟨e, he⟩ := List.exists_mem_of_ne_nil entries h
  exact List.ne_nil_of_mem (mem_names_iff.mpr ⟨e, he, rfl⟩)

end Host

/-- The addresses that the entries of an interface give it. -/
def Addresses.ofEntries (entries : List Host.Entry) : Addresses where
  ipv4 := entries.findSomeRev? Host.Entry.inet?
  ipv6 := entries.findSomeRev? Host.Entry.inet6?
  mac := entries.findSomeRev? Host.Entry.link?

end HostAddresses
