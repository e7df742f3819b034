import HostAddresses.Text.Utf8
import Mathlib.Data.List.Forall2

/-!
# What bytes decode to

Bytes that need not be UTF-8 are decoded from the front (`Utf8.Decodes`). Where they go on with the
bytes of a character, that character is read. Where they do not, one replacement character stands
for the longest run of bytes that begins a character, or for a single byte that begins none.

The reader takes one byte at a time and does not look ahead. That it finds the longest run rests on
what it knows after some bytes of a character (`Partial.After`): just those bytes may follow that
lie in the ranges it has noted, and they make the character whose bits it has gathered. One more
byte keeps this (`Partial.After.next`), so what is read is what the bytes decode to, and they decode
to nothing else (`decodes_iff`).
-/

namespace HostAddresses.Utf8

/-- The bytes with which a character begins. They may be all of its bytes. -/
def Begins (read : List UInt8) : Prop := ∃ c, read <+: String.utf8EncodeChar c

/-- **What bytes decode to.** -/
inductive Decodes : List UInt8 → List Char → Prop where
  | nil : Decodes [] []
  | char {c : Char} {rest : List UInt8} {text : List Char} :
    Decodes rest text → Decodes (String.utf8EncodeChar c ++ rest) (c :: text)
  /-- No character begins with this byte. -/
  | stray {b : UInt8} {rest : List UInt8} {text : List Char} :
    ¬ Begins [b] → Decodes rest text → Decodes (b :: rest) ('\ufffd' :: text)
  /-- A character begins, and the next byte, if there is one, does not go on with any. -/
  | broken {read rest : List UInt8} {text : List Char} :
    read ≠ [] → Begins read → (∀ c, read ≠ String.utf8EncodeChar c) →
    (∀ b more, rest = b :: more → ¬ Begins (read ++ [b])) →
    Decodes rest text → Decodes (read ++ rest) ('\ufffd' :: text)

/-! ## The bytes of a character -/

/-- A byte that goes on with a character. -/
def Tail (x : UInt8) : Prop := 0x80 ≤ x.toNat ∧ x.toNat ≤ 0xbf

/-- The code point of a character, by its bytes. -/
inductive Encoded : Nat → List UInt8 → Prop where
  | one {n : Nat} {b : UInt8} : b.toNat < 0x80 → n = b.toNat → Encoded n [b]
  | two {n : Nat} {b x : UInt8} : 0xc2 ≤ b.toNat → b.toNat < 0xe0 → Tail x →
    n = 64 * (b.toNat % 32) + x.toNat % 64 → Encoded n [b, x]
  | three {n : Nat} {b x y : UInt8} : 0xe0 ≤ b.toNat → b.toNat < 0xf0 → Tail x → Tail y →
    (b.toNat = 0xe0 → 0xa0 ≤ x.toNat) → (b.toNat = 0xed → x.toNat ≤ 0x9f) →
    n = 64 * (64 * (b.toNat % 16) + x.toNat % 64) + y.toNat % 64 → Encoded n [b, x, y]
  | four {n : Nat} {b x y z : UInt8} : 0xf0 ≤ b.toNat → b.toNat < 0xf5 → Tail x → Tail y →
    Tail z → (b.toNat = 0xf0 → 0x90 ≤ x.toNat) → (b.toNat = 0xf4 → x.toNat ≤ 0x8f) →
    n = 64 * (64 * (64 * (b.toNat % 8) + x.toNat % 64) + y.toNat % 64) + z.toNat % 64 →
    Encoded n [b, x, y, z]

theorem encoded_utf8EncodeChar (c : Char) : Encoded c.val.toNat (String.utf8EncodeChar c) := by
  have hvalid : c.val.toNat < 0xd800 ∨ 0xdfff < c.val.toNat ∧ c.val.toNat < 0x110000 := c.valid
  unfold String.utf8EncodeChar
  generalize c.val.toNat = n at hvalid
  dsimp only
  split
  · have hb : (UInt8.ofNat n).toNat = n := toNat_ofNat (by omega)
    exact .one (by omega) hb.symm
  have hz : (UInt8.ofNat (n % 64 + 128)).toNat = n % 64 + 128 := toNat_ofNat (by omega)
  split
  · have hb : (UInt8.ofNat (n / 64 % 32 + 192)).toNat = n / 64 % 32 + 192 :=
      toNat_ofNat (by omega)
    exact .two (by omega) (by omega) ⟨by omega, by omega⟩ (by omega)
  have hy : (UInt8.ofNat (n / 64 % 64 + 128)).toNat = n / 64 % 64 + 128 := toNat_ofNat (by omega)
  split
  · have hb : (UInt8.ofNat (n / 4096 % 16 + 224)).toNat = n / 4096 % 16 + 224 :=
      toNat_ofNat (by omega)
    exact .three (by omega) (by omega) ⟨by omega, by omega⟩ ⟨by omega, by omega⟩ (by omega)
      (by omega) (by omega)
  · have hx : (UInt8.ofNat (n / 4096 % 64 + 128)).toNat = n / 4096 % 64 + 128 :=
      toNat_ofNat (by omega)
    have hb : (UInt8.ofNat (n / 262144 % 8 + 240)).toNat = n / 262144 % 8 + 240 :=
      toNat_ofNat (by omega)
    exact .four (by omega) (by omega) ⟨by omega, by omega⟩ ⟨by omega, by omega⟩
      ⟨by omega, by omega⟩ (by omega) (by omega) (by omega)

/-- **Bytes that have a code point** are those of its character. -/
theorem Encoded.utf8EncodeChar_eq {n : Nat} {bytes : List UInt8} (h : Encoded n bytes) :
    String.utf8EncodeChar (Char.ofNat n) = bytes := by
  have hval : ∀ {n : Nat}, n < 0xd800 ∨ 0xdfff < n ∧ n < 0x110000 →
      (Char.ofNat n).val.toNat = n := by
    intro n hn
    rw [Char.ofNat, dif_pos hn]
    rfl
  have hbyte : ∀ {m : Nat} (b : UInt8), m = b.toNat → UInt8.ofNat m = b := by
    rintro m b rfl
    exact UInt8.ofNat_toNat
  unfold String.utf8EncodeChar
  cases h with
  | @one b hb hn =>
    rw [hval (by omega)]
    dsimp only
    rw [if_pos (by omega), hbyte b hn]
  | @two b x hb hb' hx hn =>
    obtain ⟨hx, hx'⟩ := hx
    rw [hval (by omega)]
    dsimp only
    rw [if_neg (by omega), if_pos (by omega), hbyte b (by omega), hbyte x (by omega)]
  | @three b x y hb hb' hx hy hlow hhigh hn =>
    obtain ⟨hx, hx'⟩ := hx
    obtain ⟨hy, hy'⟩ := hy
    rw [hval (by omega)]
    dsimp only
    rw [if_neg (by omega), if_neg (by omega), if_pos (by omega), hbyte b (by omega),
      hbyte x (by omega), hbyte y (by omega)]
  | @four b x y z hb hb' hx hy hz hlow hhigh hn =>
    obtain ⟨hx, hx'⟩ := hx
    obtain ⟨hy, hy'⟩ := hy
    obtain ⟨hz, hz'⟩ := hz
    rw [hval (by omega)]
    dsimp only
    rw [if_neg (by omega), if_neg (by omega), if_neg (by omega), hbyte b (by omega),
      hbyte x (by omega), hbyte y (by omega), hbyte z (by omega)]

theorem begins_iff {read : List UInt8} : Begins read ↔ ∃ n more, Encoded n (read ++ more) := by
  constructor
  · rintro ⟨c, more, hc⟩
    exact ⟨c.val.toNat, more, hc ▸ encoded_utf8EncodeChar c⟩
  · rintro ⟨n, more, h⟩
    exact ⟨Char.ofNat n, more, h.utf8EncodeChar_eq.symm⟩

/-! ## The ranges after a leading byte -/

theorem owedAfter_of_lt {b : Nat} (h : b < 0xc2) : owedAfter b = [] := by
  rw [owedAfter, if_pos h]

theorem owedAfter_of_le {b : Nat} (h : 0xf5 ≤ b) : owedAfter b = [] := by
  rw [owedAfter, if_neg (by omega), if_neg (by omega), if_neg (by omega), if_neg (by omega),
    if_neg (by omega), if_neg (by omega), if_neg (by omega), if_neg (by omega)]

theorem owedAfter_two {b : Nat} (h : 0xc2 ≤ b) (h' : b < 0xe0) :
    owedAfter b = [(0x80, 0xbf)] := by
  rw [owedAfter, if_neg (by omega), if_pos h']

theorem owedAfter_three {b : Nat} (h : 0xe0 ≤ b) (h' : b < 0xf0) :
    ∃ low high, owedAfter b = [(low, high), (0x80, 0xbf)] ∧ ∀ x, low ≤ x ∧ x ≤ high ↔
      (0x80 ≤ x ∧ x ≤ 0xbf) ∧ (b = 0xe0 → 0xa0 ≤ x) ∧ (b = 0xed → x ≤ 0x9f) := by
  rw [owedAfter, if_neg (by omega), if_neg (by omega)]
  split
  · exact ⟨_, _, rfl, by omega⟩
  · split
    · exact ⟨_, _, rfl, by omega⟩
    · exact ⟨_, _, rfl, by omega⟩

theorem owedAfter_four {b : Nat} (h : 0xf0 ≤ b) (h' : b < 0xf5) :
    ∃ low high, owedAfter b = [(low, high), (0x80, 0xbf), (0x80, 0xbf)] ∧
      ∀ x, low ≤ x ∧ x ≤ high ↔
        (0x80 ≤ x ∧ x ≤ 0xbf) ∧ (b = 0xf0 → 0x90 ≤ x) ∧ (b = 0xf4 → x ≤ 0x8f) := by
  rw [owedAfter, if_neg (by omega), if_neg (by omega), if_neg (by omega), if_neg (by omega),
    if_neg (by omega)]
  split
  · exact ⟨_, _, rfl, by omega⟩
  · split
    · exact ⟨_, _, rfl, by omega⟩
    · rw [if_pos (by omega)]
      exact ⟨_, _, rfl, by omega⟩

theorem owedAfter_ne_nil_iff {b : Nat} : owedAfter b ≠ [] ↔ 0xc2 ≤ b ∧ b < 0xf5 := by
  constructor
  · intro hb
    exact ⟨Nat.not_lt.mp fun h => hb (owedAfter_of_lt h),
      Nat.not_le.mp fun h => hb (owedAfter_of_le h)⟩
  · rintro ⟨hlow, hhigh⟩
    by_cases htwo : b < 0xe0
    · rw [owedAfter_two hlow htwo]
      exact List.cons_ne_nil _ _
    by_cases hthree : b < 0xf0
    · obtain ⟨low, high, howed, -⟩ := owedAfter_three (Nat.not_lt.mp htwo) hthree
      rw [howed]
      exact List.cons_ne_nil _ _
    · obtain ⟨low, high, howed, -⟩ := owedAfter_four (Nat.not_lt.mp hthree) hhigh
      rw [howed]
      exact List.cons_ne_nil _ _

theorem ranges_owedAfter (b : Nat) :
    ∀ range ∈ owedAfter b, range.1 ≤ range.2 ∧ range.2 < 0x100 := by
  have hbyte : ∀ b < 0x100, ∀ range ∈ owedAfter b, range.1 ≤ range.2 ∧ range.2 < 0x100 := by
    decide +kernel
  by_cases h : b < 0x100
  · exact hbyte b h
  · rw [owedAfter_of_le (by omega)]
    exact List.forall_mem_nil _

/-! ## After some bytes of a character -/

/-- Bytes that lie in the ranges in which they have to. -/
def Fits : List UInt8 → List (Nat × Nat) → Prop :=
  List.Forall₂ fun b range => range.1 ≤ b.toNat ∧ b.toNat ≤ range.2

/-- Ranges that are not empty hold some bytes. -/
theorem exists_fits {owed : List (Nat × Nat)}
    (h : ∀ range ∈ owed, range.1 ≤ range.2 ∧ range.2 < 0x100) : ∃ more, Fits more owed := by
  refine ⟨owed.map fun range => UInt8.ofNat range.1, ?_⟩
  rw [Fits, List.forall₂_map_left_iff, List.forall₂_same]
  intro range hrange
  obtain ⟨hle, hlt⟩ := h range hrange
  rw [toNat_ofNat (by omega)]
  exact ⟨Nat.le_refl _, hle⟩

/-- The number that more bytes make of one that has been read so far. -/
def valueOf (read : Nat) (more : List UInt8) : Nat :=
  more.foldl (fun n b => 64 * n + b.toNat % 64) read

/-- **A character goes on as its first byte says.** -/
theorem encoded_cons_iff {b : UInt8} (h : owedAfter b.toNat ≠ []) {n : Nat} {more : List UInt8} :
    Encoded n (b :: more) ↔ Fits more (owedAfter b.toNat) ∧
      n = valueOf (b.toNat % 1 <<< (6 - (owedAfter b.toNat).length)) more := by
  obtain ⟨hlow, hhigh⟩ := owedAfter_ne_nil_iff.mp h
  by_cases htwo : b.toNat < 0xe0
  · rw [owedAfter_two hlow htwo]
    constructor
    · intro hn
      cases hn with
      | two _ _ hx hn => exact ⟨.cons hx .nil, hn⟩
      | _ => omega
    · rintro ⟨hmore, hn⟩
      cases hmore with
      | cons hx hmore =>
        cases hmore
        exact .two hlow htwo hx hn
  by_cases hthree : b.toNat < 0xf0
  · obtain ⟨low, high, howed, hrange⟩ := owedAfter_three (Nat.not_lt.mp htwo) hthree
    rw [howed]
    constructor
    · intro hn
      cases hn with
      | three _ _ hx hy hmin hmax hn =>
        exact ⟨.cons ((hrange _).mpr ⟨hx, hmin, hmax⟩) (.cons hy .nil), hn⟩
      | _ => omega
    · rintro ⟨hmore, hn⟩
      cases hmore with
      | cons hx hmore =>
        cases hmore with
        | cons hy hmore =>
          cases hmore
          obtain ⟨hx, hmin, hmax⟩ := (hrange _).mp hx
          exact .three (Nat.not_lt.mp htwo) hthree hx hy hmin hmax hn
  · obtain ⟨low, high, howed, hrange⟩ := owedAfter_four (Nat.not_lt.mp hthree) hhigh
    rw [howed]
    constructor
    · intro hn
      cases hn with
      | four _ _ hx hy hz hmin hmax hn =>
        exact ⟨.cons ((hrange _).mpr ⟨hx, hmin, hmax⟩) (.cons hy (.cons hz .nil)), hn⟩
      | _ => omega
    · rintro ⟨hmore, hn⟩
      cases hmore with
      | cons hx hmore =>
        cases hmore with
        | cons hy hmore =>
          cases hmore with
          | cons hz hmore =>
            cases hmore
            obtain ⟨hx, hmin, hmax⟩ := (hrange _).mp hx
            exact .four (Nat.not_lt.mp hthree) hhigh hx hy hz hmin hmax hn

/-- **What is known after some bytes of a character.** -/
structure Partial.After (p : Partial) (read : List UInt8) : Prop where
  begun : read ≠ []
  owes : p.owed ≠ []
  ranges : ∀ range ∈ p.owed, range.1 ≤ range.2 ∧ range.2 < 0x100
  /-- The bytes that may follow, and the code point that they make. -/
  followed : ∀ {n : Nat} {more : List UInt8},
    Encoded n (read ++ more) ↔ Fits more p.owed ∧ n = valueOf p.value more

namespace Partial.After

variable {p : Partial} {read more : List UInt8}

/-- The first byte of a character that has more of them. -/
theorem lead {b : UInt8} (h : owedAfter b.toNat ≠ []) :
    After ⟨b.toNat % 1 <<< (6 - (owedAfter b.toNat).length), owedAfter b.toNat⟩ [b] where
  begun := List.cons_ne_nil b []
  owes := h
  ranges := ranges_owedAfter b.toNat
  followed := encoded_cons_iff h

section Next

variable {value low high : Nat} {owed : List (Nat × Nat)} {b : UInt8}

/-- **One more byte,** but not the last. -/
theorem next (h : After ⟨value, (low, high) :: owed⟩ read) (hb : low ≤ b.toNat ∧ b.toNat ≤ high)
    (howed : owed ≠ []) : After ⟨64 * value + b.toNat % 64, owed⟩ (read ++ [b]) where
  begun := List.append_ne_nil_of_right_ne_nil read (List.cons_ne_nil b [])
  owes := howed
  ranges := (List.forall_mem_cons.mp h.ranges).2
  followed := by
    intro n more
    rw [List.append_assoc, List.singleton_append, h.followed, Fits, List.forall₂_cons]
    exact ⟨fun ⟨⟨_, hmore⟩, hn⟩ => ⟨hmore, hn⟩, fun ⟨hmore, hn⟩ => ⟨⟨hb, hmore⟩, hn⟩⟩

/-- The last byte completes the character. -/
theorem last (h : After ⟨value, [(low, high)]⟩ read) (hb : low ≤ b.toNat ∧ b.toNat ≤ high) :
    String.utf8EncodeChar (Char.ofNat (64 * value + b.toNat % 64)) = read ++ [b] :=
  (h.followed.mpr ⟨.cons hb .nil, rfl⟩).utf8EncodeChar_eq

end Next

theorem begins_append_iff (h : p.After read) :
    Begins (read ++ more) ↔ ∃ rest, Fits (more ++ rest) p.owed := by
  rw [begins_iff]
  constructor
  · rintro ⟨n, rest, hn⟩
    rw [List.append_assoc, h.followed] at hn
    exact ⟨rest, hn.1⟩
  · rintro ⟨rest, hfits⟩
    refine ⟨valueOf p.value (more ++ rest), rest, ?_⟩
    rw [List.append_assoc, h.followed]
    exact ⟨hfits, rfl⟩

theorem begins (h : p.After read) : Begins read := by
  rw [← List.append_nil read, h.begins_append_iff]
  exact exists_fits h.ranges

/-- **The next byte goes on** with a character if and only if it lies in its range. -/
theorem begins_next_iff {value low high : Nat} {owed : List (Nat × Nat)} {b : UInt8}
    (h : After ⟨value, (low, high) :: owed⟩ read) :
    Begins (read ++ [b]) ↔ low ≤ b.toNat ∧ b.toNat ≤ high := by
  rw [h.begins_append_iff]
  constructor
  · rintro ⟨rest, hrest⟩
    exact (List.forall₂_cons.mp hrest).1
  · intro hb
    obtain ⟨rest, hrest⟩ := exists_fits (List.forall_mem_cons.mp h.ranges).2
    exact ⟨rest, .cons hb hrest⟩

theorem incomplete (h : p.After read) (c : Char) : read ≠ String.utf8EncodeChar c := by
  intro hread
  have hencoded := encoded_utf8EncodeChar c
  rw [← hread, ← List.append_nil read, h.followed] at hencoded
  exact h.owes (List.forall₂_nil_left_iff.mp hencoded.1)

end Partial.After

/-- **A byte begins a character** if it is one by itself, or if more are owed after it. -/
theorem begins_singleton_iff {b : UInt8} :
    Begins [b] ↔ b.toNat < 0x80 ∨ owedAfter b.toNat ≠ [] := by
  constructor
  · rw [begins_iff, owedAfter_ne_nil_iff]
    rintro ⟨n, more, h⟩
    cases h with
    | one hb _ => exact .inl hb
    | _ => exact .inr ⟨by omega, by omega⟩
  · rintro (hb | hb)
    · exact begins_iff.mpr ⟨b.toNat, [], .one hb rfl⟩
    · exact (Partial.After.lead hb).begins

/-! ## One byte -/

theorem begin_ascii {b : Nat} (h : b < 0x80) : begin b = ([Char.ofNat b], .none) := by
  rw [begin, if_pos h]

theorem begin_stray {b : Nat} (h : ¬ b < 0x80) (howed : owedAfter b = []) :
    begin b = (['\ufffd'], .none) := by
  rw [begin, if_neg h, howed]
  rfl

theorem begin_lead {b : Nat} (h : owedAfter b ≠ []) :
    begin b = ([], ⟨b % 1 <<< (6 - (owedAfter b).length), owedAfter b⟩) := by
  have hb : ¬ b < 0x80 := fun hlt => h (owedAfter_of_lt (by omega))
  rw [begin, if_neg hb]
  cases howed : owedAfter b with
  | nil => exact absurd howed h
  | cons range owed => rfl

section Step

variable {value low high b : Nat} {owed : List (Nat × Nat)}

theorem step_none (b : Nat) : step .none b = begin b := rfl

theorem step_next (h : low ≤ b ∧ b ≤ high) (howed : owed ≠ []) :
    step ⟨value, (low, high) :: owed⟩ b = ([], ⟨64 * value + b % 64, owed⟩) := by
  simp [step, h, howed]

theorem step_last (h : low ≤ b ∧ b ≤ high) :
    step ⟨value, [(low, high)]⟩ b = ([Char.ofNat (64 * value + b % 64)], .none) := by
  simp [step, h]

theorem step_broken (h : ¬ (low ≤ b ∧ b ≤ high)) :
    step ⟨value, (low, high) :: owed⟩ b = ('\ufffd' :: (begin b).1, (begin b).2) := by
  simp [step, h, replacement]

end Step

/-! ## What is read is what bytes decode to -/

theorem decodes_decodeFrom (bytes : List UInt8) :
    Decodes bytes (decodeFrom .none bytes) ∧
      ∀ p read, Partial.After p read → Decodes (read ++ bytes) (decodeFrom p bytes) := by
  induction bytes with
  | nil =>
    refine ⟨.nil, fun p read h => ?_⟩
    rw [decodeFrom, if_neg h.owes]
    exact .broken h.begun h.begins h.incomplete nofun .nil
  | cons b bytes ih =>
    obtain ⟨ihNone, ihAfter⟩ := ih
    have hafresh : Decodes (b :: bytes) (decodeFrom .none (b :: bytes)) := by
      rw [decodeFrom, step_none]
      by_cases hascii : b.toNat < 0x80
      · have hbytes := (Encoded.one hascii rfl).utf8EncodeChar_eq
        have hchar := ihNone.char (c := Char.ofNat b.toNat)
        rw [hbytes] at hchar
        rw [begin_ascii hascii]
        exact hchar
      by_cases howed : owedAfter b.toNat = []
      · rw [begin_stray hascii howed]
        refine .stray ?_ ihNone
        rw [begins_singleton_iff, not_or, not_not]
        exact ⟨hascii, howed⟩
      · rw [begin_lead howed]
        exact ihAfter _ [b] (.lead howed)
    refine ⟨hafresh, ?_⟩
    rintro ⟨value, _ | ⟨⟨low, high⟩, owed⟩⟩ read h
    · exact absurd rfl h.owes
    rw [decodeFrom]
    by_cases hb : low ≤ b.toNat ∧ b.toNat ≤ high
    · have happend : read ++ b :: bytes = read ++ [b] ++ bytes := by simp
      rw [happend]
      by_cases howed : owed = []
      · subst howed
        rw [step_last hb, ← h.last hb]
        exact .char ihNone
      · rw [step_next hb howed]
        exact ihAfter _ _ (h.next hb howed)
    · -- what has been read is broken off, and this byte starts afresh
      rw [step_broken hb]
      refine .broken h.begun h.begins h.incomplete ?_ hafresh
      rintro _ _ ⟨⟩
      rwa [h.begins_next_iff]

/-! ## Bytes decode to nothing else -/

/-- More bytes of a character are known as those before them, up to the last. -/
theorem Partial.After.exists_append {p : Partial} {read more : List UInt8} (h : p.After read)
    (hbegins : Begins (read ++ more)) (hincomplete : ∀ c, read ++ more ≠ String.utf8EncodeChar c) :
    ∃ p' : Partial, p'.After (read ++ more) ∧
      ∀ rest, decodeFrom p (more ++ rest) = decodeFrom p' rest := by
  induction more generalizing p read with
  | nil =>
    rw [List.append_nil]
    exact ⟨p, h, fun _ => rfl⟩
  | cons b more ih =>
    obtain ⟨value, _ | ⟨⟨low, high⟩, owed⟩⟩ := p
    · exact absurd rfl h.owes
    obtain ⟨rest, hfits⟩ := h.begins_append_iff.mp hbegins
    obtain ⟨hb, hfits⟩ := List.forall₂_cons.mp hfits
    have happend : read ++ b :: more = read ++ [b] ++ more := by simp
    by_cases howed : owed = []
    · -- this byte would be the last, so nothing is behind it
      subst howed
      obtain ⟨rfl, -⟩ := List.append_eq_nil_iff.mp (List.forall₂_nil_right_iff.mp hfits)
      exact absurd (h.last hb).symm (hincomplete _)
    · rw [happend] at hbegins hincomplete ⊢
      obtain ⟨p', hp', hread⟩ := ih (h.next hb howed) hbegins hincomplete
      refine ⟨p', hp', fun rest => ?_⟩
      rw [List.cons_append, decodeFrom, step_next hb howed]
      exact hread rest

/-- A character of which some bytes have been read is completed by the others. -/
theorem Partial.After.decodeFrom_append {p : Partial} {read more : List UInt8} {c : Char}
    (h : p.After read) (hc : String.utf8EncodeChar c = read ++ more) (rest : List UInt8) :
    decodeFrom p (more ++ rest) = c :: decodeFrom .none rest := by
  induction more generalizing p read with
  | nil =>
    rw [List.append_nil] at hc
    exact absurd hc.symm (h.incomplete c)
  | cons b more ih =>
    obtain ⟨value, _ | ⟨⟨low, high⟩, owed⟩⟩ := p
    · exact absurd rfl h.owes
    obtain ⟨hfits, hvalue⟩ := h.followed.mp (hc ▸ encoded_utf8EncodeChar c)
    obtain ⟨hb, hfits⟩ := List.forall₂_cons.mp hfits
    rw [List.cons_append, decodeFrom]
    by_cases howed : owed = []
    · subst howed
      cases hfits
      have hchar : Char.ofNat (64 * value + b.toNat % 64) = c := by
        rw [← Char.ofNat_toNat c]
        exact congrArg Char.ofNat hvalue.symm
      rw [step_last hb, hchar]
      rfl
    · rw [step_next hb howed]
      refine ih (h.next hb howed) ?_
      rw [hc, List.append_assoc, List.singleton_append]

/-- The bytes of a character are read as the character. -/
theorem decodeFrom_encoded (c : Char) (rest : List UInt8) :
    decodeFrom .none (String.utf8EncodeChar c ++ rest) = c :: decodeFrom .none rest := by
  have hencoded := encoded_utf8EncodeChar c
  cases hbytes : String.utf8EncodeChar c with
  | nil =>
    rw [hbytes] at hencoded
    cases hencoded
  | cons b more =>
    rw [hbytes] at hencoded
    rw [List.cons_append, decodeFrom, step_none]
    by_cases howed : owedAfter b.toNat = []
    · -- nothing is owed after the byte, so it is the only one
      have hlead := mt owedAfter_ne_nil_iff.mpr (not_not.mpr howed)
      cases hencoded with
      | one hb hn =>
        have hchar : Char.ofNat b.toNat = c := by
          rw [← hn]
          exact Char.ofNat_toNat c
        rw [begin_ascii hb, hchar]
        rfl
      | _ => omega
    · rw [begin_lead howed]
      exact (Partial.After.lead howed).decodeFrom_append hbytes rest

/-- Bytes that begin a character, and are not all of them, are known for that. -/
theorem exists_after {read : List UInt8} (hne : read ≠ []) (hbegins : Begins read)
    (hincomplete : ∀ c, read ≠ String.utf8EncodeChar c) :
    ∃ p : Partial, p.After read ∧ ∀ rest, decodeFrom .none (read ++ rest) = decodeFrom p rest := by
  obtain ⟨b, more, rfl⟩ := List.exists_cons_of_ne_nil hne
  have howed : owedAfter b.toNat ≠ [] := by
    obtain ⟨n, rest, hn⟩ := begins_iff.mp hbegins
    rw [owedAfter_ne_nil_iff]
    rw [List.cons_append] at hn
    generalize htail : more ++ rest = tail at hn
    cases hn with
    | one hb hn =>
      obtain ⟨rfl, -⟩ := List.append_eq_nil_iff.mp htail
      exact absurd (Encoded.one hb hn).utf8EncodeChar_eq.symm (hincomplete _)
    | _ => exact ⟨by omega, by omega⟩
  obtain ⟨p, hp, hread⟩ := (Partial.After.lead howed).exists_append hbegins hincomplete
  refine ⟨p, hp, fun rest => ?_⟩
  rw [List.cons_append, decodeFrom, step_none, begin_lead howed]
  exact hread rest

theorem Decodes.eq_decodeFrom {bytes : List UInt8} {text : List Char} (h : Decodes bytes text) :
    text = decodeFrom .none bytes := by
  induction h with
  | nil => rfl
  | char _ ih => rw [decodeFrom_encoded, ih]
  | @stray b rest text hb _ ih =>
    rw [begins_singleton_iff, not_or, not_not] at hb
    rw [decodeFrom, step_none, begin_stray hb.1 hb.2, ih]
    rfl
  | @broken read rest text hne hbegins hincomplete hstop _ ih =>
    obtain ⟨p, hp, hread⟩ := exists_after hne hbegins hincomplete
    rw [hread, ih]
    cases rest with
    | nil =>
      have hend : decodeFrom p [] = ['\ufffd'] := by
        rw [decodeFrom, if_neg hp.owes]
        rfl
      exact hend.symm
    | cons b rest =>
      obtain ⟨value, _ | ⟨⟨low, high⟩, owed⟩⟩ := p
      · exact absurd rfl hp.owes
      have hb := mt hp.begins_next_iff.mpr (hstop b rest rfl)
      rw [decodeFrom, decodeFrom, step_broken hb]
      rfl

/-- **Reading gives what bytes decode to,** and nothing else is that. -/
theorem decodes_iff {bytes : List UInt8} {text : String} :
    decodeLossy bytes = text ↔ Decodes bytes text.toList := by
  constructor
  · rintro rfl
    rw [decodeLossy, String.toList_ofList]
    exact (decodes_decodeFrom bytes).1
  · intro h
    rw [decodeLossy, ← h.eq_decodeFrom, String.ofList_toList]

/-- The bytes of a text decode to the text, without a replacement character. -/
theorem decodeLossy_bytes (s : String) : decodeLossy (bytes s) = s := by
  rw [decodes_iff, bytes]
  induction s.toList with
  | nil => exact .nil
  | cons c cs ih => exact .char ih

end HostAddresses.Utf8
