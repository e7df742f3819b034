import HostAddresses.Proofs.Json.Grammar
import Mathlib.Data.List.TakeWhile

/-!
# A strict reader of JSON

`read?` reads a text that is JSON from its first to its last character, and nothing else. It keeps
the members of an object in their order.

All pieces of it are readers: each takes what it reads off the front of a text and leaves the rest.
Whitespace belongs to the structural characters, in front of them and behind. What calls `value?` or
`items?` has skipped it already.

A reader is strict if what it takes is always a text of the grammar, `Takes`. There is one lemma for
each reader, and `read?_sound` in the end.
-/

namespace HostAddresses.Json

/-- Reads what stands in front of a text, and leaves the rest. -/
abbrev Reader (α : Type) := List Char → Option (α × List Char)

/-! ## Whitespace -/

def skip (text : List Char) : List Char := text.dropWhile isSpace

/-- What stands behind a structural character, if that comes first. -/
def mark? (c : Char) (text : List Char) : Option (List Char) :=
  match skip text with
  | d :: rest => if d = c then some (skip rest) else none
  | [] => none

/-! ## Strings -/

def codeUnit? : Reader Nat
  | a :: b :: c :: d :: rest => (Numeral.natural? 16 [a, b, c, d]).map fun n => (n, rest)
  | _ => none

/-- The second half of a surrogate pair, which is escaped like the first. -/
def lowHalf? : Reader Nat
  | '\\' :: 'u' :: rest => (codeUnit? rest).filter fun (n, _) => isLow n
  | _ => none

/-- The character behind `\u`. -/
def codePoint? : Reader Char := fun text => do
  let (n, rest) ← codeUnit? text
  if isHigh n then
    let (low, rest) ← lowHalf? rest
    some (paired n low, rest)
  else if isLow n then none
  else some (Char.ofNat n, rest)

def char? : Reader Char
  | '\\' :: 'u' :: rest => codePoint? rest
  | '\\' :: l :: rest => (letters.lookup l).map fun c => (c, rest)
  | c :: rest => if 0x20 ≤ c.toNat ∧ c ≠ '"' ∧ c ≠ '\\' then some (c, rest) else none
  | [] => none

/-- The characters in front of a quote, fewer than a bound. -/
def chars? : Nat → Reader (List Char)
  | 0, _ => none
  | _ + 1, '"' :: rest => some ([], rest)
  | bound + 1, text => do
    let (c, rest) ← char? text
    let (cs, rest) ← chars? bound rest
    some (c :: cs, rest)

def string? : Reader String
  | '"' :: rest => (chars? (rest.length + 1) rest).map fun (cs, rest) => (String.ofList cs, rest)
  | _ => none

/-! ## Numbers -/

def digits? : Reader (List Char) := fun text =>
  if text.takeWhile Char.isDigit = [] then none
  else some (text.takeWhile Char.isDigit, text.dropWhile Char.isDigit)

/-- One of these characters, if it comes first. -/
def sign (signs : List Char) : List Char → List Char × List Char
  | c :: rest => if c ∈ signs then ([c], rest) else ([], c :: rest)
  | [] => ([], [])

def whole? : Reader (List Char)
  | '0' :: rest => some (['0'], rest)
  | text => digits? text

def fraction? : Reader (List Char)
  | '.' :: rest => (digits? rest).map fun (ds, rest) => ('.' :: ds, rest)
  | text => some ([], text)

def exponent? : Reader (List Char)
  | [] => some ([], [])
  | mark :: rest =>
    if mark = 'e' ∨ mark = 'E' then
      (digits? (sign ['+', '-'] rest).2).map fun (ds, after) =>
        (mark :: ((sign ['+', '-'] rest).1 ++ ds), after)
    else some ([], mark :: rest)

def number? : Reader (List Char) := fun text => do
  let (whole, rest) ← whole? (sign ['-'] text).2
  let (fraction, rest) ← fraction? rest
  let (exponent, rest) ← exponent? rest
  some ((sign ['-'] text).1 ++ whole ++ fraction ++ exponent, rest)

/-! ## Values -/

section Items

variable {α : Type}

/-- Items with a comma in front of each, fewer than a bound, up to what closes them. -/
def more? (item : Reader α) (closing : Char) : Nat → Reader (List α)
  | 0, _ => none
  | bound + 1, text =>
    match mark? closing text with
    | some rest => some ([], rest)
    | none => do
      let rest ← mark? ',' text
      let (a, rest) ← item rest
      let (as, rest) ← more? item closing bound rest
      some (a :: as, rest)

/-- Items with a comma between any two of them, up to what closes them. -/
def items? (item : Reader α) (closing : Char) (bound : Nat) : Reader (List α) := fun text =>
  match mark? closing text with
  | some rest => some ([], rest)
  | none => do
    let (a, rest) ← item text
    let (as, rest) ← more? item closing bound rest
    some (a :: as, rest)

end Items

def member? (value : Reader Value) : Reader (String × Value) := fun text => do
  let (name, rest) ← string? text
  let rest ← mark? ':' rest
  let (v, rest) ← value rest
  some ((name, v), rest)

/-- A value that holds no other. -/
def scalar? : Reader Value
  | 'n' :: 'u' :: 'l' :: 'l' :: rest => some (.null, rest)
  | 't' :: 'r' :: 'u' :: 'e' :: rest => some (.bool true, rest)
  | 'f' :: 'a' :: 'l' :: 's' :: 'e' :: rest => some (.bool false, rest)
  | '"' :: rest => (string? ('"' :: rest)).map fun (s, rest) => (.string s, rest)
  | text => (number? text).map fun (used, rest) => (.number (String.ofList used), rest)

/-- A value. A bound stops the recursion, on its depth and on the number of its items; the length of
the text is large enough for it. -/
def value? : Nat → Reader Value
  | 0, _ => none
  | bound + 1, '[' :: rest =>
    (items? (value? bound) ']' bound (skip rest)).map fun (vs, rest) => (.array vs, rest)
  | bound + 1, '\x7b' :: rest =>
    (items? (member? (value? bound)) '\x7d' bound (skip rest)).map
      fun (ms, rest) => (.object ms, rest)
  | _ + 1, text => scalar? text

/-- **What a text says,** if it is JSON. -/
def read? (text : String) : Option Value := do
  let (v, rest) ← value? text.toList.length (skip text.toList)
  if skip rest = [] then some v else none

/-! ## What is taken is a text of the grammar -/

/-- What a reader takes off a text is what the grammar asks for. -/
def Takes {α : Type} (Item : List Char → α → Prop) (read : Reader α) : Prop :=
  ∀ text a rest, read text = some (a, rest) → ∃ used, text = used ++ rest ∧ Item used a

theorem exists_space (text : List Char) : ∃ space, Space space ∧ text = space ++ skip text :=
  ⟨text.takeWhile isSpace, fun _ hc => List.mem_takeWhile_imp hc,
    List.takeWhile_append_dropWhile.symm⟩

theorem mark?_sound {c : Char} {text rest : List Char} (h : mark? c text = some rest) :
    ∃ used, text = used ++ rest ∧ Mark c used := by
  obtain ⟨before, hbefore, htext⟩ := exists_space text
  rw [mark?] at h
  split at h
  · next d behind hskip =>
    split at h
    · next hd =>
      obtain ⟨after, hafter, hbehind⟩ := exists_space behind
      rw [Option.some.injEq] at h
      refine ⟨before ++ c :: after, ?_, before, after, hbefore, hafter, rfl⟩
      rw [List.append_assoc, List.cons_append, ← h, ← hbehind, ← hd, ← hskip]
      exact htext
    · cases h
  · cases h

/-! ### Strings -/

theorem codeUnit?_sound : Takes CodeUnit codeUnit? := by
  intro text n rest h
  rw [codeUnit?.eq_def] at h
  split at h
  · next a b c d rest' =>
    obtain ⟨m, hm, heq⟩ := Option.map_eq_some_iff.mp h
    obtain ⟨rfl, rfl⟩ := Prod.mk.inj heq
    exact ⟨[a, b, c, d], rfl, rfl, hm⟩
  · cases h

theorem lowHalf?_sound {text rest : List Char} {low : Nat} (h : lowHalf? text = some (low, rest)) :
    ∃ digits, text = '\\' :: 'u' :: digits ++ rest ∧ CodeUnit digits low ∧ isLow low = true := by
  rw [lowHalf?.eq_def] at h
  split at h
  · obtain ⟨hread, hlow⟩ := Option.filter_eq_some_iff.mp h
    obtain ⟨digits, rfl, hdigits⟩ := codeUnit?_sound _ _ _ hread
    exact ⟨digits, rfl, hdigits, hlow⟩
  · cases h

theorem codePoint?_sound {text rest : List Char} {c : Char} (h : codePoint? text = some (c, rest)) :
    ∃ used, text = used ++ rest ∧ Spells ('\\' :: 'u' :: used) c := by
  rw [codePoint?, Option.bind_eq_bind, Option.bind_eq_some_iff] at h
  obtain ⟨⟨n, middle⟩, hread, h⟩ := h
  obtain ⟨digits, rfl, hdigits⟩ := codeUnit?_sound _ _ _ hread
  dsimp only at h
  split at h
  · next hhigh =>
    obtain ⟨⟨low, rest'⟩, hread', heq⟩ := Option.bind_eq_some_iff.mp h
    obtain ⟨digits', rfl, hdigits', hlow⟩ := lowHalf?_sound hread'
    obtain ⟨rfl, rfl⟩ := Prod.mk.inj (Option.some.inj heq)
    refine ⟨digits ++ '\\' :: 'u' :: digits', ?_, .pair hdigits hhigh hdigits' hlow⟩
    rw [List.append_assoc]
  · next hhigh =>
    split at h
    · cases h
    · next hlow =>
      obtain ⟨rfl, rfl⟩ := Prod.mk.inj (Option.some.inj h)
      exact ⟨digits, rfl, .code hdigits (Bool.eq_false_iff.mpr hhigh) (Bool.eq_false_iff.mpr hlow)⟩

theorem mem_letters {l c : Char} (h : letters.lookup l = some c) : (l, c) ∈ letters := by
  obtain ⟨before, after, hletters, -⟩ := List.lookup_eq_some_iff.mp h
  rw [hletters]
  exact List.mem_append_right before List.mem_cons_self

theorem char?_sound : Takes Spells char? := by
  intro text c rest h
  rw [char?.eq_def] at h
  split at h
  · obtain ⟨used, rfl, hused⟩ := codePoint?_sound h
    exact ⟨_, rfl, hused⟩
  · next l rest' _ =>
    obtain ⟨d, hlookup, heq⟩ := Option.map_eq_some_iff.mp h
    cases heq
    exact ⟨['\\', l], rfl, .letter (mem_letters hlookup)⟩
  · next d rest' _ _ =>
    split at h
    · next hplain =>
      cases h
      exact ⟨[c], rfl, .plain hplain.1 hplain.2.1 hplain.2.2⟩
    · cases h
  · cases h

theorem chars?_sound (bound : Nat) {text cs rest : List Char}
    (h : chars? bound text = some (cs, rest)) :
    ∃ used, text = used ++ '"' :: rest ∧ SpellsAll used cs := by
  induction bound generalizing text cs with
  | zero => cases h
  | succ bound ih =>
    rw [chars?.eq_def] at h
    split at h
    · next heq => cases heq
    · cases h
      exact ⟨[], rfl, .nil⟩
    · next heq _ =>
      cases heq
      obtain ⟨⟨c, behind⟩, hchar, h⟩ := Option.bind_eq_some_iff.mp h
      obtain ⟨⟨cs', rest'⟩, hchars, h⟩ := Option.bind_eq_some_iff.mp h
      cases h
      obtain ⟨spelling, rfl, hspelling⟩ := char?_sound _ _ _ hchar
      obtain ⟨used, rfl, hused⟩ := ih hchars
      exact ⟨spelling ++ used, (List.append_assoc ..).symm, .cons hspelling hused⟩

theorem string?_sound : Takes IsString string? := by
  intro text s rest h
  rw [string?.eq_def] at h
  split at h
  · obtain ⟨⟨cs, rest'⟩, hchars, heq⟩ := Option.map_eq_some_iff.mp h
    cases heq
    obtain ⟨used, rfl, hused⟩ := chars?_sound _ hchars
    exact ⟨['"'] ++ used ++ ['"'], by simp, .quoted hused⟩
  · cases h

/-! ### Numbers -/

theorem digits?_sound {text ds rest : List Char} (h : digits? text = some (ds, rest)) :
    text = ds ++ rest ∧ Digits ds := by
  rw [digits?] at h
  split at h
  · cases h
  · next hne =>
    cases h
    exact ⟨List.takeWhile_append_dropWhile.symm, hne, fun _ hc => List.mem_takeWhile_imp hc⟩

theorem sign_sound (signs text : List Char) :
    text = (sign signs text).1 ++ (sign signs text).2 ∧
      ((sign signs text).1 = [] ∨ ∃ c ∈ signs, (sign signs text).1 = [c]) := by
  cases text with
  | nil => exact ⟨rfl, .inl rfl⟩
  | cons c rest =>
    rw [sign]
    by_cases hc : c ∈ signs
    · rw [if_pos hc]
      exact ⟨rfl, .inr ⟨c, hc, rfl⟩⟩
    · rw [if_neg hc]
      exact ⟨rfl, .inl rfl⟩

theorem whole?_sound {text used rest : List Char} (h : whole? text = some (used, rest)) :
    text = used ++ rest ∧ IsWhole used := by
  rw [whole?.eq_def] at h
  split at h
  · cases h
    exact ⟨rfl, .zero⟩
  · next hzero =>
    obtain ⟨rfl, hdigits⟩ := digits?_sound h
    refine ⟨rfl, .digits hdigits ?_⟩
    intro hhead
    obtain ⟨ds, rfl⟩ := List.head?_eq_some_iff.mp hhead
    exact hzero _ rfl

theorem fraction?_sound {text used rest : List Char} (h : fraction? text = some (used, rest)) :
    text = used ++ rest ∧ IsFraction used := by
  rw [fraction?.eq_def] at h
  split at h
  · obtain ⟨⟨ds, rest'⟩, hread, heq⟩ := Option.map_eq_some_iff.mp h
    cases heq
    obtain ⟨rfl, hdigits⟩ := digits?_sound hread
    exact ⟨rfl, .digits hdigits⟩
  · cases h
    exact ⟨rfl, .none⟩

theorem exponent?_sound {text used rest : List Char} (h : exponent? text = some (used, rest)) :
    text = used ++ rest ∧ IsExponent used := by
  cases text with
  | nil =>
    cases h
    exact ⟨rfl, .none⟩
  | cons mark text =>
    rw [exponent?] at h
    split at h
    · next hmark =>
      obtain ⟨⟨ds, rest'⟩, hread, heq⟩ := Option.map_eq_some_iff.mp h
      cases heq
      obtain ⟨hbehind, hdigits⟩ := digits?_sound hread
      obtain ⟨htext, hsign⟩ := sign_sound ['+', '-'] text
      refine ⟨?_, .digits hmark ?_ hdigits⟩
      · rw [List.cons_append, List.append_assoc, ← hbehind, ← htext]
      · obtain hnone | ⟨c, hc, hsome⟩ := hsign
        · exact .inl hnone
        · rw [hsome]
          simpa using hc
    · cases h
      exact ⟨rfl, .none⟩

theorem number?_sound {text used rest : List Char} (h : number? text = some (used, rest)) :
    text = used ++ rest ∧ IsNumber used := by
  obtain ⟨⟨whole, behind⟩, hreadWhole, h⟩ := Option.bind_eq_some_iff.mp h
  obtain ⟨⟨fraction, behind'⟩, hreadFraction, h⟩ := Option.bind_eq_some_iff.mp h
  obtain ⟨⟨exponent, rest'⟩, hreadExponent, h⟩ := Option.bind_eq_some_iff.mp h
  cases h
  obtain ⟨htext, hsign⟩ := sign_sound ['-'] text
  obtain ⟨hbehind, hwhole⟩ := whole?_sound hreadWhole
  obtain ⟨rfl, hfraction⟩ := fraction?_sound hreadFraction
  obtain ⟨rfl, hexponent⟩ := exponent?_sound hreadExponent
  refine ⟨?_, .mk ?_ hwhole hfraction hexponent⟩
  · rw [List.append_assoc, List.append_assoc, List.append_assoc, ← hbehind, ← htext]
  · obtain hnone | ⟨c, hc, hsome⟩ := hsign
    · exact .inl hnone
    · rw [hsome]
      simpa using hc

/-! ### Values -/

section Items

variable {α : Type} {Item : List Char → α → Prop} {item : Reader α} {closing : Char}

theorem more?_sound (hitem : Takes Item item) (bound : Nat) {text rest : List Char} {as : List α}
    (h : more? item closing bound text = some (as, rest)) :
    ∃ used close, text = used ++ close ++ rest ∧ More Item used as ∧ Mark closing close := by
  induction bound generalizing text as with
  | zero => cases h
  | succ bound ih =>
    rw [more?] at h
    split at h
    · next hread =>
      cases h
      obtain ⟨close, rfl, hclose⟩ := mark?_sound hread
      exact ⟨[], close, rfl, .nil, hclose⟩
    · obtain ⟨behind, hreadComma, h⟩ := Option.bind_eq_some_iff.mp h
      obtain ⟨⟨a, behind'⟩, hreadItem, h⟩ := Option.bind_eq_some_iff.mp h
      obtain ⟨⟨as', rest'⟩, hreadMore, h⟩ := Option.bind_eq_some_iff.mp h
      cases h
      obtain ⟨comma, rfl, hcomma⟩ := mark?_sound hreadComma
      obtain ⟨used, rfl, ha⟩ := hitem _ _ _ hreadItem
      obtain ⟨more, close, rfl, hmore, hclose⟩ := ih hreadMore
      exact ⟨comma ++ used ++ more, close, by simp, .cons hcomma ha hmore, hclose⟩

theorem items?_sound (hitem : Takes Item item) (bound : Nat) {text rest : List Char} {as : List α}
    (h : items? item closing bound text = some (as, rest)) :
    ∃ used close, text = used ++ close ++ rest ∧ Items Item used as ∧ Mark closing close := by
  rw [items?] at h
  split at h
  · next hread =>
    cases h
    obtain ⟨close, rfl, hclose⟩ := mark?_sound hread
    exact ⟨[], close, rfl, .nil, hclose⟩
  · obtain ⟨⟨a, behind⟩, hreadItem, h⟩ := Option.bind_eq_some_iff.mp h
    obtain ⟨⟨as', rest'⟩, hreadMore, h⟩ := Option.bind_eq_some_iff.mp h
    cases h
    obtain ⟨used, rfl, ha⟩ := hitem _ _ _ hreadItem
    obtain ⟨more, close, rfl, hmore, hclose⟩ := more?_sound hitem _ hreadMore
    exact ⟨used ++ more, close, by simp, .cons ha hmore, hclose⟩

/-- What opens items goes with the whitespace behind it. -/
theorem brackets_sound (hitem : Takes Item item) {bound : Nat} {c : Char} {behind rest : List Char}
    {as : List α} (h : items? item closing bound (skip behind) = some (as, rest)) :
    ∃ opening used close, c :: behind = opening ++ used ++ close ++ rest ∧ Mark c opening ∧
      Items Item used as ∧ Mark closing close := by
  obtain ⟨space, hspace, hbehind⟩ := exists_space behind
  obtain ⟨used, close, hread, hitems, hclose⟩ := items?_sound hitem bound h
  refine ⟨c :: space, used, close, ?_, ⟨[], space, List.forall_mem_nil _, hspace, rfl⟩, hitems,
    hclose⟩
  rw [hread] at hbehind
  rw [hbehind]
  simp

end Items

theorem member?_sound {Item : List Char → Value → Prop} {value : Reader Value}
    (hvalue : Takes Item value) : Takes (IsMember Item) (member? value) := by
  intro text m rest h
  obtain ⟨⟨name, behind⟩, hreadName, h⟩ := Option.bind_eq_some_iff.mp h
  obtain ⟨behind', hreadColon, h⟩ := Option.bind_eq_some_iff.mp h
  obtain ⟨⟨v, rest'⟩, hreadValue, h⟩ := Option.bind_eq_some_iff.mp h
  cases h
  obtain ⟨used, rfl, hname⟩ := string?_sound _ _ _ hreadName
  obtain ⟨colon, rfl, hcolon⟩ := mark?_sound hreadColon
  obtain ⟨used', rfl, hv⟩ := hvalue _ _ _ hreadValue
  exact ⟨used ++ colon ++ used', by simp, .mk hname hcolon hv⟩

theorem scalar?_sound : Takes Denotes scalar? := by
  intro text v rest h
  rw [scalar?.eq_def] at h
  split at h
  · cases h
    exact ⟨_, rfl, .null⟩
  · cases h
    exact ⟨_, rfl, .true⟩
  · cases h
    exact ⟨_, rfl, .false⟩
  · obtain ⟨⟨s, rest'⟩, hread, heq⟩ := Option.map_eq_some_iff.mp h
    cases heq
    obtain ⟨used, heq, hs⟩ := string?_sound _ _ _ hread
    exact ⟨used, heq, .string hs⟩
  · obtain ⟨⟨used, rest'⟩, hread, heq⟩ := Option.map_eq_some_iff.mp h
    cases heq
    obtain ⟨rfl, hused⟩ := number?_sound hread
    exact ⟨used, rfl, .number hused⟩

theorem value?_sound (bound : Nat) : Takes Denotes (value? bound) := by
  induction bound with
  | zero =>
    intro text v rest h
    cases h
  | succ bound ih =>
    intro text v rest h
    rw [value?.eq_def] at h
    split at h
    · next heq => cases heq
    · next heq =>
      cases heq
      obtain ⟨⟨vs, rest'⟩, hread, heq⟩ := Option.map_eq_some_iff.mp h
      cases heq
      obtain ⟨opening, items, close, htext, hopening, hitems, hclose⟩ := brackets_sound ih hread
      exact ⟨opening ++ items ++ close, htext, .array hopening hitems hclose⟩
    · next heq =>
      cases heq
      obtain ⟨⟨ms, rest'⟩, hread, heq⟩ := Option.map_eq_some_iff.mp h
      cases heq
      obtain ⟨opening, members, close, htext, hopening, hmembers, hclose⟩ :=
        brackets_sound (member?_sound ih) hread
      exact ⟨opening ++ members ++ close, htext, .object hopening hmembers hclose⟩
    · exact scalar?_sound _ _ _ h

/-- **The reader is strict:** what it reads is JSON, and says what it reads. -/
theorem read?_sound {text : String} {v : Value} (h : read? text = some v) :
    Says text.toList v := by
  obtain ⟨⟨v', rest⟩, hvalue, h⟩ := Option.bind_eq_some_iff.mp h
  dsimp only at h
  split at h
  · next hrest =>
    cases h
    obtain ⟨before, hbefore, htext⟩ := exists_space text.toList
    obtain ⟨used, hused, hv⟩ := value?_sound _ _ _ _ hvalue
    obtain ⟨after, hafter, hend⟩ := exists_space rest
    rw [hrest, List.append_nil] at hend
    refine ⟨before, used, after, hbefore, hv, hafter, ?_⟩
    rw [List.append_assoc, ← hend, ← hused]
    exact htext
  · cases h

end HostAddresses.Json
