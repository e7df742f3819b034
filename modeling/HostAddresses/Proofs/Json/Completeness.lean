import HostAddresses.Proofs.Json.Reader

/-!
# Every JSON text is read

A text says what the strict reader reads in it, and nothing else (`read?_eq_some_iff`).

The grammar may split whitespace in many ways, the reader takes as much of it as there is. So the
two agree on what is left of a text only up to whitespace: `Reads` says where a reader stops in
terms of `skip`, and `mark?_congr` and `more?_congr` say that what comes next does not see the
difference. A number has no mark behind it, so the reader takes it to its end only if what follows
cannot be a part of it, `Ends`.
-/

namespace HostAddresses.Json

/-! ## Whitespace -/

theorem isSpace_iff {c : Char} : isSpace c = true ↔ c = ' ' ∨ c = '\t' ∨ c = '\n' ∨ c = '\r' := by
  rw [isSpace, decide_eq_true_iff, List.mem_cons, List.mem_cons, List.mem_cons, List.mem_singleton]

theorem skip_append {space : List Char} (h : Space space) (text : List Char) :
    skip (space ++ text) = skip text :=
  List.dropWhile_append_of_pos h

theorem skip_cons {c : Char} (h : isSpace c = false) (rest : List Char) :
    skip (c :: rest) = c :: rest :=
  List.dropWhile_cons_of_neg (Bool.eq_false_iff.mp h)

theorem skip_skip (text : List Char) : skip (skip text) = skip text := by
  obtain ⟨space, hspace, htext⟩ := exists_space text
  have hskip := congrArg skip htext
  rwa [skip_append hspace, eq_comm] at hskip

theorem skip_space {space : List Char} (h : Space space) : skip space = [] := by
  rw [← List.append_nil space, skip_append h]
  rfl

/-! ## Structural characters -/

theorem mark?_congr {c : Char} {text text' : List Char} (h : skip text = skip text') :
    mark? c text = mark? c text' := by
  rw [mark?, mark?, h]

theorem mark?_skip (c : Char) (text : List Char) : mark? c (skip text) = mark? c text :=
  mark?_congr (skip_skip text)

/-- The first character that is no whitespace decides. -/
theorem mark?_append {space : List Char} {d : Char} (hspace : Space space) (hd : isSpace d = false)
    (c : Char) (rest : List Char) :
    mark? c (space ++ d :: rest) = if d = c then some (skip rest) else none := by
  rw [mark?, skip_append hspace, skip_cons hd]

theorem mark?_complete {c : Char} (hc : isSpace c = false) {used : List Char} (h : Mark c used)
    (rest : List Char) : mark? c (used ++ rest) = some (skip rest) := by
  obtain ⟨before, after, hbefore, hafter, rfl⟩ := h
  rw [List.append_assoc, List.cons_append, mark?_append hbefore hc, if_pos rfl, skip_append hafter]

theorem mark?_of_ne {c d : Char} (hne : d ≠ c) (hd : isSpace d = false) {used : List Char}
    (h : Mark d used) (rest : List Char) : mark? c (used ++ rest) = none := by
  obtain ⟨before, after, hbefore, -, rfl⟩ := h
  rw [List.append_assoc, List.cons_append, mark?_append hbefore hd, if_neg hne]

/-! ## Strings -/

theorem codeUnit?_complete {digits : List Char} {n : Nat} (h : CodeUnit digits n)
    (rest : List Char) : codeUnit? (digits ++ rest) = some (n, rest) := by
  obtain ⟨hlen, hn⟩ := h
  match digits, hlen with
  | [a, b, c, d], _ =>
    show (Numeral.natural? 16 [a, b, c, d]).map _ = _
    rw [hn]
    rfl

theorem codePoint?_of_code {digits : List Char} {n : Nat} (h : CodeUnit digits n)
    (hhigh : isHigh n = false) (hlow : isLow n = false) (rest : List Char) :
    codePoint? (digits ++ rest) = some (Char.ofNat n, rest) := by
  rw [codePoint?, codeUnit?_complete h]
  simp [hhigh, hlow]

theorem codePoint?_of_pair {digits digits' : List Char} {high low : Nat}
    (h : CodeUnit digits high) (hhigh : isHigh high = true) (h' : CodeUnit digits' low)
    (hlow : isLow low = true) (rest : List Char) :
    codePoint? (digits ++ '\\' :: 'u' :: (digits' ++ rest)) = some (paired high low, rest) := by
  have hread : lowHalf? ('\\' :: 'u' :: (digits' ++ rest)) = some (low, rest) := by
    rw [lowHalf?, codeUnit?_complete h', Option.filter_some, if_pos hlow]
  rw [codePoint?, codeUnit?_complete h]
  simp [hhigh, hread]

theorem char?_of_letter {l c : Char} (h : (l, c) ∈ letters) (rest : List Char) :
    char? ('\\' :: l :: rest) = some (c, rest) := by
  simp only [letters, List.mem_cons, List.not_mem_nil, or_false, Prod.mk.injEq] at h
  obtain ⟨rfl, rfl⟩ | ⟨rfl, rfl⟩ | ⟨rfl, rfl⟩ | ⟨rfl, rfl⟩ | ⟨rfl, rfl⟩ | ⟨rfl, rfl⟩ |
    ⟨rfl, rfl⟩ | ⟨rfl, rfl⟩ := h <;> rfl

theorem char?_complete {spelling : List Char} {c : Char} (h : Spells spelling c)
    (rest : List Char) : char? (spelling ++ rest) = some (c, rest) := by
  cases h with
  | plain hplain hquote hslash =>
    rw [List.singleton_append, char?.eq_def]
    split
    · next heq => exact absurd (List.cons.inj heq).1 hslash
    · next heq => exact absurd (List.cons.inj heq).1 hslash
    · next heq =>
      obtain ⟨rfl, rfl⟩ := List.cons.inj heq
      rw [if_pos ⟨hplain, hquote, hslash⟩]
    · next heq => cases heq
  | letter hletter => exact char?_of_letter hletter rest
  | code hdigits hhigh hlow => exact codePoint?_of_code hdigits hhigh hlow rest
  | pair hdigits hhigh hdigits' hlow =>
    rw [List.append_assoc]
    exact codePoint?_of_pair hdigits hhigh hdigits' hlow rest

theorem Spells.exists_cons {spelling : List Char} {c : Char} (h : Spells spelling c) :
    ∃ d rest, spelling = d :: rest ∧ d ≠ '"' := by
  cases h with
  | plain hplain hquote hslash => exact ⟨_, _, rfl, hquote⟩
  | letter hletter => exact ⟨_, _, rfl, by decide⟩
  | code hdigits hhigh hlow => exact ⟨_, _, rfl, by decide⟩
  | pair hdigits hhigh hdigits' hlow => exact ⟨_, _, rfl, by decide⟩

theorem SpellsAll.length_le {text cs : List Char} (h : SpellsAll text cs) :
    cs.length ≤ text.length := by
  induction h with
  | nil => exact Nat.le_refl 0
  | cons hspelling _ ih =>
    obtain ⟨d, rest, rfl, -⟩ := hspelling.exists_cons
    rw [List.length_append, List.length_cons, List.length_cons]
    omega

theorem chars?_complete {text cs : List Char} (h : SpellsAll text cs) {bound : Nat}
    (hbound : cs.length < bound) (rest : List Char) :
    chars? bound (text ++ '"' :: rest) = some (cs, rest) := by
  induction h generalizing bound with
  | nil =>
    obtain ⟨bound, rfl⟩ := Nat.exists_eq_add_of_lt hbound
    rfl
  | @cons spelling text c cs hspelling _ ih =>
    cases bound with
    | zero => exact absurd hbound (Nat.not_lt_zero _)
    | succ bound =>
      obtain ⟨d, spelled, hspelled, hquote⟩ := hspelling.exists_cons
      have hchar := char?_complete hspelling (text ++ '"' :: rest)
      have hchars := ih (Nat.lt_of_succ_lt_succ hbound)
      rw [List.append_assoc, chars?.eq_def]
      split
      · next heq => cases heq
      · next heq =>
        rw [hspelled] at heq
        exact absurd (List.cons.inj heq).1 hquote
      · next heq _ =>
        cases heq
        rw [hchar]
        simp [hchars]

theorem string?_complete {used : List Char} {s : String} (h : IsString used s) (rest : List Char) :
    string? (used ++ rest) = some (s, rest) := by
  cases h with
  | @quoted text cs htext =>
    have hlen := htext.length_le
    have hread : string? ('"' :: (text ++ '"' :: rest)) = some (String.ofList cs, rest) := by
      rw [string?, chars?_complete htext (by rw [List.length_append]; omega)]
      rfl
    simpa using hread

/-! ## Numbers -/

/-- A character that may continue a number. -/
def isNumeral (c : Char) : Bool := c.isDigit || c ∈ ['.', 'e', 'E']

/-- What stands here is not the rest of a number. -/
def Ends (text : List Char) : Prop := ∀ c ∈ text.head?, isNumeral c = false

theorem not_digit_of_not_numeral {c : Char} (h : isNumeral c = false) : c.isDigit = false :=
  (Bool.or_eq_false_iff.mp h).1

theorem Ends.not_digit {text : List Char} (h : Ends text) : ∀ c ∈ text.head?, c.isDigit = false :=
  fun c hc => not_digit_of_not_numeral (h c hc)

theorem ends_space {space rest : List Char} (hspace : Space space) (h : Ends rest) :
    Ends (space ++ rest) := by
  cases space with
  | nil => exact h
  | cons c space =>
    intro d hd
    obtain rfl := Option.some.inj hd
    rcases isSpace_iff.mp (hspace c List.mem_cons_self) with rfl | rfl | rfl | rfl <;> rfl

theorem ends_mark {c : Char} (hc : isNumeral c = false) {used : List Char} (h : Mark c used)
    (rest : List Char) : Ends (used ++ rest) := by
  obtain ⟨before, after, hbefore, -, rfl⟩ := h
  rw [List.append_assoc]
  refine ends_space hbefore ?_
  intro d hd
  obtain rfl := Option.some.inj hd
  exact hc

theorem digits?_complete {ds : List Char} (h : Digits ds) {rest : List Char}
    (hrest : ∀ c ∈ rest.head?, c.isDigit = false) : digits? (ds ++ rest) = some (ds, rest) := by
  obtain ⟨hne, hdigits⟩ := h
  have hstop : rest.takeWhile Char.isDigit = [] ∧ rest.dropWhile Char.isDigit = rest := by
    cases rest with
    | nil => exact ⟨rfl, rfl⟩
    | cons c rest =>
      have hc := Bool.eq_false_iff.mp (hrest c rfl)
      exact ⟨List.takeWhile_cons_of_neg hc, List.dropWhile_cons_of_neg hc⟩
  rw [digits?, List.takeWhile_append_of_pos hdigits, List.dropWhile_append_of_pos hdigits, hstop.1,
    hstop.2, List.append_nil, if_neg hne]

/-- A sign that may be left out is read where it stands. -/
theorem sign_complete {signs used : List Char} (h : used = [] ∨ ∃ c ∈ signs, used = [c])
    {rest : List Char} (hrest : ∀ c ∈ rest.head?, c ∉ signs) :
    sign signs (used ++ rest) = (used, rest) := by
  obtain rfl | ⟨c, hc, rfl⟩ := h
  · cases rest with
    | nil => rfl
    | cons c rest => exact if_neg (hrest c rfl)
  · exact if_pos hc

theorem Digits.exists_cons {ds : List Char} (h : Digits ds) :
    ∃ d rest, ds = d :: rest ∧ d.isDigit = true := by
  obtain ⟨d, rest, rfl⟩ := List.exists_cons_of_ne_nil h.1
  exact ⟨d, rest, rfl, h.2 d List.mem_cons_self⟩

theorem IsWhole.exists_cons {whole : List Char} (h : IsWhole whole) :
    ∃ d rest, whole = d :: rest ∧ d.isDigit = true := by
  cases h with
  | zero => exact ⟨'0', [], rfl, rfl⟩
  | digits hdigits _ => exact hdigits.exists_cons

theorem whole?_complete {used : List Char} (h : IsWhole used) {rest : List Char}
    (hrest : ∀ c ∈ rest.head?, c.isDigit = false) : whole? (used ++ rest) = some (used, rest) := by
  cases h with
  | zero => rfl
  | digits hdigits hzero =>
    obtain ⟨d, ds, rfl, -⟩ := hdigits.exists_cons
    rw [whole?.eq_def]
    split
    · next heq => exact absurd (congrArg some (List.cons.inj heq).1) hzero
    · exact digits?_complete hdigits hrest

theorem fraction?_complete {used : List Char} (h : IsFraction used) {rest : List Char}
    (hrest : ∀ c ∈ rest.head?, c.isDigit = false ∧ c ≠ '.') :
    fraction? (used ++ rest) = some (used, rest) := by
  cases h with
  | none =>
    rw [List.nil_append, fraction?.eq_def]
    split
    · exact absurd rfl (hrest '.' rfl).2
    · rfl
  | @digits ds hdigits =>
    show (digits? (ds ++ rest)).map _ = _
    rw [digits?_complete hdigits fun c hc => (hrest c hc).1]
    rfl

theorem exponent?_complete {used : List Char} (h : IsExponent used) {rest : List Char}
    (hrest : Ends rest) : exponent? (used ++ rest) = some (used, rest) := by
  cases h with
  | none =>
    cases rest with
    | nil => rfl
    | cons c rest =>
      have hmark : ¬ (c = 'e' ∨ c = 'E') := by
        rintro (rfl | rfl) <;> exact absurd (hrest _ rfl) (by decide)
      exact if_neg hmark
  | @digits mark signs ds hmark hsigns hdigits =>
    -- the digits behind the sign keep the reader from taking another sign
    have hsign : sign ['+', '-'] (signs ++ (ds ++ rest)) = (signs, ds ++ rest) := by
      refine sign_complete (by simpa using hsigns) ?_
      obtain ⟨d, ds, rfl, hd⟩ := hdigits.exists_cons
      intro c hc
      obtain rfl := Option.some.inj hc
      simp only [List.mem_cons, List.not_mem_nil, or_false]
      rintro (rfl | rfl) <;> exact absurd hd (by decide)
    rw [List.cons_append, List.append_assoc, exponent?, if_pos hmark, hsign,
      digits?_complete hdigits hrest.not_digit]
    rfl

theorem head_exponent {exponent rest : List Char} (h : IsExponent exponent) (hrest : Ends rest) :
    ∀ c ∈ (exponent ++ rest).head?, c.isDigit = false ∧ c ≠ '.' := by
  intro c hc
  cases h with
  | none =>
    refine ⟨hrest.not_digit c hc, ?_⟩
    rintro rfl
    exact absurd (hrest _ hc) (by decide)
  | digits hmark _ _ =>
    obtain rfl := Option.some.inj hc
    obtain rfl | rfl := hmark <;> decide

theorem head_fraction {fraction behind : List Char} (h : IsFraction fraction)
    (hbehind : ∀ c ∈ behind.head?, c.isDigit = false ∧ c ≠ '.') :
    ∀ c ∈ (fraction ++ behind).head?, c.isDigit = false := by
  intro c hc
  cases h with
  | none => exact (hbehind c hc).1
  | digits _ =>
    obtain rfl := Option.some.inj hc
    rfl

theorem number?_complete {used : List Char} (h : IsNumber used) {rest : List Char}
    (hrest : Ends rest) : number? (used ++ rest) = some (used, rest) := by
  obtain ⟨hminus, hwhole, hfraction, hexponent⟩ := h
  rename_i minus whole fraction exponent
  have hbehind := head_exponent hexponent hrest
  have hsign : sign ['-'] (minus ++ (whole ++ (fraction ++ (exponent ++ rest)))) =
      (minus, whole ++ (fraction ++ (exponent ++ rest))) := by
    refine sign_complete (by simpa using hminus) ?_
    obtain ⟨d, ds, rfl, hd⟩ := hwhole.exists_cons
    intro c hc
    obtain rfl := Option.some.inj hc
    rw [List.mem_singleton]
    rintro rfl
    exact absurd hd (by decide)
  rw [List.append_assoc, List.append_assoc, List.append_assoc, number?, hsign,
    whole?_complete hwhole (head_fraction hfraction hbehind)]
  simp [fraction?_complete hfraction hbehind, exponent?_complete hexponent hrest]

/-! ## Items -/

/-- A reader reads the items of the grammar up to a length, and stops behind each up to
whitespace. -/
def Reads {α : Type} (Item : List Char → α → Prop) (n : Nat) (read : Reader α) : Prop :=
  ∀ used a rest, used.length ≤ n → Item used a → Ends rest →
    ∃ rest', read (skip (used ++ rest)) = some (a, rest') ∧ skip rest' = skip rest

/-- The characters that close items. -/
def closings : List Char := [']', '\x7d']

theorem mem_closings_iff {c : Char} : c ∈ closings ↔ c = ']' ∨ c = '\x7d' := by
  rw [closings, List.mem_cons, List.mem_singleton]

theorem closing_ne_comma {c : Char} (h : c ∈ closings) : ',' ≠ c := by
  obtain rfl | rfl := mem_closings_iff.mp h <;> exact nofun

theorem isSpace_closing {c : Char} (h : c ∈ closings) : isSpace c = false := by
  obtain rfl | rfl := mem_closings_iff.mp h <;> rfl

theorem isNumeral_closing {c : Char} (h : c ∈ closings) : isNumeral c = false := by
  obtain rfl | rfl := mem_closings_iff.mp h <;> rfl

/-- A text begins, behind whitespace, with a character that closes nothing. -/
def Opens (text : List Char) : Prop :=
  ∃ before c rest, Space before ∧ isSpace c = false ∧ c ∉ closings ∧ text = before ++ c :: rest

theorem opens_cons {c : Char} (hspace : isSpace c = false) (hclosing : c ∉ closings)
    (rest : List Char) : Opens (c :: rest) :=
  ⟨[], c, rest, List.forall_mem_nil _, hspace, hclosing, rfl⟩

theorem Opens.append {text : List Char} (h : Opens text) (rest : List Char) :
    Opens (text ++ rest) := by
  obtain ⟨before, c, behind, hbefore, hspace, hclosing, rfl⟩ := h
  exact ⟨before, c, behind ++ rest, hbefore, hspace, hclosing, by simp⟩

theorem Opens.mark?_eq_none {text : List Char} (h : Opens text) {closing : Char}
    (hclosing : closing ∈ closings) : mark? closing text = none := by
  obtain ⟨before, c, behind, hbefore, hspace, hc, rfl⟩ := h
  rw [mark?_append hbefore hspace, if_neg]
  rintro rfl
  exact hc hclosing

theorem opens_mark {c : Char} (hspace : isSpace c = false) (hclosing : c ∉ closings)
    {used : List Char} (h : Mark c used) : Opens used := by
  obtain ⟨before, after, hbefore, -, rfl⟩ := h
  exact ⟨before, c, after, hbefore, hspace, hclosing, rfl⟩

section Items

variable {α : Type} {Item : List Char → α → Prop} {item : Reader α} {closing : Char} {n : Nat}

theorem more?_congr {text text' : List Char} (h : skip text = skip text') (bound : Nat) :
    more? item closing bound text = more? item closing bound text' := by
  cases bound with
  | zero => rfl
  | succ bound => rw [more?, more?, mark?_congr h, mark?_congr h]

theorem More.length_le {used : List Char} {as : List α} (h : More Item used as) :
    as.length ≤ used.length := by
  induction h with
  | nil => exact Nat.le_refl 0
  | cons hcomma _ _ ih =>
    obtain ⟨before, after, -, -, rfl⟩ := hcomma
    simp only [List.length_append, List.length_cons]
    omega

theorem ends_more (hclosing : closing ∈ closings) {used close : List Char} {as : List α}
    (h : More Item used as) (hclose : Mark closing close) (rest : List Char) :
    Ends (used ++ (close ++ rest)) := by
  cases h with
  | nil => exact ends_mark (isNumeral_closing hclosing) hclose rest
  | cons hcomma _ _ =>
    rw [List.append_assoc, List.append_assoc]
    exact ends_mark rfl hcomma _

theorem more?_complete (hitem : Reads Item n item) (hclosing : closing ∈ closings)
    {used close : List Char} {as : List α} (h : More Item used as) (hclose : Mark closing close)
    (hlen : used.length ≤ n) {bound : Nat} (hbound : as.length < bound) (rest : List Char) :
    more? item closing bound (used ++ (close ++ rest)) = some (as, skip rest) := by
  have hspace := isSpace_closing hclosing
  induction h generalizing bound with
  | nil =>
    cases bound with
    | zero => exact absurd hbound (Nat.not_lt_zero _)
    | succ bound => rw [List.nil_append, more?, mark?_complete hspace hclose]
  | @cons comma text more a as hcomma ha hmore ih =>
    cases bound with
    | zero => exact absurd hbound (Nat.not_lt_zero _)
    | succ bound =>
      rw [List.length_append, List.length_append] at hlen
      have hends := ends_more hclosing hmore hclose rest
      obtain ⟨rest', hread, hrest'⟩ := hitem text a _ (by omega) ha hends
      have hreadMore := ih (by omega) (Nat.lt_of_succ_lt_succ hbound)
      rw [← more?_congr hrest'] at hreadMore
      rw [List.append_assoc, List.append_assoc, more?,
        mark?_of_ne (closing_ne_comma hclosing) rfl hcomma,
        mark?_complete rfl hcomma]
      simp [hread, hreadMore]

theorem items?_complete (hitem : Reads Item n item) (hclosing : closing ∈ closings)
    (hopen : ∀ text a, Item text a → Opens text)
    {used close : List Char} {as : List α} (h : Items Item used as) (hclose : Mark closing close)
    (hlen : used.length ≤ n) {bound : Nat} (hbound : used.length < bound) (rest : List Char) :
    items? item closing bound (skip (used ++ (close ++ rest))) = some (as, skip rest) := by
  cases h with
  | nil => rw [items?, mark?_skip, List.nil_append,
      mark?_complete (isSpace_closing hclosing) hclose]
  | @cons text more a as ha hmore =>
    rw [List.length_append] at hlen hbound
    have hends := ends_more hclosing hmore hclose rest
    obtain ⟨rest', hread, hrest'⟩ := hitem text a _ (by omega) ha hends
    have hmoreLen := hmore.length_le
    have hcount : as.length < bound := by omega
    have hreadMore := more?_complete hitem hclosing hmore hclose (by omega) hcount rest
    rw [← more?_congr hrest'] at hreadMore
    have hnone := ((hopen text a ha).append (more ++ (close ++ rest))).mark?_eq_none hclosing
    rw [List.append_assoc, items?, mark?_skip, hnone]
    simp [hread, hreadMore]

/-- What stands between its brackets is read, in a bound that leaves room for the brackets. -/
theorem brackets_complete (hitem : Reads Item n item) (hclosing : closing ∈ closings)
    (hopen : ∀ text a, Item text a → Opens text) {c : Char} (hc : isSpace c = false)
    {opening used close : List Char} {as : List α} (hopening : Mark c opening)
    (h : Items Item used as) (hclose : Mark closing close)
    (hlen : (opening ++ used ++ close).length ≤ n + 1) (rest : List Char) :
    ∃ behind, skip (opening ++ used ++ close ++ rest) = c :: behind ∧
      items? item closing n (skip behind) = some (as, skip rest) := by
  obtain ⟨before, after, hbefore, hafter, rfl⟩ := hopening
  have hroom : used.length < n := by
    obtain ⟨_, _, -, -, rfl⟩ := hclose
    simp only [List.length_append, List.length_cons] at hlen
    omega
  refine ⟨after ++ (used ++ (close ++ rest)), ?_, ?_⟩
  · simp only [List.append_assoc, List.cons_append]
    rw [skip_append hbefore, skip_cons hc]
  · rw [skip_append hafter]
    exact items?_complete hitem hclosing hopen h hclose (Nat.le_of_lt hroom) hroom rest

end Items

/-! ## Values -/

/-- A character that a number may begin with. -/
def startsNumber (c : Char) : Bool := c = '-' || c.isDigit

theorem ne_of_startsNumber {c d : Char} (hc : startsNumber c = true) (hd : startsNumber d = false) :
    c ≠ d := by
  rintro rfl
  rw [hc] at hd
  cases hd

theorem not_space_of_startsNumber {c : Char} (hc : startsNumber c = true) : isSpace c = false := by
  rw [← Bool.not_eq_true, isSpace_iff]
  rintro (rfl | rfl | rfl | rfl) <;> exact absurd hc nofun

theorem not_closing_of_startsNumber {c : Char} (hc : startsNumber c = true) : c ∉ closings := by
  rw [mem_closings_iff]
  rintro (rfl | rfl) <;> exact absurd hc nofun

theorem startsNumber_of_digit {c : Char} (h : c.isDigit = true) : startsNumber c = true := by
  rw [startsNumber, h, Bool.or_true]

theorem IsNumber.exists_cons {used : List Char} (h : IsNumber used) :
    ∃ d rest, used = d :: rest ∧ startsNumber d = true := by
  obtain ⟨hminus, hwhole, -, -⟩ := h
  obtain ⟨d, ds, rfl, hd⟩ := hwhole.exists_cons
  rcases hminus with rfl | rfl
  · exact ⟨d, _, rfl, startsNumber_of_digit hd⟩
  · exact ⟨'-', _, rfl, rfl⟩

theorem scalar?_of_number {d : Char} (hd : startsNumber d = true) (rest : List Char) :
    scalar? (d :: rest) =
      (number? (d :: rest)).map fun (used, rest) => (.number (String.ofList used), rest) := by
  rw [scalar?.eq_def]
  split
  · next heq => exact absurd (List.cons.inj heq).1 (ne_of_startsNumber hd rfl)
  · next heq => exact absurd (List.cons.inj heq).1 (ne_of_startsNumber hd rfl)
  · next heq => exact absurd (List.cons.inj heq).1 (ne_of_startsNumber hd rfl)
  · next heq => exact absurd (List.cons.inj heq).1 (ne_of_startsNumber hd rfl)
  · rfl

/-- What begins with no bracket is read as a scalar. -/
theorem value?_of_scalar {d : Char} (hspace : isSpace d = false) (hbracket : d ≠ '[')
    (hbrace : d ≠ '\x7b') (bound : Nat) (rest : List Char) :
    value? (bound + 1) (skip (d :: rest)) = scalar? (d :: rest) := by
  rw [skip_cons hspace, value?.eq_def]
  split
  · next heq => cases heq
  · next heq => exact absurd (List.cons.inj heq).1 hbracket
  · next heq => exact absurd (List.cons.inj heq).1 hbrace
  · rfl

theorem IsNumber.opens {used : List Char} (h : IsNumber used) : Opens used := by
  obtain ⟨d, rest, rfl, hd⟩ := h.exists_cons
  exact opens_cons (not_space_of_startsNumber hd) (not_closing_of_startsNumber hd) rest

theorem IsString.opens {used : List Char} {s : String} (h : IsString used s) : Opens used := by
  cases h with
  | quoted _ =>
    rw [List.append_assoc]
    exact opens_cons rfl (by decide) _

theorem Denotes.opens {used : List Char} {v : Value} (h : Denotes used v) : Opens used := by
  cases h with
  | null => exact opens_cons rfl (by decide) _
  | true => exact opens_cons rfl (by decide) _
  | false => exact opens_cons rfl (by decide) _
  | number hnumber => exact hnumber.opens
  | string hstring => exact hstring.opens
  | array hopening _ _ =>
    rw [List.append_assoc]
    exact (opens_mark rfl (by decide) hopening).append _
  | object hopening _ _ =>
    rw [List.append_assoc]
    exact (opens_mark rfl (by decide) hopening).append _

theorem IsMember.opens {Item : List Char → Value → Prop} {used : List Char} {m : String × Value}
    (h : IsMember Item used m) : Opens used := by
  cases h with
  | mk hname _ _ =>
    rw [List.append_assoc]
    exact hname.opens.append _

theorem reads_member {Item : List Char → Value → Prop} {n : Nat} {value : Reader Value}
    (hvalue : Reads Item n value) : Reads (IsMember Item) n (member? value) := by
  intro used m rest hlen h hends
  cases h with
  | @mk name colon text s v hname hcolon hv =>
    rw [List.length_append] at hlen
    obtain ⟨rest', hread, hrest'⟩ := hvalue text v rest (by omega) hv hends
    refine ⟨rest', ?_, hrest'⟩
    have hskip : skip (name ++ (colon ++ (text ++ rest))) = name ++ (colon ++ (text ++ rest)) := by
      cases hname with
      | quoted _ =>
        rw [List.append_assoc, List.append_assoc]
        exact skip_cons rfl _
    rw [List.append_assoc, List.append_assoc, hskip, member?, string?_complete hname]
    simp [mark?_complete rfl hcolon, hread]

theorem value?_complete (bound : Nat) : Reads Denotes bound (value? bound) := by
  induction bound with
  | zero =>
    intro used v rest hlen h _
    obtain ⟨before, c, behind, -, -, -, rfl⟩ := h.opens
    rw [List.length_append, List.length_cons] at hlen
    omega
  | succ bound ih =>
    intro used v rest hlen h hends
    cases h with
    | null => exact ⟨rest, rfl, rfl⟩
    | true => exact ⟨rest, rfl, rfl⟩
    | false => exact ⟨rest, rfl, rfl⟩
    | number hnumber =>
      obtain ⟨d, behind, rfl, hd⟩ := hnumber.exists_cons
      have hread := number?_complete hnumber hends
      rw [List.cons_append] at hread ⊢
      rw [value?_of_scalar (not_space_of_startsNumber hd) (ne_of_startsNumber hd rfl)
        (ne_of_startsNumber hd rfl), scalar?_of_number hd, hread]
      exact ⟨rest, rfl, rfl⟩
    | @string _ s hstring =>
      have hread := string?_complete hstring rest
      obtain ⟨htext⟩ := hstring
      rw [List.append_assoc, List.append_assoc, List.singleton_append] at hread ⊢
      rw [value?_of_scalar rfl (by decide) (by decide), scalar?, hread]
      exact ⟨rest, rfl, rfl⟩
    | array hopening hitems hclose =>
      obtain ⟨behind, hskip, hread⟩ := brackets_complete ih (List.mem_cons_self ..)
        (fun _ _ => Denotes.opens) rfl hopening hitems hclose hlen rest
      rw [hskip, value?, hread]
      exact ⟨skip rest, rfl, skip_skip rest⟩
    | object hopening hmembers hclose =>
      obtain ⟨behind, hskip, hread⟩ := brackets_complete (reads_member ih)
        (List.mem_cons_of_mem _ (List.mem_cons_self ..)) (fun _ _ => IsMember.opens) rfl hopening
        hmembers hclose hlen rest
      rw [hskip, value?, hread]
      exact ⟨skip rest, rfl, skip_skip rest⟩

/-- **Every JSON text is read,** and as what it says. -/
theorem read?_complete {text : String} {v : Value} (h : Says text.toList v) :
    read? text = some v := by
  obtain ⟨before, used, after, hbefore, hv, hafter, htext⟩ := h
  have hlen : used.length ≤ text.toList.length := by
    simp only [htext, List.length_append]
    omega
  have hends : Ends after := by
    rw [← List.append_nil after]
    exact ends_space hafter fun _ hc => nomatch hc
  obtain ⟨rest, hread, hrest⟩ := value?_complete _ used v after hlen hv hends
  have hskip : skip text.toList = skip (used ++ after) := by
    rw [htext, List.append_assoc, skip_append hbefore]
  rw [read?, hskip, hread]
  simp [hrest, skip_space hafter]

/-- **The reader reads JSON,** all of it and nothing else. -/
theorem read?_eq_some_iff {text : String} {v : Value} : read? text = some v ↔ Says text.toList v :=
  ⟨read?_sound, read?_complete⟩

example : read? "\x7b\"a\": -1.50, \"a\": [\"\\u00e9\"]\x7d\n" =
    some (.object [("a", .number "-1.50"), ("a", .array [.string "é"])]) := by rfl

example : [read? "[1,]", read? "[01]", read? "\"\\ud800\"", read? "[] []"] =
    [none, none, none, none] := by rfl

end HostAddresses.Json
