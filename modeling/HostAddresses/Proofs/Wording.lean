import HostAddresses.Log.Line
import Mathlib.Data.List.Forall2

/-!
# What a line of the log says

A line can be told without writing it (`Log.IsLine`). It starts with the mark of a level, which is
the name of the level or its sign (`Level.Marked`). A space behind that come the words of an event
(`Event.Says`). They stand there as they are but for the control characters that would act on a
terminal, which are written out (`Log.Written`), so printable words are left as they are
(`Log.Printable.escaped`).

An event has one line, and it is the one that is written (`Log.isLine_iff`), at the level that the
event has.
-/

namespace HostAddresses

/-! ## Marks -/

/-- The name of a level, its sign, and the parameters of the sign's colour. -/
inductive Level.Drawn : Level → String → String → String → Prop where
  | error : Drawn .error "error" "[-]" "1;31"
  | warn : Drawn .warn "warn" "[*]" "1;33"
  | info : Drawn .info "info" "[+]" "1;32"
  | debug : Drawn .debug "debug" "[?]" "34"
  | trace : Drawn .trace "trace" "[ ]" "2"

/-- **The mark of a level** in a style. -/
inductive Level.Marked : Style → Level → String → Prop where
  | named {level : Level} {name sign colour : String} :
    Drawn level name sign colour → Marked .named level ("ifreport: " ++ name ++ ":")
  | signs {level : Level} {name sign colour : String} :
    Drawn level name sign colour → Marked .signs level sign
  | colours {level : Level} {name sign colour : String} :
    Drawn level name sign colour →
    Marked .colours level ("\x1b[" ++ colour ++ "m" ++ sign ++ "\x1b[0m")

namespace Level

theorem drawn (level : Level) : Drawn level level.name level.symbol level.colour := by
  cases level
  · exact .error
  · exact .warn
  · exact .info
  · exact .debug
  · exact .trace

theorem Drawn.unique {level : Level} {name sign colour : String}
    (h : Drawn level name sign colour) :
    name = level.name ∧ sign = level.symbol ∧ colour = level.colour := by
  cases h <;> exact ⟨rfl, rfl, rfl⟩

/-- **A level has one mark in a style,** and it is what is written. -/
theorem marked_iff {style : Style} {level : Level} {mark : String} :
    Marked style level mark ↔ mark = level.mark style := by
  constructor
  · intro h
    cases h with
    | named h =>
      obtain ⟨rfl, -, -⟩ := h.unique
      rfl
    | signs h =>
      obtain ⟨-, rfl, -⟩ := h.unique
      rfl
    | colours h =>
      obtain ⟨-, rfl, rfl⟩ := h.unique
      rfl
  · rintro rfl
    cases style
    · exact .named level.drawn
    · exact .signs level.drawn
    · exact .colours level.drawn

end Level

/-! ## Words -/

/-- **What an event says.** -/
inductive Event.Says : Event → String → Prop where
  | listed (source : String) (count : Nat) :
    Says (.listed source count) (source ++ " returned " ++ toString count ++ " interface(s)")
  | enumerated (count : Nat) :
    Says (.enumerated count) ("Enumerated " ++ toString count ++ " interface(s)")
  | record (interface : String) (r : Record) :
    Says (.record interface r) (interface ++ ": " ++ r.family.name ++ " " ++ r.address ++
      " netmask " ++ Quoted.ofOption r.netmask)
  | ignored (interface : String) (family : Family) :
    Says (.ignored interface family) (interface ++ ": ignoring " ++ family.name ++ " record")
  | summarized (s : Summary) :
    Says (.summarized s) (s.name ++ ": ipv4=" ++ Quoted.ofString s.ipv4 ++ " ipv6=" ++
      Quoted.ofString s.ipv6 ++ " mac=" ++ Quoted.ofString s.mac)
  | replaced (interface : String) :
    Says (.replaced interface)
      ("Interface " ++ interface ++ " listed more than once, keeping the last entry")
  | collected (count : Nat) :
    Says (.collected count) ("Collected addresses for " ++ toString count ++ " interface(s)")
  | failed (description : String) : Says (.failed description) description

/-- **An event says one thing,** and it is its wording. -/
theorem Event.says_iff {e : Event} {wording : String} : e.Says wording ↔ wording = e.message := by
  have hsummarized : ∀ s : Summary, (Event.summarized s).message = s.name ++ ": ipv4=" ++
      Quoted.ofString s.ipv4 ++ " ipv6=" ++ Quoted.ofString s.ipv6 ++ " mac=" ++
      Quoted.ofString s.mac := by
    intro s
    have hspace : " mac=" = " " ++ "mac=" := rfl
    rw [hspace, ← String.append_assoc, String.append_assoc]
    rfl
  constructor
  · intro h
    cases h with
    | summarized s => exact (hsummarized s).symm
    | _ => rfl
  · rintro rfl
    cases e with
    | listed source count => exact .listed source count
    | enumerated count => exact .enumerated count
    | record interface r => exact .record interface r
    | ignored interface family => exact .ignored interface family
    | summarized s =>
      rw [hsummarized]
      exact .summarized s
    | replaced interface => exact .replaced interface
    | collected count => exact .collected count
    | failed description => exact .failed description

/-! ## Characters -/

namespace Log

/-- A control character that would act on a terminal. Line breaks are not among them. -/
def Acts (c : Char) : Prop :=
  c ∈ ['\x07', '\x08', '\x0c', '\x1b', '\x7f'] ∨ 0x80 ≤ c.toNat ∧ c.toNat ≤ 0x9f

/-- What stands in a line for a character: itself, or its code point in two hexadecimal digits. -/
inductive StandsFor (c : Char) : List Char → Prop where
  | itself : ¬ Acts c → StandsFor c [c]
  | byte : Acts c → c.toNat < 0x80 →
    StandsFor c ['\\', 'x', Nat.digitChar (c.toNat / 16), Nat.digitChar (c.toNat % 16)]
  | codePoint : Acts c → 0x80 ≤ c.toNat →
    StandsFor c
      ['\\', 'u', '\x7b', Nat.digitChar (c.toNat / 16), Nat.digitChar (c.toNat % 16), '\x7d']

/-- **How words are written** in a line. -/
def Written (wording text : String) : Prop :=
  ∃ pieces, List.Forall₂ StandsFor wording.toList pieces ∧ text.toList = pieces.flatten

theorem escape_of_not_acts {c : Char} (h : ¬ Acts c) : escape c = [c] := by
  obtain ⟨hbyte, hcode⟩ := not_or.mp h
  unfold escape
  dsimp only
  rw [if_neg hbyte, if_neg hcode]

theorem toNat_of_mem {c : Char} (h : c ∈ ['\x07', '\x08', '\x0c', '\x1b', '\x7f']) :
    c.toNat < 0x20 ∨ c.toNat = 0x7f := by
  have hcode : c.toNat ∈ [0x07, 0x08, 0x0c, 0x1b, 0x7f] := List.mem_map_of_mem h
  simp only [List.mem_cons, List.not_mem_nil, or_false] at hcode
  omega

/-- The other characters are of five bytes and of a range behind them. -/
theorem escape_of_acts_lt {c : Char} (h : Acts c) (hc : c.toNat < 0x80) :
    escape c = ['\\', 'x', Nat.digitChar (c.toNat / 16), Nat.digitChar (c.toNat % 16)] := by
  rcases h with h | h
  · simp only [List.mem_cons, List.not_mem_nil, or_false] at h
    rcases h with rfl | rfl | rfl | rfl | rfl <;> rfl
  · omega

theorem escape_of_acts_le {c : Char} (h : Acts c) (hc : 0x80 ≤ c.toNat) :
    escape c =
      ['\\', 'u', '\x7b', Nat.digitChar (c.toNat / 16), Nat.digitChar (c.toNat % 16), '\x7d'] := by
  have hpair : ∀ n < 0xa0, 0x80 ≤ n →
      Numeral.digits 16 n = [Nat.digitChar (n / 16), Nat.digitChar (n % 16)] := by
    decide +kernel
  have hmem : c ∉ ['\x07', '\x08', '\x0c', '\x1b', '\x7f'] := by
    intro hmem
    have hcode := toNat_of_mem hmem
    omega
  have hrange := h.resolve_left hmem
  unfold escape
  dsimp only
  rw [if_neg hmem, if_pos hrange, hpair c.toNat (by omega) hc]
  rfl

/-- **One thing stands for a character,** and it is what is written. -/
theorem standsFor_iff {c : Char} {piece : List Char} : StandsFor c piece ↔ piece = escape c := by
  constructor
  · intro h
    cases h with
    | itself h => exact (escape_of_not_acts h).symm
    | byte h hc => exact (escape_of_acts_lt h hc).symm
    | codePoint h hc => exact (escape_of_acts_le h hc).symm
  · rintro rfl
    by_cases h : Acts c
    · by_cases hc : c.toNat < 0x80
      · rw [escape_of_acts_lt h hc]
        exact .byte h hc
      · rw [escape_of_acts_le h (by omega)]
        exact .codePoint h (by omega)
    · rw [escape_of_not_acts h]
      exact .itself h

/-- **Words are written in one way.** -/
theorem written_iff {wording text : String} : Written wording text ↔ text = escaped wording := by
  have hpieces : ∀ pieces, List.Forall₂ StandsFor wording.toList pieces ↔
      wording.toList.map escape = pieces := by
    intro pieces
    have hstands : StandsFor = fun c piece => escape c = piece :=
      funext fun c => funext fun piece => propext (standsFor_iff.trans eq_comm)
    rw [← List.forall₂_eq_eq_eq, List.forall₂_map_left_iff, hstands]
  rw [Written]
  simp only [hpieces, exists_eq_left', ← String.toList_inj, escaped, String.toList_ofList,
    List.flatMap_def]

/-- Words of printable characters of ASCII. -/
def Printable (wording : String) : Prop :=
  ∀ c ∈ wording.toList, 0x20 ≤ c.toNat ∧ c.toNat < 0x7f

theorem Printable.append {a b : String} (ha : Printable a) (hb : Printable b) :
    Printable (a ++ b) := by
  intro c hc
  rw [String.toList_append, List.mem_append] at hc
  exact hc.elim (ha c) (hb c)

/-- Such words are written as they are. -/
theorem Printable.escaped {wording : String} (h : Printable wording) :
    escaped wording = wording := by
  have hitself : ∀ c ∈ wording.toList, escape c = [c] := by
    intro c hc
    have hrange := h c hc
    refine escape_of_not_acts fun hact => ?_
    rcases hact with hmem | hcode
    · have hcode := toNat_of_mem hmem
      omega
    · omega
  rw [Log.escaped, List.flatMap_congr hitself, List.flatMap_singleton', String.ofList_toList]

/-! ## Lines -/

/-- An event, and the level at which it is logged. -/
structure Entry where
  level : Level
  event : Event

/-- **The line of an event.** -/
inductive IsLine (style : Style) (x : Entry) : String → Prop where
  | mk {mark wording text : String} : Level.Marked style x.level mark → x.event.Says wording →
    Written wording text → IsLine style x (mark ++ " " ++ text ++ "\n")

/-- **An event has one line at its level,** and it is what is written. -/
theorem isLine_iff {style : Style} {x : Entry} (h : x.level = x.event.level) {text : String} :
    IsLine style x text ↔ text = line style x.event := by
  constructor
  · rintro ⟨hmark, hsays, hwritten⟩
    rw [Level.marked_iff.mp hmark, written_iff.mp hwritten, Event.says_iff.mp hsays, h, line]
  · rintro rfl
    rw [line, ← h]
    exact .mk (Level.marked_iff.mpr rfl) (Event.says_iff.mpr rfl) (written_iff.mpr rfl)

end Log

end HostAddresses
