import HostAddresses.Json

/-!
# The grammar of JSON

Which texts are JSON, and what they say. The rules are those of the standard, one for one:
whitespace may stand around the six structural characters and around the whole, a string is made of
plain and of escaped characters, a number has no leading zeros.

A text says one value (`Denotes`). The members of an object keep their order, and none is dropped,
even if its name occurs again. A number is kept as it is written. A string that escapes half of a
surrogate pair says nothing, since no character is meant by it.
-/

namespace HostAddresses.Json

/-- What a JSON text can say. -/
inductive Value where
  | null
  | bool (b : Bool)
  /-- A number, as it is written. -/
  | number (text : String)
  | string (s : String)
  | array (items : List Value)
  | object (members : List (String × Value))

/-! ## Whitespace -/

/-- A character that may stand around the structural characters. -/
def isSpace (c : Char) : Bool := c ∈ [' ', '\t', '\n', '\r']

/-- Whitespace, which may be empty. -/
def Space (text : List Char) : Prop := ∀ c ∈ text, isSpace c = true

/-- A structural character, with whitespace around it. -/
def Mark (c : Char) (text : List Char) : Prop :=
  ∃ before after, Space before ∧ Space after ∧ text = before ++ c :: after

/-! ## Strings -/

/-- The letters that may stand behind a backslash, and what they mean there. -/
def letters : List (Char × Char) :=
  [('"', '"'), ('\\', '\\'), ('/', '/'), ('b', '\x08'), ('f', '\x0c'), ('n', '\n'), ('r', '\r'),
    ('t', '\t')]

/-- Four hexadecimal digits with their value. -/
def CodeUnit (digits : List Char) (n : Nat) : Prop :=
  digits.length = 4 ∧ Numeral.natural? 16 digits = some n

/-- The first half of a surrogate pair. -/
def isHigh (n : Nat) : Bool := 0xd800 ≤ n ∧ n < 0xdc00

/-- The second half of a surrogate pair. -/
def isLow (n : Nat) : Bool := 0xdc00 ≤ n ∧ n < 0xe000

/-- The character that a surrogate pair stands for. -/
def paired (high low : Nat) : Char :=
  Char.ofNat (0x10000 + 0x400 * (high - 0xd800) + (low - 0xdc00))

/-- How a character of a string may be written. -/
inductive Spells : List Char → Char → Prop where
  | plain {c : Char} : 0x20 ≤ c.toNat → c ≠ '"' → c ≠ '\\' → Spells [c] c
  | letter {l c : Char} : (l, c) ∈ letters → Spells ['\\', l] c
  | code {digits : List Char} {n : Nat} : CodeUnit digits n → isHigh n = false → isLow n = false →
    Spells ('\\' :: 'u' :: digits) (Char.ofNat n)
  | pair {digits digits' : List Char} {high low : Nat} : CodeUnit digits high →
    isHigh high = true → CodeUnit digits' low → isLow low = true →
    Spells ('\\' :: 'u' :: digits ++ '\\' :: 'u' :: digits') (paired high low)

/-- The characters of a string, each written in one of its ways. -/
inductive SpellsAll : List Char → List Char → Prop where
  | nil : SpellsAll [] []
  | cons {spelling text : List Char} {c : Char} {cs : List Char} :
    Spells spelling c → SpellsAll text cs → SpellsAll (spelling ++ text) (c :: cs)

/-- A string between its quotes. -/
inductive IsString : List Char → String → Prop where
  | quoted {text cs : List Char} : SpellsAll text cs →
    IsString (['"'] ++ text ++ ['"']) (String.ofList cs)

/-! ## Numbers -/

/-- One decimal digit or more. -/
def Digits (text : List Char) : Prop := text ≠ [] ∧ ∀ c ∈ text, c.isDigit = true

/-- The part of a number in front of its fraction, without a sign. -/
inductive IsWhole : List Char → Prop where
  | zero : IsWhole ['0']
  | digits {text : List Char} : Digits text → text.head? ≠ some '0' → IsWhole text

inductive IsFraction : List Char → Prop where
  | none : IsFraction []
  | digits {text : List Char} : Digits text → IsFraction ('.' :: text)

inductive IsExponent : List Char → Prop where
  | none : IsExponent []
  | digits {mark : Char} {sign text : List Char} : mark = 'e' ∨ mark = 'E' →
    sign = [] ∨ sign = ['+'] ∨ sign = ['-'] → Digits text → IsExponent (mark :: (sign ++ text))

inductive IsNumber : List Char → Prop where
  | mk {minus whole fraction exponent : List Char} : minus = [] ∨ minus = ['-'] →
    IsWhole whole → IsFraction fraction → IsExponent exponent →
    IsNumber (minus ++ whole ++ fraction ++ exponent)

/-! ## Values -/

section Items

variable {α : Type} (Item : List Char → α → Prop)

/-- Items with a comma in front of each. -/
inductive More : List Char → List α → Prop where
  | nil : More [] []
  | cons {comma text more : List Char} {a : α} {as : List α} :
    Mark ',' comma → Item text a → More more as → More (comma ++ text ++ more) (a :: as)

/-- Items with a comma between any two of them. -/
inductive Items : List Char → List α → Prop where
  | nil : Items [] []
  | cons {text more : List Char} {a : α} {as : List α} :
    Item text a → More Item more as → Items (text ++ more) (a :: as)

end Items

/-- A member of an object, by its name and what its value says. -/
inductive IsMember (Item : List Char → Value → Prop) : List Char → String × Value → Prop where
  | mk {name colon text : List Char} {s : String} {v : Value} :
    IsString name s → Mark ':' colon → Item text v → IsMember Item (name ++ colon ++ text) (s, v)

/-- What the text of one value says. -/
inductive Denotes : List Char → Value → Prop where
  | null : Denotes ['n', 'u', 'l', 'l'] .null
  | true : Denotes ['t', 'r', 'u', 'e'] (.bool true)
  | false : Denotes ['f', 'a', 'l', 's', 'e'] (.bool false)
  | number {text : List Char} : IsNumber text → Denotes text (.number (String.ofList text))
  | string {text : List Char} {s : String} : IsString text s → Denotes text (.string s)
  | array {opening items closing : List Char} {vs : List Value} :
    Mark '[' opening → Items Denotes items vs → Mark ']' closing →
    Denotes (opening ++ items ++ closing) (.array vs)
  | object {opening members closing : List Char} {ms : List (String × Value)} :
    Mark '\x7b' opening → Items (IsMember Denotes) members ms → Mark '\x7d' closing →
    Denotes (opening ++ members ++ closing) (.object ms)

/-- **What a JSON text says:** one value, with whitespace around it and nothing else. -/
def Says (text : List Char) (v : Value) : Prop :=
  ∃ before used after, Space before ∧ Denotes used v ∧ Space after ∧
    text = before ++ used ++ after

end HostAddresses.Json
