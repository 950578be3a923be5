import Mathlib.Data.List.Basic

/-!
# JSON texts

The grammar of RFC 8259 over bytes, with a bound on the nesting and without
escapes of code point zero or of unpaired surrogates. A byte from 0x80 on counts
as an unescaped character of its own; whether the text as a whole is UTF-8 is a
question apart.
-/
namespace Lgnome.Json

abbrev quote : UInt8 := 0x22
abbrev backslash : UInt8 := 0x5c
abbrev comma : UInt8 := 0x2c
abbrev colon : UInt8 := 0x3a
abbrev openBrace : UInt8 := 0x7b
abbrev closeBrace : UInt8 := 0x7d
abbrev openBracket : UInt8 := 0x5b
abbrev closeBracket : UInt8 := 0x5d
abbrev minus : UInt8 := 0x2d
abbrev plus : UInt8 := 0x2b
abbrev dot : UInt8 := 0x2e
abbrev letterU : UInt8 := 0x75

/-! ## Characters -/

def isWs (c : UInt8) : Bool := c == 0x20 || c == 0x09 || c == 0x0d || c == 0x0a

def isDigit (c : UInt8) : Bool := 0x30 ≤ c && c ≤ 0x39

def hexValue (c : UInt8) : Option Nat :=
  if 0x30 ≤ c ∧ c ≤ 0x39 then some (c.toNat - 0x30)
  else if 0x61 ≤ c ∧ c ≤ 0x66 then some (c.toNat - 0x61 + 10)
  else if 0x41 ≤ c ∧ c ≤ 0x46 then some (c.toNat - 0x41 + 10)
  else none

/-- What a backslash and this byte stand for. -/
def shortEscape (c : UInt8) : Option UInt8 :=
  if c = quote ∨ c = backslash ∨ c = 0x2f then some c
  else if c = 0x62 then some 0x08
  else if c = 0x66 then some 0x0c
  else if c = 0x6e then some 0x0a
  else if c = 0x72 then some 0x0d
  else if c = 0x74 then some 0x09
  else none

/-- The value of hexadecimal digits behind the ones that gave `v`. -/
def hexDigits (v : Nat) : List UInt8 → Option Nat
  | [] => some v
  | c :: digits => (hexValue c).bind fun d => hexDigits (v * 16 + d) digits

/-- Four hexadecimal digits and their value. -/
def Hex4 (text : List UInt8) (value : Nat) : Prop :=
  text.length = 4 ∧ hexDigits 0 text = some value

def IsHigh (v : Nat) : Prop := 0xd800 ≤ v ∧ v ≤ 0xdbff

def IsLow (v : Nat) : Prop := 0xdc00 ≤ v ∧ v ≤ 0xdfff

/-- The code point of a surrogate pair. -/
def pairValue (high low : Nat) : Nat := 0x10000 + (high - 0xd800) * 0x400 + (low - 0xdc00)

def utf8 (codepoint : Nat) : List UInt8 := String.utf8EncodeChar (Char.ofNat codepoint)

/-- A character of a string: how it is spelled, and the bytes it stands for. -/
inductive StringChar : List UInt8 → List UInt8 → Prop
  | plain (c : UInt8) : 0x20 ≤ c → c ≠ quote → c ≠ backslash → StringChar [c] [c]
  | short (e c : UInt8) : shortEscape e = some c → StringChar [backslash, e] [c]
  | unicode (digits : List UInt8) (v : Nat) : Hex4 digits v → v ≠ 0 → ¬ IsHigh v → ¬ IsLow v →
      StringChar (backslash :: letterU :: digits) (utf8 v)
  | pair (high low : List UInt8) (v w : Nat) : Hex4 high v → Hex4 low w → IsHigh v → IsLow w →
      StringChar (backslash :: letterU :: high ++ backslash :: letterU :: low)
        (utf8 (pairValue v w))

inductive Chars : List UInt8 → List UInt8 → Prop
  | nil : Chars [] []
  | cons {c bytes text decoded : List UInt8} : StringChar c bytes → Chars text decoded →
      Chars (c ++ text) (bytes ++ decoded)

/-- A string with its quotes. -/
def Str (text decoded : List UInt8) : Prop :=
  ∃ body, Chars body decoded ∧ text = quote :: body ++ [quote]

/-! ## Values -/

def Ws (text : List UInt8) : Prop := ∀ c ∈ text, isWs c = true

instance (text : List UInt8) : Decidable (Ws text) := List.decidableBAll _ text

def Digits (text : List UInt8) : Prop := ∀ c ∈ text, isDigit c = true

inductive IntPart : List UInt8 → Prop
  | zero : IntPart [0x30]
  | digits (d : UInt8) (ds : List UInt8) : 0x31 ≤ d → d ≤ 0x39 → Digits ds → IntPart (d :: ds)

inductive FracPart : List UInt8 → Prop
  | none : FracPart []
  | some (d : UInt8) (ds : List UInt8) : isDigit d = true → Digits ds → FracPart (dot :: d :: ds)

inductive ExpPart : List UInt8 → Prop
  | none : ExpPart []
  | some (e d : UInt8) (sign ds : List UInt8) : e = 0x65 ∨ e = 0x45 →
      sign = [] ∨ sign = [plus] ∨ sign = [minus] → isDigit d = true → Digits ds →
      ExpPart (e :: sign ++ d :: ds)

def Number (text : List UInt8) : Prop :=
  ∃ sign int frac exp, (sign = [] ∨ sign = [minus]) ∧ IntPart int ∧ FracPart frac ∧ ExpPart exp ∧
    text = sign ++ int ++ frac ++ exp

def literals : List (List UInt8) :=
  [[0x74, 0x72, 0x75, 0x65], [0x66, 0x61, 0x6c, 0x73, 0x65], [0x6e, 0x75, 0x6c, 0x6c]]

/-- One entry of an object or an array, with the whitespace around it. In an object the label is
the name with its colon; in an array there is none. -/
structure Entry where
  before : List UInt8
  label : List UInt8
  name : List UInt8
  gap : List UInt8
  value : List UInt8
  after : List UInt8

namespace Entry

def text (e : Entry) : List UInt8 := e.before ++ e.label ++ e.gap ++ e.value ++ e.after

/-- The label of a member of an object. -/
def Labelled (e : Entry) : Prop :=
  ∃ key w, Str key e.name ∧ Ws w ∧ e.label = key ++ w ++ [colon]

structure Formed (object : Bool) (e : Entry) : Prop where
  before : Ws e.before
  gap : Ws e.gap
  after : Ws e.after
  label : if object = true then e.Labelled else e.label = [] ∧ e.gap = []

end Entry

def opening (object : Bool) : UInt8 := if object then openBrace else openBracket

def closing (object : Bool) : UInt8 := if object then closeBrace else closeBracket

/-- Entries behind the first, each with its separator. -/
def moreEntries (rest : List Entry) : List UInt8 := rest.flatMap fun e => comma :: e.text

/-- The text of an object or an array that is not empty. -/
def containerText (object : Bool) (first : Entry) (rest : List Entry) : List UInt8 :=
  opening object :: first.text ++ moreEntries rest ++ [closing object]

/-- A value that nests at most as many values as there are levels, itself included. -/
inductive Value : Nat → List UInt8 → Prop
  | literal {k : Nat} {v : List UInt8} : v ∈ literals → Value (k + 1) v
  | number {k : Nat} {v : List UInt8} : Number v → Value (k + 1) v
  | string {k : Nat} {v decoded : List UInt8} : Str v decoded → Value (k + 1) v
  | empty {k : Nat} (object : Bool) {w : List UInt8} : Ws w →
      Value (k + 1) (opening object :: w ++ [closing object])
  | container {k : Nat} (object : Bool) {first : Entry} {rest : List Entry} :
      (∀ e ∈ first :: rest, e.Formed object) → (∀ e ∈ first :: rest, Value k e.value) →
      Value (k + 1) (containerText object first rest)

/-- Nesting is bounded to 32 below the root. -/
def maxLevels : Nat := 33

/-- A text whose root is an object, with whitespace around it. -/
def Text (s : List UInt8) : Prop :=
  ∃ w v w', Ws w ∧ Ws w' ∧ Value maxLevels v ∧ v.head? = some openBrace ∧ s = w ++ v ++ w'

/-- The bytes encode a sequence of Unicode characters. -/
def Utf8 (s : List UInt8) : Prop := ∃ chars : List Char, s = chars.flatMap String.utf8EncodeChar

end Lgnome.Json
