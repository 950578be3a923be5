import Lgnome.Bytes.Scan
import Lgnome.Json.Grammar

/-!
# The settings scanner

The allocation-free scanner for JSON objects. Every step of a pointer is a `bump`
that may fault, and every loop is bounded by what is left of the text.
-/
namespace Lgnome.Json

open Lgnome.Bytes

def skipWs (p : List UInt8) : List UInt8 := p.dropWhile isWs

/-- `i` more hexadecimal digits. -/
def readHex4 : Nat → Nat → List UInt8 → Scan (Nat × List UInt8)
  | 0, value, p => .ok (value, p)
  | i + 1, value, p =>
    match hexValue (peek p) with
    | none => .reject
    | some digit => do
      let p ← bump p
      readHex4 i ((value <<< 4) ||| digit) p

/-- The bytes of a code point, as the scanner puts them together. -/
def encodeCodepoint (codepoint : Nat) : List UInt8 :=
  if codepoint < 0x80 then [UInt8.ofNat codepoint]
  else if codepoint < 0x800 then
    [UInt8.ofNat (0xc0 ||| (codepoint >>> 6)), UInt8.ofNat (0x80 ||| (codepoint &&& 0x3f))]
  else if codepoint < 0x10000 then
    [UInt8.ofNat (0xe0 ||| (codepoint >>> 12)),
      UInt8.ofNat (0x80 ||| ((codepoint >>> 6) &&& 0x3f)),
      UInt8.ofNat (0x80 ||| (codepoint &&& 0x3f))]
  else
    [UInt8.ofNat (0xf0 ||| (codepoint >>> 18)),
      UInt8.ofNat (0x80 ||| ((codepoint >>> 12) &&& 0x3f)),
      UInt8.ofNat (0x80 ||| ((codepoint >>> 6) &&& 0x3f)),
      UInt8.ofNat (0x80 ||| (codepoint &&& 0x3f))]

/-- The second half of a surrogate pair. -/
def readLow (high : Nat) (p : List UInt8) : Scan (Nat × List UInt8) :=
  if peek p ≠ backslash then .reject
  else do
    let p ← bump p
    if peek p ≠ letterU then .reject
    else do
      let p ← bump p
      let low ← readHex4 4 0 p
      if low.1 < 0xdc00 ∨ 0xdfff < low.1 then .reject
      else .ok (0x10000 + ((high - 0xd800) <<< 10) + low.1 - 0xdc00, low.2)

/-- The escape `u`, with its pointer behind the letter. -/
def readUnicode (p : List UInt8) : Scan (List UInt8 × List UInt8) := do
  let unit ← readHex4 4 0 p
  if unit.1 = 0 then .reject
  else if 0xd800 ≤ unit.1 ∧ unit.1 ≤ 0xdbff then do
    let pair ← readLow unit.1 unit.2
    .ok (encodeCodepoint pair.1, pair.2)
  else if 0xdc00 ≤ unit.1 ∧ unit.1 ≤ 0xdfff then .reject
  else .ok (encodeCodepoint unit.1, unit.2)

/-- One character of a string and the bytes it stands for. -/
def readChar (p : List UInt8) : Scan (List UInt8 × List UInt8) :=
  if peek p < 0x20 then .reject
  else if peek p = backslash then do
    let p ← bump p
    if peek p = letterU then do
      let p ← bump p
      readUnicode p
    else
      match shortEscape (peek p) with
      | some c => do
        let p ← bump p
        .ok ([c], p)
      | none => .reject
  else do
    let rest ← bump p
    .ok ([peek p], rest)

/-- Whether `count` more bytes do not fit the buffer; without a buffer everything fits. -/
def overflows (cap : Option Nat) (written count : Nat) : Bool :=
  match cap with
  | none => false
  | some cap => cap ≤ written || cap - written ≤ count

def readChars (cap : Option Nat) : Nat → List UInt8 → List UInt8 → Scan (List UInt8 × List UInt8)
  | 0, _, _ => .fault
  | fuel + 1, out, p =>
    if peek p = 0 ∨ peek p = quote then .ok (out, p)
    else do
      let char ← readChar p
      if overflows cap out.length char.1.length then .reject
      else readChars cap fuel (out ++ char.1) char.2

/-- The decoded string and the pointer behind its closing quote. -/
def readString (cap : Option Nat) (p : List UInt8) : Scan (List UInt8 × List UInt8) :=
  if peek p ≠ quote then .reject
  else do
    let p ← bump p
    let body ← readChars cap (p.length + 1) [] p
    if peek body.2 ≠ quote then .reject
    else if overflows cap body.1.length 0 then .reject
    else do
      let p ← bump body.2
      .ok (body.1, p)

def skipDigits (p : List UInt8) : List UInt8 := p.dropWhile isDigit

def someDigits (p : List UInt8) : Scan (List UInt8) :=
  if isDigit (peek p) then .ok (skipDigits p) else .reject

/-- One of these bytes, if it is there. -/
def skipOptional (cs p : List UInt8) : Scan (List UInt8) :=
  if peek p ∈ cs then bump p else .ok p

def intEnd (p : List UInt8) : Scan (List UInt8) :=
  if peek p = 0x30 then bump p
  else if peek p < 0x31 ∨ 0x39 < peek p then .reject
  else .ok (skipDigits p)

def fracEnd (p : List UInt8) : Scan (List UInt8) :=
  if peek p = dot then do
    let p ← bump p
    someDigits p
  else .ok p

def expEnd (p : List UInt8) : Scan (List UInt8) :=
  if peek p = 0x65 ∨ peek p = 0x45 then do
    let p ← bump p
    let p ← skipOptional [plus, minus] p
    someDigits p
  else .ok p

def numberEnd (p : List UInt8) : Scan (List UInt8) := do
  let p ← skipOptional [minus] p
  let p ← intEnd p
  let p ← fracEnd p
  expEnd p

/-- In an object, the name of a member and its colon. -/
def memberLabel (object : Bool) (p : List UInt8) : Scan (List UInt8) :=
  if object then do
    let name ← readString none p
    let p := skipWs name.2
    if peek p ≠ colon then .reject else bump p
  else .ok p

def entriesEnd (child : List UInt8 → Scan (List UInt8)) (object : Bool) :
    Nat → List UInt8 → Scan (List UInt8)
  | 0, _ => .fault
  | fuel + 1, p => do
    let p ← memberLabel object p
    let p ← child p
    let p := skipWs p
    if peek p = closing object then bump p
    else if peek p ≠ comma then .reject
    else do
      let p ← bump p
      entriesEnd child object fuel (skipWs p)

/-- From the opening bracket on. -/
def containerEnd (child : List UInt8 → Scan (List UInt8)) (object : Bool) (p : List UInt8) :
    Scan (List UInt8) := do
  let p ← bump p
  let p := skipWs p
  if peek p = closing object then bump p
  else entriesEnd child object (p.length + 1) p

/-- `value_end` at the depth that leaves this many levels. -/
def valueEnd : Nat → List UInt8 → Scan (List UInt8)
  | 0, _ => .reject
  | levels + 1, p =>
    let p := skipWs p
    if peek p = quote then do
      let string ← readString none p
      .ok string.2
    else if peek p = openBrace ∨ peek p = openBracket then
      containerEnd (valueEnd levels) (peek p == openBrace) p
    else
      match literals.find? (fun l => l.isPrefixOf p) with
      | some l => .ok (p.drop l.length)
      | none => numberEnd p

def validateObject (json : List UInt8) : Scan Bool :=
  let p := skipWs json
  if peek p ≠ openBrace then .ok false
  else
    match valueEnd maxLevels p with
    | .ok q => .ok (peek (skipWs q) == 0)
    | .reject => .ok false
    | .fault => .fault

/-- The name of a member, for lookup: one that does not fit the buffer is read without it. -/
def readField (p : List UInt8) : Scan (Option (List UInt8) × List UInt8) :=
  match readString (some 64) p with
  | .ok field => .ok (some field.1, field.2)
  | .reject => do
    let field ← readString none p
    .ok (none, field.2)
  | .fault => .fault

def findLoop (key : List UInt8) : Nat → List UInt8 → Scan (List UInt8)
  | 0, _ => .fault
  | fuel + 1, p =>
    if peek p = 0 ∨ peek p = closeBrace then .reject
    else do
      let field ← readField p
      let p := skipWs field.2
      if peek p ≠ colon then .reject
      else do
        let p ← bump p
        let p := skipWs p
        if field.1 = some key then .ok p
        else do
          let p ← valueEnd maxLevels p
          let p := skipWs p
          if peek p ≠ comma then .reject
          else do
            let p ← bump p
            findLoop key fuel (skipWs p)

/-- The value of a member of the root object; a refusal is its absence. -/
def findValue (json key : List UInt8) : Scan (List UInt8) :=
  let p := skipWs json
  if peek p ≠ openBrace then .reject
  else do
    let p ← bump p
    let p := skipWs p
    findLoop key (p.length + 1) p

end Lgnome.Json
