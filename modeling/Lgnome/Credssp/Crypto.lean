import Lgnome.Bytes.Fixed

/-!
# Primitives of NTLMv2 and CredSSP

The digests come from other crates and are parameters with their output
lengths. RC4 is the repository's own: one handle, whose keystream advances
across successive calls.
-/
namespace Lgnome.Credssp

/-- A `&str` as its characters. -/
abbrev Text := List Char

/-- The digest crates, and `str::to_uppercase`. -/
structure Crypto where
  md4 : Bytes → Bytes
  md5 : Bytes → Bytes
  hmacMd5 : Bytes → Bytes → Bytes
  sha256 : Bytes → Bytes
  toUppercase : Text → Text
  md4_length : ∀ data, (md4 data).length = 16
  md5_length : ∀ data, (md5 data).length = 16
  hmacMd5_length : ∀ key data, (hmacMd5 key data).length = 16
  sha256_length : ∀ data, (sha256 data).length = 32

/-- `encode_utf16` of one character: a surrogate pair above the basic plane. -/
def utf16Units (c : Char) : List UInt16 :=
  if c.toNat < 0x10000 then [UInt16.ofNat c.toNat]
  else
    let v := c.toNat - 0x10000
    [UInt16.ofNat (0xD800 + v / 0x400), UInt16.ofNat (0xDC00 + v % 0x400)]

def utf16le (s : Text) : Bytes := s.flatMap fun c => (utf16Units c).flatMap leBytes16

/-- The two indices run modulo 256 by their type. -/
structure Rc4 where
  i : Fin 256
  j : Fin 256
  s : Vector UInt8 256
  deriving DecidableEq

namespace Rc4

/-- One round of the key schedule. -/
def scheduleStep (key : Bytes) (state : Vector UInt8 256 × Fin 256) (i : Fin 256) :
    Vector UInt8 256 × Fin 256 :=
  let j := Fin.ofNat 256
    (state.2.val + state.1[i].toNat + (key.getD (i.val % key.length) 0).toNat)
  (state.1.swap i j, j)

def new (key : Bytes) : Rc4 where
  i := 0
  j := 0
  s := ((List.finRange 256).foldl (scheduleStep key)
    (Vector.ofFn fun i => UInt8.ofNat i.val, 0)).1

/-- One keystream byte. -/
def next (r : Rc4) : Rc4 × UInt8 :=
  let i := r.i + 1
  let j := Fin.ofNat 256 (r.j.val + r.s[i].toNat)
  let s := r.s.swap i j
  ({ i, j, s }, s[Fin.ofNat 256 (s[i].toNat + s[j].toNat)])

def process (r : Rc4) : Bytes → Rc4 × Bytes
  | [] => (r, [])
  | byte :: data =>
    let k := r.next
    let rest := k.1.process data
    (rest.1, (k.2 ^^^ byte) :: rest.2)

@[simp] theorem process_length (r : Rc4) (data : Bytes) :
    (r.process data).2.length = data.length := by
  induction data generalizing r with
  | nil => rfl
  | cons byte data ih => simp only [process, List.length_cons, ih]

/-- The keystream does not depend on the data. -/
theorem process_state (r : Rc4) {data data' : Bytes} (h : data.length = data'.length) :
    (r.process data).1 = (r.process data').1 := by
  induction data generalizing r data' with
  | nil =>
    cases data' with
    | nil => rfl
    | cons => cases h
  | cons byte data ih =>
    cases data' with
    | nil => cases h
    | cons byte' data' => exact ih _ (Nat.succ.inj h)

/-- A handle in the same state undoes what another one did. -/
theorem process_process (r : Rc4) (data : Bytes) : (r.process (r.process data).2).2 = data := by
  induction data generalizing r with
  | nil => rfl
  | cons byte data ih =>
    simp only [process]
    rw [ih]
    rw [← UInt8.xor_assoc, UInt8.xor_self, UInt8.zero_xor]

end Rc4

end Lgnome.Credssp
