import Mathlib.Algebra.Group.Nat.Defs
import Mathlib.Data.List.Basic
import Mathlib.Order.MinMax

/-!
# Fixed-width integers as bytes

Byte strings are lists. A short read gives zero bytes, so a caller that needs
the bytes to be there checks the length first.
-/
namespace Lgnome

abbrev Bytes := List UInt8

/-- `u16::to_le_bytes`. -/
def leBytes16 (n : UInt16) : Bytes := [n.toUInt8, (n >>> 8).toUInt8]

/-- `u32::to_le_bytes`. -/
def leBytes32 (n : UInt32) : Bytes :=
  [n.toUInt8, (n >>> 8).toUInt8, (n >>> 16).toUInt8, (n >>> 24).toUInt8]

/-- `u32::to_be_bytes`. -/
def beBytes32 (n : UInt32) : Bytes :=
  [(n >>> 24).toUInt8, (n >>> 16).toUInt8, (n >>> 8).toUInt8, n.toUInt8]

/-- `u64::to_le_bytes`. -/
def leBytes64 (n : UInt64) : Bytes :=
  [n.toUInt8, (n >>> 8).toUInt8, (n >>> 16).toUInt8, (n >>> 24).toUInt8,
    (n >>> 32).toUInt8, (n >>> 40).toUInt8, (n >>> 48).toUInt8, (n >>> 56).toUInt8]

/-- The little-endian number at an offset, as wide as the offset list. -/
def readLe (width : Nat) (b : Bytes) (offset : Nat) : Nat :=
  match width with
  | 0 => 0
  | width + 1 => (b.getD offset 0).toNat + 256 * readLe width b (offset + 1)

def readLe16 (b : Bytes) (offset : Nat) : Nat := readLe 2 b offset

def readLe32 (b : Bytes) (offset : Nat) : Nat := readLe 4 b offset

def readLe64 (b : Bytes) (offset : Nat) : Nat := readLe 8 b offset

/-- `&b[start..end]`. -/
def slice (b : Bytes) (first last : Nat) : Bytes := (b.drop first).take (last - first)

@[simp] theorem leBytes16_length (n : UInt16) : (leBytes16 n).length = 2 := rfl

@[simp] theorem leBytes32_length (n : UInt32) : (leBytes32 n).length = 4 := rfl

@[simp] theorem leBytes64_length (n : UInt64) : (leBytes64 n).length = 8 := rfl

end Lgnome
