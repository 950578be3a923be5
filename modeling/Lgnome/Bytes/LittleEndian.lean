import Lgnome.Bytes.Fixed

/-!
# Reading what was written

Little-endian integers, read back from inside a byte string.
-/
namespace Lgnome

variable {a b c : Bytes}

/-- A read behind a known part is a read of what follows. -/
theorem readLe_append (width : Nat) (a b : Bytes) (offset : Nat) :
    readLe width (a ++ b) (a.length + offset) = readLe width b offset := by
  induction width generalizing offset with
  | zero => rfl
  | succ width ih =>
    have hget : (a ++ b).getD (a.length + offset) 0 = b.getD offset 0 := by
      simp [List.getD_eq_getElem?_getD, List.getElem?_append_right]
    simp only [readLe, hget, Nat.add_assoc, ih]

/-- A read inside the first part does not see the second. -/
theorem readLe_left (width : Nat) (a b : Bytes) {offset : Nat} (h : offset + width ≤ a.length) :
    readLe width (a ++ b) offset = readLe width a offset := by
  induction width generalizing offset with
  | zero => rfl
  | succ width ih =>
    have hget : (a ++ b).getD offset 0 = a.getD offset 0 := by
      have hlt : offset < a.length := by omega
      simp [List.getD_eq_getElem?_getD, List.getElem?_append_left hlt]
    have hnext : offset + 1 + width ≤ a.length := by omega
    simp only [readLe, hget, ih hnext]

theorem readLe_lt (width : Nat) (b : Bytes) (offset : Nat) :
    readLe width b offset < 256 ^ width := by
  induction width generalizing offset with
  | zero => exact Nat.one_pos
  | succ width ih =>
    have hbyte := (b.getD offset 0).toNat_lt
    have hrest := ih (offset + 1)
    simp only [readLe, Nat.pow_succ]
    omega

theorem readLe16_lt (b : Bytes) (offset : Nat) : readLe16 b offset < 2 ^ 16 := readLe_lt 2 b offset

theorem readLe16_append (a b : Bytes) {offset : Nat} (h : a.length = offset) :
    readLe16 (a ++ b) offset = readLe16 b 0 := by
  subst h
  exact readLe_append 2 a b 0

theorem readLe32_append (a b : Bytes) {offset : Nat} (h : a.length = offset) :
    readLe32 (a ++ b) offset = readLe32 b 0 := by
  subst h
  exact readLe_append 4 a b 0

theorem readLe16_leBytes16 (n : UInt16) (rest : Bytes) :
    readLe16 (leBytes16 n ++ rest) 0 = n.toNat := by
  have hlt := n.toNat_lt
  have hshift : n.toNat >>> 8 = n.toNat / 256 := Nat.shiftRight_eq_div_pow _ 8
  simp only [readLe16, readLe, leBytes16, List.cons_append, List.nil_append, List.getD_cons_zero,
    List.getD_cons_succ, UInt16.toNat_toUInt8, UInt16.toNat_shiftRight]
  simp only [UInt16.reduceToNat, Nat.reduceMod, hshift]
  omega

/-- Writing back what the first two bytes read as. -/
theorem leBytes16_readLe16 (x y : UInt8) (rest : Bytes) :
    leBytes16 (UInt16.ofNat (readLe16 (x :: y :: rest) 0)) = [x, y] := by
  have hx := x.toNat_lt
  have hy := y.toNat_lt
  have hread : readLe16 (x :: y :: rest) 0 = x.toNat + 256 * y.toNat := rfl
  have hword : (UInt16.ofNat (x.toNat + 256 * y.toNat)).toNat = x.toNat + 256 * y.toNat :=
    Nat.mod_eq_of_lt (by omega)
  have hlow : (UInt16.ofNat (x.toNat + 256 * y.toNat)).toUInt8 = x := by
    apply UInt8.toNat_inj.1
    rw [UInt16.toNat_toUInt8, hword]
    omega
  have hhigh : (UInt16.ofNat (x.toNat + 256 * y.toNat) >>> 8).toUInt8 = y := by
    apply UInt8.toNat_inj.1
    rw [UInt16.toNat_toUInt8, UInt16.toNat_shiftRight, hword]
    have hshift : (x.toNat + 256 * y.toNat) >>> 8 = (x.toNat + 256 * y.toNat) / 256 :=
      Nat.shiftRight_eq_div_pow _ 8
    simp only [UInt16.reduceToNat, Nat.reduceMod, hshift]
    omega
  rw [hread, leBytes16, hlow, hhigh]

theorem readLe32_leBytes32 (n : UInt32) (rest : Bytes) :
    readLe32 (leBytes32 n ++ rest) 0 = n.toNat := by
  have hlt := n.toNat_lt
  have h8 : n.toNat >>> 8 = n.toNat / 256 := Nat.shiftRight_eq_div_pow _ 8
  have h16 : n.toNat >>> 16 = n.toNat / 65536 := Nat.shiftRight_eq_div_pow _ 16
  have h24 : n.toNat >>> 24 = n.toNat / 16777216 := Nat.shiftRight_eq_div_pow _ 24
  simp only [readLe32, readLe, leBytes32, List.cons_append, List.nil_append, List.getD_cons_zero,
    List.getD_cons_succ, UInt32.toNat_toUInt8, UInt32.toNat_shiftRight]
  simp only [UInt32.reduceToNat, Nat.reduceMod, h8, h16, h24]
  omega

theorem slice_cons (b : Bytes) {offset : Nat} (h : offset < b.length) (width : Nat) :
    slice b offset (offset + (width + 1)) = b[offset] :: slice b (offset + 1) (offset + 1 + width) := by
  have hwidth : offset + (width + 1) - offset = width + 1 := by omega
  have hrest : offset + 1 + width - (offset + 1) = width := by omega
  rw [slice, slice, hwidth, hrest, List.drop_eq_getElem_cons h, List.take_succ_cons]

/-- A little-endian number stands for exactly one string of its width. -/
theorem readLe_eq_iff {width : Nat} {b c : Bytes} {offset : Nat} (hc : c.length = width)
    (h : offset + width ≤ b.length) :
    readLe width b offset = readLe width c 0 ↔ slice b offset (offset + width) = c := by
  induction width generalizing c offset with
  | zero =>
    obtain rfl := List.length_eq_zero_iff.1 hc
    simp [readLe, slice]
  | succ width ih =>
    cases c with
    | nil => cases hc
    | cons x rest =>
      have hlt : offset < b.length := by omega
      have hget : b.getD offset 0 = b[offset] := by
        simp [List.getD_eq_getElem?_getD, List.getElem?_eq_getElem hlt]
      have htail : readLe width (x :: rest) 1 = readLe width rest 0 :=
        readLe_append width [x] rest 0
      have ih' := ih (c := rest) (Nat.succ.inj hc) (show offset + 1 + width ≤ b.length by omega)
      have hbyte := b[offset].toNat_lt
      have hx := x.toNat_lt
      rw [slice_cons b hlt, List.cons.injEq, ← ih', ← UInt8.toNat_inj]
      simp only [readLe, hget, List.getD_cons_zero, Nat.zero_add, htail]
      omega

theorem readLe16_eq_iff (n : UInt16) {b : Bytes} {offset : Nat} (h : offset + 2 ≤ b.length) :
    readLe16 b offset = n.toNat ↔ slice b offset (offset + 2) = leBytes16 n := by
  have hn : readLe 2 (leBytes16 n) 0 = n.toNat := by
    have hread := readLe16_leBytes16 n []
    rwa [List.append_nil] at hread
  have hiff := readLe_eq_iff (leBytes16_length n) h
  rwa [hn] at hiff

theorem readLe32_eq_iff (n : UInt32) {b : Bytes} {offset : Nat} (h : offset + 4 ≤ b.length) :
    readLe32 b offset = n.toNat ↔ slice b offset (offset + 4) = leBytes32 n := by
  have hn : readLe 4 (leBytes32 n) 0 = n.toNat := by
    have hread := readLe32_leBytes32 n []
    rwa [List.append_nil] at hread
  have hiff := readLe_eq_iff (leBytes32_length n) h
  rwa [hn] at hiff

/-- The part between two others. -/
theorem slice_append (a b c : Bytes) {first last : Nat} (hfirst : a.length = first)
    (hlast : first + b.length = last) : slice (a ++ (b ++ c)) first last = b := by
  subst hfirst hlast
  simp [slice]

/-- A part of the string is two parts in a row if each of them is where it belongs. -/
theorem slice_eq_append_iff {b x y : Bytes} {offset mid last : Nat} (hmid : offset + x.length = mid)
    (hlast : mid + y.length = last) :
    slice b offset last = x ++ y ↔ slice b offset mid = x ∧ slice b mid last = y := by
  subst hmid hlast
  have hlen : offset + x.length + y.length - offset = x.length + y.length := by omega
  have hfirst : offset + x.length - offset = x.length := by omega
  have hsecond : offset + x.length + y.length - (offset + x.length) = y.length := by omega
  simp only [slice, hlen, hfirst, hsecond, List.take_add, List.drop_drop]
  constructor
  · intro h
    have hx : ((b.drop offset).take x.length).length = x.length := by
      have htotal := congrArg List.length h
      simp only [List.length_append, List.length_take, List.length_drop] at htotal ⊢
      omega
    exact List.append_inj h hx
  · rintro ⟨hx, hy⟩
    rw [hx, hy]

end Lgnome
