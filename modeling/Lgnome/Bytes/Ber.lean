import Lgnome.Bytes.Fixed
import Mathlib.Logic.Relation

/-!
# Definite-length BER

A value is a tag, length octets and as many content octets. The octets of a length are told
apart from what follows them by their first octet alone, so a value is never a beginning of
another one.
-/
namespace Lgnome.Ber

open Relation (ReflTransGen)

/-- The number that octets spell, highest first. -/
def bigEndian (octets : Bytes) : Nat := octets.foldl (fun v b => v * 256 + b.toNat) 0

/-- The octets of a length: itself below 128, or at most `limit` octets behind their number. -/
inductive LengthOctets (limit : Nat) : Bytes → Nat → Prop
  | short {b : UInt8} : b.toNat < 128 → LengthOctets limit [b] b.toNat
  | long {b : UInt8} {octets : Bytes} : b.toNat = 128 + octets.length → octets ≠ [] →
      octets.length ≤ limit → LengthOctets limit (b :: octets) (bigEndian octets)

/-- A value with this tag and content. -/
def IsTlv (limit : Nat) (tag : UInt8) (content bytes : Bytes) : Prop :=
  ∃ octets, LengthOctets limit octets content.length ∧ bytes = tag :: (octets ++ content)

/-- A value, and whatever follows it. -/
def Begins (limit : Nat) (tag : UInt8) (content bytes : Bytes) : Prop :=
  ∃ value rest, IsTlv limit tag content value ∧ bytes = value ++ rest

/-- One value after the other. -/
inductive Items (limit : Nat) : Bytes → List (UInt8 × Bytes) → Prop
  | nil : Items limit [] []
  | cons {tag : UInt8} {content value rest : Bytes} {items : List (UInt8 × Bytes)} :
      IsTlv limit tag content value → Items limit rest items →
      Items limit (value ++ rest) ((tag, content) :: items)

/-- What is left of some bytes behind the value that they start with. -/
def Next (limit : Nat) (bytes rest : Bytes) : Prop :=
  ∃ tag content value, IsTlv limit tag content value ∧ bytes = value ++ rest

/-- What is left of `body` behind some values that it starts with. -/
def ItemAt (limit : Nat) (body rest : Bytes) : Prop := ReflTransGen (Next limit) body rest

/-- The content of an INTEGER: one octet at least, and not nine equal bits in front. -/
def IsInteger (content : Bytes) : Prop :=
  content ≠ [] ∧ ∀ a b rest, content = a :: b :: rest →
    ¬(a.toNat = 0 ∧ b.toNat < 128) ∧ ¬(a.toNat = 255 ∧ 128 ≤ b.toNat)

section PrefixFree

variable {k k' n n' : Nat} {t t' : UInt8} {a a' c c' r r' : Bytes}

theorem LengthOctets.prefix_free (h : LengthOctets k a n) (h' : LengthOctets k' a' n')
    (heq : a ++ r = a' ++ r') : a = a' ∧ n = n' ∧ r = r' := by
  cases h with
  | @short b hb =>
    cases h' with
    | short =>
      obtain ⟨rfl, rfl⟩ := List.cons.inj heq
      exact ⟨rfl, rfl, rfl⟩
    | long hb' =>
      obtain ⟨rfl, -⟩ := List.cons.inj heq
      omega
  | @long b octets hb =>
    cases h' with
    | short hb' =>
      obtain ⟨rfl, -⟩ := List.cons.inj heq
      omega
    | @long b' octets' hb' =>
      obtain ⟨rfl, hrest⟩ := List.cons.inj heq
      obtain ⟨rfl, rfl⟩ := List.append_inj hrest (by omega)
      exact ⟨rfl, rfl, rfl⟩

/-- No value is a beginning of another one, whatever limit each was written under. -/
theorem IsTlv.prefix_free (h : IsTlv k t c a) (h' : IsTlv k' t' c' a') (heq : a ++ r = a' ++ r') :
    t = t' ∧ c = c' ∧ a = a' ∧ r = r' := by
  obtain ⟨octets, hlength, rfl⟩ := h
  obtain ⟨octets', hlength', rfl⟩ := h'
  simp only [List.cons_append, List.append_assoc] at heq
  obtain ⟨rfl, hrest⟩ := List.cons.inj heq
  obtain ⟨rfl, hsame, htail⟩ := hlength.prefix_free hlength' hrest
  obtain ⟨rfl, rfl⟩ := List.append_inj htail hsame
  exact ⟨rfl, rfl, rfl, rfl⟩

theorem IsTlv.head (h : IsTlv k t c a) : (a ++ r).head? = some t := by
  obtain ⟨octets, -, rfl⟩ := h
  rfl

theorem IsTlv.length_pos (h : IsTlv k t c a) : c.length < a.length := by
  obtain ⟨octets, -, rfl⟩ := h
  simp only [List.length_cons, List.length_append]
  omega

theorem IsTlv.begins (h : IsTlv k t c a) : Begins k t c a :=
  ⟨a, [], h, (List.append_nil a).symm⟩

theorem Begins.length_lt (h : Begins k t c a) : c.length < a.length := by
  obtain ⟨value, rest, htlv, rfl⟩ := h
  have hlt := htlv.length_pos
  rw [List.length_append]
  omega

theorem Begins.unique (h : Begins k t c a) (h' : Begins k' t' c' a) : c = c' := by
  obtain ⟨value, rest, htlv, rfl⟩ := h
  obtain ⟨value', rest', htlv', heq⟩ := h'
  exact (htlv.prefix_free htlv' heq).2.1

end PrefixFree

section Positions

variable {k : Nat} {body r r' : Bytes}

theorem next_unique : Relator.RightUnique (Next k) := by
  rintro bytes r r' ⟨tag, content, value, htlv, rfl⟩ ⟨tag', content', value', htlv', heq⟩
  exact (htlv.prefix_free htlv' heq).2.2.2

theorem Next.length_lt (h : Next k r r') : r'.length < r.length := by
  obtain ⟨tag, content, value, htlv, rfl⟩ := h
  have hpos := htlv.length_pos
  rw [List.length_append]
  omega

theorem ItemAt.length_le (h : ItemAt k body r) : r.length ≤ body.length := by
  induction h with
  | refl => exact le_rfl
  | tail _ hnext ih =>
    have hlt := hnext.length_lt
    omega

/-- There are no items behind a place where no value starts. -/
theorem ItemAt.last (h : ItemAt k body r) (hstuck : ∀ tag content, ¬Begins k tag content r)
    (h' : ItemAt k body r') : r.length ≤ r'.length := by
  obtain hto | hto := ReflTransGen.total_of_right_unique next_unique h h'
  · obtain rfl | ⟨r₁, ⟨tag, content, value, htlv, heq⟩, -⟩ := hto.cases_head
    · exact le_rfl
    · exact absurd ⟨value, r₁, htlv, heq⟩ (hstuck tag content)
  · exact ItemAt.length_le hto

end Positions

end Lgnome.Ber
