import Mathlib.Data.List.Basic

/-!
# Coalescing buffers

A buffer that lets an element take the place of the last one when both are of a
superseded kind. What comes out is what went in, thinned: an element is missing
only where the next one received is of the kind too.
-/
namespace Lgnome.Transition

variable {α : Type*} {kind : α → Bool}

/-- Append, or take the place of a last element when both are of the kind. -/
def coalesce (kind : α → Bool) (buffer : List α) (a : α) : List α :=
  if buffer.getLast?.any kind && kind a then buffer.dropLast ++ [a] else buffer ++ [a]

/-- The second list is the first without some elements of the kind, each of which
is followed at once by another element of the kind. -/
inductive Thinned (kind : α → Bool) : List α → List α → Prop
  | nil : Thinned kind [] []
  | keep {xs ys : List α} (a : α) : Thinned kind xs ys → Thinned kind (a :: xs) (a :: ys)
  | drop {xs ys : List α} (a b : α) : kind a → kind b → Thinned kind (b :: xs) ys →
      Thinned kind (a :: b :: xs) ys

namespace Thinned

variable {xs ys xs' ys' : List α}

theorem refl (xs : List α) : Thinned kind xs xs := by
  induction xs with
  | nil => exact .nil
  | cons a xs ih => exact .keep a ih

theorem append (h : Thinned kind xs ys) (h' : Thinned kind xs' ys') :
    Thinned kind (xs ++ xs') (ys ++ ys') := by
  induction h with
  | nil => exact h'
  | keep a _ ih => exact .keep a ih
  | drop a b ha hb _ ih => exact .drop a b ha hb ih

theorem snoc (h : Thinned kind xs ys) (a : α) : Thinned kind (xs ++ [a]) (ys ++ [a]) :=
  h.append (refl [a])

/-- The last element received is always kept. -/
theorem eq_nil (h : Thinned kind xs ys) (hys : ys = []) : xs = [] := by
  induction h with
  | nil => rfl
  | keep a _ _ => cases hys
  | drop a b _ _ _ ih => cases ih hys

/-- A last element of the kind may give way to a new one. -/
theorem supersede (h : Thinned kind xs ys) {m n : α} {out : List α} (hys : ys = out ++ [m])
    (hm : kind m) (hn : kind n) : Thinned kind (xs ++ [n]) (out ++ [n]) := by
  induction h generalizing out with
  | nil => simp at hys
  | @keep xs ys a hrest ih =>
    cases out with
    | nil =>
      obtain ⟨rfl, rfl⟩ := List.cons.inj hys
      obtain rfl := hrest.eq_nil rfl
      exact .drop a n hm hn (refl [n])
    | cons b out =>
      obtain ⟨rfl, rfl⟩ := List.cons.inj hys
      exact .keep a (ih rfl)
  | drop a b ha hb _ ih => exact .drop a b ha hb (ih hys)

/-- Receiving into the buffer thins what was received. -/
theorem coalesce {buffer : List α} (h : Thinned kind xs (ys ++ buffer)) (a : α) :
    Thinned kind (xs ++ [a]) (ys ++ Transition.coalesce kind buffer a) := by
  unfold Transition.coalesce
  split
  · rename_i hboth
    obtain ⟨hlast, ha⟩ := Bool.and_eq_true_iff.mp hboth
    obtain ⟨m, hm, hkind⟩ := (Option.any_eq_true _ _).mp hlast
    have hbuffer : ys ++ buffer = (ys ++ buffer.dropLast) ++ [m] := by
      rw [List.append_assoc, List.dropLast_append_getLast? m hm]
    rw [← List.append_assoc]
    exact h.supersede hbuffer hkind ha
  · rw [← List.append_assoc]
    exact h.snoc a

end Thinned

end Lgnome.Transition
