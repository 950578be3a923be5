import Mathlib.Data.List.DropRight
import Mathlib.Data.List.Induction
import Mathlib.Order.Lattice

/-!
# Insertion behind equals

A list kept in the order of a key takes a new element behind every element whose
key is not larger. Among equal keys this is appending, so a list built this way
is ordered and, one key at a time, holds its elements as they arrived.
-/
namespace Lgnome.Transition.Stable

variable {α κ : Type*} [LinearOrder κ] (key : α → κ)

/-- The elements are in the order of their keys. -/
def Ordered (xs : List α) : Prop := xs.Pairwise fun a b => key a ≤ key b

/-- The elements with one key, in the order of the list. -/
def classOf (k : κ) (xs : List α) : List α := xs.filter fun x => key x = k

/-- The last elements with a larger key go behind the new one. -/
def insert (x : α) (xs : List α) : List α :=
  xs.rdropWhile (fun y => key x < key y) ++ x :: xs.rtakeWhile (fun y => key x < key y)

variable {key}

theorem insert_nil (x : α) : insert key x [] = [x] := rfl

theorem insert_concat_of_lt {x y : α} (h : key x < key y) (xs : List α) :
    insert key x (xs ++ [y]) = insert key x xs ++ [y] := by
  simp only [insert, List.rdropWhile_concat, List.rtakeWhile_concat, h, decide_true, if_true,
    List.append_assoc, List.cons_append]

theorem insert_concat_of_le {x y : α} (h : key y ≤ key x) (xs : List α) :
    insert key x (xs ++ [y]) = xs ++ [y] ++ [x] := by
  have hp : decide (key x < key y) = false := decide_eq_false (not_lt.mpr h)
  simp only [insert, List.rdropWhile_concat, List.rtakeWhile_concat, hp, Bool.false_eq_true,
    if_false]

theorem insert_perm (x : α) (xs : List α) : (insert key x xs).Perm (xs ++ [x]) := by
  induction xs using List.reverseRecOn with
  | nil => exact List.Perm.refl _
  | append_singleton xs y ih =>
    by_cases h : key x < key y
    · rw [insert_concat_of_lt h, List.append_assoc]
      refine (ih.append_right [y]).trans ?_
      rw [List.append_assoc]
      exact (List.Perm.swap y x []).append_left xs
    · rw [insert_concat_of_le (not_lt.mp h)]

theorem mem_insert {x z : α} {xs : List α} : z ∈ insert key x xs ↔ z ∈ xs ∨ z = x := by
  rw [(insert_perm x xs).mem_iff]
  simp

theorem length_insert (x : α) (xs : List α) : (insert key x xs).length = xs.length + 1 := by
  rw [(insert_perm x xs).length_eq]
  simp

/-- Insertion keeps the order. -/
theorem Ordered.insert {xs : List α} (h : Ordered key xs) (x : α) :
    Ordered key (insert key x xs) := by
  induction xs using List.reverseRecOn with
  | nil => exact List.pairwise_singleton _ _
  | append_singleton xs y ih =>
    obtain ⟨hxs, -, hy⟩ := List.pairwise_append.mp h
    by_cases hlt : key x < key y
    · rw [insert_concat_of_lt hlt]
      refine List.pairwise_append.mpr ⟨ih hxs, List.pairwise_singleton _ _, ?_⟩
      intro a ha b hb
      obtain rfl := List.mem_singleton.mp hb
      rcases mem_insert.mp ha with ha | rfl
      · exact hy a ha b (List.mem_singleton_self b)
      · exact le_of_lt hlt
    · have hle := not_lt.mp hlt
      rw [insert_concat_of_le hle]
      refine List.pairwise_append.mpr ⟨h, List.pairwise_singleton _ _, ?_⟩
      intro a ha b hb
      obtain rfl := List.mem_singleton.mp hb
      rcases List.mem_append.mp ha with ha | ha
      · exact le_trans (hy a ha y (List.mem_singleton_self y)) hle
      · obtain rfl := List.mem_singleton.mp ha
        exact hle

/-- Within one key, insertion is appending. -/
theorem classOf_insert (k : κ) (x : α) (xs : List α) :
    classOf key k (insert key x xs) = classOf key k (xs ++ [x]) := by
  induction xs using List.reverseRecOn with
  | nil => rfl
  | append_singleton xs y ih =>
    by_cases hlt : key x < key y
    · rw [insert_concat_of_lt hlt]
      simp only [classOf, List.filter_append] at ih ⊢
      rw [ih]
      by_cases hx : key x = k
      · have hy : ¬ key y = k := by rw [← hx]; exact ne_of_gt hlt
        simp [hx, hy]
      · simp [hx]
    · rw [insert_concat_of_le (not_lt.mp hlt)]

/-- The first element of an ordered list has the least key. -/
theorem Ordered.head_le {x : α} {xs : List α} (h : Ordered key (x :: xs)) :
    ∀ y ∈ x :: xs, key x ≤ key y := by
  intro y hy
  rcases List.mem_cons.mp hy with rfl | hy
  · exact le_refl _
  · exact (List.pairwise_cons.mp h).1 y hy

theorem Ordered.tail {x : α} {xs : List α} (h : Ordered key (x :: xs)) : Ordered key xs :=
  (List.pairwise_cons.mp h).2

end Lgnome.Transition.Stable
