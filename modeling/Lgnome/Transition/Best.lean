import Lgnome.Transition.Stable
import Mathlib.Data.List.Perm.Basic

/-!
# Keeping the best

A short list takes elements one at a time, each behind its equals, ignores one it
holds, and loses its last element when it is full. What it holds in the end is
the front of all distinct elements in order, whatever was lost and offered again
on the way.
-/
namespace Lgnome.Transition.Stable

variable {α κ : Type*} [LinearOrder κ] {key : α → κ}

/-! ## The front of an insertion -/

theorem insert_cons_of_le {x y : α} (h : key y ≤ key x) (xs : List α) :
    insert key x (y :: xs) = y :: insert key x xs := by
  induction xs using List.reverseRecOn with
  | nil => exact insert_concat_of_le h []
  | append_singleton xs z ih =>
    rw [← List.cons_append]
    by_cases hz : key x < key z
    · rw [insert_concat_of_lt hz, insert_concat_of_lt hz, ih, List.cons_append]
    · rw [insert_concat_of_le (not_lt.mp hz), insert_concat_of_le (not_lt.mp hz)]
      rfl

theorem insert_of_forall_lt {x : α} {xs : List α} (h : ∀ y ∈ xs, key x < key y) :
    insert key x xs = x :: xs := by
  induction xs using List.reverseRecOn with
  | nil => rfl
  | append_singleton xs z ih =>
    rw [insert_concat_of_lt (h z List.mem_concat_self),
      ih fun y hy => h y (List.mem_append_left _ hy), List.cons_append]

theorem insert_cons_of_lt {x y : α} {xs : List α} (ho : Ordered key (y :: xs))
    (h : key x < key y) : insert key x (y :: xs) = x :: y :: xs :=
  insert_of_forall_lt fun z hz => lt_of_lt_of_le h (ho.head_le z hz)

/-- What does not fit into the front has no part in it. -/
theorem take_insert {xs : List α} (ho : Ordered key xs) (x : α) (n : Nat) :
    (insert key x (xs.take n)).take n = (insert key x xs).take n := by
  induction xs generalizing n with
  | nil => rw [List.take_nil]
  | cons y xs ih =>
    cases n with
    | zero => simp only [List.take_zero]
    | succ n =>
      rw [List.take_succ_cons]
      by_cases h : key x < key y
      · have hfront : Ordered key (y :: xs.take n) :=
          ho.sublist ((List.take_sublist n xs).cons_cons y)
        rw [insert_cons_of_lt ho h, insert_cons_of_lt hfront h, List.take_succ_cons,
          List.take_succ_cons]
        have hfit : (y :: xs.take n).take n = (y :: xs).take n := by
          rw [← List.take_succ_cons, List.take_take, Nat.min_eq_left n.le_succ]
        rw [hfit]
      · rw [insert_cons_of_le (not_lt.mp h), insert_cons_of_le (not_lt.mp h),
          List.take_succ_cons, List.take_succ_cons, ih ho.tail]

/-- An element no better than the whole front stays outside it. -/
theorem take_insert_of_le {xs : List α} {x : α} {n : Nat} (hn : n ≤ xs.length)
    (h : ∀ y ∈ xs.take n, key y ≤ key x) : (insert key x xs).take n = xs.take n := by
  induction xs generalizing n with
  | nil => rw [Nat.le_zero.mp hn]; rfl
  | cons y xs ih =>
    cases n with
    | zero => simp only [List.take_zero]
    | succ n =>
      rw [List.take_succ_cons] at h
      rw [insert_cons_of_le (h y List.mem_cons_self), List.take_succ_cons, List.take_succ_cons,
        ih (Nat.le_of_succ_le_succ hn) fun z hz => h z (List.mem_cons_of_mem _ hz)]

/-! ## All of them in order -/

/-- The elements in order, equals as they come. -/
def sorted (key : α → κ) (xs : List α) : List α := xs.foldl (fun l x => insert key x l) []

theorem sorted_concat (xs : List α) (x : α) :
    sorted key (xs ++ [x]) = insert key x (sorted key xs) :=
  List.foldl_concat ..

theorem sorted_ordered (xs : List α) : Ordered key (sorted key xs) := by
  induction xs using List.reverseRecOn with
  | nil => exact List.Pairwise.nil
  | append_singleton xs x ih => rw [sorted_concat]; exact ih.insert x

theorem sorted_perm (xs : List α) : (sorted key xs).Perm xs := by
  induction xs using List.reverseRecOn with
  | nil => exact List.Perm.refl _
  | append_singleton xs x ih =>
    rw [sorted_concat]
    exact (insert_perm x _).trans (ih.append_right [x])

/-- With one element to a key, the order is all that matters. -/
theorem sorted_eq_of_perm {xs ys : List α} (h : xs.Perm ys)
    (hkey : ∀ a ∈ xs, ∀ b ∈ xs, key a = key b → a = b) : sorted key xs = sorted key ys := by
  have hperm : (sorted key xs).Perm (sorted key ys) :=
    (sorted_perm xs).trans (h.trans (sorted_perm ys).symm)
  refine hperm.eq_of_pairwise ?_ (sorted_ordered xs) (sorted_ordered ys)
  intro a b ha hb hab hba
  refine hkey a ((sorted_perm xs).mem_iff.mp ha) b ?_ (le_antisymm hab hba)
  exact h.mem_iff.mpr ((sorted_perm ys).mem_iff.mp hb)

/-! ## A list of a few -/

variable [DecidableEq α]

/-- One more element is offered. -/
def keepBest (key : α → κ) (capacity : Nat) (kept : List α) (x : α) : List α :=
  if x ∈ kept then kept else (insert key x kept).take capacity

/-- The first few of the distinct elements. -/
def best (key : α → κ) (capacity : Nat) (xs : List α) : List α :=
  (sorted key xs.eraseDups).take capacity

theorem eraseDups_concat (xs : List α) (x : α) :
    (xs ++ [x]).eraseDups = if x ∈ xs then xs.eraseDups else xs.eraseDups ++ [x] := by
  rw [List.eraseDups_append]
  by_cases h : x ∈ xs
  · simp [h, List.removeAll]
  · simp [h, List.removeAll, List.eraseDups_cons]

theorem nodup_eraseDups (xs : List α) : xs.eraseDups.Nodup := by
  induction xs using List.reverseRecOn with
  | nil => exact List.nodup_nil
  | append_singleton xs x ih =>
    rw [eraseDups_concat]
    split
    · exact ih
    · rename_i hx
      rw [(List.perm_append_singleton x _).nodup_iff]
      exact List.nodup_cons.mpr ⟨fun h => hx (List.mem_eraseDups.mp h), ih⟩

theorem mem_sorted_eraseDups {x : α} {xs : List α} :
    x ∈ sorted key xs.eraseDups ↔ x ∈ xs := by
  rw [(sorted_perm _).mem_iff, List.mem_eraseDups]

/-- An element lost from the front does not come back. -/
theorem keepBest_of_lost {xs : List α} (ho : Ordered key xs) {x : α} {n : Nat} (hx : x ∈ xs)
    (hlost : x ∉ xs.take n) : keepBest key n (xs.take n) x = xs.take n := by
  have hsplit : x ∈ xs.take n ++ xs.drop n := by rwa [List.take_append_drop]
  have hrest : x ∈ xs.drop n := (List.mem_append.mp hsplit).resolve_left hlost
  have hlen : n ≤ xs.length := by
    have hpos := List.length_pos_of_mem hrest
    rw [List.length_drop] at hpos
    omega
  have hle : ∀ y ∈ xs.take n, key y ≤ key x := by
    rw [← List.take_append_drop n xs] at ho
    exact fun y hy => (List.pairwise_append.mp ho).2.2 y hy x hrest
  rw [keepBest, if_neg hlost, take_insert ho, take_insert_of_le hlen hle]

theorem best_concat (n : Nat) (xs : List α) (x : α) :
    best key n (xs ++ [x]) = keepBest key n (best key n xs) x := by
  unfold best
  rw [eraseDups_concat]
  have ho : Ordered key (sorted key xs.eraseDups) := sorted_ordered _
  by_cases hx : x ∈ xs
  · rw [if_pos hx]
    by_cases hkept : x ∈ (sorted key xs.eraseDups).take n
    · rw [keepBest, if_pos hkept]
    · rw [keepBest_of_lost ho (mem_sorted_eraseDups.mpr hx) hkept]
  · have hnew : x ∉ (sorted key xs.eraseDups).take n :=
      fun h => hx (mem_sorted_eraseDups.mp (List.mem_of_mem_take h))
    rw [if_neg hx, sorted_concat, keepBest, if_neg hnew, take_insert ho]

/-- What it is to hold the best few: in order, none twice, none missing that fits, and
whatever is missing is no better. -/
structure IsBest (key : α → κ) (n : Nat) (xs kept : List α) : Prop where
  ordered : Ordered key kept
  nodup : kept.Nodup
  known : ∀ x ∈ kept, x ∈ xs
  length : kept.length = min n xs.eraseDups.length
  rest : ∀ y ∈ xs, y ∉ kept → ∀ x ∈ kept, key x ≤ key y

theorem best_isBest (n : Nat) (xs : List α) : IsBest key n xs (best key n xs) where
  ordered := (sorted_ordered _).sublist (List.take_sublist n _)
  nodup := ((sorted_perm _).nodup_iff.mpr (nodup_eraseDups _)).sublist
    (List.take_sublist n _)
  known := fun _ hx => mem_sorted_eraseDups.mp (List.mem_of_mem_take hx)
  length := by rw [best, List.length_take, (sorted_perm _).length_eq]
  rest := by
    intro y hy hlost x hx
    have hmem : y ∈ sorted key xs.eraseDups := mem_sorted_eraseDups.mpr hy
    have ho : Ordered key (sorted key xs.eraseDups) := sorted_ordered _
    rw [← List.take_append_drop n (sorted key xs.eraseDups)] at hmem ho
    exact (List.pairwise_append.mp ho).2.2 x hx y ((List.mem_append.mp hmem).resolve_left hlost)

/-- With one element to a key, the same elements in another order leave the same list. -/
theorem best_eq_of_same {xs ys : List α} (h : ∀ a, a ∈ xs ↔ a ∈ ys)
    (hkey : ∀ a ∈ xs, ∀ b ∈ xs, key a = key b → a = b) (n : Nat) :
    best key n xs = best key n ys := by
  have hperm : xs.eraseDups.Perm ys.eraseDups :=
    (List.perm_ext_iff_of_nodup (nodup_eraseDups _) (nodup_eraseDups _)).mpr
      fun a => by rw [List.mem_eraseDups, List.mem_eraseDups, h a]
  unfold best
  rw [sorted_eq_of_perm hperm]
  intro a ha b hb
  exact hkey a (List.mem_eraseDups.mp ha) b (List.mem_eraseDups.mp hb)

end Lgnome.Transition.Stable
