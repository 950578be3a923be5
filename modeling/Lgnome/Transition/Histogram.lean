import Mathlib.Data.List.Count
import Mathlib.Order.Lattice

/-!
# Histograms and nearest ranks

A histogram over `n` buckets counts how often each occurs in a list. The nearest-rank
percentile is the least value that the given share of the list does not exceed; a scan that
adds up the buckets until it reaches the rank finds it.
-/
namespace Lgnome.Transition

/-- The histogram counts every bucket of the list, and the list has no other. -/
structure Counts (histogram : List Nat) (n : Nat) (values : List Nat) : Prop where
  counts : histogram = (List.range n).map fun b => values.count b
  within : ∀ v ∈ values, v < n

/-- `v` is the nearest-rank percentile of the values. -/
structure NearestRank (percent : Nat) (values : List Nat) (v : Nat) : Prop where
  mem : v ∈ values
  covers : percent * values.length ≤ 100 * values.countP fun x => decide (x ≤ v)
  least : ∀ w < v, 100 * (values.countP fun x => decide (x ≤ w)) < percent * values.length

/-- How many values lie below a bucket. -/
def below (values : List Nat) (b : Nat) : Nat := values.countP fun x => decide (x < b)

variable {histogram values : List Nat} {n b v percent threshold : Nat}

namespace Counts

theorem nil (n : Nat) : Counts (List.replicate n 0) n [] where
  counts := by
    simp only [List.count_nil, List.map_const', List.length_range]
  within v hv := by cases hv

theorem length_eq (h : Counts histogram n values) : histogram.length = n := by
  rw [h.counts, List.length_map, List.length_range]

theorem getElem? (h : Counts histogram n values) (hb : b < n) :
    histogram[b]? = some (values.count b) := by
  rw [h.counts, List.getElem?_map, List.getElem?_range hb, Option.map_some]

/-- A histogram is determined bucket by bucket. -/
theorem of_getElem? (hlength : histogram.length = n)
    (hcounts : ∀ b < n, histogram[b]? = some (values.count b)) (hwithin : ∀ v ∈ values, v < n) :
    Counts histogram n values where
  counts := by
    apply List.ext_getElem?
    intro i
    by_cases hi : i < n
    · rw [hcounts i hi, List.getElem?_map, List.getElem?_range hi, Option.map_some]
    · rw [List.getElem?_eq_none (by omega),
        List.getElem?_eq_none (by rw [List.length_map, List.length_range]; omega)]
  within := hwithin

/-- Counting one more value. -/
theorem snoc (h : Counts histogram n values) (hb : b < n) {f : Nat → Nat}
    (hf : f (values.count b) = values.count b + 1) :
    Counts (histogram.modify b f) n (values ++ [b]) := by
  refine of_getElem? (by rw [List.length_modify, h.length_eq]) ?_ ?_
  · intro i hi
    rw [List.count_append]
    by_cases heq : b = i
    · subst heq
      rw [List.getElem?_modify_eq, h.getElem? hi, Option.map_eq_map, Option.map_some, hf,
        List.count_singleton_self]
    · rw [List.getElem?_modify_ne f _ heq, h.getElem? hi, List.count_singleton,
        if_neg (by simpa using heq), Nat.add_zero]
  · intro v hv
    obtain hv | hv := List.mem_append.mp hv
    · exact h.within v hv
    · rw [List.mem_singleton.mp hv]
      exact hb

/-- Counting the first value no longer. -/
theorem tail (h : Counts histogram n (b :: values)) :
    0 < histogram.getD b 0 ∧ Counts (histogram.modify b (· - 1)) n values := by
  have hb := h.within b List.mem_cons_self
  constructor
  · rw [List.getD_eq_getElem?_getD, h.getElem? hb, Option.getD_some, List.count_cons_self]
    omega
  · refine of_getElem? (by rw [List.length_modify, h.length_eq]) ?_ ?_
    · intro i hi
      by_cases heq : b = i
      · subst heq
        rw [List.getElem?_modify_eq, h.getElem? hi, Option.map_eq_map, Option.map_some,
          List.count_cons_self, Nat.add_sub_cancel]
      · rw [List.getElem?_modify_ne (· - 1) _ heq, h.getElem? hi, List.count_cons_of_ne heq]
    · intro v hv
      exact h.within v (List.mem_cons_of_mem b hv)

end Counts

theorem below_zero (values : List Nat) : below values 0 = 0 := by
  unfold below
  rw [List.countP_eq_zero]
  intro v _
  simp only [Nat.not_lt_zero, decide_false, Bool.false_eq_true, not_false_eq_true]

/-- The running sum of the scan. -/
theorem below_succ (values : List Nat) (b : Nat) :
    below values (b + 1) = below values b + values.count b := by
  unfold below
  induction values with
  | nil => rfl
  | cons x rest ih =>
    rw [List.countP_cons, List.countP_cons, List.count_cons, ih]
    by_cases hlt : x < b
    · rw [if_pos (by simpa using Nat.lt_succ_of_lt hlt), if_pos (by simpa using hlt),
        if_neg (by simpa using Nat.ne_of_lt hlt)]
      omega
    · by_cases heq : x = b
      · subst heq
        rw [if_pos (by simp), if_neg (by simp), if_pos (by simp)]
        omega
      · rw [if_neg (by simp; omega), if_neg (by simpa using Nat.le_of_not_lt hlt),
          if_neg (by simpa using heq)]
        omega

theorem below_all (h : ∀ v ∈ values, v < n) : below values n = values.length := by
  unfold below
  rw [List.countP_eq_length]
  intro v hv
  exact decide_eq_true (h v hv)

theorem below_mono (values : List Nat) {a b : Nat} (h : a ≤ b) : below values a ≤ below values b := by
  unfold below
  refine List.countP_mono_left ?_
  intro x _ hx
  exact decide_eq_true (Nat.lt_of_lt_of_le (of_decide_eq_true hx) h)

/-- The bucket at which the running sum reaches the rank is the percentile. -/
theorem NearestRank.of_rank (hrank : threshold = (values.length * percent + 99) / 100)
    (hbefore : below values v < threshold) (hreached : threshold ≤ below values (v + 1)) :
    NearestRank percent values v where
  mem := by
    rw [below_succ] at hreached
    exact List.count_pos_iff.mp (by omega)
  covers := by
    have heq : (values.countP fun x => decide (x ≤ v)) = below values (v + 1) := by
      unfold below
      simp only [Nat.lt_succ_iff]
    have hcomm := Nat.mul_comm values.length percent
    rw [heq]
    omega
  least w hw := by
    have heq : (values.countP fun x => decide (x ≤ w)) = below values (w + 1) := by
      unfold below
      simp only [Nat.lt_succ_iff]
    have hmono := below_mono values (Nat.succ_le_of_lt hw)
    have hcomm := Nat.mul_comm values.length percent
    rw [Nat.succ_eq_add_one] at hmono
    rw [heq]
    omega

end Lgnome.Transition
