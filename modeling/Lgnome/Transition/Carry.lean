import Mathlib.Algebra.BigOperators.Group.List.Basic
import Mathlib.Algebra.Order.Ring.Int

/-!
# Carrying a remainder

Amounts come in one after another and are given out in whole units. What does not
fill a unit is carried to the next amount, unless that amount has the other sign: then
the carried rest is dropped.
-/
namespace Lgnome.Transition

/-- One amount and the rest it finds. -/
structure Carry where
  carried : Int
  amount : Int
  deriving DecidableEq, Repr

namespace Carry

variable {unit : Int}

/-- The amount has the other sign. -/
def Against (c : Carry) : Prop := (0 < c.carried ∧ c.amount < 0) ∨ (c.carried < 0 ∧ 0 < c.amount)

instance (c : Carry) : Decidable c.Against := by
  unfold Against
  infer_instance

/-- What is left of the rest once the amount has come. -/
def kept (c : Carry) : Int := if c.Against then 0 else c.carried

def total (c : Carry) : Int := c.kept + c.amount

/-- The whole units given out, with their sign. -/
def given (unit : Int) (c : Carry) : Int := c.total.tdiv unit

def rest (unit : Int) (c : Carry) : Int := c.total.tmod unit

variable {c : Carry}

theorem given_mul_add_rest (unit : Int) (c : Carry) :
    c.given unit * unit + c.rest unit = c.kept + c.amount := by
  rw [mul_comm]
  exact Int.mul_tdiv_add_tmod c.total unit

theorem rest_lt (h : 0 < unit) (c : Carry) : (c.rest unit).natAbs < unit := by
  have hlow := Int.lt_tmod_of_pos c.total h
  have hhigh := Int.tmod_lt_of_pos c.total h
  unfold rest
  omega

theorem total_nonneg (h : 0 < c.amount) : 0 ≤ c.total := by
  unfold total kept
  split
  · omega
  · rename_i hkept
    unfold Against at hkept
    omega

theorem total_nonpos (h : c.amount < 0) : c.total ≤ 0 := by
  unfold total kept
  split
  · omega
  · rename_i hkept
    unfold Against at hkept
    omega

theorem natAbs_kept_le (c : Carry) : c.kept.natAbs ≤ c.carried.natAbs := by
  unfold kept
  split
  · exact Nat.zero_le _
  · exact Nat.le_refl _

theorem kept_of_not_against (h : ¬ c.Against) : c.kept = c.carried := if_neg h

theorem given_nonneg (h : 0 < unit) (hamount : 0 < c.amount) : 0 ≤ c.given unit :=
  Int.tdiv_nonneg (total_nonneg hamount) (Int.le_of_lt h)

theorem given_nonpos (h : 0 < unit) (hamount : c.amount < 0) : c.given unit ≤ 0 := by
  have hneg := Int.tdiv_nonneg (Int.neg_nonneg_of_nonpos (total_nonpos hamount)) (Int.le_of_lt h)
  rw [Int.neg_tdiv] at hneg
  exact Int.nonpos_of_neg_nonneg hneg

/-- The rest is on the side of the amount. -/
theorem rest_nonneg (h : 0 < c.amount) : 0 ≤ c.rest unit := Int.tmod_nonneg unit (total_nonneg h)

theorem rest_nonpos (h : c.amount < 0) : c.rest unit ≤ 0 := by
  have hneg := Int.tmod_nonneg unit (Int.neg_nonneg_of_nonpos (total_nonpos h))
  rw [Int.neg_tmod] at hneg
  exact Int.nonpos_of_neg_nonneg hneg

/-- What is taken off in whole units until less than one is left is the quotient. -/
theorem tdiv_tmod_of_lt {r : Int} (k : Nat) (hr : 0 ≤ r) (hlt : r < unit) :
    (r + k * unit).tdiv unit = k ∧ (r + k * unit).tmod unit = r := by
  have hunit : unit ≠ 0 := by omega
  have hnonneg : 0 ≤ r + k * unit := Int.add_nonneg hr (Int.mul_nonneg (by omega) (by omega))
  constructor
  · rw [Int.tdiv_eq_ediv_of_nonneg hnonneg, Int.add_mul_ediv_right _ _ hunit,
      Int.ediv_eq_zero_of_lt hr hlt, Int.zero_add]
  · rw [Int.tmod_eq_emod_of_nonneg hnonneg, Int.add_mul_emod_self_right, Int.emod_eq_of_lt hr hlt]

/-- Each of the amounts finds the rest of the one before. -/
def Linked (unit : Int) : Int → List Carry → Int → Prop
  | start, [], stop => stop = start
  | start, c :: cs, stop => c.carried = start ∧ Linked unit (c.rest unit) cs stop

section Linked

variable {start stop : Int} {cs : List Carry}

theorem Linked.append {middle : Int} {ds : List Carry} (h : Linked unit start cs middle)
    (h' : Linked unit middle ds stop) : Linked unit start (cs ++ ds) stop := by
  induction cs generalizing start with
  | nil => rwa [List.nil_append, ← show middle = start from h]
  | cons c cs ih => exact ⟨h.1, ih h.2⟩

/-- Nothing is lost while no amount drops the rest. -/
theorem Linked.conserved (h : Linked unit start cs stop) (hkept : ∀ c ∈ cs, ¬ c.Against) :
    start + (cs.map amount).sum = (cs.map (given unit)).sum * unit + stop := by
  induction cs generalizing start with
  | nil =>
    rw [show stop = start from h]
    simp
  | cons c cs ih =>
    have hsum := ih h.2 fun d hd => hkept d (List.mem_cons_of_mem c hd)
    have hfirst := given_mul_add_rest unit c
    rw [kept_of_not_against (hkept c List.mem_cons_self), h.1] at hfirst
    rw [List.map_cons, List.map_cons, List.sum_cons, List.sum_cons, add_mul, ← add_assoc, ← hfirst,
      add_assoc, hsum, add_assoc]

/-- Nor is anything lost behind the amount that drops it. -/
theorem Linked.conserved_from (h : Linked unit start (c :: cs) stop)
    (hkept : ∀ d ∈ cs, ¬ d.Against) :
    c.kept + ((c :: cs).map amount).sum = ((c :: cs).map (given unit)).sum * unit + stop := by
  have hsum := h.2.conserved hkept
  have hfirst := given_mul_add_rest unit c
  rw [List.map_cons, List.map_cons, List.sum_cons, List.sum_cons, add_mul, ← add_assoc, ← hfirst,
    add_assoc, hsum, add_assoc]

/-- Amounts of one sign drop nothing behind a rest of that sign. -/
theorem Linked.not_against_of_pos (h : Linked unit start cs stop) (hstart : 0 ≤ start)
    (hpos : ∀ c ∈ cs, 0 < c.amount) : ∀ c ∈ cs, ¬ c.Against := by
  induction cs generalizing start with
  | nil => exact fun c hc => absurd hc List.not_mem_nil
  | cons c cs ih =>
    have hc := hpos c List.mem_cons_self
    have hrest := ih h.2 (rest_nonneg hc) fun d hd => hpos d (List.mem_cons_of_mem c hd)
    refine List.forall_mem_cons.mpr ⟨?_, hrest⟩
    unfold Against
    rw [h.1]
    omega

theorem Linked.not_against_of_neg (h : Linked unit start cs stop) (hstart : start ≤ 0)
    (hneg : ∀ c ∈ cs, c.amount < 0) : ∀ c ∈ cs, ¬ c.Against := by
  induction cs generalizing start with
  | nil => exact fun c hc => absurd hc List.not_mem_nil
  | cons c cs ih =>
    have hc := hneg c List.mem_cons_self
    have hrest := ih h.2 (rest_nonpos hc) fun d hd => hneg d (List.mem_cons_of_mem c hd)
    refine List.forall_mem_cons.mpr ⟨?_, hrest⟩
    unfold Against
    rw [h.1]
    omega

/-- Of amounts that all have one sign only the first can drop a rest. -/
theorem Linked.not_against_of_oneWay (h : Linked unit start (c :: cs) stop)
    (hway : (∀ d ∈ c :: cs, 0 < d.amount) ∨ ∀ d ∈ c :: cs, d.amount < 0) :
    ∀ d ∈ cs, ¬ d.Against := by
  obtain hpos | hneg := hway
  · exact h.2.not_against_of_pos (rest_nonneg (hpos c List.mem_cons_self))
      fun d hd => hpos d (List.mem_cons_of_mem c hd)
  · exact h.2.not_against_of_neg (rest_nonpos (hneg c List.mem_cons_self))
      fun d hd => hneg d (List.mem_cons_of_mem c hd)

end Linked

end Carry

end Lgnome.Transition
