import Mathlib.Data.Nat.ModEq
import Mathlib.Data.List.Basic

/-!
# Queues between two cursors

A queue in a fixed array: it runs from the head up to the tail, both counted around the
array. One slot stays free, so that equal cursors mean an empty queue. What is read or
passed over stays in its slot.
-/
namespace Lgnome.Transition

/-- The slots with the next to read and the next to fill. -/
structure Circular (α : Type*) where
  slots : List α
  head : Nat := 0
  tail : Nat := 0
  deriving DecidableEq, Repr

namespace Circular

variable {α : Type*}

def isEmpty (q : Circular α) : Bool := q.head == q.tail

/-- Fills the slot at the tail, unless it is the one that stays free. -/
def push (q : Circular α) (size : Nat) (a : α) : Option (Circular α) :=
  if (q.tail + 1) % size = q.head then none
  else some { q with slots := q.slots.set q.tail a, tail := (q.tail + 1) % size }

/-- Reads the slot at the head. -/
def pop (q : Circular α) (size : Nat) : Option (α × Circular α) :=
  if q.head = q.tail then none
  else q.slots[q.head]?.map fun a => (a, { q with head := (q.head + 1) % size })

def clear (q : Circular α) : Circular α := { q with head := 0, tail := 0 }

/-- The slots from the head to the tail hold `queue`. -/
structure Holds (size : Nat) (q : Circular α) (queue : List α) : Prop where
  slots : q.slots.length = size
  head : q.head < size
  tail : q.tail = (q.head + queue.length) % size
  room : queue.length < size
  window : ∀ i < queue.length, q.slots[(q.head + i) % size]? = queue[i]?

variable {size : Nat} {q : Circular α} {queue : List α} {a : α}

theorem holds_clear (h : q.slots.length = size) (hsize : 0 < size) : Holds size q.clear [] where
  slots := h
  head := hsize
  tail := (Nat.zero_mod size).symm
  room := hsize
  window := nofun

/-- Two offsets below the size are the same when they meet in one slot. -/
theorem offset_inj (head : Nat) {i j : Nat} (hi : i < size) (hj : j < size)
    (h : (head + i) % size = (head + j) % size) : i = j := by
  have hmod : i % size = j % size := Nat.ModEq.add_left_cancel' head h
  rwa [Nat.mod_eq_of_lt hi, Nat.mod_eq_of_lt hj] at hmod

theorem Holds.head_eq (h : Holds size q queue) : (q.head + 0) % size = q.head :=
  Nat.mod_eq_of_lt h.head

theorem Holds.tail_lt (h : Holds size q queue) : q.tail < size := by
  rw [h.tail]
  exact Nat.mod_lt _ (Nat.zero_lt_of_lt h.head)

theorem Holds.next_tail (h : Holds size q queue) :
    (q.tail + 1) % size = (q.head + (queue.length + 1)) % size := by
  rw [h.tail, Nat.mod_add_mod, Nat.add_assoc]

theorem Holds.isEmpty_iff (h : Holds size q queue) : q.isEmpty = true ↔ queue = [] := by
  rw [isEmpty, beq_iff_eq, h.tail]
  constructor
  · intro heq
    rw [← List.length_eq_zero_iff]
    exact (offset_inj q.head (Nat.zero_lt_of_lt h.room) h.room (h.head_eq.trans heq)).symm
  · rintro rfl
    exact h.head_eq.symm

/-- The queue is full when all slots but one are taken. -/
theorem Holds.full_iff (h : Holds size q queue) :
    (q.tail + 1) % size = q.head ↔ queue.length + 1 = size := by
  rw [h.next_tail]
  constructor
  · intro heq
    by_contra hne
    have hroom := h.room
    have := offset_inj q.head (j := 0) (by omega) (Nat.zero_lt_of_lt h.head)
      (heq.trans h.head_eq.symm)
    omega
  · intro heq
    rw [heq, Nat.add_mod_right]
    exact Nat.mod_eq_of_lt h.head

theorem Holds.push_none (h : Holds size q queue) :
    q.push size a = none ↔ queue.length + 1 = size := by
  rw [← h.full_iff, push]
  split <;> simp [*]

theorem Holds.push_some (h : Holds size q queue) {next : Circular α}
    (hpush : q.push size a = some next) : Holds size next (queue ++ [a]) := by
  have hroom : ¬queue.length + 1 = size := by
    rw [← h.push_none (a := a), hpush]
    exact nofun
  have hlt := h.room
  rw [push, if_neg (mt h.full_iff.1 hroom)] at hpush
  obtain rfl := Option.some.inj hpush
  refine ⟨?_, h.head, ?_, ?_, ?_⟩
  · rw [List.length_set]
    exact h.slots
  · rw [List.length_append, List.length_singleton]
    exact h.next_tail
  · rw [List.length_append, List.length_singleton]
    omega
  · intro i hi
    rw [List.length_append, List.length_singleton] at hi
    dsimp only
    rcases Nat.lt_succ_iff_lt_or_eq.1 hi with hold | rfl
    · have hne : q.tail ≠ (q.head + i) % size := by
        intro heq
        rw [h.tail] at heq
        have := offset_inj q.head h.room (hold.trans h.room) heq
        omega
      rw [List.getElem?_set_ne hne, List.getElem?_append_left hold]
      exact h.window i hold
    · rw [← h.tail, List.getElem?_set_self (by rw [h.slots]; exact h.tail_lt)]
      simp

theorem Holds.pop_nil (h : Holds size q []) : q.pop size = none := by
  have hempty := h.isEmpty_iff.2 rfl
  rw [isEmpty, beq_iff_eq] at hempty
  rw [pop, if_pos hempty]

theorem Holds.pop_cons (h : Holds size q (a :: queue)) :
    ∃ next, q.pop size = some (a, next) ∧ Holds size next queue := by
  have hne : ¬q.head = q.tail := by
    intro heq
    have hnil := h.isEmpty_iff.1 (beq_iff_eq.2 heq)
    cases hnil
  have hfirst := h.window 0 (Nat.succ_pos _)
  rw [h.head_eq] at hfirst
  have hroom := h.room
  rw [List.length_cons] at hroom
  refine ⟨{ q with head := (q.head + 1) % size }, ?_, h.slots, ?_, ?_, ?_, ?_⟩
  · rw [pop, if_neg hne, hfirst]
    rfl
  · exact Nat.mod_lt _ (Nat.zero_lt_of_lt h.head)
  · dsimp only
    rw [h.tail, List.length_cons, Nat.mod_add_mod, Nat.add_assoc, Nat.add_comm 1]
  · omega
  · intro i hi
    have hnext := h.window (i + 1) (Nat.succ_lt_succ hi)
    dsimp only
    rw [Nat.mod_add_mod, Nat.add_assoc, Nat.add_comm 1, hnext]
    rfl

end Circular

end Lgnome.Transition
