import Mathlib.Data.List.Rotate
import Mathlib.Data.Nat.ModEq

/-!
# Ring queues

A queue in a fixed array of slots: the oldest element is at `head`, the next free
slot is `count` behind it, both counted around the array. A slot outside that window
is empty. The window read from `head` is the list the ring stands for.
-/
namespace Lgnome.Transition

/-- The slots of a ring, with the position of the oldest element and their number. -/
structure Ring (α : Type*) (size : Nat) where
  slots : List (Option α)
  head : Nat
  count : Nat
  deriving DecidableEq, Repr

namespace Ring

variable {α : Type*} {size : Nat}

def empty : Ring α size where
  slots := List.replicate size none
  head := 0
  count := 0

/-- The element at the head of the queue. -/
def peek (r : Ring α size) : Option α :=
  if r.count = 0 then none else (r.slots[r.head]?).join

/-- Fills the slot behind the newest element. -/
def push (r : Ring α size) (a : α) : Ring α size where
  slots := r.slots.set ((r.head + r.count) % size) (some a)
  head := r.head
  count := r.count + 1

/-- Clears the slot at the head and moves on. -/
def pop (r : Ring α size) : Ring α size where
  slots := r.slots.set r.head none
  head := (r.head + 1) % size
  count := r.count - 1

/-- The elements in the slots, in the order of the slots. -/
def occupied (r : Ring α size) : List α := r.slots.filterMap id

/-- The ring holds exactly `queue`: its window is that list, and the other slots are
empty. -/
structure Holds (r : Ring α size) (queue : List α) : Prop where
  length_slots : r.slots.length = size
  head_lt : r.head < size
  count_eq : r.count = queue.length
  count_le : r.count ≤ size
  window : ∀ i < size, r.slots[(r.head + i) % size]? = some queue[i]?

variable {r : Ring α size} {queue : List α} {a : α}

theorem holds_empty (h : 0 < size) : (empty : Ring α size).Holds [] where
  length_slots := List.length_replicate
  head_lt := h
  count_eq := rfl
  count_le := Nat.zero_le _
  window i _ := by
    have hlt : (0 + i) % size < size := Nat.mod_lt _ h
    simp only [empty, List.getElem?_replicate, if_pos hlt, List.getElem?_nil]

/-- Two offsets of one window meet in no slot. -/
theorem slot_ne (head : Nat) {i j : Nat} (hi : i < size) (hj : j < size) (h : i ≠ j) :
    (head + i) % size ≠ (head + j) % size := by
  intro heq
  have hmod : i % size = j % size := Nat.ModEq.add_left_cancel' head heq
  rw [Nat.mod_eq_of_lt hi, Nat.mod_eq_of_lt hj] at hmod
  exact h hmod

/-- The first offset is the head itself. -/
theorem Holds.slot_zero (h : r.Holds queue) : (r.head + 0) % size = r.head :=
  Nat.mod_eq_of_lt h.head_lt

theorem Holds.peek_eq (h : r.Holds queue) : r.peek = queue.head? := by
  unfold peek
  have hslot := h.window 0 (Nat.zero_lt_of_lt h.head_lt)
  rw [h.slot_zero] at hslot
  cases queue with
  | nil =>
    have hcount : r.count = 0 := h.count_eq
    rw [if_pos hcount, List.head?_nil]
  | cons b rest =>
    have hcount := h.count_eq
    rw [List.length_cons] at hcount
    rw [if_neg (by omega), hslot]
    rfl

theorem Holds.push (h : r.Holds queue) (hroom : r.count < size) :
    (r.push a).Holds (queue ++ [a]) where
  length_slots := by
    show (r.slots.set _ _).length = size
    rw [List.length_set, h.length_slots]
  head_lt := h.head_lt
  count_eq := by
    show r.count + 1 = _
    rw [List.length_append, List.length_singleton, h.count_eq]
  count_le := hroom
  window i hi := by
    show (r.slots.set ((r.head + r.count) % size) (some a))[(r.head + i) % size]? = _
    by_cases heq : i = r.count
    · subst heq
      have hlt : (r.head + r.count) % size < r.slots.length := by
        rw [h.length_slots]
        exact Nat.mod_lt _ (Nat.zero_lt_of_lt hi)
      rw [List.getElem?_set_self hlt, h.count_eq, List.getElem?_concat_length]
    · rw [List.getElem?_set_ne (slot_ne r.head hroom hi (Ne.symm heq)), h.window i hi]
      have hcount := h.count_eq
      rcases Nat.lt_or_ge i queue.length with hin | hout
      · rw [List.getElem?_append_left hin]
      · rw [List.getElem?_eq_none hout, List.getElem?_eq_none]
        rw [List.length_append, List.length_singleton]
        omega

theorem Holds.pop (h : r.Holds (a :: queue)) : r.pop.Holds queue where
  length_slots := by
    show (r.slots.set _ _).length = size
    rw [List.length_set, h.length_slots]
  head_lt := Nat.mod_lt _ (Nat.zero_lt_of_lt h.head_lt)
  count_eq := by
    show r.count - 1 = _
    rw [h.count_eq, List.length_cons, Nat.add_sub_cancel]
  count_le := by
    show r.count - 1 ≤ _
    exact Nat.le_trans (Nat.sub_le _ _) h.count_le
  window i hi := by
    have hsize : 0 < size := Nat.zero_lt_of_lt h.head_lt
    have hnext : ((r.head + 1) % size + i) % size = (r.head + (i + 1)) % size := by
      rw [Nat.mod_add_mod, Nat.add_assoc, Nat.add_comm 1 i]
    show (r.slots.set r.head none)[((r.head + 1) % size + i) % size]? = _
    rw [hnext]
    rcases Nat.lt_or_ge (i + 1) size with hin | hlast
    · have hne := slot_ne r.head hsize hin (by omega)
      rw [h.slot_zero] at hne
      rw [List.getElem?_set_ne hne, h.window (i + 1) hin, List.getElem?_cons_succ]
    · -- the last offset of the new window is the slot just cleared
      obtain rfl : i + 1 = size := by omega
      have hcount := h.count_eq
      have hle := h.count_le
      rw [List.length_cons] at hcount
      rw [Nat.add_mod_right, Nat.mod_eq_of_lt h.head_lt,
        List.getElem?_set_self (by rw [h.length_slots]; exact h.head_lt),
        List.getElem?_eq_none (by omega)]

/-- Read from the head, the slots are the queue and then empty. -/
theorem Holds.rotate (h : r.Holds queue) :
    r.slots.rotate r.head = queue.map some ++ List.replicate (size - queue.length) none := by
  have hcount := h.count_eq
  have hle := h.count_le
  apply List.ext_getElem?
  intro i
  rcases Nat.lt_or_ge i size with hi | hi
  · rw [List.getElem?_rotate (by rw [h.length_slots]; exact hi), h.length_slots,
      Nat.add_comm i r.head, h.window i hi]
    rcases Nat.lt_or_ge i queue.length with hin | hout
    · rw [List.getElem?_append_left (by rw [List.length_map]; exact hin), List.getElem?_map,
        List.getElem?_eq_getElem hin]
      rfl
    · rw [List.getElem?_append_right (by rw [List.length_map]; exact hout), List.length_map,
        List.getElem?_replicate, if_pos (by omega), List.getElem?_eq_none hout]
  · rw [List.getElem?_eq_none, List.getElem?_eq_none]
    · rw [List.length_append, List.length_map, List.length_replicate]
      omega
    · rw [List.length_rotate, h.length_slots]
      exact hi

/-- The slots hold the elements of the queue and nothing else. -/
theorem Holds.occupied_perm (h : r.Holds queue) : r.occupied.Perm queue := by
  have hperm : (r.slots.rotate r.head).Perm r.slots := List.rotate_perm _ _
  have hkept : (queue.map some ++ List.replicate (size - queue.length) none).filterMap id
      = queue := by
    rw [List.filterMap_append, List.filterMap_map, List.filterMap_replicate_of_none rfl,
      List.append_nil]
    exact List.filterMap_some
  have hmap := hperm.filterMap id
  rw [h.rotate, hkept] at hmap
  exact hmap.symm

end Ring

end Lgnome.Transition
