import Mathlib.Data.List.Basic

/-!
# Bounded channels

A queue of bounded length between senders and one receiver. A send to a full
channel fails or leaves its sender waiting, and a sender waits alone. The receiver
may leave, which turns every later send away.
-/
namespace Lgnome.Transition

/-- A channel and the element its waiting sender holds. -/
structure BoundedChannel (α : Type*) (depth : Nat) where
  queue : List α
  waiting : Option α
  connected : Bool
  within : queue.length ≤ depth

inductive SendResult
  | sent
  | full
  | disconnected
  deriving DecidableEq, Repr

namespace BoundedChannel

variable {α : Type*} {depth : Nat}

def empty : BoundedChannel α depth where
  queue := []
  waiting := none
  connected := true
  within := Nat.zero_le _

def push (c : BoundedChannel α depth) (a : α) (h : c.queue.length < depth) :
    BoundedChannel α depth :=
  { c with
    queue := c.queue ++ [a]
    within := by
      rw [List.length_append, List.length_singleton]
      exact h }

def trySend (c : BoundedChannel α depth) (a : α) : BoundedChannel α depth × SendResult :=
  if ¬c.connected then (c, .disconnected)
  else if h : c.queue.length < depth then (c.push a h, .sent)
  else (c, .full)

/-- A send that has to wait for room. -/
def wait (c : BoundedChannel α depth) (a : α) : BoundedChannel α depth :=
  { c with waiting := some a }

/-- The waiting send goes through as soon as there is room. -/
def proceed (c : BoundedChannel α depth) : Option (BoundedChannel α depth × α) :=
  match c.waiting with
  | none => none
  | some a =>
    if h : c.queue.length < depth then some ({ c.push a h with waiting := none }, a) else none

def tryRecv (c : BoundedChannel α depth) : Option (BoundedChannel α depth × α) :=
  match hqueue : c.queue with
  | [] => none
  | a :: rest =>
    some ({ c with
      queue := rest
      within := by
        have hwithin := c.within
        rw [hqueue, List.length_cons] at hwithin
        omega }, a)

/-- The receiver leaves, and the waiting send fails. -/
def disconnect (c : BoundedChannel α depth) : BoundedChannel α depth :=
  { c with
    connected := false
    waiting := none }

variable {c c' : BoundedChannel α depth} {a : α}

theorem trySend_room (hconnected : c.connected = true) (h : c.queue.length < depth) (a : α) :
    c.trySend a = (c.push a h, .sent) := by
  unfold trySend
  rw [if_neg (not_not_intro hconnected), dif_pos h]

theorem trySend_full (hconnected : c.connected = true) (h : c.queue.length = depth) (a : α) :
    c.trySend a = (c, .full) := by
  unfold trySend
  rw [if_neg (not_not_intro hconnected), dif_neg (Nat.not_lt.mpr (Nat.le_of_eq h.symm))]

/-- What a send attempt can do. -/
theorem trySend_cases (c : BoundedChannel α depth) (a : α) :
    (c.connected = false ∧ c.trySend a = (c, .disconnected)) ∨
    (c.connected = true ∧ ∃ h, c.trySend a = (c.push a h, .sent)) ∨
    (c.connected = true ∧ c.queue.length = depth ∧ c.trySend a = (c, .full)) := by
  cases hconnected : c.connected with
  | false => exact .inl ⟨rfl, by simp [trySend, hconnected]⟩
  | true =>
    rcases Nat.lt_or_eq_of_le c.within with h | h
    · exact .inr (.inl ⟨rfl, h, trySend_room hconnected h a⟩)
    · exact .inr (.inr ⟨rfl, h, trySend_full hconnected h a⟩)

theorem proceed_cases (h : c.proceed = some (c', a)) :
    c.waiting = some a ∧ c'.waiting = none ∧ c'.queue = c.queue ++ [a] ∧
      c'.connected = c.connected := by
  unfold proceed at h
  split at h
  · cases h
  · rename_i held hwaiting
    split at h
    · obtain ⟨rfl, rfl⟩ := Prod.mk.inj (Option.some.inj h)
      exact ⟨hwaiting, rfl, rfl, rfl⟩
    · cases h

theorem proceed_isSome (hwaiting : c.waiting = some a) (hroom : c.queue.length < depth) :
    ∃ c', c.proceed = some (c', a) := by
  unfold proceed
  rw [hwaiting]
  simp [hroom]

theorem tryRecv_cases (h : c.tryRecv = some (c', a)) :
    c.queue = a :: c'.queue ∧ c'.waiting = c.waiting ∧ c'.connected = c.connected := by
  unfold tryRecv at h
  split at h
  · cases h
  · rename_i first rest hqueue
    obtain ⟨rfl, rfl⟩ := Prod.mk.inj (Option.some.inj h)
    exact ⟨hqueue, rfl, rfl⟩

theorem tryRecv_isSome {rest : List α} (hqueue : c.queue = a :: rest) :
    ∃ c', c.tryRecv = some (c', a) := by
  unfold tryRecv
  split
  · rename_i hempty
    rw [hempty] at hqueue
    cases hqueue
  · rename_i first tail hcons
    rw [hcons] at hqueue
    obtain ⟨rfl, -⟩ := List.cons.inj hqueue
    exact ⟨_, rfl⟩

end BoundedChannel

end Lgnome.Transition
