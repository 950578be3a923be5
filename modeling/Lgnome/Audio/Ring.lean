import Lgnome.Audio.SourceRead
import Mathlib.Data.List.Infix
import Mathlib.Data.List.TakeDrop

/-!
# What the ring stands for

Cursors count modulo `2 ^ 32`, positions in the ledgers do not. The ring and its
cursors stand for the frames between the consumer's position and the end of what
the producer has published; the consumer's log accounts for every frame before.
-/
namespace Lgnome.Audio

/-! ## Cursors -/

theorem cursor_sub {a b : Nat} (h : a ≤ b) (hlt : b - a < 4294967296) :
    (UInt32.ofNat b - UInt32.ofNat a).toNat = b - a := by
  rw [← UInt32.ofNat_sub h]
  exact UInt32.toNat_ofNat_of_lt' hlt

/-- A boundary the cursor has passed is too far ahead of it, counted modulo `2 ^ 32`. -/
theorem cursor_sub_passed {a b : Nat} (h : b < a) (hlt : a - b + pipelineCapacityFrames < 4294967296) :
    pipelineCapacityFrames < (UInt32.ofNat b - UInt32.ofNat a).toNat := by
  simp only [UInt32.toNat_sub, UInt32.toNat_ofNat', pipelineCapacityFrames] at *
  omega

theorem cursor_cell (a : Nat) :
    (UInt32.ofNat a).toNat % pipelineCapacityFrames = a % pipelineCapacityFrames := by
  simp only [UInt32.toNat_ofNat', pipelineCapacityFrames]
  omega

/-- The capacity divides the range of a cursor, so cells tell positions of one window apart. -/
theorem cell_ne {a b : Nat} (h : a < b) (hlt : b < a + pipelineCapacityFrames) :
    a % pipelineCapacityFrames ≠ b % pipelineCapacityFrames := by
  simp only [pipelineCapacityFrames] at *
  omega

/-! ## The log of the consumer -/

/-- `n` published frames from a position on. -/
def Sent.segment (sent : Sent) (start n : Nat) : List Stored := (sent.stored.drop start).take n

namespace Event

/-- The frames an event converts. -/
def frames : Event → List Frame
  | played _ _ _ frames => frames
  | skipped _ _ _ => []
  | output _ => []

/-- The positions an event uses up. -/
def Spans (a b : Nat) : Event → Prop
  | played start _ _ frames => start = a ∧ b = a + frames.length
  | skipped _ start upto => start = a ∧ upto = b ∧ a ≤ b
  | output _ => a = b

/-- Converted frames are the published ones; frames are skipped up to a recorded boundary. -/
def Sound (sent : Sent) : Event → Prop
  | played start _ _ frames =>
    start + frames.length ≤ sent.stored.length ∧
      frames = (sent.segment start frames.length).map fun x => x.frame
  | skipped .format _ upto => upto ∈ sent.formatBoundaries
  | skipped .talkspurt _ upto => upto ∈ sent.talkspurtBoundaries
  | skipped .trim _ upto => upto ≤ sent.stored.length
  | output _ => True

/-- Converted frames were published under the generation the consumer had applied. -/
def InGeneration (sent : Sent) : Event → Prop
  | played start _ generation frames =>
    ∀ x ∈ sent.segment start frames.length, x.generation = generation
  | _ => True

/-- Converted frames were published under the rate the converter was set up with. -/
def AtRate (sent : Sent) : Event → Prop
  | played start rate _ frames => ∀ x ∈ sent.segment start frames.length, x.rate = rate
  | _ => True

end Event

/-- The events use up the positions from the start one after the other. -/
inductive Chained : List Event → Nat → Prop
  | nil : Chained [] 0
  | snoc {log : List Event} {event : Event} {a b : Nat} :
      Chained log a → event.Spans a b → Chained (log ++ [event]) b

/-- What the frames of a log are, in the order they were converted. -/
def converted (log : List Event) : List Frame := log.flatMap Event.frames

/-- What the producer has published, in the order it was pushed. -/
def Sent.frames (sent : Sent) : List Frame := sent.stored.map fun x => x.frame

theorem segment_append {sent : Sent} {start n : Nat} {more : List Stored}
    (h : start + n ≤ sent.stored.length) :
    (((sent.stored ++ more).drop start).take n) = sent.segment start n := by
  unfold Sent.segment
  rw [List.drop_append_of_le_length (by omega), List.take_append_of_le_length]
  rw [List.length_drop]
  omega

theorem mem_segment {sent : Sent} {start n : Nat} {x : Stored} (h : x ∈ sent.segment start n) :
    ∃ i, start ≤ i ∧ i < start + n ∧ sent.stored[i]? = some x := by
  obtain ⟨i, hi, rfl⟩ := List.mem_iff_getElem.mp h
  simp only [Sent.segment, List.length_take, List.length_drop] at hi
  refine ⟨start + i, by omega, by omega, ?_⟩
  simp only [Sent.segment, List.getElem_take, List.getElem_drop]
  exact List.getElem?_eq_getElem _

/-- Frames are converted in the order they were pushed and at most once. -/
theorem Chained.sublist {sent : Sent} {log : List Event} {a : Nat} (h : Chained log a)
    (hsound : ∀ event ∈ log, event.Sound sent) :
    (converted log).Sublist (sent.frames.take a) := by
  induction h with
  | nil => exact List.nil_sublist _
  | @snoc log event a b hlog hspans ih =>
    have hih := ih fun e he => hsound e (List.mem_append_left _ he)
    have hevent := hsound event (List.mem_append_right _ (List.mem_singleton_self _))
    have hle : a ≤ b := by
      cases event with
      | played start rate generation frames =>
        obtain ⟨-, rfl⟩ := hspans
        exact Nat.le_add_right _ _
      | skipped why start upto => exact hspans.2.2
      | output numerator => exact Nat.le_of_eq hspans
    have hsplit : sent.frames.take b = sent.frames.take a ++ (sent.frames.drop a).take (b - a) := by
      rw [← List.take_add, Nat.add_sub_cancel' hle]
    simp only [converted, List.flatMap_append, List.flatMap_singleton]
    rw [hsplit]
    refine List.Sublist.append hih ?_
    cases event with
    | played start rate generation frames =>
      obtain ⟨rfl, rfl⟩ := hspans
      obtain ⟨-, hframes⟩ := hevent
      have hseg : (sent.frames.drop start).take (start + frames.length - start) = frames := by
        rw [Nat.add_sub_cancel_left]
        conv_rhs => rw [hframes]
        simp only [Sent.frames, Sent.segment, List.map_take, List.map_drop]
      rw [hseg]
      exact List.Sublist.refl _
    | skipped why start upto => exact List.nil_sublist _
    | output numerator => exact List.nil_sublist _

/-! ## The invariant -/

/-- The ring, its cursors and the ledgers speak of the same frames. -/
structure Coherent (p : Producer) (c : Consumer) : Prop where
  write : p.writeCursor = UInt32.ofNat p.sent.stored.length
  read : c.readCursor = UInt32.ofNat c.taken.readAt
  reset : p.resetCursor = UInt32.ofNat p.sent.resetAt
  talkspurt : p.talkspurtCursor = UInt32.ofNat p.sent.talkspurtAt
  read_le : c.taken.readAt ≤ p.sent.stored.length
  fill : p.sent.stored.length ≤ c.taken.readAt + pipelineCapacityFrames
  reset_le : p.sent.resetAt ≤ p.sent.stored.length
  talkspurt_le : p.sent.talkspurtAt ≤ p.sent.stored.length
  reset_mem : p.sent.resetAt ∈ p.sent.formatBoundaries
  talkspurt_mem : p.sent.talkspurtAt ∈ p.sent.talkspurtBoundaries
  ring : ∀ i x, c.taken.readAt ≤ i → p.sent.stored[i]? = some x →
    p.ring (i % pipelineCapacityFrames) = x.frame
  chained : Chained c.taken.log c.taken.readAt
  sound : ∀ event ∈ c.taken.log, event.Sound p.sent

/-- Published frames that the consumer will find belong to the format it will apply. -/
structure Tuned (p : Producer) (c : Consumer) : Prop where
  generation : p.formatGeneration = UInt32.ofNat p.sent.formatCount
  applied : c.appliedGeneration = UInt32.ofNat c.taken.appliedCount
  seen_le : c.taken.seenCount ≤ p.sent.formatCount
  applied_le : c.taken.appliedCount ≤ p.sent.formatCount
  pending : p.sent.phase = .idle → p.pendingSampleRate = p.sent.inForce
  reset : p.sent.phase = .resetStored → p.sent.resetAt = p.sent.stored.length
  inForce : ∀ i x, p.sent.resetAt ≤ i → p.sent.stored[i]? = some x →
    x.generation = p.sent.formatCount ∧ x.rate = p.sent.inForce
  queued : p.sent.formatCount = c.taken.appliedCount → ∀ i x, c.taken.readAt ≤ i →
    p.sent.stored[i]? = some x → x.generation = c.taken.appliedCount ∧
      (c.taken.torn = false → ∀ rate, c.converter = some rate → x.rate = rate)
  standing : p.sent.formatCount = c.taken.appliedCount → p.sent.phase = .idle →
    c.taken.torn = false → ∀ rate, c.converter = some rate → rate = p.sent.inForce
  inGeneration : c.taken.wrapped = false → ∀ event ∈ c.taken.log, event.InGeneration p.sent
  atRate : c.taken.wrapped = false → c.taken.torn = false →
    ∀ event ∈ c.taken.log, event.AtRate p.sent

/-- The invariant of the shared state. -/
structure Intact (s : Source) : Prop where
  coherent : Coherent s.producer s.consumer
  tuned : Tuned s.producer s.consumer

/-! ## What each thread may do -/

/-- What the consumer sees of the producer's steps. -/
structure ProducerMoves (s t : Source) : Prop where
  consumer : t.consumer = s.consumer
  stored : s.producer.sent.stored <+: t.producer.sent.stored
  resetAt : s.producer.sent.resetAt ≤ t.producer.sent.resetAt
  talkspurtAt : s.producer.sent.talkspurtAt ≤ t.producer.sent.talkspurtAt
  formatBoundaries : s.producer.sent.formatBoundaries ⊆ t.producer.sent.formatBoundaries
  talkspurtBoundaries : s.producer.sent.talkspurtBoundaries ⊆ t.producer.sent.talkspurtBoundaries
  count : s.producer.sent.formatCount ≤ t.producer.sent.formatCount
  format : t.producer.formatGeneration ≠ s.producer.formatGeneration →
    s.consumer.taken.readAt ≤ t.producer.sent.resetAt
  talkspurt : t.producer.talkspurtGeneration ≠ s.producer.talkspurtGeneration →
    s.consumer.taken.readAt ≤ t.producer.sent.talkspurtAt
  ring : ∀ i, s.consumer.taken.readAt ≤ i → i < s.producer.sent.stored.length →
    t.producer.ring (i % pipelineCapacityFrames) = s.producer.ring (i % pipelineCapacityFrames)
  inForce : t.producer.sent.formatCount = s.producer.sent.formatCount →
    t.producer.sent.inForce = s.producer.sent.inForce
  idle : t.producer.sent.formatCount = s.producer.sent.formatCount → s.producer.sent.phase = .idle →
    ∀ i x, s.producer.sent.stored.length ≤ i → t.producer.sent.stored[i]? = some x →
      x.generation = s.producer.sent.formatCount ∧ x.rate = s.producer.sent.inForce
  busy : t.producer.sent.formatCount = s.producer.sent.formatCount → s.producer.sent.phase ≠ .idle →
    t.producer.sent.phase ≠ .idle ∧ t.producer.sent.stored = s.producer.sent.stored

/-- What the producer sees of the consumer's steps. -/
structure ConsumerMoves (s t : Source) : Prop where
  producer : t.producer = s.producer
  readAt : s.consumer.taken.readAt ≤ t.consumer.taken.readAt

theorem ConsumerMoves.refl (s : Source) : ConsumerMoves s s := ⟨rfl, Nat.le_refl _⟩

theorem ConsumerMoves.trans {s t u : Source} (h : ConsumerMoves s t) (h' : ConsumerMoves t u) :
    ConsumerMoves s u :=
  ⟨h'.producer.trans h.producer, h.readAt.trans h'.readAt⟩

/-- There is no frame behind the last. -/
theorem no_frame {l : List Stored} {i : Nat} {x : Stored} {P : Prop} (hi : l.length ≤ i)
    (hx : l[i]? = some x) : P := by
  rw [List.getElem?_eq_none hi] at hx
  cases hx

theorem ProducerMoves.refl (s : Source) : ProducerMoves s s where
  consumer := rfl
  stored := List.prefix_refl _
  resetAt := Nat.le_refl _
  talkspurtAt := Nat.le_refl _
  formatBoundaries := List.Subset.refl _
  talkspurtBoundaries := List.Subset.refl _
  count := Nat.le_refl _
  format hne := absurd rfl hne
  talkspurt hne := absurd rfl hne
  ring _ _ _ := rfl
  inForce _ := rfl
  idle _ _ _ _ hi hx := no_frame hi hx
  busy _ hne := ⟨hne, rfl⟩

/-- A position keeps its frame when the list of published frames grows. -/
theorem stored_earlier {l l' : List Stored} (h : l <+: l') {i : Nat} (hi : i < l.length) :
    l'[i]? = l[i]? := by
  obtain ⟨more, rfl⟩ := h
  exact List.getElem?_append_left hi

theorem ProducerMoves.trans {s t u : Source} (h : ProducerMoves s t) (h' : ProducerMoves t u) :
    ProducerMoves s u := by
  have hcount : u.producer.sent.formatCount = s.producer.sent.formatCount →
      t.producer.sent.formatCount = s.producer.sent.formatCount ∧
        u.producer.sent.formatCount = t.producer.sent.formatCount := by
    intro heq
    have := h.count
    have := h'.count
    omega
  have hlength := h.stored.length_le
  constructor
  · exact h'.consumer.trans h.consumer
  · exact h.stored.trans h'.stored
  · exact h.resetAt.trans h'.resetAt
  · exact h.talkspurtAt.trans h'.talkspurtAt
  · exact List.Subset.trans h.formatBoundaries h'.formatBoundaries
  · exact List.Subset.trans h.talkspurtBoundaries h'.talkspurtBoundaries
  · exact h.count.trans h'.count
  · intro hne
    by_cases ht : t.producer.formatGeneration = s.producer.formatGeneration
    · rw [← h.consumer]
      exact h'.format (ht ▸ hne)
    · exact (h.format ht).trans h'.resetAt
  · intro hne
    by_cases ht : t.producer.talkspurtGeneration = s.producer.talkspurtGeneration
    · rw [← h.consumer]
      exact h'.talkspurt (ht ▸ hne)
    · exact (h.talkspurt ht).trans h'.talkspurtAt
  · intro i hread hi
    rw [h'.ring i (h.consumer ▸ hread) (by omega), h.ring i hread hi]
  · intro heq
    obtain ⟨h1, h2⟩ := hcount heq
    rw [h'.inForce h2, h.inForce h1]
  · intro heq hidle i x hi hx
    obtain ⟨h1, h2⟩ := hcount heq
    by_cases hlt : i < t.producer.sent.stored.length
    · rw [stored_earlier h'.stored hlt] at hx
      exact h.idle h1 hidle i x hi hx
    · by_cases hphase : t.producer.sent.phase = .idle
      · have hnew := h'.idle h2 hphase i x (by omega) hx
        rw [h1, h.inForce h1] at hnew
        exact hnew
      · rw [(h'.busy h2 hphase).2] at hx
        exact no_frame (Nat.le_of_not_lt hlt) hx
  · intro heq hbusy
    obtain ⟨h1, h2⟩ := hcount heq
    obtain ⟨hphase, hstored⟩ := h.busy h1 hbusy
    obtain ⟨hphase', hstored'⟩ := h'.busy h2 hphase
    exact ⟨hphase', hstored'.trans hstored⟩

end Lgnome.Audio
