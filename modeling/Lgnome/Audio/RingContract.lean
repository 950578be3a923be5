import Lgnome.Audio.Ring

/-!
# What the two threads promise each other

The producer's calls leave their stores complete and their frames accounted for.
The reader leaves its cursor close to the boundaries of generations it has not
applied: it moves at most a few times between two looks at the generations.
-/
namespace Lgnome.Audio

open Lgnome.Transition (Contract)

/-! ## How far the reader is past a boundary -/

/-- Once the generation is another than `g`, its boundary is at most `slack` behind the reader. -/
def Behind (g : UInt32) (slack : Nat) (s : Source) : Prop :=
  s.producer.formatGeneration ≠ g →
    s.consumer.taken.readAt ≤ s.producer.sent.resetAt + slack

def BehindTalkspurt (g : UInt32) (slack : Nat) (s : Source) : Prop :=
  s.producer.talkspurtGeneration ≠ g →
    s.consumer.taken.readAt ≤ s.producer.sent.talkspurtAt + slack

/-- The reader has moved at most `f` times since it looked at the format generation, and at most
`t` times since it looked at the talkspurt generation. -/
structure Near (f t : Nat) (s : Source) : Prop where
  format : Behind s.consumer.appliedGeneration (f * pipelineCapacityFrames) s
  talkspurt : BehindTalkspurt s.consumer.seenTalkspurtGeneration (t * pipelineCapacityFrames) s

/-- What the reader leaves: there is room for one trim while a fade-out leads to it. -/
structure Settled (s : Source) : Prop where
  near : Near 4 4 s
  fading : s.consumer.trimAfterFade = true → Near 3 3 s

/-- The calls of the producer leave every call published, and account for it. -/
structure Posted (p : Producer) : Prop where
  phase : p.sent.phase = .idle
  rate : p.producerSampleRate = p.sent.inForce
  opened : p.opened = true → p.producerSampleRate ≠ 0 ∧ p.producerChannels ≠ 0
  frames : p.sent.frames =
    p.sent.pushes.flatMap fun push => push.frames.take (push.frames.length - push.dropped)
  dropped : ∀ push ∈ p.sent.pushes, push.dropped ≤ push.frames.length

/-- What a thread may do; the other thread relies on it. -/
def Moves : Thread → Source → Source → Prop
  | .producer => ProducerMoves
  | .consumer => ConsumerMoves

def Thread.other : Thread → Thread
  | .producer => .consumer
  | .consumer => .producer

theorem Moves.refl (thread : Thread) (s : Source) : Moves thread s s := by
  cases thread with
  | producer => exact ProducerMoves.refl s
  | consumer => exact ConsumerMoves.refl s

theorem Moves.trans (thread : Thread) {s t u : Source} (h : Moves thread s t)
    (h' : Moves thread t u) : Moves thread s u := by
  cases thread with
  | producer => exact ProducerMoves.trans h h'
  | consumer => exact ConsumerMoves.trans h h'

theorem Moves.of_ne {p q : Thread} (hne : p ≠ q) {s t : Source} (h : Moves p s t) :
    Moves q.other s t := by
  cases p <;> cases q <;> first | exact h | exact absurd rfl hne

def AtRest : Thread → Source → Prop
  | .producer, s => Posted s.producer
  | .consumer, s => Settled s

/-! ## Stable facts -/

theorem Behind.stable {g : UInt32} {slack : Nat} {s t : Source} (h : Behind g slack s)
    (hmoves : ProducerMoves s t) : Behind g slack t := by
  intro hne
  rw [hmoves.consumer]
  by_cases heq : t.producer.formatGeneration = s.producer.formatGeneration
  · have := h (heq ▸ hne)
    have := hmoves.resetAt
    omega
  · have := hmoves.format heq
    omega

theorem BehindTalkspurt.stable {g : UInt32} {slack : Nat} {s t : Source}
    (h : BehindTalkspurt g slack s) (hmoves : ProducerMoves s t) : BehindTalkspurt g slack t := by
  intro hne
  rw [hmoves.consumer]
  by_cases heq : t.producer.talkspurtGeneration = s.producer.talkspurtGeneration
  · have := h (heq ▸ hne)
    have := hmoves.talkspurtAt
    omega
  · have := hmoves.talkspurt heq
    omega

theorem Near.stable {f k : Nat} {s t : Source} (h : Near f k s) (hmoves : ProducerMoves s t) :
    Near f k t := by
  constructor
  · rw [hmoves.consumer]
    exact h.format.stable hmoves
  · rw [hmoves.consumer]
    exact h.talkspurt.stable hmoves

theorem Settled.stable {s t : Source} (h : Settled s) (hmoves : ProducerMoves s t) :
    Settled t := by
  refine ⟨h.near.stable hmoves, ?_⟩
  intro hfade
  rw [hmoves.consumer] at hfade
  exact (h.fading hfade).stable hmoves

theorem AtRest.stable (thread : Thread) {s t : Source} (hmoves : Moves thread.other s t)
    (h : AtRest thread s) : AtRest thread t := by
  cases thread with
  | producer =>
    have hproducer : t.producer = s.producer := ConsumerMoves.producer hmoves
    simp only [AtRest] at h ⊢
    rw [hproducer]
    exact h
  | consumer => exact Settled.stable h hmoves

def contract : Contract Thread Source where
  inv := Intact
  rely thread := Moves thread.other
  guar := Moves
  rest := AtRest
  rely_refl thread := Moves.refl thread.other
  guar_refl := Moves.refl
  rely_trans thread _ _ _ := Moves.trans thread.other
  guar_rely _ _ _ _ hne h := Moves.of_ne hne h
  rest_stable thread _ _ := AtRest.stable thread

end Lgnome.Audio
