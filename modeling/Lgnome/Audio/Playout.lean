import Lgnome.Audio.RingConsumer
import Lgnome.Audio.RingProducer

/-!
# Playout of an audio source

In every interleaving of the two threads the ring holds between nothing and its
capacity, and the frames that are converted are the pushed ones, in order and at
most once. They are converted at the rate they were pushed under as long as no
check of the generation reads the rate of one call with the reset cursor of the
call before.
-/
namespace Lgnome.Audio

open Lgnome.Transition (Contract Turn)

theorem intact_initial : Intact {} where
  coherent := {
    write := rfl
    read := rfl
    reset := rfl
    talkspurt := rfl
    read_le := le_rfl
    fill := Nat.zero_le _
    reset_le := le_rfl
    talkspurt_le := le_rfl
    reset_mem := List.mem_singleton_self _
    talkspurt_mem := List.mem_singleton_self _
    ring := fun i _ _ hx => no_frame (Nat.zero_le i) hx
    chained := .nil
    sound := nofun }
  tuned := {
    generation := rfl
    applied := rfl
    seen_le := le_rfl
    applied_le := le_rfl
    pending := fun _ => rfl
    reset := fun hphase => nomatch hphase
    inForce := fun i _ _ hx => no_frame (Nat.zero_le i) hx
    queued := fun _ i _ _ hx => no_frame (Nat.zero_le i) hx
    standing := fun _ _ _ _ hset => nomatch hset
    inGeneration := fun _ => nofun
    atRate := fun _ _ => nofun }

theorem near_initial (f k : Nat) : Near f k {} :=
  ⟨fun hne => absurd rfl hne, fun hne => absurd rfl hne⟩

theorem atRest_initial (thread : Thread) : AtRest thread {} := by
  cases thread with
  | producer => exact ⟨rfl, rfl, nofun, rfl, nofun⟩
  | consumer => exact ⟨near_initial 4 4, fun _ => near_initial 3 3⟩

theorem safe_program (thread : Thread) (call : Call thread) (s : Source) (hinv : Intact s)
    (hrest : AtRest thread s) :
    contract.Safe thread (program thread call) (fun _ => contract.rest thread) s := by
  cases thread with
  | producer => exact safe_producerCall hrest
  | consumer => exact safe_sourceRead hinv hrest

/-- Both threads keep the contract, whatever they are called with and however they interleave. -/
theorem pipeline_kept {s : Lgnome.Transition.Config Thread Answer Source}
    {tr : List (Turn Thread Answer Call × Unit)} (h : pipeline.Run tr s) : contract.Kept s :=
  Contract.kept_run intact_initial atRest_initial safe_program h

/-! ## The ring -/

/-- What is queued fits the ring, and the cursors say how much it is. -/
theorem Coherent.fill_eq {p : Producer} {c : Consumer} (h : Coherent p c) :
    (p.writeCursor - c.readCursor).toNat = p.sent.stored.length - c.taken.readAt := by
  have hfill := h.fill
  rw [h.write, h.read]
  refine cursor_sub h.read_le ?_
  simp only [pipelineCapacityFrames] at hfill
  omega

/-- At every moment of every interleaving the fill is within the capacity, the log of the reader
uses up the published frames one after the other, converts them as they were pushed and skips them
only up to a trim or a recorded boundary; and once a push on an open source has returned, what it
did not store is what it said it dropped. -/
theorem playout_ring {s : Lgnome.Transition.Config Thread Answer Source}
    {tr : List (Turn Thread Answer Call × Unit)} (h : pipeline.Run tr s) :
    s.shared.consumer.taken.readAt +
        (s.shared.producer.writeCursor - s.shared.consumer.readCursor).toNat =
      s.shared.producer.sent.stored.length ∧
    (s.shared.producer.writeCursor - s.shared.consumer.readCursor).toNat ≤
      pipelineCapacityFrames ∧
    (converted s.shared.consumer.taken.log).Sublist s.shared.producer.sent.frames ∧
    Chained s.shared.consumer.taken.log s.shared.consumer.taken.readAt ∧
    (∀ event ∈ s.shared.consumer.taken.log, event.Sound s.shared.producer.sent) ∧
    (s.running .producer = none →
      s.shared.producer.sent.frames = storedBy s.shared.producer.sent.pushes ∧
      ∀ push ∈ s.shared.producer.sent.pushes, push.dropped ≤ push.frames.length) := by
  have hkept := pipeline_kept h
  have hcoherent : Coherent s.shared.producer s.shared.consumer :=
    Intact.coherent hkept.inv
  have hread_le := hcoherent.read_le
  have hfill := hcoherent.fill
  refine ⟨?_, ?_, ?_, hcoherent.chained, hcoherent.sound, ?_⟩
  · rw [hcoherent.fill_eq]
    omega
  · rw [hcoherent.fill_eq]
    omega
  · exact (hcoherent.chained.sublist hcoherent.sound).trans (List.take_sublist _ _)
  · intro hrest
    have hstanding := hkept.standing .producer
    rw [hrest] at hstanding
    have hposted : Posted s.shared.producer := hstanding
    exact ⟨hposted.frames, hposted.dropped⟩

/-- `n` steps of a thread, each with the same answer. -/
def steps (thread : Thread) (n : Nat) (answer : Answer) : List (Turn Thread Answer Call) :=
  List.replicate n (.step thread answer)

/-- The samples `1, 2, 3, …`. -/
def countingSamples (i : Nat) : Int16 := Int16.ofNat (i + 1)

/-- A format is set and eight frames are pushed. -/
def openAndPush (rate : UInt32) : List (Turn Thread Answer Call) :=
  .call .producer (ProducerCall.setSourceFormat rate 2) :: steps .producer 12 {} ++
    .call .producer (ProducerCall.push countingSamples 8 0) :: steps .producer 20 {}

/-- A clock behind the last push and a converter that turns one frame into one. -/
def oneByOne : Answer := { nowMs := 100, consumed := 1, produced := 1 }

/-- Two formats with frames of each, and a read of two frames. -/
def switchAndRead : List (Turn Thread Answer Call) :=
  openAndPush 48000 ++ openAndPush 8000 ++
    .call .consumer (2 : Nat) :: steps .consumer 55 oneByOne

theorem switchAndRead_accepted : (pipeline.exec pipeline.init switchAndRead).isSome := by
  decide +kernel

def switched : Lgnome.Transition.Config Thread Answer Source :=
  ((pipeline.exec pipeline.init switchAndRead).get switchAndRead_accepted).1

/-- Of the frames of the second format two were converted, those of the first were skipped. -/
theorem playout_ring_switch :
    converted switched.shared.consumer.taken.log = [(1, 2), (3, 4)] ∧
      (converted switched.shared.consumer.taken.log).Sublist
        switched.shared.producer.sent.frames :=
  ⟨by decide +kernel,
    (playout_ring (Lgnome.Transition.Machine.run_of_exec switchAndRead
      switchAndRead_accepted)).2.2.1⟩

/-! ## The format -/

instance (sent : Sent) : DecidablePred (Event.AtRate sent)
  | .played start rate _ frames =>
    inferInstanceAs (Decidable (∀ x ∈ sent.segment start frames.length, x.rate = rate))
  | .skipped _ _ _ => .isTrue trivial
  | .output _ => .isTrue trivial

/-- Unless a check takes the generation for applied although the format has changed, every frame
is converted under the generation it was pushed under; and unless a check pairs the rate of one
call with the reset cursor of the call before, at the rate it was pushed under. -/
theorem format_consistent {s : Lgnome.Transition.Config Thread Answer Source}
    {tr : List (Turn Thread Answer Call × Unit)} (h : pipeline.Run tr s)
    (hwrapped : s.shared.consumer.taken.wrapped = false) :
    (∀ event ∈ s.shared.consumer.taken.log, event.InGeneration s.shared.producer.sent) ∧
      (s.shared.consumer.taken.torn = false →
        ∀ event ∈ s.shared.consumer.taken.log, event.AtRate s.shared.producer.sent) := by
  have htuned : Tuned s.shared.producer s.shared.consumer :=
    Intact.tuned (pipeline_kept h).inv
  exact ⟨htuned.inGeneration hwrapped, htuned.atRate hwrapped⟩

theorem format_consistent_switch :
    switched.shared.consumer.taken.wrapped = false ∧
      ∀ event ∈ switched.shared.consumer.taken.log,
        event.AtRate switched.shared.producer.sent :=
  ⟨by decide +kernel,
    (format_consistent (Lgnome.Transition.Machine.run_of_exec switchAndRead
      switchAndRead_accepted) (by decide +kernel)).2 (by decide +kernel)⟩

/-- The second call has stored its rate and not yet its reset cursor when the reader checks the
generation that the first call left. -/
def tornSchedule : List (Turn Thread Answer Call) :=
  openAndPush 48000 ++
    .call .producer (ProducerCall.setSourceFormat 8000 2) :: steps .producer 7 {} ++
    .call .consumer (1 : Nat) :: steps .consumer 39 oneByOne

theorem tornSchedule_accepted : (pipeline.exec pipeline.init tornSchedule).isSome := by
  decide +kernel

/-- A frame that was pushed at 48000 Hz is converted as one of 8000 Hz. -/
theorem torn_pair_converts :
    ¬ ∀ tr s, pipeline.Run tr s → ∀ event ∈ s.shared.consumer.taken.log,
      event.AtRate s.shared.producer.sent := by
  intro hall
  have hbad := hall _ _ (Lgnome.Transition.Machine.run_of_exec tornSchedule tornSchedule_accepted)
  revert hbad
  decide +kernel

end Lgnome.Audio
