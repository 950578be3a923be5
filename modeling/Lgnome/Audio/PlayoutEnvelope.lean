import Lgnome.Audio.EnvelopeRead

/-!
# The envelope over whole runs

Reads of any size between pushes, format changes and closes, in every order of
their single actions. Frames are converted while the source is live, and it goes
live on a full or a stale queue. The fades are whole and smooth as long as no
action interrupts one. A trim that comes due during a fade-in interrupts it.
-/
namespace Lgnome.Audio

open Lgnome.Transition (Prog Contract Config Machine Turn)
open Lgnome.Transition.Contract (Safe safe_of_keeps)

/-! ## The producer -/

/-- The producer leaves the reader alone and sets no rate of zero. -/
structure Aside (s t : Source) : Prop where
  consumer : t.consumer = s.consumer
  rate : s.producer.pendingSampleRate ≠ 0 → t.producer.pendingSampleRate ≠ 0

theorem Aside.refl (s : Source) : Aside s s := ⟨rfl, id⟩

theorem aside_raiseTarget (s : Source) (desiredMs : UInt32) :
    Aside s (s.raiseTarget desiredMs) := by
  unfold Source.raiseTarget
  dsimp only
  split
  · exact ⟨rfl, id⟩
  · exact .refl s

theorem aside_decayTarget (s : Source) (expected targetMs : UInt32) :
    Aside s (s.decayTarget expected targetMs) := by
  unfold Source.decayTarget
  split
  · exact ⟨rfl, id⟩
  · exact .refl s

theorem keeps_setSourceFormat (sampleRate : UInt32) (channels : UInt16) :
    (setSourceFormat sampleRate channels).Keeps Aside := by
  unfold setSourceFormat
  split
  · trivial
  · rename_i hvalid
    have hrate : sampleRate ≠ 0 := by
      rintro rfl
      exact hvalid (.inl (by decide))
    apply Prog.Keeps.bind (.store fun s => ⟨rfl, id⟩)
    intro _
    apply Prog.Keeps.bind (.load Aside.refl _)
    intro underruns
    apply Prog.Keeps.bind (.ask Aside.refl _)
    intro nowMs
    apply Prog.Keeps.bind (.store fun s => ⟨rfl, id⟩)
    intro _
    apply Prog.Keeps.bind (.store fun s => ⟨rfl, id⟩)
    intro _
    apply Prog.Keeps.bind (.load Aside.refl _)
    intro boundary
    apply Prog.Keeps.bind (.store fun s => ⟨rfl, fun _ => hrate⟩)
    intro _
    apply Prog.Keeps.bind (.store fun s => ⟨rfl, id⟩)
    intro _
    apply Prog.Keeps.bind (.store fun s => ⟨rfl, id⟩)
    intro _
    apply Prog.Keeps.bind (.store fun s => ⟨rfl, id⟩)
    intro _
    apply Prog.Keeps.bind (.store fun s => ⟨rfl, id⟩)
    intro _
    trivial

theorem keeps_closeSource : closeSource.Keeps Aside := by
  apply Prog.Keeps.bind (.store fun s => ⟨rfl, id⟩)
  intro _
  apply Prog.Keeps.bind (.load Aside.refl _)
  intro boundary
  apply Prog.Keeps.bind (.store fun s => ⟨rfl, id⟩)
  intro _
  apply Prog.Keeps.bind (.store fun s => ⟨rfl, id⟩)
  intro _
  exact .store fun s => ⟨rfl, id⟩

theorem aside_updateJitter (s : Source) (call : Jitter.Call) : Aside s (s.updateJitter call).2 :=
  ⟨rfl, id⟩

theorem keeps_adjustTarget (target : UInt32) (update : Jitter.NativeAudioJitterUpdate) :
    (adjustTarget target update).Keeps Aside := by
  unfold adjustTarget
  split
  · trivial
  · exact .store fun s => ⟨rfl, id⟩
  · exact .store fun s => aside_raiseTarget s _
  · exact .store fun s => aside_decayTarget s _ _

theorem keeps_updateArrivalController (frames : Nat) (timestampMs nowMs write : UInt32) :
    (updateArrivalController frames timestampMs nowMs write).Keeps Aside := by
  apply Prog.Keeps.bind (.load Aside.refl _)
  intro target
  apply Prog.Keeps.bind (.load Aside.refl _)
  intro underruns
  apply Prog.Keeps.bind
  · intro _ s
    exact ⟨aside_updateJitter s _, trivial⟩
  · intro update
    apply Prog.Keeps.bind (keeps_adjustTarget target update)
    intro _
    apply Prog.Keeps.when
    apply Prog.Keeps.bind (.store fun s => ⟨rfl, id⟩)
    intro _
    exact .store fun s => ⟨rfl, id⟩

theorem keeps_copyFrames (frames : List Frame) (pos : UInt32) :
    (copyFrames frames pos).Keeps Aside := by
  induction frames generalizing pos with
  | nil => trivial
  | cons frame rest ih =>
    apply Prog.Keeps.bind (.store fun s => ⟨rfl, id⟩)
    intro _
    exact ih (pos + 1)

theorem keeps_publish (write nowMs : UInt32) (input : List Frame) (toWrite : Nat) :
    (publish write nowMs input toWrite).Keeps Aside := by
  apply Prog.Keeps.bind (.when (.store fun s => ⟨rfl, id⟩))
  intro _
  apply Prog.Keeps.bind (keeps_copyFrames _ _)
  intro _
  apply Prog.Keeps.bind
  · apply Prog.Keeps.when
    apply Prog.Keeps.bind (.store fun s => ⟨rfl, id⟩)
    intro _
    exact .store fun s => ⟨rfl, id⟩
  · intro _
    trivial

theorem keeps_push (samples : Nat → Int16) (frames : Nat) (timestampMs : UInt32) :
    (push samples frames timestampMs).Keeps Aside := by
  unfold push
  split
  · trivial
  · apply Prog.Keeps.bind (.load Aside.refl _)
    intro source
    split
    · trivial
    · apply Prog.Keeps.bind (.ask Aside.refl _)
      intro nowMs
      apply Prog.Keeps.bind (.load Aside.refl _)
      intro write
      apply Prog.Keeps.bind (keeps_updateArrivalController frames timestampMs nowMs write)
      intro _
      apply Prog.Keeps.bind (.load Aside.refl _)
      intro readAt
      exact keeps_publish _ _ _ _

theorem keeps_producerCall (call : ProducerCall) : call.program.Keeps Aside := by
  cases call with
  | setSourceFormat sampleRate channels =>
    apply Prog.Keeps.bind (keeps_setSourceFormat sampleRate channels)
    intro _
    trivial
  | close => exact keeps_closeSource
  | push samples frames timestampMs =>
    apply Prog.Keeps.bind (.load Aside.refl _)
    intro source
    apply Prog.Keeps.bind (keeps_push samples frames timestampMs)
    intro dropped
    exact .when (.store fun s => ⟨rfl, id⟩)

/-! ## Every run -/

theorem heard_empty : Heard {} :=
  ⟨fun _ h => absurd h List.not_mem_nil, fun _ h => absurd h List.not_mem_nil, fun _ => .nil⟩

theorem sound_init : Sound {} [] :=
  .of_cleared ⟨rfl, rfl, rfl, rfl, rfl⟩ rfl rfl

theorem watched_safe (thread : Thread) (call : Call thread) (x : Source × Watch)
    (_ : watchContract.inv x) (hrest : watchContract.rest thread x) :
    watchContract.Safe thread ((program thread call).noted thread.note)
      (fun _ => watchContract.rest thread) x := by
  cases thread with
  | producer =>
    refine (safe_of_keeps (C := watchContract) (p := .producer) (A := fun _ => True)
      (fun _ _ _ _ _ => trivial) ?_ ((keeps_producerCall call).noted (Thread.note .producer))
      trivial)
    rintro ⟨s, w⟩ ⟨t, w'⟩ ⟨hst, _, hw⟩ ⟨hrate, hheard⟩ -
    have hsame : w' = w := hw
    subst hsame
    exact ⟨⟨hst.rate hrate, hheard⟩, ⟨hst.consumer, rfl⟩, trivial⟩
  | consumer => exact reader_sourceRead hrest

theorem watched_kept {s : Config Thread Answer (Source × Watch)}
    {tr : List (Turn Thread Answer Call × Unit)} (h : watched.Run tr s) : watchContract.Kept s := by
  apply Contract.kept_run ?_ ?_ watched_safe h
  · exact ⟨by decide, heard_empty⟩
  · intro thread
    cases thread with
    | producer => trivial
    | consumer => exact ⟨rfl, fun _ => sound_init⟩

/-- Every run of the two threads is a run beside the ledger. -/
theorem watched_of_pipeline {s : Config Thread Answer Source}
    {tr : List (Turn Thread Answer Call × Unit)} (h : pipeline.Run tr s) :
    ∃ w, watched.Run tr (s.noted Thread.note w) :=
  Lgnome.Transition.run_noted h

/-- In every run, frames of the ring are converted while the source is live, and it goes live on a
queue that was measured to have reached the target, or not to be empty with the last push long
ago. As long as all actions have been clean, every trim of a live source comes right after a whole
fade-out, a fade-in follows every trim and every return to live, and two frames in a row of a live
source are one step apart at most. -/
theorem playout_envelope {s : Config Thread Answer (Source × Watch)}
    {tr : List (Turn Thread Answer Call × Unit)} (h : watched.Run tr s) :
    (∀ live ∈ s.shared.2.conversions, live = true) ∧
      (∀ looked, .wentLive looked ∈ s.shared.2.marks → Ready looked) ∧
      (s.shared.2.clean = true → Smooth s.shared.2.marks) := by
  obtain ⟨-, hheard⟩ := (watched_kept h).inv
  exact ⟨hheard.converted, hheard.ready, hheard.smooth⟩

/-! ## A fade-in that is cut short -/

/-- Two frames in a row of a live source more than one step apart, at the end. -/
def endsInClick : List Mark → Bool
  | .output numerator true :: .output last true :: _ => decide (last + 1 < numerator)
  | _ => false

theorem not_smooth_of_click {marks : List Mark} (h : endsInClick marks = true) :
    ¬ Smooth marks := by
  intro hsmooth
  unfold endsInClick at h
  split at h
  · rename_i numerator last rest
    have hlevel := (hsmooth [] _ _ rfl).2 rfl last rfl
    have hclick := of_decide_eq_true h
    omega
  · cases h

/-- The source takes mono frames at 8 kHz, goes live on eight of them that are 100 ms old and is
read for six frames. -/
def wentLiveActions : List (Turn Thread Answer Call) :=
  .call .producer (.setSourceFormat 8000 1) :: List.replicate 12 (.step .producer {}) ++
    .call .producer (.push (fun _ => 0) 8 0) :: List.replicate 20 (.step .producer {}) ++
    .call .consumer (6 : Nat) ::
      List.replicate 44 (.step .consumer { nowMs := 100, consumed := 1, produced := 6 })

/-- A block of 20 ms that arrives 101 ms after the first. -/
def lateBlock (n : Nat) : List (Turn Thread Answer Call) :=
  .call .producer (.push (fun _ => 0) 160 0) :: List.replicate n (.step .producer { nowMs := 101 })

/-- Then twenty blocks arrive at once, and the next frame is read. -/
def clickActions : List (Turn Thread Answer Call) :=
  wentLiveActions ++ lateBlock 173 ++ (List.replicate 19 (lateBlock 172)).flatten ++
    .call .consumer (1 : Nat) :: List.replicate 33 (.step .consumer { nowMs := 102, produced := 1 })

theorem playout_envelope_live :
    ∃ tr s, watched.Run tr s ∧ s.shared.2.clean = true ∧ s.shared.2.marks.length = 8 ∧
      (∀ live ∈ s.shared.2.conversions, live = true) ∧
      (∀ looked, .wentLive looked ∈ s.shared.2.marks → Ready looked) ∧ Smooth s.shared.2.marks := by
  have hrun := Machine.run_of_exec (M := watched) wentLiveActions (by decide +kernel)
  obtain ⟨hconverted, hready, hsmooth⟩ := playout_envelope hrun
  exact ⟨_, _, hrun, by decide +kernel, by decide +kernel, hconverted, hready,
    hsmooth (by decide +kernel)⟩

theorem playout_click : ¬ ∀ (s : Config Thread Answer (Source × Watch))
    (tr : List (Turn Thread Answer Call × Unit)), watched.Run tr s →
    (∀ live ∈ s.shared.2.conversions, live = true) ∧
      (∀ looked, .wentLive looked ∈ s.shared.2.marks → Ready looked) ∧
      Smooth s.shared.2.marks := by
  intro h
  have hrun := Machine.run_of_exec (M := watched) clickActions (by decide +kernel)
  exact not_smooth_of_click (by decide +kernel) (h _ _ hrun).2.2

end Lgnome.Audio
