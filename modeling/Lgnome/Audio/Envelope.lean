import Lgnome.Audio.SourceRead
import Lgnome.Transition.Noted

/-!
# The envelope of a source's playout

What can be heard of the reader is a list of marks: every frame it puts out with
its envelope, every trim, every return to live and every stop. The fade counters
of the reader follow these marks as long as no fade-out starts during a fade-in
and no source is given up during a fade-out.
-/
namespace Lgnome.Audio

open Lgnome.Transition (Config Machine Turn watchedParties)

/-- An action of the reader: the answer it was offered and the source it found. -/
structure Moment where
  answer : Answer
  source : Source

/-- What can be heard. A return to live carries what the reader did since the last frame. -/
inductive Mark
  | output (numerator : Nat) (live : Bool)
  | trim (live : Bool)
  | wentLive (looked : List Moment)
  | stopped

/-! ## What is read off one action -/

/-- The events an action of the reader adds to its ledger. -/
def fresh (s t : Consumer) : List Event := t.taken.log.drop s.taken.log.length

def Event.mark (live : Bool) : Event → Option Mark
  | .output numerator => some (.output numerator live)
  | .skipped .trim _ _ => some (.trim live)
  | _ => none

def Event.conversion (live : Bool) : Event → Option Bool
  | .played .. => some live
  | _ => none

def Event.isOutput : Event → Bool
  | .output _ => true
  | _ => false

/-- The source leaves off being live, or takes a new format or talkspurt. -/
def Stops (s t : Consumer) : Prop :=
  s.live = true ∧ t.live = false ∨ t.appliedGeneration ≠ s.appliedGeneration ∨
    t.seenTalkspurtGeneration ≠ s.seenTalkspurtGeneration

instance (s t : Consumer) : Decidable (Stops s t) := by
  unfold Stops
  infer_instance

/-- The marks of one action, newest first. -/
def newMarks (looked : List Moment) (s t : Consumer) : List Mark :=
  (if Stops s t then [.stopped] else []) ++
    (if s.live = false ∧ t.live = true then [.wentLive looked] else []) ++
    ((fresh s t).filterMap (Event.mark s.live)).reverse

/-- The action interrupts no fade. A fade-out starts only when at most the last frame of a fade-in
is left, and an action that takes a live source off and leaves its trim alone finds none pending. -/
def Clean (s t : Consumer) : Prop :=
  (s.trimAfterFade = false → t.trimAfterFade = true → s.fadeInRemaining ≤ 1) ∧
    (s.live = true → t.live = false → t.trimAfterFade = s.trimAfterFade → s.trimAfterFade = false)

instance (s t : Consumer) : Decidable (Clean s t) := by
  unfold Clean
  infer_instance

/-- The ledger beside the source: the marks, newest first; for every conversion whether the source
was live; the reader's actions since the last frame; and whether all actions were clean. -/
structure Watch where
  marks : List Mark := []
  conversions : List Bool := []
  looked : List Moment := []
  clean : Bool := true

def Watch.note (i : Answer) (s t : Source) (w : Watch) : Watch where
  marks := newMarks w.looked s.consumer t.consumer ++ w.marks
  conversions :=
    (fresh s.consumer t.consumer).filterMap (Event.conversion s.consumer.live) ++ w.conversions
  looked :=
    if (fresh s.consumer t.consumer).any Event.isOutput then [] else w.looked ++ [⟨i, s⟩]
  clean := w.clean && decide (Clean s.consumer t.consumer)

/-- Only the reader's actions are taken down. -/
def Thread.note : Thread → Answer → Source → Source → Watch → Watch
  | .producer => fun _ _ _ w => w
  | .consumer => Watch.note

/-- The two threads beside the ledger of the reader. -/
def watched : Machine (Config Thread Answer (Source × Watch)) (Turn Thread Answer Call) Unit :=
  watchedParties {} {} program Thread.note

/-! ## What is promised -/

def queuedMs (rate readCursor writeCursor : UInt32) : UInt32 :=
  if rate = 0 then 0
  else UInt32.ofNat
    (min (writeCursor - readCursor).toNat pipelineCapacityFrames * 1000 / rate.toNat)

/-- The reader has looked at the clock, measured the queue and the target and looked up the last
push, in this order, and the queue has reached the target or is not empty and stale. -/
def Ready (looked : List Moment) : Prop :=
  ∃ clock rate read write target push : Moment,
    [clock, rate, read, write, target, push].Sublist looked ∧
    (target.source.targetDelayMs ≤ queuedMs rate.source.producer.pendingSampleRate
        read.source.consumer.readCursor write.source.producer.writeCursor ∨
      0 < queuedMs rate.source.producer.pendingSampleRate
        read.source.consumer.readCursor write.source.producer.writeCursor ∧
      staleBurstMs ≤ clock.answer.nowMs - push.source.producer.lastPushMs)

/-- The number of frames since the last trim or return to live, unless the source has stopped. -/
def sinceStart : List Mark → Option Nat
  | [] => none
  | .output _ _ :: marks => (sinceStart marks).map (· + 1)
  | .trim _ :: _ => some 0
  | .wentLive _ :: _ => some 0
  | .stopped :: _ => none

/-- The envelope of the last frame of a source that has been live ever since. -/
def lastLive : List Mark → Option Nat
  | .output numerator true :: _ => some numerator
  | .trim true :: marks => lastLive marks
  | _ => none

/-- The frames of a fade-out that has `left` frames to go, newest first. -/
def fadeOutTo (left : Nat) : List Mark :=
  (List.range (fadeFrames - left)).map fun k => .output (left + k + 1) true

/-- What a mark has to meet after the earlier ones. A frame belongs to the fade-in after a trim or
a return to live, and is one step at most from the frame before. A live source is trimmed right
after a whole fade-out. -/
def Allowed (earlier : List Mark) : Mark → Prop
  | .output numerator live =>
    (∀ k, sinceStart earlier = some k → k < fadeFrames → numerator = k + 1) ∧
      (live = true → ∀ last, lastLive earlier = some last →
        numerator ≤ last + 1 ∧ last ≤ numerator + 1)
  | .trim true => earlier.take fadeFrames = fadeOutTo 0
  | .trim false => True
  | .wentLive _ => True
  | .stopped => True

def Smooth (marks : List Mark) : Prop :=
  ∀ later mark earlier, marks = later ++ mark :: earlier → Allowed earlier mark

theorem Smooth.nil : Smooth [] := by
  intro later mark earlier h
  simp at h

theorem Smooth.cons {mark : Mark} {marks : List Mark} (h : Smooth marks)
    (hmark : Allowed marks mark) : Smooth (mark :: marks) := by
  intro later m earlier heq
  cases later with
  | nil =>
    obtain ⟨rfl, rfl⟩ := List.cons.inj heq
    exact hmark
  | cons first later => exact h later m earlier (List.cons.inj heq).2

/-- Everything the ledger is to show. -/
structure Heard (w : Watch) : Prop where
  converted : ∀ live ∈ w.conversions, live = true
  ready : ∀ looked, .wentLive looked ∈ w.marks → Ready looked
  smooth : w.clean = true → Smooth w.marks

/-! ## The fade counters follow the marks -/

/-- The envelope of the next frame. -/
def Consumer.numerator (c : Consumer) : Nat :=
  if 0 < c.fadeOutRemaining then c.fadeOutRemaining
  else if 0 < c.fadeInRemaining then fadeFrames - c.fadeInRemaining + 1
  else fadeFrames

/-- The reader's flags and counters agree with the marks. -/
structure Sound (c : Consumer) (marks : List Mark) : Prop where
  rebuffering : c.rebuffering = !c.live
  fadeOut_le : c.fadeOutRemaining ≤ fadeFrames
  fadeIn_le : c.fadeInRemaining ≤ fadeFrames
  fading : 0 < c.fadeOutRemaining → c.trimAfterFade = true
  idle : c.live = false → c.trimAfterFade = false
  rising : ∀ k, sinceStart marks = some k → k < fadeFrames → c.numerator = k + 1 ∧
    (c.trimAfterFade = true → k + 1 = fadeFrames ∧ 0 < c.fadeOutRemaining)
  falling : c.trimAfterFade = true → c.fadeInRemaining = 0 ∧
    marks.take (fadeFrames - c.fadeOutRemaining) = fadeOutTo c.fadeOutRemaining
  level : (c.trimAfterFade = true → 0 < c.fadeOutRemaining) → ∀ last, lastLive marks = some last →
    c.numerator ≤ last + 1 ∧ last ≤ c.numerator + 1

/-- No fade and no trim is under way, and the source is not live. -/
structure Cleared (c : Consumer) : Prop where
  live : c.live = false
  rebuffering : c.rebuffering = true
  trimAfterFade : c.trimAfterFade = false
  fadeOut : c.fadeOutRemaining = 0
  fadeIn : c.fadeInRemaining = 0

/-- The two agree in all that the envelope and the stops depend on. -/
structure SameFades (c c' : Consumer) : Prop where
  applied : c'.appliedGeneration = c.appliedGeneration
  seen : c'.seenTalkspurtGeneration = c.seenTalkspurtGeneration
  live : c'.live = c.live
  rebuffering : c'.rebuffering = c.rebuffering
  trimAfterFade : c'.trimAfterFade = c.trimAfterFade
  fadeOut : c'.fadeOutRemaining = c.fadeOutRemaining
  fadeIn : c'.fadeInRemaining = c.fadeInRemaining

theorem fadeFrames_pos : 0 < fadeFrames := by decide

variable {c c' : Consumer} {marks : List Mark}

theorem SameFades.refl (c : Consumer) : SameFades c c := ⟨rfl, rfl, rfl, rfl, rfl, rfl, rfl⟩

theorem SameFades.trans {c'' : Consumer} (h : SameFades c c') (h' : SameFades c' c'') :
    SameFades c c'' :=
  ⟨h'.applied.trans h.applied, h'.seen.trans h.seen, h'.live.trans h.live,
    h'.rebuffering.trans h.rebuffering, h'.trimAfterFade.trans h.trimAfterFade,
    h'.fadeOut.trans h.fadeOut, h'.fadeIn.trans h.fadeIn⟩

theorem SameFades.numerator (h : SameFades c c') : c'.numerator = c.numerator := by
  simp only [Consumer.numerator, h.fadeOut, h.fadeIn]

theorem Cleared.same (h : Cleared c) (hsame : SameFades c c') : Cleared c' :=
  ⟨hsame.live.trans h.live, hsame.rebuffering.trans h.rebuffering,
    hsame.trimAfterFade.trans h.trimAfterFade, hsame.fadeOut.trans h.fadeOut,
    hsame.fadeIn.trans h.fadeIn⟩

theorem Sound.same (h : Sound c marks) (hsame : SameFades c c') : Sound c' marks where
  rebuffering := by
    rw [hsame.rebuffering, hsame.live]
    exact h.rebuffering
  fadeOut_le := hsame.fadeOut ▸ h.fadeOut_le
  fadeIn_le := hsame.fadeIn ▸ h.fadeIn_le
  fading := by
    rw [hsame.fadeOut, hsame.trimAfterFade]
    exact h.fading
  idle := by
    rw [hsame.live, hsame.trimAfterFade]
    exact h.idle
  rising := by
    rw [hsame.numerator, hsame.trimAfterFade, hsame.fadeOut]
    exact h.rising
  falling := by
    rw [hsame.trimAfterFade, hsame.fadeIn, hsame.fadeOut]
    exact h.falling
  level := by
    rw [hsame.trimAfterFade, hsame.fadeOut, hsame.numerator]
    exact h.level

/-- A source at rest agrees with marks that ask for no fade. -/
theorem Sound.of_cleared (h : Cleared c) (hstart : sinceStart marks = none)
    (hlast : lastLive marks = none) : Sound c marks where
  rebuffering := by rw [h.rebuffering, h.live]; rfl
  fadeOut_le := by rw [h.fadeOut]; exact Nat.zero_le _
  fadeIn_le := by rw [h.fadeIn]; exact Nat.zero_le _
  fading hpos := absurd (h.fadeOut ▸ hpos) (Nat.lt_irrefl 0)
  idle _ := h.trimAfterFade
  rising k hk := by rw [hstart] at hk; cases hk
  falling hdue := by rw [h.trimAfterFade] at hdue; cases hdue
  level _ last hl := by rw [hlast] at hl; cases hl

theorem Sound.stopped (h : Cleared c) : Sound c (.stopped :: marks) := .of_cleared h rfl rfl

/-- A live source that is given up while no fade-out is under way. -/
theorem Sound.unavailable (h : Sound c marks) (htrim : c.trimAfterFade = false) :
    Sound { c with live := false, rebuffering := true } (.stopped :: marks) where
  rebuffering := rfl
  fadeOut_le := h.fadeOut_le
  fadeIn_le := h.fadeIn_le
  fading := h.fading
  idle _ := htrim
  rising _ hk := by cases hk
  falling hdue := by
    have hdue' : c.trimAfterFade = true := hdue
    rw [htrim] at hdue'
    cases hdue'
  level _ _ hl := by cases hl

/-- No fade-out is under way where none is to lead to a trim. -/
theorem Sound.fadeOut_zero (h : Sound c marks) (htrim : c.trimAfterFade = false) :
    c.fadeOutRemaining = 0 := by
  by_contra hne
  have := h.fading (Nat.pos_of_ne_zero hne)
  rw [htrim] at this
  cases this

/-- A fade-in starts at the lowest step. -/
theorem numerator_fadeIn {c : Consumer} (hout : c.fadeOutRemaining = 0)
    {live rebuffering trimAfterFade : Bool} :
    Consumer.numerator { c with rebuffering, live, trimAfterFade, fadeInRemaining := fadeFrames } =
      1 := by
  simp only [Consumer.numerator, hout, Nat.lt_irrefl, if_false, if_pos fadeFrames_pos]
  omega

/-- A fade-in starts while no fade-out is under way. -/
theorem Sound.fadeIn (mark : Mark) (live : Bool) (h : Sound c marks)
    (htrim : c.trimAfterFade = false) (hstart : sinceStart (mark :: marks) = some 0)
    (hlast : ∀ last, lastLive (mark :: marks) = some last → last ≤ 2) :
    Sound { c with rebuffering := !live, live, fadeInRemaining := fadeFrames }
      (mark :: marks) where
  rebuffering := rfl
  fadeOut_le := h.fadeOut_le
  fadeIn_le := Nat.le_refl _
  fading := h.fading
  idle _ := htrim
  rising k hk _ := by
    rw [hstart] at hk
    obtain rfl := Option.some.inj hk
    refine ⟨numerator_fadeIn (h.fadeOut_zero htrim), ?_⟩
    intro hdue
    have hdue' : c.trimAfterFade = true := hdue
    rw [htrim] at hdue'
    cases hdue'
  falling hdue := by
    have hdue' : c.trimAfterFade = true := hdue
    rw [htrim] at hdue'
    cases hdue'
  level _ last hl := by
    have hle := hlast last hl
    rw [numerator_fadeIn (h.fadeOut_zero htrim)]
    omega

theorem Sound.wentLive (looked : List Moment) (h : Sound c marks) (hlive : c.live = false) :
    Sound { c with rebuffering := false, live := true, fadeInRemaining := fadeFrames }
      (.wentLive looked :: marks) :=
  h.fadeIn (.wentLive looked) true (h.idle hlive) rfl fun _ hl => by cases hl

theorem Sound.trimmedIdle (h : Sound c marks) (hlive : c.live = false) :
    Sound { c with fadeInRemaining := fadeFrames } (.trim false :: marks) := by
  have hsound := h.fadeIn (.trim false) false (h.idle hlive) rfl fun _ hl => by cases hl
  have hreb := h.rebuffering
  rw [hlive] at hreb
  exact hsound.same ⟨rfl, rfl, hlive, hreb, rfl, rfl, rfl⟩

/-- The last frame of a fade-in is at the highest step already. -/
theorem numerator_full (hout : c.fadeOutRemaining = 0) (hin : c.fadeInRemaining ≤ 1) :
    c.numerator = fadeFrames := by
  have hpos := fadeFrames_pos
  simp only [Consumer.numerator, hout, Nat.lt_irrefl, if_false]
  split
  · omega
  · rfl

theorem Sound.startFadeOut (h : Sound c marks) (hlive : c.live = true)
    (htrim : c.trimAfterFade = false) (hin : c.fadeInRemaining ≤ 1) :
    Sound { c with trimAfterFade := true, fadeOutRemaining := fadeFrames, fadeInRemaining := 0 }
      marks where
  rebuffering := h.rebuffering
  fadeOut_le := Nat.le_refl _
  fadeIn_le := Nat.zero_le _
  fading _ := rfl
  idle hidle := by
    have hidle' : c.live = false := hidle
    rw [hlive] at hidle'
    cases hidle'
  rising k hk hlt := by
    have hnum := (h.rising k hk hlt).1
    rw [numerator_full (h.fadeOut_zero htrim) hin] at hnum
    exact ⟨(if_pos fadeFrames_pos).trans hnum, fun _ => ⟨hnum.symm, fadeFrames_pos⟩⟩
  falling _ := ⟨rfl, by simp [fadeOutTo]⟩
  level _ last hl := by
    have hlevel := h.level (fun hdue => by rw [htrim] at hdue; cases hdue) last hl
    rw [numerator_full (h.fadeOut_zero htrim) hin] at hlevel
    simp only [Consumer.numerator, if_pos fadeFrames_pos]
    exact hlevel

/-! ## Fade-outs -/

theorem fadeOutTo_pred (left : Nat) (hpos : 0 < left) (hle : left ≤ fadeFrames) :
    fadeOutTo (left - 1) = .output left true :: fadeOutTo left := by
  have hlen : fadeFrames - (left - 1) = fadeFrames - left + 1 := by omega
  simp only [fadeOutTo, hlen, List.range_succ_eq_map, List.map_cons, List.map_map]
  congr 2
  · omega
  · funext k
    simp only [Function.comp]
    congr 1
    omega

/-- The last frame of a whole fade-out. -/
theorem lastLive_fadedOut (h : marks.take fadeFrames = fadeOutTo 0) : lastLive marks = some 1 := by
  have hone := fadeOutTo_pred 1 Nat.one_pos fadeFrames_pos
  rw [Nat.sub_self] at hone
  rw [hone] at h
  cases marks with
  | nil => simp at h
  | cons mark rest =>
    obtain ⟨n, hn⟩ := Nat.exists_eq_add_one_of_ne_zero (Nat.pos_iff_ne_zero.mp fadeFrames_pos)
    rw [hn, List.take_succ_cons] at h
    rw [(List.cons.inj h).1]
    rfl

/-- The fade-out that leads to a trim has been put out whole when it is over. -/
theorem Sound.fadedOut (h : Sound c marks) (hdue : c.trimAfterFade = true)
    (hout : c.fadeOutRemaining = 0) : marks.take fadeFrames = fadeOutTo 0 := by
  have hfall := (h.falling hdue).2
  rwa [hout, Nat.sub_zero] at hfall

theorem Sound.finishTrim (h : Sound c marks) (hdue : c.trimAfterFade = true)
    (hout : c.fadeOutRemaining = 0) :
    Sound { c with trimAfterFade := false, fadeInRemaining := fadeFrames } marks where
  rebuffering := h.rebuffering
  fadeOut_le := h.fadeOut_le
  fadeIn_le := Nat.le_refl _
  fading hpos := absurd (hout ▸ hpos : 0 < 0) (Nat.lt_irrefl 0)
  idle _ := rfl
  rising k hk hlt := by
    have hpos := ((h.rising k hk hlt).2 hdue).2
    omega
  falling hfalse := by cases hfalse
  level _ last hl := by
    rw [lastLive_fadedOut (h.fadedOut hdue hout)] at hl
    obtain rfl := Option.some.inj hl
    rw [numerator_fadeIn hout]
    omega

theorem Sound.finishTrimmed (h : Sound c marks) (hdue : c.trimAfterFade = true)
    (hout : c.fadeOutRemaining = 0) :
    Sound { c with trimAfterFade := false, fadeInRemaining := fadeFrames }
      (.trim true :: marks) := by
  have hplain := h.finishTrim hdue hout
  refine { hplain with
    rising := ?_
    falling := fun hfalse => by cases hfalse
    level := hplain.level }
  intro k hk _
  obtain rfl := Option.some.inj hk
  exact ⟨numerator_fadeIn hout, fun hfalse => by cases hfalse⟩

/-! ## One frame -/

def Consumer.faded (c : Consumer) : Consumer :=
  if 0 < c.fadeOutRemaining then { c with fadeOutRemaining := c.fadeOutRemaining - 1 }
  else if 0 < c.fadeInRemaining then { c with fadeInRemaining := c.fadeInRemaining - 1 }
  else c

theorem Sound.allowed (h : Sound c marks) (hdue : c.trimAfterFade = true → 0 < c.fadeOutRemaining) :
    Allowed marks (.output c.numerator c.live) := by
  exact ⟨fun k hk hlt => (h.rising k hk hlt).1, fun _ => h.level hdue⟩

/-- The frame's envelope is remembered by the counters. -/
theorem Sound.output (h : Sound c marks) (hdue : c.trimAfterFade = true → 0 < c.fadeOutRemaining) :
    Sound c.faded (.output c.numerator c.live :: marks) := by
  have hstart : ∀ k, sinceStart (.output c.numerator c.live :: marks) = some k → k < fadeFrames →
      k = c.numerator ∧ c.trimAfterFade = false := by
    intro k hk hlt
    obtain ⟨j, hj, rfl⟩ := Option.map_eq_some_iff.mp hk
    obtain ⟨hnum, hlast⟩ := h.rising j hj (by omega)
    refine ⟨hnum.symm, ?_⟩
    cases htrim : c.trimAfterFade with
    | false => rfl
    | true =>
      have := (hlast htrim).1
      omega
  have hlast : ∀ last, lastLive (.output c.numerator c.live :: marks) = some last →
      last = c.numerator := by
    intro last hl
    cases hlive : c.live with
    | false => rw [hlive] at hl; cases hl
    | true => rw [hlive] at hl; exact (Option.some.inj hl).symm
  unfold Consumer.faded
  split
  · rename_i hpos
    have htrim := h.fading hpos
    have hle := h.fadeOut_le
    have hnum : c.numerator = c.fadeOutRemaining := by rw [Consumer.numerator, if_pos hpos]
    have hlive : c.live = true := by
      cases hl : c.live with
      | false => rw [h.idle hl] at htrim; cases htrim
      | true => rfl
    refine ⟨h.rebuffering, by dsimp only; omega, h.fadeIn_le, fun _ => htrim, h.idle, ?_, ?_, ?_⟩
    · intro k hk hlt
      have hfalse := (hstart k hk hlt).2
      rw [htrim] at hfalse
      cases hfalse
    · intro _
      obtain ⟨hin, htake⟩ := h.falling htrim
      refine ⟨hin, ?_⟩
      have hlen : fadeFrames - (c.fadeOutRemaining - 1) = fadeFrames - c.fadeOutRemaining + 1 := by
        omega
      dsimp only
      rw [hlen, List.take_succ_cons, htake, fadeOutTo_pred _ hpos hle, hnum, hlive]
    · intro hdue' last hl
      have hpos' : 0 < c.fadeOutRemaining - 1 := hdue' htrim
      rw [hlast last hl, hnum]
      simp only [Consumer.numerator, if_pos hpos']
      omega
  · rename_i hout
    have hzero : c.fadeOutRemaining = 0 := by omega
    have htrim : c.trimAfterFade = false := by
      cases ht : c.trimAfterFade with
      | false => rfl
      | true => exact absurd (hdue ht) hout
    split
    · rename_i hin
      have hle := h.fadeIn_le
      have hnum : c.numerator = fadeFrames - c.fadeInRemaining + 1 := by
        rw [Consumer.numerator, if_neg hout, if_pos hin]
      refine ⟨h.rebuffering, h.fadeOut_le, by dsimp only; omega, h.fading, h.idle, ?_, ?_, ?_⟩
      · intro k hk hlt
        have hk' := (hstart k hk hlt).1
        have hnext : 0 < c.fadeInRemaining - 1 := by omega
        refine ⟨?_, fun hdue' => absurd (hdue' : c.trimAfterFade = true) (by rw [htrim]; decide)⟩
        simp only [Consumer.numerator, if_neg hout, if_pos hnext]
        omega
      · intro hdue'
        have hdue'' : c.trimAfterFade = true := hdue'
        rw [htrim] at hdue''
        cases hdue''
      · intro _ last hl
        rw [hlast last hl, hnum]
        simp only [Consumer.numerator, if_neg hout]
        split
        · omega
        · omega
    · rename_i hin
      have hnum : c.numerator = fadeFrames := by
        rw [Consumer.numerator, if_neg hout, if_neg hin]
      refine ⟨h.rebuffering, h.fadeOut_le, h.fadeIn_le, h.fading, h.idle, ?_, ?_, ?_⟩
      · intro k hk hlt
        have := (hstart k hk hlt).1
        omega
      · intro hdue'
        rw [htrim] at hdue'
        cases hdue'
      · intro _ last hl
        rw [hlast last hl]
        exact ⟨Nat.le_succ _, Nat.le_succ _⟩

end Lgnome.Audio
