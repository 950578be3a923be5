import Lgnome.Audio.RingContract

/-!
# The producer keeps the ring

A push writes only cells behind the reader's window and publishes them with one
store; a change of the format or a talkspurt stores its boundary before it bumps
its generation.
-/
namespace Lgnome.Audio

open Lgnome.Transition (Prog)
open Lgnome.Transition.Contract (Safe)

/-- What a store of the producer has to leave. -/
structure Leaves (s t : Source) : Prop where
  intact : Intact t
  moves : ProducerMoves s t

/-! ## Stores that publish no frame -/

theorem leaves_target {s : Source} (h : Intact s) (targetMs : UInt32) :
    Leaves s (s.storeTarget targetMs) :=
  ⟨⟨{ h.coherent with }, { h.tuned with }⟩, { ProducerMoves.refl s with }⟩

theorem leaves_trimRequested {s : Source} (h : Intact s) (requested : Bool) :
    Leaves s (s.storeTrimRequested requested) :=
  ⟨⟨{ h.coherent with }, { h.tuned with }⟩, { ProducerMoves.refl s with }⟩

theorem leaves_producerFormat {s : Source} (h : Intact s) (rate : UInt32) (channels : UInt16) :
    Leaves s (s.setProducerFormat rate channels) :=
  ⟨⟨{ h.coherent with }, { h.tuned with }⟩, { ProducerMoves.refl s with }⟩

theorem leaves_resetJitter {s : Source} (h : Intact s) (nowMs underruns : UInt32) :
    Leaves s (s.resetJitter nowMs underruns) :=
  ⟨⟨{ h.coherent with }, { h.tuned with }⟩, { ProducerMoves.refl s with }⟩

theorem leaves_updateJitter {s : Source} (h : Intact s) (call : Jitter.Call) :
    Leaves s (s.updateJitter call).2 :=
  ⟨⟨{ h.coherent with }, { h.tuned with }⟩, { ProducerMoves.refl s with }⟩

theorem leaves_markDiscontinuity {s : Source} (h : Intact s) : Leaves s s.markDiscontinuity :=
  ⟨⟨{ h.coherent with }, { h.tuned with }⟩, { ProducerMoves.refl s with }⟩

theorem leaves_pendingChannels {s : Source} (h : Intact s) (channels : UInt32) :
    Leaves s (s.storePendingChannels channels) :=
  ⟨⟨{ h.coherent with }, { h.tuned with }⟩, { ProducerMoves.refl s with }⟩

theorem leaves_open {s : Source} (h : Intact s) (opened : Bool) :
    Leaves s (s.storeOpen opened) :=
  ⟨⟨{ h.coherent with }, { h.tuned with }⟩, { ProducerMoves.refl s with }⟩

theorem leaves_lastPush {s : Source} (h : Intact s) (nowMs : UInt32) :
    Leaves s (s.storeLastPush nowMs) :=
  ⟨⟨{ h.coherent with }, { h.tuned with }⟩, { ProducerMoves.refl s with }⟩

/-- The log stays right when the producer's ledger grows. -/
structure LogKept (sent : Sent) (c : Consumer) : Prop where
  sound : ∀ event ∈ c.taken.log, event.Sound sent
  inGeneration : c.taken.wrapped = false → ∀ event ∈ c.taken.log, event.InGeneration sent
  atRate : c.taken.wrapped = false → c.taken.torn = false →
    ∀ event ∈ c.taken.log, event.AtRate sent

theorem Intact.keepLog {s : Source} (h : Intact s) (sent : Sent)
    (hstored : s.producer.sent.stored <+: sent.stored)
    (hformat : s.producer.sent.formatBoundaries ⊆ sent.formatBoundaries)
    (htalkspurt : s.producer.sent.talkspurtBoundaries ⊆ sent.talkspurtBoundaries) :
    LogKept sent s.consumer := by
  have hlength := hstored.length_le
  have hseg : ∀ start rate generation frames,
      (Event.played start rate generation frames).Sound s.producer.sent →
      sent.segment start frames.length = s.producer.sent.segment start frames.length := by
    intro start _ _ frames hsound
    obtain ⟨more, hmore⟩ := hstored
    rw [Sent.segment, ← hmore]
    exact segment_append hsound.1
  refine ⟨?_, ?_, ?_⟩
  · intro event hmem
    have hsound := h.coherent.sound event hmem
    cases event with
    | played start rate generation frames =>
      refine ⟨hsound.1.trans hlength, ?_⟩
      rw [hseg start rate generation frames hsound]
      exact hsound.2
    | skipped why start upto =>
      cases why with
      | trim => exact hsound.trans hlength
      | format => exact hformat hsound
      | talkspurt => exact htalkspurt hsound
    | output n => trivial
  · intro hwrapped event hmem
    have hsound := h.coherent.sound event hmem
    have hevent := h.tuned.inGeneration hwrapped event hmem
    cases event with
    | played start rate generation frames =>
      simp only [Event.InGeneration, hseg start rate generation frames hsound]
      exact hevent
    | skipped why start upto => trivial
    | output n => trivial
  · intro hwrapped htorn event hmem
    have hsound := h.coherent.sound event hmem
    have hevent := h.tuned.atRate hwrapped htorn event hmem
    cases event with
    | played start rate generation frames =>
      simp only [Event.AtRate, hseg start rate generation frames hsound]
      exact hevent
    | skipped why start upto => trivial
    | output n => trivial

theorem leaves_notePush {s : Source} (h : Intact s) (frames : List Frame) (dropped : Nat) :
    Leaves s (s.notePush frames dropped) := by
  have hlog := h.keepLog (s.notePush frames dropped).producer.sent
    (List.prefix_refl _) (List.Subset.refl _) (List.Subset.refl _)
  exact ⟨⟨{ h.coherent with sound := hlog.sound },
    { h.tuned with inGeneration := hlog.inGeneration, atRate := hlog.atRate }⟩,
    { ProducerMoves.refl s with }⟩

/-! ## Boundaries -/

theorem leaves_pendingSampleRate {s : Source} (h : Intact s) (rate : UInt32) :
    Leaves s (s.storePendingSampleRate rate) := by
  have hlog := h.keepLog (s.storePendingSampleRate rate).producer.sent
    (List.prefix_refl _) (List.Subset.refl _) (List.Subset.refl _)
  refine ⟨⟨{ h.coherent with sound := hlog.sound }, { h.tuned with
    pending := ?_
    reset := ?_
    standing := ?_
    inGeneration := hlog.inGeneration
    atRate := hlog.atRate }⟩, { ProducerMoves.refl s with
    idle := ?_
    busy := ?_ }⟩
  · intro hphase
    cases hphase
  · intro hphase
    cases hphase
  · intro _ hphase
    cases hphase
  · intro _ _ i x hi hx
    exact no_frame hi hx
  · intro _ _
    exact ⟨nofun, rfl⟩

theorem leaves_resetCursor {s : Source} (h : Intact s) {phase : Phase}
    (hidle : phase = .idle → s.producer.sent.phase = .idle)
    (hbusy : s.producer.sent.phase ≠ .idle → phase ≠ .idle) :
    Leaves s (s.storeResetCursor phase (UInt32.ofNat s.producer.sent.stored.length)) := by
  have hlog := h.keepLog (s.storeResetCursor phase
    (UInt32.ofNat s.producer.sent.stored.length)).producer.sent
    (List.prefix_refl _) (List.subset_cons_self _ _) (List.Subset.refl _)
  refine ⟨⟨{ h.coherent with
    reset := rfl
    reset_le := le_rfl
    reset_mem := List.mem_cons_self
    sound := hlog.sound }, { h.tuned with
    pending := fun hphase => h.tuned.pending (hidle hphase)
    reset := fun _ => rfl
    inForce := ?_
    standing := fun hcount hphase => h.tuned.standing hcount (hidle hphase)
    inGeneration := hlog.inGeneration
    atRate := hlog.atRate }⟩, { ProducerMoves.refl s with
    resetAt := h.coherent.reset_le
    formatBoundaries := List.subset_cons_self _ _
    format := fun hne => absurd rfl hne
    busy := fun _ hphase => ⟨hbusy hphase, rfl⟩ }⟩
  intro i x hi hx
  exact no_frame hi hx

/-- The bump comes after the store of its boundary. -/
theorem leaves_bumpFormat {s : Source} (h : Intact s)
    (hreset : s.producer.sent.resetAt = s.producer.sent.stored.length) :
    Leaves s s.bumpFormatGeneration := by
  have hlog := h.keepLog s.bumpFormatGeneration.producer.sent
    (List.prefix_refl _) (List.Subset.refl _) (List.Subset.refl _)
  have happlied := h.tuned.applied_le
  have hnew : s.producer.sent.formatCount + 1 ≠ s.consumer.taken.appliedCount := by omega
  have hcount : s.producer.sent.formatCount + 1 ≠ s.producer.sent.formatCount := by omega
  refine ⟨⟨{ h.coherent with sound := hlog.sound }, { h.tuned with
    generation := ?_
    seen_le := h.tuned.seen_le.trans (Nat.le_succ _)
    applied_le := happlied.trans (Nat.le_succ _)
    pending := fun _ => rfl
    reset := fun hphase => nomatch hphase
    inForce := ?_
    queued := fun hsame => absurd hsame hnew
    standing := fun hsame => absurd hsame hnew
    inGeneration := hlog.inGeneration
    atRate := hlog.atRate }⟩, { ProducerMoves.refl s with
    count := Nat.le_succ _
    format := ?_
    inForce := fun hsame => absurd hsame hcount
    idle := fun hsame => absurd hsame hcount
    busy := fun hsame => absurd hsame hcount }⟩
  · simp only [Source.bumpFormatGeneration, h.tuned.generation, UInt32.ofNat_add]
    rfl
  · intro i x hi hx
    have hend : s.producer.sent.stored.length ≤ i := hreset ▸ hi
    exact no_frame hend hx
  · intro _
    have := h.coherent.read_le
    simp only [Source.bumpFormatGeneration]
    omega

theorem leaves_talkspurtCursor {s : Source} (h : Intact s) :
    Leaves s (s.storeTalkspurtCursor (UInt32.ofNat s.producer.sent.stored.length)) := by
  have hlog := h.keepLog (s.storeTalkspurtCursor
    (UInt32.ofNat s.producer.sent.stored.length)).producer.sent
    (List.prefix_refl _) (List.Subset.refl _) (List.subset_cons_self _ _)
  exact ⟨⟨{ h.coherent with
    talkspurt := rfl
    talkspurt_le := le_rfl
    talkspurt_mem := List.mem_cons_self
    sound := hlog.sound }, { h.tuned with
    inGeneration := hlog.inGeneration
    atRate := hlog.atRate }⟩, { ProducerMoves.refl s with
    talkspurtAt := h.coherent.talkspurt_le
    talkspurtBoundaries := List.subset_cons_self _ _
    talkspurt := fun hne => absurd rfl hne }⟩

theorem leaves_bumpTalkspurt {s : Source} (h : Intact s)
    (hcursor : s.producer.sent.talkspurtAt = s.producer.sent.stored.length) :
    Leaves s s.bumpTalkspurtGeneration := by
  refine ⟨⟨{ h.coherent with }, { h.tuned with }⟩, { ProducerMoves.refl s with talkspurt := ?_ }⟩
  intro _
  have := h.coherent.read_le
  simp only [Source.bumpTalkspurtGeneration]
  omega

/-! ## Stores of frames -/

/-- A cell behind the window that the reader may still be in. -/
theorem leaves_writeRing {s : Source} (h : Intact s) {i : Nat} (frame : Frame)
    (hi : s.producer.sent.stored.length ≤ i)
    (hlt : i < s.consumer.taken.readAt + pipelineCapacityFrames) :
    Leaves s (s.writeRing (i % pipelineCapacityFrames) frame) := by
  have hcell : ∀ j, s.consumer.taken.readAt ≤ j → j < s.producer.sent.stored.length →
      Function.update s.producer.ring (i % pipelineCapacityFrames) frame
        (j % pipelineCapacityFrames) = s.producer.ring (j % pipelineCapacityFrames) := by
    intro j hj hjlt
    exact Function.update_of_ne (cell_ne (by omega) (by omega)) _ _
  refine ⟨⟨{ h.coherent with ring := ?_ }, { h.tuned with }⟩,
    { ProducerMoves.refl s with ring := fun j hj hjlt => hcell j hj hjlt }⟩
  intro j x hj hx
  have hjlt := (List.getElem?_eq_some_iff.mp hx).1
  simp only [Source.writeRing]
  rw [hcell j hj hjlt]
  exact h.coherent.ring j x hj hx

/-- The cells from a position on hold these frames. -/
def Filled (ring : Nat → Frame) (start : Nat) (frames : List Frame) : Prop :=
  ∀ j frame, frames[j]? = some frame → ring ((start + j) % pipelineCapacityFrames) = frame

theorem Filled.snoc {ring : Nat → Frame} {start : Nat} {frames : List Frame} {frame : Frame}
    (h : Filled ring start frames) (hlen : frames.length < pipelineCapacityFrames) :
    Filled (Function.update ring ((start + frames.length) % pipelineCapacityFrames) frame) start
      (frames ++ [frame]) := by
  intro j x hx
  rcases Nat.lt_or_ge j frames.length with hj | hj
  · rw [List.getElem?_append_left hj] at hx
    rw [Function.update_of_ne (cell_ne (by omega) (by omega))]
    exact h j x hx
  · rw [List.getElem?_append_right hj] at hx
    obtain ⟨hzero, hframe⟩ := List.getElem?_eq_some_iff.mp hx
    simp only [List.length_singleton] at hzero
    have hlast : j = frames.length := by omega
    subst hlast
    rw [Function.update_self, ← hframe]
    simp only [Nat.sub_self, List.getElem_cons_zero]

theorem stamp_frame {s : Source} {frames : List Frame} {j : Nat} {x : Stored}
    (h : (s.stamp frames)[j]? = some x) : frames[j]? = some x.frame ∧
      x.rate = s.producer.producerSampleRate ∧ x.generation = s.producer.sent.formatCount := by
  simp only [Source.stamp, List.getElem?_map, Option.map_eq_some_iff] at h
  obtain ⟨frame, hframe, rfl⟩ := h
  exact ⟨hframe, rfl, rfl⟩

/-- Frames behind the old end are the ones that were just copied. -/
theorem appended {s : Source} {frames : List Frame} {i : Nat} {x : Stored}
    (hi : s.producer.sent.stored.length ≤ i)
    (hx : (s.producer.sent.stored ++ s.stamp frames)[i]? = some x) :
    frames[i - s.producer.sent.stored.length]? = some x.frame ∧
      x.rate = s.producer.producerSampleRate ∧ x.generation = s.producer.sent.formatCount := by
  rw [List.getElem?_append_right hi] at hx
  exact stamp_frame hx

theorem leaves_writeCursor {s : Source} (h : Intact s) {frames : List Frame}
    (hphase : s.producer.sent.phase = .idle)
    (hrate : s.producer.producerSampleRate = s.producer.sent.inForce)
    (hroom : s.producer.sent.stored.length + frames.length ≤
      s.consumer.taken.readAt + pipelineCapacityFrames)
    (hfilled : Filled s.producer.ring s.producer.sent.stored.length frames) :
    Leaves s (s.storeWriteCursor
      (UInt32.ofNat (s.producer.sent.stored.length + frames.length)) frames) := by
  have hlog := h.keepLog (s.storeWriteCursor
    (UInt32.ofNat (s.producer.sent.stored.length + frames.length)) frames).producer.sent
    (List.prefix_append _ _) (List.Subset.refl _) (List.Subset.refl _)
  have hlength : (s.producer.sent.stored ++ s.stamp frames).length =
      s.producer.sent.stored.length + frames.length := by
    simp only [Source.stamp, List.length_append, List.length_map]
  refine ⟨⟨{ h.coherent with
    write := ?_
    read_le := ?_
    fill := ?_
    reset_le := ?_
    talkspurt_le := ?_
    ring := ?_
    sound := hlog.sound }, { h.tuned with
    reset := ?_
    inForce := ?_
    queued := ?_
    inGeneration := hlog.inGeneration
    atRate := hlog.atRate }⟩, { ProducerMoves.refl s with
    stored := List.prefix_append _ _
    idle := ?_
    busy := fun _ hbusy => absurd hphase hbusy }⟩
  · simp only [Source.storeWriteCursor, hlength]
  · have := h.coherent.read_le
    simp only [Source.storeWriteCursor, hlength]
    omega
  · simp only [Source.storeWriteCursor, hlength]
    exact hroom
  · have := h.coherent.reset_le
    simp only [Source.storeWriteCursor, hlength]
    omega
  · have := h.coherent.talkspurt_le
    simp only [Source.storeWriteCursor, hlength]
    omega
  · intro i x hi hx
    rcases Nat.lt_or_ge i s.producer.sent.stored.length with hlt | hge
    · refine h.coherent.ring i x hi ?_
      rw [← stored_earlier (List.prefix_append _ (s.stamp frames)) hlt]
      exact hx
    · obtain ⟨hframe, -, -⟩ := appended hge hx
      have hcell := hfilled (i - s.producer.sent.stored.length) x.frame hframe
      rw [Nat.add_sub_cancel' hge] at hcell
      exact hcell
  · intro hreset
    exact absurd (hphase.symm.trans hreset) nofun
  · intro i x hi hx
    rcases Nat.lt_or_ge i s.producer.sent.stored.length with hlt | hge
    · refine h.tuned.inForce i x hi ?_
      rw [← stored_earlier (List.prefix_append _ (s.stamp frames)) hlt]
      exact hx
    · obtain ⟨-, hnew, hgeneration⟩ := appended hge hx
      exact ⟨hgeneration, hnew.trans hrate⟩
  · intro hcount i x hi hx
    rcases Nat.lt_or_ge i s.producer.sent.stored.length with hlt | hge
    · refine h.tuned.queued hcount i x hi ?_
      rw [← stored_earlier (List.prefix_append _ (s.stamp frames)) hlt]
      exact hx
    · obtain ⟨-, hnew, hgeneration⟩ := appended hge hx
      refine ⟨hgeneration.trans hcount, ?_⟩
      intro htorn rate hset
      rw [hnew, hrate, h.tuned.standing hcount hphase htorn rate hset]
  · intro _ _ i x hi hx
    obtain ⟨-, hnew, hgeneration⟩ := appended hi hx
    exact ⟨hgeneration, hnew.trans hrate⟩

/-! ## The calls -/

/-- Between two calls, or in a push before its frames are published. -/
structure Holding (frames : List Frame) (pushes : List Push) (p : Producer) : Prop where
  phase : p.sent.phase = .idle
  rate : p.producerSampleRate = p.sent.inForce
  opened : p.opened = true → p.producerSampleRate ≠ 0 ∧ p.producerChannels ≠ 0
  frames : p.sent.frames = frames
  pushes : p.sent.pushes = pushes

/-- The frames that the recorded pushes stored. -/
def storedBy (pushes : List Push) : List Frame :=
  pushes.flatMap fun push => push.frames.take (push.frames.length - push.dropped)

theorem Posted.holding {p : Producer} (h : Posted p) :
    Holding (storedBy p.sent.pushes) p.sent.pushes p where
  phase := h.phase
  rate := h.rate
  opened := h.opened
  frames := h.frames
  pushes := rfl

theorem Holding.posted {pushes : List Push} {p : Producer} (h : Holding (storedBy pushes) pushes p)
    (hdropped : ∀ push ∈ pushes, push.dropped ≤ push.frames.length) : Posted p where
  phase := h.phase
  rate := h.rate
  opened := h.opened
  frames := by
    rw [h.frames, h.pushes]
    rfl
  dropped := by
    rw [h.pushes]
    exact hdropped

/-- A store of the producer, seen from where the reader has got to by then. -/
theorem safe_leaves {f : Source → Source} {post : Unit → Source → Prop} {s : Source}
    (h : ∀ t, t.producer = s.producer → s.consumer.taken.readAt ≤ t.consumer.taken.readAt →
      Intact t → Leaves t (f t) ∧ post () (f t)) :
    contract.Safe .producer (Prog.store f : Prog Answer Source Unit) post s := by
  apply Safe.store
  intro t hrely hinv
  have hmoves : ConsumerMoves s t := hrely
  obtain ⟨hleaves, hpost⟩ := h t hmoves.producer hmoves.readAt hinv
  exact ⟨hleaves.intact, hleaves.moves, hpost⟩

/-- While the stores of a new format are under way. -/
structure Forming (rate : UInt32) (frames : List Frame) (pushes : List Push) (p : Producer) :
    Prop where
  rate : p.producerSampleRate = rate
  valid : p.producerSampleRate ≠ 0 ∧ p.producerChannels ≠ 0
  frames : p.sent.frames = frames
  pushes : p.sent.pushes = pushes

theorem safe_setSourceFormat {frames : List Frame} {pushes : List Push} {rate : UInt32}
    {channels : UInt16} {s : Source} (h : Holding frames pushes s.producer) :
    contract.Safe .producer (setSourceFormat rate channels)
      (fun _ t => Holding frames pushes t.producer) s := by
  unfold setSourceFormat
  split
  · exact h
  · rename_i hvalid
    simp only [not_or] at hvalid
    obtain ⟨hlow, -, hchannels, -⟩ := hvalid
    have hrate : rate ≠ 0 := by
      rintro rfl
      exact hlow (by decide)
    apply Safe.bind
    apply safe_leaves
    intro t ht _ hinv
    refine ⟨leaves_producerFormat hinv rate channels, ?_⟩
    have hform : Forming rate frames pushes (t.setProducerFormat rate channels).producer := by
      rw [← ht] at h
      exact ⟨rfl, ⟨hrate, hchannels⟩, h.frames, h.pushes⟩
    apply Safe.bind
    apply Safe.load
    intro a hrely _
    rw [← ConsumerMoves.producer hrely] at hform
    apply Safe.bind
    apply Safe.ask
    intro b hrely _ answer
    rw [← ConsumerMoves.producer hrely] at hform
    apply Safe.bind
    apply safe_leaves
    intro c hc _ hinv
    rw [← hc] at hform
    refine ⟨leaves_resetJitter hinv _ _, ?_⟩
    have hform : Forming rate frames pushes
        (c.resetJitter answer.nowMs a.consumer.underruns).producer :=
      ⟨hform.rate, hform.valid, hform.frames, hform.pushes⟩
    apply Safe.bind
    apply safe_leaves
    intro u hu _ hinv
    rw [← hu] at hform
    refine ⟨leaves_target hinv targetInitialMs, ?_⟩
    apply Safe.bind
    apply Safe.load
    intro v hrely hinv
    have hmoves : ConsumerMoves (u.storeTarget targetInitialMs) v := hrely
    have hv : v.producer = u.producer := hmoves.producer
    rw [(Intact.coherent hinv).write]
    rw [← hv] at hform
    apply Safe.bind
    apply safe_leaves
    intro w hw _ hinv
    rw [← hw] at hform
    refine ⟨leaves_pendingSampleRate hinv rate, ?_⟩
    apply Safe.bind
    apply safe_leaves
    intro x hx _ hinv
    have hform : Forming rate frames pushes x.producer := by
      rw [hx]
      exact ⟨hform.rate, hform.valid, hform.frames, hform.pushes⟩
    have hphase : x.producer.sent.phase = .rateStored ∧ x.producer.pendingSampleRate = rate ∧
        x.producer.sent.stored.length = v.producer.sent.stored.length := by
      rw [hx, ← hw]
      exact ⟨rfl, rfl, rfl⟩
    refine ⟨leaves_pendingChannels hinv channels.toUInt32, ?_⟩
    apply Safe.bind
    apply safe_leaves
    intro y hy _ hinv
    have hform : Forming rate frames pushes y.producer := by
      rw [hy]
      exact ⟨hform.rate, hform.valid, hform.frames, hform.pushes⟩
    obtain ⟨hphase, hpending, hlen⟩ : y.producer.sent.phase = .rateStored ∧
        y.producer.pendingSampleRate = rate ∧
        y.producer.sent.stored.length = v.producer.sent.stored.length := by
      rw [hy]
      exact hphase
    rw [← hlen]
    refine ⟨leaves_resetCursor hinv nofun (fun _ => nofun), ?_⟩
    apply Safe.bind
    apply safe_leaves
    intro z hz _ hinv
    have hform : Forming rate frames pushes z.producer := by
      rw [hz]
      exact ⟨hform.rate, hform.valid, hform.frames, hform.pushes⟩
    obtain ⟨hreset, hpending⟩ : z.producer.sent.resetAt = z.producer.sent.stored.length ∧
        z.producer.pendingSampleRate = rate := by
      rw [hz]
      exact ⟨rfl, hpending⟩
    refine ⟨leaves_bumpFormat hinv hreset, ?_⟩
    have hdone : Holding frames pushes z.bumpFormatGeneration.producer :=
      ⟨rfl, hform.rate.trans hpending.symm, fun _ => hform.valid, hform.frames, hform.pushes⟩
    apply Safe.bind
    apply safe_leaves
    intro a ha _ hinv
    have hvalid : a.producer.producerSampleRate ≠ 0 ∧ a.producer.producerChannels ≠ 0 := by
      rw [ha]
      exact hform.valid
    rw [← ha] at hdone
    exact ⟨leaves_open hinv true, hdone.phase, hdone.rate, fun _ => hvalid, hdone.frames,
      hdone.pushes⟩

theorem safe_closeSource {frames : List Frame} {pushes : List Push} {s : Source}
    (h : Holding frames pushes s.producer) :
    contract.Safe .producer closeSource (fun _ t => Holding frames pushes t.producer) s := by
  apply Safe.bind
  apply safe_leaves
  intro t ht _ hinv
  refine ⟨leaves_open hinv false, ?_⟩
  have hclosed : Holding frames pushes (t.storeOpen false).producer := by
    rw [← ht] at h
    exact ⟨h.phase, h.rate, nofun, h.frames, h.pushes⟩
  apply Safe.bind
  apply Safe.load
  intro u hrely hinv
  have hmoves : ConsumerMoves (t.storeOpen false) u := hrely
  rw [← hmoves.producer] at hclosed
  rw [(Intact.coherent hinv).write]
  apply Safe.bind
  apply safe_leaves
  intro v hv _ hinv
  rw [← hv] at hclosed ⊢
  refine ⟨leaves_resetCursor hinv (fun _ => hclosed.phase) (fun hne => absurd hclosed.phase hne), ?_⟩
  apply Safe.bind
  apply safe_leaves
  intro w hw _ hinv
  have hreset : w.producer.sent.resetAt = w.producer.sent.stored.length := by
    rw [hw]
    rfl
  have hpending : w.producer.pendingSampleRate = w.producer.sent.inForce := by
    apply (Intact.tuned hinv).pending
    rw [hw]
    rfl
  refine ⟨leaves_bumpFormat hinv hreset, ?_⟩
  have hrest : Holding frames pushes w.producer := by
    rw [hw]
    exact ⟨rfl, hclosed.rate, hclosed.opened, hclosed.frames, hclosed.pushes⟩
  have hdone : Holding frames pushes w.bumpFormatGeneration.producer :=
    ⟨rfl, hrest.rate.trans hpending.symm, hrest.opened, hrest.frames, hrest.pushes⟩
  apply safe_leaves
  intro x hx _ hinv
  rw [← hx] at hdone
  exact ⟨leaves_markDiscontinuity hinv, hdone.phase, hdone.rate, hdone.opened, hdone.frames,
    hdone.pushes⟩

theorem safe_adjustTarget {A : Producer → Prop} {target : UInt32}
    {update : Jitter.NativeAudioJitterUpdate} {s : Source} (h : A s.producer) :
    contract.Safe .producer (adjustTarget target update) (fun _ t => A t.producer) s := by
  have hkeep : ∀ f : Source → Source, (∀ t, f t = t ∨ ∃ ms, f t = t.storeTarget ms) →
      contract.Safe .producer (Prog.store f : Prog Answer Source Unit)
        (fun _ t => A t.producer) s := by
    intro f hf
    apply safe_leaves
    intro t ht _ hinv
    rw [← ht] at h
    rcases hf t with heq | ⟨ms, heq⟩
    · rw [heq]
      exact ⟨⟨hinv, ProducerMoves.refl t⟩, h⟩
    · rw [heq]
      exact ⟨leaves_target hinv ms, h⟩
  unfold adjustTarget
  split
  · exact h
  · exact hkeep _ fun t => .inr ⟨_, rfl⟩
  · apply hkeep
    intro t
    unfold Source.raiseTarget
    dsimp only
    split
    · exact .inr ⟨_, rfl⟩
    · exact .inl rfl
  · apply hkeep
    intro t
    unfold Source.decayTarget
    split
    · exact .inr ⟨_, rfl⟩
    · exact .inl rfl

/-- A push that has published nothing yet. -/
structure Pushing (frames : List Frame) (pushes : List Push) (n : Nat) (p : Producer) : Prop where
  holding : Holding frames pushes p
  length : p.sent.stored.length = n

theorem Pushing.talkspurt {frames : List Frame} {pushes : List Push} {n : Nat} {s : Source}
    (h : Pushing frames pushes n s.producer) (boundary : UInt32) :
    Pushing frames pushes n (s.storeTalkspurtCursor boundary).producer :=
  ⟨⟨h.holding.phase, h.holding.rate, h.holding.opened, h.holding.frames, h.holding.pushes⟩,
    h.length⟩

theorem Pushing.updateJitter {frames : List Frame} {pushes : List Push} {n : Nat} {s : Source}
    (h : Pushing frames pushes n s.producer) (call : Jitter.Call) :
    Pushing frames pushes n (s.updateJitter call).2.producer :=
  ⟨⟨h.holding.phase, h.holding.rate, h.holding.opened, h.holding.frames, h.holding.pushes⟩,
    h.length⟩

theorem safe_updateArrivalController {frames : List Frame} {pushes : List Push} {n : Nat}
    {count : Nat} {timestampMs nowMs : UInt32} {s : Source}
    (h : Pushing frames pushes n s.producer) :
    contract.Safe .producer (updateArrivalController count timestampMs nowMs (UInt32.ofNat n))
      (fun _ t => Pushing frames pushes n t.producer) s := by
  apply Safe.bind
  apply Safe.load
  intro t hrely _
  rw [← ConsumerMoves.producer hrely] at h
  apply Safe.bind
  apply Safe.load
  intro u hrely _
  rw [← ConsumerMoves.producer hrely] at h
  apply Safe.bind
  apply Safe.act
  intro v hrely hinv _
  rw [← ConsumerMoves.producer hrely] at h
  have hleaves := leaves_updateJitter hinv (jitterCall count v.producer.producerSampleRate
    timestampMs nowMs u.consumer.underruns t.targetDelayMs)
  refine ⟨hleaves.intact, hleaves.moves, ?_⟩
  have hupdated := h.updateJitter (jitterCall count v.producer.producerSampleRate
    timestampMs nowMs u.consumer.underruns t.targetDelayMs)
  apply Safe.bind
  apply (safe_adjustTarget hupdated).mono
  intro _ v hv
  apply Safe.when
  · intro _
    apply Safe.bind
    apply safe_leaves
    intro w hw _ hinv
    rw [← hw] at hv
    have hlength := hv.length
    subst hlength
    refine ⟨leaves_talkspurtCursor hinv, ?_⟩
    have hmarked := hv.talkspurt (UInt32.ofNat w.producer.sent.stored.length)
    apply safe_leaves
    intro x hx _ hinv
    rw [← hx] at hmarked
    have hcursor : x.producer.sent.talkspurtAt = x.producer.sent.stored.length := by
      rw [hx]
      rfl
    exact ⟨leaves_bumpTalkspurt hinv hcursor,
      ⟨hmarked.holding.phase, hmarked.holding.rate, hmarked.holding.opened,
        hmarked.holding.frames, hmarked.holding.pushes⟩, hmarked.length⟩
  · intro _
    exact hv

/-- A push in the middle of its copy: the reader was at `r` or further, and `done` is in the
ring. -/
structure Copying (frames : List Frame) (pushes : List Push) (n r : Nat) (done : List Frame)
    (s : Source) : Prop where
  pushing : Pushing frames pushes n s.producer
  readAt : r ≤ s.consumer.taken.readAt
  filled : Filled s.producer.ring n done

theorem Copying.stable {frames : List Frame} {pushes : List Push} {n r : Nat} {done : List Frame}
    {s t : Source} (h : Copying frames pushes n r done s) (hproducer : t.producer = s.producer)
    (hread : s.consumer.taken.readAt ≤ t.consumer.taken.readAt) :
    Copying frames pushes n r done t where
  pushing := by
    rw [hproducer]
    exact h.pushing
  readAt := h.readAt.trans hread
  filled := by
    rw [hproducer]
    exact h.filled

theorem safe_copyFrames {frames : List Frame} {pushes : List Push} {n r : Nat}
    {done : List Frame} (rest : List Frame) {s : Source} (h : Copying frames pushes n r done s)
    (hroom : n + done.length + rest.length ≤ r + pipelineCapacityFrames) :
    contract.Safe .producer (copyFrames rest (UInt32.ofNat (n + done.length)))
      (fun _ t => Copying frames pushes n r (done ++ rest) t) s := by
  induction rest generalizing done s with
  | nil =>
    rw [List.append_nil]
    exact h
  | cons frame rest ih =>
    rw [List.length_cons] at hroom
    apply Safe.bind
    rw [cursor_cell]
    apply safe_leaves
    intro t ht hread hinv
    have hcopy := h.stable ht hread
    have hle := hcopy.readAt
    have hlength := hcopy.pushing.length
    have hread_le := hinv.coherent.read_le
    refine ⟨leaves_writeRing hinv frame (by omega) (by omega), ?_⟩
    have hholding := hcopy.pushing.holding
    have hnext : Copying frames pushes n r (done ++ [frame])
        (t.writeRing ((n + done.length) % pipelineCapacityFrames) frame) := by
      refine ⟨⟨⟨hholding.phase, hholding.rate, hholding.opened, hholding.frames,
        hholding.pushes⟩, hlength⟩, hle, ?_⟩
      exact hcopy.filled.snoc (by omega)
    have hih := ih hnext (by rw [List.length_append, List.length_singleton]; omega)
    rw [List.length_append, List.length_singleton, ← Nat.add_assoc, UInt32.ofNat_add,
      List.append_assoc, List.singleton_append] at hih
    exact hih

theorem safe_publish {frames input : List Frame} {pushes : List Push} {n r toWrite : Nat}
    {nowMs : UInt32} {s : Source} (h : Copying frames pushes n r [] s)
    (hle : toWrite ≤ input.length) (hroom : n + toWrite ≤ r + pipelineCapacityFrames) :
    contract.Safe .producer (publish (UInt32.ofNat n) nowMs input toWrite)
      (fun dropped t => dropped ≤ input.length ∧
        Holding (frames ++ input.take (input.length - dropped)) pushes t.producer) s := by
  have htake : input.length - (input.length - toWrite) = toWrite := by omega
  have hlength : (input.take toWrite).length = toWrite := by
    rw [List.length_take, Nat.min_eq_left hle]
  apply Safe.bind
  refine Safe.mono (?_ : contract.Safe .producer _
    (fun _ t => Copying frames pushes n r [] t) s) ?_
  · apply Safe.when
    · intro _
      apply safe_leaves
      intro t ht hread hinv
      have ht' := h.stable ht hread
      exact ⟨leaves_trimRequested hinv true, ht'.pushing, ht'.readAt, ht'.filled⟩
    · intro _
      exact h
  · intro _ t ht
    apply Safe.bind
    have hcopy := safe_copyFrames (input.take toWrite) ht
      (by rw [hlength, List.length_nil]; omega)
    rw [List.length_nil, Nat.add_zero, List.nil_append] at hcopy
    apply hcopy.mono
    intro _ u hu
    apply Safe.bind
    apply Safe.mono (?_ : contract.Safe .producer _
      (fun _ t => Holding (frames ++ input.take toWrite) pushes t.producer) u)
    · intro _ v hv
      refine ⟨Nat.sub_le _ _, ?_⟩
      rw [htake]
      exact hv
    · apply Safe.when
      · intro _
        apply Safe.bind
        apply safe_leaves
        intro v hv hread hinv
        have hcopied := hu.stable hv hread
        have hholding := hcopied.pushing.holding
        have hn := hcopied.pushing.length
        have hle := hcopied.readAt
        have hcursor : UInt32.ofNat n + UInt32.ofNat toWrite =
            UInt32.ofNat (v.producer.sent.stored.length + (input.take toWrite).length) := by
          rw [hn, hlength, UInt32.ofNat_add]
        rw [hcursor]
        refine ⟨leaves_writeCursor hinv hholding.phase hholding.rate
          (by rw [hlength]; omega) (by rw [hn]; exact hcopied.filled), ?_⟩
        have hdone : Holding (frames ++ input.take toWrite) pushes (v.storeWriteCursor
            (UInt32.ofNat (v.producer.sent.stored.length + (input.take toWrite).length))
            (input.take toWrite)).producer := by
          refine ⟨hholding.phase, hholding.rate, hholding.opened, ?_, hholding.pushes⟩
          rw [← hholding.frames]
          simp only [Source.storeWriteCursor, Sent.frames, Source.stamp, List.map_append,
            List.map_map, Function.comp_def, List.map_id']
        apply safe_leaves
        intro w hw _ hinv
        rw [← hw] at hdone
        exact ⟨leaves_lastPush hinv nowMs, hdone.phase, hdone.rate, hdone.opened, hdone.frames,
          hdone.pushes⟩
      · intro hzero
        have hnone : toWrite = 0 := by omega
        rw [hnone, List.take_zero, List.append_nil]
        exact hu.pushing.holding

theorem safe_pushOpen {frames : List Frame} {pushes : List Push} {channels : UInt16}
    {samples : Nat → Int16} {count : Nat} {timestampMs : UInt32} {s : Source}
    (h : Holding frames pushes s.producer) :
    contract.Safe .producer (pushOpen channels samples count timestampMs)
      (fun dropped t => dropped ≤ (inputFrames channels samples count).length ∧
        Holding (frames ++ (inputFrames channels samples count).take
          ((inputFrames channels samples count).length - dropped)) pushes t.producer) s := by
  apply Safe.bind
  apply Safe.ask
  intro t hrely _ answer
  rw [← ConsumerMoves.producer hrely] at h
  apply Safe.bind
  apply Safe.load
  intro u hrely hinv
  rw [← ConsumerMoves.producer hrely] at h
  rw [(Intact.coherent hinv).write]
  have hpushing : Pushing frames pushes u.producer.sent.stored.length u.producer := ⟨h, rfl⟩
  apply Safe.bind
  apply (safe_updateArrivalController hpushing).mono
  intro _ v hv
  apply Safe.bind
  apply Safe.load
  intro w hrely hinv
  rw [← ConsumerMoves.producer hrely] at hv
  have hcoherent : Coherent w.producer w.consumer := Intact.coherent hinv
  have hread_le := hcoherent.read_le
  have hfill := hcoherent.fill
  have hlength := hv.length
  rw [hcoherent.read, ← hlength]
  have hused := cursor_sub hread_le (by simp only [pipelineCapacityFrames] at hfill; omega)
  have hcount : (inputFrames channels samples count).length = count := by
    simp only [inputFrames, List.length_map, List.length_range]
  have hfree : w.producer.sent.stored.length + freeFrames
      (UInt32.ofNat w.producer.sent.stored.length - UInt32.ofNat w.consumer.taken.readAt) ≤
      w.consumer.taken.readAt + pipelineCapacityFrames := by
    unfold freeFrames
    rw [hused]
    split
    · omega
    · omega
  refine safe_publish (r := w.consumer.taken.readAt) ⟨hlength ▸ hv, le_rfl, ?_⟩ ?_ ?_
  · intro j frame hget
    simp at hget
  · rw [hcount]
    exact Nat.min_le_left _ _
  · exact (Nat.add_le_add_left (Nat.min_le_right _ _) _).trans hfree

/-- What a push on an open source returns is what it did not store. -/
theorem safe_push {frames : List Frame} {pushes : List Push} {samples : Nat → Int16} {count : Nat}
    {timestampMs : UInt32} {s : Source} (h : Holding frames pushes s.producer) :
    contract.Safe .producer (push samples count timestampMs)
      (fun dropped t => (s.producer.opened = true →
          dropped ≤ (inputFrames s.producer.producerChannels samples count).length ∧
          Holding (frames ++ (inputFrames s.producer.producerChannels samples count).take
            ((inputFrames s.producer.producerChannels samples count).length - dropped)) pushes
            t.producer) ∧
        (s.producer.opened = false → Holding frames pushes t.producer)) s := by
  unfold push
  split
  · rename_i hzero
    subst hzero
    refine ⟨fun _ => ⟨Nat.zero_le _, ?_⟩, fun _ => h⟩
    simp only [inputFrames, List.range_zero, List.map_nil, List.take_nil, List.append_nil]
    exact h
  · apply Safe.bind
    apply Safe.load
    intro t hrely _
    have ht : t.producer = s.producer := ConsumerMoves.producer hrely
    rw [ht]
    split
    · rename_i hclosed
      have hfalse : s.producer.opened = false := by
        rcases hclosed with hfalse | hrate | hchannels
        · exact hfalse
        · by_contra hopen
          exact (h.opened (Bool.not_eq_false _ ▸ hopen)).1 hrate
        · by_contra hopen
          exact (h.opened (Bool.not_eq_false _ ▸ hopen)).2 hchannels
      rw [← ht] at h
      exact ⟨fun htrue => absurd (hfalse.symm.trans htrue) (by decide), fun _ => h⟩
    · rename_i hopen
      simp only [not_or, Bool.not_eq_false] at hopen
      rw [← ht] at h
      apply (safe_pushOpen h).mono
      intro dropped u hu
      exact ⟨fun _ => hu, fun hfalse => absurd (hfalse.symm.trans hopen.1) (by decide)⟩

/-- Every call of the producer leaves its frames accounted for. -/
theorem safe_producerCall {call : ProducerCall} {s : Source} (h : Posted s.producer) :
    contract.Safe .producer call.program (fun _ t => Posted t.producer) s := by
  have hholding := h.holding
  cases call with
  | setSourceFormat rate channels =>
    apply Safe.bind
    apply (safe_setSourceFormat hholding).mono
    intro _ t ht
    exact ht.posted h.dropped
  | close =>
    apply (safe_closeSource hholding).mono
    intro _ t ht
    exact ht.posted h.dropped
  | push samples count timestampMs =>
    apply Safe.bind
    apply Safe.load
    intro t hrely _
    have ht : t.producer = s.producer := ConsumerMoves.producer hrely
    rw [← ht] at hholding h
    apply Safe.bind
    apply (safe_push hholding).mono
    rintro dropped u ⟨hopen, hclosed⟩
    apply Safe.when
    · intro hopened
      obtain ⟨hle, hu⟩ := hopen hopened
      apply safe_leaves
      intro v hv _ hinv
      rw [← hv] at hu
      refine ⟨leaves_notePush hinv _ _, ?_⟩
      have hnoted : Holding (storedBy (t.producer.sent.pushes ++
          [{ frames := inputFrames t.producer.producerChannels samples count, dropped }]))
          (t.producer.sent.pushes ++
            [{ frames := inputFrames t.producer.producerChannels samples count, dropped }])
          (v.notePush (inputFrames t.producer.producerChannels samples count) dropped).producer := by
        refine ⟨hu.phase, hu.rate, hu.opened, ?_, ?_⟩
        · rw [storedBy, List.flatMap_append, List.flatMap_singleton]
          exact hu.frames
        · simp only [Source.notePush, hu.pushes]
      apply hnoted.posted
      intro push hmem
      rcases List.mem_append.mp hmem with hmem | hmem
      · exact h.dropped push hmem
      · rw [List.mem_singleton.mp hmem]
        exact hle
    · intro hopened
      exact (hclosed (Bool.eq_false_iff.mpr hopened)).posted h.dropped

end Lgnome.Audio
