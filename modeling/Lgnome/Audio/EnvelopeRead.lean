import Lgnome.Audio.EnvelopeSteps

/-!
# The reader keeps its envelope

The programs of the reader, against what the producer may do in between: they
convert while the source is live, go live when the queue allows it, and leave
the counters in agreement with what was heard.
-/
namespace Lgnome.Audio

open Lgnome.Transition (Prog Contract)
open Lgnome.Transition.Contract (Watched)

variable {x y : Source × Watch} {c : Consumer} {w : Watch}

/-- The source has stopped, and the counters agree. -/
structure Halted (x : Source × Watch) : Prop where
  tracked : Tracked x
  cleared : Cleared x.1.consumer

theorem Halted.of_at (h : Halted x) (hat : At x.1.consumer x.2 y) : Halted y :=
  ⟨h.tracked.of_at hat, h.cleared.same hat.fades⟩

/-! ## New formats and talkspurts -/

theorem keeps_advanceReadCursor (why : Reason) (boundary : UInt32) (hwhy : why ≠ .trim) :
    (sourceAdvanceReadCursor why boundary).Keeps Unheard := by
  apply Prog.Keeps.bind (.load Unheard.refl _)
  intro readCursor
  apply Prog.Keeps.when
  apply Prog.Keeps.store
  intro s
  refine ⟨rfl, { SameFades.refl s.consumer with }, _, rfl, ?_⟩
  intro event hmem
  exact ⟨why, _, _, hwhy, List.mem_singleton.mp hmem⟩

theorem reader_takeGeneration {generation : UInt32} (h : At c w x)
    (hne : generation ≠ c.appliedGeneration) :
    Reader (sourceTakeGeneration generation) (fun b y => b = true ∧ Halted y) x := by
  apply Watched.bind
  apply (Reader.unheard (.store unheard_takePendingSampleRate) h).mono
  intro _ x₁ h₁
  apply Watched.bind
  apply (Reader.unheard (.store unheard_takePendingChannels) h₁).mono
  intro _ x₂ h₂
  apply Watched.bind
  apply (Reader.unheard (.act fun _ => unheard_loadResetCursor) h₂).mono
  intro boundary x₃ h₃
  apply Watched.bind
  apply (Reader.unheard (keeps_advanceReadCursor .format boundary (by decide)) h₃).mono
  intro _ x₄ h₄
  apply Watched.bind
  apply (Reader.unheard (.ask Unheard.refl _) h₄).mono
  intro success x₅ h₅
  apply Watched.bind
  apply Reader.store
  intro t i hc hheard
  have happlied : t.consumer.appliedGeneration = c.appliedGeneration := by
    rw [hc]
    exact h₅.fades.applied
  obtain ⟨hheard', htracked⟩ := stop_tracked (s := t) (t := t.applyGeneration generation success)
    (i := i) rfl (.inr (.inl (happlied ▸ hne))) ⟨rfl, rfl, rfl, rfl, rfl⟩ hheard
  exact ⟨rfl, hheard', rfl, htracked, rfl, rfl, rfl, rfl, rfl⟩

/-- A new format stops the source; otherwise nothing has changed. -/
theorem reader_applyGeneration (h : At c w x) :
    Reader sourceApplyGeneration (fun b y => if b then Halted y else At c w y) x := by
  apply Watched.bind
  apply (Reader.unheard (.act fun _ => unheard_loadFormatGeneration) h).mono
  intro generation x₁ h₁
  apply Watched.bind
  apply Reader.load
  intro t i hc _
  have h₂ := h₁.look hc i
  split
  · exact h₂
  · rename_i hne
    have hne' : generation ≠ c.appliedGeneration := by
      intro heq
      exact hne (heq.trans h₂.fades.applied.symm)
    apply (reader_takeGeneration h₂ hne').mono
    rintro b y ⟨rfl, hy⟩
    exact hy

theorem reader_applyTalkspurt (h : At c w x) :
    Reader sourceApplyTalkspurt (fun b y => if b then Halted y else At c w y) x := by
  apply Watched.bind
  apply (Reader.unheard (.load Unheard.refl _) h).mono
  intro generation x₁ h₁
  apply Watched.bind
  apply Reader.load
  intro t i hc _
  have h₂ := h₁.look hc i
  split
  · exact h₂
  · rename_i hne
    apply Watched.bind
    apply (Reader.unheard (.load Unheard.refl _) h₂).mono
    intro boundary x₃ h₃
    apply Watched.bind
    apply (Reader.unheard (keeps_advanceReadCursor .talkspurt boundary (by decide)) h₃).mono
    intro _ x₄ h₄
    apply Watched.bind
    apply Reader.store
    intro u k hcu hheard
    have hseen : u.consumer.seenTalkspurtGeneration = t.consumer.seenTalkspurtGeneration := by
      rw [hcu]
      exact h₄.fades.seen.trans h₂.fades.seen.symm
    obtain ⟨hheard', htracked⟩ := stop_tracked (s := u) (t := u.applyTalkspurt generation)
      (i := k) rfl (.inr (.inr (hseen ▸ hne))) ⟨rfl, rfl, rfl, rfl, rfl⟩ hheard
    exact ⟨rfl, hheard', htracked, rfl, rfl, rfl, rfl, rfl⟩

/-! ## Conversion -/

theorem keeps_readFrames (n pos : Nat) : (readFrames n pos).Keeps Unheard := by
  induction n generalizing pos with
  | zero => trivial
  | succ n ih =>
    apply Prog.Keeps.bind (.load Unheard.refl _)
    intro frame
    apply Prog.Keeps.bind (ih (pos + 1))
    intro rest
    trivial

/-- Frames of the ring are converted while the source is live. -/
theorem reader_finishConversion {readCursor : UInt32} {input : List Frame} {frames made : Nat}
    {success : Bool} (h : At c w x) (hlive : c.live = true) :
    Reader (finishConversion readCursor input frames made success)
      (fun r y => At c w y ∧ ∀ e, r = .inr e → e.2 = false) x := by
  have hend : ∀ y, At c w y → Reader
      (if success = false ∨ (input.length = 0 ∧ made = 0) then pure (.inr (frames + made, false))
        else pure (.inl (frames + made)))
      (fun (r : Nat ⊕ Nat × Bool) y => At c w y ∧ ∀ e, r = .inr e → e.2 = false) y := by
    intro y hy
    split
    · exact ⟨hy, fun e he => by cases he; rfl⟩
    · exact ⟨hy, fun e he => by cases he⟩
  apply Watched.bind
  apply Watched.when
  · intro _
    apply Reader.store
    intro t i hc hheard
    generalize readCursor + UInt32.ofNat input.length = cursor
    have hlive' : t.consumer.live = true := by
      rw [hc, h.fades.live]
      exact hlive
    obtain ⟨hmarks, hconversions, hlooked⟩ := note_played (s := t) (w := x.2) (i := i) cursor input
    refine ⟨rfl, ⟨?_, ?_, ?_⟩, hend _ ⟨?_, ?_, ?_, ?_⟩⟩
    · intro live hmem
      rw [hconversions] at hmem
      rcases List.mem_cons.mp hmem with rfl | hmem
      · exact hlive'
      · exact hheard.converted live hmem
    · intro looked hmem
      rw [hmarks] at hmem
      exact hheard.ready looked hmem
    · intro hclean
      rw [hmarks]
      exact hheard.smooth (note_clean hclean).1
    · exact (hc ▸ h.fades : SameFades c t.consumer).trans { SameFades.refl t.consumer with }
    · exact hmarks.trans h.marks
    · exact fun hclean => h.clean (note_clean hclean).1
    · dsimp only
      rw [hlooked]
      exact h.looked.trans (List.sublist_append_left _ _)
  · intro _
    exact hend x h

theorem reader_convertQueued {write : UInt32} {frames produced : Nat} (h : At c w x)
    (hlive : c.live = true) :
    Reader (convertQueued write frames produced)
      (fun r y => At c w y ∧ ∀ e, r = .inr e → e.2 = false) x := by
  apply Watched.bind
  apply (Reader.unheard (.load Unheard.refl _) h).mono
  intro readCursor x₁ h₁
  dsimp only
  split
  · exact ⟨h₁, fun e he => by cases he; rfl⟩
  · apply Watched.bind
    apply (Reader.unheard (.ask Unheard.refl _) h₁).mono
    intro answer x₂ h₂
    apply Watched.bind
    apply (Reader.unheard (keeps_readFrames _ _) h₂).mono
    intro input x₃ h₃
    exact reader_finishConversion h₃ hlive

/-- A block of the converter either meets a stop or leaves the flags alone. -/
theorem reader_convertFrames {frames : Nat} (h : At c w x) (hlive : c.live = true) :
    Reader (sourceConvertFrames frames)
      (fun e y => if e.2 then Halted y else At c w y) x := by
  apply Watched.iterate (fun _ => At c w) (fun _ _ _ hrely _ h => At.apart h hrely) h
  intro produced y _ hy
  apply Watched.bind
  apply (Reader.unheard (.load Unheard.refl _) hy).mono
  intro converter x₁ h₁
  split
  · apply Watched.bind
    apply (Reader.unheard (.load Unheard.refl _) h₁).mono
    intro write x₂ h₂
    apply Watched.bind
    apply (reader_applyGeneration h₂).mono
    intro formatChanged x₃ h₃
    apply Watched.bind
    cases formatChanged with
    | true =>
      have h₃ : Halted x₃ := h₃
      apply (reader_applyTalkspurt (At.refl x₃)).mono
      intro talkspurtChanged x₄ h₄
      rw [if_pos (.inl rfl)]
      cases talkspurtChanged with
      | true => exact h₄
      | false => exact h₃.of_at h₄
    | false =>
      have h₃ : At c w x₃ := h₃
      apply (reader_applyTalkspurt h₃).mono
      intro talkspurtChanged x₄ h₄
      cases talkspurtChanged with
      | true =>
        rw [if_pos (.inr rfl)]
        exact h₄
      | false =>
        rw [if_neg (by simp)]
        apply (reader_convertQueued h₄ hlive).mono
        rintro r x₅ ⟨h₅, hr⟩
        cases r with
        | inl produced => exact h₅
        | inr e =>
          have hfalse := hr e rfl
          simp only [Sum.elim_inr, hfalse]
          exact h₅
  · exact h₁

/-! ## Trims -/

/-- A trim is heard when it drops anything. -/
theorem reader_trimToTarget (h : At c w x)
    (hallowed : w.clean = true → Allowed w.marks (.trim c.live)) :
    Reader sourceTrimToTarget (fun dropped y =>
      At c { w with marks := if dropped = 0 then w.marks else .trim c.live :: w.marks } y) x := by
  apply Watched.bind
  apply (Reader.unheard (.load Unheard.refl _) h).mono
  intro write x₁ h₁
  apply Watched.bind
  apply (Reader.unheard (.load Unheard.refl _) h₁).mono
  intro readCursor x₂ h₂
  apply Watched.bind
  apply (Reader.unheard (.load Unheard.refl _) h₂).mono
  intro targetMs x₃ h₃
  apply Watched.bind
  apply (Reader.unheard (.load Unheard.refl _) h₃).mono
  intro sampleRate x₄ h₄
  generalize keepFrames targetMs sampleRate = keep
  dsimp only
  split
  · apply Watched.bind
    apply (Reader.unheard (.store (unheard_storeTrimRequested false)) h₄).mono
    intro _ x₅ h₅
    exact h₅
  · rename_i hkeep
    have hdropped : (write - readCursor - keep).toNat ≠ 0 := by
      have hlt := UInt32.lt_iff_toNat_lt.mp (UInt32.not_le.mp hkeep)
      rw [UInt32.toNat_sub_of_le _ _ (UInt32.le_of_lt (UInt32.not_le.mp hkeep))]
      omega
    generalize readCursor + (write - readCursor - keep) = cursor
    generalize (write - readCursor - keep).toNat = dropped at hdropped
    apply Watched.bind
    apply Reader.store
    intro t i hc hheard
    have hfades : SameFades c t.consumer := by
      rw [hc]
      exact h₄.fades
    obtain ⟨hmarks, hconversions, hlooked⟩ := note_trim (s := t) (w := x₄.2) (i := i) cursor
    rw [hfades.live] at hmarks
    refine ⟨rfl, ?_, ?_⟩
    · refine hheard.push hmarks hconversions (fun h => (note_clean h).1)
        (fun _ heq => by cases heq) ?_
      intro hclean
      rw [h₄.marks]
      exact hallowed (h₄.clean (note_clean hclean).1)
    · apply Watched.bind
      have h₅ : At c { w with marks := .trim c.live :: w.marks }
          (t.storeReadCursor cursor (.skipped .trim),
            x₄.2.note i t (t.storeReadCursor cursor (.skipped .trim))) := by
        refine ⟨hfades.trans { SameFades.refl t.consumer with }, ?_, fun hclean =>
          h₄.clean (note_clean hclean).1,
          ?_⟩
        · rw [← h₄.marks]
          exact hmarks
        · dsimp only
          rw [hlooked]
          exact h₄.looked.trans (List.sublist_append_left _ _)
      apply (Reader.unheard (.store (unheard_storeTrimRequested false)) h₅).mono
      intro _ x₆ h₆
      apply Watched.ret
      rw [if_neg hdropped]
      exact h₆

/-- A live source between two segments: no trim is due. -/
structure Playing (x : Source × Watch) : Prop where
  tracked : Tracked x
  live : x.1.consumer.live = true
  due : x.1.consumer.trimAfterFade = true → 0 < x.1.consumer.fadeOutRemaining

theorem reader_trimAfterFade (h : Tracked x) (hlive : x.1.consumer.live = true) :
    Reader trimAfterFade (fun _ => Playing) x := by
  apply Watched.bind
  apply Reader.load
  intro t i hc _
  have h₁ := (At.refl x).look hc i
  have htracked := h.of_at h₁
  have hlive₁ : t.consumer.live = true := h₁.fades.live.trans hlive
  apply Watched.when
  · intro hdue
    simp only [Bool.and_eq_true, beq_iff_eq] at hdue
    obtain ⟨htrim, hout⟩ := hdue
    apply Watched.bind
    apply (reader_trimToTarget (At.refl (t, x.2.look i t)) ?_).mono
    · intro dropped x₂ h₂
      apply Reader.store
      intro u k hcu hheard
      have hfades : SameFades t.consumer u.consumer := by
        rw [hcu]
        exact h₂.fades
      have hafter : x₂.2.clean = true → Sound u.finishTrim.consumer x₂.2.marks := by
        intro hclean
        have hsound := (htracked.sound (h₂.clean hclean)).same hfades
        have htrim' := hfades.trimAfterFade.trans htrim
        have hout' := hfades.fadeOut.trans hout
        rw [h₂.marks]
        dsimp only
        split
        · exact (hsound.finishTrim htrim' hout').same { SameFades.refl _ with }
        · rw [hlive₁]
          exact (hsound.finishTrimmed htrim' hout').same { SameFades.refl _ with }
      have hpaired : u.consumer.rebuffering = !u.consumer.live := by
        rw [hfades.rebuffering, hfades.live]
        exact htracked.paired
      obtain ⟨hheard', htracked'⟩ := counters_step (s := u) (t := u.finishTrim) (i := k)
        rfl rfl rfl rfl rfl hheard hpaired fun hclean _ => hafter hclean
      exact ⟨rfl, hheard', htracked', hfades.live.trans hlive₁,
        fun hfalse => absurd hfalse Bool.false_ne_true⟩
    · intro hclean
      dsimp only
      rw [hlive₁]
      exact (htracked.sound hclean).fadedOut htrim hout
  · intro hnot
    refine ⟨htracked, hlive₁, ?_⟩
    intro htrim
    by_contra hzero
    exact hnot (by rw [htrim, Nat.eq_zero_of_not_pos hzero]; rfl)

/-! ## Rendering -/

theorem block_kept (n : Nat) (s : Source) :
    (Source.applyDiscontinuityEnvelope n s).producer = s.producer ∧
      (Source.applyDiscontinuityEnvelope n s).consumer.live = s.consumer.live ∧
      (Cleared s.consumer → Cleared (Source.applyDiscontinuityEnvelope n s).consumer) := by
  obtain ⟨numerators, hblock, -⟩ := block_envelope n s
  exact ⟨hblock.producer, hblock.live, hblock.cleared⟩

/-- A block is put out while no trim is due. -/
theorem reader_block {n : Nat} (h : Tracked x)
    (hdue : x.2.clean = true → x.1.consumer.trimAfterFade = true →
      n ≤ x.1.consumer.fadeOutRemaining) :
    Reader (Prog.store fun s => s.applyDiscontinuityEnvelope n) (fun _ y =>
      Tracked y ∧ y.1.consumer.live = x.1.consumer.live ∧
        (Cleared x.1.consumer → Cleared y.1.consumer)) x := by
  apply Reader.store
  intro t i hc hheard
  have htracked : Tracked (t, x.2) := h.apart ⟨hc, rfl⟩
  rw [← hc] at hdue ⊢
  obtain ⟨hheard', htracked'⟩ := block_step (i := i) hdue hheard htracked
  obtain ⟨hproducer, hlive, hcleared⟩ := block_kept n t
  exact ⟨hproducer, hheard', htracked', hlive, hcleared⟩

/-- Between two segments of a block: the source is live until the block has been filled. -/
structure Rendering (frames : Nat) (progress : Nat × Bool) (x : Source × Watch) : Prop where
  tracked : Tracked x
  standing : x.1.consumer.live = true ∨ Cleared x.1.consumer
  live : progress.1 < frames → x.1.consumer.live = true

theorem Rendering.apart {frames : Nat} {progress : Nat × Bool} (h : Rendering frames progress x)
    (hxy : Apart x y) : Rendering frames progress y := by
  refine ⟨h.tracked.apart hxy, ?_, ?_⟩
  · rw [hxy.1]
    exact h.standing
  · rw [hxy.1]
    exact h.live

theorem reader_renderRound {frames : Nat} {progress : Nat × Bool}
    (h : Rendering frames progress x) :
    Reader (renderRound frames progress) (fun r y => Sum.elim (fun p => Rendering frames p y)
      (fun _ => Tracked y ∧ (y.1.consumer.live = true ∨ Cleared y.1.consumer)) r) x := by
  unfold renderRound
  split
  · rename_i hleft
    apply Watched.bind
    apply (reader_trimAfterFade h.tracked (h.live hleft)).mono
    intro _ x₁ h₁
    apply Watched.bind
    apply Reader.load
    intro t i hc _
    have hat := (At.refl x₁).look hc i
    have htracked := h₁.tracked.of_at hat
    have hlive : t.consumer.live = true := hat.fades.live.trans h₁.live
    have hdue : t.consumer.trimAfterFade = true → 0 < t.consumer.fadeOutRemaining := by
      rw [hc]
      exact h₁.due
    generalize hsegment : (if 0 < t.consumer.fadeOutRemaining ∧
      t.consumer.fadeOutRemaining < frames - progress.1 then t.consumer.fadeOutRemaining
      else frames - progress.1) = segment
    have hfits : t.consumer.trimAfterFade = true → segment ≤ t.consumer.fadeOutRemaining := by
      intro htrim
      have hpos := hdue htrim
      split at hsegment
      · omega
      · omega
    dsimp only
    rw [hsegment]
    apply Watched.bind
    apply (reader_convertFrames (At.refl (t, x₁.2.look i t)) hlive).mono
    rintro ⟨produced, stopped⟩ x₂ h₂
    apply Watched.bind
    cases stopped with
    | true =>
      have h₂ : Halted x₂ := h₂
      apply (reader_block h₂.tracked ?_).mono
      · rintro _ x₃ ⟨h₃, -, hcleared⟩
        refine ⟨h₃, .inr (hcleared h₂.cleared), fun hlt => ?_⟩
        simp only [if_true] at hlt
        omega
      · intro _ htrim
        rw [h₂.cleared.trimAfterFade] at htrim
        cases htrim
    | false =>
      have h₂ : At t.consumer (x₁.2.look i t) x₂ := h₂
      have hlive₂ := h₂.fades.live.trans hlive
      apply (reader_block (htracked.of_at h₂) ?_).mono
      · rintro _ x₃ ⟨h₃, hlive₃, -⟩
        exact ⟨h₃, .inl (hlive₃.trans hlive₂), fun _ => hlive₃.trans hlive₂⟩
      · intro _ htrim
        simp only [Bool.false_eq_true, if_false]
        rw [h₂.fades.fadeOut]
        exact hfits (h₂.fades.trimAfterFade.symm.trans htrim)
  · exact ⟨h.tracked, h.standing⟩

theorem reader_renderLive {frames : Nat} (h : Tracked x) (hlive : x.1.consumer.live = true) :
    Reader (sourceRenderLive frames) (fun _ y =>
      Tracked y ∧ (y.1.consumer.live = true ∨ Cleared y.1.consumer)) x := by
  apply Watched.iterate (Rendering frames) (fun _ _ _ hrely _ h => Rendering.apart h hrely)
    ⟨h, .inl hlive, fun _ => hlive⟩
  intro progress y _ hy
  exact reader_renderRound hy

theorem reader_handleUnderrun (h : Tracked x)
    (hstanding : x.1.consumer.live = true ∨ Cleared x.1.consumer) :
    Reader sourceHandleUnderrun (fun _ => Tracked) x := by
  apply Watched.bind
  apply (Reader.unheard (.store unheard_bumpUnderruns) (At.refl x)).mono
  intro _ x₀ h₀
  apply Watched.bind
  apply (Reader.unheard (.load Unheard.refl _) h₀).mono
  intro target x₁ h₁
  apply Watched.bind
  apply (Reader.unheard (.store (unheard_raiseTarget _)) h₁).mono
  intro _ x₂ h₂
  apply Reader.store
  intro t i hc hheard
  have hstanding' : t.consumer.live = true ∨ Cleared t.consumer := by
    rw [hc]
    exact hstanding.imp h₂.fades.live.trans fun hcleared => hcleared.same h₂.fades
  obtain ⟨hheard', htracked⟩ := rebuffer_step (i := i) hstanding' hheard
    ((h.of_at h₂).apart ⟨hc, rfl⟩)
  exact ⟨rfl, hheard', htracked⟩

/-! ## The way back to live -/

/-- The backlog was measured in this order, after a look at the clock. -/
def Measured (nowMs : UInt32) (backlog : Backlog) (looked : List Moment) : Prop :=
  ∃ clock rate read write target : Moment, [clock, rate, read, write, target].Sublist looked ∧
    clock.answer.nowMs = nowMs ∧ backlog.targetMs = target.source.targetDelayMs ∧
    backlog.queueMs = queuedMs rate.source.producer.pendingSampleRate
      read.source.consumer.readCursor write.source.producer.writeCursor

theorem Measured.mono {nowMs : UInt32} {backlog : Backlog} {looked looked' : List Moment}
    (h : Measured nowMs backlog looked) (hle : looked.Sublist looked') :
    Measured nowMs backlog looked' := by
  obtain ⟨clock, rate, read, write, target, hsub, hrest⟩ := h
  exact ⟨clock, rate, read, write, target, hsub.trans hle, hrest⟩

theorem reader_queueMs {clock : Moment} (h : At c w x) (hclock : [clock].Sublist w.looked) :
    Reader sourceQueueMs (fun queueMs y => At c w y ∧ ∃ rate read write : Moment,
      [clock, rate, read, write].Sublist y.2.looked ∧
        queueMs = queuedMs rate.source.producer.pendingSampleRate
          read.source.consumer.readCursor write.source.producer.writeCursor) x := by
  apply Watched.bind
  apply Reader.load
  intro t₁ i₁ hc₁ hrate
  have h₁ := h.look hc₁ i₁
  have hs₁ : [clock, ⟨i₁, t₁⟩].Sublist (x.2.look i₁ t₁).looked :=
    (hclock.trans h.looked).append (.refl [_])
  rw [if_neg hrate]
  apply Watched.bind
  apply Watched.bind
  apply Reader.load
  intro t₂ i₂ hc₂ _
  have h₂ := h₁.look hc₂ i₂
  have hs₂ := hs₁.append (.refl [(⟨i₂, t₂⟩ : Moment)])
  apply Watched.bind
  apply Reader.load
  intro t₃ i₃ hc₃ _
  have h₃ := h₂.look hc₃ i₃
  have hs₃ := hs₂.append (.refl [(⟨i₃, t₃⟩ : Moment)])
  refine ⟨h₃, ⟨i₁, t₁⟩, ⟨i₂, t₂⟩, ⟨i₃, t₃⟩, hs₃, ?_⟩
  rw [queuedMs, if_neg hrate]

theorem reader_measureBacklog {nowMs : UInt32} {clock : Moment} (h : At c w x)
    (hclock : [clock].Sublist w.looked) (hnow : clock.answer.nowMs = nowMs) :
    Reader measureBacklog
      (fun backlog y => At c w y ∧ Measured nowMs backlog y.2.looked) x := by
  apply Watched.bind
  apply (reader_queueMs h hclock).mono
  rintro queueMs x₁ ⟨h₁, rate, read, write, hs₁, hqueue⟩
  apply Watched.bind
  apply Reader.load
  intro t i hc _
  have h₂ := h₁.look hc i
  have hs₂ := hs₁.append (.refl [(⟨i, t⟩ : Moment)])
  apply Watched.bind
  apply Reader.load
  intro u k hcu _
  have hs₃ := hs₂.trans (List.sublist_append_left _ [(⟨k, u⟩ : Moment)])
  exact ⟨h₂.look hcu k, clock, rate, read, write, ⟨i, t⟩, hs₃, hnow, rfl, hqueue⟩

/-- A trim without a fade-out meets a source that is not live. -/
theorem reader_startFadeIn {dropped : Nat} (h : Tracked x) (hlive : x.1.consumer.live = false)
    (hat : At x.1.consumer
      { x.2 with marks := if dropped = 0 then x.2.marks else .trim false :: x.2.marks } y) :
    Reader (Prog.when (0 < dropped) (Prog.store fun s => s.startFadeIn)) (fun _ z =>
      Tracked z ∧ x.2.looked.Sublist z.2.looked) y := by
  have hpaired : ∀ z : Consumer, SameFades x.1.consumer z → z.rebuffering = !z.live := by
    intro z hz
    rw [hz.rebuffering, hz.live]
    exact h.paired
  apply Watched.when
  · intro hpos
    rw [if_neg (Nat.pos_iff_ne_zero.mp hpos)] at hat
    apply Reader.store
    intro t i hc hheard
    have hfades : SameFades x.1.consumer t.consumer := by
      rw [hc]
      exact hat.fades
    have hafter : y.2.clean = true → Sound t.startFadeIn.consumer y.2.marks := by
      intro hclean
      rw [hat.marks]
      have hsound := (h.sound (hat.clean hclean)).same hfades
      exact (hsound.trimmedIdle (hfades.live.trans hlive)).same { SameFades.refl _ with }
    obtain ⟨hheard', htracked⟩ := counters_step (s := t) (t := t.startFadeIn) (i := i)
      rfl rfl rfl rfl rfl hheard (hpaired _ hfades) fun hclean _ => hafter hclean
    refine ⟨rfl, hheard', htracked, ?_⟩
    dsimp only
    rw [note_looked (s := t) (t := t.startFadeIn) rfl]
    exact hat.looked.trans (List.sublist_append_left _ _)
  · intro hnot
    rw [if_pos (Nat.eq_zero_of_not_pos hnot)] at hat
    exact ⟨h.of_at hat, hat.looked⟩

theorem reader_trimWhileRebuffering {nowMs : UInt32} {backlog : Backlog} (h : Tracked x)
    (hmeasured : Measured nowMs backlog x.2.looked) :
    Reader (trimWhileRebuffering backlog) (fun backlog' y =>
      Tracked y ∧ Measured nowMs backlog' y.2.looked) x := by
  apply Watched.bind
  apply Reader.load
  intro t i hc _
  have hat := (At.refl x).look hc i
  have h₁ := h.of_at hat
  have hmeasured₁ := hmeasured.mono hat.looked
  split
  · rename_i hdue
    have hlive : t.consumer.live = false := by
      have hpaired : t.consumer.rebuffering = !t.consumer.live := h₁.paired
      rw [hdue.1] at hpaired
      cases hl : t.consumer.live with
      | false => rfl
      | true => rw [hl] at hpaired; cases hpaired
    apply Watched.bind
    apply (reader_trimToTarget (At.refl (t, x.2.look i t)) ?_).mono
    · intro dropped x₂ h₂
      dsimp only at h₂
      rw [hlive] at h₂
      apply Watched.bind
      apply (reader_startFadeIn h₁ hlive h₂).mono
      rintro _ x₃ ⟨h₃, hlooked⟩
      obtain ⟨clock, rate, read, write, target, hsub, hnow, -⟩ := hmeasured₁.mono hlooked
      have hclock : [clock].Sublist x₃.2.looked :=
        (List.sublist_append_left [clock] [rate, read, write, target]).trans hsub
      apply (reader_measureBacklog (At.refl x₃) hclock hnow).mono
      rintro backlog' x₄ ⟨h₄, hmeasured'⟩
      exact ⟨h₃.of_at h₄, hmeasured'⟩
    · intro _
      dsimp only
      rw [hlive]
      trivial
  · exact ⟨h₁, hmeasured₁⟩

/-- The source goes live on the measured backlog, or on one that is stale. -/
theorem reader_leaveRebuffering {nowMs : UInt32} {backlog : Backlog} (h : Tracked x)
    (hmeasured : Measured nowMs backlog x.2.looked) :
    Reader (leaveRebuffering nowMs backlog) (fun _ => Tracked) x := by
  apply Watched.bind
  apply Reader.load
  intro t i hc _
  have h₁ := (At.refl x).look hc i
  apply Watched.when
  · intro hrebuffering
    apply Watched.bind
    apply Reader.load
    intro u k hcu _
    have h₂ := h₁.look hcu k
    apply Watched.when
    · intro hready
      apply Reader.store
      intro v l hcv hheard
      have htracked : Tracked (v, (x.2.look i t).look k u) := (h.of_at h₂).apart ⟨hcv, rfl⟩
      have hlive : v.consumer.live = false := by
        have hpaired : v.consumer.rebuffering = !v.consumer.live := htracked.paired
        rw [hcv, hcu, hrebuffering] at hpaired
        rw [hcv, hcu]
        cases hl : t.consumer.live with
        | false => rfl
        | true => rw [hl] at hpaired; cases hpaired
      have hnow : Ready ((x.2.look i t).look k u).looked := by
        obtain ⟨clock, rate, read, write, target, hsub, hnow, htarget, hqueue⟩ :=
          hmeasured.mono h₁.looked
        refine ⟨clock, rate, read, write, target, ⟨k, u⟩,
          hsub.append (.refl [(⟨k, u⟩ : Moment)]), ?_⟩
        rw [← htarget, ← hqueue, hnow]
        exact hready
      obtain ⟨hheard', htracked'⟩ := wentLive_step (i := l) hlive hnow hheard htracked.sound
      exact ⟨rfl, hheard', htracked'⟩
    · intro _
      exact h.of_at h₂
  · intro _
    exact h.of_at h₁

theorem reader_preparePlayout {nowMs : UInt32} {clock : Moment} (h : Tracked x)
    (hclock : [clock].Sublist x.2.looked) (hnow : clock.answer.nowMs = nowMs) :
    Reader (sourcePreparePlayout nowMs) (fun prepared y =>
      Tracked y ∧ y.1.consumer.live = prepared.1) x := by
  apply Watched.bind
  apply (reader_measureBacklog (At.refl x) hclock hnow).mono
  rintro measured x₁ ⟨h₁, hmeasured⟩
  apply Watched.bind
  apply (reader_trimWhileRebuffering (h.of_at h₁) hmeasured).mono
  rintro backlog x₂ ⟨h₂, hmeasured₂⟩
  apply Watched.bind
  apply (reader_leaveRebuffering h₂ hmeasured₂).mono
  intro _ x₃ h₃
  apply Watched.bind
  apply Reader.load
  intro t i hc _
  exact ⟨h₃.of_at ((At.refl x₃).look hc i), rfl⟩

/-! ## The callback -/

/-- A fade-out starts, unless one or its trim is pending. -/
theorem reader_prepareLiveRead {requested : Bool} (h : Tracked x)
    (hlive : x.1.consumer.live = true) :
    Reader (sourcePrepareLiveRead requested)
      (fun _ y => Tracked y ∧ y.1.consumer.live = true) x := by
  apply Reader.store
  intro t i hc hheard
  have htracked : Tracked (t, x.2) := h.apart ⟨hc, rfl⟩
  have hlive' : t.consumer.live = true := by
    rw [hc]
    exact hlive
  split
  · rename_i hstart
    have hafter : x.2.clean = true → Clean t.consumer t.startFadeOut.consumer →
        Sound t.startFadeOut.consumer x.2.marks := fun hclean hstep =>
      ((htracked.sound hclean).startFadeOut hlive' hstart.1 (hstep.1 hstart.1 rfl)).same
        { SameFades.refl _ with }
    obtain ⟨hheard', htracked'⟩ := counters_step (s := t) (t := t.startFadeOut) (i := i)
      rfl rfl rfl rfl rfl hheard htracked.paired hafter
    exact ⟨rfl, hheard', htracked', hlive'⟩
  · rw [(Unheard.refl t).note]
    exact ⟨rfl, hheard.look i t, htracked.of_at ((At.refl (t, x.2)).look rfl i), hlive'⟩

theorem reader_renderSilence {frames : Nat} (h : Tracked x) (hlive : x.1.consumer.live = false) :
    Reader (sourceRenderSilence frames) (fun _ => Tracked) x := by
  apply (reader_block h ?_).mono
  · intro _ y hy
    exact hy.1
  · intro hclean htrim
    rw [(h.sound hclean).idle hlive] at htrim
    cases htrim

theorem reader_readPrepared {frames : Nat} {prepared : Bool × Bool} (h : Tracked x)
    (hlive : x.1.consumer.live = prepared.1) :
    Reader (sourceReadPrepared frames prepared) (fun _ => Tracked) x := by
  unfold sourceReadPrepared
  split
  · rename_i hprepared
    apply Watched.bind
    apply (reader_prepareLiveRead h (hlive.trans hprepared)).mono
    rintro _ x₁ ⟨h₁, hlive₁⟩
    apply Watched.bind
    apply (reader_renderLive h₁ hlive₁).mono
    rintro underrun x₂ ⟨h₂, hstanding⟩
    apply Watched.when
    · intro _
      exact reader_handleUnderrun h₂ hstanding
    · intro _
      exact h₂
  · rename_i hprepared
    exact reader_renderSilence h (hlive.trans (Bool.not_eq_true _ ▸ hprepared))

/-- The callback of the mixer, from rest to rest. -/
theorem reader_sourceRead {frames : Nat} (h : Tracked x) :
    Reader (sourceRead frames) (fun _ => Tracked) x := by
  unfold sourceRead
  split
  · exact h
  · apply Watched.bind
    apply (reader_applyGeneration (At.refl x)).mono
    intro formatChanged x₁ h₁
    have h₁ : Tracked x₁ := by
      cases formatChanged with
      | true => exact Halted.tracked h₁
      | false => exact h.of_at h₁
    apply Watched.bind
    apply (reader_applyTalkspurt (At.refl x₁)).mono
    intro talkspurtChanged x₂ h₂
    have h₂ : Tracked x₂ := by
      cases talkspurtChanged with
      | true => exact Halted.tracked h₂
      | false => exact h₁.of_at h₂
    apply Watched.bind
    apply Reader.ask
    intro t i hc
    have hat₃ := (At.refl x₂).look hc i
    have hclock : [(⟨i, t⟩ : Moment)].Sublist (x₂.2.look i t).looked :=
      List.sublist_append_right _ _
    apply Watched.bind
    apply (Reader.unheard (.load Unheard.refl _) (At.refl (t, x₂.2.look i t))).mono
    intro opened x₄ hat₄
    apply Watched.bind
    apply (Reader.unheard (.load Unheard.refl _) hat₄).mono
    intro converter x₅ hat₅
    have h₅ : Tracked x₅ := (h₂.of_at hat₃).of_at hat₅
    split
    · apply Watched.bind
      apply Reader.store
      intro u k hcu hheard
      obtain ⟨hheard', htracked⟩ := unavailable_step (i := k) hheard (h₅.apart ⟨hcu, rfl⟩)
      exact ⟨rfl, hheard', reader_renderSilence htracked rfl⟩
    · apply Watched.bind
      apply (reader_preparePlayout h₅ (hclock.trans hat₅.looked) rfl).mono
      rintro prepared x₆ ⟨h₆, hlive⟩
      exact reader_readPrepared h₆ hlive

end Lgnome.Audio
