import Lgnome.Audio.RingChecks

/-!
# The reader keeps the ring

Trimming, converting and rendering move the read cursor at most to the end of
what was published before the last check, and convert only frames that were
clear there. All other steps of the reader leave the ring alone.
-/
namespace Lgnome.Audio

open Lgnome.Transition (Prog)
open Lgnome.Transition.Contract (Safe safe_of_keeps Stable)

/-! ## Steps that leave the ring alone -/

/-- A step of the reader that moves no cursor and applies no generation. -/
structure Quiet (s t : Source) : Prop where
  producer : t.producer = s.producer
  readCursor : t.consumer.readCursor = s.consumer.readCursor
  applied : t.consumer.appliedGeneration = s.consumer.appliedGeneration
  seen : t.consumer.seenTalkspurtGeneration = s.consumer.seenTalkspurtGeneration
  converter : t.consumer.converter = s.consumer.converter
  fading : t.consumer.trimAfterFade = true → s.consumer.trimAfterFade = true
  readAt : t.consumer.taken.readAt = s.consumer.taken.readAt
  seenCount : t.consumer.taken.seenCount = s.consumer.taken.seenCount
  appliedCount : t.consumer.taken.appliedCount = s.consumer.taken.appliedCount
  torn : t.consumer.taken.torn = s.consumer.taken.torn
  wrapped : t.consumer.taken.wrapped = s.consumer.taken.wrapped
  log : ∃ numerators : List Nat,
    t.consumer.taken.log = s.consumer.taken.log ++ numerators.map Event.output

theorem Quiet.refl (s : Source) : Quiet s s where
  producer := rfl
  readCursor := rfl
  applied := rfl
  seen := rfl
  converter := rfl
  fading h := h
  readAt := rfl
  seenCount := rfl
  appliedCount := rfl
  torn := rfl
  wrapped := rfl
  log := ⟨[], (List.append_nil _).symm⟩

theorem Quiet.trans {s t u : Source} (h : Quiet s t) (h' : Quiet t u) : Quiet s u where
  producer := h'.producer.trans h.producer
  readCursor := h'.readCursor.trans h.readCursor
  applied := h'.applied.trans h.applied
  seen := h'.seen.trans h.seen
  converter := h'.converter.trans h.converter
  fading hfade := h.fading (h'.fading hfade)
  readAt := h'.readAt.trans h.readAt
  seenCount := h'.seenCount.trans h.seenCount
  appliedCount := h'.appliedCount.trans h.appliedCount
  torn := h'.torn.trans h.torn
  wrapped := h'.wrapped.trans h.wrapped
  log := by
    obtain ⟨ns, hns⟩ := h.log
    obtain ⟨ms, hms⟩ := h'.log
    exact ⟨ns ++ ms, by rw [hms, hns, List.append_assoc, List.map_append]⟩

theorem Chained.outputs {log : List Event} {a : Nat} (h : Chained log a) (numerators : List Nat) :
    Chained (log ++ numerators.map Event.output) a := by
  induction numerators generalizing log with
  | nil => rwa [List.map_nil, List.append_nil]
  | cons n ns ih =>
    have hspans : (Event.output n).Spans a a := rfl
    have hn := ih (h.snoc hspans)
    rwa [List.append_assoc] at hn

theorem Quiet.mem_log {s t : Source} (h : Quiet s t) {event : Event}
    (hmem : event ∈ t.consumer.taken.log) :
    event ∈ s.consumer.taken.log ∨ ∃ n, event = .output n := by
  obtain ⟨numerators, hlog⟩ := h.log
  rw [hlog] at hmem
  rcases List.mem_append.mp hmem with hmem | hmem
  · exact .inl hmem
  · obtain ⟨n, -, hn⟩ := List.mem_map.mp hmem
    exact .inr ⟨n, hn.symm⟩

theorem Quiet.intact {s t : Source} (h : Quiet s t) (hs : Intact s) : Intact t := by
  obtain ⟨numerators, hlog⟩ := h.log
  refine ⟨?_, ?_⟩
  · rw [h.producer]
    refine { hs.coherent with
      read := ?_
      read_le := ?_
      fill := ?_
      ring := ?_
      chained := ?_
      sound := ?_ }
    · rw [h.readCursor, h.readAt]
      exact hs.coherent.read
    · rw [h.readAt]
      exact hs.coherent.read_le
    · rw [h.readAt]
      exact hs.coherent.fill
    · rw [h.readAt]
      exact hs.coherent.ring
    · rw [hlog, h.readAt]
      exact hs.coherent.chained.outputs numerators
    · intro event hmem
      rcases h.mem_log hmem with hold | ⟨n, rfl⟩
      · exact hs.coherent.sound event hold
      · trivial
  · rw [h.producer]
    refine { hs.tuned with
      applied := ?_
      seen_le := ?_
      applied_le := ?_
      queued := ?_
      standing := ?_
      inGeneration := ?_
      atRate := ?_ }
    · rw [h.applied, h.appliedCount]
      exact hs.tuned.applied
    · rw [h.seenCount]
      exact hs.tuned.seen_le
    · rw [h.appliedCount]
      exact hs.tuned.applied_le
    · rw [h.appliedCount, h.readAt, h.torn, h.converter]
      exact hs.tuned.queued
    · rw [h.appliedCount, h.torn, h.converter]
      exact hs.tuned.standing
    · intro hwrapped event hmem
      rcases h.mem_log hmem with hold | ⟨n, rfl⟩
      · exact hs.tuned.inGeneration (h.wrapped ▸ hwrapped) event hold
      · trivial
    · intro hwrapped htorn event hmem
      rcases h.mem_log hmem with hold | ⟨n, rfl⟩
      · exact hs.tuned.atRate (h.wrapped ▸ hwrapped) (h.torn ▸ htorn) event hold
      · trivial

theorem Quiet.moves {s t : Source} (h : Quiet s t) : ConsumerMoves s t :=
  ⟨h.producer, h.readAt.ge⟩

theorem Quiet.near {f k : Nat} {s t : Source} (h : Quiet s t) (hs : Near f k s) : Near f k t := by
  constructor
  · rw [h.applied]
    intro hne
    rw [h.producer] at hne ⊢
    rw [h.readAt]
    exact hs.format hne
  · rw [h.seen]
    intro hne
    rw [h.producer] at hne ⊢
    rw [h.readAt]
    exact hs.talkspurt hne

theorem Quiet.settled {s t : Source} (h : Quiet s t) (hs : Settled s) : Settled t :=
  ⟨h.near hs.near, fun hfade => h.near (hs.fading (h.fading hfade))⟩

theorem quiet_fadeFrame (s : Source) : Quiet s s.fadeFrame := by
  unfold Source.fadeFrame
  split
  · exact { Quiet.refl s with log := ⟨[s.consumer.fadeOutRemaining], rfl⟩ }
  · split
    · exact { Quiet.refl s with
        log := ⟨[fadeFrames - s.consumer.fadeInRemaining + 1], rfl⟩ }
    · exact { Quiet.refl s with log := ⟨[fadeFrames], rfl⟩ }

theorem quiet_envelope (n : Nat) (s : Source) :
    Quiet s (Source.applyDiscontinuityEnvelope n s) := by
  induction n generalizing s with
  | zero => exact .refl s
  | succ n ih => exact (quiet_fadeFrame s).trans (ih s.fadeFrame)

/-- Quiet programs keep every fact about the ring that is stable. -/
theorem safe_of_quiet {α : Type} {A : Source → Prop} {q : Prog Answer Source α} {s : Source}
    (hA : ∀ s t, ProducerMoves s t → A s → A t) (hquiet : ∀ s t, Quiet s t → A s → A t)
    (hq : q.Keeps Quiet) (hs : A s) : contract.Safe .consumer q (fun _ => A) s :=
  safe_of_keeps (fun s t hrely _ => hA s t hrely)
    (fun s t h hinv hs => ⟨h.intact hinv, h.moves, hquiet s t h hs⟩) hq hs

theorem keeps_queueMs : sourceQueueMs.Keeps Quiet := by
  apply Prog.Keeps.bind (.load Quiet.refl _)
  intro rate
  split
  · trivial
  · apply Prog.Keeps.bind
    · apply Prog.Keeps.bind (.load Quiet.refl _)
      intro _
      apply Prog.Keeps.bind (.load Quiet.refl _)
      intro _
      trivial
    · intro _
      trivial

theorem keeps_measureBacklog : measureBacklog.Keeps Quiet := by
  apply Prog.Keeps.bind keeps_queueMs
  intro _
  apply Prog.Keeps.bind (.load Quiet.refl _)
  intro _
  apply Prog.Keeps.bind (.load Quiet.refl _)
  intro _
  trivial

theorem keeps_leaveRebuffering (nowMs : UInt32) (backlog : Backlog) :
    (leaveRebuffering nowMs backlog).Keeps Quiet := by
  apply Prog.Keeps.bind (.load Quiet.refl _)
  intro _
  apply Prog.Keeps.when
  apply Prog.Keeps.bind (.load Quiet.refl _)
  intro _
  apply Prog.Keeps.when
  exact .store fun s => { Quiet.refl s with }

theorem keeps_handleUnderrun : sourceHandleUnderrun.Keeps Quiet := by
  apply Prog.Keeps.bind (.store fun s => { Quiet.refl s with })
  intro _
  apply Prog.Keeps.bind (.load Quiet.refl _)
  intro _
  apply Prog.Keeps.bind
  · apply Prog.Keeps.store
    intro s
    unfold Source.raiseTarget
    dsimp only
    split
    · exact { Quiet.refl s with }
    · exact .refl s
  · intro _
    exact .store fun s => { Quiet.refl s with fading := fun h => absurd h Bool.false_ne_true }

theorem keeps_renderSilence (frames : Nat) : (sourceRenderSilence frames).Keeps Quiet :=
  .store (quiet_envelope frames)

/-! ## Trims -/

theorem quiet_trimRequested (s : Source) (requested : Bool) :
    Quiet s (s.storeTrimRequested requested) :=
  { Quiet.refl s with }

/-- A quiet store at the end of a program. -/
theorem safe_quiet_store {A : Source → Prop} {f : Source → Source} {post : Unit → Source → Prop}
    {s : Source} (hA : ∀ s t, ProducerMoves s t → A s → A t) (hf : ∀ s, Quiet s (f s))
    (hpost : ∀ t, A t → post () (f t)) (hs : A s) :
    contract.Safe .consumer (Prog.store f : Prog Answer Source Unit) post s := by
  apply Safe.store
  intro t hrely hinv
  exact ⟨(hf t).intact hinv, (hf t).moves, hpost t (hA s t hrely hs)⟩

/-- What is left of `w - r` frames after all but `keep` are dropped. -/
theorem trim_target {r w : Nat} {keep : UInt32} (hle : r ≤ w)
    (hw : w - r < 4294967296) (hkeep : ¬ UInt32.ofNat w - UInt32.ofNat r ≤ keep) :
    ∃ b, r ≤ b ∧ b ≤ w ∧
      UInt32.ofNat r + (UInt32.ofNat w - UInt32.ofNat r - keep) = UInt32.ofNat b := by
  have hlt := UInt32.not_le.mp hkeep
  have hsub := cursor_sub hle hw
  have hkeep' : keep.toNat ≤ w - r := by
    have := UInt32.lt_iff_toNat_lt.mp hlt
    omega
  refine ⟨r + (w - r - keep.toNat), by omega, by omega, ?_⟩
  rw [UInt32.ofNat_add, UInt32.ofNat_sub hkeep', UInt32.ofNat_sub hle, UInt32.ofNat_toNat]

theorem safe_trimToTarget {f k : Nat} {s : Source} (h : Near f k s) :
    contract.Safe .consumer sourceTrimToTarget (fun _ t => Near (f + 1) (k + 1) t) s := by
  apply Safe.bind
  apply Safe.load
  intro t hrely hinv
  have hnear := h.stable hrely
  have hcoherent : Coherent t.producer t.consumer := Intact.coherent hinv
  have hle := hcoherent.read_le
  have hfill := hcoherent.fill
  apply Safe.bind
  apply Safe.load
  intro u hrely' hinv'
  have hmoves : ProducerMoves t u := hrely'
  have hread : u.consumer.readCursor = UInt32.ofNat t.consumer.taken.readAt := by
    rw [hmoves.consumer]
    exact hcoherent.read
  rw [hcoherent.write, hread]
  apply Safe.bind
  apply Safe.load
  intro v hrely _
  apply Safe.bind
  apply Safe.load
  intro x hrely' _
  have hlater := (hmoves.trans hrely).trans hrely'
  generalize keepFrames v.targetDelayMs x.consumer.sampleRate = keep
  dsimp only
  split
  · apply Safe.bind
    apply safe_quiet_store (A := Near f k) (fun _ _ hmoves h => h.stable hmoves)
      (fun s => quiet_trimRequested s false) ?_ (hnear.stable hlater)
    intro y hy
    exact ((quiet_trimRequested y false).near hy).mono (Nat.le_succ f) (Nat.le_succ k)
  · rename_i hkeep
    obtain ⟨b, hrb, hbw, hcursor⟩ := trim_target hle
      (by simp only [pipelineCapacityFrames] at hfill; omega) hkeep
    rw [hcursor]
    apply Safe.bind
    apply Safe.store
    intro y hrely hinv
    have hlater : ProducerMoves t y := hlater.trans hrely
    have hready : y.consumer.taken.readAt = t.consumer.taken.readAt := by rw [hlater.consumer]
    have hlen := hlater.stored.length_le
    have hcoherent : Coherent y.producer y.consumer := Intact.coherent hinv
    have hby : y.consumer.taken.readAt ≤ b := by omega
    have hblen : b ≤ y.producer.sent.stored.length := by omega
    rw [storeReadCursor_eq hcoherent hby hblen]
    refine ⟨Intact.skipUpTo hinv hby hblen hblen, readUpTo_moves _ hby, ?_⟩
    have hmoved : Near (f + 1) (k + 1) (y.readUpTo b (.skipped .trim y.consumer.taken.readAt b)) :=
      (hnear.stable hlater).move _ (by omega)
    apply Safe.bind
    apply safe_quiet_store (A := Near (f + 1) (k + 1)) (fun _ _ hmoves h => h.stable hmoves)
      (fun s => quiet_trimRequested s false) ?_ hmoved
    intro z hz
    exact (quiet_trimRequested z false).near hz

/-! ## Conversion -/

/-- The reader is at `r`, and the frames up to `w` are `published` and clear. -/
structure Reading (r w : Nat) (converter : Option UInt32) (published : List Stored)
    (s : Source) : Prop where
  clear : Clear w converter s
  near : Near 1 0 s
  readAt : s.consumer.taken.readAt = r
  published : s.producer.sent.stored.take w = published

theorem Reading.stable {r w : Nat} {converter : Option UInt32} {published : List Stored}
    {s t : Source} (h : Reading r w converter published s) (hmoves : ProducerMoves s t) :
    Reading r w converter published t where
  clear := h.clear.stable hmoves
  near := h.near.stable hmoves
  readAt := by
    rw [hmoves.consumer]
    exact h.readAt
  published := by
    obtain ⟨more, hmore⟩ := hmoves.stored
    rw [← hmore, List.take_append_of_le_length h.clear.published]
    exact h.published

/-- A cell of the ring that lies before `w` holds the frame that was published for it. -/
theorem Reading.cell {r w i : Nat} {converter : Option UInt32} {published : List Stored}
    {s : Source} (h : Reading r w converter published s) (hinv : Intact s) (hi : r ≤ i)
    (hw : i < w) : ∃ x, published[i]? = some x ∧
      s.producer.ring (i % pipelineCapacityFrames) = x.frame := by
  have hlt : i < s.producer.sent.stored.length := hw.trans_le h.clear.published
  have hx := List.getElem?_eq_getElem hlt
  refine ⟨_, ?_, hinv.coherent.ring i _ (by rw [h.readAt]; exact hi) hx⟩
  rw [← h.published, List.getElem?_take_of_lt hw]
  exact hx

theorem safe_readFrames {r w k n pos : Nat} {converter : Option UInt32} {published : List Stored}
    {s : Source} (h : Reading r w converter published s) (hk : r + k + n ≤ w)
    (hpos : pos = r % pipelineCapacityFrames + k) (hn : pos + n ≤ pipelineCapacityFrames) :
    contract.Safe .consumer (readFrames n pos) (fun frames t =>
      frames = ((published.drop (r + k)).take n).map (fun x => x.frame) ∧
        Reading r w converter published t) s := by
  induction n generalizing k pos s with
  | zero => exact ⟨rfl, h⟩
  | succ n ih =>
    apply Safe.bind
    apply Safe.load
    intro t hrely hinv
    have ht := h.stable hrely
    obtain ⟨x, hx, hcell⟩ := ht.cell hinv (i := r + k) (by omega) (by omega)
    have hmod : (r + k) % pipelineCapacityFrames = pos := by
      simp only [pipelineCapacityFrames] at *
      omega
    rw [hmod] at hcell
    apply Safe.bind
    apply (ih (k := k + 1) ht (by omega) (by omega) (by omega)).mono
    rintro rest u ⟨rfl, hu⟩
    refine ⟨?_, hu⟩
    have hdrop : published.drop (r + k) = x :: published.drop (r + (k + 1)) := by
      obtain ⟨hlt, hget⟩ := List.getElem?_eq_some_iff.mp hx
      rw [List.drop_eq_getElem_cons hlt, hget]
      rfl
    rw [hdrop, List.take_succ_cons, List.map_cons, hcell]

/-- The frames that were read are those of the segment. -/
theorem Reading.segment {r w n : Nat} {converter : Option UInt32} {published : List Stored}
    {s : Source} (h : Reading r w converter published s) (hn : r + n ≤ w) :
    (published.drop r).take n = s.producer.sent.segment r n := by
  rw [← h.published, Sent.segment, List.drop_take, List.take_take, Nat.min_eq_left (by omega)]

theorem safe_finishConversion {r w frames made : Nat} {rate : UInt32} {success : Bool}
    {published : List Stored} {input : List Frame} {s : Source}
    (h : Reading r w (some rate) published s) (hlen : r + input.length ≤ w)
    (hinput : input = ((published.drop r).take input.length).map fun x => x.frame) :
    contract.Safe .consumer
      (finishConversion (UInt32.ofNat r) input frames made success) (fun _ => Settled) s := by
  apply Safe.bind
  refine Safe.mono (?_ : contract.Safe .consumer _ (fun _ => Settled) s) ?_
  · apply Safe.when
    · intro _
      apply Safe.store
      intro t hrely hinv
      have ht := h.stable hrely
      have hread := ht.readAt
      have hlen' : r + input.length ≤ t.producer.sent.stored.length :=
        hlen.trans ht.clear.published
      have hseg := ht.segment hlen
      have hfill := (Intact.coherent hinv).fill
      rw [← UInt32.ofNat_add, storeReadCursor_eq (Intact.coherent hinv) (by omega) hlen', hread]
      have hmem : ∀ x ∈ t.producer.sent.segment r input.length, ∃ i,
          t.consumer.taken.readAt ≤ i ∧ i < w ∧ t.producer.sent.stored[i]? = some x := by
        intro x hx
        obtain ⟨i, hi, hlt, hget⟩ := mem_segment hx
        exact ⟨i, by omega, by omega, hget⟩
      refine ⟨Intact.readUpTo hinv (by omega) hlen' ⟨hread.symm, by rw [hread]⟩
        ⟨hlen', by rw [← hseg]; exact hinput⟩ ?_ ?_, readUpTo_moves _ (by omega), ?_⟩
      · intro hwrapped x hx
        obtain ⟨i, hi, hlt, hget⟩ := hmem x hx
        exact ht.clear.generation hwrapped i x hi hlt hget
      · intro hwrapped htorn x hx
        obtain ⟨i, hi, hlt, hget⟩ := hmem x hx
        rw [ht.clear.setup]
        exact ht.clear.rate hwrapped htorn i x hi hlt hget rate rfl
      · exact (ht.near.move _ (by omega)).settled (by omega) (by omega)
    · intro _
      exact h.near.settled (by omega) (by omega)
  · intro _ t ht
    split
    · exact ht
    · exact ht

theorem safe_convertQueued {w frames produced : Nat} {rate : UInt32} {s : Source}
    (hclear : Clear w (some rate) s) (hnear : Near 1 0 s) :
    contract.Safe .consumer (convertQueued (UInt32.ofNat w) frames produced)
      (fun _ => Settled) s := by
  apply Safe.bind
  apply Safe.load
  intro t hrely hinv
  have hclear := hclear.stable hrely
  have hnear := hnear.stable hrely
  have hcoherent : Coherent t.producer t.consumer := Intact.coherent hinv
  have hfill := hcoherent.fill
  have hahead := hclear.ahead
  have hpublished := hclear.published
  have hsub := cursor_sub hahead
    (by simp only [pipelineCapacityFrames] at hfill; omega)
  rw [hcoherent.read]
  dsimp only
  split
  · exact hnear.settled (by omega) (by omega)
  · apply Safe.bind
    apply Safe.ask
    intro u hrely' _ answer
    have hu : Reading t.consumer.taken.readAt w (some rate) (t.producer.sent.stored.take w) u :=
      Reading.stable ⟨hclear, hnear, rfl, rfl⟩ hrely'
    rw [cursor_cell, hsub]
    generalize hn : min answer.consumed (min (pipelineCapacityFrames -
      t.consumer.taken.readAt % pipelineCapacityFrames) (w - t.consumer.taken.readAt)) = n
    have hmod : t.consumer.taken.readAt % pipelineCapacityFrames < pipelineCapacityFrames :=
      Nat.mod_lt _ (by decide)
    apply Safe.bind
    apply (safe_readFrames (k := 0) hu (by omega) (by omega) (by omega)).mono
    rintro input v ⟨hinput, hv⟩
    rw [Nat.add_zero] at hinput
    have hlength : input.length = n := by
      rw [hinput, List.length_map, List.length_take, List.length_drop, List.length_take]
      omega
    refine safe_finishConversion hv (by omega) ?_
    rw [hlength]
    exact hinput

theorem safe_convertFrames {frames : Nat} {s : Source} (h : Settled s) :
    contract.Safe .consumer (sourceConvertFrames frames) (fun _ => Settled) s := by
  refine ⟨fun _ => Settled, fun _ _ _ hrely _ h => Settled.stable h hrely, h, ?_⟩
  intro produced s _ h
  refine Safe.mono (?_ : contract.Safe .consumer _ (fun _ => Settled) s) ?_
  · apply Safe.bind
    apply Safe.load
    intro t hrely _
    have ht := h.stable hrely
    split
    · rename_i hready
      obtain ⟨rate, hrate⟩ := Option.isSome_iff_exists.mp hready.2
      apply Safe.bind
      apply Safe.load
      intro u hrely' hinv
      have hmoves : ProducerMoves t u := hrely'
      have hu := ht.stable hmoves
      have hcoherent : Coherent u.producer u.consumer := Intact.coherent hinv
      have hsetup : u.consumer.converter = some rate := by rw [hmoves.consumer, hrate]
      rw [hcoherent.write]
      apply Safe.bind
      apply (safe_applyGeneration hu.near hcoherent.read_le le_rfl).mono
      rintro formatChanged v ⟨hnear, hclear⟩
      rw [hsetup] at hclear
      apply Safe.bind
      apply (safe_applyTalkspurt (A := fun s => formatChanged = false →
        Clear u.producer.sent.stored.length (some rate) s)
        (fun _ _ hmoves h hfalse => (h hfalse).stable hmoves) hnear hclear).mono
      rintro talkspurtChanged x ⟨hnear', hclear'⟩
      split
      · exact hnear'.settled (by omega) (by omega)
      · rename_i hsame
        simp only [not_or, Bool.not_eq_true] at hsame
        exact safe_convertQueued (hclear' hsame.2 hsame.1) hnear'
    · exact ht
  · intro x t ht
    cases x with
    | inl g => exact ht
    | inr b => exact ht

/-! ## Rendering -/

theorem quiet_finishTrim (s : Source) : Quiet s s.finishTrim :=
  { Quiet.refl s with fading := fun h => absurd h Bool.false_ne_true }

theorem safe_trimAfterFade {s : Source} (h : Settled s) :
    contract.Safe .consumer trimAfterFade (fun _ => Settled) s := by
  apply Safe.bind
  apply Safe.load
  intro t hrely _
  have ht := h.stable hrely
  apply Safe.when
  · intro hdue
    have hfade : t.consumer.trimAfterFade = true := (Bool.and_eq_true_iff.mp hdue).1
    apply Safe.bind
    apply (safe_trimToTarget (ht.fading hfade)).mono
    intro _ u hu
    apply safe_quiet_store (A := Near 4 4) (fun _ _ hmoves h => h.stable hmoves)
      quiet_finishTrim ?_ hu
    intro v hv
    exact ⟨⟨hv.format, hv.talkspurt⟩, fun h => absurd h Bool.false_ne_true⟩
  · intro _
    exact ht

theorem safe_renderLive {frames : Nat} {s : Source} (h : Settled s) :
    contract.Safe .consumer (sourceRenderLive frames) (fun _ => Settled) s := by
  refine ⟨fun _ => Settled, fun _ _ _ hrely _ h => Settled.stable h hrely, h, ?_⟩
  intro progress s _ h
  unfold renderRound
  split
  · apply Safe.bind
    apply (safe_trimAfterFade h).mono
    intro _ t ht
    apply Safe.bind
    apply Safe.load
    intro u hrely _
    have hu := ht.stable hrely
    dsimp only
    apply Safe.bind
    apply (safe_convertFrames hu).mono
    intro converted v hv
    apply Safe.bind
    exact safe_quiet_store (fun _ _ hmoves h => Settled.stable h hmoves) (quiet_envelope _)
      (fun t ht => (quiet_envelope _ t).settled ht) hv
  · exact h

/-! ## The callback -/

theorem safe_preparePlayout {nowMs : UInt32} {s : Source} (h : Near 1 0 s) :
    contract.Safe .consumer (sourcePreparePlayout nowMs) (fun _ => Near 2 1) s := by
  have hquiet : ∀ f k, ∀ s t, Quiet s t → Near f k s → Near f k t := fun _ _ _ _ h hs => h.near hs
  have hstable : ∀ f k, ∀ s t, ProducerMoves s t → Near f k s → Near f k t :=
    fun _ _ _ _ hmoves h => h.stable hmoves
  apply Safe.bind
  apply (safe_of_quiet (hstable 1 0) (hquiet 1 0) keeps_measureBacklog h).mono
  intro measured t ht
  apply Safe.bind
  refine Safe.mono (?_ : contract.Safe .consumer _ (fun _ => Near 2 1) t) ?_
  · apply Safe.bind
    apply Safe.load
    intro u hrely _
    have hu := ht.stable hrely
    split
    · apply Safe.bind
      apply (safe_trimToTarget hu).mono
      intro dropped v hv
      apply Safe.bind
      refine Safe.mono (?_ : contract.Safe .consumer _ (fun _ => Near 2 1) v) ?_
      · apply Safe.when
        · intro _
          exact safe_quiet_store (hstable 2 1) (fun s => { Quiet.refl s with })
            (fun t ht => ⟨ht.format, ht.talkspurt⟩) hv
        · intro _
          exact hv
      · intro _ x hx
        exact safe_of_quiet (hstable 2 1) (hquiet 2 1) keeps_measureBacklog hx
    · exact hu.mono (by omega) (by omega)
  · intro backlog u hu
    apply Safe.bind
    apply (safe_of_quiet (hstable 2 1) (hquiet 2 1) (keeps_leaveRebuffering nowMs backlog) hu).mono
    intro _ v hv
    apply Safe.bind
    apply Safe.load
    intro x hrely _
    exact Near.stable hv hrely

theorem safe_prepareLiveRead {requested : Bool} {s : Source} (h : Near 2 1 s) :
    contract.Safe .consumer (sourcePrepareLiveRead requested) (fun _ => Settled) s := by
  apply Safe.store
  intro t hrely hinv
  have ht := h.stable hrely
  have hcoherent : Coherent t.producer t.consumer := Intact.coherent hinv
  have htuned : Tuned t.producer t.consumer := Intact.tuned hinv
  split
  · have hstart : Near 2 1 t.startFadeOut := ⟨ht.format, ht.talkspurt⟩
    exact ⟨⟨{ hcoherent with }, { htuned with }⟩, ⟨rfl, le_rfl⟩,
      hstart.settled (by omega) (by omega)⟩
  · exact ⟨hinv, ConsumerMoves.refl t, ht.settled (by omega) (by omega)⟩

theorem safe_readPrepared {frames : Nat} {prepared : Bool × Bool} {s : Source} (h : Near 2 1 s) :
    contract.Safe .consumer (sourceReadPrepared frames prepared) (fun _ => Settled) s := by
  have hquiet : ∀ s t, Quiet s t → Settled s → Settled t := fun _ _ h hs => h.settled hs
  have hstable : ∀ s t, ProducerMoves s t → Settled s → Settled t :=
    fun _ _ hmoves h => h.stable hmoves
  unfold sourceReadPrepared
  split
  · apply Safe.bind
    apply (safe_prepareLiveRead h).mono
    intro _ t ht
    apply Safe.bind
    apply (safe_renderLive ht).mono
    intro underrun u hu
    apply Safe.when
    · intro _
      exact safe_of_quiet hstable hquiet keeps_handleUnderrun hu
    · intro _
      exact hu
  · exact safe_of_quiet hstable hquiet (keeps_renderSilence frames)
      (h.settled (by omega) (by omega))

/-- The callback of the mixer keeps the contract from rest to rest. -/
theorem safe_sourceRead {frames : Nat} {s : Source} (hinv : Intact s) (h : Settled s) :
    contract.Safe .consumer (sourceRead frames) (fun _ => Settled) s := by
  have hquiet : ∀ s t, Quiet s t → Settled s → Settled t := fun _ _ h hs => h.settled hs
  have hstable : ∀ s t, ProducerMoves s t → Settled s → Settled t :=
    fun _ _ hmoves h => h.stable hmoves
  unfold sourceRead
  split
  · exact h
  · apply Safe.bind
    apply (safe_applyGeneration h.near hinv.coherent.read_le le_rfl).mono
    rintro _ t ⟨ht, -⟩
    apply Safe.bind
    apply (safe_applyTalkspurt (A := fun _ => True) (fun _ _ _ h => h) ht trivial).mono
    rintro _ u ⟨hu, -⟩
    apply Safe.bind
    apply Safe.ask
    intro v hrely _ answer
    have hv := hu.stable hrely
    apply Safe.bind
    apply Safe.load
    intro x hrely _
    have hx := hv.stable hrely
    apply Safe.bind
    apply Safe.load
    intro y hrely _
    have hy := hx.stable hrely
    split
    · apply Safe.bind
      exact safe_quiet_store hstable (fun s => { Quiet.refl s with })
        (fun t ht => safe_of_quiet hstable hquiet (keeps_renderSilence frames)
          (Quiet.settled { Quiet.refl t with } ht))
        (hy.settled (by omega) (by omega))
    · apply Safe.bind
      apply (safe_preparePlayout hy).mono
      intro prepared z hz
      exact safe_readPrepared hz

end Lgnome.Audio
