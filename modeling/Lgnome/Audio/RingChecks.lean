import Lgnome.Audio.RingContract

/-!
# The reader's two checks

Every store of the read cursor goes to a position between the old one and the
end of what is published. A boundary the cursor has passed reads as one far
ahead, because the cursor is only a few rings past the boundary of a generation
that is not applied. A check that finds nothing new leaves the frames published
before it clear for the converter.
-/
namespace Lgnome.Audio

open Lgnome.Transition (Prog)
open Lgnome.Transition.Contract (Safe safe_of_keeps Stable)

/-! ## Stores of the read cursor -/

/-- The read cursor at position `b`. -/
def Source.readUpTo (s : Source) (b : Nat) (event : Event) : Source :=
  { s with consumer := { s.consumer with
      readCursor := UInt32.ofNat b
      taken := { s.consumer.taken with
        readAt := b
        log := s.consumer.taken.log ++ [event] } } }

theorem storeReadCursor_eq {s : Source} (h : Coherent s.producer s.consumer) {b : Nat}
    (hb : s.consumer.taken.readAt ≤ b) (hlen : b ≤ s.producer.sent.stored.length)
    (event : Nat → Nat → Event) :
    s.storeReadCursor (UInt32.ofNat b) event = s.readUpTo b (event s.consumer.taken.readAt b) := by
  have hfill := h.fill
  have hsub : (UInt32.ofNat b - s.consumer.readCursor).toNat = b - s.consumer.taken.readAt := by
    rw [h.read]
    refine cursor_sub hb ?_
    simp only [pipelineCapacityFrames] at hfill
    omega
  simp only [Source.storeReadCursor, hsub, Nat.add_sub_cancel' hb, Source.readUpTo]

/-- Any event that accounts for the frames up to `b` may move the cursor there. -/
theorem Intact.readUpTo {s : Source} (h : Intact s) {b : Nat} {event : Event}
    (hb : s.consumer.taken.readAt ≤ b) (hlen : b ≤ s.producer.sent.stored.length)
    (hspans : event.Spans s.consumer.taken.readAt b) (hsound : event.Sound s.producer.sent)
    (hgeneration : s.consumer.taken.wrapped = false → event.InGeneration s.producer.sent)
    (hrate : s.consumer.taken.wrapped = false → s.consumer.taken.torn = false →
      event.AtRate s.producer.sent) : Intact (s.readUpTo b event) := by
  have hfill := h.coherent.fill
  refine ⟨{ h.coherent with
    read := rfl
    read_le := hlen
    fill := ?_
    ring := ?_
    chained := h.coherent.chained.snoc hspans
    sound := ?_ }, { h.tuned with
    queued := ?_
    inGeneration := ?_
    atRate := ?_ }⟩
  · simp only [Source.readUpTo]
    omega
  · intro i x hi hx
    exact h.coherent.ring i x (hb.trans hi) hx
  · intro e he
    rcases List.mem_append.mp he with he | he
    · exact h.coherent.sound e he
    · rw [List.mem_singleton.mp he]
      exact hsound
  · intro hcount i x hi hx
    exact h.tuned.queued hcount i x (hb.trans hi) hx
  · intro hwrapped e he
    rcases List.mem_append.mp he with he | he
    · exact h.tuned.inGeneration hwrapped e he
    · rw [List.mem_singleton.mp he]
      exact hgeneration hwrapped
  · intro hwrapped htorn e he
    rcases List.mem_append.mp he with he | he
    · exact h.tuned.atRate hwrapped htorn e he
    · rw [List.mem_singleton.mp he]
      exact hrate hwrapped htorn

theorem Intact.skipUpTo {s : Source} (h : Intact s) {b : Nat} {why : Reason}
    (hb : s.consumer.taken.readAt ≤ b) (hlen : b ≤ s.producer.sent.stored.length)
    (hsound : (Event.skipped why s.consumer.taken.readAt b).Sound s.producer.sent) :
    Intact (s.readUpTo b (.skipped why s.consumer.taken.readAt b)) :=
  h.readUpTo hb hlen ⟨rfl, rfl, hb⟩ hsound (fun _ => trivial) fun _ _ => trivial

theorem readUpTo_moves {s : Source} {b : Nat} (event : Event) (hb : s.consumer.taken.readAt ≤ b) :
    ConsumerMoves s (s.readUpTo b event) := ⟨rfl, hb⟩

/-- The boundary is stored when it lies ahead and left alone when it has been passed. -/
theorem safe_advanceReadCursor (A A' : Source → Prop) {why : Reason} {b : Nat} {s : Source}
    (hA : contract.Stable .consumer A)
    (hb : ∀ t, Intact t → A t → b ≤ t.producer.sent.stored.length ∧
      t.consumer.taken.readAt ≤ b + 5 * pipelineCapacityFrames ∧
      ∀ start, (Event.skipped why start b).Sound t.producer.sent)
    (hmove : ∀ t event, A t → t.consumer.taken.readAt ≤ b →
      b ≤ t.consumer.taken.readAt + pipelineCapacityFrames → A' (t.readUpTo b event))
    (hstay : ∀ t, A t → b < t.consumer.taken.readAt → A' t) (hs : A s) :
    contract.Safe .consumer (sourceAdvanceReadCursor why (UInt32.ofNat b)) (fun _ => A') s := by
  apply Safe.bind
  apply Safe.load
  intro t hrely hinv
  have hcoherent : Coherent t.producer t.consumer := Intact.coherent hinv
  have ht := hA s t hrely hinv hs
  obtain ⟨hlen, hpast, hsound⟩ := hb t hinv ht
  rw [hcoherent.read]
  apply Safe.when
  · intro hle
    have hahead : t.consumer.taken.readAt ≤ b := by
      by_contra hlt
      have hfar := cursor_sub_passed (Nat.lt_of_not_le hlt)
        (by simp only [pipelineCapacityFrames] at hpast ⊢; omega)
      omega
    apply Safe.store
    intro u hrely' hinv'
    have hu := hA t u hrely' hinv' ht
    have hconsumer : u.consumer = t.consumer := ProducerMoves.consumer hrely'
    have hahead' : u.consumer.taken.readAt ≤ b := by rw [hconsumer]; exact hahead
    obtain ⟨hlen', -, hsound'⟩ := hb u hinv' hu
    rw [storeReadCursor_eq (Intact.coherent hinv') hahead' hlen']
    refine ⟨Intact.skipUpTo hinv' hahead' hlen' (hsound' _), readUpTo_moves _ hahead', ?_⟩
    exact hmove u _ hu hahead' (hlen'.trans (Intact.coherent hinv').fill)
  · intro hgt
    apply hstay t ht
    by_contra hle
    have hle' : t.consumer.taken.readAt ≤ b := Nat.le_of_not_lt hle
    have hfill := hcoherent.fill
    have hsub := cursor_sub hle' (by simp only [pipelineCapacityFrames] at hfill ⊢; omega)
    rw [hsub] at hgt
    omega

/-! ## A new generation -/

/-- The generation was read as `g`. Any later one resets at or past the reader. -/
structure Seen (g : UInt32) (k : Nat) (s : Source) : Prop where
  seen : g = UInt32.ofNat s.consumer.taken.seenCount
  count : s.consumer.taken.seenCount ≤ s.producer.sent.formatCount
  behind : Behind g 0 s
  talkspurt : BehindTalkspurt s.consumer.seenTalkspurtGeneration (k * pipelineCapacityFrames) s

/-- The loaded rate, as long as no further call has finished: it is in force, or belongs to a call
under way. -/
def RateLoaded (s : Source) : Prop :=
  s.producer.sent.formatCount = s.consumer.taken.seenCount →
    s.consumer.sampleRate = s.producer.sent.inForce ∨ s.producer.sent.phase ≠ .idle

/-- The loaded rate is right for every frame from `b` on, as long as no further call has
finished. -/
structure Fit (b : Nat) (s : Source) : Prop where
  generation : s.producer.sent.formatCount = s.consumer.taken.seenCount → ∀ i x, b ≤ i →
    s.producer.sent.stored[i]? = some x → x.generation = s.consumer.taken.seenCount
  rate : s.producer.sent.formatCount = s.consumer.taken.seenCount → s.consumer.taken.torn = false →
    ∀ i x, b ≤ i → s.producer.sent.stored[i]? = some x → x.rate = s.consumer.sampleRate
  idle : s.producer.sent.formatCount = s.consumer.taken.seenCount → s.consumer.taken.torn = false →
    s.producer.sent.phase = .idle → s.consumer.sampleRate = s.producer.sent.inForce

/-- A frame seen later was there before or was published under the format in force. -/
theorem ProducerMoves.frame {s t : Source} (h : ProducerMoves s t)
    (hcount : t.producer.sent.formatCount = s.producer.sent.formatCount) {i : Nat} {x : Stored}
    (hx : t.producer.sent.stored[i]? = some x) :
    s.producer.sent.stored[i]? = some x ∨ s.producer.sent.phase = .idle ∧
      x.generation = s.producer.sent.formatCount ∧ x.rate = s.producer.sent.inForce := by
  by_cases hi : i < s.producer.sent.stored.length
  · rw [stored_earlier h.stored hi] at hx
    exact .inl hx
  · by_cases hphase : s.producer.sent.phase = .idle
    · exact .inr ⟨hphase, h.idle hcount hphase i x (Nat.le_of_not_lt hi) hx⟩
    · rw [(h.busy hcount hphase).2] at hx
      exact .inl hx

theorem Seen.stable {g : UInt32} {k : Nat} {s t : Source} (h : Seen g k s)
    (hmoves : ProducerMoves s t) : Seen g k t := by
  refine ⟨?_, ?_, h.behind.stable hmoves, ?_⟩
  · rw [hmoves.consumer]
    exact h.seen
  · rw [hmoves.consumer]
    exact h.count.trans hmoves.count
  · rw [hmoves.consumer]
    exact h.talkspurt.stable hmoves

/-- No call has finished since, if none has by now. -/
theorem Seen.same {g : UInt32} {k : Nat} {s t : Source} (h : Seen g k s)
    (hmoves : ProducerMoves s t)
    (hcount : t.producer.sent.formatCount = t.consumer.taken.seenCount) :
    t.producer.sent.formatCount = s.producer.sent.formatCount ∧
      s.producer.sent.formatCount = s.consumer.taken.seenCount := by
  rw [hmoves.consumer] at hcount
  have := h.count
  have := hmoves.count
  omega

theorem RateLoaded.stable {g : UInt32} {k : Nat} {s t : Source} (h : RateLoaded s)
    (hseen : Seen g k s) (hmoves : ProducerMoves s t) : RateLoaded t := by
  intro hcount
  obtain ⟨hsame, hcount'⟩ := hseen.same hmoves hcount
  rw [hmoves.consumer, hmoves.inForce hsame]
  by_cases hphase : s.producer.sent.phase = .idle
  · rcases h hcount' with hrate | hbusy
    · exact .inl hrate
    · exact absurd hphase hbusy
  · exact .inr (hmoves.busy hsame hphase).1

theorem Fit.stable {g : UInt32} {k b : Nat} {s t : Source} (h : Fit b s) (hseen : Seen g k s)
    (hmoves : ProducerMoves s t) : Fit b t := by
  constructor
  · intro hcount i x hi hx
    obtain ⟨hsame, hcount'⟩ := hseen.same hmoves hcount
    rw [hmoves.consumer]
    rcases hmoves.frame hsame hx with hold | ⟨-, hgeneration, -⟩
    · exact h.generation hcount' i x hi hold
    · rw [hgeneration, hcount']
  · intro hcount htorn i x hi hx
    obtain ⟨hsame, hcount'⟩ := hseen.same hmoves hcount
    rw [hmoves.consumer] at htorn ⊢
    rcases hmoves.frame hsame hx with hold | ⟨hphase, -, hrate⟩
    · exact h.rate hcount' htorn i x hi hold
    · rw [hrate, h.idle hcount' htorn hphase]
  · intro hcount htorn hidle
    obtain ⟨hsame, hcount'⟩ := hseen.same hmoves hcount
    rw [hmoves.consumer] at htorn ⊢
    rw [hmoves.inForce hsame]
    apply h.idle hcount' htorn
    by_contra hbusy
    exact (hmoves.busy hsame hbusy).1 hidle

/-- A rate that is loaded while no call is under way is the one in force. -/
theorem rateLoaded_take {s : Source} (h : Tuned s.producer s.consumer) :
    RateLoaded s.takePendingSampleRate := by
  intro _
  by_cases hphase : s.producer.sent.phase = .idle
  · exact .inl (h.pending hphase)
  · exact .inr hphase

/-- The reset cursor that is loaded now fits the rate loaded before, unless the pair is torn. -/
theorem fit_loadResetCursor {s : Source} (h : Tuned s.producer s.consumer) (hrate : RateLoaded s) :
    Fit (max s.consumer.taken.readAt s.producer.sent.resetAt) s.loadResetCursor := by
  constructor
  · intro hcount i x hi hx
    rw [(h.inForce i x (le_trans (le_max_right _ _) hi) hx).1]
    exact hcount
  · intro hcount htorn i x hi hx
    have hforce := (h.inForce i x (le_trans (le_max_right _ _) hi) hx).2
    simp only [Source.loadResetCursor, Bool.or_eq_false_iff] at htorn hcount ⊢
    have hlt := (List.getElem?_eq_some_iff.mp hx).1
    rcases hrate hcount with heq | hbusy
    · rw [hforce, heq]
    · rw [hforce]
      cases hphase : s.producer.sent.phase with
      | idle => exact absurd hphase hbusy
      | rateStored =>
        by_contra hne
        have hpair := htorn.2
        simp only [Source.tornPair, hphase, hcount, beq_self_eq_true, Bool.true_and,
          Bool.and_eq_false_iff, bne_eq_false_iff_eq] at hpair
        rcases hpair with hpair | hpair
        · exact hne hpair.symm
        · change i < s.producer.sent.stored.length at hlt
          omega
      | resetStored =>
        have hreset := h.reset hphase
        change i < s.producer.sent.stored.length at hlt
        omega
  · intro hcount _ hidle
    rcases hrate hcount with heq | hbusy
    · exact heq
    · exact absurd hidle hbusy

/-- Between the load of the reset cursor and its use. -/
structure Aimed (g : UInt32) (b : Nat) (s : Source) : Prop where
  seen : Seen g 4 s
  reset : b ≤ s.producer.sent.resetAt
  boundary : b ∈ s.producer.sent.formatBoundaries
  near : s.consumer.taken.readAt ≤ b + 4 * pipelineCapacityFrames
  fit : Fit (max s.consumer.taken.readAt b) s

theorem Aimed.stable {g : UInt32} {b : Nat} {s t : Source} (h : Aimed g b s)
    (hmoves : ProducerMoves s t) : Aimed g b t where
  seen := h.seen.stable hmoves
  reset := h.reset.trans hmoves.resetAt
  boundary := hmoves.formatBoundaries h.boundary
  near := by
    rw [hmoves.consumer]
    exact h.near
  fit := by
    rw [hmoves.consumer]
    exact h.fit.stable h.seen hmoves

/-- The reader is where the loaded boundary puts it. -/
structure Placed (g : UInt32) (s : Source) : Prop where
  seen : Seen g 5 s
  fit : Fit s.consumer.taken.readAt s

theorem Placed.stable {g : UInt32} {s t : Source} (h : Placed g s) (hmoves : ProducerMoves s t) :
    Placed g t where
  seen := h.seen.stable hmoves
  fit := by
    rw [hmoves.consumer]
    exact h.fit.stable h.seen hmoves

theorem Aimed.move {g : UInt32} {b : Nat} {s : Source} (h : Aimed g b s) (event : Event)
    (hb : s.consumer.taken.readAt ≤ b) (hlen : b ≤ s.consumer.taken.readAt + pipelineCapacityFrames) :
    Placed g (s.readUpTo b event) := by
  have hfit := h.fit
  rw [max_eq_right hb] at hfit
  refine ⟨⟨h.seen.seen, h.seen.count, ?_, ?_⟩, ⟨hfit.generation, hfit.rate, hfit.idle⟩⟩
  · intro _
    have := h.reset
    simp only [Source.readUpTo]
    omega
  · intro hne
    have := h.seen.talkspurt hne
    simp only [Source.readUpTo]
    omega

theorem Aimed.stay {g : UInt32} {b : Nat} {s : Source} (h : Aimed g b s)
    (hb : b < s.consumer.taken.readAt) : Placed g s := by
  have hfit := h.fit
  rw [max_eq_left hb.le] at hfit
  refine ⟨⟨h.seen.seen, h.seen.count, h.seen.behind, ?_⟩, hfit⟩
  intro hne
  have := h.seen.talkspurt hne
  omega

theorem Intact.loadFormatGeneration {s : Source} (h : Intact s) :
    Intact s.loadFormatGeneration :=
  ⟨{ h.coherent with }, { h.tuned with
    seen_le := le_rfl
    inGeneration := fun hwrapped => h.tuned.inGeneration (Bool.or_eq_false_iff.mp hwrapped).1
    atRate := fun hwrapped => h.tuned.atRate (Bool.or_eq_false_iff.mp hwrapped).1 }⟩

theorem Intact.loadResetCursor {s : Source} (h : Intact s) :
    Intact s.loadResetCursor :=
  ⟨{ h.coherent with }, { h.tuned with
    queued := fun hcount i x hi hx =>
      ⟨(h.tuned.queued hcount i x hi hx).1, fun htorn =>
        (h.tuned.queued hcount i x hi hx).2 (Bool.or_eq_false_iff.mp htorn).1⟩
    standing := fun hcount hidle htorn =>
      h.tuned.standing hcount hidle (Bool.or_eq_false_iff.mp htorn).1
    atRate := fun hwrapped htorn =>
      h.tuned.atRate hwrapped (Bool.or_eq_false_iff.mp htorn).1 }⟩

/-- What is applied is the generation the loaded pair is worth. -/
theorem Intact.applyGeneration {g : UInt32} {success : Bool} {s : Source} (h : Intact s)
    (hplaced : Placed g s) : Intact (s.applyGeneration g success) := by
  have hset : ∀ rate, (s.applyGeneration g success).consumer.converter = some rate →
      s.consumer.sampleRate = rate := by
    intro rate hrate
    cases success with
    | true => exact Option.some.inj hrate
    | false => cases hrate
  refine ⟨{ h.coherent with }, { h.tuned with
    applied := hplaced.seen.seen
    applied_le := hplaced.seen.count
    queued := ?_
    standing := ?_ }⟩
  · intro hcount i x hi hx
    refine ⟨hplaced.fit.generation hcount i x hi hx, ?_⟩
    intro htorn rate hrate
    rw [hplaced.fit.rate hcount htorn i x hi hx]
    exact hset rate hrate
  · intro hcount hidle htorn rate hrate
    rw [← hset rate hrate]
    exact hplaced.fit.idle hcount htorn hidle

theorem Seen.near_apply {g : UInt32} {success : Bool} {s : Source} (h : Seen g 5 s) :
    Near 0 5 (s.applyGeneration g success) := by
  refine ⟨?_, h.talkspurt⟩
  rw [Nat.zero_mul]
  exact h.behind

/-- Between the load of the rate and that of the reset cursor. -/
structure Rated (g : UInt32) (s : Source) : Prop where
  seen : Seen g 4 s
  near : s.consumer.taken.readAt ≤ s.producer.sent.resetAt + 4 * pipelineCapacityFrames
  rate : RateLoaded s

theorem Rated.stable {g : UInt32} {s t : Source} (h : Rated g s) (hmoves : ProducerMoves s t) :
    Rated g t where
  seen := h.seen.stable hmoves
  near := by
    have := h.near
    have := hmoves.resetAt
    rw [hmoves.consumer]
    omega
  rate := h.rate.stable h.seen hmoves

theorem Rated.aim {g : UInt32} {s : Source} (h : Rated g s) (hinv : Intact s) :
    Aimed g s.producer.sent.resetAt s.loadResetCursor where
  seen := ⟨h.seen.seen, h.seen.count, h.seen.behind, h.seen.talkspurt⟩
  reset := le_rfl
  boundary := hinv.coherent.reset_mem
  near := h.near
  fit := fit_loadResetCursor hinv.tuned h.rate

theorem safe_takeGeneration {g : UInt32} {s : Source} (h : Seen g 4 s)
    (hnear : s.consumer.taken.readAt ≤
      s.producer.sent.resetAt + 4 * pipelineCapacityFrames) :
    contract.Safe .consumer (sourceTakeGeneration g)
      (fun changed t => changed = true ∧ Near 0 5 t) s := by
  apply Safe.bind
  apply Safe.store
  intro t hrely hinv
  have hmoves : ProducerMoves s t := hrely
  have hcoherent : Coherent t.producer t.consumer := Intact.coherent hinv
  have htuned : Tuned t.producer t.consumer := Intact.tuned hinv
  have hrated : Rated g t.takePendingSampleRate := by
    have hseen := h.stable hmoves
    refine ⟨⟨hseen.seen, hseen.count, hseen.behind, hseen.talkspurt⟩, ?_, rateLoaded_take htuned⟩
    have := hmoves.resetAt
    simp only [Source.takePendingSampleRate, hmoves.consumer]
    omega
  refine ⟨⟨{ hcoherent with }, { htuned with }⟩, ⟨rfl, le_rfl⟩, ?_⟩
  apply Safe.bind
  apply Safe.store
  intro u hrely hinv
  have hrated := hrated.stable hrely
  have hcoherent : Coherent u.producer u.consumer := Intact.coherent hinv
  have htuned : Tuned u.producer u.consumer := Intact.tuned hinv
  have hrated' : Rated g u.takePendingChannels :=
    ⟨⟨hrated.seen.seen, hrated.seen.count, hrated.seen.behind, hrated.seen.talkspurt⟩,
      hrated.near, hrated.rate⟩
  refine ⟨⟨{ hcoherent with }, { htuned with }⟩, ⟨rfl, le_rfl⟩, ?_⟩
  apply Safe.bind
  apply Safe.act
  intro v hrely hinv _
  have haimed := (hrated'.stable hrely).aim hinv
  have hcoherent : Coherent v.producer v.consumer := Intact.coherent hinv
  refine ⟨Intact.loadResetCursor hinv, ⟨rfl, le_rfl⟩, ?_⟩
  simp only [hcoherent.reset]
  apply Safe.bind
  refine Safe.mono (safe_advanceReadCursor (Aimed g v.producer.sent.resetAt) (Placed g)
    (fun _ _ hrely _ h => h.stable hrely) ?_ (fun _ event h => h.move event)
    (fun _ h => h.stay) haimed) ?_
  · intro t hinv h
    have hle := h.reset.trans hinv.coherent.reset_le
    have := h.near
    exact ⟨hle, by omega, fun _ => h.boundary⟩
  · intro _ w hplaced
    apply Safe.bind
    apply Safe.ask
    intro x hrely _ _
    have hplaced := Placed.stable hplaced hrely
    apply Safe.bind
    apply Safe.store
    intro y hrely hinv
    have hplaced := hplaced.stable hrely
    exact ⟨Intact.applyGeneration hinv hplaced, ⟨rfl, le_rfl⟩, rfl, hplaced.seen.near_apply⟩

/-! ## The two checks -/

/-- The frames up to `w` are the ones the converter is set up for. -/
structure Clear (w : Nat) (converter : Option UInt32) (s : Source) : Prop where
  setup : s.consumer.converter = converter
  ahead : s.consumer.taken.readAt ≤ w
  published : w ≤ s.producer.sent.stored.length
  generation : s.consumer.taken.wrapped = false → ∀ i x, s.consumer.taken.readAt ≤ i → i < w →
    s.producer.sent.stored[i]? = some x → x.generation = s.consumer.taken.appliedCount
  rate : s.consumer.taken.wrapped = false → s.consumer.taken.torn = false →
    ∀ i x, s.consumer.taken.readAt ≤ i → i < w → s.producer.sent.stored[i]? = some x →
      ∀ rate, converter = some rate → x.rate = rate

theorem Clear.stable {w : Nat} {converter : Option UInt32} {s t : Source}
    (h : Clear w converter s) (hmoves : ProducerMoves s t) : Clear w converter t := by
  have hlen := h.published
  constructor
  · rw [hmoves.consumer]
    exact h.setup
  · rw [hmoves.consumer]
    exact h.ahead
  · exact hlen.trans hmoves.stored.length_le
  · rw [hmoves.consumer]
    intro hwrapped i x hi hw hx
    rw [stored_earlier hmoves.stored (by omega)] at hx
    exact h.generation hwrapped i x hi hw hx
  · rw [hmoves.consumer]
    intro hwrapped htorn i x hi hw hx
    rw [stored_earlier hmoves.stored (by omega)] at hx
    exact h.rate hwrapped htorn i x hi hw hx

/-- A generation that reads as applied is the applied one, unless it has wrapped around. -/
theorem clear_loadFormatGeneration {w : Nat} {s : Source} (h : Tuned s.producer s.consumer)
    (hsame : s.producer.formatGeneration = s.consumer.appliedGeneration)
    (hw : s.consumer.taken.readAt ≤ w) (hlen : w ≤ s.producer.sent.stored.length) :
    Clear w s.consumer.converter s.loadFormatGeneration := by
  have hcount : s.loadFormatGeneration.consumer.taken.wrapped = false →
      s.producer.sent.formatCount = s.consumer.taken.appliedCount := by
    intro hwrapped
    have hmissed := (Bool.or_eq_false_iff.mp hwrapped).2
    simpa only [Source.missedChange, hsame, beq_self_eq_true, Bool.true_and,
      bne_eq_false_iff_eq] using hmissed
  refine ⟨rfl, hw, hlen, ?_, ?_⟩
  · intro hwrapped i x hi _ hx
    exact (h.queued (hcount hwrapped) i x hi hx).1
  · intro hwrapped htorn i x hi _ hx
    exact (h.queued (hcount hwrapped) i x hi hx).2 htorn

theorem safe_applyGeneration {w : Nat} {s : Source} (h : Near 4 4 s)
    (hw : s.consumer.taken.readAt ≤ w) (hlen : w ≤ s.producer.sent.stored.length) :
    contract.Safe .consumer sourceApplyGeneration
      (fun changed t => Near 0 5 t ∧ (changed = false → Clear w s.consumer.converter t)) s := by
  apply Safe.bind
  apply Safe.act
  intro t hrely hinv _
  have hmoves : ProducerMoves s t := hrely
  have htuned : Tuned t.producer t.consumer := Intact.tuned hinv
  have hnear := h.stable hmoves
  refine ⟨Intact.loadFormatGeneration hinv, ⟨rfl, le_rfl⟩, ?_⟩
  apply Safe.bind
  apply Safe.load
  intro u hrely' _
  have hmoves' : ProducerMoves t.loadFormatGeneration u := hrely'
  have happlied : u.consumer.appliedGeneration = t.consumer.appliedGeneration := by
    rw [hmoves'.consumer]
    rfl
  split
  · rename_i heq
    have hsame : t.producer.formatGeneration = t.consumer.appliedGeneration := heq.trans happlied
    have hclear := clear_loadFormatGeneration (w := w) htuned hsame
      (by rw [hmoves.consumer]; exact hw) (hlen.trans hmoves.stored.length_le)
    have hnear' : Near 0 5 t.loadFormatGeneration := by
      refine ⟨fun hne => absurd hsame hne, ?_⟩
      intro hne
      have := hnear.talkspurt hne
      simp only [Source.loadFormatGeneration]
      omega
    rw [hmoves.consumer] at hclear
    exact ⟨hnear'.stable hmoves', fun _ => hclear.stable hmoves'⟩
  · rename_i hne
    have hdiffers : t.producer.formatGeneration ≠ t.consumer.appliedGeneration :=
      fun heq => hne (heq.trans happlied.symm)
    have hseen : Seen t.producer.formatGeneration 4 t.loadFormatGeneration :=
      ⟨htuned.generation, le_rfl, fun hne => absurd rfl hne, hnear.talkspurt⟩
    have hseen' := hseen.stable hmoves'
    have hbehind := hnear.format hdiffers
    have := hmoves'.resetAt
    have hread : u.consumer.taken.readAt = t.consumer.taken.readAt := by
      rw [hmoves'.consumer]
      rfl
    apply (safe_takeGeneration hseen' ?_).mono
    · rintro changed v ⟨rfl, hv⟩
      exact ⟨hv, fun hfalse => absurd hfalse (by decide)⟩
    · simp only [Source.loadFormatGeneration] at this
      omega

theorem Near.mono {f f' k k' : Nat} {s : Source} (h : Near f k s) (hf : f ≤ f') (hk : k ≤ k') :
    Near f' k' s := by
  constructor
  · intro hne
    have := h.format hne
    have := Nat.mul_le_mul_right pipelineCapacityFrames hf
    omega
  · intro hne
    have := h.talkspurt hne
    have := Nat.mul_le_mul_right pipelineCapacityFrames hk
    omega

theorem Near.settled {f k : Nat} {s : Source} (h : Near f k s) (hf : f ≤ 3) (hk : k ≤ 3) :
    Settled s :=
  ⟨h.mono (by omega) (by omega), fun _ => h.mono hf hk⟩

/-- A move of the reader by at most one ring. -/
theorem Near.move {f k b : Nat} {s : Source} (h : Near f k s) (event : Event)
    (hb : b ≤ s.consumer.taken.readAt + pipelineCapacityFrames) :
    Near (f + 1) (k + 1) (s.readUpTo b event) := by
  constructor
  · intro hne
    have := h.format hne
    simp only [Source.readUpTo, Nat.add_mul]
    omega
  · intro hne
    have := h.talkspurt hne
    simp only [Source.readUpTo, Nat.add_mul]
    omega

/-- Between the load of the talkspurt cursor and its use. -/
structure AimedTalkspurt (g : UInt32) (b : Nat) (s : Source) : Prop where
  format : Behind s.consumer.appliedGeneration 0 s
  behind : BehindTalkspurt g 0 s
  cursor : b ≤ s.producer.sent.talkspurtAt
  boundary : b ∈ s.producer.sent.talkspurtBoundaries
  near : s.consumer.taken.readAt ≤ b + 5 * pipelineCapacityFrames

theorem AimedTalkspurt.stable {g : UInt32} {b : Nat} {s t : Source} (h : AimedTalkspurt g b s)
    (hmoves : ProducerMoves s t) : AimedTalkspurt g b t where
  format := by
    rw [hmoves.consumer]
    exact h.format.stable hmoves
  behind := h.behind.stable hmoves
  cursor := h.cursor.trans hmoves.talkspurtAt
  boundary := hmoves.talkspurtBoundaries h.boundary
  near := by
    rw [hmoves.consumer]
    exact h.near

/-- Before the talkspurt generation is noted as seen. -/
structure PlacedTalkspurt (g : UInt32) (s : Source) : Prop where
  format : Behind s.consumer.appliedGeneration pipelineCapacityFrames s
  behind : BehindTalkspurt g 0 s

theorem PlacedTalkspurt.stable {g : UInt32} {s t : Source} (h : PlacedTalkspurt g s)
    (hmoves : ProducerMoves s t) : PlacedTalkspurt g t where
  format := by
    rw [hmoves.consumer]
    exact h.format.stable hmoves
  behind := h.behind.stable hmoves

theorem AimedTalkspurt.move {g : UInt32} {b : Nat} {s : Source} (h : AimedTalkspurt g b s)
    (event : Event) (hlen : b ≤ s.consumer.taken.readAt + pipelineCapacityFrames) :
    PlacedTalkspurt g (s.readUpTo b event) := by
  constructor
  · intro hne
    have := h.format hne
    simp only [Source.readUpTo]
    omega
  · intro _
    have := h.cursor
    simp only [Source.readUpTo]
    omega

theorem AimedTalkspurt.stay {g : UInt32} {b : Nat} {s : Source} (h : AimedTalkspurt g b s) :
    PlacedTalkspurt g s := by
  refine ⟨?_, h.behind⟩
  intro hne
  have := h.format hne
  omega

theorem safe_applyTalkspurt {A : Source → Prop} {s : Source}
    (hA : ∀ s t, ProducerMoves s t → A s → A t) (h : Near 0 5 s) (hs : A s) :
    contract.Safe .consumer sourceApplyTalkspurt
      (fun changed t => Near 1 0 t ∧ (changed = false → A t)) s := by
  apply Safe.bind
  apply Safe.load
  intro t hrely _
  have hmoves : ProducerMoves s t := hrely
  have hnear := h.stable hmoves
  apply Safe.bind
  apply Safe.load
  intro u hrely _
  have hmoves' : ProducerMoves t u := hrely
  split
  · rename_i heq
    rw [hmoves'.consumer] at heq
    have hseen : Near 1 0 t := by
      refine ⟨(hnear.mono (Nat.zero_le 1) le_rfl).format, fun hne => absurd heq hne⟩
    exact ⟨hseen.stable hmoves', fun _ => hA t u hmoves' (hA s t hmoves hs)⟩
  · rename_i hne
    rw [hmoves'.consumer] at hne
    have hbehind : BehindTalkspurt t.producer.talkspurtGeneration 0 u :=
      BehindTalkspurt.stable (fun hne => absurd rfl hne) hmoves'
    have hpast : u.consumer.taken.readAt ≤
        u.producer.sent.talkspurtAt + 5 * pipelineCapacityFrames := by
      have := hnear.talkspurt hne
      have := hmoves'.talkspurtAt
      rw [hmoves'.consumer]
      omega
    apply Safe.bind
    apply Safe.load
    intro v hrely hinv
    have hmoves'' : ProducerMoves u v := hrely
    have hcoherent : Coherent v.producer v.consumer := Intact.coherent hinv
    have hformat := ((hnear.stable hmoves').stable hmoves'').format
    rw [Nat.zero_mul] at hformat
    have haimed : AimedTalkspurt t.producer.talkspurtGeneration v.producer.sent.talkspurtAt v := by
      refine ⟨hformat, hbehind.stable hmoves'', le_rfl, hcoherent.talkspurt_mem, ?_⟩
      have := hmoves''.talkspurtAt
      rw [hmoves''.consumer]
      omega
    simp only [hcoherent.talkspurt]
    apply Safe.bind
    refine Safe.mono (safe_advanceReadCursor (AimedTalkspurt t.producer.talkspurtGeneration
      v.producer.sent.talkspurtAt) (PlacedTalkspurt t.producer.talkspurtGeneration)
      (fun _ _ hrely _ h => h.stable hrely) ?_ (fun _ event h _ => h.move event)
      (fun _ h _ => h.stay) haimed) ?_
    · intro t hinv h
      exact ⟨h.cursor.trans hinv.coherent.talkspurt_le, h.near, fun _ => h.boundary⟩
    · intro _ w hplaced
      apply Safe.bind
      apply Safe.store
      intro x hrely hinv
      have hplaced := PlacedTalkspurt.stable hplaced hrely
      have hcoherent : Coherent x.producer x.consumer := Intact.coherent hinv
      have htuned : Tuned x.producer x.consumer := Intact.tuned hinv
      refine ⟨⟨{ hcoherent with }, { htuned with }⟩, ⟨rfl, le_rfl⟩, ?_, ?_⟩
      · refine ⟨?_, ?_⟩
        · rw [Nat.one_mul]
          exact hplaced.format
        · rw [Nat.zero_mul]
          exact hplaced.behind
      · intro hfalse
        exact absurd hfalse (by decide)

end Lgnome.Audio
