import Lgnome.Audio.Jitter
import Lgnome.Transition.Histogram
import Mathlib.Data.List.Infix

/-!
# What a run of the jitter controller keeps

The ring holds the newest samples in the order of their times and the histogram counts them,
so expiry from the oldest one on leaves exactly the samples of the window. The time of the
last change lies at or behind every change and every new underrun count of the run.
-/
namespace Lgnome.Audio.Jitter

open Lgnome.Transition (Ring Counts NearestRank below below_zero below_succ below_all)
open NativeAudioJitterController

/-! ## The samples -/

/-- A sample with its time on a clock that does not wrap. -/
structure Retained where
  timeMs : Nat
  bucket : Nat

def Retained.stored (r : Retained) : NativeAudioJitterSample := ⟨u32 r.timeMs, r.bucket⟩

/-- The ring holds the samples of `queue`, oldest first, and the histogram counts them. -/
structure Holding (c : NativeAudioJitterController) (queue : List Retained) : Prop where
  ring : c.samples.Holds (queue.map Retained.stored)
  counts : Counts c.histogram buckets (queue.map Retained.bucket)

/-- The samples come in the order of their times, the last at `last` or before. -/
structure Ordered (queue : List Retained) (last : Nat) : Prop where
  pairwise : queue.Pairwise fun a b => a.timeMs ≤ b.timeMs
  upTo : ∀ r ∈ queue, r.timeMs ≤ last

/-- All samples lie in the window that ends at `now`. -/
def Within (queue : List Retained) (now : Nat) : Prop :=
  ∀ r ∈ queue, r.timeMs ≤ now ∧ now ≤ r.timeMs + windowMs

section Samples

variable {c c' : NativeAudioJitterController} {queue rest : List Retained} {r : Retained}
  {now last : Nat}

theorem u32Sub_u32 {a b : Nat} (hle : b ≤ a) (hlt : a - b < 2 ^ 32) :
    u32Sub (u32 a) (u32 b) = a - b := by
  unfold u32Sub u32
  omega

/-- A difference of the clock is never more than the time between. -/
theorem u32Sub_le {a b : Nat} (hle : b ≤ a) : u32Sub (u32 a) (u32 b) ≤ a - b := by
  unfold u32Sub u32
  omega

/-- Two controllers with the same samples. -/
theorem Holding.congr (h : Holding c queue) (hring : c'.samples = c.samples)
    (hhistogram : c'.histogram = c.histogram) : Holding c' queue where
  ring := by
    rw [hring]
    exact h.ring
  counts := by
    rw [hhistogram]
    exact h.counts

theorem holding_empty (h : c.samples = .empty) (hzero : c.histogram = List.replicate buckets 0) :
    Holding c [] where
  ring := by
    rw [h]
    exact Ring.holds_empty (by decide)
  counts := by
    rw [hzero]
    exact Counts.nil buckets

theorem Holding.count_eq (h : Holding c queue) : c.samples.count = queue.length := by
  rw [h.ring.count_eq, List.length_map]

theorem Holding.removeOldest (h : Holding c (r :: queue)) : Holding c.removeOldest queue := by
  have hpeek := h.ring.peek_eq
  rw [List.map_cons, List.head?_cons] at hpeek
  have hcounts := h.counts
  rw [List.map_cons] at hcounts
  obtain ⟨hpos, htail⟩ := hcounts.tail
  have hwithin : r.bucket < buckets := hcounts.within _ List.mem_cons_self
  have hring := h.ring
  rw [List.map_cons] at hring
  unfold NativeAudioJitterController.removeOldest
  rw [hpeek]
  dsimp only
  refine ⟨hring.pop, ?_⟩
  show Counts (if r.bucket < buckets ∧ 0 < c.histogram.getD r.bucket 0 then _ else _) _ _
  rw [if_pos ⟨hwithin, hpos⟩]
  exact htail

/-- Removing samples changes nothing else. -/
theorem removeOldest_frame (c : NativeAudioJitterController) :
    ∃ samples histogram, c.removeOldest
      = { c with samples := samples, histogram := histogram } := by
  unfold NativeAudioJitterController.removeOldest
  split
  · exact ⟨c.samples, c.histogram, rfl⟩
  · exact ⟨_, _, rfl⟩

theorem expireLoop_frame (nowMs fuel : Nat) (c : NativeAudioJitterController) :
    ∃ samples histogram, expireLoop nowMs fuel c
      = { c with samples := samples, histogram := histogram } := by
  induction fuel generalizing c with
  | zero => exact ⟨c.samples, c.histogram, rfl⟩
  | succ fuel ih =>
    unfold expireLoop
    split
    · exact ⟨c.samples, c.histogram, rfl⟩
    · split
      · exact ⟨c.samples, c.histogram, rfl⟩
      · obtain ⟨samples, histogram, hrest⟩ := ih c.removeOldest
        obtain ⟨_, _, hfirst⟩ := removeOldest_frame c
        refine ⟨samples, histogram, ?_⟩
        rw [hrest, hfirst]

/-- Expiry from the oldest sample on leaves a part of the queue that lies in the window. -/
theorem Holding.expireLoop {fuel : Nat} (h : Holding c queue) (hfuel : queue.length ≤ fuel)
    (hordered : Ordered queue now) (hnear : ∀ r ∈ queue, now - r.timeMs < 2 ^ 32) :
    ∃ kept, kept <:+ queue ∧ Holding (expireLoop (u32 now) fuel c) kept ∧ Within kept now := by
  induction fuel generalizing c queue with
  | zero =>
    obtain rfl := List.eq_nil_of_length_eq_zero (Nat.le_zero.mp hfuel)
    refine ⟨[], List.suffix_rfl, h, ?_⟩
    intro r hr
    cases hr
  | succ fuel ih =>
    have hpeek := h.ring.peek_eq
    unfold NativeAudioJitterController.expireLoop
    cases queue with
    | nil =>
      rw [hpeek]
      refine ⟨[], List.suffix_rfl, h, ?_⟩
      intro r hr
      cases hr
    | cons r rest =>
      rw [hpeek]
      have hfirst := hordered.upTo r List.mem_cons_self
      have hsub : u32Sub (u32 now) (u32 r.timeMs) = now - r.timeMs :=
        u32Sub_u32 hfirst (hnear r List.mem_cons_self)
      have hpairwise := List.pairwise_cons.mp hordered.pairwise
      show ∃ kept, kept <:+ _ ∧ Holding (if u32Sub (u32 now) (u32 r.timeMs) ≤ windowMs then c
        else NativeAudioJitterController.expireLoop (u32 now) fuel c.removeOldest) kept ∧ _
      rw [hsub]
      by_cases hin : now - r.timeMs ≤ windowMs
      · rw [if_pos hin]
        refine ⟨r :: rest, List.suffix_rfl, h, ?_⟩
        intro s hs
        obtain rfl | hs' := List.mem_cons.mp hs
        · exact ⟨hfirst, by omega⟩
        · have hlater := hpairwise.1 s hs'
          exact ⟨hordered.upTo s hs, by omega⟩
      · rw [if_neg hin]
        rw [List.length_cons] at hfuel
        obtain ⟨kept, hkept, hholding, hwithin⟩ := ih h.removeOldest (by omega)
          ⟨hpairwise.2, fun s hs => hordered.upTo s (List.mem_cons_of_mem r hs)⟩
          (fun s hs => hnear s (List.mem_cons_of_mem r hs))
        exact ⟨kept, hkept.trans (List.suffix_cons r rest), hholding, hwithin⟩

theorem bucketOf_lt (variationMs : Nat) : bucketOf variationMs < buckets := by
  unfold bucketOf
  split
  · decide
  · omega

/-- Adding a sample changes nothing else. -/
theorem add_frame (c : NativeAudioJitterController) (nowMs variationMs : Nat) :
    ∃ samples histogram, c.add nowMs variationMs
      = { c with samples := samples, histogram := histogram } := by
  obtain ⟨_, _, hexpire⟩ := expireLoop_frame nowMs c.samples.count c
  unfold add expire
  rw [hexpire]
  dsimp only
  split
  · obtain ⟨_, _, hfirst⟩ := removeOldest_frame _
    rw [hfirst]
    exact ⟨_, _, rfl⟩
  · exact ⟨_, _, rfl⟩

/-- The sample enters behind those of the window; a full ring loses its oldest one. -/
theorem Holding.add (h : Holding c queue) (hordered : Ordered queue now)
    (hnear : ∀ r ∈ queue, now - r.timeMs < 2 ^ 32) (variationMs : Nat) :
    ∃ kept, kept <:+ queue ++ [⟨now, bucketOf variationMs⟩] ∧ kept ≠ [] ∧
      Holding (c.add (u32 now) variationMs) kept ∧ Within kept now := by
  obtain ⟨kept, hkept, hholding, hwithin⟩ :=
    h.expireLoop (Nat.le_of_eq h.count_eq.symm) hordered hnear
  -- one slot is free behind the eviction
  have hroom : ∃ room, room <:+ kept ∧ room.length < sampleSlots ∧
      Holding (if (c.expire (u32 now)).samples.count = sampleSlots
        then (c.expire (u32 now)).removeOldest else c.expire (u32 now)) room := by
    have hcount := hholding.count_eq
    have hle := hholding.ring.count_le
    by_cases hfull : (c.expire (u32 now)).samples.count = sampleSlots
    · rw [if_pos hfull]
      cases kept with
      | nil =>
        rw [List.length_nil] at hcount
        exact absurd (hfull.symm.trans hcount) (by decide)
      | cons r rest =>
        refine ⟨rest, List.suffix_cons r rest, ?_, hholding.removeOldest⟩
        have hlength : (r :: rest).length = sampleSlots := hcount.symm.trans hfull
        rw [List.length_cons] at hlength
        omega
    · rw [if_neg hfull]
      refine ⟨kept, List.suffix_rfl, ?_, hholding⟩
      have hne : kept.length ≠ sampleSlots := fun heq => hfull (hcount.trans heq)
      have hle' : kept.length ≤ sampleSlots := hcount ▸ hle
      omega
  obtain ⟨room, hsuffix, hlt, hroom⟩ := hroom
  refine ⟨room ++ [⟨now, bucketOf variationMs⟩], ?_, List.append_ne_nil_of_right_ne_nil _ (by simp),
    ?_, ?_⟩
  · obtain ⟨front, hfront⟩ := hsuffix.trans hkept
    exact ⟨front, by rw [← List.append_assoc, hfront]⟩
  · constructor
    · rw [List.map_append, List.map_singleton]
      refine hroom.ring.push ?_
      rw [hroom.count_eq]
      exact hlt
    · rw [List.map_append, List.map_singleton]
      refine hroom.counts.snoc (bucketOf_lt variationMs) ?_
      have hsmall : (room.map Retained.bucket).count (bucketOf variationMs) ≤ room.length := by
        have hle := List.count_le_length (a := bucketOf variationMs) (l := room.map Retained.bucket)
        rwa [List.length_map] at hle
      unfold sampleSlots at hlt
      exact Nat.mod_eq_of_lt (by omega)
  · intro r hr
    obtain hr | hr := List.mem_append.mp hr
    · exact hwithin r (hsuffix.subset hr)
    · rw [List.mem_singleton.mp hr]
      exact ⟨Nat.le_refl _, Nat.le_add_right _ _⟩

/-! ## The percentile -/

/-- The scan finds the bucket at which the running sum reaches the threshold. -/
theorem p95Loop_spec (values : List Nat) (threshold bucket k : Nat)
    (hbefore : below values bucket < threshold)
    (hreached : threshold ≤ below values (bucket + k)) :
    ∃ v, p95Loop threshold (below values bucket) bucket
        ((List.range' bucket k).map fun b => values.count b) = v * bucketMs ∧
      below values v < threshold ∧ threshold ≤ below values (v + 1) := by
  induction k generalizing bucket with
  | zero =>
    rw [Nat.add_zero] at hreached
    omega
  | succ k ih =>
    rw [List.range'_succ, List.map_cons]
    unfold p95Loop
    rw [← below_succ]
    by_cases hin : threshold ≤ below values (bucket + 1)
    · rw [if_pos hin]
      exact ⟨bucket, rfl, hbefore, hin⟩
    · rw [if_neg hin]
      refine ih (bucket + 1) (by omega) ?_
      rw [Nat.add_assoc, Nat.add_comm 1 k]
      exact hreached

/-- The percentile of a queue that is not empty. -/
theorem Holding.p95_eq (h : Holding c queue) (hne : queue ≠ []) :
    ∃ v, NearestRank 95 (queue.map Retained.bucket) v ∧ c.p95 = v * bucketMs := by
  have hcount := h.count_eq
  have hpos : 0 < queue.length := List.length_pos_iff.mpr hne
  have hall := below_all h.counts.within
  rw [List.length_map] at hall
  have hrange : c.histogram
      = (List.range' 0 buckets).map fun b => (queue.map Retained.bucket).count b := by
    rw [h.counts.counts, List.range_eq_range']
  obtain ⟨v, hscan, hbefore, hreached⟩ := p95Loop_spec (queue.map Retained.bucket)
    ((queue.length * 95 + 99) / 100) 0 buckets (by rw [below_zero]; omega) (by rw [Nat.zero_add, hall]; omega)
  refine ⟨v, NearestRank.of_rank (by rw [List.length_map]) hbefore hreached, ?_⟩
  unfold p95
  rw [if_neg (by omega), hrange, hcount, ← hscan, below_zero]

end Samples

/-! ## The target -/

def InRange (targetMs : Nat) : Prop := targetMinMs ≤ targetMs ∧ targetMs ≤ targetMaxMs

section Target

variable {call : Call} {c : NativeAudioJitterController} {p95 cadence peak changedMs : Nat}

theorem clampU32_range (value : Nat) {low high : Nat} (h : low ≤ high) :
    low ≤ clampU32 value low high ∧ clampU32 value low high ≤ high := by
  unfold clampU32
  split
  · exact ⟨Nat.le_refl _, h⟩
  · split
    · exact ⟨h, Nat.le_refl _⟩
    · omega

theorem le_clampU32 (value low high : Nat) :
    value ≤ clampU32 value low high ∨ high ≤ clampU32 value low high := by
  unfold clampU32
  split
  · omega
  · split
    · exact .inr (Nat.le_refl _)
    · exact .inl (Nat.le_refl _)

theorem targetFor_range (ms : Nat) : InRange (Call.targetFor ms) :=
  clampU32_range _ (by decide)

theorem cadenceTarget_range (call : Call) (c : NativeAudioJitterController) :
    InRange (call.cadenceTarget c) := by
  unfold Call.cadenceTarget
  split
  · exact targetFor_range _
  · exact targetFor_range _

theorem peakTarget_range (call : Call) (c : NativeAudioJitterController) :
    InRange (call.peakTarget c) ∧ call.cadenceTarget c ≤ call.peakTarget c := by
  have hcadence := cadenceTarget_range call c
  have hpeak := targetFor_range (call.variationMs c)
  unfold Call.peakTarget
  dsimp only
  split
  · exact ⟨hcadence, Nat.le_refl _⟩
  · exact ⟨hpeak, by omega⟩

/-- What the percentile needs, as far as the range allows. -/
def Covers (targetMs p95Ms : Nat) : Prop :=
  p95Ms + targetHeadroomMs ≤ targetMs ∨ targetMaxMs ≤ targetMs

theorem Covers.mono {targetMs more ms ms' : Nat} (h : Covers targetMs ms) (hms : ms' ≤ ms)
    (hmore : targetMs ≤ more) : Covers more ms' := by
  unfold Covers at *
  omega

theorem targetFor_covers {ms : Nat} (h : ms + targetHeadroomMs < 2 ^ 32) :
    Covers (Call.targetFor ms) ms := by
  have heq : u32 (ms + targetHeadroomMs) = ms + targetHeadroomMs := Nat.mod_eq_of_lt h
  unfold Call.targetFor
  rw [heq]
  exact le_clampU32 _ _ _

/-- The distance to the block before counts up to the long gap only. -/
theorem expectedMs_le (call : Call) (c : NativeAudioJitterController) :
    call.expectedMs c = call.durationMs ∨ call.expectedMs c ≤ longGapMs := by
  unfold Call.expectedMs
  split
  · dsimp only
    split
    · rename_i hdelta
      exact .inr hdelta.2
    · exact .inl rfl
  · exact .inl rfl

/-- The cadence target covers the block and its distance. -/
theorem cadenceTarget_covers (h : call.durationMs + targetHeadroomMs < 2 ^ 32) :
    Covers (call.cadenceTarget c) call.durationMs ∧
      Covers (call.cadenceTarget c) (call.expectedMs c) := by
  have hexpected := expectedMs_le call c
  unfold Call.cadenceTarget
  by_cases hlonger : call.durationMs < call.expectedMs c
  · rw [if_pos hlonger]
    have hcovers : Covers (Call.targetFor (call.expectedMs c)) (call.expectedMs c) := by
      apply targetFor_covers
      unfold longGapMs at hexpected
      unfold targetHeadroomMs
      omega
    exact ⟨hcovers.mono (Nat.le_of_lt hlonger) (Nat.le_refl _), hcovers⟩
  · rw [if_neg hlonger]
    have hcovers := targetFor_covers h
    exact ⟨hcovers, hcovers.mono (by omega) (Nat.le_refl _)⟩

/-- The ways to choose a target after a sample. -/
inductive Retargeted (call : Call) (p95 cadence changedMs : Nat) :
    NativeAudioJitterUpdate → Prop
  | raised (targetMs : Nat) : InRange targetMs → call.currentTargetMs < targetMs →
      Retargeted call p95 cadence changedMs ⟨p95, targetMs, .raise, false⟩
  | decayed (targetMs : Nat) : targetMs < call.currentTargetMs →
      call.currentTargetMs ≤ targetMs + targetDecayStepMs → cadence ≤ targetMs →
      targetMinMs ≤ targetMs → Covers targetMs p95 →
      targetDecayMs ≤ u32Sub call.nowMs changedMs →
      Retargeted call p95 cadence changedMs ⟨p95, targetMs, .decay, false⟩
  | unchanged :
      Retargeted call p95 cadence changedMs ⟨p95, call.currentTargetMs, .unchanged, false⟩

theorem retarget_spec (call : Call) (p95 changedMs : Nat) (hcadence : InRange cadence) (hpeak : InRange peak) (hle : cadence ≤ peak) :
    Retargeted call p95 cadence changedMs (retarget call p95 cadence peak changedMs) := by
  obtain ⟨hlow, hhigh⟩ := hcadence
  unfold retarget
  by_cases hraise : call.currentTargetMs < peak
  · rw [if_pos hraise]
    exact .raised peak hpeak hraise
  · rw [if_neg hraise]
    dsimp only
    have hrange := clampU32_range (p95 + targetHeadroomMs) hhigh
    have hneeds := le_clampU32 (p95 + targetHeadroomMs) cadence targetMaxMs
    generalize clampU32 (p95 + targetHeadroomMs) cadence targetMaxMs = calculated at *
    by_cases hdecay : calculated < call.currentTargetMs ∧
        targetDecayMs ≤ u32Sub call.nowMs changedMs
    · obtain ⟨hless, hlong⟩ := hdecay
      rw [if_pos ⟨hless, hlong⟩]
      have hlarge : targetDecayStepMs < call.currentTargetMs := by
        unfold targetDecayStepMs
        unfold targetMinMs at hlow
        omega
      rw [if_pos hlarge]
      by_cases hreduced : call.currentTargetMs - targetDecayStepMs < calculated
      · rw [if_pos hreduced]
        exact .decayed calculated hless (by omega) hrange.1 (by omega) hneeds hlong
      · rw [if_neg hreduced]
        refine .decayed _ ?_ (by omega) (by omega) (by omega) ?_ hlong
        · unfold targetDecayStepMs at *
          omega
        · obtain hneeds | hneeds := hneeds
          · exact .inl (by omega)
          · exact .inr (by omega)
    · rw [if_neg hdecay]
      exact .unchanged

end Target

/-! ## The run -/

/-- The samples that a run has recorded, in order. -/
def recordings (entries : List Entry) : List Retained :=
  (entries.filter fun e => e.before.records e.call).map fun e =>
    ⟨e.timeMs, bucketOf (e.call.variationMs e.before)⟩

/-- An underrun count that neither the reset nor an earlier update brought. -/
def NewCount (underruns : Nat) (earlier : List Entry) (count : Nat) : Prop :=
  count ≠ underruns ∧ ∀ e ∈ earlier, e.call.underruns ≠ count

/-- An update that changes the target or brings a new underrun count. -/
def Changes (underruns : Nat) (earlier : List Entry) (e : Entry) : Prop :=
  e.update.targetAction ≠ .unchanged ∨ NewCount underruns earlier e.call.underruns

/-- No change of the run is later than `t`. -/
def Since (underruns : Nat) (earlier : List Entry) (t : Nat) : Prop :=
  ∀ front e back, earlier = front ++ e :: back → Changes underruns front e → e.timeMs ≤ t

/-- The time of the last update. -/
def lastTime (earlier : List Entry) : Option Nat := earlier.getLast?.map Entry.timeMs

/-- Monotonic times whose differences stay below `2 ^ 31`. -/
def Clocked : Option Nat → List (Nat × Call) → Prop
  | _, [] => True
  | last, (timeMs, _) :: rest =>
    (∀ l, last = some l → l ≤ timeMs ∧ timeMs - l < 2 ^ 31) ∧ Clocked (some timeMs) rest

/-- The controller of a run whose last update was at `last`. -/
structure Going (underruns : Nat) (earlier : List Entry) (last : Nat)
    (c : NativeAudioJitterController) : Prop where
  arrived : c.haveArrival = true
  arrival : c.lastArrivalMs = u32 last
  samples : ∃ queue, queue <:+ recordings earlier ∧ Holding c queue ∧ Ordered queue last ∧
    Within queue last
  changed : ∃ t ≤ last, c.lastTargetChangeMs = u32 t ∧ Since underruns earlier t
  seen : c.seenUnderruns = underruns ∨ ∃ e ∈ earlier, e.call.underruns = c.seenUnderruns

/-- The controller before the first update. -/
structure Fresh (underruns : Nat) (c : NativeAudioJitterController) : Prop where
  waiting : c.haveArrival = false
  samples : Holding c []
  seen : c.seenUnderruns = underruns

/-- What the samples are after an update that records one. -/
structure Recorded (earlier : List Entry) (e : Entry) (queue : List Retained) : Prop where
  newest : queue <:+ recordings (earlier ++ [e])
  holding : Holding e.after queue
  capacity : queue.length ≤ sampleSlots
  within : Within queue e.timeMs
  percentile : ∃ v, NearestRank 95 (queue.map Retained.bucket) v ∧
    e.update.jitterP95Ms = v * bucketMs

/-- What an update of a run does. -/
structure Sound (underruns : Nat) (earlier : List Entry) (e : Entry) : Prop where
  recorded : e.before.records e.call = true → ∃ queue, queue ≠ [] ∧ Recorded earlier e queue
  range : InRange e.call.currentTargetMs → InRange e.update.targetDelayMs
  /-- The target rises only by a raise and after a long gap. -/
  rises : e.call.currentTargetMs < e.update.targetDelayMs → e.update.targetAction = .raise ∨
    e.update.targetAction = .set ∧ e.update.talkspurt = true ∧
      ∃ l, lastTime earlier = some l ∧ l + longGapMs < e.timeMs
  /-- It falls only by a decay and after a long gap. -/
  falls : e.update.targetDelayMs < e.call.currentTargetMs → e.update.targetAction = .decay ∨
    e.update.targetAction = .set ∧ e.update.talkspurt = true ∧
      ∃ l, lastTime earlier = some l ∧ l + longGapMs < e.timeMs
  decays : e.update.targetAction = .decay →
    e.update.targetDelayMs < e.call.currentTargetMs ∧
      e.call.currentTargetMs ≤ e.update.targetDelayMs + targetDecayStepMs ∧
      e.call.cadenceTarget e.before ≤ e.update.targetDelayMs ∧
      Covers e.update.targetDelayMs e.update.jitterP95Ms
  required : e.update.targetAction = .decay → e.call.durationMs + targetHeadroomMs < 2 ^ 32 →
    Covers e.update.targetDelayMs e.call.durationMs ∧
      Covers e.update.targetDelayMs (e.call.expectedMs e.before)
  /-- A decay comes 5 s after every change and every new underrun count. -/
  settled : e.update.targetAction = .decay →
    ¬ NewCount underruns earlier e.call.underruns ∧
      ∀ front e' back, earlier = front ++ e' :: back → Changes underruns front e' →
        e'.timeMs + targetDecayMs ≤ e.timeMs

section Step

variable {underruns last now t : Nat} {earlier : List Entry} {c : NativeAudioJitterController}
  {call : Call} {e : Entry}

/-- Appending an update moves the time of the last change on. -/
theorem Since.snoc {t' : Nat} (h : Since underruns earlier t) (hle : t ≤ t')
    (hlast : Changes underruns earlier e → e.timeMs ≤ t') :
    Since underruns (earlier ++ [e]) t' := by
  intro front x back heq hchanges
  obtain rfl | ⟨back', y, rfl⟩ := List.eq_nil_or_concat back
  · obtain ⟨rfl, hx⟩ := List.append_inj' heq rfl
    cases hx
    exact hlast hchanges
  · rw [List.concat_eq_append, ← List.cons_append, ← List.append_assoc] at heq
    obtain ⟨hfront, -⟩ := List.append_inj' heq rfl
    exact Nat.le_trans (h front x back' hfront hchanges) hle

theorem since_nil (underruns t : Nat) : Since underruns [] t := by
  intro front e back heq
  exact absurd heq (by simp)

/-- At the time of the update itself every earlier change is behind. -/
theorem Since.upToNow (h : Since underruns earlier t) (hle : t ≤ e.timeMs) :
    Since underruns (earlier ++ [e]) e.timeMs :=
  h.snoc hle fun _ => Nat.le_refl _

theorem recordings_snoc (earlier : List Entry) (e : Entry) :
    recordings (earlier ++ [e]) = recordings earlier ++
      if e.before.records e.call then [⟨e.timeMs, bucketOf (e.call.variationMs e.before)⟩]
      else [] := by
  unfold recordings
  rw [List.filter_append, List.map_append, List.filter_singleton]
  cases e.before.records e.call with
  | false => rfl
  | true => rfl

/-- The first update. -/
theorem Fresh.step (h : Fresh underruns c) (now : Nat) (call : Call) :
    Going underruns [c.entry now call] now (c.entry now call).after ∧
      Sound underruns [] (c.entry now call) := by
  unfold NativeAudioJitterController.entry
  have hupdate : c.update (call.atTime now) = c.updateFirst (call.atTime now) := by
    unfold update
    rw [h.waiting]
    rfl
  have hrecords : c.records (call.atTime now) = false := by
    unfold records
    rw [h.waiting]
    rfl
  rw [hupdate]
  have htarget := targetFor_range (call.atTime now).durationMs
  constructor
  · refine ⟨rfl, rfl, ⟨[], List.nil_suffix, h.samples.congr rfl rfl, ⟨List.Pairwise.nil, ?_⟩, ?_⟩,
      ⟨now, Nat.le_refl _, rfl, Since.upToNow (since_nil underruns now) (Nat.le_refl now)⟩, .inl h.seen⟩
    · intro r hr
      cases hr
    · intro r hr
      cases hr
  · unfold updateFirst
    dsimp only
    by_cases hraise : (call.atTime now).currentTargetMs
        < Call.targetFor (call.atTime now).durationMs
    · rw [if_pos hraise]
      refine ⟨?_, fun _ => htarget, fun _ => .inl rfl, ?_, (fun h => by cases h),
        (fun h => by cases h), (fun h => by cases h)⟩
      · intro hrec
        rw [hrecords] at hrec
        cases hrec
      · intro hfalls
        exact absurd hfalls (Nat.not_lt_of_gt hraise)
    · rw [if_neg hraise]
      refine ⟨?_, fun hrange => hrange, ?_, ?_, (fun h => by cases h),
        (fun h => by cases h), (fun h => by cases h)⟩
      · intro hrec
        rw [hrecords] at hrec
        cases hrec
      · intro hless
        exact absurd hless (Nat.lt_irrefl _)
      · intro hless
        exact absurd hless (Nat.lt_irrefl _)

/-- An update behind a long gap. -/
theorem Going.talkspurt (h : Going underruns earlier last c) (hle : last ≤ now)
    (hlast : lastTime earlier = some last)
    (hgap : longGapMs < (call.atTime now).arrivalDelta c) :
    Going underruns (earlier ++ [c.entry now call]) now (c.entry now call).after ∧
      Sound underruns earlier (c.entry now call) := by
  unfold NativeAudioJitterController.entry
  have hupdate : c.update (call.atTime now) = c.updateTalkspurt (call.atTime now) := by
    unfold update
    rw [h.arrived, if_neg (by decide), if_pos hgap]
  have hrecords : c.records (call.atTime now) = false := by
    unfold records
    rw [h.arrived, decide_eq_false (by omega)]
    rfl
  have hlate : last + longGapMs < now := by
    have hdelta : u32Sub (u32 now) c.lastArrivalMs ≤ now - last := by
      rw [h.arrival]
      exact u32Sub_le hle
    have hgap' : longGapMs < u32Sub (u32 now) c.lastArrivalMs := hgap
    omega
  rw [hupdate]
  have htarget := targetFor_range (call.atTime now).durationMs
  obtain ⟨t, ht, -, hsince⟩ := h.changed
  constructor
  · refine ⟨h.arrived, rfl, ⟨[], List.nil_suffix, holding_empty rfl rfl, ⟨List.Pairwise.nil, ?_⟩,
      ?_⟩, ⟨now, Nat.le_refl _, rfl, Since.upToNow hsince (Nat.le_trans ht hle)⟩, ?_⟩
    · intro r hr
      cases hr
    · intro r hr
      cases hr
    · obtain hseen | ⟨e, he, hseen⟩ := h.seen
      · exact .inl hseen
      · exact .inr ⟨e, List.mem_append_left _ he, hseen⟩
  · unfold updateTalkspurt
    dsimp only
    refine ⟨?_, ?_, fun _ => .inr ⟨rfl, rfl, last, hlast, hlate⟩,
      fun _ => .inr ⟨rfl, rfl, last, hlast, hlate⟩, (fun h => by cases h),
        (fun h => by cases h), (fun h => by cases h)⟩
    · intro hrec
      rw [hrecords] at hrec
      cases hrec
    · intro _
      show InRange (if targetInitialMs < Call.targetFor (call.atTime now).durationMs
        then Call.targetFor (call.atTime now).durationMs else targetInitialMs)
      split
      · exact htarget
      · exact ⟨by decide, by decide⟩

/-- The samples behind an update that records one. -/
theorem Going.kept (h : Going underruns earlier last c) (hle : last ≤ now)
    (hnear : now - last ≤ longGapMs) (variationMs : Nat) :
    ∃ kept, kept <:+ recordings earlier ++ [⟨now, bucketOf variationMs⟩] ∧ kept ≠ [] ∧
      Holding (c.add (u32 now) variationMs) kept ∧ Ordered kept now ∧ Within kept now := by
  obtain ⟨queue, hsuffix, hholding, hordered, hwithin⟩ := h.samples
  have hbehind : Ordered queue now :=
    ⟨hordered.pairwise, fun r hr => Nat.le_trans (hordered.upTo r hr) hle⟩
  have hspan : ∀ r ∈ queue, now - r.timeMs < 2 ^ 32 := by
    intro r hr
    have hr' := hwithin r hr
    unfold windowMs at hr'
    unfold longGapMs at hnear
    omega
  obtain ⟨kept, hkept, hne, hadded, hin⟩ := hholding.add hbehind hspan variationMs
  have hgrown : queue ++ [(⟨now, bucketOf variationMs⟩ : Retained)]
      <:+ recordings earlier ++ [⟨now, bucketOf variationMs⟩] := by
    obtain ⟨front, hfront⟩ := hsuffix
    exact ⟨front, by rw [← List.append_assoc, hfront]⟩
  have hall : (queue ++ [(⟨now, bucketOf variationMs⟩ : Retained)]).Pairwise
      fun a b => a.timeMs ≤ b.timeMs := by
    refine List.pairwise_append.mpr ⟨hbehind.pairwise, List.pairwise_singleton _ _, ?_⟩
    intro a ha b hb
    rw [List.mem_singleton.mp hb]
    exact hbehind.upTo a ha
  exact ⟨kept, hkept.trans hgrown, hne, hadded,
    ⟨hall.sublist hkept.sublist, fun r hr => (hin r hr).1⟩, hin⟩

/-- The time that the code takes for the last change: no earlier one is behind it, and a new
underrun count makes it the present. -/
theorem Going.changedMs (h : Going underruns earlier last c) (call : Call) (hle : last ≤ now)
    (variationMs : Nat) :
    ∃ t ≤ now, (c.add (u32 now) variationMs).changedMs (call.atTime now) = u32 t ∧
      Since underruns earlier t ∧ (NewCount underruns earlier call.underruns → t = now) := by
  obtain ⟨t, ht, hchange, hsince⟩ := h.changed
  obtain ⟨samples, histogram, hframe⟩ := add_frame c (u32 now) variationMs
  rw [hframe]
  unfold NativeAudioJitterController.changedMs
  show ∃ t ≤ now, (if call.underruns = c.seenUnderruns then c.lastTargetChangeMs else u32 now)
    = u32 t ∧ _
  by_cases hsame : call.underruns = c.seenUnderruns
  · rw [if_pos hsame]
    refine ⟨t, Nat.le_trans ht hle, hchange, hsince, ?_⟩
    intro hnew
    obtain hseen | ⟨e, he, hseen⟩ := h.seen
    · exact absurd (hsame.trans hseen) hnew.1
    · exact absurd (hseen.trans hsame.symm) (hnew.2 e he)
  · rw [if_neg hsame]
    refine ⟨now, Nat.le_refl now, rfl, ?_, fun _ => rfl⟩
    intro front e back heq hchanges
    exact Nat.le_trans (Nat.le_trans (hsince front e back heq hchanges) ht) hle

/-- An update that records a sample. -/
theorem Going.sample (h : Going underruns earlier last c) (hle : last ≤ now)
    (hclose : now - last < 2 ^ 31) (hgap : (call.atTime now).arrivalDelta c ≤ longGapMs) :
    Going underruns (earlier ++ [c.entry now call]) now (c.entry now call).after ∧
      Sound underruns earlier (c.entry now call) := by
  unfold NativeAudioJitterController.entry
  have hupdate : c.update (call.atTime now) = c.updateSample (call.atTime now) := by
    unfold update
    rw [h.arrived, if_neg (by decide), if_neg (by omega)]
  have hrecords : c.records (call.atTime now) = true := by
    unfold records
    rw [h.arrived, decide_eq_true hgap]
    rfl
  have hnear : now - last ≤ longGapMs := by
    have hdelta : u32Sub (u32 now) c.lastArrivalMs = now - last := by
      rw [h.arrival]
      exact u32Sub_u32 hle (by omega)
    have hgap' : u32Sub (u32 now) c.lastArrivalMs ≤ longGapMs := hgap
    omega
  obtain ⟨kept, hkept, hne, hholding, hordered, hwithin⟩ :=
    h.kept hle hnear ((call.atTime now).variationMs c)
  obtain ⟨v, hrank, hp95⟩ := hholding.p95_eq hne
  obtain ⟨t, ht, hchanged, hsince, hnew⟩ :=
    h.changedMs call hle ((call.atTime now).variationMs c)
  obtain ⟨samples, histogram, hframe⟩ := add_frame c (u32 now) ((call.atTime now).variationMs c)
  have hcadence := cadenceTarget_range (call.atTime now) c
  obtain ⟨hpeak, habove⟩ := peakTarget_range (call.atTime now) c
  have hspec := retarget_spec (call.atTime now)
    (c.add (u32 now) ((call.atTime now).variationMs c)).p95 (u32 t) hcadence hpeak habove
  have harrived : (c.add (u32 now) ((call.atTime now).variationMs c)).haveArrival = true := by
    rw [hframe]
    exact h.arrived
  have hdone : c.updateSample (call.atTime now) =
      (retarget (call.atTime now) (c.add (u32 now) ((call.atTime now).variationMs c)).p95
        ((call.atTime now).cadenceTarget c) ((call.atTime now).peakTarget c) (u32 t),
      { c.add (u32 now) ((call.atTime now).variationMs c) with
        seenUnderruns := call.underruns
        lastArrivalMs := u32 now
        lastTimestampMs := call.timestampMs
        lastTargetChangeMs := if (retarget (call.atTime now)
          (c.add (u32 now) ((call.atTime now).variationMs c)).p95
          ((call.atTime now).cadenceTarget c) ((call.atTime now).peakTarget c)
          (u32 t)).targetAction = .unchanged then u32 t else u32 now }) := by
    rw [← hchanged]
    rfl
  rw [hupdate, hdone]
  generalize retarget (call.atTime now) (c.add (u32 now) ((call.atTime now).variationMs c)).p95
    ((call.atTime now).cadenceTarget c) ((call.atTime now).peakTarget c) (u32 t) = update at *
  dsimp only
  obtain ⟨after, hafter⟩ : ∃ after, after =
      { c.add (u32 now) ((call.atTime now).variationMs c) with
        seenUnderruns := call.underruns
        lastArrivalMs := u32 now
        lastTimestampMs := call.timestampMs
        lastTargetChangeMs :=
          if update.targetAction = NativeAudioJitterTargetAction.unchanged then u32 t
          else u32 now } :=
    ⟨_, rfl⟩
  rw [← hafter]
  have hkept' : kept <:+ recordings (earlier ++ [⟨now, call.atTime now, c, update, after⟩]) := by
    rw [recordings_snoc]
    dsimp only
    rw [hrecords]
    exact hkept
  have hholding' : Holding after kept := by
    rw [hafter]
    exact hholding.congr rfl rfl
  have hcapacity : kept.length ≤ sampleSlots := by
    rw [← hholding.count_eq]
    exact hholding.ring.count_le
  constructor
  · refine ⟨?_, ?_, ⟨kept, hkept', hholding', hordered, hwithin⟩, ?_, .inr ⟨_,
      List.mem_append_right _ (List.mem_singleton_self _), ?_⟩⟩
    · rw [hafter]
      exact harrived
    · rw [hafter]
    · by_cases hsame : update.targetAction = .unchanged
      · refine ⟨t, ht, ?_, hsince.snoc (Nat.le_refl t) ?_⟩
        · rw [hafter]
          exact if_pos hsame
        · intro hchanges
          obtain hchanges | hcount := hchanges
          · exact absurd hsame hchanges
          · exact Nat.le_of_eq (hnew hcount).symm
      · refine ⟨now, Nat.le_refl now, ?_, Since.upToNow hsince ht⟩
        rw [hafter]
        exact if_neg hsame
    · rw [hafter]
      rfl
  · have hpercentile : update.jitterP95Ms = v * bucketMs := by
      rw [← hp95]
      cases hspec with
      | raised => rfl
      | decayed => rfl
      | unchanged => rfl
    have hsettled : targetDecayMs ≤ u32Sub (u32 now) (u32 t) → t + targetDecayMs ≤ now := by
      intro hlong
      have hle' := u32Sub_le ht
      omega
    refine ⟨fun _ => ⟨kept, hne, hkept', hholding', hcapacity, hwithin, v, hrank, hpercentile⟩,
      ?_, ?_, ?_, ?_, ?_, ?_⟩
    · intro hrange
      cases hspec with
      | raised target hin hless => exact hin
      | decayed target hless hstep hcad hmin hcovers hlong =>
        exact ⟨hmin, Nat.le_trans (Nat.le_of_lt hless) hrange.2⟩
      | unchanged => exact hrange
    · intro hrises
      cases hspec with
      | raised => exact .inl rfl
      | decayed target hless => exact absurd hrises (Nat.not_lt_of_gt hless)
      | unchanged => exact absurd hrises (Nat.lt_irrefl _)
    · intro hfalls
      cases hspec with
      | raised target hin hless => exact absurd hfalls (Nat.not_lt_of_gt hless)
      | decayed => exact .inl rfl
      | unchanged => exact absurd hfalls (Nat.lt_irrefl _)
    · intro hdecay
      cases hspec with
      | raised => cases hdecay
      | decayed target hless hstep hcad hmin hcovers hlong => exact ⟨hless, hstep, hcad, hcovers⟩
      | unchanged => cases hdecay
    · intro hdecay hsmall
      cases hspec with
      | raised => cases hdecay
      | decayed target hless hstep hcad hmin hcovers hlong =>
        obtain ⟨hblock, hdistance⟩ := cadenceTarget_covers (c := c) hsmall
        exact ⟨hblock.mono (Nat.le_refl _) hcad, hdistance.mono (Nat.le_refl _) hcad⟩
      | unchanged => cases hdecay
    · intro hdecay
      cases hspec with
      | raised => cases hdecay
      | decayed target hless hstep hcad hmin hcovers hlong =>
        have hbehind := hsettled hlong
        constructor
        · intro hcount
          have heq := hnew hcount
          unfold targetDecayMs at hbehind
          omega
        · intro front e' back heq hchanges
          have hlast := hsince front e' back heq hchanges
          show e'.timeMs + targetDecayMs ≤ now
          omega
      | unchanged => cases hdecay

/-- The step lemma: an update of a run is sound and leaves the controller going. -/
theorem Going.step (h : Going underruns earlier last c) (call : Call)
    (hlast : lastTime earlier = some last)
    (hle : last ≤ now) (hclose : now - last < 2 ^ 31) :
    Going underruns (earlier ++ [c.entry now call]) now (c.entry now call).after ∧
      Sound underruns earlier (c.entry now call) := by
  by_cases hgap : longGapMs < (call.atTime now).arrivalDelta c
  · exact h.talkspurt hle hlast hgap
  · exact h.sample hle hclose (by omega)

/-- The run lemma: every update of a run from a controller that is going is sound. -/
theorem Going.run {done : List Entry} {calls : List (Nat × Call)} {later : List Entry}
    (h : Going underruns done last c) (hlast : lastTime done = some last)
    (hclock : Clocked (some last) calls) (hrun : run c calls = earlier ++ e :: later) :
    Sound underruns (done ++ earlier) e := by
  induction calls generalizing c done last earlier with
  | nil =>
    rw [Jitter.run] at hrun
    exact absurd hrun.symm (by simp)
  | cons first rest ih =>
    obtain ⟨timeMs, call⟩ := first
    obtain ⟨hfirst, hrest⟩ := hclock
    obtain ⟨hle, hclose⟩ := hfirst last rfl
    obtain ⟨hgoing, hsound⟩ := h.step call hlast hle hclose
    rw [Jitter.run] at hrun
    cases earlier with
    | nil =>
      rw [List.nil_append] at hrun
      obtain ⟨rfl, -⟩ := List.cons.inj hrun
      rw [List.append_nil]
      exact hsound
    | cons x front =>
      rw [List.cons_append] at hrun
      obtain ⟨rfl, hmore⟩ := List.cons.inj hrun
      have hnext := ih hgoing (by
        unfold lastTime
        rw [List.getLast?_concat]
        rfl) hrest hmore
      rwa [List.append_assoc] at hnext

end Step

/-! ## The controller -/

/-- Every update is given the target that the one before it left. -/
def FedBack : Nat → List Entry → Prop
  | _, [] => True
  | targetMs, e :: rest =>
    e.call.currentTargetMs = targetMs ∧ FedBack e.update.targetDelayMs rest

theorem reset_fresh (nowMs underruns : Nat) : Fresh underruns (reset nowMs underruns) where
  waiting := rfl
  samples := holding_empty rfl rfl
  seen := rfl

/-- The jitter controller: every update of a run since a reset is sound, and a target that is
fed back stays in its range. -/
theorem jitter_sound (resetMs underruns : Nat) (calls : List (Nat × Call))
    (hclock : Clocked none calls) :
    (∀ earlier e later, run (reset resetMs underruns) calls = earlier ++ e :: later →
        Sound underruns earlier e) ∧
      ∀ targetMs, InRange targetMs → FedBack targetMs (run (reset resetMs underruns) calls) →
        ∀ e ∈ run (reset resetMs underruns) calls, InRange e.update.targetDelayMs := by
  have hsound : ∀ earlier e later, run (reset resetMs underruns) calls = earlier ++ e :: later →
      Sound underruns earlier e := by
    intro earlier e later hrun
    cases calls with
    | nil =>
      rw [run] at hrun
      exact absurd hrun.symm (by simp)
    | cons first rest =>
      obtain ⟨timeMs, call⟩ := first
      obtain ⟨hgoing, hfirst⟩ := (reset_fresh resetMs underruns).step timeMs call
      rw [run] at hrun
      cases earlier with
      | nil =>
        rw [List.nil_append] at hrun
        obtain ⟨rfl, -⟩ := List.cons.inj hrun
        exact hfirst
      | cons x front =>
        rw [List.cons_append] at hrun
        obtain ⟨rfl, hmore⟩ := List.cons.inj hrun
        exact hgoing.run rfl hclock.2 hmore
  refine ⟨hsound, ?_⟩
  intro targetMs hrange hfed e he
  generalize run (reset resetMs underruns) calls = entries at *
  obtain ⟨front, back, heq⟩ := List.append_of_mem he
  have hall : ∀ x ∈ entries, InRange x.call.currentTargetMs → InRange x.update.targetDelayMs := by
    intro x hx
    obtain ⟨before, behind, hsplit⟩ := List.append_of_mem hx
    exact (hsound before x behind hsplit).range
  clear hsound heq
  induction entries generalizing targetMs with
  | nil => cases he
  | cons first rest ih =>
    obtain ⟨hcurrent, hrest⟩ := hfed
    have hfirst := hall first List.mem_cons_self (by rw [hcurrent]; exact hrange)
    obtain rfl | he' := List.mem_cons.mp he
    · exact hfirst
    · exact ih _ hfirst hrest he' fun x hx => hall x (List.mem_cons_of_mem _ hx)

/-- Two blocks of 20 ms, the second 210 ms late. -/
theorem jitter_sound_late :
    Sound 0 [(reset 0 0).entry 20 ⟨960, 48000, 20, 0, 0, 60⟩]
      (((reset 0 0).entry 20 ⟨960, 48000, 20, 0, 0, 60⟩).after.entry 270
        ⟨960, 48000, 40, 0, 0, 60⟩) := by
  have hclock : Clocked none [(20, (⟨960, 48000, 20, 0, 0, 60⟩ : Call)),
      (270, ⟨960, 48000, 40, 0, 0, 60⟩)] := by
    refine ⟨?_, ?_, trivial⟩
    · intro l hl
      cases hl
    · intro l hl
      cases hl
      decide
  exact (jitter_sound 0 0 _ hclock).1 [(reset 0 0).entry 20 ⟨960, 48000, 20, 0, 0, 60⟩] _ [] rfl

end Lgnome.Audio.Jitter
