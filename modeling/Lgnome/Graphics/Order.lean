import Lgnome.Graphics.Egfx
import Lgnome.Transition.Log

/-!
# Sizes, bitmaps and video in order

The log of a worker is read through one fold. Units are counted from the last
ResetGraphics on, and nothing outlives the retry of a session.
-/
namespace Lgnome.Graphics

open Lgnome.Transition

section View

/-- What the log says so far. -/
structure GfxView where
  queuedBitmaps : List NativeBitmapUnit := []
  sentBitmaps : List NativeBitmapUnit := []
  queuedVideo : List NativeVideoUnit := []
  sentVideo : List NativeVideoUnit := []
  /-- The size of the last ResetGraphics of this attempt. -/
  resetSize : Option (Nat × Nat) := none
  /-- The size of the last ResetGraphics or activation. -/
  currentSize : Option (Nat × Nat) := none
  toldSize : Option (Nat × Nat) := none
  toldSizes : List (Nat × Nat) := []
  timestamps : List UInt64 := []
  deriving DecidableEq, Repr

/-- A reset starts the units anew, a retry the timestamps too. -/
def GfxView.after (v : GfxView) : GfxEvent → GfxView
  | .reset width height =>
    { v with
      queuedBitmaps := [], sentBitmaps := [], queuedVideo := [], sentVideo := []
      resetSize := some (width.toNat, height.toNat)
      currentSize := some (width.toNat, height.toNat) }
  | .retried =>
    { v with
      queuedBitmaps := [], sentBitmaps := [], queuedVideo := [], sentVideo := []
      resetSize := none, timestamps := [] }
  | .bitmapQueued unit => { v with queuedBitmaps := v.queuedBitmaps ++ [unit] }
  | .videoQueued unit => { v with queuedVideo := v.queuedVideo ++ [unit] }
  | .activated width height => { v with currentSize := some (width.toNat, height.toNat) }
  | .desktopSize width height =>
    { v with
      toldSize := some (width.toNat, height.toNat)
      toldSizes := v.toldSizes ++ [(width.toNat, height.toNat)] }
  | .bitmapUpdate unit => { v with sentBitmaps := v.sentBitmaps ++ [unit] }
  | .videoAu codec data pts =>
    { v with sentVideo := v.sentVideo ++ [{ codec, data }], timestamps := v.timestamps ++ [pts] }
  | .slowpathBitmap _ => v

def view (log : List GfxEvent) : GfxView := log.foldl GfxView.after {}

@[simp] theorem view_snoc (log : List GfxEvent) (event : GfxEvent) :
    view (log ++ [event]) = (view log).after event := by
  simp [view]

theorem toldSize_mem (log : List GfxEvent) :
    ∀ size, (view log).toldSize = some size → size ∈ (view log).toldSizes := by
  induction log using List.reverseRecOn with
  | nil => nofun
  | append_singleton log event ih =>
    rw [view_snoc]
    cases event with
    | desktopSize width height =>
      intro size htold
      rw [← Option.some.inj htold]
      exact List.mem_append_right _ (List.mem_singleton_self _)
    | _ => exact ih

/-- A unit out of the queues reaches the application. -/
def GfxEvent.delivers : GfxEvent → Bool
  | .bitmapUpdate _ => true
  | .videoAu _ _ _ => true
  | _ => false

/-- The application knows the current size, and was told that of the last reset. -/
structure SizeTold (v : GfxView) : Prop where
  current : v.toldSize = v.currentSize
  reset : ∀ size, v.resetSize = some size → size ∈ v.toldSizes

/-- Units go out in the order in which they came since the last reset, and the
timestamps of an attempt are evenly spaced. -/
structure InOrder (step : UInt64) (v : GfxView) : Prop where
  bitmaps : v.sentBitmaps <+: v.queuedBitmaps
  video : v.sentVideo <+: v.queuedVideo
  timestamps : v.timestamps =
    (List.range v.timestamps.length).map fun k => UInt64.ofNat (k * step.toNat)

/-- What every event meets and leaves. -/
structure EventOk (step : UInt64) (before : List GfxEvent) (event : GfxEvent) : Prop where
  told : event.delivers → SizeTold (view before)
  inOrder : InOrder step (view (before ++ [event]))

end View

section Invariant

/-- The queues hold what was not sent, and the next timestamp is the next multiple. -/
structure Queued (step : UInt64) (v : GfxView) (bitmaps : List NativeBitmapUnit)
    (video : List NativeVideoUnit) (pts : UInt64) : Prop where
  bitmaps : v.queuedBitmaps = v.sentBitmaps ++ bitmaps
  video : v.queuedVideo = v.sentVideo ++ video
  timestamps : v.timestamps =
    (List.range v.timestamps.length).map fun k => UInt64.ofNat (k * step.toNat)
  next : pts = UInt64.ofNat (v.timestamps.length * step.toNat)

/-- A size that was set by a reset is the current one; one that is pending is to be
told, and otherwise the application knows. -/
structure Sized (v : GfxView) (g : NativeGfxState) : Prop where
  known : g.graphicsWidth ≠ 0 →
    v.currentSize = some (g.graphicsWidth.toNat, g.graphicsHeight.toNat)
  pending : g.graphicsSizePending → g.graphicsWidth ≠ 0 ∧ g.graphicsWidth ≤ 0xFFFF ∧
    g.graphicsHeight ≤ 0xFFFF ∧ v.resetSize = v.currentSize
  told : g.graphicsSizePending = false → SizeTold v

/-- The log of a session that goes on. -/
structure Tracked (step : UInt64) (log : List GfxEvent) (g : NativeGfxState) (pts : UInt64) :
    Prop where
  sound : Throughout (EventOk step) log
  queued : Queued step (view log) g.pendingBitmap g.pendingVideo pts
  sized : Sized (view log) g

variable {step pts : UInt64} {log : List GfxEvent} {g g' : NativeGfxState} {event : GfxEvent}

theorem Queued.inOrder {v : GfxView} {bitmaps : List NativeBitmapUnit}
    {video : List NativeVideoUnit} (h : Queued step v bitmaps video pts) : InOrder step v :=
  ⟨⟨bitmaps, h.bitmaps.symm⟩, ⟨video, h.video.symm⟩, h.timestamps⟩

/-- Queues come and go without a word about sizes. -/
theorem Sized.unchanged {v v' : GfxView} (h : Sized v g) (hreset : v'.resetSize = v.resetSize)
    (hcurrent : v'.currentSize = v.currentSize) (htold : v'.toldSize = v.toldSize)
    (htolds : v'.toldSizes = v.toldSizes) (hwidth : g'.graphicsWidth = g.graphicsWidth)
    (hheight : g'.graphicsHeight = g.graphicsHeight)
    (hsize : g'.graphicsSizePending = g.graphicsSizePending) : Sized v' g' := by
  obtain ⟨h1, h2, h3⟩ := h
  constructor
  · rw [hwidth, hheight, hcurrent]
    exact h1
  · rw [hwidth, hheight, hsize, hcurrent, hreset]
    exact h2
  · intro hp
    obtain ⟨h4, h5⟩ := h3 (hsize ▸ hp)
    constructor
    · rw [htold, hcurrent]
      exact h4
    · rw [hreset, htolds]
      exact h5

/-- One event that delivers nothing. -/
theorem Tracked.snoc (h : Tracked step log g pts) (event : GfxEvent) (hdelivers : event.delivers = false)
    (hqueued : Queued step ((view log).after event) g'.pendingBitmap g'.pendingVideo pts)
    (hsized : Sized ((view log).after event) g') : Tracked step (log ++ [event]) g' pts := by
  have hview := view_snoc log event
  refine ⟨h.sound.snoc ⟨?_, ?_⟩, ?_, ?_⟩
  · intro hd
    rw [hdelivers] at hd
    cases hd
  · rw [hview]
    exact hqueued.inOrder
  · rw [hview]
    exact hqueued
  · rw [hview]
    exact hsized

theorem Tracked.slowpath (h : Tracked step log g pts) (units : List NativeBitmapUnit) :
    Tracked step (log ++ units.map .slowpathBitmap) g pts := by
  induction units generalizing log with
  | nil =>
    rw [List.map_nil, List.append_nil]
    exact h
  | cons unit units ih =>
    rw [List.map_cons, List.append_cons]
    exact ih (h.snoc (.slowpathBitmap unit) rfl h.queued h.sized)

end Invariant

section Callbacks

variable {step pts : UInt64} {log : List GfxEvent} {g : GfxSide}

/-- Sizes of a reset that the worker can tell. -/
def GfxEvent.inRange : GfxEvent → Bool
  | .reset width height => 1 ≤ width && width ≤ 65535 && 1 ≤ height && height ≤ 65535
  | _ => true

theorem Tracked.reset (h : Tracked step log g.shared pts) (width height : UInt32)
    (hrange : (GfxEvent.reset width height).inRange) :
    Tracked step (log ++ (g.onResetGraphics width height).2) (g.onResetGraphics width height).1.shared
      pts := by
  simp only [GfxEvent.inRange, Bool.and_eq_true, decide_eq_true_eq] at hrange
  obtain ⟨⟨⟨hw1, hw2⟩, -⟩, hh2⟩ := hrange
  have hwidth : width ≠ 0 := by
    rintro rfl
    exact absurd hw1 (by decide)
  obtain ⟨hknown, hpending, htold⟩ := h.sized
  show Tracked step (log ++ [.reset width height]) _ pts
  apply h.snoc (.reset width height) rfl
  · exact ⟨rfl, rfl, h.queued.timestamps, h.queued.next⟩
  · by_cases hchange : width ≠ g.shared.graphicsWidth ∨ height ≠ g.shared.graphicsHeight
    · have hgoal : Sized ((view log).after (.reset width height))
          { g.shared with
            pendingVideo := [], pendingBitmap := [], surfaceOrigins := fun _ => none
            graphicsWidth := width, graphicsHeight := height, graphicsSizePending := true } :=
        ⟨fun _ => rfl, fun _ => ⟨hwidth, hw2, hh2, rfl⟩, nofun⟩
      simpa [GfxSide.onResetGraphics, hchange] using hgoal
    · simp only [not_or, ne_eq, not_not] at hchange
      obtain ⟨rfl, rfl⟩ := hchange
      have hgoal : Sized ((view log).after (.reset g.shared.graphicsWidth g.shared.graphicsHeight))
          { g.shared with
            pendingVideo := [], pendingBitmap := [], surfaceOrigins := fun _ => none } := by
        refine ⟨fun _ => rfl, fun hp => ?_, fun hp => ?_⟩
        · obtain ⟨hne, hle, hle', -⟩ := hpending hp
          exact ⟨hne, hle, hle', rfl⟩
        · -- The size was told before, and the application still has it.
          have hcurrent := (htold hp).current.trans (hknown hwidth)
          refine ⟨hcurrent, fun size hsize => ?_⟩
          rw [← Option.some.inj hsize]
          exact toldSize_mem log _ hcurrent
      simpa [GfxSide.onResetGraphics] using hgoal

/-- The parts of the shared state that the log speaks of. -/
structure SameShared (g g' : NativeGfxState) : Prop where
  bitmaps : g'.pendingBitmap = g.pendingBitmap
  video : g'.pendingVideo = g.pendingVideo
  width : g'.graphicsWidth = g.graphicsWidth
  height : g'.graphicsHeight = g.graphicsHeight
  size : g'.graphicsSizePending = g.graphicsSizePending

theorem Tracked.same {shared shared' : NativeGfxState} (h : Tracked step log shared pts)
    (hsame : SameShared shared shared') : Tracked step log shared' pts := by
  obtain ⟨hbitmaps, hvideo, hwidth, hheight, hsize⟩ := hsame
  obtain ⟨hsound, hqueued, hknown, hpending, htold⟩ := h
  refine ⟨hsound, ?_, ?_⟩
  · rw [hbitmaps, hvideo]
    exact hqueued
  · constructor
    · rw [hwidth, hheight]
      exact hknown
    · rw [hwidth, hheight, hsize]
      exact hpending
    · rw [hsize]
      exact htold

theorem markUnsupported_same (g : GfxSide) (detail : String) :
    SameShared g.shared (g.markUnsupported detail).shared := ⟨rfl, rfl, rfl, rfl, rfl⟩

theorem noteUndecodable_same (g : GfxSide) : SameShared g.shared g.noteUndecodable.shared := by
  unfold GfxSide.noteUndecodable
  dsimp only
  split
  · exact ⟨rfl, rfl, rfl, rfl, rfl⟩
  · exact ⟨rfl, rfl, rfl, rfl, rfl⟩

theorem Tracked.bitmap (h : Tracked step log g.shared pts) (update : BitmapUpdate) :
    Tracked step (log ++ (g.onBitmapUpdated update).2) (g.onBitmapUpdated update).1.shared pts := by
  unfold GfxSide.onBitmapUpdated
  dsimp only
  split
  · rw [List.append_nil]
    exact h.same (markUnsupported_same g _)
  · split
    · rw [List.append_nil]
      exact h.same (markUnsupported_same g _)
    · obtain ⟨hbitmaps, hvideo, htimestamps, hnext⟩ := h.queued
      refine h.snoc (.bitmapQueued _) rfl ⟨?_, hvideo, htimestamps, hnext⟩ (h.sized.unchanged rfl rfl rfl rfl rfl rfl rfl)
      show _ ++ [_] = _ ++ (_ ++ [_])
      rw [hbitmaps, List.append_assoc]
      rfl

theorem Tracked.video (h : Tracked step log g.shared pts) (codec : UInt32) (nal : Bytes) :
    Tracked step (log ++ (g.queueVideo codec nal).2) (g.queueVideo codec nal).1.shared pts := by
  unfold GfxSide.queueVideo
  split
  · rw [List.append_nil]
    exact h
  · obtain ⟨hbitmaps, hvideo, htimestamps, hnext⟩ := h.queued
    refine h.snoc (.videoQueued _) rfl ⟨hbitmaps, ?_, htimestamps, hnext⟩ (h.sized.unchanged rfl rfl rfl rfl rfl rfl rfl)
    show _ ++ [_] = _ ++ (_ ++ [_])
    rw [hvideo, List.append_assoc]
    rfl

theorem Tracked.call (h : Tracked step log g.shared pts) (c : GfxCallback)
    (hrange : ∀ event ∈ (g.call c).2, event.inRange) :
    Tracked step (log ++ (g.call c).2) (g.call c).1.shared pts := by
  cases c with
  | resetGraphics width height => exact h.reset width height (hrange _ List.mem_cons_self)
  | bitmapUpdated update => exact h.bitmap update
  | avc420Frame nal => exact h.video _ nal
  | hevcFrame nal =>
    show Tracked step (log ++ (g.onHevcFrame nal).2) (g.onHevcFrame nal).1.shared pts
    unfold GfxSide.onHevcFrame
    split
    · exact h.video _ nal
    · rw [List.append_nil]
      exact h.same (markUnsupported_same g _)
  | unhandledPdu pdu =>
    show Tracked step (log ++ []) (g.onUnhandledPdu pdu).shared pts
    rw [List.append_nil]
    cases pdu with
    | avc444 => exact h.same (markUnsupported_same g _)
    | wireToSurface => exact h.same (noteUndecodable_same g)
    | other => exact h
  | capabilitiesConfirmed frdp1Hevc =>
    show Tracked step (log ++ []) _ pts
    rw [List.append_nil]
    exact h
  | surfaceMapped surfaceId originX originY =>
    show Tracked step (log ++ []) _ pts
    rw [List.append_nil]
    exact h.same ⟨rfl, rfl, rfl, rfl, rfl⟩
  | surfaceDeleted surfaceId =>
    show Tracked step (log ++ []) _ pts
    rw [List.append_nil]
    exact h.same ⟨rfl, rfl, rfl, rfl, rfl⟩

theorem Tracked.calls (h : Tracked step log g.shared pts) (cs : List GfxCallback)
    (hrange : ∀ event ∈ (g.calls cs).2, event.inRange) :
    Tracked step (log ++ (g.calls cs).2) (g.calls cs).1.shared pts := by
  induction cs generalizing log g with
  | nil =>
    show Tracked step (log ++ []) g.shared pts
    rw [List.append_nil]
    exact h
  | cons c cs ih =>
    have hfirst := h.call c fun event hmem => hrange event (List.mem_append_left _ hmem)
    show Tracked step (log ++ ((g.call c).2 ++ _)) _ pts
    rw [← List.append_assoc]
    exact ih hfirst fun event hmem => hrange event (List.mem_append_right _ hmem)

end Callbacks

section Drain

variable {step pts : UInt64} {size : Option (Nat × Nat)} {log : List GfxEvent}
  {bitmaps : List NativeBitmapUnit} {video : List NativeVideoUnit} {w : GfxWorker}

/-- A drain on its way: the size is told, and these units are still to go. -/
structure Draining (step : UInt64) (size : Option (Nat × Nat)) (log : List GfxEvent)
    (bitmaps : List NativeBitmapUnit) (video : List NativeVideoUnit) (pts : UInt64) : Prop where
  sound : Throughout (EventOk step) log
  queued : Queued step (view log) bitmaps video pts
  told : SizeTold (view log)
  current : (view log).currentSize = size

theorem Draining.snoc (h : Draining step size log bitmaps video pts) (event : GfxEvent)
    {bitmaps' : List NativeBitmapUnit} {video' : List NativeVideoUnit} {pts' : UInt64}
    (hqueued : Queued step ((view log).after event) bitmaps' video' pts')
    (htold : SizeTold ((view log).after event))
    (hcurrent : ((view log).after event).currentSize = (view log).currentSize) :
    Draining step size (log ++ [event]) bitmaps' video' pts' := by
  have hview := view_snoc log event
  refine ⟨h.sound.snoc ⟨fun _ => h.told, ?_⟩, ?_, ?_, ?_⟩
  · rw [hview]
    exact hqueued.inOrder
  · rw [hview]
    exact hqueued
  · rw [hview]
    exact htold
  · rw [hview, hcurrent]
    exact h.current

theorem Draining.sendBitmaps (h : Draining step size log bitmaps video pts) :
    Draining step size (log ++ bitmaps.map .bitmapUpdate) [] video pts := by
  induction bitmaps generalizing log with
  | nil =>
    rw [List.map_nil, List.append_nil]
    exact h
  | cons unit bitmaps ih =>
    rw [List.map_cons, List.append_cons]
    apply ih
    obtain ⟨hbitmaps, hvideo, htimestamps, hnext⟩ := h.queued
    refine h.snoc (.bitmapUpdate unit) ⟨?_, hvideo, htimestamps, hnext⟩
      ⟨h.told.current, h.told.reset⟩ rfl
    show _ = (_ ++ [unit]) ++ bitmaps
    rw [List.append_assoc]
    exact hbitmaps

theorem nextTimestamp (n : Nat) (step : UInt64) :
    UInt64.ofNat (n * step.toNat) + step = UInt64.ofNat ((n + 1) * step.toNat) := by
  rw [Nat.succ_mul, UInt64.ofNat_add, UInt64.ofNat_toNat]

theorem Draining.sendVideo {framePtsStep : UInt64} (hstep : max framePtsStep 1 = step)
    (h : Draining step size log bitmaps video pts) :
    Draining step size (log ++ (GfxWorker.sendVideo framePtsStep pts video).2) bitmaps []
      (GfxWorker.sendVideo framePtsStep pts video).1 := by
  induction video generalizing log pts with
  | nil =>
    show Draining step size (log ++ []) bitmaps [] pts
    rw [List.append_nil]
    exact h
  | cons unit video ih =>
    show Draining step size (log ++ .videoAu unit.codec unit.data pts :: _) bitmaps [] _
    rw [List.append_cons]
    apply ih
    obtain ⟨hbitmaps, hvideo, htimestamps, hnext⟩ := h.queued
    have hlength : ((view log).after (.videoAu unit.codec unit.data pts)).timestamps.length =
        (view log).timestamps.length + 1 := List.length_append
    refine h.snoc (.videoAu unit.codec unit.data pts) ⟨hbitmaps, ?_, ?_, ?_⟩
      ⟨h.told.current, h.told.reset⟩ rfl
    · show _ = (_ ++ [unit]) ++ video
      rw [List.append_assoc]
      exact hvideo
    · rw [hlength, List.range_succ, List.map_append, ← htimestamps, List.map_singleton, ← hnext]
      rfl
    · rw [hlength, hstep, hnext]
      exact nextTimestamp _ _

theorem clampU16_toNat {n : UInt32} (h : n ≤ 0xFFFF) : (GfxWorker.clampU16 n).toNat = n.toNat := by
  have hlt : n.toNat ≤ 65535 := UInt32.le_iff_toNat_le.mp h
  rw [GfxWorker.clampU16, if_pos h, UInt32.toNat_toUInt16]
  omega

/-- The size goes out first if the application does not have it. -/
theorem Tracked.sendSize {g : NativeGfxState} (h : Tracked step log g pts) :
    Draining step (view log).currentSize (log ++ GfxWorker.sizeEvents g) g.pendingBitmap
      g.pendingVideo pts := by
  unfold GfxWorker.sizeEvents
  split
  · rename_i hpending
    obtain ⟨hne, hwidth, hheight, hreset⟩ := h.sized.pending hpending
    have hcurrent := h.sized.known hne
    have hview := view_snoc log
      (.desktopSize (GfxWorker.clampU16 g.graphicsWidth) (GfxWorker.clampU16 g.graphicsHeight))
    have hqueued : Queued step (view (log ++ [.desktopSize (GfxWorker.clampU16 g.graphicsWidth)
        (GfxWorker.clampU16 g.graphicsHeight)])) g.pendingBitmap g.pendingVideo pts := by
      rw [hview]
      exact ⟨h.queued.bitmaps, h.queued.video, h.queued.timestamps, h.queued.next⟩
    refine ⟨h.sound.snoc ⟨nofun, hqueued.inOrder⟩, hqueued, ?_, ?_⟩
    · rw [hview]
      constructor
      · show some (_, _) = (view log).currentSize
        rw [clampU16_toNat hwidth, clampU16_toNat hheight, hcurrent]
      · intro size hsize
        change (view log).resetSize = some size at hsize
        rw [hreset, hcurrent] at hsize
        show size ∈ (view log).toldSizes ++ [_]
        rw [clampU16_toNat hwidth, clampU16_toNat hheight, ← Option.some.inj hsize]
        exact List.mem_append_right _ (List.mem_singleton_self _)
    · rw [hview]
      rfl
  · rename_i hpending
    rw [List.append_nil]
    exact ⟨h.sound, h.queued, h.sized.told (Bool.not_eq_true _ ▸ hpending), rfl⟩

theorem drainGfx_supported (hsupported : w.gfx.shared.unsupportedGraphics = none) :
    w.drainGfx =
      ({ w with
        gfx := { w.gfx with shared := { w.gfx.shared with
          pendingVideo := [], pendingBitmap := [], unsupportedGraphics := none
          graphicsSizePending := false } }
        nextPts90k :=
          (GfxWorker.sendVideo w.framePtsStep w.nextPts90k w.gfx.shared.pendingVideo).1 },
      GfxWorker.sizeEvents w.gfx.shared ++ (w.gfx.shared.pendingBitmap.map .bitmapUpdate ++
        (GfxWorker.sendVideo w.framePtsStep w.nextPts90k w.gfx.shared.pendingVideo).2)) := by
  simp [GfxWorker.drainGfx, hsupported]

/-- A drain that ends well leaves nothing behind. -/
theorem Tracked.drain (h : Tracked (max w.framePtsStep 1) log w.gfx.shared w.nextPts90k)
    (hsupported : w.gfx.shared.unsupportedGraphics = none) :
    Tracked (max w.framePtsStep 1) (log ++ w.drainGfx.2) w.drainGfx.1.gfx.shared
      w.drainGfx.1.nextPts90k := by
  have hsent := h.sendSize.sendBitmaps.sendVideo rfl
  rw [drainGfx_supported hsupported]
  simp only [← List.append_assoc]
  refine ⟨hsent.sound, hsent.queued, ?_, nofun, fun _ => hsent.told⟩
  intro hne
  rw [hsent.current]
  exact h.sized.known hne

end Drain

section Session

variable {step pts : UInt64} {log : List GfxEvent} {g : NativeGfxState} {w : GfxWorker}

/-- A desktop size from the connection, told at once. -/
theorem activated_tracked (hsound : Throughout (EventOk step) log)
    (hqueued : Queued step (view log) g.pendingBitmap g.pendingVideo pts)
    (hreset : ∀ size, (view log).resetSize = some size → size ∈ (view log).toldSizes)
    (hwidth : g.graphicsWidth = 0) (hpending : g.graphicsSizePending = false)
    (width height : UInt16) :
    Tracked step (log ++ [.activated width height, .desktopSize width height]) g pts := by
  have hview1 := view_snoc log (.activated width height)
  have hview2 := view_snoc (log ++ [.activated width height]) (.desktopSize width height)
  rw [hview1] at hview2
  have hqueued1 : Queued step (view (log ++ [.activated width height])) g.pendingBitmap
      g.pendingVideo pts := by
    rw [hview1]
    exact ⟨hqueued.bitmaps, hqueued.video, hqueued.timestamps, hqueued.next⟩
  have hqueued2 : Queued step (view ((log ++ [.activated width height]) ++
      [.desktopSize width height])) g.pendingBitmap g.pendingVideo pts := by
    rw [hview2]
    exact ⟨hqueued.bitmaps, hqueued.video, hqueued.timestamps, hqueued.next⟩
  have hok1 : EventOk step log (.activated width height) := ⟨nofun, hqueued1.inOrder⟩
  have hok2 : EventOk step (log ++ [.activated width height]) (.desktopSize width height) :=
    ⟨nofun, hqueued2.inOrder⟩
  rw [List.append_cons]
  refine ⟨(hsound.snoc hok1).snoc hok2, hqueued2, fun hne => absurd hwidth hne, fun hp => ?_, fun _ => ?_⟩
  · rw [hpending] at hp
    cases hp
  · rw [hview2]
    refine ⟨rfl, fun size hsize => ?_⟩
    exact List.mem_append_left _ (hreset size hsize)

/-- A session that has not begun: nothing queued, no size, no timestamp given out. -/
structure Fresh (step : UInt64) (log : List GfxEvent) (g : NativeGfxState) (pts : UInt64) : Prop
    where
  sound : Throughout (EventOk step) log
  queued : Queued step (view log) g.pendingBitmap g.pendingVideo pts
  reset : (view log).resetSize = none
  width : g.graphicsWidth = 0
  pending : g.graphicsSizePending = false

/-- What the log of a worker says in each phase. -/
structure WorkerOk (step : UInt64) (log : List GfxEvent) (w : GfxWorker) : Prop where
  interval : max w.framePtsStep 1 = step
  sound : Throughout (EventOk step) log
  connecting : w.phase = .connecting → Fresh step log w.gfx.shared w.nextPts90k
  active : w.phase = .active → Tracked step log w.gfx.shared w.nextPts90k

theorem WorkerOk.failed (w : GfxWorker) (hinterval : max w.framePtsStep 1 = step)
    (hsound : Throughout (EventOk step) log) (retryHandoff : Bool) :
    WorkerOk step log (w.fail retryHandoff) :=
  ⟨hinterval, hsound, nofun, nofun⟩

theorem WorkerOk.drain (h : WorkerOk step log w) (hactive : w.phase = .active) :
    WorkerOk step (log ++ w.drainGfx.2) w.drainGfx.1 ∧
      (w.drainGfx.1.phase = .active → w.drainGfx.1.gfx.shared.graphicsSizePending = false) := by
  obtain rfl := h.interval
  cases hunsupported : w.gfx.shared.unsupportedGraphics with
  | none =>
    have htracked := (h.active hactive).drain hunsupported
    rw [drainGfx_supported hunsupported] at htracked ⊢
    refine ⟨⟨rfl, htracked.sound, fun hphase => ?_, fun _ => htracked⟩, fun _ => rfl⟩
    rw [hactive] at hphase
    cases hphase
  | some detail =>
    have hdrain : ∃ w' : GfxWorker, w.drainGfx = (w'.fail false, []) ∧ w'.framePtsStep = w.framePtsStep := by
      simp only [GfxWorker.drainGfx, hunsupported, Option.isSome_some, if_true]
      exact ⟨_, rfl, rfl⟩
    obtain ⟨w', hdrain, hsame⟩ := hdrain
    rw [hdrain, List.append_nil, ← hsame]
    exact ⟨.failed w' rfl (hsame ▸ h.sound) false, nofun⟩

theorem WorkerOk.reactivate (h : WorkerOk step log w) (hactive : w.phase = .active)
    (hpending : w.gfx.shared.graphicsSizePending = false) (r : Reactivation) :
    WorkerOk step (log ++ (w.driveReactivation r).2) (w.driveReactivation r).1 := by
  have htracked := h.active hactive
  cases r with
  | failed retryHandoff =>
    show WorkerOk step (log ++ []) _
    rw [List.append_nil]
    exact WorkerOk.failed _ (by exact h.interval) h.sound retryHandoff
  | unusable width height =>
    simp only [GfxWorker.driveReactivation]
    split
    · rw [List.append_nil]
      exact WorkerOk.failed _ (by exact h.interval) h.sound false
    · rw [List.append_nil]
      exact WorkerOk.failed _ (by exact h.interval) h.sound false
  | finalized width height written =>
    simp only [GfxWorker.driveReactivation]
    split
    · have hnext := activated_tracked (g := { w.gfx.shared with graphicsWidth := 0, graphicsHeight := 0 })
        htracked.sound htracked.queued (htracked.sized.told hpending).reset rfl hpending width height
      cases written with
      | true =>
        refine ⟨h.interval, hnext.sound, fun hphase => ?_, fun _ => hnext⟩
        rw [if_pos rfl] at hphase
        simp only [hactive] at hphase
        cases hphase
      | false => exact WorkerOk.failed _ (by exact h.interval) hnext.sound false
    · rw [List.append_nil]
      exact WorkerOk.failed _ (by exact h.interval) h.sound false

theorem WorkerOk.finish (h : WorkerOk step log w) (hactive : w.phase = .active)
    (reactivation : Option Reactivation) :
    WorkerOk step (log ++ (w.finishFrame reactivation).2) (w.finishFrame reactivation).1 := by
  obtain ⟨hdrained, hpending⟩ := h.drain hactive
  unfold GfxWorker.finishFrame
  dsimp only
  split
  · rename_i r hphase
    rw [← List.append_assoc]
    exact hdrained.reactivate hphase (hpending hphase) r
  · exact hdrained

theorem WorkerOk.frame (h : WorkerOk step log w) (hactive : w.phase = .active)
    (callbacks : List GfxCallback) (slowpath : List NativeBitmapUnit) (frameEnd : FrameEnd)
    (hrange : ∀ event ∈ (w.frame callbacks slowpath frameEnd).2, event.inRange) :
    WorkerOk step (log ++ (w.frame callbacks slowpath frameEnd).2)
      (w.frame callbacks slowpath frameEnd).1 := by
  have hcalled : Tracked step (log ++ (w.gfx.calls callbacks).2) (w.gfx.calls callbacks).1.shared
      w.nextPts90k := by
    apply (h.active hactive).calls callbacks
    intro event hmem
    apply hrange
    cases frameEnd with
    | processFailed => exact hmem
    | terminated retryHandoff => exact List.mem_append_left _ hmem
    | done reactivation => exact List.mem_append_left _ hmem
  have hslow := hcalled.slowpath slowpath
  cases frameEnd with
  | processFailed =>
    show WorkerOk step _ ({ w with gfx := (w.gfx.calls callbacks).1 : GfxWorker }.fail false)
    exact WorkerOk.failed _ (by exact h.interval) hcalled.sound false
  | terminated retryHandoff =>
    show WorkerOk step (log ++ (_ ++ _))
      ({ w with gfx := (w.gfx.calls callbacks).1 : GfxWorker }.fail retryHandoff)
    rw [← List.append_assoc]
    exact WorkerOk.failed _ (by exact h.interval) hslow.sound retryHandoff
  | done reactivation =>
    show WorkerOk step (log ++ (_ ++ (_ ++ _))) _
    rw [← List.append_assoc, ← List.append_assoc]
    have hok : WorkerOk step ((log ++ (w.gfx.calls callbacks).2) ++ slowpath.map .slowpathBitmap)
        { w with gfx := (w.gfx.calls callbacks).1 } := by
      refine ⟨h.interval, hslow.sound, fun hphase => ?_, fun _ => hslow⟩
      rw [hactive] at hphase
      cases hphase
    exact hok.finish hactive reactivation

theorem WorkerOk.retry (h : WorkerOk step log w) :
    WorkerOk step (log ++ [.retried]) w.resetSessionState := by
  have hview := view_snoc log .retried
  have hqueued : Queued step (view (log ++ [.retried])) [] [] 0 := by
    rw [hview]
    refine ⟨rfl, rfl, rfl, ?_⟩
    show 0 = UInt64.ofNat (0 * step.toNat)
    rw [Nat.zero_mul]
    rfl
  have hevent : EventOk step log .retried := ⟨nofun, hqueued.inOrder⟩
  have hsound := h.sound.snoc hevent
  refine ⟨h.interval, hsound, fun _ => ⟨hsound, hqueued, ?_, rfl, rfl⟩, nofun⟩
  rw [hview]
  rfl

theorem step_ok {a : GfxAction} {w' : GfxWorker} {events : List GfxEvent} (h : WorkerOk step log w)
    (hstep : w.step a = some (w', events)) (hrange : ∀ event ∈ events, event.inRange) :
    WorkerOk step (log ++ events) w' := by
  cases a with
  | connectFailed retryHandoff =>
    simp only [GfxWorker.step, Option.ite_none_right_eq_some] at hstep
    obtain ⟨rfl, rfl⟩ := Prod.mk.inj (Option.some.inj hstep.2)
    rw [List.append_nil]
    exact WorkerOk.failed _ (by exact h.interval) h.sound retryHandoff
  | activate width height =>
    simp only [GfxWorker.step, Option.ite_none_right_eq_some] at hstep
    obtain ⟨hphase, hstep⟩ := hstep
    obtain ⟨hsound, hqueued, hreset, hwidth, hpending⟩ := h.connecting hphase
    split at hstep
    · obtain ⟨rfl, rfl⟩ := Prod.mk.inj (Option.some.inj hstep)
      have hactive := activated_tracked hsound hqueued
        (fun size hsize => by rw [hreset] at hsize; cases hsize) hwidth hpending width height
      exact ⟨h.interval, hactive.sound, nofun, fun _ => hactive⟩
    · obtain ⟨rfl, rfl⟩ := Prod.mk.inj (Option.some.inj hstep)
      rw [List.append_nil]
      exact WorkerOk.failed _ (by exact h.interval) h.sound false
  | poll =>
    simp only [GfxWorker.step, Option.ite_none_right_eq_some] at hstep
    obtain ⟨hphase, hstep⟩ := hstep
    have hdrained := (h.drain hphase).1
    rw [Option.some.inj hstep] at hdrained
    exact hdrained
  | frame callbacks slowpath frameEnd =>
    simp only [GfxWorker.step, Option.ite_none_right_eq_some] at hstep
    obtain ⟨hphase, hstep⟩ := hstep
    have hframe := h.frame hphase callbacks slowpath frameEnd
    rw [Option.some.inj hstep] at hframe
    exact hframe hrange
  | ioFailed =>
    simp only [GfxWorker.step, Option.ite_none_right_eq_some] at hstep
    obtain ⟨rfl, rfl⟩ := Prod.mk.inj (Option.some.inj hstep.2)
    rw [List.append_nil]
    exact WorkerOk.failed _ (by exact h.interval) h.sound false
  | retry =>
    simp only [GfxWorker.step, Option.ite_none_right_eq_some] at hstep
    obtain ⟨rfl, rfl⟩ := Prod.mk.inj (Option.some.inj hstep.2)
    exact h.retry

theorem init_ok (config : GfxConfig) :
    WorkerOk (max (ptsStep config) 1) [] (gfxMachine config).init := by
  refine ⟨rfl, .nil, fun _ => ⟨.nil, ⟨rfl, rfl, rfl, ?_⟩, rfl, rfl, rfl⟩, nofun⟩
  show 0 = UInt64.ofNat (0 * (max (ptsStep config) 1).toNat)
  rw [Nat.zero_mul]
  rfl

theorem run_ok {config : GfxConfig} {tr : List (GfxAction × List GfxEvent)}
    (hr : (gfxMachine config).Run tr w)
    (hrange : ∀ event ∈ tr.flatMap Prod.snd, event.inRange) :
    WorkerOk (max (ptsStep config) 1) (tr.flatMap Prod.snd) w := by
  have hall : (∀ event ∈ tr.flatMap Prod.snd, event.inRange) →
      WorkerOk (max (ptsStep config) 1) (tr.flatMap Prod.snd) w := by
    apply hr.history (I := fun tr w => (∀ event ∈ tr.flatMap Prod.snd, event.inRange) →
      WorkerOk (max (ptsStep config) 1) (tr.flatMap Prod.snd) w) fun _ => init_ok config
    intro tr w a w' events ih hstep hrange
    simp only [List.flatMap_append, List.flatMap_singleton, List.mem_append] at hrange ⊢
    exact step_ok (ih fun event hmem => hrange event (.inl hmem)) hstep
      fun event hmem => hrange event (.inr hmem)
  exact hall hrange

end Session

section Result

variable {w : GfxWorker}

/-- Multiples of the frame interval grow until the 64 bits are used up. -/
theorem timestamps_increasing {step : UInt64} (hstep : 1 ≤ step.toNat) (n : Nat)
    (hn : n * step.toNat ≤ 2 ^ 64) :
    ((List.range n).map fun k => UInt64.ofNat (k * step.toNat)).Pairwise (· < ·) := by
  rw [List.pairwise_map]
  refine List.pairwise_lt_range.imp_of_mem fun {a b} _ hb hab => ?_
  have hbn : b + 1 ≤ n := List.mem_range.mp hb
  have hnext : (b + 1) * step.toNat ≤ n * step.toNat := Nat.mul_le_mul_right _ hbn
  have hless : (a + 1) * step.toNat ≤ b * step.toNat := Nat.mul_le_mul_right _ hab
  rw [Nat.succ_mul] at hnext hless
  have ha : a * step.toNat < UInt64.size := by
    show _ < 2 ^ 64
    omega
  have hb : b * step.toNat < UInt64.size := by
    show _ < 2 ^ 64
    omega
  rw [UInt64.lt_iff_toNat_lt, UInt64.toNat_ofNat_of_lt' ha, UInt64.toNat_ofNat_of_lt' hb]
  omega

theorem interval_pos (step : UInt64) : 1 ≤ (max step 1).toNat := by
  show 1 ≤ (if step ≤ 1 then 1 else step).toNat
  split
  · decide
  · rename_i h
    exact Nat.le_of_lt (UInt64.lt_iff_toNat_lt.mp (UInt64.not_le.mp h))

/-- The callbacks in front of a drain, and the reactivation behind it. -/
def GfxAction.drain : GfxAction → Option (List GfxCallback × Option Reactivation)
  | .poll => some ([], none)
  | .frame callbacks _ (.done reactivation) => some (callbacks, reactivation)
  | _ => none

/-- What a drain leaves when the session goes on. -/
structure LeftEmpty (w : GfxWorker) : Prop where
  bitmaps : w.gfx.shared.pendingBitmap = []
  video : w.gfx.shared.pendingVideo = []
  size : w.gfx.shared.graphicsSizePending = false

theorem drainGfx_empty (w : GfxWorker) : LeftEmpty w.drainGfx.1 := by
  unfold GfxWorker.drainGfx
  dsimp only
  split
  · exact ⟨rfl, rfl, rfl⟩
  · exact ⟨rfl, rfl, rfl⟩

theorem driveReactivation_empty (h : LeftEmpty w) (r : Reactivation) :
    LeftEmpty (w.driveReactivation r).1 := by
  obtain ⟨hbitmaps, hvideo, hsize⟩ := h
  cases r with
  | failed retryHandoff => exact ⟨hbitmaps, hvideo, hsize⟩
  | unusable width height =>
    simp only [GfxWorker.driveReactivation]
    split
    · exact ⟨hbitmaps, hvideo, hsize⟩
    · exact ⟨hbitmaps, hvideo, hsize⟩
  | finalized width height written =>
    simp only [GfxWorker.driveReactivation]
    split
    · cases written with
      | true => exact ⟨hbitmaps, hvideo, hsize⟩
      | false => exact ⟨hbitmaps, hvideo, hsize⟩
    · exact ⟨hbitmaps, hvideo, hsize⟩

theorem finishFrame_empty (w : GfxWorker) (reactivation : Option Reactivation) :
    LeftEmpty (w.finishFrame reactivation).1 := by
  unfold GfxWorker.finishFrame
  dsimp only
  split
  · exact driveReactivation_empty (drainGfx_empty w) _
  · exact drainGfx_empty w

theorem finishFrame_none (w : GfxWorker) : w.finishFrame none = w.drainGfx := by
  unfold GfxWorker.finishFrame
  dsimp only
  split
  · contradiction
  · rfl

/-- An unsupported update is what keeps a drain from going on. -/
theorem drainGfx_goes_on (hactive : w.phase = .active)
    (hsupported : w.gfx.shared.unsupportedGraphics = none) : w.drainGfx.1.phase = .active := by
  rw [drainGfx_supported hsupported]
  exact hactive

theorem step_drains {w₀ : GfxWorker} {a : GfxAction} {events : List GfxEvent}
    {callbacks : List GfxCallback} {reactivation : Option Reactivation}
    (hstep : w₀.step a = some (w, events)) (hdrain : a.drain = some (callbacks, reactivation)) :
    LeftEmpty w ∧ (reactivation = none →
      (w₀.gfx.calls callbacks).1.shared.unsupportedGraphics = none → w.phase = .active) := by
  cases a with
  | poll =>
    simp only [GfxWorker.step, Option.ite_none_right_eq_some] at hstep
    obtain ⟨hphase, hstep⟩ := hstep
    obtain ⟨rfl, -⟩ := Prod.mk.inj (Option.some.inj hdrain)
    have hw := congrArg Prod.fst (Option.some.inj hstep)
    rw [← show w₀.drainGfx.1 = w from hw]
    exact ⟨drainGfx_empty w₀, fun _ => drainGfx_goes_on hphase⟩
  | frame called slowpath frameEnd =>
    simp only [GfxWorker.step, Option.ite_none_right_eq_some] at hstep
    obtain ⟨hphase, hstep⟩ := hstep
    cases frameEnd with
    | done r =>
      obtain ⟨rfl, rfl⟩ := Prod.mk.inj (Option.some.inj hdrain)
      have hw : ({ w₀ with gfx := (w₀.gfx.calls called).1 : GfxWorker }.finishFrame r).1 = w :=
        congrArg Prod.fst (Option.some.inj hstep)
      rw [← hw]
      refine ⟨finishFrame_empty _ r, ?_⟩
      rintro rfl hsupported
      rw [finishFrame_none]
      exact drainGfx_goes_on (w := { w₀ with gfx := (w₀.gfx.calls called).1 }) hphase hsupported
    | processFailed => cases hdrain
    | terminated retryHandoff => cases hdrain
  | _ => cases hdrain

/-- Two frames with a reset and a reactivation, a retry, and a frame of the next attempt. -/
def handedOff : List GfxAction :=
  [.activate 800 600, .frame [.resetGraphics 1920 1080, .avc420Frame [1]] [] (.done none),
    .frame [.avc420Frame [2]] [] (.done (some (.finalized 1024 768 true))), .poll,
    .frame [] [] (.terminated true), .retry, .activate 800 600,
    .frame [.avc420Frame [3]] [] (.done none)]

/-- The timestamp of a video unit. -/
def GfxEvent.timestamp : GfxEvent → Option UInt64
  | .videoAu _ _ pts => some pts
  | _ => none

end Result

end Lgnome.Graphics
