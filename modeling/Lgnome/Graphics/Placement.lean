import Lgnome.Graphics.Order

/-!
# Where a bitmap lands

The server maps a surface anywhere, and deletes it or resets everything at any
time. The history of the callbacks, read from its newest end, says where a
bitmap belongs; the worker delivers it there unless the sum leaves 32 bits.
-/
namespace Lgnome.Graphics

open Lgnome.Transition

section Placement

/-- The latest mapping of a surface since it was deleted or the graphics were
reset. The history has its newest callback first. -/
def latest (surfaceId : UInt16) : List GfxCallback → Option (UInt32 × UInt32)
  | [] => none
  | .surfaceMapped other originX originY :: before =>
    if surfaceId = other then some (originX, originY) else latest surfaceId before
  | .surfaceDeleted other :: before => if surfaceId = other then none else latest surfaceId before
  | .resetGraphics _ _ :: _ => none
  | _ :: before => latest surfaceId before

/-- A bitmap and where it belongs on the desktop. -/
structure Placement where
  update : BitmapUpdate
  left : Nat
  top : Nat
  deriving DecidableEq, Repr

/-- `on_bitmap_updated` keeps the bitmap: there is one, and it is as long as it says. -/
def BitmapUpdate.accepted (update : BitmapUpdate) : Bool :=
  update.data ≠ [] && update.width ≠ 0 && update.height ≠ 0 &&
    update.width.toNat * 4 * update.height.toNat ≤ update.data.length

/-- The sum of the rectangle's corner and the surface's origin. -/
def BitmapUpdate.place (update : BitmapUpdate) (before : List GfxCallback) : Placement :=
  let origin := (latest update.surfaceId before).getD (0, 0)
  { update, left := update.left.toNat + origin.1.toNat, top := update.top.toNat + origin.2.toNat }

/-- The accepted bitmaps since the last reset, in the order in which they came. -/
def placements : List GfxCallback → List Placement
  | [] => []
  | .resetGraphics _ _ :: _ => []
  | .bitmapUpdated update :: before =>
    placements before ++ if update.accepted then [update.place before] else []
  | _ :: before => placements before

/-- The callbacks of a session, newest first. A retry is a new session. -/
def callbacksOf (history : List GfxCallback) : GfxAction → List GfxCallback
  | .frame callbacks _ _ => callbacks.reverse ++ history
  | .retry => []
  | _ => history

def history (tr : List (GfxAction × List GfxEvent)) : List GfxCallback :=
  tr.foldl (fun h x => callbacksOf h x.1) []

/-- The unit that a placement becomes in 32 bits. -/
def Placement.unit (p : Placement) : NativeBitmapUnit where
  surfaceId := p.update.surfaceId
  left := UInt32.ofNat p.left
  top := UInt32.ofNat p.top
  width := p.update.width.toUInt32
  height := p.update.height.toUInt32
  stride := p.update.width.toUInt32 * 4
  data := p.update.data

end Placement

section Invariant

variable {h : List GfxCallback} {v : GfxView} {g : GfxSide}

/-- The mapped origins are the latest ones, and what is queued is what belongs
on the desktop. -/
structure Laid (h : List GfxCallback) (v : GfxView) (g : GfxSide) : Prop where
  origins : ∀ surfaceId, g.shared.surfaceOrigins surfaceId = latest surfaceId h
  queued : v.queuedBitmaps = (placements h).map Placement.unit
  pending : v.queuedBitmaps = v.sentBitmaps ++ g.shared.pendingBitmap

/-- A callback that neither maps nor resets, with no bitmap. -/
theorem Laid.quiet {h' : List GfxCallback} {v' : GfxView} {g' : GfxSide} (hl : Laid h v g)
    (hlatest : ∀ surfaceId, latest surfaceId h' = latest surfaceId h)
    (hplaced : placements h' = placements h) (hqueued : v'.queuedBitmaps = v.queuedBitmaps)
    (hsent : v'.sentBitmaps = v.sentBitmaps)
    (horigins : g'.shared.surfaceOrigins = g.shared.surfaceOrigins)
    (hpending : g'.shared.pendingBitmap = g.shared.pendingBitmap) : Laid h' v' g' := by
  refine ⟨fun surfaceId => ?_, ?_, ?_⟩
  · rw [horigins, hlatest]
    exact hl.origins surfaceId
  · rw [hqueued, hplaced]
    exact hl.queued
  · rw [hqueued, hsent, hpending]
    exact hl.pending

theorem queueVideo_laid {h' : List GfxCallback} (hl : Laid h v g)
    (hlatest : ∀ surfaceId, latest surfaceId h' = latest surfaceId h)
    (hplaced : placements h' = placements h) (codec : UInt32) (nal : Bytes) :
    Laid h' ((g.queueVideo codec nal).2.foldl GfxView.after v) (g.queueVideo codec nal).1 := by
  unfold GfxSide.queueVideo
  split
  · exact hl.quiet hlatest hplaced rfl rfl rfl rfl
  · exact hl.quiet hlatest hplaced rfl rfl rfl rfl

/-- The unit that is queued is the placement in 32 bits. -/
theorem bitmapUnit_eq (hl : Laid h v g) (update : BitmapUpdate) :
    g.bitmapUnit update = (update.place h).unit := by
  have hsum : ∀ (corner : UInt16) (origin : UInt32),
      corner.toUInt32 + origin = UInt32.ofNat (corner.toNat + origin.toNat) := by
    intro corner origin
    apply UInt32.toNat_inj.1
    rw [UInt32.toNat_add, UInt16.toNat_toUInt32, UInt32.toNat_ofNat']
  simp only [GfxSide.bitmapUnit, Placement.unit, BitmapUpdate.place, hl.origins, hsum]

theorem bitmapUpdated_laid (hl : Laid h v g) (update : BitmapUpdate) :
    Laid (.bitmapUpdated update :: h) ((g.onBitmapUpdated update).2.foldl GfxView.after v)
      (g.onBitmapUpdated update).1 := by
  have haccepted : update.accepted = true ↔ ¬ (update.data = [] ∨ update.width = 0 ∨
      update.height = 0) ∧ ¬ update.data.length < update.width.toNat * 4 * update.height.toNat := by
    simp only [BitmapUpdate.accepted, Bool.and_eq_true, decide_eq_true_eq, not_or, Nat.not_lt, ne_eq,
      and_assoc]
  unfold GfxSide.onBitmapUpdated
  dsimp only
  by_cases hempty : update.data = [] ∨ update.width = 0 ∨ update.height = 0
  · have hnot : update.accepted = false := Bool.eq_false_iff.2 fun hacc =>
      (haccepted.1 hacc).1 hempty
    rw [if_pos hempty]
    exact hl.quiet (fun _ => rfl) (by simp [placements, hnot]) rfl rfl rfl rfl
  · by_cases hshort : update.data.length < update.width.toNat * 4 * update.height.toNat
    · have hnot : update.accepted = false := Bool.eq_false_iff.2 fun hacc =>
        (haccepted.1 hacc).2 hshort
      rw [if_neg hempty, if_pos hshort]
      exact hl.quiet (fun _ => rfl) (by simp [placements, hnot]) rfl rfl rfl rfl
    · have hacc : update.accepted = true := haccepted.2 ⟨hempty, hshort⟩
      rw [if_neg hempty, if_neg hshort]
      refine ⟨hl.origins, ?_, ?_⟩
      · show v.queuedBitmaps ++ [g.bitmapUnit update] = _
        rw [placements, if_pos hacc, List.map_append, hl.queued, bitmapUnit_eq hl]
        rfl
      · show v.queuedBitmaps ++ [g.bitmapUnit update] =
          v.sentBitmaps ++ (g.shared.pendingBitmap ++ [g.bitmapUnit update])
        rw [hl.pending, List.append_assoc]

/-- One callback. -/
theorem Laid.call (hl : Laid h v g) (c : GfxCallback) :
    Laid (c :: h) ((g.call c).2.foldl GfxView.after v) (g.call c).1 := by
  cases c with
  | resetGraphics width height => exact ⟨fun _ => rfl, rfl, rfl⟩
  | bitmapUpdated update => exact bitmapUpdated_laid hl update
  | avc420Frame nal =>
    have hlatest : ∀ surfaceId, latest surfaceId (.avc420Frame nal :: h) = latest surfaceId h :=
      fun _ => rfl
    exact queueVideo_laid hl hlatest rfl _ nal
  | hevcFrame nal =>
    have hlatest : ∀ surfaceId, latest surfaceId (.hevcFrame nal :: h) = latest surfaceId h :=
      fun _ => rfl
    show Laid _ ((g.onHevcFrame nal).2.foldl GfxView.after v) (g.onHevcFrame nal).1
    unfold GfxSide.onHevcFrame
    split
    · exact queueVideo_laid hl hlatest rfl _ nal
    · exact hl.quiet (fun _ => rfl) rfl rfl rfl rfl rfl
  | unhandledPdu pdu =>
    show Laid _ v (g.onUnhandledPdu pdu)
    cases pdu with
    | avc444 => exact hl.quiet (fun _ => rfl) rfl rfl rfl rfl rfl
    | wireToSurface =>
      show Laid _ v g.noteUndecodable
      unfold GfxSide.noteUndecodable
      dsimp only
      split
      · exact hl.quiet (fun _ => rfl) rfl rfl rfl rfl rfl
      · exact hl.quiet (fun _ => rfl) rfl rfl rfl rfl rfl
    | other => exact hl.quiet (fun _ => rfl) rfl rfl rfl rfl rfl
  | capabilitiesConfirmed frdp1Hevc => exact hl.quiet (fun _ => rfl) rfl rfl rfl rfl rfl
  | surfaceMapped other originX originY =>
    refine ⟨fun surfaceId => ?_, hl.queued, hl.pending⟩
    simp only [GfxSide.call, latest, hl.origins]
  | surfaceDeleted other =>
    refine ⟨fun surfaceId => ?_, hl.queued, hl.pending⟩
    simp only [GfxSide.call, latest, hl.origins]

theorem Laid.calls (hl : Laid h v g) (cs : List GfxCallback) :
    Laid (cs.reverse ++ h) ((g.calls cs).2.foldl GfxView.after v) (g.calls cs).1 := by
  induction cs generalizing h v g with
  | nil => exact hl
  | cons c cs ih =>
    have hrest := ih (hl.call c)
    rw [List.reverse_cons, List.append_assoc, List.singleton_append]
    show Laid _ (((g.call c).2 ++ _).foldl GfxView.after v) _
    rw [List.foldl_append]
    exact hrest

end Invariant

section Worker

variable {h : List GfxCallback} {v : GfxView} {w w' : GfxWorker} {events : List GfxEvent}

/-- While the session goes on, what was not delivered is still queued. -/
structure WorkerLaid (h : List GfxCallback) (v : GfxView) (w : GfxWorker) : Prop where
  queued : v.queuedBitmaps = (placements h).map Placement.unit
  sent : v.sentBitmaps <+: v.queuedBitmaps
  going : (∀ retryHandoff, w.phase ≠ .failed retryHandoff) → Laid h v w.gfx

theorem Laid.worker (hl : Laid h v w.gfx) : WorkerLaid h v w :=
  ⟨hl.queued, ⟨_, hl.pending.symm⟩, fun _ => hl⟩

/-- A session that failed delivers no more. -/
theorem Laid.failed {g : GfxSide} (hl : Laid h v g) (w : GfxWorker) (retryHandoff : Bool) :
    WorkerLaid h v (w.fail retryHandoff) :=
  ⟨hl.queued, ⟨_, hl.pending.symm⟩, fun hphase => absurd rfl (hphase retryHandoff)⟩

theorem slowpath_view (units : List NativeBitmapUnit) (v : GfxView) :
    (units.map GfxEvent.slowpathBitmap).foldl GfxView.after v = v := by
  induction units with
  | nil => rfl
  | cons unit units ih => exact ih

/-- The bitmaps of a drain are delivered one after the other. -/
theorem bitmapUpdate_view (units : List NativeBitmapUnit) (v : GfxView) :
    (units.map GfxEvent.bitmapUpdate).foldl GfxView.after v =
      { v with sentBitmaps := v.sentBitmaps ++ units } := by
  induction units generalizing v with
  | nil => simp
  | cons unit units ih =>
    rw [List.map_cons, List.foldl_cons, ih]
    simp only [GfxView.after, List.append_assoc, List.singleton_append]

/-- Sizes, video and the end of a drain are no bitmaps. -/
theorem other_view (events : List GfxEvent)
    (hother : ∀ event ∈ events, ∀ v : GfxView, (v.after event).queuedBitmaps = v.queuedBitmaps ∧
      (v.after event).sentBitmaps = v.sentBitmaps) (v : GfxView) :
    (events.foldl GfxView.after v).queuedBitmaps = v.queuedBitmaps ∧
      (events.foldl GfxView.after v).sentBitmaps = v.sentBitmaps := by
  induction events generalizing v with
  | nil => exact ⟨rfl, rfl⟩
  | cons event events ih =>
    obtain ⟨hqueued, hsent⟩ := hother event List.mem_cons_self v
    obtain ⟨hqueued', hsent'⟩ := ih (fun e he => hother e (List.mem_cons_of_mem _ he)) (v.after event)
    exact ⟨hqueued'.trans hqueued, hsent'.trans hsent⟩

theorem sizeEvents_view (shared : NativeGfxState) (v : GfxView) :
    ((GfxWorker.sizeEvents shared).foldl GfxView.after v).queuedBitmaps = v.queuedBitmaps ∧
      ((GfxWorker.sizeEvents shared).foldl GfxView.after v).sentBitmaps = v.sentBitmaps := by
  unfold GfxWorker.sizeEvents
  split
  · exact ⟨rfl, rfl⟩
  · exact ⟨rfl, rfl⟩

theorem sendVideo_other (step pts : UInt64) (units : List NativeVideoUnit) :
    ∀ event ∈ (GfxWorker.sendVideo step pts units).2, ∃ codec data pts', event =
      .videoAu codec data pts' := by
  induction units generalizing pts with
  | nil => nofun
  | cons unit units ih =>
    intro event hmem
    rcases List.mem_cons.1 hmem with rfl | hmem
    · exact ⟨_, _, _, rfl⟩
    · exact ih _ event hmem

/-- A drain delivers what is queued, or fails. -/
theorem drain_laid (hl : Laid h v w.gfx) :
    WorkerLaid h (w.drainGfx.2.foldl GfxView.after v) w.drainGfx.1 := by
  unfold GfxWorker.drainGfx
  dsimp only
  split
  · exact hl.failed _ false
  · obtain ⟨hqueued, hsent⟩ := sizeEvents_view w.gfx.shared v
    have hrest := other_view
      (GfxWorker.sendVideo w.framePtsStep w.nextPts90k w.gfx.shared.pendingVideo).2
      (fun event hmem v' => by
        obtain ⟨codec, data, pts, rfl⟩ := sendVideo_other _ _ _ event hmem
        exact ⟨rfl, rfl⟩)
    rw [List.foldl_append, List.foldl_append, bitmapUpdate_view]
    refine Laid.worker ⟨hl.origins, ?_, ?_⟩
    · rw [(hrest _).1]
      exact hqueued.trans hl.queued
    · rw [(hrest _).1, (hrest _).2, List.append_nil]
      show _ = _ ++ w.gfx.shared.pendingBitmap
      rw [hqueued, hsent]
      exact hl.pending

theorem reactivate_laid (hl : Laid h v w.gfx) (r : Reactivation) :
    WorkerLaid h ((w.driveReactivation r).2.foldl GfxView.after v) (w.driveReactivation r).1 := by
  have hsized : Laid h v { w.gfx with shared := { w.gfx.shared with
      graphicsWidth := 0, graphicsHeight := 0 } } := ⟨hl.origins, hl.queued, hl.pending⟩
  cases r with
  | failed retryHandoff => exact hl.failed _ retryHandoff
  | unusable width height =>
    simp only [GfxWorker.driveReactivation]
    split
    · exact hl.failed _ false
    · exact hl.failed _ false
  | finalized width height written =>
    simp only [GfxWorker.driveReactivation]
    split
    · have htold : Laid h ([GfxEvent.activated width height, .desktopSize width height].foldl
          GfxView.after v) { w.gfx with shared := { w.gfx.shared with
            graphicsWidth := 0, graphicsHeight := 0 } } :=
        ⟨hsized.origins, hsized.queued, hsized.pending⟩
      cases written with
      | true => exact htold.worker
      | false => exact htold.failed _ false
    · exact hl.failed _ false

theorem finish_laid (hl : Laid h v w.gfx) (reactivation : Option Reactivation) :
    WorkerLaid h ((w.finishFrame reactivation).2.foldl GfxView.after v)
      (w.finishFrame reactivation).1 := by
  have hdrained := drain_laid hl
  unfold GfxWorker.finishFrame
  dsimp only
  split
  · rename_i r hphase
    rw [List.foldl_append]
    refine reactivate_laid (hdrained.going fun retryHandoff hfailed => ?_) r
    rw [hphase] at hfailed
    cases hfailed
  · exact hdrained

theorem frame_laid (hl : Laid h v w.gfx) (callbacks : List GfxCallback)
    (slowpath : List NativeBitmapUnit) (frameEnd : FrameEnd) :
    WorkerLaid (callbacks.reverse ++ h)
      ((w.frame callbacks slowpath frameEnd).2.foldl GfxView.after v)
      (w.frame callbacks slowpath frameEnd).1 := by
  have hcalled := hl.calls callbacks
  cases frameEnd with
  | processFailed => exact hcalled.failed _ false
  | terminated retryHandoff =>
    show WorkerLaid _ (((w.gfx.calls callbacks).2 ++ slowpath.map GfxEvent.slowpathBitmap).foldl
      GfxView.after v) _
    rw [List.foldl_append, slowpath_view]
    exact hcalled.failed _ retryHandoff
  | done reactivation =>
    show WorkerLaid _ (((w.gfx.calls callbacks).2 ++ (slowpath.map GfxEvent.slowpathBitmap ++ _)).foldl
      GfxView.after v) _
    rw [List.foldl_append, List.foldl_append, slowpath_view]
    exact finish_laid (w := { w with gfx := (w.gfx.calls callbacks).1 }) hcalled reactivation

theorem active_going {phase : SessionPhase} (h : phase = .active) (retryHandoff : Bool) :
    phase ≠ .failed retryHandoff := by
  rw [h]
  nofun

/-- One step of the worker. -/
theorem WorkerLaid.step {a : GfxAction} (hl : WorkerLaid h v w)
    (hstep : w.step a = some (w', events)) :
    WorkerLaid (callbacksOf h a) (events.foldl GfxView.after v) w' := by
  have hfail : ∀ retryHandoff, WorkerLaid h v (w.fail retryHandoff) := fun retryHandoff =>
    ⟨hl.queued, hl.sent, fun hphase => absurd rfl (hphase retryHandoff)⟩
  cases a with
  | connectFailed retryHandoff =>
    simp only [GfxWorker.step, Option.ite_none_right_eq_some] at hstep
    obtain ⟨rfl, rfl⟩ := Prod.mk.inj (Option.some.inj hstep.2)
    exact hfail retryHandoff
  | activate width height =>
    simp only [GfxWorker.step, Option.ite_none_right_eq_some] at hstep
    obtain ⟨hphase, hstep⟩ := hstep
    split at hstep
    · obtain ⟨rfl, rfl⟩ := Prod.mk.inj (Option.some.inj hstep)
      have hlaid := hl.going fun retryHandoff hfailed => by
        rw [hphase] at hfailed
        cases hfailed
      exact Laid.worker ⟨hlaid.origins, hlaid.queued, hlaid.pending⟩
    · obtain ⟨rfl, rfl⟩ := Prod.mk.inj (Option.some.inj hstep)
      exact hfail false
  | poll =>
    simp only [GfxWorker.step, Option.ite_none_right_eq_some] at hstep
    obtain ⟨hphase, hstep⟩ := hstep
    have hdrained := drain_laid (hl.going (active_going hphase))
    rw [Option.some.inj hstep] at hdrained
    exact hdrained
  | frame callbacks slowpath frameEnd =>
    simp only [GfxWorker.step, Option.ite_none_right_eq_some] at hstep
    obtain ⟨hphase, hstep⟩ := hstep
    have hframe := frame_laid (hl.going (active_going hphase)) callbacks slowpath frameEnd
    rw [Option.some.inj hstep] at hframe
    exact hframe
  | ioFailed =>
    simp only [GfxWorker.step, Option.ite_none_right_eq_some] at hstep
    obtain ⟨rfl, rfl⟩ := Prod.mk.inj (Option.some.inj hstep.2)
    exact hfail false
  | retry =>
    simp only [GfxWorker.step, Option.ite_none_right_eq_some] at hstep
    obtain ⟨rfl, rfl⟩ := Prod.mk.inj (Option.some.inj hstep.2)
    exact Laid.worker ⟨fun _ => rfl, rfl, rfl⟩

theorem run_laid {config : GfxConfig} {tr : List (GfxAction × List GfxEvent)}
    (hr : (gfxMachine config).Run tr w) :
    WorkerLaid (history tr) (view (tr.flatMap Prod.snd)) w := by
  refine hr.history (I := fun tr w => WorkerLaid (history tr) (view (tr.flatMap Prod.snd)) w)
    (Laid.worker ⟨fun _ => rfl, rfl, rfl⟩) ?_
  intro tr w a w' events ih hstep
  have hnext := ih.step hstep
  simp only [history, view, List.foldl_append, List.flatMap_append, List.flatMap_singleton,
    List.foldl_cons, List.foldl_nil] at hnext ⊢
  exact hnext

end Worker

section Result

/-- The unit of this bitmap, and it is where the bitmap belongs exactly when the sums fit. -/
structure AtPlace (unit : NativeBitmapUnit) (p : Placement) : Prop where
  surfaceId : unit.surfaceId = p.update.surfaceId
  width : unit.width.toNat = p.update.width.toNat
  height : unit.height.toNat = p.update.height.toNat
  data : unit.data = p.update.data
  position : (unit.left.toNat = p.left ∧ unit.top.toNat = p.top) ↔ p.left < 2 ^ 32 ∧ p.top < 2 ^ 32

theorem unit_atPlace (p : Placement) : AtPlace p.unit p := by
  have hword : ∀ n : Nat, (UInt32.ofNat n).toNat = n ↔ n < 2 ^ 32 := by
    intro n
    rw [UInt32.toNat_ofNat']
    exact Nat.mod_eq_iff_lt (by decide)
  refine ⟨rfl, UInt16.toNat_toUInt32 _, UInt16.toNat_toUInt32 _, rfl, ?_⟩
  exact and_congr (hword p.left) (hword p.top)

theorem forall₂_map_atPlace (ps : List Placement) :
    List.Forall₂ AtPlace (ps.map Placement.unit) ps := by
  induction ps with
  | nil => exact .nil
  | cons p ps ih => exact .cons (unit_atPlace p) ih

/-- Along every run the bitmaps that were delivered since the last reset are the
accepted ones in their order, each of them where the sum of its corner and the latest
mapping of its surface puts it, if and only if that sum leaves neither coordinate's 32 bits. -/
theorem bitmaps_placed {config : GfxConfig} {tr : List (GfxAction × List GfxEvent)} {w : GfxWorker}
    (hr : (gfxMachine config).Run tr w) :
    List.Forall₂ AtPlace (view (tr.flatMap Prod.snd)).sentBitmaps
      ((placements (history tr)).take (view (tr.flatMap Prod.snd)).sentBitmaps.length) := by
  have hlaid := run_laid hr
  have hsent := List.prefix_iff_eq_take.1 hlaid.sent
  have hplaced := forall₂_map_atPlace
    ((placements (history tr)).take (view (tr.flatMap Prod.snd)).sentBitmaps.length)
  rw [hlaid.queued, ← List.map_take] at hsent
  rwa [← hsent] at hplaced

/-- Surface 7 is mapped at the last column, and its bitmap starts ten columns further. -/
def wrappedBitmap : List GfxAction :=
  let update : BitmapUpdate := {
    surfaceId := 7
    left := 10
    top := 20
    codecId := "Uncompressed"
    width := 1
    height := 1
    data := [1, 2, 3, 4] }
  [.activate 800 600,
    .frame [.resetGraphics 800 600, .surfaceMapped 7 0xFFFFFFFF 100, .bitmapUpdated update] []
      (.done none)]

/-- The sum belongs far to the right, and the bitmap is delivered near the left edge. -/
theorem wrapped_bitmap_delivered :
    ∃ tr w, (gfxMachine {}).Run tr w ∧ (placements (history tr)).map Placement.left = [0x100000009] ∧
      (view (tr.flatMap Prod.snd)).sentBitmaps.map NativeBitmapUnit.left = [9] := by
  have hr := Machine.run_of_exec (M := gfxMachine {}) wrappedBitmap (by decide +kernel)
  exact ⟨_, _, hr, by decide +kernel, by decide +kernel⟩

/-- Along that run one bitmap is delivered, and its unit is the placement's in 32 bits. -/
theorem bitmaps_placed_wrapped :
    ∃ tr w, (gfxMachine {}).Run tr w ∧ (view (tr.flatMap Prod.snd)).sentBitmaps.length = 1 ∧
      List.Forall₂ AtPlace (view (tr.flatMap Prod.snd)).sentBitmaps ((placements (history tr)).take 1) := by
  have hr := Machine.run_of_exec (M := gfxMachine {}) wrappedBitmap (by decide +kernel)
  exact ⟨_, _, hr, by decide +kernel, bitmaps_placed hr⟩

end Result

end Lgnome.Graphics
