import Lgnome.Native.DirtyRect
import Mathlib.Data.UInt

/-!
# Pointer mapping

The input side maps a window position to the desktop, and a position the server sets
is warped to in the window. Both maps scale with a truncating division, and neither
knows of the other; a position that goes through both comes back one pixel early at
most.
-/
namespace Lgnome.Input

open Lgnome.Native (checked checked_some)

/-- The sizes of `NativeInput`. -/
structure InputExtents where
  windowWidth : UInt16
  windowHeight : UInt16
  desktopWidth : UInt16
  desktopHeight : UInt16
  deriving DecidableEq, Repr

/-- `clamp_dimension`. -/
def clampDimension (value : UInt16) : UInt16 := if value = 0 then 1 else value

/-- One coordinate of `native_input_map_point`; a product that leaves 32 bits is `none`. -/
def mapCoord (window desktop : UInt16) (position : Int) : Option UInt16 := do
  let w := clampDimension window
  let d := clampDimension desktop
  let position := if position < 0 then 0 else position
  let position := if w.toNat ≤ position then (w.toNat : Int) - 1 else position
  let scaled ← checked 32 (position.toNat * d.toNat)
  let x := scaled / w.toNat
  let x := if d.toNat ≤ x then d.toNat - 1 else x
  some (UInt16.ofNat x)

/-- `native_input_map_point`. -/
def mapPoint (input : InputExtents) (windowX windowY : Int) : Option (UInt16 × UInt16) := do
  let x ← mapCoord input.windowWidth input.desktopWidth windowX
  let y ← mapCoord input.windowHeight input.desktopHeight windowY
  some (x, y)

/-- What the drain of a warp reads and writes. -/
structure PointerApp where
  input : InputExtents
  pointerWarpPending : Bool
  pointerWarpSlot : Int
  pointerWarpX : UInt32
  pointerWarpY : UInt32
  activeIndex : Int
  streamingVisible : Bool
  mixerOverlayVisible : Bool
  windowUnfocused : Bool
  appBackgrounded : Bool
  virtualMouseX : Int
  virtualMouseY : Int
  deriving DecidableEq, Repr

/-- `native_clamp_window_coord`. -/
def clampWindowCoord (value : Int) (limit : UInt16) : Int :=
  if value < 0 then 0
  else if limit = 0 then 0
  else if limit.toNat ≤ value then (limit.toNat : Int) - 1
  else value

/-- `native_set_virtual_mouse_position`. -/
def setVirtualMousePosition (app : PointerApp) (x y : Int) : PointerApp :=
  { app with
    virtualMouseX := clampWindowCoord x app.input.windowWidth
    virtualMouseY := clampWindowCoord y app.input.windowHeight }

/-- `(int)((x * (unsigned)ww) / (unsigned)dw)`, where the unsigned product wraps. -/
def warpCoord (window desktop : UInt16) (x : UInt32) : Int :=
  (if desktop ≠ 0 ∧ window ≠ 0 then x * window.toUInt32 / desktop.toUInt32 else x).toBitVec.toInt

/-- `native_drain_pointer_warp`, with the position `SDL_WarpMouseInWindow` is given. -/
def drainPointerWarp (app : PointerApp) : PointerApp × Option (Int × Int) :=
  if app.pointerWarpPending = false then (app, none)
  else
    let drained := { app with pointerWarpPending := false }
    if !app.streamingVisible || app.mixerOverlayVisible || app.windowUnfocused ||
        app.appBackgrounded then (drained, none)
    else if app.pointerWarpSlot ≠ app.activeIndex then (drained, none)
    else
      let wx := warpCoord app.input.windowWidth app.input.desktopWidth app.pointerWarpX
      let wy := warpCoord app.input.windowHeight app.input.desktopHeight app.pointerWarpY
      (setVirtualMousePosition drained wx wy, some (wx, wy))

/-! ## One coordinate -/

theorem clampDimension_pos (value : UInt16) : 0 < (clampDimension value).toNat := by
  unfold clampDimension
  split
  · decide
  · rename_i h
    exact Nat.pos_of_ne_zero fun h0 => h (UInt16.toNat_inj.mp h0)

/-- The window position that is scaled. -/
def clampPosition (window : UInt16) (position : Int) : Nat :=
  min position.toNat ((clampDimension window).toNat - 1)

theorem clampPosition_eq (window : UInt16) (position : Int) :
    (if ((clampDimension window).toNat : Int) ≤ (if position < 0 then 0 else position) then
      ((clampDimension window).toNat : Int) - 1
    else if position < 0 then 0 else position).toNat = clampPosition window position := by
  have hw := clampDimension_pos window
  unfold clampPosition
  split <;> split <;> omega

theorem clampPosition_lt (window : UInt16) (position : Int) :
    clampPosition window position < (clampDimension window).toNat := by
  have hw := clampDimension_pos window
  unfold clampPosition
  omega

theorem product_lt {p q : Nat} (hp : p < 2 ^ 16) (hq : q < 2 ^ 16) : p * q < 2 ^ 32 := calc
  p * q < 2 ^ 16 * 2 ^ 16 := Nat.mul_lt_mul'' hp hq
  _ = 2 ^ 32 := rfl

/-- The scaled position is on the desktop, and nothing leaves its type. -/
theorem mapCoord_eq (window desktop : UInt16) (position : Int) :
    ∃ x, mapCoord window desktop position = some x ∧
      x.toNat = clampPosition window position * (clampDimension desktop).toNat /
        (clampDimension window).toNat ∧
      x.toNat < (clampDimension desktop).toNat := by
  have hd := clampDimension_pos desktop
  have hp := clampPosition_lt window position
  have hdlt := (clampDimension desktop).toNat_lt
  have hfits := product_lt (hp.trans (clampDimension window).toNat_lt) hdlt
  have hquot : clampPosition window position * (clampDimension desktop).toNat /
      (clampDimension window).toNat < (clampDimension desktop).toNat :=
    Nat.div_lt_of_lt_mul (Nat.mul_lt_mul_of_pos_right hp hd)
  have hback := UInt16.toNat_ofNat_of_lt' (Nat.lt_trans hquot hdlt)
  refine ⟨_, ?_, hback, hback.trans_lt hquot⟩
  simp only [mapCoord, clampPosition_eq, checked_some hfits, Option.bind_eq_bind,
    Option.bind_some, if_neg (Nat.not_le.mpr hquot)]

theorem mapCoord_mono {window desktop : UInt16} {p q : Int} (h : p ≤ q) {x y : UInt16}
    (hx : mapCoord window desktop p = some x) (hy : mapCoord window desktop q = some y) :
    x ≤ y := by
  obtain ⟨x', hx', hxval, -⟩ := mapCoord_eq window desktop p
  obtain ⟨y', hy', hyval, -⟩ := mapCoord_eq window desktop q
  obtain rfl := Option.some.inj (hx.symm.trans hx')
  obtain rfl := Option.some.inj (hy.symm.trans hy')
  rw [UInt16.le_iff_toNat_le, hxval, hyval]
  have hclamp : clampPosition window p ≤ clampPosition window q := by
    unfold clampPosition
    omega
  exact Nat.div_le_div_right (Nat.mul_le_mul_right _ hclamp)

/-! ## There and back -/

/-- A position scaled up and down again loses less than a whole pixel, as the scale is not
below one. -/
theorem scale_back {x w d : Nat} (hd : 0 < d) (hdw : d ≤ w) :
    x * w / d * d / w ≤ x ∧ x ≤ x * w / d * d / w + 1 := by
  have hw : 0 < w := Nat.lt_of_lt_of_le hd hdw
  have hdown : x * w / d * d ≤ x * w := Nat.div_mul_le_self _ _
  have hup : x * w < x * w / d * d + d := by
    have h := Nat.div_add_mod (x * w) d
    have hmod := Nat.mod_lt (x * w) hd
    rw [Nat.mul_comm] at h
    omega
  constructor
  · exact Nat.div_le_of_le_mul (by rwa [Nat.mul_comm w])
  · refine Nat.le_of_lt_succ (Nat.lt_of_mul_lt_mul_right (a := w) ?_)
    have hback := Nat.lt_div_mul_add (a := x * w / d * d) hw
    rw [Nat.succ_mul, Nat.add_mul]
    omega

/-- Nothing is lost where a pixel of the desktop is a whole number of pixels. -/
theorem scale_back_of_dvd {x w d : Nat} (hw : 0 < w) (h : d ∣ w) :
    x * w / d * d / w = x := by
  rw [Nat.div_mul_cancel (Nat.dvd_mul_left_of_dvd h x), Nat.mul_div_cancel _ hw]

theorem clampDimension_of_ne {value : UInt16} (h : value ≠ 0) : clampDimension value = value :=
  if_neg h

/-- A scaled position of the desktop is a position of the window. -/
theorem scale_lt {x w d : Nat} (hx : x < d) (hw : 0 < w) : x * w / d < w :=
  Nat.div_lt_of_lt_mul (Nat.mul_lt_mul_of_pos_right hx hw)

section Warp

variable {window desktop : UInt16} {x : UInt32} (hx : x.toNat < (clampDimension desktop).toNat)
  (hfit : (clampDimension desktop).toNat ≤ (clampDimension window).toNat)

include hx hfit

/-- Without a size the only position is the first one. -/
theorem eq_zero_of_unsized (h : ¬ (desktop ≠ 0 ∧ window ≠ 0)) : x = 0 := by
  rw [← UInt32.toNat_inj]
  by_cases hd : desktop = 0
  · subst hd
    exact Nat.lt_one_iff.mp hx
  · have hwindow : window = 0 := not_not.mp fun hw => h ⟨hd, hw⟩
    subst hwindow
    exact Nat.lt_one_iff.mp (Nat.lt_of_lt_of_le hx hfit)

/-- A position of the desktop keeps its value in every product. -/
theorem warpCoord_eq :
    warpCoord window desktop x =
      ((x.toNat * (clampDimension window).toNat / (clampDimension desktop).toNat : Nat) : Int) := by
  unfold warpCoord
  by_cases h : desktop ≠ 0 ∧ window ≠ 0
  · have hlt := scale_lt hx (clampDimension_pos window)
    have hxlt := hx.trans (clampDimension desktop).toNat_lt
    rw [clampDimension_of_ne h.1] at hlt
    rw [if_pos h, clampDimension_of_ne h.1]
    rw [clampDimension_of_ne h.2] at hlt ⊢
    have hprod := product_lt hxlt window.toNat_lt
    have hwindow := window.toNat_lt
    have hvalue : (x * window.toUInt32 / desktop.toUInt32).toNat =
        x.toNat * window.toNat / desktop.toNat := by
      rw [UInt32.toNat_div, UInt32.toNat_mul, UInt16.toNat_toUInt32, UInt16.toNat_toUInt32,
        Nat.mod_eq_of_lt hprod]
    rw [BitVec.toInt_eq_toNat_of_lt, UInt32.toNat_toBitVec, hvalue]
    rw [UInt32.toNat_toBitVec, hvalue]
    omega
  · rw [if_neg h, eq_zero_of_unsized hx hfit h]
    simp

/-- The clamp does not move a position that is warped to. -/
theorem clampWindowCoord_warp :
    clampWindowCoord (warpCoord window desktop x) window = warpCoord window desktop x := by
  have hlt := scale_lt hx (clampDimension_pos window)
  rw [warpCoord_eq hx hfit]
  unfold clampWindowCoord
  rw [if_neg (Int.not_lt.mpr (Int.natCast_nonneg _))]
  by_cases hw : window = 0
  · rw [if_pos hw, eq_zero_of_unsized hx hfit fun h => h.2 hw]
    simp
  · rw [clampDimension_of_ne hw] at hlt ⊢
    rw [if_neg hw, if_neg (Int.not_le.mpr (Int.ofNat_lt.mpr hlt))]

/-- What becomes of one coordinate on the way there and back. -/
theorem mapCoord_warp :
    ∃ back, mapCoord window desktop (warpCoord window desktop x) = some back ∧
      back.toNat ≤ x.toNat ∧ x.toNat ≤ back.toNat + 1 ∧
      ((clampDimension desktop).toNat ∣ (clampDimension window).toNat →
        back.toNat = x.toNat) := by
  have hw := clampDimension_pos window
  have hlt := scale_lt hx hw
  obtain ⟨back, hback, hvalue, -⟩ := mapCoord_eq window desktop (warpCoord window desktop x)
  have hposition : clampPosition window (warpCoord window desktop x) =
      x.toNat * (clampDimension window).toNat / (clampDimension desktop).toNat := by
    rw [warpCoord_eq hx hfit, clampPosition, Int.toNat_natCast]
    omega
  rw [hposition] at hvalue
  obtain ⟨hle, hge⟩ := scale_back (x := x.toNat) (clampDimension_pos desktop) hfit
  refine ⟨back, hback, by rwa [hvalue], by rwa [hvalue], fun hdvd => ?_⟩
  rw [hvalue, scale_back_of_dvd hw hdvd]

end Warp

/-! ## Both coordinates -/

/-- The desktop of the input, as the maps see it, is no larger than the window. -/
def InputExtents.Fits (input : InputExtents) : Prop :=
  (clampDimension input.desktopWidth).toNat ≤ (clampDimension input.windowWidth).toNat ∧
    (clampDimension input.desktopHeight).toNat ≤ (clampDimension input.windowHeight).toNat

/-- A warp that is going to be made: it is pending and current, and the stream is shown. -/
def PointerApp.Warps (app : PointerApp) : Prop :=
  app.pointerWarpPending = true ∧ app.streamingVisible = true ∧ app.mixerOverlayVisible = false ∧
    app.windowUnfocused = false ∧ app.appBackgrounded = false ∧
    app.pointerWarpSlot = app.activeIndex

instance (app : PointerApp) : Decidable app.Warps := by
  unfold PointerApp.Warps
  infer_instance

instance (input : InputExtents) : Decidable input.Fits := by
  unfold InputExtents.Fits
  infer_instance

theorem drainPointerWarp_of_warps {app : PointerApp} (h : app.Warps) :
    drainPointerWarp app =
      (setVirtualMousePosition { app with pointerWarpPending := false }
        (warpCoord app.input.windowWidth app.input.desktopWidth app.pointerWarpX)
        (warpCoord app.input.windowHeight app.input.desktopHeight app.pointerWarpY),
       some (warpCoord app.input.windowWidth app.input.desktopWidth app.pointerWarpX,
        warpCoord app.input.windowHeight app.input.desktopHeight app.pointerWarpY)) := by
  obtain ⟨hpending, hvisible, hoverlay, hfocus, hground, hslot⟩ := h
  simp [drainPointerWarp, hpending, hvisible, hoverlay, hfocus, hground, hslot]

theorem mapPoint_eq_some {input : InputExtents} {windowX windowY : Int} {x y : UInt16} :
    mapPoint input windowX windowY = some (x, y) ↔
      mapCoord input.windowWidth input.desktopWidth windowX = some x ∧
        mapCoord input.windowHeight input.desktopHeight windowY = some y := by
  simp [mapPoint, Option.bind_eq_some_iff]

/-- A window point is mapped into the desktop, further along for a point that is further
along, and nothing overflows; a position the server sets in a desktop no larger than the
window comes back from the pointer at most one pixel early. -/
theorem pointer_mapping :
    (∀ (input : InputExtents) (windowX windowY : Int), ∃ x y,
      mapPoint input windowX windowY = some (x, y) ∧ x < clampDimension input.desktopWidth ∧
        y < clampDimension input.desktopHeight) ∧
    (∀ (input : InputExtents) {p p' q q' : Int} {x x' y y' : UInt16},
      mapPoint input p q = some (x, y) → mapPoint input p' q' = some (x', y') →
        (p ≤ p' → x ≤ x') ∧ (q ≤ q' → y ≤ y')) ∧
    (∀ app : PointerApp, app.Warps → app.input.Fits →
      app.pointerWarpX.toNat < (clampDimension app.input.desktopWidth).toNat →
      app.pointerWarpY.toNat < (clampDimension app.input.desktopHeight).toNat →
      let (app', warped) := drainPointerWarp app
      warped = some (app'.virtualMouseX, app'.virtualMouseY) ∧
        ∃ x y, mapPoint app'.input app'.virtualMouseX app'.virtualMouseY = some (x, y) ∧
          (x.toNat ≤ app.pointerWarpX.toNat ∧ app.pointerWarpX.toNat ≤ x.toNat + 1) ∧
          (y.toNat ≤ app.pointerWarpY.toNat ∧ app.pointerWarpY.toNat ≤ y.toNat + 1) ∧
          ((clampDimension app.input.desktopWidth).toNat ∣
            (clampDimension app.input.windowWidth).toNat → x.toNat = app.pointerWarpX.toNat) ∧
          ((clampDimension app.input.desktopHeight).toNat ∣
            (clampDimension app.input.windowHeight).toNat → y.toNat = app.pointerWarpY.toNat)) := by
  refine ⟨fun input windowX windowY => ?_, ?_, fun app hwarps hfits hx hy => ?_⟩
  · obtain ⟨x, hx, -, hxlt⟩ := mapCoord_eq input.windowWidth input.desktopWidth windowX
    obtain ⟨y, hy, -, hylt⟩ := mapCoord_eq input.windowHeight input.desktopHeight windowY
    exact ⟨x, y, mapPoint_eq_some.mpr ⟨hx, hy⟩, UInt16.lt_iff_toNat_lt.mpr hxlt,
      UInt16.lt_iff_toNat_lt.mpr hylt⟩
  · intro input p p' q q' x x' y y' h h'
    obtain ⟨hx, hy⟩ := mapPoint_eq_some.mp h
    obtain ⟨hx', hy'⟩ := mapPoint_eq_some.mp h'
    exact ⟨fun hp => mapCoord_mono hp hx hx', fun hq => mapCoord_mono hq hy hy'⟩
  · rw [drainPointerWarp_of_warps hwarps]
    simp only [setVirtualMousePosition, clampWindowCoord_warp hx hfits.1,
      clampWindowCoord_warp hy hfits.2, true_and]
    obtain ⟨x, hmapx, hxle, hxge, hxeq⟩ := mapCoord_warp hx hfits.1
    obtain ⟨y, hmapy, hyle, hyge, hyeq⟩ := mapCoord_warp hy hfits.2
    exact ⟨x, y, mapPoint_eq_some.mpr ⟨hmapx, hmapy⟩, ⟨hxle, hxge⟩, ⟨hyle, hyge⟩, hxeq, hyeq⟩

/-- A 1280 by 720 desktop in a full-screen window. -/
def warpedApp : PointerApp :=
  { input := ⟨1920, 1080, 1280, 720⟩
    pointerWarpPending := true
    pointerWarpSlot := 0
    pointerWarpX := 1279
    pointerWarpY := 360
    activeIndex := 0
    streamingVisible := true
    mixerOverlayVisible := false
    windowUnfocused := false
    appBackgrounded := false
    virtualMouseX := 0
    virtualMouseY := 0 }

/-- Its last column is warped to and comes back one pixel early. -/
theorem pointer_mapping_warped :
    (drainPointerWarp warpedApp).2 = some (1918, 540) ∧
      mapPoint warpedApp.input 1918 540 = some (1278, 360) ∧
      ∃ x y, mapPoint warpedApp.input 1918 540 = some (x, y) ∧
        1279 ≤ x.toNat + 1 ∧ 360 ≤ y.toNat + 1 := by
  obtain ⟨-, x, y, hmap, hx, hy, -⟩ := pointer_mapping.2.2 warpedApp (by decide) (by decide)
    (by decide) (by decide)
  exact ⟨by decide, by decide, x, y, hmap, hx.2, hy.2⟩

end Lgnome.Input
