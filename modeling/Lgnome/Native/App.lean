import Lgnome.Native.Snapshot

/-!
# The native application state

Four session slots share one screen, one decoder and one input route. The
fields are those the switch, session and video code reads or writes; log
counters, cursor shapes and pixel contents are left out.
-/
namespace Lgnome.Native

/-- One of the remote's four colour buttons. -/
abbrev SlotIndex := Fin 4

namespace SlotIndex

def red : SlotIndex := 0
def green : SlotIndex := 1
def yellow : SlotIndex := 2
def blue : SlotIndex := 3

end SlotIndex

/-- An `RdpSession` pointer. Handles are never reused. -/
abbrev Session := Nat

inductive RdpState where
  | idle
  | connecting
  | tls
  | credssp
  | active
  | noAvc420
  | decoderError
  | networkError
  | protocolError
  | stopped
  | disconnected
  | reconnecting
  deriving DecidableEq, Repr

namespace RdpState

def isTerminalError (s : RdpState) : Bool :=
  s = noAvc420 || s = decoderError || s = networkError || s = protocolError

def isNativeRuntimeFailure (s : RdpState) : Bool := s = noAvc420 || s = decoderError

end RdpState

/-- How `rdp_session_start` comes out. -/
inductive StartResult where
  | started
  | invalidConfig
  | noThread
  deriving DecidableEq, Repr

/-- The state that a session reports which does not start, before the call returns. -/
def StartResult.failure : StartResult → Option RdpState
  | started => none
  | invalidConfig => some .protocolError
  | noThread => some .networkError

inductive VideoCodec where
  | h264
  | h265
  deriving DecidableEq, Repr

structure Slot where
  rdp : Option Session := none
  currentState : RdpState := .idle
  terminalState : RdpState := .idle
  sessionFailed : Bool := false
  desktopWidth : UInt16 := 0
  desktopHeight : UInt16 := 0
  videoOkFrames : UInt32 := 0
  /-- Whether the server was asked to suppress graphics. -/
  suppressed : Bool := false
  connectEpoch : UInt32 := 0
  refreshIneffective : Bool := false
  snapshot : AuSnapshot := {}
  videoCodec : VideoCodec := .h264
  snapshotIdrReady : Bool := false
  snapshotPending : Bool := false
  /-- Zero while unarmed. -/
  snapshotDeadlineTicks : UInt32 := 0
  snapshotLastAuMs : UInt32 := 0
  snapshotRetryUsed : Bool := false
  videoViaBitmap : Bool := false
  videoSeen : Bool := false
  videoLastAuMs : UInt32 := 0
  videoEpoch : UInt32 := 0
  graphicsPathSwitches : Nat := 0
  deriving DecidableEq

/-- The open video track with the stream generation it holds. -/
structure Decoder where
  owner : SlotIndex
  epoch : UInt32
  codec : VideoCodec
  width : UInt16
  height : UInt16
  deriving DecidableEq, Repr

structure RgbaOwner where
  owner : SlotIndex
  epoch : UInt32
  deriving DecidableEq, Repr

structure App where
  sessions : SlotIndex → Slot := fun _ => {}
  activeIndex : SlotIndex := .green
  running : Bool := true
  interactiveUi : Bool := true
  streamingVisible : Bool := false
  hubVisible : Bool := false
  mixerOverlayVisible : Bool := false
  hubReturnSlot : Option SlotIndex := none
  hubConnectTarget : Option SlotIndex := none
  pendingSwitchTarget : Option SlotIndex := none
  pendingSwitchDeadlineTicks : UInt32 := 0
  /-- Zero while the watchdog is off. -/
  switchDeadlineTicks : UInt32 := 0
  switchBaselineFrames : UInt32 := 0
  switchReconnectUsed : Bool := false
  snapshotForce : Bool := false
  videoRefreshNeeded : Bool := false
  decoderKeyframePending : Bool := false
  video : Option Decoder := none
  audio : Bool := false
  media : Bool := false
  rgba : Option RgbaOwner := none
  hubReturnRgba : Option RgbaOwner := none
  videoLastFeedMs : UInt32 := 0
  videoFeedStarted : Bool := false
  /-- `app->input.session`. -/
  inputSession : Option Session := none
  /-- The capture manager's foreground slot, once there is a manager. -/
  captureForeground : Option (Option SlotIndex) := none
  duckForeground : SlotIndex := .green

namespace App

def modifySlot (a : App) (i : SlotIndex) (f : Slot → Slot) : App :=
  { a with sessions := fun j => if j = i then f (a.sessions i) else a.sessions j }

def activeSlot (a : App) : Slot := a.sessions a.activeIndex

def anySlotConnected (a : App) : Bool :=
  (List.finRange 4).any fun i => (a.sessions i).rdp.isSome

section modifySlot

variable (a : App) (i : SlotIndex) (f : Slot → Slot)

@[simp] theorem modifySlot_same : (a.modifySlot i f).sessions i = f (a.sessions i) := if_pos rfl

@[simp] theorem modifySlot_other {j : SlotIndex} (h : j ≠ i) :
    (a.modifySlot i f).sessions j = a.sessions j := if_neg h

theorem modifySlot_modifySlot (g : Slot → Slot) :
    (a.modifySlot i f).modifySlot i g = a.modifySlot i (g ∘ f) := by
  unfold modifySlot
  congr 1
  funext j
  by_cases hj : j = i
  · simp [hj]
  · simp [hj]

@[simp] theorem modifySlot_activeIndex : (a.modifySlot i f).activeIndex = a.activeIndex := rfl

@[simp] theorem modifySlot_interactiveUi :
    (a.modifySlot i f).interactiveUi = a.interactiveUi := rfl

@[simp] theorem modifySlot_running : (a.modifySlot i f).running = a.running := rfl

@[simp] theorem modifySlot_video : (a.modifySlot i f).video = a.video := rfl

@[simp] theorem modifySlot_rgba : (a.modifySlot i f).rgba = a.rgba := rfl

end modifySlot

/-- `native_slot_report_terminal`: the first report of a connection counts. A
background slot never takes down the app, a shared-decoder failure of the
active one does. -/
def reportTerminal (a : App) (i : SlotIndex) (state : RdpState) : App :=
  if (a.sessions i).terminalState ≠ .idle then a
  else
    let a := a.modifySlot i fun s => { s with terminalState := state }
    let isActive := a.activeIndex = i
    if isActive ∧ state.isNativeRuntimeFailure then { a with running := false }
    else if ¬isActive ∨ a.interactiveUi then
      a.modifySlot i fun s => { s with sessionFailed := true }
    else { a with running := false }

/-- `native_slot_record_state`. -/
def recordState (a : App) (i : SlotIndex) (state : RdpState) : App :=
  if (a.sessions i).sessionFailed ∨ (a.sessions i).terminalState ≠ .idle then a
  else
    let a := a.modifySlot i fun s => { s with currentState := state }
    if state.isTerminalError ∨ state = .disconnected ∨ state = .stopped then
      a.reportTerminal i state
    else a

end App

namespace Slot

def isStillConnecting (s : Slot) : Bool := s.rdp.isSome && s.currentState ≠ .active

def isLiveStreamTarget (s : Slot) : Bool :=
  s.rdp.isSome && !s.sessionFailed && (s.currentState = .active || s.snapshotPending)

end Slot

end Lgnome.Native
