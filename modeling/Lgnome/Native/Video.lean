import Lgnome.Native.App

/-!
# Access units on their way to the decoder

`native_rdp_video.c` and the replay of a snapshot. Every function here runs
under the video lock, so that each is one step. The scanners of the two codecs
are a parameter; what the decoder and the media backend answer is an input.
-/
namespace Lgnome.Native

/-- What a scanner says of one unit. -/
structure AuInfo where
  valid : Bool
  canSeedDecoder : Bool
  deriving DecidableEq, Repr

/-- `native_h264_scan_au` and `native_hevc_scan_annexb`. -/
abbrev Scanner := VideoCodec → Bytes → AuInfo

inductive VideoResult where
  | ok
  | needKeyframe
  | unsupported
  | error
  | dropped
  deriving DecidableEq, Repr

/-- What the platform answers while one unit is taken in. -/
structure FeedEnv where
  seenMs : UInt32 := 0
  cachedMs : UInt32 := 0
  feedMs : UInt32 := 0
  allocates : Bool := true
  mediaOpens : Bool := true
  audioOpens : Bool := true
  videoOpens : Bool := true
  result : VideoResult := .ok
  deriving DecidableEq, Repr

/-- What became of one unit. -/
inductive Ingest where
  | cached
  | background
  | empty
  | pathBlocked
  /-- The decoder still shows a stream of the given codec. -/
  | waitsKeyframe (shown : VideoCodec)
  | noDecoder
  | fed (au : AccessUnit) (result : VideoResult)
  deriving DecidableEq, Repr

/-- A callback that takes no video lock. -/
inductive UnlockedCallback where
  | state (i : SlotIndex) (state : RdpState)
  | desktopSize (i : SlotIndex) (width height : UInt16)
  | stop
  deriving DecidableEq, Repr

/-- What happens around one unit of a replay. -/
structure ReplayEnv where
  feed : FeedEnv := {}
  meanwhile : List UnlockedCallback := []
  deriving DecidableEq, Repr

/-- What the locked part of `native_snapshot_replay` did. -/
inductive Replay where
  | notReady
  | notQuiet
  | replayed (chain : List AccessUnit) (outcomes : List Ingest) (baseline : UInt32)
  deriving DecidableEq, Repr

namespace App

variable (scan : Scanner)

def rgbaOwnerMatches (a : App) (i : SlotIndex) (epoch : UInt32) : Bool :=
  a.rgba = some { owner := i, epoch }

/-- True when the connection has changed its graphics path too often. -/
def noteGraphicsPathSwitch (a : App) (i : SlotIndex) : App × Bool :=
  let a := a.modifySlot i fun s => { s with graphicsPathSwitches := s.graphicsPathSwitches + 1 }
  if (a.sessions i).graphicsPathSwitches ≤ 4 then (a, false)
  else (a.reportTerminal i .decoderError, true)

/-- The unit classifies its slot before any routing. -/
def noteVideoStream (a : App) (i : SlotIndex) (validAu : Bool) (now : UInt32) : App :=
  a.modifySlot i fun s =>
    if validAu then
      { s with
        videoViaBitmap := false
        videoSeen := true
        videoLastAuMs := now
        videoEpoch := s.connectEpoch }
    else { s with videoViaBitmap := false }

/-- The slot owns the decoder, its connection does, and the codec is the same. -/
def ownsDecoder (a : App) (i : SlotIndex) (d : Decoder) : Bool :=
  d.owner = i && d.epoch = (a.sessions i).connectEpoch && d.codec = (a.sessions i).videoCodec

def sameSize (a : App) (i : SlotIndex) (d : Decoder) : Bool :=
  d.width = (a.sessions i).desktopWidth && d.height = (a.sessions i).desktopHeight

/-- Another stream's decoder is kept until this one brings a seed, which takes it
over in band or closes it. `none` when the unit has to wait. -/
def claimDecoder (a : App) (i : SlotIndex) (decoderSeed : Bool) : App × Option VideoCodec :=
  match a.video with
  | none => (a, none)
  | some d =>
    if a.ownsDecoder i d then (a, none)
    else if !decoderSeed then (a, some d.codec)
    else if a.sameSize i d ∧ (a.sessions i).videoCodec = d.codec then
      ({ a with
          video := some { d with owner := i, epoch := (a.sessions i).connectEpoch }
          decoderKeyframePending := false }, none)
    else ({ a with video := none, decoderKeyframePending := false }, none)

/-- A decoder of another size is closed. -/
def dropResized (a : App) (i : SlotIndex) : App :=
  match a.video with
  | none => a
  | some d =>
    if a.sameSize i d then a else { a with video := none, decoderKeyframePending := false }

/-- Opens media, audio and video as far as they are not open yet. -/
def openDecoder (a : App) (i : SlotIndex) (env : FeedEnv) : App :=
  if a.video.isSome then a
  else
    let a := { a with media := a.media || env.mediaOpens }
    if !a.media then a
    else
      let slot := a.sessions i
      { a with
        audio := a.audio || env.audioOpens
        video :=
          if env.videoOpens then
            some { owner := i, epoch := slot.connectEpoch, codec := slot.videoCodec
                   width := slot.desktopWidth, height := slot.desktopHeight }
          else none }

def feedDecoder (a : App) (i : SlotIndex) (env : FeedEnv) : App :=
  let a := { a with videoLastFeedMs := env.feedMs, videoFeedStarted := true }
  match env.result with
  | .needKeyframe =>
    if i = a.activeIndex ∧ !a.decoderKeyframePending then
      { a with decoderKeyframePending := true, videoRefreshNeeded := true }
    else a
  | .ok =>
    { a with decoderKeyframePending := false }.modifySlot i fun s =>
      { s with videoOkFrames := s.videoOkFrames + 1 }
  | .dropped => a
  | .unsupported => a.reportTerminal i .decoderError
  | .error => a.reportTerminal i .decoderError

/-- A canvas on screen gives way to the decoder, up to the switches one connection
is allowed between the two. -/
def yieldCanvas (a : App) (i : SlotIndex) : App × Bool :=
  if a.rgba.isSome then
    let sameOwner := a.rgbaOwnerMatches i (a.sessions i).connectEpoch
    let a := { a with rgba := none }
    if sameOwner then a.noteGraphicsPathSwitch i else (a, false)
  else (a, false)

/-- A unit of the active slot with nothing cached in its way. -/
def presentAu (a : App) (i : SlotIndex) (au : AccessUnit) (decoderSeed : Bool) (env : FeedEnv) :
    App × Ingest :=
  match a.yieldCanvas i with
  | (a, true) => (a, .pathBlocked)
  | (a, false) =>
    match a.claimDecoder i decoderSeed with
    | (a, some shown) => (a, .waitsKeyframe shown)
    | (a, none) =>
      let a := (a.dropResized i).openDecoder i env
      if a.video.isSome then (a.feedDecoder i env, .fed au env.result)
      else (a.reportTerminal i .decoderError, .noDecoder)

/-- `native_video_ingest_au_locked`, for live callbacks and replay. -/
def ingestAuLocked (a : App) (i : SlotIndex) (au : AccessUnit) (env : FeedEnv) : App × Ingest :=
  let info := scan (a.sessions i).videoCodec au.data
  let decoderSeed := info.valid && info.canSeedDecoder
  let a := a.noteVideoStream i info.valid env.seenMs
  -- An armed cache stays the handoff barrier after the active index is published.
  if (a.sessions i).snapshot.armed then
    (a.modifySlot i fun s =>
      let snapshot := (s.snapshot.append au info.valid decoderSeed).1
      { s with snapshot, snapshotLastAuMs := env.cachedMs, snapshotIdrReady := snapshot.ready },
      .cached)
  else if a.activeIndex ≠ i then (a, .background)
  else if au.data.isEmpty then (a.reportTerminal i .decoderError, .empty)
  else a.presentAu i au decoderSeed env

/-- A cached chain belongs to one codec. -/
def changeCodec (a : App) (i : SlotIndex) (codec : VideoCodec) (allocates : Bool) : App :=
  if (a.sessions i).videoCodec = codec then a
  else
    a.modifySlot i fun s =>
      { s with
        snapshot := if s.snapshot.armed then s.snapshot.arm allocates else s.snapshot
        snapshotIdrReady := false
        videoCodec := codec
        videoSeen := false }

/-- `native_video_ingest_au`. -/
def ingestAu (a : App) (i : SlotIndex) (codec : VideoCodec) (au : AccessUnit) (env : FeedEnv) :
    App × Ingest :=
  (a.changeCodec i codec env.allocates).ingestAuLocked scan i au env

def unlocked (a : App) : UnlockedCallback → App
  | .state i state => a.recordState i state
  | .desktopSize i width height =>
    a.modifySlot i fun s => { s with desktopWidth := width, desktopHeight := height }
  | .stop => { a with running := false }

/-- The loop over the cached units. A terminal feed error ends it. -/
def replayUnits (a : App) (i : SlotIndex) : List AccessUnit → List ReplayEnv → App × List Ingest
  | [], _ => (a, [])
  | au :: rest, envs =>
    let env := envs.headD {}
    let r := a.ingestAuLocked scan i au env.feed
    let a := env.meanwhile.foldl unlocked r.1
    if !a.running || (a.sessions i).sessionFailed then (a, [r.2])
    else
      let more := a.replayUnits i rest envs.tail
      (more.1, r.2 :: more.2)

def snapshotQuietMs : UInt32 := 500

/-- The locked part of `native_snapshot_replay`. -/
def snapshotReplay (a : App) (target : SlotIndex) (now : UInt32) (envs : List ReplayEnv) :
    App × Replay :=
  let slot := a.sessions target
  let a := a.modifySlot target fun s => { s with snapshot := {}, snapshotIdrReady := false }
  if !slot.snapshot.ready then (a, .notReady)
  else if now - slot.snapshotLastAuMs < snapshotQuietMs then (a, .notQuiet)
  else
    let r := a.replayUnits scan target slot.snapshot.entries envs
    (r.1, .replayed slot.snapshot.entries r.2 slot.videoOkFrames)

/-- The result of `native_snapshot_replay`, read behind the lock. -/
def replayResult (a : App) (target : SlotIndex) : Replay → Bool
  | .replayed _ _ baseline => (a.sessions target).videoOkFrames ≠ baseline
  | _ => false

/-- Under the lock of `native_prepare_pending_switch` and `native_slot_connect`. -/
def armSnapshot (a : App) (i : SlotIndex) (allocates : Bool) : App :=
  a.modifySlot i fun s => { s with snapshot := s.snapshot.arm allocates }

/-- Under the lock of the deadline branch of `native_switch_tick`. -/
def resetSnapshot (a : App) (i : SlotIndex) : App :=
  a.modifySlot i fun s => { s with snapshot := s.snapshot.reset }

/-- Under the lock of `native_stop_slot`. -/
def forgetStream (a : App) (i : SlotIndex) : App :=
  a.modifySlot i fun s =>
    { s with
      snapshot := s.snapshot.reset
      videoSeen := false
      videoCodec := .h264
      videoViaBitmap := false }

/-- The frozen canvas of the HUB goes back on screen only for its own connection. -/
def promoteHubReturn (a : App) (target : SlotIndex) : App :=
  match a.hubReturnRgba with
  | none => { a with rgba := none }
  | some o =>
    if o.owner ≠ target then { a with rgba := none, hubReturnRgba := none }
    else if o.epoch = (a.sessions target).connectEpoch then
      { a with rgba := some o, hubReturnRgba := none }
    else { a with rgba := none }

/-- Under the lock of `native_complete_session_switch`: the screen changes its owner. -/
def publishOwner (a : App) (target : SlotIndex) : App :=
  let a :=
    if (a.sessions target).snapshotPending then
      a.modifySlot target fun s =>
        { s with snapshotPending := false, snapshot := s.snapshot.reset, snapshotIdrReady := false }
    else a
  { a.promoteHubReturn target with activeIndex := target, videoRefreshNeeded := false }

/-- A report was followed by what it asks for. -/
def Reported (a : App) (i : SlotIndex) : Prop :=
  (a.sessions i).terminalState ≠ .idle → (a.sessions i).sessionFailed ∨ a.running = false

theorem reportTerminal_ends {a : App} {i : SlotIndex} (h : a.Reported i) (state : RdpState) :
    ((a.reportTerminal i state).sessions i).sessionFailed ∨
      (a.reportTerminal i state).running = false := by
  unfold reportTerminal
  split
  · rename_i hne
    exact h hne
  · simp only
    split
    · exact .inr rfl
    · split
      · exact .inl (by simp)
      · exact .inr rfl

/-- A step that presents one slot's stream: it may count, fail or stop, and touch
the shared decoder, and leaves everything else alone. -/
structure Presented (i : SlotIndex) (a a' : App) : Prop where
  others : ∀ j, j ≠ i → a'.sessions j = a.sessions j
  slot : a'.sessions i =
    { a.sessions i with
      graphicsPathSwitches := (a'.sessions i).graphicsPathSwitches
      videoOkFrames := (a'.sessions i).videoOkFrames
      terminalState := (a'.sessions i).terminalState
      sessionFailed := (a'.sessions i).sessionFailed }
  app : a' =
    { a with
      sessions := a'.sessions
      running := a'.running
      rgba := a'.rgba
      video := a'.video
      audio := a'.audio
      media := a'.media
      decoderKeyframePending := a'.decoderKeyframePending
      videoRefreshNeeded := a'.videoRefreshNeeded
      videoLastFeedMs := a'.videoLastFeedMs
      videoFeedStarted := a'.videoFeedStarted }
  failed : (a.sessions i).sessionFailed → (a'.sessions i).sessionFailed
  running : a'.running → a.running
  reported : a.Reported i → a'.Reported i

namespace Presented

variable {i : SlotIndex} {a b c : App}

theorem refl (i : SlotIndex) (a : App) : Presented i a a :=
  ⟨fun _ _ => rfl, rfl, rfl, id, id, id⟩

theorem trans (h : Presented i a b) (h' : Presented i b c) : Presented i a c where
  others j hj := (h'.others j hj).trans (h.others j hj)
  slot := by
    have hs := h.slot
    have hs' := h'.slot
    generalize a.sessions i = s at hs ⊢
    generalize b.sessions i = s' at hs hs'
    generalize c.sessions i = s'' at hs' ⊢
    rw [hs', hs]
  app := by
    have ha := h.app
    have ha' := h'.app
    cases a
    cases b
    cases c
    simp only [App.mk.injEq] at ha ha' ⊢
    simp [ha, ha']
  failed hf := h'.failed (h.failed hf)
  running hr := h.running (h'.running hr)
  reported hr := h'.reported (h.reported hr)

theorem activeIndex (h : Presented i a b) : b.activeIndex = a.activeIndex := by
  have hfield := congrArg App.activeIndex h.app
  exact hfield

theorem snapshot (h : Presented i a b) (j : SlotIndex) :
    (b.sessions j).snapshot = (a.sessions j).snapshot := by
  by_cases hj : j = i
  · have hfield := congrArg Slot.snapshot h.slot
    rw [hj]
    exact hfield
  · rw [h.others j hj]

theorem rdp (h : Presented i a b) : (b.sessions i).rdp = (a.sessions i).rdp := by
  have hfield := congrArg Slot.rdp h.slot
  exact hfield

theorem connectEpoch (h : Presented i a b) :
    (b.sessions i).connectEpoch = (a.sessions i).connectEpoch := by
  have hfield := congrArg Slot.connectEpoch h.slot
  exact hfield

theorem videoCodec (h : Presented i a b) :
    (b.sessions i).videoCodec = (a.sessions i).videoCodec := by
  have hfield := congrArg Slot.videoCodec h.slot
  exact hfield

end Presented

theorem presented_reportTerminal (a : App) (i : SlotIndex) (state : RdpState) :
    Presented i a (a.reportTerminal i state) := by
  have hends : a.Reported i → (a.reportTerminal i state).Reported i :=
    fun h _ => reportTerminal_ends h state
  unfold reportTerminal at hends ⊢
  split at hends
  · rename_i hne
    rw [if_pos hne]
    exact .refl i a
  · rename_i hne
    rw [if_neg hne]
    simp only at hends ⊢
    split at hends
    · rename_i hstop
      rw [if_pos hstop]
      constructor <;> first | exact hends | simp +contextual [modifySlot]
    · rename_i hstop
      rw [if_neg hstop]
      split at hends
      · rename_i hflag
        rw [if_pos hflag]
        constructor <;> first | exact hends | simp +contextual [modifySlot]
      · rename_i hflag
        rw [if_neg hflag]
        constructor <;> first | exact hends | simp +contextual [modifySlot]

theorem presented_noteGraphicsPathSwitch (a : App) (i : SlotIndex) :
    Presented i a (a.noteGraphicsPathSwitch i).1 := by
  have hcount : Presented i a (a.modifySlot i fun s =>
      { s with graphicsPathSwitches := s.graphicsPathSwitches + 1 }) := by
    constructor <;> simp +contextual [modifySlot, Reported]
  unfold noteGraphicsPathSwitch
  simp only
  split
  · exact hcount
  · exact hcount.trans (presented_reportTerminal _ i _)

theorem presented_claimDecoder (a : App) (i : SlotIndex) (decoderSeed : Bool) :
    Presented i a (a.claimDecoder i decoderSeed).1 := by
  unfold claimDecoder
  cases a.video with
  | none => exact .refl i a
  | some d =>
    simp only
    split
    · exact .refl i a
    · split
      · exact .refl i a
      · split <;> exact ⟨fun _ _ => rfl, rfl, rfl, id, id, id⟩

theorem presented_dropResized (a : App) (i : SlotIndex) : Presented i a (a.dropResized i) := by
  unfold dropResized
  cases a.video with
  | none => exact .refl i a
  | some d =>
    simp only
    split
    · exact .refl i a
    · exact ⟨fun _ _ => rfl, rfl, rfl, id, id, id⟩

theorem presented_openDecoder (a : App) (i : SlotIndex) (env : FeedEnv) :
    Presented i a (a.openDecoder i env) := by
  unfold openDecoder
  split
  · exact .refl i a
  · simp only
    split <;> exact ⟨fun _ _ => rfl, rfl, rfl, id, id, id⟩

theorem presented_feedDecoder (a : App) (i : SlotIndex) (env : FeedEnv) :
    Presented i a (a.feedDecoder i env) := by
  have hfed : Presented i a { a with videoLastFeedMs := env.feedMs, videoFeedStarted := true } :=
    ⟨fun _ _ => rfl, rfl, rfl, id, id, id⟩
  unfold feedDecoder
  cases env.result with
  | needKeyframe =>
    simp only
    split
    · exact hfed.trans ⟨fun _ _ => rfl, rfl, rfl, id, id, id⟩
    · exact hfed
  | ok => constructor <;> simp +contextual [modifySlot, Reported]
  | dropped => exact hfed
  | unsupported => exact hfed.trans (presented_reportTerminal _ i _)
  | error => exact hfed.trans (presented_reportTerminal _ i _)

theorem presented_yieldCanvas (a : App) (i : SlotIndex) : Presented i a (a.yieldCanvas i).1 := by
  have hclosed : Presented i a { a with rgba := none } := ⟨fun _ _ => rfl, rfl, rfl, id, id, id⟩
  unfold yieldCanvas
  split
  · simp only
    split
    · exact hclosed.trans (presented_noteGraphicsPathSwitch _ i)
    · exact hclosed
  · exact .refl i a

theorem presented_presentAu (a : App) (i : SlotIndex) (au : AccessUnit) (decoderSeed : Bool)
    (env : FeedEnv) : Presented i a (a.presentAu i au decoderSeed env).1 := by
  have hyield := presented_yieldCanvas a i
  unfold presentAu
  generalize a.yieldCanvas i = yielded at hyield ⊢
  rcases yielded with ⟨b, _ | _⟩
  · have hclaim := hyield.trans (presented_claimDecoder b i decoderSeed)
    simp only
    generalize b.claimDecoder i decoderSeed = claimed at hclaim ⊢
    rcases claimed with ⟨c, _ | shown⟩
    · have hopen := (hclaim.trans (presented_dropResized c i)).trans
        (presented_openDecoder (c.dropResized i) i env)
      simp only
      split
      · exact hopen.trans (presented_feedDecoder _ i env)
      · exact hopen.trans (presented_reportTerminal _ i _)
    · exact hclaim
  · exact hyield

/-- All that can become of a presented unit. -/
inductive PresentStep (a : App) (i : SlotIndex) (au : AccessUnit) (decoderSeed : Bool)
    (env : FeedEnv) (a' : App) : Ingest → Prop
  | pathBlocked (hcanvas : a.rgba.isSome)
      (hended : a.Reported i → (a'.sessions i).sessionFailed ∨ a'.running = false)
      (hframes : (a'.sessions i).videoOkFrames = (a.sessions i).videoOkFrames) :
      PresentStep a i au decoderSeed env a' .pathBlocked
  | waitsKeyframe (d : Decoder) (hvideo : a.video = some d) (hseed : decoderSeed = false)
      (howns : a.ownsDecoder i d = false) (hkept : a'.video = a.video) (hcanvas : a'.rgba = none)
      (hframes : (a'.sessions i).videoOkFrames = (a.sessions i).videoOkFrames) :
      PresentStep a i au decoderSeed env a' (.waitsKeyframe d.codec)
  | noDecoder (hopen : env.mediaOpens = false ∨ env.videoOpens = false)
      (hended : a.Reported i → (a'.sessions i).sessionFailed ∨ a'.running = false)
      (hvideo : a'.video = none) (hcanvas : a'.rgba = none)
      (hframes : (a'.sessions i).videoOkFrames = (a.sessions i).videoOkFrames) :
      PresentStep a i au decoderSeed env a' .noDecoder
  | fed (d : Decoder) (hvideo : a'.video = some d) (howner : d.owner = i)
      (hepoch : d.epoch = (a.sessions i).connectEpoch)
      (hcodec : d.codec = (a.sessions i).videoCodec) (hcanvas : a'.rgba = none)
      (hframes : env.result ≠ .ok →
        (a'.sessions i).videoOkFrames = (a.sessions i).videoOkFrames) :
      PresentStep a i au decoderSeed env a' (.fed au env.result)

theorem reportTerminal_kept (a : App) (i : SlotIndex) (state : RdpState) :
    (a.reportTerminal i state).video = a.video ∧ (a.reportTerminal i state).rgba = a.rgba ∧
      ((a.reportTerminal i state).sessions i).videoOkFrames = (a.sessions i).videoOkFrames ∧
      ((a.reportTerminal i state).sessions i).connectEpoch = (a.sessions i).connectEpoch := by
  unfold reportTerminal
  split
  · exact ⟨rfl, rfl, rfl, rfl⟩
  · simp only
    split
    · simp
    · split <;> simp

theorem yieldCanvas_cases (a : App) (i : SlotIndex) :
    (a.yieldCanvas i).1.rgba = none ∧ (a.yieldCanvas i).1.video = a.video ∧
      ((a.yieldCanvas i).1.sessions i).videoOkFrames = (a.sessions i).videoOkFrames ∧
      ((a.yieldCanvas i).2 → a.rgba.isSome ∧
        (a.Reported i → ((a.yieldCanvas i).1.sessions i).sessionFailed ∨
          (a.yieldCanvas i).1.running = false)) := by
  unfold yieldCanvas
  by_cases hcanvas : a.rgba.isSome
  · rw [if_pos hcanvas]
    simp only
    split
    · unfold noteGraphicsPathSwitch
      simp only
      split
      · simp
      · have hkept := reportTerminal_kept
          ({ a with rgba := none }.modifySlot i fun s =>
            { s with graphicsPathSwitches := s.graphicsPathSwitches + 1 }) i .decoderError
        refine ⟨hkept.2.1, hkept.1, by rw [hkept.2.2.1]; simp, fun _ => ⟨hcanvas, fun hr => ?_⟩⟩
        exact reportTerminal_ends (by simpa [Reported] using hr) _
    · simp
  · rw [if_neg hcanvas]
    have hnone : a.rgba = none := by simpa using hcanvas
    exact ⟨hnone, rfl, rfl, fun h => by cases h⟩

theorem claimDecoder_cases (a : App) (i : SlotIndex) (decoderSeed : Bool) :
    (a.claimDecoder i decoderSeed).1.rgba = a.rgba ∧
      (a.claimDecoder i decoderSeed).1.sessions = a.sessions ∧
      match (a.claimDecoder i decoderSeed).2 with
      | none => ∀ d, (a.claimDecoder i decoderSeed).1.video = some d →
          d.owner = i ∧ d.epoch = (a.sessions i).connectEpoch ∧ d.codec = (a.sessions i).videoCodec
      | some shown => (a.claimDecoder i decoderSeed).1 = a ∧ decoderSeed = false ∧
          ∃ d, a.video = some d ∧ a.ownsDecoder i d = false ∧ d.codec = shown := by
  unfold claimDecoder
  cases hvideo : a.video with
  | none => simp [hvideo]
  | some d =>
    simp only
    by_cases howns : a.ownsDecoder i d
    · rw [if_pos howns]
      refine ⟨rfl, rfl, fun e he => ?_⟩
      obtain rfl := Option.some.inj (hvideo.symm.trans he)
      simpa only [ownsDecoder, Bool.and_eq_true, decide_eq_true_eq, and_assoc] using howns
    · rw [if_neg howns]
      cases decoderSeed with
      | false => exact ⟨rfl, rfl, rfl, rfl, d, rfl, by simpa using howns, rfl⟩
      | true =>
        simp only [Bool.not_true, Bool.false_eq_true, if_false]
        split
        · rename_i hband
          refine ⟨rfl, rfl, fun e he => ?_⟩
          obtain rfl := Option.some.inj he
          exact ⟨rfl, rfl, hband.2.symm⟩
        · exact ⟨rfl, rfl, fun e he => by cases he⟩

theorem dropResized_cases (a : App) (i : SlotIndex) :
    (a.dropResized i).rgba = a.rgba ∧ (a.dropResized i).sessions = a.sessions ∧
      ∀ d, (a.dropResized i).video = some d → a.video = some d := by
  unfold dropResized
  cases hvideo : a.video with
  | none => exact ⟨rfl, rfl, fun d hd => hvideo ▸ hd⟩
  | some d =>
    simp only
    split
    · exact ⟨rfl, rfl, fun e he => hvideo ▸ he⟩
    · exact ⟨rfl, rfl, fun e he => by cases he⟩

theorem openDecoder_cases (a : App) (i : SlotIndex) (env : FeedEnv) :
    (a.openDecoder i env).rgba = a.rgba ∧ (a.openDecoder i env).sessions = a.sessions ∧
      match (a.openDecoder i env).video with
      | none => env.mediaOpens = false ∨ env.videoOpens = false
      | some d => a.video = some d ∨ (d.owner = i ∧ d.epoch = (a.sessions i).connectEpoch ∧
          d.codec = (a.sessions i).videoCodec) := by
  unfold openDecoder
  cases hvideo : a.video with
  | some d => simp [hvideo]
  | none =>
    simp only [Option.isSome_none, Bool.false_eq_true, if_false]
    by_cases hmedia : a.media || env.mediaOpens
    · simp only [hmedia, Bool.not_true, Bool.false_eq_true, if_false]
      cases hopen : env.videoOpens <;> simp
    · have hclosed : a.media = false ∧ env.mediaOpens = false := by simpa using hmedia
      simp [hclosed]

theorem feedDecoder_kept (a : App) (i : SlotIndex) (env : FeedEnv) :
    (a.feedDecoder i env).video = a.video ∧ (a.feedDecoder i env).rgba = a.rgba ∧
      (env.result ≠ .ok →
        ((a.feedDecoder i env).sessions i).videoOkFrames = (a.sessions i).videoOkFrames) := by
  have hreport := reportTerminal_kept
    { a with videoLastFeedMs := env.feedMs, videoFeedStarted := true } i .decoderError
  unfold feedDecoder
  cases env.result with
  | needKeyframe =>
    simp only
    split <;> exact ⟨rfl, rfl, fun _ => rfl⟩
  | ok => exact ⟨rfl, rfl, fun h => absurd rfl h⟩
  | dropped => exact ⟨rfl, rfl, fun _ => rfl⟩
  | unsupported => exact ⟨hreport.1, hreport.2.1, fun _ => hreport.2.2.1⟩
  | error => exact ⟨hreport.1, hreport.2.1, fun _ => hreport.2.2.1⟩

theorem presentAu_cases (a : App) (i : SlotIndex) (au : AccessUnit) (decoderSeed : Bool)
    (env : FeedEnv) :
    PresentStep a i au decoderSeed env (a.presentAu i au decoderSeed env).1
      (a.presentAu i au decoderSeed env).2 := by
  have hpresented := presented_yieldCanvas a i
  obtain ⟨hcanvas, hvideo, hframes, hblocked⟩ := yieldCanvas_cases a i
  unfold presentAu
  generalize a.yieldCanvas i = yielded at hpresented hcanvas hvideo hframes hblocked ⊢
  rcases yielded with ⟨b, _ | _⟩
  · have hepoch : (b.sessions i).connectEpoch = _ := hpresented.connectEpoch
    have hcodec : (b.sessions i).videoCodec = _ := hpresented.videoCodec
    have hclaimed := presented_claimDecoder b i decoderSeed
    obtain ⟨hcanvas₁, hsessions₁, hclaim⟩ := claimDecoder_cases b i decoderSeed
    simp only at hcanvas hvideo hframes hpresented ⊢
    generalize b.claimDecoder i decoderSeed = claimed at hclaimed hcanvas₁ hsessions₁ hclaim ⊢
    rcases claimed with ⟨c, _ | shown⟩
    · obtain ⟨hcanvas₂, hsessions₂, hvideo₂⟩ := dropResized_cases c i
      have hopened := presented_openDecoder (c.dropResized i) i env
      obtain ⟨hcanvas₃, hsessions₃, hopen⟩ := openDecoder_cases (c.dropResized i) i env
      simp only at hclaim hcanvas₁ hsessions₁ hclaimed ⊢
      have hsessions : ((c.dropResized i).openDecoder i env).sessions = b.sessions := by
        rw [hsessions₃, hsessions₂, hsessions₁]
      have hnone : ((c.dropResized i).openDecoder i env).rgba = none := by
        rw [hcanvas₃, hcanvas₂, hcanvas₁, hcanvas]
      have hreported : a.Reported i → ((c.dropResized i).openDecoder i env).Reported i := fun hr =>
        hopened.reported ((presented_dropResized c i).reported
          (hclaimed.reported (hpresented.reported hr)))
      rw [hsessions₂, hsessions₁, hepoch, hcodec] at hopen
      generalize (c.dropResized i).openDecoder i env = d at hopen hsessions hnone hreported ⊢
      cases hd : d.video with
      | none =>
        rw [hd] at hopen
        have hkept := reportTerminal_kept d i .decoderError
        exact .noDecoder hopen (fun hr => reportTerminal_ends (hreported hr) _)
          (hkept.1.trans hd) (hkept.2.1.trans hnone)
          (hkept.2.2.1.trans (by rw [hsessions, hframes]))
      | some e =>
        rw [hd] at hopen
        have hkept := feedDecoder_kept d i env
        have howner : e.owner = i ∧ e.epoch = (a.sessions i).connectEpoch ∧
            e.codec = (a.sessions i).videoCodec := by
          rcases hopen with hsame | hnew
          · rw [← hepoch, ← hcodec]
            exact hclaim e (hvideo₂ e hsame)
          · exact hnew
        exact .fed e (hkept.1.trans hd) howner.1 howner.2.1 howner.2.2 (hkept.2.1.trans hnone)
          fun hne => (hkept.2.2 hne).trans (by rw [hsessions, hframes])
    · obtain ⟨hsame, hseed, d, hd, howns, rfl⟩ := hclaim
      simp only at hsame
      subst hsame
      have howns' : a.ownsDecoder i d = false := by
        rw [← howns]
        simp only [ownsDecoder, hepoch, hcodec]
      exact .waitsKeyframe d (hvideo.symm.trans hd) hseed howns' hvideo hcanvas hframes
  · exact .pathBlocked (hblocked rfl).1 (hblocked rfl).2 hframes

/-- What taking in a unit of one slot leaves alone in any case. -/
structure TookIn (i : SlotIndex) (a a' : App) : Prop where
  others : ∀ j, j ≠ i → a'.sessions j = a.sessions j
  activeIndex : a'.activeIndex = a.activeIndex
  rdp : (a'.sessions i).rdp = (a.sessions i).rdp
  connectEpoch : (a'.sessions i).connectEpoch = (a.sessions i).connectEpoch
  videoCodec : (a'.sessions i).videoCodec = (a.sessions i).videoCodec
  reported : ∀ j, a.Reported j → a'.Reported j

theorem TookIn.trans {i : SlotIndex} {a b c : App} (h : TookIn i a b) (h' : TookIn i b c) :
    TookIn i a c where
  others j hj := (h'.others j hj).trans (h.others j hj)
  activeIndex := h'.activeIndex.trans h.activeIndex
  rdp := h'.rdp.trans h.rdp
  connectEpoch := h'.connectEpoch.trans h.connectEpoch
  videoCodec := h'.videoCodec.trans h.videoCodec
  reported j hr := h'.reported j (h.reported j hr)

theorem Presented.tookIn {i : SlotIndex} {a b : App} (h : Presented i a b) : TookIn i a b where
  others := h.others
  activeIndex := h.activeIndex
  rdp := h.rdp
  connectEpoch := h.connectEpoch
  videoCodec := h.videoCodec
  reported j hr := by
    by_cases hj : j = i
    · rw [hj] at hr ⊢
      exact h.reported hr
    · intro hterminal
      rw [h.others j hj] at hterminal ⊢
      rcases hr hterminal with hfailed | hstopped
      · exact .inl hfailed
      · refine .inr (Bool.eq_false_iff.mpr fun hrun => ?_)
        rw [h.running hrun] at hstopped
        cases hstopped

theorem noteVideoStream_slot (a : App) (i : SlotIndex) (validAu : Bool) (now : UInt32) :
    ∃ seen last epoch, (a.noteVideoStream i validAu now).sessions i =
      { a.sessions i with
        videoViaBitmap := false
        videoSeen := seen
        videoLastAuMs := last
        videoEpoch := epoch } := by
  unfold noteVideoStream
  cases validAu with
  | true => exact ⟨_, _, _, modifySlot_same ..⟩
  | false => exact ⟨_, _, _, modifySlot_same ..⟩

/-- An update of the stream bookkeeping of one slot. -/
theorem tookIn_modifySlot (a : App) (i : SlotIndex) (f : Slot → Slot)
    (hrdp : (f (a.sessions i)).rdp = (a.sessions i).rdp)
    (hepoch : (f (a.sessions i)).connectEpoch = (a.sessions i).connectEpoch)
    (hcodec : (f (a.sessions i)).videoCodec = (a.sessions i).videoCodec)
    (hterminal : (f (a.sessions i)).terminalState = (a.sessions i).terminalState)
    (hfailed : (f (a.sessions i)).sessionFailed = (a.sessions i).sessionFailed) :
    TookIn i a (a.modifySlot i f) where
  others j hj := modifySlot_other _ _ _ hj
  activeIndex := rfl
  rdp := by rw [modifySlot_same, hrdp]
  connectEpoch := by rw [modifySlot_same, hepoch]
  videoCodec := by rw [modifySlot_same, hcodec]
  reported j hr := by
    by_cases hj : j = i
    · subst hj
      intro hne
      rw [modifySlot_same, hterminal] at hne
      rw [modifySlot_same, hfailed]
      exact hr hne
    · intro hne
      rw [modifySlot_other _ _ _ hj] at hne ⊢
      exact hr hne

theorem noteVideoStream_tookIn (a : App) (i : SlotIndex) (validAu : Bool) (now : UInt32) :
    TookIn i a (a.noteVideoStream i validAu now) := by
  cases validAu <;> exact tookIn_modifySlot a i _ rfl rfl rfl rfl rfl

variable {scan}

/-- All that can become of a unit, in terms of the state it found. -/
inductive IngestStep (scan : Scanner) (a : App) (i : SlotIndex) (au : AccessUnit) (env : FeedEnv)
    (a' : App) : Ingest → Prop
  | cached (harmed : (a.sessions i).snapshot.armed)
      (hsnapshot : (a'.sessions i).snapshot =
        ((a.sessions i).snapshot.append au (scan (a.sessions i).videoCodec au.data).valid
          ((scan (a.sessions i).videoCodec au.data).valid &&
            (scan (a.sessions i).videoCodec au.data).canSeedDecoder)).1)
      (hscreen : a'.video = a.video ∧ a'.rgba = a.rgba)
      (hframes : (a'.sessions i).videoOkFrames = (a.sessions i).videoOkFrames) :
      IngestStep scan a i au env a' .cached
  | background (hunarmed : (a.sessions i).snapshot.armed = false) (hactive : a.activeIndex ≠ i)
      (hsnapshot : (a'.sessions i).snapshot = (a.sessions i).snapshot)
      (hscreen : a'.video = a.video ∧ a'.rgba = a.rgba)
      (hframes : (a'.sessions i).videoOkFrames = (a.sessions i).videoOkFrames) :
      IngestStep scan a i au env a' .background
  | empty (hunarmed : (a.sessions i).snapshot.armed = false) (hactive : a.activeIndex = i)
      (hdata : au.data = []) (hsnapshot : (a'.sessions i).snapshot = (a.sessions i).snapshot)
      (hscreen : a'.video = a.video ∧ a'.rgba = a.rgba)
      (hframes : (a'.sessions i).videoOkFrames = (a.sessions i).videoOkFrames) :
      IngestStep scan a i au env a' .empty
  | presented (o : Ingest) (b : App) (hunarmed : (a.sessions i).snapshot.armed = false)
      (hactive : a.activeIndex = i) (hdata : au.data ≠ [])
      (hsnapshot : (a'.sessions i).snapshot = (a.sessions i).snapshot)
      (hnoted : TookIn i a b) (hscreen : b.video = a.video ∧ b.rgba = a.rgba)
      (hframes : (b.sessions i).videoOkFrames = (a.sessions i).videoOkFrames)
      (hstep : PresentStep b i au ((scan (a.sessions i).videoCodec au.data).valid &&
        (scan (a.sessions i).videoCodec au.data).canSeedDecoder) env a' o) :
      IngestStep scan a i au env a' o

theorem ingestAuLocked_cases (scan : Scanner) (a : App) (i : SlotIndex) (au : AccessUnit) (env : FeedEnv) :
    TookIn i a (a.ingestAuLocked scan i au env).1 ∧
      IngestStep scan a i au env (a.ingestAuLocked scan i au env).1
        (a.ingestAuLocked scan i au env).2 := by
  have hnoted := noteVideoStream_tookIn a i (scan (a.sessions i).videoCodec au.data).valid env.seenMs
  obtain ⟨_, _, _, hslot⟩ :=
    noteVideoStream_slot a i (scan (a.sessions i).videoCodec au.data).valid env.seenMs
  have hscreen : (a.noteVideoStream i (scan (a.sessions i).videoCodec au.data).valid
        env.seenMs).video = a.video ∧
      (a.noteVideoStream i (scan (a.sessions i).videoCodec au.data).valid env.seenMs).rgba = a.rgba :=
    ⟨rfl, rfl⟩
  have hsnapshot : ((a.noteVideoStream i (scan (a.sessions i).videoCodec au.data).valid
      env.seenMs).sessions i).snapshot = (a.sessions i).snapshot := by rw [hslot]
  have hframes : ((a.noteVideoStream i (scan (a.sessions i).videoCodec au.data).valid
      env.seenMs).sessions i).videoOkFrames = (a.sessions i).videoOkFrames := by rw [hslot]
  unfold ingestAuLocked
  simp only
  generalize a.noteVideoStream i (scan (a.sessions i).videoCodec au.data).valid env.seenMs = b
    at hnoted hscreen hsnapshot hframes ⊢
  by_cases harmed : (b.sessions i).snapshot.armed
  · rw [if_pos harmed]
    rw [hsnapshot] at harmed
    refine ⟨hnoted.trans ?_, .cached harmed ?_ hscreen ?_⟩
    · simp only
      apply tookIn_modifySlot b i <;> rfl
    · simp [hsnapshot]
    · simp [hframes]
  · rw [if_neg harmed]
    have hunarmed : (a.sessions i).snapshot.armed = false := by
      rw [← hsnapshot]
      simpa using harmed
    by_cases hactive : a.activeIndex = i
    · rw [if_neg (not_not.mpr (hnoted.activeIndex.trans hactive))]
      by_cases hdata : au.data = []
      · have hreport := presented_reportTerminal b i .decoderError
        have hkept := reportTerminal_kept b i .decoderError
        rw [if_pos (by rw [hdata]; rfl)]
        exact ⟨hnoted.trans hreport.tookIn, .empty hunarmed hactive hdata
          ((hreport.snapshot i).trans hsnapshot)
          ⟨hkept.1.trans hscreen.1, hkept.2.1.trans hscreen.2⟩ (hkept.2.2.1.trans hframes)⟩
      · have hpresented := presented_presentAu b i au
          ((scan (a.sessions i).videoCodec au.data).valid &&
            (scan (a.sessions i).videoCodec au.data).canSeedDecoder) env
        rw [if_neg (by simpa using hdata)]
        exact ⟨hnoted.trans hpresented.tookIn, .presented _ b hunarmed hactive hdata
          ((hpresented.snapshot i).trans hsnapshot) hnoted hscreen hframes (presentAu_cases ..)⟩
    · rw [if_pos (by rw [hnoted.activeIndex]; exact hactive)]
      exact ⟨hnoted, .background hunarmed hactive hsnapshot hscreen hframes⟩

end App

end Lgnome.Native
