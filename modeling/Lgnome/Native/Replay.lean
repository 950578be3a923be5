import Lgnome.Native.Video
import Lgnome.Transition.Machine

/-!
# A replay and the live stream behind it

Workers deliver units while the UI thread hands the screen over and replays a
snapshot; every step holds the video lock. An armed snapshot keeps the units
back, so the replayed chain is what arrived from the newest seed on, and the
first unit behind it goes straight to the decoder.
-/
namespace Lgnome.Native

open Lgnome.Transition

variable {scan : Scanner}

inductive VideoAction where
  | videoAu (i : SlotIndex) (codec : VideoCodec) (au : AccessUnit) (env : FeedEnv)
  | unlocked (callback : UnlockedCallback)
  | arm (i : SlotIndex) (allocates : Bool)
  | reset (i : SlotIndex)
  /-- The UI thread's own mark that the cache is being filled. -/
  | pending (i : SlotIndex) (filling : Bool)
  | stop (i : SlotIndex)
  | connect (i : SlotIndex) (session : Session) (armed : Option Bool)
  | publish (target : SlotIndex)
  | select (target : SlotIndex)
  | replay (target : SlotIndex) (now : UInt32) (envs : List ReplayEnv)
  | check
  deriving DecidableEq

/-- What a step shows. -/
inductive VideoNote where
  | silent
  | ingest (outcome : Ingest)
  | replay (replay : Replay)
  | returned (accepted : Bool)
  deriving DecidableEq

abbrev VideoEvent := VideoAction × VideoNote

/-- The application, and the replay whose result the UI thread has yet to read. -/
structure ReplayState where
  app : App := {}
  reading : Option (SlotIndex × Replay) := none

/-- A worker's own step, which needs no leave of the UI thread. -/
def VideoAction.isWorker : VideoAction → Bool
  | .videoAu .. => true
  | .unlocked _ => true
  | _ => false

/-- A reconnect as far as the stream is concerned: the old worker is joined, the
cache armed if asked, and only then the new worker starts. -/
def App.reconnect (a : App) (i : SlotIndex) (session : Session) (armed : Option Bool) : App :=
  let a := a.forgetStream i
  let a := match armed with
    | none => a
    | some allocates => a.armSnapshot i allocates
  a.modifySlot i fun s =>
    { s with
      rdp := some session
      snapshotIdrReady := false
      snapshotPending := false
      suppressed := false
      currentState := .idle
      sessionFailed := false
      terminalState := .idle
      connectEpoch := s.connectEpoch + 1
      graphicsPathSwitches := 0 }

def App.disconnect (a : App) (i : SlotIndex) : App :=
  (a.forgetStream i).modifySlot i fun s =>
    { s with
      rdp := none
      snapshotIdrReady := false
      snapshotPending := false
      suppressed := false
      currentState := .idle
      sessionFailed := false }

/-- One step under the video lock. The UI thread does nothing else between a
replay and the reading of its result. -/
def videoStep (scan : Scanner) (s : ReplayState) (action : VideoAction) :
    Option (ReplayState × VideoNote) :=
  match action with
  | .videoAu i codec au env =>
    let r := s.app.ingestAu scan i codec au env
    some ({ s with app := r.1 }, .ingest r.2)
  | .unlocked callback => some ({ s with app := s.app.unlocked callback }, .silent)
  | .check =>
    match s.reading with
    | none => none
    | some (target, replay) =>
      some ({ s with reading := none }, .returned (s.app.replayResult target replay))
  | ui =>
    if s.reading.isSome then none
    else
      match ui with
      | .arm i allocates => some ({ s with app := s.app.armSnapshot i allocates }, .silent)
      | .reset i => some ({ s with app := s.app.resetSnapshot i }, .silent)
      | .pending i filling =>
        some ({ s with
          app := s.app.modifySlot i fun slot => { slot with snapshotPending := filling } }, .silent)
      | .stop i => some ({ s with app := s.app.disconnect i }, .silent)
      | .connect i session armed => some ({ s with app := s.app.reconnect i session armed }, .silent)
      | .publish target => some ({ s with app := s.app.publishOwner target }, .silent)
      | .select target =>
        some ({ s with app := { s.app with rgba := none, activeIndex := target } }, .silent)
      | .replay target now envs =>
        if s.app.activeIndex ≠ target ∨ (s.app.sessions target).rdp = none then none
        else
          let r := s.app.snapshotReplay scan target now envs
          some ({ app := r.1, reading := some (target, r.2) }, .replay r.2)
      | _ => none

/-- Every interleaving of the workers with the UI thread. -/
def videoMachine (scan : Scanner) : Machine ReplayState VideoAction VideoNote where
  init := {}
  step := videoStep scan

/-- The units that a stretch of a run brought for a slot, in order. -/
def arrivals (i : SlotIndex) (tr : List VideoEvent) : List AccessUnit :=
  tr.filterMap fun x =>
    match x.1 with
    | .videoAu j _ au _ => if j = i then some au else none
    | _ => none

/-- The units among the outcomes that went to the decoder, in order. -/
def fedUnits (outcomes : List Ingest) : List AccessUnit :=
  outcomes.filterMap fun
    | .fed au _ => some au
    | _ => none

/-- Nothing of the slot went anywhere but into its cache. -/
def HeldBack (i : SlotIndex) (tr : List VideoEvent) : Prop :=
  ∀ x ∈ tr, ∀ codec au env, x.1 = .videoAu i codec au env → x.2 = .ingest .cached

section Unlocked

/-- What a callback without the video lock leaves alone. -/
structure Undisturbed (a a' : App) : Prop where
  slot : ∀ j, (a'.sessions j).snapshot = (a.sessions j).snapshot ∧
    (a'.sessions j).videoOkFrames = (a.sessions j).videoOkFrames ∧
    (a'.sessions j).rdp = (a.sessions j).rdp ∧
    (a'.sessions j).connectEpoch = (a.sessions j).connectEpoch ∧
    (a'.sessions j).videoCodec = (a.sessions j).videoCodec
  activeIndex : a'.activeIndex = a.activeIndex
  video : a'.video = a.video
  rgba : a'.rgba = a.rgba
  reported : ∀ j, a.Reported j → a'.Reported j
  failed : ∀ j, (a.sessions j).sessionFailed → (a'.sessions j).sessionFailed
  running : a'.running → a.running

theorem Undisturbed.refl (a : App) : Undisturbed a a :=
  ⟨fun _ => ⟨rfl, rfl, rfl, rfl, rfl⟩, rfl, rfl, rfl, fun _ => id, fun _ => id, id⟩

theorem Undisturbed.trans {a b c : App} (h : Undisturbed a b) (h' : Undisturbed b c) :
    Undisturbed a c where
  slot j := by
    obtain ⟨h1, h2, h3, h4, h5⟩ := h.slot j
    obtain ⟨g1, g2, g3, g4, g5⟩ := h'.slot j
    exact ⟨g1.trans h1, g2.trans h2, g3.trans h3, g4.trans h4, g5.trans h5⟩
  activeIndex := h'.activeIndex.trans h.activeIndex
  video := h'.video.trans h.video
  rgba := h'.rgba.trans h.rgba
  reported j hr := h'.reported j (h.reported j hr)
  failed j hf := h'.failed j (h.failed j hf)
  running hr := h.running (h'.running hr)

theorem undisturbed_reportTerminal (a : App) (i : SlotIndex) (state : RdpState) :
    Undisturbed a (a.reportTerminal i state) := by
  have hpresented := App.presented_reportTerminal a i state
  have hkept := App.reportTerminal_kept a i state
  refine ⟨fun j => ?_, hpresented.activeIndex, hkept.1, hkept.2.1, hpresented.tookIn.reported,
    fun j hf => ?_, hpresented.running⟩
  · by_cases hj : j = i
    · subst hj
      exact ⟨hpresented.snapshot j, hkept.2.2.1, hpresented.rdp, hpresented.connectEpoch,
        hpresented.videoCodec⟩
    · rw [hpresented.others j hj]
      exact ⟨rfl, rfl, rfl, rfl, rfl⟩
  · by_cases hj : j = i
    · subst hj
      exact hpresented.failed hf
    · rw [hpresented.others j hj]
      exact hf

theorem undisturbed_modifySlot (a : App) (i : SlotIndex) (f : Slot → Slot)
    (hslot : (f (a.sessions i)).snapshot = (a.sessions i).snapshot ∧
      (f (a.sessions i)).videoOkFrames = (a.sessions i).videoOkFrames ∧
      (f (a.sessions i)).rdp = (a.sessions i).rdp ∧
      (f (a.sessions i)).connectEpoch = (a.sessions i).connectEpoch ∧
      (f (a.sessions i)).videoCodec = (a.sessions i).videoCodec)
    (hterminal : (f (a.sessions i)).terminalState = (a.sessions i).terminalState)
    (hfailed : (f (a.sessions i)).sessionFailed = (a.sessions i).sessionFailed) :
    Undisturbed a (a.modifySlot i f) := by
  have htook := App.tookIn_modifySlot a i f hslot.2.2.1 hslot.2.2.2.1 hslot.2.2.2.2 hterminal hfailed
  refine ⟨fun j => ?_, rfl, rfl, rfl, htook.reported, fun j hf => ?_, id⟩
  · by_cases hj : j = i
    · rw [hj, App.modifySlot_same]
      exact hslot
    · rw [App.modifySlot_other _ _ _ hj]
      exact ⟨rfl, rfl, rfl, rfl, rfl⟩
  · by_cases hj : j = i
    · rw [hj, App.modifySlot_same, hfailed]
      exact hj ▸ hf
    · rw [App.modifySlot_other _ _ _ hj]
      exact hf

theorem unlocked_undisturbed (a : App) (callback : UnlockedCallback) :
    Undisturbed a (a.unlocked callback) := by
  cases callback with
  | state i state =>
    show Undisturbed a (a.recordState i state)
    have hstate := undisturbed_modifySlot a i (fun s => { s with currentState := state })
      ⟨rfl, rfl, rfl, rfl, rfl⟩ rfl rfl
    unfold App.recordState
    split
    · exact .refl a
    · simp only
      split
      · exact hstate.trans (undisturbed_reportTerminal _ i state)
      · exact hstate
  | desktopSize i width height =>
    exact undisturbed_modifySlot a i
      (fun s => { s with desktopWidth := width, desktopHeight := height })
      ⟨rfl, rfl, rfl, rfl, rfl⟩ rfl rfl
  | stop =>
    exact ⟨fun _ => ⟨rfl, rfl, rfl, rfl, rfl⟩, rfl, rfl, rfl, fun _ _ _ => .inr rfl,
      fun _ => id, fun h => by cases h⟩

theorem unlocked_foldl (a : App) (callbacks : List UnlockedCallback) :
    Undisturbed a (callbacks.foldl App.unlocked a) := by
  induction callbacks generalizing a with
  | nil => exact .refl a
  | cons callback callbacks ih => exact (unlocked_undisturbed a callback).trans (ih _)

end Unlocked

section Screen

variable {a b : App} {i j : SlotIndex} {au : AccessUnit} {env : FeedEnv}

/-- The slot is on screen with nothing between its units and the decoder. -/
structure HoldsScreen (a : App) (i : SlotIndex) : Prop where
  active : a.activeIndex = i
  unarmed : (a.sessions i).snapshot.armed = false
  canvas : a.rgba = none
  decoder : ∀ d, a.video = some d → d.owner = i ∧ d.epoch = (a.sessions i).connectEpoch

/-- The decoder shows the codec the slot is in. -/
def ShowsCodec (a : App) (i : SlotIndex) : Prop :=
  ∀ d, a.video = some d → d.codec = (a.sessions i).videoCodec

/-- The slot has failed, or the application is stopping. -/
def Ended (a : App) (i : SlotIndex) : Prop := (a.sessions i).sessionFailed ∨ a.running = false

theorem Undisturbed.holdsScreen (h : Undisturbed a b) (hs : HoldsScreen a i) : HoldsScreen b i where
  active := h.activeIndex.trans hs.active
  unarmed := by rw [(h.slot i).1]; exact hs.unarmed
  canvas := h.rgba.trans hs.canvas
  decoder d hd := by
    rw [(h.slot i).2.2.2.1]
    exact hs.decoder d (h.video ▸ hd)

theorem Undisturbed.showsCodec (h : Undisturbed a b) (hs : ShowsCodec a i) : ShowsCodec b i := by
  intro d hd
  rw [(h.slot i).2.2.2.2]
  exact hs d (h.video ▸ hd)

theorem Undisturbed.ended (h : Undisturbed a b) (he : Ended a i) : Ended b i := by
  rcases he with hfailed | hstopped
  · exact .inl (h.failed i hfailed)
  · refine .inr (Bool.eq_false_iff.mpr fun hrun => ?_)
    rw [h.running hrun] at hstopped
    cases hstopped

/-- A decoder seed takes the screen, unless the graphics path or the platform refuses. -/
theorem ingest_seed (env : FeedEnv) (hactive : a.activeIndex = i) (hunarmed : (a.sessions i).snapshot.armed = false)
    (hreported : a.Reported i) (hdata : au.data ≠ [])
    (hseed : (scan (a.sessions i).videoCodec au.data).valid ∧
      (scan (a.sessions i).videoCodec au.data).canSeedDecoder) :
    ((a.ingestAuLocked scan i au env).2 = .fed au env.result ∧
      HoldsScreen (a.ingestAuLocked scan i au env).1 i ∧
      ShowsCodec (a.ingestAuLocked scan i au env).1 i) ∨
    (fedUnits [(a.ingestAuLocked scan i au env).2] = [] ∧
      Ended (a.ingestAuLocked scan i au env).1 i) := by
  obtain ⟨htook, hstep⟩ := App.ingestAuLocked_cases scan a i au env
  generalize (a.ingestAuLocked scan i au env).1 = a' at htook hstep ⊢
  generalize (a.ingestAuLocked scan i au env).2 = o at hstep ⊢
  cases hstep with
  | cached harmed => rw [hunarmed] at harmed; cases harmed
  | background _ hback => exact absurd hactive hback
  | empty _ _ hempty => exact absurd hempty hdata
  | presented _ b _ _ _ hsnapshot hnoted hscreen hframes hpresent =>
    rw [hseed.1, hseed.2] at hpresent
    cases hpresent with
    | pathBlocked _ hended => exact .inr ⟨rfl, hended (hnoted.reported i hreported)⟩
    | waitsKeyframe _ _ hdelta => cases hdelta
    | noDecoder _ hended => exact .inr ⟨rfl, hended (hnoted.reported i hreported)⟩
    | fed d hvideo howner hepoch hcodec hcanvas =>
      refine .inl ⟨rfl, ⟨htook.activeIndex.trans hactive, by rw [hsnapshot]; exact hunarmed,
        hcanvas, fun e he => ?_⟩, fun e he => ?_⟩
      · obtain rfl := Option.some.inj (hvideo.symm.trans he)
        rw [htook.connectEpoch, ← hnoted.connectEpoch]
        exact ⟨howner, hepoch⟩
      · obtain rfl := Option.some.inj (hvideo.symm.trans he)
        rw [htook.videoCodec, ← hnoted.videoCodec]
        exact hcodec

/-- A unit of the slot on screen goes to the decoder, or there is a reason. -/
theorem ingest_screen (scan : Scanner) (au : AccessUnit) (env : FeedEnv) (h : HoldsScreen a i) :
    HoldsScreen (a.ingestAuLocked scan i au env).1 i ∧
      ((a.ingestAuLocked scan i au env).2 = .fed au env.result ∧
          ShowsCodec (a.ingestAuLocked scan i au env).1 i ∨
        (a.ingestAuLocked scan i au env).2 = .empty ∧ au.data = [] ∨
        (a.ingestAuLocked scan i au env).2 = .noDecoder ∧
          (env.mediaOpens = false ∨ env.videoOpens = false) ∧
          (a.Reported i → Ended (a.ingestAuLocked scan i au env).1 i) ∨
        ∃ d, a.video = some d ∧ d.codec ≠ (a.sessions i).videoCodec ∧
          (a.ingestAuLocked scan i au env).2 = .waitsKeyframe d.codec ∧
          ((scan (a.sessions i).videoCodec au.data).valid &&
            (scan (a.sessions i).videoCodec au.data).canSeedDecoder) = false) := by
  obtain ⟨htook, hstep⟩ := App.ingestAuLocked_cases scan a i au env
  generalize (a.ingestAuLocked scan i au env).1 = a' at htook hstep ⊢
  generalize (a.ingestAuLocked scan i au env).2 = o at hstep ⊢
  have hactive := htook.activeIndex.trans h.active
  cases hstep with
  | cached harmed => rw [h.unarmed] at harmed; cases harmed
  | background _ hback => exact absurd h.active hback
  | empty _ _ hempty hsnapshot hscreen =>
    refine ⟨⟨hactive, by rw [hsnapshot]; exact h.unarmed, hscreen.2.trans h.canvas, fun d hd => ?_⟩,
      .inr (.inl ⟨rfl, hempty⟩)⟩
    rw [htook.connectEpoch]
    exact h.decoder d (hscreen.1 ▸ hd)
  | presented _ b _ _ _ hsnapshot hnoted hscreen hframes hpresent =>
    have hunarmed : (a'.sessions i).snapshot.armed = false := by
      rw [hsnapshot]
      exact h.unarmed
    cases hpresent with
    | pathBlocked hcanvas =>
      rw [hscreen.2, h.canvas] at hcanvas
      cases hcanvas
    | waitsKeyframe d hvideo hdelta howns hkept hcanvas =>
      rw [hscreen.1] at hvideo hkept
      obtain ⟨howner, hepoch⟩ := h.decoder d hvideo
      refine ⟨⟨hactive, hunarmed, hcanvas, fun e he => ?_⟩,
        .inr (.inr (.inr ⟨d, hvideo, fun hcodec => ?_, rfl, hdelta⟩))⟩
      · rw [htook.connectEpoch]
        exact h.decoder e (hkept ▸ he)
      · have hmine : b.ownsDecoder i d = true := by
          simp only [App.ownsDecoder, hnoted.connectEpoch, hnoted.videoCodec, howner, hepoch, hcodec,
            decide_true, Bool.and_self]
        rw [hmine] at howns
        cases howns
    | noDecoder hopen hended hvideo hcanvas =>
      refine ⟨⟨hactive, hunarmed, hcanvas, fun e he => ?_⟩,
        .inr (.inr (.inl ⟨rfl, hopen, fun hr => hended (hnoted.reported i hr)⟩))⟩
      rw [hvideo] at he
      cases he
    | fed d hvideo howner hepoch hcodec hcanvas =>
      refine ⟨⟨hactive, hunarmed, hcanvas, fun e he => ?_⟩, .inl ⟨rfl, fun e he => ?_⟩⟩
      · obtain rfl := Option.some.inj (hvideo.symm.trans he)
        rw [htook.connectEpoch, ← hnoted.connectEpoch]
        exact ⟨howner, hepoch⟩
      · obtain rfl := Option.some.inj (hvideo.symm.trans he)
        rw [htook.videoCodec, ← hnoted.videoCodec]
        exact hcodec

/-- Units of other slots do not come near the screen. -/
theorem ingest_other (scan : Scanner) (au : AccessUnit) (env : FeedEnv) (h : HoldsScreen a i)
    (hj : j ≠ i) :
    HoldsScreen (a.ingestAuLocked scan j au env).1 i ∧
      fedUnits [(a.ingestAuLocked scan j au env).2] = [] := by
  obtain ⟨htook, hstep⟩ := App.ingestAuLocked_cases scan a j au env
  generalize (a.ingestAuLocked scan j au env).1 = a' at htook hstep ⊢
  generalize (a.ingestAuLocked scan j au env).2 = o at hstep ⊢
  have hslot := htook.others i (Ne.symm hj)
  have hback : a.activeIndex ≠ j := by
    rw [h.active]
    exact Ne.symm hj
  have hscreen : (a'.video = a.video ∧ a'.rgba = a.rgba) ∧ fedUnits [o] = [] := by
    cases hstep with
    | cached _ _ hscreen => exact ⟨hscreen, rfl⟩
    | background _ _ _ hscreen => exact ⟨hscreen, rfl⟩
    | empty _ hactive => exact absurd hactive hback
    | presented _ _ _ hactive => exact absurd hactive hback
  refine ⟨⟨htook.activeIndex.trans h.active, by rw [hslot]; exact h.unarmed,
    hscreen.1.2.trans h.canvas, fun d hd => ?_⟩, hscreen.2⟩
  rw [hslot]
  exact h.decoder d (hscreen.1.1 ▸ hd)

end Screen

section Chain

variable {a : App} {i : SlotIndex}

theorem fedUnits_cons (o : Ingest) (outcomes : List Ingest) :
    fedUnits (o :: outcomes) = fedUnits [o] ++ fedUnits outcomes := by
  cases o <;> rfl

theorem replayUnits_cons (a : App) (i : SlotIndex) (au : AccessUnit) (rest : List AccessUnit)
    (envs : List ReplayEnv) :
    a.replayUnits scan i (au :: rest) envs =
      let r := a.ingestAuLocked scan i au (envs.headD {}).feed
      let b := (envs.headD {}).meanwhile.foldl App.unlocked r.1
      if !b.running || (b.sessions i).sessionFailed then (b, [r.2])
      else ((b.replayUnits scan i rest envs.tail).1,
        r.2 :: (b.replayUnits scan i rest envs.tail).2) := by
  rw [App.replayUnits]

/-- What became of the first unit of a replay, and what of the rest. -/
theorem replayUnits_split (scan : Scanner) (a : App) (i : SlotIndex) (au : AccessUnit) (rest : List AccessUnit)
    (envs : List ReplayEnv) :
    ∃ b, Undisturbed (a.ingestAuLocked scan i au (envs.headD {}).feed).1 b ∧
      ((Ended b i ∧ a.replayUnits scan i (au :: rest) envs =
          (b, [(a.ingestAuLocked scan i au (envs.headD {}).feed).2])) ∨
        (¬Ended b i ∧ a.replayUnits scan i (au :: rest) envs =
          ((b.replayUnits scan i rest envs.tail).1,
            (a.ingestAuLocked scan i au (envs.headD {}).feed).2 ::
              (b.replayUnits scan i rest envs.tail).2))) := by
  rw [replayUnits_cons]
  simp only
  have hmeanwhile := unlocked_foldl (a.ingestAuLocked scan i au (envs.headD {}).feed).1
    (envs.headD {}).meanwhile
  generalize (envs.headD {}).meanwhile.foldl App.unlocked
    (a.ingestAuLocked scan i au (envs.headD {}).feed).1 = b at hmeanwhile ⊢
  refine ⟨b, hmeanwhile, ?_⟩
  by_cases hended : !b.running || (b.sessions i).sessionFailed
  · rw [if_pos hended]
    refine .inl ⟨?_, rfl⟩
    rcases (Bool.or_eq_true _ _).mp hended with hstopped | hfailed
    · exact .inr (by simpa using hstopped)
    · exact .inl hfailed
  · rw [if_neg hended]
    refine .inr ⟨fun h => hended ?_, rfl⟩
    rcases h with hfailed | hstopped
    · rw [hfailed, Bool.or_true]
    · rw [hstopped]
      rfl

/-- A chain behind its seed goes to the decoder in order, up to the slot's end. -/
theorem replayUnits_screen (scan : Scanner) (rest : List AccessUnit) (envs : List ReplayEnv)
    (h : HoldsScreen a i) (hcodec : ShowsCodec a i) (hreported : a.Reported i)
    (hdata : ∀ au ∈ rest, au.data ≠ []) :
    HoldsScreen (a.replayUnits scan i rest envs).1 i ∧
      fedUnits (a.replayUnits scan i rest envs).2 <+: rest ∧
      (fedUnits (a.replayUnits scan i rest envs).2 = rest ∨
        Ended (a.replayUnits scan i rest envs).1 i) := by
  induction rest generalizing a envs with
  | nil => exact ⟨h, List.prefix_rfl, .inl rfl⟩
  | cons au rest ih =>
    obtain ⟨hscreen, hout⟩ := ingest_screen scan au (envs.headD {}).feed h
    have htook := (App.ingestAuLocked_cases scan a i au (envs.headD {}).feed).1
    have hreported' := htook.reported i hreported
    obtain ⟨b, hmeanwhile, hsplit⟩ := replayUnits_split scan a i au rest envs
    generalize (a.ingestAuLocked scan i au (envs.headD {}).feed).1 = a' at *
    generalize (a.ingestAuLocked scan i au (envs.headD {}).feed).2 = o at *
    have hscreen_b := hmeanwhile.holdsScreen hscreen
    rcases hout with ⟨rfl, hshown⟩ | ⟨-, hempty⟩ | ⟨rfl, -, hstop⟩ | ⟨d, hd, hne, -⟩
    · rcases hsplit with ⟨hended, heq⟩ | ⟨-, heq⟩
      · rw [heq]
        exact ⟨hscreen_b, ⟨rest, rfl⟩, .inr hended⟩
      · obtain ⟨hlast, hfront, hwhole⟩ := ih envs.tail hscreen_b (hmeanwhile.showsCodec hshown)
          (hmeanwhile.reported i hreported') fun x hx => hdata x (List.mem_cons_of_mem _ hx)
        rw [heq]
        simp only
        rw [fedUnits_cons]
        refine ⟨hlast, (List.prefix_cons_inj au).mpr hfront, ?_⟩
        rcases hwhole with hall | hended
        · exact .inl (by rw [hall]; rfl)
        · exact .inr hended
    · exact absurd hempty (hdata au List.mem_cons_self)
    · rcases hsplit with ⟨hended, heq⟩ | ⟨hgoes, -⟩
      · rw [heq]
        exact ⟨hscreen_b, List.nil_prefix, .inr hended⟩
      · exact absurd (hmeanwhile.ended (hstop hreported)) hgoes
    · exact absurd (hcodec d hd) hne

/-- A replayed chain that begins with a seed: either it is fed from its first unit on
and the slot keeps the screen, or the slot has come to its end. -/
theorem replayUnits_chain (seed : AccessUnit) (rest : List AccessUnit) (envs : List ReplayEnv)
    (hactive : a.activeIndex = i) (hunarmed : (a.sessions i).snapshot.armed = false)
    (hreported : a.Reported i)
    (hseed : (scan (a.sessions i).videoCodec seed.data).valid ∧
      (scan (a.sessions i).videoCodec seed.data).canSeedDecoder)
    (hdata : ∀ au ∈ seed :: rest, au.data ≠ []) :
    fedUnits (a.replayUnits scan i (seed :: rest) envs).2 <+: seed :: rest ∧
      (Ended (a.replayUnits scan i (seed :: rest) envs).1 i ∨
        (fedUnits (a.replayUnits scan i (seed :: rest) envs).2 = seed :: rest ∧
          HoldsScreen (a.replayUnits scan i (seed :: rest) envs).1 i)) := by
  have hfirst := ingest_seed (envs.headD {}).feed hactive hunarmed hreported
    (hdata seed List.mem_cons_self) hseed
  have htook := (App.ingestAuLocked_cases scan a i seed (envs.headD {}).feed).1
  have hreported' := htook.reported i hreported
  obtain ⟨b, hmeanwhile, hsplit⟩ := replayUnits_split scan a i seed rest envs
  generalize (a.ingestAuLocked scan i seed (envs.headD {}).feed).1 = a' at *
  generalize (a.ingestAuLocked scan i seed (envs.headD {}).feed).2 = o at *
  rcases hfirst with ⟨rfl, hscreen, hshown⟩ | ⟨hnothing, hended⟩
  · rcases hsplit with ⟨hended, heq⟩ | ⟨-, heq⟩
    · rw [heq]
      exact ⟨⟨rest, rfl⟩, .inl hended⟩
    · obtain ⟨hlast, hfront, hwhole⟩ := replayUnits_screen scan rest envs.tail
        (hmeanwhile.holdsScreen hscreen) (hmeanwhile.showsCodec hshown)
        (hmeanwhile.reported i hreported') fun x hx => hdata x (List.mem_cons_of_mem _ hx)
      rw [heq]
      simp only
      rw [fedUnits_cons]
      refine ⟨(List.prefix_cons_inj seed).mpr hfront, ?_⟩
      rcases hwhole with hall | hended
      · exact .inr ⟨by rw [hall]; rfl, hlast⟩
      · exact .inl hended
  · have hended_b := hmeanwhile.ended hended
    rcases hsplit with ⟨-, heq⟩ | ⟨hgoes, -⟩
    · rw [heq]
      refine ⟨?_, .inl hended_b⟩
      rw [hnothing]
      exact List.nil_prefix
    · exact absurd hended_b hgoes

end Chain

end Lgnome.Native
