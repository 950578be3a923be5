import Lgnome.Native.Annexb
import Lgnome.Native.Feed
import Lgnome.Transition.Log

/-!
# Whose keyframe the decoder goes by

The shared decoder passes from stream to stream, in band where size and codec
allow it. A unit that is no seed means something only behind a seed of its own
stream. The backend may turn down the very seed that a stream takes the decoder
over with; but for that, every unit it accepts has its seed before it.
-/
namespace Lgnome.Native

open Lgnome.Transition

/-- The stream's seed was accepted, and nothing of another stream since. -/
def SeededBy (log : List Accepted) (stream : Stream) : Prop :=
  ∃ before after, log = before ++ { stream, seed := true } :: after ∧ ∀ x ∈ after, x.stream = stream

/-- A unit that is no seed comes behind one of its own stream. -/
def SeedFirst (before : List Accepted) (x : Accepted) : Prop :=
  x.seed = false → SeededBy before x.stream

/-- What the backend accepted in the course of a run. -/
def acceptedUnits (tr : List (FeedAction × Option Accepted)) : List Accepted :=
  tr.filterMap Prod.snd

/-- The seed with which a stream takes over a decoder at work is turned down, and the
decoder is the stream's all the same. -/
def FeedState.losesSeed (scan : Scanner) (s : FeedState) (action : FeedAction) : Bool :=
  match s.incoming action with
  | none => false
  | some u =>
    let info := scan (u.app.sessions u.slot).videoCodec u.au.data
    u.app.reachesDecoder u.slot u.au && u.app.takesOver u.slot &&
      (info.valid && info.canSeedDecoder) && s.track.live &&
      u.au.data.length ≤ maxAuBytes && u.answers.reserves &&
      (u.answers.backend = .needKeyframe || u.answers.backend = .notReady)

theorem seededBy_seed (log : List Accepted) (stream : Stream) :
    SeededBy (log ++ [{ stream, seed := true }]) stream :=
  ⟨log, [], rfl, by simp⟩

theorem SeededBy.snoc {log : List Accepted} {x : Accepted} (h : SeededBy log x.stream) :
    SeededBy (log ++ [x]) x.stream := by
  obtain ⟨before, after, hlog, hafter⟩ := h
  refine ⟨before, after ++ [x], by rw [hlog]; simp, fun y hy => ?_⟩
  rcases List.mem_append.mp hy with hy | hy
  · exact hafter y hy
  · rw [List.mem_singleton.mp hy]

section Track

variable {t : Track} {info : AuInfo} {data : Bytes} {answers : FeedAnswers}

/-- A unit that is no seed is accepted by a backend at work only. -/
theorem Track.feed_delta (hok : (t.feed info data answers).2 = .ok)
    (hdelta : info.canSeedDecoder = false) (hfresh : (t.feed info data answers).1.fresh = false) :
    t.live := by
  unfold Track.feed at hok hfresh
  split_ifs at hok hfresh with hempty hterminal hlong hbad
  unfold Track.feedBackend at hok hfresh
  by_cases hopened : t.video.videoOpened
  · rw [if_pos hopened] at hok hfresh
    cases hbackend : answers.backend <;> rw [hbackend] at hok hfresh <;> try cases hok
    simp only [Track.feedOpened, hdelta, Bool.not_false, Bool.and_true] at hfresh
    simp [Track.live, hopened, hterminal, hfresh]
  · rw [if_neg hopened, hdelta] at hok
    cases hok

/-- Behind a unit that was not accepted the backend is at work only if it was before,
and the answer was one that leaves it so. -/
theorem Track.feed_refused (hdata : data ≠ []) (hlive : (t.feed info data answers).1.live)
    (hrefused : (t.feed info data answers).2 ≠ .ok) :
    t.live ∧ data.length ≤ maxAuBytes ∧ answers.reserves ∧
      (answers.backend = .needKeyframe ∨ answers.backend = .notReady) := by
  unfold Track.feed at hlive hrefused
  rw [if_neg hdata] at hlive hrefused
  split_ifs at hlive hrefused with hterminal hlong hbad
  · simp [Track.live, hterminal] at hlive
  · simp [Track.live, Track.fail] at hlive
  · simp [Track.live, Track.fail] at hlive
  · have hreserves : answers.reserves = true := by
      cases hr : answers.reserves with
      | true => rfl
      | false => simp [hr] at hbad
    have hcases : t.live ∧ (answers.backend = .needKeyframe ∨ answers.backend = .notReady) := by
      unfold Track.feedBackend at hlive hrefused
      by_cases hopened : t.video.videoOpened
      · rw [if_pos hopened] at hlive hrefused
        cases hbackend : answers.backend <;> rw [hbackend] at hlive hrefused
        · exact absurd rfl hrefused
        · exact ⟨hlive, .inl rfl⟩
        · exact ⟨hlive, .inr rfl⟩
        · simp [Track.feedOpened, Track.live, Track.fail] at hlive
      · rw [if_neg hopened] at hlive hrefused
        split_ifs at hlive hrefused with hseed
        · simp [Track.live, hopened] at hlive
        · cases hopens : answers.opens <;> rw [hopens] at hlive hrefused
          · cases hbackend : answers.backend <;> rw [hbackend] at hlive hrefused
            · exact absurd rfl hrefused
            all_goals simp [Track.feedOpened, Track.live, Track.fail] at hlive
          all_goals simp [Track.live, Track.fail] at hlive
    exact ⟨hcases.1, Nat.le_of_not_lt hlong, hreserves, hcases.2⟩

end Track

namespace App

variable (scan : Scanner) (a : App) (t : Track) (i : SlotIndex) (au : AccessUnit) (env : FeedEnv)
  (answers : FeedAnswers)

theorem presentFed_app (info : AuInfo) : ∃ result,
    a.presentAu i au (info.valid && info.canSeedDecoder) { env with result } =
      ((a.presentFed t i au info env answers).app, (a.presentFed t i au info env answers).outcome) := by
  unfold presentAu presentFed
  rcases a.yieldCanvas i with ⟨b, _ | _⟩
  · simp only
    rcases b.claimDecoder i (info.valid && info.canSeedDecoder) with ⟨c, _ | shown⟩
    · simp only
      have hopen : ∀ result, (c.dropResized i).openDecoder i { env with result } =
          (c.dropResized i).openDecoder i env := fun _ => rfl
      by_cases hvideo : ((c.dropResized i).openDecoder i env).video.isSome
      · simp only [hopen, if_pos hvideo]
        exact ⟨_, rfl⟩
      · simp only [hopen, if_neg hvideo]
        exact ⟨env.result, trivial⟩
    · exact ⟨env.result, rfl⟩
  · exact ⟨env.result, rfl⟩

/-- The app side of a unit is what the routing does with the decoder's answer. -/
theorem ingestFed_app : ∃ result,
    (a.ingestAuLocked scan i au { env with result }) =
      ((a.ingestFed scan t i au env answers).app, (a.ingestFed scan t i au env answers).outcome) := by
  unfold ingestFed ingestAuLocked
  simp only
  generalize a.noteVideoStream i (scan (a.sessions i).videoCodec au.data).valid env.seenMs = b
  by_cases harmed : (b.sessions i).snapshot.armed
  · exact ⟨env.result, by simp [harmed]⟩
  by_cases hactive : b.activeIndex = i
  · by_cases hdata : au.data.isEmpty
    · exact ⟨env.result, by simp [harmed, hactive, hdata]⟩
    · simp only [harmed, hactive, hdata, ne_eq, not_true_eq_false, if_false]
      exact presentFed_app ..
  · exact ⟨env.result, by simp [harmed, hactive]⟩

/-- Another app shows the slot the same stream and the same decoder. -/
structure SameRoute (a b : App) (i : SlotIndex) : Prop where
  video : b.video = a.video
  epoch : (b.sessions i).connectEpoch = (a.sessions i).connectEpoch
  codec : (b.sessions i).videoCodec = (a.sessions i).videoCodec
  width : (b.sessions i).desktopWidth = (a.sessions i).desktopWidth
  height : (b.sessions i).desktopHeight = (a.sessions i).desktopHeight

variable {scan a t i au env answers} {b c : App}

theorem SameRoute.stream (h : SameRoute a b i) : b.stream i = a.stream i := by
  simp only [App.stream, h.epoch, h.codec]

theorem SameRoute.takesOver (h : SameRoute a b i) : b.takesOver i = a.takesOver i := by
  simp only [App.takesOver, ownsDecoder, sameSize, h.video, h.epoch, h.codec, h.width, h.height]

theorem Presented.sameRoute (h : Presented i a b) (hvideo : b.video = a.video) :
    SameRoute a b i := by
  refine ⟨hvideo, ?_, ?_, ?_, ?_⟩
  all_goals rw [h.slot]

theorem noteVideoStream_sameRoute (valid : Bool) (now : UInt32) :
    SameRoute a (a.noteVideoStream i valid now) i := by
  obtain ⟨_, _, _, hslot⟩ := noteVideoStream_slot a i valid now
  exact ⟨rfl, by rw [hslot], by rw [hslot], by rw [hslot], by rw [hslot]⟩

theorem yieldCanvas_blocked : (a.yieldCanvas i).2 =
    (a.rgbaOwnerMatches i (a.sessions i).connectEpoch &&
      decide (4 ≤ (a.sessions i).graphicsPathSwitches)) := by
  unfold yieldCanvas
  by_cases hcanvas : a.rgba.isSome
  · rw [if_pos hcanvas]
    simp only
    cases howner : a.rgbaOwnerMatches i (a.sessions i).connectEpoch with
    | false => rfl
    | true =>
      simp only [if_true, noteGraphicsPathSwitch, modifySlot_same, Bool.true_and]
      split
      · rename_i hfew
        exact (decide_eq_false (by omega)).symm
      · rename_i hmany
        exact (decide_eq_true (by omega)).symm
  · have hnone : a.rgbaOwnerMatches i (a.sessions i).connectEpoch = false := by
      cases hrgba : a.rgba with
      | none => simp [rgbaOwnerMatches, hrgba]
      | some o => simp [hrgba] at hcanvas
    rw [if_neg hcanvas, hnone, Bool.false_and]

theorem claimDecoder_stream {decoderSeed : Bool} (h : a.claimDecoder i decoderSeed = (c, none)) :
    c.sessions = a.sessions ∧ (c.video = none ∨ ∃ d, c.video = some d ∧ d.stream = a.stream i ∧
      (a.video = some d ∨ (decoderSeed ∧ a.takesOver i))) := by
  unfold claimDecoder at h
  cases hvideo : a.video with
  | none =>
    simp only [hvideo] at h
    cases h
    exact ⟨rfl, .inl hvideo⟩
  | some d =>
    simp only [hvideo] at h
    by_cases howns : a.ownsDecoder i d
    · rw [if_pos howns] at h
      cases h
      refine ⟨rfl, .inr ⟨d, hvideo, ?_, .inl rfl⟩⟩
      simp only [ownsDecoder, Bool.and_eq_true, decide_eq_true_eq] at howns
      simp only [Decoder.stream, App.stream, howns]
    · rw [if_neg howns] at h
      cases decoderSeed with
      | false => simp at h
      | true =>
        simp only [Bool.not_true, Bool.false_eq_true, if_false] at h
        split at h
        · rename_i hband
          cases h
          refine ⟨rfl, .inr ⟨_, rfl, ?_, .inr ⟨rfl, ?_⟩⟩⟩
          · simp only [Decoder.stream, App.stream, hband.2]
          · simp only [takesOver, hvideo, hband.1, hband.2]
            simpa using howns
        · cases h
          exact ⟨rfl, .inl rfl⟩

/-- What taking in a unit does to the decoder. -/
inductive FedStep (scan : Scanner) (a : App) (t : Track) (i : SlotIndex) (au : AccessUnit)
    (answers : FeedAnswers) (r : Fed) : Prop
  | kept (haccepted : r.accepted = none) (hvideo : r.app.video = a.video) (htrack : r.track = t)
  | closed (haccepted : r.accepted = none) (hvideo : r.app.video = none)
  | fed (d : Decoder) (t₀ : Track) (info : AuInfo) (hdata : au.data ≠ [])
      (hinfo : info = scan (a.sessions i).videoCodec au.data)
      (hvideo : r.app.video = some d) (hstream : d.stream = a.stream i)
      (htrack : r.track = (t₀.feed info au.data answers).1)
      (haccepted : r.accepted =
        if (t₀.feed info au.data answers).2 = .ok then
          some { stream := a.stream i, seed := info.canSeedDecoder }
        else none)
      (horigin : t₀ = {} ∨ t₀ = t ∧ (a.video = some d ∨
        (info.valid && info.canSeedDecoder) ∧ a.takesOver i ∧ a.reachesDecoder i au))

/-- The decoder is fed with the track it has. -/
theorem feedTrack_step {info : AuInfo} {e : App} {d : Decoder} {t₀ : Track}
    (hinfo : info = scan (a.sessions i).videoCodec au.data) (hdata : au.data ≠ [])
    (hvideo : e.video = some d) (hstream : d.stream = a.stream i) (hsame : e.stream i = a.stream i)
    (horigin : t₀ = {} ∨ t₀ = t ∧ (a.video = some d ∨
      (info.valid && info.canSeedDecoder) ∧ a.takesOver i ∧ a.reachesDecoder i au)) :
    FedStep scan a t i au answers (e.feedTrack t₀ i au info env answers) := by
  refine .fed d t₀ info hdata hinfo ?_ hstream rfl ?_ horigin
  · exact (feedDecoder_kept e i _).1.trans hvideo
  · simp only [feedTrack, hsame]

theorem presentFed_cases {info : AuInfo} (hinfo : info = scan (a.sessions i).videoCodec au.data)
    (harmed : (a.sessions i).snapshot.armed = false) (hactive : a.activeIndex = i)
    (hdata : au.data ≠ []) :
    FedStep scan a t i au answers (a.presentFed t i au info env answers) := by
  have hblocked := yieldCanvas_blocked (a := a) (i := i)
  have hroute := (presented_yieldCanvas a i).sameRoute (yieldCanvas_cases a i).2.1
  unfold presentFed
  generalize a.yieldCanvas i = yielded at hblocked hroute ⊢
  rcases yielded with ⟨b, _ | _⟩
  · have hreaches : a.reachesDecoder i au := by
      simp only at hblocked
      simp only [reachesDecoder, harmed, hactive, ← hblocked]
      simpa using hdata
    simp only at hroute ⊢
    have hclaim := @claimDecoder_stream b i
    have hwaits := (claimDecoder_cases b i (info.valid && info.canSeedDecoder)).2.2
    generalize hclaimed : b.claimDecoder i (info.valid && info.canSeedDecoder) = claimed at hwaits ⊢
    rcases claimed with ⟨c, _ | shown⟩
    · obtain ⟨hsessions, hstream⟩ := hclaim hclaimed
      obtain ⟨-, hresized, hkept⟩ := dropResized_cases c i
      have hopened := openDecoder_cases (c.dropResized i) i env
      have hsame : ((c.dropResized i).openDecoder i env).stream i = a.stream i := by
        rw [← hroute.stream]
        simp only [App.stream, hopened.2.1, hresized, hsessions]
      simp only
      cases hvideo : (c.dropResized i).video with
      | none =>
        simp only [Option.isSome_none, Bool.false_eq_true, if_false]
        cases hopen : ((c.dropResized i).openDecoder i env).video with
        | none =>
          simp only [Option.isSome_none, Bool.false_eq_true, if_false]
          exact .closed rfl ((reportTerminal_kept _ i _).1.trans hopen)
        | some d =>
          have hnew := hopened.2.2
          rw [hopen, hvideo] at hnew
          simp only [Option.isSome_some, if_true]
          refine feedTrack_step hinfo hdata hopen ?_ hsame (.inl rfl)
          obtain hno | hnew := hnew
          · cases hno
          · rw [← hsame]
            simp only [Decoder.stream, App.stream, hnew, hopened.2.1]
      | some d =>
        have hcd := hkept d hvideo
        have hopen : (c.dropResized i).openDecoder i env = c.dropResized i := by
          simp [openDecoder, hvideo]
        rw [hopen] at hsame ⊢
        simp only [hvideo, Option.isSome_some, if_true]
        rcases hstream with hnone | ⟨d', hd', hstream, horigin⟩
        · rw [hcd] at hnone
          cases hnone
        · obtain rfl := Option.some.inj (hcd.symm.trans hd')
          refine feedTrack_step hinfo hdata hvideo (hstream.trans hroute.stream) hsame
            (.inr ⟨rfl, ?_⟩)
          rcases horigin with hown | ⟨hseed, hover⟩
          · exact .inl (hroute.video ▸ hown)
          · exact .inr ⟨hseed, hroute.takesOver ▸ hover, hreaches⟩
    · simp only at hwaits ⊢
      refine .kept rfl ?_ rfl
      simp only [hwaits.1, hroute.video]
  · exact .kept rfl hroute.video rfl

theorem FedStep.of_route {r : Fed} (h : FedStep scan b t i au answers r) (hroute : SameRoute a b i)
    (hreaches : b.reachesDecoder i au → a.reachesDecoder i au) :
    FedStep scan a t i au answers r := by
  cases h with
  | kept haccepted hvideo htrack => exact .kept haccepted (hvideo.trans hroute.video) htrack
  | closed haccepted hvideo => exact .closed haccepted hvideo
  | fed d t₀ info hdata hinfo hvideo hstream htrack haccepted horigin =>
    rw [hroute.codec] at hinfo
    rw [hroute.stream] at haccepted
    rw [hroute.video, hroute.takesOver] at horigin
    refine .fed d t₀ info hdata hinfo hvideo (hstream.trans hroute.stream) htrack haccepted ?_
    exact horigin.imp_right fun h => ⟨h.1, h.2.imp_right fun h => ⟨h.1, h.2.1, hreaches h.2.2⟩⟩

theorem ingestFed_cases :
    FedStep scan a t i au answers (a.ingestFed scan t i au env answers) := by
  have hroute : SameRoute a _ i :=
    noteVideoStream_sameRoute (scan (a.sessions i).videoCodec au.data).valid env.seenMs
  have hstep := (ingestAuLocked_cases scan a i au env).2
  have hreaches : (a.noteVideoStream i (scan (a.sessions i).videoCodec au.data).valid
      env.seenMs).reachesDecoder i au → a.reachesDecoder i au := by
    obtain ⟨_, _, _, hslot⟩ :=
      noteVideoStream_slot a i (scan (a.sessions i).videoCodec au.data).valid env.seenMs
    simp only [reachesDecoder, hslot]
    exact id
  have hsnapshot : ((a.noteVideoStream i (scan (a.sessions i).videoCodec au.data).valid
      env.seenMs).sessions i).snapshot = (a.sessions i).snapshot := by
    obtain ⟨_, _, _, hslot⟩ :=
      noteVideoStream_slot a i (scan (a.sessions i).videoCodec au.data).valid env.seenMs
    rw [hslot]
  have hactive : (a.noteVideoStream i (scan (a.sessions i).videoCodec au.data).valid
      env.seenMs).activeIndex = a.activeIndex := rfl
  unfold ingestFed
  simp only
  generalize a.noteVideoStream i (scan (a.sessions i).videoCodec au.data).valid env.seenMs = b
    at hroute hreaches hsnapshot hactive ⊢
  by_cases hquiet : (b.sessions i).snapshot.armed ∨ b.activeIndex ≠ i ∨ au.data.isEmpty
  · rw [if_pos hquiet]
    refine .kept rfl ?_ rfl
    rw [hsnapshot, hactive] at hquiet
    generalize (a.ingestAuLocked scan i au env) = r at hstep ⊢
    generalize houtcome : r.2 = outcome at hstep
    cases hstep with
    | cached _ _ hscreen => exact hscreen.1
    | background _ _ _ hscreen => exact hscreen.1
    | empty _ _ _ _ hscreen => exact hscreen.1
    | presented _ _ hunarmed hon hdata =>
      simp [hunarmed, hon, hdata] at hquiet
  · rw [if_neg hquiet]
    simp only [not_or, not_not, Bool.not_eq_true, List.isEmpty_eq_false_iff] at hquiet
    exact (presentFed_cases (by rw [hroute.codec]) hquiet.1 hquiet.2.1 hquiet.2.2).of_route hroute hreaches

end App

/-- A decoder at work goes by a seed of its own stream. -/
def Seeded (log : List Accepted) (s : FeedState) : Prop :=
  ∀ d, s.app.video = some d → s.track.live → SeededBy log d.stream

section Step

variable {scan : Scanner} {s s' : FeedState} {action : FeedAction} {accepted : Option Accepted}
  {log : List Accepted}

/-- The decoder may be closed, and the backend lose its keyframe. -/
theorem Seeded.weaken (h : Seeded log s) (hvideo : s'.app.video = none ∨ s'.app.video = s.app.video)
    (htrack : s'.track.live → s'.track = s.track) : Seeded log s' := by
  intro d hd hlive
  rcases hvideo with hnone | hsame
  · rw [hnone] at hd
    cases hd
  · exact h d (hsame ▸ hd) (htrack hlive ▸ hlive)

theorem foldl_unlocked_video (a : App) (callbacks : List UnlockedCallback) :
    (callbacks.foldl App.unlocked a).video = a.video := by
  induction callbacks generalizing a with
  | nil => rfl
  | cons callback rest ih =>
    rw [List.foldl_cons, ih]
    exact (unlocked_undisturbed a callback).video

theorem changeCodec_video (a : App) (i : SlotIndex) (codec : VideoCodec) (allocates : Bool) :
    (a.changeCodec i codec allocates).video = a.video := by
  unfold App.changeCodec
  split <;> rfl

theorem dropForeignCanvas_video (a : App) (i : SlotIndex) :
    (a.dropForeignCanvas i).video = a.video := by
  unfold App.dropForeignCanvas
  split <;> rfl

theorem openCanvas_video (a : App) (i : SlotIndex) (env : BitmapEnv) :
    (a.openCanvas i env).video = a.video := by
  unfold App.openCanvas
  split_ifs <;> rfl

theorem drawBitmap_video (a : App) (i : SlotIndex) (env : BitmapEnv) :
    (a.drawBitmap i env).1.video = a.video := by
  unfold App.drawBitmap
  split
  · rfl
  · exact (App.reportTerminal_kept ..).1

theorem noteGraphicsPathSwitch_video (a : App) (i : SlotIndex) :
    (a.noteGraphicsPathSwitch i).1.video = a.video := by
  unfold App.noteGraphicsPathSwitch
  simp only
  split
  · rfl
  · exact (App.reportTerminal_kept ..).1

theorem yieldDecoder_video (a : App) (i : SlotIndex) (now : UInt32) :
    (a.yieldDecoder i now).1.video = none ∨ (a.yieldDecoder i now).1.video = a.video := by
  unfold App.yieldDecoder
  cases hvideo : a.video with
  | none => exact .inl hvideo
  | some d =>
    simp only
    split
    · exact .inr hvideo
    · left
      split
      · have hswitch := noteGraphicsPathSwitch_video
          { a with video := none, decoderKeyframePending := false } i
        split <;> rename_i heq <;> rw [heq] at hswitch <;> exact hswitch
      · rfl

theorem bitmapUpdate_video (a : App) (i : SlotIndex) (empty : Bool) (env : BitmapEnv) :
    (a.bitmapUpdate i empty env).1.video = none ∨ (a.bitmapUpdate i empty env).1.video = a.video := by
  unfold App.bitmapUpdate
  simp only
  split
  · exact .inr rfl
  · split
    · exact .inr (App.reportTerminal_kept ..).1
    · have hyield := yieldDecoder_video
        ((a.modifySlot i fun s => { s with videoViaBitmap := true }).dropForeignCanvas i) i env.fedMs
      rw [dropForeignCanvas_video] at hyield
      split
      · rename_i heq
        rw [heq] at hyield
        exact hyield
      · rename_i heq
        rw [heq] at hyield
        rw [drawBitmap_video, openCanvas_video]
        exact hyield

theorem publishOwner_video (a : App) (target : SlotIndex) :
    (a.publishOwner target).video = a.video := by
  unfold App.publishOwner App.promoteHubReturn
  simp only
  split <;> split <;> (try split_ifs) <;> rfl

theorem lockedApp_video {a a' : App} (h : FeedState.lockedApp a action = some a') :
    a'.video = none ∨ a'.video = a.video := by
  cases action with
  | bitmap i empty env =>
    cases h
    exact bitmapUpdate_video a i empty env
  | audioFormat mediaOpens audioOpens =>
    cases h
    unfold App.openAudioTrack
    simp only
    split_ifs
    · exact .inr rfl
    · exact .inl rfl
    · exact .inr rfl
    · exact .inr rfl
  | stopMedia =>
    cases h
    exact .inl rfl
  | publish target =>
    cases h
    exact .inr (publishOwner_video a target)
  | connect i session armed =>
    cases h
    cases armed <;> exact .inr rfl
  | arm | reset | pending | stop | select =>
    cases h
    exact .inr rfl
  | _ => cases h

/-- A unit on its way in finds the decoder as it was. -/
theorem incoming_video {u : Incoming} (h : s.incoming action = some u) :
    u.app.video = s.app.video := by
  unfold FeedState.incoming at h
  split at h
  · split at h
    · cases h
    · cases h
      exact changeCodec_video ..
  · split at h
    · cases h
      rfl
    · cases h
  · cases h

/-- What the backend did with one unit: the step lemma of the invariant. -/
theorem seeded_fed {u : Incoming} {r : Fed} (hincoming : s.incoming action = some u)
    (hseeded : Seeded log s) (hkeeps : s.losesSeed scan action = false)
    (hfed : App.FedStep scan u.app s.track u.slot u.au u.answers r) (hok : r.admissible) :
    (∀ d, r.app.video = some d → r.track.live → SeededBy (log ++ r.accepted.toList) d.stream) ∧
      ∀ x ∈ r.accepted, SeedFirst log x := by
  have hvideo := incoming_video hincoming
  cases hfed with
  | kept haccepted hsame htrack =>
    rw [haccepted, hsame, hvideo, htrack]
    exact ⟨by simpa [Seeded] using hseeded, by simp⟩
  | closed haccepted hnone =>
    rw [haccepted, hnone]
    exact ⟨by simp, by simp⟩
  | fed d t₀ info hdata hinfo hd hstream htrack haccepted horigin =>
    by_cases hresult : (t₀.feed info u.au.data u.answers).2 = .ok
    · rw [if_pos hresult] at haccepted
      have hfresh : r.track.fresh = false := by
        simpa [Fed.admissible, haccepted] using hok
      rw [haccepted]
      cases hseed : info.canSeedDecoder with
      | true =>
        refine ⟨fun e he _ => ?_, fun x hx hdelta => ?_⟩
        · obtain rfl := Option.some.inj (hd.symm.trans he)
          rw [hstream]
          exact seededBy_seed log _
        · cases hx
          cases hdelta
      | false =>
        have hlive := Track.feed_delta hresult hseed (htrack ▸ hfresh)
        have hown : SeededBy log d.stream := by
          rcases horigin with rfl | ⟨rfl, hown | ⟨hclaimed, -⟩⟩
          · cases hlive
          · exact hseeded d (hvideo ▸ hown) hlive
          · simp [hseed] at hclaimed
        rw [hstream] at hown
        refine ⟨fun e he _ => ?_, fun x hx _ => ?_⟩
        · obtain rfl := Option.some.inj (hd.symm.trans he)
          rw [hstream]
          exact SeededBy.snoc (x := { stream := u.app.stream u.slot, seed := false }) hown
        · cases hx
          exact hown
    · rw [if_neg hresult] at haccepted
      rw [haccepted]
      refine ⟨fun e he hlive => ?_, by simp⟩
      obtain rfl := Option.some.inj (hd.symm.trans he)
      rw [htrack] at hlive
      obtain ⟨hbefore, hfits, hreserves, hanswer⟩ := Track.feed_refused hdata hlive hresult
      rw [Option.toList_none, List.append_nil]
      rcases horigin with rfl | ⟨rfl, hown | ⟨hclaimed, hover, hreaches⟩⟩
      · cases hbefore
      · exact hseeded d (hvideo ▸ hown) hbefore
      · -- The seed that takes the decoder over is not lost in this step.
        simp only [FeedState.losesSeed, hincoming, ← hinfo] at hkeeps
        rw [hclaimed, hover, hreaches, hbefore, hreserves] at hkeeps
        simp only [hfits, decide_true, Bool.and_true, Bool.true_and, Bool.or_eq_false_iff,
          decide_eq_false_iff_not] at hkeeps
        rcases hanswer with hanswer | hanswer
        · exact absurd hanswer hkeeps.1
        · exact absurd hanswer hkeeps.2

theorem seeded_step (hseeded : Seeded log s) (hkeeps : s.losesSeed scan action = false)
    (hstep : feedStep scan s action = some (s', accepted)) :
    Seeded (log ++ accepted.toList) s' ∧ ∀ x ∈ accepted, SeedFirst log x := by
  unfold feedStep at hstep
  cases hincoming : s.incoming action with
  | some u =>
    simp only [hincoming] at hstep
    split at hstep
    · rename_i hok
      cases hstep
      obtain ⟨hinv, hfirst⟩ := seeded_fed hincoming hseeded hkeeps App.ingestFed_cases hok
      refine ⟨fun d hd hlive => hinv d ?_ hlive, hfirst⟩
      rw [← hd]
      exact (foldl_unlocked_video ..).symm
    · cases hstep
  | none =>
    simp only [hincoming] at hstep
    have hquiet : accepted = none → Seeded log s' →
        Seeded (log ++ accepted.toList) s' ∧ ∀ x ∈ accepted, SeedFirst log x := by
      rintro rfl h
      exact ⟨by simpa using h, by simp⟩
    split at hstep
    · cases hstep
      exact hquiet rfl (hseeded.weaken (.inr (unlocked_undisturbed s.app _).video) fun _ => rfl)
    · cases hstep
      exact hquiet rfl (hseeded.weaken (.inr rfl) fun h => by simp [Track.live] at h)
    · split at hstep
      · cases hstep
      · cases hstep
        refine hquiet rfl (hseeded.weaken (.inr ?_) fun _ => ?_)
        · unfold FeedState.startReplay
          simp only
          split <;> rfl
        · unfold FeedState.startReplay
          simp only
          split <;> rfl
    · split at hstep
      · cases hstep
      · obtain ⟨app, happ, heq⟩ := Option.map_eq_some_iff.mp hstep
        cases heq
        exact hquiet rfl (hseeded.weaken (lockedApp_video happ) fun _ => rfl)

end Step

/-- As long as no stream takes over a decoder at work with a seed that is turned down,
every unit the backend accepts has a seed of its own stream before it, and nothing of
another stream in between. -/
theorem decoder_seeded {scan : Scanner} {tr : List (FeedAction × Option Accepted)} {s : FeedState}
    (h : ((feedMachine scan).restrict fun s action => s.losesSeed scan action = false).Run tr s) :
    Throughout SeedFirst (acceptedUnits tr) := by
  have hinv : Seeded (acceptedUnits tr) s ∧ Throughout SeedFirst (acceptedUnits tr) := by
    refine h.history (I := fun tr s => Seeded (acceptedUnits tr) s ∧
      Throughout SeedFirst (acceptedUnits tr)) ⟨?_, .nil⟩ ?_
    · intro d hd
      cases hd
    · intro tr s action s' accepted hi hstep
      obtain ⟨hkeeps, hstep⟩ := Machine.restrict_step.mp hstep
      obtain ⟨hseeded, hfirst⟩ := seeded_step hi.1 hkeeps hstep
      have hlog : acceptedUnits (tr ++ [(action, accepted)]) = acceptedUnits tr ++ accepted.toList := by
        cases accepted <;> simp [acceptedUnits]
      rw [hlog]
      refine ⟨hseeded, ?_⟩
      cases accepted with
      | none => simpa using hi.2
      | some x => exact hi.2.snoc (hfirst x rfl)
  exact hinv.2

/-- The green slot's stream goes to the decoder, the yellow slot takes it over with a
seed answered as given, and a unit of it follows. -/
def inBandSwitch (answer : BackendResult) : List FeedAction :=
  [.connect .green 1 none, .connect .yellow 2 none, .videoAu .green .h264 idrUnit {} {},
    .videoAu .green .h264 (deltaUnit 1) {} {}, .select .yellow,
    .videoAu .yellow .h264 idrUnit {} { backend := answer }, .videoAu .yellow .h264 (deltaUnit 1) {} {}]

theorem decoder_seeded_switch : ∃ tr : List (FeedAction × Option Accepted),
    tr.map Prod.fst = inBandSwitch .ok ∧ acceptedUnits tr =
      [{ stream := { owner := .green, epoch := 1, codec := .h264 }, seed := true },
        { stream := { owner := .green, epoch := 1, codec := .h264 }, seed := false },
        { stream := { owner := .yellow, epoch := 1, codec := .h264 }, seed := true },
        { stream := { owner := .yellow, epoch := 1, codec := .h264 }, seed := false }] ∧
      Throughout SeedFirst (acceptedUnits tr) := by
  have hr := Machine.run_of_exec
    (M := (feedMachine videoScanAu).restrict fun s action => s.losesSeed videoScanAu action = false)
    (inBandSwitch .ok) (by decide +kernel)
  exact ⟨_, by decide +kernel, by decide +kernel, decoder_seeded hr⟩

/-- The yellow slot's seed is turned down, and its next unit accepted all the same. -/
theorem decoder_not_seeded : ¬∀ (tr : List (FeedAction × Option Accepted)) (s : FeedState),
    (feedMachine videoScanAu).Run tr s → Throughout SeedFirst (acceptedUnits tr) := by
  intro hall
  have hrun := Machine.run_of_exec (M := feedMachine videoScanAu) (inBandSwitch .notReady)
    (by decide +kernel)
  have hfirst := hall _ _ hrun
    [{ stream := { owner := .green, epoch := 1, codec := .h264 }, seed := true },
      { stream := { owner := .green, epoch := 1, codec := .h264 }, seed := false }]
    { stream := { owner := .yellow, epoch := 1, codec := .h264 }, seed := false } []
    (by decide +kernel) rfl
  obtain ⟨before, after, hlog, -⟩ := hfirst
  have hmem : ({ stream := { owner := .yellow, epoch := 1, codec := .h264 }, seed := true } :
      Accepted) ∈ [{ stream := { owner := .green, epoch := 1, codec := .h264 }, seed := true },
        { stream := { owner := .green, epoch := 1, codec := .h264 }, seed := false }] := by
    rw [hlog]
    simp
  revert hmem
  decide

end Lgnome.Native
