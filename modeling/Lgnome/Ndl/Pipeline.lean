import Lgnome.Ndl.Units
import Lgnome.Transition.Log

/-!
# The pipeline behind the adapters

The backend loads its pipeline anew for every change of the tracks. `Pipeline` is
what the calls so far have made of it, whatever the backend's answers were, and
`Allows` is what may be asked of it next: one track changes at a time, no unit
goes to a pipeline that was loaded without a video track or has not been given a
decoder seed, and a track that failed is left alone.
-/
namespace Lgnome.Ndl

open Lgnome.Native Lgnome.Transition

namespace BackendNdlResult

/-- A unit that comes back so ends its decoder. -/
def failsVideo : BackendNdlResult → Bool
  | .ok | .needKeyframe | .notReady => false
  | _ => true

/-- A block that comes back so mutes the mix. -/
def failsAudio : BackendNdlResult → Bool
  | .ok | .notReady | .overflow => false
  | _ => true

end BackendNdlResult

structure Pipeline where
  isOpen : Bool := false
  tracks : Tracks := {}
  /-- A decoder seed was handed over since the last load. -/
  seeded : Bool := false
  /-- A unit failed since the last load. -/
  broken : Bool := false
  /-- A block failed since the backend was opened. -/
  muted : Bool := false
  /-- The backend did not let go of the video track. -/
  stuck : Bool := false
  deriving DecidableEq, Repr

namespace Pipeline

def after (p : Pipeline) : Call → Pipeline
  | .opened => { isOpen := true }
  | .closed => {}
  | .setMedia asked answer =>
    if answer = .ok then
      { p with
        tracks := asked, seeded := false, broken := false, stuck := p.stuck && asked.video.isSome }
    else { p with stuck := p.stuck || (asked.video.isNone && p.tracks.video.isSome) }
  | .feedVideo _ _ keyframe answer =>
    { p with seeded := p.seeded || keyframe, broken := p.broken || answer.failsVideo }
  | .feedAudio _ answer => { p with muted := p.muted || answer.failsAudio }

/-- What the adapters may ask for. -/
def Allows (p : Pipeline) : Call → Prop
  | .opened => p = {}
  | .closed => p.isOpen
  | .setMedia asked _ =>
    p.isOpen ∧ (asked.video = p.tracks.video ∨ asked.audio = p.tracks.audio)
  | .feedVideo track bytes keyframe _ =>
    p.isOpen ∧ p.tracks.video = some track ∧ p.broken = false ∧ (keyframe ∨ p.seeded) ∧
      bytes ≠ [] ∧ bytes.length ≤ maxAuBytes
  | .feedAudio pcm _ =>
    p.isOpen ∧ p.tracks.audio = some mixedPcm ∧ p.muted = false ∧ pcm ≠ []

end Pipeline

/-- The pipeline that a row of calls has left. -/
def pipeline (calls : List Call) : Pipeline := calls.foldl Pipeline.after {}

theorem pipeline_snoc (calls : List Call) (call : Call) :
    pipeline (calls ++ [call]) = (pipeline calls).after call := List.foldl_concat ..

/-- The media object and the pipeline know the same tracks. -/
structure Linked (media : Option NativeMedia) (calls : List Call) : Prop where
  ledger : Throughout (fun before call => (pipeline before).Allows call) calls
  shut : media = none → pipeline calls = {}
  loaded : ∀ m, media = some m → (pipeline calls).isOpen ∧ (pipeline calls).tracks = m.tracks

/-- An open decoder has its track loaded, and a seed behind it unless it failed. -/
structure Decoding (v : NativeVideo) (p : Pipeline) : Prop where
  track : p.tracks.video = some v.info
  seeded : v.terminalError = true ∨ p.seeded = true ∧ p.broken = false

/-- The audio track in the pipeline is the application's, open and muted once it failed. -/
structure Sounding (audio : Option NativeAudio) (p : Pipeline) : Prop where
  track : p.tracks.audio = audio.map fun _ => mixedPcm
  opened : ∀ a, audio = some a → a.audioOpened = true ∧ (a.disabled = true ∨ p.muted = false)
  silent : audio = none → p.muted = false

/-- What holds while a section is at work on the tracks. -/
structure Loose (s : State) : Prop where
  linked : Linked s.media s.calls
  alive : s.media = none → s.video = none ∧ s.audio = none
  freed : (pipeline s.calls).tracks.video.isSome →
    (pipeline s.calls).stuck = true ∨ ∃ v, s.video = some v ∧ v.videoOpened = true
  audio : Sounding s.audio (pipeline s.calls)

/-- What every call finds and leaves. -/
structure Kept (s : State) : Prop extends Loose s where
  video : ∀ v, s.video = some v → v.videoOpened = true → Decoding v (pipeline s.calls)

variable {s : State} {m m' : NativeMedia} {media : Option NativeMedia} {calls : List Call}
  {call : Call} {answer : BackendNdlResult} {p : Pipeline} {v : NativeVideo}

theorem Kept.nil : Kept {} where
  linked := ⟨Throughout.nil, fun _ => rfl, nofun⟩
  alive _ := ⟨rfl, rfl⟩
  video := nofun
  freed := nofun
  audio := ⟨rfl, nofun, fun _ => rfl⟩

namespace Linked

/-- A feed changes no track. -/
theorem fed (h : Linked media calls) (hallows : (pipeline calls).Allows call)
    (hopen : ((pipeline calls).after call).isOpen = (pipeline calls).isOpen)
    (htracks : ((pipeline calls).after call).tracks = (pipeline calls).tracks)
    (hmedia : media ≠ none) : Linked media (calls ++ [call]) where
  ledger := h.ledger.snoc hallows
  shut hnone := absurd hnone hmedia
  loaded m hm := by
    rw [pipeline_snoc, hopen, htracks]
    exact h.loaded m hm

/-- The change of one track, taken or refused. -/
theorem retracked (h : Linked (some m) calls) (answer : BackendNdlResult) (asked : NativeMedia)
    (hone : asked.tracks.video = m.tracks.video ∨ asked.tracks.audio = m.tracks.audio) :
    Linked (some (if answer = .ok then asked else m))
      (calls ++ [.setMedia asked.tracks answer]) := by
  obtain ⟨hopen, htracks⟩ := h.loaded m rfl
  refine ⟨h.ledger.snoc ⟨hopen, by rw [htracks]; exact hone⟩, nofun, ?_⟩
  intro next hnext
  obtain rfl := Option.some.inj hnext
  rw [pipeline_snoc, Pipeline.after]
  by_cases hok : answer = .ok
  · rw [if_pos hok, if_pos hok]
    exact ⟨hopen, rfl⟩
  · rw [if_neg hok, if_neg hok]
    exact ⟨hopen, htracks⟩

theorem closed (h : Linked (some m) calls) : Linked none (calls ++ [.closed]) where
  ledger := h.ledger.snoc (h.loaded m rfl).1
  shut _ := by
    rw [pipeline_snoc]
    rfl
  loaded := nofun

end Linked

theorem Decoding.after (h : Decoding v p) (htracks : (p.after call).tracks = p.tracks)
    (hseeded : p.seeded = true → (p.after call).seeded = true)
    (hbroken : p.broken = false → (p.after call).broken = false ∨ v.terminalError = true) :
    Decoding v (p.after call) where
  track := htracks ▸ h.track
  seeded := by
    rcases h.seeded with hfailed | ⟨hseed, hwhole⟩
    · exact .inl hfailed
    · rcases hbroken hwhole with hwhole | hfailed
      · exact .inr ⟨hseeded hseed, hwhole⟩
      · exact .inl hfailed

theorem Sounding.after {audio : Option NativeAudio} (h : Sounding audio p)
    (htrack : (p.after call).tracks.audio = p.tracks.audio)
    (hmuted : (p.after call).muted = p.muted) : Sounding audio (p.after call) where
  track := htrack ▸ h.track
  opened := hmuted ▸ h.opened
  silent := hmuted ▸ h.silent

/-! ## Tracks come and go -/

/-- A change of the tracks asks for one of them to change and is taken back when it
is refused. -/
theorem retrack_some {change : NativeMedia → NativeMedia} (hm : s.media = some m) :
    s.retrack change answer = ({ s with
      media := some (if answer = .ok then change m else m)
      calls := s.calls ++ [.setMedia (change m).tracks answer] }, answer) := by
  rw [State.retrack, hm]

theorem retrack_linked {change : NativeMedia → NativeMedia} (h : Linked s.media s.calls)
    (hone : ∀ m, (change m).tracks.video = m.tracks.video ∨
      (change m).tracks.audio = m.tracks.audio) :
    Linked (s.retrack change answer).1.media (s.retrack change answer).1.calls := by
  cases hm : s.media with
  | none =>
    rw [State.retrack, hm]
    exact h
  | some m =>
    rw [retrack_some hm]
    rw [hm] at h
    exact h.retracked _ _ (hone m)

theorem retrack_isSome (s : State) (change : NativeMedia → NativeMedia)
    (answer : BackendNdlResult) :
    (s.retrack change answer).1.media.isSome = s.media.isSome := by
  cases hm : s.media with
  | none =>
    rw [State.retrack, hm]
    exact congrArg Option.isSome hm
  | some m =>
    rw [retrack_some hm]
    rfl

theorem ensureMedia_kept (h : Kept s) (opens : Bool) : Kept (s.ensureMedia opens) := by
  rw [State.ensureMedia]
  split
  · exact h
  · rename_i hnone
    have hm : s.media = none := Option.not_isSome_iff_eq_none.1 hnone
    split
    · obtain ⟨hvideo, haudio⟩ := h.alive hm
      have hempty := h.linked.shut hm
      have hafter : pipeline (s.calls ++ [.opened]) = { isOpen := true } := pipeline_snoc ..
      refine ⟨⟨⟨h.linked.ledger.snoc hempty, nofun, ?_⟩, nofun, ?_, ?_⟩, ?_⟩
      · intro m hm
        obtain rfl := Option.some.inj hm
        rw [hafter]
        exact ⟨rfl, rfl⟩
      · dsimp only
        rw [hafter]
        exact nofun
      · dsimp only
        rw [hafter, haudio]
        exact ⟨rfl, nofun, fun _ => rfl⟩
      · intro v hv
        rw [hvideo] at hv
        cases hv
    · exact h

/-- Closing the video track leaves no decoder, and a track in the pipeline only if the
backend keeps it. -/
theorem videoClose_kept (h : Loose s) : Kept (s.videoClose answer) := by
  rw [State.videoClose]
  cases hvideo : s.video with
  | none => exact ⟨h, fun v hv => absurd (hvideo.symm.trans hv) nofun⟩
  | some v =>
    dsimp only
    by_cases hopened : v.videoOpened = true
    · rw [if_pos hopened]
      cases hm : s.media with
      | none => exact absurd ((h.alive hm).1.symm.trans hvideo) nofun
      | some m =>
        have hlinked := h.linked
        rw [hm] at hlinked
        obtain ⟨-, htracks⟩ := hlinked.loaded m rfl
        rw [State.clearVideo, retrack_some hm]
        refine ⟨⟨hlinked.retracked _ _ (.inr rfl), nofun, ?_, ?_⟩, nofun⟩
        · dsimp only
          rw [pipeline_snoc, Pipeline.after]
          by_cases hok : answer = .ok
          · rw [if_pos hok]
            exact nofun
          · rw [if_neg hok]
            intro hsome
            left
            dsimp only at hsome ⊢
            rw [hsome]
            exact Bool.or_true _
        · dsimp only
          rw [pipeline_snoc]
          refine h.audio.after ?_ ?_
          · rw [Pipeline.after]
            split
            · rw [htracks]
              rfl
            · rfl
          · rw [Pipeline.after]
            split <;> rfl
    · rw [if_neg hopened]
      refine ⟨⟨h.linked, fun hnone => ⟨rfl, (h.alive hnone).2⟩, ?_, h.audio⟩, nofun⟩
      intro hsome
      rcases h.freed hsome with hstuck | ⟨w, hw, hwopened⟩
      · exact .inl hstuck
      · obtain rfl := Option.some.inj (hvideo.symm.trans hw)
        exact absurd hwopened hopened

/-- What an attempt at the mixed track comes to: nothing, a refusal, or the track. -/
inductive Mixed (s : State) : State → Prop
  | none : Mixed s s
  | refused (m : NativeMedia) (answer : BackendNdlResult) : s.media = some m → answer ≠ .ok →
      Mixed s { s with
        calls := s.calls ++
          [.setMedia ({ m with hasAudio := true, audio := mixedPcm } : NativeMedia).tracks answer] }
  | opened (m : NativeMedia) : s.media = some m →
      Mixed s { s with
        media := some { m with hasAudio := true, audio := mixedPcm }
        audio := some { audioOpened := true }
        calls := s.calls ++
          [.setMedia ({ m with hasAudio := true, audio := mixedPcm } : NativeMedia).tracks .ok] }

theorem openMixed_cases {supported : UInt32 → Bool} {answers : OpenAnswers}
    (haudio : s.audio = none) : Mixed s (s.openMixed supported answers) := by
  have hopen : s.audioOpen supported rdpAudioCodecPcmS16le pipelineSampleRate pipelineChannels
      answers = if s.media.isNone ∨ supported pipelineSampleRate = false ∨
          answers.allocates = false then (s, none)
        else
          ((s.configureAudio mixedPcm answers.configured).1,
            if (s.configureAudio mixedPcm answers.configured).2 = .ok then
              some { audioOpened := true } else none) := by
    rw [State.audioOpen, if_neg (by decide), if_neg (show ¬rdpAudioCodecPcmS16le = _ by decide),
      if_neg (not_not.2 rfl), if_neg (show ¬2 < pipelineChannels by decide)]
    have hpcm : ({ sampleRateHz := pipelineSampleRate, channels := pipelineChannels } : AudioInfo) =
        mixedPcm := rfl
    by_cases hm : s.media.isNone = true <;> cases supported pipelineSampleRate <;>
      cases answers.allocates <;> simp [hm, hpcm]
    split <;> rfl
  rw [State.openMixed, hopen]
  have hsame : ({ s with audio := none } : State) = s := by rw [← haudio]
  split_ifs with hnot hok
  · dsimp only
    rw [hsame]
    exact .none
  · cases hm : s.media with
    | none => simp [hm] at hnot
    | some m =>
      rw [State.configureAudio, retrack_some hm] at hok ⊢
      dsimp only at hok ⊢
      rw [hok, if_pos rfl]
      exact .opened m hm
  · cases hm : s.media with
    | none => simp [hm] at hnot
    | some m =>
      rw [State.configureAudio, retrack_some hm] at hok ⊢
      have hrefused := Mixed.refused m answers.configured hm hok
      dsimp only at hok ⊢
      rw [if_neg hok, ← hm, ← haudio]
      exact hrefused

/-- The mixed track joins what is loaded, and with it the pipeline loses its seed. -/
theorem Loose.mixed {t : State} (h : Loose s) (haudio : s.audio = none) (hmixed : Mixed s t) :
    Loose t := by
  cases hmixed with
  | none => exact h
  | refused m answer hm hrefused =>
    have hlinked := h.linked
    rw [hm] at hlinked
    have hretracked := hlinked.retracked answer
      { m with hasAudio := true, audio := mixedPcm } (.inl rfl)
    obtain ⟨-, htracks⟩ := hlinked.loaded m rfl
    rw [if_neg hrefused, ← hm] at hretracked
    refine ⟨hretracked, h.alive, ?_, ?_⟩
    · dsimp only
      rw [pipeline_snoc, Pipeline.after, if_neg hrefused]
      intro hsome
      refine (h.freed hsome).imp_left fun hstuck => ?_
      dsimp only
      rw [hstuck]
      rfl
    · dsimp only
      rw [pipeline_snoc]
      refine h.audio.after ?_ ?_ <;> rw [Pipeline.after, if_neg hrefused]
  | opened m hm =>
    have hlinked := h.linked
    rw [hm] at hlinked
    have hretracked := hlinked.retracked .ok
      { m with hasAudio := true, audio := mixedPcm } (.inl rfl)
    obtain ⟨-, htracks⟩ := hlinked.loaded m rfl
    have hvideo : ({ m with hasAudio := true, audio := mixedPcm } : NativeMedia).tracks.video =
        (pipeline s.calls).tracks.video := by
      rw [htracks]
      rfl
    refine ⟨hretracked, nofun, ?_, ?_⟩
    · dsimp only
      rw [pipeline_snoc, Pipeline.after, if_pos rfl]
      dsimp only
      rw [hvideo]
      intro hsome
      refine (h.freed hsome).imp_left fun hstuck => ?_
      rw [hstuck, hsome]
      rfl
    · dsimp only
      rw [pipeline_snoc, Pipeline.after, if_pos rfl]
      refine ⟨rfl, ?_, nofun⟩
      intro a ha
      obtain rfl := Option.some.inj ha
      exact ⟨rfl, .inr (h.audio.silent haudio)⟩

/-- An attempt that comes to nothing leaves a decoder its seed. -/
theorem Kept.mixed {t : State} (h : Kept s) (haudio : s.audio = none) (hmixed : Mixed s t)
    (hquiet : s.video = none ∨ t.audio = none) : Kept t := by
  refine ⟨h.toLoose.mixed haudio hmixed, ?_⟩
  cases hmixed with
  | none => exact h.video
  | refused m answer hm hrefused =>
    intro v hv hopened
    dsimp only at hv ⊢
    rw [pipeline_snoc]
    refine (h.video v hv hopened).after ?_ ?_ ?_ <;> rw [Pipeline.after, if_neg hrefused]
    · exact id
    · exact .inl
  | opened m hm =>
    intro v hv
    rcases hquiet with hnone | hnone
    · rw [hnone] at hv
      cases hv
    · cases hnone

theorem attachAudio_kept {supported : UInt32 → Bool} {answers : OpenAnswers} (h : Kept s) :
    Kept (s.attachAudio supported answers) := by
  rw [State.attachAudio]
  split
  · exact h
  · rename_i hnone
    have hopened := ensureMedia_kept h answers.mediaOpens
    have hvideo : (s.ensureMedia answers.mediaOpens).video = none := by
      rw [State.ensureMedia]
      split_ifs <;> exact Option.not_isSome_iff_eq_none.1 hnone
    rw [State.openSpeculativeAudio]
    split_ifs with hready haudio
    · exact hopened
    · exact hopened
    · have hsilent := Option.not_isSome_iff_eq_none.1 haudio
      exact hopened.mixed hsilent (openMixed_cases hsilent) (.inl hvideo)

theorem audioFormat_kept {supported : UInt32 → Bool} {answers : OpenAnswers} (h : Kept s) :
    Kept (s.audioFormat supported answers) := by
  rw [State.audioFormat]
  by_cases haudio : s.audio.isSome = true
  · rw [if_pos haudio]
    exact h
  · rw [if_neg haudio]
    have hopened := ensureMedia_kept h answers.mediaOpens
    have hsilent : (s.ensureMedia answers.mediaOpens).audio = none := by
      rw [State.ensureMedia]
      split_ifs <;> exact Option.not_isSome_iff_eq_none.1 haudio
    generalize s.ensureMedia answers.mediaOpens = t at hopened hsilent
    have hmixed : Mixed t (if t.media.isSome then t.openMixed supported answers else t) := by
      split
      · exact openMixed_cases hsilent
      · exact .none
    dsimp only
    generalize (if t.media.isSome then t.openMixed supported answers else t) = u at hmixed
    split
    · exact videoClose_kept (hopened.toLoose.mixed hsilent hmixed)
    · rename_i hnone
      exact hopened.mixed hsilent hmixed (.inr (Option.not_isSome_iff_eq_none.1 hnone))

/-! ## Blocks of the mix -/

theorem Kept.media_ne {a : NativeAudio} (h : Kept s) (haudio : s.audio = some a) :
    ∃ m, s.media = some m := by
  cases hm : s.media with
  | none =>
    rw [(h.alive hm).2] at haudio
    cases haudio
  | some m => exact ⟨m, rfl⟩

theorem Kept.muted {a : NativeAudio} (h : Kept s) (haudio : s.audio = some a) :
    Kept { s with audio := some { a with disabled := true } } := by
  obtain ⟨m, hm⟩ := h.media_ne haudio
  refine ⟨⟨h.linked, fun hnone => absurd (hm.symm.trans hnone) nofun, h.freed, ?_, ?_, nofun⟩,
    h.video⟩
  · have htrack := h.audio.track
    rw [haudio] at htrack
    exact htrack
  · intro b hb
    obtain rfl := Option.some.inj hb
    exact ⟨(h.audio.opened a haudio).1, .inl rfl⟩

/-- A block goes to the track it belongs to and changes nothing a decoder knows of. -/
theorem Kept.heard {a : NativeAudio} {samples : Bytes} (h : Kept s) (haudio : s.audio = some a)
    (b : NativeAudio) (answer : BackendNdlResult) (hpcm : samples ≠ []) (hloud : a.disabled = false)
    (hopened : b.audioOpened = true) (hmute : b.disabled = true ∨ answer.failsAudio = false) :
    Kept { s with audio := some b, calls := s.calls ++ [.feedAudio samples answer] } := by
  obtain ⟨m, hm⟩ := h.media_ne haudio
  obtain ⟨-, hquiet⟩ := h.audio.opened a haudio
  have hclear : (pipeline s.calls).muted = false :=
    hquiet.resolve_left (by rw [hloud]; exact nofun)
  have htrack : (pipeline s.calls).tracks.audio = some mixedPcm := by
    rw [h.audio.track, haudio]
    rfl
  have hlinked : Linked s.media (s.calls ++ [.feedAudio samples answer]) :=
    h.linked.fed ⟨(h.linked.loaded m hm).1, htrack, hclear, hpcm⟩ rfl rfl (by rw [hm]; exact nofun)
  refine ⟨⟨hlinked, fun hnone => absurd (hm.symm.trans hnone) nofun, ?_, ?_, ?_, nofun⟩, ?_⟩
  · dsimp only
    rw [pipeline_snoc]
    exact h.freed
  · dsimp only
    rw [pipeline_snoc]
    exact htrack
  · intro c hc
    obtain rfl := Option.some.inj hc
    refine ⟨hopened, hmute.imp_right fun hfine => ?_⟩
    dsimp only
    rw [pipeline_snoc]
    show ((pipeline s.calls).muted || answer.failsAudio) = false
    rw [hclear, hfine]
    rfl
  · intro v hv hvopened
    dsimp only
    rw [pipeline_snoc]
    exact (h.video v hv hvopened).after rfl id .inl

theorem audioPipelineFeedCb_kept {samples : Bytes} (h : Kept s) :
    Kept (s.audioPipelineFeedCb samples answer) := by
  rw [State.audioPipelineFeedCb]
  cases haudio : s.audio with
  | none => exact h
  | some a =>
    obtain ⟨hopened, -⟩ := h.audio.opened a haudio
    dsimp only
    rw [State.audioFeed]
    by_cases hempty : (!a.audioOpened) = true ∨ samples = []
    · rw [if_pos hempty]
      exact h.muted haudio
    · rw [if_neg hempty]
      by_cases hdisabled : a.disabled = true
      · rw [if_pos hdisabled]
        exact h
      · rw [if_neg hdisabled]
        have hloud : a.disabled = false := Bool.eq_false_iff.2 hdisabled
        have hheard := fun b => h.heard haudio b answer
          (fun hnil => hempty (.inr hnil)) hloud
        have hsame := hheard a hopened
        rw [← haudio] at hsame
        cases answer with
        | ok => exact hsame (.inr rfl)
        | notReady => exact hsame (.inr rfl)
        | overflow => exact hsame (.inr rfl)
        | _ => exact hheard { a with disabled := true } hopened (.inl rfl)

theorem audioClose_linked (h : Linked s.media s.calls) (answer : BackendNdlResult) :
    Linked (s.audioClose answer).media (s.audioClose answer).calls ∧
      (s.audioClose answer).media.isSome = s.media.isSome ∧ (s.audioClose answer).audio = none := by
  rw [State.audioClose]
  cases haudio : s.audio with
  | none => exact ⟨h, rfl, haudio⟩
  | some a =>
    dsimp only
    split
    · exact ⟨retrack_linked h fun m => .inl rfl, retrack_isSome .., rfl⟩
    · exact ⟨h, rfl, rfl⟩

theorem videoClose_linked (h : Linked s.media s.calls) (answer : BackendNdlResult) :
    Linked (s.videoClose answer).media (s.videoClose answer).calls ∧
      (s.videoClose answer).media.isSome = s.media.isSome ∧ (s.videoClose answer).video = none ∧
      (s.videoClose answer).audio = s.audio := by
  have haudio : (s.clearVideo answer).1.audio = s.audio := by
    rw [State.clearVideo, State.retrack]
    cases s.media <;> rfl
  rw [State.videoClose]
  cases hvideo : s.video with
  | none => exact ⟨h, rfl, hvideo, rfl⟩
  | some v =>
    dsimp only
    split
    · exact ⟨retrack_linked h fun m => .inr rfl, retrack_isSome .., rfl, haudio⟩
    · exact ⟨h, rfl, rfl, rfl⟩

/-- Both tracks are forgotten before the backend is closed, whatever it answers. -/
theorem stopMedia_kept {audioCleared videoCleared : BackendNdlResult} (h : Kept s) :
    Kept (s.stopMedia audioCleared videoCleared) := by
  obtain ⟨hlinked, hmedia, haudio⟩ := audioClose_linked h.linked audioCleared
  obtain ⟨hlinked', hmedia', hvideo, haudio'⟩ := videoClose_linked hlinked videoCleared
  rw [State.stopMedia, State.mediaClose]
  rw [haudio] at haudio'
  rw [hmedia] at hmedia'
  generalize (s.audioClose audioCleared).videoClose videoCleared = t
    at hlinked' hmedia' hvideo haudio'
  have hquiet : ∀ p : Pipeline, p = {} → Sounding none p := by
    rintro p rfl
    exact ⟨rfl, nofun, fun _ => rfl⟩
  have hnothing : ∀ v, t.video = some v → False := by
    intro v hv
    rw [hvideo] at hv
    cases hv
  cases hm : t.media with
  | none =>
    have hempty := hlinked'.shut hm
    refine ⟨⟨hlinked', fun _ => ⟨hvideo, haudio'⟩, ?_, ?_⟩, fun v hv => (hnothing v hv).elim⟩
    · rw [hempty]
      exact nofun
    · rw [haudio']
      exact hquiet _ hempty
  | some m =>
    rw [hm] at hlinked'
    have hclosed := hlinked'.closed
    have hempty := hclosed.shut rfl
    refine ⟨⟨hclosed, fun _ => ⟨hvideo, haudio'⟩, ?_, ?_⟩, fun v hv => (hnothing v hv).elim⟩
    · dsimp only
      rw [hempty]
      exact nofun
    · dsimp only
      rw [haudio']
      exact hquiet _ hempty

end Lgnome.Ndl
