import Lgnome.Ndl.Pipeline

/-!
# Runs of the adapters

Every order of the application's calls, every answer of memory and backend. The
tracks stay in step with the pipeline, and a unit gets through the adapter as the
decoder's own model has it.
-/
namespace Lgnome.Ndl

open Lgnome.Native Lgnome.Transition

namespace BackendNdlResult

/-- As the feed of a unit tells the results apart. -/
def fed : BackendNdlResult → BackendResult
  | .ok => .ok
  | .needKeyframe => .needKeyframe
  | .notReady => .notReady
  | _ => .failed

/-- As the opening of a stream tells the results apart. -/
def opened : BackendNdlResult → OpenResult
  | .ok => .ok
  | .unsupported => .unsupported
  | _ => .failed

def videoResult : BackendNdlResult → VideoResult
  | .ok => .ok
  | .needKeyframe => .needKeyframe
  | .notReady => .dropped
  | _ => .error

end BackendNdlResult

/-- The track as its own model has it. -/
def NativeVideo.behind (v : NativeVideo) (fresh : Bool) : Track where
  video := v.toNativeVideo
  fresh

/-- What the adapter answers to a unit, by the caller's scan of it. -/
def unitAnswers (v : NativeVideo) (data : Bytes) (answers : UnitAnswers) : FeedAnswers where
  reserves := decide (data.length ≤ v.annexb.length) || answers.memory.isSome
  opens := answers.configured.opened
  backend := answers.fed.fed

/-- A unit that the adapter gets into its buffer: it is not empty, not too long, it scans,
there is room for it, and no other has failed before. -/
structure Buffered (v : NativeVideo) (data : Bytes) (info : AuInfo) (answers : UnitAnswers) :
    Prop where
  sound : v.terminalError = false
  some : data ≠ []
  fits : data.length ≤ maxAuBytes
  valid : info.valid = true
  room : data.length ≤ v.annexb.length ∨ answers.memory ≠ none

/-- What reaches the backend of one unit. Nothing does when the unit gets into no buffer, or
when the stream is not open yet and the unit cannot start it. Else it is a request for the
track that is refused, or the unit itself, behind the request for its track when it is the
first. -/
inductive Handed (v : NativeVideo) (data : Bytes) (info : AuInfo) (answers : UnitAnswers) :
    List Call → Prop
  | nothing : ¬Buffered v data info answers ∨ v.videoOpened = false ∧ info.canSeedDecoder = false →
      Handed v data info answers []
  | refused (asked : Tracks) (answer : BackendNdlResult) : Buffered v data info answers →
      v.videoOpened = false → info.canSeedDecoder = true → asked.video = some v.info →
      answers.configured = answer → answer ≠ .ok →
      Handed v data info answers [.setMedia asked answer]
  | unit (bytes : Bytes) : Buffered v data info answers → v.videoOpened = true →
      IsNormal v.codec data bytes →
      Handed v data info answers [.feedVideo v.info bytes info.canSeedDecoder answers.fed]
  | first (asked : Tracks) (bytes : Bytes) : Buffered v data info answers →
      v.videoOpened = false → info.canSeedDecoder = true → asked.video = some v.info →
      answers.configured = .ok → IsNormal v.codec data bytes →
      Handed v data info answers
        [.setMedia asked .ok, .feedVideo v.info bytes true answers.fed]

/-- One unit through the adapter. -/
structure Through (sizeMax : Nat) (s : State) (v : NativeVideo) (data : Bytes)
    (answers : UnitAnswers) (t : State) (result : VideoResult) : Prop where
  kept : Kept t
  handed : ∃ calls, t.calls = s.calls ++ calls ∧
    Handed v data (scanAu sizeMax v.codec data) answers calls
  follows : ∀ fresh, ∃ w, t.video = some w ∧ w.info = v.info ∧
    let r := (v.behind fresh).feed (scanAu sizeMax v.codec data) data (unitAnswers v data answers)
    r.1.video = w.toNativeVideo ∧ r.2 = result

variable {sizeMax : Nat} {s t : State} {v w : NativeVideo} {data : Bytes} {answers : UnitAnswers}
  {answer : BackendNdlResult} {m : NativeMedia}

theorem feedOpened_eq (s : State) (v : NativeVideo) (annexbLen : Nat) (keyframe : Bool)
    (answer : BackendNdlResult) : s.feedOpened v annexbLen keyframe answer =
      ({ s with
        video := some (if answer.failsVideo then v.fail else v)
        calls := s.calls ++ [.feedVideo v.info (v.annexb.take annexbLen) keyframe answer] },
        answer.videoResult) := by
  cases answer <;> rfl

/-- The buffer and the failure of a track are its own business. -/
theorem Kept.same (h : Kept s) (hvideo : s.video = some v) (hinfo : w.info = v.info)
    (hopened : w.videoOpened = v.videoOpened)
    (hfailed : v.terminalError = true → w.terminalError = true) :
    Kept { s with video := some w } := by
  refine ⟨⟨h.linked, fun hm => ?_, fun hsome => ?_, h.audio⟩, ?_⟩
  · rw [(h.alive hm).1] at hvideo
    cases hvideo
  · refine (h.freed hsome).imp_right ?_
    rintro ⟨u, hu, huopened⟩
    obtain rfl := Option.some.inj (hvideo.symm.trans hu)
    exact ⟨w, rfl, hopened.trans huopened⟩
  · intro u hu huopened
    obtain rfl := Option.some.inj hu
    obtain ⟨htrack, hseeded⟩ := h.video v hvideo (hopened.symm.trans huopened)
    exact ⟨hinfo ▸ htrack, hseeded.imp_left hfailed⟩

/-- A unit for a pipeline that has its track, and has a seed or gets one. -/
theorem feedOpened_kept {annexbLen : Nat} {keyframe : Bool} (h : Loose { s with video := some v })
    (hm : s.media = some m) (htrack : (pipeline s.calls).tracks.video = some v.info)
    (hwhole : (pipeline s.calls).broken = false)
    (hseed : keyframe = true ∨ (pipeline s.calls).seeded = true)
    (hbytes : v.annexb.take annexbLen ≠ [])
    (hcap : (v.annexb.take annexbLen).length ≤ maxAuBytes) (hopened : v.videoOpened = true) :
    Kept (s.feedOpened v annexbLen keyframe answer).1 := by
  rw [feedOpened_eq]
  dsimp only
  generalize v.annexb.take annexbLen = bytes at hbytes hcap
  have hlinked : Linked s.media (s.calls ++ [.feedVideo v.info bytes keyframe answer]) :=
    h.linked.fed ⟨(h.linked.loaded m hm).1, htrack, hwhole, hseed, hbytes, hcap⟩
      rfl rfl (by rw [hm]; exact nofun)
  have hstays : ∀ u : NativeVideo, u = (if answer.failsVideo then v.fail else v) →
      u.videoOpened = true ∧ u.info = v.info ∧
        (u.terminalError = true ∨ answer.failsVideo = false) := by
    rintro u rfl
    cases answer.failsVideo with
    | true => exact ⟨hopened, rfl, .inl rfl⟩
    | false => exact ⟨hopened, rfl, .inr rfl⟩
  generalize (if answer.failsVideo then v.fail else v) = u at hstays
  obtain ⟨huopened, huinfo, hufails⟩ := hstays u rfl
  refine ⟨⟨hlinked, fun hnone => absurd (hm.symm.trans hnone) nofun, fun _ => ?_, ?_⟩, ?_⟩
  · exact .inr ⟨u, rfl, huopened⟩
  · dsimp only
    rw [pipeline_snoc]
    exact h.audio.after rfl rfl
  · intro x hx _
    obtain rfl := Option.some.inj hx
    dsimp only
    rw [pipeline_snoc]
    refine ⟨htrack.trans (congrArg some huinfo.symm), hufails.imp_right fun hfine => ⟨?_, ?_⟩⟩
    · show ((pipeline s.calls).seeded || keyframe) = true
      rcases hseed with rfl | hseeded
      · exact Bool.or_true _
      · rw [hseeded]
        rfl
    · show ((pipeline s.calls).broken || answer.failsVideo) = false
      rw [hwhole, hfine]
      rfl

/-- A stream that opens loads its track, without a seed so far. -/
theorem Kept.streamed (h : Kept s) (hm : s.media = some m) (hopened : v.videoOpened = true) :
    Loose { s with
      media := some { m with hasVideo := true, video := v.info }
      video := some v
      calls := s.calls ++
        [.setMedia ({ m with hasVideo := true, video := v.info } : NativeMedia).tracks .ok] } := by
  have hlinked := h.linked
  rw [hm] at hlinked
  obtain ⟨-, htracks⟩ := hlinked.loaded m rfl
  refine ⟨hlinked.retracked .ok _ (.inr rfl), nofun,
    fun _ => .inr ⟨v, rfl, hopened⟩, ?_⟩
  dsimp only
  rw [pipeline_snoc]
  refine h.audio.after ?_ rfl
  rw [htracks]
  rfl

/-- A stream that does not open leaves the tracks as they were. -/
theorem Kept.rejected (h : Kept s) (hvideo : s.video = some v) (hm : s.media = some m)
    (hclosed : v.videoOpened = false) (hw : w.videoOpened = false) (info : VideoInfo)
    (hrefused : answer ≠ .ok) :
    Kept { s with
      media := some m
      video := some w
      calls := s.calls ++
        [.setMedia ({ m with hasVideo := true, video := info } : NativeMedia).tracks answer] } := by
  have hlinked := h.linked
  rw [hm] at hlinked
  have hretracked := hlinked.retracked answer
    { m with hasVideo := true, video := info } (.inr rfl)
  rw [if_neg hrefused] at hretracked
  refine ⟨⟨hretracked, nofun, ?_, ?_⟩, ?_⟩
  · dsimp only
    rw [pipeline_snoc, Pipeline.after, if_neg hrefused]
    intro hsome
    rcases h.freed hsome with hstuck | ⟨u, hu, huopened⟩
    · left
      dsimp only
      rw [hstuck]
      rfl
    · obtain rfl := Option.some.inj (hvideo.symm.trans hu)
      rw [hclosed] at huopened
      cases huopened
  · dsimp only
    rw [pipeline_snoc]
    refine h.audio.after ?_ ?_ <;> rw [Pipeline.after, if_neg hrefused]
  · intro u hu huopened
    obtain rfl := Option.some.inj hu
    rw [hw] at huopened
    cases huopened

/-- The end of a unit that is in the buffer. -/
structure Finished (v : NativeVideo) (data : Bytes) (info : AuInfo) (answers : UnitAnswers)
    (reserves : Bool) (s t : State) (result : VideoResult) : Prop where
  kept : Kept t
  handed : ∃ calls, t.calls = s.calls ++ calls ∧ Handed v data info answers calls
  follows : ∀ fresh, ∃ u, t.video = some u ∧ u.info = v.info ∧
    let r := (v.behind fresh).feedBackend info.canSeedDecoder
      { reserves, opens := answers.configured.opened, backend := answers.fed.fed }
    r.1.video = u.toNativeVideo ∧ r.2 = result

theorem feedOpened_follows (s : State) (answer : BackendNdlResult) (v : NativeVideo)
    (annexbLen : Nat) (keyframe fresh : Bool) : ∃ u,
    (s.feedOpened v annexbLen keyframe answer).1.video = some u ∧ u.info = v.info ∧
      ((v.behind fresh).feedOpened keyframe answer.fed).1.video = u.toNativeVideo ∧
      ((v.behind fresh).feedOpened keyframe answer.fed).2 =
        (s.feedOpened v annexbLen keyframe answer).2 := by
  rw [feedOpened_eq]
  cases answer <;> exact ⟨_, rfl, rfl, rfl, rfl⟩

theorem feedBackend_finished {annexb : Bytes} {info : AuInfo} (h : Kept s) (reserves : Bool)
    (hvideo : s.video = some v) (hbuffered : Buffered v data info answers)
    (hnormal : IsNormal v.codec data (annexb.take data.length)) :
    Finished v data info answers reserves s
      (s.feedBackend { v with annexb } data.length info.canSeedDecoder answers).1
      (s.feedBackend { v with annexb } data.length info.canSeedDecoder answers).2 := by
  have hlen := hnormal.length
  have hbytes : annexb.take data.length ≠ [] := by
    intro hnil
    rw [hnil] at hlen
    exact hbuffered.some (List.eq_nil_of_length_eq_zero hlen.symm)
  have hsame : Kept { s with video := some ({ v with annexb } : NativeVideo) } :=
    h.same hvideo rfl rfl id
  obtain ⟨m, hm⟩ : ∃ m, s.media = some m := by
    cases hm : s.media with
    | none =>
      rw [(h.alive hm).1] at hvideo
      cases hvideo
    | some m => exact ⟨m, rfl⟩
  rw [State.feedBackend]
  cases hopened : v.videoOpened with
  | true =>
    obtain ⟨htrack, hseeded⟩ := h.video v hvideo hopened
    obtain ⟨hseed, hwhole⟩ := hseeded.resolve_left (by rw [hbuffered.sound]; exact nofun)
    rw [if_pos rfl]
    refine ⟨feedOpened_kept hsame.toLoose hm htrack hwhole (.inr hseed) hbytes
      (hlen.trans_le hbuffered.fits) hopened, ?_, fun fresh => ?_⟩
    · rw [feedOpened_eq]
      exact ⟨_, rfl, .unit _ hbuffered hopened hnormal⟩
    · simp only [Track.feedBackend, NativeVideo.behind, hopened, if_true]
      exact feedOpened_follows s answers.fed { v with annexb } data.length info.canSeedDecoder fresh
  | false =>
    rw [if_neg nofun]
    cases hseed : info.canSeedDecoder with
    | false =>
      refine ⟨hsame, ⟨[], (List.append_nil _).symm, .nothing (.inr ⟨hopened, hseed⟩)⟩,
        fun fresh => ?_⟩
      simp only [Track.feedBackend, NativeVideo.behind, hopened, hseed]
      exact ⟨_, rfl, rfl, rfl, rfl⟩
    | true =>
      rw [if_neg (by decide), State.openStream, State.configureVideo, retrack_some hm]
      by_cases hok : answers.configured = .ok
      · have hstreamed : Loose _ :=
          h.streamed (v := { v with annexb, videoOpened := true }) hm rfl
        simp only [hok, if_true]
        refine ⟨feedOpened_kept hstreamed rfl ?_ ?_ (.inl rfl) hbytes
            (hlen.trans_le hbuffered.fits) rfl,
          ?_, fun fresh => ?_⟩
        · rw [pipeline_snoc]
          rfl
        · rw [pipeline_snoc]
          rfl
        · rw [feedOpened_eq]
          refine ⟨_, List.append_assoc .., .first _ _ hbuffered hopened hseed rfl hok hnormal⟩
        · have htrack : (v.behind fresh).feedBackend true
              { reserves, opens := answers.configured.opened, backend := answers.fed.fed } =
              (({ v with annexb, videoOpened := true } : NativeVideo).behind true).feedOpened true
                answers.fed.fed := by
            simp [Track.feedBackend, NativeVideo.behind, hopened, hok, BackendNdlResult.opened]
          rw [hseed, htrack]
          exact feedOpened_follows _ _ { v with annexb, videoOpened := true } data.length true true
      · have hrejected := h.rejected (w := ({ v with annexb } : NativeVideo).fail) hvideo hm hopened
          hopened ({ v with annexb } : NativeVideo).info hok
        cases hanswer : answers.configured
        case ok => exact absurd hanswer hok
        all_goals
          rw [hanswer] at hok hrejected
          refine ⟨hrejected, ⟨_, rfl, .refused _ _ hbuffered hopened hseed rfl hanswer hok⟩,
            fun fresh => ?_⟩
          simp only [Track.feedBackend, NativeVideo.behind, hopened, hseed, hanswer]
          exact ⟨_, rfl, rfl, rfl, rfl⟩

/-- A unit that is refused ends its decoder. -/
theorem Kept.refuse (h : Kept s) (hvideo : s.video = some v) (annexb : Bytes) :
    Kept { s with video := some ({ v with annexb } : NativeVideo).fail } :=
  h.same hvideo rfl rfl fun _ => rfl

/-- Whatever the unit and the answers, the adapter stays in its buffers, hands over the
unit or nothing, and does as the decoder's own model does with the caller's scan. -/
theorem videoFeed_through (hsize : maxAuBytes ≤ sizeMax) (h : Kept s) (hvideo : s.video = some v)
    (data : Bytes) (answers : UnitAnswers) :
    ∃ t result, s.videoFeed sizeMax v data answers = some (t, result) ∧
      Through sizeMax s v data answers t result := by
  have hidle : ∀ result, ¬Buffered v data (scanAu sizeMax v.codec data) answers →
      (∀ fresh, ((v.behind fresh).feed (scanAu sizeMax v.codec data) data
        (unitAnswers v data answers)) = (v.behind fresh, result)) →
      Through sizeMax s v data answers s result := by
    intro result hnot hfeed
    refine ⟨h, ⟨[], (List.append_nil _).symm, .nothing (.inl hnot)⟩,
      fun fresh => ⟨v, hvideo, rfl, ?_⟩⟩
    rw [hfeed]
    exact ⟨rfl, rfl⟩
  have hended : ∀ annexb, ¬Buffered v data (scanAu sizeMax v.codec data) answers →
      (∀ fresh, ((v.behind fresh).feed (scanAu sizeMax v.codec data) data
        (unitAnswers v data answers)) = ((v.behind fresh).fail, .error)) →
      Through sizeMax s v data answers
        { s with video := some ({ v with annexb } : NativeVideo).fail } .error := by
    intro annexb hnot hfeed
    refine ⟨h.refuse hvideo annexb, ⟨[], (List.append_nil _).symm, .nothing (.inl hnot)⟩,
      fun fresh => ⟨_, rfl, rfl, ?_⟩⟩
    rw [hfeed]
    exact ⟨rfl, rfl⟩
  rw [State.videoFeed]
  by_cases hdata : data = []
  · rw [if_pos hdata]
    exact ⟨_, _, rfl, hidle _ (fun hin => hin.some hdata) fun fresh => by
      rw [Track.feed, if_pos hdata]⟩
  · rw [if_neg hdata]
    by_cases hfailed : v.terminalError = true
    · rw [if_pos hfailed]
      have hnot : ¬Buffered v data (scanAu sizeMax v.codec data) answers := by
        intro hin
        rw [hin.sound] at hfailed
        cases hfailed
      refine ⟨_, _, rfl, hidle _ hnot fun fresh => ?_⟩
      rw [Track.feed, if_neg hdata, if_pos (by exact hfailed)]
    · rw [if_neg hfailed]
      by_cases hlong : maxAuBytes < data.length
      · rw [if_pos hlong]
        refine ⟨_, _, rfl, hended v.annexb (fun hin => absurd hin.fits (Nat.not_le.2 hlong))
          fun fresh => ?_⟩
        rw [Track.feed, if_neg hdata, if_neg (by exact hfailed), if_pos hlong]
      · rw [if_neg hlong]
        have hcap : data.length ≤ maxAuBytes := Nat.le_of_not_lt hlong
        obtain ⟨annexb, ready, heq, hready⟩ :=
          normalize_cases v data answers.memory hsize hcap
        rw [heq, Option.map_some]
        have hfeed : ∀ fresh, (v.behind fresh).feed (scanAu sizeMax v.codec data) data
            (unitAnswers v data answers) =
              if !(scanAu sizeMax v.codec data).valid || !(unitAnswers v data answers).reserves then
                ((v.behind fresh).fail, .error)
              else (v.behind fresh).feedBackend (scanAu sizeMax v.codec data).canSeedDecoder
                (unitAnswers v data answers) := by
          intro fresh
          rw [Track.feed, if_neg hdata, if_neg (by exact hfailed), if_neg hlong]
        cases ready with
        | none =>
          have hnot : ¬Buffered v data (scanAu sizeMax v.codec data) answers := by
            intro hin
            rcases hready with hinvalid | ⟨hshort, hmemory⟩
            · exact absurd (hinvalid.symm.trans hin.valid) nofun
            · exact hin.room.elim (Nat.not_le.2 hshort) (absurd hmemory)
          refine ⟨_, _, rfl, hended annexb hnot fun fresh => ?_⟩
          rw [hfeed, if_pos]
          rcases hready with hinvalid | ⟨hshort, hmemory⟩
          · rw [hinvalid]
            rfl
          · rw [Bool.or_eq_true]
            right
            simp [unitAnswers, hmemory, hshort]
        | some ready =>
          obtain ⟨hvalid, hroom, rfl, hnormal⟩ := hready
          have hreserves : (unitAnswers v data answers).reserves = true := by
            rcases hroom with hfits | hmemory
            · simp [unitAnswers, hfits]
            · simp [unitAnswers, Option.isSome_iff_ne_none.2 hmemory]
          have hfinished := feedBackend_finished h (unitAnswers v data answers).reserves hvideo
            ⟨Bool.eq_false_iff.2 hfailed, hdata, hcap, hvalid, hroom⟩ hnormal
          refine ⟨_, _, rfl, hfinished.kept, hfinished.handed, fun fresh => ?_⟩
          have hfed := (hfeed fresh).trans (if_neg (by rw [hvalid, hreserves]; decide))
          obtain ⟨u, hu, hinfo, hfollows⟩ := hfinished.follows fresh
          refine ⟨u, hu, hinfo, ?_⟩
          rw [hfed]
          exact hfollows

section Machine

variable {supported : UInt32 → Bool} {tr : List (Action × Unit)}

theorem openVideo_kept (h : Kept s) (hnone : s.video = none) (width height fps : UInt16)
    (codec : VideoCodec) (allocates : Bool) :
    Kept { s with video := s.videoOpen width height fps codec allocates } := by
  have hclosed : ∀ v, s.videoOpen width height fps codec allocates = some v →
      v.videoOpened = false ∧ s.media ≠ none := by
    intro v hv
    rw [State.videoOpen] at hv
    split_ifs at hv with hsize hm
    all_goals cases hv
    all_goals exact ⟨rfl, fun hnil => hm (by rw [hnil]; rfl)⟩
  generalize s.videoOpen width height fps codec allocates = video at hclosed
  refine ⟨⟨h.linked, fun hm => ⟨?_, (h.alive hm).2⟩, fun hsome => ?_, h.audio⟩, ?_⟩
  · cases video with
    | none => rfl
    | some v => exact absurd hm (hclosed v rfl).2
  · refine (h.freed hsome).imp_right ?_
    rintro ⟨v, hv, -⟩
    rw [hnone] at hv
    cases hv
  · intro v hv hopened
    rw [(hclosed v hv).1] at hopened
    cases hopened

/-- Every call keeps the tracks in step, and none leaves a buffer. -/
theorem step_kept (supported : UInt32 → Bool) (hsize : maxAuBytes ≤ sizeMax) (h : Kept s)
    (action : Action) :
    ∃ t, step sizeMax supported s action = some t ∧ Kept t := by
  cases action with
  | attachAudio answers => exact ⟨_, rfl, attachAudio_kept h⟩
  | openVideo width height fps codec allocates =>
    rw [step]
    split
    · exact ⟨s, rfl, h⟩
    · rename_i hnone
      exact ⟨_, rfl, openVideo_kept h (Option.not_isSome_iff_eq_none.1 hnone) ..⟩
  | feedVideo data answers =>
    rw [step]
    cases hvideo : s.video with
    | none => exact ⟨s, rfl, h⟩
    | some v =>
      obtain ⟨t, result, heq, hthrough⟩ := videoFeed_through hsize h hvideo data answers
      refine ⟨t, ?_, hthrough.kept⟩
      dsimp only
      rw [heq]
      rfl
  | closeVideo answer => exact ⟨_, rfl, videoClose_kept h.toLoose⟩
  | audioFormat answers => exact ⟨_, rfl, audioFormat_kept h⟩
  | feedAudio samples answer => exact ⟨_, rfl, audioPipelineFeedCb_kept h⟩
  | stopMedia audioCleared videoCleared => exact ⟨_, rfl, stopMedia_kept h⟩

theorem run_kept (hsize : maxAuBytes ≤ sizeMax) (hrun : (adapters sizeMax supported).Run tr s) :
    Kept s := by
  refine hrun.invariant Kept.nil ?_
  intro s a t e hkept hstep
  obtain ⟨u, heq, hu⟩ := step_kept supported hsize hkept a
  simp only [adapters, heq, Option.map_some, Option.some.injEq, Prod.mk.injEq] at hstep
  exact hstep.1 ▸ hu

/-- In every run the media object and the pipeline know the same tracks. Each request to
the backend changes one track at most; a unit goes only to a pipeline that is loaded
with the track of its decoder, with a decoder seed first after every load and none behind a
failure; a block only to the mixed track, and none behind a failure; and only a backend
that refuses to let go has a video track without a decoder. No call leaves a buffer. -/
theorem tracks_in_step (hsize : maxAuBytes ≤ sizeMax)
    (hrun : (adapters sizeMax supported).Run tr s) :
    Throughout (fun before call => (pipeline before).Allows call) s.calls ∧ Kept s ∧
      ∀ action, ((adapters sizeMax supported).step s action).isSome := by
  have hkept := run_kept hsize hrun
  refine ⟨hkept.linked.ledger, hkept, fun action => ?_⟩
  obtain ⟨t, heq, -⟩ := step_kept supported hsize hkept action
  simp only [adapters, heq, Option.map_some, Option.isSome_some]

/-- Parameter sets with a refresh, and a unit that needs them. -/
def seedUnit : Bytes := encodeAvc [[0x67, 0x42], [0x68, 0xce], [0x65, 0x88]]
def deltaUnit : Bytes := encodeAvc [[0x61, 0x9a]]

/-- Audio comes late, the backend keeps the video track it should let go, and the mix fails. -/
def lateAudio : List Action :=
  [.attachAudio { pipelineReady := false }, .openVideo 640 480 0 .h264 true,
    .feedVideo deltaUnit {}, .feedVideo seedUnit {}, .feedVideo deltaUnit {},
    .audioFormat { cleared := .error }, .feedAudio [1, 2, 3, 4] .error,
    .feedAudio [1, 2, 3, 4] .ok, .openVideo 640 480 0 .h264 true, .feedVideo deltaUnit {},
    .feedVideo seedUnit {}]

theorem tracks_in_step_late_audio : ∃ (tr : List (Action × Unit)) (s : State),
    (adapters (2 ^ 32 - 1) fun _ => true).Run tr s ∧ s.calls.length = 9 ∧
      Throughout (fun before call => (pipeline before).Allows call) s.calls ∧ Kept s ∧
        ∀ action, ((adapters (2 ^ 32 - 1) fun _ => true).step s action).isSome := by
  have hrun := Machine.run_of_exec (M := adapters (2 ^ 32 - 1) fun _ => true) lateAudio
    (by decide +kernel)
  exact ⟨_, _, hrun, by decide +kernel, tracks_in_step (by decide) hrun⟩

/-- In every run, whatever the unit and the answers: the decoder's track does as the
decoder's own model does with the caller's scan of the unit, and the backend gets the
unit with its start codes and the scan's verdict, behind the request that opens the track
when it is the first, or that request alone when it is refused. It gets nothing just
when the unit is not one for the buffer, or the stream is not open and it is no seed. -/
theorem units_normalized (hsize : maxAuBytes ≤ sizeMax)
    (hrun : (adapters sizeMax supported).Run tr s) (hvideo : s.video = some v) (data : Bytes)
    (answers : UnitAnswers) :
    ∃ t result, s.videoFeed sizeMax v data answers = some (t, result) ∧
      Through sizeMax s v data answers t result :=
  videoFeed_through hsize (run_kept hsize hrun) hvideo data answers

theorem units_normalized_delta : ∃ (tr : List (Action × Unit)) (s : State) (v : NativeVideo),
    (adapters (2 ^ 32 - 1) fun _ => true).Run tr s ∧ s.video = some v ∧ v.videoOpened = true ∧
      ∃ t result, s.videoFeed (2 ^ 32 - 1) v deltaUnit {} = some (t, result) ∧
        Through (2 ^ 32 - 1) s v deltaUnit {} t result := by
  have hrun := Machine.run_of_exec (M := adapters (2 ^ 32 - 1) fun _ => true) (lateAudio.take 4)
    (by decide +kernel)
  have hopen : (((adapters (2 ^ 32 - 1) fun _ => true).exec {} (lateAudio.take 4)).get
      (by decide +kernel)).1.video.map (·.videoOpened) = some true := by decide +kernel
  obtain ⟨v, hvideo, hopened⟩ := Option.map_eq_some_iff.1 hopen
  exact ⟨_, _, v, hrun, hvideo, hopened, units_normalized (by decide) hrun hvideo deltaUnit {}⟩

end Machine

end Lgnome.Ndl
