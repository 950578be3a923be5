import Lgnome.Rdpeai.Stream

/-!
# Incarnations of the audio-input channel

One processor serves the channel however often the server opens it. What belongs
to one incarnation is kept apart only by the order in which a server goes about
things: formats before Open, no start over an open stream, no late close.
-/
namespace Lgnome.Rdpeai

open Lgnome.Transition

/-- A Formats PDU that offers the client's format. -/
def formatsExchanged (payload : Bytes) : Bool :=
  payload.head? == some msgFormats && serverOffersPcm payload

/-- The step starts a stream. -/
def AudioSeen.starts (seen : AudioSeen) : Bool :=
  seen.callbacks.any fun callback =>
    match callback with
    | .start _ _ _ _ => true
    | .stop _ => false

/-- Formats were exchanged behind the latest channel start. -/
def FormatsSince (rec : AudioRecord) : Prop :=
  ∃ before channelId payload seen after,
    rec = before ++ (.process channelId payload, seen) :: after ∧ formatsExchanged payload ∧
      ∀ x ∈ after, ∀ other, x.1 ≠ .start other

/-- A stream was opened on the channel behind its latest start. -/
def OpenedSince (channelId : UInt32) (rec : AudioRecord) : Prop :=
  ∃ before payload seen after,
    rec = before ++ (.process channelId payload, seen) :: after ∧ seen.starts ∧
      ∀ x ∈ after, x.1 ≠ .start channelId

/-- Whether formats were exchanged since the latest start. -/
def exchangedAfter (exchanged : Bool) (_ : AudioInputHandler) (action : AudioAction)
    (_ : AudioInputHandler) (_ : AudioSeen) : Bool :=
  match action with
  | .start _ => false
  | .process _ payload => exchanged || formatsExchanged payload
  | _ => exchanged

/-- What keeps incarnations apart: no channel starts over an open stream, no Version
and no close of another channel comes to an open stream, and a valid Open comes
behind its own incarnation's formats, unless none were ever exchanged. -/
def Separated (s : AudioInputHandler × Bool) : AudioAction → Prop
  | .start _ => s.1.bridge.isOpen = false
  | .process channelId payload =>
    (payload.head? = some msgVersion → s.1.bridge.isOpen = true →
      s.1.bridge.channelId = some channelId) ∧
    (payload.head? = some msgOpen → openValid payload = true → s.1.offeredFormat = true →
      s.2 = true)
  | .close channelId => s.1.bridge.isOpen = true → s.1.bridge.channelId = some channelId
  | _ => True

instance (s : AudioInputHandler × Bool) (action : AudioAction) : Decidable (Separated s action) :=
  match action with
  | .start _ => inferInstanceAs (Decidable (_ = _))
  | .process _ _ => inferInstanceAs (Decidable ((_ → _ → _) ∧ (_ → _ → _ → _)))
  | .close _ => inferInstanceAs (Decidable (_ → _))
  | .stop => inferInstanceAs (Decidable True)
  | .submitPcm _ _ => inferInstanceAs (Decidable True)

def separateAudio : Machine (AudioInputHandler × Bool) AudioAction AudioSeen :=
  (audioInput.withGhost false exchangedAfter).restrict Separated

/-- What belongs to the current incarnation, as the record has it. -/
structure Incarnate (rec : AudioRecord) (s : AudioInputHandler × Bool) : Prop where
  exchanged : s.2 = true → FormatsSince rec
  opened : s.1.bridge.isOpen = true →
    ∃ channelId, s.1.bridge.channelId = some channelId ∧ OpenedSince channelId rec

section Records

variable {rec : AudioRecord} {action : AudioAction} {seen : AudioSeen}

theorem FormatsSince.snoc (h : FormatsSince rec) (haction : ∀ other, action ≠ .start other) :
    FormatsSince (rec ++ [(action, seen)]) := by
  obtain ⟨before, channelId, payload, seen', after, rfl, hformats, hafter⟩ := h
  refine ⟨before, channelId, payload, seen', after ++ [(action, seen)], by simp, hformats, ?_⟩
  intro x hx
  rcases List.mem_append.mp hx with hx | hx
  · exact hafter x hx
  · obtain rfl := List.mem_singleton.mp hx
    exact haction

theorem OpenedSince.snoc {channelId : UInt32} (h : OpenedSince channelId rec)
    (haction : action ≠ .start channelId) : OpenedSince channelId (rec ++ [(action, seen)]) := by
  obtain ⟨before, payload, seen', after, rfl, hstarts, hafter⟩ := h
  refine ⟨before, payload, seen', after ++ [(action, seen)], by simp, hstarts, ?_⟩
  intro x hx
  rcases List.mem_append.mp hx with hx | hx
  · exact hafter x hx
  · obtain rfl := List.mem_singleton.mp hx
    exact haction

end Records

variable {rec : AudioRecord} {h : AudioInputHandler} {exchanged : Bool}

theorem openStream_starts {seen : AudioSeen} {channelId : UInt32} {frames : Nat}
    (hcallbacks : seen.callbacks = (h.openStream channelId frames).2) : seen.starts = true := by
  simp [AudioSeen.starts, hcallbacks, openStream_callbacks]

/-- Only a valid Open PDU starts a stream, and only behind formats. -/
theorem starts_cases {action : AudioAction} (hstarts : (h.apply action).2.starts = true) :
    ∃ channelId payload, action = .process channelId payload ∧ payload.head? = some msgOpen ∧
      openValid payload = true ∧ h.offeredFormat = true := by
  have hcases := apply_cases h action
  generalize h.apply action = result at hcases hstarts
  cases hcases with
  | quiet hbridge hcallbacks => simp [AudioSeen.starts, hcallbacks] at hstarts
  | bound channelId version haction hcallbacks => simp [AudioSeen.starts, hcallbacks] at hstarts
  | opened channelId payload hhead hoffered hvalid hcallbacks =>
    exact ⟨channelId, payload, rfl, hhead, hvalid, hoffered⟩
  | stopped haction hcallbacks =>
    simp only [AudioSeen.starts, hcallbacks, AudioInputHandler.stop] at hstarts
    split at hstarts <;> simp at hstarts

theorem Incarnate.exchanged_next (hi : Incarnate rec (h, exchanged)) (action : AudioAction)
    (seen : AudioSeen)
    (hnext : exchangedAfter exchanged h action (h.apply action).1 seen = true) :
    FormatsSince (rec ++ [(action, seen)]) := by
  cases action with
  | start channelId => cases hnext
  | process channelId payload =>
    rcases Bool.or_eq_true _ _ ▸ hnext with hbefore | hnow
    · exact (hi.exchanged hbefore).snoc (by simp)
    · exact ⟨rec, channelId, payload, seen, [], rfl, hnow, by simp⟩
  | close channelId => exact (hi.exchanged hnext).snoc (by simp)
  | stop => exact (hi.exchanged hnext).snoc (by simp)
  | submitPcm generation data => exact (hi.exchanged hnext).snoc (by simp)

theorem Incarnate.next (hi : Incarnate rec (h, exchanged)) {action : AudioAction}
    (hsep : Separated (h, exchanged) action) :
    Incarnate (rec ++ [(action, (h.apply action).2)])
      ((h.apply action).1, exchangedAfter exchanged h action (h.apply action).1
        (h.apply action).2) := by
  refine ⟨hi.exchanged_next action _, ?_⟩
  have hcases := apply_cases h action
  generalize h.apply action = result at hcases
  intro hopen
  cases hcases with
  | quiet hbridge hcallbacks =>
    have hwas : h.bridge.isOpen = true := by rw [← hbridge]; exact hopen
    obtain ⟨channelId, hchannel, hsince⟩ := hi.opened hwas
    refine ⟨channelId, by rw [hbridge]; exact hchannel, hsince.snoc ?_⟩
    -- No channel starts over an open stream.
    rintro rfl
    rw [show h.bridge.isOpen = false from hsep] at hwas
    cases hwas
  | bound channelId version haction hcallbacks =>
    have hwas : h.bridge.isOpen = true := hopen
    rcases haction with rfl | ⟨payload, rfl, hhead⟩
    · rw [show h.bridge.isOpen = false from hsep] at hwas
      cases hwas
    · obtain ⟨current, hchannel, hsince⟩ := hi.opened hwas
      have hsame : h.bridge.channelId = some channelId := hsep.1 hhead hwas
      rw [show h.bridge.channelId = some current from hchannel] at hsame
      obtain rfl := Option.some.inj hsame
      exact ⟨current, rfl, hsince.snoc (by simp)⟩
  | opened channelId payload hhead hoffered hvalid hcallbacks =>
    exact ⟨channelId, rfl, rec, payload, _, [], rfl, openStream_starts hcallbacks, by simp⟩
  | stopped haction hcallbacks =>
    have hclosed : h.stop.1.bridge.isOpen = false := by
      unfold AudioInputHandler.stop
      split
      · rfl
      · rename_i hnot
        simpa using hnot
    rw [show h.stop.1.bridge.isOpen = true from hopen] at hclosed
    cases hclosed

theorem incarnate_run {s : AudioInputHandler × Bool} (hrun : separateAudio.Run rec s) :
    Incarnate rec s := by
  refine hrun.history (I := Incarnate) ⟨by simp [separateAudio, Machine.restrict, Machine.withGhost],
    by simp [separateAudio, Machine.restrict, Machine.withGhost, audioInput]⟩ ?_
  intro rec s action t seen hi hstep
  obtain ⟨hsep, hghost⟩ := Machine.restrict_step.mp hstep
  obtain ⟨happly, hnext⟩ := Machine.withGhost_step.mp hghost
  have hresult : s.1.apply action = (t.1, seen) := Option.some.inj happly
  have hkept := Incarnate.next (h := s.1) hi hsep
  rw [hresult] at hkept
  have hpair : (t.1, exchangedAfter s.2 s.1 action t.1 seen) = t := by rw [← hnext]
  rwa [hpair] at hkept

/-- **Incarnations apart.** What the next step does in a run that meets the condition. -/
theorem channel_isolation (hrun : separateAudio.Run rec (h, exchanged)) :
    (∀ channelId payload, Separated (h, exchanged) (.process channelId payload) →
      (h.apply (.process channelId payload)).2.starts = true → FormatsSince rec) ∧
    (∀ generation data channelId packet,
      h.bridge.submitPcm generation data = some (channelId, packet) → OpenedSince channelId rec) ∧
    (∀ channelId, Separated (h, exchanged) (.close channelId) → h.bridge.channelId ≠ some channelId →
      (h.close channelId).2.callbacks = [] ∧
        (h.bridge.isOpen = true → (h.close channelId).1.bridge = h.bridge)) := by
  have hi := incarnate_run hrun
  refine ⟨?_, ?_, ?_⟩
  · intro channelId payload hsep hstarts
    obtain ⟨_, _, haction, hhead, hvalid, hoffered⟩ := starts_cases hstarts
    obtain ⟨rfl, rfl⟩ := AudioAction.process.inj haction
    exact hi.exchanged (hsep.2 hhead hvalid hoffered)
  · intro generation data channelId packet hsent
    unfold AudioInputState.submitPcm at hsent
    dsimp only at hsent
    split at hsent
    · cases hsent
    · rename_i haccepted
      obtain ⟨current, hchannel, hpair⟩ := Option.map_eq_some_iff.mp hsent
      obtain ⟨rfl, -⟩ := Prod.mk.inj hpair
      have hopen : h.bridge.isOpen = true := by
        cases hopen : h.bridge.isOpen with
        | true => rfl
        | false => simp [hopen] at haccepted
      obtain ⟨opened, hopened, hsince⟩ := hi.opened hopen
      rw [show h.bridge.channelId = some opened from hopened] at hchannel
      obtain rfl := Option.some.inj hchannel
      exact hsince
  · intro channelId hsep hother
    have hclosed : h.bridge.isOpen = false := by
      cases hopen : h.bridge.isOpen with
      | false => rfl
      | true => exact absurd (hsep hopen) hother
    constructor
    · simp [AudioInputHandler.close, AudioInputHandler.stop, hclosed]
    · intro hopen
      rw [hclosed] at hopen
      cases hopen

/-- One incarnation closed and the next one with formats of its own. -/
def twoIncarnations : List AudioAction :=
  [.start 9, .process 9 clientFormats, .process 9 openPdu, .close 9, .start 10,
    .process 10 clientFormats, .process 10 openPdu]

theorem twoIncarnations_accepted :
    (separateAudio.exec separateAudio.init twoIncarnations).isSome := by
  decide +kernel

/-- The second incarnation sends on its own stream. -/
theorem channel_isolation_two : ∃ rec h exchanged, separateAudio.Run rec (h, exchanged) ∧
    h.bridge.submitPcm 3 [0, 0, 0, 0] = some (10, [[5], [6, 0, 0, 0, 0]]) ∧
    OpenedSince 10 rec := by
  have hrun := Machine.run_of_exec twoIncarnations twoIncarnations_accepted
  have hsent : ((separateAudio.exec separateAudio.init twoIncarnations).get
      twoIncarnations_accepted).1.1.bridge.submitPcm 3 [0, 0, 0, 0]
        = some (10, [[5], [6, 0, 0, 0, 0]]) := by decide +kernel
  exact ⟨_, _, _, hrun, hsent, (channel_isolation hrun).2.1 _ _ _ _ hsent⟩

/-- Formats and a stream on channel 9, and channel 10 started before 9 is closed. -/
def restarted : List (AudioAction × AudioSeen) :=
  [(.start 9, .handled {}), (.process 9 clientFormats, offered), (.process 9 openPdu, opened),
    (.start 10, .handled {})]

/-- The handler then: the stream of channel 9 is bound to channel 10. -/
def carriedOver : AudioInputHandler where
  bridge := { (streaming 1).bridge with channelId := some 10 }
  offeredFormat := true

theorem restarted_run : audioInput.Run restarted carriedOver := by
  have h1 : audioInput.step {} (.start 9) = some ({ bridge := { channelId := some 9 } }, .handled {}) :=
    rfl
  have h2 : audioInput.step { bridge := { channelId := some 9 } } (.process 9 clientFormats)
      = some ({ bridge := { channelId := some 9 }, offeredFormat := true }, offered) := by
    decide +kernel
  have h3 : audioInput.step { bridge := { channelId := some 9 }, offeredFormat := true }
      (.process 9 openPdu) = some (streaming 1, opened) := by decide +kernel
  have h4 : audioInput.step (streaming 1) (.start 10) = some (carriedOver, .handled {}) := rfl
  exact (((Machine.Path.single h1).snoc h2).snoc h3).snoc h4

/-- Channel 10 is sent the audio of a stream it has not opened, may open one without
formats, and loses it when channel 9 is closed. -/
theorem incarnations_mixed : audioInput.Run restarted carriedOver ∧
    ((carriedOver.apply (.process 10 openPdu)).2.starts = true ∧ ¬ FormatsSince restarted) ∧
    (carriedOver.bridge.submitPcm 1 [0, 0, 0, 0] = some (10, [[5], [6, 0, 0, 0, 0]]) ∧
      ¬ OpenedSince 10 restarted) ∧
    (carriedOver.bridge.channelId ≠ some 9 ∧ carriedOver.bridge.isOpen = true ∧
      (carriedOver.close 9).1.bridge.isOpen = false) := by
  refine ⟨restarted_run, ⟨by decide +kernel, ?_⟩, ⟨by decide +kernel, ?_⟩, by decide +kernel⟩
  · -- Whatever stands behind a PDU of the record ends with the start of channel 10.
    rintro ⟨before, channelId, payload, seen, after, hrec, -, hafter⟩
    have hlast : restarted.getLast? = some (.start 10, .handled {}) := rfl
    rw [hrec, List.getLast?_append, List.getLast?_cons] at hlast
    cases hend : after.getLast? with
    | none => simp [hend] at hlast
    | some last =>
      have hstart : last = (.start 10, .handled {}) := by simpa [hend] using hlast
      have hmem := List.mem_of_getLast? hend
      exact hafter last hmem 10 (by rw [hstart])
  · rintro ⟨before, payload, seen, after, hrec, -, -⟩
    have hmem : (AudioAction.process 10 payload, seen) ∈ restarted := by
      rw [hrec]
      exact List.mem_append_right _ List.mem_cons_self
    simp [restarted] at hmem

end Lgnome.Rdpeai
