import Lgnome.Rdpecam.Lifecycle

/-!
# Stale processors

The server reuses channel ids, so a processor of a device that is gone may be
called on the channel of the present one. Its token tells it apart: once stale
it stays stale, and none of its calls is seen by the bridge, by the application
or by the server. Deleting those calls from a run changes nothing else.
-/
namespace Lgnome.Rdpecam

open Lgnome.Transition

/-- The token was retired, or a younger device has taken over. -/
def CameraState.stale (s : CameraState) (token : Nat) : Bool :=
  decide (token ≤ s.retiredThroughToken) ||
    s.deviceInstance.any fun d => decide (token < d.token)

section Tokens

variable {s t : CameraState} {token : Nat}

theorem stale_iff : s.stale token = true ↔
    token ≤ s.retiredThroughToken ∨
      ∃ d : DeviceInstance, s.deviceInstance = some d ∧ token < d.token := by
  simp [CameraState.stale, Option.any_eq_true]

/-- No call makes a stale token good again. -/
theorem stale_tokenStep (h : TokenStep s t) (hs : s.stale token = true) :
    t.stale token = true := by
  rw [stale_iff] at hs ⊢
  rcases hs with hle | ⟨d, hd, hlt⟩
  · exact .inl (hle.trans h.retired)
  · rcases h.device d hd with ⟨d', hd', hle⟩ | hle
    · exact .inr ⟨d', hd', hlt.trans_le hle⟩
    · exact .inl (hlt.le.trans hle)

/-- A stale processor is not attached to the current device, on any channel. -/
theorem not_current_of_stale (h : s.WellFormed) {d : CameraDevice} (hs : s.stale d.token = true)
    (ch : Nat) : s.deviceInstance ≠ some ⟨d.token, ch⟩ := by
  intro hd
  rcases stale_iff.mp hs with hle | ⟨d', hd', hlt⟩
  · have hret := (h.device _ hd).2.2.1
    change s.retiredThroughToken < d.token at hret
    omega
  · obtain rfl := Option.some.inj (hd.symm.trans hd')
    exact absurd hlt (lt_irrefl _)

theorem stale_start {d : CameraDevice} (hs : s.stale d.token = true) (ch : Nat) :
    d.start s ch = ({ d with channelId := some ch }, s, {}) := by
  have hblocked : s.available = false ∨ s.advertised = false ∨ d.token ≤ s.retiredThroughToken ∨
      (s.deviceInstance.any fun current => decide (current.token > d.token)) = true := by
    rcases stale_iff.mp hs with hle | ⟨c, hc, hlt⟩
    · exact .inr (.inr (.inl hle))
    · exact .inr (.inr (.inr (by simpa [hc] using hlt)))
  simp only [CameraDevice.start]
  rw [if_pos hblocked]

theorem stale_process (h : s.WellFormed) {d : CameraDevice} (hs : s.stale d.token = true)
    (ch : Nat) (payload : Bytes) : d.processRequest s ch payload = (s, {}) := by
  have hcur : d.isCurrent s ch = false := by
    simp [CameraDevice.isCurrent, not_current_of_stale h hs ch]
  simp [CameraDevice.processRequest, hcur]

theorem stale_close (h : s.WellFormed) {d : CameraDevice} (hs : s.stale d.token = true)
    (ch : Nat) : (d.close s ch).1.token = d.token ∧ (d.close s ch).2 = (s, {}) := by
  unfold CameraDevice.close
  split
  · exact ⟨rfl, rfl⟩
  · simp only [if_pos (not_current_of_stale h hs ch), and_self]

end Tokens

/-- The device processor that a call goes to. -/
def CameraAction.device? : CameraAction → Option Nat
  | .deviceStart i _ => some i
  | .deviceProcess i _ _ => some i
  | .deviceClose i _ => some i
  | _ => none

/-- The call goes to a processor that is stale when the call is made. -/
def staleStep (s : CameraSystem) (a : CameraAction) : Bool :=
  a.device?.any fun i => s.devices[i]?.any fun d => s.bridge.stale d.token

/-- The second system has the same bridge and enumerators, and differs at most in
the channels that stale processors remember. -/
structure Agree (s s' : CameraSystem) : Prop where
  bridge : s'.bridge = s.bridge
  enumerators : s'.enumerators = s.enumerators
  tokens : s'.devices.map CameraDevice.token = s.devices.map CameraDevice.token
  live : ∀ (i : Nat) (d : CameraDevice), s.devices[i]? = some d →
    s.bridge.stale d.token = false → s'.devices[i]? = some d

theorem map_token_set {ds : List CameraDevice} {i : Nat} {d d' : CameraDevice}
    (hd : ds[i]? = some d) (ht : d'.token = d.token) :
    (ds.set i d').map CameraDevice.token = ds.map CameraDevice.token := by
  apply List.ext_getElem?
  intro j
  rw [List.getElem?_map, List.getElem?_map, List.getElem?_set]
  by_cases hij : i = j
  · subst hij
    simp only [if_true, hd, Option.map_some]
    split
    · simp [ht]
    · rename_i hlt
      rw [List.getElem?_eq_none (by omega)] at hd
      cases hd
  · rw [if_neg hij]

section Steps

variable {s s' t u : CameraSystem} {a : CameraAction} {o : CameraOutput}

theorem Agree.refl (s : CameraSystem) : Agree s s :=
  ⟨rfl, rfl, rfl, fun _ _ hd _ => hd⟩

theorem Agree.trans (h : Agree t s) (h' : Agree s s') : Agree t s' := by
  refine ⟨h'.bridge.trans h.bridge, h'.enumerators.trans h.enumerators,
    h'.tokens.trans h.tokens, ?_⟩
  intro i d hd hs
  exact h'.live i d (h.live i d hd hs) (h.bridge ▸ hs)

/-- Only the called processor may have changed, and it is stale. -/
theorem Agree.of_set {i : Nat} {d d' : CameraDevice} (hb : s.bridge = t.bridge)
    (he : s.enumerators = t.enumerators) (hd : s.devices[i]? = some d)
    (hs : s.bridge.stale d.token = true) (hset : t.devices = s.devices.set i d')
    (ht : d'.token = d.token) : Agree t s := by
  refine ⟨hb, he, ?_, ?_⟩
  · rw [hset, map_token_set hd ht]
  · intro j c hc hlive
    rw [hset, List.getElem?_set] at hc
    by_cases hij : i = j
    · rw [if_pos hij] at hc
      split at hc
      · obtain rfl := Option.some.inj hc
        rw [← hb, ht, hs] at hlive
        cases hlive
      · cases hc
    · rwa [if_neg hij] at hc

/-- A call to a stale processor leaves the bridge alone, makes no callback and
returns no message; only the processor itself may record a channel. -/
theorem step_stale (h : s.WellFormed) (hst : staleStep s a = true)
    (hstep : s.step a = some (t, o)) : Agree t s ∧ o = {} := by
  cases camera_step_cases hstep with
  | @deviceStart i ch d hd =>
    have hs : s.bridge.stale d.token = true := by
      simpa [staleStep, CameraAction.device?, hd] using hst
    rw [stale_start hs ch]
    exact ⟨.of_set rfl rfl hd hs rfl rfl, rfl⟩
  | @deviceProcess i ch payload d hd =>
    have hs : s.bridge.stale d.token = true := by
      simpa [staleStep, CameraAction.device?, hd] using hst
    rw [stale_process h.bridge hs ch payload]
    exact ⟨⟨rfl, rfl, rfl, fun _ _ hd _ => hd⟩, rfl⟩
  | @deviceClose i ch d hd =>
    have hs : s.bridge.stale d.token = true := by
      simpa [staleStep, CameraAction.device?, hd] using hst
    obtain ⟨ht, hr⟩ := stale_close h.bridge hs ch
    rw [hr]
    exact ⟨.of_set rfl rfl hd hs rfl ht, rfl⟩
  | _ => simp [staleStep, CameraAction.device?] at hst

/-- Agreement survives a step that leaves all processors alone. -/
theorem Agree.of_same {t' : CameraSystem} (h : Agree s s') (hb : t'.bridge = t.bridge)
    (he : t'.enumerators = t.enumerators) (hd : t.devices = s.devices)
    (hd' : t'.devices = s'.devices)
    (hmono : ∀ token, t.bridge.stale token = false → s.bridge.stale token = false) :
    Agree t t' := by
  refine ⟨hb, he, ?_, ?_⟩
  · rw [hd, hd', h.tokens]
  · intro i d hi hs
    rw [hd] at hi
    rw [hd']
    exact h.live i d hi (hmono _ hs)

/-- Agreement survives the same change of one processor in both systems. -/
theorem Agree.of_both_set {t' : CameraSystem} (h : Agree s s') (hb : t'.bridge = t.bridge)
    (he : t'.enumerators = t.enumerators) {i : Nat} {d : CameraDevice}
    (hd : t.devices = s.devices.set i d) (hd' : t'.devices = s'.devices.set i d)
    (hmono : ∀ token, t.bridge.stale token = false → s.bridge.stale token = false) :
    Agree t t' := by
  refine ⟨hb, he, ?_, ?_⟩
  · rw [hd, hd', List.map_set, List.map_set, h.tokens]
  · intro j c hc hs
    have hlen : s'.devices.length = s.devices.length := by
      simpa using congrArg List.length h.tokens
    rw [hd, List.getElem?_set] at hc
    rw [hd', List.getElem?_set, hlen]
    by_cases hij : i = j
    · rwa [if_pos hij] at hc ⊢
    · rw [if_neg hij] at hc ⊢
      exact h.live j c hc (hmono _ hs)

theorem live_device (h : Agree s s') {i : Nat} {d : CameraDevice} (ha : a.device? = some i)
    (hst : staleStep s a = false) (hd : s.devices[i]? = some d) : s'.devices[i]? = some d :=
  h.live i d hd (by simpa [staleStep, ha, hd] using hst)

/-- Any other call does the same in both systems and is answered alike. -/
theorem step_live (hw : s.WellFormed) (h : Agree s s') (hst : staleStep s a = false)
    (hstep : s.step a = some (t, o)) : ∃ t', s'.step a = some (t', o) ∧ Agree t t' := by
  have hmono : ∀ token, t.bridge.stale token = false → s.bridge.stale token = false := by
    intro token ht
    by_contra hs
    have hkept := stale_tokenStep (step_tokens hw hstep) (by simpa using hs)
    rw [ht] at hkept
    cases hkept
  cases camera_step_cases hstep with
  | setAvailable b =>
    refine ⟨{ s' with bridge := (setAvailable s.bridge b).1 }, ?_,
      h.of_same rfl h.enumerators rfl rfl hmono⟩
    rw [CameraSystem.step, h.bridge]
  | newEnumerator =>
    exact ⟨{ s' with enumerators := s'.enumerators ++ [{}] }, rfl,
      h.of_same h.bridge (by simp [h.enumerators]) rfl rfl hmono⟩
  | @enumeratorStart i ch e he =>
    rw [← h.enumerators] at he
    refine ⟨{ s' with
      bridge := (e.start s.bridge ch).2.1
      enumerators := s'.enumerators.set i (e.start s.bridge ch).1 }, ?_,
      h.of_same rfl (by simp [h.enumerators]) rfl rfl hmono⟩
    simp only [CameraSystem.step, he, Option.map_some, h.bridge]
  | @enumeratorProcess i ch payload e he =>
    rw [← h.enumerators] at he
    refine ⟨{ s' with bridge := (e.process s.bridge ch payload).1 }, ?_,
      h.of_same rfl h.enumerators rfl rfl hmono⟩
    simp only [CameraSystem.step, he, Option.map_some, h.bridge]
  | @enumeratorClose i ch e he =>
    rw [← h.enumerators] at he
    refine ⟨{ s' with
      bridge := (e.close s.bridge ch).2.1
      enumerators := s'.enumerators.set i (e.close s.bridge ch).1 }, ?_,
      h.of_same rfl (by simp [h.enumerators]) rfl rfl hmono⟩
    simp only [CameraSystem.step, he, Option.map_some, h.bridge]
  | createDevice =>
    refine ⟨{ s' with
      bridge := (allocateDeviceToken s.bridge).1
      devices := s'.devices ++
        ((allocateDeviceToken s.bridge).2.map fun token => { token := token }).toList },
      ?_, rfl, h.enumerators, ?_, ?_⟩
    · simp only [CameraSystem.step, h.bridge]
    · simp [h.tokens]
    · intro i d hd hs
      have hlen : s'.devices.length = s.devices.length := by
        simpa using congrArg List.length h.tokens
      simp only [List.getElem?_append, hlen] at hd ⊢
      split at hd
      · rename_i hi
        rw [if_pos hi]
        exact h.live i d hd (hmono _ hs)
      · rename_i hi
        rwa [if_neg hi]
  | @deviceStart i ch d hd =>
    have hd' := live_device h rfl hst hd
    refine ⟨{ s' with
      bridge := (d.start s.bridge ch).2.1
      devices := s'.devices.set i (d.start s.bridge ch).1 }, ?_,
      h.of_both_set rfl h.enumerators rfl rfl hmono⟩
    simp only [CameraSystem.step, hd', Option.map_some, h.bridge]
  | @deviceProcess i ch payload d hd =>
    have hd' := live_device h rfl hst hd
    refine ⟨{ s' with bridge := (d.processRequest s.bridge ch payload).1 }, ?_,
      h.of_same rfl h.enumerators rfl rfl hmono⟩
    simp only [CameraSystem.step, hd', Option.map_some, h.bridge]
  | @deviceClose i ch d hd =>
    have hd' := live_device h rfl hst hd
    refine ⟨{ s' with
      bridge := (d.close s.bridge ch).2.1
      devices := s'.devices.set i (d.close s.bridge ch).1 }, ?_,
      h.of_both_set rfl h.enumerators rfl rfl hmono⟩
    simp only [CameraSystem.step, hd', Option.map_some, h.bridge]
  | submitH264 g data =>
    refine ⟨{ s' with bridge := (Rdpecam.submitH264 s.bridge g data).1 }, ?_,
      h.of_same rfl h.enumerators rfl rfl hmono⟩
    rw [CameraSystem.step, h.bridge]
  | submitError g =>
    refine ⟨{ s' with bridge := (Rdpecam.submitError s.bridge g).1 }, ?_,
      h.of_same rfl h.enumerators rfl rfl hmono⟩
    rw [CameraSystem.step, h.bridge]
  | notifyNextCredit =>
    refine ⟨{ s' with bridge := (Rdpecam.notifyNextCredit s.bridge).1 }, ?_,
      h.of_same rfl h.enumerators rfl rfl hmono⟩
    rw [CameraSystem.step, h.bridge]

end Steps

/-- The record without the calls that went to stale processors. -/
def withoutStale (s : CameraSystem) : List CameraEvent → List CameraEvent
  | [] => []
  | x :: tr =>
    let rest := match s.step x.1 with
      | some r => withoutStale r.1 tr
      | none => []
    if staleStep s x.1 then rest else x :: rest

section Runs

variable {width height fps : UInt16}

/-- The remaining calls form a run of their own, with the same answers, and it
ends in an agreeing system. -/
theorem withoutStale_path {s s' t : CameraSystem} {tr : List CameraEvent}
    (hw : s.WellFormed) (h : Agree s s') (hp : (cameraMachine width height fps).Path s tr t) :
    (∃ t', (cameraMachine width height fps).Path s' (withoutStale s tr) t' ∧ Agree t t') ∧
      (withoutStale s tr).flatMap (fun x => x.2.callbacks) = tr.flatMap (fun x => x.2.callbacks) ∧
      (withoutStale s tr).flatMap (fun x => x.2.messages) = tr.flatMap (fun x => x.2.messages) := by
  induction tr generalizing s s' with
  | nil =>
    obtain rfl := hp.eq_of_nil
    exact ⟨⟨s', .refl s', h⟩, rfl, rfl⟩
  | cons x tr ih =>
    obtain ⟨a, o⟩ := x
    obtain ⟨u, hstep, hrest⟩ := hp.uncons
    have hu := step_wellFormed hw hstep
    cases hst : staleStep s a with
    | true =>
      obtain ⟨hag, rfl⟩ := step_stale hw hst hstep
      obtain ⟨hpath, hcalls, hmsgs⟩ := ih hu (hag.trans h) hrest
      have he : withoutStale s ((a, {}) :: tr) = withoutStale u tr := by
        have hstep' : s.step a = some (u, {}) := hstep
        simp only [withoutStale, hst, if_true, hstep']
      rw [he]
      exact ⟨hpath, by simpa using hcalls, by simpa using hmsgs⟩
    | false =>
      obtain ⟨u', hstep', hag⟩ := step_live hw h hst hstep
      obtain ⟨⟨t', hpath, hfin⟩, hcalls, hmsgs⟩ := ih hu hag hrest
      have he : withoutStale s ((a, o) :: tr) = (a, o) :: withoutStale u tr := by
        have hs : s.step a = some (u, o) := hstep
        simp only [withoutStale, hst, Bool.false_eq_true, if_false, hs]
      rw [he]
      refine ⟨⟨t', .cons hstep' hpath, hfin⟩, ?_, ?_⟩
      · rw [List.flatMap_cons, List.flatMap_cons, hcalls]
      · rw [List.flatMap_cons, List.flatMap_cons, hmsgs]

theorem stale_forever {s t : CameraSystem} {tr : List CameraEvent} (hw : s.WellFormed)
    (hp : (cameraMachine width height fps).Path s tr t) {token : Nat}
    (hs : s.bridge.stale token = true) : t.bridge.stale token = true :=
  hp.invariant_of (I := CameraSystem.WellFormed) (J := fun s => s.bridge.stale token = true) hw
    (fun _ _ _ _ => step_wellFormed) hs
    fun _ _ _ _ hw hs hstep => stale_tokenStep (step_tokens hw hstep) hs

/-- Stale processors are isolated. Once the token of a processor is stale it is
stale in every continuation, and each of its calls leaves the bridge unchanged,
makes no callback and returns no message. Leaving all such calls out of a run
gives a run with the same answers, the same callbacks and messages overall, and
an end that differs at most in the channels stale processors remember. -/
theorem stale_processor_isolation {s : CameraSystem} {tr : List CameraEvent}
    (hr : (cameraMachine width height fps).Run tr s) :
    (∀ token, s.bridge.stale token = true →
      ∀ tr' t, (cameraMachine width height fps).Path s tr' t →
        t.bridge.stale token = true ∧
        ∀ a i d u o, a.device? = some i → t.devices[i]? = some d → d.token = token →
          t.step a = some (u, o) →
          u.bridge = t.bridge ∧ o.callbacks = [] ∧ o.messages = []) ∧
    (∃ t, (cameraMachine width height fps).Run
        (withoutStale (cameraMachine width height fps).init tr) t ∧ Agree s t) ∧
    (withoutStale (cameraMachine width height fps).init tr).flatMap (fun x => x.2.callbacks) =
      tr.flatMap (fun x => x.2.callbacks) ∧
    (withoutStale (cameraMachine width height fps).init tr).flatMap (fun x => x.2.messages) =
      tr.flatMap (fun x => x.2.messages) := by
  refine ⟨?_, withoutStale_path (run_wellFormed (.refl _)) (.refl _) hr⟩
  intro token hs tr' t hp
  have ht := stale_forever (run_wellFormed hr) hp hs
  refine ⟨ht, ?_⟩
  rintro a i d u o ha hd rfl hstep
  have hst : staleStep t a = true := by simpa [staleStep, ha, hd] using ht
  obtain ⟨hag, rfl⟩ := step_stale (run_wellFormed (hr.append hp)) hst hstep
  exact ⟨hag.bridge.symm, rfl, rfl⟩

/-- A second device takes over the channel of the first, whose processor is then
called on it. -/
def reusedChannel : List CameraAction :=
  [.setAvailable true, .newEnumerator, .enumeratorStart 0 42, .enumeratorProcess 0 42 [2, 4],
    .createDevice, .deviceStart 0 7, .createDevice, .deviceStart 1 7,
    .deviceProcess 0 7 [2, msgActivateDevice], .deviceProcess 1 7 [2, msgActivateDevice],
    .deviceClose 0 7]

/-- The law on that run, in which the first processor has become stale. -/
theorem stale_processor_isolation_reused :
    ∃ tr s, (cameraMachine 640 480 15).Run tr s ∧ s.bridge.stale 1 = true ∧
      s.bridge.activationRefs = 1 ∧
      ∃ t, (cameraMachine 640 480 15).Run
        (withoutStale (cameraMachine 640 480 15).init tr) t ∧ Agree s t := by
  have hr := Machine.run_of_exec (M := cameraMachine 640 480 15) reusedChannel (by decide)
  exact ⟨_, _, hr, by decide, by decide, (stale_processor_isolation hr).2.1⟩

end Runs

end Lgnome.Rdpecam
