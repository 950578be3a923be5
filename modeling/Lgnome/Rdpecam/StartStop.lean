import Lgnome.Rdpecam.Lifecycle

/-!
# Start and Stop seen by the application

The generation moves exactly with the Start and Stop callbacks, by one each
time. Counting them therefore gives the generation, and from there the
alternation of Start and Stop and the freshness of every Start.
-/
namespace Lgnome.Rdpecam

open Lgnome.Transition

namespace CameraCallback

/-- Start or Stop, as opposed to a sample request. -/
def isLifecycle : CameraCallback → Bool
  | .start _ _ _ _ => true
  | .stop _ => true
  | .sampleRequest _ => false

end CameraCallback

/-- The generation that streams, if one does. -/
def CameraState.stream (s : CameraState) : Option Nat :=
  if s.lifecycle.isStreaming then some s.generation else none

/-- One call makes at most one Start or Stop callback, together with the phase
change it reports. -/
inductive StreamStep (s t : CameraState) : List CameraCallback → Prop
  | same {calls : List CameraCallback} (hstream : t.stream = s.stream)
      (hg : t.generation = s.generation) (hcalls : ∀ c ∈ calls, c.isLifecycle = false) :
      StreamStep s t calls
  | started {w h f : UInt16} (hs : s.stream = none) (ht : t.stream = some t.generation)
      (hg : t.generation = nextGeneration s.generation) :
      StreamStep s t [.start t.generation w h f]
  | stopped (hs : s.stream = some s.generation) (ht : t.stream = none)
      (hg : t.generation = nextGeneration s.generation) : StreamStep s t [.stop s.generation]

section Operations

variable {s t : CameraState}

theorem stream_of_not_streaming (h : t.lifecycle ≠ .streaming) : t.stream = none := by
  simp [CameraState.stream, h]

theorem stream_of_streaming (h : t.lifecycle = .streaming) : t.stream = some t.generation := by
  simp [CameraState.stream, h]

/-- A call that changes neither phase nor generation is silent. -/
theorem StreamStep.silent (hl : t.lifecycle = s.lifecycle) (hg : t.generation = s.generation) :
    StreamStep s t [] :=
  .same (by simp [CameraState.stream, hl, hg]) hg (by simp)

theorem StreamStep.refl (s : CameraState) : StreamStep s s [] := .silent rfl rfl

/-- A call that stops capture reports exactly what was streaming. -/
theorem StreamStep.of_stop {u : CameraState} (hu : u.lifecycle = s.lifecycle)
    (hgu : u.generation = s.generation) (ht : t.lifecycle ≠ .streaming)
    (hg : t.generation = (stopCapture u).1.generation) :
    StreamStep s t (stopCapture u).2.callback.toList := by
  unfold stopCapture at hg ⊢
  rw [hu, hgu] at hg ⊢
  cases hs : s.lifecycle.isStreaming with
  | true =>
    simp only [hs, if_true] at hg ⊢
    exact .stopped (stream_of_streaming (by simpa using hs)) (stream_of_not_streaming ht) hg
  | false =>
    simp only [hs, Bool.false_eq_true, if_false] at hg ⊢
    refine .same ?_ hg (by simp)
    rw [stream_of_not_streaming ht]
    simp [CameraState.stream, hs]

theorem armNextCredit_silent (s : CameraState) :
    (armNextCredit s).1.lifecycle = s.lifecycle ∧ (armNextCredit s).1.generation = s.generation := by
  unfold armNextCredit
  split <;> exact ⟨rfl, rfl⟩

theorem consumeRequest_silent (s : CameraState) :
    (consumeRequest s).lifecycle = s.lifecycle ∧ (consumeRequest s).generation = s.generation :=
  armNextCredit_silent _

theorem advertiseDevice_silent (s : CameraState) :
    (advertiseDevice s).1.lifecycle = s.lifecycle ∧
      (advertiseDevice s).1.generation = s.generation := by
  unfold advertiseDevice
  split
  · exact ⟨rfl, rfl⟩
  · split <;> exact ⟨rfl, rfl⟩

theorem retireDevice_stream {u : CameraState} (hu : u.lifecycle = s.lifecycle)
    (hgu : u.generation = s.generation) :
    StreamStep s (retireDevice u).1 (retireDevice u).2.toList :=
  .of_stop hu hgu (by simp [retireDevice]) rfl

theorem setAvailable_stream (s : CameraState) (b : Bool) :
    StreamStep s (setAvailable s b).1 (setAvailable s b).2.2.callbacks := by
  unfold setAvailable
  split
  · exact .refl s
  split
  · have ha := advertiseDevice_silent { s with available := true }
    exact .silent ha.1 ha.2
  · exact retireDevice_stream rfl rfl

theorem allocateDeviceToken_stream (s : CameraState) :
    StreamStep s (allocateDeviceToken s).1 [] := by
  unfold allocateDeviceToken
  split <;> exact .silent rfl rfl

theorem submitError_stream (s : CameraState) (g : Nat) :
    StreamStep s (submitError s g).1 (submitError s g).2.2.callbacks := by
  unfold submitError
  split
  · split
    · exact .refl s
    · have hc := consumeRequest_silent
        { s with sampleErrorsSent := saturatingAdd64 s.sampleErrorsSent 1 }
      exact .silent hc.1 hc.2
  · exact .refl s

theorem submitH264_stream (s : CameraState) (g : Nat) (data : Bytes) :
    StreamStep s (submitH264 s g data).1 (submitH264 s g data).2.2.callbacks := by
  unfold submitH264
  split
  · exact submitError_stream s g
  split
  · split
    · exact .refl s
    · have hc := consumeRequest_silent
        { s with sampleResponsesSent := saturatingAdd64 s.sampleResponsesSent 1 }
      exact .silent hc.1 hc.2
  · exact .refl s

theorem notifyNextCredit_stream (s : CameraState) :
    StreamStep s (notifyNextCredit s).1 (notifyNextCredit s).2.callbacks := by
  unfold notifyNextCredit
  split
  · exact .refl s
  · exact .same rfl rfl (by simp [CameraCallback.isLifecycle])

theorem activate_stream (s : CameraState) (version : UInt8) :
    StreamStep s (CameraDevice.activate s version).1
      (CameraDevice.activate s version).2.callbacks := by
  unfold CameraDevice.activate
  split
  · exact .refl s
  split
  · refine .same ?_ rfl (by simp)
    by_cases hd : s.lifecycle = .deactivated
    · simp [CameraState.stream, hd]
    · simp [CameraState.stream, hd]
  · exact .refl s

theorem deactivate_stream (s : CameraState) (version : UInt8) :
    StreamStep s (CameraDevice.deactivate s version).1
      (CameraDevice.deactivate s version).2.callbacks := by
  unfold CameraDevice.deactivate
  split
  · exact .refl s
  simp only
  split
  · exact .of_stop rfl rfl (by simp) rfl
  · exact .silent rfl rfl

theorem startStreams_stream (s : CameraState) (version : UInt8) (payload : Bytes) :
    StreamStep s (CameraDevice.startStreams s version payload).1
      (CameraDevice.startStreams s version payload).2.callbacks := by
  unfold CameraDevice.startStreams
  split
  · exact .refl s
  split
  · exact .refl s
  split
  · exact .refl s
  split
  · exact .refl s
  · rename_i hs
    exact .started (stream_of_not_streaming (by simpa using hs)) (stream_of_streaming rfl) rfl

theorem stopStreams_stream (s : CameraState) (version : UInt8) :
    StreamStep s (CameraDevice.stopStreams s version).1
      (CameraDevice.stopStreams s version).2.callbacks := by
  unfold CameraDevice.stopStreams
  split
  · exact .refl s
  · exact .of_stop rfl rfl (stopCapture_idle s).1 rfl

theorem sampleRequest_stream (s : CameraState) (version : UInt8) (stream : Option UInt8) :
    StreamStep s (CameraDevice.sampleRequest s version stream).1
      (CameraDevice.sampleRequest s version stream).2.callbacks := by
  unfold CameraDevice.sampleRequest
  simp only
  split
  · exact .silent rfl rfl
  split
  · exact .silent rfl rfl
  split
  · exact .silent rfl rfl
  · have ha := armNextCredit_silent
      { s with
        sampleRequestsReceived := saturatingAdd64 s.sampleRequestsReceived 1
        pendingRequests := s.pendingRequests + 1 }
    refine .same (by simp [CameraState.stream, ha.1, ha.2]) ha.2 ?_
    intro c hc
    obtain ⟨g, -, rfl⟩ := Option.map_eq_some_iff.mp (Option.mem_toList.mp hc)
    rfl

theorem processRequest_stream (d : CameraDevice) (s : CameraState) (ch : Nat) (payload : Bytes) :
    StreamStep s (d.processRequest s ch payload).1 (d.processRequest s ch payload).2.callbacks := by
  have hcases := CameraDevice.processRequest_cases d s ch payload
  revert hcases
  generalize d.processRequest s ch payload = r
  intro hcases
  cases hcases with
  | quiet hcalls =>
    rw [hcalls]
    exact .refl s
  | activate => exact activate_stream s s.version
  | deactivate => exact deactivate_stream s s.version
  | startStreams => exact startStreams_stream s s.version payload
  | stopStreams => exact stopStreams_stream s s.version
  | sampleRequest => exact sampleRequest_stream s s.version _

theorem deviceStart_stream (d : CameraDevice) (s : CameraState) (ch : Nat) :
    StreamStep s (d.start s ch).2.1 (d.start s ch).2.2.callbacks := by
  unfold CameraDevice.start
  simp only
  split
  · exact .refl s
  split
  · exact .refl s
  split
  · exact .silent rfl rfl
  · exact .of_stop rfl rfl (by simp [replaceDevice]) rfl

theorem deviceClose_stream (d : CameraDevice) (s : CameraState) (ch : Nat) :
    StreamStep s (d.close s ch).2.1 (d.close s ch).2.2.callbacks := by
  unfold CameraDevice.close
  split
  · exact .refl s
  simp only
  split
  · exact .refl s
  · exact .of_stop rfl rfl (by simp) rfl

theorem enumeratorProcess_stream (e : CameraEnumerator) (s : CameraState) (ch : Nat)
    (payload : Bytes) : StreamStep s (e.process s ch payload).1 (e.process s ch payload).2.callbacks := by
  unfold CameraEnumerator.process
  split
  · exact .refl s
  split
  · split
    · exact .refl s
    split
    · exact .refl s
    · rename_i version _ _ _
      have ha := advertiseDevice_silent { s with version, enumNegotiated := true }
      exact .silent ha.1 ha.2
  · exact .refl s

theorem enumeratorClose_stream (e : CameraEnumerator) (s : CameraState) (ch : Nat) :
    StreamStep s (e.close s ch).2.1 (e.close s ch).2.2.callbacks := by
  unfold CameraEnumerator.close
  split
  · exact .refl s
  split
  · exact .refl s
  · exact retireDevice_stream rfl rfl

end Operations

theorem step_stream {s t : CameraSystem} {a : CameraAction} {o : CameraOutput}
    (hstep : s.step a = some (t, o)) : StreamStep s.bridge t.bridge o.callbacks := by
  cases camera_step_cases hstep with
  | setAvailable b => exact setAvailable_stream _ b
  | newEnumerator => exact .refl _
  | enumeratorStart => exact retireDevice_stream rfl rfl
  | enumeratorProcess => exact enumeratorProcess_stream _ _ _ _
  | enumeratorClose => exact enumeratorClose_stream _ _ _
  | createDevice => exact allocateDeviceToken_stream _
  | deviceStart => exact deviceStart_stream _ _ _
  | deviceProcess => exact processRequest_stream _ _ _ _
  | deviceClose => exact deviceClose_stream _ _ _
  | submitH264 g data => exact submitH264_stream _ _ _
  | submitError g => exact submitError_stream _ _
  | notifyNextCredit => exact notifyNextCredit_stream _

/-- The Start and Stop callbacks of a run, oldest first. -/
def lifecycleCalls (tr : List CameraEvent) : List CameraCallback :=
  (tr.flatMap fun x => x.2.callbacks).filter CameraCallback.isLifecycle

/-- A Start may come first or after a Stop, with a generation no earlier Start
had; a Stop comes right after the Start of its generation. -/
def Follows (earlier : List CameraCallback) : CameraCallback → Prop
  | .start g _ _ _ =>
    (earlier = [] ∨ ∃ g', earlier.getLast? = some (.stop g')) ∧ g ≠ 0 ∧
      ∀ w h f, .start g w h f ∉ earlier
  | .stop g => ∃ w h f, earlier.getLast? = some (.start g w h f)
  | .sampleRequest _ => False

/-- Every callback of the list follows from the ones before it. -/
def StrictlyAlternate (calls : List CameraCallback) : Prop :=
  ∀ earlier c later, calls = earlier ++ c :: later → Follows earlier c

theorem StrictlyAlternate.snoc {calls : List CameraCallback} {c : CameraCallback}
    (h : StrictlyAlternate calls) (hc : Follows calls c) : StrictlyAlternate (calls ++ [c]) := by
  intro earlier c' later he
  rcases List.eq_nil_or_concat later with rfl | ⟨later', c'', rfl⟩
  · obtain ⟨rfl, hcc⟩ := List.append_inj' he rfl
    obtain rfl := List.singleton_inj.mp hcc
    exact hc
  · rw [List.concat_eq_append, ← List.cons_append, ← List.append_assoc] at he
    exact h _ _ _ (List.append_inj' he rfl).1

/-- The callbacks so far tell the phase and the generation. -/
structure Announced (calls : List CameraCallback) (s : CameraState) : Prop where
  alternate : StrictlyAlternate calls
  generation : s.generation = calls.length
  streaming : ∀ g, s.stream = some g → ∃ w h f, calls.getLast? = some (.start g w h f)
  stopped : s.stream = none → calls = [] ∨ ∃ g, calls.getLast? = some (.stop g)
  bounded : ∀ g w h f, .start g w h f ∈ calls → g ≤ calls.length

theorem nextGeneration_of_lt {g : Nat} (h : g + 1 < 2 ^ 64) : nextGeneration g = g + 1 := by
  unfold nextGeneration
  rw [Nat.mod_eq_of_lt h]
  exact max_eq_left (Nat.le_add_left 1 g)

theorem Announced.step {s t : CameraState} {calls now : List CameraCallback}
    (h : Announced calls s) (hs : StreamStep s t now)
    (hw : (calls ++ now.filter CameraCallback.isLifecycle).length < 2 ^ 64) :
    Announced (calls ++ now.filter CameraCallback.isLifecycle) t := by
  cases hs with
  | same hstream hg hcalls =>
    have hnone : now.filter CameraCallback.isLifecycle = [] := by
      rw [List.filter_eq_nil_iff]
      intro c hc
      simp [hcalls c hc]
    rw [hnone, List.append_nil]
    exact ⟨h.alternate, hg.trans h.generation, fun g hgs => h.streaming g (hstream ▸ hgs),
      fun hn => h.stopped (hstream ▸ hn), h.bounded⟩
  | @started w hh f hsn ht hg =>
    have hfilter : [CameraCallback.start t.generation w hh f].filter CameraCallback.isLifecycle =
        [.start t.generation w hh f] := rfl
    rw [hfilter] at hw ⊢
    rw [List.length_append, List.length_singleton] at hw
    have hgen : t.generation = calls.length + 1 := by
      rw [hg, h.generation, nextGeneration_of_lt hw]
    refine ⟨h.alternate.snoc ⟨h.stopped hsn, by omega, ?_⟩, ?_, ?_, ?_, ?_⟩
    · intro w' h' f' hmem
      have hle := h.bounded _ _ _ _ hmem
      omega
    · rw [List.length_append, List.length_singleton, hgen]
    · intro g hgs
      obtain rfl := Option.some.inj (ht.symm.trans hgs)
      exact ⟨w, hh, f, List.getLast?_concat⟩
    · intro hn
      rw [ht] at hn
      cases hn
    · intro g w' h' f' hmem
      rw [List.length_append, List.length_singleton]
      rcases List.mem_append.mp hmem with hmem | hmem
      · exact (h.bounded _ _ _ _ hmem).trans (Nat.le_succ _)
      · injection List.mem_singleton.mp hmem with hge
        omega
  | stopped hss ht hg =>
    have hfilter : [CameraCallback.stop s.generation].filter CameraCallback.isLifecycle =
        [.stop s.generation] := rfl
    rw [hfilter] at hw ⊢
    rw [List.length_append, List.length_singleton] at hw
    refine ⟨h.alternate.snoc (h.streaming _ hss), ?_, ?_, ?_, ?_⟩
    · rw [List.length_append, List.length_singleton, hg, h.generation, nextGeneration_of_lt hw]
    · intro g hgs
      rw [ht] at hgs
      cases hgs
    · intro _
      exact .inr ⟨_, List.getLast?_concat⟩
    · intro g w' h' f' hmem
      rw [List.length_append, List.length_singleton]
      rcases List.mem_append.mp hmem with hmem | hmem
      · exact (h.bounded _ _ _ _ hmem).trans (Nat.le_succ _)
      · cases List.mem_singleton.mp hmem

theorem lifecycleCalls_snoc (tr : List CameraEvent) (x : CameraEvent) :
    lifecycleCalls (tr ++ [x]) =
      lifecycleCalls tr ++ x.2.callbacks.filter CameraCallback.isLifecycle := by
  simp [lifecycleCalls]

/-- As long as fewer than 2^64 Start and Stop callbacks were made, the run is announced. -/
theorem run_announced {width height fps : UInt16} {tr : List CameraEvent} {s : CameraSystem}
    (hr : (cameraMachine width height fps).Run tr s)
    (hw : (lifecycleCalls tr).length < 2 ^ 64) : Announced (lifecycleCalls tr) s.bridge := by
  refine hr.history (I := fun tr (s : CameraSystem) => (lifecycleCalls tr).length < 2 ^ 64 →
    Announced (lifecycleCalls tr) s.bridge) ?_ ?_ hw
  · intro _
    refine ⟨?_, rfl, ?_, fun _ => .inl rfl, fun g w h f hmem => by cases hmem⟩
    · intro earlier c later he
      cases earlier <;> cases he
    · intro g hg
      cases hg
  · intro tr s a t o ih hstep hlt
    rw [lifecycleCalls_snoc] at hlt ⊢
    have hpre : (lifecycleCalls tr).length < 2 ^ 64 := by
      rw [List.length_append] at hlt
      omega
    exact (ih hpre).step (step_stream hstep) hlt

/-- Every run of the bridge keeps the coupled facts, and the application sees a
strict alternation of Start and Stop with fresh generations. The bound says that
the 64-bit generation, which each of these callbacks advances by one, has not
wrapped around. -/
theorem camera_bridge_invariant {width height fps : UInt16} {tr : List CameraEvent}
    {s : CameraSystem} (hr : (cameraMachine width height fps).Run tr s)
    (hw : (lifecycleCalls tr).length < 2 ^ 64) :
    (∀ d, s.bridge.deviceInstance = some d → s.bridge.available = true ∧
      s.bridge.advertised = true ∧ s.bridge.retiredThroughToken < d.token) ∧
    (s.bridge.lifecycle = .deactivated ↔ s.bridge.activationRefs = 0) ∧
    (0 < s.bridge.pendingRequests → s.bridge.lifecycle = .streaming) ∧
    s.bridge.pendingRequests ≤ maxPendingSampleRequests ∧
    (s.bridge.lifecycle = .streaming →
      (0 < s.bridge.pendingRequests ↔ s.bridge.creditNotified = true)) ∧
    (∀ g, s.bridge.pendingCreditNotification = some g →
      g = s.bridge.generation ∧ s.bridge.creditNotified = true) ∧
    StrictlyAlternate (lifecycleCalls tr) := by
  have h := (run_wellFormed hr).bridge
  refine ⟨?_, h.refs, ?_, h.pending_le, h.credit, h.notification,
    (run_announced hr hw).alternate⟩
  · intro d hd
    obtain ⟨hav, had, hret, -⟩ := h.device d hd
    exact ⟨hav, had, hret⟩
  · intro hp
    by_contra hs
    have hz := (h.idle hs).1
    omega

/-- Negotiation, one device, one stream with a queued request, and the device is
withdrawn and announced again. -/
def withdrawnCamera : List CameraAction :=
  [.setAvailable true, .newEnumerator, .enumeratorStart 0 42, .enumeratorProcess 0 42 [2, 4],
    .createDevice, .deviceStart 0 7, .deviceProcess 0 7 [2, msgActivateDevice],
    .deviceProcess 0 7 ([2, msgStartStreams, 0] ++ mediaType 640 480 15),
    .deviceProcess 0 7 [2, msgSampleRequest, 0], .setAvailable false, .setAvailable true]

/-- The facts at the end of that run, in which one stream came and went. -/
theorem camera_bridge_invariant_withdrawn :
    ∃ tr s, (cameraMachine 640 480 15).Run tr s ∧
      lifecycleCalls tr = [.start 1 640 480 15, .stop 1] ∧
      (s.bridge.lifecycle = .deactivated ↔ s.bridge.activationRefs = 0) := by
  have hr := Machine.run_of_exec (M := cameraMachine 640 480 15) withdrawnCamera
    (by decide)
  exact ⟨_, _, hr, by decide, (camera_bridge_invariant hr (by decide)).2.1⟩

end Lgnome.Rdpecam
