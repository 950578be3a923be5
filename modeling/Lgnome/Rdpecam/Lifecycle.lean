import Mathlib.Order.MinMax
import Lgnome.Rdpecam.Channels

/-!
# What the camera state always satisfies

Six facts couple the device instance, the stream phase and the credit. Every
call restores them, in whatever order the calls come and whatever they carry.
The callbacks seen by the application then form an alternation of Start and
Stop in which no generation comes twice.
-/
namespace Lgnome.Rdpecam

open Lgnome.Transition

/-- The coupled facts. `retired` and `absent` are there for the others: a token
is fresh only above the tokens already handed out, and a bridge without a
device has nothing left to stop. -/
structure CameraState.WellFormed (s : CameraState) : Prop where
  device : ∀ d, s.deviceInstance = some d →
    s.available = true ∧ s.advertised = true ∧ s.retiredThroughToken < d.token ∧
      d.token ≤ s.nextDeviceToken
  retired : s.retiredThroughToken ≤ s.nextDeviceToken
  refs : s.lifecycle = .deactivated ↔ s.activationRefs = 0
  absent : s.deviceInstance = none → s.lifecycle = .deactivated
  pending_le : s.pendingRequests ≤ maxPendingSampleRequests
  idle : s.lifecycle ≠ .streaming →
    s.pendingRequests = 0 ∧ s.creditNotified = false ∧ s.pendingCreditNotification = none
  credit : s.lifecycle = .streaming → (0 < s.pendingRequests ↔ s.creditNotified = true)
  notification : ∀ g, s.pendingCreditNotification = some g →
    g = s.generation ∧ s.creditNotified = true

section Operations

variable {s : CameraState}

theorem new_wellFormed (width height fps : UInt16) :
    (CameraState.new width height fps).WellFormed := by
  constructor <;> simp [CameraState.new, maxPendingSampleRequests]

/-- Stopping keeps the device part and empties the credit part, so a caller
only has to say what it makes of the device. -/
theorem stopCapture_idle (s : CameraState) :
    (stopCapture s).1.lifecycle ≠ .streaming ∧ (stopCapture s).1.pendingRequests = 0 ∧
      (stopCapture s).1.creditNotified = false ∧
      (stopCapture s).1.pendingCreditNotification = none := by
  unfold stopCapture
  split
  · simp
  · rename_i hs
    refine ⟨?_, rfl, rfl, rfl⟩
    simpa using hs

/-- Stopping lowers a stream to an activated device and no further. -/
theorem stopCapture_phase (s : CameraState) :
    (stopCapture s).1.lifecycle = .deactivated ↔ s.lifecycle = .deactivated := by
  unfold stopCapture
  split
  · rename_i hs
    rw [CameraLifecycle.isStreaming_iff] at hs
    simp [hs]
  · exact Iff.rfl

/-- The device part of the state, which stopping leaves as it is. -/
theorem stopCapture_device (s : CameraState) :
    (stopCapture s).1.available = s.available ∧ (stopCapture s).1.advertised = s.advertised ∧
      (stopCapture s).1.nextDeviceToken = s.nextDeviceToken ∧
      (stopCapture s).1.retiredThroughToken = s.retiredThroughToken ∧
      (stopCapture s).1.deviceInstance = s.deviceInstance ∧
      (stopCapture s).1.activationRefs = s.activationRefs := by
  unfold stopCapture
  split <;> exact ⟨rfl, rfl, rfl, rfl, rfl, rfl⟩

theorem stopCapture_live
    (hlive : ∀ d, s.deviceInstance = some d →
      s.available = true ∧ s.advertised = true ∧ s.retiredThroughToken < d.token ∧
        d.token ≤ s.nextDeviceToken) :
    ∀ d, (stopCapture s).1.deviceInstance = some d →
      (stopCapture s).1.available = true ∧ (stopCapture s).1.advertised = true ∧
        (stopCapture s).1.retiredThroughToken < d.token ∧
        d.token ≤ (stopCapture s).1.nextDeviceToken := by
  unfold stopCapture
  split <;> exact hlive

/-- Without a stream the facts are those about the device. -/
theorem CameraState.WellFormed.of_idle {t : CameraState} (hphase : t.lifecycle ≠ .streaming)
    (hcredit : t.pendingRequests = 0 ∧ t.creditNotified = false ∧
      t.pendingCreditNotification = none)
    (hdevice : ∀ d, t.deviceInstance = some d →
      t.available = true ∧ t.advertised = true ∧ t.retiredThroughToken < d.token ∧
        d.token ≤ t.nextDeviceToken)
    (hretired : t.retiredThroughToken ≤ t.nextDeviceToken)
    (hrefs : t.lifecycle = .deactivated ↔ t.activationRefs = 0)
    (habsent : t.deviceInstance = none → t.lifecycle = .deactivated) : t.WellFormed where
  device := hdevice
  retired := hretired
  refs := hrefs
  absent := habsent
  pending_le := hcredit.1 ▸ Nat.zero_le _
  idle _ := hcredit
  credit hs := absurd hs hphase
  notification g hg := by
    rw [hcredit.2.2] at hg
    cases hg

theorem retireDevice_wellFormed (s : CameraState) : (retireDevice s).1.WellFormed := by
  obtain ⟨-, -, hnext, -⟩ := stopCapture_device s
  refine .of_idle (fun hs => nomatch hs) (stopCapture_idle s).2 (fun _ hnone => nomatch hnone) ?_
    ⟨fun _ => rfl, fun _ => rfl⟩ fun _ => rfl
  exact hnext.ge

theorem replaceDevice_wellFormed {inst : DeviceInstance}
    (hlive : s.available = true ∧ s.advertised = true)
    (htoken : s.retiredThroughToken < inst.token ∧ inst.token ≤ s.nextDeviceToken)
    (hnewer : ∀ d, s.deviceInstance = some d → d.token < inst.token) :
    (replaceDevice s inst).1.WellFormed := by
  obtain ⟨havailable, hadvertised, hnext, hretired, -⟩ := stopCapture_device s
  -- the device that makes way is older than the new one
  have holder : (replaceDevice s inst).1.retiredThroughToken < inst.token := by
    unfold replaceDevice
    cases hdev : s.deviceInstance with
    | none => exact hretired ▸ htoken.1
    | some d => exact max_lt (hretired ▸ htoken.1) (hnewer d hdev)
  have hyounger : inst.token ≤ (replaceDevice s inst).1.nextDeviceToken := hnext.symm ▸ htoken.2
  refine .of_idle (fun hs => nomatch hs) (stopCapture_idle s).2 (fun d hd => ?_)
    (holder.le.trans hyounger) ⟨fun _ => rfl, fun _ => rfl⟩ fun _ => rfl
  obtain rfl := Option.some.inj hd
  exact ⟨havailable.trans hlive.1, hadvertised.trans hlive.2, holder, hyounger⟩

/-- An advertisement is made only while no device is attached. -/
theorem advertiseDevice_wellFormed (h : s.WellFormed) : (advertiseDevice s).1.WellFormed := by
  unfold advertiseDevice
  split
  · exact h
  · rename_i hn
    split
    · exact h
    · have hd := h.device
      obtain ⟨-, -, hrefs, habs, hple, hidle, hcred, hnot⟩ := h
      constructor <;> grind

theorem setAvailable_wellFormed (h : s.WellFormed) (b : Bool) :
    (setAvailable s b).1.WellFormed := by
  unfold setAvailable
  split
  · exact h
  split
  · apply advertiseDevice_wellFormed
    have hd := h.device
    obtain ⟨-, hret, hrefs, habs, hple, hidle, hcred, hnot⟩ := h
    constructor <;> grind
  · exact retireDevice_wellFormed _

theorem allocateDeviceToken_wellFormed (h : s.WellFormed) :
    (allocateDeviceToken s).1.WellFormed := by
  unfold allocateDeviceToken
  split
  · obtain ⟨hd, hret, hrefs, habs, hple, hidle, hcred, hnot⟩ := h
    constructor <;> grind
  · exact h

/-- Answering one request re-arms the credit exactly when another one waits. -/
theorem consumeRequest_streaming (hs : s.lifecycle = .streaming) :
    consumeRequest s =
      { s with
        pendingRequests := s.pendingRequests - 1
        creditNotified := decide (1 < s.pendingRequests)
        pendingCreditNotification := if 1 < s.pendingRequests then some s.generation else none } := by
  unfold consumeRequest armNextCredit
  by_cases hp : 1 < s.pendingRequests
  · have hp' : 0 < s.pendingRequests - 1 := by omega
    simp [hs, hp, hp']
  · have hp' : ¬0 < s.pendingRequests - 1 := by omega
    simp [hs, hp, hp']

theorem consumeRequest_wellFormed (h : s.WellFormed) (hs : s.lifecycle = .streaming) :
    (consumeRequest s).WellFormed := by
  obtain ⟨hd, hret, hrefs, habs, hple, hidle, hcred, hnot⟩ := h
  rw [consumeRequest_streaming hs]
  constructor <;> grind

theorem acceptsAnswer_streaming {g : Nat} (h : acceptsAnswer s g = true) :
    s.lifecycle = .streaming ∧ s.generation = g ∧ 0 < s.pendingRequests ∧
      s.creditNotified = true := by
  unfold acceptsAnswer at h
  simp only [Bool.and_eq_true, CameraLifecycle.isStreaming_iff, beq_iff_eq, bne_iff_ne,
    ne_eq] at h
  obtain ⟨⟨⟨hs, hg⟩, hp⟩, hc⟩ := h
  exact ⟨hs, hg, Nat.pos_of_ne_zero hp, hc⟩

theorem submitError_wellFormed (h : s.WellFormed) (g : Nat) : (submitError s g).1.WellFormed := by
  unfold submitError
  split
  · rename_i ha
    split
    · exact h
    · refine consumeRequest_wellFormed ?_ (acceptsAnswer_streaming ha).1
      exact ⟨h.device, h.retired, h.refs, h.absent, h.pending_le, h.idle, h.credit, h.notification⟩
  · exact h

theorem submitH264_wellFormed (h : s.WellFormed) (g : Nat) (data : Bytes) :
    (submitH264 s g data).1.WellFormed := by
  unfold submitH264
  split
  · exact submitError_wellFormed h g
  split
  · rename_i ha
    split
    · exact h
    · refine consumeRequest_wellFormed ?_ (acceptsAnswer_streaming ha).1
      exact ⟨h.device, h.retired, h.refs, h.absent, h.pending_le, h.idle, h.credit, h.notification⟩
  · exact h

theorem notifyNextCredit_wellFormed (h : s.WellFormed) : (notifyNextCredit s).1.WellFormed := by
  unfold notifyNextCredit
  split
  · exact h
  · obtain ⟨hd, hret, hrefs, habs, hple, hidle, hcred, hnot⟩ := h
    constructor <;> grind

theorem isCurrent_device {d : CameraDevice} {ch : Nat} (h : d.isCurrent s ch) :
    d.channelId = some ch ∧ s.deviceInstance = some ⟨d.token, ch⟩ := by
  simpa [CameraDevice.isCurrent] using h

/-! Each of the five transitions of the current device restores the facts. -/

theorem activate_wellFormed (h : s.WellFormed) (hdev : s.deviceInstance ≠ none)
    (version : UInt8) : (CameraDevice.activate s version).1.WellFormed := by
  unfold CameraDevice.activate
  split
  · exact h
  split
  · by_cases hoff : s.lifecycle = .deactivated
    · refine .of_idle ?_ (h.idle (hoff ▸ nofun)) h.device h.retired ?_ fun hnone =>
        absurd hnone hdev
      · simp [hoff]
      · simp [hoff]
    · simp only [if_neg hoff]
      exact ⟨h.device, h.retired, ⟨fun heq => absurd heq hoff, fun heq => nomatch heq⟩,
        fun hnone => absurd hnone hdev, h.pending_le, h.idle, h.credit, h.notification⟩
  · exact h

theorem deactivate_wellFormed (h : s.WellFormed) (version : UInt8) :
    (CameraDevice.deactivate s version).1.WellFormed := by
  unfold CameraDevice.deactivate
  split
  · exact h
  rename_i hrefs
  dsimp only
  split
  · rename_i hlast
    obtain ⟨-, -, hnext, hretired, -, hcount⟩ :=
      stopCapture_device { s with activationRefs := s.activationRefs - 1 }
    exact .of_idle (fun hs => nomatch hs) (stopCapture_idle _).2 (stopCapture_live h.device)
      ((hretired.le.trans h.retired).trans hnext.ge) ⟨fun _ => hcount.trans hlast, fun _ => rfl⟩
      fun _ => rfl
  · rename_i hshared
    exact ⟨h.device, h.retired, ⟨fun hoff => absurd (h.refs.mp hoff) hrefs,
      fun hzero => absurd hzero hshared⟩, h.absent, h.pending_le, h.idle, h.credit,
      h.notification⟩

theorem startStreams_wellFormed (h : s.WellFormed) (hdev : s.deviceInstance ≠ none)
    (version : UInt8) (payload : Bytes) :
    (CameraDevice.startStreams s version payload).1.WellFormed := by
  unfold CameraDevice.startStreams
  split
  · exact h
  rename_i hactive
  rw [Bool.not_eq_false, CameraLifecycle.isActive_iff] at hactive
  split
  · exact h
  split
  · exact h
  split
  · exact h
  exact
    { device := h.device
      retired := h.retired
      refs := ⟨(fun hoff => nomatch hoff), fun hzero => absurd (h.refs.mpr hzero) hactive⟩
      absent := fun hnone => absurd hnone hdev
      pending_le := Nat.zero_le _
      idle := fun hidle => absurd rfl hidle
      credit := fun _ => ⟨fun hpos => absurd hpos (Nat.lt_irrefl 0), fun htrue => nomatch htrue⟩
      notification := fun _ hnone => nomatch hnone }

theorem stopStreams_wellFormed (h : s.WellFormed) (version : UInt8) :
    (CameraDevice.stopStreams s version).1.WellFormed := by
  unfold CameraDevice.stopStreams
  split
  · exact h
  obtain ⟨-, -, hnext, hretired, hinstance, hcount⟩ := stopCapture_device s
  obtain ⟨hphase, hcredit⟩ := stopCapture_idle s
  refine .of_idle hphase hcredit (stopCapture_live h.device)
    ((hretired.le.trans h.retired).trans hnext.ge) ?_ fun hnone => ?_
  · exact (stopCapture_phase s).trans (h.refs.trans (by rw [hcount]))
  · exact (stopCapture_phase s).mpr (h.absent (hinstance.symm.trans hnone))

/-- A request that is queued has its credit out, whether it is the first or not. -/
theorem sampleRequest_wellFormed (h : s.WellFormed) (version : UInt8) (stream : Option UInt8) :
    (CameraDevice.sampleRequest s version stream).1.WellFormed := by
  unfold CameraDevice.sampleRequest CameraDevice.refuseSample
  have hrefused (received errors : Nat) : CameraState.WellFormed
      { s with sampleRequestsReceived := received, sampleErrorsSent := errors } :=
    ⟨h.device, h.retired, h.refs, h.absent, h.pending_le, h.idle, h.credit, h.notification⟩
  dsimp only
  split
  · exact hrefused _ _
  rename_i hs
  rw [Bool.not_eq_false, CameraLifecycle.isStreaming_iff] at hs
  split
  · exact hrefused _ _
  split
  · exact hrefused _ _
  rename_i hroom
  have hle := Nat.succ_le_of_lt (Nat.not_le.mp hroom)
  unfold armNextCredit
  split
  · exact
      { device := h.device
        retired := h.retired
        refs := h.refs
        absent := h.absent
        pending_le := hle
        idle := fun hidle => absurd hs hidle
        credit := fun _ => ⟨fun _ => rfl, fun _ => Nat.succ_pos _⟩
        notification := fun g hg => ⟨(h.notification g hg).1, rfl⟩ }
  · rename_i hwaits
    have hnotified : s.creditNotified = true := by
      by_contra hfree
      exact hwaits ⟨CameraLifecycle.isStreaming_iff _ |>.mpr hs, Nat.succ_pos _,
        Bool.eq_false_iff.mpr hfree⟩
    exact
      { device := h.device
        retired := h.retired
        refs := h.refs
        absent := h.absent
        pending_le := hle
        idle := fun hidle => absurd hs hidle
        credit := fun _ => ⟨fun _ => hnotified, fun _ => Nat.succ_pos _⟩
        notification := h.notification }

theorem processRequest_wellFormed (h : s.WellFormed) (d : CameraDevice) (ch : Nat)
    (payload : Bytes) : (d.processRequest s ch payload).1.WellFormed := by
  have hattached (hcur : d.isCurrent s ch = true) : s.deviceInstance ≠ none := by
    rw [(isCurrent_device hcur).2]
    exact Option.some_ne_none _
  have hcases := CameraDevice.processRequest_cases d s ch payload
  revert hcases
  generalize d.processRequest s ch payload = r
  intro hcases
  cases hcases with
  | quiet => exact h
  | activate hcur => exact activate_wellFormed h (hattached hcur) _
  | deactivate hcur => exact deactivate_wellFormed h _
  | startStreams hcur => exact startStreams_wellFormed h (hattached hcur) _ _
  | stopStreams hcur => exact stopStreams_wellFormed h _
  | sampleRequest hcur => exact sampleRequest_wellFormed h _ _

/-- Starting a processor replaces the device only by a younger one. -/
theorem deviceStart_wellFormed (h : s.WellFormed) (d : CameraDevice) (ch : Nat)
    (htoken : d.token ≤ s.nextDeviceToken) : (d.start s ch).2.1.WellFormed := by
  unfold CameraDevice.start
  simp only
  split
  · exact h
  rename_i hlive
  simp only [not_or, Bool.not_eq_false, Nat.not_le] at hlive
  obtain ⟨hav, had, hret, hnewer⟩ := hlive
  split
  · exact h
  split
  · rename_i hsame
    obtain ⟨hd, hrt, hrefs, habs, hple, hidle, hcred, hnot⟩ := h
    constructor <;> grind
  · rename_i hother
    refine replaceDevice_wellFormed ⟨hav, had⟩ ⟨hret, htoken⟩ ?_
    intro c hc
    simp only [hc, Option.any_some, decide_eq_true_eq, beq_iff_eq] at hnewer hother
    change c.token < d.token
    omega

theorem deviceClose_wellFormed (h : s.WellFormed) (d : CameraDevice) (ch : Nat) :
    (d.close s ch).2.1.WellFormed := by
  unfold CameraDevice.close
  split
  · exact h
  simp only
  split
  · exact h
  · rename_i hdev
    obtain ⟨-, -, -, hlast⟩ := h.device _ (Decidable.not_not.mp hdev)
    obtain ⟨-, -, hnext, -⟩ := stopCapture_device s
    exact .of_idle (fun hs => nomatch hs) (stopCapture_idle s).2 (fun _ hnone => nomatch hnone)
      (hnext ▸ max_le h.retired hlast) ⟨fun _ => rfl, fun _ => rfl⟩ fun _ => rfl

theorem enumeratorProcess_wellFormed (h : s.WellFormed) (e : CameraEnumerator) (ch : Nat)
    (payload : Bytes) : (e.process s ch payload).1.WellFormed := by
  unfold CameraEnumerator.process
  split
  · exact h
  split
  · split
    · exact h
    split
    · exact h
    · apply advertiseDevice_wellFormed
      exact ⟨h.device, h.retired, h.refs, h.absent, h.pending_le, h.idle, h.credit, h.notification⟩
  · exact h

theorem enumeratorClose_wellFormed (h : s.WellFormed) (e : CameraEnumerator) (ch : Nat) :
    (e.close s ch).2.1.WellFormed := by
  unfold CameraEnumerator.close
  split
  · exact h
  split
  · exact h
  · exact retireDevice_wellFormed _

end Operations

/-- Every processor carries a token that has been handed out. -/
structure CameraSystem.WellFormed (s : CameraSystem) : Prop where
  bridge : s.bridge.WellFormed
  tokens : ∀ d ∈ s.devices, d.token ≤ s.bridge.nextDeviceToken

/-- What a call does to the tokens: the two counters only grow, and a device
instance makes way for a younger one or is retired. -/
structure TokenStep (s t : CameraState) : Prop where
  next : s.nextDeviceToken ≤ t.nextDeviceToken
  retired : s.retiredThroughToken ≤ t.retiredThroughToken
  device : ∀ d, s.deviceInstance = some d →
    (∃ d', t.deviceInstance = some d' ∧ d.token ≤ d'.token) ∨ d.token ≤ t.retiredThroughToken

section Tokens

variable {s t : CameraState}

theorem TokenStep.same (hn : t.nextDeviceToken = s.nextDeviceToken)
    (hr : t.retiredThroughToken = s.retiredThroughToken)
    (hd : t.deviceInstance = s.deviceInstance) : TokenStep s t :=
  ⟨hn.ge, hr.ge, fun d h => .inl ⟨d, hd.trans h, le_rfl⟩⟩

theorem TokenStep.refl (s : CameraState) : TokenStep s s := .same rfl rfl rfl

theorem TokenStep.trans {u : CameraState} (h : TokenStep s t) (h' : TokenStep t u) :
    TokenStep s u := by
  refine ⟨h.next.trans h'.next, h.retired.trans h'.retired, ?_⟩
  intro d hd
  rcases h.device d hd with ⟨d', hd', hle⟩ | hle
  · rcases h'.device d' hd' with ⟨d'', hd'', hle'⟩ | hle'
    · exact .inl ⟨d'', hd'', hle.trans hle'⟩
    · exact .inr (hle.trans hle')
  · exact .inr (hle.trans h'.retired)

/-- A call that first rewrites other fields only is judged from where it started. -/
theorem TokenStep.of_same {u : CameraState} (h : TokenStep u t)
    (hn : u.nextDeviceToken = s.nextDeviceToken)
    (hr : u.retiredThroughToken = s.retiredThroughToken)
    (hd : u.deviceInstance = s.deviceInstance) : TokenStep s t :=
  (TokenStep.same hn hr hd).trans h

/-- Stopping capture leaves tokens and device alone. -/
theorem stopCapture_tokens (s : CameraState) : TokenStep s (stopCapture s).1 := by
  unfold stopCapture
  split <;> exact .same rfl rfl rfl

theorem armNextCredit_tokens (s : CameraState) : TokenStep s (armNextCredit s).1 := by
  unfold armNextCredit
  split <;> exact .same rfl rfl rfl

theorem retireDevice_tokens (h : s.WellFormed) (ht : t.nextDeviceToken = s.nextDeviceToken) :
    TokenStep s (retireDevice t).1 := by
  have hs := (stopCapture_tokens t).next
  rw [ht] at hs
  refine ⟨hs, h.retired.trans ht.ge, ?_⟩
  intro d hd
  exact .inr ((h.device d hd).2.2.2.trans ht.ge)

theorem replaceDevice_tokens {inst : DeviceInstance} : TokenStep s (replaceDevice s inst).1 := by
  have hs := (stopCapture_tokens s).next
  refine ⟨hs, ?_, ?_⟩
  · unfold replaceDevice
    cases s.deviceInstance with
    | none => exact le_rfl
    | some previous => exact le_max_left _ _
  · intro d hd
    right
    simp only [replaceDevice, hd]
    exact le_max_right _ _

theorem advertiseDevice_tokens (h : s.WellFormed) : TokenStep s (advertiseDevice s).1 := by
  unfold advertiseDevice
  split
  · exact .refl s
  split
  · exact .refl s
  · refine ⟨le_rfl, h.retired, ?_⟩
    intro d hd
    exact .inr (h.device d hd).2.2.2

theorem setAvailable_tokens (h : s.WellFormed) (b : Bool) : TokenStep s (setAvailable s b).1 := by
  unfold setAvailable
  split
  · exact .refl s
  split
  · have hw : CameraState.WellFormed { s with available := true } := by
      have hd := h.device
      obtain ⟨-, hret, hrefs, habs, hple, hidle, hcred, hnot⟩ := h
      constructor <;> grind
    exact (advertiseDevice_tokens hw).of_same rfl rfl rfl
  · exact retireDevice_tokens h rfl

theorem allocateDeviceToken_tokens (s : CameraState) :
    TokenStep s (allocateDeviceToken s).1 := by
  unfold allocateDeviceToken
  split
  · exact ⟨Nat.le_succ _, le_rfl, fun d hd => .inl ⟨d, hd, le_rfl⟩⟩
  · exact .refl s

theorem consumeRequest_tokens (s : CameraState) : TokenStep s (consumeRequest s) := by
  unfold consumeRequest armNextCredit
  split <;> exact .same rfl rfl rfl

theorem submitError_tokens (s : CameraState) (g : Nat) : TokenStep s (submitError s g).1 := by
  unfold submitError
  split
  · split
    · exact .refl s
    · exact (consumeRequest_tokens _).of_same rfl rfl rfl
  · exact .refl s

theorem submitH264_tokens (s : CameraState) (g : Nat) (data : Bytes) :
    TokenStep s (submitH264 s g data).1 := by
  unfold submitH264
  split
  · exact submitError_tokens s g
  split
  · split
    · exact .refl s
    · exact (consumeRequest_tokens _).of_same rfl rfl rfl
  · exact .refl s

theorem notifyNextCredit_tokens (s : CameraState) : TokenStep s (notifyNextCredit s).1 := by
  unfold notifyNextCredit
  split <;> exact .same rfl rfl rfl

/-- No request touches a token or the device instance. -/
theorem processRequest_tokens (d : CameraDevice) (s : CameraState) (ch : Nat) (payload : Bytes) :
    TokenStep s (d.processRequest s ch payload).1 := by
  have hcases := CameraDevice.processRequest_cases d s ch payload
  revert hcases
  generalize d.processRequest s ch payload = r
  intro hcases
  cases hcases with
  | quiet => exact .refl s
  | activate =>
    unfold CameraDevice.activate
    repeat' split
    all_goals exact .same rfl rfl rfl
  | deactivate =>
    unfold CameraDevice.deactivate
    split
    · exact .refl s
    simp only
    split
    · have hs := stopCapture_tokens { s with activationRefs := s.activationRefs - 1 }
      exact ⟨hs.next, hs.retired, hs.device⟩
    · exact .same rfl rfl rfl
  | startStreams =>
    unfold CameraDevice.startStreams
    repeat' split
    all_goals exact .same rfl rfl rfl
  | stopStreams =>
    unfold CameraDevice.stopStreams
    split
    · exact .refl s
    · have hs := stopCapture_tokens s
      exact ⟨hs.next, hs.retired, hs.device⟩
  | sampleRequest =>
    unfold CameraDevice.sampleRequest CameraDevice.refuseSample
    simp only
    split
    · exact .same rfl rfl rfl
    split
    · exact .same rfl rfl rfl
    split
    · exact .same rfl rfl rfl
    · exact (armNextCredit_tokens _).of_same rfl rfl rfl

theorem deviceStart_tokens (d : CameraDevice) (s : CameraState) (ch : Nat) :
    TokenStep s (d.start s ch).2.1 := by
  unfold CameraDevice.start
  simp only
  split
  · exact .refl s
  split
  · exact .refl s
  split
  · rename_i hsame
    refine ⟨le_rfl, le_rfl, fun c hc => .inl ⟨_, rfl, ?_⟩⟩
    simp only [hc, Option.any_some, beq_iff_eq] at hsame
    exact hsame.le
  · exact replaceDevice_tokens

theorem deviceClose_tokens (d : CameraDevice) (s : CameraState) (ch : Nat) :
    TokenStep s (d.close s ch).2.1 := by
  unfold CameraDevice.close
  split
  · exact .refl s
  simp only
  split
  · exact .refl s
  · rename_i hdev
    refine ⟨(stopCapture_tokens s).next, le_max_left _ _, ?_⟩
    intro c hc
    obtain rfl : c = ⟨d.token, ch⟩ := by simpa [hc] using hdev
    exact .inr (le_max_right _ _)

theorem enumeratorStart_tokens (h : s.WellFormed) (e : CameraEnumerator) (ch : Nat) :
    TokenStep s (e.start s ch).2.1 :=
  retireDevice_tokens h rfl

theorem enumeratorProcess_tokens (h : s.WellFormed) (e : CameraEnumerator) (ch : Nat)
    (payload : Bytes) : TokenStep s (e.process s ch payload).1 := by
  unfold CameraEnumerator.process
  split
  · exact .refl s
  split
  · split
    · exact .refl s
    split
    · exact .refl s
    · rename_i version _ _ _
      have hw : CameraState.WellFormed { s with version, enumNegotiated := true } :=
        ⟨h.device, h.retired, h.refs, h.absent, h.pending_le, h.idle, h.credit, h.notification⟩
      exact (advertiseDevice_tokens hw).of_same rfl rfl rfl
  · exact .refl s

theorem enumeratorClose_tokens (h : s.WellFormed) (e : CameraEnumerator) (ch : Nat) :
    TokenStep s (e.close s ch).2.1 := by
  unfold CameraEnumerator.close
  split
  · exact .refl s
  split
  · exact .refl s
  · exact retireDevice_tokens h rfl

end Tokens

section System

variable {s t : CameraSystem} {a : CameraAction} {o : CameraOutput}

/-- One call restores the facts about the shared state. -/
theorem step_bridge_wellFormed (h : s.WellFormed) (hstep : s.step a = some (t, o)) :
    t.bridge.WellFormed := by
  have hb := h.bridge
  cases camera_step_cases hstep with
  | setAvailable b => exact setAvailable_wellFormed hb b
  | newEnumerator => exact hb
  | enumeratorStart => exact retireDevice_wellFormed _
  | enumeratorProcess => exact enumeratorProcess_wellFormed hb _ _ _
  | enumeratorClose => exact enumeratorClose_wellFormed hb _ _
  | createDevice => exact allocateDeviceToken_wellFormed hb
  | deviceStart hd => exact deviceStart_wellFormed hb _ _ (h.tokens _ (List.mem_of_getElem? hd))
  | deviceProcess => exact processRequest_wellFormed hb _ _ _
  | deviceClose => exact deviceClose_wellFormed hb _ _
  | submitH264 g data => exact submitH264_wellFormed hb g data
  | submitError g => exact submitError_wellFormed hb g
  | notifyNextCredit => exact notifyNextCredit_wellFormed hb

theorem step_tokens (h : s.WellFormed) (hstep : s.step a = some (t, o)) :
    TokenStep s.bridge t.bridge := by
  have hb := h.bridge
  cases camera_step_cases hstep with
  | setAvailable b => exact setAvailable_tokens hb b
  | newEnumerator => exact .refl _
  | @enumeratorStart i ch e => exact enumeratorStart_tokens hb e ch
  | enumeratorProcess => exact enumeratorProcess_tokens hb _ _ _
  | enumeratorClose => exact enumeratorClose_tokens hb _ _
  | createDevice => exact allocateDeviceToken_tokens _
  | deviceStart => exact deviceStart_tokens _ _ _
  | deviceProcess => exact processRequest_tokens _ _ _ _
  | deviceClose => exact deviceClose_tokens _ _ _
  | submitH264 g data => exact submitH264_tokens _ _ _
  | submitError g => exact submitError_tokens _ _
  | notifyNextCredit => exact notifyNextCredit_tokens _

/-- A processor keeps the token it was created with, and a new one carries the
token just handed out. -/
theorem step_device_token (hstep : s.step a = some (t, o)) {d : CameraDevice}
    (hd : d ∈ t.devices) :
    (∃ d' ∈ s.devices, d.token = d'.token) ∨ d.token = t.bridge.nextDeviceToken := by
  cases camera_step_cases hstep with
  | createDevice =>
    rcases List.mem_append.mp hd with hd | hd
    · exact .inl ⟨d, hd, rfl⟩
    · right
      unfold allocateDeviceToken at hd ⊢
      split at hd
      · rename_i hfits
        obtain rfl : d = { token := s.bridge.nextDeviceToken + 1 } := by simpa using hd
        rw [if_pos hfits]
      · simp at hd
  | @deviceStart i ch d' hi =>
    rcases List.mem_or_eq_of_mem_set hd with hd | rfl
    · exact .inl ⟨d, hd, rfl⟩
    · refine .inl ⟨d', List.mem_of_getElem? hi, ?_⟩
      unfold CameraDevice.start
      simp only
      repeat' split
      all_goals rfl
  | @deviceClose i ch d' hi =>
    rcases List.mem_or_eq_of_mem_set hd with hd | rfl
    · exact .inl ⟨d, hd, rfl⟩
    · refine .inl ⟨d', List.mem_of_getElem? hi, ?_⟩
      unfold CameraDevice.close
      simp only
      repeat' split
      all_goals rfl
  | _ => exact .inl ⟨d, hd, rfl⟩

theorem step_wellFormed (h : s.WellFormed) (hstep : s.step a = some (t, o)) : t.WellFormed := by
  refine ⟨step_bridge_wellFormed h hstep, ?_⟩
  intro d hd
  rcases step_device_token hstep hd with ⟨d', hd', he⟩ | he
  · rw [he]
    exact (h.tokens d' hd').trans (step_tokens h hstep).next
  · exact he.le

theorem run_wellFormed {width height fps : UInt16} {tr : List CameraEvent}
    (hr : (cameraMachine width height fps).Run tr s) : s.WellFormed :=
  hr.invariant ⟨new_wellFormed width height fps, fun d hd => by cases hd⟩
    fun _ _ _ _ => step_wellFormed

end System

end Lgnome.Rdpecam
