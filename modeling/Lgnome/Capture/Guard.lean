import Lgnome.Capture.Manager

/-!
# What the capture manager keeps

What holds whenever the lock is free, what holds at every point inside a
section, and what the small steps do to it.
-/
namespace Lgnome.Capture

open Lgnome.Native (SlotIndex Session)
open Lgnome.Transition

section Invariant

/-- An open gate belongs to the foreground slot's session. -/
def Owned (s : Shared) : Prop :=
  ∀ session, s.gates session →
    ∃ i, s.redirect.foregroundSlot = some i ∧ (s.redirect.slots i).session = some session

/-- At most one credit, and none without a stream. -/
def Credited (r : Redirect) : Prop :=
  ∀ i, (r.slots i).cameraCredit ≤ 1 ∧
    (0 < (r.slots i).cameraCredit → (r.slots i).cameraStreaming)

/-- The camera is requested for nobody but the foreground slot. -/
def Settled (r : Redirect) : Prop :=
  ∀ i, (r.slots i).cameraAvailableRequested → r.cameraAvailable i

/-- What a microphone stream made for a target may rely on. A target of the present
session object is none of a later stream, and none of one without permission. -/
structure TargetOk (r : Redirect) (p : Parties) (i : SlotIndex) (c : Collected) : Prop where
  changes : c.changes ≤ r.slotChanges i
  session : c.changes = r.slotChanges i → (r.slots i).session = none →
    p.control = .drained ∨ p.control = .closed
  opens : c.changes = r.slotChanges i → c.opened ≤ p.audioOpens i
  permission : c.changes = r.slotChanges i → (r.slots i).audioStreaming →
    c.opened ≤ (r.slots i).audioOpened ∧
      ((r.slots i).audioOpened = c.opened → (r.slots i).audioAllowed)
  stateGeneration : c.target.stateGeneration = UInt32.ofNat c.changes
  generation : c.target.generation = Rdpeai.nextGeneration^[c.opened] 0

/-- The targets the microphone worker holds for a slot. -/
def Parties.Holds (p : Parties) (i : SlotIndex) (c : Collected) : Prop :=
  p.desired i = some c ∨ ∃ stream, p.streams i = some stream ∧ stream.collected = c

/-- What holds inside a section too. -/
structure Guarded (p : Parties) (s : Shared) : Prop where
  owned : Owned s
  credited : Credited s.redirect
  opens : ∀ i, (s.redirect.slots i).audioStreaming →
    (s.redirect.slots i).audioOpened ≤ p.audioOpens i ∧
      (s.redirect.slots i).audioGeneration =
        Rdpeai.nextGeneration^[(s.redirect.slots i).audioOpened] 0
  counted : ∀ i, s.redirect.slotGeneration i = UInt32.ofNat (s.redirect.slotChanges i)
  targets : ∀ i c, p.Holds i c → TargetOk s.redirect p i c

/-- The manager knows only live sessions, and a slot without a worker has no stream. -/
structure Placed (p : Parties) (r : Redirect) (i : SlotIndex) : Prop where
  live : ∀ session, (r.slots i).session = some session → p.handles i = .live session
  silent : p.handles i = .none → (r.slots i).audioStreaming = false

/-- Between the withdrawal and the new configuration there is no camera. -/
def Withdrawn (p : Parties) (r : Redirect) : Prop :=
  ∀ config, p.control = .withdrawn config → r.cameraPhysicalAvailable = false

/-- What holds while the lock is free. -/
structure AtRest (p : Parties) (s : Shared) : Prop where
  guarded : Guarded p s
  placed : ∀ i, Placed p s.redirect i
  withdrawn : Withdrawn p s.redirect
  settled : Settled s.redirect

/-- Both counters still tell what the target was collected for from all that came later. -/
def Redirect.Recent (r : Redirect) (i : SlotIndex) (c : Collected) : Prop :=
  r.slotChanges i < c.changes + 2 ^ 32 ∧
    (r.slots i).audioOpened < c.opened + Rdpeai.generations

/-- A packet of the microphone is handed over for a recent target. -/
def Micro.Timely (r : Redirect) : Micro → Prop
  | .submitPcm i collected _ => r.Recent i collected
  | _ => True

/-- What a call may rely on, and what it is allowed for. -/
def Permitted (s : Shared) (timely : Prop) : RdpCall → Prop
  | .setCaptureActive session true =>
    (∃ i, s.redirect.foregroundSlot = some i ∧ (s.redirect.slots i).session = some session) ∧
      ∀ other, s.gates other → other = session
  | .setCameraAvailable session true =>
    ∃ i, s.redirect.foregroundSlot = some i ∧ (s.redirect.slots i).session = some session ∧
      s.redirect.cameraSlotEligible i ∧ s.redirect.cameraPhysicalAvailable
  | .submitCameraH264 session generation _ =>
    ∃ i, s.redirect.foregroundSlot = some i ∧ (s.redirect.slots i).session = some session ∧
      (s.redirect.slots i).cameraAllowed ∧ (s.redirect.slots i).cameraStreaming ∧
      (s.redirect.slots i).cameraGeneration = generation
  | .submitAudioInputPcm session generation _ =>
    ∃ i, s.redirect.foregroundSlot = some i ∧ (s.redirect.slots i).session = some session ∧
      (timely → (s.redirect.slots i).audioAllowed) ∧ (s.redirect.slots i).audioStreaming ∧
      (s.redirect.slots i).audioGeneration = generation
  | _ => True

/-- What holds before every small step. -/
structure StepOk (s : Shared) (m : Micro) : Prop where
  owned : Owned s
  credited : Credited s.redirect
  permitted : ∀ call, s.redirect.call m = some call → Permitted s (m.Timely s.redirect) call

/-- A section that starts here is safe at every point and comes to rest. -/
abbrev Safe (p : Parties) (todo : List Micro) (s : Shared) : Prop :=
  Along Shared.exec StepOk (AtRest p) todo s

/-- A 32-bit counter tells apart what is fewer than 2^32 steps apart. -/
theorem counter_eq {a b : Nat} (hle : a ≤ b) (hlt : b < a + 2 ^ 32)
    (h : UInt32.ofNat b = UInt32.ofNat a) : a = b := by
  have hnat := congrArg UInt32.toNat h
  rw [UInt32.toNat_ofNat', UInt32.toNat_ofNat'] at hnat
  omega

/-- For a recent target the counters say what the code takes them for. -/
theorem TargetOk.current {r : Redirect} {p : Parties} {i : SlotIndex} {c : Collected}
    (h : TargetOk r p i c) (hrecent : r.Recent i c)
    (hcounted : r.slotGeneration i = UInt32.ofNat (r.slotChanges i))
    (hopened : (r.slots i).audioGeneration = Rdpeai.nextGeneration^[(r.slots i).audioOpened] 0)
    (hstate : r.slotGeneration i = c.target.stateGeneration)
    (hstreaming : (r.slots i).audioStreaming)
    (hgeneration : (r.slots i).audioGeneration = c.target.generation) :
    (r.slots i).audioAllowed := by
  obtain ⟨hchanges, hopens⟩ := hrecent
  have hsession : c.changes = r.slotChanges i := by
    apply counter_eq h.changes hchanges
    rw [← hcounted, hstate, h.stateGeneration]
  obtain ⟨hle, hallowed⟩ := h.permission hsession hstreaming
  apply hallowed
  apply Rdpeai.iterate_eq hle hopens
  rw [← hopened, hgeneration, h.generation]

theorem Owned.unique {s : Shared} (h : Owned s) {i : SlotIndex} {session : Session}
    (hi : s.redirect.foregroundSlot = some i)
    (hsession : (s.redirect.slots i).session = some session) (other : Session)
    (hopen : s.gates other) : other = session := by
  obtain ⟨j, hj, hother⟩ := h other hopen
  obtain rfl := Option.some.inj (hi.symm.trans hj)
  exact Option.some.inj (hother.symm.trans hsession)

end Invariant

section Micro

variable {p : Parties} {s : Shared} {r r' : Redirect} {m : Micro} {i j : SlotIndex}

/-- The small steps that leave sessions, permissions, the microphone and the
foreground alone. -/
def Micro.cameraOnly : Micro → Bool
  | .publishForeground _ => false
  | .publishSlot .. => false
  | .setPhysical _ => false
  | .startAudio .. => false
  | .stopAudio .. => false
  | .applyConfig _ => false
  | .dropSession _ => false
  | _ => true

/-- The small steps that change what is requested of the RDP client. -/
def Micro.requests : Micro → Bool
  | .forgetAvailability _ => true
  | .withdraw _ => true
  | .advertise _ => true
  | _ => false

/-- Everything but the camera streams, credits and requests is the same. -/
structure CameraOnly (r r' : Redirect) : Prop where
  slotGeneration : r'.slotGeneration = r.slotGeneration
  slotChanges : r'.slotChanges = r.slotChanges
  foregroundSlot : r'.foregroundSlot = r.foregroundSlot
  physical : r'.cameraPhysicalAvailable = r.cameraPhysicalAvailable
  enabled : r'.cameraEnabled = r.cameraEnabled
  slot : ∀ j, (r'.slots j).session = (r.slots j).session ∧
    (r'.slots j).cameraAllowed = (r.slots j).cameraAllowed ∧
    (r'.slots j).audioAllowed = (r.slots j).audioAllowed ∧
    (r'.slots j).audioStreaming = (r.slots j).audioStreaming ∧
    (r'.slots j).audioGeneration = (r.slots j).audioGeneration ∧
    (r'.slots j).audioOpened = (r.slots j).audioOpened

theorem CameraOnly.refl (r : Redirect) : CameraOnly r r :=
  ⟨rfl, rfl, rfl, rfl, rfl, fun _ => ⟨rfl, rfl, rfl, rfl, rfl, rfl⟩⟩

theorem cameraOnly_modifySlot (r : Redirect) (i : SlotIndex) (f : CaptureSlot → CaptureSlot)
    (hf : (f (r.slots i)).session = (r.slots i).session ∧
      (f (r.slots i)).cameraAllowed = (r.slots i).cameraAllowed ∧
      (f (r.slots i)).audioAllowed = (r.slots i).audioAllowed ∧
      (f (r.slots i)).audioStreaming = (r.slots i).audioStreaming ∧
      (f (r.slots i)).audioGeneration = (r.slots i).audioGeneration ∧
      (f (r.slots i)).audioOpened = (r.slots i).audioOpened) :
    CameraOnly r (r.modifySlot i f) := by
  refine ⟨rfl, rfl, rfl, rfl, rfl, fun j => ?_⟩
  by_cases hj : j = i
  · rw [hj, Redirect.modifySlot_same]
    exact hf
  · rw [Redirect.modifySlot_other _ _ _ hj]
    exact ⟨rfl, rfl, rfl, rfl, rfl, rfl⟩

theorem failCredit_cameraOnly (r : Redirect) (i : SlotIndex) (generation : Nat) (accepted : Bool) :
    CameraOnly r (r.failCredit i generation accepted) := by
  unfold Redirect.failCredit
  split
  · exact cameraOnly_modifySlot r i _ ⟨rfl, rfl, rfl, rfl, rfl, rfl⟩
  · exact .refl r

theorem exec_cameraOnly (r : Redirect) (answer : Bool) (hm : m.cameraOnly) :
    CameraOnly r (r.exec m answer) := by
  cases m with
  | failCredit i generation => exact failCredit_cameraOnly r i _ answer
  | closeGate => exact .refl r
  | openGate => exact .refl r
  | gateFollows => exact .refl r
  | forgetAvailability i =>
    simp only [Redirect.exec]
    exact cameraOnly_modifySlot r i _ ⟨rfl, rfl, rfl, rfl, rfl, rfl⟩
  | withdraw i =>
    simp only [Redirect.exec]
    split
    · exact .refl r
    · exact cameraOnly_modifySlot r i _ ⟨rfl, rfl, rfl, rfl, rfl, rfl⟩
  | advertise i =>
    simp only [Redirect.exec]
    split
    · exact .refl r
    · exact cameraOnly_modifySlot r i _ ⟨rfl, rfl, rfl, rfl, rfl, rfl⟩
  | startCamera i =>
    simp only [Redirect.exec]
    exact cameraOnly_modifySlot r i _ ⟨rfl, rfl, rfl, rfl, rfl, rfl⟩
  | stopCamera i =>
    simp only [Redirect.exec]
    split
    · exact cameraOnly_modifySlot r i _ ⟨rfl, rfl, rfl, rfl, rfl, rfl⟩
    · exact .refl r
  | requestSample i =>
    simp only [Redirect.exec]
    split
    · exact cameraOnly_modifySlot r i _ ⟨rfl, rfl, rfl, rfl, rfl, rfl⟩
    · exact .refl r
  | submitH264 i =>
    simp only [Redirect.exec]
    split
    · split
      · obtain ⟨h1, h2, h3, h4, h5, h6⟩ := cameraOnly_modifySlot r i
          (fun s => { s with cameraCredit := s.cameraCredit - 1 }) ⟨rfl, rfl, rfl, rfl, rfl, rfl⟩
        exact ⟨h1, h2, h3, h4, h5, h6⟩
      · exact ⟨rfl, rfl, rfl, rfl, rfl, fun _ => ⟨rfl, rfl, rfl, rfl, rfl, rfl⟩⟩
    · exact ⟨rfl, rfl, rfl, rfl, rfl, fun _ => ⟨rfl, rfl, rfl, rfl, rfl, rfl⟩⟩
  | failRejected i generation =>
    simp only [Redirect.exec]
    split
    · exact failCredit_cameraOnly r i generation answer
    · exact .refl r
  | submitPcm => exact .refl r
  | _ => cases hm

theorem shared_cameraOnly (s : Shared) (m : Micro) (answer : Bool) (hm : m.cameraOnly) :
    CameraOnly s.redirect (s.exec m answer).redirect := exec_cameraOnly s.redirect answer hm

theorem credited_modifySlot (h : Credited r) (i : SlotIndex) (f : CaptureSlot → CaptureSlot)
    (hf : (f (r.slots i)).cameraCredit ≤ 1 ∧
      (0 < (f (r.slots i)).cameraCredit → (f (r.slots i)).cameraStreaming)) :
    Credited (r.modifySlot i f) := by
  intro j
  by_cases hj : j = i
  · rw [hj, Redirect.modifySlot_same]
    exact hf
  · rw [Redirect.modifySlot_other _ _ _ hj]
    exact h j

theorem failCredit_credited (h : Credited r) (i : SlotIndex) (generation : Nat) (accepted : Bool) :
    Credited (r.failCredit i generation accepted) := by
  unfold Redirect.failCredit
  split
  · exact credited_modifySlot h i _ ⟨Nat.zero_le 1, fun hpos => absurd hpos (Nat.lt_irrefl 0)⟩
  · exact h

/-- No small step makes a second credit, or one without a stream. -/
theorem exec_credited (h : Credited r) (m : Micro) (answer : Bool) : Credited (r.exec m answer) := by
  cases m with
  | failCredit i generation => exact failCredit_credited h i _ answer
  | closeGate => exact h
  | openGate => exact h
  | gateFollows => exact h
  | publishForeground => exact h
  | setPhysical => exact h
  | submitPcm => exact h
  | applyConfig => exact h
  | forgetAvailability i =>
    simp only [Redirect.exec]
    exact credited_modifySlot h i _ (h i)
  | startAudio i =>
    simp only [Redirect.exec]
    exact credited_modifySlot h i _ (h i)
  | dropSession i =>
    simp only [Redirect.exec]
    exact credited_modifySlot h i _ (h i)
  | withdraw i =>
    simp only [Redirect.exec]
    split
    · exact h
    · exact credited_modifySlot h i _ (h i)
  | advertise i =>
    simp only [Redirect.exec]
    split
    · exact h
    · exact credited_modifySlot h i _ (h i)
  | stopAudio i =>
    simp only [Redirect.exec]
    split
    · exact credited_modifySlot h i _ (h i)
    · exact h
  | startCamera i =>
    simp only [Redirect.exec]
    exact credited_modifySlot h i _ ⟨Nat.zero_le 1, fun hpos => absurd hpos (Nat.lt_irrefl 0)⟩
  | stopCamera i =>
    simp only [Redirect.exec]
    split
    · exact credited_modifySlot h i _ ⟨Nat.zero_le 1, fun hpos => absurd hpos (Nat.lt_irrefl 0)⟩
    · exact h
  | requestSample i =>
    simp only [Redirect.exec]
    split
    · rename_i hstreams
      refine credited_modifySlot h i _ ⟨?_, fun _ => hstreams.1⟩
      show (r.slots i).cameraCredit + 1 ≤ 1
      omega
    · exact h
  | submitH264 i =>
    have hone := h i
    have hspent : Credited (r.modifySlot i fun s => { s with cameraCredit := s.cameraCredit - 1 }) := by
      refine credited_modifySlot h i _ ⟨?_, fun hpos => hone.2 ?_⟩
      · show (r.slots i).cameraCredit - 1 ≤ 1
        omega
      · change 0 < (r.slots i).cameraCredit - 1 at hpos
        omega
    simp only [Redirect.exec]
    split
    · split
      · exact hspent
      · exact h
    · exact h
  | failRejected i generation =>
    simp only [Redirect.exec]
    split
    · exact failCredit_credited h i generation answer
    · exact h
  | publishSlot i session cameraAllowed audioAllowed =>
    have hpublished := credited_modifySlot h i (fun s =>
      { s with
        cameraStreaming :=
          if (r.slots i).session ≠ session ∨ cameraAllowed = false then false else s.cameraStreaming
        cameraCredit :=
          if (r.slots i).session ≠ session ∨ cameraAllowed = false then 0 else s.cameraCredit }) (by
        by_cases hdrop : (r.slots i).session ≠ session ∨ cameraAllowed = false
        · simp [hdrop]
        · simpa [hdrop] using h i)
    intro j
    have hj := hpublished j
    simp only [Redirect.exec, Redirect.modifySlot] at hj ⊢
    split
    · rename_i hji
      rw [if_pos hji] at hj
      exact hj
    · rename_i hji
      rw [if_neg hji] at hj
      exact hj

/-- A call other than an opening one leaves no gate open that was closed. -/
theorem exec_gates (s : Shared) (m : Micro) (answer : Bool) (session : Session)
    (hopen : (s.exec m answer).gates session) :
    s.gates session ∨ s.redirect.call m = some (.setCaptureActive session true) := by
  change Shared.setGate s.gates (s.redirect.call m) session = true at hopen
  generalize s.redirect.call m = call at hopen ⊢
  unfold Shared.setGate at hopen
  split at hopen
  · rename_i other active
    split at hopen
    · rename_i heq
      rw [heq, hopen]
      exact .inr rfl
    · exact .inl hopen
  · exact .inl hopen

theorem owned_exec (h : StepOk s m) (answer : Bool)
    (hframe : CameraOnly s.redirect (s.exec m answer).redirect) : Owned (s.exec m answer) := by
  intro session hopen
  have hbefore : ∃ i, s.redirect.foregroundSlot = some i ∧
      (s.redirect.slots i).session = some session := by
    rcases exec_gates s m answer session hopen with hold | hcall
    · exact h.owned session hold
    · exact (h.permitted _ hcall).1
  obtain ⟨i, hi, hsession⟩ := hbefore
  exact ⟨i, hframe.foregroundSlot.trans hi, (hframe.slot i).1.trans hsession⟩

theorem TargetOk.frame {c : Collected} (h : TargetOk r p i c) (hframe : CameraOnly r r') :
    TargetOk r' p i c := by
  obtain ⟨hsession, -, hallowed, hstreaming, -, hopened⟩ := hframe.slot i
  constructor
  · rw [hframe.slotChanges]
    exact h.changes
  · rw [hframe.slotChanges, hsession]
    exact h.session
  · rw [hframe.slotChanges]
    exact h.opens
  · rw [hframe.slotChanges, hallowed, hstreaming, hopened]
    exact h.permission
  · exact h.stateGeneration
  · exact h.generation

theorem Placed.frame (h : Placed p r i) (hframe : CameraOnly r r') : Placed p r' i := by
  obtain ⟨hsession, -, -, hstreaming, -, -⟩ := hframe.slot i
  constructor
  · rw [hsession]
    exact h.live
  · rw [hstreaming]
    exact h.silent

theorem Withdrawn.frame (h : Withdrawn p r) (hframe : CameraOnly r r') : Withdrawn p r' := by
  intro config hcontrol
  rw [hframe.physical]
  exact h config hcontrol

theorem CameraOnly.available (h : CameraOnly r r') (i : SlotIndex) :
    r'.cameraAvailable i = r.cameraAvailable i := by
  simp only [Redirect.cameraAvailable, Redirect.cameraSlotEligible, Redirect.isForeground,
    h.foregroundSlot, h.physical, h.enabled, (h.slot i).1, (h.slot i).2.1]

theorem Guarded.exec (h : Guarded p s) (hok : StepOk s m) (hm : m.cameraOnly) (answer : Bool) :
    Guarded p (s.exec m answer) := by
  have hframe := shared_cameraOnly s m answer hm
  refine ⟨owned_exec hok answer hframe, exec_credited h.credited m answer, fun i => ?_,
    fun i => ?_, fun i c hholds => (h.targets i c hholds).frame hframe⟩
  · obtain ⟨-, -, -, hstreaming, hgeneration, hopened⟩ := hframe.slot i
    rw [hstreaming, hgeneration, hopened]
    exact h.opens i
  · rw [hframe.slotGeneration, hframe.slotChanges]
    exact h.counted i

/-- A step that makes no call, or one that needs no permission. -/
theorem Guarded.stepOk (h : Guarded p s)
    (hcall : ∀ call, s.redirect.call m = some call → Permitted s (m.Timely s.redirect) call) :
    StepOk s m :=
  ⟨h.owned, h.credited, hcall⟩

theorem failCreditCall_eq {generation : Nat} {call : RdpCall}
    (h : r.failCreditCall i generation = some call) :
    ∃ session, (r.slots i).session = some session ∧ call = .submitCameraError session generation := by
  unfold Redirect.failCreditCall at h
  split at h
  · obtain ⟨session, hsession, rfl⟩ := Option.map_eq_some_iff.mp h
    exact ⟨session, hsession, rfl⟩
  · cases h

theorem Guarded.failCredit_ok (h : Guarded p s) (i : SlotIndex) (generation : Option Nat) :
    StepOk s (.failCredit i generation) := by
  apply h.stepOk
  intro call hcall
  obtain ⟨session, -, rfl⟩ := failCreditCall_eq hcall
  trivial

theorem Guarded.closeGate_ok (h : Guarded p s) (i : SlotIndex) : StepOk s (.closeGate i) := by
  apply h.stepOk
  intro call hcall
  obtain ⟨session, -, rfl⟩ := Option.map_eq_some_iff.mp hcall
  trivial

theorem Guarded.forgetAvailability_ok (h : Guarded p s) (i : SlotIndex) :
    StepOk s (.forgetAvailability i) := by
  apply h.stepOk
  intro call hcall
  simp only [Redirect.call] at hcall
  split at hcall
  · obtain ⟨session, -, rfl⟩ := Option.map_eq_some_iff.mp hcall
    trivial
  · cases hcall

theorem Guarded.withdraw_ok (h : Guarded p s) (i : SlotIndex) : StepOk s (.withdraw i) := by
  apply h.stepOk
  intro call hcall
  simp only [Redirect.call] at hcall
  split at hcall
  · cases hcall
  · obtain ⟨session, -, rfl⟩ := Option.map_eq_some_iff.mp hcall
    trivial

/-- An addition is requested for the foreground slot only, with a camera to show. -/
theorem Guarded.advertise_ok (h : Guarded p s) (i : SlotIndex) : StepOk s (.advertise i) := by
  apply h.stepOk
  intro call hcall
  simp only [Redirect.call] at hcall
  split at hcall
  · cases hcall
  · rename_i hrequest
    obtain ⟨session, hsession, rfl⟩ := Option.map_eq_some_iff.mp hcall
    have havailable : s.redirect.cameraAvailable i := by
      simp only [Bool.or_eq_true, Bool.not_eq_true', not_or, Bool.not_eq_false] at hrequest
      exact hrequest.2
    simp only [Redirect.cameraAvailable, Bool.and_eq_true] at havailable
    obtain ⟨⟨hphysical, heligible⟩, hforeground⟩ := havailable
    exact ⟨i, by simpa [Redirect.isForeground] using hforeground, hsession, heligible, hphysical⟩

/-- A gate opens for the foreground slot, while no other one is open. -/
theorem Guarded.opening (h : Guarded p s) {session : Session}
    (hforeground : s.redirect.foregroundSlot = some i)
    (hsession : (s.redirect.slots i).session = some session) (timely : Prop) :
    Permitted s timely (.setCaptureActive session true) :=
  ⟨⟨i, hforeground, hsession⟩, h.owned.unique hforeground hsession⟩

theorem Guarded.openGate_ok (h : Guarded p s) (hforeground : s.redirect.foregroundSlot = some i) :
    StepOk s (.openGate i) := by
  apply h.stepOk
  intro call hcall
  obtain ⟨session, hsession, rfl⟩ := Option.map_eq_some_iff.mp hcall
  exact h.opening hforeground hsession _

theorem Guarded.gateFollows_ok (h : Guarded p s) (i : SlotIndex) : StepOk s (.gateFollows i) := by
  apply h.stepOk
  intro call hcall
  obtain ⟨session, hsession, rfl⟩ := Option.map_eq_some_iff.mp hcall
  cases hforeground : s.redirect.isForeground i with
  | false => trivial
  | true => exact h.opening (by simpa [Redirect.isForeground] using hforeground) hsession _

end Micro

end Lgnome.Capture
