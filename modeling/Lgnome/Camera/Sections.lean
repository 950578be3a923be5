import Lgnome.Camera.Credit

/-!
# Sections and what they rely on

A section of the capture manager publishes a slot only after it has withdrawn
the camera of the session it replaces, and looks at every request again behind a
publication. The callbacks' own steps are in no section of the manager.
-/
namespace Lgnome.Camera

open Lgnome.Native (SlotIndex Session)
open Lgnome.Capture

/-- What a small step of a section relies on, and what it knows to follow. -/
def Fine (p : Parties) (r : Redirect) (rest : List Micro) : Micro → Prop
  | .publishSlot i session _ _ =>
    (∀ other, session = some other → (p.handles i).worker = some other) ∧
      ((r.slots i).session ≠ session → (r.slots i).cameraAvailableRequested = false) ∧
      rest = .gateFollows i :: Redirect.updateCameraAvailability
  | .dropSession i => (r.slots i).cameraAvailableRequested = false
  | .startCamera .. => False
  | .stopCamera .. => False
  | .requestSample .. => False
  | _ => True

/-- Every small step finds what it relies on, whatever the answers. -/
def Sound (p : Parties) : List Micro → Redirect → Prop
  | [], _ => True
  | m :: rest, r => Fine p r rest m ∧ ∀ answer, Sound p rest (r.exec m answer)

/-- The small steps that rely on nothing. -/
def isFree : Micro → Bool
  | .publishSlot .. => false
  | .dropSession _ => false
  | .startCamera .. => false
  | .stopCamera .. => false
  | .requestSample .. => false
  | _ => true

variable {p p' : Parties} {r : Redirect} {l l' : List Micro} {m : Micro} {i j : SlotIndex}
  {session : Option Session}

theorem fine_of_free (h : isFree m = true) (rest : List Micro) : Fine p r rest m := by
  cases m <;> first | exact trivial | cases h

/-- A section that keeps `K` in its first part. -/
theorem Sound.append {K : Redirect → Prop} (hfree : ∀ m ∈ l, isFree m = true)
    (hkeep : ∀ m ∈ l, ∀ r answer, K r → K (r.exec m answer)) (hr : K r)
    (h : ∀ r, K r → Sound p l' r) : Sound p (l ++ l') r := by
  induction l generalizing r with
  | nil => exact h r hr
  | cons m l ih =>
    refine ⟨fine_of_free (hfree m List.mem_cons_self) _, fun answer => ?_⟩
    exact ih (fun m hm => hfree m (List.mem_cons_of_mem _ hm))
      (fun m hm => hkeep m (List.mem_cons_of_mem _ hm))
      (hkeep m List.mem_cons_self r answer hr)

theorem Sound.of_free (hfree : ∀ m ∈ l, isFree m = true) : Sound p l r := by
  have h : Sound p (l ++ []) r := Sound.append (K := fun _ => True) hfree
    (fun _ _ _ _ => id) trivial fun _ _ => trivial
  rwa [List.append_nil] at h

theorem Sound.handles (h : Sound p l r) (hhandles : p'.handles = p.handles) : Sound p' l r := by
  induction l generalizing r with
  | nil => trivial
  | cons m l ih =>
    refine ⟨?_, fun answer => ih (h.2 answer)⟩
    have hfine := h.1
    cases m <;> first | exact hfine | skip
    simp only [Fine, hhandles]
    exact hfine

theorem updateCameraAvailability_free :
    ∀ m ∈ Redirect.updateCameraAvailability, isFree m = true := by decide

/-! ## The sections -/

theorem setForegroundSlot_sound (slot : Option SlotIndex) :
    Sound p (r.setForegroundSlot slot) r := by
  refine Sound.of_free fun m hm => ?_
  unfold Redirect.setForegroundSlot at hm
  split at hm
  · cases hm
  · rcases List.mem_append.1 hm with hold | hnew
    · obtain ⟨i, -, hi⟩ := List.mem_flatMap.1 hold
      simp only [Redirect.closeOld, List.mem_cons, List.not_mem_nil, or_false] at hi
      rcases hi with rfl | rfl <;> rfl
    · rcases List.mem_cons.1 hnew with rfl | hnew
      · rfl
      · rcases List.mem_append.1 hnew with hopen | hupdate
        · obtain ⟨i, -, rfl⟩ := List.mem_map.1 hopen
          rfl
        · exact updateCameraAvailability_free m hupdate

/-- A sample error changes no session and no request. -/
theorem failCredit_slot (r : Redirect) (generation : Option Nat) (answer : Bool) (j : SlotIndex) :
    ((r.exec (.failCredit i generation) answer).slots j).session = (r.slots j).session ∧
      ((r.exec (.failCredit i generation) answer).slots j).cameraAvailableRequested =
        (r.slots j).cameraAvailableRequested :=
  ⟨((failCredit_cameraOnly r i _ answer).slot j).1, failCredit_requests r i j _ answer⟩

/-- The publication at the end of a section. -/
theorem publishSlot_sound (cameraAllowed audioAllowed : Bool)
    (hworker : ∀ other, session = some other → (p.handles i).worker = some other)
    (hgone : (r.slots i).session ≠ session → (r.slots i).cameraAvailableRequested = false) :
    Sound p (.publishSlot i session cameraAllowed audioAllowed :: .gateFollows i ::
      Redirect.updateCameraAvailability) r :=
  ⟨⟨hworker, hgone, rfl⟩, fun _ => ⟨trivial, fun _ => Sound.of_free updateCameraAvailability_free⟩⟩

/-- A camera is requested only for a slot with a session. -/
theorem setSlot_sound (hidle : ∀ j, (r.slots j).cameraAvailableRequested = true →
      (r.slots j).session ≠ none) (cameraAllowed audioAllowed : Bool)
    (hworker : ∀ other, session = some other → (p.handles i).worker = some other) :
    Sound p (r.setSlot i session cameraAllowed audioAllowed) r := by
  have hfail : ∀ m ∈ (if (r.slots i).session ≠ session ∨ cameraAllowed = false then
      [Micro.failCredit i none] else []), m = .failCredit i none := by
    intro m hm
    split at hm
    · exact List.mem_singleton.1 hm
    · cases hm
  have hfree : ∀ m ∈ (if (r.slots i).session ≠ session ∨ cameraAllowed = false then
      [Micro.failCredit i none] else []), isFree m = true := by
    intro m hm
    rw [hfail m hm]
    rfl
  unfold Redirect.setSlot Redirect.releaseSession
  by_cases hreplaced : (r.slots i).session.isSome = true ∧ (r.slots i).session ≠ session
  · rw [if_pos hreplaced]
    have hgone : ∀ r' : Redirect, (r'.slots i).cameraAvailableRequested = false →
        Sound p ((if (r.slots i).session ≠ session ∨ cameraAllowed = false then
            [Micro.failCredit i none] else []) ++
          .publishSlot i session cameraAllowed audioAllowed :: .gateFollows i ::
            Redirect.updateCameraAvailability) r' := by
      intro r' hr'
      refine Sound.append (K := fun r => (r.slots i).cameraAvailableRequested = false) hfree
        (fun m hm r answer hr => ?_) hr' fun r hr => ?_
      · rw [hfail m hm, (failCredit_slot r none answer i).2]
        exact hr
      · exact publishSlot_sound cameraAllowed audioAllowed hworker fun _ => hr
    refine ⟨trivial, fun a => ⟨trivial, fun b => ⟨trivial, fun d => hgone _ ?_⟩⟩⟩
    simp only [Redirect.exec, Redirect.modifySlot_same]
  · rw [if_neg hreplaced, List.nil_append]
    refine Sound.append (K := fun r' => (r'.slots i).session = (r.slots i).session ∧
        (r'.slots i).cameraAvailableRequested = (r.slots i).cameraAvailableRequested) hfree
      (fun m hm r answer hr => ?_) ⟨rfl, rfl⟩ fun r' hr => ?_
    · obtain ⟨hsession, hrequested⟩ := failCredit_slot (i := i) r none answer i
      rw [hfail m hm, hsession, hrequested]
      exact hr
    · refine publishSlot_sound cameraAllowed audioAllowed hworker fun hchanged => ?_
      rw [hr.1] at hchanged
      rw [hr.2]
      refine Bool.eq_false_iff.2 fun hrequested => hreplaced ⟨?_, hchanged⟩
      exact Option.isSome_iff_ne_none.2 (hidle i hrequested)

/-- Each session that is dropped has lost its request just before. -/
theorem destroy_sound (hidle : ∀ j, (r.slots j).cameraAvailableRequested = true →
      (r.slots j).session ≠ none) : Sound p r.destroy r := by
  have hround : ∀ (slots : List SlotIndex) (r' : Redirect),
      (∀ j, (r'.slots j).cameraAvailableRequested = true → (r.slots j).session ≠ none) →
        Sound p (slots.flatMap r.destroySlot) r' := by
    intro slots
    induction slots with
    | nil => exact fun _ _ => trivial
    | cons i slots ih =>
      intro r' hr'
      have hdrop : ∀ r'' : Redirect, (r''.slots i).cameraAvailableRequested = false →
          (∀ j, (r''.slots j).cameraAvailableRequested = true → (r.slots j).session ≠ none) →
            Sound p (.dropSession i :: slots.flatMap r.destroySlot) r'' := by
        intro r'' hgone hothers
        refine ⟨hgone, fun answer => ih _ fun j hrequested => hothers j ?_⟩
        rwa [exec_requests r'' answer rfl] at hrequested
      rw [List.flatMap_cons]
      unfold Redirect.destroySlot
      split
      · refine ⟨trivial, fun a => ⟨trivial, fun b => ⟨trivial, fun d => ?_⟩⟩⟩
        refine hdrop _ (by simp only [Redirect.exec, Redirect.modifySlot_same]) fun j hj => hr' j ?_
        by_cases hji : j = i
        · rw [hji] at hj
          simp only [Redirect.exec, Redirect.modifySlot_same] at hj
          cases hj
        · have hother := exec_other ((r'.exec (.failCredit i none) a).exec (.closeGate i) b)
            (.forgetAvailability i) d fun heq => hji (Option.some.inj heq).symm
          rw [hother] at hj
          rwa [← (failCredit_slot r' none a j).2]
      · rename_i hnone
        refine hdrop r' (Bool.eq_false_iff.2 fun hrequested => hnone ?_) hr'
        exact Option.isSome_iff_ne_none.2 (hr' i hrequested)
  exact hround Redirect.slotRange r hidle

end Lgnome.Camera
