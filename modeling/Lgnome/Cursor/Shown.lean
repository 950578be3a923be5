import Lgnome.Cursor.Converges

/-!
# What the platform shows

All cursors over whole runs. A reassert makes the platform follow one slot; an apply
after it, with nothing from another slot in between, leaves that slot's latest
submission on the screen. The counters have 32 bits, so one that went around exactly
once looks as if nothing had happened.
-/
namespace Lgnome.Cursor

open Lgnome.Transition

variable {ι : Type} [DecidableEq ι] {scaleRgba : ScaleRgba} {st next : CursorSystem ι} {s : ι}

/-- What the SDL thread is at, for one slot. -/
def CursorSystem.pcOf (st : CursorSystem ι) (s : ι) : Option CursorPc :=
  st.sdl.bind fun (t, pc) => if t = s then some pc else none

theorem pcOf_of_none (h : st.sdl = none) (s : ι) : st.pcOf s = none := by
  rw [CursorSystem.pcOf, h]
  rfl

theorem pcOf_of_some {t : ι} {x : CursorPc} (h : st.sdl = some (t, x)) (s : ι) :
    st.pcOf s = if t = s then some x else none := by
  rw [CursorSystem.pcOf, h]
  rfl

/-- A step, by what it does to the cursors, the platform and the SDL thread. -/
theorem step_cases {a : CursorAction ι} (h : st.step scaleRgba a = some next) :
    (∃ t x d, a = .worker t x ∧ (st.slots t).worker x = some d ∧ next = st.set t d) ∨
    (∃ t b, (a = .start t ∨ a = .join t) ∧ st.sdl = none ∧
      (b = true ∨ (st.slots t).submitting = false) ∧
      next = st.set t { st.slots t with running := b }) ∨
    (∃ t op d pc, a = .begin t op ∧ st.sdl = none ∧ (st.slots t).begin op = some (d, pc) ∧
      next = { st.set t d with sdl := pc.map (t, ·) }) ∨
    (a = .showDefault ∧ next = { st with platform := ⟨none, true⟩ }) ∨
    (∃ t x, a = .resume ∧ st.sdl = some (t, x) ∧
      next = { st.set t ((st.slots t).resume scaleRgba st.platform x).1 with
        platform := ((st.slots t).resume scaleRgba st.platform x).2.1
        sdl := ((st.slots t).resume scaleRgba st.platform x).2.2.map (t, ·) }) := by
  cases a with
  | worker t x =>
    obtain ⟨d, hd, rfl⟩ := Option.map_eq_some_iff.mp h
    exact .inl ⟨t, x, d, rfl, hd, rfl⟩
  | start t =>
    simp only [CursorSystem.step] at h
    split at h
    · rename_i hcond
      exact .inr (.inl ⟨t, true, .inl rfl, hcond.1, .inl rfl, (Option.some.inj h).symm⟩)
    · cases h
  | join t =>
    simp only [CursorSystem.step] at h
    split at h
    · rename_i hcond
      exact .inr (.inl ⟨t, false, .inr rfl, hcond.1, .inr hcond.2.2, (Option.some.inj h).symm⟩)
    · cases h
  | begin t op =>
    simp only [CursorSystem.step] at h
    split at h
    · rename_i hidle
      obtain ⟨⟨d, pc⟩, hd, rfl⟩ := Option.map_eq_some_iff.mp h
      exact .inr (.inr (.inl ⟨t, op, d, pc, rfl, hidle, hd, rfl⟩))
    · cases h
  | showDefault =>
    simp only [CursorSystem.step] at h
    split at h
    · exact .inr (.inr (.inr (.inl ⟨rfl, (Option.some.inj h).symm⟩)))
    · cases h
  | resume =>
    obtain ⟨⟨t, x⟩, hx, rfl⟩ := Option.map_eq_some_iff.mp h
    exact .inr (.inr (.inr (.inr ⟨t, x, rfl, hx, rfl⟩)))

/-! ## Reachable states -/

def CursorSystem.Inv (scaleRgba : ScaleRgba) (st : CursorSystem ι) : Prop :=
  ∀ s, CursorInv scaleRgba (st.slots s) (st.pcOf s)

theorem set_slots (st : CursorSystem ι) (t : ι) (d : NativeCursor) (s : ι) :
    (st.set t d).slots s = if s = t then d else st.slots s :=
  Function.update_apply ..

/-- Only whether the worker runs is different. -/
theorem CursorInv.setRunning {c : NativeCursor} {b : Bool} (hi : CursorInv scaleRgba c none)
    (h : b = true ∨ c.submitting = false) : CursorInv scaleRgba { c with running := b } none where
  shaped := hi.shaped
  joined := fun hb => h.resolve_left fun ht => absurd (ht.symm.trans hb) (by decide)
  applied := hi.applied
  serial := hi.serial
  built := hi.built
  synced := hi.synced
  underway := nofun

theorem CursorSystem.Inv.step {a : CursorAction ι} (hi : st.Inv scaleRgba)
    (h : st.step scaleRgba a = some next) : next.Inv scaleRgba := by
  intro s
  have hs := hi s
  rcases step_cases h with ⟨t, x, d, -, hd, rfl⟩ | ⟨t, b, -, hidle, hb, rfl⟩ |
    ⟨t, op, d, pc, -, hidle, hd, rfl⟩ | ⟨-, rfl⟩ | ⟨t, x, -, hx, rfl⟩
  · rw [set_slots]
    split
    · rename_i hst
      subst hst
      exact hs.worker hd
    · exact hs
  · rw [set_slots]
    split
    · rename_i hst
      subst hst
      have hnone : (st.set s { st.slots s with running := b }).pcOf s = none :=
        pcOf_of_none hidle s
      rw [pcOf_of_none hidle] at hs
      rw [hnone]
      exact hs.setRunning hb
    · exact hs
  · rw [pcOf_of_none hidle] at hs
    show CursorInv scaleRgba ((st.set t d).slots s) _
    rw [set_slots]
    by_cases hst : s = t
    · subst hst
      rw [if_pos rfl]
      cases pc with
      | none => exact hs.begin hd
      | some x =>
        rw [pcOf_of_some rfl, if_pos rfl]
        exact hs.begin hd
    · rw [if_neg hst]
      cases pc with
      | none => exact hs
      | some x =>
        rw [pcOf_of_some rfl, if_neg (Ne.symm hst)]
        exact hs
  · exact hs
  · rw [pcOf_of_some hx] at hs
    show CursorInv scaleRgba ((st.set t _).slots s) _
    rw [set_slots]
    by_cases hst : s = t
    · subst hst
      rw [if_pos rfl] at hs
      rw [if_pos rfl]
      have hnext := hs.resume (p := st.platform)
      cases hpc : ((st.slots s).resume scaleRgba st.platform x).2.2 with
      | none =>
        rw [hpc] at hnext
        exact hnext
      | some y =>
        rw [hpc] at hnext
        rw [pcOf_of_some rfl, if_pos rfl]
        exact hnext
    · rw [if_neg (Ne.symm hst)] at hs
      rw [if_neg hst]
      cases ((st.slots t).resume scaleRgba st.platform x).2.2 with
      | none => exact hs
      | some y =>
        rw [pcOf_of_some rfl, if_neg (Ne.symm hst)]
        exact hs

theorem machine_step {a : CursorAction ι} {e : Unit} :
    (cursorMachine scaleRgba ι).step st a = some (next, e) ↔
      st.step scaleRgba a = some next := by
  simp [cursorMachine]

theorem run_inv {tr : List (CursorAction ι × Unit)}
    (h : (cursorMachine scaleRgba ι).Run tr st) : st.Inv scaleRgba :=
  h.invariant (fun _ => CursorInv.initial) fun _ _ _ _ hi hstep => hi.step (machine_step.mp hstep)

/-! ## The latest submission -/

inductive Submission
  | bitmap (b : CursorBitmap)
  | hidden
  | default
  deriving DecidableEq, Repr

/-- What an action leaves as the latest submission to a slot; a reset leaves the default. -/
def Submission.after (s : ι) (last : Submission) : CursorAction ι → Submission
  | .worker t (.submitBitmap b) => if t = s ∧ validBitmap b = true then .bitmap b else last
  | .worker t (.submitState state) =>
    if t = s ∧ state = 0 then .hidden else if t = s ∧ state = 1 then .default else last
  | .begin t .reset => if t = s then .default else last
  | _ => last

def latest (s : ι) (tr : List (CursorAction ι × Unit)) : Submission :=
  tr.foldl (fun last x => last.after s x.1) .default

/-- What is behind the lock. -/
def NativeCursor.submission (c : NativeCursor) : Submission :=
  match c.desired, c.shape with
  | .hidden, _ => .hidden
  | .shape, some b => .bitmap b
  | _, _ => .default

theorem submission_worker {c d : NativeCursor} {a : WorkerAction} (h : c.worker a = some d) :
    d.submission = c.submission.after s (.worker s a) := by
  cases a with
  | submitBitmap b =>
    simp only [NativeCursor.worker] at h
    split at h
    · split at h
      · rename_i hvalid
        obtain rfl := Option.some.inj h
        exact (if_pos ⟨rfl, hvalid⟩).symm
      · rename_i hvalid
        obtain rfl := Option.some.inj h
        exact (if_neg fun hb => hvalid hb.2).symm
    · cases h
  | submitState state =>
    simp only [NativeCursor.worker] at h
    split at h
    · split at h
      · rename_i hstate
        obtain rfl := Option.some.inj h
        exact (if_pos ⟨rfl, hstate⟩).symm
      · rename_i hhidden
        split at h
        · rename_i hstate
          obtain rfl := Option.some.inj h
          exact ((if_neg fun hb => hhidden hb.2).trans (if_pos ⟨rfl, hstate⟩)).symm
        · rename_i hdefault
          obtain rfl := Option.some.inj h
          exact ((if_neg fun hb => hhidden hb.2).trans (if_neg fun hb => hdefault hb.2)).symm
    · cases h
  | bump =>
    simp only [NativeCursor.worker] at h
    split at h
    · obtain rfl := Option.some.inj h
      rfl
    · cases h

theorem submission_begin {c d : NativeCursor} {op : CursorOp} {pc : Option CursorPc}
    (h : c.begin op = some (d, pc)) : d.submission = c.submission.after s (.begin s op) := by
  cases op with
  | apply g =>
    simp only [NativeCursor.begin] at h
    split at h <;> obtain ⟨rfl, -⟩ := Prod.mk.inj (Option.some.inj h) <;> rfl
  | reassert =>
    obtain ⟨rfl, -⟩ := Prod.mk.inj (Option.some.inj h)
    rfl
  | reset =>
    simp only [NativeCursor.begin] at h
    split at h
    · cases h
    · obtain ⟨rfl, -⟩ := Prod.mk.inj (Option.some.inj h)
      exact (if_pos rfl).symm

theorem submission_resume (scaleRgba : ScaleRgba) (c : NativeCursor) (p : Platform)
    (x : CursorPc) : (c.resume scaleRgba p x).1.submission = c.submission := by
  cases x with
  | apply generation changed g => rfl
  | present generation changed g taken =>
    obtain ⟨hdesired, hshape, -⟩ := present_frame scaleRgba c p generation g taken
    simp only [NativeCursor.resume, NativeCursor.submission, hdesired, hshape]
  | reassert desired =>
    simp only [NativeCursor.resume]
    split <;> rfl
  | reset => rfl

theorem after_worker_of_ne {t : ι} (h : t ≠ s) (last : Submission) (a : WorkerAction) :
    last.after s (.worker t a) = last := by
  cases a <;> simp [Submission.after, h]

theorem after_begin_of_ne {t : ι} (h : t ≠ s) (last : Submission) (op : CursorOp) :
    last.after s (.begin t op) = last := by
  cases op <;> simp [Submission.after, h]

/-- One step and what is behind the lock. -/
theorem submission_step {a : CursorAction ι} (h : st.step scaleRgba a = some next) (s : ι) :
    (next.slots s).submission = (st.slots s).submission.after s a := by
  rcases step_cases h with ⟨t, x, d, rfl, hd, rfl⟩ | ⟨t, b, ha, -, -, rfl⟩ |
    ⟨t, op, d, pc, rfl, -, hd, rfl⟩ | ⟨rfl, rfl⟩ | ⟨t, x, rfl, -, rfl⟩
  · rw [set_slots]
    by_cases hst : s = t
    · subst hst
      rw [if_pos rfl]
      exact submission_worker hd
    · rw [if_neg hst, after_worker_of_ne (Ne.symm hst)]
  · have hlast : (st.slots s).submission.after s a = (st.slots s).submission := by
      rcases ha with rfl | rfl <;> rfl
    rw [hlast, set_slots]
    split
    · rename_i hst
      subst hst
      rfl
    · rfl
  · show ((st.set t d).slots s).submission = _
    rw [set_slots]
    by_cases hst : s = t
    · subst hst
      rw [if_pos rfl]
      exact submission_begin hd
    · rw [if_neg hst, after_begin_of_ne (Ne.symm hst)]
  · rfl
  · show ((st.set t _).slots s).submission = _
    rw [set_slots]
    split
    · rename_i hst
      subst hst
      exact submission_resume scaleRgba _ _ _
    · rfl

theorem submission_latest {tr : List (CursorAction ι × Unit)}
    (h : (cursorMachine scaleRgba ι).Run tr st) (s : ι) :
    (st.slots s).submission = latest s tr := by
  refine h.history (I := fun tr st => (st.slots s).submission = latest s tr) rfl ?_
  intro tr st a next e hi hstep
  rw [submission_step (machine_step.mp hstep), hi, latest, latest, List.foldl_concat]

/-! ## One slot on the screen -/

/-- The SDL thread works on this slot alone, and when it is through, the platform shows the
slot's cursor unless something is new. -/
structure CursorSystem.Owned (st : CursorSystem ι) (s : ι) : Prop where
  alone : ∀ t x, st.sdl = some (t, x) → t = s
  shown : (∃ desired, st.pcOf s = some (.reassert desired)) ∨ st.pcOf s = some .reset ∨
    ((st.slots s).Quiet → (st.slots s).Displays st.platform)

/-- An action that leaves the platform to one slot. -/
def LeavesTo (s : ι) : CursorAction ι → Prop
  | .begin t _ => t = s
  | .showDefault => False
  | _ => True

theorem CursorSystem.Owned.reassert
    (h : st.step scaleRgba (.begin s .reassert) = some next) : next.Owned s := by
  rcases step_cases h with ⟨_, _, _, he, -⟩ | ⟨_, _, he | he, -⟩ | ⟨t, op, d, pc, he, -, hd, rfl⟩ |
    ⟨he, -⟩ | ⟨_, _, he, -⟩
  · cases he
  · cases he
  · cases he
  · obtain ⟨rfl, rfl⟩ := CursorAction.begin.inj he
    obtain ⟨rfl, rfl⟩ := Prod.mk.inj (Option.some.inj hd)
    refine ⟨fun t x hx => (Prod.mk.inj (Option.some.inj hx)).1.symm,
      .inl ⟨(st.slots s).desired, ?_⟩⟩
    rw [pcOf_of_some rfl, if_pos rfl]
  · cases he
  · cases he

theorem CursorSystem.Owned.step {a : CursorAction ι} (ho : st.Owned s) (hi : st.Inv scaleRgba)
    (ha : LeavesTo s a) (h : st.step scaleRgba a = some next) : next.Owned s := by
  have hs := hi s
  rcases step_cases h with ⟨t, x, d, -, hd, rfl⟩ | ⟨t, b, -, hidle, -, rfl⟩ |
    ⟨t, op, d, pc, rfl, hidle, hd, rfl⟩ | ⟨rfl, rfl⟩ | ⟨t, x, -, hx, rfl⟩
  · refine ⟨ho.alone, ho.shown.imp id (.imp id fun hq => ?_)⟩
    rw [set_slots]
    split
    · rename_i hst
      subst hst
      intro hquiet
      rcases (worker_frame hs hd).2.2.2.2 with rfl | hnew
      · exact hq hquiet
      · exact absurd hquiet hnew
    · exact hq
  · refine ⟨ho.alone, ho.shown.imp id (.imp id fun hq => ?_)⟩
    rw [set_slots]
    split
    · rename_i hst
      subst hst
      exact hq
    · exact hq
  · obtain rfl : t = s := ha
    have hq : (st.slots t).Quiet → (st.slots t).Displays st.platform := by
      rcases ho.shown with ⟨_, hpc⟩ | hpc | hq
      · rw [pcOf_of_none hidle] at hpc
        cases hpc
      · rw [pcOf_of_none hidle] at hpc
        cases hpc
      · exact hq
    refine ⟨fun u x hx => ?_, ?_⟩
    · obtain ⟨y, -, hy⟩ := Option.map_eq_some_iff.mp hx
      exact (Prod.mk.inj hy).1.symm
    · cases op with
      | apply g =>
        refine .inr (.inr ?_)
        have hsame : d = st.slots t := by
          simp only [NativeCursor.begin] at hd
          split at hd <;> exact (Prod.mk.inj (Option.some.inj hd)).1.symm
        show ((st.set t d).slots t).Quiet → ((st.set t d).slots t).Displays st.platform
        rw [set_slots, if_pos rfl, hsame]
        exact hq
      | reassert =>
        obtain ⟨-, rfl⟩ := Prod.mk.inj (Option.some.inj hd)
        exact .inl ⟨_, by rw [pcOf_of_some rfl, if_pos rfl]⟩
      | reset =>
        simp only [NativeCursor.begin] at hd
        split at hd
        · cases hd
        · obtain ⟨-, rfl⟩ := Prod.mk.inj (Option.some.inj hd)
          exact .inr (.inl (by rw [pcOf_of_some rfl, if_pos rfl]))
  · exact ha.elim
  · obtain rfl := ho.alone t x hx
    have hpc : st.pcOf t = some x := by rw [pcOf_of_some hx, if_pos rfl]
    rw [hpc] at hs
    refine ⟨fun u y hy => ?_, .inr (.inr ?_)⟩
    · obtain ⟨z, -, hz⟩ := Option.map_eq_some_iff.mp hy
      exact (Prod.mk.inj hz).1.symm
    · show ((st.set t _).slots t).Quiet → ((st.set t _).slots t).Displays _
      rw [set_slots, if_pos rfl]
      intro hquiet
      cases hend : ((st.slots t).resume scaleRgba st.platform x).2.2 with
      | none => exact resume_displays hs hend hquiet
      | some y =>
        -- only the lock section of an apply is not the end
        cases x with
        | apply generation changed g =>
          rcases ho.shown with ⟨_, hpc'⟩ | hpc' | hq
          · cases hpc.symm.trans hpc'
          · cases hpc.symm.trans hpc'
          · exact hq hquiet
        | present generation changed g taken => cases hend
        | reassert desired =>
          simp only [NativeCursor.resume] at hend
          split at hend <;> cases hend
        | reset => cases hend

/-! ## The end of an apply -/

/-- Nobody submits to the slot, and the SDL thread starts nothing new. -/
def LeavesAlone (s : ι) : CursorAction ι → Prop
  | .worker t _ => t ≠ s
  | .begin _ _ => False
  | .showDefault => False
  | _ => True

/-- The stages of an apply to `s` that read the generation of the cursor as it is. -/
inductive Stage (s : ι) (g : Geometry) (builtSerial : Nat) (c : NativeCursor) (p : Platform) :
    Option (ι × CursorPc) → Prop
  | read (changed : Bool) (serial : c.builtSerial = builtSerial) :
      Stage s g builtSerial c p (some (s, .apply c.generation changed g))
  | took (changed : Bool) (taken : Snapshot) (serial : c.builtSerial = builtSerial) :
      Stage s g builtSerial c p (some (s, .present c.generation changed g taken))
  | done (quiet : c.Quiet) (displays : c.Displays p) (applied : c.applied = g)
      (serial : c.builtSerial = builtSerial ∨ c.builtSerial = c.shapeSerial) :
      Stage s g builtSerial c p none

theorem Stage.step {a : CursorAction ι} {g : Geometry} {n serial : Nat}
    (hstage : Stage s g n (st.slots s) st.platform st.sdl)
    (hsub : (st.slots s).submitting = false) (hserial : (st.slots s).shapeSerial = serial)
    (hi : st.Inv scaleRgba) (ha : LeavesAlone s a) (h : st.step scaleRgba a = some next) :
    Stage s g n (next.slots s) next.platform next.sdl ∧ (next.slots s).submitting = false ∧
      (next.slots s).shapeSerial = serial := by
  have hs := hi s
  rcases step_cases h with ⟨t, x, d, rfl, hd, rfl⟩ | ⟨t, b, -, hidle, -, rfl⟩ |
    ⟨t, op, d, pc, rfl, -, hd, rfl⟩ | ⟨rfl, rfl⟩ | ⟨t, x, -, hx, rfl⟩
  · have hne : s ≠ t := Ne.symm ha
    rw [set_slots, if_neg hne]
    exact ⟨hstage, hsub, hserial⟩
  · rw [hidle] at hstage
    rw [set_slots]
    split
    · rename_i hst
      subst hst
      refine ⟨?_, hsub, hserial⟩
      show Stage s g n _ st.platform st.sdl
      rw [hidle]
      cases hstage with
      | done quiet displays applied serial => exact .done quiet displays applied serial
    · refine ⟨?_, hsub, hserial⟩
      show Stage s g n _ st.platform st.sdl
      rw [hidle]
      exact hstage
  · exact ha.elim
  · exact ha.elim
  · rw [hx] at hstage
    cases hstage with
    | read changed hbuilt =>
      show Stage s g n ((st.set s _).slots s) _ _ ∧ ((st.set s _).slots s).submitting = false ∧ _
      rw [set_slots, if_pos rfl]
      exact ⟨.took changed _ hbuilt, hsub, hserial⟩
    | took changed taken hbuilt =>
      obtain ⟨-, -, ht⟩ := (hi s).underway (.present _ changed g taken)
        (by rw [pcOf_of_some hx, if_pos rfl]; rfl)
      obtain ⟨-, -, hshape, hgen, -, hsubmitting, happlied, hgeometry, hserials⟩ :=
        present_frame scaleRgba (st.slots s) st.platform (st.slots s).generation g taken
      have hquiet : ((st.slots s).present scaleRgba st.platform (st.slots s).generation g
          taken).1.Quiet := ⟨hgen.trans happlied.symm, hsubmitting.trans hsub⟩
      show Stage s g n ((st.set s _).slots s) _ _ ∧ ((st.set s _).slots s).submitting = false ∧ _
      rw [set_slots, if_pos rfl]
      refine ⟨.done hquiet (present_displays ht hquiet) hgeometry ?_, hsubmitting.trans hsub,
        hshape.trans hserial⟩
      rcases hserials with hkept | hnew
      · exact .inl (hkept.trans hbuilt)
      · exact .inr (hnew.trans ((ht.current rfl hsub).2.trans hshape.symm))

theorem resume_submitting (scaleRgba : ScaleRgba) (c : NativeCursor) (p : Platform)
    (x : CursorPc) : (c.resume scaleRgba p x).1.submitting = c.submitting := by
  cases x with
  | apply generation changed g => rfl
  | present generation changed g taken =>
    obtain ⟨-, -, -, -, -, hsub, -⟩ := present_frame scaleRgba c p generation g taken
    exact hsub
  | reassert desired =>
    simp only [NativeCursor.resume]
    split <;> rfl
  | reset => rfl

theorem submitting_step {a : CursorAction ι} (ha : LeavesAlone s a)
    (h : st.step scaleRgba a = some next) :
    (next.slots s).submitting = (st.slots s).submitting := by
  rcases step_cases h with ⟨t, x, d, rfl, -, rfl⟩ | ⟨t, b, -, -, -, rfl⟩ |
    ⟨t, op, d, pc, rfl, -, -, rfl⟩ | ⟨rfl, rfl⟩ | ⟨t, x, -, -, rfl⟩
  · rw [set_slots, if_neg (Ne.symm ha)]
  · rw [set_slots]
    split
    · rename_i hst
      subst hst
      rfl
    · rfl
  · exact ha.elim
  · exact ha.elim
  · show ((st.set t _).slots s).submitting = _
    rw [set_slots]
    split
    · rename_i hst
      subst hst
      exact resume_submitting scaleRgba _ _ _
    · rfl

/-- What the platform is to show for a submission. -/
def Shows (scaleRgba : ScaleRgba) (p : Platform) (g : Geometry) : Submission → Prop
  | .bitmap b => p.visible = true ∧ p.image = some (buildCursor scaleRgba b g)
  | .hidden => p.visible = false
  | .default => p.visible = true ∧ p.image = none

/-- Two counts that are different and look the same. -/
def Wrapped (a b : Nat) : Prop := a ≠ b ∧ seen a = seen b

theorem eq_of_seen {a b : Nat} (h : ¬ Wrapped a b) (hseen : seen a = seen b) : a = b :=
  not_not.mp fun hne => h ⟨hne, hseen⟩

/-- A cursor that is displayed, with nothing new, is the latest submission. -/
theorem shows_of_displays {c : NativeCursor} {p : Platform} {g : Geometry}
    (hi : CursorInv scaleRgba c none) (hquiet : c.Quiet) (hdisplays : c.Displays p)
    (happlied : c.applied = g)
    (hserial : seen c.shapeSerial = seen c.builtSerial → c.builtSerial = c.shapeSerial) :
    Shows scaleRgba p g c.submission := by
  obtain ⟨hshape, hdefault⟩ := hi.synced nofun hquiet
  unfold NativeCursor.Displays at hdisplays
  unfold NativeCursor.submission
  cases hd : c.desired with
  | hidden => rwa [hd, if_pos rfl] at hdisplays
  | default =>
    rw [hd, if_neg (by decide), hdefault hd] at hdisplays
    exact hdisplays
  | shape =>
    rw [hd, if_neg (by decide)] at hdisplays
    obtain ⟨hseen, hsome⟩ := hshape hd
    obtain ⟨image, himage⟩ := Option.ne_none_iff_exists'.mp hsome
    obtain ⟨b, hb, rfl⟩ := hi.built image himage (hserial hseen) hd
    rw [himage, happlied] at hdisplays
    simp only [hb]
    exact hdisplays

/-- An apply that starts is at its first stage, or done at once. -/
theorem stage_begin {g : Geometry} {u v : CursorSystem ι}
    (h : u.step scaleRgba (.begin s (.apply g)) = some v) (hsub : (v.slots s).submitting = false)
    (hready : u.Owned s ∨ (u.slots s).generation ≠ (u.slots s).appliedGeneration)
    (hgeneration : ¬ Wrapped (u.slots s).generation (u.slots s).appliedGeneration) :
    Stage s g (u.slots s).builtSerial (v.slots s) v.platform v.sdl ∧
      (v.slots s).shapeSerial = (u.slots s).shapeSerial := by
  rcases step_cases h with ⟨_, _, _, he, -⟩ | ⟨_, _, he | he, -⟩ |
    ⟨t, op, d, pc, he, hidle, hd, rfl⟩ | ⟨he, -⟩ | ⟨_, _, he, -⟩
  · cases he
  · cases he
  · cases he
  · obtain ⟨rfl, rfl⟩ := CursorAction.begin.inj he
    have hslot : (u.set s (u.slots s)).slots s = u.slots s := (set_slots u s _ s).trans (if_pos rfl)
    simp only [NativeCursor.begin] at hd
    split at hd
    · rename_i hskip
      obtain ⟨rfl, rfl⟩ := Prod.mk.inj (Option.some.inj hd)
      have heq := eq_of_seen hgeneration hskip.1
      replace hsub : ((u.set s (u.slots s)).slots s).submitting = false := hsub
      show Stage s g _ ((u.set s (u.slots s)).slots s) u.platform none ∧
        ((u.set s (u.slots s)).slots s).shapeSerial = _
      rw [hslot] at hsub ⊢
      have hshown : (u.slots s).Quiet → (u.slots s).Displays u.platform := by
        rcases (hready.resolve_right (not_not.mpr heq)).shown with ⟨_, hpc⟩ | hpc | hq
        · rw [pcOf_of_none hidle] at hpc
          cases hpc
        · rw [pcOf_of_none hidle] at hpc
          cases hpc
        · exact hq
      exact ⟨.done ⟨heq, hsub⟩ (hshown ⟨heq, hsub⟩) (not_not.mp hskip.2).symm (.inl rfl), rfl⟩
    · obtain ⟨rfl, rfl⟩ := Prod.mk.inj (Option.some.inj hd)
      show Stage s g _ ((u.set s (u.slots s)).slots s) u.platform (some (s, _)) ∧
        ((u.set s (u.slots s)).slots s).shapeSerial = _
      rw [hslot]
      exact ⟨.read _ rfl, rfl⟩
  · cases he
  · cases he

/-- An apply that runs to its end without a new submission shows the latest one, if the
platform follows the slot already or there was something new to take. -/
theorem apply_shows {before tail : List (CursorAction ι × Unit)} {g : Geometry}
    {u w : CursorSystem ι} (hrun : (cursorMachine scaleRgba ι).Run before u)
    (happly : (cursorMachine scaleRgba ι).Path u ((.begin s (.apply g), ()) :: tail) w)
    (hready : u.Owned s ∨ (u.slots s).generation ≠ (u.slots s).appliedGeneration)
    (htail : ∀ x ∈ tail, LeavesAlone s x.1) (hdone : w.sdl = none)
    (hin : (w.slots s).submitting = false)
    (hgeneration : ¬ Wrapped (u.slots s).generation (u.slots s).appliedGeneration)
    (hserial : ¬ Wrapped (u.slots s).shapeSerial (u.slots s).builtSerial) :
    Shows scaleRgba w.platform g (latest s (before ++ (.begin s (.apply g), ()) :: tail)) := by
  have hfull := hrun.append happly
  obtain ⟨v, hbegin, hpath⟩ := happly.uncons
  rw [machine_step] at hbegin
  have hvinv := (run_inv hrun).step hbegin
  have hvsub : (v.slots s).submitting = false := by
    have hsame := hpath.invariant_on
      (I := fun st => (st.slots s).submitting = (v.slots s).submitting) rfl htail
      fun st a next e ha hst hstep => (submitting_step ha (machine_step.mp hstep)).trans hst
    exact hsame.symm.trans hin
  have hstage := stage_begin hbegin hvsub hready hgeneration
  have hend := hpath.invariant_on
    (I := fun st => st.Inv scaleRgba ∧
      Stage s g (u.slots s).builtSerial (st.slots s) st.platform st.sdl ∧
      (st.slots s).submitting = false ∧ (st.slots s).shapeSerial = (u.slots s).shapeSerial)
    ⟨hvinv, hstage.1, hvsub, hstage.2⟩ htail fun st a next e ha hst hstep =>
      ⟨hst.1.step (machine_step.mp hstep),
        Stage.step hst.2.1 hst.2.2.1 hst.2.2.2 hst.1 ha (machine_step.mp hstep)⟩
  obtain ⟨hwinv, hwstage, -, hwserial⟩ := hend
  have hw := hwinv s
  rw [pcOf_of_none hdone] at hw
  rw [hdone] at hwstage
  rw [← submission_latest hfull]
  cases hwstage with
  | done quiet displays applied serial =>
    refine shows_of_displays hw quiet displays applied fun hseen => ?_
    rcases serial with hkept | hnew
    · rw [hwserial, hkept] at hseen ⊢
      exact (eq_of_seen hserial hseen).symm
    · exact hnew

/-- A reassert and an apply of the same slot, and nothing of another slot between them,
show the slot's latest submission for the geometry of the apply; so does any apply that
has something new to take, however it arrived. -/
theorem pointer_converges {before tail : List (CursorAction ι × Unit)} {g : Geometry}
    {u w : CursorSystem ι} (hrun : (cursorMachine scaleRgba ι).Run before u)
    (happly : (cursorMachine scaleRgba ι).Path u ((.begin s (.apply g), ()) :: tail) w)
    (hready : (∃ earlier mid, before = earlier ++ (.begin s .reassert, ()) :: mid ∧
        ∀ x ∈ mid, LeavesTo s x.1) ∨
      (u.slots s).generation ≠ (u.slots s).appliedGeneration)
    (htail : ∀ x ∈ tail, LeavesAlone s x.1) (hdone : w.sdl = none)
    (hin : (w.slots s).submitting = false)
    (hgeneration : ¬ Wrapped (u.slots s).generation (u.slots s).appliedGeneration)
    (hserial : ¬ Wrapped (u.slots s).shapeSerial (u.slots s).builtSerial) :
    Shows scaleRgba w.platform g (latest s (before ++ (.begin s (.apply g), ()) :: tail)) := by
  refine apply_shows hrun happly (hready.imp ?_ id) htail hdone hin hgeneration hserial
  rintro ⟨earlier, mid, rfl, hmid⟩
  obtain ⟨x, y, hpre, hreassert, hpost⟩ := hrun.split_at
  have hyinv := (run_inv hpre).step (machine_step.mp hreassert)
  have howned := hpost.invariant_on (I := fun st => st.Inv scaleRgba ∧ st.Owned s)
    ⟨hyinv, .reassert (machine_step.mp hreassert)⟩ hmid fun st a next e ha hst hstep =>
      ⟨hst.1.step (machine_step.mp hstep), hst.2.step hst.1 ha (machine_step.mp hstep)⟩
  exact howned.2

/-! ## Some runs -/

instance (scaleRgba : ScaleRgba) (p : Platform) (g : Geometry) :
    (last : Submission) → Decidable (Shows scaleRgba p g last)
  | .bitmap b => inferInstanceAs (Decidable (p.visible = true ∧
      p.image = some (buildCursor scaleRgba b g)))
  | .hidden => inferInstanceAs (Decidable (p.visible = false))
  | .default => inferInstanceAs (Decidable (p.visible = true ∧ p.image = none))

/-- No scaling is needed for these. -/
def unscaled : ScaleRgba := fun pixels _ _ _ _ => pixels

def onePixel (shade : UInt8) : CursorBitmap := ⟨1, 1, 0, 0, [shade, shade, shade, 255]⟩

def fullScreen : Geometry := ⟨1920, 1080, 1920, 1080⟩

def traceOf (actions : List (CursorAction ι)) : List (CursorAction ι × Unit) :=
  actions.map fun a => (a, ())

/-- One worker's bitmap is applied, another bitmap comes, and the overlay is left again. -/
def shownActions : List (CursorAction Bool) :=
  [.start false, .worker false (.submitBitmap (onePixel 1)), .worker false .bump,
    .begin false (.apply fullScreen), .resume, .resume, .showDefault,
    .worker false (.submitBitmap (onePixel 2)), .begin false .reassert, .worker false .bump, .resume]

theorem pointer_converges_shown :
    ∃ u w, (cursorMachine unscaled Bool).Run (traceOf shownActions) u ∧
      (cursorMachine unscaled Bool).Path u
        ((.begin false (.apply fullScreen), ()) :: traceOf [.resume, .resume]) w ∧
      Shows unscaled w.platform fullScreen (.bitmap (onePixel 2)) := by
  have hrun := Machine.run_of_exec (M := cursorMachine unscaled Bool) shownActions
    (by decide +kernel)
  have hpath := Machine.path_of_exec (M := cursorMachine unscaled Bool)
    (((cursorMachine unscaled Bool).exec (cursorMachine unscaled Bool).init shownActions).get
      (by decide +kernel)).1
    [.begin false (.apply fullScreen), .resume, .resume] (by decide +kernel)
  exact ⟨_, _, hrun, hpath, pointer_converges hrun hpath
    (.inl ⟨traceOf (shownActions.take 8), traceOf (shownActions.drop 9), rfl, by
      simp [traceOf, shownActions, LeavesTo]⟩)
    (by simp [LeavesAlone]) (by decide +kernel) (by decide +kernel)
    (fun h => by have hne := h.2; revert hne; decide +kernel)
    (fun h => by have hne := h.2; revert hne; decide +kernel)⟩

/-- A reassert and an apply of one slot that leave something else on the screen. -/
def Misses (scaleRgba : ScaleRgba) (ι : Type) [DecidableEq ι] (s : ι) (g : Geometry)
    (mid : List (CursorAction ι × Unit)) : Prop :=
  ∃ earlier tail u w,
    (cursorMachine scaleRgba ι).Run (earlier ++ (.begin s .reassert, ()) :: mid) u ∧
    (cursorMachine scaleRgba ι).Path u ((.begin s (.apply g), ()) :: tail) w ∧
    (∀ x ∈ tail, LeavesAlone s x.1) ∧ w.sdl = none ∧ (w.slots s).submitting = false ∧
    ¬ Shows scaleRgba w.platform g
      (latest s (earlier ++ (.begin s .reassert, ()) :: mid ++ (.begin s (.apply g), ()) :: tail))

/-- Both slots have a bitmap, and the first one is on the screen. -/
def twoSlots : List (CursorAction Bool) :=
  [.start false, .start true, .worker false (.submitBitmap (onePixel 1)), .worker false .bump,
    .worker true (.submitBitmap (onePixel 2)), .worker true .bump,
    .begin false (.apply fullScreen), .resume, .resume]

/-- One cursor that had so many bitmaps since its last apply. -/
def countedState (n : Nat) : CursorSystem Unit where
  slots := fun _ =>
    { desired := .shape
      shape := some (onePixel 1)
      shapeSerial := n
      generation := n
      appliedGeneration := 0
      cursor := none
      builtSerial := 0
      applied := fullScreen
      running := true
      submitting := false }
  platform := ⟨none, true⟩
  sdl := none

theorem counted_first :
    ∃ tr, (cursorMachine unscaled Unit).Run tr (countedState 1) := by
  have hstart : (cursorMachine unscaled Unit).exec .initial
      [.start (), .begin () (.apply fullScreen), .resume, .resume,
        .worker () (.submitBitmap (onePixel 1)), .worker () .bump] =
      some (countedState 1, traceOf [.start (), .begin () (.apply fullScreen), .resume, .resume,
        .worker () (.submitBitmap (onePixel 1)), .worker () .bump]) := rfl
  exact ⟨_, Machine.exec_path hstart⟩

theorem counted_next (n : Nat) :
    ∃ tr, (cursorMachine unscaled Unit).Path (countedState n) tr (countedState (n + 1)) := by
  have hnext : (cursorMachine unscaled Unit).exec (countedState n)
      [.worker () (.submitBitmap (onePixel 1)), .worker () .bump] =
      some (countedState (n + 1), traceOf [.worker () (.submitBitmap (onePixel 1)),
        .worker () .bump]) := rfl
  exact ⟨_, Machine.exec_path hnext⟩

theorem counted_run (n : Nat) :
    ∃ tr, (cursorMachine unscaled Unit).Run tr (countedState (n + 1)) := by
  induction n with
  | zero => exact counted_first
  | succ n ih =>
    obtain ⟨tr, hrun⟩ := ih
    obtain ⟨tr', hpath⟩ := counted_next (n + 1)
    exact ⟨tr ++ tr', hrun.append hpath⟩

/-- As many bitmaps as the counters have values look like none. -/
theorem counted_misses : Misses unscaled Unit () fullScreen (traceOf [.resume]) := by
  obtain ⟨earlier, hrun⟩ := counted_run 4294967295
  have hreassert : (cursorMachine unscaled Unit).exec (countedState 4294967296)
      [.begin () .reassert, .resume] =
      some (countedState 4294967296, traceOf [.begin () .reassert, .resume]) := rfl
  have happly : (cursorMachine unscaled Unit).exec (countedState 4294967296)
      [.begin () (.apply fullScreen)] =
      some (countedState 4294967296, traceOf [.begin () (.apply fullScreen)]) := rfl
  have hu := hrun.append (Machine.exec_path hreassert)
  have hw := Machine.exec_path happly
  refine ⟨earlier, [], countedState 4294967296, countedState 4294967296, hu, hw, nofun, rfl, rfl,
    fun hshows => ?_⟩
  have hbitmap : Shows unscaled ⟨none, true⟩ fullScreen
      ((countedState 4294967296).slots ()).submission := by
    rw [submission_latest (hu.append hw)]
    exact hshows
  exact nomatch hbitmap.2

/-- With another slot's apply between them, or 2^32 submissions before them, a reassert and
an apply show another pointer. -/
theorem pointer_misses :
    Misses unscaled Bool false fullScreen
      (traceOf [.resume, .begin true (.apply fullScreen), .resume, .resume]) ∧
    Misses unscaled Unit () fullScreen (traceOf [.resume]) := by
  refine ⟨?_, counted_misses⟩
  have hrun := Machine.run_of_exec (M := cursorMachine unscaled Bool)
    (twoSlots ++ [.begin false .reassert, .resume, .begin true (.apply fullScreen), .resume,
      .resume]) (by decide +kernel)
  have hpath := Machine.path_of_exec (M := cursorMachine unscaled Bool)
    (((cursorMachine unscaled Bool).exec (cursorMachine unscaled Bool).init
      (twoSlots ++ [.begin false .reassert, .resume, .begin true (.apply fullScreen), .resume,
        .resume])).get (by decide +kernel)).1
    [.begin false (.apply fullScreen)] (by decide +kernel)
  exact ⟨traceOf twoSlots, [], _, _, hrun, hpath, nofun, by decide +kernel, by decide +kernel,
    by decide +kernel⟩

end Lgnome.Cursor
