import Lgnome.Cursor.Model

/-!
# The pointer converges

What one cursor knows of the submissions made to it, between any two cuts of the SDL
thread. While nothing is on its way, the cursor that was built is the one that is
wanted; and after a reassert the platform shows it until another slot has its turn.
-/
namespace Lgnome.Cursor

open Lgnome.Transition

variable {scaleRgba : ScaleRgba} {c d : NativeCursor} {p q : Platform}
  {pc : Option CursorPc}

/-- All that was submitted was seen by the last apply that looked. -/
def NativeCursor.Quiet (c : NativeCursor) : Prop :=
  c.generation = c.appliedGeneration ∧ c.submitting = false

/-- The platform shows what the cursor is to show, as far as it is built. -/
def NativeCursor.Displays (c : NativeCursor) (p : Platform) : Prop :=
  if c.desired = .hidden then p.visible = false else p.visible = true ∧ p.image = c.cursor

/-- What was taken out of the lock is what was there when the generation was read, unless
something was submitted since. -/
structure Taken (c : NativeCursor) (generation : Nat) (changed : Bool) (taken : Snapshot) :
    Prop where
  built : c.builtSerial ≤ taken.shapeSerial
  serial : taken.shapeSerial ≤ c.shapeSerial
  artwork : taken.shapeSerial = c.shapeSerial → c.desired = .shape →
    taken.desired = .shape ∧ ∀ b, taken.rgba = some b → c.shape = some b
  current : c.generation = generation → c.submitting = false →
    taken.desired = c.desired ∧ taken.shapeSerial = c.shapeSerial
  kept : taken.desired = .shape → taken.rgba = none →
    changed = false ∧ seen taken.shapeSerial = seen c.builtSerial ∧ c.cursor ≠ none
  drawn : ∀ b, taken.rgba = some b → taken.desired = .shape

/-- How an operation that is under way stands to its cursor. -/
def Underway (c : NativeCursor) : CursorPc → Prop
  | .apply generation changed g =>
    generation ≤ c.generation ∧ (changed = false → g = c.applied)
  | .present generation changed g taken =>
    generation ≤ c.generation ∧ (changed = false → g = c.applied) ∧
      Taken c generation changed taken
  | .reassert desired => c.Quiet → desired = c.desired
  | .reset => c.running = false ∧ c.desired = .default ∧ c.shape = none

/-- One cursor between two cuts. -/
structure CursorInv (scaleRgba : ScaleRgba) (c : NativeCursor) (pc : Option CursorPc) : Prop where
  shaped : c.desired = .shape → c.shape ≠ none
  joined : c.running = false → c.submitting = false
  applied : c.appliedGeneration ≤ c.generation
  serial : c.builtSerial ≤ c.shapeSerial
  built : ∀ image, c.cursor = some image → c.builtSerial = c.shapeSerial → c.desired = .shape →
    ∃ b, c.shape = some b ∧ image = buildCursor scaleRgba b c.applied
  synced : pc ≠ some .reset → c.Quiet →
    (c.desired = .shape → seen c.shapeSerial = seen c.builtSerial ∧ c.cursor ≠ none) ∧
      (c.desired = .default → c.cursor = none)
  underway : ∀ x ∈ pc, Underway c x

theorem CursorInv.initial : CursorInv scaleRgba .initial none where
  shaped := fun h => nomatch h
  joined := fun _ => rfl
  applied := Nat.le_refl _
  serial := Nat.le_refl _
  built := fun _ h => nomatch h
  synced := fun _ _ => ⟨fun h => (nomatch h), fun _ => rfl⟩
  underway := fun _ h => nomatch h

/-! ## Submissions -/

/-- What a step of the worker can do: nothing, a lock section, or a bump. -/
theorem worker_cases {a : WorkerAction} (h : c.worker a = some d) :
    d = c ∨
    (c.running = true ∧ c.submitting = false ∧
      ((∃ b, validBitmap b = true ∧ a = .submitBitmap b ∧
        d = { c with shape := some b, desired := .shape, shapeSerial := c.shapeSerial + 1,
                     submitting := true }) ∨
      (a = .submitState 0 ∧ d = { c with desired := .hidden, submitting := true }) ∨
      (a = .submitState 1 ∧ d = { c with desired := .default, submitting := true }))) ∨
    (c.submitting = true ∧ a = .bump ∧
      d = { c with generation := c.generation + 1, submitting := false }) := by
  cases a with
  | submitBitmap b =>
    simp only [NativeCursor.worker] at h
    split at h
    · rename_i hidle
      split at h
      · rename_i hvalid
        exact .inr (.inl ⟨hidle.1, hidle.2, .inl ⟨b, hvalid, rfl, (Option.some.inj h).symm⟩⟩)
      · exact .inl (Option.some.inj h).symm
    · cases h
  | submitState state =>
    simp only [NativeCursor.worker] at h
    split at h
    · rename_i hidle
      split at h
      · rename_i hstate
        subst hstate
        exact .inr (.inl ⟨hidle.1, hidle.2, .inr (.inl ⟨rfl, (Option.some.inj h).symm⟩)⟩)
      · split at h
        · rename_i hstate
          subst hstate
          exact .inr (.inl ⟨hidle.1, hidle.2, .inr (.inr ⟨rfl, (Option.some.inj h).symm⟩)⟩)
        · exact .inl (Option.some.inj h).symm
    · cases h
  | bump =>
    simp only [NativeCursor.worker] at h
    split at h
    · rename_i hsub
      exact .inr (.inr ⟨hsub, rfl, (Option.some.inj h).symm⟩)
    · cases h

/-- A submission leaves the SDL thread's side alone, and is not seen yet. -/
theorem worker_frame {a : WorkerAction} (hi : CursorInv scaleRgba c pc) (h : c.worker a = some d) :
    d.cursor = c.cursor ∧ d.builtSerial = c.builtSerial ∧ d.applied = c.applied ∧
      d.appliedGeneration = c.appliedGeneration ∧ (d = c ∨ ¬ d.Quiet) := by
  have happlied := hi.applied
  rcases worker_cases h with rfl | ⟨-, -, ⟨b, -, -, rfl⟩ | ⟨-, rfl⟩ | ⟨-, rfl⟩⟩ | ⟨-, -, rfl⟩
  · exact ⟨rfl, rfl, rfl, rfl, .inl rfl⟩
  · exact ⟨rfl, rfl, rfl, rfl, .inr fun hq => nomatch hq.2⟩
  · exact ⟨rfl, rfl, rfl, rfl, .inr fun hq => nomatch hq.2⟩
  · exact ⟨rfl, rfl, rfl, rfl, .inr fun hq => nomatch hq.2⟩
  · refine ⟨rfl, rfl, rfl, rfl, .inr fun hq => ?_⟩
    have hgen : c.generation + 1 = c.appliedGeneration := hq.1
    omega

theorem Taken.worker {a : WorkerAction} {generation : Nat} {changed : Bool} {taken : Snapshot}
    (ht : Taken c generation changed taken) (hgen : generation ≤ c.generation)
    (h : c.worker a = some d) : Taken d generation changed taken := by
  have hserial := ht.serial
  have hnew : taken.shapeSerial ≠ c.shapeSerial + 1 := by omega
  have hbumped : c.generation + 1 ≠ generation := by omega
  rcases worker_cases h with rfl | ⟨-, -, ⟨b, -, -, rfl⟩ | ⟨-, rfl⟩ | ⟨-, rfl⟩⟩ | ⟨-, -, rfl⟩
  · exact ht
  · exact ⟨ht.built, Nat.le_succ_of_le hserial, fun he => absurd he hnew, fun _ hs => (nomatch hs),
      ht.kept, ht.drawn⟩
  · exact ⟨ht.built, hserial, fun _ hs => (nomatch hs), fun _ hs => (nomatch hs), ht.kept, ht.drawn⟩
  · exact ⟨ht.built, hserial, fun _ hs => (nomatch hs), fun _ hs => (nomatch hs), ht.kept, ht.drawn⟩
  · exact ⟨ht.built, hserial, ht.artwork, fun he => absurd he hbumped, ht.kept, ht.drawn⟩

theorem generation_le_worker {a : WorkerAction} (h : c.worker a = some d) :
    c.generation ≤ d.generation := by
  rcases worker_cases h with rfl | ⟨-, -, ⟨b, -, -, rfl⟩ | ⟨-, rfl⟩ | ⟨-, rfl⟩⟩ | ⟨-, -, rfl⟩
  · exact Nat.le_refl _
  · exact Nat.le_refl _
  · exact Nat.le_refl _
  · exact Nat.le_refl _
  · exact Nat.le_succ _

theorem Underway.worker {a : WorkerAction} {x : CursorPc} (hi : CursorInv scaleRgba c (some x))
    (h : c.worker a = some d) : Underway d x := by
  have hx := hi.underway x rfl
  have hgen := generation_le_worker h
  obtain ⟨-, -, happlied, -, hquiet⟩ := worker_frame hi h
  cases x with
  | apply generation changed g => exact ⟨hx.1.trans hgen, fun he => (hx.2 he).trans happlied.symm⟩
  | present generation changed g taken =>
    exact ⟨hx.1.trans hgen, fun he => (hx.2.1 he).trans happlied.symm, hx.2.2.worker hx.1 h⟩
  | reassert desired =>
    intro hq
    rcases hquiet with rfl | hnot
    · exact hx hq
    · exact absurd hq hnot
  | reset =>
    rcases worker_cases h with rfl | ⟨hrun, -⟩ | ⟨hsub, -⟩
    · exact hx
    · rw [hx.1] at hrun
      cases hrun
    · rw [hi.joined hx.1] at hsub
      cases hsub

theorem CursorInv.worker {a : WorkerAction} (hi : CursorInv scaleRgba c pc)
    (h : c.worker a = some d) : CursorInv scaleRgba d pc := by
  obtain ⟨hcursor, hbuilt, happlied, hgeneration, hquiet⟩ := worker_frame hi h
  have hserial := hi.serial
  refine ⟨?_, ?_, ?_, ?_, ?_, ?_, ?_⟩
  · rcases worker_cases h with rfl | ⟨-, -, ⟨b, -, -, rfl⟩ | ⟨-, rfl⟩ | ⟨-, rfl⟩⟩ | ⟨-, -, rfl⟩
    · exact hi.shaped
    · exact fun _ hn => nomatch hn
    · exact fun hd => nomatch hd
    · exact fun hd => nomatch hd
    · exact hi.shaped
  · rcases worker_cases h with rfl | ⟨hrun, -, ⟨b, -, -, rfl⟩ | ⟨-, rfl⟩ | ⟨-, rfl⟩⟩ |
      ⟨-, -, rfl⟩
    · exact hi.joined
    · exact fun hr => absurd (hrun.symm.trans hr) (by decide)
    · exact fun hr => absurd (hrun.symm.trans hr) (by decide)
    · exact fun hr => absurd (hrun.symm.trans hr) (by decide)
    · exact fun _ => rfl
  · rw [hgeneration]
    exact hi.applied.trans (generation_le_worker h)
  · rw [hbuilt]
    rcases worker_cases h with rfl | ⟨-, -, ⟨b, -, -, rfl⟩ | ⟨-, rfl⟩ | ⟨-, rfl⟩⟩ | ⟨-, -, rfl⟩
    · exact hserial
    · exact Nat.le_succ_of_le hserial
    · exact hserial
    · exact hserial
    · exact hserial
  · rw [hcursor, hbuilt, happlied]
    rcases worker_cases h with rfl | ⟨-, -, ⟨b, -, -, rfl⟩ | ⟨-, rfl⟩ | ⟨-, rfl⟩⟩ | ⟨-, -, rfl⟩
    · exact hi.built
    · intro image _ he
      have hnew : c.builtSerial = c.shapeSerial + 1 := he
      omega
    · exact fun _ _ _ hd => nomatch hd
    · exact fun _ _ _ hd => nomatch hd
    · exact hi.built
  · intro hpc hq
    rcases hquiet with rfl | hnot
    · exact hi.synced hpc hq
    · exact absurd hq hnot
  · intro x hx
    obtain rfl := hx
    exact Underway.worker hi h

/-! ## The SDL thread -/

theorem CursorInv.begin {op : CursorOp} (hi : CursorInv scaleRgba c none)
    (h : c.begin op = some (d, pc)) : CursorInv scaleRgba d pc := by
  cases op with
  | apply g =>
    simp only [NativeCursor.begin] at h
    split at h
    · obtain ⟨rfl, rfl⟩ := Prod.mk.inj (Option.some.inj h)
      exact hi
    · obtain ⟨rfl, rfl⟩ := Prod.mk.inj (Option.some.inj h)
      refine ⟨hi.shaped, hi.joined, hi.applied, hi.serial, hi.built, fun _ => hi.synced nofun, ?_⟩
      intro x hx
      obtain rfl := Option.some.inj hx
      exact ⟨Nat.le_refl _, fun hc => by simpa using hc⟩
  | reassert =>
    obtain ⟨rfl, rfl⟩ := Prod.mk.inj (Option.some.inj h)
    refine ⟨hi.shaped, hi.joined, hi.applied, hi.serial, hi.built, fun _ => hi.synced nofun, ?_⟩
    intro x hx
    obtain rfl := Option.some.inj hx
    exact fun _ => rfl
  | reset =>
    simp only [NativeCursor.begin] at h
    split at h
    · cases h
    · rename_i hrun
      obtain ⟨rfl, rfl⟩ := Prod.mk.inj (Option.some.inj h)
      refine ⟨fun hd => (nomatch hd), hi.joined, hi.applied, hi.serial,
        fun _ _ _ hd => (nomatch hd), fun hne => absurd rfl hne, ?_⟩
      intro x hx
      obtain rfl := Option.some.inj hx
      exact ⟨Bool.eq_false_iff.mpr hrun, rfl, rfl⟩

/-- What the lock section takes is what is there. -/
theorem CursorInv.taken (hi : CursorInv scaleRgba c pc) (generation : Nat) (changed : Bool) :
    Taken c generation changed (c.take changed) where
  built := hi.serial
  serial := Nat.le_refl _
  artwork := fun _ hd => ⟨hd, fun b hb => by
    simp only [NativeCursor.take] at hb
    split at hb
    · exact hb
    · cases hb⟩
  current := fun _ _ => ⟨rfl, rfl⟩
  kept := fun hd hnone => by
    have hshape := hi.shaped hd
    simp only [NativeCursor.take] at hd hnone
    split at hnone
    · exact absurd hnone hshape
    · rename_i hnot
      simp only [hd, true_and, not_or, not_not] at hnot
      exact ⟨Bool.eq_false_iff.mpr hnot.2.1, hnot.1, hnot.2.2⟩
  drawn := fun b hb => by
    simp only [NativeCursor.take] at hb
    split at hb
    · rename_i hcond
      exact hcond.1
    · cases hb

section Present

variable {generation : Nat} {changed : Bool} {g : Geometry} {taken : Snapshot}

/-- The rest of an apply leaves the workers' side alone. -/
theorem present_frame (scaleRgba : ScaleRgba) (c : NativeCursor) (p : Platform)
    (generation : Nat) (g : Geometry) (taken : Snapshot) :
    let d := (c.present scaleRgba p generation g taken).1
    d.desired = c.desired ∧ d.shape = c.shape ∧ d.shapeSerial = c.shapeSerial ∧
      d.generation = c.generation ∧ d.running = c.running ∧ d.submitting = c.submitting ∧
      d.appliedGeneration = generation ∧ d.applied = g ∧
      (d.builtSerial = c.builtSerial ∨ d.builtSerial = taken.shapeSerial) := by
  unfold NativeCursor.present
  cases taken.desired with
  | shape =>
    cases taken.rgba with
    | some b => exact ⟨rfl, rfl, rfl, rfl, rfl, rfl, rfl, rfl, .inr rfl⟩
    | none => cases hc : c.cursor <;> exact ⟨rfl, rfl, rfl, rfl, rfl, rfl, rfl, rfl, .inl rfl⟩
  | hidden => exact ⟨rfl, rfl, rfl, rfl, rfl, rfl, rfl, rfl, .inl rfl⟩
  | default => exact ⟨rfl, rfl, rfl, rfl, rfl, rfl, rfl, rfl, .inl rfl⟩

/-- The branches of the rest of an apply. -/
theorem present_cases (scaleRgba : ScaleRgba) (p : Platform) (g : Geometry)
    (ht : Taken c generation changed taken) :
    let r := c.present scaleRgba p generation g taken
    (∃ b, taken.desired = .shape ∧ taken.rgba = some b ∧
      r.1.cursor = some (buildCursor scaleRgba b g) ∧ r.1.builtSerial = taken.shapeSerial ∧
        r.2 = ⟨r.1.cursor, true⟩) ∨
    (taken.desired = .shape ∧ taken.rgba = none ∧ r.1.cursor = c.cursor ∧
      r.1.builtSerial = c.builtSerial ∧ r.2 = ⟨r.1.cursor, true⟩) ∨
    (taken.desired = .hidden ∧ r.1.cursor = c.cursor ∧ r.1.builtSerial = c.builtSerial ∧
      r.2.visible = false) ∨
    (taken.desired = .default ∧ r.1.cursor = none ∧ r.1.builtSerial = c.builtSerial ∧
      r.2 = ⟨none, true⟩) := by
  have hkept := ht.kept
  unfold NativeCursor.present
  cases hd : taken.desired with
  | shape =>
    cases hb : taken.rgba with
    | some b => exact .inl ⟨b, rfl, rfl, rfl, rfl, rfl⟩
    | none =>
      obtain ⟨image, himage⟩ := Option.ne_none_iff_exists'.mp (hkept hd hb).2.2
      simp [himage]
  | hidden => exact .inr (.inr (.inl ⟨rfl, rfl, rfl, rfl⟩))
  | default => exact .inr (.inr (.inr ⟨rfl, rfl, rfl, rfl⟩))

/-- After an apply that nothing was submitted to, the platform shows the cursor. -/
theorem present_displays (ht : Taken c generation changed taken) :
    let r := c.present scaleRgba p generation g taken
    r.1.Quiet → r.1.Displays r.2 := by
  obtain ⟨hdesired, -, -, hgen, -, hsub, happlied, -⟩ :=
    present_frame scaleRgba c p generation g taken
  intro r hq
  obtain ⟨htaken, -⟩ := ht.current (hgen ▸ hq.1.trans happlied) (hsub ▸ hq.2)
  unfold NativeCursor.Displays
  rw [hdesired, ← htaken]
  rcases present_cases scaleRgba p g ht with
    ⟨b, hd, -, -, -, hp⟩ | ⟨hd, -, -, -, hp⟩ | ⟨hd, -, -, hp⟩ | ⟨hd, hc, -, hp⟩
  · rw [hd, if_neg (by decide), hp]
    exact ⟨rfl, rfl⟩
  · rw [hd, if_neg (by decide), hp]
    exact ⟨rfl, rfl⟩
  · rw [hd, if_pos rfl]
    exact hp
  · rw [hd, if_neg (by decide), hp, hc]
    exact ⟨rfl, rfl⟩

theorem CursorInv.present (hi : CursorInv scaleRgba c pc) (hgen : generation ≤ c.generation)
    (hsame : changed = false → g = c.applied) (ht : Taken c generation changed taken) :
    CursorInv scaleRgba (c.present scaleRgba p generation g taken).1 none := by
  obtain ⟨hdesired, hshape, hserial, hgeneration, hrun, hsub, happlied, hgeometry, -⟩ :=
    present_frame scaleRgba c p generation g taken
  have hcases := present_cases scaleRgba p g ht
  generalize (c.present scaleRgba p generation g taken) = r at *
  have hbuiltLe := ht.built
  have hserialLe := ht.serial
  refine ⟨?_, ?_, ?_, ?_, ?_, ?_, nofun⟩
  · rw [hdesired, hshape]
    exact hi.shaped
  · rw [hrun, hsub]
    exact hi.joined
  · rw [happlied, hgeneration]
    exact hgen
  · rw [hserial]
    rcases hcases with ⟨-, -, -, -, hb, -⟩ | ⟨-, -, -, hb, -⟩ | ⟨-, -, hb, -⟩ | ⟨-, -, hb, -⟩
    · omega
    · omega
    · omega
    · omega
  · rw [hdesired, hshape, hserial, hgeometry]
    intro image himage hbuilt hd
    rcases hcases with ⟨b, -, htaken, hc, hb, -⟩ | ⟨hshaped, hnone, hc, hb, -⟩ |
      ⟨hhidden, hc, hb, -⟩ | ⟨-, hc, -⟩
    · obtain ⟨-, hart⟩ := ht.artwork (by omega) hd
      exact ⟨b, hart b htaken, Option.some.inj (himage.symm.trans hc)⟩
    · rw [hsame (ht.kept hshaped hnone).1]
      exact hi.built image (hc ▸ himage) (by omega) hd
    · -- a bitmap that came after the hide has another serial
      obtain ⟨hshaped, -⟩ := ht.artwork (by omega) hd
      rw [hhidden] at hshaped
      cases hshaped
    · rw [hc] at himage
      cases himage
  · rintro - hq
    obtain ⟨hnow, hnowSerial⟩ := ht.current (hgeneration ▸ hq.1.trans happlied) (hsub ▸ hq.2)
    rw [hdesired, ← hnow, hserial, ← hnowSerial]
    rcases hcases with ⟨b, hd, -, hc, hb, -⟩ | ⟨hd, hnone, hc, hb, -⟩ | ⟨hd, -⟩ | ⟨hd, hc, -⟩
    · rw [hd]
      refine ⟨fun _ => ⟨by rw [hb], by rw [hc]; exact Option.some_ne_none _⟩, nofun⟩
    · rw [hd, hb, hc]
      exact ⟨fun _ => (ht.kept hd hnone).2, nofun⟩
    · rw [hd]
      exact ⟨nofun, nofun⟩
    · rw [hd]
      exact ⟨nofun, fun _ => hc⟩

end Present

/-- Every cut of an operation keeps the invariant. -/
theorem CursorInv.resume {x : CursorPc} (hi : CursorInv scaleRgba c (some x)) :
    CursorInv scaleRgba (c.resume scaleRgba p x).1 (c.resume scaleRgba p x).2.2 := by
  have hx := hi.underway x rfl
  cases x with
  | apply generation changed g =>
    refine ⟨hi.shaped, hi.joined, hi.applied, hi.serial, hi.built, fun _ => hi.synced nofun, ?_⟩
    intro y hy
    obtain rfl := Option.some.inj hy
    exact ⟨hx.1, hx.2, hi.taken generation changed⟩
  | present generation changed g taken => exact hi.present hx.1 hx.2.1 hx.2.2
  | reassert desired =>
    have hidle : CursorInv scaleRgba c none :=
      ⟨hi.shaped, hi.joined, hi.applied, hi.serial, hi.built, fun _ => hi.synced nofun, nofun⟩
    simp only [NativeCursor.resume]
    split <;> exact hidle
  | reset =>
    obtain ⟨-, hdefault, -⟩ := hx
    refine ⟨hi.shaped, hi.joined, Nat.le_refl _, hi.serial, nofun, ?_, nofun⟩
    exact fun _ _ => ⟨fun hd => absurd (hdefault.symm.trans hd) (by decide), fun _ => rfl⟩

/-- An operation that ends has the platform show its cursor, unless something is new. -/
theorem resume_displays {x : CursorPc} (hi : CursorInv scaleRgba c (some x))
    (hend : (c.resume scaleRgba p x).2.2 = none)
    (hq : (c.resume scaleRgba p x).1.Quiet) :
    (c.resume scaleRgba p x).1.Displays (c.resume scaleRgba p x).2.1 := by
  have hx := hi.underway x rfl
  cases x with
  | apply generation changed g => cases hend
  | present generation changed g taken => exact present_displays hx.2.2 hq
  | reassert desired =>
    have hnow : c.Quiet → desired = c.desired := hx
    by_cases hhidden : desired = .hidden
    · simp only [NativeCursor.resume, if_pos hhidden] at hq ⊢
      rw [NativeCursor.Displays, if_pos ((hnow hq).symm.trans hhidden)]
    · simp only [NativeCursor.resume, if_neg hhidden] at hq ⊢
      rw [NativeCursor.Displays, if_neg fun he => hhidden ((hnow hq).trans he)]
      exact ⟨rfl, rfl⟩
  | reset =>
    obtain ⟨-, hdefault, -⟩ := hx
    have hne : c.desired ≠ .hidden := by rw [hdefault]; decide
    exact (if_neg hne).mpr ⟨rfl, rfl⟩

end Lgnome.Cursor
