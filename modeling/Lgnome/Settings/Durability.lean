import Lgnome.Settings.Storage

/-!
# What a save leaves for the next load

A candidate counts for a load by the model it yields, if it yields one, and the first that
yields one wins. Nothing that a save does before its rename changes that, and the rename
changes it at the saved candidate only. A candidate that the save found unloadable stays so,
whatever model the next load starts from.
-/
namespace Lgnome.Settings

open Lgnome.Bytes Lgnome.Json

/-! ## Acceptance does not depend on the model -/

section Acceptance

variable {α β : Type}

/-- Where the first scan accepts, the second does too, with a related value. -/
def Follows (R : α → α → Prop) (x y : Scan α) : Prop := ∀ a, x = .ok a → ∃ b, y = .ok b ∧ R a b

theorem Follows.bind {R : α → α → Prop} {S : β → β → Prop} {x y : Scan α} {f g : α → Scan β}
    (h : Follows R x y) (hf : ∀ a b, R a b → Follows S (f a) (g b)) :
    Follows S (x >>= f) (y >>= g) := by
  intro c hc
  obtain ⟨a, ha, hfa⟩ := Scan.of_bind hc
  obtain ⟨b, hb, hab⟩ := h a ha
  obtain ⟨d, hd, hcd⟩ := hf a b hab c hfa
  exact ⟨d, by rw [hb, Scan.ok_bind, hd], hcd⟩

theorem Follows.same (x : Scan α) : Follows Eq x x := fun a ha => ⟨a, ha, rfl⟩

theorem Follows.pure {R : α → α → Prop} {a b : α} (h : R a b) : Follows R (.ok a) (.ok b) := by
  intro c hc
  obtain rfl := Scan.ok.inj hc
  exact ⟨b, rfl, h⟩

/-- A field that was read is the same over any model; one that was not is the model's. -/
def FieldOf (current : α) (a b : α) : Prop := a = b ∨ b = current

theorem applyField_follows (result : Scan (Option α)) (current current' : α) :
    Follows (FieldOf current') (applyField result current) (applyField result current') := by
  refine Follows.bind (Follows.same result) fun a b hab => ?_
  subst hab
  cases a with
  | none => exact Follows.pure (.inr rfl)
  | some a => exact Follows.pure (.inl rfl)

end Acceptance

variable {json : List UInt8}

theorem applySessionName_follows (current current' : List UInt8) :
    Follows (fun _ _ => True) (applySessionName json current) (applySessionName json current') := by
  unfold applySessionName
  cases findValue json (ascii "name") with
  | reject => exact Follows.pure trivial
  | fault => exact fun a ha => by cases ha
  | ok p =>
    dsimp only
    split
    · exact Follows.pure trivial
    · exact fun a ha =>
        let ⟨b, hb, _⟩ := applyField_follows _ current current' a ha
        ⟨b, hb, trivial⟩

theorem applyMixerGain_follows {current current' : Int} (h : current'.tmod mixerStepDb = 0) :
    Follows (fun _ _ => True) (applyMixerGain json current) (applyMixerGain json current') := by
  refine Follows.bind (applyField_follows _ current current') fun a b hab => ?_
  intro gain hgain
  split at hgain
  · cases hgain
  · rename_i hstep
    have hb : b.tmod mixerStepDb = 0 := by
      rcases hab with rfl | rfl
      · exact not_not.mp hstep
      · exact h
    exact ⟨b, if_neg (not_not.mpr hb), trivial⟩

theorem applyDesktopScale_follows {current current' : Nat}
    (h : desktopScaleValid current' = true) :
    Follows (fun _ _ => True) (applyDesktopScale json current)
      (applyDesktopScale json current') := by
  refine Follows.bind (applyField_follows _ current current') fun a b hab => ?_
  intro scale hscale
  split at hscale
  · cases hscale
  · rename_i hvalid
    have hb : ¬desktopScaleValid b = false := by
      rcases hab with rfl | rfl
      · exact hvalid
      · rw [h]
        exact fun hfalse => by cases hfalse
    exact ⟨b, if_neg hb, trivial⟩

theorem applySessionJson_follows {session session' : NativeSessionConfig}
    (h : session'.InRange) :
    Follows (fun _ _ => True) (applySessionJson session json) (applySessionJson session' json) := by
  refine Follows.bind (applySessionName_follows _ _) fun _ _ _ => ?_
  refine Follows.bind (applyDesktopScale_follows h.desktopScaleFactor) fun _ _ _ => ?_
  refine Follows.bind (applyField_follows _ _ _) fun _ _ _ => ?_
  refine Follows.bind (applyField_follows _ _ _) fun _ _ _ => ?_
  refine Follows.bind (applyField_follows _ _ _) fun _ _ _ => ?_
  refine Follows.bind (applyField_follows _ _ _) fun _ _ _ => ?_
  refine Follows.bind (applyField_follows _ _ _) fun _ _ _ => ?_
  refine Follows.bind (applyField_follows _ _ _) fun _ _ _ => ?_
  refine Follows.bind (applyField_follows _ _ _) fun _ _ _ => ?_
  refine Follows.bind (applyField_follows _ _ _) fun _ _ _ => ?_
  refine Follows.bind (applyField_follows _ _ _) fun _ _ _ => ?_
  refine Follows.bind (applyMixerGain_follows h.mixerStep) fun _ _ _ => ?_
  refine Follows.bind (applyField_follows _ _ _) fun _ _ _ => ?_
  refine Follows.bind (applyField_follows _ _ _) fun _ _ _ => ?_
  refine Follows.bind (applyField_follows _ _ _) fun _ _ _ => ?_
  refine Follows.bind (applyField_follows _ _ _) fun _ _ _ => ?_
  exact Follows.pure trivial

theorem applyAudioCodec_follows (current current' : AudioCodec) :
    Follows (fun _ _ => True) (applyAudioCodec json current) (applyAudioCodec json current') := by
  refine Follows.bind (Follows.same _) fun a b hab => ?_
  subst hab
  cases a with
  | none => exact Follows.pure trivial
  | some codec => exact fun c hc => ⟨c, hc, trivial⟩

theorem applyGlobalJson_follows {settings settings' : NativeSettings} (h : settings'.InRange) :
    Follows (fun _ _ => True) (applyGlobalJson settings json) (applyGlobalJson settings' json) := by
  refine Follows.bind (applyField_follows _ _ _) fun _ _ _ => ?_
  refine Follows.bind (applyField_follows _ _ _) fun _ _ _ => ?_
  refine Follows.bind (applyAudioCodec_follows _ _) fun _ _ _ => ?_
  refine Follows.bind (applyField_follows _ _ _) fun _ _ _ => ?_
  refine Follows.bind (applyField_follows _ _ _) fun _ _ _ => ?_
  refine Follows.bind (applyField_follows _ _ _) fun width width' hwidth => ?_
  refine Follows.bind (applyField_follows _ _ _) fun height height' hheight => ?_
  refine Follows.bind (applyField_follows _ _ _) fun _ _ _ => ?_
  refine Follows.bind (applyField_follows _ _ _) fun _ _ _ => ?_
  refine Follows.bind (applyField_follows _ _ _) fun _ _ _ => ?_
  refine Follows.bind (applyField_follows _ _ _) fun _ _ _ => ?_
  intro updated hupdated
  split at hupdated
  · cases hupdated
  · rename_i hodd
    have heven := h.cameraEven
    have hboth : ¬(width' % 2 ≠ 0 ∨ height' % 2 ≠ 0) := by
      rcases hwidth with rfl | rfl <;> rcases hheight with rfl | rfl <;> omega
    exact ⟨_, if_neg hboth, trivial⟩

theorem applySessionsArray_follows {fuel index : Nat} {settings settings' : NativeSettings}
    (h : settings'.InRange) :
    Follows (fun _ updated => updated.InRange) (applySessionsArray json fuel index settings)
      (applySessionsArray json fuel index settings') := by
  induction fuel generalizing index settings settings' with
  | zero => exact fun a ha => by cases ha
  | succ fuel ih =>
    refine Follows.bind (Follows.same _) fun entry entry' hentry => ?_
    subst hentry
    cases entry with
    | none => exact Follows.pure h
    | some entry =>
      refine Follows.bind (Follows.same _) fun slot slot' hslot => ?_
      subst hslot
      cases slot with
      | none => exact ih h
      | some slot =>
        have hconfig : Follows (fun _ config => NativeSessionConfig.InRange config)
            (applySessionJson (settings.sessions slot) (entry.1.take entry.2))
            (applySessionJson (settings'.sessions slot) (entry.1.take entry.2)) := by
          intro a ha
          obtain ⟨b, hb, -⟩ := applySessionJson_follows (h.sessions slot) a ha
          exact ⟨b, hb, applySessionJson_inRange (h.sessions slot) hb⟩
        exact Follows.bind hconfig fun _ _ hrange =>
          ih (NativeSettings.setSession_inRange h hrange)

/-- **A document that loads over any model loads over every model in range.** -/
theorem applyJson_accepts {settings settings' updated : NativeSettings} (h : settings'.InRange)
    (hloads : applyJson settings json = .ok updated) :
    ∃ updated', applyJson settings' json = .ok updated' := by
  have hfollows : Follows (fun _ _ => True) (applyJson settings json)
      (applyJson settings' json) := by
    refine Follows.bind (Follows.same _) fun valid valid' hvalid => ?_
    subst hvalid
    split
    · exact fun a ha => by cases ha
    · split
      · exact fun a ha => by cases ha
      · split
        · exact fun a ha => by cases ha
        · exact Follows.bind (applySessionsArray_follows h) fun _ _ hrange =>
            applyGlobalJson_follows hrange
      · have hgreen : Follows (fun _ config => NativeSessionConfig.InRange config)
            (applySessionJson (settings.sessions slotGreen) json)
            (applySessionJson (settings'.sessions slotGreen) json) := by
          intro a ha
          obtain ⟨b, hb, -⟩ := applySessionJson_follows (h.sessions slotGreen) a ha
          exact ⟨b, hb, applySessionJson_inRange (h.sessions slotGreen) hb⟩
        exact Follows.bind hgreen fun _ _ hrange =>
          applyGlobalJson_follows (NativeSettings.setSession_inRange h hrange)
  obtain ⟨updated', hupdated', -⟩ := hfollows updated hloads
  exact ⟨updated', hupdated'⟩

/-! ## What a candidate is worth -/

namespace Candidate

variable {c c' : Candidate} {settings current : NativeSettings}

/-- The model that a load over `settings` takes from the candidate. -/
def view (c : Candidate) (settings : NativeSettings) : Option NativeSettings :=
  match c.trusted.1, tryLoad settings c.trusted.2 (!c.trusted.2.fromEnv) with
  | true, .ok updated => some updated
  | _, _ => none

/-- The two differ in nothing that a load could see. -/
structure Alike (c c' : Candidate) : Prop where
  fromEnv : c'.fromEnv = c.fromEnv
  file : c'.file = c.file
  failing : c'.failing = c.failing
  secure : c'.file ≠ .absent → c'.dirSecureOrHeal.1 = c.dirSecureOrHeal.1

theorem Alike.refl (c : Candidate) : Alike c c := ⟨rfl, rfl, rfl, fun _ => rfl⟩

theorem Alike.trans {c'' : Candidate} (h : Alike c c') (h' : Alike c' c'') : Alike c c'' where
  fromEnv := h'.fromEnv.trans h.fromEnv
  file := h'.file.trans h.file
  failing := h'.failing.trans h.failing
  secure hfile := (h'.secure hfile).trans (h.secure (h'.file ▸ hfile))

theorem fails_privateDir (call : Call) : c.privateDir.fails call = c.fails call := rfl

theorem dirIsSecure_iff : c.dirIsSecure = true ↔
    c.fails .lstat = false ∧ c.dir = .directory true false := by
  unfold dirIsSecure
  rw [Bool.and_eq_true, Bool.not_eq_true', beq_iff_eq]

/-- What a check and repair of the directory comes to. -/
theorem dirSecureOrHeal_cases (c : Candidate) :
    (c.dirSecureOrHeal = (true, c) ∧ c.dirIsSecure = true) ∨
      (c.dirSecureOrHeal = (false, c) ∧ c.dirIsSecure = false) ∨
      (∃ loose, c.dir = .directory true loose ∧ c.fails .lstat = false ∧
        c.dirSecureOrHeal = (true, c.privateDir)) := by
  unfold dirSecureOrHeal
  cases hsecure : c.dirIsSecure with
  | true => exact .inl ⟨if_pos rfl, rfl⟩
  | false =>
    rw [if_neg (by decide)]
    cases hlstat : c.fails .lstat with
    | true => exact .inr (.inl ⟨if_pos rfl, rfl⟩)
    | false =>
      rw [if_neg (by decide)]
      split
      · rename_i loose hdir
        cases hchmod : c.fails .chmod with
        | true => exact .inr (.inl ⟨if_pos rfl, rfl⟩)
        | false =>
          have hhealed : c.privateDir.dirIsSecure = true :=
            dirIsSecure_iff.mpr ⟨hlstat, rfl⟩
          rw [if_neg (by decide), hhealed]
          exact .inr (.inr ⟨loose, hdir, rfl, rfl⟩)
      · exact .inr (.inl ⟨rfl, rfl⟩)

/-! ### Changes that a load does not see -/

theorem Alike.of_dir (hfromEnv : c'.fromEnv = c.fromEnv) (hfile : c'.file = c.file)
    (hfailing : c'.failing = c.failing) (hdir : c'.dir = c.dir) : Alike c c' := by
  have hfails : c'.fails = c.fails := by
    funext call
    unfold fails
    rw [hfailing]
  have hsecure : c'.dirIsSecure = c.dirIsSecure := by
    unfold dirIsSecure
    rw [hfails, hdir]
  refine ⟨hfromEnv, hfile, hfailing, fun _ => ?_⟩
  unfold dirSecureOrHeal
  rw [hsecure, hfails, hdir]
  split
  · rfl
  split
  · rfl
  split
  · split
    · rfl
    · show c'.privateDir.dirIsSecure = c.privateDir.dirIsSecure
      unfold dirIsSecure
      rw [fails_privateDir, fails_privateDir, hfails]
      rfl
  · rfl

theorem alike_dirSecureOrHeal (c : Candidate) : Alike c c.dirSecureOrHeal.2 := by
  rcases dirSecureOrHeal_cases c with ⟨hresult, -⟩ | ⟨hresult, -⟩ | ⟨loose, -, hlstat, hresult⟩
  · rw [hresult]
    exact Alike.refl c
  · rw [hresult]
    exact Alike.refl c
  · rw [hresult]
    refine ⟨rfl, rfl, rfl, fun _ => ?_⟩
    have hsecure : c.privateDir.dirIsSecure = true := dirIsSecure_iff.mpr ⟨hlstat, rfl⟩
    rw [hresult]
    show c.privateDir.dirSecureOrHeal.1 = true
    unfold dirSecureOrHeal
    rw [if_pos hsecure]

/-- A directory that was made had no file in it before, and has none now. -/
theorem alike_mkdirP (c : Candidate) : Alike c c.mkdirP.2 := by
  unfold mkdirP
  split
  · exact Alike.refl c
  · split
    · rename_i hdir
      exact ⟨rfl, rfl, rfl, fun hfile => (hfile (c.housed hdir).1).elim⟩
    · exact Alike.refl c
    · exact Alike.refl c
    · exact Alike.refl c

theorem alike_dirWritable (c : Candidate) : Alike c c.dirWritable.2 := by
  have hmade := alike_mkdirP c
  unfold dirWritable
  split
  · rename_i made heq
    rw [heq] at hmade
    exact hmade
  · rename_i made heq
    rw [heq] at hmade
    have hhealed := alike_dirSecureOrHeal made
    split
    · rename_i healed hheal
      rw [hheal] at hhealed
      exact hmade.trans hhealed
    · rename_i healed hheal
      rw [hheal] at hhealed
      split
      · exact hmade.trans hhealed
      · exact hmade.trans hhealed

theorem alike_persistedPathWritable (c : Candidate) : Alike c c.persistedPathWritable.2 := by
  unfold persistedPathWritable
  split
  · exact Alike.refl c
  · exact alike_dirWritable c

/-- A candidate that may be written has a private directory. -/
theorem persistedPathWritable_secure (h : c.persistedPathWritable = (true, c')) :
    c'.dirIsSecure = true ∧ c'.fails .parentDir = false := by
  have hsame := (alike_persistedPathWritable c).failing
  rw [h] at hsame
  unfold persistedPathWritable at h
  split at h
  · cases h
  rename_i hparent
  have hparent' : c'.fails .parentDir = false := by
    unfold fails at hparent ⊢
    rw [hsame]
    exact Bool.eq_false_of_not_eq_true hparent
  refine ⟨?_, hparent'⟩
  unfold dirWritable at h
  split at h
  · cases h
  rename_i made hmade
  split at h
  · cases h
  rename_i healed hheal
  have hsecure : healed.dirIsSecure = true := by
    rcases dirSecureOrHeal_cases made with ⟨hresult, hsecure⟩ | ⟨hresult, -⟩
      | ⟨loose, -, hlstat, hresult⟩
    · obtain rfl := (Prod.mk.inj (hresult.symm.trans hheal)).2
      exact hsecure
    · cases hresult.symm.trans hheal
    · obtain rfl := (Prod.mk.inj (hresult.symm.trans hheal)).2
      exact dirIsSecure_iff.mpr ⟨hlstat, rfl⟩
  split at h
  · cases h
  · obtain rfl := (Prod.mk.inj h).2
    exact hsecure

theorem alike_trusted (c : Candidate) : Alike c c.trusted.2 := by
  unfold trusted
  split
  · exact Alike.refl c
  split
  · exact Alike.refl c
  · exact alike_dirSecureOrHeal c

/-- A private directory stays as it is. -/
theorem trusted_secure (h : c.dirIsSecure = true) (hparent : c.fails .parentDir = false) :
    c.trusted = (true, c) := by
  unfold trusted
  split
  · rfl
  · rw [if_neg (by rw [hparent]; decide)]
    unfold dirSecureOrHeal
    rw [if_pos h]

theorem tryLoad_alike (h : Alike c c') (privateFile : Bool) :
    tryLoad settings c' privateFile = tryLoad settings c privateFile := by
  have hfails : c'.fails = c.fails := by
    funext call
    unfold fails
    rw [h.failing]
  unfold tryLoad readFile
  rw [hfails, h.file]

/-- The view of a candidate, without the repair of its directory. -/
theorem view_eq (c : Candidate) (settings : NativeSettings) : c.view settings =
    match c.trusted.1, tryLoad settings c (!c.fromEnv) with
    | true, .ok updated => some updated
    | _, _ => none := by
  have htrusted := alike_trusted c
  unfold view
  rw [tryLoad_alike htrusted, htrusted.fromEnv]

/-- A missing file gives nothing to load. -/
theorem tryLoad_absent (settings : NativeSettings) (h : c.file = .absent) (privateFile : Bool)
    (updated : NativeSettings) :
    tryLoad settings c privateFile ≠ .ok updated := by
  unfold tryLoad readFile
  rw [h]
  split
  · exact fun heq => by cases heq
  · exact fun heq => by cases heq
  · rename_i json hread
    split at hread
    · cases hread
    · cases hread

theorem Alike.view_eq (h : Alike c c') : c'.view = c.view := by
  funext settings
  rw [Candidate.view_eq, Candidate.view_eq, tryLoad_alike h, h.fromEnv]
  by_cases hfile : c'.file = .absent
  · have hnone := fun updated => tryLoad_absent settings (h.file ▸ hfile)
      (!c.fromEnv) updated
    cases hload : tryLoad settings c (!c.fromEnv) with
    | ok updated => exact (hnone updated hload).elim
    | missing => cases c'.trusted.1 <;> cases c.trusted.1 <;> rfl
    | invalid => cases c'.trusted.1 <;> cases c.trusted.1 <;> rfl
  · have hsecure := h.secure hfile
    have hfails : c'.fails .parentDir = c.fails .parentDir := by
      unfold fails
      rw [h.failing]
    have htrusted : c'.trusted.1 = c.trusted.1 := by
      unfold trusted
      rw [h.fromEnv, hfails]
      split
      · rfl
      split
      · rfl
      · exact hsecure
    rw [htrusted]

/-- What loads over any model loads over the model in range. -/
theorem view_none (hrange : settings.InRange) (h : c.view settings = none) :
    c.view current = none := by
  rw [view_eq] at h ⊢
  cases htrusted : c.trusted.1 with
  | false => rfl
  | true =>
    rw [htrusted] at h
    cases hload : tryLoad current c (!c.fromEnv) with
    | missing => rfl
    | invalid => rfl
    | ok updated =>
      exfalso
      unfold tryLoad at hload h
      split at hload
      · cases hload
      · cases hload
      · rename_i json hread
        rw [hread] at h
        dsimp only at h
        split at hload
        · rename_i loaded hloaded
          obtain ⟨updated', hupdated'⟩ := applyJson_accepts hrange hloaded
          rw [hupdated'] at h
          cases h
        · cases hload

/-! ### Writing to a candidate -/

/-- The calls with which a load reads a file. -/
def readCalls : List Call := [.openFile, .fstatFile, .fdopenFile, .fseek, .ftell, .calloc, .fread]

/-- None of the calls that read the path fails. -/
def Readable (c : Candidate) : Prop := ∀ call ∈ readCalls, c.fails call = false

/-- A save that stops before its rename touches the temporary file only; one that gets
past it leaves the document in place of the old file. -/
theorem saveFileChecked_spec (settings : NativeSettings) (c : Candidate) :
    ((saveFileChecked settings c).1 = .failed ∧ Alike c (saveFileChecked settings c).2) ∨
      ∃ h : c.dir = .directory true false, (saveFileChecked settings c).1.renamed = true ∧
        (saveFileChecked settings c).2 = c.renamed (writeJson settings) h := by
  have hsame : Alike c c.unlinkTemporary := Alike.of_dir rfl rfl rfl rfl
  unfold saveFileChecked
  split
  · exact .inl ⟨rfl, Alike.refl c⟩
  split
  · exact .inl ⟨rfl, Alike.refl c⟩
  split
  · rename_i hdir
    have hleft : Alike c (c.withTemporary hdir).unlinkTemporary := Alike.of_dir rfl rfl rfl rfl
    split
    · exact .inl ⟨rfl, hsame⟩
    split
    · exact .inl ⟨rfl, hleft⟩
    dsimp only
    split
    · exact .inr ⟨hdir, rfl, rfl⟩
    · exact .inl ⟨rfl, hleft⟩
  · exact .inl ⟨rfl, Alike.refl c⟩

/-- Where no call fails, a save to a private directory succeeds. -/
theorem saveFileChecked_ok (hrange : settings.InRange) (hdir : c.dir = .directory true false)
    (hnone : ∀ call, call ∉ readCalls → c.fails call = false) :
    (saveFileChecked settings c).1.ok = true := by
  have hlength : decide (maxFile < (writeJson settings).length) = false :=
    decide_eq_false (Nat.not_lt.mpr (writeJson_length hrange))
  have hunlink : c.unlinkTemporary.temporary = false := by
    show (c.temporary && c.fails .unlinkat) = false
    rw [hnone .unlinkat (by decide), Bool.and_false]
  unfold saveFileChecked
  rw [hnone .parentDir (by decide), hnone .tmpName (by decide), hnone .openDir (by decide),
    hnone .fstatDir (by decide), hnone .openat (by decide), hnone .fdopenTmp (by decide),
    hnone .write (by decide), hnone .ftellTmp (by decide), hnone .fflush (by decide),
    hnone .fsync (by decide), hnone .fclose (by decide), hnone .renameat (by decide),
    hnone .fsyncDir (by decide), hlength, hunlink, if_neg (by simp), if_neg (by simp),
    dif_pos hdir, if_neg (by simp), if_neg (by simp)]
  rfl

/-- A file that cannot be read gives nothing to load. -/
theorem view_unreadable (h : c.fails .fread = true) : c.view settings = none := by
  have hread (privateFile : Bool) (json : List UInt8) : c.readFile privateFile ≠ .text json := by
    unfold readFile
    rw [h]
    intro heq
    split at heq
    · cases heq
    split at heq
    · cases heq
    repeat (split at heq; · cases heq)
    rename_i hreadable
    exact hreadable (.inl rfl)
  rw [view_eq]
  unfold tryLoad
  cases htext : c.readFile (!c.fromEnv) with
  | text json => exact (hread _ json htext).elim
  | missing => cases c.trusted.1 <;> rfl
  | failed => cases c.trusted.1 <;> rfl

/-- The document that was put in place is what a load takes. -/
theorem renamed_view (hrange : settings.InRange) (hsecure : c.dirIsSecure = true)
    (hparent : c.fails .parentDir = false) (hread : c.Readable)
    (hdir : c.dir = .directory true false) :
    (c.renamed (writeJson settings) hdir).view current = some settings := by
  have hsecure' : (c.renamed (writeJson settings) hdir).dirIsSecure = true := hsecure
  have hread' (call : Call) (hcall : call ∈ readCalls) :
      (c.renamed (writeJson settings) hdir).fails call = false := hread call hcall
  have hlength : ¬maxFile < (writeJson settings).length := Nat.not_lt.mpr (writeJson_length hrange)
  have hload : tryLoad current (c.renamed (writeJson settings) hdir)
      (!(c.renamed (writeJson settings) hdir).fromEnv) = .ok settings := by
    have htext : (c.renamed (writeJson settings) hdir).readFile
        (!(c.renamed (writeJson settings) hdir).fromEnv) = .text (writeJson settings) := by
      unfold readFile
      rw [hread' .openFile (by decide), hread' .fstatFile (by decide),
        hread' .fdopenFile (by decide), hread' .fseek (by decide), hread' .ftell (by decide),
        hread' .calloc (by decide), hread' .fread (by decide)]
      have hopen : ¬(false = true ∨ maxFile < (writeJson settings).length) := by
        simp only [Bool.false_eq_true, false_or]
        exact hlength
      have hbytes : ¬(false = true ∨ 0 ∈ writeJson settings) := by
        simp only [Bool.false_eq_true, false_or]
        exact writeJson_unterminated hrange
      show (if false = true then _ else if _ ∧ (false = true ∨ ¬true = true) then _
        else if false = true then _ else if false = true then _ else
        if false = true ∨ maxFile < (writeJson settings).length then _ else
        if false = true then _ else if false = true ∨ 0 ∈ writeJson settings then _ else _) = _
      rw [if_neg (by decide), if_neg (by simp), if_neg (by decide), if_neg (by decide),
        if_neg hopen, if_neg (by decide), if_neg hbytes]
    unfold tryLoad
    rw [htext]
    dsimp only
    rw [applyJson_written hrange current]
  unfold view
  rw [trusted_secure hsecure' hparent]
  dsimp only
  rw [hload]

end Candidate

/-! ## The candidates in their order -/

section Order

open Candidate

variable {settings current : NativeSettings} {candidates : List Candidate}

/-- The first candidate that gives a model wins. -/
theorem loadCandidates_eq (settings : NativeSettings) (candidates : List Candidate) :
    (loadCandidates settings candidates).1
      = (candidates.findSome? fun c => c.view settings).getD settings := by
  induction candidates with
  | nil => rfl
  | cons c rest ih =>
    have hview : c.view settings = match c.trusted.1, tryLoad settings c.trusted.2
        (!c.trusted.2.fromEnv) with
      | true, .ok updated => some updated
      | _, _ => none := rfl
    have hload : loadCandidates settings (c :: rest) = match c.trusted.1,
        tryLoad settings c.trusted.2 (!c.trusted.2.fromEnv) with
      | true, .ok updated => (updated, c.trusted.2 :: rest)
      | _, _ => ((loadCandidates settings rest).1,
          c.trusted.2 :: (loadCandidates settings rest).2) := rfl
    rw [List.findSome?_cons, hload, hview]
    generalize tryLoad settings c.trusted.2 (!c.trusted.2.fromEnv) = outcome
    cases c.trusted.1 with
    | false => exact ih
    | true =>
      cases outcome with
      | ok updated => rfl
      | _ => exact ih

theorem findSome_alike {candidates' : List Candidate}
    (h : List.Forall₂ Alike candidates candidates') :
    (candidates'.findSome? fun c => c.view settings)
      = candidates.findSome? fun c => c.view settings := by
  induction h with
  | nil => rfl
  | cons hfirst _ ih => rw [List.findSome?_cons, List.findSome?_cons, hfirst.view_eq, ih]

theorem forall₂_alike_refl (candidates : List Candidate) :
    List.Forall₂ Alike candidates candidates :=
  List.forall₂_same.mpr fun c _ => Alike.refl c

/-- The search for a place to save to finds a private directory and changes nothing that a
load could see. -/
theorem findSaveCandidate_spec (index : Nat) (candidates : List Candidate) :
    List.Forall₂ Alike candidates (findSaveCandidate index candidates).2 ∧
      ∀ k, (findSaveCandidate index candidates).1 = some k → index ≤ k ∧
        ∃ c, (findSaveCandidate index candidates).2[k - index]? = some c ∧
          c.dirIsSecure = true ∧ c.fails .parentDir = false := by
  induction candidates generalizing index with
  | nil => exact ⟨.nil, fun k hk => by cases hk⟩
  | cons c rest ih =>
    have halike := alike_persistedPathWritable c
    unfold findSaveCandidate
    cases hwritable : c.persistedPathWritable with
    | mk writable c' =>
      rw [hwritable] at halike
      cases writable with
      | true =>
        refine ⟨.cons halike (forall₂_alike_refl rest), fun k hk => ?_⟩
        obtain rfl : index = k := Option.some.inj hk
        rw [Nat.sub_self]
        exact ⟨Nat.le_refl _, c', rfl, persistedPathWritable_secure hwritable⟩
      | false =>
        obtain ⟨hrest, hfound⟩ := ih (index + 1)
        refine ⟨.cons halike hrest, fun k hk => ?_⟩
        obtain ⟨hle, found, hget, hsecure⟩ := hfound k hk
        have hnext : k - index = k - (index + 1) + 1 := by omega
        refine ⟨by omega, found, ?_, hsecure⟩
        rw [hnext]
        exact hget

/-- The check lets no candidate before the saved one load, and leaves a private directory
alone. -/
theorem checkLoaded_spec (settings : NativeSettings) (saveIndex index : Nat)
    (candidates : List Candidate) :
    List.Forall₂ Alike candidates (checkLoaded settings saveIndex index candidates).2 ∧
      (∀ (k : Nat) (c : Candidate), candidates[k]? = some c → c.dirIsSecure = true → c.fails .parentDir = false →
        (checkLoaded settings saveIndex index candidates).2[k]? = some c) ∧
      ((checkLoaded settings saveIndex index candidates).1 = true →
        ∀ (k : Nat) (c : Candidate), candidates[k]? = some c → index + k < saveIndex → c.view settings = none) := by
  induction candidates generalizing index with
  | nil =>
    exact ⟨.nil, fun k c hk => by simp at hk, fun _ k c hk => by simp at hk⟩
  | cons c rest ih =>
    have halike := alike_trusted c
    obtain ⟨hrest, hkept, hnone⟩ := ih (index + 1)
    have hview : c.view settings = match c.trusted.1, tryLoad settings c.trusted.2
        (!c.trusted.2.fromEnv) with
      | true, .ok updated => some updated
      | _, _ => none := rfl
    have hfirst (hsecure : c.dirIsSecure = true) (hparent : c.fails .parentDir = false) :
        c.trusted.2 = c := by
      rw [trusted_secure hsecure hparent]
    unfold checkLoaded
    dsimp only
    split
    · rename_i htrusted hload
      refine ⟨.cons halike (forall₂_alike_refl rest), ?_, ?_⟩
      · intro k found hk hsecure hparent
        cases k with
        | zero =>
          obtain rfl : c = found := Option.some.inj hk
          exact congrArg some (hfirst hsecure hparent)
        | succ k => exact hk
      · intro hok k found hk hlt
        have hbound : ¬index < saveIndex := of_decide_eq_false (by simpa using hok)
        omega
    · rename_i hfailed
      refine ⟨.cons halike hrest, ?_, ?_⟩
      · intro k found hk hsecure hparent
        cases k with
        | zero =>
          obtain rfl : c = found := Option.some.inj hk
          exact congrArg some (hfirst hsecure hparent)
        | succ k => exact hkept k found hk hsecure hparent
      · intro hok k found hk hlt
        cases k with
        | zero =>
          obtain rfl : c = found := Option.some.inj hk
          rw [hview]
          split
          · rename_i updated htrusted hload
            exact (hfailed updated htrusted hload).elim
          · rfl
        | succ k => exact hnone hok k found hk (by omega)

theorem forall₂_alike_trans {first second third : List Candidate}
    (h : List.Forall₂ Alike first second) (h' : List.Forall₂ Alike second third) :
    List.Forall₂ Alike first third := by
  induction h generalizing third with
  | nil => exact h'
  | cons hab _ ih =>
    cases h' with
    | cons hbc hrest => exact .cons (hab.trans hbc) (ih hrest)

/-- Candidates at the same place are alike. -/
theorem alike_getElem {first second : List Candidate} (h : List.Forall₂ Alike first second)
    {k : Nat} {c' : Candidate} (hc' : second[k]? = some c') :
    ∃ c, first[k]? = some c ∧ Alike c c' := by
  induction h generalizing k with
  | nil => simp at hc'
  | cons hab _ ih =>
    cases k with
    | zero =>
      obtain rfl := Option.some.inj hc'
      exact ⟨_, rfl, hab⟩
    | succ k => exact ih hc'

theorem forall₂_alike_set {first : List Candidate} {k : Nat} {c c' : Candidate}
    (hc : first[k]? = some c) (h : Alike c c') : List.Forall₂ Alike first (first.set k c') := by
  induction first generalizing k with
  | nil => exact .nil
  | cons head rest ih =>
    cases k with
    | zero =>
      obtain rfl := Option.some.inj hc
      exact .cons h (forall₂_alike_refl rest)
    | succ k => exact .cons (Alike.refl head) (ih hc)

/-- What a save comes to: nothing that a load could see, or the document at the first
writable candidate, with none before it that loads. -/
theorem savePersisted_spec (settings : NativeSettings) (candidates : List Candidate) :
    ((savePersisted settings candidates).1 = .failed ∧
        List.Forall₂ Alike candidates (savePersisted settings candidates).2) ∨
      ∃ k checked c, ∃ h : c.dir = .directory true false,
        (findSaveCandidate 0 candidates).1 = some k ∧ List.Forall₂ Alike candidates checked ∧
        checked[k]? = some c ∧ c.dirIsSecure = true ∧ c.fails .parentDir = false ∧
        (∀ (j : Nat) (c' : Candidate), checked[j]? = some c' → j < k → c'.view settings = none) ∧
        (savePersisted settings candidates).1.renamed = true ∧
        (savePersisted settings candidates).2
          = checked.set k (c.renamed (writeJson settings) h) := by
  obtain ⟨halike, hfound⟩ := findSaveCandidate_spec 0 candidates
  unfold savePersisted
  cases hfind : findSaveCandidate 0 candidates with
  | mk found tried =>
    rw [hfind] at halike hfound
    cases found with
    | none => exact .inl ⟨rfl, halike⟩
    | some k =>
      obtain ⟨-, c, hget, hsecure, hparent⟩ := hfound k rfl
      obtain ⟨hchecked, hkept, hnone⟩ := checkLoaded_spec settings k 0 tried
      dsimp only
      cases hcheck : checkLoaded settings k 0 tried with
      | mk ok checked =>
        rw [hcheck] at hchecked hkept hnone
        have hall := forall₂_alike_trans halike hchecked
        cases ok with
        | false => exact .inl ⟨rfl, hall⟩
        | true =>
          have hslot : checked[k]? = some c := hkept k c hget hsecure hparent
          dsimp only
          rw [hslot]
          dsimp only
          rcases saveFileChecked_spec settings c with ⟨hfailed, hsame⟩ | ⟨hdir, hrenamed, hfile⟩
          · exact .inl ⟨hfailed, forall₂_alike_trans hall (forall₂_alike_set hslot hsame)⟩
          · refine .inr ⟨k, checked, c, hdir, rfl, hall, hslot, hsecure, hparent, ?_, hrenamed,
              congrArg (checked.set k) hfile⟩
            intro j c' hget' hlt
            obtain ⟨before, hbefore, hsame⟩ := alike_getElem hchecked hget'
            rw [hsame.view_eq]
            exact hnone rfl j before hbefore (by omega)

/-- Behind candidates that give nothing, the first that gives a model is found. -/
theorem findSome_at (current : NativeSettings) {k : Nat} {c : Candidate}
    {loaded : NativeSettings} (hc : candidates[k]? = some c) (hview : c.view current = some loaded)
    (hnone : ∀ (j : Nat) (c' : Candidate), candidates[j]? = some c' → j < k →
      c'.view current = none) :
    (candidates.findSome? fun c => c.view current) = some loaded := by
  induction candidates generalizing k with
  | nil => simp at hc
  | cons head rest ih =>
    rw [List.findSome?_cons]
    cases k with
    | zero =>
      obtain rfl := Option.some.inj hc
      rw [hview]
    | succ k =>
      rw [hnone 0 head rfl (Nat.zero_lt_succ k)]
      exact ih hc fun j c' hj hlt => hnone (j + 1) c' hj (Nat.succ_lt_succ hlt)

/-- **What a save reports as saved is what the next load yields**, if the file can be read
back; and a save that stopped before its rename changed nothing for it. -/
theorem saved_settings_durable (hrange : settings.InRange) (candidates : List Candidate)
    (current : NativeSettings) :
    ((savePersisted settings candidates).1.ok = true →
      (∀ (k : Nat) (c : Candidate), (findSaveCandidate 0 candidates).1 = some k →
        candidates[k]? = some c → c.Readable) →
      (loadPersisted current false (savePersisted settings candidates).2).1 = (true, settings)) ∧
    ((savePersisted settings candidates).1.renamed = false → ∀ ignore,
      (loadPersisted current ignore (savePersisted settings candidates).2).1
        = (loadPersisted current ignore candidates).1) := by
  have hload (ignore : Bool) (list : List Candidate) : (loadPersisted current ignore list).1
      = (true, if ignore then current
          else (list.findSome? fun c => c.view current).getD current) := by
    cases ignore with
    | true => rfl
    | false => exact congrArg (Prod.mk true) (loadCandidates_eq current list)
  rcases savePersisted_spec settings candidates with ⟨hfailed, hsame⟩
    | ⟨k, checked, c, hdir, hfind, hall, hget, hsecure, hparent, hnone, hrenamed, hset⟩
  · constructor
    · intro hok
      rw [hfailed] at hok
      cases hok
    · intro _ ignore
      rw [hload, hload, findSome_alike hsame]
  · constructor
    · intro _ hreadable
      obtain ⟨original, horiginal, hsame⟩ := alike_getElem hall hget
      have hread : c.Readable := by
        intro call hcall
        have hfails := hreadable k original hfind horiginal call hcall
        unfold Candidate.fails at hfails ⊢
        rw [hsame.failing]
        exact hfails
      have hplace : (checked.set k (c.renamed (writeJson settings) hdir))[k]?
          = some (c.renamed (writeJson settings) hdir) := by
        rw [List.getElem?_set_self]
        exact (List.getElem?_eq_some_iff.mp hget).1
      have hfound := findSome_at current hplace
        (renamed_view hrange hsecure hparent hread hdir) ?_
      · rw [hload, hset, hfound]
        rfl
      · intro j c' hj hlt
        rw [List.getElem?_set_ne (by omega)] at hj
        exact view_none hrange (hnone j c' hj hlt)
    · intro hnot
      rw [hrenamed] at hnot
      cases hnot

end Order

/-! ## Two saves -/

/-- A candidate with a private directory and no file, whose file may turn out unreadable. -/
def freshCandidate (unreadable : Bool) : Candidate where
  fromEnv := false
  dir := .directory true false
  file := .absent
  temporary := false
  failing := if unreadable then [.fread] else []
  housed := FileState.housed_of_directory

/-- An override behind a link, with half a document in it. -/
def corruptOverride : Candidate where
  fromEnv := true
  dir := .link
  file := .regular [0x7b] true
  temporary := false
  failing := []
  housed h := by cases h

/-- The defaults with the camera switched. -/
def cameraSwitched : NativeSettings :=
  { NativeSettings.defaults with cameraEnabled := !NativeSettings.defaults.cameraEnabled }

theorem cameraSwitched_inRange : cameraSwitched.InRange :=
  { NativeSettings.defaults_inRange with }

theorem cameraSwitched_ne : cameraSwitched ≠ NativeSettings.defaults := by
  intro h
  exact absurd (congrArg NativeSettings.cameraEnabled h) (by decide)

/-- Only a read of the fresh candidate may fail. -/
theorem freshCandidate_fails (unreadable : Bool) (call : Call)
    (hcall : call ∉ Candidate.readCalls) : (freshCandidate unreadable).fails call = false := by
  have hne : call ≠ .fread := fun h => hcall (by rw [h]; decide)
  cases unreadable with
  | false => exact decide_eq_false (List.not_mem_nil)
  | true => exact decide_eq_false fun hmem => hne (List.mem_singleton.mp hmem)

/-- Both saves go past the corrupt override. -/
theorem save_fresh (unreadable : Bool) :
    savePersisted cameraSwitched [corruptOverride, freshCandidate unreadable]
      = ((Candidate.saveFileChecked cameraSwitched (freshCandidate unreadable)).1,
          [corruptOverride,
            (Candidate.saveFileChecked cameraSwitched (freshCandidate unreadable)).2]) := by
  have hfind : findSaveCandidate 0 [corruptOverride, freshCandidate unreadable]
      = (some 1, [corruptOverride, freshCandidate unreadable]) := by
    cases unreadable <;> rfl
  have hcheck : checkLoaded cameraSwitched 1 0 [corruptOverride, freshCandidate unreadable]
      = (true, [corruptOverride, freshCandidate unreadable]) := by
    cases unreadable <;> rfl
  unfold savePersisted
  rw [hfind]
  dsimp only
  rw [hcheck]
  rfl

theorem save_fresh_ok (unreadable : Bool) :
    (savePersisted cameraSwitched [corruptOverride, freshCandidate unreadable]).1.ok = true := by
  rw [save_fresh]
  exact Candidate.saveFileChecked_ok cameraSwitched_inRange rfl (freshCandidate_fails unreadable)

theorem saved_settings_durable_fresh :
    (loadPersisted .defaults false
      (savePersisted cameraSwitched [corruptOverride, freshCandidate false]).2).1
        = (true, cameraSwitched) := by
  refine (saved_settings_durable cameraSwitched_inRange
    [corruptOverride, freshCandidate false] .defaults).1 (save_fresh_ok false) ?_
  intro k c hfind hget
  obtain rfl : 1 = k := Option.some.inj hfind
  obtain rfl : freshCandidate false = c := Option.some.inj hget
  exact fun call _ => decide_eq_false (List.not_mem_nil)

/-- The save is reported, and the file it wrote cannot be read back. -/
theorem saved_and_unreadable :
    cameraSwitched.InRange ∧
      (savePersisted cameraSwitched [corruptOverride, freshCandidate true]).1.ok = true ∧
      (loadPersisted .defaults false
        (savePersisted cameraSwitched [corruptOverride, freshCandidate true]).2).1
          ≠ (true, cameraSwitched) := by
  refine ⟨cameraSwitched_inRange, save_fresh_ok true, ?_⟩
  have hfails : (Candidate.saveFileChecked cameraSwitched (freshCandidate true)).2.fails .fread
      = true := by
    rcases Candidate.saveFileChecked_spec cameraSwitched (freshCandidate true) with
      ⟨-, halike⟩ | ⟨hdir, -, hrenamed⟩
    · unfold Candidate.fails
      rw [halike.failing]
      rfl
    · rw [hrenamed]
      rfl
  have hload : (loadCandidates .defaults
      (savePersisted cameraSwitched [corruptOverride, freshCandidate true]).2).1 = .defaults := by
    rw [save_fresh, loadCandidates_eq, List.findSome?_cons, List.findSome?_cons, List.findSome?_nil,
      Candidate.view_unreadable hfails]
    rfl
  have hresult (list : List Candidate) : (loadPersisted .defaults false list).1
      = (true, (loadCandidates .defaults list).1) := rfl
  rw [hresult, hload]
  intro heq
  exact cameraSwitched_ne (Prod.mk.inj heq).2.symm

end Lgnome.Settings
