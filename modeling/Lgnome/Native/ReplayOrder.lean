import Lgnome.Native.Annexb
import Lgnome.Native.Replay

/-!
# The order of replayed and live units

What a cache holds is read off the run: the units that arrived since its seed.
With that the replay feeds what was held back, and the slot keeps the screen
for the units behind it.
-/
namespace Lgnome.Native

open Lgnome.Transition

variable {scan : Scanner}

/-- The decoder took the unit. -/
def Ingest.accepted : Ingest → Bool
  | .fed _ .ok => true
  | _ => false

section Frames

variable {a : App} {i : SlotIndex}

/-- The counter moves only for an accepted unit. -/
theorem ingest_frames (scan : Scanner) (au : AccessUnit) (env : FeedEnv)
    (h : (a.ingestAuLocked scan i au env).2.accepted = false) :
    ((a.ingestAuLocked scan i au env).1.sessions i).videoOkFrames =
      (a.sessions i).videoOkFrames := by
  obtain ⟨-, hstep⟩ := App.ingestAuLocked_cases scan a i au env
  generalize (a.ingestAuLocked scan i au env).1 = a' at hstep ⊢
  generalize (a.ingestAuLocked scan i au env).2 = o at hstep h
  cases hstep with
  | cached _ _ _ hframes => exact hframes
  | background _ _ _ _ hframes => exact hframes
  | empty _ _ _ _ _ hframes => exact hframes
  | presented _ b _ _ _ _ _ _ hframes hpresent =>
    rw [← hframes]
    cases hpresent with
    | pathBlocked _ _ hkept => exact hkept
    | waitsKeyframe _ _ _ _ _ _ hkept => exact hkept
    | noDecoder _ _ _ _ hkept => exact hkept
    | fed _ _ _ _ _ _ hkept =>
      refine hkept fun hok => ?_
      rw [hok] at h
      cases h

/-- A replay without an accepted unit leaves the counter where it was. -/
theorem replayUnits_frames (chain : List AccessUnit) (envs : List ReplayEnv)
    (h : (a.replayUnits scan i chain envs).2.any Ingest.accepted = false) :
    ((a.replayUnits scan i chain envs).1.sessions i).videoOkFrames =
      (a.sessions i).videoOkFrames := by
  induction chain generalizing a envs with
  | nil => rfl
  | cons au rest ih =>
    obtain ⟨b, hmeanwhile, hsplit⟩ := replayUnits_split scan a i au rest envs
    have hfirst := ingest_frames (a := a) (i := i) scan au (envs.headD {}).feed
    rw [← (hmeanwhile.slot i).2.1] at hfirst
    rcases hsplit with ⟨-, heq⟩ | ⟨-, heq⟩
    · rw [heq] at h ⊢
      rw [List.any_cons, Bool.or_eq_false_iff] at h
      exact hfirst h.1
    · rw [heq] at h ⊢
      rw [List.any_cons, Bool.or_eq_false_iff] at h
      exact (ih envs.tail h.2).trans (hfirst h.1)

end Frames

section Codec

/-- What a unit of another codec does to its slot before it is taken in. -/
structure CodecChanged (i : SlotIndex) (codec : VideoCodec) (a b : App) : Prop where
  others : ∀ j, j ≠ i → b.sessions j = a.sessions j
  activeIndex : b.activeIndex = a.activeIndex
  video : b.video = a.video
  rgba : b.rgba = a.rgba
  running : b.running = a.running
  rdp : (b.sessions i).rdp = (a.sessions i).rdp
  connectEpoch : (b.sessions i).connectEpoch = (a.sessions i).connectEpoch
  videoCodec : (b.sessions i).videoCodec = codec
  frames : (b.sessions i).videoOkFrames = (a.sessions i).videoOkFrames
  terminal : (b.sessions i).terminalState = (a.sessions i).terminalState
  failed : (b.sessions i).sessionFailed = (a.sessions i).sessionFailed
  snapshot : ((b.sessions i).snapshot = (a.sessions i).snapshot ∧ (a.sessions i).videoCodec = codec) ∨
    ((b.sessions i).snapshot = (a.sessions i).snapshot ∧ (a.sessions i).snapshot.armed = false) ∨
    ((a.sessions i).snapshot.armed ∧
      ∃ allocated, (b.sessions i).snapshot = (a.sessions i).snapshot.arm allocated)

theorem changeCodec_changed (a : App) (i : SlotIndex) (codec : VideoCodec) (allocates : Bool) :
    CodecChanged i codec a (a.changeCodec i codec allocates) := by
  unfold App.changeCodec
  by_cases hsame : (a.sessions i).videoCodec = codec
  · rw [if_pos hsame]
    exact ⟨fun _ _ => rfl, rfl, rfl, rfl, rfl, rfl, rfl, hsame, rfl, rfl, rfl, .inl ⟨rfl, hsame⟩⟩
  · rw [if_neg hsame]
    refine ⟨fun j hj => App.modifySlot_other _ _ _ hj, rfl, rfl, rfl, rfl, ?_, ?_, ?_, ?_, ?_, ?_, ?_⟩
      <;> rw [App.modifySlot_same]
    cases harmed : (a.sessions i).snapshot.armed with
    | false => exact .inr (.inl ⟨rfl, rfl⟩)
    | true => exact .inr (.inr ⟨rfl, allocates, rfl⟩)

namespace CodecChanged

variable {i : SlotIndex} {codec : VideoCodec} {a b : App}

theorem reported (h : CodecChanged i codec a b) (j : SlotIndex) (hr : a.Reported j) :
    b.Reported j := by
  intro hterminal
  rw [h.running]
  by_cases hj : j = i
  · rw [hj] at hr hterminal ⊢
    rw [h.terminal] at hterminal
    rw [h.failed]
    exact hr hterminal
  · rw [h.others j hj] at hterminal ⊢
    exact hr hterminal

theorem unarmed (h : CodecChanged i codec a b) (hunarmed : (a.sessions i).snapshot.armed = false) :
    (b.sessions i).snapshot = (a.sessions i).snapshot := by
  rcases h.snapshot with ⟨hkept, -⟩ | ⟨hkept, -⟩ | ⟨harmed, -⟩
  · exact hkept
  · exact hkept
  · rw [hunarmed] at harmed
    cases harmed

theorem holdsScreen (h : CodecChanged i codec a b) {j : SlotIndex} (hs : HoldsScreen a j) :
    HoldsScreen b j := by
  have hslot : (b.sessions j).snapshot = (a.sessions j).snapshot ∧
      (b.sessions j).connectEpoch = (a.sessions j).connectEpoch := by
    by_cases hj : j = i
    · subst hj
      exact ⟨h.unarmed hs.unarmed, h.connectEpoch⟩
    · rw [h.others j hj]
      exact ⟨rfl, rfl⟩
  refine ⟨h.activeIndex.trans hs.active, by rw [hslot.1]; exact hs.unarmed, h.rgba.trans hs.canvas,
    fun d hd => ?_⟩
  rw [hslot.2]
  exact hs.decoder d (h.video ▸ hd)

end CodecChanged

end Codec

section Chain

/-- The cached chain: it begins with a seed of the slot's codec, and every unit has
data. A cache without the seed is empty, and one that is not armed is blank. -/
structure ChainOk (scan : Scanner) (codec : VideoCodec) (s : AuSnapshot) : Prop where
  unarmed : s.armed = false → s = {}
  unseeded : s.hasDecoderSeed = false → s.entries = []
  seeded : s.hasDecoderSeed → ∃ seed rest, s.entries = seed :: rest ∧
    (scan codec seed.data).valid ∧ (scan codec seed.data).canSeedDecoder
  data : ∀ au ∈ s.entries, au.data ≠ []

theorem chainOk_arm (codec : VideoCodec) (s : AuSnapshot) (allocated : Bool) :
    ChainOk scan codec (s.arm allocated) :=
  ⟨fun h => by rw [AuSnapshot.arm_armed] at h; rw [h]; rfl, fun _ => rfl, fun h => (by cases h),
    fun au hau => (by cases hau)⟩

theorem ChainOk.append {codec : VideoCodec} {s : AuSnapshot} (h : ChainOk scan codec s)
    (au : AccessUnit) :
    ChainOk scan codec (s.append au (scan codec au.data).valid
      ((scan codec au.data).valid && (scan codec au.data).canSeedDecoder)).1 := by
  have hcases := AuSnapshot.append_cases s au (scan codec au.data).valid
    ((scan codec au.data).valid && (scan codec au.data).canSeedDecoder)
  generalize (s.append au (scan codec au.data).valid
    ((scan codec au.data).valid && (scan codec au.data).canSeedDecoder)).1 = s' at hcases ⊢
  cases hcases with
  | ignored => exact h
  | voided => exact chainOk_arm codec s false
  | extended _ hseed hdata =>
    obtain ⟨seed, rest, hentries, hscan⟩ := h.seeded hseed
    refine ⟨fun harmed => (by cases harmed), fun hno => (by cases hno),
      fun _ => ⟨seed, rest ++ [au], by simp [hentries], hscan⟩, fun x hx => ?_⟩
    rcases List.mem_append.mp hx with hold | hnew
    · exact h.data x hold
    · rw [List.mem_singleton.mp hnew]
      exact hdata
  | restarted _ hseed _ hdata =>
    refine ⟨fun harmed => (by cases harmed), fun hno => (by cases hno),
      fun _ => ⟨au, [], rfl, by simpa using hseed⟩, fun x hx => ?_⟩
    rw [List.mem_singleton.mp hx]
    exact hdata

/-- The cached units are those that came at the end of the record, and nothing of
the slot went past the cache meanwhile. -/
def Held (i : SlotIndex) (tr : List VideoEvent) (entries : List AccessUnit) : Prop :=
  ∃ early held, tr = early ++ held ∧ arrivals i held = entries ∧ HeldBack i held

theorem held_nil (i : SlotIndex) (tr : List VideoEvent) : Held i tr [] :=
  ⟨tr, [], by simp, rfl, fun x hx => by cases hx⟩

theorem Held.other {i : SlotIndex} {tr : List VideoEvent} {entries : List AccessUnit}
    {x : VideoEvent} (h : Held i tr entries) (hx : ∀ codec au env, x.1 ≠ .videoAu i codec au env) :
    Held i (tr ++ [x]) entries := by
  obtain ⟨early, held, rfl, harrivals, hback⟩ := h
  refine ⟨early, held ++ [x], by simp, ?_, fun y hy codec au env heq => ?_⟩
  · have hnone : arrivals i [x] = [] := by
      obtain ⟨action, note⟩ := x
      cases action with
      | videoAu j codec au env =>
        have hj : j ≠ i := fun hj => hx codec au env (by rw [hj])
        simp [arrivals, hj]
      | _ => rfl
    unfold arrivals at harrivals hnone ⊢
    rw [List.filterMap_append, harrivals, hnone, List.append_nil]
  · rcases List.mem_append.mp hy with hold | hnew
    · exact hback y hold codec au env heq
    · rw [List.mem_singleton.mp hnew] at heq
      exact absurd heq (hx codec au env)

theorem Held.extend {i : SlotIndex} {tr : List VideoEvent} {entries : List AccessUnit}
    (h : Held i tr entries) (codec : VideoCodec) (au : AccessUnit) (env : FeedEnv) :
    Held i (tr ++ [(.videoAu i codec au env, .ingest .cached)]) (entries ++ [au]) := by
  obtain ⟨early, held, rfl, harrivals, hback⟩ := h
  refine ⟨early, held ++ [(.videoAu i codec au env, .ingest .cached)], by simp, ?_,
    fun y hy codec' au' env' heq => ?_⟩
  · unfold arrivals at harrivals ⊢
    rw [List.filterMap_append, harrivals]
    simp
  · rcases List.mem_append.mp hy with hold | hnew
    · exact hback y hold codec' au' env' heq
    · rw [List.mem_singleton.mp hnew]

end Chain

section Kept

/-- The slot's stream is where it was. -/
structure StreamKept (i : SlotIndex) (a b : App) : Prop where
  snapshot : (b.sessions i).snapshot = (a.sessions i).snapshot
  rdp : (b.sessions i).rdp = (a.sessions i).rdp
  videoCodec : (b.sessions i).videoCodec = (a.sessions i).videoCodec
  reported : a.Reported i → b.Reported i

variable {i j : SlotIndex} {a b c : App}

theorem StreamKept.refl (i : SlotIndex) (a : App) : StreamKept i a a := ⟨rfl, rfl, rfl, id⟩

theorem StreamKept.trans (h : StreamKept i a b) (h' : StreamKept i b c) : StreamKept i a c :=
  ⟨h'.snapshot.trans h.snapshot, h'.rdp.trans h.rdp, h'.videoCodec.trans h.videoCodec,
    fun hr => h'.reported (h.reported hr)⟩

/-- A slot that did not change kept its stream, as long as nothing set the
application running again. -/
theorem streamKept_of_slot (hslot : b.sessions i = a.sessions i) (hrun : b.running = a.running) :
    StreamKept i a b := by
  refine ⟨by rw [hslot], by rw [hslot], by rw [hslot], fun hr => ?_⟩
  unfold App.Reported at hr ⊢
  rw [hslot, hrun]
  exact hr

theorem Undisturbed.streamKept (h : Undisturbed a b) (i : SlotIndex) : StreamKept i a b :=
  ⟨(h.slot i).1, (h.slot i).2.2.1, (h.slot i).2.2.2.2, h.reported i⟩

theorem App.TookIn.streamKept (h : App.TookIn j a b) (hi : i ≠ j) : StreamKept i a b := by
  have hslot := h.others i hi
  exact ⟨by rw [hslot], by rw [hslot], by rw [hslot], h.reported i⟩

/-- With the cache unarmed a unit leaves every stream where it was. -/
theorem ingest_streamKept (scan : Scanner) (au : AccessUnit) (env : FeedEnv)
    (hunarmed : (a.sessions j).snapshot.armed = false) (i : SlotIndex) :
    StreamKept i a (a.ingestAuLocked scan j au env).1 := by
  obtain ⟨htook, hstep⟩ := App.ingestAuLocked_cases scan a j au env
  by_cases hi : i = j
  · subst hi
    refine ⟨?_, htook.rdp, htook.videoCodec, htook.reported i⟩
    generalize (a.ingestAuLocked scan i au env).1 = a' at hstep ⊢
    generalize (a.ingestAuLocked scan i au env).2 = o at hstep
    cases hstep with
    | cached harmed =>
      rw [hunarmed] at harmed
      cases harmed
    | background _ _ hsnapshot => exact hsnapshot
    | empty _ _ _ hsnapshot => exact hsnapshot
    | presented _ _ _ _ _ hsnapshot => exact hsnapshot
  · exact htook.streamKept hi

theorem replayUnits_streamKept (chain : List AccessUnit) (envs : List ReplayEnv)
    (hunarmed : (a.sessions j).snapshot.armed = false) (i : SlotIndex) :
    StreamKept i a (a.replayUnits scan j chain envs).1 := by
  induction chain generalizing a envs with
  | nil => exact .refl i a
  | cons au rest ih =>
    obtain ⟨b, hmeanwhile, hsplit⟩ := replayUnits_split scan a j au rest envs
    have hfirst := (ingest_streamKept scan au (envs.headD {}).feed hunarmed i).trans
      (hmeanwhile.streamKept i)
    have hunarmed_b : (b.sessions j).snapshot.armed = false := by
      rw [(hmeanwhile.streamKept j).snapshot, (ingest_streamKept scan au _ hunarmed j).snapshot]
      exact hunarmed
    rcases hsplit with ⟨-, heq⟩ | ⟨-, heq⟩
    · rw [heq]
      exact hfirst
    · rw [heq]
      exact hfirst.trans (ih envs.tail hunarmed_b)

end Kept

section History

variable {i j : SlotIndex} {tr : List VideoEvent} {a b : App} {x : VideoEvent}

/-- What the record says of one slot's stream. -/
structure StreamHistory (scan : Scanner) (i : SlotIndex) (tr : List VideoEvent) (a : App) :
    Prop where
  reported : (a.sessions i).rdp ≠ none → a.Reported i
  chain : ChainOk scan (a.sessions i).videoCodec (a.sessions i).snapshot
  held : (a.sessions i).snapshot.armed → Held i tr (a.sessions i).snapshot.entries

theorem StreamHistory.kept (h : StreamHistory scan i tr a) (hkept : StreamKept i a b)
    (hx : ∀ codec au env, x.1 ≠ .videoAu i codec au env) :
    StreamHistory scan i (tr ++ [x]) b where
  reported hrdp := hkept.reported (h.reported (by rw [← hkept.rdp]; exact hrdp))
  chain := by
    rw [hkept.videoCodec, hkept.snapshot]
    exact h.chain
  held harmed := by
    rw [hkept.snapshot] at harmed ⊢
    exact (h.held harmed).other hx

/-- A cache that was armed or reset in this step is empty. -/
theorem streamHistory_arm (tr : List VideoEvent) (s : AuSnapshot) (allocated : Bool)
    (hsnapshot : (b.sessions i).snapshot = s.arm allocated)
    (hreported : (b.sessions i).rdp ≠ none → b.Reported i) : StreamHistory scan i tr b where
  reported := hreported
  chain := by
    rw [hsnapshot]
    exact chainOk_arm _ s allocated
  held _ := by
    rw [hsnapshot]
    exact held_nil i tr

theorem CodecChanged.history {codec : VideoCodec} (h : CodecChanged i codec a b)
    (hs : StreamHistory scan i tr a) : StreamHistory scan i tr b := by
  have hreported : (b.sessions i).rdp ≠ none → b.Reported i := fun hrdp =>
    h.reported i (hs.reported (by rw [← h.rdp]; exact hrdp))
  rcases h.snapshot with ⟨hkept, hcodec⟩ | ⟨hkept, hunarmed⟩ | ⟨-, allocated, harm⟩
  · refine ⟨hreported, ?_, fun harmed => ?_⟩
    · rw [hkept, h.videoCodec, ← hcodec]
      exact hs.chain
    · rw [hkept] at harmed ⊢
      exact hs.held harmed
  · exact streamHistory_arm tr {} false (hkept.trans (hs.chain.unarmed hunarmed)) hreported
  · exact streamHistory_arm tr _ allocated harm hreported

/-- A unit of the slot is cached behind those before it, or there is no cache. -/
theorem StreamHistory.ingest (h : StreamHistory scan i tr a) (codec : VideoCodec) (au : AccessUnit)
    (env : FeedEnv) :
    StreamHistory scan i
      (tr ++ [(.videoAu i codec au env, .ingest (a.ingestAu scan i codec au env).2)])
      (a.ingestAu scan i codec au env).1 := by
  have hchanged := (changeCodec_changed a i codec env.allocates).history h
  unfold App.ingestAu
  generalize a.changeCodec i codec env.allocates = b at hchanged ⊢
  obtain ⟨htook, hstep⟩ := App.ingestAuLocked_cases scan b i au env
  generalize (b.ingestAuLocked scan i au env).1 = b' at htook hstep ⊢
  generalize (b.ingestAuLocked scan i au env).2 = o at hstep ⊢
  have hreported : (b'.sessions i).rdp ≠ none → b'.Reported i := fun hrdp =>
    htook.reported i (hchanged.reported (by rw [← htook.rdp]; exact hrdp))
  have huncached (hsnapshot : (b'.sessions i).snapshot = (b.sessions i).snapshot)
      (hunarmed : (b.sessions i).snapshot.armed = false) :
      StreamHistory scan i (tr ++ [(.videoAu i codec au env, .ingest o)]) b' :=
    streamHistory_arm _ {} false (hsnapshot.trans (hchanged.chain.unarmed hunarmed)) hreported
  cases hstep with
  | cached harmed hsnapshot =>
    have hchain := hchanged.chain.append au
    have hcases := AuSnapshot.append_cases (b.sessions i).snapshot au
      (scan (b.sessions i).videoCodec au.data).valid
      ((scan (b.sessions i).videoCodec au.data).valid &&
        (scan (b.sessions i).videoCodec au.data).canSeedDecoder)
    rw [← hsnapshot, ← htook.videoCodec] at hchain
    refine ⟨hreported, hchain, fun harmed' => ?_⟩
    rw [← hsnapshot] at hcases
    generalize (b'.sessions i).snapshot = s at hcases harmed' ⊢
    cases hcases with
    | ignored hout =>
      have hunseeded : (b.sessions i).snapshot.hasDecoderSeed = false := by
        rcases hout with hunarmed | hunseeded
        · rw [harmed] at hunarmed
          cases hunarmed
        · exact hunseeded
      rw [hchanged.chain.unseeded hunseeded]
      exact held_nil i _
    | voided => cases harmed'
    | extended => exact (hchanged.held harmed).extend codec au env
    | restarted => exact (held_nil i tr).extend codec au env
  | background hunarmed _ hsnapshot => exact huncached hsnapshot hunarmed
  | empty hunarmed _ _ hsnapshot => exact huncached hsnapshot hunarmed
  | presented _ _ hunarmed _ _ hsnapshot => exact huncached hsnapshot hunarmed

/-- A unit of another slot. -/
theorem ingestAu_streamKept (hi : i ≠ j) (codec : VideoCodec) (au : AccessUnit) (env : FeedEnv) :
    StreamKept i a (a.ingestAu scan j codec au env).1 := by
  have hchanged := changeCodec_changed a j codec env.allocates
  have htook := (App.ingestAuLocked_cases scan (a.changeCodec j codec env.allocates) j au env).1
  exact (streamKept_of_slot (hchanged.others i hi) hchanged.running).trans (htook.streamKept hi)

/-- A change to another slot. -/
theorem modifySlot_streamKept (hi : i ≠ j) (f : Slot → Slot) : StreamKept i a (a.modifySlot j f) :=
  streamKept_of_slot (App.modifySlot_other _ _ _ hi) rfl

theorem pending_streamKept (filling : Bool) :
    StreamKept i a (a.modifySlot j fun s => { s with snapshotPending := filling }) := by
  by_cases hi : i = j
  · subst hi
    have htook := App.tookIn_modifySlot a i (fun s => { s with snapshotPending := filling })
      rfl rfl rfl rfl rfl
    refine ⟨?_, htook.rdp, htook.videoCodec, htook.reported i⟩
    rw [App.modifySlot_same]
  · exact modifySlot_streamKept hi _

theorem arm_history (h : StreamHistory scan i tr a) (allocates : Bool)
    (hx : ∀ codec au env, x.1 ≠ .videoAu i codec au env) :
    StreamHistory scan i (tr ++ [x]) (a.armSnapshot j allocates) := by
  by_cases hi : i = j
  · subst hi
    have htook := App.tookIn_modifySlot a i
      (fun s => { s with snapshot := s.snapshot.arm allocates }) rfl rfl rfl rfl rfl
    exact streamHistory_arm _ _ allocates (by rw [App.armSnapshot, App.modifySlot_same])
      fun hrdp => htook.reported i (h.reported (by rw [← htook.rdp]; exact hrdp))
  · exact h.kept (modifySlot_streamKept hi _) hx

theorem disconnect_history (h : StreamHistory scan i tr a)
    (hx : ∀ codec au env, x.1 ≠ .videoAu i codec au env) :
    StreamHistory scan i (tr ++ [x]) (a.disconnect j) := by
  unfold App.disconnect App.forgetStream
  by_cases hi : i = j
  · subst hi
    refine streamHistory_arm _ {} false ?_ fun hrdp => ?_
    · rw [App.modifySlot_same, App.modifySlot_same]
      rfl
    · rw [App.modifySlot_same] at hrdp
      exact absurd rfl hrdp
  · exact h.kept ((modifySlot_streamKept hi _).trans (modifySlot_streamKept hi _)) hx

theorem reconnect_history (h : StreamHistory scan i tr a) (session : Session) (armed : Option Bool)
    (hx : ∀ codec au env, x.1 ≠ .videoAu i codec au env) :
    StreamHistory scan i (tr ++ [x]) (a.reconnect j session armed) := by
  unfold App.reconnect App.forgetStream
  by_cases hi : i = j
  · subst hi
    have hfresh (b : App) (hterminal : (b.sessions i).terminalState = .idle) : b.Reported i :=
      fun hne => absurd hterminal hne
    cases armed with
    | none =>
      refine streamHistory_arm _ {} false ?_ fun _ => hfresh _ ?_
      · simp only [App.modifySlot_same]
        rfl
      · simp only [App.modifySlot_same]
    | some allocates =>
      refine streamHistory_arm _ {} allocates ?_ fun _ => hfresh _ ?_
      · simp only [App.armSnapshot, App.modifySlot_same]
        rfl
      · simp only [App.armSnapshot, App.modifySlot_same]
  · have hforgot := modifySlot_streamKept (a := a) hi fun s =>
      { s with
        snapshot := s.snapshot.reset, videoSeen := false, videoCodec := .h264
        videoViaBitmap := false }
    cases armed with
    | none => exact h.kept (hforgot.trans (modifySlot_streamKept hi _)) hx
    | some allocates =>
      exact h.kept ((hforgot.trans (modifySlot_streamKept hi _)).trans
        (modifySlot_streamKept hi _)) hx

theorem publishOwner_history (h : StreamHistory scan i tr a)
    (hx : ∀ codec au env, x.1 ≠ .videoAu i codec au env) :
    StreamHistory scan i (tr ++ [x]) (a.publishOwner j) := by
  have hpromoted (b : App) : (b.promoteHubReturn j).sessions = b.sessions ∧
      (b.promoteHubReturn j).running = b.running := by
    unfold App.promoteHubReturn
    split
    · exact ⟨rfl, rfl⟩
    · split
      · exact ⟨rfl, rfl⟩
      · split <;> exact ⟨rfl, rfl⟩
  have hpublished (b : App) : StreamKept i b
      { b.promoteHubReturn j with activeIndex := j, videoRefreshNeeded := false } :=
    streamKept_of_slot (congrFun (hpromoted b).1 i) (hpromoted b).2
  unfold App.publishOwner
  by_cases hpending : (a.sessions j).snapshotPending
  · simp only [hpending, if_true]
    by_cases hi : i = j
    · subst hi
      have htook := App.tookIn_modifySlot a i
        (fun s => { s with
          snapshotPending := false, snapshot := s.snapshot.reset, snapshotIdrReady := false })
        rfl rfl rfl rfl rfl
      refine streamHistory_arm _ {} false ?_ fun hrdp => ?_
      · rw [(hpublished _).snapshot, App.modifySlot_same]
        rfl
      · exact (hpublished _).reported (htook.reported i (h.reported (by
          rw [← htook.rdp, ← (hpublished _).rdp]
          exact hrdp)))
    · exact h.kept ((modifySlot_streamKept hi _).trans (hpublished _)) hx
  · simp only [hpending, Bool.false_eq_true, if_false]
    exact h.kept (hpublished a) hx

theorem snapshotReplay_history (h : StreamHistory scan i tr a) (now : UInt32)
    (envs : List ReplayEnv) (hx : ∀ codec au env, x.1 ≠ .videoAu i codec au env) :
    StreamHistory scan i (tr ++ [x]) (a.snapshotReplay scan j now envs).1 := by
  have htook := App.tookIn_modifySlot a j
    (fun s => { s with snapshot := {}, snapshotIdrReady := false }) rfl rfl rfl rfl rfl
  have hblank : ((a.modifySlot j fun s =>
      { s with snapshot := {}, snapshotIdrReady := false }).sessions j).snapshot = {} := by
    rw [App.modifySlot_same]
  have hkept : StreamKept i (a.modifySlot j fun s =>
      { s with snapshot := {}, snapshotIdrReady := false }) (a.snapshotReplay scan j now envs).1 := by
    unfold App.snapshotReplay
    simp only
    split
    · exact .refl i _
    · split
      · exact .refl i _
      · exact replayUnits_streamKept _ envs (by rw [hblank]) i
  by_cases hi : i = j
  · subst hi
    refine streamHistory_arm _ {} false (hkept.snapshot.trans hblank) fun hrdp => ?_
    exact hkept.reported (htook.reported i (h.reported (by
      rw [← htook.rdp, ← hkept.rdp]
      exact hrdp)))
  · exact h.kept ((modifySlot_streamKept hi _).trans hkept) hx

end History

section Machine

variable {i : SlotIndex} {tr : List VideoEvent} {s t : ReplayState} {action : VideoAction}
  {note : VideoNote}

/-- Every step of the machine, by who takes it. -/
inductive VideoStep (scan : Scanner) (s : ReplayState) : VideoAction → ReplayState → VideoNote → Prop
  | videoAu (i : SlotIndex) (codec : VideoCodec) (au : AccessUnit) (env : FeedEnv) :
      VideoStep scan s (.videoAu i codec au env)
        { s with app := (s.app.ingestAu scan i codec au env).1 }
        (.ingest (s.app.ingestAu scan i codec au env).2)
  | unlocked (callback : UnlockedCallback) :
      VideoStep scan s (.unlocked callback) { s with app := s.app.unlocked callback } .silent
  | check (target : SlotIndex) (replay : Replay) (hreading : s.reading = some (target, replay)) :
      VideoStep scan s .check { s with reading := none }
        (.returned (s.app.replayResult target replay))
  | replay (target : SlotIndex) (now : UInt32) (envs : List ReplayEnv) (hreading : s.reading = none)
      (hactive : s.app.activeIndex = target) (hrdp : (s.app.sessions target).rdp ≠ none) :
      VideoStep scan s (.replay target now envs)
        { app := (s.app.snapshotReplay scan target now envs).1
          reading := some (target, (s.app.snapshotReplay scan target now envs).2) }
        (.replay (s.app.snapshotReplay scan target now envs).2)
  | ui (action : VideoAction) (app : App) (hreading : s.reading = none)
      (hworker : action.isWorker = false) (hcheck : action ≠ .check)
      (hhistory : ∀ i tr, StreamHistory scan i tr s.app →
        StreamHistory scan i (tr ++ [(action, .silent)]) app) :
      VideoStep scan s action { s with app } .silent

theorem videoStep_cases (h : videoStep scan s action = some (t, note)) :
    VideoStep scan s action t note := by
  cases action with
  | videoAu i codec au env =>
    obtain ⟨rfl, rfl⟩ := Prod.mk.inj (Option.some.inj h)
    exact .videoAu i codec au env
  | unlocked callback =>
    obtain ⟨rfl, rfl⟩ := Prod.mk.inj (Option.some.inj h)
    exact .unlocked callback
  | check =>
    simp only [videoStep] at h
    cases hreading : s.reading with
    | none =>
      rw [hreading] at h
      cases h
    | some reading =>
      rw [hreading] at h
      obtain ⟨rfl, rfl⟩ := Prod.mk.inj (Option.some.inj h)
      exact .check _ _ hreading
  | replay target now envs =>
    simp only [videoStep] at h
    split at h
    · cases h
    · rename_i hreading
      split at h
      · cases h
      · rename_i hready
        obtain ⟨rfl, rfl⟩ := Prod.mk.inj (Option.some.inj h)
        rw [not_or, not_not] at hready
        exact .replay target now envs (by simpa using hreading) hready.1 hready.2
  | arm j allocates =>
    simp only [videoStep] at h
    split at h
    · cases h
    · rename_i hreading
      obtain ⟨rfl, rfl⟩ := Prod.mk.inj (Option.some.inj h)
      exact .ui _ _ (by simpa using hreading) rfl (by simp) fun i tr hs =>
        arm_history hs allocates (by simp)
  | reset j =>
    simp only [videoStep] at h
    split at h
    · cases h
    · rename_i hreading
      obtain ⟨rfl, rfl⟩ := Prod.mk.inj (Option.some.inj h)
      exact .ui _ _ (by simpa using hreading) rfl (by simp) fun i tr hs =>
        arm_history hs false (by simp)
  | pending j filling =>
    simp only [videoStep] at h
    split at h
    · cases h
    · rename_i hreading
      obtain ⟨rfl, rfl⟩ := Prod.mk.inj (Option.some.inj h)
      exact .ui _ _ (by simpa using hreading) rfl (by simp) fun i tr hs =>
        hs.kept (pending_streamKept filling) (by simp)
  | stop j =>
    simp only [videoStep] at h
    split at h
    · cases h
    · rename_i hreading
      obtain ⟨rfl, rfl⟩ := Prod.mk.inj (Option.some.inj h)
      exact .ui _ _ (by simpa using hreading) rfl (by simp) fun i tr hs =>
        disconnect_history hs (by simp)
  | connect j session armed =>
    simp only [videoStep] at h
    split at h
    · cases h
    · rename_i hreading
      obtain ⟨rfl, rfl⟩ := Prod.mk.inj (Option.some.inj h)
      exact .ui _ _ (by simpa using hreading) rfl (by simp) fun i tr hs =>
        reconnect_history hs session armed (by simp)
  | publish target =>
    simp only [videoStep] at h
    split at h
    · cases h
    · rename_i hreading
      obtain ⟨rfl, rfl⟩ := Prod.mk.inj (Option.some.inj h)
      exact .ui _ _ (by simpa using hreading) rfl (by simp) fun i tr hs =>
        publishOwner_history hs (by simp)
  | select target =>
    simp only [videoStep] at h
    split at h
    · cases h
    · rename_i hreading
      obtain ⟨rfl, rfl⟩ := Prod.mk.inj (Option.some.inj h)
      exact .ui _ _ (by simpa using hreading) rfl (by simp) fun i tr hs =>
        hs.kept (streamKept_of_slot rfl rfl) (by simp)

theorem streamHistory_step (hs : StreamHistory scan i tr s.app)
    (h : videoStep scan s action = some (t, note)) :
    StreamHistory scan i (tr ++ [(action, note)]) t.app := by
  cases videoStep_cases h with
  | videoAu j codec au env =>
    by_cases hi : i = j
    · subst hi
      exact hs.ingest codec au env
    · exact hs.kept (ingestAu_streamKept hi codec au env) fun codec' au' env' heq => by
        cases heq
        exact hi rfl
  | unlocked callback =>
    exact hs.kept ((unlocked_undisturbed s.app callback).streamKept i) (by simp)
  | check => exact hs.kept (.refl i s.app) (by simp)
  | replay target now envs => exact snapshotReplay_history hs now envs (by simp)
  | ui _ app _ _ _ hhistory => exact hhistory i tr hs

theorem streamHistory_run (h : (videoMachine scan).Run tr s) (i : SlotIndex) :
    StreamHistory scan i tr s.app := by
  apply h.history (I := fun tr s => StreamHistory scan i tr s.app)
  · exact streamHistory_arm [] {} false rfl fun hrdp => absurd rfl hrdp
  · intro tr s action t note hs hstep
    exact streamHistory_step hs hstep

/-- Until its result is read, only workers run. -/
theorem path_reading (h : (videoMachine scan).Path s tr t) (hreading : s.reading.isSome)
    (hcheck : ∀ x ∈ tr, x.1 ≠ .check) : t.reading = s.reading ∧ ∀ x ∈ tr, x.1.isWorker := by
  induction h with
  | refl => exact ⟨rfl, fun x hx => by cases hx⟩
  | @snoc t u tr a e _ hstep ih =>
    obtain ⟨hsame, hworkers⟩ := ih fun x hx => hcheck x (List.mem_append_left _ hx)
    have hlast := hcheck (a, e) (List.mem_append_right _ (List.mem_singleton_self _))
    have hone : u.reading = t.reading ∧ a.isWorker := by
      rw [← hsame] at hreading
      cases videoStep_cases hstep with
      | videoAu => exact ⟨rfl, rfl⟩
      | unlocked => exact ⟨rfl, rfl⟩
      | check => exact absurd rfl hlast
      | replay _ _ _ hnone =>
        rw [hnone] at hreading
        cases hreading
      | ui _ _ hnone =>
        rw [hnone] at hreading
        cases hreading
    refine ⟨hone.1.trans hsame, fun x hx => ?_⟩
    rcases List.mem_append.mp hx with hold | hnew
    · exact hworkers x hold
    · rw [List.mem_singleton.mp hnew]
      exact hone.2

/-- Workers move a slot's counter only by a unit of the slot that was accepted. -/
theorem path_frames (h : (videoMachine scan).Path s tr t) (hworkers : ∀ x ∈ tr, x.1.isWorker)
    (hnone : ∀ codec au env o, (.videoAu i codec au env, .ingest o) ∈ tr → o.accepted = false) :
    (t.app.sessions i).videoOkFrames = (s.app.sessions i).videoOkFrames := by
  induction h with
  | refl => rfl
  | @snoc t u tr a e _ hstep ih =>
    have hlast := List.mem_append_right tr (List.mem_singleton_self (a, e))
    rw [← ih (fun x hx => hworkers x (List.mem_append_left _ hx)) fun codec au env o hx =>
      hnone codec au env o (List.mem_append_left _ hx)]
    cases videoStep_cases hstep with
    | videoAu j codec au env =>
      have hchanged := changeCodec_changed t.app j codec env.allocates
      have htook := (App.ingestAuLocked_cases scan (t.app.changeCodec j codec env.allocates)
        j au env).1
      by_cases hi : i = j
      · subst hi
        exact (ingest_frames scan au env (hnone codec au env _ hlast)).trans hchanged.frames
      · show ((App.ingestAuLocked scan _ j au env).1.sessions i).videoOkFrames = _
        rw [htook.others i hi, hchanged.others i hi]
    | unlocked callback => exact ((unlocked_undisturbed t.app callback).slot i).2.1
    | check => rfl
    | replay => exact absurd (hworkers _ hlast) (by simp [VideoAction.isWorker])
    | ui _ _ _ hworker =>
      have hyes := hworkers _ hlast
      rw [hworker] at hyes
      cases hyes

end Machine

section Live

variable {target : SlotIndex} {tr : List VideoEvent} {s t : ReplayState}

/-- What a step of the workers does while a slot has the screen: a unit of the slot
goes to the decoder, and only an empty one, one of another codec that cannot seed a
decoder, and one that finds no decoder to open do not. Nothing of another slot does. -/
inductive LiveStep (scan : Scanner) (target : SlotIndex) : VideoEvent → Prop
  | fed (codec : VideoCodec) (au : AccessUnit) (env : FeedEnv) :
      LiveStep scan target (.videoAu target codec au env, .ingest (.fed au env.result))
  | empty (codec : VideoCodec) (au : AccessUnit) (env : FeedEnv) (hdata : au.data = []) :
      LiveStep scan target (.videoAu target codec au env, .ingest .empty)
  | otherCodec (codec shown : VideoCodec) (au : AccessUnit) (env : FeedEnv) (hcodec : shown ≠ codec)
      (hdelta : ((scan codec au.data).valid && (scan codec au.data).canSeedDecoder) = false) :
      LiveStep scan target (.videoAu target codec au env, .ingest (.waitsKeyframe shown))
  | noDecoder (codec : VideoCodec) (au : AccessUnit) (env : FeedEnv)
      (hopen : env.mediaOpens = false ∨ env.videoOpens = false) :
      LiveStep scan target (.videoAu target codec au env, .ingest .noDecoder)
  | otherSlot (j : SlotIndex) (codec : VideoCodec) (au : AccessUnit) (env : FeedEnv) (o : Ingest)
      (hj : j ≠ target) (hunfed : fedUnits [o] = []) :
      LiveStep scan target (.videoAu j codec au env, .ingest o)
  | noUnit (x : VideoEvent) (hx : ∀ j codec au env, x.1 ≠ .videoAu j codec au env) :
      LiveStep scan target x

theorem ingestAu_live (h : HoldsScreen s.app target) (j : SlotIndex) (codec : VideoCodec)
    (au : AccessUnit) (env : FeedEnv) :
    HoldsScreen (s.app.ingestAu scan j codec au env).1 target ∧
      LiveStep scan target
        (.videoAu j codec au env, .ingest (s.app.ingestAu scan j codec au env).2) := by
  have hchanged := changeCodec_changed s.app j codec env.allocates
  have hscreen := hchanged.holdsScreen h
  unfold App.ingestAu
  generalize s.app.changeCodec j codec env.allocates = a at hchanged hscreen ⊢
  by_cases hj : j = target
  · subst hj
    obtain ⟨hkept, hout⟩ := ingest_screen scan au env hscreen
    refine ⟨hkept, ?_⟩
    rcases hout with ⟨ho, -⟩ | ⟨ho, hdata⟩ | ⟨ho, hopen, -⟩ | ⟨d, -, hne, ho, hdelta⟩
    · rw [ho]
      exact .fed codec au env
    · rw [ho]
      exact .empty codec au env hdata
    · rw [ho]
      exact .noDecoder codec au env hopen
    · rw [ho]
      rw [hchanged.videoCodec] at hne hdelta
      exact .otherCodec codec d.codec au env hne hdelta
  · obtain ⟨hkept, hunfed⟩ := ingest_other scan au env hscreen hj
    exact ⟨hkept, .otherSlot j codec au env _ hj hunfed⟩

/-- The slot keeps the screen until the UI thread takes it away. -/
theorem path_live (h : (videoMachine scan).Path s tr t) (hscreen : HoldsScreen s.app target)
    (hlive : ∀ x ∈ tr, x.1.isWorker ∨ x.1 = .check) :
    HoldsScreen t.app target ∧ ∀ x ∈ tr, LiveStep scan target x := by
  induction h with
  | refl => exact ⟨hscreen, fun x hx => by cases hx⟩
  | @snoc t u tr a e _ hstep ih =>
    obtain ⟨hbefore, hsteps⟩ := ih fun x hx => hlive x (List.mem_append_left _ hx)
    have hlast := hlive (a, e) (List.mem_append_right _ (List.mem_singleton_self _))
    have hone : HoldsScreen u.app target ∧ LiveStep scan target (a, e) := by
      cases videoStep_cases hstep with
      | videoAu j codec au env => exact ingestAu_live hbefore j codec au env
      | unlocked callback =>
        exact ⟨(unlocked_undisturbed t.app callback).holdsScreen hbefore, .noUnit _ (by simp)⟩
      | check => exact ⟨hbefore, .noUnit _ (by simp)⟩
      | replay => exact absurd hlast (by simp [VideoAction.isWorker])
      | ui _ _ _ hworker hcheck =>
        rcases hlast with hyes | hyes
        · rw [hworker] at hyes
          cases hyes
        · exact absurd hyes hcheck
    refine ⟨hone.1, fun x hx => ?_⟩
    rcases List.mem_append.mp hx with hold | hnew
    · exact hsteps x hold
    · rw [List.mem_singleton.mp hnew]
      exact hone.2

end Live

section Result

variable {pre mid post : List VideoEvent} {target : SlotIndex} {now : UInt32}
  {envs : List ReplayEnv} {replay : Replay} {s t u : ReplayState}

/-- The replayed chain is what was held back last, and it reaches the decoder in
order: the whole of it, unless the slot or the application came to its end. -/
theorem replay_step (h : (videoMachine scan).Run pre s)
    (hstep : videoStep scan s (.replay target now envs) = some (t, .replay replay)) :
    t.reading = some (target, replay) ∧
      ((∀ chain outcomes baseline, replay ≠ .replayed chain outcomes baseline) ∨
      ∃ chain outcomes, replay = .replayed chain outcomes (s.app.sessions target).videoOkFrames ∧
        chain ≠ [] ∧
        (∃ early held, pre = early ++ held ∧ arrivals target held = chain ∧ HeldBack target held) ∧
        fedUnits outcomes <+: chain ∧
        (outcomes.any Ingest.accepted = false →
          (t.app.sessions target).videoOkFrames = (s.app.sessions target).videoOkFrames) ∧
        (Ended t.app target ∨ fedUnits outcomes = chain ∧ HoldsScreen t.app target)) := by
  have hhistory := streamHistory_run h target
  generalize hact : VideoAction.replay target now envs = action at hstep
  cases videoStep_cases hstep with
  | replay target' now' envs' _ hactive hrdp =>
    cases hact
    refine ⟨rfl, ?_⟩
    have htook := App.tookIn_modifySlot s.app target
      (fun s => { s with snapshot := {}, snapshotIdrReady := false }) rfl rfl rfl rfl rfl
    simp only [App.snapshotReplay]
    by_cases hready : (s.app.sessions target).snapshot.ready
    · simp only [hready, Bool.not_true, Bool.false_eq_true, if_false]
      by_cases hquiet :
          now - (s.app.sessions target).snapshotLastAuMs < App.snapshotQuietMs
      · simp only [hquiet, if_true]
        exact .inl (by simp)
      · simp only [hquiet, if_false]
        refine .inr ⟨_, _, rfl, ?_⟩
        simp only [AuSnapshot.ready, Bool.and_eq_true] at hready
        obtain ⟨seed, rest, hentries, hseed⟩ := hhistory.chain.seeded hready.1.2
        have hdata := hhistory.chain.data
        have hheld := hhistory.held hready.1.1
        rw [hentries] at hdata hheld ⊢
        have hcodec := htook.videoCodec
        have hframes : ((s.app.modifySlot target fun s =>
            { s with snapshot := {}, snapshotIdrReady := false }).sessions target).videoOkFrames =
              (s.app.sessions target).videoOkFrames := by
          rw [App.modifySlot_same]
        have hunarmed : ((s.app.modifySlot target fun s =>
            { s with snapshot := {}, snapshotIdrReady := false }).sessions
              target).snapshot.armed = false := by
          rw [App.modifySlot_same]
        have hreported := htook.reported target (hhistory.reported hrdp)
        have hactive' := htook.activeIndex.trans hactive
        generalize (s.app.modifySlot target fun s =>
          { s with snapshot := {}, snapshotIdrReady := false }) = a at *
        rw [← hcodec] at hseed
        obtain ⟨hfront, hwhole⟩ := replayUnits_chain seed rest envs hactive' hunarmed hreported
          hseed hdata
        refine ⟨by simp, hheld, hfront, fun hnone => ?_, hwhole⟩
        rw [← hframes]
        exact replayUnits_frames _ envs hnone
    · simp only [hready, Bool.not_false, if_true]
      exact .inl (by simp)

instance (a : App) (i : SlotIndex) : Decidable (Ended a i) :=
  inferInstanceAs (Decidable (_ ∨ _))

/-- The yellow slot fills its cache in the background and goes on screen. -/
def filledCache : List VideoEvent :=
  [(.connect .yellow 7 (some true), .silent), (.pending .yellow true, .silent),
    (.videoAu .yellow .h264 idrUnit {}, .ingest .cached),
    (.videoAu .yellow .h264 (deltaUnit 1) {}, .ingest .cached), (.pending .yellow false, .silent),
    (.publish .yellow, .silent)]

def switchToYellow (results : List VideoResult) : List VideoAction :=
  filledCache.map Prod.fst ++
    [.replay .yellow 1000 (results.map fun result => { feed := { result } })]

end Result

end Lgnome.Native
