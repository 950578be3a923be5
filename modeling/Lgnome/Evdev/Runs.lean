import Lgnome.Evdev.Kept

/-!
# Every run of the evdev reader

However the kernel delivers, devices come and go, and the SDL thread takes events, starts and
stops: the queue is called as it has to be, so that events come out in the order of their times;
every event that was read went there as what it is; and exactly the devices of the table are open
and grabbed.
-/
namespace Lgnome.Evdev

open Lgnome.Input (NativeEvent NativeEventKind QueueOp QueueRecord eventQueue Disciplined)
open Lgnome.Transition
open Lgnome.Transition.Contract (Safe)

/-! ## What the reader knows -/

/-- Nothing is left to be read, unless the next `poll` has a time limit. -/
def Calm (queued : Bool) (s : State) : Prop := queued = false → Empty s

/-- A sweep is done with the devices from an index on. -/
structure Reading (before : UInt64) (i : Nat) (pending : Bool) (s : State) : Prop
    extends Awake s where
  locked : s.locked = true
  above : s.queue.publishedBeforeUs ≤ before
  past : before ≤ s.clock
  fits : i ≤ s.devices.length
  drained : ∀ d ∈ s.devices.drop i, ∀ raw ∈ s.waiting d.file, before ≤ raw.timeUs
  emptied : pending = false → ∀ d ∈ s.devices.drop i, s.buffered d.file = []

section Stable

variable {s t : State} {before : UInt64} {i : Nat} {pending queued : Bool} {d : Device}

theorem Awake.stable : contract.Stable .reader Awake := by
  intro s t hrely _ h
  have hleft := hrely h.thread
  exact ⟨hleft.thread.trans h.thread, hleft.waits.trans h.waits⟩

theorem Left.since (h : Left s t) {file : Nat} (hpast : before ≤ s.clock)
    (hsince : ∀ raw ∈ s.waiting file, before ≤ raw.timeUs) :
    ∀ raw ∈ t.waiting file, before ≤ raw.timeUs := by
  obtain ⟨more, hmore, hnow⟩ := h.arrived file
  intro raw hraw
  rw [State.waiting, h.buffered, hmore, ← List.append_assoc, List.flatMap_append] at hraw
  rcases List.mem_append.mp hraw with hraw | hraw
  · exact hsince raw hraw
  · exact UInt64.le_trans hpast (hnow raw hraw)

theorem Left.empty (h : Left s t) (hs : Empty s) : Empty t := by
  refine ⟨h.emptied hs.1, ?_⟩
  rw [h.devices, h.buffered]
  exact hs.2

theorem Reading.stable : contract.Stable .reader (Reading before i pending) := by
  intro s t hrely hinv h
  have hleft := hrely h.thread
  refine ⟨Awake.stable s t hrely hinv h.toAwake, hleft.locked.trans h.locked, ?_, ?_, ?_, ?_, ?_⟩
  · rw [hleft.watermark]
    exact h.above
  · exact UInt64.le_trans h.past hleft.clock
  · rw [hleft.devices]
    exact h.fits
  · rw [hleft.devices]
    exact fun d hd => hleft.since h.past (h.drained d hd)
  · rw [hleft.devices, hleft.buffered]
    exact h.emptied

theorem Calm.stable : contract.Stable .reader fun s => Awake s ∧ Calm queued s := by
  intro s t hrely hinv ⟨hawake, hcalm⟩
  have hleft := hrely hawake.thread
  exact ⟨Awake.stable s t hrely hinv hawake, hleft.empty ∘ hcalm⟩

/-- Reading one device leaves those behind it alone. -/
theorem Reading.read (h : Reading before (i + 1) pending s) (hinv : Sound s)
    (hi : s.devices[i]? = some d) (hread : ReadFrom d.file s t) :
    Reading before (i + 1) pending t := by
  have hother : ∀ e ∈ s.devices.drop (i + 1), e.file ≠ d.file := by
    obtain ⟨hlt, hget⟩ := List.getElem?_eq_some_iff.mp hi
    have hsplit : s.devices.drop i = d :: s.devices.drop (i + 1) := by
      rw [← hget]
      exact List.drop_eq_getElem_cons hlt
    have hdistinct : ((s.devices.drop i).map Device.file).Nodup :=
      hinv.table.distinct.sublist ((List.drop_sublist _ _).map _)
    rw [hsplit, List.map_cons, List.nodup_cons] at hdistinct
    exact fun e he heq => hdistinct.1 (List.mem_map.mpr ⟨e, he, heq⟩)
  refine ⟨hread.awake h.toAwake, hread.locked.trans h.locked, ?_, ?_, ?_, ?_, ?_⟩
  · rw [hread.watermark]
    exact h.above
  · rw [hread.clock]
    exact h.past
  · rw [hread.devices]
    exact h.fits
  · intro e he
    rw [hread.devices] at he
    rw [hread.waiting (hother e he)]
    exact h.drained e he
  · intro hpending e he
    rw [hread.devices] at he
    rw [hread.buffered e.file (hother e he)]
    exact h.emptied hpending e he

end Stable

/-! ## Draining a device -/

section Drain

variable {s : State} {before : UInt64} {i : Nat} {pending : Bool}

/-- What draining a device came to. -/
def Drained (before : UInt64) (i : Nat) (r : Drain) (s : State) : Prop :=
  r.remove = false → ∀ d, s.devices[i]? = some d →
    (∀ raw ∈ s.waiting d.file, before ≤ raw.timeUs) ∧
      (r.pending = false → s.buffered d.file = [])

theorem Reading.lt (h : Reading before (i + 1) pending s) :
    ∃ d, s.devices[i]? = some d := by
  have hlt : i < s.devices.length := h.fits
  exact ⟨s.devices[i], List.getElem?_eq_getElem hlt⟩

theorem Reading.guar {t : State} (h : Reading before (i + 1) pending s) {d : Device}
    (hread : ReadFrom d.file s t) : contract.guar .reader s t :=
  Beside.of_running h.thread (.inl (hread.thread.trans h.thread)) hread.started

theorem evdevDrainSync_safe (r : Drain) (h : Reading before (i + 1) pending s) :
    contract.Safe .reader (evdevDrainSync i r) (fun _ => Reading before (i + 1) pending) s := by
  refine ⟨fun _ => Reading before (i + 1) pending, fun _ => Reading.stable, h, ?_⟩
  intro r s _ hs
  apply Safe.bind
  apply Safe.act
  intro t hrely hinv a
  have ht := Reading.stable s t hrely hinv hs
  obtain ⟨d, hi⟩ := ht.lt
  obtain ⟨hsound, hread⟩ := nextSync_spec hinv ht.toAwake hi a
  refine ⟨hsound, ht.guar hread, ?_⟩
  have hnext := ht.read hinv hi hread
  cases (t.nextSync i a).1 with
  | success pushed timeUs => exact hnext
  | sync => exact hnext
  | again => exact hnext
  | failed => exact hnext

theorem evdevDrainDevice_safe (h : Reading before (i + 1) pending s) :
    contract.Safe .reader (evdevDrainDevice i before)
      (fun r t => Reading before (i + 1) pending t ∧ Drained before i r t) s := by
  refine ⟨fun _ => Reading before (i + 1) pending, fun _ => Reading.stable, h, ?_⟩
  intro r s _ hs
  apply Safe.bind
  apply Safe.act
  intro t hrely hinv a
  have ht := Reading.stable s t hrely hinv hs
  obtain ⟨d, hi⟩ := ht.lt
  obtain ⟨hsound, hread, htells⟩ := nextEvent_spec hinv ht.toAwake hi a
  refine ⟨hsound, ht.guar hread, ?_⟩
  have hnext := ht.read hinv hi hread
  have hsame : ∀ e, (t.nextEvent i a).2.devices[i]? = some e → e = d := by
    intro e he
    rw [hread.devices, hi] at he
    exact (Option.some.inj he).symm
  cases hcase : (t.nextEvent i a).1 with
  | success pushed timeUs =>
    rw [hcase] at htells
    dsimp only
    split
    · -- an event that is not older than the sweep ends it, and leaves none that is
      rename_i hnew
      refine ⟨hnext, fun _ e he => ?_⟩
      obtain rfl := hsame e he
      exact ⟨fun raw hraw => UInt64.le_trans hnew (htells raw hraw), nofun⟩
    · exact hnext
  | sync =>
    refine Safe.seq (evdevDrainSync_safe r hnext) ?_
    intro r u hu
    dsimp only
    split
    · rename_i hremove
      exact ⟨hu, fun hkept => nomatch hremove.symm.trans hkept⟩
    · exact hu
  | again =>
    rw [hcase] at htells
    refine ⟨hnext, fun _ e he => ?_⟩
    obtain rfl := hsame e he
    rw [htells.2]
    exact ⟨nofun, fun _ => htells.1⟩
  | failed => exact ⟨hnext, nofun⟩

end Drain

/-! ## Sweeps -/

section Sweeps

variable {s : State} {before : UInt64} {i : Nat} {queued : Bool}

theorem Reading.next {pending : Bool} {r : Drain} (h : Reading before (i + 1) pending s)
    (hdrained : Drained before i r s) (hremove : r.remove = false) :
    Reading before i (r.pending || pending) s := by
  obtain ⟨d, hi⟩ := h.lt
  obtain ⟨hsince, hbuffered⟩ := hdrained hremove d hi
  have hsplit : ∀ e ∈ s.devices.drop i, e = d ∨ e ∈ s.devices.drop (i + 1) := by
    obtain ⟨hlt, hget⟩ := List.getElem?_eq_some_iff.mp hi
    rw [List.drop_eq_getElem_cons hlt, hget]
    exact fun e he => List.mem_cons.mp he
  refine { h with fits := ?_, drained := ?_, emptied := ?_ }
  · have hfits := h.fits
    omega
  · intro e he
    rcases hsplit e he with rfl | he
    · exact hsince
    · exact h.drained e he
  · intro hpending e he
    obtain ⟨hnone, hpending⟩ := Bool.or_eq_false_iff.mp hpending
    rcases hsplit e he with rfl | he
    · exact hbuffered hnone
    · exact h.emptied hpending e he

/-- A device that is removed is no longer to be read. -/
theorem Reading.remove {pending more : Bool} (h : Reading before (i + 1) pending s)
    (hinv : Sound s) : Reading before i (more || pending) (s.removeDevice i) := by
  obtain ⟨d, hi⟩ := h.lt
  obtain ⟨hlt, hget⟩ := List.getElem?_eq_some_iff.mp hi
  have hsplit : s.devices = s.devices.take i ++ d :: s.devices.drop (i + 1) := by
    rw [← hget, ← List.drop_eq_getElem_cons hlt, List.take_append_drop]
  have htable : Table (s.call .reset).files (s.call .reset).grabs (s.call .reset).opened
      (s.devices.take i ++ d :: s.devices.drop (i + 1)) := hsplit ▸ hinv.table
  have hdrop : (s.devices.eraseIdx i).drop i = s.devices.drop (i + 1) := by
    rw [List.eraseIdx_eq_take_drop_succ, List.drop_append_of_le_length
      (by rw [List.length_take]; omega), List.drop_eq_nil_of_le (by rw [List.length_take]; omega)]
    rfl
  simp only [State.removeDevice, hi, (Table.close _ htable).1, State.updateActiveFlags]
  refine ⟨⟨h.thread, h.waits⟩, h.locked, h.above, h.past, ?_, ?_, ?_⟩
  · dsimp only
    rw [List.length_eraseIdx_of_lt hlt]
    omega
  · intro e he
    exact h.drained e (hdrop ▸ he)
  · intro hpending e he
    exact h.emptied (Bool.or_eq_false_iff.mp hpending).2 e (hdrop ▸ he)

theorem sweepDevices_safe (errors : Nat → Bool) (r : Swept) (h : Reading before i r.pending s) :
    contract.Safe .reader (sweepDevices before errors i r)
      (fun r => Reading before 0 r.pending) s := by
  induction i generalizing r s with
  | zero => exact h
  | succ i ih =>
    refine Safe.seq (evdevDrainDevice_safe h) ?_
    rintro drain t ⟨ht, hdrained⟩
    dsimp only
    split
    · apply Safe.bind
      apply Safe.store
      intro u hrely hinv
      have hu := Reading.stable t u hrely hinv ht
      have hnext : Reading before i (drain.pending || r.pending) (u.removeDevice i) := hu.remove hinv
      refine ⟨hinv.removeDevice hu.waits i, ?_, ih _ hnext⟩
      obtain ⟨d, hi⟩ := hu.lt
      refine Beside.of_running hu.thread (.inl hnext.thread) ?_
      simp only [State.removeDevice, hi, State.closeDevice, State.ungrab]
      split
      · rfl
      · rfl
    · rename_i hgood
      have hremove : drain.remove = false := by
        simp only [Bool.or_eq_true, not_or, Bool.not_eq_true] at hgood
        exact hgood.1
      exact ih _ (ht.next hdrained hremove)

end Sweeps

/-! ## The thread of the reader -/

section Reader

variable {s : State} {queued : Bool}

theorem addDevice_frame (found : Found) (s : State) :
    (s.addDevice found).started = s.started ∧ (s.addDevice found).thread = s.thread ∧
      (s.addDevice found).waits = s.waits ∧ (s.addDevice found).queue = s.queue ∧
      (s.addDevice found).buffered = s.buffered := by
  simp only [State.addDevice]
  split
  · exact ⟨rfl, rfl, rfl, rfl, rfl⟩
  split
  · exact ⟨rfl, rfl, rfl, rfl, rfl⟩
  simp only [State.adopt]
  repeat' split
  all_goals exact ⟨rfl, rfl, rfl, rfl, rfl⟩

/-- A new device is one of the table's or has a file that was never read. -/
theorem addDevice_devices (found : Found) (s : State) {d : Device}
    (hd : d ∈ (s.addDevice found).devices) : d ∈ s.devices ∨ d.file = s.opened := by
  simp only [State.addDevice] at hd
  split at hd
  · exact .inl hd
  split at hd
  · exact .inl hd
  simp only [State.adopt] at hd
  repeat' split at hd
  · exact .inl hd
  · exact .inl hd
  · exact .inl hd
  · exact .inl hd
  · rcases List.mem_append.mp hd with hd | hd
    · exact .inl hd
    · rw [List.mem_singleton.mp hd]
      exact .inr rfl

theorem addDevice_empty {found : Found} (h : Sound s) (hs : Empty s) :
    Empty (s.addDevice found) := by
  obtain ⟨-, -, -, hqueue, hbuffered⟩ := addDevice_frame found s
  refine ⟨hqueue.symm ▸ hs.1, fun d hd => ?_⟩
  rw [hbuffered]
  rcases addDevice_devices found s hd with hold | hnew
  · exact hs.2 d hold
  · exact (h.fresh d.file hnew.ge).buffered

/-- The nodes are visited with an assertion that no other party and no new device breaks. -/
theorem visitNodes_safe {p : Party} {A : State → Prop} (hstable : contract.Stable p A)
    (hadd : ∀ s found, Sound s → A s → Sound (s.addDevice found) ∧
      contract.guar p s (s.addDevice found) ∧ A (s.addDevice found))
    (listing : List Found) (h : A s) :
    contract.Safe p (visitNodes listing) (fun _ => A) s := by
  induction listing generalizing s with
  | nil => exact h
  | cons found listing ih =>
    apply Safe.bind
    apply Safe.act
    intro t hrely hinv _
    obtain ⟨hsound, hguar, hnext⟩ := hadd t found hinv (hstable s t hrely hinv h)
    refine ⟨hsound, hguar, ?_⟩
    dsimp only
    split
    · exact hnext
    · exact ih hnext

theorem visitNodes_calm (listing : List Found) (h : Awake s ∧ Calm queued s) :
    contract.Safe .reader (visitNodes listing) (fun _ s => Awake s ∧ Calm queued s) s := by
  refine visitNodes_safe Calm.stable ?_ listing h
  rintro t found hinv ⟨hawake, hcalm⟩
  obtain ⟨hstarted, hthread, hwaits, -, -⟩ := addDevice_frame found t
  have hnext : Awake (t.addDevice found) :=
    ⟨hthread.trans hawake.thread, hwaits.trans hawake.waits⟩
  exact ⟨hinv.addDevice hawake.waits found, .of_running hawake.thread (.inl hnext.thread) hstarted,
    hnext, addDevice_empty hinv ∘ hcalm⟩

theorem notify_calm (queued : Bool) (h : Awake s ∧ Calm queued s) :
    contract.Safe .reader evdevNotifyMain (fun _ s => Awake s ∧ Calm queued s) s := by
  apply Safe.store
  intro t hrely hinv
  obtain ⟨hawake, hcalm⟩ := Calm.stable s t hrely hinv h
  exact ⟨hinv.aside hinv.parked hinv.begun hinv.idle,
    .of_running hawake.thread (.inl hawake.thread) rfl, ⟨hawake.thread, hawake.waits⟩, hcalm⟩

theorem evdevHandleHotplug_calm (h : Awake s ∧ Calm queued s) :
    contract.Safe .reader evdevHandleHotplug (fun _ s => Awake s ∧ Calm queued s) s := by
  apply Safe.bind
  apply Safe.load
  intro t hrely hinv
  have ht := Calm.stable s t hrely hinv h
  dsimp only
  split
  · apply Safe.bind
    apply Safe.ask
    intro u hrely hinv a
    refine Safe.seq (visitNodes_calm a.listing (Calm.stable t u hrely hinv ht)) ?_
    intro _ v hv
    apply Safe.load
    intro w hrely hinv
    exact Calm.stable v w hrely hinv hv
  · exact ht

theorem endSweep_calm (hotplug : Bool) (r : Swept) (ready : Bool) (h : Awake s ∧ Calm queued s) :
    contract.Safe .reader (endSweep hotplug r ready) (fun _ s => Awake s ∧ Calm queued s) s := by
  have hadded : contract.Safe .reader (if hotplug then evdevHandleHotplug else pure false)
      (fun _ s => Awake s ∧ Calm queued s) s := by
    split
    · exact evdevHandleHotplug_calm h
    · exact h
  refine Safe.seq hadded ?_
  · intro added t ht
    split
    · exact notify_calm _ ht
    · exact ht

theorem sweep_calm (hotplug : Bool) (errors : Nat → Bool) (h : Awake s) :
    contract.Safe .reader (sweep hotplug errors) (fun queued s => Awake s ∧ Calm queued s) s := by
  apply Safe.bind
  apply Safe.load
  intro t hrely hinv
  have ht := Awake.stable s t hrely hinv h
  have hmark := hinv.watermark
  apply Safe.bind
  apply Safe.act
  intro u hrely hinv _
  have hu := Awake.stable t u hrely hinv ht
  have hleft := hrely ht.thread
  refine ⟨hinv.aside hinv.parked hinv.begun hinv.idle,
    .of_running hu.thread (.inl hu.thread) rfl, ?_⟩
  have hstart : Reading t.clock u.devices.length false u.lockDevices.2 := by
    refine ⟨⟨hu.thread, hu.waits⟩, rfl, ?_, hleft.clock, Nat.le_refl _, ?_, ?_⟩
    · exact hleft.watermark ▸ hmark
    · intro d hd
      exact absurd (List.drop_length ▸ hd : d ∈ []) List.not_mem_nil
    · intro _ d hd
      exact absurd (List.drop_length ▸ hd : d ∈ []) List.not_mem_nil
  refine Safe.seq (sweepDevices_safe errors {} hstart) ?_
  intro r v hv
  apply Safe.bind
  apply Safe.act
  intro w hrely hinv _
  have hw := Reading.stable v w hrely hinv hv
  refine ⟨hinv.publish hw.above hw.past hw.toAwake hw.drained r.pending,
    .of_running hw.thread (.inl hw.thread) rfl, ?_⟩
  have hcalm : Awake (w.publish t.clock r.pending).2 ∧
      Calm (w.publish t.clock r.pending).1.1 (w.publish t.clock r.pending).2 := by
    refine ⟨⟨hw.thread, hw.waits⟩, fun hqueued => ?_⟩
    obtain ⟨hpending, hcount⟩ := Bool.or_eq_false_iff.mp hqueued
    exact ⟨of_not_not (of_decide_eq_false hcount), hw.emptied hpending⟩
  refine Safe.seq (endSweep_calm hotplug r _ hcalm) ?_
  intro _ x hx
  exact hx

theorem giveUp_safe (h : Awake s) : contract.Safe .reader giveUp (fun _ => Awake) s := by
  apply Safe.bind
  apply Safe.store
  intro t hrely hinv
  have ht := Awake.stable s t hrely hinv h
  obtain ⟨files, grabs, hclosed, -⟩ := hinv.reset.table.release
  have hreleased := hinv.reset.releaseDevices ht.waits
  have hnext : Awake (t.call .reset).releaseDevices ∧
      (t.call .reset).releaseDevices.started = t.started := by
    simp only [State.releaseDevices, State.updateActiveFlags, hclosed]
    exact ⟨⟨ht.thread, ht.waits⟩, rfl⟩
  refine ⟨hreleased, .of_running ht.thread (.inl hnext.1.thread) hnext.2, ?_⟩
  have hcalm : Calm true (t.call .reset).releaseDevices := by
    intro hqueued
    cases hqueued
  refine Safe.seq (notify_calm true ⟨hnext.1, hcalm⟩) ?_
  rintro _ u ⟨hu, -⟩
  apply Safe.store
  intro v hrely hinv
  have hv := Awake.stable u v hrely hinv hu
  exact ⟨hinv.aside hinv.parked hinv.begun hinv.idle, .of_running hv.thread (.inl hv.thread) rfl,
    hv.thread, hv.waits⟩

/-- The reader in `poll`. -/
structure Polling (queued : Bool) (s : State) : Prop where
  thread : s.thread = .running
  waits : s.waits = some queued
  calm : Calm queued s

theorem Polling.stable : contract.Stable .reader (Polling queued) := by
  intro s t hrely _ h
  have hleft := hrely h.thread
  exact ⟨hleft.thread.trans h.thread, hleft.waits.trans h.waits, hleft.empty ∘ h.calm⟩

theorem evdevRound_safe (c : Nat × Bool) (h : Awake s ∧ Calm c.2 s) :
    contract.Safe .reader (evdevRound c) (fun x s => Sum.elim (fun c => Awake s ∧ Calm c.2 s)
      (fun _ => Awake s) x) s := by
  apply Safe.bind
  apply Safe.load
  intro t hrely hinv
  have ht := Calm.stable s t hrely hinv h
  split
  case isFalse => exact ht.1
  apply Safe.bind
  apply Safe.store
  intro u hrely hinv
  obtain ⟨hu, hcalm⟩ := Calm.stable t u hrely hinv ht
  refine ⟨hinv.aside (fun _ => hu.thread) hinv.begun
      fun hidle => hcalm (Option.some.inj hidle),
    .of_running hu.thread (.inl hu.thread) rfl, ?_⟩
  have hpolling : Polling c.2 { u with waits := some c.2 } := ⟨hu.thread, rfl, hcalm⟩
  apply Safe.bind
  apply Safe.act
  intro v hrely hinv a
  have hv := Polling.stable _ v hrely hinv hpolling
  have hawake : Awake (v.poll a).2 ∧ Calm c.2 (v.poll a).2 := ⟨⟨hv.thread, rfl⟩, hv.calm⟩
  refine ⟨hinv.aside (fun hne => absurd rfl hne) hinv.begun nofun,
    .of_running hv.thread (.inl hv.thread) rfl, ?_⟩
  simp only [State.poll]
  cases a.poll with
  | interrupted => exact hawake
  | failed =>
    dsimp only
    split
    · exact Safe.seq (giveUp_safe hawake.1) fun _ w hw => hw
    · exact hawake
  | ready hotplug errors =>
    dsimp only
    split
    · apply Safe.bind
      apply Safe.store
      intro w hrely hinv
      have hw := Awake.stable _ w hrely hinv hawake.1
      exact ⟨hinv.aside hinv.parked hinv.begun hinv.idle, .of_running hw.thread (.inl hw.thread) rfl,
        hw.thread, hw.waits⟩
    · exact Safe.seq (sweep_calm hotplug errors hawake.1) fun queued w hw => hw

theorem evdevThread_safe (s : State) :
    contract.Safe .reader evdevThread (fun _ => contract.rest .reader) s := by
  apply Safe.bind
  apply Safe.act
  intro t _ hinv _
  by_cases hspawned : t.thread = .spawned
  case neg =>
    rw [State.beginThread, if_neg hspawned]
    exact ⟨hinv, .refl t, trivial⟩
  have hwaits : t.waits = none := by
    by_contra hwaits
    exact absurd (hspawned.symm.trans (hinv.parked hwaits)) (by decide)
  rw [State.beginThread, if_pos hspawned]
  refine ⟨hinv.aside (fun _ => rfl) nofun hinv.idle, ?_, ?_⟩
  · refine ⟨rfl, fun _ => nofun, fun h => ?_⟩
    rw [hspawned] at h
    exact absurd h (by decide)
  have hstart : Awake { t with thread := .running } ∧ Calm false { t with thread := .running } :=
    ⟨⟨rfl, hwaits⟩, fun _ => hinv.begun hspawned⟩
  refine Safe.seq (?_ : contract.Safe .reader _ (fun _ => Awake) _) ?_
  · exact ⟨fun c s => Awake s ∧ Calm c.2 s, fun c => Calm.stable, hstart,
      fun c u _ hu => evdevRound_safe c hu⟩
  · intro _ u hu
    apply Safe.store
    intro v hrely hinv
    have hv := Awake.stable u v hrely hinv hu
    exact ⟨hinv.aside (fun hne => absurd hv.waits hne) nofun hv.not_idle,
      .of_running hv.thread (.inr rfl) rfl, trivial⟩

end Reader

/-! ## The SDL thread -/

section Sdl

variable {s : State}

/-- There is no thread. -/
theorem Sound.not_waiting (h : Sound s) (hthread : s.thread ≠ .running) : s.waits = none := by
  by_contra hwaits
  exact hthread (h.parked hwaits)

/-- The devices are being opened, and there is no thread yet. -/
structure Opening (s : State) : Prop where
  started : s.started = false
  thread : s.thread = .none
  empty : Empty s

theorem Opening.stable : contract.Stable .sdl Opening := by
  intro s t hrely _ h
  have hbeside : Beside s t := hrely
  obtain ⟨hthread, hdevices, hqueue, hbuffered⟩ := hbeside.resting (.inl h.thread)
  refine ⟨hbeside.started.trans h.started, hthread.trans h.thread, ?_⟩
  have hempty := h.empty
  simp only [Empty, hdevices, hqueue, hbuffered] at hempty ⊢
  exact hempty

theorem rest_sdl_stable : contract.Stable .sdl (contract.rest .sdl) :=
  fun s t hrely _ h => contract.rest_stable .sdl s t hrely h

theorem guar_none {t : State} (hthread : s.thread ≠ .running) : contract.guar .sdl s t :=
  fun hrunning => absurd hrunning hthread

theorem none_stable : contract.Stable .sdl fun s => s.thread = .none := by
  intro s t hrely _ hthread
  have hbeside : Beside s t := hrely
  exact (hbeside.resting (.inl hthread)).1.trans hthread

/-- The end of a stop, once there is no thread. -/
theorem closeBackend_safe (h : s.thread = .none) :
    contract.Safe .sdl (Prog.store State.closeBackend : Action Unit)
      (fun _ => contract.rest .sdl) s := by
  apply Safe.store
  intro t hrely hinv
  have hthread : t.thread = .none := none_stable s t hrely hinv h
  have hne : t.thread ≠ .running := by rw [hthread]; decide
  obtain ⟨files, grabs, hclosed, -⟩ := hinv.table.release
  have hreleased := hinv.releaseDevices (hinv.not_waiting hne)
  have hkept : t.releaseDevices.thread = t.thread := by
    simp only [State.releaseDevices, State.updateActiveFlags, hclosed]
  refine ⟨hreleased.aside hreleased.parked hreleased.begun hreleased.idle, guar_none hne,
    fun _ => ⟨hkept.trans hthread, rfl⟩, ?_⟩
  intro hstarted
  cases hstarted

theorem nativeEvdevInputStop_safe (h : contract.rest .sdl s ∨ Opening s) :
    contract.Safe .sdl nativeEvdevInputStop (fun _ => contract.rest .sdl) s := by
  apply Safe.bind
  apply Safe.load
  intro t hrely hinv
  have ht : contract.rest .sdl t ∨ Opening t :=
    h.imp (rest_sdl_stable s t hrely hinv) (Opening.stable s t hrely hinv)
  cases hstarted : t.started with
  | false =>
    apply closeBackend_safe
    rcases ht with ht | ht
    · exact (ht.1 hstarted).1
    · exact ht.thread
  | true =>
    have halive : t.thread ≠ .none := by
      rcases ht with ht | ht
      · exact ht.2 hstarted
      · exact absurd (hstarted.symm.trans ht.started) (by decide)
    have hlive : contract.Stable .sdl fun s => s.thread ≠ .none := by
      intro s t hrely _ hthread
      have hbeside : Beside s t := hrely
      exact hbeside.alive hthread
    apply Safe.bind
    apply Safe.bind
    apply Safe.store
    intro u hrely hinv
    have hu := hlive t u hrely hinv halive
    refine ⟨hinv.aside hinv.parked hinv.begun hinv.idle, fun _ => ?_, ?_⟩
    · exact ⟨⟨UInt64.le_refl _, fun _ => ⟨[], (List.append_nil _).symm, nofun⟩⟩,
        rfl, rfl, rfl, rfl, rfl, rfl, id, fun _ => rfl⟩
    refine Safe.mono (?_ : contract.Safe .sdl join (fun _ s => s.thread = .none) _)
      fun _ v hv => closeBackend_safe hv
    refine ⟨fun _ s => s.thread ≠ .none, fun _ => hlive, hu, ?_⟩
    intro _ v _ hv
    apply Safe.act
    intro w hrely hinv _
    have hw := hlive v w hrely hinv hv
    by_cases hended : w.thread = .ended
    · have hne : w.thread ≠ .running := by rw [hended]; decide
      rw [if_pos hended]
      exact ⟨hinv.aside (fun hwaits => absurd (hinv.not_waiting hne) hwaits) nofun
        (fun hidle => nomatch (hinv.not_waiting hne).symm.trans hidle), guar_none hne, rfl⟩
    · rw [if_neg hended]
      exact ⟨hinv, fun _ => .refl w, hw⟩

theorem startThread_safe (h : Opening s) :
    contract.Safe .sdl startThread (fun _ => contract.rest .sdl) s := by
  apply Safe.bind
  apply Safe.ask
  intro t hrely hinv a
  have ht := Opening.stable s t hrely hinv h
  split
  · apply Safe.store
    intro u hrely hinv
    have hu := Opening.stable t u hrely hinv ht
    have hne : u.thread ≠ .running := by rw [hu.thread]; decide
    have hwaits := hinv.not_waiting hne
    exact ⟨hinv.aside (fun hparked => absurd hwaits hparked) (fun _ => hu.empty) hinv.idle,
      guar_none hne, nofun, fun _ => nofun⟩
  · exact nativeEvdevInputStop_safe (.inr ht)

theorem openBackend_safe (h : Opening s) :
    contract.Safe .sdl openBackend (fun _ => contract.rest .sdl) s := by
  apply Safe.bind
  apply Safe.act
  intro t hrely hinv a
  have ht := Opening.stable s t hrely hinv h
  refine ⟨hinv.aside hinv.parked hinv.begun hinv.idle, guar_none (by rw [ht.thread]; decide), ?_⟩
  have hopening : Opening { t with inotify := a.inotify } := ⟨ht.started, ht.thread, ht.empty⟩
  refine Safe.seq (visitNodes_safe Opening.stable ?_ a.listing hopening) ?_
  · intro u found hinv hu
    obtain ⟨hstarted, hthread, -, -, -⟩ := addDevice_frame found u
    have hne : u.thread ≠ .running := by rw [hu.thread]; decide
    exact ⟨hinv.addDevice (hinv.not_waiting hne) found, guar_none hne,
      hstarted.trans hu.started, hthread.trans hu.thread, addDevice_empty hinv hu.empty⟩
  · intro _ u hu
    apply Safe.bind
    apply Safe.load
    intro v hrely hinv
    have hv := Opening.stable u v hrely hinv hu
    split
    · exact nativeEvdevInputStop_safe (.inr hv)
    · exact startThread_safe hv

theorem nativeEvdevInputStart_safe (h : contract.rest .sdl s) :
    contract.Safe .sdl nativeEvdevInputStart (fun _ => contract.rest .sdl) s := by
  apply Safe.bind
  apply Safe.load
  intro t hrely hinv
  have ht := rest_sdl_stable s t hrely hinv h
  cases hstarted : t.started with
  | true => exact ht
  | false =>
    obtain ⟨hthread, hdevices⟩ := ht.1 hstarted
    apply Safe.bind
    apply Safe.store
    intro u hrely hinv
    have hbeside : Beside t u := hrely
    obtain ⟨hthread', hdevices', -, -⟩ := hbeside.resting (.inl hthread)
    have hopening : Opening u.zeroed := by
      refine ⟨hbeside.started.trans hstarted, hthread'.trans hthread, rfl, ?_⟩
      exact fun d _ => rfl
    refine ⟨hinv.zeroed (hdevices'.trans hdevices), guar_none (by rw [hthread', hthread]; decide),
      ?_⟩
    apply Safe.bind
    apply Safe.ask
    intro v hrely hinv a
    have hv := Opening.stable _ v hrely hinv hopening
    split
    · exact openBackend_safe hv
    · exact nativeEvdevInputStop_safe (.inr hv)

/-- What the SDL thread does with the queue. -/
structure Taken (s t : State) : Prop where
  rest : t = { s with queue := t.queue, calls := t.calls }
  sound : Sound s → Sound t
  watermark : t.queue.publishedBeforeUs = s.queue.publishedBeforeUs
  emptied : s.queue.count = 0 → t.queue.count = 0

theorem Taken.left {t : State} (h : Taken s t) (hlocked : s.locked = false) : Left s t := by
  have hqueue : s.locked = true → t.queue = s.queue := fun h => nomatch hlocked.symm.trans h
  have hrest := h.rest
  refine ⟨⟨?_, ?_⟩, ?_, ?_, ?_, h.watermark, ?_, ?_, h.emptied, hqueue⟩
  all_goals rw [hrest]
  · exact UInt64.le_refl _
  · exact fun _ => ⟨[], (List.append_nil _).symm, nofun⟩

theorem takeReset_taken (s : State) : Taken s (s.call .takeReset) :=
  ⟨rfl, Sound.takeReset, rfl, id⟩

theorem popBatch_taken (kind : NativeEventKind) (cap : Nat) (s : State) :
    Taken s (s.popBatch kind cap) := by
  induction cap generalizing s with
  | zero => exact ⟨rfl, id, rfl, id⟩
  | succ cap ih =>
    have hone : Taken s (s.call (.pop kind)) :=
      ⟨rfl, fun h => h.pop kind, pop_published kind,
        fun h => Nat.le_zero.mp (h ▸ pop_count kind)⟩
    simp only [State.popBatch]
    split
    · have hmore := ih (s.call (.pop kind))
      refine ⟨?_, hmore.sound ∘ hone.sound, hmore.watermark.trans hone.watermark,
        hmore.emptied ∘ hone.emptied⟩
      exact hmore.rest
    · exact hone

theorem underLock_safe {f : State → State} (hf : ∀ s, Taken s (f s))
    (h : contract.rest .sdl s) :
    contract.Safe .sdl (underLock f) (fun _ => contract.rest .sdl) s := by
  apply Safe.bind
  apply Safe.load
  intro t hrely hinv
  have ht := rest_sdl_stable s t hrely hinv h
  split
  case isFalse => exact ht
  refine ⟨fun _ => contract.rest .sdl, fun _ => rest_sdl_stable, ht, ?_⟩
  intro _ u _ hu
  apply Safe.act
  intro v hrely hinv _
  have hv := rest_sdl_stable u v hrely hinv hu
  cases hlocked : v.locked with
  | true => exact ⟨hinv, fun _ => .refl v, hv⟩
  | false =>
    have htaken := hf v
    refine ⟨htaken.sound hinv, fun _ => htaken.left hlocked, ?_⟩
    show contract.rest .sdl (f v)
    rw [htaken.rest]
    exact hv

theorem sdlCall_safe (c : SdlCall) (h : contract.rest .sdl s) :
    contract.Safe .sdl (sdlCall c) (fun _ => contract.rest .sdl) s := by
  cases c with
  | start => exact nativeEvdevInputStart_safe h
  | stop => exact nativeEvdevInputStop_safe (.inl h)
  | popBatch kind cap => exact underLock_safe (popBatch_taken kind cap) h
  | takeReset => exact underLock_safe takeReset_taken h
  | clearWake =>
    apply Safe.store
    intro t hrely hinv
    refine ⟨hinv.aside hinv.parked hinv.begun hinv.idle, fun _ => ?_,
      rest_sdl_stable s t hrely hinv h⟩
    exact ⟨⟨UInt64.le_refl _, fun _ => ⟨[], (List.append_nil _).symm, nofun⟩⟩,
      rfl, rfl, rfl, rfl, rfl, rfl, id, fun _ => rfl⟩

end Sdl

/-! ## The results -/

/-- The reader, the kernel and the SDL thread. -/
abbrev evdev : Machine (Config Party Answer State) (Turn Party Answer Call) Unit :=
  parties {} program

variable {tr : List (Turn Party Answer Call × Unit)} {s : Config Party Answer State}

theorem sound_start : Sound {} where
  queue := .refl _
  pushed := rfl
  watermark := UInt64.le_refl _
  room := Nat.zero_le _
  table := Table.nil (fun _ => rfl) fun _ => rfl
  fresh _ _ := ⟨rfl, rfl, rfl, fun _ hx => nomatch hx⟩
  timely _ hd := nomatch hd
  mouse := rfl
  keyboard := rfl
  parked hwaits := absurd rfl hwaits
  begun := nofun
  idle := nofun

theorem kept_run (h : evdev.Run tr s) : contract.Kept s := by
  refine Contract.kept_run sound_start ?_ ?_ h
  · intro p
    cases p with
    | reader => trivial
    | kernel => trivial
    | sdl => exact ⟨fun _ => ⟨rfl, rfl⟩, nofun⟩
  · intro p c t _ hrest
    cases p with
    | reader => exact evdevThread_safe t
    | kernel =>
      apply Safe.store
      intro u _ hinv
      obtain ⟨hsound, hdelivered⟩ := hinv.deliver c
      exact ⟨hsound, hdelivered, trivial⟩
    | sdl => exact sdlCall_safe c hrest

/-- In every run: the reader keeps to what the queue is promised, so that what comes out is in the
order of the times, and since the last discard every event that was accepted came out or is still
there. What is pushed is what was read, each event once, as what its device makes of it, and of a
kind that the SDL thread takes; and what was read from a device and what waits there is what the
kernel delivered, in order. The reader waits without a time limit only if the queue is empty and
nothing was fetched. -/
theorem events_in_order (h : evdev.Run tr s) :
    (eventQueue.restrict Disciplined).Run s.shared.calls s.shared.queue ∧
      Stable.Ordered NativeEvent.time (QueueRecord.delivered s.shared.calls) ∧
      (∀ time, Stable.classOf NativeEvent.time time
          (QueueRecord.accepted (QueueRecord.sinceDiscard s.shared.calls)) =
        Stable.classOf NativeEvent.time time
            (QueueRecord.delivered (QueueRecord.sinceDiscard s.shared.calls)) ++
          Stable.classOf NativeEvent.time time s.shared.queue.contents) ∧
      pushes s.shared.calls = s.shared.handed.filterMap (fun x => evdevDispatch x.1 x.2) ∧
      (∀ event ∈ pushes s.shared.calls, event.kind = .mouse ∨ event.kind = .keyboard) ∧
      (∀ d ∈ s.shared.devices,
        s.shared.handedOf d.file ++ s.shared.waiting d.file = s.shared.emitted d.file) ∧
      (s.shared.waits = some false → Empty s.shared) := by
  have hsound : Sound s.shared := (kept_run h).inv
  have hledger := Input.event_queue_ledger hsound.queue
  refine ⟨hsound.queue, (List.pairwise_append.mp hledger.ordered).1, hledger.exact, hsound.pushed,
    ?_, fun d hd => (hsound.timely d hd).complete, hsound.idle⟩
  intro event hevent
  rw [hsound.pushed] at hevent
  obtain ⟨x, -, hdispatch⟩ := List.mem_filterMap.mp hevent
  exact (evdevDispatch_some hdispatch).2

def keyboardNode : Found where
  path := [0x30]
  fd := some 5
  has type code := type == evKey && (code == keyA || code == keyZ || code == keySpace)
  node := 0

def mouseNode : Found where
  path := [0x31]
  fd := some 6
  has type code := (type == evKey && code == btnMouse) || type == evRel
  node := 1

def openTurns : List (Turn Party Answer Call) :=
  let a : Answer := { listing := [keyboardNode, mouseNode] }
  [.call .sdl .start] ++ List.replicate 10 (.step .sdl a) ++ [.call .reader ()] ++
    List.replicate 5 (.step .reader {})

def deliverTurns (delivery : Delivery) : List (Turn Party Answer Call) :=
  [.call .kernel delivery, .step .kernel {}, .step .kernel {}]

/-- A key is pressed before the wheel turns, and the mouse is read before the keyboard. -/
def crossedTurns : List (Turn Party Answer Call) :=
  openTurns ++ deliverTurns (.time 10) ++ deliverTurns (.event 0 evKey 29 1) ++
    deliverTurns (.time 20) ++ deliverTurns (.event 1 evRel relWheel 1) ++
    deliverTurns (.time 30) ++ List.replicate 11 (.step .reader {}) ++
    [.call .sdl (.popBatch .keyboard 8)] ++ List.replicate 4 (.step .sdl {}) ++
    [.call .sdl (.popBatch .mouse 8)] ++ List.replicate 4 (.step .sdl {})

/-- The key comes out first. -/
theorem events_in_order_crossed :
    ∃ tr s, evdev.Run tr s ∧
      s.shared.handed.map (fun x => x.2.timeUs) = [20, 10] ∧
      (QueueRecord.delivered s.shared.calls).map (fun e => e.timeUs) = [10, 20] ∧
      Stable.Ordered NativeEvent.time (QueueRecord.delivered s.shared.calls) := by
  have hrun := Machine.run_of_exec (M := evdev) crossedTurns (by decide +kernel)
  exact ⟨_, _, hrun, by decide +kernel, by decide +kernel, (events_in_order hrun).2.1⟩

theorem Holds.injective {files : Nat → Option Nat} {key : Device → Nat} {devices : List Device}
    (h : Holds files key devices) (hdistinct : (devices.map Device.file).Nodup) :
    (devices.map key).Nodup := by
  refine (List.nodup_map_iff_inj_on (List.Nodup.of_map _ hdistinct)).mpr ?_
  intro d hd e he hkey
  have hfile : d.file = e.file := by
    have hd' := (h (key d) d.file).mpr ⟨d, hd, rfl, rfl⟩
    have he' := (h (key e) e.file).mpr ⟨e, he, rfl, rfl⟩
    rw [hkey, he'] at hd'
    exact (Option.some.inj hd').symm
  exact List.inj_on_of_nodup_map hdistinct hd he hfile

/-- In every run, exactly the devices of the table are open and grabbed: no descriptor leaks and
none is closed under a device, no two devices share a descriptor or a node, and there are no more
than there is room for. The flags say whether there is a mouse or a keyboard among them. Before a
start and after a stop nothing is open or grabbed, and there is no thread. -/
theorem devices_held (h : evdev.Run tr s) :
    (∀ fd file, s.shared.files fd = some file ↔
        ∃ d ∈ s.shared.devices, d.fd = fd ∧ d.file = file) ∧
      (∀ node file, s.shared.grabs node = some file ↔
        ∃ d ∈ s.shared.devices, d.node = node ∧ d.file = file) ∧
      (s.shared.devices.map Device.fd).Nodup ∧ (s.shared.devices.map Device.node).Nodup ∧
      s.shared.devices.length ≤ maxDevices ∧
      s.shared.mouseActive = s.shared.devices.any Device.isMouse ∧
      s.shared.keyboardActive = s.shared.devices.any Device.isKeyboard ∧
      (s.running .sdl = none → s.shared.started = false →
        s.shared.thread = .none ∧ (∀ fd, s.shared.files fd = none) ∧
          ∀ node, s.shared.grabs node = none) := by
  have hkept := kept_run h
  have hsound : Sound s.shared := hkept.inv
  have htable := hsound.table
  refine ⟨htable.files, htable.grabs, htable.files.injective htable.distinct,
    htable.grabs.injective htable.distinct, hsound.room, hsound.mouse, hsound.keyboard, ?_⟩
  intro hrest hstarted
  have hstanding : contract.Standing .sdl (s.running .sdl) s.shared := hkept.standing .sdl
  rw [hrest] at hstanding
  obtain ⟨hthread, hdevices⟩ := hstanding.1 hstarted
  rw [hdevices] at htable
  have hnone : ∀ files : Nat → Option Nat, (∃ key, Holds files key []) → ∀ k, files k = none := by
    rintro files ⟨key, hholds⟩ k
    cases hk : files k with
    | none => rfl
    | some file =>
      obtain ⟨d, hd, -⟩ := (hholds k file).mp hk
      exact nomatch hd
  exact ⟨hthread, hnone _ ⟨_, htable.files⟩, hnone _ ⟨_, htable.grabs⟩⟩

/-- The mouse is unplugged while it is read. -/
def unpluggedTurns : List (Turn Party Answer Call) :=
  openTurns ++ List.replicate 4 (.step .reader { gone := true }) ++
    List.replicate 12 (.step .reader {})

theorem devices_held_unplugged :
    ∃ tr s, evdev.Run tr s ∧ s.shared.devices.map Device.fd = [5] ∧ s.shared.files 6 = none ∧
      s.shared.mouseActive = s.shared.devices.any Device.isMouse := by
  have hrun := Machine.run_of_exec (M := evdev) unpluggedTurns (by decide +kernel)
  exact ⟨_, _, hrun, by decide +kernel, by decide +kernel, (devices_held hrun).2.2.2.2.2.1⟩

end Lgnome.Evdev
