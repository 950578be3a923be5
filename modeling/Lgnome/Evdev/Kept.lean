import Mathlib.Data.List.Nodup
import Lgnome.Evdev.Contract

/-!
# What each step keeps

The lemmas follow the actions: the table of devices first, then what arrives and what is read, and
last the calls on the queue.
-/
namespace Lgnome.Evdev

open Lgnome.Input (NativeEvent NativeEventQueue QueueOp QueueRecord eventQueue Disciplined)
open Lgnome.Transition (Machine)

variable {s : State} {d : Device} {found : Found} {raw : RawEvent}

/-! ## The table -/

section Tables

variable {files grabs : Nat → Option Nat} {key : Device → Nat} {opened fd : Nat}
  {devices before after : List Device}

theorem Holds.admitDevice (h : Holds files key devices) (hfree : files (key d) = none) :
    Holds (Function.update files (key d) (some d.file)) key (devices ++ [d]) := by
  intro k file
  by_cases hcase : k = key d
  · subst hcase
    rw [Function.update_self]
    constructor
    · intro hsome
      exact ⟨d, by simp, rfl, Option.some.inj hsome⟩
    · rintro ⟨e, he, hkey, rfl⟩
      rcases List.mem_append.mp he with he | he
      · have hown := (h (key e) e.file).mpr ⟨e, he, rfl, rfl⟩
        rw [hkey, hfree] at hown
        cases hown
      · rw [List.mem_singleton.mp he]
  · rw [Function.update_of_ne hcase, h]
    constructor
    · rintro ⟨e, he, hkey, hfile⟩
      exact ⟨e, List.mem_append_left _ he, hkey, hfile⟩
    · rintro ⟨e, he, hkey, hfile⟩
      rcases List.mem_append.mp he with he | he
      · exact ⟨e, he, hkey, hfile⟩
      · rw [List.mem_singleton.mp he] at hkey
        exact absurd hkey.symm hcase

theorem Holds.close (h : Holds files key (before ++ d :: after))
    (hother : ∀ e ∈ before ++ after, e.file ≠ d.file) :
    Holds (Function.update files (key d) none) key (before ++ after) := by
  have hsplit : ∀ e, e ∈ before ++ d :: after ↔ e = d ∨ e ∈ before ++ after := by
    intro e
    simp only [List.mem_append, List.mem_cons]
    tauto
  have hopen : files (key d) = some d.file := (h _ _).mpr ⟨d, (hsplit d).mpr (.inl rfl), rfl, rfl⟩
  intro k file
  by_cases hcase : k = key d
  · subst hcase
    rw [Function.update_self]
    refine ⟨nofun, ?_⟩
    rintro ⟨e, he, hkey, rfl⟩
    have hown := (h (key e) e.file).mpr ⟨e, (hsplit e).mpr (.inr he), rfl, rfl⟩
    rw [hkey, hopen] at hown
    exact absurd (Option.some.inj hown).symm (hother e he)
  · rw [Function.update_of_ne hcase, h]
    constructor
    · rintro ⟨e, he, rfl, hfile⟩
      rcases (hsplit e).mp he with rfl | he
      · exact absurd rfl hcase
      · exact ⟨e, he, rfl, hfile⟩
    · rintro ⟨e, he, hkey, hfile⟩
      exact ⟨e, (hsplit e).mpr (.inr he), hkey, hfile⟩

theorem Table.nil (h : ∀ fd, files fd = none) (h' : ∀ node, grabs node = none) :
    Table files grabs opened [] where
  files fd file := by simp [h fd]
  grabs node file := by simp [h' node]
  distinct := List.nodup_nil
  known := fun _ h => nomatch h

/-- A file that is opened and closed again leaves the table as it was. -/
theorem Table.skip (h : Table files grabs opened devices) (hfd : files fd = none) :
    Table (Function.update (Function.update files fd (some opened)) fd none) grabs (opened + 1)
      devices where
  files := by
    rw [Function.update_idem, Function.update_eq_self_iff.mpr hfd.symm]
    exact h.files
  grabs := h.grabs
  distinct := h.distinct
  known e he := by
    have hlt := h.known e he
    omega

/-- A new file is not one of the table's. -/
theorem Table.admitDevice (h : Table files grabs d.file devices) (hfd : files d.fd = none)
    (hnode : grabs d.node = none) :
    Table (Function.update files d.fd (some d.file)) (Function.update grabs d.node (some d.file))
      (d.file + 1) (devices ++ [d]) where
  files := h.files.admitDevice hfd
  grabs := h.grabs.admitDevice hnode
  distinct := by
    rw [List.map_append, List.nodup_append]
    refine ⟨h.distinct, by simp, ?_⟩
    intro a ha b hb
    obtain ⟨e, he, rfl⟩ := List.mem_map.mp ha
    obtain rfl : b = d.file := by simpa using hb
    have hlt := h.known e he
    omega
  known e he := by
    rcases List.mem_append.mp he with he | he
    · have hlt := h.known e he
      omega
    · rw [List.mem_singleton.mp he]
      omega

/-- A device that is closed takes its file and its grab with it, and nothing else. -/
theorem Table.close (before : List Device)
    (h : Table s.files s.grabs s.opened (before ++ d :: after)) :
    s.closeDevice d = { s with
        grabs := Function.update s.grabs d.node none
        files := Function.update s.files d.fd none } ∧
      Table (Function.update s.files d.fd none) (Function.update s.grabs d.node none) s.opened
        (before ++ after) := by
  have hgrab : s.grabs d.node = some d.file := (h.grabs _ _).mpr ⟨d, by simp, rfl, rfl⟩
  have hdistinct := h.distinct
  rw [List.map_append, List.map_cons, List.nodup_middle, List.nodup_cons, ← List.map_append]
    at hdistinct
  have hother : ∀ e ∈ before ++ after, e.file ≠ d.file :=
    fun e he heq => hdistinct.1 (List.mem_map.mpr ⟨e, he, heq⟩)
  refine ⟨?_, h.files.close hother, h.grabs.close hother, hdistinct.2, ?_⟩
  · simp only [State.closeDevice, State.ungrab, if_pos hgrab, State.closeFile]
  · intro e he
    apply h.known e
    simp only [List.mem_append, List.mem_cons] at he ⊢
    tauto

end Tables

/-- Giving back all devices closes all files. -/
theorem Table.release {devices : List Device}
    (h : Table s.files s.grabs s.opened devices) :
    ∃ files grabs, devices.foldl State.closeDevice s = { s with files, grabs } ∧
      Table files grabs s.opened [] := by
  induction devices generalizing s with
  | nil => exact ⟨s.files, s.grabs, rfl, h⟩
  | cons d devices ih =>
    obtain ⟨hclose, htable⟩ := Table.close [] h
    rw [List.foldl_cons, hclose]
    exact ih htable

/-! ## Arrivals -/

section Arrivals

variable {file : Nat} {item : Item}

theorem waiting_arrive (hopen : file < s.opened) (other : Nat) :
    (s.arrive file item).waiting other =
      if other = file then s.waiting file ++ item.raws else s.waiting other := by
  simp only [State.waiting, State.arrive, if_pos hopen]
  by_cases hcase : other = file
  · subst hcase
    rw [if_pos rfl, Function.update_self, ← List.append_assoc, List.flatMap_append]
    simp
  · rw [if_neg hcase, Function.update_of_ne hcase]

theorem Timely.arrive (h : Timely s d.file) (hopen : file < s.opened)
    (hmark : s.queue.publishedBeforeUs ≤ s.clock) (hnow : ∀ raw ∈ item.raws, raw.timeUs = s.clock) :
    Timely (s.arrive file item) d.file := by
  have hstate : s.arrive file item = { s with
      kernel := Function.update s.kernel file (s.kernel file ++ [item])
      emitted := Function.update s.emitted file (s.emitted file ++ item.raws) } := if_pos hopen
  by_cases hcase : d.file = file
  · have hwaits : (s.arrive file item).waiting d.file = s.waiting d.file ++ item.raws := by
      rw [waiting_arrive hopen, if_pos hcase, hcase]
    refine ⟨?_, ?_, ?_, ?_⟩
    · rw [hwaits]
      refine List.pairwise_append.mpr ⟨h.sorted, ?_, ?_⟩
      · refine List.Pairwise.imp_of_mem (R := fun _ _ => True) ?_ (List.pairwise_of_forall (by simp))
        intro a b ha hb _
        rw [hnow a ha, hnow b hb]
        exact UInt64.le_refl _
      · intro a ha b hb
        rw [hnow b hb]
        exact h.past a ha
    · rw [hwaits, hstate]
      intro raw hraw
      rcases List.mem_append.mp hraw with hraw | hraw
      · exact h.since raw hraw
      · rw [hnow raw hraw]
        exact hmark
    · rw [hwaits, hstate]
      intro raw hraw
      rcases List.mem_append.mp hraw with hraw | hraw
      · exact h.past raw hraw
      · rw [hnow raw hraw]
        exact UInt64.le_refl _
    · rw [hwaits, hstate]
      have hcomplete := h.complete
      simp only [State.handedOf, ← hcase, Function.update_self, ← hcomplete] at hcomplete ⊢
      rw [List.append_assoc]
  · have hwaits : (s.arrive file item).waiting d.file = s.waiting d.file := by
      rw [waiting_arrive hopen, if_neg hcase]
    refine ⟨?_, ?_, ?_, ?_⟩
    · rw [hwaits]
      exact h.sorted
    · rw [hwaits, hstate]
      exact h.since
    · rw [hwaits, hstate]
      exact h.past
    · rw [hwaits, hstate]
      simp only [State.handedOf, Function.update_of_ne hcase]
      exact h.complete

theorem Sound.arrive (h : Sound s) (hnow : ∀ raw ∈ item.raws, raw.timeUs = s.clock) :
    Sound (s.arrive file item) ∧ Delivered s (s.arrive file item) := by
  by_cases hopen : file < s.opened
  case neg =>
    have hstate : s.arrive file item = s := if_neg hopen
    rw [hstate]
    exact ⟨h, .refl s⟩
  have hstate : s.arrive file item = { s with
      kernel := Function.update s.kernel file (s.kernel file ++ [item])
      emitted := Function.update s.emitted file (s.emitted file ++ item.raws) } := if_pos hopen
  constructor
  · have htimely : ∀ d ∈ s.devices, Timely (s.arrive file item) d.file :=
      fun d hd => (h.timely d hd).arrive hopen h.watermark hnow
    rw [hstate] at htimely ⊢
    refine { h with timely := htimely, fresh := ?_ }
    intro other hother
    have hne : other ≠ file := by
      have hle : s.opened ≤ other := hother
      omega
    have hold := h.fresh other hother
    refine ⟨hold.buffered, ?_, ?_, hold.handed⟩
    · dsimp only
      rw [Function.update_of_ne hne]
      exact hold.kernel
    · dsimp only
      rw [Function.update_of_ne hne]
      exact hold.emitted
  · rw [hstate]
    refine ⟨⟨UInt64.le_refl _, ?_⟩, rfl⟩
    intro other
    by_cases hcase : other = file
    · subst hcase
      refine ⟨[item], Function.update_self .., ?_⟩
      intro raw hraw
      have hmem : raw ∈ item.raws := by simpa using hraw
      rw [hnow raw hmem]
      exact UInt64.le_refl _
    · refine ⟨[], ?_, fun _ h => nomatch h⟩
      dsimp only
      rw [Function.update_of_ne hcase, List.append_nil]

end Arrivals

theorem Sound.pass (h : Sound s) {now : UInt64} (hle : s.clock ≤ now) :
    Sound { s with clock := now } ∧ Delivered s { s with clock := now } := by
  constructor
  · refine { h with
      watermark := UInt64.le_trans h.watermark hle
      timely := ?_
      fresh := fun file hfile => { h.fresh file hfile with } }
    intro d hd
    exact { h.timely d hd with
      past := fun raw hraw => UInt64.le_trans ((h.timely d hd).past raw hraw) hle }
  · exact ⟨⟨hle, fun _ => ⟨[], (List.append_nil _).symm, fun _ h => nomatch h⟩⟩, rfl⟩

theorem Sound.deliver (h : Sound s) (delivery : Delivery) :
    Sound (s.deliver delivery) ∧ Delivered s (s.deliver delivery) := by
  cases delivery with
  | time now =>
    by_cases hle : s.clock ≤ now
    · rw [State.deliver, if_pos hle]
      exact h.pass hle
    · rw [State.deliver, if_neg hle]
      exact ⟨h, .refl s⟩
  | event file type code value =>
    apply h.arrive
    intro raw hraw
    rw [List.mem_singleton.mp hraw]
  | dropped file changes =>
    apply h.arrive
    intro raw hraw
    obtain ⟨⟨type, code, value⟩, -, rfl⟩ := List.mem_map.mp hraw
    rfl

theorem Awake.not_begun {t : State} (h : Awake s) : s.thread = .spawned → Empty t :=
  fun hspawned => absurd (h.thread.symm.trans hspawned) (by decide)

theorem Awake.not_idle {t : State} (h : Awake s) : s.waits = some false → Empty t :=
  fun hidle => absurd (h.waits.symm.trans hidle) (by decide)

/-- What stands beside the devices and the queue. -/
theorem Sound.aside (h : Sound s) {running started wake stop locked inotify : Bool}
    {thread : Thread} {waits : Option Bool} (hparked : waits ≠ none → thread = .running)
    (hbegun : thread = .spawned → Empty s) (hidle : waits = some false → Empty s) :
    Sound { s with running, started, wake, stop, locked, inotify, thread, waits } :=
  { h with
    fresh := fun file hfile => { h.fresh file hfile with }
    timely := fun d hd => { h.timely d hd with }
    parked := hparked
    begun := hbegun
    idle := hidle }

/-! ## Calls on the queue -/

section Calls

variable {queue : NativeEventQueue} {calls : QueueRecord} {op : QueueOp}

theorem called_run (h : (eventQueue.restrict Disciplined).Run calls queue)
    (hop : Disciplined queue op) :
    (eventQueue.restrict Disciplined).Run (calls ++ [(op, (queue.apply op).2)])
      (queue.apply op).1 :=
  h.snoc (Machine.restrict_step.mpr ⟨hop, rfl⟩)

@[simp] theorem pushes_append (calls calls' : QueueRecord) :
    pushes (calls ++ calls') = pushes calls ++ pushes calls' :=
  List.filterMap_append

theorem push_published (queue : NativeEventQueue) (event : NativeEvent) :
    (queue.push event).publishedBeforeUs = queue.publishedBeforeUs := by
  simp only [NativeEventQueue.push]
  split
  · rfl
  split
  · rfl
  · rfl

theorem pop_published (kind : Input.NativeEventKind) :
    (queue.pop kind).1.publishedBeforeUs = queue.publishedBeforeUs := by
  simp only [NativeEventQueue.pop]
  split
  · rfl
  · rfl

theorem pop_count (kind : Input.NativeEventKind) : (queue.pop kind).1.count ≤ queue.count := by
  simp only [NativeEventQueue.pop]
  split
  · exact Nat.le_refl _
  · exact Nat.sub_le _ _

end Calls

theorem Empty.called (h : Empty s) {op : QueueOp}
    (hcount : (s.queue.apply op).1.count ≤ s.queue.count) : Empty (s.call op) :=
  ⟨Nat.le_zero.mp (hcount.trans h.1.le), h.2⟩

/-- A call that pushes and publishes nothing. -/
theorem Sound.quietCall (h : Sound s) {op : QueueOp} (hop : Disciplined s.queue op)
    (hpush : ∀ seen, pushes [(op, seen)] = [])
    (hmark : (s.queue.apply op).1.publishedBeforeUs = s.queue.publishedBeforeUs)
    (hcount : (s.queue.apply op).1.count ≤ s.queue.count) : Sound (s.call op) where
  queue := called_run h.queue hop
  pushed := by
    show pushes (s.calls ++ [_]) = _
    rw [pushes_append, hpush, List.append_nil]
    exact h.pushed
  watermark := by
    show (s.queue.apply op).1.publishedBeforeUs ≤ _
    rw [hmark]
    exact h.watermark
  room := h.room
  table := h.table
  fresh file hfile := { h.fresh file hfile with }
  timely d hd := { h.timely d hd with
    since := by
      show ∀ raw ∈ _, (s.queue.apply op).1.publishedBeforeUs ≤ _
      rw [hmark]
      exact (h.timely d hd).since }
  mouse := h.mouse
  keyboard := h.keyboard
  parked := h.parked
  begun hspawned := h.begun hspawned |>.called hcount
  idle hidle := h.idle hidle |>.called hcount

theorem Sound.reset (h : Sound s) : Sound (s.call .reset) :=
  h.quietCall trivial (fun _ => rfl) rfl (Nat.zero_le _)

theorem Sound.takeReset (h : Sound s) : Sound (s.call .takeReset) :=
  h.quietCall trivial (fun _ => rfl) rfl (Nat.le_refl _)

theorem Sound.pop (h : Sound s) (kind : Input.NativeEventKind) : Sound (s.call (.pop kind)) :=
  h.quietCall trivial (fun _ => rfl) (pop_published kind) (pop_count kind)

/-! ## Reading a device -/

/-- Only one file was read. -/
structure ReadFrom (file : Nat) (s t : State) : Prop where
  started : t.started = s.started
  thread : t.thread = s.thread
  locked : t.locked = s.locked
  waits : t.waits = s.waits
  clock : t.clock = s.clock
  devices : t.devices = s.devices
  watermark : t.queue.publishedBeforeUs = s.queue.publishedBeforeUs
  buffered : ∀ other, other ≠ file → t.buffered other = s.buffered other
  kernel : ∀ other, other ≠ file → t.kernel other = s.kernel other

theorem ReadFrom.trans {file : Nat} {t u : State} (h : ReadFrom file s t) (h' : ReadFrom file t u) :
    ReadFrom file s u where
  started := h'.started.trans h.started
  thread := h'.thread.trans h.thread
  locked := h'.locked.trans h.locked
  waits := h'.waits.trans h.waits
  clock := h'.clock.trans h.clock
  devices := h'.devices.trans h.devices
  watermark := h'.watermark.trans h.watermark
  buffered other hne := (h'.buffered other hne).trans (h.buffered other hne)
  kernel other hne := (h'.kernel other hne).trans (h.kernel other hne)

theorem ReadFrom.waiting {file other : Nat} {t : State} (h : ReadFrom file s t)
    (hne : other ≠ file) : t.waiting other = s.waiting other := by
  simp only [State.waiting, h.buffered other hne, h.kernel other hne]

theorem ReadFrom.awake {file : Nat} {t : State} (h : ReadFrom file s t) (hs : Awake s) : Awake t :=
  ⟨h.thread.trans hs.thread, h.waits.trans hs.waits⟩

section Files

variable {file n : Nat}

@[simp] theorem waiting_fetch (other : Nat) : (s.fetch file n).waiting other = s.waiting other := by
  simp only [State.waiting, State.fetch]
  by_cases hcase : other = file
  · subst hcase
    rw [Function.update_self, Function.update_self, List.append_assoc, List.take_append_drop]
  · rw [Function.update_of_ne hcase, Function.update_of_ne hcase]

theorem fetch_readFrom (s : State) (file n : Nat) : ReadFrom file s (s.fetch file n) where
  started := rfl
  thread := rfl
  locked := rfl
  waits := rfl
  clock := rfl
  devices := rfl
  watermark := rfl
  buffered _ hne := Function.update_of_ne hne ..
  kernel _ hne := Function.update_of_ne hne ..

/-- What libevdev has taken is still to be read. -/
theorem Sound.fetch (h : Sound s) (hawake : Awake s) (hopen : file < s.opened) (n : Nat) :
    Sound (s.fetch file n) := by
  refine { h with
    fresh := ?_, timely := ?_, begun := hawake.not_begun, idle := hawake.not_idle }
  · intro other hother
    have hold := h.fresh other hother
    have hne : other ≠ file := by
      have hle : s.opened ≤ other := hother
      omega
    have hread := fetch_readFrom s file n
    exact ⟨(hread.buffered other hne).trans hold.buffered, (hread.kernel other hne).trans hold.kernel,
      hold.emitted, hold.handed⟩
  · intro d hd
    obtain ⟨hsorted, hsince, hpast, hcomplete⟩ := h.timely d hd
    refine ⟨?_, ?_, ?_, ?_⟩
    all_goals rw [waiting_fetch]
    · exact hsorted
    · exact hsince
    · exact hpast
    · exact hcomplete

end Files

section Read

variable {items : List Item} {queue : NativeEventQueue} {calls : QueueRecord}

theorem waiting_setBuffered (items : List Item) {file : Nat} (hne : file ≠ d.file) :
    (s.setBuffered d.file items).waiting file = s.waiting file := by
  simp only [State.waiting, State.setBuffered, Function.update_of_ne hne]

theorem waiting_first
    (hitems : (s.buffered d.file).flatMap Item.raws = raw :: items.flatMap Item.raws) :
    s.waiting d.file = raw :: (s.setBuffered d.file items).waiting d.file := by
  simp only [State.waiting, State.setBuffered, Function.update_self, List.flatMap_append, hitems,
    List.cons_append]

/-- What the record of reads tells of a file. -/
theorem handedOf_append (s : State) (d : Device) (raw : RawEvent) (file : Nat) :
    ((s.handed ++ [(d, raw)]).filter fun x => x.1.file = file).map Prod.snd =
      s.handedOf file ++ if file = d.file then [raw] else [] := by
  by_cases hcase : file = d.file
  · simp [State.handedOf, hcase]
  · simp [State.handedOf, hcase, Ne.symm hcase]

/-- The event that a device was read of is recorded, and the queue may have been called. -/
def State.record (d : Device) (raw : RawEvent) (items : List Item) (queue : NativeEventQueue)
    (calls : QueueRecord) (s : State) : State :=
  { s.setBuffered d.file items with queue, calls, handed := s.handed ++ [(d, raw)] }

theorem Timely.record {e : Device} (h : Timely s e.file)
    (hitems : (s.buffered d.file).flatMap Item.raws = raw :: items.flatMap Item.raws)
    (hmark : queue.publishedBeforeUs = s.queue.publishedBeforeUs) :
    Timely (s.record d raw items queue calls) e.file := by
  obtain ⟨hsorted, hsince, hpast, hcomplete⟩ := h
  rw [← hmark] at hsince
  have hhanded : (s.record d raw items queue calls).handedOf e.file = _ :=
    handedOf_append s d raw e.file
  by_cases hcase : e.file = d.file
  · rw [hcase] at hsorted hsince hpast hcomplete hhanded ⊢
    rw [waiting_first hitems] at hsorted hsince hpast hcomplete
    refine ⟨(List.pairwise_cons.mp hsorted).2, ?_, ?_, ?_⟩
    · exact fun later hmem => hsince later (List.mem_cons_of_mem _ hmem)
    · exact fun later hmem => hpast later (List.mem_cons_of_mem _ hmem)
    · rw [hhanded, if_pos rfl, List.append_assoc]
      exact hcomplete
  · have hwaiting : (s.record d raw items queue calls).waiting e.file = s.waiting e.file :=
      waiting_setBuffered items hcase
    rw [if_neg hcase, List.append_nil] at hhanded
    refine ⟨?_, ?_, ?_, ?_⟩
    all_goals rw [hwaiting]
    · exact hsorted
    · exact hsince
    · exact hpast
    · rw [hhanded]
      exact hcomplete

theorem Sound.record (h : Sound s) (hawake : Awake s) (hd : d ∈ s.devices)
    (hitems : (s.buffered d.file).flatMap Item.raws = raw :: items.flatMap Item.raws)
    (hrun : (eventQueue.restrict Disciplined).Run calls queue)
    (hmark : queue.publishedBeforeUs = s.queue.publishedBeforeUs)
    (hpushes : pushes calls = pushes s.calls ++ (evdevDispatch d raw).toList) :
    Sound (s.record d raw items queue calls) := by
  refine { h with
    queue := hrun
    pushed := ?_
    watermark := hmark ▸ h.watermark
    fresh := ?_
    timely := fun e he => (h.timely e he).record hitems hmark
    begun := hawake.not_begun
    idle := hawake.not_idle }
  · show pushes calls = (s.handed ++ [(d, raw)]).filterMap _
    rw [hpushes, h.pushed, List.filterMap_append]
    cases hcase : evdevDispatch d raw with
    | none => simp [hcase]
    | some event => simp [hcase]
  · intro file hfile
    have hold := h.fresh file hfile
    have hne : file ≠ d.file := by
      have hlt := h.table.known d hd
      have hle : s.opened ≤ file := hfile
      omega
    refine ⟨(Function.update_of_ne hne ..).trans hold.buffered, hold.kernel, hold.emitted, ?_⟩
    intro x hx
    rcases List.mem_append.mp hx with hx | hx
    · exact hold.handed x hx
    · rw [List.mem_singleton.mp hx]
      exact hne.symm

theorem record_readFrom (hmark : queue.publishedBeforeUs = s.queue.publishedBeforeUs) :
    ReadFrom d.file s (s.record d raw items queue calls) where
  started := rfl
  thread := rfl
  locked := rfl
  waits := rfl
  clock := rfl
  devices := rfl
  watermark := hmark
  buffered _ hne := Function.update_of_ne hne ..
  kernel _ _ := rfl

/-- The first event that waits for a device is read: it is not older than what is published, and
the rest is not older than it. -/
theorem Sound.read (h : Sound s) (hawake : Awake s) (hd : d ∈ s.devices)
    (hitems : (s.buffered d.file).flatMap Item.raws = raw :: items.flatMap Item.raws) :
    Sound ((s.setBuffered d.file items).hand d raw).2 ∧
      ReadFrom d.file s ((s.setBuffered d.file items).hand d raw).2 ∧
      ∀ later ∈ ((s.setBuffered d.file items).hand d raw).2.waiting d.file,
        raw.timeUs ≤ later.timeUs := by
  have htimely := h.timely d hd
  have hsorted := htimely.sorted
  rw [waiting_first hitems] at hsorted
  have hlater := (List.pairwise_cons.mp hsorted).1
  cases hcase : evdevDispatch d raw with
  | none =>
    have hhand : ((s.setBuffered d.file items).hand d raw).2 =
        s.record d raw items s.queue s.calls := by
      simp only [State.hand, hcase]
      rfl
    rw [hhand]
    refine ⟨h.record hawake hd hitems h.queue rfl ?_, record_readFrom rfl, hlater⟩
    rw [hcase]
    exact (List.append_nil _).symm
  | some event =>
    have hhand : ((s.setBuffered d.file items).hand d raw).2 =
        s.record d raw items (s.queue.apply (.push event)).1
          (s.calls ++ [(.push event, (s.queue.apply (.push event)).2)]) := by
      simp only [State.hand, hcase]
      rfl
    have hold : Disciplined s.queue (.push event) := by
      show s.queue.publishedBeforeUs ≤ event.timeUs
      rw [(evdevDispatch_some hcase).1]
      exact htimely.since raw (by rw [waiting_first hitems]; exact List.mem_cons_self)
    have hmark := push_published s.queue event
    rw [hhand]
    refine ⟨h.record hawake hd hitems (called_run h.queue hold) hmark ?_, record_readFrom hmark,
      hlater⟩
    rw [pushes_append, hcase]
    rfl

end Read

/-- What a call of libevdev tells of the device it was for. -/
def Read.Tells (file : Nat) (t : State) : Read → Prop
  | .success _ timeUs => ∀ later ∈ t.waiting file, timeUs ≤ later.timeUs
  | .again => t.buffered file = [] ∧ t.waiting file = []
  | _ => True

section NextEvent

variable {i : Nat}

theorem ReadFrom.refl (file : Nat) (s : State) : ReadFrom file s s :=
  ⟨rfl, rfl, rfl, rfl, rfl, rfl, rfl, fun _ _ => rfl, fun _ _ => rfl⟩

theorem nextEvent_spec (h : Sound s) (hawake : Awake s) (hi : s.devices[i]? = some d)
    (a : Answer) :
    Sound (s.nextEvent i a).2 ∧ ReadFrom d.file s (s.nextEvent i a).2 ∧
      (s.nextEvent i a).1.Tells d.file (s.nextEvent i a).2 := by
  have hd : d ∈ s.devices := List.mem_of_getElem? hi
  simp only [State.nextEvent, hi]
  split
  · exact ⟨h, .refl _ _, trivial⟩
  have hfetched := h.fetch hawake (h.table.known d hd) a.fetched
  have hframe := fetch_readFrom s d.file a.fetched
  cases hbuffered : (s.fetch d.file a.fetched).buffered d.file with
  | nil =>
    refine ⟨hfetched, hframe, hbuffered, ?_⟩
    -- nothing was taken, so there is nothing to take
    obtain ⟨-, htaken⟩ : s.buffered d.file = [] ∧ (s.kernel d.file).take (max 1 a.fetched) = [] := by
      rw [← List.append_eq_nil_iff, ← hbuffered]
      simp only [State.fetch, Function.update_self]
    have hkernel : s.kernel d.file = [] := by
      rcases List.take_eq_nil_iff.mp htaken with hzero | hnil
      · omega
      · exact hnil
    have hleft : (s.fetch d.file a.fetched).kernel d.file = [] := by
      simp only [State.fetch, Function.update_self, hkernel, List.drop_nil]
    rw [State.waiting, hbuffered, hleft]
    rfl
  | cons item rest =>
    cases item with
    | event raw =>
      have hitems : ((s.fetch d.file a.fetched).buffered d.file).flatMap Item.raws =
          raw :: rest.flatMap Item.raws := by
        rw [hbuffered]
        rfl
      obtain ⟨hsound, hread, hlater⟩ := hfetched.read (hframe.awake hawake) hd hitems
      exact ⟨hsound, hframe.trans hread, hlater⟩
    | dropped changes => exact ⟨hfetched, hframe, trivial⟩

/-- Libevdev goes on to the next item. -/
theorem Sound.skip (h : Sound s) (hawake : Awake s) (hd : d ∈ s.devices) {items : List Item}
    (hitems : (s.buffered d.file).flatMap Item.raws = items.flatMap Item.raws) :
    Sound (s.setBuffered d.file items) ∧ ReadFrom d.file s (s.setBuffered d.file items) := by
  have hframe : ReadFrom d.file s (s.setBuffered d.file items) :=
    ⟨rfl, rfl, rfl, rfl, rfl, rfl, rfl, fun _ hne => Function.update_of_ne hne .., fun _ _ => rfl⟩
  have hwaiting : ∀ file, (s.setBuffered d.file items).waiting file = s.waiting file := by
    intro file
    by_cases hcase : file = d.file
    · subst hcase
      simp only [State.waiting, State.setBuffered, Function.update_self, List.flatMap_append, hitems]
    · exact hframe.waiting hcase
  refine ⟨{ h with
    fresh := ?_, timely := ?_, begun := hawake.not_begun, idle := hawake.not_idle }, hframe⟩
  · intro file hfile
    have hold := h.fresh file hfile
    have hne : file ≠ d.file := by
      have hlt := h.table.known d hd
      have hle : s.opened ≤ file := hfile
      omega
    exact ⟨(hframe.buffered file hne).trans hold.buffered, hold.kernel, hold.emitted, hold.handed⟩
  · intro e he
    obtain ⟨hsorted, hsince, hpast, hcomplete⟩ := h.timely e he
    refine ⟨?_, ?_, ?_, ?_⟩
    all_goals rw [hwaiting]
    · exact hsorted
    · exact hsince
    · exact hpast
    · exact hcomplete

theorem nextSync_spec (h : Sound s) (hawake : Awake s) (hi : s.devices[i]? = some d)
    (a : Answer) : Sound (s.nextSync i a).2 ∧ ReadFrom d.file s (s.nextSync i a).2 := by
  have hd : d ∈ s.devices := List.mem_of_getElem? hi
  simp only [State.nextSync, hi]
  split
  · exact ⟨h, .refl _ _⟩
  cases hbuffered : s.buffered d.file with
  | nil => exact ⟨h, .refl _ _⟩
  | cons item rest =>
    cases item with
    | event raw => exact ⟨h, .refl _ _⟩
    | dropped changes =>
      cases changes with
      | nil => exact h.skip hawake hd (by rw [hbuffered]; rfl)
      | cons raw changes =>
        have hitems : (s.buffered d.file).flatMap Item.raws =
            raw :: (Item.dropped changes :: rest).flatMap Item.raws := by
          rw [hbuffered]
          rfl
        obtain ⟨hsound, hread, -⟩ := h.read hawake hd hitems
        exact ⟨hsound, hread⟩

end NextEvent

/-! ## The devices of the table -/

section Devices

/-- The devices change while nothing is read. -/
theorem Sound.ofTable (h : Sound s) {files grabs : Nat → Option Nat} {opened : Nat}
    {devices : List Device} {mouse keyboard : Bool} (hwaits : s.waits = none)
    (htable : Table files grabs opened devices) (hroom : devices.length ≤ maxDevices)
    (hopened : s.opened ≤ opened)
    (hmem : ∀ e ∈ devices, e ∈ s.devices ∨ e.file = s.opened)
    (hmouse : mouse = devices.any Device.isMouse)
    (hkeyboard : keyboard = devices.any Device.isKeyboard) :
    Sound { s with
      files, grabs, opened, devices
      mouseActive := mouse
      keyboardActive := keyboard } := by
  refine { h with
    room := hroom
    table := htable
    fresh := fun file hfile => { h.fresh file (hopened.trans hfile) with }
    timely := ?_
    mouse := hmouse
    keyboard := hkeyboard
    begun := fun hspawned => ⟨(h.begun hspawned).1, fun e he =>
      (hmem e he).elim ((h.begun hspawned).2 e) fun hnew => (h.fresh e.file hnew.ge).buffered⟩
    idle := fun hidle => absurd (hwaits.symm.trans hidle) (by decide) }
  intro e he
  rcases hmem e he with hold | hnew
  · exact { h.timely e hold with }
  · obtain ⟨hbuffered, hkernel, hemitted, hhanded⟩ := h.fresh e.file hnew.ge
    have hwaiting : s.waiting e.file = [] := by rw [State.waiting, hbuffered, hkernel]; rfl
    have hnone : s.handedOf e.file = [] := by
      rw [State.handedOf, List.map_eq_nil_iff, List.filter_eq_nil_iff]
      exact fun x hx => by simpa using hhanded x hx
    refine ⟨?_, ?_, ?_, ?_⟩
    · exact hwaiting.symm ▸ List.Pairwise.nil
    · exact hwaiting.symm ▸ nofun
    · exact hwaiting.symm ▸ nofun
    · show s.handedOf e.file ++ s.waiting e.file = s.emitted e.file
      rw [hwaiting, hnone, hemitted]
      rfl

theorem Sound.addDevice (h : Sound s) (hwaits : s.waits = none) (found : Found) :
    Sound (s.addDevice found) := by
  simp only [State.addDevice]
  split
  · exact h
  rename_i hroom
  have hlt : s.devices.length < maxDevices := by
    by_contra hfull
    exact hroom (.inl (by omega))
  cases hfd : found.fd.filter fun fd => (s.files fd).isNone with
  | none => exact h
  | some fd =>
    have hfree : s.files fd = none := by
      have hsome := (Option.filter_eq_some_iff.mp hfd).2
      exact Option.isNone_iff_eq_none.mp (by simpa using hsome)
    -- every way out before the grab closes what was opened
    have hskip : Sound ((s.openFile fd).closeFile fd) :=
      h.ofTable hwaits (h.table.skip hfree) h.room (Nat.le_succ _) (fun e he => .inl he) h.mouse
        h.keyboard
    simp only [State.adopt]
    split
    · exact hskip
    split
    · exact hskip
    split
    · exact hskip
    split
    · exact hskip
    rename_i hgrab
    have hungrabbed : s.grabs found.node = none := by
      have hnot : ¬(!found.grabs || (s.grabs found.node).isSome) = true := hgrab
      simp only [Bool.or_eq_true, not_or, Bool.not_eq_true, Option.isSome_eq_false_iff,
        Option.isNone_iff_eq_none] at hnot
      exact hnot.2
    refine h.ofTable hwaits (h.table.admitDevice (d := found.device fd s.opened) hfree hungrabbed)
      ?_ (Nat.le_succ _) ?_ ?_ ?_
    · have hlength : (s.devices ++ [found.device fd s.opened]).length = s.devices.length + 1 :=
        List.length_append
      exact hlength.trans_le hlt
    · intro e he
      rcases List.mem_append.mp he with he | he
      · exact .inl he
      · rw [List.mem_singleton.mp he]
        exact .inr rfl
    · show (s.mouseActive || _) = (s.devices ++ [_]).any _
      rw [List.any_append, ← h.mouse, List.any_cons, List.any_nil, Bool.or_false]
    · show (s.keyboardActive || _) = (s.devices ++ [_]).any _
      rw [List.any_append, ← h.keyboard, List.any_cons, List.any_nil, Bool.or_false]

theorem Sound.releaseDevices (h : Sound s) (hwaits : s.waits = none) :
    Sound s.releaseDevices := by
  obtain ⟨files, grabs, hclosed, htable⟩ := h.table.release
  simp only [State.releaseDevices, State.updateActiveFlags, hclosed]
  exact h.ofTable hwaits htable (Nat.zero_le _) (Nat.le_refl _) (fun _ he => nomatch he) rfl rfl

theorem Sound.removeDevice (h : Sound s) (hwaits : s.waits = none) (i : Nat) :
    Sound (s.removeDevice i) := by
  simp only [State.removeDevice]
  cases hi : s.devices[i]? with
  | none => exact h
  | some d =>
    obtain ⟨hlt, hget⟩ := List.getElem?_eq_some_iff.mp hi
    have hsplit : s.devices = s.devices.take i ++ d :: s.devices.drop (i + 1) := by
      rw [← hget, ← List.drop_eq_getElem_cons hlt, List.take_append_drop]
    have hreset := h.reset
    have htable : Table (s.call .reset).files (s.call .reset).grabs (s.call .reset).opened
        (s.devices.take i ++ d :: s.devices.drop (i + 1)) := hsplit ▸ h.table
    obtain ⟨hclose, hrest⟩ := Table.close _ htable
    dsimp only
    rw [hclose]
    have herase : s.devices.eraseIdx i = s.devices.take i ++ s.devices.drop (i + 1) :=
      List.eraseIdx_eq_take_drop_succ ..
    rw [← herase] at hrest
    refine hreset.ofTable hwaits hrest ?_ (Nat.le_refl _) ?_ rfl rfl
    · exact (List.eraseIdx_sublist _ _).length_le.trans h.room
    · exact fun e he => .inl ((List.eraseIdx_sublist _ _).subset he)

theorem Sound.zeroed (h : Sound s) (hdevices : s.devices = []) : Sound s.zeroed where
  queue := .refl _
  pushed := rfl
  watermark := UInt64.zero_le
  room := h.room
  table := h.table
  fresh _ _ := ⟨rfl, rfl, rfl, fun _ hx => nomatch hx⟩
  timely d hd := absurd (hdevices ▸ hd : d ∈ ([] : List Device)) List.not_mem_nil
  mouse := by rw [State.zeroed, hdevices]; rfl
  keyboard := by rw [State.zeroed, hdevices]; rfl
  parked hwaits := absurd rfl hwaits
  begun _ := ⟨rfl, fun _ _ => rfl⟩
  idle hidle := nomatch hidle

end Devices

/-- What a sweep has read of every device is older than nothing that is still to come. -/
theorem Sound.publish (h : Sound s) {before : UInt64} (habove : s.queue.publishedBeforeUs ≤ before)
    (hpast : before ≤ s.clock) (hawake : Awake s)
    (hdrained : ∀ d ∈ s.devices, ∀ raw ∈ s.waiting d.file, before ≤ raw.timeUs) (pending : Bool) :
    Sound (s.publish before pending).2 where
  queue := called_run h.queue habove
  pushed := by
    show pushes (s.calls ++ [_]) = _
    rw [pushes_append]
    exact (List.append_nil _).trans h.pushed
  watermark := hpast
  room := h.room
  table := h.table
  fresh file hfile := { h.fresh file hfile with }
  timely d hd := { h.timely d hd with since := hdrained d hd }
  mouse := h.mouse
  keyboard := h.keyboard
  parked := h.parked
  begun := hawake.not_begun
  idle := hawake.not_idle

end Lgnome.Evdev
