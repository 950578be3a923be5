import Lgnome.Rdpeai.Handler
import Mathlib.Data.UInt
import Mathlib.Logic.Function.Iterate

/-!
# The microphone stream over whole runs

Every accepted Open and every stop of an open stream calls back and takes the next
generation, so the callbacks alternate and the generation counts the steps that
called back. It skips zero when it comes around.
-/
namespace Lgnome.Rdpeai

open Lgnome.Transition

abbrev AudioRecord := List (AudioAction × AudioSeen)

def AudioRecord.callbacks (rec : AudioRecord) : List AudioCallback :=
  rec.flatMap fun x => x.2.callbacks

/-- The steps that called back. -/
def AudioRecord.changes (rec : AudioRecord) : Nat := rec.countP fun x => !x.2.callbacks.isEmpty

/-- How many generations there are: 2⁶⁴ without zero. -/
def generations : Nat := 18446744073709551615

section Generation

theorem nextGeneration_toNat (g : UInt64) :
    (nextGeneration g).toNat = if g.toNat = generations then 1 else g.toNat + 1 := by
  have hlt := g.toNat_lt
  have hadd : (g + 1).toNat = (g.toNat + 1) % 18446744073709551616 := by
    rw [UInt64.toNat_add]
    rfl
  have hmax : nextGeneration g = if g + 1 ≤ 1 then 1 else g + 1 := rfl
  have hone : (1 : UInt64).toNat = 1 := rfl
  rw [hmax]
  unfold generations
  by_cases hle : g + 1 ≤ 1
  · have hsmall := UInt64.le_iff_toNat_le.mp hle
    rw [if_pos hle, hone]
    split <;> omega
  · have hbig := mt UInt64.le_iff_toNat_le.mpr hle
    rw [if_neg hle, hadd]
    split <;> omega

/-- The generation counts modulo the number of generations. -/
theorem iterate_toNat (n : Nat) (g : UInt64) (hg : 1 ≤ g.toNat) :
    (nextGeneration^[n] g).toNat = 1 + (g.toNat - 1 + n) % generations := by
  induction n with
  | zero =>
    have hlt := g.toNat_lt
    simp only [Function.iterate_zero, id_eq, Nat.add_zero]
    rw [Nat.mod_eq_of_lt (by unfold generations; omega)]
    omega
  | succ n ih =>
    rw [Function.iterate_succ_apply', nextGeneration_toNat, ih]
    unfold generations
    split <;> omega

/-- A generation comes back after all the others only. -/
theorem generations_le {n : Nat} {g : UInt64} (hg : 1 ≤ g.toNat) (hn : 0 < n)
    (h : nextGeneration^[n] g = g) : generations ≤ n := by
  have hnat := iterate_toNat n g hg
  rw [h] at hnat
  have hlt := g.toNat_lt
  unfold generations at hnat ⊢
  omega

theorem nextGeneration_pos (g : UInt64) : 1 ≤ (nextGeneration g).toNat := by
  rw [nextGeneration_toNat]
  split <;> omega

/-- Counted from the start, fewer steps than there are generations lead to another one. -/
theorem iterate_eq {m n : Nat} (hle : m ≤ n) (hlt : n < m + generations)
    (h : nextGeneration^[n] 0 = nextGeneration^[m] 0) : n = m := by
  obtain ⟨k, rfl⟩ := Nat.exists_eq_add_of_le hle
  rcases Nat.eq_zero_or_pos k with rfl | hk
  · rfl
  rw [Nat.add_comm, Function.iterate_add_apply] at h
  cases m with
  | zero =>
    obtain ⟨k, rfl⟩ := Nat.exists_eq_succ_of_ne_zero hk.ne'
    rw [Function.iterate_zero_apply, Function.iterate_succ_apply'] at h
    have hpos := nextGeneration_pos (nextGeneration^[k] 0)
    rw [h] at hpos
    exact absurd hpos (by decide)
  | succ m =>
    have hpos : 1 ≤ (nextGeneration^[m + 1] 0).toNat := by
      rw [Function.iterate_succ_apply']
      exact nextGeneration_pos _
    have hround := generations_le hpos hk h
    omega

end Generation

variable {h h' : AudioInputHandler} {rec : AudioRecord}

/-- The callbacks of an accepted Open. -/
theorem openStream_callbacks (h : AudioInputHandler) (channelId : UInt32) (frames : Nat) :
    (h.openStream channelId frames).2 =
      (if h.bridge.isOpen then [.stop h.bridge.generation] else [])
        ++ [.start (nextGeneration h.bridge.generation) sampleRate channels frames] := rfl

theorem apply_generation (h : AudioInputHandler) (action : AudioAction) :
    (h.apply action).1.bridge.generation =
      if (h.apply action).2.callbacks = [] then h.bridge.generation
      else nextGeneration h.bridge.generation := by
  have hcases := apply_cases h action
  generalize h.apply action = result at hcases
  cases hcases with
  | quiet hbridge hcallbacks =>
    rw [if_pos hcallbacks, hbridge]
  | bound channelId version haction hcallbacks => rw [if_pos hcallbacks]
  | opened channelId payload hhead hoffered hvalid hcallbacks =>
    rw [if_neg (by rw [hcallbacks, openStream_callbacks]; simp)]
    rfl
  | stopped haction hcallbacks =>
    simp only [hcallbacks, AudioInputHandler.stop]
    split <;> simp

/-- Along a path the generation moves on once for every step that calls back. -/
theorem path_generation (hpath : audioInput.Path h rec h') :
    h'.bridge.generation = nextGeneration^[AudioRecord.changes rec] h.bridge.generation := by
  induction hpath with
  | refl => rfl
  | @snoc t u rec action seen _ hstep ih =>
    have happly := Option.some.inj hstep
    have hgeneration := apply_generation t action
    rw [happly] at hgeneration
    rw [hgeneration, ih]
    unfold AudioRecord.changes
    rw [List.countP_append]
    split
    · rename_i hnone
      simp [hnone]
    · rename_i hsome
      have hcount : List.countP (fun x : AudioAction × AudioSeen => !x.2.callbacks.isEmpty)
          [(action, seen)] = 1 := by
        simp [hsome]
      rw [hcount, Function.iterate_succ_apply']

/-- A Start names the generation that the stream then has. -/
theorem apply_started {action : AudioAction} {generation : UInt64} {rate channels frames : Nat}
    (hstart : .start generation rate channels frames ∈ (h.apply action).2.callbacks) :
    (h.apply action).1.bridge.generation = generation := by
  have hcases := apply_cases h action
  generalize h.apply action = result at hcases hstart
  cases hcases with
  | quiet hbridge hcallbacks => rw [hcallbacks] at hstart; cases hstart
  | bound channelId version haction hcallbacks => rw [hcallbacks] at hstart; cases hstart
  | opened channelId payload hhead hoffered hvalid hcallbacks =>
    rw [hcallbacks, openStream_callbacks] at hstart
    rcases List.mem_append.mp hstart with hstop | hstarted
    · split at hstop
      · cases List.mem_singleton.mp hstop
      · cases hstop
    · obtain ⟨rfl, -⟩ := AudioCallback.start.inj (List.mem_singleton.mp hstarted)
      rfl
  | stopped haction hcallbacks =>
    rw [hcallbacks] at hstart
    simp only [AudioInputHandler.stop] at hstart
    split at hstart
    · cases List.mem_singleton.mp hstart
    · cases hstart

/-- One Start with its Stop. -/
def closedStream (stream : UInt64 × Nat) : List AudioCallback :=
  [.start stream.1 sampleRate channels stream.2, .stop stream.1]

/-- The Start that has no Stop yet. -/
def openTail (state : AudioInputState) : List AudioCallback :=
  if state.isOpen then [.start state.generation sampleRate channels state.framesPerPacket] else []

/-- An open stream has a channel and a packet size, and the callbacks are pairs but for
the open stream's own. -/
structure Balanced (rec : AudioRecord) (h : AudioInputHandler) : Prop where
  live : h.bridge.isOpen → h.bridge.channelId.isSome ∧
    1 ≤ h.bridge.framesPerPacket ∧ h.bridge.framesPerPacket ≤ 4096
  pairs : ∃ closed : List (UInt64 × Nat),
    AudioRecord.callbacks rec = closed.flatMap closedStream ++ openTail h.bridge

theorem callbacks_snoc (rec : AudioRecord) (action : AudioAction) (seen : AudioSeen) :
    AudioRecord.callbacks (rec ++ [(action, seen)])
      = AudioRecord.callbacks rec ++ seen.callbacks := by
  simp [AudioRecord.callbacks]

theorem Balanced.next (hb : Balanced rec h) (action : AudioAction) :
    Balanced (rec ++ [(action, (h.apply action).2)]) (h.apply action).1 := by
  obtain ⟨hlive, closed, hpairs⟩ := hb
  have hcases := apply_cases h action
  generalize h.apply action = result at hcases
  cases hcases with
  | quiet hbridge hcallbacks =>
    refine ⟨by rw [hbridge]; exact hlive, closed, ?_⟩
    rw [callbacks_snoc, hcallbacks, hbridge, hpairs, List.append_nil]
  | bound channelId version haction hcallbacks =>
    refine ⟨fun hopen => ⟨rfl, (hlive hopen).2⟩, closed, ?_⟩
    rw [callbacks_snoc, hcallbacks, hpairs, List.append_nil]
    rfl
  | opened channelId payload hhead hoffered hvalid hcallbacks =>
    refine ⟨fun _ => ⟨rfl, openValid_frames hvalid⟩, ?_⟩
    rw [callbacks_snoc, hcallbacks, openStream_callbacks, hpairs]
    -- The stream in the way gets its Stop first.
    cases hopen : h.bridge.isOpen with
    | true =>
      refine ⟨closed ++ [(h.bridge.generation, h.bridge.framesPerPacket)], ?_⟩
      simp [openTail, hopen, closedStream, AudioInputHandler.openStream]
    | false =>
      refine ⟨closed, ?_⟩
      simp [openTail, hopen, AudioInputHandler.openStream]
  | stopped haction hcallbacks =>
    cases hopen : h.bridge.isOpen with
    | true =>
      refine ⟨by simp [AudioInputHandler.stop, hopen],
        closed ++ [(h.bridge.generation, h.bridge.framesPerPacket)], ?_⟩
      rw [callbacks_snoc, hcallbacks, hpairs]
      simp [openTail, hopen, closedStream, AudioInputHandler.stop]
    | false =>
      refine ⟨by simp [AudioInputHandler.stop, hopen], closed, ?_⟩
      rw [callbacks_snoc, hcallbacks, hpairs]
      simp [openTail, hopen, AudioInputHandler.stop]

theorem balanced_run (hrun : audioInput.Run rec h) : Balanced rec h := by
  refine hrun.history (I := Balanced) ⟨by simp [audioInput], [], rfl⟩ ?_
  intro rec h action h' seen hb hstep
  have happly := Option.some.inj hstep
  have hnext := hb.next action
  rwa [happly] at hnext

theorem submitPcm_isSome (state : AudioInputState) (hlive : state.isOpen → state.channelId.isSome ∧
    1 ≤ state.framesPerPacket ∧ state.framesPerPacket ≤ 4096) (generation : UInt64) (data : Bytes) :
    (state.submitPcm generation data).isSome ↔ state.isOpen = true ∧
      state.generation = generation ∧ data.length = state.framesPerPacket * 4 := by
  have hexpected : state.framesPerPacket * channels * (bitsPerSample / 8)
      = state.framesPerPacket * 4 := by
    simp only [channels, bitsPerSample]
    omega
  unfold AudioInputState.submitPcm
  simp only [hexpected]
  cases hopen : state.isOpen with
  | false => simp
  | true =>
    obtain ⟨hchannel, hpos, -⟩ := hlive hopen
    have hzero : (state.framesPerPacket * 4 == 0) = false := by
      simp only [beq_eq_false_iff_ne]
      omega
    by_cases hmatch : state.generation = generation ∧ data.length = state.framesPerPacket * 4
    · simp [hmatch.1, hmatch.2, hzero, hchannel, Option.isSome_map]
    · have hrefused : (!true || state.generation != generation ||
          data.length != state.framesPerPacket * 4 || state.framesPerPacket * 4 == 0) = true := by
        rw [hzero]
        by_cases hgeneration : state.generation = generation
        · have hlength : data.length ≠ state.framesPerPacket * 4 :=
            fun hlength => hmatch ⟨hgeneration, hlength⟩
          simp [hlength]
        · simp [hgeneration]
      simp only [hrefused, if_true, Option.isSome_none, Bool.false_eq_true, true_and, false_iff]
      exact hmatch

/-- What the record and the bridge owe to the capture side and to the submitter. -/
structure MicrophoneStream (rec : AudioRecord) (h : AudioInputHandler) : Prop where
  live : h.bridge.isOpen → h.bridge.channelId.isSome ∧
    1 ≤ h.bridge.framesPerPacket ∧ h.bridge.framesPerPacket ≤ 4096
  pairs : ∃ closed : List (UInt64 × Nat),
    AudioRecord.callbacks rec = closed.flatMap closedStream ++ openTail h.bridge
  accepted : ∀ generation data, (h.bridge.submitPcm generation data).isSome ↔
    h.bridge.isOpen = true ∧ h.bridge.generation = generation ∧
      data.length = h.bridge.framesPerPacket * 4
  distinct : ∀ pre x mid y post generation frames frames', rec = pre ++ x :: (mid ++ y :: post) →
    .start generation sampleRate channels frames ∈ x.2.callbacks →
    .start generation sampleRate channels frames' ∈ y.2.callbacks →
    generations ≤ AudioRecord.changes (mid ++ [y])

/-- **The microphone stream.** A generation comes back only after all the others. -/
theorem microphone_stream (hrun : audioInput.Run rec h) : MicrophoneStream rec h := by
  obtain ⟨hlive, hpairs⟩ := balanced_run hrun
  refine ⟨hlive, hpairs, submitPcm_isSome h.bridge hlive, ?_⟩
  intro pre x mid y post generation frames frames' hrec hx hy
  subst hrec
  obtain ⟨s, t, hpre, hstart, hrest⟩ := hrun.split_at
  obtain ⟨u, v, hmid, hagain, -⟩ := hrest.split_at
  have hfirst : t.bridge.generation = generation := by
    have happly : s.apply x.1 = (t, x.2) := Option.some.inj hstart
    have hstarted : (s.apply x.1).1.bridge.generation = generation :=
      apply_started (by rw [happly]; exact hx)
    rwa [happly] at hstarted
  have happly : u.apply y.1 = (v, y.2) := Option.some.inj hagain
  have hsecond : v.bridge.generation = generation := by
    have hstarted : (u.apply y.1).1.bridge.generation = generation :=
      apply_started (by rw [happly]; exact hy)
    rwa [happly] at hstarted
  have hpath : audioInput.Path t (mid ++ [y]) v := .snoc hmid hagain
  have hgeneration := path_generation hpath
  rw [hfirst, hsecond] at hgeneration
  refine generations_le ?_ ?_ hgeneration.symm
  · -- A Start carries the successor of some generation, so not zero.
    have hnext := apply_generation s x.1
    have happly' : s.apply x.1 = (t, x.2) := Option.some.inj hstart
    rw [happly'] at hnext
    rw [if_neg (List.ne_nil_of_mem hx), hfirst] at hnext
    rw [hnext]
    exact nextGeneration_pos _
  · unfold AudioRecord.changes
    rw [List.countP_append]
    have hcount : List.countP (fun x : AudioAction × AudioSeen => !x.2.callbacks.isEmpty) [y] = 1 := by
      simp [List.ne_nil_of_mem hy]
    omega

/-- An Open PDU for one frame a packet. -/
def openPdu : Bytes :=
  [msgOpen] ++ leBytes32 1 ++ leBytes32 0 ++ leBytes16 1 ++ leBytes16 2 ++ leBytes32 44100 ++
    leBytes32 176400 ++ leBytes16 4 ++ leBytes16 16 ++ leBytes16 0

/-- Open, one packet, opened again, and the packet of the first stream once more. -/
def reopened : List AudioAction :=
  [.process 9 clientFormats, .process 9 openPdu, .submitPcm 1 [0, 0, 0, 0], .process 9 openPdu,
    .submitPcm 1 [0, 0, 0, 0]]

theorem reopened_accepted : (audioInput.exec audioInput.init reopened).isSome := by
  decide +kernel

theorem microphone_stream_reopened : ∃ rec h, audioInput.Run rec h ∧ MicrophoneStream rec h ∧
    AudioRecord.callbacks rec = [.start 1 44100 2 1, .stop 1, .start 2 44100 2 1] :=
  ⟨_, _, Machine.run_of_exec reopened reopened_accepted,
    microphone_stream (Machine.run_of_exec reopened reopened_accepted), by decide +kernel⟩

/-- A handler with a stream of this generation. -/
def streaming (generation : UInt64) : AudioInputHandler where
  bridge :=
    { channelId := some 9
      isOpen := true
      generation := generation
      framesPerPacket := 1 }
  offeredFormat := true

/-- What an Open PDU shows on a handler with a stream. -/
def replaced (generation : UInt64) : AudioSeen :=
  .handled
    { replies := [msgFormatChange :: leBytes32 0, msgOpenReply :: leBytes32 0]
      callbacks := [.stop generation, .start (nextGeneration generation) sampleRate channels 1] }

theorem open_streaming (generation : UInt64) :
    audioInput.step (streaming generation) (.process 9 openPdu)
      = some (streaming (nextGeneration generation), replaced generation) := by
  have hvalid : openValid openPdu = true := by decide +kernel
  have hframes : readLe32 openPdu 1 = 1 := by decide +kernel
  have hhandled : (streaming generation).processPayload 9 openPdu
      = (streaming generation).handleOpen 9 openPdu := rfl
  have hopen : (streaming generation).handleOpen 9 openPdu
      = (streaming (nextGeneration generation),
        { replies := [msgFormatChange :: leBytes32 0, msgOpenReply :: leBytes32 0]
          callbacks := [.stop generation,
            .start (nextGeneration generation) sampleRate channels 1] }) := by
    simp [AudioInputHandler.handleOpen, AudioInputHandler.openStream, streaming, hvalid, hframes]
  show some ((streaming generation).apply (.process 9 openPdu)) = _
  simp only [AudioInputHandler.apply, hhandled, hopen, replaced]

theorem open_again (generation : UInt64) (n : Nat) :
    ∃ rec, audioInput.Path (streaming generation) rec (streaming (nextGeneration^[n] generation)) := by
  induction n with
  | zero => exact ⟨[], .refl _⟩
  | succ n ih =>
    obtain ⟨rec, hpath⟩ := ih
    rw [Function.iterate_succ_apply']
    exact ⟨_, .snoc hpath (open_streaming _)⟩

/-- What the Formats and the first Open show. -/
def offered : AudioSeen := .handled { replies := [[msgDataIncoming], clientFormats] }

def opened : AudioSeen :=
  .handled
    { replies := [msgFormatChange :: leBytes32 0, msgOpenReply :: leBytes32 0]
      callbacks := [.start 1 sampleRate channels 1] }

/-- After 2⁶⁴ - 1 further Opens the first generation is given out again. -/
theorem generation_returns : ∃ rec h pre x mid y,
    audioInput.Run rec h ∧ rec = pre ++ x :: (mid ++ [y]) ∧
      .start 1 sampleRate channels 1 ∈ x.2.callbacks ∧
      .start 1 sampleRate channels 1 ∈ y.2.callbacks := by
  have hformats : audioInput.step audioInput.init (.process 9 clientFormats)
      = some ({ offeredFormat := true }, offered) := by decide +kernel
  have hopen : audioInput.step { offeredFormat := true } (.process 9 openPdu)
      = some (streaming 1, opened) := by decide +kernel
  obtain ⟨mid, hmid⟩ := open_again 1 (generations - 1)
  have hback : nextGeneration (nextGeneration^[generations - 1] 1) = 1 := by
    rw [← Function.iterate_succ_apply' nextGeneration]
    apply UInt64.toNat_inj.mp
    rw [iterate_toNat _ _ (by decide)]
    decide
  have hlast := open_streaming (nextGeneration^[generations - 1] 1)
  rw [hback] at hlast
  have hstart : audioInput.Path audioInput.init _ (streaming 1) :=
    .snoc (.single hformats) hopen
  have hrun := (hstart.append hmid).snoc hlast
  refine ⟨_, _, [(.process 9 clientFormats, offered)], (.process 9 openPdu, opened), mid,
    (.process 9 openPdu, replaced (nextGeneration^[generations - 1] 1)), hrun, ?_, ?_, ?_⟩
  · simp only [List.cons_append, List.nil_append]
  · simp [opened, AudioSeen.callbacks]
  · simp [replaced, hback, AudioSeen.callbacks]

end Lgnome.Rdpeai
