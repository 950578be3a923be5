import Lgnome.Audio.Rdpsnd
import Lgnome.Bytes.LittleEndian

/-!
# From the channel into the mix

`on_audio_format` and `on_audio_data` of `native_rdp_audio.c`, with the Opus decoder of
a slot and the end of its session. What the pipeline is asked for the slot's source is
recorded. The Opus library is a parameter: its answer depends on the packets that a
decoder has been given since it was opened, and on nothing else.
-/
namespace Lgnome.Audio

open Lgnome.Transition

/-- What `opus_decode` returns for the last of a decoder's packets, and its samples. -/
abbrev OpusLibrary := (sampleRate : UInt32) → (channels : UInt16) → (packets : List Bytes) →
  Int × (Nat → Int16)

/-- `NativeOpusDecoder` -/
structure OpusDecoder where
  sampleRate : UInt32
  channels : UInt16
  packets : List Bytes := []
  deriving DecidableEq, Repr

/-- The fields of `NativeSessionSlot` that the audio callbacks use. -/
structure AudioSlot where
  audioRouted : Bool := false
  audioCodec : UInt32 := 0
  audioSampleRate : UInt32 := 0
  audioChannels : UInt16 := 0
  opusDecoder : Option OpusDecoder := none
  deriving DecidableEq, Repr

/-- A call into the pipeline for the slot's source. A format may be refused. -/
inductive PipelineCall where
  | setSourceFormat (sampleRate : UInt32) (channels : UInt16) (taken : Bool)
  | closeSource
  | push (samples : Nat → Int16) (frames : Nat) (tsMs : UInt32)

/-- What library and pipeline answer to a new format. -/
structure FormatAnswers where
  opusOpens : Bool := true
  pipelineReady : Bool := true
  deriving DecidableEq, Repr

/-- `native_opus_decoder_open`. -/
def opusDecoderOpen (sampleRate : UInt32) (channels : UInt16) (opens : Bool) : Option OpusDecoder :=
  if channels = 0 ∨ 2 < channels then none
  else if opens then some { sampleRate, channels }
  else none

/-- The check of `native_audio_pipeline_set_source_format`. -/
def sourceFormatTaken (sampleRate : UInt32) (channels : UInt16) (ready : Bool) : Bool :=
  ready && !decide (sampleRate < 8000 ∨ 192000 < sampleRate ∨ channels = 0 ∨ 2 < channels)

/-- An S16LE sample of a chunk. -/
def pcmSamples (data : Bytes) (i : Nat) : Int16 := Int16.ofNat (readLe16 data (2 * i))

/-- The whole frames of a chunk. -/
def pcmFrames (data : Bytes) (channels : UInt16) : Nat :=
  if channels.toNat * 2 = 0 then 0 else data.length / (channels.toNat * 2)

def pushFrames (samples : Nat → Int16) (frames : Nat) (tsMs : UInt32) : List PipelineCall :=
  if 0 < frames then [.push samples frames tsMs] else []

namespace AudioSlot

/-- The slot's public numbers at rest. -/
def unrouted (slot : AudioSlot) : AudioSlot :=
  { slot with audioRouted := false, audioCodec := 0, audioSampleRate := 0, audioChannels := 0 }

/-- The decoder that a new format leaves the slot. -/
def reopened (codec sampleRate : UInt32) (channels : UInt16) (opens : Bool) : Option OpusDecoder :=
  if codec = rdpAudioCodecOpus then opusDecoderOpen sampleRate channels opens else none

/-- `on_audio_format` up to its locks. -/
def onAudioFormat (slot : AudioSlot) (codec sampleRate : UInt32) (channels : UInt16)
    (answers : FormatAnswers) : AudioSlot × List PipelineCall :=
  let slot := slot.unrouted
  if codec ≠ rdpAudioCodecPcmS16le ∧ codec ≠ rdpAudioCodecOpus then (slot, [.closeSource])
  else
    let slot := { slot with opusDecoder := reopened codec sampleRate channels answers.opusOpens }
    if codec = rdpAudioCodecOpus ∧ slot.opusDecoder.isNone then (slot, [.closeSource])
    else if sourceFormatTaken sampleRate channels answers.pipelineReady then
      ({ slot with
          audioRouted := true, audioCodec := codec
          audioSampleRate := sampleRate, audioChannels := channels },
        [.setSourceFormat sampleRate channels true])
    else
      ({ slot with opusDecoder := none },
        [.setSourceFormat sampleRate channels false, .closeSource])

/-- `on_audio_data` with `native_opus_decoder_decode`. -/
def onAudioData (opus : OpusLibrary) (slot : AudioSlot) (data : Bytes) (tsMs : UInt32) :
    AudioSlot × List PipelineCall :=
  if data = [] ∨ slot.audioRouted = false then (slot, [])
  else
    match slot.opusDecoder with
    | some decoder =>
      let packets := decoder.packets ++ [data]
      let decoded := opus decoder.sampleRate decoder.channels packets
      ({ slot with opusDecoder := some { decoder with packets } },
        pushFrames decoded.2 decoded.1.toNat tsMs)
    | none => (slot, pushFrames (pcmSamples data) (pcmFrames data slot.audioChannels) tsMs)

/-- `native_stop_slot`, as far as it is about audio; the worker is gone by then. -/
def stop (slot : AudioSlot) : AudioSlot × List PipelineCall :=
  ({ slot.unrouted with opusDecoder := none }, [.closeSource])

end AudioSlot

/-- A callback, or the end of the session, with what the handler of the channel had let
be seen before, what was answered and what the pipeline was asked. -/
structure Entry where
  heard : List AudioEvent
  call : Option AudioCallback
  answers : FormatAnswers
  calls : List PipelineCall

/-- The channel's handler with what it has let be seen, and the slot behind it. -/
structure AudioPath where
  handler : RdpsndDvcHandler := {}
  heard : List AudioEvent := []
  slot : AudioSlot := {}
  log : List Entry := []

namespace AudioPath

variable (opus : OpusLibrary)

/-- One event of the handler; the slot hears of the callbacks. -/
def hear (answers : FormatAnswers) (path : AudioPath) (event : AudioEvent) : AudioPath :=
  let next := { path with heard := path.heard ++ [event] }
  match event with
  | .callback (.audioFormat codec sampleRate channels) =>
    let r := path.slot.onAudioFormat codec sampleRate channels answers
    { next with
      slot := r.1
      log := path.log ++
        [⟨path.heard, some (.audioFormat codec sampleRate channels), answers, r.2⟩] }
  | .callback (.audioData data tsMs) =>
    let r := path.slot.onAudioData opus data tsMs
    { next with
      slot := r.1
      log := path.log ++ [⟨path.heard, some (.audioData data tsMs), answers, r.2⟩] }
  | _ => next

end AudioPath

inductive PathAction where
  | payload (bytes : Bytes) (answers : FormatAnswers)
  /-- The server opens the channel anew. -/
  | reopen
  /-- The session is stopped; the channel of the next one is a new one. -/
  | stop
  deriving DecidableEq, Repr

/-- The payloads of a slot's audio channel on their way into the mix. -/
def audioPath (decode : Bytes → Option ServerAudioOutputPdu) (preferPcm : Bool)
    (opus : OpusLibrary) : Machine AudioPath PathAction Unit where
  init := { handler := { preferPcm } }
  step path
    | .payload bytes answers =>
      let r := path.handler.process decode bytes
      some ({ r.2.foldl (AudioPath.hear opus answers) path with handler := r.1 }, ())
    | .reopen => some ({ path with handler := { preferPcm }, heard := [] }, ())
    | .stop =>
      let r := path.slot.stop
      some ({ path with
        handler := { preferPcm }, heard := [], slot := r.1
        log := path.log ++ [⟨path.heard, none, {}, r.2⟩] }, ())

/-! ## What the log says -/

/-- The source's format: the last one taken, unless the source was closed since. -/
def formatAfter (format : Option (UInt32 × UInt16)) : PipelineCall → Option (UInt32 × UInt16)
  | .setSourceFormat sampleRate channels true => some (sampleRate, channels)
  | .closeSource => none
  | _ => format

def sourceFormat (log : List Entry) : Option (UInt32 × UInt16) :=
  (log.flatMap Entry.calls).foldl formatAfter none

def streamAfter (stream : Option (PlayFormat × FormatAnswers) × List Bytes) (entry : Entry) :
    Option (PlayFormat × FormatAnswers) × List Bytes :=
  match entry.call with
  | none => (none, [])
  | some (.audioFormat codec sampleRate channels) =>
    (some ((codec, sampleRate, channels), entry.answers), [])
  | some (.audioData data _) => (stream.1, if data = [] then stream.2 else stream.2 ++ [data])

/-- The format that the slot was told last with the answers to it, and the packets since. -/
def stream (log : List Entry) : Option (PlayFormat × FormatAnswers) × List Bytes :=
  log.foldl streamAfter (none, [])

/-- What becomes of a chunk in a format: whole frames of the samples in it, or what the
decoder of the stream makes of it behind the packets before. -/
def played (opus : OpusLibrary) (format : PlayFormat) (packets : List Bytes) (data : Bytes)
    (tsMs : UInt32) : List PipelineCall :=
  if format.1 = rdpAudioCodecOpus then
    if data = [] then []
    else
      let decoded := opus format.2.1 format.2.2 (packets ++ [data])
      pushFrames decoded.2 decoded.1.toNat tsMs
  else pushFrames (pcmSamples data) (pcmFrames data format.2.2) tsMs

/-- The pipeline was not there for the format, or the library opened no decoder for it. -/
def Refused (format : PlayFormat) (answers : FormatAnswers) : Prop :=
  answers.pipelineReady = false ∨ format.1 = rdpAudioCodecOpus ∧ answers.opusOpens = false

/-- A chunk belongs to the wave in hand. It plays in the format of its wave, which is the
one told last and the source's; where that was refused the source has none and the chunk
is silent. -/
def Sounds (opus : OpusLibrary) (before : List Entry) (entry : Entry) : Prop :=
  ∀ data tsMs, entry.call = some (.audioData data tsMs) →
    ∃ wave format current answers, inHand entry.heard = some (.wave2 wave) ∧ data = wave.data ∧
      tsMs = wave.audioTimestamp ∧ (sentFormats entry.heard)[wave.formatNo.toNat]? = some format ∧
      playFormat format = some current ∧ (stream before).1 = some (current, answers) ∧
      (Refused current answers ∧ sourceFormat before = none ∧ entry.calls = [] ∨
        ¬Refused current answers ∧ sourceFormat before = some current.2 ∧
          entry.calls = played opus current (stream before).2 data tsMs)

/-- The slot takes a format. -/
def formatTaken (format : PlayFormat) (answers : FormatAnswers) : Bool :=
  (decide (format.1 = rdpAudioCodecPcmS16le) || decide (format.1 = rdpAudioCodecOpus) &&
      (opusDecoderOpen format.2.1 format.2.2 answers.opusOpens).isSome) &&
    sourceFormatTaken format.2.1 format.2.2 answers.pipelineReady

/-- What the slot remembers is what the log says. -/
structure Joined (opus : OpusLibrary) (path : AudioPath) : Prop where
  ledger : Throughout (Sounds opus) path.log
  source : sourceFormat path.log =
    if path.slot.audioRouted then some (path.slot.audioSampleRate, path.slot.audioChannels)
    else none
  told : path.slot.audioRouted = true → ∃ answers, (stream path.log).1 =
    some ((path.slot.audioCodec, path.slot.audioSampleRate, path.slot.audioChannels), answers)
  taken : ∀ format answers, (stream path.log).1 = some (format, answers) →
    path.slot.audioRouted = formatTaken format answers
  decoder : path.slot.audioRouted = true →
    path.slot.audioCodec = rdpAudioCodecPcmS16le ∧ path.slot.opusDecoder = none ∨
      path.slot.audioCodec = rdpAudioCodecOpus ∧ path.slot.opusDecoder =
        some ⟨path.slot.audioSampleRate, path.slot.audioChannels, (stream path.log).2⟩
  agreed : ∀ current, announced path.heard = some current →
    ∃ answers, (stream path.log).1 = some (current, answers)

variable {opus : OpusLibrary} {path : AudioPath} {log : List Entry} {entry : Entry}
  {answers : FormatAnswers} {preferPcm : Bool} {decode : Bytes → Option ServerAudioOutputPdu}

@[simp] theorem sourceFormat_snoc :
    sourceFormat (log ++ [entry]) = entry.calls.foldl formatAfter (sourceFormat log) := by
  simp [sourceFormat]

@[simp] theorem stream_snoc : stream (log ++ [entry]) = streamAfter (stream log) entry := by
  simp [stream]

theorem pushFrames_format (samples : Nat → Int16) (frames : Nat) (tsMs : UInt32)
    (format : Option (UInt32 × UInt16)) :
    (pushFrames samples frames tsMs).foldl formatAfter format = format := by
  rw [pushFrames]
  split <;> rfl

theorem Joined.start (handler : RdpsndDvcHandler) : Joined opus { handler } where
  ledger := Throughout.nil
  source := rfl
  told := nofun
  taken := nofun
  decoder := nofun
  agreed := nofun

/-- What a new format comes to: the source closed, or set to it with the slot routed. -/
theorem onAudioFormat_cases (slot : AudioSlot) (codec sampleRate : UInt32) (channels : UInt16)
    (answers : FormatAnswers) :
    formatTaken (codec, sampleRate, channels) answers = false ∧
        (slot.onAudioFormat codec sampleRate channels answers).1.audioRouted = false ∧
        (∀ format, (slot.onAudioFormat codec sampleRate channels answers).2.foldl formatAfter
          format = none) ∨
      formatTaken (codec, sampleRate, channels) answers = true ∧
        ∃ opusDecoder, slot.onAudioFormat codec sampleRate channels answers =
          (⟨true, codec, sampleRate, channels, opusDecoder⟩,
            [.setSourceFormat sampleRate channels true]) ∧
          (codec = rdpAudioCodecPcmS16le ∧ opusDecoder = none ∨
            codec = rdpAudioCodecOpus ∧ opusDecoder = some ⟨sampleRate, channels, []⟩) := by
  have hcodecs : ¬rdpAudioCodecPcmS16le = rdpAudioCodecOpus := by decide
  rw [AudioSlot.onAudioFormat]
  by_cases hopus : codec = rdpAudioCodecOpus
  · subst hopus
    rw [if_neg (by simp)]
    simp only [formatTaken, AudioSlot.reopened, if_true, Ne.symm hcodecs, decide_false,
      Bool.false_or, decide_true, Bool.true_and, true_and]
    cases hopen : opusDecoderOpen sampleRate channels answers.opusOpens with
    | none => exact .inl ⟨rfl, rfl, fun _ => rfl⟩
    | some decoder =>
      have hdecoder : decoder = ⟨sampleRate, channels, []⟩ := by
        rw [opusDecoderOpen] at hopen
        split_ifs at hopen
        exact (Option.some.inj hopen).symm
      cases hready : sourceFormatTaken sampleRate channels answers.pipelineReady with
      | false => exact .inl ⟨rfl, rfl, fun _ => rfl⟩
      | true => exact .inr ⟨rfl, _, rfl, .inr (congrArg some hdecoder)⟩
  · by_cases hpcm : codec = rdpAudioCodecPcmS16le
    · subst hpcm
      rw [if_neg (by simp)]
      simp only [formatTaken, AudioSlot.reopened, hcodecs, if_false, decide_true, Bool.true_or,
        Bool.true_and, false_and]
      cases hready : sourceFormatTaken sampleRate channels answers.pipelineReady with
      | false => exact .inl ⟨rfl, rfl, fun _ => rfl⟩
      | true => exact .inr ⟨rfl, none, rfl, .inl ⟨trivial, rfl⟩⟩
    · rw [if_pos ⟨hpcm, hopus⟩]
      exact .inl ⟨by simp [formatTaken, hpcm, hopus], rfl, fun _ => rfl⟩

/-- Of what a server can offer and the handler accepts, the slot refuses nothing by itself. -/
theorem formatTaken_playable {format : AudioFormat} {current : PlayFormat}
    (h : playFormat format = some current) (answers : FormatAnswers) :
    formatTaken current answers = false ↔ Refused current answers := by
  obtain ⟨codec, hcodec, rfl⟩ := Option.map_eq_some_iff.1 h
  have hcodecs : ¬rdpAudioCodecOpus = rdpAudioCodecPcmS16le := by decide
  obtain ⟨opens, ready⟩ := answers
  rw [rdpAudioCodecFor] at hcodec
  split_ifs at hcodec with hopus hpcm
  · obtain rfl := Option.some.inj hcodec
    obtain ⟨-, hchannels, hrate⟩ := hopus
    rw [hchannels, hrate]
    cases opens <;> cases ready <;>
      simp [formatTaken, Refused, hcodecs, opusDecoderOpen, sourceFormatTaken]
  · obtain rfl := Option.some.inj hcodec
    obtain ⟨-, hchannels, -, hrate⟩ := hpcm
    rw [hchannels]
    rcases hrate with hrate | hrate <;> rw [hrate] <;> cases opens <;> cases ready <;>
      simp [formatTaken, Refused, Ne.symm hcodecs, sourceFormatTaken]

/-- A format starts a stream of its own. -/
theorem Joined.format (h : Joined opus path) (answers : FormatAnswers) (codec sampleRate : UInt32)
    (channels : UInt16) :
    Joined opus
      (path.hear opus answers (.callback (.audioFormat codec sampleRate channels))) := by
  have hagreed : ∀ current, announced (path.heard ++
      [.callback (.audioFormat codec sampleRate channels)]) = some current →
      ∃ told : FormatAnswers,
        some ((codec, sampleRate, channels), answers) = some (current, told) := by
    intro current hcurrent
    rw [announced_snoc] at hcurrent
    obtain rfl := Option.some.inj hcurrent
    exact ⟨answers, rfl⟩
  simp only [AudioPath.hear]
  rcases onAudioFormat_cases path.slot codec sampleRate channels answers with
    ⟨hrefused, hsilent, hclosed⟩ | ⟨htaken, opusDecoder, heq, hdecoder⟩
  · have hunrouted : ∀ {P : Prop}, (path.slot.onAudioFormat codec sampleRate channels
        answers).1.audioRouted = true → P := by
      intro P hrouted
      rw [hsilent] at hrouted
      cases hrouted
    refine ⟨h.ledger.snoc nofun, ?_, hunrouted, ?_, hunrouted, ?_⟩
    · rw [sourceFormat_snoc, hclosed, hsilent]
      rfl
    · intro format told htold
      rw [stream_snoc] at htold
      cases htold
      exact hsilent.trans hrefused.symm
    · intro current hcurrent
      rw [stream_snoc]
      exact hagreed current hcurrent
  · rw [heq]
    refine ⟨h.ledger.snoc nofun, ?_, ?_, ?_, ?_, ?_⟩
    · rw [sourceFormat_snoc]
      rfl
    · intro _
      rw [stream_snoc]
      exact ⟨answers, rfl⟩
    · intro format told htold
      rw [stream_snoc] at htold
      cases htold
      exact htaken.symm
    · intro _
      rw [stream_snoc]
      exact hdecoder
    · intro current hcurrent
      rw [stream_snoc]
      exact hagreed current hcurrent

theorem pushFrames_nil (samples : Nat → Int16) (channels : UInt16) (tsMs : UInt32) :
    pushFrames samples (pcmFrames [] channels) tsMs = [] := by
  have hnone : pcmFrames [] channels = 0 := by
    rw [pcmFrames]
    split
    · rfl
    · exact Nat.zero_div _
  rw [hnone]
  rfl

/-- A chunk is played in the slot's format, or not at all. -/
theorem onAudioData_cases {slot : AudioSlot} {packets : List Bytes} (data : Bytes) (tsMs : UInt32)
    (hdecoder : slot.audioRouted = true →
      slot.audioCodec = rdpAudioCodecPcmS16le ∧ slot.opusDecoder = none ∨
        slot.audioCodec = rdpAudioCodecOpus ∧ slot.opusDecoder =
          some ⟨slot.audioSampleRate, slot.audioChannels, packets⟩) :
    slot.onAudioData opus data tsMs =
      ({ slot with
          opusDecoder :=
            if slot.audioRouted = true ∧ slot.audioCodec = rdpAudioCodecOpus then
              some ⟨slot.audioSampleRate, slot.audioChannels,
                if data = [] then packets else packets ++ [data]⟩
            else slot.opusDecoder },
        if slot.audioRouted then
          played opus (slot.audioCodec, slot.audioSampleRate, slot.audioChannels) packets data tsMs
        else []) := by
  obtain ⟨routed, codec, sampleRate, channels, decoder⟩ := slot
  dsimp only at hdecoder ⊢
  rw [AudioSlot.onAudioData]
  cases routed with
  | false =>
    rw [if_pos (.inr rfl)]
    simp
  | true =>
    rcases hdecoder rfl with ⟨rfl, rfl⟩ | ⟨rfl, rfl⟩
    · have hpcm : ¬rdpAudioCodecPcmS16le = rdpAudioCodecOpus := by decide
      by_cases hempty : data = []
      · subst hempty
        simp [hpcm, played, pushFrames_nil]
      · simp [hempty, hpcm, played]
    · by_cases hempty : data = []
      · simp [hempty, played]
      · simp [hempty, played]

theorem played_format (format : PlayFormat) (packets : List Bytes) (data : Bytes) (tsMs : UInt32)
    (set : Option (UInt32 × UInt16)) :
    (played opus format packets data tsMs).foldl formatAfter set = set := by
  rw [played]
  split
  · split
    · rfl
    · exact pushFrames_format ..
  · exact pushFrames_format ..

/-- A chunk is played as the log has it. -/
theorem Joined.data (h : Joined opus path) (answers : FormatAnswers) (data : Bytes) (tsMs : UInt32)
    (hplays : Plays path.heard data tsMs) :
    Joined opus (path.hear opus answers (.callback (.audioData data tsMs))) := by
  obtain ⟨wave, format, current, hwave, hdata, hts, hformat, hplay, hcurrent⟩ := hplays
  obtain ⟨told, htold⟩ := h.agreed current hcurrent
  have htaken := h.taken current told htold
  have hagreed : ∀ current, announced (path.heard ++ [.callback (.audioData data tsMs)]) =
      some current → ∃ told, (stream path.log).1 = some (current, told) := by
    intro current hcurrent
    rw [announced_snoc] at hcurrent
    exact h.agreed current hcurrent
  have hsource := h.source
  simp only [AudioPath.hear, onAudioData_cases data tsMs h.decoder]
  cases hrouted : path.slot.audioRouted with
  | false =>
    rw [hrouted] at hsource htaken
    refine ⟨h.ledger.snoc ?_, ?_, nofun, ?_, nofun, ?_⟩
    · rintro _ _ heq
      cases heq
      exact ⟨wave, format, current, told, hwave, hdata, hts, hformat, hplay, htold,
        .inl ⟨(formatTaken_playable hplay told).1 htaken.symm, hsource, rfl⟩⟩
    · rw [sourceFormat_snoc]
      exact hsource
    · intro next answers hnext
      rw [stream_snoc] at hnext
      exact hrouted.symm.trans (h.taken next answers hnext)
    · intro next hnext
      rw [stream_snoc]
      exact hagreed next hnext
  | true =>
    obtain ⟨told', htold'⟩ := h.told hrouted
    rw [hrouted] at hsource htaken
    obtain ⟨rfl, rfl⟩ := Prod.mk.inj (Option.some.inj (htold.symm.trans htold'))
    have hopen : ¬Refused _ told := fun hrefused =>
      absurd (htaken.trans ((formatTaken_playable hplay told).2 hrefused)) (by decide)
    refine ⟨h.ledger.snoc ?_, ?_, ?_, ?_, ?_, ?_⟩
    · rintro _ _ heq
      cases heq
      exact ⟨wave, format, _, told, hwave, hdata, hts, hformat, hplay, htold,
        .inr ⟨hopen, hsource, rfl⟩⟩
    · rw [sourceFormat_snoc]
      exact (played_format ..).trans hsource
    · intro _
      rw [stream_snoc]
      exact ⟨told, htold⟩
    · intro next answers hnext
      rw [stream_snoc] at hnext
      exact hrouted.symm.trans (h.taken next answers hnext)
    · intro _
      rw [stream_snoc]
      rcases h.decoder hrouted with ⟨hcodec, hnone⟩ | ⟨hcodec, hsome⟩
      · have hpcm : ¬rdpAudioCodecPcmS16le = rdpAudioCodecOpus := by decide
        refine .inl ⟨hcodec, ?_⟩
        rw [if_neg (by rw [hcodec]; exact fun hand => hpcm hand.2)]
        exact hnone
      · refine .inr ⟨hcodec, ?_⟩
        rw [if_pos ⟨rfl, hcodec⟩]
        rfl
    · intro next hnext
      rw [stream_snoc]
      exact hagreed next hnext

/-- The slot hears of the callbacks alone. -/
theorem Joined.other {event : AudioEvent} (h : Joined opus path)
    (hkeeps : ∀ current, announced (path.heard ++ [event]) = some current →
      announced path.heard = some current) :
    Joined opus { path with heard := path.heard ++ [event] } :=
  { h with agreed := fun current hcurrent => h.agreed current (hkeeps current hcurrent) }

theorem Joined.hear (h : Joined opus path) (answers : FormatAnswers) (event : AudioEvent)
    (hplays : ∀ data tsMs, event = .callback (.audioData data tsMs) →
      Plays path.heard data tsMs) :
    Joined opus (path.hear opus answers event) := by
  cases event with
  | callback call =>
    cases call with
    | audioFormat codec sampleRate channels => exact h.format answers codec sampleRate channels
    | audioData data tsMs => exact h.data answers data tsMs (hplays data tsMs rfl)
  | sent pdu =>
    refine h.other fun current hcurrent => ?_
    rw [announced_snoc] at hcurrent
    exact hcurrent
  | received pdu =>
    refine h.other fun current hcurrent => ?_
    rw [announced_snoc] at hcurrent
    cases pdu with
    | audioFormat => cases hcurrent
    | close => cases hcurrent
    | _ => exact hcurrent

/-- A payload's events, one after another. -/
theorem Joined.foldl {events : List AudioEvent} (h : Joined opus path) (answers : FormatAnswers)
    (hconsistent : Consistent (path.heard ++ events)) :
    Joined opus (events.foldl (AudioPath.hear opus answers) path) ∧
      (events.foldl (AudioPath.hear opus answers) path).heard = path.heard ++ events := by
  induction events generalizing path with
  | nil => exact ⟨h, (List.append_nil _).symm⟩
  | cons event events ih =>
    have hheard : (path.hear opus answers event).heard = path.heard ++ [event] := by
      cases event with
      | callback call => cases call <;> rfl
      | _ => rfl
    have hnext : Joined opus (path.hear opus answers event) :=
      h.hear answers event fun data tsMs heq => hconsistent _ _ _ rfl data tsMs heq
    have hrest := ih hnext (by rw [hheard, List.append_assoc]; exact hconsistent)
    rw [hheard, List.append_assoc] at hrest
    exact hrest

theorem path_step {next : AudioPath} {action : PathAction} {e : Unit}
    (h : Joined opus path ∧ Logged path.heard path.handler)
    (hstep : (audioPath decode preferPcm opus).step path action = some (next, e)) :
    Joined opus next ∧ Logged next.heard next.handler := by
  obtain ⟨hjoined, hlogged⟩ := h
  cases action with
  | payload bytes answers =>
    obtain rfl := congrArg Prod.fst (Option.some.inj hstep)
    have hprocessed := process_logged decode hlogged bytes
    obtain ⟨hheard, hevents⟩ := hjoined.foldl answers hprocessed.consistent
    refine ⟨{ hheard with }, ?_⟩
    dsimp only
    rw [hevents]
    exact hprocessed
  | reopen =>
    obtain rfl := congrArg Prod.fst (Option.some.inj hstep)
    exact ⟨{ hjoined with agreed := nofun }, Logged.init⟩
  | stop =>
    obtain rfl := congrArg Prod.fst (Option.some.inj hstep)
    refine ⟨⟨hjoined.ledger.snoc nofun, ?_, nofun, ?_, nofun, nofun⟩, Logged.init⟩
    · dsimp only
      rw [sourceFormat_snoc]
      rfl
    · intro format answers htold
      dsimp only at htold
      rw [stream_snoc] at htold
      cases htold

section Result

variable {tr : List (PathAction × Unit)}

theorem run_joined (hrun : (audioPath decode preferPcm opus).Run tr path) :
    Joined opus path ∧ Logged path.heard path.handler :=
  hrun.invariant ⟨Joined.start _, Logged.init⟩ fun _ _ _ _ => path_step

/-- In every run, over new channels and new sessions: a chunk is the data of the wave in
hand. It goes to the mixer when the source has the format of that wave and nowhere when
the source is closed, and the decoder has seen the packets of this stream and no others. -/
theorem chunks_in_format (hrun : (audioPath decode preferPcm opus).Run tr path) :
    Throughout (Sounds opus) path.log ∧
      sourceFormat path.log =
        if path.slot.audioRouted then some (path.slot.audioSampleRate, path.slot.audioChannels)
        else none :=
  ⟨(run_joined hrun).1.ledger, (run_joined hrun).1.source⟩

/-- A decoder that knows a list of two formats, a wave in each of them and the end. -/
def mixedDecode : Bytes → Option ServerAudioOutputPdu
  | [7] => some (.audioFormat .v5 [opus48, pcm44])
  | 13 :: block :: data =>
    some (.wave2 {
      timestamp := 100, formatNo := if data.length < 4 then 0 else 1, blockNo := block
      audioTimestamp := 5000, data })
  | [1] => some .close
  | _ => none

/-- A library that makes as many frames as it has seen packets. -/
def countingOpus : OpusLibrary := fun _ _ packets => (packets.length, fun _ => 0)

/-- Two waves in Opus, one in PCM, a stop, and a pipeline that is not there. -/
def mixedStreams : List PathAction :=
  [.payload [7] {}, .payload [13, 0, 9] {}, .payload [13, 1, 9] {},
    .payload [13, 2, 1, 2, 3, 4] {}, .stop, .payload [7] {},
    .payload [13, 3, 9] { pipelineReady := false }]

theorem chunks_in_format_mixed : ∃ (tr : List (PathAction × Unit)) (path : AudioPath),
    (audioPath mixedDecode false countingOpus).Run tr path ∧
      path.log.map (fun entry => entry.calls.length) = [1, 1, 1, 1, 1, 1, 2, 0] ∧
      Throughout (Sounds countingOpus) path.log ∧
      sourceFormat path.log =
        if path.slot.audioRouted then some (path.slot.audioSampleRate, path.slot.audioChannels)
        else none := by
  have hrun := Machine.run_of_exec (M := audioPath mixedDecode false countingOpus) mixedStreams
    (by decide +kernel)
  exact ⟨_, _, hrun, by decide +kernel, chunks_in_format hrun⟩

end Result

end Lgnome.Audio
