import Lgnome.Transport.Session
import Lgnome.Credssp.Release

/-!
# Every run of the transport

However the stream is cut into reads and writes, and wherever the session stops, times out or
fails: the messages of all phases and the buffer are the stream as it was read, each message is
the one that its framer finds there, and the stream takes a beginning of the frames.
-/
namespace Lgnome.Transport

open Lgnome.Credssp (Chunk Crypto CredsspConfig maxTransportBufferSize)
open Lgnome.Worker (NativeError)
open Lgnome.Transition (Prog Contract Config Machine Turn parties Ends)
open Lgnome.Transition.Contract (Safe)

/-- The buffer is what the messages left of the bytes that were read, and the stream took no
bytes but those of the frames, in order. -/
structure Wired (w : Wire) : Prop where
  cut : Cuts w.taken w.received w.inbuf
  bounded : w.inbuf.length ≤ maxTransportBufferSize
  sent : w.sent <+: w.frames.flatten

/-- Every frame was written to its end. -/
def Going (w : Wire) : Prop := w.sent = w.frames.flatten

/-- There is one worker, and nobody else touches its buffer. -/
def contract : Contract Unit Wire where
  inv := Wired
  rely _ s t := t = s
  guar _ _ _ := True
  rest _ _ := True
  rely_refl _ _ := rfl
  guar_refl _ _ := trivial
  rely_trans _ _ _ _ h h' := h'.trans h
  guar_rely _ _ _ _ hne := absurd rfl hne
  rest_stable _ _ _ _ _ := trivial

theorem stable (A : Wire → Prop) : contract.Stable () A := by
  rintro s t rfl _ hs
  exact hs

/-- A part of a session: what it takes and writes is in order, and as long as it does not fail
its frames are written to their end. -/
def Orderly {α : Type} (q : Attempt α) : Prop :=
  ∀ s, Going s → contract.Safe () q (Ends fun _ => Going) s

/-! ## Rules -/

section Rules

variable {α β γ : Type}

theorem Orderly.andThen {q : Attempt α} {k : α → Attempt β} (h : Orderly q)
    (hk : ∀ a, Orderly (k a)) : Orderly (q.andThen k) :=
  fun s hs => Safe.andThen (h s hs) fun a t ht => hk a t ht

theorem Orderly.result (r : Except NativeError α) : Orderly (Prog.result r) :=
  fun _ hs => Safe.result fun _ _ => hs

theorem Orderly.ask {f : Answer → β} {k : β → Attempt α} (hk : ∀ b, Orderly (k b)) :
    Orderly ((Prog.ask f).bind k) := by
  intro s hs
  apply Safe.bind
  apply Safe.ask
  rintro t rfl _ i
  exact hk (f i) t hs

theorem Orderly.repeatUntil {round : γ → Attempt (γ ⊕ α)} (h : ∀ g, Orderly (round g))
    (start : γ) : Orderly (Prog.repeatUntil round start) := by
  intro s hs
  refine Safe.repeatUntil (fun _ => Going) (fun _ => stable Going) hs ?_
  intro g t ht
  apply (h g t ht).mono
  intro r u hu
  refine Ends.mono hu ?_
  rintro (g' | a) hgoing
  · exact hgoing
  · exact hgoing

theorem Orderly.act {f : Answer → Wire → Except NativeError α × Wire}
    (hf : ∀ i w, Wired w → Wired (f i w).2 ∧ (Going w → Going (f i w).2)) :
    Orderly (Prog.act f) := by
  intro s hs
  apply Safe.act
  rintro t rfl hinv i
  obtain ⟨hwired, hgoing⟩ := hf i t hinv
  refine ⟨hwired, trivial, ?_⟩
  cases (f i t).1 with
  | error e => trivial
  | ok a => exact hgoing hs

end Rules

/-! ## Reading -/

theorem pollStop_orderly (message : String) : Orderly (pollStop message) :=
  .ask fun _ => .result _

theorem checkPhaseDeadline_orderly (label : String) : Orderly (checkPhaseDeadline label) :=
  .ask fun _ => .result _

/-- A read adds to the buffer what it adds to the stream. -/
theorem Wired.read {w : Wire} (h : Wired w) (closed failed : String) (answer : ReadResult) :
    Wired (w.read closed failed answer).2 ∧
      (Going w → Going (w.read closed failed answer).2) := by
  unfold Wire.read
  cases answer with
  | closed => exact ⟨h, id⟩
  | timeout => exact ⟨h, id⟩
  | failed message => exact ⟨h, id⟩
  | bytes chunk =>
    by_cases hlimit : maxTransportBufferSize < w.inbuf.length + chunk.bytes.length
    · simp only [appendInput, if_pos hlimit]
      exact ⟨h, id⟩
    · simp only [appendInput, if_neg hlimit]
      refine ⟨⟨h.cut.append chunk.bytes, ?_, h.sent⟩, id⟩
      rw [List.length_append]
      omega

theorem readStream_orderly (closed failed : String) : Orderly (readStream closed failed) :=
  .act fun i _ h => h.read closed failed i.read

theorem readMore_orderly (label : String) : Orderly (readMore label) :=
  (checkPhaseDeadline_orderly label).andThen fun _ => readStream_orderly _ _

/-- A message that is taken is the framer's. -/
theorem Wired.take {w : Wire} (h : Wired w) (f : Framer String) (invalid : String → NativeError)
    (tooLong : Option NativeError) :
    Wired (w.take f invalid tooLong).2 ∧ (Going w → Going (w.take f invalid tooLong).2) := by
  unfold Wire.take
  cases hsize : f.size w.inbuf with
  | error e => exact ⟨h, id⟩
  | ok found =>
    cases found with
    | none => exact ⟨h, id⟩
    | some size =>
      dsimp only
      cases tooLong.filter fun _ => maxTransportBufferSize < size with
      | some e => exact ⟨h, id⟩
      | none =>
        dsimp only
        by_cases hwhole : size ≤ w.inbuf.length
        · rw [if_pos hwhole]
          refine ⟨⟨h.cut.snoc (Framer.takes_of_size hsize hwhole), ?_, h.sent⟩, id⟩
          have hbounded := h.bounded
          dsimp only
          rw [List.length_drop]
          omega
        · rw [if_neg hwhole]
          exact ⟨h, id⟩

theorem takeMessage_orderly (f : Framer String) (invalid : String → NativeError)
    (tooLong : Option NativeError) : Orderly (takeMessage f invalid tooLong) :=
  .act fun _ _ h => h.take f invalid tooLong

theorem readHintedPdu_orderly (hint : Framer String) (label : String) :
    Orderly (readHintedPdu hint label) := by
  refine .repeatUntil (fun _ => ?_) ()
  refine (pollStop_orderly _).andThen fun _ => ?_
  refine (checkPhaseDeadline_orderly _).andThen fun _ => ?_
  refine (takeMessage_orderly _ _ _).andThen fun found => ?_
  cases found with
  | some pdu => exact .result _
  | none => exact (readMore_orderly label).andThen fun _ => .result _

theorem readTsRequest_orderly : Orderly readTsRequest := by
  refine .repeatUntil (fun _ => ?_) ()
  refine (pollStop_orderly _).andThen fun _ => ?_
  refine (takeMessage_orderly _ _ _).andThen fun found => ?_
  cases found with
  | some request => exact .result _
  | none => exact (readMore_orderly _).andThen fun _ => .result _

theorem readEarlyUserAuthResult_orderly : Orderly readEarlyUserAuthResult := by
  refine .andThen (.repeatUntil (fun _ => ?_) ()) fun _ => .result _
  refine (takeMessage_orderly _ _ _).andThen fun found => ?_
  cases found with
  | some bytes => exact .result _
  | none =>
    refine (pollStop_orderly _).andThen fun _ => ?_
    exact (readMore_orderly _).andThen fun _ => .result _

/-! ## Writing -/

/-- The stream has taken the frames up to what is still to be written. -/
def Pending (pending : Bytes) (w : Wire) : Prop := w.sent ++ pending = w.frames.flatten

theorem Wired.write {w : Wire} {pending : Bytes} (h : Wired w) (hp : Pending pending w)
    (label : String) (answer : WriteResult) :
    Wired (w.write label answer pending).2 ∧
      Ends (fun x t => Sum.elim (fun rest => Pending rest t) (fun _ => Going t) x)
        (w.write label answer pending).1 (w.write label answer pending).2 := by
  unfold Wire.write
  cases answer with
  | timeout => exact ⟨h, hp⟩
  | failed message => exact ⟨h, trivial⟩
  | wrote n =>
    dsimp only
    by_cases hdone : pending = []
    · rw [if_pos hdone]
      refine ⟨h, ?_⟩
      unfold Pending at hp
      rw [hdone, List.append_nil] at hp
      exact hp
    rw [if_neg hdone]
    by_cases hzero : n = 0
    · rw [if_pos hzero]
      exact ⟨h, trivial⟩
    rw [if_neg hzero]
    have hrest : (w.sent ++ pending.take n) ++ pending.drop n = w.frames.flatten := by
      rw [List.append_assoc, List.take_append_drop]
      exact hp
    exact ⟨⟨h.cut, h.bounded, _, hrest⟩, hrest⟩

theorem writeRound_safe {s : Wire} {pending : Bytes} (hp : Pending pending s) (label : String) :
    contract.Safe () (writeRound label pending)
      (Ends fun x t => Sum.elim (fun rest => Pending rest t) (fun _ => Going t) x) s := by
  refine Safe.andThen (Q := fun _ => Pending pending) ?_ ?_
  · apply Safe.bind
    apply Safe.ask
    rintro t rfl _ i
    exact Safe.result fun _ _ => hp
  intro _ t ht
  refine Safe.andThen (Q := fun _ => Pending pending) ?_ ?_
  · apply Safe.bind
    apply Safe.ask
    rintro u rfl _ i
    exact Safe.result fun _ _ => ht
  intro _ u hu
  apply Safe.act
  rintro v rfl hinv i
  obtain ⟨hwired, hends⟩ := Wired.write hinv hu label i.write
  exact ⟨hwired, trivial, hends⟩

theorem writeAll_orderly (bytes : Bytes) (label : String) : Orderly (writeAll bytes label) := by
  intro s hs
  unfold writeAll
  split
  · exact Orderly.result (.ok ()) s hs
  apply Safe.bind
  apply Safe.store
  rintro t rfl hinv
  have hflatten : (t.frames ++ [bytes]).flatten = t.frames.flatten ++ bytes := by
    rw [List.flatten_append, List.flatten_singleton]
  have hwired : Wired t := hinv
  refine ⟨⟨hwired.cut, hwired.bounded, ?_⟩, trivial, ?_⟩
  · dsimp only
    rw [hflatten]
    exact hwired.sent.trans (List.prefix_append _ _)
  · refine Safe.repeatUntil Pending (fun _ => stable _) ?_ fun pending u hu =>
      writeRound_safe hu label
    unfold Pending
    rw [hflatten]
    exact congrArg (· ++ bytes) hs

theorem writeFrames_orderly (label : String) (frames : List Bytes) :
    Orderly (writeFrames label frames) := by
  induction frames with
  | nil => exact .result _
  | cons frame frames ih => exact (writeAll_orderly frame label).andThen fun _ => ih

/-! ## The phases -/

section Phases

variable (lib : Library) (crypto : Crypto) (config : CredsspConfig)

theorem readPdu_orderly (hint : Option (Framer String)) (missing label : String) :
    Orderly (readPdu hint missing label) := by
  cases hint with
  | none => exact .result _
  | some hint => exact readHintedPdu_orderly hint label

theorem sendX224Request_orderly (connector : lib.Connector) :
    Orderly (sendX224Request lib connector) := by
  refine (Orderly.result _).andThen fun (connector, out) => ?_
  refine (writeAll_orderly _ _).andThen fun _ => ?_
  refine (readPdu_orderly _ _ _).andThen fun confirm => ?_
  refine (Orderly.result _).andThen fun (connector, out) => ?_
  exact (writeAll_orderly _ _).andThen fun _ => .result _

theorem upgradeTls_orderly : Orderly upgradeTls := by
  refine .repeatUntil (fun _ => ?_) ()
  refine (checkPhaseDeadline_orderly _).andThen fun _ => ?_
  refine (pollStop_orderly _).andThen fun _ => ?_
  refine .ask fun round => ?_
  cases round with
  | goesOn => exact .result _
  | done publicKey => exact .result _
  | failed message => exact .result _

theorem credsspDone_orderly (connector : lib.Connector) : Orderly (credsspDone lib connector) := by
  unfold credsspDone
  split
  · exact readEarlyUserAuthResult_orderly.andThen fun _ => .result _
  · exact .result _

theorem runCredssp_orderly (connector : lib.Connector) (publicKey : Bytes) :
    Orderly (runCredssp lib crypto config connector publicKey) := by
  refine .ask fun entropy => ?_
  cases entropy with
  | error e => exact .result _
  | ok entropy =>
    refine (writeAll_orderly _ _).andThen fun _ => .repeatUntil (fun client => ?_) _
    unfold credsspRound
    split
    · exact .result _
    refine readTsRequest_orderly.andThen fun request => .ask fun now => ?_
    refine (Orderly.result _).andThen fun (next, done) => ?_
    refine (writeAll_orderly _ _).andThen fun _ => ?_
    split
    · exact (credsspDone_orderly lib _).andThen fun _ => .result _
    · exact .result _

theorem pumpConnector_orderly (connector : lib.Connector) :
    Orderly (pumpConnector lib connector) := by
  refine .repeatUntil (fun connector => ?_) connector
  refine (checkPhaseDeadline_orderly _).andThen fun _ => ?_
  refine (pollStop_orderly _).andThen fun _ => ?_
  cases lib.connected connector with
  | some active => exact .result _
  | none =>
    refine .andThen ?_ fun (connector, out) => (writeAll_orderly _ _).andThen fun _ => .result _
    cases lib.nextPduHint connector with
    | some hint => exact (readHintedPdu_orderly hint _).andThen fun _ => .result _
    | none => exact .result _

theorem driveReactivation_orderly (active : lib.Active) :
    Orderly (driveReactivation lib active) := by
  unfold driveReactivation
  cases lib.createActivation active with
  | none => exact .result _
  | some seq =>
    refine .repeatUntil (fun seq => ?_) seq
    refine (checkPhaseDeadline_orderly _).andThen fun _ => ?_
    refine (pollStop_orderly _).andThen fun _ => ?_
    split
    · cases lib.reactivate active seq with
      | none => exact .result _
      | some active => exact .result _
    refine .andThen ?_ fun (seq, out) => (writeAll_orderly _ _).andThen fun _ => .result _
    cases lib.activationHint seq with
    | some hint => exact (readHintedPdu_orderly hint _).andThen fun _ => .result _
    | none => exact .result _

theorem handleActiveOutputs_orderly (outputs : List Output) (deactivate : Bool) :
    Orderly (handleActiveOutputs deactivate outputs) := by
  induction outputs generalizing deactivate with
  | nil => exact .result _
  | cons output outputs ih =>
    cases output with
    | responseFrame frame => exact (writeAll_orderly frame _).andThen fun _ => ih deactivate
    | terminate reason text => exact .result _
    | deactivateAll => exact ih true
    | other => exact ih deactivate

theorem drain_orderly (label : String) : Orderly (drain label) := by
  refine .ask fun (fails, outgoing) => ?_
  cases fails with
  | some e => exact .result _
  | none => exact writeFrames_orderly label outgoing

theorem frameRound_orderly (active : lib.Active) : Orderly (frameRound lib active) := by
  refine (takeMessage_orderly _ _ _).andThen fun found => ?_
  cases found with
  | none => exact .result _
  | some frame =>
    refine (Orderly.result _).andThen fun (active, outputs) => ?_
    refine (handleActiveOutputs_orderly _ _).andThen fun deactivate => ?_
    refine (drain_orderly _).andThen fun _ => ?_
    refine (Orderly.result _).andThen fun (active, frames) => ?_
    refine (writeFrames_orderly _ _).andThen fun _ => ?_
    split
    · exact (driveReactivation_orderly lib _).andThen fun _ => .result _
    · exact .result _

theorem runActive_orderly (active : lib.Active) : Orderly (runActive lib active) := by
  refine .repeatUntil (fun active => .ask fun stop => ?_) active
  split
  · exact .result _
  refine (drain_orderly _).andThen fun _ => (drain_orderly _).andThen fun _ => .ask fun stop => ?_
  split
  · exact .result _
  refine (drain_orderly _).andThen fun _ => ?_
  refine (Orderly.repeatUntil (frameRound_orderly lib) active).andThen fun active => ?_
  exact (readStream_orderly _ _).andThen fun _ => .result _

theorem runSecured_orderly (connector : lib.Connector) :
    Orderly (runSecured lib crypto config connector) := by
  refine upgradeTls_orderly.andThen fun publicKey => ?_
  dsimp only
  split
  · refine (runCredssp_orderly lib crypto config _ publicKey).andThen fun connector => ?_
    exact (pumpConnector_orderly lib connector).andThen fun active => runActive_orderly lib active
  · exact .result _

theorem runSession_orderly : Orderly (runSession lib crypto config) := by
  refine .ask fun connects => ?_
  match connects with
  | .error e => exact .result _
  | .ok false => exact .result _
  | .ok true =>
    refine (sendX224Request_orderly lib _).andThen fun connector => .ask fun stop => ?_
    split
    · exact .result _
    · exact runSecured_orderly lib crypto config connector

/-- A new connection starts with an empty buffer. -/
theorem resetSessionState_safe (s : Wire) :
    contract.Safe () resetSessionState (fun _ => Going) s := by
  apply Safe.store
  intro t _ _
  exact ⟨⟨.nil [], Nat.zero_le _, List.prefix_rfl⟩, trivial, rfl⟩

theorem runAttempts_safe (left attempt : Nat) {s : Wire} (hs : Going s) :
    contract.Safe () (runAttempts lib crypto config attempt left) (fun _ _ => True) s := by
  induction left generalizing attempt s with
  | zero => trivial
  | succ left ih =>
    refine Safe.seq (runSession_orderly lib crypto config s hs) ?_
    intro r t _
    cases r with
    | ok _ => trivial
    | error e =>
      apply Safe.bind
      apply Safe.ask
      rintro u rfl _ i
      split
      · exact Safe.seq (resetSessionState_safe u) fun _ v hv => ih (attempt + 1) hv
      · trivial

end Phases

/-! ## The results -/

/-- A worker starts whenever there is none. -/
abbrev transport (lib : Library) (crypto : Crypto) (config : CredsspConfig) :
    Machine (Config Unit Answer Wire) (Turn Unit Answer fun _ => Unit) Unit :=
  parties {} fun _ _ => run lib crypto config

variable {lib : Library} {crypto : Crypto} {config : CredsspConfig}
  {tr tr' : List (Turn Unit Answer (fun _ => Unit) × Unit)} {s s' : Config Unit Answer Wire}

theorem wired_run (h : (transport lib crypto config).Run tr s) : Wired s.shared := by
  refine (Contract.kept_run (C := contract) ?_ (fun _ => trivial) ?_ h).inv
  · exact ⟨.nil [], Nat.zero_le _, List.prefix_rfl⟩
  · intro _ _ t _ _
    exact Safe.seq (resetSessionState_safe t) fun _ u hu =>
      runAttempts_safe lib crypto config _ 1 hu

/-- The length that stands in the header of an X.224 message. -/
def x224Framer : Framer String where
  size
    | version :: _ :: high :: low :: _ =>
      if version = 3 then .ok (some (high.toNat * 256 + low.toNat))
      else .error "not an X.224 message"
    | _ => .ok none
  stable a _ h := by
    match a with
    | _ :: _ :: _ :: _ :: _ => rfl
    | [] | [_] | [_, _] | [_, _, _] => exact absurd rfl h

/-- A connector that asks for the security of CredSSP and is granted it. -/
def negotiation : Library where
  Connector := Nat
  new := 0
  nextPduHint _ := some x224Framer
  step connector _ := .ok (connector + 1, [])
  stepNoInput connector := .ok (connector + 1, [3, 0, 0, 5, 0xe0])
  shouldPerformSecurityUpgrade connector := connector == 2
  markSecurityUpgradeAsDone := id
  shouldPerformCredssp _ := true
  selectsHybridEx _ := false
  markCredsspAsDone := id
  Active := Unit
  connected _ := none
  findSize := x224Framer
  process active _ := .ok (active, [])
  requestFullRedraw active := .ok (active, [])
  Activation := Unit
  createActivation _ := none
  activationHint _ := none
  activationStep seq _ := .ok (seq, [])
  activationStepNoInput seq := .ok (seq, [])
  isFinalized _ := true
  reactivate active _ := some active

/-- The confirm comes in two reads, the second of which holds the first byte of the CredSSP
message. -/
def confirmTurns : List (Turn Unit Answer fun _ => Unit) :=
  let quiet : Answer := { write := .wrote 99, entropy := .ok ⟨[], [], []⟩ }
  let read (chunk : Chunk) : List (Turn Unit Answer fun _ => Unit) :=
    [.step () { quiet with read := .bytes chunk }]
  let pause (n : Nat) : List (Turn Unit Answer fun _ => Unit) := List.replicate n (.step () quiet)
  [.call () ()] ++ pause 16 ++ read ⟨[3, 0], by decide, by decide⟩ ++ pause 5 ++
    read ⟨[0, 5, 0xd0, 0x30], by decide, by decide⟩ ++ pause 24 ++
    read ⟨[1, 0], by decide, by decide⟩ ++ pause 3

end Lgnome.Transport
