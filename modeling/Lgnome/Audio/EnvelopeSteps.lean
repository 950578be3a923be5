import Lgnome.Audio.Envelope

/-!
# What the reader's stores do to the envelope

The contract of the two threads beside the reader's ledger, and one lemma for
each store of the reader that can be heard or that moves a fade counter.
-/
namespace Lgnome.Audio

open Lgnome.Transition (Prog Contract)

/-! ## The contract -/

/-- The reader is live or rebuffering, and its counters agree with the marks. -/
structure Tracked (x : Source × Watch) : Prop where
  paired : x.1.consumer.rebuffering = !x.1.consumer.live
  sound : x.2.clean = true → Sound x.1.consumer x.2.marks

/-- The producer leaves the reader and its ledger alone. -/
def Apart (x y : Source × Watch) : Prop := y.1.consumer = x.1.consumer ∧ y.2 = x.2

theorem Tracked.apart {x y : Source × Watch} (h : Tracked x) (hxy : Apart x y) : Tracked y := by
  obtain ⟨hc, hw⟩ := hxy
  refine ⟨?_, ?_⟩
  · rw [hc]
    exact h.paired
  · rw [hc, hw]
    exact h.sound

def watchContract : Contract Thread (Source × Watch) where
  inv x := x.1.producer.pendingSampleRate ≠ 0 ∧ Heard x.2
  rely
    | .producer => fun _ _ => True
    | .consumer => Apart
  guar
    | .producer => Apart
    | .consumer => fun _ _ => True
  rest
    | .producer => fun _ => True
    | .consumer => Tracked
  rely_refl thread x := by
    cases thread with
    | producer => trivial
    | consumer => exact ⟨rfl, rfl⟩
  guar_refl thread x := by
    cases thread with
    | producer => exact ⟨rfl, rfl⟩
    | consumer => trivial
  rely_trans thread x y z h h' := by
    cases thread with
    | producer => trivial
    | consumer => exact ⟨h'.1.trans h.1, h'.2.trans h.2⟩
  guar_rely p q x y hne h := by
    cases p <;> cases q <;> first | exact h | trivial
  rest_stable thread x y hxy h := by
    cases thread with
    | producer => trivial
    | consumer => exact Tracked.apart h hxy

/-- A program of the reader beside its ledger. -/
abbrev Reader {α : Type} (q : Prog Answer Source α) (post : α → Source × Watch → Prop)
    (x : Source × Watch) : Prop :=
  watchContract.Watched .consumer Watch.note q post x

/-! ## Actions nobody hears -/

/-- The ledger after an action that is not heard. -/
def Watch.look (i : Answer) (s : Source) (w : Watch) : Watch :=
  { w with looked := w.looked ++ [⟨i, s⟩] }

/-- A step of the reader that leaves the flags, the counters and the producer alone, and skips
frames at most of an older format or talkspurt. -/
structure Unheard (s t : Source) : Prop where
  producer : t.producer = s.producer
  fades : SameFades s.consumer t.consumer
  events : ∃ events, t.consumer.taken.log = s.consumer.taken.log ++ events ∧
    ∀ event ∈ events, ∃ why start upto, why ≠ .trim ∧ event = .skipped why start upto

theorem Unheard.of_log {s t : Source} (hproducer : t.producer = s.producer)
    (hfades : SameFades s.consumer t.consumer)
    (hlog : t.consumer.taken.log = s.consumer.taken.log) : Unheard s t :=
  ⟨hproducer, hfades, [], hlog.trans (List.append_nil _).symm, fun _ h => absurd h List.not_mem_nil⟩

theorem Unheard.refl (s : Source) : Unheard s s := .of_log rfl (.refl _) rfl

theorem unheard_takePendingSampleRate (s : Source) : Unheard s s.takePendingSampleRate :=
  .of_log rfl { SameFades.refl s.consumer with } rfl

theorem unheard_takePendingChannels (s : Source) : Unheard s s.takePendingChannels :=
  .of_log rfl { SameFades.refl s.consumer with } rfl

theorem unheard_loadResetCursor (s : Source) : Unheard s s.loadResetCursor :=
  .of_log rfl { SameFades.refl s.consumer with } rfl

theorem unheard_loadFormatGeneration (s : Source) : Unheard s s.loadFormatGeneration :=
  .of_log rfl { SameFades.refl s.consumer with } rfl

theorem unheard_storeTrimRequested (requested : Bool) (s : Source) :
    Unheard s (s.storeTrimRequested requested) :=
  .of_log rfl (.refl _) rfl

theorem unheard_bumpUnderruns (s : Source) : Unheard s s.bumpUnderruns :=
  .of_log rfl { SameFades.refl s.consumer with } rfl

theorem unheard_raiseTarget (desiredMs : UInt32) (s : Source) :
    Unheard s (s.raiseTarget desiredMs) := by
  unfold Source.raiseTarget
  dsimp only
  split
  · exact .of_log rfl (.refl _) rfl
  · exact .refl s

theorem fresh_eq {s t : Consumer} {events : List Event}
    (h : t.taken.log = s.taken.log ++ events) : fresh s t = events := by
  rw [fresh, h, List.drop_left]

theorem fresh_same {s t : Consumer} (h : t.taken.log = s.taken.log) : fresh s t = [] :=
  fresh_eq (h.trans (List.append_nil _).symm)

theorem Clean.of_same {s t : Consumer} (h : SameFades s t) : Clean s t := by
  refine ⟨?_, ?_⟩
  · intro hfalse htrue
    rw [h.trimAfterFade, hfalse] at htrue
    cases htrue
  · intro hlive hdead
    rw [h.live, hlive] at hdead
    cases hdead

theorem note_clean {i : Answer} {s t : Source} {w : Watch}
    (h : (w.note i s t).clean = true) : w.clean = true ∧ Clean s.consumer t.consumer := by
  simpa [Watch.note] using h

theorem not_stops {s t : Consumer} (hlive : t.live = s.live)
    (happlied : t.appliedGeneration = s.appliedGeneration)
    (hseen : t.seenTalkspurtGeneration = s.seenTalkspurtGeneration) : ¬ Stops s t := by
  rintro (⟨hs, ht⟩ | hne | hne)
  · rw [hlive, hs] at ht
    cases ht
  · exact hne happlied
  · exact hne hseen

/-- The flags stay, so the marks are those of the events. -/
theorem newMarks_same {s t : Consumer} (looked : List Moment) {events : List Event}
    (hlive : t.live = s.live) (happlied : t.appliedGeneration = s.appliedGeneration)
    (hseen : t.seenTalkspurtGeneration = s.seenTalkspurtGeneration)
    (hlog : t.taken.log = s.taken.log ++ events) :
    newMarks looked s t = (events.filterMap (Event.mark s.live)).reverse := by
  have hboth : ¬ (s.live = false ∧ t.live = true) := by
    rintro ⟨hs, ht⟩
    rw [hlive, hs] at ht
    cases ht
  rw [newMarks, if_neg (not_stops hlive happlied hseen), if_neg hboth, fresh_eq hlog]
  rfl

theorem Unheard.note {s t : Source} (h : Unheard s t) (i : Answer) (w : Watch) :
    w.note i s t = w.look i s := by
  obtain ⟨events, hlog, hskip⟩ := h.events
  have hmarks : events.filterMap (Event.mark s.consumer.live) = [] := by
    rw [List.filterMap_eq_nil_iff]
    intro event hmem
    obtain ⟨why, start, upto, hne, rfl⟩ := hskip event hmem
    cases why with
    | trim => exact absurd rfl hne
    | format => rfl
    | talkspurt => rfl
  have hconversions : events.filterMap (Event.conversion s.consumer.live) = [] := by
    rw [List.filterMap_eq_nil_iff]
    intro event hmem
    obtain ⟨why, start, upto, -, rfl⟩ := hskip event hmem
    rfl
  have houtput : events.any Event.isOutput = false := by
    rw [List.any_eq_false]
    intro event hmem
    obtain ⟨why, start, upto, -, rfl⟩ := hskip event hmem
    exact Bool.false_ne_true
  have hclean : (w.clean && decide (Clean s.consumer t.consumer)) = w.clean := by
    rw [decide_eq_true (.of_same h.fades), Bool.and_true]
  simp only [Watch.note, Watch.look, newMarks_same w.looked h.fades.live h.fades.applied
    h.fades.seen hlog, hmarks,
    fresh_eq hlog, hconversions, houtput, hclean, List.reverse_nil, List.nil_append,
    Bool.false_eq_true, if_false]

theorem Heard.look {w : Watch} (h : Heard w) (i : Answer) (s : Source) : Heard (w.look i s) :=
  ⟨h.converted, h.ready, h.smooth⟩

variable {α β : Type} {x : Source × Watch}

theorem Reader.act {f : Answer → Source → α × Source} {post : α → Source × Watch → Prop}
    (h : ∀ t i, t.consumer = x.1.consumer → t.producer.pendingSampleRate ≠ 0 → Heard x.2 →
      (f i t).2.producer = t.producer ∧ Heard (x.2.note i t (f i t).2) ∧
        post (f i t).1 ((f i t).2, x.2.note i t (f i t).2)) :
    Reader (Prog.act f) post x := by
  apply Contract.Watched.act
  rintro ⟨t, w⟩ ⟨hc, rfl⟩ ⟨hrate, hheard⟩ i
  obtain ⟨hproducer, hheard', hpost⟩ := h t i hc hrate hheard
  refine ⟨⟨?_, hheard'⟩, trivial, hpost⟩
  rw [hproducer]
  exact hrate

theorem Reader.unheardAct {f : Answer → Source → α × Source} {post : α → Source × Watch → Prop}
    (hf : ∀ i t, Unheard t (f i t).2)
    (h : ∀ t i, t.consumer = x.1.consumer → t.producer.pendingSampleRate ≠ 0 →
      post (f i t).1 ((f i t).2, x.2.look i t)) :
    Reader (Prog.act f) post x := by
  apply Reader.act
  intro t i hc hrate hheard
  have hnote := (hf i t).note i x.2
  rw [hnote]
  exact ⟨(hf i t).producer, hheard.look i t, h t i hc hrate⟩

theorem Reader.load {f : Source → α} {post : α → Source × Watch → Prop}
    (h : ∀ t i, t.consumer = x.1.consumer → t.producer.pendingSampleRate ≠ 0 →
      post (f t) (t, x.2.look i t)) :
    Reader (Prog.load f : Prog Answer Source α) post x :=
  .unheardAct (fun _ t => .refl t) h

theorem Reader.ask {f : Answer → α} {post : α → Source × Watch → Prop}
    (h : ∀ t i, t.consumer = x.1.consumer → post (f i) (t, x.2.look i t)) :
    Reader (Prog.ask f : Prog Answer Source α) post x :=
  .unheardAct (fun _ t => .refl t) fun t i hc _ => h t i hc

theorem Reader.store {f : Source → Source} {post : Unit → Source × Watch → Prop}
    (h : ∀ t i, t.consumer = x.1.consumer → Heard x.2 →
      (f t).producer = t.producer ∧ Heard (x.2.note i t (f t)) ∧
        post () (f t, x.2.note i t (f t))) :
    Reader (Prog.store f : Prog Answer Source Unit) post x :=
  .act fun t i hc _ hheard => h t i hc hheard

/-! ## Where the reader stands -/

/-- The reader's flags and counters are those of `c`, and the ledger is that of `w` but for what
the reader has looked at since. -/
structure At (c : Consumer) (w : Watch) (x : Source × Watch) : Prop where
  fades : SameFades c x.1.consumer
  marks : x.2.marks = w.marks
  clean : x.2.clean = true → w.clean = true
  looked : w.looked.Sublist x.2.looked

variable {c : Consumer} {w : Watch}

theorem At.refl (x : Source × Watch) : At x.1.consumer x.2 x :=
  ⟨.refl _, rfl, id, .refl _⟩

theorem At.unheard (h : At c w x) {s t : Source} (hc : s.consumer = x.1.consumer)
    (hst : Unheard s t) (i : Answer) : At c w (t, x.2.look i s) :=
  ⟨h.fades.trans (hc ▸ hst.fades), h.marks, h.clean,
    h.looked.trans (List.sublist_append_left _ _)⟩

theorem At.look (h : At c w x) {t : Source} (hc : t.consumer = x.1.consumer) (i : Answer) :
    At c w (t, x.2.look i t) :=
  h.unheard hc (.refl t) i

theorem At.apart (h : At c w x) {y : Source × Watch} (hxy : Apart x y) : At c w y := by
  obtain ⟨hc, hw⟩ := hxy
  refine ⟨?_, ?_, ?_, ?_⟩
  · rw [hc]
    exact h.fades
  · rw [hw]
    exact h.marks
  · rw [hw]
    exact h.clean
  · rw [hw]
    exact h.looked

/-- Standing where the counters agreed, they agree. -/
theorem Tracked.of_at {y : Source × Watch} (h : Tracked x) (hat : At x.1.consumer x.2 y) :
    Tracked y where
  paired := by
    rw [hat.fades.rebuffering, hat.fades.live]
    exact h.paired
  sound hclean := by
    rw [hat.marks]
    exact (h.sound (hat.clean hclean)).same hat.fades

/-- A program nobody hears leaves the reader where it stands. -/
theorem Reader.unheard {q : Prog Answer Source α} (hq : q.Keeps Unheard) (h : At c w x) :
    Reader q (fun _ => At c w) x := by
  refine Contract.safe_of_keeps (C := watchContract) (p := .consumer) (A := At c w)
    (fun _ _ hrely _ h => At.apart h hrely) ?_ (hq.noted Watch.note) h
  rintro ⟨s, v⟩ ⟨t, v'⟩ ⟨hst, i, hv⟩ ⟨hrate, hheard⟩ hat
  have hlook : v' = v.look i s := hst.note i v ▸ hv
  subst hlook
  refine ⟨⟨?_, hheard.look i s⟩, trivial, hat.unheard rfl hst i⟩
  rw [hst.producer]
  exact hrate

/-! ## Stores that are heard -/

theorem Heard.push {w w' : Watch} {mark : Mark} (h : Heard w) (hmarks : w'.marks = mark :: w.marks)
    (hconversions : w'.conversions = w.conversions) (hclean : w'.clean = true → w.clean = true)
    (hready : ∀ looked, mark = .wentLive looked → Ready looked)
    (hallowed : w'.clean = true → Allowed w.marks mark) : Heard w' where
  converted := by
    rw [hconversions]
    exact h.converted
  ready looked hmem := by
    rw [hmarks] at hmem
    rcases List.mem_cons.mp hmem with heq | hmem
    · exact hready looked heq.symm
    · exact h.ready looked hmem
  smooth hc := by
    rw [hmarks]
    exact (h.smooth (hclean hc)).cons (hallowed hc)

theorem Heard.same {w w' : Watch} (h : Heard w) (hmarks : w'.marks = w.marks)
    (hconversions : w'.conversions = w.conversions) (hclean : w'.clean = true → w.clean = true) :
    Heard w' where
  converted := by
    rw [hconversions]
    exact h.converted
  ready looked hmem := h.ready looked (hmarks ▸ hmem)
  smooth hc := by
    rw [hmarks]
    exact h.smooth (hclean hc)

section Stores

variable {s t : Source} {i : Answer}

/-- What the ledger takes down of a store that changes flags only. -/
theorem note_flags (hlog : t.consumer.taken.log = s.consumer.taken.log) :
    (w.note i s t).marks = (if Stops s.consumer t.consumer then [.stopped] else []) ++
        (if s.consumer.live = false ∧ t.consumer.live = true then [.wentLive w.looked] else []) ++
        w.marks ∧
      (w.note i s t).conversions = w.conversions := by
  simp [Watch.note, newMarks, fresh_same hlog]

/-- The flags of liveness and the generations stay: nothing is taken down. -/
theorem note_kept (hlog : t.consumer.taken.log = s.consumer.taken.log)
    (hlive : t.consumer.live = s.consumer.live)
    (happlied : t.consumer.appliedGeneration = s.consumer.appliedGeneration)
    (hseen : t.consumer.seenTalkspurtGeneration = s.consumer.seenTalkspurtGeneration) :
    (w.note i s t).marks = w.marks ∧ (w.note i s t).conversions = w.conversions := by
  have hmarks := newMarks_same w.looked hlive happlied hseen
    (hlog.trans (List.append_nil _).symm)
  simp [Watch.note, hmarks, fresh_same hlog]

theorem note_looked (hlog : t.consumer.taken.log = s.consumer.taken.log) :
    (w.note i s t).looked = w.looked ++ [⟨i, s⟩] := by
  simp [Watch.note, fresh_same hlog]

theorem note_stop (hlog : t.consumer.taken.log = s.consumer.taken.log)
    (hstop : Stops s.consumer t.consumer) (hdead : t.consumer.live = false) :
    (w.note i s t).marks = .stopped :: w.marks ∧
      (w.note i s t).conversions = w.conversions := by
  have h := note_flags (w := w) (i := i) hlog
  simpa [if_pos hstop, hdead] using h

/-- A store that stops the source and clears the fades. -/
theorem stop_tracked (hlog : t.consumer.taken.log = s.consumer.taken.log)
    (hstop : Stops s.consumer t.consumer) (hclear : Cleared t.consumer) (hheard : Heard w) :
    Heard (w.note i s t) ∧ Tracked (t, w.note i s t) := by
  obtain ⟨hmarks, hconversions⟩ := note_stop (w := w) (i := i) hlog hstop hclear.live
  refine ⟨hheard.push hmarks hconversions (fun h => (note_clean h).1) (fun _ h => by cases h)
    (fun _ => trivial), ?_, ?_⟩
  · dsimp only
    rw [hclear.rebuffering, hclear.live]
    rfl
  · intro _
    dsimp only
    rw [hmarks]
    exact .stopped hclear

/-! ### Cursor moves -/

theorem note_trim (cursor : UInt32) :
    (w.note i s (s.storeReadCursor cursor (.skipped .trim))).marks =
        .trim s.consumer.live :: w.marks ∧
      (w.note i s (s.storeReadCursor cursor (.skipped .trim))).conversions = w.conversions ∧
      (w.note i s (s.storeReadCursor cursor (.skipped .trim))).looked = w.looked ++ [⟨i, s⟩] := by
  have hmarks := newMarks_same (s := s.consumer)
    (t := (s.storeReadCursor cursor (.skipped .trim)).consumer) w.looked rfl rfl rfl rfl
  simp only [Watch.note, hmarks,
    fresh_eq (s := s.consumer) (t := (s.storeReadCursor cursor _).consumer) rfl]
  exact ⟨rfl, rfl, rfl⟩

theorem note_played (cursor : UInt32) (input : List Frame) :
    (w.note i s (s.storeReadCursor cursor (playedEvent s.consumer input))).marks = w.marks ∧
      (w.note i s (s.storeReadCursor cursor (playedEvent s.consumer input))).conversions =
        s.consumer.live :: w.conversions ∧
      (w.note i s (s.storeReadCursor cursor (playedEvent s.consumer input))).looked =
        w.looked ++ [⟨i, s⟩] := by
  have hmarks := newMarks_same (s := s.consumer)
    (t := (s.storeReadCursor cursor (playedEvent s.consumer input)).consumer) w.looked rfl rfl rfl
    rfl
  simp only [Watch.note, hmarks,
    fresh_eq (s := s.consumer) (t := (s.storeReadCursor cursor _).consumer) rfl]
  exact ⟨rfl, rfl, rfl⟩

/-! ### Flags -/

theorem wentLive_step (hlive : s.consumer.live = false) (hready : Ready w.looked)
    (hheard : Heard w) (h : w.clean = true → Sound s.consumer w.marks) :
    Heard (w.note i s s.goLive) ∧ Tracked (s.goLive, w.note i s s.goLive) := by
  have hnot : ¬ Stops s.consumer s.goLive.consumer := by
    rintro (⟨hs, -⟩ | hne | hne)
    · rw [hlive] at hs
      cases hs
    · exact hne rfl
    · exact hne rfl
  have hnote := note_flags (s := s) (t := s.goLive) (w := w) (i := i) rfl
  rw [if_neg hnot, if_pos ⟨hlive, rfl⟩] at hnote
  refine ⟨hheard.push hnote.1 hnote.2 (fun h => (note_clean h).1) ?_ (fun _ => trivial), rfl, ?_⟩
  · intro looked heq
    cases heq
    exact hready
  · intro hclean
    dsimp only
    rw [hnote.1]
    have hsound := (h (note_clean hclean).1).wentLive w.looked hlive
    exact hsound.same ⟨rfl, rfl, rfl, rfl, rfl, rfl, rfl⟩

theorem unavailable_step (hheard : Heard w) (h : Tracked (s, w)) :
    Heard (w.note i s s.markUnavailable) ∧
      Tracked (s.markUnavailable, w.note i s s.markUnavailable) := by
  cases hlive : s.consumer.live with
  | false =>
    have hsame : SameFades s.consumer s.markUnavailable.consumer := by
      refine ⟨rfl, rfl, hlive.symm, ?_, rfl, rfl, rfl⟩
      have hpaired : s.consumer.rebuffering = !s.consumer.live := h.paired
      rw [hpaired, hlive]
      rfl
    obtain ⟨hmarks, hconversions⟩ := note_kept (s := s) (t := s.markUnavailable) (w := w) (i := i)
      rfl hsame.live rfl rfl
    refine ⟨hheard.same hmarks hconversions (fun h => (note_clean h).1), rfl, ?_⟩
    intro hclean
    dsimp only
    rw [hmarks]
    exact (h.sound (note_clean hclean).1).same hsame
  | true =>
    obtain ⟨hmarks, hconversions⟩ := note_stop (s := s) (t := s.markUnavailable) (w := w) (i := i)
      rfl (.inl ⟨hlive, rfl⟩) rfl
    refine ⟨hheard.push hmarks hconversions (fun h => (note_clean h).1) (fun _ h => by cases h)
      (fun _ => trivial), rfl, ?_⟩
    intro hclean
    obtain ⟨hbefore, -, hpending⟩ := note_clean hclean
    dsimp only
    rw [hmarks]
    exact (h.sound hbefore).unavailable (hpending hlive rfl rfl)

theorem rebuffer_step (hclear : s.consumer.live = true ∨ Cleared s.consumer) (hheard : Heard w)
    (h : Tracked (s, w)) :
    Heard (w.note i s s.rebuffer) ∧ Tracked (s.rebuffer, w.note i s s.rebuffer) := by
  rcases hclear with hlive | hclear
  · exact stop_tracked rfl (.inl ⟨hlive, rfl⟩) ⟨rfl, rfl, rfl, rfl, rfl⟩ hheard
  · have hsame : SameFades s.consumer s.rebuffer.consumer :=
      ⟨rfl, rfl, hclear.live.symm, hclear.rebuffering.symm, hclear.trimAfterFade.symm,
        hclear.fadeOut.symm, hclear.fadeIn.symm⟩
    obtain ⟨hmarks, hconversions⟩ := note_kept (s := s) (t := s.rebuffer) (w := w) (i := i)
      rfl hsame.live rfl rfl
    refine ⟨hheard.same hmarks hconversions (fun h => (note_clean h).1), rfl, ?_⟩
    intro hclean
    dsimp only
    rw [hmarks]
    exact (h.sound (note_clean hclean).1).same hsame

/-- A store that moves counters alone: the marks stay. -/
theorem counters_step (hlog : t.consumer.taken.log = s.consumer.taken.log)
    (hlive : t.consumer.live = s.consumer.live)
    (hrebuffering : t.consumer.rebuffering = s.consumer.rebuffering)
    (happlied : t.consumer.appliedGeneration = s.consumer.appliedGeneration)
    (hseen : t.consumer.seenTalkspurtGeneration = s.consumer.seenTalkspurtGeneration)
    (hheard : Heard w) (hpaired : s.consumer.rebuffering = !s.consumer.live)
    (hsound : w.clean = true → Clean s.consumer t.consumer → Sound t.consumer w.marks) :
    Heard (w.note i s t) ∧ Tracked (t, w.note i s t) := by
  obtain ⟨hmarks, hconversions⟩ := note_kept (w := w) (i := i) hlog hlive happlied hseen
  refine ⟨hheard.same hmarks hconversions (fun h => (note_clean h).1), ?_, ?_⟩
  · dsimp only
    rw [hrebuffering, hlive]
    exact hpaired
  · intro hclean
    obtain ⟨hbefore, hstep⟩ := note_clean hclean
    dsimp only
    rw [hmarks]
    exact hsound hbefore hstep

end Stores

/-! ## The frames of a block -/

theorem fadeFrame_eq (s : Source) :
    s.fadeFrame = { s with consumer := { s.consumer.faded with
      taken := { s.consumer.taken with
        log := s.consumer.taken.log ++ [.output s.consumer.numerator] } } } := by
  unfold Source.fadeFrame Consumer.faded Consumer.numerator
  split
  · rfl
  · split
    · rfl
    · rfl

/-- The marks of the frames a block puts out, newest first. -/
def blockMarks (live : Bool) (numerators : List Nat) : List Mark :=
  (numerators.map fun numerator => .output numerator live).reverse

/-- What a block of frames leaves. -/
structure Block (s t : Source) (numerators : List Nat) : Prop where
  producer : t.producer = s.producer
  live : t.consumer.live = s.consumer.live
  rebuffering : t.consumer.rebuffering = s.consumer.rebuffering
  applied : t.consumer.appliedGeneration = s.consumer.appliedGeneration
  seen : t.consumer.seenTalkspurtGeneration = s.consumer.seenTalkspurtGeneration
  log : t.consumer.taken.log = s.consumer.taken.log ++ numerators.map Event.output
  cleared : Cleared s.consumer → Cleared t.consumer

theorem faded_trim (c : Consumer) : c.faded.trimAfterFade = c.trimAfterFade := by
  unfold Consumer.faded
  split
  · rfl
  · split
    · rfl
    · rfl

theorem block_frame (s : Source) : Block s s.fadeFrame [s.consumer.numerator] := by
  rw [fadeFrame_eq]
  have hfaded : ∀ {β : Type} (f : Consumer → β), (∀ c n, f { c with fadeOutRemaining := n } = f c) →
      (∀ c n, f { c with fadeInRemaining := n } = f c) → f s.consumer.faded = f s.consumer := by
    intro β f hout hin
    unfold Consumer.faded
    split
    · exact hout _ _
    · split
      · exact hin _ _
      · rfl
  refine ⟨rfl, hfaded (·.live) (fun _ _ => rfl) (fun _ _ => rfl),
    hfaded (·.rebuffering) (fun _ _ => rfl) (fun _ _ => rfl),
    hfaded (·.appliedGeneration) (fun _ _ => rfl) (fun _ _ => rfl),
    hfaded (·.seenTalkspurtGeneration) (fun _ _ => rfl) (fun _ _ => rfl), rfl, ?_⟩
  intro hclear
  have hrest : s.consumer.faded = s.consumer := by
    rw [Consumer.faded, hclear.fadeOut, hclear.fadeIn]
    rfl
  dsimp only
  rw [hrest]
  exact ⟨hclear.live, hclear.rebuffering, hclear.trimAfterFade, hclear.fadeOut, hclear.fadeIn⟩

theorem Block.trans {s t u : Source} {ns ms : List Nat} (h : Block s t ns) (h' : Block t u ms) :
    Block s u (ns ++ ms) where
  producer := h'.producer.trans h.producer
  live := h'.live.trans h.live
  rebuffering := h'.rebuffering.trans h.rebuffering
  applied := h'.applied.trans h.applied
  seen := h'.seen.trans h.seen
  log := by rw [h'.log, h.log, List.append_assoc, List.map_append]
  cleared hclear := h'.cleared (h.cleared hclear)

/-- A block of frames, none of them put out while a trim is due. -/
theorem block_envelope (n : Nat) (s : Source) :
    ∃ numerators, Block s (Source.applyDiscontinuityEnvelope n s) numerators ∧
      ∀ marks, Sound s.consumer marks →
        (s.consumer.trimAfterFade = true → n ≤ s.consumer.fadeOutRemaining) → Smooth marks →
        Sound (Source.applyDiscontinuityEnvelope n s).consumer
            (blockMarks s.consumer.live numerators ++ marks) ∧
          Smooth (blockMarks s.consumer.live numerators ++ marks) := by
  induction n generalizing s with
  | zero =>
    refine ⟨[], ⟨rfl, rfl, rfl, rfl, rfl, (List.append_nil _).symm, id⟩, ?_⟩
    intro marks hsound _ hsmooth
    exact ⟨hsound, hsmooth⟩
  | succ n ih =>
    obtain ⟨numerators, hblock, hrest⟩ := ih s.fadeFrame
    have hframe := block_frame s
    refine ⟨s.consumer.numerator :: numerators, hframe.trans hblock, ?_⟩
    intro marks hsound hdue hsmooth
    have hdue' : s.consumer.trimAfterFade = true → 0 < s.consumer.fadeOutRemaining := by
      intro h
      have := hdue h
      omega
    have hfirst : Sound s.fadeFrame.consumer
        (.output s.consumer.numerator s.consumer.live :: marks) := by
      rw [fadeFrame_eq]
      exact (hsound.output hdue').same ⟨rfl, rfl, rfl, rfl, rfl, rfl, rfl⟩
    have hleft : s.fadeFrame.consumer.trimAfterFade = true →
        n ≤ s.fadeFrame.consumer.fadeOutRemaining := by
      rw [fadeFrame_eq]
      intro h
      rw [faded_trim] at h
      have hn := hdue h
      simp only [Consumer.faded, if_pos (hdue' h)]
      omega
    have hall := hrest _ hfirst hleft (hsmooth.cons (hsound.allowed hdue'))
    rw [hframe.live] at hall
    simpa [blockMarks, Source.applyDiscontinuityEnvelope] using hall

/-- The reader puts out a block. -/
theorem block_step {n : Nat} {s : Source} {w : Watch} {i : Answer}
    (hdue : w.clean = true → s.consumer.trimAfterFade = true → n ≤ s.consumer.fadeOutRemaining)
    (hheard : Heard w) (h : Tracked (s, w)) :
    Heard (w.note i s (Source.applyDiscontinuityEnvelope n s)) ∧
      Tracked (Source.applyDiscontinuityEnvelope n s,
        w.note i s (Source.applyDiscontinuityEnvelope n s)) := by
  obtain ⟨numerators, hblock, hall⟩ := block_envelope n s
  generalize Source.applyDiscontinuityEnvelope n s = t at hblock hall
  have hmarks : (w.note i s t).marks = blockMarks s.consumer.live numerators ++ w.marks := by
    have hnew := newMarks_same w.looked hblock.live hblock.applied hblock.seen hblock.log
    simp only [Watch.note, hnew, blockMarks, List.filterMap_map]
    have hmark : Event.mark s.consumer.live ∘ Event.output =
        some ∘ fun numerator => Mark.output numerator s.consumer.live := rfl
    rw [hmark, List.filterMap_eq_map]
  have hconversions : (w.note i s t).conversions = w.conversions := by
    simp [Watch.note, fresh_eq hblock.log, List.filterMap_map, Function.comp_def,
      Event.conversion]
  have hfinal : (w.note i s t).clean = true → Sound t.consumer (w.note i s t).marks ∧
      Smooth (w.note i s t).marks := by
    intro hclean
    have hbefore := (note_clean hclean).1
    rw [hmarks]
    exact hall w.marks (h.sound hbefore) (hdue hbefore) (hheard.smooth hbefore)
  refine ⟨⟨?_, ?_, fun hclean => (hfinal hclean).2⟩, ?_, fun hclean => (hfinal hclean).1⟩
  · rw [hconversions]
    exact hheard.converted
  · intro looked hmem
    rw [hmarks] at hmem
    rcases List.mem_append.mp hmem with hmem | hmem
    · obtain ⟨n, -, hn⟩ := List.mem_map.mp (List.mem_reverse.mp hmem)
      cases hn
    · exact hheard.ready looked hmem
  · dsimp only
    rw [hblock.rebuffering, hblock.live]
    exact h.paired

end Lgnome.Audio
