import Lgnome.Sessions.Views
import Lgnome.Transition.Undisturbed

/-!
# Switching on the SDL thread

The SDL thread switches the screen and supervises the slots action by action. While nobody
calls back in between, it does to the board what the board does itself.
-/
namespace Lgnome

open Lgnome.Sessions (Seat Board Reconnected SwitchAnswers)
open Lgnome.Native (SlotIndex RdpState StartResult)

/-! ## The replay of a cache -/

namespace Native.App

variable {a : App} {i target : SlotIndex}

/-- Nothing happens to the board, or the decoder's failure is reported. -/
def MayFail (i : SlotIndex) (a b : App) : Prop :=
  b.board = a.board ∨ b.board = a.board.report i .decoderError

theorem mayFail_report : MayFail i a (a.reportTerminal i .decoderError) := .inr board_reportTerminal

/-- The first failure is the one that counts. -/
theorem MayFail.trans {b c : App} (h : MayFail i a b) (h' : MayFail i b c) : MayFail i a c := by
  rcases h' with hsame | hfails
  · rcases h with h | h
    · exact .inl (hsame.trans h)
    · exact .inr (hsame.trans h)
  · rcases h with h | h
    · exact .inr (hfails.trans (congrArg (·.report i .decoderError) h))
    · refine .inr (hfails.trans ?_)
      rw [h, Board.report_again (by decide)]

theorem mayFail_yieldCanvas : MayFail i a (a.yieldCanvas i).1 := by
  have hcount : ∀ b : App, (b.modifySlot i fun s =>
      { s with graphicsPathSwitches := s.graphicsPathSwitches + 1 }).board = b.board :=
    fun b => board_unseen rfl
  unfold yieldCanvas noteGraphicsPathSwitch
  dsimp only
  split_ifs
  · exact .inl (hcount _)
  · exact .inr (board_reportTerminal.trans (congrArg (·.report i .decoderError) (hcount _)))
  · exact .inl rfl
  · exact .inl rfl

theorem board_claimDecoder (decoderSeed : Bool) :
    (a.claimDecoder i decoderSeed).1.board = a.board := by
  unfold claimDecoder
  split
  · rfl
  · split_ifs <;> rfl

theorem board_openDecoder (env : Native.FeedEnv) :
    ((a.dropResized i).openDecoder i env).board = a.board := by
  have hdropped : (a.dropResized i).board = a.board := by
    unfold dropResized
    split
    · rfl
    · split_ifs <;> rfl
  rw [← hdropped]
  unfold openDecoder
  dsimp only
  split_ifs <;> rfl

theorem mayFail_feedDecoder (env : Native.FeedEnv) : MayFail i a (a.feedDecoder i env) := by
  unfold feedDecoder
  dsimp only
  split
  · split_ifs
    · exact .inl rfl
    · exact .inl rfl
  · exact .inl (board_unseen rfl)
  · exact .inl rfl
  · exact .inr board_reportTerminal
  · exact .inr board_reportTerminal

theorem mayFail_presentAu (au : Native.AccessUnit) (decoderSeed : Bool) (env : Native.FeedEnv) :
    MayFail i a (a.presentAu i au decoderSeed env).1 := by
  have hyield : MayFail i a (a.yieldCanvas i).1 := mayFail_yieldCanvas
  unfold presentAu
  generalize a.yieldCanvas i = yielded at hyield ⊢
  obtain ⟨b, blocked⟩ := yielded
  cases blocked with
  | true => exact hyield
  | false =>
    have hclaim : (b.claimDecoder i decoderSeed).1.board = b.board := board_claimDecoder decoderSeed
    dsimp only
    generalize b.claimDecoder i decoderSeed = claimed at hclaim ⊢
    obtain ⟨c, waits⟩ := claimed
    cases waits with
    | some shown => exact hyield.trans (.inl hclaim)
    | none =>
      have hopened : MayFail i a ((c.dropResized i).openDecoder i env) :=
        hyield.trans (.inl ((board_openDecoder env).trans hclaim))
      dsimp only
      split
      · exact hopened.trans (mayFail_feedDecoder env)
      · exact hopened.trans mayFail_report

theorem mayFail_ingestAuLocked (scan : Native.Scanner) (au : Native.AccessUnit)
    (env : Native.FeedEnv) : MayFail i a (a.ingestAuLocked scan i au env).1 := by
  have hnoted : ∀ valid, MayFail i a (a.noteVideoStream i valid env.seenMs) := by
    intro valid
    refine .inl (board_unseen ?_)
    cases valid <;> rfl
  have hnoted := hnoted (scan (a.sessions i).videoCodec au.data).valid
  unfold ingestAuLocked
  dsimp only
  generalize a.noteVideoStream i _ env.seenMs = b at hnoted ⊢
  split
  · refine hnoted.trans (.inl ?_)
    dsimp only
    exact board_unseen rfl
  split
  · exact hnoted
  split
  · exact hnoted.trans mayFail_report
  · exact hnoted.trans (mayFail_presentAu au _ env)

/-- Nobody calls back in the middle of the replay. -/
def Quiet (envs : List Native.ReplayEnv) : Prop := ∀ env ∈ envs, env.meanwhile = []

theorem mayFail_replayUnits (scan : Native.Scanner) {envs : List Native.ReplayEnv}
    (hquiet : Quiet envs) (units : List Native.AccessUnit) :
    MayFail i a (a.replayUnits scan i units envs).1 := by
  induction units generalizing a envs with
  | nil => exact .inl rfl
  | cons au rest ih =>
    have hfirst : MayFail i a (a.ingestAuLocked scan i au (envs.headD {}).feed).1 :=
      mayFail_ingestAuLocked scan au _
    have hnobody : (envs.headD {}).meanwhile = [] := by
      cases envs with
      | nil => rfl
      | cons env more => exact hquiet env (List.mem_cons_self ..)
    unfold replayUnits
    dsimp only
    rw [hnobody]
    split
    · exact hfirst
    · exact hfirst.trans (ih fun env hmem => hquiet env (List.mem_of_mem_tail hmem))

theorem mayFail_snapshotReplay (scan : Native.Scanner) {envs : List Native.ReplayEnv}
    (hquiet : Quiet envs) (target : SlotIndex) (now : UInt32) :
    MayFail target a (a.snapshotReplay scan target now envs).1 := by
  have htaken : MayFail target a
      (a.modifySlot target fun s => { s with snapshot := {}, snapshotIdrReady := false }) :=
    .inl (board_unseen rfl)
  unfold snapshotReplay
  dsimp only
  split
  · exact htaken
  split
  · exact htaken
  · exact htaken.trans (mayFail_replayUnits scan hquiet _)

theorem board_publishOwner : (a.publishOwner target).board =
    { a.board.modify target fun s => { s with snapshotPending := false } with
      activeIndex := target } := by
  have hpromoted : ∀ b : App, (b.promoteHubReturn target).board = b.board := by
    intro b
    unfold promoteHubReturn
    split
    · rfl
    · split_ifs <;> rfl
  have hhanded : ∀ b c : App, b.board = c.board →
      ({ b with activeIndex := target, videoRefreshNeeded := false } : App).board =
        { c.board with activeIndex := target } := by
    intro b c h
    show { b.board with activeIndex := target } = _
    rw [h]
  unfold publishOwner
  split
  · rw [hhanded _ _ (hpromoted _), board_modifySlot (g := fun s =>
      { s with snapshotPending := false }) rfl]
  · rename_i hnot
    have hsame : (fun s : Seat => { s with snapshotPending := false }) (a.board.seats target) =
        a.board.seats target := by
      have hnot : (a.sessions target).snapshotPending = false := by simpa using hnot
      have hnot : (a.board.seats target).snapshotPending = false := hnot
      rw [← hnot]
    rw [hhanded _ _ (hpromoted _), Board.modify_id hsame]

end Native.App

/-! ## The programs -/

namespace Foreground

open Lgnome.Transition.Prog (Comes)

/-- The platform answers, and nobody calls back. -/
def Calm (answer : Answer) : Prop := Native.App.Quiet answer.replay

variable {scan : Native.Scanner} {w : LoopState} {i target : SlotIndex}

theorem board_suppress :
    (w.suppress i).board = w.board.modify i fun s => { s with suppressed := true } := by
  unfold LoopState.suppress
  rw [LoopState.board_modifySlot (g := fun s => { s with suppressed := true }) rfl]
  rfl

theorem awaitSnapshot_board : Comes Calm (awaitSnapshot i) (fun _ t => t.board =
    if (w.slot i).snapshot.armed then w.board.modify i fun s => { s with snapshotPending := true }
    else w.board.modify i fun s => { s with suppressed := true }) w := by
  refine Comes.loadThen ?_
  split
  · refine Comes.store ?_
    exact LoopState.board_modifySlot rfl
  · exact Comes.store board_suppress

theorem backgroundSlot_board : Comes Calm (backgroundSlot i)
    (fun _ t => ∃ answer, t.board = w.board.background i answer) w := by
  refine Comes.loadThen ?_
  by_cases haway : ((w.slot i).rdp.isNone || (w.slot i).suppressed) = true
  · have haway' : (!(w.board.seats i).rdp || (w.board.seats i).suppressed) = true := by
      rw [← Option.not_isSome] at haway
      exact haway
    rw [if_pos haway]
    refine ⟨{}, ?_⟩
    rw [Board.background, if_pos haway']
  have haway' : ¬(!(w.board.seats i).rdp || (w.board.seats i).suppressed) = true := by
    rw [← Option.not_isSome] at haway
    exact haway
  rw [if_neg haway]
  refine Comes.loadThen ?_
  by_cases hwanted : (((w.slot i).refreshIneffective || w.app.snapshotForce) &&
      (w.slot i).currentState = .active) = true
  · have hwanted' : (((w.board.seats i).refreshIneffective || w.board.snapshotForce) &&
      (w.board.seats i).currentState = .active) = true := hwanted
    rw [if_pos hwanted]
    refine Comes.actThen fun answer _ => ?_
    have hconnect := LoopState.board_reconnectSlot (w := w) (i := i) true answer
    generalize w.reconnectSlot i true answer = reconnected at hconnect ⊢
    obtain ⟨ok, t⟩ := reconnected
    have hgoes : ∀ armed, w.board.background i ⟨answer.starts, armed⟩ =
        if ok then
          if armed then t.board.modify i fun s => { s with snapshotPending := true }
          else t.board.modify i fun s => { s with suppressed := true }
        else t.board := by
      intro armed
      rw [Board.background, if_neg haway', if_pos hwanted', ← hconnect]
      cases ok <;> rfl
    dsimp only
    split
    · rename_i hok
      refine awaitSnapshot_board.mono fun _ u hu => ⟨⟨answer.starts, (t.slot i).snapshot.armed⟩, ?_⟩
      rw [hu, hgoes, if_pos hok]
    · rename_i hok
      refine ⟨⟨answer.starts, true⟩, ?_⟩
      rw [hgoes, if_neg hok]
  · have hwanted' : ¬(((w.board.seats i).refreshIneffective || w.board.snapshotForce) &&
      (w.board.seats i).currentState = .active) = true := hwanted
    rw [if_neg hwanted]
    refine Comes.store ⟨{}, ?_⟩
    rw [Board.background, if_neg haway', if_neg hwanted', board_suppress]

theorem snapshotReplay_board : Comes Calm (snapshotReplay scan target) (fun _ t =>
    ∃ failed : Bool, t.board =
      if failed then w.board.report target .decoderError else w.board) w := by
  refine Comes.actThen fun answer hquiet => Comes.load ?_
  have hnobody : Native.App.Quiet (w.meanwhile answer.replay) := by
    intro env hmem
    obtain ⟨env', hmem', rfl⟩ := List.mem_map.mp hmem
    show env'.meanwhile.filter _ = []
    rw [hquiet env' hmem', List.filter_nil]
  rcases Native.App.mayFail_snapshotReplay scan hnobody target answer.now with h | h
  · exact ⟨false, h⟩
  · exact ⟨true, h⟩

theorem resumeOutput_board : Comes Calm (resumeOutput scan target)
    (fun _ t => ∃ shown failed starts, t.board = w.board.resume target shown failed starts) w := by
  refine Comes.storeThen ?_
  have hresumed : (w.modifySlot target fun s => { s with suppressed := false }).board =
      w.board.modify target fun s => { s with suppressed := false } :=
    LoopState.board_modifySlot rfl
  generalize (w.modifySlot target fun s => { s with suppressed := false }) = u at hresumed ⊢
  refine snapshotReplay_board.andThen fun shown v hv => ?_
  obtain ⟨failed, hv⟩ := hv
  have hends : ∀ starts, w.board.resume target shown failed starts =
      if shown || (v.board.seats target).sessionFailed then v.board
      else if (v.board.seats target).refreshIneffective then (v.board.reconnect target starts).2
      else v.board := by
    intro starts
    unfold Board.resume
    rw [← hresumed, hv]
  split
  · rename_i hshown
    refine Comes.store ⟨shown, failed, .started, ?_⟩
    rw [hends, if_pos (by rw [hshown, Bool.true_or])]
    rfl
  rename_i hdropped
  have hdropped : shown = false := by simpa using hdropped
  refine Comes.loadThen ?_
  by_cases hfailed : (v.board.seats target).sessionFailed = true
  · rw [if_pos (show (v.slot target).sessionFailed = true from hfailed)]
    refine ⟨shown, failed, .started, ?_⟩
    rw [hends, if_pos (by rw [hfailed, Bool.or_true])]
  have hopen : ¬(shown || (v.board.seats target).sessionFailed) = true := by
    rw [hdropped, Bool.false_or]
    exact hfailed
  rw [if_neg (show ¬(v.slot target).sessionFailed = true from hfailed)]
  refine Comes.loadThen ?_
  by_cases hineffective : (v.board.seats target).refreshIneffective = true
  · rw [if_pos (show (v.slot target).refreshIneffective = true from hineffective)]
    refine Comes.actThen fun answer _ => ⟨shown, failed, answer.starts, ?_⟩
    have hconnect := LoopState.board_reconnectSlot (w := v) (i := target) false answer
    rw [hends, if_neg hopen, if_pos hineffective, ← hconnect]
  · rw [if_neg (show ¬(v.slot target).refreshIneffective = true from hineffective)]
    refine Comes.store ⟨shown, failed, .started, ?_⟩
    rw [hends, if_neg hopen, if_neg hineffective]
    rfl

theorem handOver_board : (w.handOver target).2.board =
    { w.board.modify target fun s => { s with snapshotPending := false } with
      activeIndex := target } :=
  Native.App.board_publishOwner (a := w.pauseCapture.app)

theorem startWatchdog_board {baseline timeoutMs : UInt32} :
    Comes Calm (startWatchdog baseline timeoutMs) (fun _ t => t.board = w.board) w :=
  fun _ _ => rfl

theorem completeSessionSwitch_board : Comes Calm (completeSessionSwitch scan target)
    (fun ok t => ∃ answers, (ok, t.board) = w.board.switch target answers) w := by
  refine Comes.loadThen ?_
  by_cases hlive : (!((w.board.seats target).rdp && !(w.board.seats target).sessionFailed)) = true
  · rw [if_pos (show (!((w.slot target).rdp.isSome && !(w.slot target).sessionFailed)) = true
      from hlive)]
    refine ⟨{}, ?_⟩
    rw [Board.switch, if_pos hlive]
  rw [if_neg (show ¬(!((w.slot target).rdp.isSome && !(w.slot target).sessionFailed)) = true
    from hlive)]
  refine Comes.loadThen ?_
  by_cases hsame : w.board.activeIndex = target
  · rw [if_pos (show w.app.activeIndex = target from hsame)]
    refine ⟨{}, ?_⟩
    rw [Board.switch, if_neg hlive, if_pos hsame]
  rw [if_neg (show ¬w.app.activeIndex = target from hsame)]
  refine Comes.actThen fun answer _ => ?_
  have hhidden : ((w.hideMixerOverlay answer).onApp fun a =>
      { a with pendingSwitchTarget := none }).board = w.board := rfl
  have hpending : (((w.hideMixerOverlay answer).onApp fun a =>
      { a with pendingSwitchTarget := none }).slot target).snapshotPending =
        (w.board.seats target).snapshotPending := rfl
  dsimp only
  generalize ((w.hideMixerOverlay answer).onApp fun a => { a with pendingSwitchTarget := none }) = u
    at hhidden hpending ⊢
  refine Comes.loadThen (Comes.actThen fun _ _ => ?_)
  have hhanded : (u.handOver target).2.board =
      { w.board.modify target fun s => { s with snapshotPending := false } with
        activeIndex := target } := by rw [handOver_board, hhidden]
  have hfilling : (u.handOver target).1 = (w.board.seats target).snapshotPending := hpending
  rw [hfilling]
  generalize (u.handOver target).2 = v at hhanded ⊢
  refine backgroundSlot_board.andThen fun _ x hx => Comes.loadThen ?_
  obtain ⟨background, hx⟩ := hx
  rw [hhanded] at hx
  have hends : ∀ shown failed starts,
      w.board.switch target ⟨background, shown, failed, starts⟩ =
        if !(w.board.seats target).snapshotPending && (x.board.seats target).suppressed then
          (true, x.board.resume target shown failed starts)
        else (true, x.board) := by
    intro shown failed starts
    unfold Board.switch
    rw [if_neg hlive, if_neg hsame]
    dsimp only
    rw [← show w.app.activeIndex = w.board.activeIndex from rfl, ← hx]
  by_cases hsilenced : (!(w.board.seats target).snapshotPending &&
      (x.board.seats target).suppressed) = true
  · rw [if_pos (show (!(w.board.seats target).snapshotPending && (x.slot target).suppressed) = true
      from hsilenced)]
    refine resumeOutput_board.andThen fun _ y hy => ?_
    obtain ⟨shown, failed, starts, hy⟩ := hy
    refine startWatchdog_board.andThen fun _ z hz => ⟨⟨background, shown, failed, starts⟩, ?_⟩
    rw [hends, if_pos hsilenced, hz, hy]
  · rw [if_neg (show ¬(!(w.board.seats target).snapshotPending && (x.slot target).suppressed) = true
      from hsilenced)]
    refine startWatchdog_board.andThen fun _ z hz => ⟨{ background }, ?_⟩
    rw [hends, if_neg hsilenced, hz]

theorem findSurvivor_board (js : List SlotIndex) (found : Option SlotIndex) :
    Comes Calm (findSurvivor i js found) (fun survivor t => t = w ∧
      survivor = js.foldl (fun found j =>
        if j ≠ i ∧ (w.board.seats j).isLiveStreamTarget ∧ (w.board.seats j).currentState = .active
        then some j else found) found) w := by
  induction js generalizing found with
  | nil => exact ⟨rfl, rfl⟩
  | cons j rest ih =>
    refine Comes.loadThen ((ih _).mono fun survivor t h => ⟨h.1, h.2.trans ?_⟩)
    rw [List.foldl_cons]
    congr 1
    refine if_congr ?_ rfl rfl
    rw [Bool.and_eq_true, Bool.and_eq_true, decide_eq_true_eq, decide_eq_true_eq, and_assoc]
    rfl

theorem leaveScreen_board :
    Comes Calm (leaveScreen i) (fun _ t => t.board = w.board.stop i) w :=
  Comes.store (LoopState.board_stopSlot (w := w))

/-- A slot of the screen that has failed. -/
theorem drainActive_board (hactive : w.board.activeIndex = i)
    (hfailed : ¬(!(w.board.seats i).sessionFailed) = true) :
    Comes Calm (drainActive scan i) (fun _ t =>
      ∃ answers, t.board = w.board.supervise i w.app.streamingVisible answers) w := by
  refine (findSurvivor_board slots none).andThen fun survivor u hu => Comes.loadThen ?_
  obtain ⟨rfl, hfound⟩ := hu
  replace hfound : survivor = u.board.survivor i := hfound
  cases survivor with
  | none =>
    refine leaveScreen_board.mono fun _ t ht => ⟨{}, ?_⟩
    rw [Board.supervise, if_neg hfailed, ← hfound]
    dsimp only
    rw [ite_self, ht]
  | some j =>
    have hends : ∀ answers, u.board.supervise i u.app.streamingVisible answers =
        if u.app.streamingVisible then (u.board.switch j answers).2.stop i
        else u.board.stop i := by
      intro answers
      rw [Board.supervise, if_neg hfailed, ← hfound]
      simp only [hactive, true_and]
    dsimp only
    split
    · rename_i hshown
      refine completeSessionSwitch_board.andThen fun ok v hv => ?_
      obtain ⟨answers, hv⟩ := hv
      have hv : v.board = (u.board.switch j answers).2 := congrArg Prod.snd hv
      have hstopped : u.board.supervise i u.app.streamingVisible answers = v.board.stop i := by
        rw [hends, if_pos hshown, hv]
      split
      · exact Comes.store ⟨answers, LoopState.board_stopSlot.trans hstopped.symm⟩
      · exact leaveScreen_board.mono fun _ t ht => ⟨answers, ht.trans hstopped.symm⟩
    · rename_i hhidden
      refine Comes.store ⟨{}, ?_⟩
      rw [hends, if_neg hhidden, LoopState.board_stopSlot]

theorem drainSlot_board : Comes Calm (drainSlot scan i) (fun _ t =>
    ∃ answers, t.board = w.board.supervise i w.app.streamingVisible answers) w := by
  have hmedia : ∀ v : LoopState, v.stopMediaUnlessConnected.board = v.board := by
    intro v
    unfold LoopState.stopMediaUnlessConnected
    split <;> rfl
  refine Comes.loadThen ?_
  by_cases hsound : (!(w.board.seats i).sessionFailed) = true
  · have hsound' : ¬(w.board.seats i).sessionFailed = true := by simpa using hsound
    rw [if_neg (show ¬(w.slot i).sessionFailed = true from hsound')]
    refine ⟨{}, ?_⟩
    rw [Board.supervise, if_pos hsound]
  have hfailed : (w.board.seats i).sessionFailed = true := by simpa using hsound
  rw [if_pos (show (w.slot i).sessionFailed = true from hfailed)]
  refine Comes.storeThen ?_
  generalize hu : (w.onApp fun a => { a with
    hubConnectTarget := if a.hubConnectTarget = some i then none else a.hubConnectTarget }) = u
  have hforgot : u.board = w.board := by rw [← hu]; rfl
  have hvisible : u.app.streamingVisible = w.app.streamingVisible := by rw [← hu]; rfl
  rw [← hforgot] at hsound ⊢
  rw [← hvisible]
  refine Comes.loadThen ?_
  by_cases hactive : u.board.activeIndex = i
  · rw [if_pos (show u.isActive i = true from decide_eq_true hactive)]
    refine (drainActive_board hactive hsound).andThen fun _ t ht => Comes.store ?_
    rw [hmedia]
    exact ht
  · rw [if_neg (show ¬u.isActive i = true from fun h => hactive (of_decide_eq_true h))]
    refine Comes.storeThen (Comes.store ⟨{}, ?_⟩)
    rw [hmedia, LoopState.board_stopSlot, Board.supervise, if_neg hsound,
      if_neg fun hboth => hactive hboth.1]

theorem forSlots_board (js : List SlotIndex) : Comes Calm (forSlots (drainSlot scan) js)
    (fun _ t => Board.Supervised js w.board t.board) w := by
  induction js generalizing w with
  | nil => exact Board.Supervised.nil
  | cons j rest ih =>
    refine drainSlot_board.andThen fun _ u hu => ih.mono fun _ t ht => ?_
    obtain ⟨answers, hu⟩ := hu
    rw [hu] at ht
    exact .cons ht

/-- A tick of the supervisor that runs to its end is one of the board. -/
theorem superviseSessions_board {t : LoopState}
    (hrun : (superviseSessions scan).Undisturbed Calm w () t) :
    Board.Supervised slots w.board t.board :=
  (forSlots_board slots).ends hrun

end Foreground

end Lgnome
