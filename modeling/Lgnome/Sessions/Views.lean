import Lgnome.Foreground.Loop
import Lgnome.Mixing.Operations
import Lgnome.Native.Screen
import Lgnome.Sessions.Board

/-!
# The board that each model keeps

The application on screen, the loop of the SDL thread and the mixer each have their own
slots. Seen as a board, what they do to a slot is the one operation of that name.
-/
namespace Lgnome

open Lgnome.Sessions (Seat Board Reconnected)

/-! ## The application -/

namespace Native

def Slot.seat (s : Slot) : Seat where
  rdp := s.rdp.isSome
  currentState := s.currentState
  terminalState := s.terminalState
  sessionFailed := s.sessionFailed
  suppressed := s.suppressed
  refreshIneffective := s.refreshIneffective
  snapshotPending := s.snapshotPending

def App.board (a : App) : Board where
  seats i := (a.sessions i).seat
  activeIndex := a.activeIndex
  running := a.running
  interactiveUi := a.interactiveUi
  snapshotForce := a.snapshotForce

namespace App

variable {a : App} {i : SlotIndex} {state : RdpState}

theorem board_modifySlot {f : Slot → Slot} {g : Seat → Seat}
    (h : (f (a.sessions i)).seat = g (a.sessions i).seat) :
    (a.modifySlot i f).board = a.board.modify i g := by
  unfold board Board.modify modifySlot
  congr 1
  funext j
  by_cases hj : j = i
  · subst hj
    simpa using h
  · simp [hj]

/-- Nothing of the board is written. -/
theorem board_unseen {f : Slot → Slot} (h : (f (a.sessions i)).seat = (a.sessions i).seat) :
    (a.modifySlot i f).board = a.board :=
  (board_modifySlot (g := id) h).trans (Board.modify_id rfl)

theorem board_reportTerminal : (a.reportTerminal i state).board = a.board.report i state := by
  have hclaim : (a.modifySlot i fun s => { s with terminalState := state }).board =
      a.board.modify i fun s => { s with terminalState := state } := board_modifySlot rfl
  unfold reportTerminal Board.report
  by_cases hreported : (a.sessions i).terminalState ≠ .idle
  · rw [if_pos hreported, if_pos (show (a.board.seats i).terminalState ≠ .idle from hreported)]
  · rw [if_neg hreported, if_neg (show ¬(a.board.seats i).terminalState ≠ .idle from hreported),
      ← hclaim]
    dsimp only
    generalize (a.modifySlot i fun s => { s with terminalState := state }) = c
    by_cases hends : c.activeIndex = i ∧ state.isNativeRuntimeFailure
    · rw [if_pos hends, if_pos (show c.board.activeIndex = i ∧ _ from hends)]
      rfl
    rw [if_neg hends, if_neg (show ¬(c.board.activeIndex = i ∧ _) from hends)]
    by_cases hflags : ¬c.activeIndex = i ∨ c.interactiveUi
    · rw [if_pos hflags, if_pos (show ¬c.board.activeIndex = i ∨ c.board.interactiveUi from hflags)]
      exact board_modifySlot rfl
    · rw [if_neg hflags,
        if_neg (show ¬(¬c.board.activeIndex = i ∨ c.board.interactiveUi) from hflags)]
      rfl

theorem board_recordState : (a.recordState i state).board = a.board.record i state := by
  have hnote : (a.modifySlot i fun s => { s with currentState := state }).board =
      a.board.modify i fun s => { s with currentState := state } := board_modifySlot rfl
  unfold recordState Board.record
  by_cases hdone : (a.sessions i).sessionFailed ∨ (a.sessions i).terminalState ≠ .idle
  · rw [if_pos hdone, if_pos (show (a.board.seats i).sessionFailed ∨
      (a.board.seats i).terminalState ≠ .idle from hdone)]
  · rw [if_neg hdone, if_neg (show ¬((a.board.seats i).sessionFailed ∨
      (a.board.seats i).terminalState ≠ .idle) from hdone), ← hnote]
    dsimp only
    by_cases hends : state.isTerminalError ∨ state = .disconnected ∨ state = .stopped
    · rw [if_pos hends, if_pos hends]
      exact board_reportTerminal
    · rw [if_neg hends, if_neg hends]

theorem board_forgetStream : (a.forgetStream i).board = a.board := board_unseen rfl

theorem board_disconnect : (a.disconnect i).board = a.board.stop i := by
  rw [disconnect, board_modifySlot (g := Seat.stopped) rfl, board_forgetStream]
  rfl

/-- A reconnect up to the start of its worker, which has its handle already. -/
theorem board_reconnect {session : Session} {armed : Option Bool} :
    (a.reconnect i session armed).board =
      a.board.modify i fun s => { s.stopped with rdp := true, terminalState := .idle } := by
  cases armed with
  | none =>
    unfold reconnect
    dsimp only
    rw [board_modifySlot (g := fun s => { s.stopped with rdp := true, terminalState := .idle }) rfl,
      board_forgetStream]
  | some allocates =>
    have harmed : ((a.forgetStream i).armSnapshot i allocates).board = (a.forgetStream i).board :=
      board_unseen rfl
    unfold reconnect
    dsimp only
    rw [board_modifySlot (g := fun s => { s.stopped with rdp := true, terminalState := .idle }) rfl,
      harmed, board_forgetStream]

end App

/-- The connect of the canvas model, whose failure is reported by a callback of its own. -/
theorem Screen.slotConnect_board {s : Screen} {i : SlotIndex} {session : Session}
    {armed : Option Bool} :
    (s.slotConnect i (some session) armed).app.board = (s.app.board.connect i .started).2 := by
  have happ : (s.slotConnect i (some session) armed).app =
      (s.app.reconnect i 0 armed).modifySlot i fun slot => { slot with rdp := some session } := by
    unfold Screen.slotConnect Screen.onApp Screen.armReplacement
    dsimp only
    split_ifs <;> rfl
  rw [happ, App.board_modifySlot (g := fun s => { s with rdp := true }) rfl, App.board_reconnect,
    Board.modify_modify, Board.connect_started rfl]
  rfl

end Native

/-! ## The loop of the SDL thread -/

namespace Foreground.LoopState

open Lgnome.Native (SlotIndex RdpState App)

abbrev board (w : LoopState) : Board := w.app.board

variable {w : LoopState} {i : SlotIndex} (arm : Bool) (answer : Answer)

theorem board_modifySlot {f : Native.Slot → Native.Slot} {g : Seat → Seat}
    (h : (f (w.slot i)).seat = g (w.slot i).seat) : (w.modifySlot i f).board = w.board.modify i g :=
  App.board_modifySlot h

theorem board_stopSlot : (w.stopSlot i).board = w.board.stop i := App.board_disconnect

theorem board_renewSlot : (w.renewSlot i arm answer).board =
    w.board.modify i fun s => { s.stopped with rdp := true, terminalState := .idle } := by
  have hrenewed : (w.renewSlot i arm answer).board = ((w.stopSlot i).app.reconnect i w.nextSession
      (if arm then some answer.allocates else none)).board := rfl
  rw [hrenewed, App.board_reconnect]
  show (w.stopSlot i).board.modify i _ = _
  rw [board_stopSlot, Board.stop, Board.modify_modify]
  rfl

theorem board_slotConnect :
    ((w.slotConnect i arm answer).1, (w.slotConnect i arm answer).2.board) =
      w.board.connect i answer.starts := by
  unfold slotConnect
  cases hstarts : answer.starts.failure with
  | none =>
    have hattach : ((w.renewSlot i arm answer).attachSession i).board =
        (w.renewSlot i arm answer).board := rfl
    rw [Board.connect_started hstarts]
    dsimp only
    rw [hattach, board_renewSlot]
  | some state =>
    have hrecord : (((w.renewSlot i arm answer).modifySlot i fun s => { s with rdp := none }).onApp
        (·.recordState i state)).board = Board.record (App.board
          ((w.renewSlot i arm answer).app.modifySlot i fun s => { s with rdp := none })) i state :=
      App.board_recordState
    rw [App.board_modifySlot (g := fun s => { s with rdp := false }) rfl] at hrecord
    rw [Board.connect_failed hstarts]
    refine congrArg (Prod.mk false) (hrecord.trans ?_)
    show ((w.renewSlot i arm answer).board.modify i _).record i state = _
    rw [board_renewSlot, Board.modify_modify]
    rfl

theorem board_reconnectSlot :
    ((w.reconnectSlot i arm answer).1, (w.reconnectSlot i arm answer).2.board) =
      w.board.reconnect i answer.starts := by
  have hconnect := board_slotConnect (w := w) (i := i) arm answer
  rw [Board.reconnect, ← hconnect, reconnectSlot]
  cases hstarted : (w.slotConnect i arm answer).1 with
  | true => simp [hstarted]
  | false =>
    simp only [Bool.false_eq_true, if_false]
    exact congrArg (Prod.mk false) App.board_reportTerminal

end Foreground.LoopState

/-! ## The mixer -/

namespace Mixing

open Lgnome.Native (SlotIndex RdpState StartResult)

def SessionSlot.seat (s : SessionSlot) : Seat where
  rdp := s.rdp
  currentState := s.currentState
  terminalState := s.terminalState
  sessionFailed := s.sessionFailed
  suppressed := s.suppressed
  refreshIneffective := s.refreshIneffective
  snapshotPending := s.snapshotPending

/-- The mixer is there with the interactive UI only. -/
def App.board (a : App) : Board where
  seats i := (a.sessions i).seat
  activeIndex := a.mixer.activeIndex
  running := a.running
  interactiveUi := true
  snapshotForce := a.snapshotForce

def Connected.reconnected (answer : Connected) : Reconnected where
  starts := answer.starts
  armed := answer.armed

def Answers.switch (answers : Answers) : Sessions.SwitchAnswers where
  background := answers.background.reconnected
  shown := answers.replay.shown
  failed := answers.replay.failed
  starts := answers.foreground.starts

namespace App

variable {a : App} {i : SlotIndex} {state : RdpState}

theorem board_modifySlot {f : SessionSlot → SessionSlot} {g : Seat → Seat}
    (h : (f (a.sessions i)).seat = g (a.sessions i).seat) :
    (a.modifySlot i f).board = a.board.modify i g := by
  unfold board Board.modify
  congr 1
  funext j
  by_cases hj : j = i
  · subst hj
    have hsame : (a.modifySlot j f).sessions j = f (a.sessions j) := Function.update_self ..
    rw [hsame, Function.update_self, h]
  · have hother : (a.modifySlot i f).sessions j = a.sessions j := Function.update_of_ne hj ..
    rw [hother, Function.update_of_ne hj]

theorem board_reportTerminal : (a.reportTerminal i state).board = a.board.report i state := by
  have hclaim : (a.modifySlot i fun s => { s with terminalState := state }).board =
      a.board.modify i fun s => { s with terminalState := state } := board_modifySlot rfl
  unfold reportTerminal Board.report
  by_cases hreported : (a.sessions i).terminalState ≠ .idle
  · rw [if_pos hreported, if_pos (show (a.board.seats i).terminalState ≠ .idle from hreported)]
  · rw [if_neg hreported, if_neg (show ¬(a.board.seats i).terminalState ≠ .idle from hreported),
      ← hclaim]
    dsimp only
    generalize (a.modifySlot i fun s => { s with terminalState := state }) = c
    by_cases hends : c.mixer.activeIndex = i ∧ state.isNativeRuntimeFailure
    · rw [if_pos hends, if_pos (show c.board.activeIndex = i ∧ _ from hends)]
      rfl
    · rw [if_neg hends, if_neg (show ¬(c.board.activeIndex = i ∧ _) from hends),
        if_pos (show ¬c.board.activeIndex = i ∨ c.board.interactiveUi from .inr rfl)]
      exact board_modifySlot rfl

theorem board_recordState : (a.recordState i state).board = a.board.record i state := by
  have hnote : (a.modifySlot i fun s => { s with currentState := state }).board =
      a.board.modify i fun s => { s with currentState := state } := board_modifySlot rfl
  unfold recordState Board.record
  by_cases hdone : (a.sessions i).sessionFailed ∨ (a.sessions i).terminalState ≠ .idle
  · rw [if_pos hdone, if_pos (show (a.board.seats i).sessionFailed ∨
      (a.board.seats i).terminalState ≠ .idle from hdone)]
  · rw [if_neg hdone, if_neg (show ¬((a.board.seats i).sessionFailed ∨
      (a.board.seats i).terminalState ≠ .idle) from hdone), ← hnote]
    dsimp only
    by_cases hends : state.isTerminalError ∨ state = .disconnected ∨ state = .stopped
    · rw [if_pos hends, if_pos hends]
      exact board_reportTerminal
    · rw [if_neg hends, if_neg hends]

theorem board_stopSlot : (a.stopSlot i).board = a.board.stop i := by
  have hpublish : (a.modifySlot i fun s => { s with rdp := false }).publishEffectiveSoloMask.board =
      (a.modifySlot i fun s => { s with rdp := false }).board := rfl
  unfold stopSlot
  dsimp only
  rw [board_modifySlot (g := fun s =>
      { s with
        snapshotPending := false
        suppressed := false
        currentState := .idle
        sessionFailed := false }) rfl, hpublish,
    board_modifySlot (g := fun s => { s with rdp := false }) rfl, Board.modify_modify]
  rfl

theorem board_slotConnect (starts : StartResult) :
    ((a.slotConnect i starts).2, (a.slotConnect i starts).1.board) = a.board.connect i starts := by
  unfold slotConnect Board.connect
  rw [← board_stopSlot]
  generalize a.stopSlot i = b
  dsimp only
  have hrenew : (b.modifySlot i fun s =>
      { s with
        terminalState := .idle
        cameraWidth := b.settings.cameraWidth
        cameraHeight := b.settings.cameraHeight
        cameraFps := b.settings.cameraFps }).board =
      b.board.modify i fun s => { s with terminalState := .idle } := board_modifySlot rfl
  rw [← hrenew]
  generalize b.modifySlot i _ = c
  cases starts.failure with
  | none =>
    have hattach : (c.modifySlot i fun s => { s with rdp := true }).board =
        c.board.modify i fun s => { s with rdp := true } := board_modifySlot rfl
    exact congrArg (Prod.mk true) hattach
  | some state => exact congrArg (Prod.mk false) board_recordState

theorem board_reconnect (starts : StartResult) :
    ((a.reconnect i starts).2, (a.reconnect i starts).1.board) = a.board.reconnect i starts := by
  have hconnect := board_slotConnect (a := a) (i := i) starts
  unfold reconnect Board.reconnect
  rw [← hconnect]
  generalize a.slotConnect i starts = connected
  obtain ⟨b, started⟩ := connected
  cases started with
  | true => rfl
  | false => exact congrArg (Prod.mk false) board_reportTerminal

/-! ## Switching in the mixer -/

variable {target : SlotIndex} {answers : Answers}

theorem board_reconnectHidden (answer : Connected) (hgoes : (a.board.seats i).rdp = true)
    (hloud : (a.board.seats i).suppressed = false)
    (hwanted : ((a.board.seats i).refreshIneffective || a.board.snapshotForce) &&
      (a.board.seats i).currentState = .active) :
    (a.reconnectHidden i answer).board = a.board.background i answer.reconnected := by
  have hreconnect : ((a.reconnect i answer.starts).2, (a.reconnect i answer.starts).1.board) =
      a.board.reconnect i answer.reconnected.starts := board_reconnect answer.starts
  unfold reconnectHidden Board.background
  rw [if_neg (by rw [hgoes, hloud]; decide), if_pos hwanted, ← hreconnect]
  generalize a.reconnect i answer.starts = reconnected
  obtain ⟨b, started⟩ := reconnected
  cases started with
  | false => rfl
  | true =>
    have hpending : (b.modifySlot i fun s => { s with snapshotPending := true }).board =
        b.board.modify i fun s => { s with snapshotPending := true } := board_modifySlot rfl
    have hsilenced : (b.modifySlot i fun s => { s with suppressed := true }).board =
        b.board.modify i fun s => { s with suppressed := true } := board_modifySlot rfl
    dsimp only
    by_cases harmed : answer.armed = true
    · rw [if_pos harmed, if_pos (show answer.reconnected.armed = true from harmed)]
      exact hpending
    · rw [if_neg harmed, if_neg (show ¬answer.reconnected.armed = true from harmed)]
      exact hsilenced

theorem board_backgroundSlot (answer : Connected) :
    (a.backgroundSlot i answer).board = a.board.background i answer.reconnected := by
  unfold backgroundSlot
  dsimp only
  split
  · rename_i haway
    rw [Board.background,
      if_pos (show (!(a.board.seats i).rdp || (a.board.seats i).suppressed) = true from haway)]
  rename_i hstays
  obtain ⟨hgoes, hloud⟩ : (a.sessions i).rdp = true ∧ (a.sessions i).suppressed = false := by
    simpa using hstays
  have hgoes : (a.board.seats i).rdp = true := hgoes
  have hloud : (a.board.seats i).suppressed = false := hloud
  split
  · rename_i hwanted
    exact board_reconnectHidden answer hgoes hloud hwanted
  · rename_i hplain
    have hsilenced : (a.modifySlot i fun s => { s with suppressed := true }).board =
        a.board.modify i fun s => { s with suppressed := true } := board_modifySlot rfl
    rw [Board.background, if_neg (by rw [hgoes, hloud]; decide),
      if_neg (show ¬(((a.board.seats i).refreshIneffective || a.board.snapshotForce) &&
        (a.board.seats i).currentState = .active) = true from hplain)]
    exact hsilenced

theorem board_resumeSlot : (a.resumeSlot target answers).board =
    a.board.resume target answers.replay.shown answers.replay.failed answers.foreground.starts := by
  have hresumed : (a.modifySlot target fun s => { s with suppressed := false }).board =
      a.board.modify target fun s => { s with suppressed := false } := board_modifySlot rfl
  unfold resumeSlot Board.resume
  rw [← hresumed]
  dsimp only
  generalize (a.modifySlot target fun s => { s with suppressed := false }) = b
  have hreplayed :
      (if answers.replay.failed then b.reportTerminal target .decoderError else b).board =
        if answers.replay.failed then b.board.report target .decoderError else b.board := by
    split
    · exact board_reportTerminal
    · rfl
  rw [← hreplayed]
  generalize (if answers.replay.failed then b.reportTerminal target .decoderError else b) = c
  split
  · rename_i hdone
    rw [if_pos (show (answers.replay.shown || (c.board.seats target).sessionFailed) = true
      from hdone)]
  rename_i hopen
  rw [if_neg (show ¬(answers.replay.shown || (c.board.seats target).sessionFailed) = true
    from hopen)]
  split
  · rename_i hineffective
    rw [if_pos (show (c.board.seats target).refreshIneffective = true from hineffective)]
    exact congrArg Prod.snd (board_reconnect answers.foreground.starts)
  · rename_i heffective
    rw [if_neg (show ¬(c.board.seats target).refreshIneffective = true from heffective)]

theorem board_flushSettings (disk : List Settings.Candidate) :
    (a.flushSettings disk).board = a.board := by
  unfold flushSettings
  split <;> rfl

theorem board_completeSessionSwitch :
    ((a.completeSessionSwitch target answers).2, (a.completeSessionSwitch target answers).1.board) =
      a.board.switch target answers.switch := by
  unfold completeSessionSwitch Board.switch
  dsimp only
  have hlive : (!(a.sessions target).rdp || (a.sessions target).sessionFailed) =
      !((a.board.seats target).rdp && !(a.board.seats target).sessionFailed) := by
    rw [Bool.not_and, Bool.not_not]
    rfl
  rw [hlive]
  split
  · rfl
  split
  · rename_i hsame
    rw [if_pos (show a.board.activeIndex = target from hsame)]
  rename_i hother
  rw [if_neg (show ¬a.board.activeIndex = target from hother)]
  have hfilled : ((a.flushSettings answers.disk).modifySlot target fun s =>
      { s with snapshotPending := false }).board =
        a.board.modify target fun s => { s with snapshotPending := false } := by
    rw [board_modifySlot (g := fun s => { s with snapshotPending := false }) rfl,
      board_flushSettings]
  have hgone : (((((a.flushSettings answers.disk).modifySlot target fun s =>
      { s with snapshotPending := false }).activate target).backgroundSlot a.mixer.activeIndex
        answers.background).board =
      { a.board.modify target fun s => { s with snapshotPending := false } with
        activeIndex := target }.background a.board.activeIndex answers.switch.background) := by
    refine (board_backgroundSlot answers.background).trans ?_
    rw [← hfilled]
    rfl
  rw [← hgone]
  generalize (((a.flushSettings answers.disk).modifySlot target fun s =>
    { s with snapshotPending := false }).activate target).backgroundSlot a.mixer.activeIndex
      answers.background = b
  by_cases hsilenced : (!(a.board.seats target).snapshotPending &&
      (b.board.seats target).suppressed) = true
  · rw [if_pos hsilenced, if_pos (show (!(a.sessions target).snapshotPending &&
      (b.sessions target).suppressed) = true from hsilenced)]
    exact congrArg (Prod.mk true) board_resumeSlot
  · rw [if_neg hsilenced, if_neg (show ¬(!(a.sessions target).snapshotPending &&
      (b.sessions target).suppressed) = true from hsilenced)]

theorem board_survivor : a.survivor i = a.board.survivor i := rfl

theorem board_superviseSlot : (a.superviseSlot i answers).board =
    a.board.supervise i answers.streamingVisible answers.switch := by
  have hstop : ∀ b : App, ((b.stopSlot i).flushSettings answers.disk).board = b.board.stop i :=
    fun b => (board_flushSettings _).trans board_stopSlot
  unfold superviseSlot Board.supervise
  split
  · rename_i hsound
    rw [if_pos (show (!(a.board.seats i).sessionFailed) = true from hsound)]
  rename_i hfailed
  rw [if_neg (show ¬(!(a.board.seats i).sessionFailed) = true from hfailed)]
  split
  · rename_i hactive
    have hactive : a.board.activeIndex = i := Eq.symm hactive
    rw [board_survivor]
    cases hshown : answers.streamingVisible with
    | false =>
      rw [if_neg fun hboth => nomatch hboth.2]
      cases a.board.survivor i with
      | none => exact hstop a
      | some j => exact board_stopSlot
    | true =>
      rw [if_pos ⟨hactive, rfl⟩]
      cases a.board.survivor i with
      | none => exact hstop a
      | some j =>
        have hswitch : ((a.completeSessionSwitch j answers).2,
            (a.completeSessionSwitch j answers).1.board) = a.board.switch j answers.switch :=
          board_completeSessionSwitch
        dsimp only
        rw [← hswitch]
        generalize a.completeSessionSwitch j answers = switched
        obtain ⟨b, ok⟩ := switched
        cases ok with
        | true => exact board_stopSlot
        | false => exact hstop b
  · rename_i helsewhere
    rw [if_neg fun hboth => helsewhere (Eq.symm hboth.1)]
    exact board_stopSlot

end App

end Mixing

end Lgnome
