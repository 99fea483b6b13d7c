import VirtualTerminal.Proofs.FileOperations
import VirtualTerminal.Proofs.ModalGate
import VirtualTerminal.Proofs.Typing

/-! # Changes of the mode

An event keeps the mode, enters a sub-program from the normal mode, advances the active sub-program,
or returns to the normal mode. -/
namespace VirtualTerminal

def GuessGame.InRange (game : GuessGame) : Prop := smallest ≤ game.target ∧ game.target ≤ largest

theorem GuessGame.drawn_inRange (random : Chance) : (drawn random).1.InRange := by
  have low : (random.draw (largest - smallest + 1)).1 < largest - smallest + 1 :=
    random.draw_lt (by decide)
  simp only [drawn, new, InRange, smallest, largest] at low ⊢
  omega

theorem GuessGame.guess_continues {game : GuessGame} {line : String}
    (h : (game.guess line).1.endsGame = false) :
    (game.guess line).2 = ⟨game.target, game.count + 1⟩ := by
  unfold guess at h ⊢
  split
  · next quit => simp [quit, GuessOutcome.endsGame] at h
  · rfl

theorem Autocode.advance_cursor {player player' : Autocode} {step : AutocodeStep}
    (h : player.advance = (step, player')) (goesOn : step ≠ .finished) :
    player.cursor < player'.cursor := by
  unfold advance at h
  split at h <;> cases h
  · exact absurd rfl goesOn
  · exact Nat.lt_succ_self _

namespace Session

/-- The possible changes of the mode by one event, with the resulting input. -/
inductive ModeChange (mode : Mode) (t : Session) : Prop
  | stay (same : t.mode = mode)
  | edit {handle : EditHandle} {text : String} (before : mode = .normal)
      (after : t.mode = .editing handle) (file : t.files.lookup handle.path = some (.file text))
      (cleared : t.input = "")
  | record (before : mode = .normal) (after : t.mode = .collecting []) (cleared : t.input = "")
  | play {target : Nat} (before : mode = .normal) (after : t.mode = .guessing ⟨target, 0⟩)
      (low : 1 ≤ target) (high : target ≤ 100) (cleared : t.input = "")
  | autocode (before : mode = .normal) (after : t.mode = .autocoding ⟨0⟩) (cleared : t.input = "")
  | leave (before : mode ≠ .normal) (after : t.mode = .normal) (cleared : t.input = "")
  | collect {lines : List String} {line : String} (before : mode = .collecting lines)
      (after : t.mode = .collecting (lines ++ [line]))
  | name {lines : List String} (before : mode = .collecting lines) (after : t.mode = .naming lines)
      (prompted : t.input = namePrompt)
  | guess {game game' : GuessGame} (before : mode = .guessing game)
      (after : t.mode = .guessing game') (target : game'.target = game.target)
      (counted : game'.count.toNat = (game.count.toNat + 1) % UInt32.size)
  | type {player player' : Autocode} (before : mode = .autocoding player)
      (after : t.mode = .autocoding player') (further : player.cursor < player'.cursor)

end Session

/-- The second mode belongs to the same run of a sub-program as the first and extends its data, or
one of them is the normal mode. -/
def Mode.Continues : Mode → Mode → Prop
  | .normal, _ | _, .normal => True
  | .editing handle, .editing handle' => handle' = handle
  | .collecting lines, .collecting lines' | .collecting lines, .naming lines' => lines <+: lines'
  | .naming lines, .naming lines' => lines' = lines
  | .guessing game, .guessing game' => game'.target = game.target
  | .autocoding player, .autocoding player' => player.cursor ≤ player'.cursor
  | _, _ => False

theorem Mode.continues_refl (mode : Mode) : mode.Continues mode := by
  cases mode <;> simp [Continues]

theorem Mode.continues_normal (mode : Mode) : mode.Continues .normal := by
  cases mode <;> trivial

theorem Mode.Continues.trans {first second third : Mode} (h : first.Continues second)
    (h' : second.Continues third) (active : second ≠ .normal) : first.Continues third := by
  cases second with
  | normal => exact absurd rfl active
  | editing | naming => cases first <;> cases third <;> simp_all only [Continues]
  | collecting lines =>
    cases first <;> cases third <;> simp only [Continues] at h h' ⊢
    all_goals exact h.trans h'
  | guessing game =>
    cases first <;> cases third <;> simp only [Continues] at h h' ⊢
    exact h'.trans h
  | autocoding player =>
    cases first <;> cases third <;> simp only [Continues] at h h' ⊢
    exact Nat.le_trans h h'

def Event.IsTimer : Event → Prop
  | .key _ | .command _ => False
  | .tickLoading | .stopLoading | .tickColor | .stepShutdown => True

@[elab_as_elim]
theorem Event.byTimer {motive : Event → Prop} (key : ∀ key, motive (.key key))
    (command : ∀ line, motive (.command line)) (timer : ∀ event, event.IsTimer → motive event)
    (event : Event) : motive event := by
  cases event with
  | key k => exact key k
  | command line => exact command line
  | tickLoading | stopLoading | tickColor | stepShutdown => exact timer _ trivial

theorem Command.request_edit {w : Surroundings} {c : Command} {handle : EditHandle}
    (h : (c.execute w).request = some (.startEdit handle)) :
    ∃ text, (c.execute w).files.lookup handle.path = some (.file text) := by
  cases c with
  | builtin b => cases b <;> cases h
  | echo | reverse | empty | unknown | script => cases h
  | scriptRun name =>
    simp only [execute, runScriptFile] at h
    split at h
    · cases h
    · split at h <;> cases h
  | file verb name =>
    cases verb with
    | ls | cd | cat =>
      simp only [execute, runFile] at h
      split at h <;> cases h
    | mkdir | touch | rm => simp [execute, runFile] at h
    | edit =>
      simp only [execute, runFile] at h ⊢
      split at h
      · next opened hb =>
        cases h
        exact FileSystem.lookup_beginEdit hb
      · cases h

namespace Session

theorem ModeChange.continues {mode : Mode} {t : Session} (h : ModeChange mode t) :
    mode.Continues t.mode := by
  cases h with
  | stay same => rw [same]; exact Mode.continues_refl _
  | edit before after | record before after | play before after | autocode before after =>
    rw [before, after]; trivial
  | leave _ after => rw [after]; exact Mode.continues_normal _
  | collect before after => rw [before, after]; exact List.prefix_append _ _
  | name before after => rw [before, after]; exact List.prefix_rfl
  | guess before after target => rw [before, after]; exact target
  | type before after further => rw [before, after]; exact Nat.le_of_lt further

theorem grant_modeChange {s : Session} {r : Request} {m : Modal} (h : s.mode = .normal)
    (hm : r.modal? = some m)
    (file : ∀ handle, r = .startEdit handle →
      ∃ text, s.files.lookup handle.path = some (.file text)) :
    ModeChange s.mode (s.grant r).session := by
  cases r with
  | clearScreen | changeFolder | runScript | startLoading | toggleColor | shutdown => cases hm
  | startAutocode =>
    rw [grant, (enterMode_of_normal h _ _).1]
    exact .autocode h rfl rfl
  | startGuess =>
    have granted : (s.grant .startGuess).session =
        ({ s with
          random := (GuessGame.drawn s.random).2
          mode := .guessing (GuessGame.drawn s.random).1
          input := "" }).printAll GuessGame.intro :=
      (enterMode_of_normal (s := { s with random := (GuessGame.drawn s.random).2 }) h _ _).1
    obtain ⟨low, high⟩ := GuessGame.drawn_inRange s.random
    rw [granted]
    exact .play h rfl low high rfl
  | startScript =>
    rw [grant, (enterMode_of_normal h _ _).1]
    exact .record h rfl rfl
  | startEdit handle =>
    obtain ⟨text, found⟩ := file handle rfl
    rw [grant, (enterMode_of_normal h _ _).1]
    exact .edit h rfl found rfl

theorem runCommand_modeChange (s : Session) (line : String) :
    ModeChange s.mode (s.runCommand line).session := by
  cases hm : (Command.parse line).modal? with
  | none => exact .stay (runCommand_keyboard_of_not_modal s hm).1
  | some m =>
    by_cases normal : s.mode = .normal
    · have gate : s.gate? line = none := by
        rw [gate?, hm, Option.bind_some, refusal?_of_normal normal]
      rw [runCommand_of_gate? gate]
      cases hr : ((Command.parse line).execute s.toSurroundings).request with
      | none =>
        rw [(dispatch_of_no_request hr).1]
        exact .stay (absorb_mode s _)
      | some r =>
        have kept := absorb_mode s ((Command.parse line).execute s.toSurroundings)
        rw [(dispatch_of_request hr).1, ← kept]
        refine grant_modeChange (kept.trans normal) ((Command.request_modal hr).trans hm) ?_
        rintro handle rfl
        rw [absorb_files]
        exact Command.request_edit hr
    · rw [(runCommand_refused normal hm).1]
      exact .stay rfl

theorem cancelMode_modeChange (s : Session) : ModeChange s.mode s.cancelMode.session := by
  unfold cancelMode
  split
  · next row cancelled =>
    have active : s.mode ≠ .normal := by
      intro normal
      rw [normal] at cancelled
      cases cancelled
    exact .leave active rfl rfl
  · exact .stay rfl

theorem escape_modeChange (s : Session) : ModeChange s.mode s.escape.session := by
  unfold escape
  split
  · exact s.cancelMode_modeChange
  · exact .stay rfl
  · exact s.cancelMode_modeChange

theorem collectLine_modeChange (s : Session) (lines : List String) (line : String) :
    ModeChange (.collecting lines) (s.collectLine lines line).session := by
  unfold collectLine
  split
  · exact .name rfl rfl rfl
  · exact .collect rfl rfl

theorem nameScript_modeChange (s : Session) (lines : List String) (line : String) :
    ModeChange (.naming lines) (s.nameScript lines line).session := by
  unfold nameScript
  dsimp only
  split
  · exact .leave nofun rfl rfl
  · exact .leave nofun rfl rfl

theorem editLine_modeChange {s : Session} {handle : EditHandle} (editing : s.mode = .editing handle)
    (line : String) : ModeChange (.editing handle) (s.editLine handle line).session := by
  unfold editLine
  split
  · exact .leave nofun rfl rfl
  · split
    · exact .stay editing
    · exact .leave nofun rfl rfl

theorem guessLine_modeChange (s : Session) (game : GuessGame) (line : String) :
    ModeChange (.guessing game) (s.guessLine game line).session := by
  unfold guessLine
  dsimp only
  split
  · exact .leave nofun rfl rfl
  · next goesOn =>
    have counted := GuessGame.guess_continues (Bool.eq_false_iff.mpr goesOn)
    refine .guess rfl (congrArg Mode.guessing counted) rfl ?_
    rw [UInt32.toNat_add]
    rfl

theorem submit_modeChange (s : Session) : ModeChange s.mode s.submit.session := by
  unfold submit
  dsimp only
  cases s.mode with
  | normal => exact runCommand_modeChange { s with mode := .normal, input := "" } s.input
  | collecting lines => exact collectLine_modeChange _ lines s.input
  | naming lines => exact nameScript_modeChange _ lines s.input
  | editing handle => exact editLine_modeChange rfl s.input
  | guessing game => exact guessLine_modeChange _ game s.input
  | autocoding => exact .stay rfl

theorem playAutocode_modeChange {s : Session} {player : Autocode}
    (before : s.mode = .autocoding player) : ModeChange s.mode (s.playAutocode player).session := by
  unfold playAutocode
  split
  · next c player' typed => exact .type before rfl (Autocode.advance_cursor typed nofun)
  · next player' done => exact .type before rfl (Autocode.advance_cursor done nofun)
  · exact .leave (by simp [before]) rfl rfl

theorem handleKey_modeChange (s : Session) (key : Key) :
    ModeChange s.mode (s.handleKey key).session := by
  cases s.handleKey_pressed key with
  | escape same =>
    rw [same]
    exact s.escape_modeChange
  | play playing same =>
    rw [same]
    exact playAutocode_modeChange playing
  | submit same =>
    rw [same]
    exact s.submit_modeChange
  | edit input same =>
    rw [same]
    exact .stay rfl

theorem step_frame_of_isTimer {event : Event} (h : event.IsTimer) (s : Session) :
    (s.step event).toSurroundings = s.toSurroundings ∧ (s.step event).mode = s.mode := by
  cases event with
  | key | command => cases h
  | tickLoading =>
    simp only [step, tickLoading]
    split
    · exact ⟨rfl, rfl⟩
    · split <;> exact ⟨rfl, rfl⟩
  | stopLoading =>
    simp only [step, stopLoading]
    split <;> exact ⟨rfl, rfl⟩
  | tickColor =>
    simp only [step, tickColor]
    split <;> exact ⟨rfl, rfl⟩
  | stepShutdown =>
    simp only [step, stepShutdown]
    split
    · exact ⟨rfl, rfl⟩
    · split <;> exact ⟨rfl, rfl⟩

theorem step_mode_of_isTimer {event : Event} (h : event.IsTimer) (s : Session) :
    (s.step event).mode = s.mode := (step_frame_of_isTimer h s).2

theorem step_modeChange (s : Session) (event : Event) : ModeChange s.mode (s.step event) := by
  by_cases timer : event.IsTimer
  · exact .stay (step_mode_of_isTimer timer s)
  · cases event with
    | key key => exact s.handleKey_modeChange key
    | command line => exact s.runCommand_modeChange line
    | tickLoading | stopLoading | tickColor | stepShutdown => exact absurd trivial timer

/-- Without a return to the normal mode, one run of a sub-program continues. -/
theorem run_continues {s : Session} {events : List Event}
    (active : ∀ before, before <+: events → (s.run before).mode ≠ .normal) :
    s.mode.Continues (s.run events).mode := by
  induction events generalizing s with
  | nil => exact Mode.continues_refl s.mode
  | cons event rest ih =>
    have first : s.mode.Continues (s.step event).mode := (s.step_modeChange event).continues
    have later : (s.step event).mode.Continues ((s.step event).run rest).mode := by
      refine ih fun before hb => ?_
      exact active (event :: before) (List.cons_prefix_cons.mpr ⟨rfl, hb⟩)
    have between : (s.step event).mode ≠ .normal :=
      active [event] (List.cons_prefix_cons.mpr ⟨rfl, List.nil_prefix⟩)
    exact first.trans later between

/-- The target of a game in a reachable session is in range. -/
theorem Reachable.guess_inRange {s : Session} (h : Reachable s) {game : GuessGame}
    (playing : s.mode = .guessing game) : game.InRange := by
  induction h generalizing game with
  | start => cases playing
  | step event _ ih =>
    next before _ =>
    cases before.step_modeChange event with
    | stay same => exact ih (same.symm.trans playing)
    | play _ after low high =>
      cases after.symm.trans playing
      exact ⟨low, high⟩
    | guess earlier after target =>
      cases after.symm.trans playing
      rw [GuessGame.InRange, target]
      exact ih earlier
    | edit _ after | record _ after | autocode _ after | leave _ after | collect _ after
    | name _ after | type _ after => cases after.symm.trans playing

/-- The modes as a state machine. In every session an event keeps the mode or changes it in one of
the listed ways; a timer keeps it; and over any events without a return to the normal mode, a
sub-program stays the same, with its recorded lines in order, its open file and its target. A guess
increments the 32-bit counter. -/
theorem step_mode_machine (s : Session) (event : Event) :
    ModeChange s.mode (s.step event) ∧ s.mode.Continues (s.step event).mode ∧
      (event.IsTimer → (s.step event).mode = s.mode) ∧
      ∀ events, (∀ before, before <+: events → (s.run before).mode ≠ .normal) →
        s.mode.Continues (s.run events).mode :=
  ⟨s.step_modeChange event, (s.step_modeChange event).continues,
    fun timer => step_mode_of_isTimer timer s, fun _ active => run_continues active⟩

/-- A drawn target is kept, and the counter wraps around. -/
example :
    let s := (start .empty (.ofWords [2147483648]) "noon").step (.command "guess")
    let last := { s with mode := .guessing ⟨51, 4294967295⟩, input := "50" }
    s.mode = .guessing ⟨51, 0⟩ ∧ (last.step (.key .enter)).mode = .guessing ⟨51, 0⟩ := by
  decide +kernel

end Session
end VirtualTerminal
