import VirtualTerminal.Proofs.Commands

/-! # The modal gate

While a sub-program is active, command lines leave the mode and the input unchanged. Those that open
a sub-program are refused before they run, and all others run as in the normal mode. Behind the
gate, the check on entering a mode always succeeds. -/
namespace VirtualTerminal.Session

theorem enterMode_of_normal {s : Session} (h : s.mode = .normal) (next : Mode)
    (opening : List Row) :
    (s.enterMode next opening).session =
        ({ s with mode := next, input := "" }).printAll opening ∧
      (s.enterMode next opening).answer = none := by
  simp only [enterMode, refusal?_of_normal h, and_self]

/-- Granting a request for a sub-program enters its mode; a request for the guessing game has drawn
its target before. -/
theorem grant_modal (s : Session) {r : Request} {m : Modal} (h : r.modal? = some m) :
    ∃ random next opening, next.modal? = some m ∧
      s.grant r = ({ s with random := random }).enterMode next opening := by
  cases r with
  | startAutocode => exact ⟨s.random, .autocoding .start, _, h, rfl⟩
  | startGuess =>
    exact ⟨(GuessGame.drawn s.random).2, .guessing (GuessGame.drawn s.random).1, _, h, rfl⟩
  | startScript => exact ⟨s.random, .collecting [], _, h, rfl⟩
  | startEdit handle => exact ⟨s.random, .editing handle, _, h, rfl⟩
  | _ => cases h

theorem runCommand_keyboard {s : Session} (h : s.mode ≠ .normal) (line : String) :
    (s.runCommand line).session.mode = s.mode ∧ (s.runCommand line).session.input = s.input := by
  cases hm : (Command.parse line).modal? with
  | none => exact runCommand_keyboard_of_not_modal s hm
  | some m =>
    rw [(runCommand_refused h hm).1]
    exact ⟨rfl, rfl⟩

theorem run_commands_keyboard {s : Session} (h : s.mode ≠ .normal) (lines : List String) :
    (s.run (lines.map .command)).mode = s.mode ∧ (s.run (lines.map .command)).input = s.input := by
  induction lines generalizing s with
  | nil => exact ⟨rfl, rfl⟩
  | cons line rest ih =>
    obtain ⟨sameMode, sameInput⟩ := runCommand_keyboard h line
    obtain ⟨restMode, restInput⟩ := ih (s := (s.runCommand line).session) (by rwa [sameMode])
    rw [List.map_cons, run_cons, step_command, restMode, restInput]
    exact ⟨sameMode, sameInput⟩

/-- Granting the request enters a mode of the sub-program from a session that passes the second
check, and the line results in the mode entered. -/
def Enters (s : Session) (line : String) (r : Request) (m : Modal) : Prop :=
  ∃ (t : Session) (next : Mode) (opening : List Row),
    (s.absorb ((Command.parse line).execute s.toSurroundings)).grant r = t.enterMode next opening ∧
      next.modal? = some m ∧ t.refusal? next.word = none ∧
      (s.runCommand line).session = ({ t with mode := next, input := "" }).printAll opening

theorem enters_of_gate? {s : Session} {line : String} {r : Request} {m : Modal}
    (hg : s.gate? line = none)
    (hr : ((Command.parse line).execute s.toSurroundings).request = some r)
    (hm : r.modal? = some m) : s.Enters line r m := by
  have normal : s.mode = .normal := normal_of_gate? hg ((Command.request_modal hr).symm.trans hm)
  obtain ⟨random, next, opening, hn, granted⟩ :=
    grant_modal (s.absorb ((Command.parse line).execute s.toSurroundings)) hm
  let after := s.absorb ((Command.parse line).execute s.toSurroundings)
  let t := { after with random := random }
  have hn' : t.mode = .normal := (absorb_mode s _ : after.mode = s.mode).trans normal
  refine ⟨t, next, opening, granted, hn, refusal?_of_normal hn' _, ?_⟩
  rw [runCommand_of_gate? hg, (dispatch_of_request hr).1, granted]
  exact (enterMode_of_normal hn' next opening).1

/-- While a sub-program is active, after any command lines: the mode and the input are unchanged, a
line that opens a sub-program only shows the error row, and any other line has the same result as in
the normal mode. In any mode, a line that passes the gate never fails to enter the mode that it
opens. -/
theorem modal_gate (s : Session) :
    (s.mode ≠ .normal → ∀ lines : List String,
      let t := s.run (lines.map .command)
      t.mode = s.mode ∧ t.input = s.input ∧
        ∀ line : String,
          (∀ m, (Command.parse line).modal? = some m →
            (t.runCommand line).answer = none ∧
              (t.runCommand line).session =
                { t with
                  log := t.log.push (.error ("Error: Cannot enter " ++ m.word ++
                    " mode while another modal session (" ++ s.mode.label ++
                    ") is active.")) }) ∧
          ((Command.parse line).modal? = none →
            t.runCommand line =
              ((t.withKeyboard .normal t.input).runCommand line).withKeyboard t.mode t.input)) ∧
    ∀ line r m, s.gate? line = none →
      ((Command.parse line).execute s.toSurroundings).request = some r → r.modal? = some m →
      s.Enters line r m := by
  refine ⟨fun active lines => ?_, fun line r m hg hr hm => enters_of_gate? hg hr hm⟩
  obtain ⟨sameMode, sameInput⟩ := run_commands_keyboard active lines
  have stillActive : (s.run (lines.map .command)).mode ≠ .normal := by rwa [sameMode]
  refine ⟨sameMode, sameInput, fun line => ⟨fun m hm => ?_, fun hm => ?_⟩⟩
  · obtain ⟨session, answer⟩ := runCommand_refused stillActive hm
    rw [sameMode] at session
    exact ⟨answer, session⟩
  · rw [← runCommand_withKeyboard _ _ _ hm]
    rfl

/-- A line that opens a guessing game while a script is recorded, after a folder was made. -/
theorem modal_gate_recording :
    let s := { Session.start .empty (.ofWords [7]) "noon" with
      mode := .collecting ["ls"], input := "ec" }
    s.mode ≠ .normal ∧ (Command.parse "guess").modal? = some .guess ∧
      ((s.run [.command "mkdir a"]).runCommand "guess").session =
        { s.run [.command "mkdir a"] with
          log := (s.run [.command "mkdir a"]).log.push (.error
            "Error: Cannot enter guess mode while another modal session (Script) is active.") } :=
  by
  have active : (Mode.collecting ["ls"]) ≠ .normal := by decide
  have opens : (Command.parse "guess").modal? = some .guess := by decide
  refine ⟨active, opens, ?_⟩
  obtain ⟨-, -, line⟩ := (modal_gate { Session.start .empty (.ofWords [7]) "noon" with
    mode := .collecting ["ls"], input := "ec" }).1 active ["mkdir a"]
  exact ((line "guess").1 .guess opens).2

end VirtualTerminal.Session
