import VirtualTerminal.Proofs.GuessedNumbers
import VirtualTerminal.Proofs.LineInvariant
import VirtualTerminal.Proofs.Runs

/-! # A whole guessing game

Every line entered in a guessing game is judged against the same target and counted with all lines
before it, until one is the target or quits. -/
namespace VirtualTerminal.Session

/-- The event does not interfere with the game: a call of a timer, or a key, where Escape only stops
the color cycle. -/
def PlaysOn (s : Session) : Event → Prop
  | .command _ => False
  | .key .escape => s.color.isSome = true
  | _ => True

instance (s : Session) : DecidablePred s.PlaysOn
  | .command _ => inferInstanceAs (Decidable False)
  | .key .escape => inferInstanceAs (Decidable (s.color.isSome = true))
  | .key (.char _) | .key .enter | .key .backspace | .key .other
  | .tickLoading | .stopLoading | .tickColor | .stepShutdown => inferInstanceAs (Decidable True)

/-- Enter shows a row and continues in a mode with empty input. -/
def EnterShows (s : Session) (row : Row) (mode : Mode) : Prop :=
  s.step (.key .enter) = ({ s with mode := mode, input := "" } : Session).print row

theorem escape_of_color {s : Session} {game : GuessGame} (playing : s.mode = .guessing game)
    (cycling : s.color.isSome = true) :
    s.escape.session =
      ({ s with color := none, input := "" } : Session).print (.info "Colorcycle cancelled") := by
  obtain ⟨cycle, color⟩ := Option.isSome_iff_exists.mp cycling
  simp only [escape, playing, color]

theorem enter_guess {s : Session} {game game' : GuessGame} {outcome : GuessOutcome}
    (live : s.halted = false) (playing : s.mode = .guessing game)
    (judged : game.guess (Text.trim s.input) = (outcome, game')) :
    s.EnterShows (game'.message outcome)
      (if outcome.endsGame then .normal else .guessing game') := by
  rw [EnterShows, step_key_of_listens (.of_mode live playing nofun), press, submit]
  simp only [playing, guessLine, judged]
  split
  · rfl
  · rfl

theorem step_of_playsOn {s : Session} {game : GuessGame} (live : s.halted = false)
    (playing : s.mode = .guessing game) {event : Event} (plays : s.PlaysOn event)
    (between : event ≠ .key .enter) :
    (s.step event).mode = s.mode ∧ (s.step event).toSurroundings = s.toSurroundings := by
  cases event using Event.byTimer with
  | command line => cases plays
  | timer event timer => exact (step_frame_of_isTimer timer s).symm
  | key key =>
    rw [step_key_of_listens (.of_mode live playing nofun)]
    by_cases edits : key.Edits
    · rw [press_edits edits]
      exact ⟨rfl, rfl⟩
    · cases key with
      | char | backspace | other => exact absurd trivial edits
      | enter => exact absurd rfl between
      | escape =>
        rw [press, escape_of_color playing plays]
        exact ⟨rfl, rfl⟩

def entered (s : Session) : Event → List String
  | .key .enter => [s.input]
  | _ => []

def enteredLines (s : Session) (events : List Event) : List String := yielded step entered s events

/-- The line neither quits the game nor denotes the target. -/
def Misses (target : Nat) (line : String) : Prop :=
  ¬ GuessGame.IsQuit (Text.trim line) ∧ ¬ GuessGame.Guesses (Text.trim line) target

instance (target : Nat) : DecidablePred (Misses target) :=
  fun _ => inferInstanceAs (Decidable (_ ∧ _))

theorem entered_of_ne {s : Session} {event : Event} (h : event ≠ .key .enter) :
    s.entered event = [] := by
  unfold entered
  split
  · exact absurd rfl h
  · rfl

theorem enter_misses {s : Session} {target : Nat} {count : UInt32} (live : s.halted = false)
    (playing : s.mode = .guessing ⟨target, count⟩) (missed : Misses target s.input) :
    (s.step (.key .enter)).mode = .guessing ⟨target, count + 1⟩ ∧
      (s.step (.key .enter)).toSurroundings = s.toSurroundings := by
  let game : GuessGame := ⟨target, count⟩
  have goesOn : (game.guess (Text.trim s.input)).1.endsGame = false := by
    rw [Bool.eq_false_iff]
    intro ends
    exact (GuessGame.endsGame_guess_iff.mp ends).elim missed.1 missed.2
  have shown := enter_guess live playing (Prod.eta _).symm
  rw [if_neg (Bool.eq_false_iff.mp goesOn), GuessGame.guess_continues goesOn] at shown
  rw [shown]
  exact ⟨rfl, rfl⟩

/-- Until a line ends the game, the count is the number of lines and nothing else changes. -/
theorem run_guessing {s : Session} {target count : Nat} {events : List Event}
    (playing : s.mode = .guessing ⟨target, .ofNat count⟩) (plays : Along step PlaysOn s events)
    (live : (s.run events).halted = false)
    (missed : ∀ line ∈ s.enteredLines events, Misses target line) :
    (s.run events).mode = .guessing ⟨target, .ofNat (count + (s.enteredLines events).length)⟩ ∧
      (s.run events).toSurroundings = s.toSurroundings := by
  induction events generalizing s count with
  | nil => exact ⟨playing, rfl⟩
  | cons event rest ih =>
    have before : s.halted = false := live_of_run live
    obtain ⟨first, later⟩ := plays
    by_cases enter : event = .key .enter
    · subst enter
      have lines : s.enteredLines (.key .enter :: rest) =
          s.input :: (s.step (.key .enter)).enteredLines rest := rfl
      rw [lines] at missed ⊢
      obtain ⟨here, others⟩ := List.forall_mem_cons.mp missed
      obtain ⟨counted, kept⟩ := enter_misses before playing here
      obtain ⟨mode, same⟩ := ih (counted.trans (by rw [UInt32.ofNat_add]; rfl)) later live others
      rw [run_cons, List.length_cons, mode, same]
      exact ⟨by rw [Nat.add_assoc, Nat.add_comm 1], kept⟩
    · have lines : s.enteredLines (event :: rest) = (s.step event).enteredLines rest := by
        rw [enteredLines, yielded, entered_of_ne enter, List.nil_append, enteredLines]
      rw [lines] at missed ⊢
      obtain ⟨stays, kept⟩ := step_of_playsOn before playing first enter
      obtain ⟨mode, same⟩ := ih (stays.trans playing) later live missed
      rw [run_cons, mode, same]
      exact ⟨rfl, kept⟩

theorem toString_ofNat {n : Nat} (h : n < UInt32.size) : toString (UInt32.ofNat n) = toString n :=
  congrArg toString (UInt32.toNat_ofNat'.trans (Nat.mod_eq_of_lt h))

/-- In a fresh game, after fewer than 2 ^ 32 lines of which none quits or denotes the target, the
target is unchanged and the count is the number of lines; the files and the working folder are
unchanged. Enter then judges the next line. The word `quit` shows the count and returns to the
normal mode. Any other line increments the count, within the range of the counter: a number below or
above the target shows the count, a line without a number from 1 to 100 is invalid, and the target
shows the count and returns to the normal mode. -/
theorem game_judges_every_line {s : Session} {target : Nat} {events : List Event}
    (fresh : s.mode = .guessing ⟨target, 0⟩) (plays : Along step PlaysOn s events)
    (live : (s.run events).halted = false)
    (missed : ∀ line ∈ s.enteredLines events, Misses target line)
    (few : (s.enteredLines events).length < UInt32.size) :
    let t := s.run events
    let count := (s.enteredLines events).length
    let line := Text.trim t.input
    t.mode = .guessing ⟨target, .ofNat count⟩ ∧ t.files = s.files ∧ t.cwd = s.cwd ∧
      (GuessGame.IsQuit line →
        t.EnterShows (.text ("Game aborted after " ++ toString count ++
          " guesses. The number was " ++ toString target ++ ".")) .normal) ∧
      (count + 1 < UInt32.size →
        (∀ n, GuessGame.Guesses line n → n < target →
          t.EnterShows (.text ("Too low! Try again. (Guess #" ++ toString (count + 1) ++ ")"))
            (.guessing ⟨target, .ofNat (count + 1)⟩)) ∧
        (∀ n, GuessGame.Guesses line n → target < n →
          t.EnterShows (.text ("Too high! Try again. (Guess #" ++ toString (count + 1) ++ ")"))
            (.guessing ⟨target, .ofNat (count + 1)⟩)) ∧
        (¬ GuessGame.IsQuit line → (∀ n, ¬ GuessGame.Guesses line n) →
          t.EnterShows (.error "Invalid input. Please enter a number between 1 and 100.")
            (.guessing ⟨target, .ofNat (count + 1)⟩)) ∧
        (GuessGame.Guesses line target →
          t.EnterShows (.success ("CONGRATULATIONS! You guessed the number " ++ toString target ++
            " in " ++ toString (count + 1) ++ " attempts.")) .normal)) := by
  intro t count line
  obtain ⟨mode, same⟩ := run_guessing fresh plays live missed
  rw [Nat.zero_add] at mode
  have answered {outcome : GuessOutcome} {game' : GuessGame}
      (judged : (GuessGame.mk target (.ofNat count)).guess line = (outcome, game')) :
      t.EnterShows (game'.message outcome)
        (if outcome.endsGame then .normal else .guessing game') := enter_guess live mode judged
  have counted {outcome : GuessOutcome} (goesOn : ¬ GuessGame.IsQuit line)
      (judged : GuessGame.Judged ⟨target, .ofNat count⟩ line outcome) :
      (GuessGame.mk target (.ofNat count)).guess line =
        (outcome, ⟨target, .ofNat (count + 1)⟩) :=
    Prod.ext (GuessGame.guess_of_judged judged)
      (by rw [GuessGame.guess_of_goesOn goesOn, UInt32.ofNat_add]; rfl)
  refine ⟨mode, congrArg Surroundings.files same, congrArg Surroundings.cwd same, ?_, ?_⟩
  · intro quit
    rw [← toString_ofNat few]
    exact answered (GuessGame.guess_of_isQuit quit)
  · intro held
    rw [← toString_ofNat held]
    refine ⟨?_, ?_, ?_, ?_⟩
    · intro n guessed less
      exact answered (counted guessed.goesOn (.tooLow guessed less))
    · intro n guessed more
      exact answered (counted guessed.goesOn (.tooHigh guessed more))
    · intro goesOn other
      exact answered (counted goesOn (.invalid goesOn other))
    · intro guessed
      exact answered (counted guessed.goesOn (.won guessed))

theorem game_judges_every_line_won :
    let s : Session :=
      { start .empty (.ofWords [7]) "noon" with mode := .guessing ⟨42, 0⟩, color := some .start }
    let events := entering " 007 " ++ [.tickColor, .key (.char 'x'), .key .escape] ++
      entering "101" ++ entering "+99" ++ (keysOf "42").map .key
    s.enteredLines events = [" 007 ", "101", "+99"] ∧
      (s.run events).mode = .guessing ⟨42, 3⟩ ∧
      (s.run events).EnterShows
        (.success "CONGRATULATIONS! You guessed the number 42 in 4 attempts.") .normal := by
  intro s events
  have lines : s.enteredLines events = [" 007 ", "101", "+99"] := by decide +kernel
  have fresh : s.mode = .guessing ⟨42, 0⟩ := rfl
  have plays : Along step PlaysOn s events := by decide +kernel
  have missed : ∀ line ∈ s.enteredLines events, Misses 42 line := by
    rw [lines]
    decide
  have few : (s.enteredLines events).length < UInt32.size := by
    rw [lines]
    decide
  obtain ⟨mode, -, -, -, counted⟩ :=
    game_judges_every_line fresh plays (by decide +kernel) missed few
  rw [lines] at mode counted
  obtain ⟨-, -, -, won⟩ := counted (by decide)
  exact ⟨lines, mode, won (by decide +kernel)⟩

end VirtualTerminal.Session
