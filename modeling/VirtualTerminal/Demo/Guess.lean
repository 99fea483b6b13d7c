import VirtualTerminal.Chance
import VirtualTerminal.Row
import VirtualTerminal.Text.AsciiCase
import VirtualTerminal.Text.Numeral

/-! # The guessing game

A hidden number from 1 to 100. Every line but `quit` counts as a guess, whether it is a number or
not. The counter has 32 bits and wraps around. -/
namespace VirtualTerminal

inductive GuessOutcome
  | invalid
  | tooLow
  | tooHigh
  | won
  | quit
  deriving DecidableEq, Repr

structure GuessGame where
  target : Nat
  count : UInt32
  deriving DecidableEq, Repr

def GuessOutcome.endsGame : GuessOutcome → Bool
  | .won | .quit => true
  | _ => false

def GuessOutcome.label : GuessOutcome → String
  | .invalid => "Invalid"
  | .tooLow => "TooLow"
  | .tooHigh => "TooHigh"
  | .won => "Won"
  | .quit => "Quit"

namespace GuessGame

def smallest : Nat := 1

def largest : Nat := 100

def new (target : Nat) : GuessGame := ⟨target, 0⟩

def drawn (random : Chance) : GuessGame × Chance :=
  let (offset, rest) := random.draw (largest - smallest + 1)
  (new (smallest + offset), rest)

def judge (game : GuessGame) (n : Nat) : GuessOutcome :=
  if n < smallest ∨ largest < n then .invalid
  else if n < game.target then .tooLow
  else if game.target < n then .tooHigh
  else .won

def guess (game : GuessGame) (line : String) : GuessOutcome × GuessGame :=
  if Text.sameButCase line "quit" then (.quit, game)
  else
    let outcome :=
      match Text.readNumeral? line with
      | some n => game.judge n
      | none => .invalid
    (outcome, { game with count := game.count + 1 })

def intro : List Row := [
  .info ("Guessing Game started! (" ++ toString smallest ++ "-" ++ toString largest ++ ")"),
  .text "Type your guess and hit Enter.",
  .text "Type 'quit' or press Escape to exit."]

/-- The row for an outcome, after the guess is counted. -/
def message (game : GuessGame) : GuessOutcome → Row
  | .invalid =>
    .error ("Invalid input. Please enter a number between " ++ toString smallest ++ " and " ++
      toString largest ++ ".")
  | .tooLow => .text ("Too low! Try again. (Guess #" ++ toString game.count ++ ")")
  | .tooHigh => .text ("Too high! Try again. (Guess #" ++ toString game.count ++ ")")
  | .won =>
    .success ("CONGRATULATIONS! You guessed the number " ++ toString game.target ++ " in " ++
      toString game.count ++ " attempts.")
  | .quit =>
    .text ("Game aborted after " ++ toString game.count ++ " guesses. The number was " ++
      toString game.target ++ ".")

def cancelled (game : GuessGame) : Row :=
  .info ("Guessing Game cancelled. The number was " ++ toString game.target ++ ".")

end GuessGame
end VirtualTerminal
