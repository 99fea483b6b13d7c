import VirtualTerminal.FileSystem.Error

/-! # Errors of the terminal

The reasons for which a command fails. The message of an error is its row on the screen. -/
namespace VirtualTerminal

inductive TerminalError
  | file (error : FileError)
  | modalConflict (requested active : String)
  | invalidArgument (message : String)
  | unknownCommand (line : String)
  | scriptLineUnsupported (line : String)
  deriving DecidableEq, Repr

def TerminalError.message : TerminalError → String
  | .file error => "Error: " ++ error.message
  | .modalConflict requested active =>
    "Error: Cannot enter " ++ requested ++ " mode while another modal session (" ++ active ++
      ") is active."
  | .invalidArgument message => "Error: " ++ message
  | .unknownCommand line => "Unknown command: " ++ line
  | .scriptLineUnsupported line => "[SCRIPT ERROR] Unknown/Non-Executable Command: " ++ line

end VirtualTerminal
