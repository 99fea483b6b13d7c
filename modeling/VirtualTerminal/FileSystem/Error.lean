/-! # Errors of the file system

Each error carries the name that it is about; a missing operand carries a description of the
operand. -/
namespace VirtualTerminal

inductive FileError
  | notFound (name : String)
  | notAFolder (name : String)
  | isAFolder (name : String)
  | alreadyExists (name : String)
  | folderNotEmpty (name : String)
  | invalidPath (name : String)
  | missingOperand (what : String)
  deriving DecidableEq, Repr

def FileError.message : FileError → String
  | .notFound name => "\"" ++ name ++ "\" does not exist"
  | .notAFolder name => "\"" ++ name ++ "\" is not a folder"
  | .isAFolder name => "\"" ++ name ++ "\" is not a file"
  | .alreadyExists _ => "File or folder already exists"
  | .folderNotEmpty name => "Folder \"" ++ name ++ "\" is not empty."
  | .invalidPath _ => "Invalid path"
  | .missingOperand what => "Specify " ++ what

end VirtualTerminal
