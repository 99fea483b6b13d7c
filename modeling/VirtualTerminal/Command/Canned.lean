/-! # Canned output

The texts that commands print as they stand. -/
namespace VirtualTerminal.Command

def helpLines : List String := [
  "Available commands:",
  "- help : show this message",
  "- clear : clear the screen",
  "- echo <text> : repeat your message",
  "- whoami : display your username",
  "- date : show current date and time",
  "- autocode : enter autocode mode (type actual code automatically)",
  "- hello : show \"Hello World\" in multiple languages",
  "- loading : show retro loading screen",
  "- guess : start a number guessing game (1-100)",
  "- reverse <text> : reverse a string",
  "- colorcycle : cycle text colors until Escape pressed",
  "- exit : simulate terminal shutdown",
  "- ls : list current directory contents",
  "- cd <folder> : change directory (use \"...\" to go back)",
  "- mkdir <folder> : create folder",
  "- touch <file> : create file",
  "- cat <file> : show file content",
  "- rm <file/folder> : remove file or folder",
  "- edit <file> : edit a file in-memory",
  "- script : enter script creation mode",
  "- script run <file> : execute a saved script file"]

def userName : String := "ARM-23 user"

def helloLines : List String := [
  "--- Hello World Examples ---",
  "BASIC: PRINT \"HELLO WORLD\"",
  "FORTRAN: PRINT *, \"HELLO WORLD\"",
  "C: printf(\"Hello World!\\n\");",
  "C++: std::cout << \"Hello World!\" << std::endl;",
  "Python: print(\"Hello World!\")",
  "Java: System.out.println(\"Hello World!\");",
  "Visual Basic: MsgBox \"Hello World!\""]

def cheerLines : List String := [
  "Remember: You are capable, strong, and valued.",
  "Sending a digital hug (\\_/) from the terminal.",
  "The system loves you. Keep going.",
  "STATUS: All systems GO! for happiness.",
  "You are the most interesting and most special person in universe."]

end VirtualTerminal.Command
