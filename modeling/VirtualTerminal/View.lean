import VirtualTerminal.Session
import VirtualTerminal.View.Html

/-! # The view

The HTML of rows and sessions. All contents of rows are in text nodes. -/
namespace VirtualTerminal.View
open Html

def toneClass : Tone → String
  | .plain => "line"
  | .error => "line textRed"
  | .success => "line textGreen"
  | .info => "line textYellow"

def row : Row → List Char
  | .message tone s => element "div" [("class", toneClass tone)] (text s)
  | .command prompt input =>
    element "div" [("class", "line")]
      (element "span" [("class", "prompt")] (text prompt) ++ element "span" [] (text input))
  | .entry name kind =>
    element "div" [("class", "line")]
      (element "span" [("class", "textDim")] (text (Row.kindTag kind)) ++
        element "span" [] (text name))

def inputLine (s : Session) : List Char :=
  element "div" [("class", "inputLine")]
    (element "span" [("class", "prompt")] (text s.prompt) ++
      element "span" [("class", "input")] (text s.input) ++
      element "span" [("class", "cursor")] (text "_"))

/-- The text in place of the input line of a halted session: the end of an empty comment. -/
def noInputLine : List Char := "-->".toList

def terminal (s : Session) : List Char :=
  element "div" [("class", "container"), ("style", "color:" ++ s.textColor ++ ";")]
    (element "div" [("class", "output")] (s.log.rows.flatMap row) ++
      (if s.halted then noInputLine else inputLine s))

def unavailable : List Char := element "div" [("class", "container")] (text "Terminal unavailable")

end VirtualTerminal.View
