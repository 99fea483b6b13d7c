/-! # Case of the Latin letters -/
namespace VirtualTerminal.Text

/-- Two texts that differ at most in the case of the letters from A to Z. -/
def sameButCase (s t : String) : Bool := s.toList.map Char.toLower == t.toList.map Char.toLower

end VirtualTerminal.Text
