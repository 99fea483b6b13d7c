import VirtualTerminal.Session.Keyboard

/-! # Events

The events of a session, and the sessions reachable by them. -/
namespace VirtualTerminal

inductive Event
  | key (key : Key)
  | command (line : String)
  | tickLoading
  | stopLoading
  | tickColor
  | stepShutdown
  deriving DecidableEq, Repr

namespace Session

def step (s : Session) : Event → Session
  | .key key => (s.handleKey key).session
  | .command line => (s.runCommand line).session
  | .tickLoading => s.tickLoading.session
  | .stopLoading => s.stopLoading.session
  | .tickColor => s.tickColor.session
  | .stepShutdown => s.stepShutdown.session

def run (s : Session) (events : List Event) : Session := events.foldl step s

/-- The sessions that events lead to from a fresh session over any files. -/
inductive Reachable : Session → Prop
  | start (files : FileSystem) (random : Chance) (clock : Clock) :
    Reachable (.start files random clock)
  | step (event : Event) {s : Session} : Reachable s → Reachable (s.step event)

end Session
end VirtualTerminal
