import VirtualTerminal.Page.Timers
import VirtualTerminal.Session.Keyboard

/-! # The page

A session with the timers of its demos, on a clock in milliseconds. Keys and commands arm and drop
timers; time that passes makes them fire. -/
namespace VirtualTerminal

structure Page where
  session : Session
  now : Nat
  armings : Nat
  slots : Slots

/-- A page after a step, with the records that the step wrote. -/
structure PageReply where
  page : Page
  records : List Record

def PageReply.andThen (reply : PageReply) (step : Page → PageReply) : PageReply :=
  let next := step reply.page
  ⟨next.page, reply.records ++ next.records⟩

namespace Page

def new (files : FileSystem) (random : Chance) (clock : Clock) : Page :=
  ⟨(Session.start files random clock).greet, 0, 0, .empty⟩

def startedRecord : Record := ⟨.info, .page, "ARM-23 started", []⟩

def nextDue (p : Page) (timer : Timer) : Nat := p.now + timer.period

/-- A timer armed now, after a number of others in the same moment. -/
def alarm (p : Page) (timer : Timer) (after : Nat) : Alarm := ⟨p.nextDue timer, p.armings + after⟩

def applyEffect (p : Page) : Effect → Page
  | .startLoading =>
    { p with
      armings := p.armings + 2
      slots := { p.slots with loading := some ⟨p.alarm .frame 0, p.alarm .limit 1⟩ } }
  | .startColorCycle =>
    { p with
      armings := p.armings + 1
      slots := { p.slots with color := some (p.alarm .color 0) } }
  | .stopColorCycle => { p with slots := { p.slots with color := none } }
  | .startShutdown =>
    { p with
      armings := p.armings + 1
      slots := { p.slots with shutdown := some (p.alarm .shutdown 0) } }

/-- Takes over the session of a reply and applies the effect that it answered. -/
def settle (p : Page) (reply : Reply (Option Effect)) : PageReply :=
  let after := { p with session := reply.session }
  match reply.answer with
  | none => ⟨after, reply.records⟩
  | some effect =>
    ⟨after.applyEffect effect,
      reply.records ++ [⟨.debug, .timers, "timer effect", [("effect", effect.label)]⟩]⟩

def handleKey (p : Page) (key : Key) : PageReply := p.settle (p.session.handleKey key)

def runCommand (p : Page) (line : String) : PageReply := p.settle (p.session.runCommand line)

def handleKeys (p : Page) (keys : List Key) : PageReply :=
  keys.foldl (fun reply key => reply.andThen fun page => page.handleKey key) ⟨p, []⟩

def enterLine (p : Page) (line : String) : PageReply :=
  p.handleKeys (Session.keysOf line ++ [.enter])

/-- Shows a frame of the loading bar. At the end both of its timers are dropped. -/
def callFrame (p : Page) : PageReply :=
  let reply := p.session.tickLoading
  let again := p.slots.loading.map fun timers =>
    { timers with frame := timers.frame.again (p.nextDue .frame) }
  let loading := if reply.answer then again else none
  ⟨{ p with session := reply.session, slots := { p.slots with loading := loading } },
    reply.records⟩

def callLimit (p : Page) : PageReply :=
  let reply := p.session.stopLoading
  ⟨{ p with session := reply.session, slots := { p.slots with loading := none } }, reply.records⟩

def callColor (p : Page) : PageReply :=
  let reply := p.session.tickColor
  let again := p.slots.color.map fun alarm => alarm.again (p.nextDue .color)
  let color := if reply.answer then again else none
  ⟨{ p with session := reply.session, slots := { p.slots with color := color } }, reply.records⟩

/-- Shows a line of the shutdown sequence. At the end all timers are dropped. -/
def callShutdown (p : Page) : PageReply :=
  let reply := p.session.stepShutdown
  let again := p.slots.shutdown.map fun alarm => alarm.again (p.nextDue .shutdown)
  let slots := if reply.answer then { p.slots with shutdown := again } else .empty
  ⟨{ p with session := reply.session, slots := slots }, reply.records⟩

def call (p : Page) : Timer → PageReply
  | .frame => p.callFrame
  | .limit => p.callLimit
  | .color => p.callColor
  | .shutdown => p.callShutdown

/-- Calls timers in turn; one that an earlier call dropped is passed over. -/
def callAll (p : Page) : List Timer → PageReply
  | [] => ⟨p, []⟩
  | timer :: rest =>
    match p.slots.alarm? timer with
    | none => p.callAll rest
    | some _ => (p.call timer).andThen fun page => page.callAll rest

/-- Moves the clock at once and then calls, late, what came due. -/
def stall (p : Page) (ms : Nat) : PageReply :=
  let later := { p with now := p.now + ms }
  later.callAll (later.slots.dueBy later.now)

/-- The part of a duration until the first due time, but at least a millisecond. -/
def untilDue (p : Page) (ms : Nat) : Nat :=
  match p.slots.firstDue? with
  | none => ms
  | some due => min ms (max 1 (due - p.now))

def advanceWithin : Nat → Nat → PageReply → PageReply
  | 0, _, reply => reply
  | stops + 1, ms, reply =>
    if ms = 0 then reply
    else
      let part := reply.page.untilDue ms
      advanceWithin stops (ms - part) (reply.andThen fun page => page.stall part)

/-- Lets time pass with every timer firing when it is due. -/
def advance (p : Page) (ms : Nat) : PageReply := advanceWithin ms ms ⟨p, []⟩

end Page
end VirtualTerminal
