import VirtualTerminal.Session

/-! # Ticks

The calls of the timers on a session. A tick answers whether its timer continues. -/
namespace VirtualTerminal.Session

/-- Shows the next frame of the loading bar, or ends it after the last one. -/
def tickLoading (s : Session) : Reply Bool :=
  match s.loading with
  | none => ⟨s, false, []⟩
  | some bar =>
    match bar.tick with
    | some (frame, bar') =>
      ⟨({ s with loading := some bar' }).print (.text ("Loading... " ++ frame)), true, []⟩
    | none =>
      ⟨({ s with loading := none }).print (.success "Load complete."), false,
        [⟨.info, .session, "loading finished", []⟩]⟩

/-- Stops a loading bar that is running when its time is up. -/
def stopLoading (s : Session) : Reply Unit :=
  match s.loading with
  | none => ⟨s, (), []⟩
  | some _ =>
    ⟨({ s with loading := none }).print
        (.error "ERROR: Load exceeded maximum runtime and was forcibly stopped."), (),
      [⟨.warn, .session, "loading exceeded its runtime budget", []⟩]⟩

def tickColor (s : Session) : Reply Bool :=
  match s.color with
  | none => ⟨s, false, []⟩
  | some cycle => ⟨{ s with color := some cycle.tick }, true, []⟩

/-- Shows the next line of the shutdown sequence, or halts after the last one. -/
def stepShutdown (s : Session) : Reply Bool :=
  match s.shutdown with
  | none => ⟨s, false, []⟩
  | some sequence =>
    match sequence.step with
    | some (line, sequence') =>
      ⟨({ s with shutdown := some sequence' }).print (.text line), true, []⟩
    | none =>
      ⟨{ s with shutdown := none, halted := true, loading := none, color := none, input := "" },
        false, [⟨.info, .session, "terminal halted", []⟩]⟩

end VirtualTerminal.Session
