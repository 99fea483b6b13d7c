import VirtualTerminal.Page
import VirtualTerminal.Proofs.DemoEffects

/-! # Timers mirror the demos

On every page the demos with armed timers are the running ones. -/
namespace VirtualTerminal

inductive PageEvent
  | key (key : Key)
  | command (line : String)
  | fire (timer : Timer)
  | wait (ms : Nat)
  deriving DecidableEq, Repr

def Timer.demo : Timer → Demo
  | .frame | .limit => .loading
  | .color => .color
  | .shutdown => .shutdown

def Timer.event : Timer → Event
  | .frame => .tickLoading
  | .limit => .stopLoading
  | .color => .tickColor
  | .shutdown => .stepShutdown

def PageEvent.event? : PageEvent → Option Event
  | .key pressed => some (.key pressed)
  | .command line => some (.command line)
  | .fire timer => some timer.event
  | .wait _ => none

theorem PageEvent.event?_eq_timer {event : PageEvent} {timer : Timer}
    (h : event.event? = some timer.event) : event = .fire timer := by
  cases event with
  | key | command => cases timer <;> cases h
  | wait => cases h
  | fire other => cases other <;> cases timer <;> first | rfl | cases h

theorem Session.step_of_not_running {s : Session} {timer : Timer}
    (h : s.running timer.demo = false) : s.step timer.event = s := by
  cases timer with
  | frame =>
    have idle : s.loading = none := by simpa [running, Timer.demo] using h
    simp only [step, Timer.event, tickLoading, idle]
  | limit =>
    have idle : s.loading = none := by simpa [running, Timer.demo] using h
    simp only [step, Timer.event, stopLoading, idle]
  | color =>
    have idle : s.color = none := by simpa [running, Timer.demo] using h
    simp only [step, Timer.event, tickColor, idle]
  | shutdown =>
    have idle : s.shutdown = none := by simpa [running, Timer.demo] using h
    simp only [step, Timer.event, stepShutdown, idle]

def Slots.holds (slots : Slots) : Demo → Bool
  | .loading => slots.loading.isSome
  | .color => slots.color.isSome
  | .shutdown => slots.shutdown.isSome

theorem Slots.alarm?_isSome (slots : Slots) (timer : Timer) :
    (slots.alarm? timer).isSome = slots.holds timer.demo := by
  cases timer <;> simp [alarm?, holds, Timer.demo]

theorem Slots.armed_fst (slots : Slots) :
    slots.armed.map Prod.fst =
      [Timer.frame, .limit, .color, .shutdown].filter fun timer =>
        (slots.alarm? timer).isSome := by
  have listed : ∀ timers : List Timer,
      (timers.filterMap fun timer => (slots.alarm? timer).map fun alarm => (timer, alarm)).map
        Prod.fst = timers.filter fun timer => (slots.alarm? timer).isSome := by
    intro timers
    induction timers with
    | nil => rfl
    | cons timer rest ih =>
      rw [List.filterMap_cons, List.filter_cons]
      cases slots.alarm? timer with
      | none => exact ih
      | some alarm => exact congrArg (timer :: ·) ih
  exact listed _

namespace Page

def step (p : Page) : PageEvent → Page
  | .key key => (p.handleKey key).page
  | .command line => (p.runCommand line).page
  | .fire timer => (p.callAll [timer]).page
  | .wait ms => { p with now := p.now + ms }

def run (p : Page) (events : List PageEvent) : Page := events.foldl step p

theorem run_cons (p : Page) (event : PageEvent) (events : List PageEvent) :
    p.run (event :: events) = (p.step event).run events := rfl

theorem run_append (p : Page) (events events' : List PageEvent) :
    p.run (events ++ events') = (p.run events).run events' := List.foldl_append

theorem settle_eq (p : Page) (reply : Reply (Option Effect)) :
    (p.settle reply).page =
      (reply.answer.map ({ p with session := reply.session } : Page).applyEffect).getD
        { p with session := reply.session } := by
  unfold settle
  cases reply.answer <;> rfl

theorem step_key (p : Page) (key : Key) :
    p.step (.key key) = (p.settle (p.session.handleKey key)).page := rfl

theorem step_command (p : Page) (line : String) :
    p.step (.command line) = (p.settle (p.session.runCommand line)).page := rfl

theorem step_fire_of_armed {p : Page} {timer : Timer} {alarm : Alarm}
    (h : p.slots.alarm? timer = some alarm) : p.step (.fire timer) = (p.call timer).page := by
  simp only [step, callAll, h]
  rfl

theorem step_fire_of_not_armed {p : Page} {timer : Timer} (h : p.slots.alarm? timer = none) :
    p.step (.fire timer) = p := by
  simp only [step, callAll, h]

theorem callAll_run (p : Page) (timers : List Timer) :
    (p.callAll timers).page = p.run (timers.map .fire) := by
  induction timers generalizing p with
  | nil => rfl
  | cons timer rest ih =>
    rw [List.map_cons, run_cons]
    cases armed : p.slots.alarm? timer with
    | none =>
      rw [step_fire_of_not_armed armed, ← ih]
      simp only [callAll, armed]
    | some alarm =>
      rw [step_fire_of_armed armed, ← ih]
      simp only [callAll, armed]
      rfl

/-- A stall as events: the time, and then a call of every due timer. -/
def stalling (p : Page) (ms : Nat) : List PageEvent :=
  .wait ms :: (p.slots.dueBy (p.now + ms)).map .fire

theorem stall_run (p : Page) (ms : Nat) : (p.stall ms).page = p.run (p.stalling ms) :=
  callAll_run _ _

def passing : Nat → Nat → Page → List PageEvent
  | 0, _, _ => []
  | stops + 1, ms, p =>
    if ms = 0 then []
    else
      let part := p.untilDue ms
      p.stalling part ++ passing stops (ms - part) (p.stall part).page

theorem advanceWithin_run (stops ms : Nat) (reply : PageReply) :
    (advanceWithin stops ms reply).page = reply.page.run (passing stops ms reply.page) := by
  induction stops generalizing ms reply with
  | zero => rfl
  | succ stops ih =>
    unfold advanceWithin passing
    split
    · rfl
    · rw [run_append, ← stall_run]
      exact ih _ _

theorem advance_run (p : Page) (ms : Nat) : (p.advance ms).page = p.run (passing ms ms p) :=
  advanceWithin_run ms ms ⟨p, []⟩

/-- A call keeps the other timers and rearms its own, or drops them. -/
theorem alarm?_call (p : Page) (timer other : Timer) :
    (p.call timer).page.slots.alarm? other = none ∨
      (p.call timer).page.slots.alarm? other =
        if other = timer then (p.slots.alarm? timer).map fun alarm => alarm.again (p.nextDue timer)
        else p.slots.alarm? other := by
  cases timer with
  | frame =>
    cases other with
    | color | shutdown => exact .inr rfl
    | frame | limit =>
      cases answer : p.session.tickLoading.answer with
      | true => exact .inr (by simp [call, callFrame, answer, Slots.alarm?, Function.comp_def])
      | false => exact .inl (by simp [call, callFrame, answer, Slots.alarm?])
  | limit =>
    cases other with
    | frame | limit => exact .inl rfl
    | color | shutdown => exact .inr rfl
  | color =>
    cases other with
    | frame | limit | shutdown => exact .inr rfl
    | color =>
      cases answer : p.session.tickColor.answer with
      | true => exact .inr (by simp [call, callColor, answer, Slots.alarm?])
      | false => exact .inl (by simp [call, callColor, answer, Slots.alarm?])
  | shutdown =>
    cases answer : p.session.stepShutdown.answer with
    | true => exact .inr (by cases other <;> simp [call, callShutdown, answer, Slots.alarm?])
    | false =>
      exact .inl (by cases other <;> simp [call, callShutdown, answer, Slots.alarm?, Slots.empty])

/-- Each demo has its timers exactly while it runs. -/
def Mirrors (p : Page) : Prop := p.slots.holds = p.session.running

theorem applyEffect_holds (p : Page) (effect : Effect) :
    (p.applyEffect effect).slots.holds = effect.after p.slots.holds := by
  funext demo
  cases effect <;> cases demo <;> rfl

theorem applyEffect_session (p : Page) (effect : Effect) :
    (p.applyEffect effect).session = p.session := by
  cases effect <;> rfl

theorem Mirrors.settle {p : Page} (h : p.Mirrors) {reply : Reply (Option Effect)}
    (announced : Session.Announces p.session.running reply) : (p.settle reply).page.Mirrors := by
  rw [settle_eq]
  cases announced with
  | nothing answer same =>
    rw [answer]
    exact h.trans same.symm
  | change answer changed =>
    rw [answer, Option.map_some, Option.getD_some, Mirrors, applyEffect_holds, applyEffect_session]
    exact (congrArg (Effect.after · _) h).trans changed.symm

theorem callFrame_holds {p : Page} (h : p.slots.holds .loading = true) :
    p.callFrame.page.slots.holds =
      Function.update p.slots.holds .loading p.session.tickLoading.answer := by
  obtain ⟨timers, armed⟩ := Option.isSome_iff_exists.mp h
  funext demo
  cases demo <;> cases answer : p.session.tickLoading.answer <;>
    simp [callFrame, Slots.holds, armed, answer]

theorem callColor_holds {p : Page} (h : p.slots.holds .color = true) :
    p.callColor.page.slots.holds =
      Function.update p.slots.holds .color p.session.tickColor.answer := by
  obtain ⟨alarm, armed⟩ := Option.isSome_iff_exists.mp h
  funext demo
  cases demo <;> cases answer : p.session.tickColor.answer <;>
    simp [callColor, Slots.holds, armed, answer]

theorem callShutdown_holds {p : Page} (h : p.slots.holds .shutdown = true) :
    p.callShutdown.page.slots.holds =
      if p.session.stepShutdown.answer then p.slots.holds else fun _ => false := by
  obtain ⟨alarm, armed⟩ := Option.isSome_iff_exists.mp h
  funext demo
  cases demo <;> cases answer : p.session.stepShutdown.answer <;>
    simp [callShutdown, Slots.holds, Slots.empty, armed, answer]

theorem Mirrors.call {p : Page} (h : p.Mirrors) {timer : Timer}
    (armed : p.slots.holds timer.demo = true) : (p.call timer).page.Mirrors := by
  cases timer with
  | frame =>
    rw [Page.call, Mirrors, callFrame_holds armed, h]
    exact p.session.tickLoading_running.symm
  | limit =>
    have emptied : p.callLimit.page.slots.holds = Function.update p.slots.holds .loading false := by
      funext demo
      cases demo <;> rfl
    rw [Page.call, Mirrors, emptied, h]
    exact p.session.stopLoading_running.symm
  | color =>
    rw [Page.call, Mirrors, callColor_holds armed, h]
    exact p.session.tickColor_running.symm
  | shutdown =>
    have running : p.session.running .shutdown = true := by
      rw [← h]
      exact armed
    rw [Page.call, Mirrors, callShutdown_holds armed, h]
    exact (Session.stepShutdown_running running).symm

theorem Mirrors.step {p : Page} (h : p.Mirrors) (event : PageEvent) : (p.step event).Mirrors := by
  cases event with
  | key key =>
    rw [step_key]
    exact h.settle (p.session.handleKey_announces key)
  | command line =>
    rw [step_command]
    exact h.settle (p.session.runCommand_announces line)
  | fire timer =>
    cases armed : p.slots.alarm? timer with
    | none =>
      rw [step_fire_of_not_armed armed]
      exact h
    | some alarm =>
      rw [step_fire_of_armed armed]
      apply h.call
      rw [← Slots.alarm?_isSome, armed]
      rfl
  | wait => exact h

theorem armed_eq {p : Page} (h : p.Mirrors) :
    p.slots.armed.map Prod.fst =
      [Timer.frame, .limit, .color, .shutdown].filter
        (fun timer => p.session.running timer.demo) := by
  rw [Slots.armed_fst, ← h]
  simp only [Slots.alarm?_isSome]

theorem mirrors_new (files : FileSystem) (random : Chance) (clock : Clock) :
    (new files random clock).Mirrors := by
  funext demo
  cases demo <;> rfl

theorem Mirrors.run {p : Page} (h : p.Mirrors) (events : List PageEvent) :
    (p.run events).Mirrors := by
  induction events generalizing p with
  | nil => exact h
  | cons event rest ih => exact ih (h.step event)

theorem settle_session (p : Page) (reply : Reply (Option Effect)) :
    (p.settle reply).page.session = reply.session := by
  rw [settle_eq]
  cases reply.answer with
  | none => rfl
  | some effect => exact applyEffect_session _ effect

theorem call_session (p : Page) (timer : Timer) :
    (p.call timer).page.session = p.session.step timer.event := by
  cases timer <;> rfl

/-- The session of a page evolves as a session of its own: a call of a timer that is not armed does
not change it. -/
theorem Mirrors.session_step {p : Page} (h : p.Mirrors) (event : PageEvent) :
    (p.step event).session = (event.event?.map p.session.step).getD p.session := by
  cases event with
  | key key =>
    rw [step_key]
    exact p.settle_session (p.session.handleKey key)
  | command line =>
    rw [step_command]
    exact p.settle_session (p.session.runCommand line)
  | wait => rfl
  | fire timer =>
    cases armed : p.slots.alarm? timer with
    | some alarm =>
      rw [step_fire_of_armed armed]
      exact p.call_session timer
    | none =>
      have idle : p.session.running timer.demo = false := by
        rw [← h, ← Slots.alarm?_isSome, armed]
        rfl
      rw [step_fire_of_not_armed armed]
      exact (Session.step_of_not_running idle).symm

end Page
end VirtualTerminal
