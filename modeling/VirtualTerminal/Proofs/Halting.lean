import VirtualTerminal.Proofs.Runs
import VirtualTerminal.Proofs.TimerMirror
import VirtualTerminal.View

/-! # Halting

After the last step of the shutdown sequence no key and no timer changes the session. -/
namespace VirtualTerminal

namespace Session

structure AtRest (s : Session) : Prop where
  input : s.input = ""
  loading : s.loading = none
  color : s.color = none
  shutdown : s.shutdown = none

theorem step_halts {s : Session} {event : Event} (live : s.halted = false)
    (halts : (s.step event).halted = true) :
    event = .stepShutdown ∧ (s.step event).AtRest := by
  cases event with
  | key key =>
    rw [step_key, handleKey_halted, live] at halts
    cases halts
  | command line =>
    rw [step_command, runCommand_halted, live] at halts
    cases halts
  | tickLoading =>
    simp only [step, tickLoading] at halts
    split at halts
    · simp [live] at halts
    · split at halts <;> simp [print, live] at halts
  | stopLoading =>
    simp only [step, stopLoading] at halts
    split at halts <;> simp [print, live] at halts
  | tickColor =>
    simp only [step, tickColor] at halts
    split at halts <;> simp [live] at halts
  | stepShutdown =>
    refine ⟨rfl, ?_⟩
    simp only [step, stepShutdown] at halts ⊢
    split at halts
    · simp [live] at halts
    · split at halts
      · simp [print, live] at halts
      · exact ⟨rfl, rfl, rfl, rfl⟩

/-- Only command lines change the session, and no timer is requested. -/
structure Frozen (s : Session) : Prop where
  handleKey : ∀ key, s.handleKey key = ⟨s, none, []⟩
  tickLoading : s.tickLoading = ⟨s, false, []⟩
  stopLoading : s.stopLoading = ⟨s, (), []⟩
  tickColor : s.tickColor = ⟨s, false, []⟩
  stepShutdown : s.stepShutdown = ⟨s, false, []⟩

theorem AtRest.frozen {s : Session} (rest : s.AtRest) (halted : s.halted = true) : s.Frozen where
  handleKey key := by
    unfold Session.handleKey
    exact if_pos halted
  tickLoading := by simp only [Session.tickLoading, rest.loading]
  stopLoading := by simp only [Session.stopLoading, rest.loading]
  tickColor := by simp only [Session.tickColor, rest.color]
  stepShutdown := by simp only [Session.stepShutdown, rest.shutdown]

theorem Frozen.step {s : Session} (frozen : s.Frozen) {event : Event}
    (h : ∀ line, event ≠ .command line) : s.step event = s := by
  cases event with
  | key key => exact congrArg Reply.session (frozen.handleKey key)
  | command line => exact absurd rfl (h line)
  | tickLoading => exact congrArg Reply.session frozen.tickLoading
  | stopLoading => exact congrArg Reply.session frozen.stopLoading
  | tickColor => exact congrArg Reply.session frozen.tickColor
  | stepShutdown => exact congrArg Reply.session frozen.stepShutdown

theorem Frozen.run {s : Session} (frozen : s.Frozen) {events : List Event}
    (h : ∀ line, .command line ∉ events) : s.run events = s := by
  induction events with
  | nil => rfl
  | cons event rest ih =>
    have first : s.step event = s := by
      refine frozen.step fun line same => h line ?_
      rw [same]
      exact List.mem_cons_self
    rw [run_cons, first]
    exact ih fun line hm => h line (List.mem_cons_of_mem _ hm)

/-- A command line is run only while the session is not halted. -/
def Permits (s : Session) : Event → Prop
  | .command _ => s.halted = false
  | _ => True

instance (s : Session) : DecidablePred s.Permits := by
  intro event
  cases event <;> unfold Permits <;> infer_instance

def HaltsAtRest (s : Session) : Prop := s.halted = true → s.AtRest

theorem HaltsAtRest.step {s : Session} (h : s.HaltsAtRest) {event : Event}
    (permitted : s.Permits event) : (s.step event).HaltsAtRest := by
  intro after
  cases before : s.halted with
  | false => exact (step_halts before after).2
  | true =>
    have frozen : s.Frozen := (h before).frozen before
    have uncalled : ∀ line, event ≠ .command line := by
      rintro line rfl
      exact absurd (before.symm.trans permitted) (by decide)
    rw [frozen.step uncalled]
    exact h before

theorem haltsAtRest_start (files : FileSystem) (random : Chance) (clock : Clock) :
    (start files random clock).HaltsAtRest := nofun

end Session

namespace Page

def Permits (p : Page) (event : PageEvent) : Prop :=
  ∀ call ∈ event.event?, p.session.Permits call

instance (p : Page) : DecidablePred p.Permits := by
  intro event
  unfold Permits
  infer_instance

/-- The timers mirror the demos, and a halted session is at rest. -/
structure Orderly (p : Page) : Prop where
  mirrors : p.Mirrors
  halts : p.session.HaltsAtRest

theorem orderly_new (files : FileSystem) (random : Chance) (clock : Clock) :
    (new files random clock).Orderly := ⟨mirrors_new files random clock, nofun⟩

theorem Orderly.step {p : Page} (h : p.Orderly) {event : PageEvent} (permitted : p.Permits event) :
    (p.step event).Orderly := by
  refine ⟨h.mirrors.step event, ?_⟩
  rw [h.mirrors.session_step]
  cases called : event.event? with
  | none => exact h.halts
  | some call => exact h.halts.step (permitted call called)

theorem Mirrors.slots_eq_empty {p : Page} (h : p.Mirrors) (rest : p.session.AtRest) :
    p.slots = .empty := by
  have loading : p.slots.loading = none := by
    have same : p.slots.loading.isSome = p.session.loading.isSome := congrFun h .loading
    simpa [rest.loading] using same
  have color : p.slots.color = none := by
    have same : p.slots.color.isSome = p.session.color.isSome := congrFun h .color
    simpa [rest.color] using same
  have shutdown : p.slots.shutdown = none := by
    have same : p.slots.shutdown.isSome = p.session.shutdown.isSome := congrFun h .shutdown
    simpa [rest.shutdown] using same
  calc p.slots = ⟨p.slots.loading, p.slots.color, p.slots.shutdown⟩ := rfl
    _ = .empty := by rw [loading, color, shutdown, Slots.empty]

theorem stall_of_empty {p : Page} (h : p.slots = .empty) (ms : Nat) :
    p.stall ms = ⟨{ p with now := p.now + ms }, []⟩ := by
  simp only [stall, h]
  rfl

theorem advance_of_empty {p : Page} (h : p.slots = .empty) (ms : Nat) :
    p.advance ms = ⟨{ p with now := p.now + ms }, []⟩ := by
  have all : p.untilDue ms = ms := by
    simp only [untilDue, h]
    rfl
  cases ms with
  | zero => rfl
  | succ ms =>
    have passed : ∀ stops (reply : PageReply), advanceWithin stops 0 reply = reply := by
      intro stops reply
      cases stops <;> rfl
    rw [advance, advanceWithin, if_neg (Nat.succ_ne_zero ms)]
    simp only [all, Nat.sub_self, passed, PageReply.andThen, stall_of_empty h, List.append_nil]

/-- On a page only the shutdown timer halts the session, and it drops all timers. -/
theorem Mirrors.step_halts {p : Page} (h : p.Mirrors) {event : PageEvent}
    (live : p.session.halted = false) (halts : (p.step event).session.halted = true) :
    event = .fire .shutdown ∧ (p.step event).slots = .empty := by
  have stepped := h.session_step event
  cases called : event.event? with
  | none =>
    rw [called, Option.map_none, Option.getD_none] at stepped
    simp [stepped, live] at halts
  | some call =>
    rw [called, Option.map_some, Option.getD_some] at stepped
    rw [stepped] at halts
    obtain ⟨rfl, rest⟩ := Session.step_halts live halts
    refine ⟨PageEvent.event?_eq_timer called, (h.step event).slots_eq_empty ?_⟩
    rw [stepped]
    exact rest

theorem handleKey_of_frozen {p : Page} (frozen : p.session.Frozen) (key : Key) :
    p.handleKey key = ⟨p, []⟩ := by
  rw [handleKey, frozen.handleKey]
  rfl

theorem step_of_frozen {p : Page} (frozen : p.session.Frozen) (empty : p.slots = .empty)
    {event : PageEvent} (h : ∀ line, event ≠ .command line) :
    p.step event = { p with now := (p.step event).now } := by
  cases event with
  | key key =>
    rw [step, handleKey_of_frozen frozen]
  | command line => exact absurd rfl (h line)
  | fire timer =>
    have dropped : p.slots.alarm? timer = none := by rw [empty]; cases timer <;> rfl
    rw [step_fire_of_not_armed dropped]
  | wait ms => rfl

theorem run_of_frozen {p : Page} (frozen : p.session.Frozen) (empty : p.slots = .empty)
    {events : List PageEvent} (h : ∀ line, .command line ∉ events) :
    p.run events = { p with now := (p.run events).now } := by
  induction events generalizing p with
  | nil => rfl
  | cons event rest ih =>
    have first : p.step event = { p with now := (p.step event).now } := by
      refine step_of_frozen frozen empty fun line same => h line ?_
      rw [same]
      exact List.mem_cons_self
    have later := ih (p := p.step event) (by rw [first]; exact frozen) (by rw [first]; exact empty)
      fun line hm => h line (List.mem_cons_of_mem _ hm)
    rw [run_cons, later, first]

/-- For any keys, commands and ticks, with no command line run in a halted session: a halted session
has empty input and no demo, and no later key or timer changes it. On a page only the shutdown timer
halts the session, all timers are then gone, and neither keys nor time change what is rendered. -/
theorem halting_is_final (files : FileSystem) (random : Chance) (clock : Clock) :
    (∀ events, Along Session.step Session.Permits (.start files random clock) events →
      let s := (Session.start files random clock).run events
      s.halted = true →
        s.AtRest ∧ s.Frozen ∧ ∀ later, (∀ line, .command line ∉ later) → s.run later = s) ∧
    ∀ events, Along Page.step Page.Permits (new files random clock) events →
      let p := (new files random clock).run events
      (∀ event, p.session.halted = false → (p.step event).session.halted = true →
        event = .fire .shutdown ∧ (p.step event).slots = .empty) ∧
      (p.session.halted = true →
        p.slots = .empty ∧
        (∀ key, p.handleKey key = ⟨p, []⟩) ∧
        (∀ ms, p.advance ms = ⟨{ p with now := p.now + ms }, []⟩ ∧
          p.stall ms = ⟨{ p with now := p.now + ms }, []⟩) ∧
        ∀ later, (∀ line, .command line ∉ later) →
          p.run later = { p with now := (p.run later).now } ∧
          View.terminal (p.run later).session = View.terminal p.session) := by
  constructor
  · intro events permitted s halted
    have started : (Session.start files random clock).HaltsAtRest :=
      Session.haltsAtRest_start files random clock
    have rest : s.AtRest := permitted.keeps started (fun held heeded => held.step heeded) halted
    have frozen : s.Frozen := rest.frozen halted
    exact ⟨rest, frozen, fun later uncalled => frozen.run uncalled⟩
  · intro events permitted p
    have orderly : p.Orderly :=
      permitted.keeps (orderly_new files random clock) fun held heeded => held.step heeded
    refine ⟨fun event live halts => orderly.mirrors.step_halts live halts, fun halted => ?_⟩
    have rest : p.session.AtRest := orderly.halts halted
    have frozen : p.session.Frozen := rest.frozen halted
    have empty : p.slots = .empty := orderly.mirrors.slots_eq_empty rest
    refine ⟨empty, handleKey_of_frozen frozen,
      fun ms => ⟨advance_of_empty empty ms, stall_of_empty empty ms⟩, fun later uncalled => ?_⟩
    have same := run_of_frozen frozen empty uncalled
    exact ⟨same, by rw [same]⟩

/-- A session that halts with a running loading bar and color cycle, an open file and a typed
letter, and a page that halts with a running loading bar. -/
theorem halting_is_final_loaded :
    let files := FileSystem.empty.put ⟨["f"]⟩ .file ""
    let events := [.command "edit f", .command "loading", .command "colorcycle",
      .command "exit", .key (.char 'x'), .tickLoading, .stepShutdown, .stepShutdown, .stepShutdown,
      .stepShutdown]
    let s := (Session.start files (.ofWords [7]) "noon").run events
    let p := (new files (.ofWords [7]) "noon").run [.command "loading", .command "exit", .wait 2000,
      .fire .shutdown, .fire .shutdown, .fire .shutdown, .fire .shutdown]
    Along Session.step Session.Permits (.start files (.ofWords [7]) "noon") events ∧
      s.halted = true ∧ s.AtRest ∧ s.run [.key .enter, .tickLoading, .stopLoading] = s ∧
      p.session.halted = true ∧ p.slots = .empty ∧
      View.terminal (p.run [.key .escape, .wait 9, .fire .frame]).session =
        View.terminal p.session := by
  obtain ⟨sessions, pages⟩ :=
    halting_is_final (FileSystem.empty.put ⟨["f"]⟩ .file "") (.ofWords [7]) "noon"
  obtain ⟨rest, -, still⟩ := sessions
    [.command "edit f", .command "loading", .command "colorcycle",
      .command "exit", .key (.char 'x'), .tickLoading, .stepShutdown, .stepShutdown, .stepShutdown,
      .stepShutdown] (by decide +kernel) (by decide +kernel)
  obtain ⟨empty, -, -, frozen⟩ := (pages [.command "loading", .command "exit", .wait 2000,
      .fire .shutdown, .fire .shutdown, .fire .shutdown, .fire .shutdown]
      (by decide +kernel)).2 (by decide +kernel)
  exact ⟨by decide +kernel, by decide +kernel, rest, still _ (by simp), by decide +kernel, empty,
    (frozen [.key .escape, .wait 9, .fire .frame] (by simp)).2⟩

end Page
end VirtualTerminal
