import VirtualTerminal.Proofs.LoadingMessages
import VirtualTerminal.Proofs.PunctualTimers

/-! # The schedule of the loading bar

On a live page a loading bar shows its frames every 300 ms and then its completion. Its limit is
never reached. -/
namespace VirtualTerminal

namespace LoadingBar

/-- The rows of a loading bar that is not interrupted. -/
def script : List Row := frameRows ++ [completed]

/-- The k-th row is due k times 300 ms after the start. -/
def schedule (start : Nat) : List (Nat × Row) :=
  (script.zipIdx 1).map fun entry => (start + 300 * entry.2, entry.1)

theorem script_getElem? {shown : Nat} (h : shown ≤ 9) :
    script[shown]? = some (frameRows[shown]?.getD completed) := by
  have frames : frameRows.length = 9 := by decide
  rcases Nat.lt_or_eq_of_le h with left | rfl
  · rw [script, List.getElem?_append_left (by omega), List.getElem?_eq_getElem (by omega),
      Option.getD_some]
  · rfl

theorem schedule_getElem? (start : Nat) {shown : Nat} (h : shown ≤ 9) :
    (schedule start)[shown]? =
      some (start + 300 * (shown + 1), frameRows[shown]?.getD completed) := by
  rw [schedule, List.getElem?_map, List.getElem?_zipIdx, script_getElem? h, Nat.add_comm 1]
  rfl

theorem ne_forced_of_mem_schedule {start : Nat} {message : Nat × Row}
    (h : message ∈ schedule start) : message.2 ≠ forced := by
  obtain ⟨⟨row, k⟩, entry, rfl⟩ := List.mem_map.mp h
  have unforced : forced ∉ script := by decide
  rintro rfl
  exact unforced (List.fst_mem_of_mem_zipIdx entry)

theorem filter_zipIdx (rows : List Row) {start now due : Nat} (since : start + 300 * due ≤ now)
    (before : now < start + 300 * (due + 1)) (first : Nat) :
    ((rows.zipIdx first).map fun entry => (start + 300 * entry.2, entry.1)).filter
        (fun message => message.1 ≤ now) =
      ((rows.zipIdx first).map fun entry => (start + 300 * entry.2, entry.1)).take
        (due + 1 - first) := by
  induction rows generalizing first with
  | nil => rw [List.zipIdx_nil, List.map_nil, List.filter_nil, List.take_nil]
  | cons row rest ih =>
    rw [List.zipIdx_cons, List.map_cons, List.filter_cons, ih]
    by_cases reached : first ≤ due
    · have past : start + 300 * first ≤ now := by omega
      rw [if_pos (decide_eq_true past), show due + 1 - first = due + 1 - (first + 1) + 1 by omega,
        List.take_succ_cons]
    · have ahead : ¬ start + 300 * first ≤ now := by omega
      rw [if_neg (by simpa using ahead), show due + 1 - (first + 1) = 0 by omega,
        show due + 1 - first = 0 by omega, List.take_zero, List.take_zero]

theorem filter_schedule {start now due : Nat} (since : start + 300 * due ≤ now)
    (before : now < start + 300 * (due + 1)) :
    (schedule start).filter (fun message => message.1 ≤ now) = (schedule start).take due :=
  filter_zipIdx script since before 1

theorem filter_schedule_of_ended {start now : Nat} (late : start + 3000 ≤ now) :
    (schedule start).filter (fun message => message.1 ≤ now) = schedule start := by
  have since : start + 300 * ((now - start) / 300) ≤ now := by omega
  have before : now < start + 300 * ((now - start) / 300 + 1) := by omega
  have length : (schedule start).length = 10 := by
    rw [schedule, List.length_map, List.length_zipIdx]
    rfl
  rw [filter_schedule since before]
  exact List.take_of_length_le (by omega)

end LoadingBar

namespace Page
open LoadingBar

/-- An event that neither starts a loading bar nor halts. -/
def Leaves (p : Page) (event : PageEvent) : Prop :=
  ∀ call ∈ event.event?, ¬ p.session.StartsLoading call ∧ ¬ p.session.Halts call

instance (p : Page) : DecidablePred p.Leaves := by
  intro event
  unfold Leaves
  infer_instance

/-- The row of a loading timer in an event, with its time. -/
def timedRow (p : Page) (event : PageEvent) : List (Nat × Row) :=
  ((event.event?.map p.session.loadingRows).getD []).map fun row => (p.now, row)

def messages (p : Page) (events : List PageEvent) : List (Nat × Row) :=
  yielded step timedRow p events

/-- The loading bar was started at this time, has shown this many frames, each when it was due, and
its next frame is armed. -/
structure Loading (start shown : Nat) (p : Page) : Prop where
  bar : p.session.loading = some ⟨shown⟩
  timers : p.slots.loading.map (fun timers => (timers.frame.due, timers.limit.due)) =
    some (start + 300 * (shown + 1), start + 5000)
  left : shown ≤ 9
  since : start + 300 * shown ≤ p.now
  before : p.now ≤ start + 300 * (shown + 1)

variable {p : Page} {event : PageEvent} {start shown : Nat}

theorem settle_loading {reply : Reply (Option Effect)}
    (other : reply.answer ≠ some .startLoading) :
    (p.settle reply).page.slots.loading = p.slots.loading := by
  rw [settle_eq]
  cases answer : reply.answer with
  | none => rfl
  | some effect =>
    cases effect with
    | startLoading => exact absurd answer other
    | startColorCycle | stopColorCycle | startShutdown => rfl

theorem Mirrors.keeps_loading (h : p.Mirrors) (leaves : p.Leaves event)
    (frame : event ≠ .fire .frame) (limit : event ≠ .fire .limit) :
    (p.step event).session.loading = p.session.loading ∧
      (p.step event).slots.loading = p.slots.loading := by
  constructor
  · rw [h.session_step]
    cases called : event.event? with
    | none => rfl
    | some call =>
      obtain ⟨quiet, live⟩ := leaves call called
      refine Session.step_loading quiet live ?_ ?_
      · rintro rfl
        exact frame (PageEvent.event?_eq_timer called)
      · rintro rfl
        exact limit (PageEvent.event?_eq_timer called)
  · cases event with
    | key key =>
      have quiet : ¬ p.session.StartsLoading (.key key) := (leaves _ rfl).1
      rw [step_key]
      exact settle_loading fun asked => quiet (Session.effect?_eq_startLoading.mp asked)
    | command line =>
      have quiet : ¬ p.session.StartsLoading (.command line) := (leaves _ rfl).1
      rw [step_command]
      exact settle_loading fun asked => quiet (Session.effect?_eq_startLoading.mp asked)
    | wait ms => rfl
    | fire timer =>
      cases armed : p.slots.alarm? timer with
      | none => rw [step_fire_of_not_armed armed]
      | some alarm =>
        rw [step_fire_of_armed armed]
        cases timer with
        | frame => exact absurd rfl frame
        | limit => exact absurd rfl limit
        | color => rfl
        | shutdown =>
          have running : p.session.shutdown.isSome = true :=
            (congrFun h .shutdown).symm.trans (Option.isSome_iff_exists.mpr ⟨alarm, armed⟩)
          have goesOn : p.session.stepShutdown.answer = true := by
            by_contra last
            exact (leaves .stepShutdown rfl).2 ⟨rfl, running, Bool.eq_false_iff.mpr last⟩
          simp only [Page.call, callShutdown, goesOn, if_true]

theorem Mirrors.keeps_idle (h : p.Mirrors) (gone : p.session.loading = none)
    (quiet : ∀ call ∈ event.event?, ¬ p.session.StartsLoading call) :
    (p.step event).session.loading = none ∧ p.timedRow event = [] := by
  rw [h.session_step, timedRow]
  cases called : event.event? with
  | none => exact ⟨gone, rfl⟩
  | some call =>
    rw [Option.map_some, Option.getD_some, Option.map_some, Option.getD_some]
    refine ⟨Session.step_loading_of_idle gone (quiet call called), ?_⟩
    rw [Session.loadingRows_of_idle gone, List.map_nil]

theorem timedRow_of_other (frame : event ≠ .fire .frame) (limit : event ≠ .fire .limit) :
    p.timedRow event = [] := by
  cases event with
  | key | command | wait => rfl
  | fire timer =>
    cases timer with
    | frame => exact absurd rfl frame
    | limit => exact absurd rfl limit
    | color | shutdown => rfl

theorem settle_startLoading {reply : Reply (Option Effect)}
    (asked : reply.answer = some .startLoading) :
    (p.settle reply).page.slots.loading = some ⟨p.alarm .frame 0, p.alarm .limit 1⟩ := by
  rw [settle_eq, asked]
  rfl

theorem loading_start (h : p.Mirrors) {call : Event} (called : event.event? = some call)
    (starts : p.session.StartsLoading call) : (p.step event).Loading p.now 0 := by
  have bar : (p.step event).session.loading = some ⟨0⟩ := by
    rw [h.session_step, called]
    exact Session.loading_of_start starts
  have asked := Session.effect?_eq_startLoading.mpr starts
  have begun : (p.step event).now = p.now ∧
      (p.step event).slots.loading = some ⟨p.alarm .frame 0, p.alarm .limit 1⟩ := by
    cases event with
    | key key =>
      cases called
      rw [step_key]
      exact ⟨p.settle_now _, settle_startLoading asked⟩
    | command line =>
      cases called
      rw [step_command]
      exact ⟨p.settle_now _, settle_startLoading asked⟩
    | wait ms => cases called
    | fire timer =>
      cases called
      cases timer <;> cases asked
  obtain ⟨now, timers⟩ := begun
  refine ⟨bar, ?_, by omega, by omega, by omega⟩
  rw [timers]
  rfl

namespace Loading

theorem frame_due (h : p.Loading start shown) :
    ∃ alarm, p.slots.alarm? .frame = some alarm ∧ alarm.due = start + 300 * (shown + 1) := by
  obtain ⟨timers, armed, due⟩ := Option.map_eq_some_iff.mp h.timers
  exact ⟨timers.frame, congrArg (Option.map _) armed, congrArg Prod.fst due⟩

theorem limit_due (h : p.Loading start shown) :
    ∃ alarm, p.slots.alarm? .limit = some alarm ∧ alarm.due = start + 5000 := by
  obtain ⟨timers, armed, due⟩ := Option.map_eq_some_iff.mp h.timers
  exact ⟨timers.limit, congrArg (Option.map _) armed, congrArg Prod.snd due⟩

/-- The limit is never due before the frames are complete. -/
theorem not_limit (h : p.Loading start shown) : ¬ p.OnTime (.fire .limit) := by
  intro onTime
  obtain ⟨alarm, armed, due⟩ := h.limit_due
  have now : alarm.due = p.now := onTime alarm armed
  have left := h.left
  have before := h.before
  omega

theorem keep (h : p.Loading start shown) (mirrors : p.Mirrors) (leaves : p.Leaves event)
    (onTime : p.OnTime event) (frame : event ≠ .fire .frame) :
    (p.step event).Loading start shown := by
  have limit : event ≠ .fire .limit := by
    rintro rfl
    exact h.not_limit onTime
  obtain ⟨session, slots⟩ := mirrors.keeps_loading leaves frame limit
  have since := h.since
  refine ⟨session.trans h.bar, slots ▸ h.timers, h.left, ?_, ?_⟩
  · rw [step_now]
    omega
  · obtain ⟨alarm, armed, due⟩ := h.frame_due
    cases event with
    | wait ms =>
      have inTime : p.now + ms ≤ alarm.due := onTime .frame alarm armed
      exact inTime.trans_eq due
    | key | command | fire =>
      rw [step_now]
      exact h.before

theorem due_frame (h : p.Loading start shown) (onTime : p.OnTime (.fire .frame)) :
    p.now = start + 300 * (shown + 1) := by
  obtain ⟨alarm, armed, due⟩ := h.frame_due
  exact (onTime alarm armed).symm.trans due

theorem timedRow_frame (h : p.Loading start shown) (onTime : p.OnTime (.fire .frame)) :
    p.timedRow (.fire .frame) = ((schedule start)[shown]?).toList := by
  have row : p.session.loadingRows .tickLoading = [frameRows[shown]?.getD completed] := by
    rw [Session.loadingRows, h.bar, Option.map_some, Option.toList_some]
  rw [schedule_getElem? start h.left, ← h.due_frame onTime]
  simp only [timedRow, PageEvent.event?, Timer.event, row, Option.map_some, Option.getD_some,
    List.map_singleton, Option.toList_some]

theorem frame (h : p.Loading start shown) (onTime : p.OnTime (.fire .frame)) (more : shown < 9) :
    (p.step (.fire .frame)).Loading start (shown + 1) := by
  obtain ⟨alarm, armed, -⟩ := h.frame_due
  have now := h.due_frame onTime
  have next : frames[shown]? = some frames[shown] := List.getElem?_eq_getElem more
  have tick := Session.tickLoading_of_frame h.bar next
  refine ⟨?_, ?_, more, ?_, ?_⟩
  · rw [step_fire_of_armed armed, call_session, Timer.event, Session.step, tick]
    rfl
  · obtain ⟨timers, found, due⟩ := Option.map_eq_some_iff.mp h.timers
    have again : (p.step (.fire .frame)).slots.loading =
        some { timers with frame := timers.frame.again (p.nextDue .frame) } := by
      rw [step_fire_of_armed armed, Page.call, callFrame, tick, found]
      rfl
    have period : p.nextDue .frame = start + 300 * (shown + 1 + 1) := by
      rw [nextDue, now, Timer.period]
      omega
    rw [again, Option.map_some, period]
    exact congrArg (fun due => some (_, due)) (congrArg Prod.snd due)
  · rw [fire_now, now]
  · rw [fire_now, now]
    omega

theorem last (h : p.Loading start shown) (mirrors : p.Mirrors) (all : shown = 9) :
    (p.step (.fire .frame)).session.loading = none := by
  have none : frames[shown]? = none := by rw [all]; rfl
  rw [mirrors.session_step]
  exact congrArg (fun reply => reply.session.loading) (Session.tickLoading_of_last h.bar none)

end Loading

/-- The rows since the start are those due by now, and the bar is running or complete. -/
inductive OnSchedule (start : Nat) (p : Page) : List (Nat × Row) → Prop
  | loading {shown : Nat} (going : p.Loading start shown) :
    OnSchedule start p ((schedule start).take shown)
  | ended (gone : p.session.loading = none) (late : start + 3000 ≤ p.now) :
    OnSchedule start p (schedule start)

theorem OnSchedule.step {so : List (Nat × Row)} (h : p.OnSchedule start so) (mirrors : p.Mirrors)
    (leaves : p.Leaves event) (onTime : p.OnTime event) :
    (p.step event).OnSchedule start (so ++ p.timedRow event) := by
  cases h with
  | @loading shown going =>
    by_cases frame : event = .fire .frame
    · subst frame
      have next : (schedule start).take shown ++ p.timedRow (.fire .frame) =
          (schedule start).take (shown + 1) := by
        rw [going.timedRow_frame onTime, List.take_add_one]
      rw [next]
      rcases Nat.lt_or_eq_of_le going.left with more | all
      · exact .loading (going.frame onTime more)
      · have whole : (schedule start).take (shown + 1) = schedule start := by
          rw [all]
          rfl
        rw [whole]
        refine .ended (going.last mirrors all) ?_
        have now := going.due_frame onTime
        rw [fire_now]
        omega
    · have limit : event ≠ .fire .limit := by
        rintro rfl
        exact going.not_limit onTime
      rw [timedRow_of_other frame limit, List.append_nil]
      exact .loading (going.keep mirrors leaves onTime frame)
  | ended gone late =>
    obtain ⟨still, silent⟩ := mirrors.keeps_idle gone fun call called => (leaves call called).1
    rw [silent, List.append_nil]
    refine .ended still ?_
    rw [step_now]
    omega

theorem OnSchedule.bar {so : List (Nat × Row)} (h : p.OnSchedule start so) :
    p.session.loading = none ∨ ∃ shown, p.Loading start shown := by
  cases h with
  | loading going => exact .inr ⟨_, going⟩
  | ended gone => exact .inl gone

theorem OnSchedule.eq_filter {so : List (Nat × Row)} (h : p.OnSchedule start so)
    (ahead : p.Ahead) : so = (schedule start).filter fun message => message.1 ≤ p.now := by
  cases h with
  | loading going =>
    obtain ⟨alarm, armed, due⟩ := going.frame_due
    have before : p.now < alarm.due := ahead .frame alarm armed
    exact (filter_schedule going.since (by omega)).symm
  | ended _ late => exact (filter_schedule_of_ended late).symm

theorem OnSchedule.ended_iff {so : List (Nat × Row)} (h : p.OnSchedule start so)
    (ahead : p.Ahead) : p.session.loading = none ↔ start + 3000 ≤ p.now := by
  cases h with
  | loading going =>
    obtain ⟨alarm, armed, due⟩ := going.frame_due
    have before : p.now < alarm.due := ahead .frame alarm armed
    have left := going.left
    refine iff_of_false ?_ (by omega)
    rw [going.bar]
    exact nofun
  | ended gone late => exact iff_of_true gone late

/-- No bar is running, or one that is on schedule. -/
structure Punctual (p : Page) : Prop where
  mirrors : p.Mirrors
  bar : p.session.loading = none ∨ ∃ start shown, p.Loading start shown

theorem punctual_new (files : FileSystem) (random : Chance) (clock : Clock) :
    (new files random clock).Punctual := ⟨mirrors_new files random clock, .inl rfl⟩

theorem Punctual.step (h : p.Punctual) (onTime : p.OnTime event) : (p.step event).Punctual := by
  refine ⟨h.mirrors.step event, ?_⟩
  by_cases starts : ∃ call ∈ event.event?, p.session.StartsLoading call
  · obtain ⟨call, called, starts⟩ := starts
    exact .inr ⟨p.now, 0, loading_start h.mirrors called starts⟩
  by_cases halts : ∃ call ∈ event.event?, p.session.Halts call
  · obtain ⟨call, called, halts⟩ := halts
    left
    rw [h.mirrors.session_step, called]
    exact Session.step_loading_of_halts halts
  rcases h.bar with gone | ⟨start, shown, going⟩
  · exact .inl (h.mirrors.keeps_idle gone fun call called loads => starts ⟨call, called, loads⟩).1
  · have leaves : p.Leaves event := fun call called =>
      ⟨fun loads => starts ⟨call, called, loads⟩, fun ends => halts ⟨call, called, ends⟩⟩
    have next := (OnSchedule.loading going).step h.mirrors leaves onTime
    rcases next.bar with gone | ⟨shown', still⟩
    · exact .inl gone
    · exact .inr ⟨start, shown', still⟩

theorem Punctual.limit (h : p.Punctual) (onTime : p.OnTime (.fire .limit)) :
    p.session.loading = none := by
  rcases h.bar with gone | ⟨start, shown, going⟩
  · exact gone
  · exact absurd onTime going.not_limit

theorem Punctual.unforced (h : p.Punctual) (onTime : p.OnTime event) :
    ∀ message ∈ p.timedRow event, message.2 ≠ forced := by
  intro message hm
  by_cases limit : event = .fire .limit
  · subst limit
    rw [(h.mirrors.keeps_idle (h.limit onTime) (by rintro _ ⟨⟩ ⟨⟩)).2] at hm
    cases hm
  by_cases frame : event = .fire .frame
  · subst frame
    rcases h.bar with gone | ⟨start, shown, going⟩
    · rw [(h.mirrors.keeps_idle gone (by rintro _ ⟨⟩ ⟨⟩)).2] at hm
      cases hm
    · rw [going.timedRow_frame onTime, Option.mem_toList] at hm
      exact ne_forced_of_mem_schedule (List.mem_of_getElem? hm)
  · rw [timedRow_of_other frame limit] at hm
    cases hm

theorem Punctual.unforced_messages {events : List PageEvent} (h : p.Punctual)
    (onTime : Along Page.step OnTime p events) :
    ∀ message ∈ p.messages events, message.2 ≠ forced := by
  induction events generalizing p with
  | nil => exact List.forall_mem_nil _
  | cons event rest ih =>
    obtain ⟨first, later⟩ := onTime
    intro message hm
    rcases List.mem_append.mp hm with now | after
    · exact h.unforced first message now
    · exact ih (h.step first) later message after

theorem Mirrors.timedRow_log (h : p.Mirrors) {timer : Timer} (own : timer.demo = .loading) :
    (p.step (.fire timer)).session.log =
      p.session.log.extend ((p.timedRow (.fire timer)).map Prod.snd) := by
  have rows : (p.timedRow (.fire timer)).map Prod.snd = p.session.loadingRows timer.event := by
    rw [timedRow, List.map_map]
    exact List.map_id _
  rw [rows, h.session_step]
  cases timer with
  | frame => exact p.session.tickLoading_log
  | limit => exact p.session.stopLoading_log
  | color | shutdown => cases own

/-- The event is on time, finds no running bar if it is the call of a limit, and its rows are those
added to the scrollback. -/
structure Prompt (p : Page) (event : PageEvent) : Prop where
  onTime : p.OnTime event
  limit : event = .fire .limit → p.session.loading = none
  log : ∀ timer : Timer, event = .fire timer → timer.demo = .loading →
    (p.step event).session.log = p.session.log.extend ((p.timedRow event).map Prod.snd)

theorem Punctual.prompt (h : p.Punctual) (onTime : p.OnTime event) : p.Prompt event := by
  refine ⟨onTime, ?_, ?_⟩
  · rintro rfl
    exact h.limit onTime
  · rintro timer rfl own
    exact h.mirrors.timedRow_log own

theorem Ahead.step_of_call (h : p.Ahead) {call : Event} (called : event.event? = some call)
    (starts : p.session.StartsLoading call) :
    (p.step event).Ahead ∧ (p.step event).now = p.now := by
  cases event with
  | key key =>
    rw [step_key]
    exact ⟨h.settle _, p.settle_now _⟩
  | command line =>
    rw [step_command]
    exact ⟨h.settle _, p.settle_now _⟩
  | wait => cases called
  | fire timer =>
    cases called
    cases timer <;> cases starts

theorem live_onSchedule (mirrors : p.Mirrors) (ahead : p.Ahead) {call : Event}
    (called : event.event? = some call) (starts : p.session.StartsLoading call)
    {later : List PageInput}
    (leaves : Along step Leaves (p.step event) ((p.step event).timeline later)) :
    let q := p.step event
    (q.live later).Mirrors ∧ (q.live later).Ahead ∧
      (q.live later).OnSchedule p.now (q.messages (q.timeline later)) := by
  intro q
  obtain ⟨onTime, after⟩ := timeline_onTime (ahead.step_of_call called starts).1 later
  have begun : q.OnSchedule p.now [] := .loading (loading_start mirrors called starts)
  have kept : (q.run (q.timeline later)).Mirrors ∧
      (q.run (q.timeline later)).OnSchedule p.now ([] ++ q.messages (q.timeline later)) :=
    (onTime.and leaves).keeps_yielded (fun q so => q.Mirrors ∧ q.OnSchedule p.now so)
      ⟨mirrors.step event, begun⟩ fun ⟨mirrors, scheduled⟩ ⟨onTime, leaves⟩ =>
        ⟨mirrors.step _, scheduled.step mirrors leaves onTime⟩
  rw [← live_eq] at kept
  exact ⟨kept.1, after, kept.2⟩

/-- On every page with any keys, commands and time, without a stall, every timer is called when it
is due. No bar is running when the limit is called, hence no bar is ever reported as stopped. From a
start to the next start or a halt, the rows of a loading bar are those due by then: the k-th frame
after k times 300 ms, and the completion after 3000 ms; its timers are armed until then and no
longer. This includes restarted bars. -/
theorem loading_keeps_its_schedule (files : FileSystem) (random : Chance) (clock : Clock)
    (inputs : List PageInput) :
    let fresh := new files random clock
    let p := fresh.live inputs
    p = fresh.run (fresh.timeline inputs) ∧
    Along step Prompt fresh (fresh.timeline inputs) ∧
    (∀ message ∈ fresh.messages (fresh.timeline inputs), message.2 ≠ forced) ∧
    ∀ event call, event.event? = some call → p.session.StartsLoading call →
      let q := p.step event
      ∀ later, Along step Leaves q (q.timeline later) →
        let r := q.live later
        r.now = p.now + PageInput.elapsed later ∧
        q.messages (q.timeline later) =
          (schedule p.now).filter (fun message => message.1 ≤ r.now) ∧
        (r.slots.loading = none ↔ p.now + 3000 ≤ r.now) := by
  intro fresh p
  obtain ⟨onTime, ahead⟩ := timeline_onTime (ahead_new files random clock) inputs
  have begun : fresh.Punctual := punctual_new files random clock
  have ran : p = fresh.run (fresh.timeline inputs) := fresh.live_eq inputs
  have punctual : p.Punctual := by
    rw [ran]
    exact onTime.keeps begun fun held onTime => held.step onTime
  refine ⟨ran, ?_, ?_, ?_⟩
  · have held := onTime.with_invariant begun fun held onTime => held.step onTime
    exact held.mono fun p event ⟨punctual, onTime⟩ => punctual.prompt onTime
  · exact begun.unforced_messages onTime
  · intro event call called starts q later leaves r
    obtain ⟨mirrors, after, scheduled⟩ :=
      live_onSchedule punctual.mirrors ahead called starts leaves
    have now : r.now = p.now + PageInput.elapsed later := by
      rw [live_now, (ahead.step_of_call called starts).2]
    refine ⟨now, scheduled.eq_filter after, ?_⟩
    rw [← scheduled.ended_iff after]
    have same : r.slots.loading.isSome = r.session.loading.isSome := congrFun mirrors .loading
    rw [← Option.isNone_iff_eq_none, ← Option.isNone_iff_eq_none, ← Option.not_isSome,
      ← Option.not_isSome, same]

/-- A bar restarted after two frames, which completes while a letter is typed. -/
theorem loading_keeps_its_schedule_restarted :
    let p := (new .empty (.ofWords [7]) "noon").live [.pass 50, .command "loading", .pass 700]
    let q := p.step (.command "loading")
    let later := [.pass 300, .key (.char 'x'), .pass 2650, .pass 100]
    p.session.StartsLoading (.command "loading") ∧ p.session.loading = some ⟨2⟩ ∧
      Along step Leaves q (q.timeline later) ∧
      (q.live later).now = 3800 ∧ q.messages (q.timeline later) = schedule 750 ∧
      (q.live later).slots.loading = none := by
  dsimp only
  obtain ⟨-, -, -, starting⟩ := loading_keeps_its_schedule .empty (.ofWords [7]) "noon"
    [.pass 50, .command "loading", .pass 700]
  obtain ⟨now, rows, ended⟩ := starting (.command "loading") _ rfl (by decide +kernel)
    [.pass 300, .key (.char 'x'), .pass 2650, .pass 100] (by decide +kernel)
  have started : ((new .empty (.ofWords [7]) "noon").live
      [.pass 50, .command "loading", .pass 700]).now = 750 := by decide +kernel
  have lasts :
      PageInput.elapsed [.pass 300, .key (.char 'x'), .pass 2650, .pass 100] = 3050 := by decide
  rw [started, lasts] at now
  rw [started, now] at rows ended
  have whole := filter_schedule_of_ended (show 750 + 3000 ≤ 750 + 3050 by decide)
  exact ⟨by decide +kernel, by decide +kernel, by decide +kernel, now, rows.trans whole,
    ended.mpr (by decide)⟩

end Page
end VirtualTerminal
