import VirtualTerminal.Proofs.DemoEffects
import VirtualTerminal.Proofs.Runs

/-! # Rows of the loading bar

From one start of the loading bar to the next, its timers show the frames in order, each once, and
then at most one closing row. -/
namespace VirtualTerminal

namespace LoadingBar

def frameRow (frame : String) : Row := .text ("Loading... " ++ frame)

def frameRows : List Row := frames.map frameRow

def completed : Row := .success "Load complete."

def forced : Row := .error "ERROR: Load exceeded maximum runtime and was forcibly stopped."

/-- The rows of a loading bar since its start: the first frames in order and then possibly the
completion, after all frames, or the stop. -/
inductive Progress : List Row → Prop
  | running (k : Nat) : Progress (frameRows.take k)
  | complete : Progress (frameRows ++ [completed])
  | stopped (k : Nat) : Progress (frameRows.take k ++ [forced])

theorem take_succ_frameRows {k : Nat} {frame : String} (h : frames[k]? = some frame) :
    frameRows.take (k + 1) = frameRows.take k ++ [frameRow frame] := by
  have row : frameRows[k]? = some (frameRow frame) := by rw [frameRows, List.getElem?_map, h]; rfl
  rw [List.take_add_one, row, Option.toList_some]

theorem take_frameRows_of_last {k : Nat} (h : frames[k]? = none) :
    frameRows.take k = frameRows := by
  have beyond : frames.length ≤ k := List.getElem?_eq_none_iff.mp h
  exact List.take_of_length_le (by rwa [frameRows, List.length_map])

theorem frameRow_ne_completed (frame : String) : frameRow frame ≠ completed := nofun

end LoadingBar

namespace Session
open LoadingBar

theorem tickLoading_of_idle {s : Session} (h : s.loading = none) :
    s.tickLoading = ⟨s, false, []⟩ := by
  simp only [tickLoading, h]

theorem tickLoading_of_frame {s : Session} {bar : LoadingBar} {frame : String}
    (h : s.loading = some bar) (left : frames[bar.shown]? = some frame) :
    s.tickLoading =
      ⟨({ s with loading := some ⟨bar.shown + 1⟩ }).print (frameRow frame), true, []⟩ := by
  simp only [tickLoading, h, LoadingBar.tick, left, Option.map_some, frameRow]

theorem tickLoading_of_last {s : Session} {bar : LoadingBar} (h : s.loading = some bar)
    (left : frames[bar.shown]? = none) :
    s.tickLoading = ⟨({ s with loading := none }).print completed, false,
      [⟨.info, .session, "loading finished", []⟩]⟩ := by
  simp only [tickLoading, h, LoadingBar.tick, left, Option.map_none, completed]

theorem stopLoading_of_idle {s : Session} (h : s.loading = none) : s.stopLoading = ⟨s, (), []⟩ := by
  simp only [stopLoading, h]

theorem stopLoading_of_running {s : Session} {bar : LoadingBar} (h : s.loading = some bar) :
    s.stopLoading.session = ({ s with loading := none } : Session).print forced := by
  simp only [stopLoading, h, forced]

/-- The rows that a call of a loading timer adds to the scrollback. -/
def loadingRows (s : Session) : Event → List Row
  | .tickLoading => (s.loading.map fun bar => frameRows[bar.shown]?.getD completed).toList
  | .stopLoading => (s.loading.map fun _ => forced).toList
  | _ => []

def loadingLines (s : Session) (events : List Event) : List Row :=
  yielded step loadingRows s events

theorem loadingRows_of_idle {s : Session} (h : s.loading = none) (event : Event) :
    s.loadingRows event = [] := by
  cases event <;> simp [loadingRows, h]

theorem loadingRows_of_frame {s : Session} {bar : LoadingBar} {frame : String}
    (h : s.loading = some bar) (left : frames[bar.shown]? = some frame) :
    s.loadingRows .tickLoading = [frameRow frame] := by
  simp [loadingRows, h, frameRows, left]

theorem loadingRows_of_last {s : Session} {bar : LoadingBar} (h : s.loading = some bar)
    (left : frames[bar.shown]? = none) : s.loadingRows .tickLoading = [completed] := by
  simp [loadingRows, h, frameRows, left]

theorem loadingRows_of_stop {s : Session} {bar : LoadingBar} (h : s.loading = some bar) :
    s.loadingRows .stopLoading = [forced] := by
  simp [loadingRows, h]

theorem tickLoading_log (s : Session) :
    s.tickLoading.session.log = s.log.extend (s.loadingRows .tickLoading) := by
  cases going : s.loading with
  | none =>
    rw [tickLoading_of_idle going, loadingRows_of_idle going]
    rfl
  | some bar =>
    cases left : frames[bar.shown]? with
    | some frame =>
      rw [tickLoading_of_frame going left, loadingRows_of_frame going left]
      rfl
    | none =>
      rw [tickLoading_of_last going left, loadingRows_of_last going left]
      rfl

theorem stopLoading_log (s : Session) :
    s.stopLoading.session.log = s.log.extend (s.loadingRows .stopLoading) := by
  cases going : s.loading with
  | none =>
    rw [stopLoading_of_idle going, loadingRows_of_idle going]
    rfl
  | some bar =>
    rw [stopLoading_of_running going, loadingRows_of_stop going]
    rfl

theorem tickLoading_answer_iff (s : Session) :
    s.tickLoading.answer = true ↔
      ∃ frame ∈ frames, s.loadingRows .tickLoading = [frameRow frame] := by
  cases going : s.loading with
  | none => simp [tickLoading_of_idle going, loadingRows_of_idle going]
  | some bar =>
    cases left : frames[bar.shown]? with
    | some frame =>
      rw [tickLoading_of_frame going left, loadingRows_of_frame going left]
      exact iff_of_true rfl ⟨frame, List.mem_of_getElem? left, rfl⟩
    | none =>
      rw [tickLoading_of_last going left, loadingRows_of_last going left]
      refine iff_of_false Bool.false_ne_true ?_
      rintro ⟨frame, -, same⟩
      exact frameRow_ne_completed frame (List.singleton_inj.mp same).symm

/-- The call of the shutdown timer after the last line. -/
def Halts (s : Session) (event : Event) : Prop :=
  event = .stepShutdown ∧ s.shutdown.isSome ∧ s.stepShutdown.answer = false

instance (s : Session) : DecidablePred s.Halts := by
  unfold Halts
  infer_instance

theorem step_loading_of_halts {s : Session} {event : Event} (halts : s.Halts event) :
    (s.step event).loading = none := by
  obtain ⟨rfl, running, last⟩ := halts
  obtain ⟨sequence, going⟩ := Option.isSome_iff_exists.mp running
  cases next : sequence.step with
  | none => simp only [step, stepShutdown, going, next]
  | some shown => simp [stepShutdown, going, next] at last

/-- A loading bar changes only by the calls of its own timers, its starts and a halt. -/
theorem step_loading {s : Session} {event : Event} (quiet : ¬ s.StartsLoading event)
    (live : ¬ s.Halts event) (tick : event ≠ .tickLoading) (stop : event ≠ .stopLoading) :
    (s.step event).loading = s.loading := by
  cases event with
  | key key =>
    rw [step_key]
    exact handleKey_loading quiet
  | command line =>
    rw [step_command]
    exact runCommand_loading quiet
  | tickLoading => exact absurd rfl tick
  | stopLoading => exact absurd rfl stop
  | tickColor =>
    simp only [step, tickColor]
    split <;> rfl
  | stepShutdown =>
    cases going : s.shutdown with
    | none => simp only [step, stepShutdown, going]
    | some sequence =>
      cases next : sequence.step with
      | none =>
        refine absurd ⟨rfl, ?_, ?_⟩ live
        · rw [going, Option.isSome_some]
        · simp only [stepShutdown, going, next]
      | some shown =>
        simp only [step, stepShutdown, going, next]
        rfl

theorem step_loading_of_idle {s : Session} (idle : s.loading = none) {event : Event}
    (quiet : ¬ s.StartsLoading event) : (s.step event).loading = none := by
  by_cases halts : s.Halts event
  · exact step_loading_of_halts halts
  by_cases tick : event = .tickLoading
  · rw [tick, step, tickLoading_of_idle idle]
    exact idle
  by_cases stop : event = .stopLoading
  · rw [stop, step, stopLoading_of_idle idle]
    exact idle
  exact (step_loading quiet halts tick stop).trans idle

/-- The rows of the loading timers since the start of the bar, with the state of the bar. -/
inductive HasShown (s : Session) : List Row → Prop
  | running {bar : LoadingBar} (going : s.loading = some bar) :
    HasShown s (frameRows.take bar.shown)
  | ended {rows : List Row} (gone : s.loading = none) (progress : Progress rows) : HasShown s rows

theorem HasShown.progress {s : Session} {rows : List Row} (h : s.HasShown rows) :
    Progress rows := by
  cases h with
  | running => exact .running _
  | ended _ progress => exact progress

theorem HasShown.tick {s : Session} {rows : List Row} (h : s.HasShown rows) :
    (s.step .tickLoading).HasShown (rows ++ s.loadingRows .tickLoading) := by
  cases h with
  | @running bar going =>
    cases left : frames[bar.shown]? with
    | some frame =>
      have further : (s.step .tickLoading).loading = some ⟨bar.shown + 1⟩ := by
        rw [step, tickLoading_of_frame going left]
        rfl
      rw [loadingRows_of_frame going left, ← take_succ_frameRows left]
      exact .running further
    | none =>
      rw [loadingRows_of_last going left, take_frameRows_of_last left, step,
        tickLoading_of_last going left]
      exact .ended rfl .complete
  | ended gone progress =>
    rw [loadingRows_of_idle gone, List.append_nil, step, tickLoading_of_idle gone]
    exact .ended gone progress

theorem HasShown.stop {s : Session} {rows : List Row} (h : s.HasShown rows) :
    (s.step .stopLoading).HasShown (rows ++ s.loadingRows .stopLoading) := by
  cases h with
  | running going =>
    rw [loadingRows_of_stop going, step, stopLoading_of_running going]
    exact .ended rfl (.stopped _)
  | ended gone progress =>
    rw [loadingRows_of_idle gone, List.append_nil, step, stopLoading_of_idle gone]
    exact .ended gone progress

theorem HasShown.keep {s t : Session} {rows : List Row} (h : s.HasShown rows)
    (same : t.loading = s.loading) : t.HasShown rows := by
  cases h with
  | running going => exact .running (same.trans going)
  | ended gone progress => exact .ended (same.trans gone) progress

theorem HasShown.step {s : Session} {rows : List Row} (h : s.HasShown rows) {event : Event}
    (quiet : ¬ s.StartsLoading event) : (s.step event).HasShown (rows ++ s.loadingRows event) := by
  by_cases tick : event = .tickLoading
  · rw [tick]
    exact h.tick
  by_cases stop : event = .stopLoading
  · rw [stop]
    exact h.stop
  have silent : s.loadingRows event = [] := by
    cases event <;> first | rfl | exact absurd rfl tick | exact absurd rfl stop
  rw [silent, List.append_nil]
  by_cases halts : s.Halts event
  · exact .ended (step_loading_of_halts halts) h.progress
  · exact h.keep (step_loading quiet halts tick stop)

theorem hasShown_of_start {s : Session} {event : Event} (starts : s.StartsLoading event) :
    (s.step event).HasShown [] := .running (loading_of_start starts)

theorem loadingLines_of_quiet {s : Session} (idle : s.loading = none) {events : List Event}
    (quiet : Along step (fun s event => ¬ s.StartsLoading event) s events) :
    s.loadingLines events = [] := by
  induction events generalizing s with
  | nil => rfl
  | cons event rest ih =>
    obtain ⟨unstarted, later⟩ := quiet
    have first : s.loadingRows event = [] := loadingRows_of_idle idle event
    rw [loadingLines, yielded, first, List.nil_append]
    exact ih (step_loading_of_idle idle unstarted) later

theorem progress_of_start {s : Session} {event : Event} (starts : s.StartsLoading event)
    {later : List Event}
    (quiet : Along step (fun s event => ¬ s.StartsLoading event) (s.step event) later) :
    Progress ((s.step event).loadingLines later) := by
  have shown : ((s.step event).run later).HasShown ([] ++ (s.step event).loadingLines later) :=
    quiet.keeps_yielded HasShown (hasShown_of_start starts) fun shown unstarted =>
      shown.step unstarted
  exact shown.progress

/-- In every run from a fresh session, with any other events in between. Before a loading bar is
started its timers show nothing. From a start to the next one they show the frames in order, each
once, and after them at most one more row: the completion, if all frames were shown, or the stop.
Their rows are those that their calls add to the scrollback, and a tick requests another one exactly
when it shows a frame. -/
theorem loading_rows_in_order (files : FileSystem) (random : Chance) (clock : Clock)
    (events : List Event) :
    let fresh := start files random clock
    let s := fresh.run events
    (Along step (fun s event => ¬ s.StartsLoading event) fresh events →
      fresh.loadingLines events = []) ∧
    (∀ event later, s.StartsLoading event →
      Along step (fun s event => ¬ s.StartsLoading event) (s.step event) later →
        Progress ((s.step event).loadingLines later)) ∧
    (s.tickLoading.session.log = s.log.extend (s.loadingRows .tickLoading) ∧
      s.stopLoading.session.log = s.log.extend (s.loadingRows .stopLoading)) ∧
    (s.tickLoading.answer = true ↔
      ∃ frame ∈ frames, s.loadingRows .tickLoading = [frameRow frame]) := by
  intro fresh s
  have idle : fresh.loading = none := rfl
  exact ⟨loadingLines_of_quiet idle, fun event later starts quiet => progress_of_start starts quiet,
    ⟨s.tickLoading_log, s.stopLoading_log⟩, s.tickLoading_answer_iff⟩

/-- A bar restarted after one frame and stopped while a letter is typed, with late calls after it.
-/
theorem loading_rows_in_order_stopped :
    let s := (start .empty (.ofWords [7]) "noon").run [.command "loading", .tickLoading]
    let later := [.tickLoading, .key (.char 'x'), .tickLoading, .stopLoading, .tickLoading,
      .stopLoading]
    s.StartsLoading (.command " Loading ") ∧
      Along step (fun s event => ¬ s.StartsLoading event) (s.step (.command " Loading ")) later ∧
      Progress ((s.step (.command " Loading ")).loadingLines later) ∧
      (s.step (.command " Loading ")).loadingLines later =
        [frameRow "[=           ]", frameRow "[==          ]", forced] := by
  obtain ⟨-, progress, -, -⟩ :=
    loading_rows_in_order .empty (.ofWords [7]) "noon" [.command "loading", .tickLoading]
  exact ⟨by decide +kernel, by decide +kernel,
    progress (.command " Loading ") _ (by decide +kernel) (by decide +kernel), by decide +kernel⟩

end Session
end VirtualTerminal
