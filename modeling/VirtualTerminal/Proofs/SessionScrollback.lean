import Mathlib.Logic.Relation
import VirtualTerminal.Proofs.ModeChanges
import VirtualTerminal.Proofs.ScrollbackWindow

/-! # The scrollback of a session

An event changes the scrollback only by pushing rows and by clearing it. Hence in every run it is a
window on the rows pushed since the last clearing, with its initial limits. -/
namespace VirtualTerminal

namespace Scrollback

/-- One scrollback results from the other by calls. -/
abbrev Leads : Scrollback → Scrollback → Prop :=
  Relation.ReflTransGen fun log log' => ∃ c : Call, log' = log.call c

theorem leads_push (log : Scrollback) (row : Row) : log.Leads (log.push row) :=
  .single ⟨.push row, rfl⟩

theorem leads_extend (log : Scrollback) (rows : List Row) : log.Leads (log.extend rows) :=
  .single ⟨.extend rows, rfl⟩

theorem leads_clear (log : Scrollback) : log.Leads log.clear := .single ⟨.clear, rfl⟩

def Windows (log : Scrollback) (capacity maxChars : Nat) : Prop :=
  ∃ history : List Row, log = window capacity maxChars (history.flatMap (Row.shown maxChars))

theorem Windows.leads {log log' : Scrollback} {capacity maxChars : Nat}
    (h : log.Windows capacity maxChars) (room : 0 < capacity) (leads : log.Leads log') :
    log'.Windows capacity maxChars := by
  induction leads with
  | refl => exact h
  | tail _ called ih =>
    obtain ⟨history, rfl⟩ := ih
    obtain ⟨c, rfl⟩ := called
    exact ⟨c.history history, call_window room maxChars history c⟩

theorem push_of_fits {log : Scrollback} {tone : Tone} {s : String} (oneLine : '\n' ∉ s.toList)
    (fits : s.length ≤ log.maxChars) :
    log.push (.message tone s) = log.pushRow (.message tone s) := by
  have whole : String.ofList (s.toList.take log.maxChars) = s := by
    rw [List.take_of_length_le (by rwa [String.length_toList]), String.ofList_toList]
  simp only [push, whole, oneLine, not_false_eq_true, and_self, if_true]

end Scrollback

namespace Session
open Scrollback

theorem print_leads {s t : Session} (row : Row) (same : t.log = s.log) :
    s.log.Leads (t.print row).log := by
  rw [← same]
  exact leads_push t.log row

theorem leaveMode_log (s : Session) : s.leaveMode.log = s.log := rfl

theorem absorb_leads (s : Session) (e : Execution) : s.log.Leads (s.absorb e).log :=
  leads_extend s.log e.output

theorem runScriptLine_leads (s : Session) (line : String) :
    s.log.Leads (s.runScriptLine line).session.log := by
  have shown := print_leads (s := s) (.text (">> " ++ line)) rfl
  simp only [runScriptLine]
  split
  · exact (shown.trans (absorb_leads _ _)).trans (leads_clear _)
  · exact shown.trans (absorb_leads _ _)

theorem runScriptLines_leads (s : Session) (lines : List String) :
    s.log.Leads (s.runScriptLines lines).session.log := by
  induction lines generalizing s with
  | nil => exact .refl
  | cons line rest ih =>
    exact (s.runScriptLine_leads line).trans (ih (s.runScriptLine line).session)

theorem runScript_leads (s : Session) (name content : String) :
    s.log.Leads (s.runScript name content).session.log := by
  simp only [runScript]
  exact ((print_leads _ rfl).trans (runScriptLines_leads _ _)).trans (print_leads _ rfl)

theorem enterMode_leads {s t : Session} (next : Mode) (opening : List Row)
    (same : t.log = s.log) : s.log.Leads (t.enterMode next opening).session.log := by
  rw [← same]
  unfold enterMode
  split
  · exact print_leads _ rfl
  · exact leads_extend t.log opening

theorem stepShutdown_leads {s t : Session} (same : t.log = s.log) :
    s.log.Leads t.stepShutdown.session.log := by
  rw [← same]
  unfold stepShutdown
  split
  · exact .refl
  · split
    · exact print_leads _ rfl
    · exact .refl

theorem grant_leads (s : Session) (r : Request) : s.log.Leads (s.grant r).session.log := by
  cases r with
  | clearScreen => exact leads_clear s.log
  | changeFolder | startLoading => exact .refl
  | startAutocode | startGuess | startScript | startEdit => exact enterMode_leads _ _ rfl
  | runScript name content => exact s.runScript_leads name content
  | toggleColor =>
    simp only [grant, toggleColor]
    split <;> exact print_leads _ rfl
  | shutdown =>
    simp only [grant, startShutdown]
    split
    · exact .refl
    · exact stepShutdown_leads rfl

theorem dispatch_leads (s : Session) (c : Command) : s.log.Leads (s.dispatch c).session.log := by
  have absorbed := s.absorb_leads (c.execute s.toSurroundings)
  simp only [dispatch]
  split
  · exact absorbed
  · exact absorbed.trans (grant_leads _ _)

theorem runCommand_leads {s t : Session} (line : String) (same : t.log = s.log) :
    s.log.Leads (t.runCommand line).session.log := by
  rw [← same]
  simp only [runCommand]
  split
  · exact dispatch_leads _ _
  · split
    · exact dispatch_leads _ _
    · exact print_leads _ rfl

theorem escape_leads (s : Session) : s.log.Leads s.escape.session.log := by
  have cancelled : s.log.Leads s.cancelMode.session.log := by
    unfold cancelMode
    split
    · exact print_leads _ rfl
    · exact .refl
  unfold escape
  split
  · exact cancelled
  · exact print_leads _ rfl
  · exact cancelled

theorem editLine_leads {s t : Session} (handle : EditHandle) (line : String)
    (same : t.log = s.log) : s.log.Leads (t.editLine handle line).session.log := by
  rw [← same]
  unfold editLine
  split
  · exact print_leads _ t.leaveMode_log
  · split
    · exact print_leads _ rfl
    · rw [leaveMode_log]
      exact print_leads _ rfl

theorem guessLine_leads {s t : Session} (game : GuessGame) (line : String)
    (same : t.log = s.log) : s.log.Leads (t.guessLine game line).session.log := by
  rw [← same]
  unfold guessLine
  dsimp only
  split
  · rw [leaveMode_log]
    exact print_leads _ rfl
  · exact print_leads _ rfl

theorem submit_leads (s : Session) : s.log.Leads s.submit.session.log := by
  unfold submit
  dsimp only
  split
  · exact runCommand_leads _ rfl
  · unfold collectLine
    split
    · exact .refl
    · exact print_leads _ rfl
  · unfold nameScript
    dsimp only
    split <;> exact print_leads _ rfl
  · exact editLine_leads _ _ rfl
  · exact guessLine_leads _ _ rfl
  · exact .refl

theorem handleKey_leads (s : Session) (key : Key) :
    s.log.Leads (s.handleKey key).session.log := by
  cases s.handleKey_pressed key with
  | escape same =>
    rw [same]
    exact s.escape_leads
  | play playing same =>
    rw [same]
    unfold playAutocode
    split
    · exact .refl
    · exact print_leads _ rfl
    · exact print_leads _ rfl
  | submit same =>
    rw [same]
    exact s.submit_leads
  | edit input same => rw [same]

theorem step_leads (s : Session) (event : Event) : s.log.Leads (s.step event).log := by
  cases event with
  | key key => exact s.handleKey_leads key
  | command line => exact runCommand_leads line rfl
  | stepShutdown => exact stepShutdown_leads rfl
  | tickLoading =>
    simp only [step, tickLoading]
    split
    · exact .refl
    · split <;> exact print_leads _ rfl
  | stopLoading =>
    simp only [step, stopLoading]
    split
    · exact .refl
    · exact print_leads _ rfl
  | tickColor =>
    simp only [step, tickColor]
    split <;> exact .refl

/-- The scrollback of a session contains the last 1000 rows, of messages cut to 2000 characters. -/
theorem Reachable.windows {s : Session} (h : Reachable s) :
    s.log.Windows historyLimit messageLimit := by
  induction h with
  | start files random clock => exact ⟨[], (window_nil historyLimit messageLimit).symm⟩
  | step event _ ih => exact ih.leads (by decide) (step_leads _ event)

theorem Reachable.maxChars {s : Session} (h : Reachable s) : s.log.maxChars = messageLimit := by
  obtain ⟨history, whole⟩ := h.windows
  rw [whole]
  rfl

theorem Reachable.run {s : Session} (h : Reachable s) (events : List Event) :
    Reachable (s.run events) := by
  induction events generalizing s with
  | nil => exact h
  | cons event rest ih => exact ih (h.step event)

end Session
end VirtualTerminal
