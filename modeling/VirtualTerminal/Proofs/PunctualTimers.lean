import Mathlib.Data.List.Sort
import VirtualTerminal.Proofs.Runs
import VirtualTerminal.Proofs.TimerHandles

/-! # Timers on time

In time that passes without a stall, every timer is called exactly when it is due, and afterwards
every armed one is due later. -/
namespace VirtualTerminal

theorem Timer.period_pos (timer : Timer) : 0 < timer.period := by
  cases timer <;> decide

def PageEvent.ms : PageEvent → Nat
  | .wait ms => ms
  | _ => 0

namespace Slots

theorem mem_armed {slots : Slots} {entry : Timer × Alarm} :
    entry ∈ slots.armed ↔ slots.alarm? entry.1 = some entry.2 := by
  have listed : ∀ timer, timer ∈ [Timer.frame, .limit, .color, .shutdown] := by
    intro timer
    cases timer <;> decide
  obtain ⟨timer, alarm⟩ := entry
  simp only [armed, List.mem_filterMap, Option.map_eq_some_iff, Prod.mk.injEq]
  constructor
  · rintro ⟨_, -, _, found, rfl, rfl⟩
    exact found
  · intro found
    exact ⟨timer, listed timer, alarm, found, rfl, rfl⟩

theorem armed_nodup (slots : Slots) : (slots.armed.map Prod.fst).Nodup := by
  rw [armed_fst]
  exact List.filter_sublist.nodup (by decide)

theorem insertInOrder_eq (entry : Timer × Alarm) (entries : List (Timer × Alarm)) :
    insertInOrder entry entries =
      entries.orderedInsert (fun a b => a.2.isBefore b.2 = true) entry := by
  induction entries with
  | nil => rfl
  | cons first rest ih => rw [insertInOrder, List.orderedInsert_cons, ih]

theorem dueBy_perm (slots : Slots) (now : Nat) :
    (slots.dueBy now).Perm ((slots.armed.filter fun entry => entry.2.due ≤ now).map Prod.fst) := by
  have sorted : insertInOrder = List.orderedInsert (fun a b => a.2.isBefore b.2 = true) :=
    funext fun entry => funext fun entries => insertInOrder_eq entry entries
  rw [dueBy, sorted]
  exact (List.perm_insertionSort _ _).map _

theorem dueBy_nodup (slots : Slots) (now : Nat) : (slots.dueBy now).Nodup := by
  rw [(slots.dueBy_perm now).nodup_iff]
  exact slots.armed_nodup.sublist (List.filter_sublist.map _)

theorem mem_dueBy {slots : Slots} {now : Nat} {timer : Timer} :
    timer ∈ slots.dueBy now ↔ ∃ alarm, slots.alarm? timer = some alarm ∧ alarm.due ≤ now := by
  simp only [(slots.dueBy_perm now).mem_iff, List.mem_map, List.mem_filter, decide_eq_true_eq]
  constructor
  · rintro ⟨⟨_, alarm⟩, ⟨found, due⟩, rfl⟩
    exact ⟨alarm, mem_armed.mp found, due⟩
  · rintro ⟨alarm, found, due⟩
    exact ⟨(timer, alarm), ⟨mem_armed.mpr found, due⟩, rfl⟩

theorem firstDue?_le {slots : Slots} {timer : Timer} {alarm : Alarm}
    (h : slots.alarm? timer = some alarm) :
    ∃ due, slots.firstDue? = some due ∧ due ≤ alarm.due := by
  have found : alarm.due ∈ slots.armed.map fun entry => entry.2.due :=
    List.mem_map.mpr ⟨(timer, alarm), mem_armed.mpr h, rfl⟩
  obtain ⟨due, least⟩ := Option.isSome_iff_exists.mp (List.isSome_min?_of_mem found)
  exact ⟨due, least, (List.min?_eq_some_iff.mp least).2 _ found⟩

end Slots

namespace Page

/-- Every armed timer is due later. -/
def Ahead (p : Page) : Prop := ∀ timer, ∀ alarm ∈ p.slots.alarm? timer, p.now < alarm.due

/-- A timer is called when it is due, and no time passes over one that is. -/
def OnTime (p : Page) : PageEvent → Prop
  | .fire timer => ∀ alarm ∈ p.slots.alarm? timer, alarm.due = p.now
  | .wait ms => ∀ timer, ∀ alarm ∈ p.slots.alarm? timer, p.now + ms ≤ alarm.due
  | _ => True

theorem ahead_new (files : FileSystem) (random : Chance) (clock : Clock) :
    (new files random clock).Ahead := by
  intro timer alarm armed
  cases timer <;> cases armed

theorem due_applyEffect {p : Page} {effect : Effect} {timer : Timer} {alarm : Alarm}
    (h : (p.applyEffect effect).slots.alarm? timer = some alarm) :
    p.slots.alarm? timer = some alarm ∨ alarm.due = p.nextDue timer := by
  by_cases arms : timer ∈ effect.arms
  · obtain ⟨i, found⟩ := List.mem_iff_getElem?.mp arms
    rw [p.alarm?_of_arms found] at h
    cases h
    exact .inr rfl
  · rcases p.alarm?_of_not_arms arms with dropped | kept
    · cases dropped.symm.trans h
    · exact .inl (kept.symm.trans h)

theorem applyEffect_now (p : Page) (effect : Effect) : (p.applyEffect effect).now = p.now := by
  cases effect <;> rfl

theorem settle_now (p : Page) (reply : Reply (Option Effect)) :
    (p.settle reply).page.now = p.now := by
  rw [settle_eq]
  cases reply.answer with
  | none => rfl
  | some effect => exact applyEffect_now _ effect

theorem Ahead.settle {p : Page} (h : p.Ahead) (reply : Reply (Option Effect)) :
    (p.settle reply).page.Ahead := by
  intro timer alarm armed
  rw [settle_now]
  rw [settle_eq] at armed
  cases answer : reply.answer with
  | none =>
    rw [answer] at armed
    exact h timer alarm armed
  | some effect =>
    rw [answer, Option.map_some, Option.getD_some] at armed
    rcases due_applyEffect armed with before | started
    · exact h timer alarm before
    · rw [started]
      exact Nat.lt_add_of_pos_right timer.period_pos

theorem fire_now (p : Page) (timer : Timer) : (p.step (.fire timer)).now = p.now := by
  cases armed : p.slots.alarm? timer with
  | none => rw [step_fire_of_not_armed armed]
  | some alarm =>
    rw [step_fire_of_armed armed]
    cases timer <;> rfl

theorem step_now (p : Page) (event : PageEvent) : (p.step event).now = p.now + event.ms := by
  cases event with
  | key key =>
    rw [step_key]
    exact p.settle_now _
  | command line =>
    rw [step_command]
    exact p.settle_now _
  | fire timer => exact p.fire_now timer
  | wait ms => rfl

theorem due_fire {p : Page} {timer other : Timer} {alarm : Alarm}
    (h : (p.step (.fire timer)).slots.alarm? other = some alarm) :
    other ≠ timer ∧ p.slots.alarm? other = some alarm ∨
      other = timer ∧ alarm.due = p.nextDue other := by
  cases armed : p.slots.alarm? timer with
  | none =>
    rw [step_fire_of_not_armed armed] at h
    refine .inl ⟨?_, h⟩
    rintro rfl
    cases armed.symm.trans h
  | some before =>
    rw [step_fire_of_armed armed] at h
    rcases p.alarm?_call timer other with dropped | kept
    · cases dropped.symm.trans h
    · rw [h] at kept
      split at kept
      · next same =>
        rw [armed, Option.map_some] at kept
        cases kept
        exact .inr ⟨same, congrArg p.nextDue same.symm⟩
      · next apart => exact .inl ⟨apart, kept.symm⟩

theorem calls_now (p : Page) (timers : List Timer) : (p.run (timers.map .fire)).now = p.now := by
  induction timers generalizing p with
  | nil => rfl
  | cons timer rest ih => exact (ih (p.step (.fire timer))).trans (p.fire_now timer)

/-- Timers that are all due now are on time, if each is called once. -/
theorem calls_onTime {timers : List Timer} (once : timers.Nodup) {p : Page}
    (due : ∀ timer ∈ timers, ∀ alarm ∈ p.slots.alarm? timer, alarm.due = p.now) :
    Along step OnTime p (timers.map .fire) := by
  induction timers generalizing p with
  | nil => trivial
  | cons timer rest ih =>
    obtain ⟨apart, once⟩ := List.nodup_cons.mp once
    refine ⟨due timer List.mem_cons_self, ih once fun other hm alarm armed => ?_⟩
    rw [fire_now]
    rcases due_fire armed with ⟨-, before⟩ | ⟨same, -⟩
    · exact due other (List.mem_cons_of_mem _ hm) alarm before
    · exact absurd (same ▸ hm) apart

theorem due_calls {timers : List Timer} {p : Page} {timer : Timer} {alarm : Alarm}
    (h : (p.run (timers.map .fire)).slots.alarm? timer = some alarm) :
    timer ∉ timers ∧ p.slots.alarm? timer = some alarm ∨ alarm.due = p.nextDue timer := by
  induction timers generalizing p with
  | nil => exact .inl ⟨List.not_mem_nil, h⟩
  | cons first rest ih =>
    rcases ih h with ⟨apart, later⟩ | started
    · rcases due_fire later with ⟨other, before⟩ | ⟨-, started⟩
      · exact .inl ⟨List.not_mem_cons_of_ne_of_not_mem other apart, before⟩
      · exact .inr started
    · right
      rwa [nextDue, fire_now] at started

/-- In a stall that ends no later than the first due time, every timer is on time. -/
theorem stalling_onTime {p : Page} {ms : Nat} (within : p.OnTime (.wait ms)) :
    Along step OnTime p (p.stalling ms) ∧ (p.run (p.stalling ms)).Ahead := by
  constructor
  · refine ⟨within, calls_onTime (p.slots.dueBy_nodup _) fun timer hm alarm armed => ?_⟩
    obtain ⟨found, same, due⟩ := Slots.mem_dueBy.mp hm
    cases same.symm.trans armed
    exact Nat.le_antisymm due (within timer alarm armed)
  · intro timer alarm armed
    rw [stalling, run_cons] at armed ⊢
    rw [calls_now]
    rcases due_calls armed with ⟨apart, before⟩ | started
    · have late : ¬ alarm.due ≤ p.now + ms :=
        fun due => apart (Slots.mem_dueBy.mpr ⟨alarm, before, due⟩)
      exact Nat.lt_of_not_le late
    · rw [started]
      exact Nat.lt_add_of_pos_right timer.period_pos

theorem untilDue_onTime {p : Page} (h : p.Ahead) (ms : Nat) :
    p.OnTime (.wait (p.untilDue ms)) := by
  intro timer alarm armed
  obtain ⟨due, first, least⟩ := Slots.firstDue?_le armed
  have later := h timer alarm armed
  have part : p.untilDue ms ≤ max 1 (due - p.now) := by
    simp only [untilDue, first]
    exact Nat.min_le_right _ _
  omega

theorem untilDue_pos (p : Page) {ms : Nat} (h : 0 < ms) : 0 < p.untilDue ms := by
  unfold untilDue
  split <;> omega

theorem untilDue_le (p : Page) (ms : Nat) : p.untilDue ms ≤ ms := by
  unfold untilDue
  split <;> omega

/-- In passing time no timer is late, and all due timers are called. -/
theorem passing_onTime (stops ms : Nat) {p : Page} (h : p.Ahead) :
    Along step OnTime p (passing stops ms p) ∧ (p.run (passing stops ms p)).Ahead := by
  induction stops generalizing ms p with
  | zero => exact ⟨trivial, h⟩
  | succ stops ih =>
    unfold passing
    split
    · exact ⟨trivial, h⟩
    · obtain ⟨first, ahead⟩ := stalling_onTime (untilDue_onTime h ms)
      rw [← stall_run] at ahead
      obtain ⟨rest, after⟩ := ih (ms - p.untilDue ms) ahead
      rw [run_append, ← stall_run]
      refine ⟨along_append.mpr ⟨first, ?_⟩, after⟩
      exact stall_run p (p.untilDue ms) ▸ rest

theorem stall_now (p : Page) (ms : Nat) : (p.stall ms).page.now = p.now + ms := by
  rw [stall_run, stalling, run_cons, calls_now]
  rfl

theorem advanceWithin_now {stops ms : Nat} (enough : ms ≤ stops) (reply : PageReply) :
    (advanceWithin stops ms reply).page.now = reply.page.now + ms := by
  induction stops generalizing ms reply with
  | zero =>
    obtain rfl : ms = 0 := Nat.le_zero.mp enough
    rfl
  | succ stops ih =>
    unfold advanceWithin
    split
    · next none => rw [none, Nat.add_zero]
    · next some =>
      have pos := reply.page.untilDue_pos (Nat.pos_of_ne_zero some)
      have le := reply.page.untilDue_le ms
      dsimp only
      rw [ih (by omega), PageReply.andThen, stall_now]
      omega

theorem advance_now (p : Page) (ms : Nat) : (p.advance ms).page.now = p.now + ms :=
  advanceWithin_now le_rfl ⟨p, []⟩

end Page

/-- The inputs of a page: keys, command lines and time without a stall. -/
inductive PageInput
  | key (key : Key)
  | command (line : String)
  | pass (ms : Nat)
  deriving DecidableEq, Repr

namespace PageInput

def ms : PageInput → Nat
  | .pass ms => ms
  | _ => 0

def elapsed : List PageInput → Nat
  | [] => 0
  | input :: rest => input.ms + elapsed rest

end PageInput

namespace Page

def receive (p : Page) : PageInput → Page
  | .key key => (p.handleKey key).page
  | .command line => (p.runCommand line).page
  | .pass ms => (p.advance ms).page

def live (p : Page) (inputs : List PageInput) : Page := inputs.foldl receive p

def eventsOf (p : Page) : PageInput → List PageEvent
  | .key key => [.key key]
  | .command line => [.command line]
  | .pass ms => passing ms ms p

/-- The events of a sequence of inputs. -/
def timeline (p : Page) (inputs : List PageInput) : List PageEvent :=
  yielded receive eventsOf p inputs

theorem receive_eq (p : Page) (input : PageInput) : p.receive input = p.run (p.eventsOf input) := by
  cases input with
  | key | command => rfl
  | pass ms => exact p.advance_run ms

theorem live_eq (p : Page) (inputs : List PageInput) :
    p.live inputs = p.run (p.timeline inputs) := by
  induction inputs generalizing p with
  | nil => rfl
  | cons input rest ih =>
    rw [timeline, yielded, run_append, ← receive_eq]
    exact ih (p.receive input)

theorem receive_onTime {p : Page} (h : p.Ahead) (input : PageInput) :
    Along step OnTime p (p.eventsOf input) ∧ (p.receive input).Ahead := by
  cases input with
  | key key => exact ⟨⟨trivial, trivial⟩, h.settle _⟩
  | command line => exact ⟨⟨trivial, trivial⟩, h.settle _⟩
  | pass ms =>
    rw [receive_eq]
    exact passing_onTime ms ms h

/-- On a live page every timer is called exactly when it is due. -/
theorem timeline_onTime {p : Page} (h : p.Ahead) (inputs : List PageInput) :
    Along step OnTime p (p.timeline inputs) ∧ (p.live inputs).Ahead := by
  induction inputs generalizing p with
  | nil => exact ⟨trivial, h⟩
  | cons input rest ih =>
    obtain ⟨first, ahead⟩ := receive_onTime h input
    obtain ⟨later, after⟩ := ih ahead
    refine ⟨along_append.mpr ⟨first, ?_⟩, after⟩
    exact receive_eq p input ▸ later

theorem live_now (p : Page) (inputs : List PageInput) :
    (p.live inputs).now = p.now + PageInput.elapsed inputs := by
  induction inputs generalizing p with
  | nil => rfl
  | cons input rest ih =>
    have first : (p.receive input).now = p.now + input.ms := by
      cases input with
      | key key => exact p.settle_now _
      | command line => exact p.settle_now _
      | pass ms => exact p.advance_now ms
    rw [PageInput.elapsed, ← Nat.add_assoc, ← first]
    exact ih (p.receive input)

end Page
end VirtualTerminal
