import VirtualTerminal.Proofs.TimerMirror

/-! # Timer handles

Each arming gives a timer a new handle. A call keeps the handle of a repeating timer, and a dropped
handle is never armed again. -/
namespace VirtualTerminal

def Effect.arms : Effect → List Timer
  | .startLoading => [.frame, .limit]
  | .startColorCycle => [.color]
  | .stopColorCycle => []
  | .startShutdown => [.shutdown]

namespace Page

def effect? (p : Page) : PageEvent → Option Effect
  | .key key => (p.session.handleKey key).answer
  | .command line => (p.session.runCommand line).answer
  | .fire _ | .wait _ => none

/-- The number of the arming that armed a timer. -/
def handle? (p : Page) (timer : Timer) : Option Nat := (p.slots.alarm? timer).map Alarm.order

theorem applyEffect_armings (p : Page) (effect : Effect) :
    (p.applyEffect effect).armings = p.armings + effect.arms.length := by
  cases effect <;> rfl

theorem alarm?_of_arms (p : Page) {effect : Effect} {i : Nat} {timer : Timer}
    (h : effect.arms[i]? = some timer) :
    (p.applyEffect effect).slots.alarm? timer = some (p.alarm timer i) := by
  cases effect with
  | startLoading =>
    rcases i with _ | _ | i
    · cases h; rfl
    · cases h; rfl
    · cases h
  | startColorCycle | startShutdown =>
    rcases i with _ | i
    · cases h; rfl
    · cases h
  | stopColorCycle => cases h

theorem alarm?_of_not_arms (p : Page) {effect : Effect} {timer : Timer}
    (other : timer ∉ effect.arms) :
    (p.applyEffect effect).slots.alarm? timer = none ∨
      (p.applyEffect effect).slots.alarm? timer = p.slots.alarm? timer := by
  cases effect with
  | startLoading =>
    cases timer with
    | frame | limit => exact absurd (by decide) other
    | color | shutdown => exact .inr rfl
  | startColorCycle =>
    cases timer with
    | color => exact absurd (by decide) other
    | frame | limit | shutdown => exact .inr rfl
  | stopColorCycle =>
    cases timer with
    | color => exact .inl rfl
    | frame | limit | shutdown => exact .inr rfl
  | startShutdown =>
    cases timer with
    | shutdown => exact absurd (by decide) other
    | frame | limit | color => exact .inr rfl

theorem handle?_of_arms (p : Page) {effect : Effect} {i : Nat} {timer : Timer}
    (h : effect.arms[i]? = some timer) :
    (p.applyEffect effect).handle? timer = some (p.armings + i) := by
  rw [handle?, p.alarm?_of_arms h]
  rfl

theorem handle?_of_not_arms {p : Page} {effect : Effect} {timer : Timer} {handle : Nat}
    (other : timer ∉ effect.arms) (h : (p.applyEffect effect).handle? timer = some handle) :
    p.handle? timer = some handle := by
  rw [handle?] at h ⊢
  rcases p.alarm?_of_not_arms other with dropped | kept
  · rw [dropped] at h
    cases h
  · rwa [← kept]

/-- A call keeps the handle of a timer or drops the timer. -/
theorem handle?_call (p : Page) (timer other : Timer) :
    (p.call timer).page.handle? other = p.handle? other ∨
      (p.call timer).page.handle? other = none := by
  unfold handle?
  rcases p.alarm?_call timer other with dropped | kept
  · exact .inr (by rw [dropped, Option.map_none])
  · rw [kept]
    split
    · next same => exact .inl (by rw [same, Option.map_map]; rfl)
    · exact .inl rfl

theorem handle?_of_call {p : Page} {timer other : Timer} {handle : Nat}
    (h : (p.call timer).page.handle? other = some handle) : p.handle? other = some handle := by
  rcases p.handle?_call timer other with kept | dropped
  · exact kept.symm.trans h
  · cases dropped.symm.trans h

/-- The change of the handles in a step: the timers of the list get the next ones in order, and any
other timer keeps its own or is dropped. -/
structure Rearms (p : Page) (fresh : List Timer) (q : Page) : Prop where
  armings : q.armings = p.armings + fresh.length
  new : ∀ {i timer}, fresh[i]? = some timer → q.handle? timer = some (p.armings + i)
  old : ∀ {timer handle}, timer ∉ fresh → q.handle? timer = some handle →
    p.handle? timer = some handle

def fresh (p : Page) (event : PageEvent) : List Timer :=
  ((p.effect? event).map Effect.arms).getD []

theorem rearms_of_same {p q : Page} (armings : q.armings = p.armings)
    (handles : ∀ {timer handle}, q.handle? timer = some handle → p.handle? timer = some handle) :
    p.Rearms [] q := ⟨armings, nofun, fun _ => handles⟩

theorem settle_rearms (p : Page) (reply : Reply (Option Effect)) :
    p.Rearms ((reply.answer.map Effect.arms).getD []) (p.settle reply).page := by
  rw [settle_eq]
  cases reply.answer with
  | none => exact rearms_of_same rfl id
  | some effect =>
    exact ⟨applyEffect_armings _ effect, handle?_of_arms _, handle?_of_not_arms⟩

theorem call_armings (p : Page) (timer : Timer) : (p.call timer).page.armings = p.armings := by
  cases timer <;> rfl

theorem step_rearms (p : Page) (event : PageEvent) : p.Rearms (p.fresh event) (p.step event) := by
  cases event with
  | key key => exact p.settle_rearms (p.session.handleKey key)
  | command line => exact p.settle_rearms (p.session.runCommand line)
  | fire timer =>
    cases armed : p.slots.alarm? timer with
    | none =>
      rw [step_fire_of_not_armed armed]
      exact rearms_of_same rfl id
    | some alarm =>
      rw [step_fire_of_armed armed]
      exact rearms_of_same (p.call_armings timer) handle?_of_call
  | wait => exact rearms_of_same rfl id

/-- Distinct armed timers have distinct handles, each of an earlier arming. -/
structure Numbered (p : Page) : Prop where
  made : ∀ {timer handle}, p.handle? timer = some handle → handle < p.armings
  apart : ∀ {timer timer' handle}, p.handle? timer = some handle →
    p.handle? timer' = some handle → timer = timer'

theorem Rearms.of_mem {p q : Page} {fresh : List Timer} (h : p.Rearms fresh q) {timer : Timer}
    (hm : timer ∈ fresh) {handle : Nat} (hh : q.handle? timer = some handle) :
    ∃ i, fresh[i]? = some timer ∧ handle = p.armings + i := by
  obtain ⟨i, found⟩ := List.mem_iff_getElem?.mp hm
  have same := (h.new found).symm.trans hh
  exact ⟨i, found, (Option.some.inj same).symm⟩

theorem Numbered.step {p : Page} (h : p.Numbered) (event : PageEvent) :
    (p.step event).Numbered := by
  have step := p.step_rearms event
  have old : ∀ {timer handle}, timer ∉ p.fresh event → (p.step event).handle? timer = some handle →
      handle < p.armings := fun other kept => h.made (step.old other kept)
  constructor
  · intro timer handle hh
    rw [step.armings]
    by_cases hm : timer ∈ p.fresh event
    · obtain ⟨i, found, rfl⟩ := step.of_mem hm hh
      have inside := (List.getElem?_eq_some_iff.mp found).1
      omega
    · have before := old hm hh
      omega
  · intro timer timer' handle hh hh'
    by_cases hm : timer ∈ p.fresh event <;> by_cases hm' : timer' ∈ p.fresh event
    · obtain ⟨i, found, rfl⟩ := step.of_mem hm hh
      obtain ⟨j, found', same⟩ := step.of_mem hm' hh'
      obtain rfl : i = j := by omega
      exact Option.some.inj (found.symm.trans found')
    · obtain ⟨i, found, rfl⟩ := step.of_mem hm hh
      have before := old hm' hh'
      omega
    · obtain ⟨i, found, rfl⟩ := step.of_mem hm' hh'
      have before := old hm hh
      omega
    · exact h.apart (step.old hm hh) (step.old hm' hh')

theorem numbered_new (files : FileSystem) (random : Chance) (clock : Clock) :
    (new files random clock).Numbered := by
  have none : ∀ timer, (new files random clock).handle? timer = none := by
    intro timer
    cases timer <;> rfl
  constructor
  · intro timer handle hh
    rw [none] at hh
    cases hh
  · intro timer timer' handle hh
    rw [none] at hh
    cases hh

theorem Numbered.run {p : Page} (h : p.Numbered) (events : List PageEvent) :
    (p.run events).Numbered := by
  induction events generalizing p with
  | nil => exact h
  | cons event rest ih => exact ih (h.step event)

theorem step_dropped {p : Page} {timer : Timer} {handle : Nat} (made : handle < p.armings)
    (dropped : p.handle? timer ≠ some handle) (event : PageEvent) :
    (p.step event).handle? timer ≠ some handle := by
  intro again
  have step := p.step_rearms event
  by_cases hm : timer ∈ p.fresh event
  · obtain ⟨i, -, rfl⟩ := step.of_mem hm again
    omega
  · exact dropped (step.old hm again)

theorem run_dropped {p : Page} {timer : Timer} {handle : Nat} (made : handle < p.armings)
    (dropped : p.handle? timer ≠ some handle) (events : List PageEvent) :
    (p.run events).handle? timer ≠ some handle := by
  induction events generalizing p with
  | nil => exact dropped
  | cons event rest ih =>
    have step := p.step_rearms event
    refine ih ?_ (step_dropped made dropped event)
    rw [step.armings]
    omega

/-- On every page from its start, for any events in any order and with any delay: each demo has its
timers, the loading bar both of them, exactly while it runs. Hence the armed timers are those of the
running demos, each armed once, and a called timer finds its demo running. An event gives a new
handle to each timer that it arms and to no other, and a handle that was dropped is never used
again. -/
theorem run_mirrors_demos (files : FileSystem) (random : Chance) (clock : Clock)
    (events : List PageEvent) :
    let p := (new files random clock).run events
    (p.slots.loading.isSome = p.session.loading.isSome ∧
      p.slots.color.isSome = p.session.color.isSome ∧
      p.slots.shutdown.isSome = p.session.shutdown.isSome) ∧
    p.slots.armed.map Prod.fst =
      [Timer.frame, .limit, .color, .shutdown].filter
        (fun timer => p.session.running timer.demo) ∧
    (∀ timer alarm, p.slots.alarm? timer = some alarm → p.session.running timer.demo = true) ∧
    (∀ timer timer' handle, p.handle? timer = some handle → p.handle? timer' = some handle →
      timer = timer') ∧
    (∀ event, p.Rearms (p.fresh event) (p.step event)) ∧
    ∀ timer handle later, handle < p.armings → p.handle? timer ≠ some handle →
      (p.run later).handle? timer ≠ some handle := by
  intro p
  have mirrors : p.Mirrors := (mirrors_new files random clock).run events
  have numbered : p.Numbered := (numbered_new files random clock).run events
  refine ⟨⟨congrFun mirrors .loading, congrFun mirrors .color, congrFun mirrors .shutdown⟩,
    armed_eq mirrors, ?_, ?_, p.step_rearms, ?_⟩
  · intro timer alarm armed
    rw [← congrFun mirrors timer.demo, ← Slots.alarm?_isSome, armed]
    rfl
  · intro timer timer' handle hh hh'
    exact numbered.apart hh hh'
  · intro timer handle later made dropped
    exact run_dropped made dropped later

end Page
end VirtualTerminal
