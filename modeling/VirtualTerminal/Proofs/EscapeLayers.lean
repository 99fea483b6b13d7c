import VirtualTerminal.Proofs.SessionScrollback

/-! # Escape

The layers that Escape can end are the color cycle and the mode. Each Escape ends one of them and
shows one row; without a layer, Escape does nothing. -/
namespace VirtualTerminal

/-- Escape leaves every mode but the normal one and that in which a recorded script gets its name.
-/
def Mode.Rests : Mode → Prop
  | .normal | .naming _ => True
  | .editing _ | .collecting _ | .guessing _ | .autocoding _ => False

instance : DecidablePred Mode.Rests
  | .normal | .naming _ => isTrue trivial
  | .editing _ | .collecting _ | .guessing _ | .autocoding _ => isFalse id

def Mode.IsAutocoding (mode : Mode) : Prop := ∃ player, mode = .autocoding player

theorem Mode.naming_of_eq_or {before after : Mode}
    (h : after = before ∨ ¬ before.Rests ∧ after = .normal) {lines : List String}
    (naming : before = .naming lines) : after = .naming lines := by
  subst naming
  exact h.resolve_right fun left => left.1 trivial

namespace Session

theorem cancelled?_eq_none_iff {mode : Mode} : cancelled? mode = none ↔ mode.Rests := by
  cases mode <;> simp [cancelled?, Mode.Rests]

theorem not_newline_mem_toString (n : ℕ) : '\n' ∉ (toString n).toList := by
  rw [Nat.toString_eq_ofList_toDigits, String.toList_ofList]
  intro newline
  exact absurd (Nat.isDigit_of_mem_toDigits (by decide) (by decide) newline) (by decide)

theorem cancelled?_fits {s : Session} (reachable : Reachable s) {row : Row}
    (h : cancelled? s.mode = some row) :
    ∃ text, row = .info text ∧ '\n' ∉ text.toList ∧ text.length ≤ messageLimit := by
  cases mode : s.mode with
  | normal | naming => simp [mode, cancelled?] at h
  | editing | collecting | autocoding =>
    rw [mode] at h
    cases h
    exact ⟨_, rfl, by decide, by decide⟩
  | guessing game =>
    rw [mode] at h
    cases h
    obtain ⟨-, high⟩ := reachable.guess_inRange mode
    have short : (Nat.toDigits 10 game.target).length ≤ 3 := by
      rw [Nat.length_toDigits_le_iff (by decide) (by decide)]
      rw [GuessGame.largest] at high
      omega
    refine ⟨_, rfl, ?_, ?_⟩
    · simp only [String.toList_append, List.mem_append, not_newline_mem_toString, or_false]
      decide
    · have before : "Guessing Game cancelled. The number was ".length = 40 := by decide
      have after : ".".length = 1 := by decide
      simp only [String.length_append, Nat.toString_eq_ofList_toDigits, String.length_ofList,
        before, after, messageLimit]
      omega

/-- The result of an Escape: autocode ends before the color cycle, and any other mode after it. -/
inductive Unwinds (s : Session) (reply : Reply (Option Effect)) : Prop
  | mode (text : String) (active : ¬ s.mode.Rests)
      (first : s.mode.IsAutocoding ∨ s.color = none)
      (same : reply.session =
        { s with mode := .normal, input := "", log := s.log.pushRow (.info text) })
      (answer : reply.answer = none)
  | color (text : String) (cycling : s.color ≠ none) (first : ¬ s.mode.IsAutocoding)
      (same : reply.session =
        { s with color := none, input := "", log := s.log.pushRow (.info text) })
      (answer : reply.answer = some .stopColorCycle)
  | nothing (rests : s.mode.Rests) (still : s.color = none) (same : reply.session = s)
      (answer : reply.answer = none)

theorem print_info {s t : Session} (reachable : Reachable s) (same : t.log = s.log) {text : String}
    (oneLine : '\n' ∉ text.toList) (fits : text.length ≤ messageLimit) :
    t.print (.info text) = { t with log := s.log.pushRow (.info text) } := by
  rw [← reachable.maxChars] at fits
  rw [print, same, Scrollback.push_of_fits oneLine fits]

theorem cancelMode_unwinds {s : Session} (reachable : Reachable s)
    (first : s.mode.IsAutocoding ∨ s.color = none) (still : s.mode.Rests → s.color = none) :
    s.Unwinds s.cancelMode := by
  unfold cancelMode
  split
  · next row shown =>
    obtain ⟨text, rfl, oneLine, fits⟩ := cancelled?_fits reachable shown
    have active : ¬ s.mode.Rests := by simp [← cancelled?_eq_none_iff, shown]
    exact .mode text active first (print_info reachable s.leaveMode_log oneLine fits) rfl
  · next silent =>
    have rests := cancelled?_eq_none_iff.mp silent
    exact .nothing rests (still rests) rfl rfl

theorem escape_unwinds {s : Session} (reachable : Reachable s) : s.Unwinds s.escape := by
  unfold escape
  split
  · next player playing =>
    exact cancelMode_unwinds reachable (.inl ⟨player, playing⟩) (by simp [playing, Mode.Rests])
  · next cycle color awake =>
    have first : ¬ s.mode.IsAutocoding := fun ⟨player, playing⟩ => awake player playing
    have shown := print_info (t := { s with color := none, input := "" }) reachable rfl
      (by decide : '\n' ∉ "Colorcycle cancelled".toList) (by decide)
    exact .color _ (by simp [color]) first shown rfl
  · next color _ => exact cancelMode_unwinds reachable (.inr color) fun _ => color

theorem handleKey_escape_unwinds {s : Session} (reachable : Reachable s)
    (live : s.halted = false) : s.Unwinds (s.handleKey .escape) := by
  rw [handleKey_escape live]
  exact escape_unwinds reachable

namespace Unwinds

variable {s : Session} {reply : Reply (Option Effect)}

theorem frame (h : s.Unwinds reply) :
    reply.session.toSurroundings = s.toSurroundings ∧ reply.session.loading = s.loading ∧
      reply.session.shutdown = s.shutdown ∧ reply.session.halted = s.halted := by
  cases h with
  | mode _ _ _ same | color _ _ _ same | nothing _ _ same =>
    rw [same]
    exact ⟨rfl, rfl, rfl, rfl⟩

theorem mode_or_color_kept (h : s.Unwinds reply) :
    reply.session.mode = s.mode ∨ reply.session.color = s.color := by
  cases h with
  | mode _ _ _ same => exact .inr (by rw [same])
  | color _ _ _ same | nothing _ _ same => exact .inl (by rw [same])

theorem mode_eq_or (h : s.Unwinds reply) :
    reply.session.mode = s.mode ∨ ¬ s.mode.Rests ∧ reply.session.mode = .normal := by
  cases h with
  | mode _ active _ same => exact .inr ⟨active, by rw [same]⟩
  | color _ _ _ same | nothing _ _ same => exact .inl (by rw [same])

theorem mode_ne_iff (h : s.Unwinds reply) :
    reply.session.mode ≠ s.mode ↔
      ¬ s.mode.Rests ∧ (s.mode.IsAutocoding ∨ s.color = none) := by
  cases h with
  | mode _ active first same =>
    have left : reply.session.mode ≠ s.mode := by
      intro kept
      rw [← kept, same] at active
      exact active trivial
    exact iff_of_true left ⟨active, first⟩
  | color _ cycling first same =>
    have kept : reply.session.mode = s.mode := by rw [same]
    exact iff_of_false (absurd kept) fun later => later.2.elim first cycling
  | nothing rests _ same =>
    have kept : reply.session.mode = s.mode := by rw [same]
    exact iff_of_false (absurd kept) fun later => later.1 rests

theorem color_ne_iff (h : s.Unwinds reply) :
    reply.session.color ≠ s.color ↔ s.color ≠ none ∧ ¬ s.mode.IsAutocoding := by
  cases h with
  | mode _ _ first same =>
    have kept : reply.session.color = s.color := by rw [same]
    exact iff_of_false (absurd kept) fun later => first.elim later.2 later.1
  | color _ cycling first same =>
    have stopped : reply.session.color = none := by rw [same]
    exact iff_of_true (stopped ▸ cycling.symm) ⟨cycling, first⟩
  | nothing _ still same =>
    have kept : reply.session.color = s.color := by rw [same]
    exact iff_of_false (absurd kept) fun later => later.1 still

theorem answer_eq (h : s.Unwinds reply) :
    reply.answer = if reply.session.color = s.color then none else some .stopColorCycle := by
  cases h with
  | mode _ _ _ same answer | nothing _ _ same answer =>
    have kept : reply.session.color = s.color := by rw [same]
    rw [answer, if_pos kept]
  | color _ cycling _ same answer =>
    have stopped : reply.session.color = none := by rw [same]
    rw [answer, if_neg (stopped ▸ cycling.symm)]

theorem shows (h : s.Unwinds reply)
    (changed : reply.session.mode ≠ s.mode ∨ reply.session.color ≠ s.color) :
    reply.session.input = "" ∧
      ∃ text, reply.session.log = s.log.pushRow (.info text) := by
  cases h with
  | mode text _ _ same | color text _ _ same =>
    rw [same]
    exact ⟨rfl, text, rfl⟩
  | nothing _ _ same =>
    rw [same] at changed
    exact absurd changed (by simp)

theorem unchanged (h : s.Unwinds reply) (mode : reply.session.mode = s.mode)
    (color : reply.session.color = s.color) : reply.session = s := by
  have left := h.mode_ne_iff
  have stopped := h.color_ne_iff
  cases h with
  | mode _ active first _ => exact absurd mode (left.mpr ⟨active, first⟩)
  | color _ cycling first _ => exact absurd color (stopped.mpr ⟨cycling, first⟩)
  | nothing _ _ same => exact same

end Unwinds

/-- The number of things that Escape can end. -/
def layers (s : Session) : ℕ :=
  (if s.mode.Rests then 0 else 1) + if s.color = none then 0 else 1

theorem layers_eq_zero_iff {s : Session} : s.layers = 0 ↔ s.mode.Rests ∧ s.color = none := by
  simp [layers]

theorem layers_le_two (s : Session) : s.layers ≤ 2 := by
  unfold layers
  split_ifs <;> omega

theorem Unwinds.layers_eq {s : Session} {reply : Reply (Option Effect)} (h : s.Unwinds reply) :
    reply.session.layers = s.layers - 1 := by
  have normal : Mode.normal.Rests := trivial
  cases h with
  | mode _ active _ same => simp [layers, same, active, normal]
  | color _ cycling _ same => simp [layers, same, cycling]
  | nothing rests still same => simp [layers, same, rests, still]

theorem Unwinds.of_bare {s : Session} {reply : Reply (Option Effect)} (h : s.Unwinds reply)
    (bare : s.layers = 0) : reply.session = s := by
  obtain ⟨rests, still⟩ := layers_eq_zero_iff.mp bare
  cases h with
  | mode _ active => exact absurd rests active
  | color _ cycling => exact absurd still cycling
  | nothing _ _ same => exact same

def escapes (n : ℕ) : List Event := List.replicate n (.key .escape)

theorem run_escapes_succ (s : Session) (n : ℕ) :
    s.run (escapes (n + 1)) = (s.handleKey .escape).session.run (escapes n) := rfl

theorem run_escapes {s : Session} (reachable : Reachable s) (live : s.halted = false) (n : ℕ) :
    (s.run (escapes n)).halted = false ∧ (s.run (escapes n)).layers = s.layers - n ∧
      ((s.run (escapes n)).mode = s.mode ∨
        ¬ s.mode.Rests ∧ (s.run (escapes n)).mode = .normal) := by
  induction n generalizing s with
  | zero => exact ⟨live, rfl, .inl rfl⟩
  | succ n ih =>
    have first := handleKey_escape_unwinds reachable live
    obtain ⟨stillLive, fewer, mode⟩ :=
      ih (reachable.step (.key .escape)) (first.frame.2.2.2.trans live)
    rw [run_escapes_succ]
    refine ⟨stillLive, ?_, ?_⟩
    · rw [step_key, first.layers_eq] at fewer
      omega
    · rcases first.mode_eq_or with kept | ⟨active, left⟩
      · rwa [step_key, kept] at mode
      · rw [step_key, left] at mode
        exact .inr ⟨active, mode.elim id fun later => later.2⟩

theorem run_escapes_of_bare {s : Session} (reachable : Reachable s) (live : s.halted = false)
    (bare : s.layers = 0) (n : ℕ) : s.run (escapes n) = s := by
  induction n with
  | zero => rfl
  | succ n ih => rw [run_escapes_succ, (handleKey_escape_unwinds reachable live).of_bare bare, ih]

theorem run_escapes_two {s : Session} (reachable : Reachable s) (live : s.halted = false) :
    (s.run (escapes 2)).halted = false ∧ (s.run (escapes 2)).layers = 0 := by
  obtain ⟨stillLive, fewer, -⟩ := run_escapes reachable live 2
  have few := s.layers_le_two
  exact ⟨stillLive, by omega⟩

theorem run_escapes_of_two_le {s : Session} (reachable : Reachable s) (live : s.halted = false)
    {n : ℕ} (enough : 2 ≤ n) : s.run (escapes n) = s.run (escapes 2) := by
  obtain ⟨more, rfl⟩ := Nat.exists_eq_add_of_le enough
  obtain ⟨stillLive, bare⟩ := run_escapes_two reachable live
  rw [escapes, List.replicate_add, run_append]
  exact run_escapes_of_bare (reachable.run _) stillLive bare more

/-- From every reachable session, Escape leaves the files, the working folder, the source of chance,
the clock, the loading bar and the shutdown sequence unchanged, and never ends the naming of a
script. It ends at most one thing: autocode before the color cycle, whose end alone has an effect,
and any other mode after it. If it ends something, the input is empty and one row is shown;
otherwise nothing changes. Two Escapes end everything, and further ones change nothing. -/
theorem escapes_unwind_layers {s : Session} (reachable : Reachable s) (live : s.halted = false) :
    (let reply := s.handleKey .escape
      let t := reply.session
      t.toSurroundings = s.toSurroundings ∧ t.loading = s.loading ∧ t.shutdown = s.shutdown ∧
        t.halted = s.halted ∧ (∀ lines, s.mode = .naming lines → t.mode = .naming lines) ∧
        (t.mode = s.mode ∨ t.color = s.color) ∧
        (t.mode ≠ s.mode ↔ ¬ s.mode.Rests ∧ (s.mode.IsAutocoding ∨ s.color = none)) ∧
        (t.color ≠ s.color ↔ s.color ≠ none ∧ ¬ s.mode.IsAutocoding) ∧
        (t.mode ≠ s.mode → t.mode = .normal) ∧
        reply.answer = (if t.color = s.color then none else some .stopColorCycle) ∧
        (t.mode ≠ s.mode ∨ t.color ≠ s.color →
          t.input = "" ∧ ∃ text, t.log = s.log.pushRow (.info text)) ∧
        (t.mode = s.mode → t.color = s.color → t = s)) ∧
      ∀ n, 2 ≤ n →
        let t := s.run (escapes n)
        t = s.run (escapes 2) ∧ t.color = none ∧
          (∀ lines, s.mode = .naming lines → t.mode = .naming lines) ∧
          ((∀ lines, s.mode ≠ .naming lines) → t.mode = .normal) := by
  have unwinds := handleKey_escape_unwinds reachable live
  constructor
  · obtain ⟨surroundings, loading, shutdown, halted⟩ := unwinds.frame
    exact ⟨surroundings, loading, shutdown, halted,
      fun _ naming => Mode.naming_of_eq_or unwinds.mode_eq_or naming,
      unwinds.mode_or_color_kept, unwinds.mode_ne_iff, unwinds.color_ne_iff,
      fun left => (unwinds.mode_eq_or.resolve_left left).2,
      unwinds.answer_eq, unwinds.shows, unwinds.unchanged⟩
  · intro n enough t
    have same : t = s.run (escapes 2) := run_escapes_of_two_le reachable live enough
    obtain ⟨-, bare⟩ := run_escapes_two reachable live
    obtain ⟨rests, still⟩ := layers_eq_zero_iff.mp bare
    rw [← same] at rests still
    obtain ⟨-, -, mode⟩ := run_escapes reachable live n
    refine ⟨same, still, fun _ naming => Mode.naming_of_eq_or mode naming, ?_⟩
    intro unnamed
    rcases mode with kept | ⟨-, left⟩
    · have resting : s.mode.Rests := kept ▸ rests
      cases before : s.mode with
      | normal => exact kept.trans before
      | naming lines => exact absurd before (unnamed lines)
      | editing | collecting | guessing | autocoding => simp [before, Mode.Rests] at resting
    · exact left

/-- The naming of a script outlasts five Escapes over a color cycle, which the first one ends. -/
theorem escapes_unwind_layers_naming :
    let s := (start .empty (.ofWords [7]) "noon").run
      (.command "colorcycle" :: .command "script" :: ["ls", "."].flatMap entering)
    (s.handleKey .escape).answer = some .stopColorCycle ∧
      (s.handleKey .escape).session.mode = .naming ["ls"] ∧
      (s.run (escapes 5)).color = none ∧ (s.run (escapes 5)).mode = .naming ["ls"] := by
  intro s
  have reachable : Reachable s := (Reachable.start _ _ _).run _
  obtain ⟨live, naming, cycling⟩ :
      s.halted = false ∧ s.mode = .naming ["ls"] ∧ s.color.isSome = true := by decide +kernel
  obtain ⟨⟨-, -, -, -, kept, -, -, color, -, answer, -⟩, many⟩ :=
    escapes_unwind_layers reachable live
  obtain ⟨-, still, keptByMany, -⟩ := many 5 (by decide)
  have changed := color.mpr
    ⟨Option.ne_none_iff_isSome.mpr cycling, fun ⟨player, playing⟩ => by simp [naming] at playing⟩
  exact ⟨answer.trans (if_neg changed), kept _ naming, still, keptByMany _ naming⟩

end Session
end VirtualTerminal
