/-! # Chance

A source of random numbers, given by draws below requested bounds. A generator of 32-bit words is
such a source: it scales a word to the bound and skips the words of the last, unfinished part of the
range, so that all numbers are equally likely. -/
namespace VirtualTerminal

/-- A source by its draws: `next asked bound` is drawn below the bound, after draws below the bounds
in `asked`. -/
structure Chance where
  next : List Nat → Nat → Nat
  next_lt : ∀ (asked : List Nat) {bound : Nat}, 0 < bound → next asked bound < bound

namespace Chance

/-- A number below the bound, and the source after it. -/
def draw (bound : Nat) (source : Chance) : Nat × Chance :=
  (source.next [] bound,
    ⟨fun asked => source.next (bound :: asked), fun asked => source.next_lt (bound :: asked)⟩)

theorem draw_lt {bound : Nat} (h : 0 < bound) (source : Chance) : (source.draw bound).1 < bound :=
  source.next_lt [] h

/-- The source that a generator is in one of its states. -/
def ofGenerator {σ : Type} (draw : Nat → σ → Nat × σ)
    (draw_lt : ∀ {bound : Nat}, 0 < bound → ∀ state, (draw bound state).1 < bound) (state : σ) :
    Chance where
  next asked bound := (draw bound (asked.foldl (fun state bound => (draw bound state).2) state)).1
  next_lt _ _ h := draw_lt h _

/-- The largest low half of a product that is still accepted: the bound, shifted until its highest
bit is the highest of 32, less one. -/
def zone (bound : Nat) : Nat := bound <<< (31 - bound.log2) - 1

/-- A number below the bound, and the words that are left. Without a word it is 0. -/
def drawWord (bound : Nat) : List UInt32 → Nat × List UInt32
  | [] => (0, [])
  | word :: rest =>
    let product := word.toNat * bound
    if product % UInt32.size ≤ zone bound then (product / UInt32.size, rest)
    else drawWord bound rest

theorem drawWord_lt {bound : Nat} (h : 0 < bound) (words : List UInt32) :
    (drawWord bound words).1 < bound := by
  induction words with
  | nil => exact h
  | cons word rest ih =>
    simp only [drawWord]
    split
    · have hw : word.toNat < UInt32.size := word.toNat_lt_size
      exact Nat.div_lt_of_lt_mul (Nat.mul_lt_mul_of_pos_right hw h)
    · exact ih

def ofWords (words : List UInt32) : Chance := ofGenerator drawWord drawWord_lt words

instance : Coe (List UInt32) Chance := ⟨ofWords⟩

instance {α : Type} : CoeDep (List α) [] Chance := ⟨ofWords []⟩

end Chance
end VirtualTerminal
