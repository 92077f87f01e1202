import Mathlib.Data.List.Basic

/-!
# Sources that are read in portions

A source gives, at each read, a part of what is left in it: as much as it likes up to
what is asked for, and nothing only at its end. Whoever reads until enough has come or
nothing comes has read what stands first in the source, whatever the portions were.
-/

namespace Library

universe u v

structure Source (Symbol : Type u) (State : Type v) where
  read : Nat → State → List Symbol × State
  rest : State → List Symbol
  whole : ∀ count state, (read count state).1 ++ rest (read count state).2 = rest state
  bounded : ∀ count state, (read count state).1.length ≤ count
  shown : ∀ count state, 0 < count → rest state ≠ [] → (read count state).1 ≠ []

namespace Source

variable {Symbol : Type u} {State : Type v} (source : Source Symbol State)

/-- Read until enough symbols have come or none comes. -/
def fill : Nat → Nat → State → List Symbol × State
  | 0, _, state => ([], state)
  | fuel + 1, count, state =>
    let part := source.read count state
    if part.1.length ≠ 0 ∧ part.1.length < count then
      let more := fill fuel (count - part.1.length) part.2
      (part.1 ++ more.1, more.2)
    else part

variable {source}

theorem read_nil {count : Nat} {state : State} (none : (source.read count state).1 = []) :
    count = 0 ∨ source.rest state = [] := by
  by_contra more
  push Not at more
  exact source.shown count state (by omega) more.2 none

/-- With one unit of fuel for each symbol, the first symbols of the source are read and
the others are left. -/
theorem fill_eq {fuel count : Nat} (enough : count < fuel) (state : State) :
    (source.fill fuel count state).1 = (source.rest state).take count ∧
      source.rest (source.fill fuel count state).2 = (source.rest state).drop count := by
  induction fuel generalizing count state with
  | zero => contradiction
  | succ fuel ih =>
    have whole := source.whole count state
    have bounded := source.bounded count state
    have none : (source.read count state).1 = [] → count = 0 ∨ source.rest state = [] := read_nil
    rw [fill]
    generalize source.read count state = part at whole bounded none ⊢
    obtain ⟨first, next⟩ := part
    simp only at whole bounded none ⊢
    split_ifs with more
    · have less : count - first.length < fuel := by omega
      obtain ⟨read, left⟩ := ih less next
      rw [read, left, ← whole, List.take_append, List.drop_append, List.take_of_length_le bounded,
        List.drop_of_length_le bounded, List.nil_append]
      exact ⟨rfl, rfl⟩
    · by_cases empty : first = []
      · subst empty
        rw [List.nil_append] at whole
        rcases none rfl with rfl | ended
        · simp [whole]
        · simp [whole, ended]
      · have exact_length : first.length = count := by
          have shown := List.length_pos_iff.mpr empty
          omega
        rw [← whole, ← exact_length]
        simp

end Source

end Library
