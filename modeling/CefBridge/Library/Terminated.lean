import Mathlib.Data.List.TakeWhile

/-!
# Terminated text in memory

A text can lie in memory with a stop symbol behind it, without its length. What
is read back ends before the first stop symbol. A bounded copy puts a text and
the stop symbol into a buffer if both fit, and only the stop symbol if not.

Memory is the list of symbols from an address to the end of what can be read.
-/

namespace Library.Terminated

universe u
variable {Symbol : Type u} (stop : Symbol)

/-- The text before the first stop symbol. -/
def read [DecidableEq Symbol] (memory : List Symbol) : List Symbol := memory.takeWhile (· ≠ stop)

/-- Copy a text into a buffer of a given size. -/
def copy (size : Nat) (text memory : List Symbol) : List Symbol :=
  if text.length + 1 ≤ size then text ++ stop :: memory.drop (text.length + 1)
  else stop :: memory.drop 1

variable {stop}

section Read

variable [DecidableEq Symbol]

theorem stop_notMem_read (memory : List Symbol) : stop ∉ read stop memory := by
  intro member
  simpa using List.mem_takeWhile_imp member

theorem differs {text : List Symbol} (free : stop ∉ text) :
    ∀ symbol ∈ text, decide (symbol ≠ stop) = true := by
  intro symbol member
  have different : symbol ≠ stop := fun same => free (same ▸ member)
  simpa using different

/-- A text without the stop symbol is read back whole. -/
theorem read_terminated {text : List Symbol} (free : stop ∉ text) (rest : List Symbol) :
    read stop (text ++ stop :: rest) = text := by
  rw [read, List.takeWhile_append_of_pos (differs free)]
  simp

/-- A terminated text is read back exactly when it has no stop symbol. -/
theorem read_terminated_iff (text rest : List Symbol) :
    read stop (text ++ stop :: rest) = text ↔ stop ∉ text := by
  constructor
  · intro same
    rw [← same]
    exact stop_notMem_read _
  · intro free
    exact read_terminated free rest

/-- A stop symbol at the end changes nothing. -/
theorem read_append_stop (memory : List Symbol) : read stop (memory ++ [stop]) = read stop memory := by
  induction memory with
  | nil => simp [read]
  | cons symbol memory ih =>
    by_cases same : symbol = stop
    · simp [read, same]
    · simpa [read, same] using ih

/-- A memory with as many symbols as a text is read as that text exactly when it
is that text, without the stop symbol. -/
theorem read_eq_iff {memory text : List Symbol} (length : memory.length = text.length) :
    read stop memory = text ↔ memory = text ∧ stop ∉ text := by
  constructor
  · intro same
    have start : text <+: memory := same ▸ List.takeWhile_prefix _
    have free : stop ∉ text := same ▸ stop_notMem_read memory
    exact ⟨(start.eq_of_length length.symm).symm, free⟩
  · rintro ⟨rfl, free⟩
    exact List.takeWhile_eq_self_iff.mpr (differs free)

end Read

section Copy

variable {size : Nat} {text : List Symbol} (memory : List Symbol)

theorem copy_fits (fits : text.length < size) :
    copy stop size text memory = text ++ stop :: memory.drop (text.length + 1) := by
  rw [copy, if_pos (by omega)]

theorem copy_refused (long : size ≤ text.length) :
    copy stop size text memory = stop :: memory.drop 1 := by
  rw [copy, if_neg (by omega)]

/-- A copied text is read back exactly when it is shorter than the buffer. -/
theorem read_copy_iff [DecidableEq Symbol] (free : stop ∉ text) (room : 0 < size) :
    read stop (copy stop size text memory) = text ↔ text.length < size := by
  constructor
  · intro same
    by_contra long
    rw [copy_refused memory (by omega)] at same
    have empty : text = [] := by rw [← same]; simp [read]
    simp [empty, room] at long
  · intro fits
    rw [copy_fits memory fits]
    exact read_terminated free _

/-- As many symbols as a copied text has are that text. -/
theorem take_copy (fits : text.length < size) :
    (copy stop size text memory).take text.length = text := by
  rw [copy_fits memory fits, List.take_left]

/-- No number of symbols is a text that was too long to be copied. -/
theorem take_copy_ne (free : stop ∉ text) (room : 0 < size) (long : size ≤ text.length)
    (count : Nat) : (copy stop size text memory).take count ≠ text := by
  intro same
  rw [copy_refused memory long] at same
  cases count with
  | zero =>
    have empty : text = [] := same.symm
    simp [empty] at long
    omega
  | succ count => exact free (same ▸ List.mem_cons_self)

end Copy

end Library.Terminated
