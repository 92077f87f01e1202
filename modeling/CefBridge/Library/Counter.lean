import Mathlib.Algebra.Order.Ring.Int
import Mathlib.Data.Int.ModEq
import Mathlib.Data.List.Nodup

/-!
# Counters that wrap and leave a number out

Numbers are handed out by counting up in two's complement. Zero is reserved: where
the count comes to it, the next number is taken.

The numbers are all different until the count has gone round, which is after one
number less than there are.
-/

namespace Library.Counter

variable (width : Nat)

/-- Keep a number within the width. -/
def wrap (value : Int) : Int := value.bmod (2 ^ width)

/-- The number after another. -/
def next (last : Int) : Int :=
  let id := wrap width (last + 1)
  if id = 0 then wrap width (id + 1) else id

/-- The last of so many numbers. -/
def nth : Nat → Int
  | 0 => 0
  | count + 1 => next width (nth count)

theorem wrap_ne_zero {count : Nat} (some : 0 < count) (small : count < 2 ^ width) :
    wrap width count ≠ 0 := by
  intro zero
  have divides : ((2 ^ width : Nat) : Int) ∣ count := Int.dvd_iff_bmod_eq_zero.mpr zero
  exact absurd (Nat.le_of_dvd some (Int.natCast_dvd_natCast.mp divides)) (Nat.not_le_of_lt small)

/-- Up to the first round a number is the count, wrapped. -/
theorem nth_eq {count : Nat} (small : count < 2 ^ width) : nth width count = wrap width count := by
  induction count with
  | zero => simp [nth, wrap]
  | succ count ih =>
    have counted : wrap width (nth width count + 1) = wrap width ((count + 1 : Nat) : Int) := by
      rw [ih (Nat.lt_of_succ_lt small)]
      simp [wrap, Int.bmod_add_bmod]
    rw [nth, next, counted]
    exact if_neg (wrap_ne_zero width count.succ_pos small)

/-- Up to the first round all numbers are different. -/
theorem nth_inj {count other : Nat} (small : count < 2 ^ width) (less : other < 2 ^ width)
    (same : nth width count = nth width other) : count = other := by
  rw [nth_eq width small, nth_eq width less] at same
  have alike : (count : Int) % ((2 ^ width : Nat) : Int) = other % ((2 ^ width : Nat) : Int) := by
    have wrapped := congrArg (· % ((2 ^ width : Nat) : Int)) same
    simpa only [wrap, Int.bmod_emod] using wrapped
  have counted : count % 2 ^ width = other % 2 ^ width := by exact_mod_cast alike
  rwa [Nat.mod_eq_of_lt small, Nat.mod_eq_of_lt less] at counted

/-- The numbers that have been handed out. -/
def numbers (count : Nat) : List Int := (List.range count).map fun index => nth width (index + 1)

theorem numbers_succ (count : Nat) : numbers width (count + 1) = numbers width count ++ [nth width (count + 1)] := by
  simp [numbers, List.range_succ]

theorem numbers_nodup {count : Nat} (small : count < 2 ^ width) : (numbers width count).Nodup := by
  refine List.Nodup.map_on ?_ List.nodup_range
  intro index member other others same
  have first := List.mem_range.mp member
  have second := List.mem_range.mp others
  exact Nat.succ.inj (nth_inj width (by omega) (by omega) same)

/-- The next number is a new one. -/
theorem next_not_mem {count : Nat} (small : count + 1 < 2 ^ width) :
    nth width (count + 1) ∉ numbers width count := by
  have distinct := numbers_nodup width small
  rw [numbers_succ] at distinct
  exact fun member => List.disjoint_of_nodup_append distinct member (List.mem_singleton_self _)

end Library.Counter
