import CefBridge.Library.Runs
import Mathlib.Logic.Function.Basic

/-!
# Reference counts across a boundary

A ledger has the count of every object, the references that the other side of a
boundary holds, and how often a pointer to the object was given out. Code is a
list of operations on the ledger: what a smart pointer does when it is made and
when it goes out of scope, what the other side takes and drops, and what is given
out.

The references that nobody on the other side holds change by the operations
alone, so their number after any code is a sum over that code. While an object is
referenced, no operation but a deletion by hand destroys it before its count is zero.
-/

namespace Library.RefCount

open Runs

universe u
variable {Object : Type u}

structure Ledger (Object : Type u) where
  count : Object → Int
  /-- References of the other side. -/
  held : Object → Nat
  /-- How often a pointer was given out. -/
  returned : Object → Nat
  destroyed : Object → Nat

/-- Nothing is counted yet. -/
def Ledger.empty : Ledger Object := ⟨fun _ => 0, fun _ => 0, fun _ => 0, fun _ => 0⟩

/-- The references that do not belong to the other side. -/
def Ledger.own (ledger : Ledger Object) (object : Object) : Int :=
  ledger.count object - ledger.held object

/-- Every receiver of a pointer has a reference, and so has the other side for all
that it holds. -/
def Ledger.Referenced (ledger : Ledger Object) (object : Object) : Prop :=
  (ledger.returned object : Int) + ledger.held object ≤ ledger.count object

instance (ledger : Ledger Object) (object : Object) : Decidable (ledger.Referenced object) :=
  inferInstanceAs (Decidable (_ ≤ _))

theorem referenced_iff_own (ledger : Ledger Object) (object : Object) :
    ledger.Referenced object ↔ (ledger.returned object : Int) ≤ ledger.own object := by
  rw [Ledger.Referenced, Ledger.own]
  omega

inductive Operation (Object : Type u) where
  | addRef (object : Object)
  | release (object : Object)
  | take (object : Object)
  | drop (object : Object)
  | giveOut (object : Object)
  | delete (object : Object)
  deriving DecidableEq

section Operations

variable [DecidableEq Object]

def Ledger.addRef (ledger : Ledger Object) (object : Object) : Ledger Object :=
  { ledger with count := Function.update ledger.count object (ledger.count object + 1) }

/-- An object goes with its last reference. -/
def Ledger.release (ledger : Ledger Object) (object : Object) : Ledger Object :=
  let left := ledger.count object - 1
  { ledger with
    count := Function.update ledger.count object left
    destroyed :=
      if left = 0 then Function.update ledger.destroyed object (ledger.destroyed object + 1)
      else ledger.destroyed }

/-- The other side drops only what it holds. -/
def Ledger.perform (ledger : Ledger Object) : Operation Object → Ledger Object
  | .addRef object => ledger.addRef object
  | .release object => ledger.release object
  | .take object =>
    { ledger.addRef object with
      held := Function.update ledger.held object (ledger.held object + 1) }
  | .drop object =>
    if ledger.held object = 0 then ledger
    else
      { ledger.release object with
        held := Function.update ledger.held object (ledger.held object - 1) }
  | .giveOut object =>
    { ledger with returned := Function.update ledger.returned object (ledger.returned object + 1) }
  | .delete object =>
    { ledger with destroyed := Function.update ledger.destroyed object (ledger.destroyed object + 1) }

/-- The ledger after some code. -/
abbrev Ledger.performAll (ledger : Ledger Object) (code : List (Operation Object)) : Ledger Object :=
  run Ledger.perform ledger code

/-- What an operation adds to the own references of an object. -/
def Operation.added (object : Object) : Operation Object → Int
  | .addRef other => if other = object then 1 else 0
  | .release other => if other = object then -1 else 0
  | _ => 0

/-- How often an operation gives an object out. -/
def Operation.given (object : Object) : Operation Object → Nat
  | .giveOut other => if other = object then 1 else 0
  | _ => 0

theorem own_perform (ledger : Ledger Object) (operation : Operation Object) (object : Object) :
    (ledger.perform operation).own object = ledger.own object + operation.added object := by
  cases operation with
  | addRef other =>
    by_cases same : other = object
    · subst same
      simp only [Ledger.perform, Ledger.addRef, Ledger.own, Operation.added, Function.update_self, if_true]
      omega
    · simp [Ledger.perform, Ledger.addRef, Ledger.own, Operation.added, same, Ne.symm same]
  | release other =>
    by_cases same : other = object
    · subst same
      simp only [Ledger.perform, Ledger.release, Ledger.own, Operation.added, Function.update_self, if_true]
      omega
    · simp [Ledger.perform, Ledger.release, Ledger.own, Operation.added, same, Ne.symm same]
  | take other =>
    by_cases same : other = object
    · subst same
      simp only [Ledger.perform, Ledger.addRef, Ledger.own, Operation.added, Function.update_self]
      omega
    · simp [Ledger.perform, Ledger.addRef, Ledger.own, Operation.added, Ne.symm same]
  | drop other =>
    by_cases none : ledger.held other = 0
    · simp [Ledger.perform, Ledger.own, Operation.added, none]
    · by_cases same : other = object
      · subst same
        simp only [Ledger.perform, Ledger.release, Ledger.own, Operation.added, none, if_false,
          Function.update_self]
        omega
      · simp [Ledger.perform, Ledger.release, Ledger.own, Operation.added, none, Ne.symm same]
  | giveOut other => simp [Ledger.perform, Ledger.own, Operation.added]
  | delete other => simp [Ledger.perform, Ledger.own, Operation.added]

theorem returned_perform (ledger : Ledger Object) (operation : Operation Object) (object : Object) :
    (ledger.perform operation).returned object = ledger.returned object + operation.given object := by
  cases operation with
  | giveOut other =>
    by_cases same : other = object
    · subst same
      simp [Ledger.perform, Operation.given]
    · simp [Ledger.perform, Operation.given, same, Ne.symm same]
  | drop other =>
    by_cases none : ledger.held other = 0
    · simp [Ledger.perform, Operation.given, none]
    · simp [Ledger.perform, Ledger.release, Operation.given, none]
  | addRef other => rfl
  | release other => rfl
  | take other => rfl
  | delete other => rfl

/-- What code adds to the own references of an object. -/
def added (object : Object) : List (Operation Object) → Int
  | [] => 0
  | operation :: code => operation.added object + added object code

/-- How often code gives an object out. -/
def given (object : Object) : List (Operation Object) → Nat
  | [] => 0
  | operation :: code => operation.given object + given object code

theorem own_performAll (ledger : Ledger Object) (code : List (Operation Object)) (object : Object) :
    (ledger.performAll code).own object = ledger.own object + added object code := by
  induction code generalizing ledger with
  | nil => simp [added]
  | cons operation code ih =>
    rw [Ledger.performAll, run_cons, ih, own_perform, added]
    omega

theorem returned_performAll (ledger : Ledger Object) (code : List (Operation Object))
    (object : Object) :
    (ledger.performAll code).returned object = ledger.returned object + given object code := by
  induction code generalizing ledger with
  | nil => simp [given]
  | cons operation code ih =>
    rw [Ledger.performAll, run_cons, ih, returned_perform, given]
    omega

end Operations

section Pointers

variable [DecidableEq Object]

/-- Code in the scope of a smart pointer. -/
def withRef (object : Object) (code : List (Operation Object)) : List (Operation Object) :=
  .addRef object :: code ++ [.release object]

@[simp] theorem added_nil (object : Object) : added object [] = 0 := rfl

@[simp] theorem given_nil (object : Object) : given object [] = 0 := rfl

@[simp] theorem added_cons (object : Object) (operation : Operation Object)
    (code : List (Operation Object)) :
    added object (operation :: code) = operation.added object + added object code := rfl

@[simp] theorem given_cons (object : Object) (operation : Operation Object)
    (code : List (Operation Object)) :
    given object (operation :: code) = operation.given object + given object code := rfl

@[simp] theorem added_append (object : Object) (first second : List (Operation Object)) :
    added object (first ++ second) = added object first + added object second := by
  induction first with
  | nil => simp
  | cons operation code ih =>
    rw [List.cons_append, added_cons, added_cons, ih, Int.add_assoc]

@[simp] theorem given_append (object : Object) (first second : List (Operation Object)) :
    given object (first ++ second) = given object first + given object second := by
  induction first with
  | nil => simp
  | cons operation code ih =>
    rw [List.cons_append, given_cons, given_cons, ih, Nat.add_assoc]

/-- A smart pointer leaves no reference behind. -/
@[simp] theorem added_withRef (object other : Object) (code : List (Operation Object)) :
    added object (withRef other code) = added object code := by
  by_cases same : other = object
  · simp only [withRef, List.cons_append, added_cons, added_append, added_nil, Operation.added, same,
      if_true]
    omega
  · simp [withRef, Operation.added, same]

@[simp] theorem given_withRef (object other : Object) (code : List (Operation Object)) :
    given object (withRef other code) = given object code := by
  simp [withRef, Operation.given]

/-- Code adds a reference to an object each time it gives it out. -/
def Covered (object : Object) (code : List (Operation Object)) : Prop :=
  (given object code : Int) ≤ added object code

theorem Covered.nil (object : Object) : Covered object [] := by simp [Covered]

theorem Covered.append {object : Object} {first second : List (Operation Object)}
    (one : Covered object first) (two : Covered object second) : Covered object (first ++ second) := by
  simp only [Covered, given_append, added_append] at *
  omega

theorem Covered.withRef {object : Object} {code : List (Operation Object)}
    (covered : Covered object code) (other : Object) : Covered object (withRef other code) := by
  simpa [Covered] using covered

end Pointers

section Lifetime

variable [DecidableEq Object]

def Operation.object : Operation Object → Object
  | .addRef object => object
  | .release object => object
  | .take object => object
  | .drop object => object
  | .giveOut object => object
  | .delete object => object

theorem addRef_other (ledger : Ledger Object) {object other : Object} (different : object ≠ other) :
    (ledger.addRef other).count object = ledger.count object := by
  simp [Ledger.addRef, different]

theorem release_other (ledger : Ledger Object) {object other : Object} (different : object ≠ other) :
    (ledger.release other).count object = ledger.count object ∧
      (ledger.release other).destroyed object = ledger.destroyed object := by
  by_cases last : ledger.count other - 1 = 0
  · simp [Ledger.release, last, different]
  · simp [Ledger.release, last, different]

/-- An operation leaves all other objects alone. -/
theorem perform_other (ledger : Ledger Object) {operation : Operation Object} {object : Object}
    (different : object ≠ operation.object) :
    (ledger.perform operation).count object = ledger.count object ∧
      (ledger.perform operation).held object = ledger.held object ∧
      (ledger.perform operation).destroyed object = ledger.destroyed object := by
  cases operation with
  | addRef other => exact ⟨addRef_other ledger different, rfl, rfl⟩
  | release other =>
    obtain ⟨count, destroyed⟩ := release_other ledger different
    exact ⟨count, rfl, destroyed⟩
  | take other =>
    exact ⟨addRef_other ledger different, Function.update_of_ne different _ _, rfl⟩
  | drop other =>
    rw [Ledger.perform]
    split
    · exact ⟨rfl, rfl, rfl⟩
    · obtain ⟨count, destroyed⟩ := release_other ledger different
      exact ⟨count, Function.update_of_ne different _ _, destroyed⟩
  | giveOut other => exact ⟨rfl, rfl, rfl⟩
  | delete other => exact ⟨rfl, rfl, Function.update_of_ne different _ _⟩

/-- An object is destroyed once its count is zero again, and not before. -/
def Ledger.Settled (ledger : Ledger Object) (object : Object) : Prop :=
  ledger.destroyed object = if ledger.count object = 0 then 1 else 0

theorem settled_addRef {ledger : Ledger Object} {object : Object}
    (counted : 0 ≤ ledger.count object) (present : ledger.destroyed object = 0) :
    (ledger.addRef object).Settled object := by
  have more : ledger.count object + 1 ≠ 0 := by omega
  simp [Ledger.Settled, Ledger.addRef, present, more]

theorem settled_release {ledger : Ledger Object} {object : Object}
    (present : ledger.destroyed object = 0) : (ledger.release object).Settled object := by
  by_cases last : ledger.count object - 1 = 0
  · simp [Ledger.Settled, Ledger.release, last, present]
  · simp [Ledger.Settled, Ledger.release, last, present]

/-- An object that is referenced stays settled unless it is deleted by hand. -/
theorem settled_perform {ledger : Ledger Object} {operation : Operation Object} {object : Object}
    (settled : ledger.Settled object) (referenced : 0 < ledger.count object)
    (kept : operation ≠ .delete object) : (ledger.perform operation).Settled object := by
  have present : ledger.destroyed object = 0 := by
    rw [settled, if_neg (by omega)]
  by_cases same : operation.object = object
  · cases operation with
    | addRef other =>
      have own : other = object := same
      subst own
      exact settled_addRef (by omega) present
    | release other =>
      have own : other = object := same
      subst own
      exact settled_release present
    | take other =>
      have own : other = object := same
      subst own
      exact settled_addRef (by omega) present
    | drop other =>
      have own : other = object := same
      subst own
      by_cases none : ledger.held other = 0
      · rw [Ledger.perform, if_pos none]
        exact settled
      · have released : (ledger.release other).Settled other := settled_release present
        rw [Ledger.perform, if_neg none]
        exact released
    | giveOut other => exact settled
    | delete other =>
      have own : other = object := same
      exact absurd (congrArg Operation.delete own) kept
  · obtain ⟨count, -, destroyed⟩ := perform_other ledger (Ne.symm same)
    rw [Ledger.Settled, count, destroyed]
    exact settled

/-- From no point on does code add more references to an object than it releases. -/
def Closing (object : Object) (code : List (Operation Object)) : Prop :=
  ∀ left, left <:+ code → added object left ≤ 0

theorem closing_take (object other : Object) : Closing object [.take other] := by
  intro left suffix
  rcases List.suffix_cons_iff.mp suffix with rfl | rest
  · simp [Operation.added]
  · rw [List.suffix_nil.mp rest]
    exact Int.le_refl 0

omit [DecidableEq Object] in
/-- What is left of code in the scope of a smart pointer. -/
theorem suffix_withRef {object : Object} {code left : List (Operation Object)}
    (suffix : left <:+ withRef object code) :
    left = withRef object code ∨ left = [] ∨ ∃ rest, rest <:+ code ∧ left = rest ++ [.release object] := by
  rw [withRef, List.cons_append] at suffix
  rcases List.suffix_cons_iff.mp suffix with whole | inner
  · exact .inl whole
  · rcases List.suffix_concat_iff.mp inner with none | ⟨rest, same, within⟩
    · exact .inr (.inl none)
    · exact .inr (.inr ⟨rest, within, same⟩)

/-- A smart pointer still has its reference to release. -/
theorem Closing.added_left {object : Object} {code left : List (Operation Object)}
    (closing : Closing object code) (suffix : left <:+ withRef object code)
    (begun : left ≠ withRef object code) (unfinished : left ≠ []) : added object left < 0 := by
  rcases suffix_withRef suffix with whole | none | ⟨rest, within, rfl⟩
  · exact absurd whole begun
  · exact absurd none unfinished
  · have balance := closing rest within
    simp only [added_append, added_cons, added_nil, Operation.added, if_true]
    omega

theorem Closing.withRef {object : Object} {code : List (Operation Object)}
    (closing : Closing object code) (other : Object) : Closing object (withRef other code) := by
  intro left suffix
  rcases suffix_withRef suffix with rfl | rfl | ⟨rest, within, rfl⟩
  · rw [added_withRef]
    exact closing code (List.suffix_refl code)
  · exact Int.le_refl 0
  · have balance := closing rest within
    simp only [added_append, added_cons, added_nil, Operation.added]
    split
    · omega
    · omega

end Lifetime

end Library.RefCount
