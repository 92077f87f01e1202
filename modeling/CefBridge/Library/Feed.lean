import Mathlib.Data.List.Induction

/-!
# Items that are taken in the order they come

A feed has the items that were taken and the items that wait. Both are kept, so that
what has come can be compared with what has been taken.
-/

namespace Library

universe u v
variable {Item : Type u} {Part : Type v}

structure Feed (Item : Type u) where
  past : List Item
  pending : List Item

namespace Feed

def empty : Feed Item := ⟨[], []⟩

/-- Every item that has come. -/
def all (feed : Feed Item) : List Item := feed.past ++ feed.pending

/-- An item comes. -/
def put (feed : Feed Item) (item : Item) : Feed Item := { feed with pending := feed.pending ++ [item] }

/-- The item that is next, and the feed when it is taken. -/
def next (feed : Feed Item) : Option (Item × Feed Item) :=
  match feed.pending with
  | [] => none
  | item :: pending => some (item, ⟨feed.past ++ [item], pending⟩)

@[simp] theorem all_empty : (empty : Feed Item).all = [] := rfl

@[simp] theorem past_empty : (empty : Feed Item).past = [] := rfl

@[simp] theorem past_put (feed : Feed Item) (item : Item) : (feed.put item).past = feed.past := rfl

@[simp] theorem all_put (feed : Feed Item) (item : Item) : (feed.put item).all = feed.all ++ [item] :=
  (List.append_assoc ..).symm

theorem prefix_all (feed : Feed Item) : feed.past <+: feed.all := List.prefix_append _ _

theorem next_past {feed after : Feed Item} {item : Item} (taken : feed.next = some (item, after)) :
    after.past = feed.past ++ [item] := by
  rw [next] at taken
  split at taken <;> cases taken
  rfl

/-- Taking an item leaves what has come as it is. -/
theorem next_all {feed after : Feed Item} {item : Item} (taken : feed.next = some (item, after)) :
    after.all = feed.all := by
  obtain ⟨past, pending⟩ := feed
  cases pending with
  | nil => cases taken
  | cons first pending =>
    cases taken
    simp [all]

theorem next_mem {feed after : Feed Item} {item : Item} (taken : feed.next = some (item, after)) :
    item ∈ feed.all := by
  rw [← next_all taken, all, next_past taken]
  simp

end Feed

end Library
