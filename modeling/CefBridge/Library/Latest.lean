import CefBridge.Library.Runs

/-!
# The last item that names a key

Each item of a history may name keys. If an item alone decides what is read at the
keys that it names, and changes nothing that is read at other keys, then what is
read at a key after a history is decided by the last item that names it.
-/

namespace Library.Latest

open Runs

universe u v w x
variable {Key : Type u} {Item : Type v} (names : Item → Key → Prop)
  [∀ item key, Decidable (names item key)]

/-- The last item that names a key. -/
def latest (key : Key) (items : List Item) : Option Item :=
  (items.filter fun item => names item key).getLast?

@[simp] theorem latest_nil (key : Key) : latest names key [] = none := rfl

variable {names}

theorem latest_same {key : Key} {item : Item} (named : names item key) (items : List Item) :
    latest names key (items ++ [item]) = some item := by
  simp [latest, named]

theorem latest_other {key : Key} {item : Item} (unnamed : ¬ names item key) (items : List Item) :
    latest names key (items ++ [item]) = latest names key items := by
  simp [latest, unnamed]

section Reading

variable {State : Type w} {Value : Type x} (step : State → Item → State)
  (read : State → Key → Value) (effect : Item → Value)

/-- What is read at a key is what the last item that names it makes of it. -/
theorem read_run
    (sets : ∀ state item key, names item key → read (step state item) key = effect item)
    (keeps : ∀ state item key, ¬ names item key → read (step state item) key = read state key)
    (start : State) (items : List Item) (key : Key) :
    read (run step start items) key = ((latest names key items).map effect).getD (read start key) := by
  induction items using List.reverseRecOn with
  | nil => rfl
  | append_singleton items item ih =>
    rw [run_concat]
    by_cases named : names item key
    · rw [sets _ item key named, latest_same named]
      rfl
    · rw [keeps _ item key named, latest_other named, ih]

end Reading

end Library.Latest
