import Mathlib.Data.List.Pairwise
import Mathlib.Data.List.Sublists
import Mathlib.Order.Lattice

/-!
# Maps whose entries stand in the order of their keys

A map holds at most one value for a key. Inserting under a key that is there
already changes nothing.

`sweep` walks over a list from its start. At each item it may keep the item, put
another one in its place or take it out, and it may stop. A map is swept along its
entries, whose keys stay what they are. `sweep_select` and `sweep_select_first` say
what is left by a walk that takes out what it is looking for, to the end or once.
-/

namespace Library

universe u v w

section Sweep

variable {State : Type u} {Item : Type v}
  (visit : State → Item → State × Option Item × Bool)

/-- Walk over a list, with a state. A visit says what stands in the place of the item
afterwards, and whether to go on. -/
def sweep : State → List Item → State × List Item × Bool
  | state, [] => (state, [], true)
  | state, item :: items =>
    let (state, kept, keepgoing) := visit state item
    if keepgoing then
      let (state, others, keepgoing) := sweep state items
      (state, kept.toList ++ others, keepgoing)
    else (state, kept.toList ++ items, false)

theorem sweep_append (state : State) (front back : List Item) :
    sweep visit state (front ++ back) =
      let (state, kept, keepgoing) := sweep visit state front
      if keepgoing then
        let (state, others, keepgoing) := sweep visit state back
        (state, kept ++ others, keepgoing)
      else (state, kept ++ back, false) := by
  induction front generalizing state with
  | nil => rfl
  | cons item items ih =>
    rw [List.cons_append, sweep, sweep]
    cases more : (visit state item).2.2 with
    | false => simp [more]
    | true =>
      simp only [more, if_true, ih]
      cases (sweep visit (visit state item).1 items).2.2 <;> simp

/-- Items that no visit touches are passed. -/
theorem sweep_pass {state : State} {items : List Item}
    (untouched : ∀ item ∈ items, visit state item = (state, some item, true)) :
    sweep visit state items = (state, items, true) := by
  induction items with
  | nil => rfl
  | cons item items ih =>
    have later := ih fun other member => untouched other (List.mem_cons_of_mem item member)
    simp [sweep, untouched item List.mem_cons_self, later]

/-- A walk depends on the visits of the items that are there. -/
theorem sweep_congr {other : State → Item → State × Option Item × Bool} {items : List Item}
    (same : ∀ state, ∀ item ∈ items, visit state item = other state item) (state : State) :
    sweep visit state items = sweep other state items := by
  induction items generalizing state with
  | nil => rfl
  | cons item items ih =>
    have later := ih fun state other member => same state other (List.mem_cons_of_mem item member)
    simp [sweep, same state item List.mem_cons_self, later]

/-- What a walk leaves keeps its order if every visit keeps a feature of the items. -/
theorem sweep_sublist {Feature : Type w} (feature : Item → Feature)
    (same : ∀ state item kept, (visit state item).2.1 = some kept → feature kept = feature item)
    (state : State) (items : List Item) :
    ((sweep visit state items).2.1.map feature).Sublist (items.map feature) := by
  have first : ∀ state item, ((visit state item).2.1.toList.map feature).Sublist [feature item] := by
    intro state item
    cases kept : (visit state item).2.1 with
    | none => exact List.nil_sublist _
    | some other => simp [same state item other kept]
  induction items generalizing state with
  | nil => exact List.Sublist.refl _
  | cons item items ih =>
    rw [sweep, List.map_cons, ← List.singleton_append]
    cases more : (visit state item).2.2 with
    | false =>
      simp only [more, Bool.false_eq_true, if_false, List.map_append]
      exact (first state item).append (List.Sublist.refl _)
    | true =>
      simp only [more, if_true, List.map_append]
      exact (first state item).append (ih _)

/-- What every visit keeps holds of all that a walk leaves. -/
theorem sweep_forall {good : Item → Prop}
    (keeps : ∀ state item kept, good item → (visit state item).2.1 = some kept → good kept)
    (state : State) (items : List Item) (all : ∀ item ∈ items, good item) :
    ∀ item ∈ (sweep visit state items).2.1, good item := by
  induction items generalizing state with
  | nil => exact List.forall_mem_nil _
  | cons first items ih =>
    have rest := fun item member => all item (List.mem_cons_of_mem first member)
    have here : ∀ item ∈ (visit state first).2.1.toList, good item := by
      intro item member
      exact keeps state first item (all first List.mem_cons_self) (Option.mem_toList.mp member)
    rw [sweep]
    cases more : (visit state first).2.2 with
    | false =>
      simp only [more, Bool.false_eq_true, if_false]
      exact List.forall_mem_append.mpr ⟨here, rest⟩
    | true =>
      simp only [more, if_true]
      exact List.forall_mem_append.mpr ⟨here, ih _ rest⟩

/-- A walk over lists of items, one list for each item of another walk, is that other
walk. -/
theorem sweep_flatMap {Other : Type w} (expand : Item → List Other)
    (fine : State → Other → State × Option Other × Bool)
    (same : ∀ state item, sweep fine state (expand item) =
      ((visit state item).1, (visit state item).2.1.toList.flatMap expand, (visit state item).2.2))
    (state : State) (items : List Item) :
    sweep fine state (items.flatMap expand) =
      ((sweep visit state items).1, (sweep visit state items).2.1.flatMap expand,
        (sweep visit state items).2.2) := by
  induction items generalizing state with
  | nil => rfl
  | cons item items ih =>
    rw [List.flatMap_cons, sweep_append, same, sweep]
    cases more : (visit state item).2.2 with
    | false => simp [more]
    | true => simp [more, ih]

section Select

variable (chosen : Item → Bool) (act : State → Item → State)

/-- Act on every chosen item and take it out. -/
def select (state : State) (item : Item) : State × Option Item × Bool :=
  if chosen item then (act state item, none, true) else (state, some item, true)

/-- Act on the first chosen item, take it out and stop. -/
def selectFirst (state : State) (item : Item) : State × Option Item × Bool :=
  if chosen item then (act state item, none, false) else (state, some item, true)

theorem sweep_select (state : State) (items : List Item) :
    sweep (select chosen act) state items =
      ((items.filter chosen).foldl act state, items.filter fun item => !chosen item, true) := by
  induction items generalizing state with
  | nil => rfl
  | cons item items ih =>
    rw [sweep]
    cases taken : chosen item <;> simp [select, taken, ih]

/-- The items are the first chosen one, if there is one, and the others. -/
theorem perm_eraseP (items : List Item) :
    items.Perm ((items.find? chosen).toList ++ items.eraseP chosen) := by
  induction items with
  | nil => exact .refl _
  | cons item items ih =>
    by_cases picked : chosen item = true
    · simp [picked]
    · rw [List.find?_cons_of_neg picked, List.eraseP_cons_of_neg picked]
      exact (ih.cons item).trans List.perm_middle.symm

theorem sweep_selectFirst (state : State) (items : List Item) :
    ((sweep (selectFirst chosen act) state items).1, (sweep (selectFirst chosen act) state items).2.1) =
      ((items.find? chosen).toList.foldl act state, items.eraseP chosen) := by
  induction items generalizing state with
  | nil => rfl
  | cons item items ih =>
    rw [sweep]
    cases taken : chosen item with
    | true => simp [selectFirst, taken]
    | false =>
      have later := ih state
      simp only [Prod.mk.injEq] at later
      simp [selectFirst, taken, later.1, later.2]

end Select

end Sweep

/-- A map, as the list of its entries. -/
structure SortedMap (Key : Type u) (Value : Type v) [LinearOrder Key] where
  entries : List (Key × Value)
  sorted : (entries.map Prod.fst).Pairwise (· < ·)

namespace SortedMap

variable {Key : Type u} {Value : Type v} [LinearOrder Key]

def empty : SortedMap Key Value := ⟨[], List.Pairwise.nil⟩

theorem ext_entries {map other : SortedMap Key Value} (same : map.entries = other.entries) :
    map = other := by
  cases map
  cases other
  cases same
  rfl

theorem nodup (map : SortedMap Key Value) : (map.entries.map Prod.fst).Nodup :=
  map.sorted.imp fun lower => ne_of_lt lower

/-- The value of a key. -/
def find (map : SortedMap Key Value) (key : Key) : Option Value :=
  (map.entries.find? fun entry => entry.1 = key).map Prod.snd

theorem find_eq_some_iff (map : SortedMap Key Value) (key : Key) (value : Value) :
    map.find key = some value ↔ (key, value) ∈ map.entries := by
  constructor
  · intro found
    obtain ⟨entry, first, same⟩ := Option.map_eq_some_iff.mp found
    have named : entry.1 = key := by simpa using List.find?_some first
    have member := List.mem_of_find?_eq_some first
    rwa [← named, ← same]
  · intro member
    cases first : map.entries.find? fun entry => entry.1 = key with
    | none =>
      have absent := List.find?_eq_none.mp first _ member
      simp at absent
    | some entry =>
      have named : entry.1 = key := by simpa using List.find?_some first
      have same : entry = (key, value) :=
        List.inj_on_of_nodup_map map.nodup (List.mem_of_find?_eq_some first) member named
      simp [find, first, same]

theorem find_eq_none_iff (map : SortedMap Key Value) (key : Key) :
    map.find key = none ↔ key ∉ map.entries.map Prod.fst := by
  rw [Option.eq_none_iff_forall_not_mem]
  simp only [Option.mem_def, find_eq_some_iff, List.mem_map, Prod.exists, exists_and_right,
    exists_eq_right, not_exists]

/-- Two maps with the same entries, in any order, are one. -/
theorem ext_mem {map other : SortedMap Key Value}
    (same : ∀ entry, entry ∈ map.entries ↔ entry ∈ other.entries) : map = other := by
  apply ext_entries
  have perm : map.entries.Perm other.entries :=
    (List.perm_ext_iff_of_nodup map.nodup.of_map other.nodup.of_map).mpr same
  refine perm.eq_of_pairwise (fun first second _ _ below above => ?_)
    (List.pairwise_map.mp map.sorted) (List.pairwise_map.mp other.sorted)
  exact absurd below (lt_asymm above)

theorem ext_find {map other : SortedMap Key Value} (same : ∀ key, map.find key = other.find key) :
    map = other := by
  apply ext_mem
  rintro ⟨key, value⟩
  rw [← find_eq_some_iff, ← find_eq_some_iff, same]

section Insert

/-- Insert an entry in front of those with higher keys. -/
def insertEntry (key : Key) (value : Value) : List (Key × Value) → List (Key × Value)
  | [] => [(key, value)]
  | entry :: entries =>
    if key < entry.1 then (key, value) :: entry :: entries
    else if key = entry.1 then entry :: entries
    else entry :: insertEntry key value entries

theorem mem_insertEntry {key : Key} {value : Value} {entries : List (Key × Value)} {entry : Key × Value}
    (member : entry ∈ insertEntry key value entries) : entry = (key, value) ∨ entry ∈ entries := by
  induction entries with
  | nil => exact .inl (List.mem_singleton.mp member)
  | cons first entries ih =>
    rw [insertEntry] at member
    split_ifs at member with lower same
    · exact List.mem_cons.mp member
    · exact .inr member
    · cases List.mem_cons.mp member with
      | inl here => exact .inr (here ▸ List.mem_cons_self)
      | inr later => exact (ih later).imp_right (List.mem_cons_of_mem first)

theorem insertEntry_sorted (key : Key) (value : Value) {entries : List (Key × Value)}
    (sorted : (entries.map Prod.fst).Pairwise (· < ·)) :
    ((insertEntry key value entries).map Prod.fst).Pairwise (· < ·) := by
  induction entries with
  | nil => simp [insertEntry]
  | cons first entries ih =>
    obtain ⟨least, rest⟩ := List.pairwise_cons.mp sorted
    rw [insertEntry]
    split_ifs with lower same
    · refine List.pairwise_cons.mpr ⟨?_, sorted⟩
      intro other member
      cases List.mem_cons.mp member with
      | inl here => exact here ▸ lower
      | inr later => exact lower.trans (least other later)
    · exact sorted
    · refine List.pairwise_cons.mpr ⟨?_, ih rest⟩
      intro other member
      obtain ⟨entry, inserted, rfl⟩ := List.mem_map.mp member
      cases mem_insertEntry inserted with
      | inl new =>
        rw [new]
        exact lt_of_le_of_ne (not_lt.mp lower) (Ne.symm same)
      | inr old => exact least _ (List.mem_map_of_mem old)

def insert (map : SortedMap Key Value) (key : Key) (value : Value) : SortedMap Key Value :=
  ⟨insertEntry key value map.entries, insertEntry_sorted key value map.sorted⟩

theorem find_insert (map : SortedMap Key Value) (key : Key) (value : Value) (other : Key) :
    (map.insert key value).find other = if other = key then some ((map.find key).getD value)
      else map.find other := by
  obtain ⟨entries, sorted⟩ := map
  simp only [find, insert]
  induction entries with
  | nil =>
    by_cases same : other = key <;> simp [insertEntry, same, eq_comm]
  | cons first entries ih =>
    obtain ⟨least, rest⟩ := List.pairwise_cons.mp sorted
    have later := ih rest
    rw [insertEntry]
    by_cases same : other = key
    · subst same
      simp only [if_true] at later ⊢
      split_ifs with lower here
      · have absent : ((first :: entries).find? fun entry => entry.1 = other) = none := by
          simp only [List.find?_eq_none, List.mem_cons, decide_eq_true_eq]
          rintro entry (rfl | member) rfl
          · exact lt_irrefl _ lower
          · exact lt_asymm lower (least _ (List.mem_map_of_mem member))
        simp [absent]
      · simp [here]
      · have different : ¬ first.1 = other := fun equal => here equal.symm
        simpa [different] using later
    · simp only [same, if_false] at later ⊢
      split_ifs with lower here
      · simp [Ne.symm same]
      · rfl
      · by_cases found : first.1 = other
        · simp [found]
        · simpa [found] using later

end Insert

section Changes

variable {State : Type w}

/-- Sweep a map along its entries. -/
def sweep (visit : State → Key → Value → State × Option Value × Bool) (state : State)
    (map : SortedMap Key Value) : State × SortedMap Key Value × Bool :=
  let visitEntry := fun state (entry : Key × Value) =>
    let (state, kept, keepgoing) := visit state entry.1 entry.2
    (state, kept.map fun value => (entry.1, value), keepgoing)
  let swept := Library.sweep visitEntry state map.entries
  (swept.1, ⟨swept.2.1, map.sorted.sublist (Library.sweep_sublist visitEntry Prod.fst
    (fun _ _ _ kept => by
      obtain ⟨_, -, rfl⟩ := Option.map_eq_some_iff.mp kept
      rfl) state map.entries)⟩, swept.2.2)

theorem sweep_forall {good : Key → Value → Prop} {visit : State → Key → Value → State × Option Value × Bool}
    (keeps : ∀ state key value kept, good key value → (visit state key value).2.1 = some kept →
      good key kept) (state : State) {map : SortedMap Key Value}
    (all : ∀ entry ∈ map.entries, good entry.1 entry.2) :
    ∀ entry ∈ (map.sweep visit state).2.1.entries, good entry.1 entry.2 := by
  refine Library.sweep_forall _ ?_ state map.entries all
  intro state entry kept held left
  obtain ⟨value, stays, rfl⟩ := Option.map_eq_some_iff.mp left
  exact keeps state entry.1 entry.2 value held stays

/-- Keep the entries that pass a test. -/
def keep (map : SortedMap Key Value) (test : Key × Value → Bool) : SortedMap Key Value :=
  ⟨map.entries.filter test, map.sorted.sublist (List.filter_sublist.map Prod.fst)⟩

/-- Put a value in the place of one that is there. -/
def replace (map : SortedMap Key Value) (key : Key) (value : Value) : SortedMap Key Value :=
  ⟨map.entries.map fun entry => if entry.1 = key then (entry.1, value) else entry, by
    have same : ∀ entry : Key × Value,
        (if entry.1 = key then (entry.1, value) else entry).1 = entry.1 := by
      intro entry
      split_ifs <;> rfl
    rw [List.map_map]
    simpa only [Function.comp_def, same] using map.sorted⟩

def erase (map : SortedMap Key Value) (key : Key) : SortedMap Key Value :=
  map.keep fun entry => entry.1 ≠ key

theorem find_keep (map : SortedMap Key Value) (test : Key × Value → Bool) (key : Key) :
    (map.keep test).find key = (map.find key).filter fun value => test (key, value) := by
  apply Option.ext
  intro value
  rw [find_eq_some_iff, Option.filter_eq_some_iff, find_eq_some_iff]
  simp [keep]

theorem find_keep_of_true (map : SortedMap Key Value) {test : Key × Value → Bool} {key : Key}
    (kept : ∀ value, test (key, value) = true) : (map.keep test).find key = map.find key := by
  rw [find_keep]
  cases map.find key with
  | none => rfl
  | some value => exact Option.filter_some_pos (kept value)

theorem find_keep_of_false (map : SortedMap Key Value) {test : Key × Value → Bool} {key : Key}
    (dropped : ∀ value, test (key, value) = false) : (map.keep test).find key = none := by
  rw [find_keep]
  cases map.find key with
  | none => rfl
  | some value =>
    rw [Option.filter_some, dropped value]
    rfl

theorem find_erase (map : SortedMap Key Value) (key other : Key) :
    (map.erase key).find other = if other = key then none else map.find other := by
  rw [erase, find_keep]
  by_cases same : other = key
  · simp [same]
  · cases map.find other <;> simp [same]

theorem find_replace (map : SortedMap Key Value) (key : Key) (value : Value) (other : Key) :
    (map.replace key value).find other = if other = key then (map.find key).map fun _ => value
      else map.find other := by
  obtain ⟨entries, sorted⟩ := map
  simp only [find, replace]
  clear sorted
  induction entries with
  | nil => simp
  | cons first entries ih =>
    rw [List.map_cons, List.find?_cons, List.find?_cons, List.find?_cons]
    by_cases here : first.1 = key <;> by_cases found : first.1 = other
    · simp [← here, ← found]
    · have different : ¬ other = key := fun same => found (here.trans same.symm)
      simpa [here, found, different, show ¬ key = other from fun same => different same.symm]
        using ih
    · have different : ¬ other = key := fun same => here (found.trans same)
      simp [found, different]
    · simpa [here, found] using ih

end Changes

/-- The entries, with one more. -/
theorem perm_insert {map : SortedMap Key Value} {key : Key} (absent : map.find key = none) (value : Value) :
    (map.insert key value).entries.Perm ((key, value) :: map.entries) := by
  have outside := (find_eq_none_iff map key).mp absent
  have single : ((key, value) :: map.entries).Nodup :=
    List.nodup_cons.mpr ⟨fun member => outside (List.mem_map_of_mem member), map.nodup.of_map⟩
  refine (List.perm_ext_iff_of_nodup (map.insert key value).nodup.of_map single).mpr ?_
  rintro ⟨other, content⟩
  rw [← find_eq_some_iff, find_insert, List.mem_cons, ← find_eq_some_iff, absent, Prod.mk.injEq]
  split_ifs with same
  · subst same
    simp [absent, eq_comm]
  · simp [same]

/-- The entries are one that is erased and the others. -/
theorem perm_erase {map : SortedMap Key Value} {key : Key} {value : Value}
    (present : map.find key = some value) :
    map.entries.Perm ((key, value) :: (map.erase key).entries) := by
  have gone : (key, value) ∉ (map.erase key).entries := by
    rw [← find_eq_some_iff, find_erase, if_pos rfl]
    exact Option.some_ne_none value ∘ Eq.symm
  have single : ((key, value) :: (map.erase key).entries).Nodup :=
    List.nodup_cons.mpr ⟨gone, (map.erase key).nodup.of_map⟩
  refine (List.perm_ext_iff_of_nodup map.nodup.of_map single).mpr ?_
  rintro ⟨other, content⟩
  rw [List.mem_cons, ← find_eq_some_iff, ← find_eq_some_iff, find_erase, Prod.mk.injEq]
  split_ifs with same
  · subst same
    simp [present, eq_comm]
  · simp [same]

theorem perm_keep (map : SortedMap Key Value) (test : Key × Value → Bool) :
    map.entries.Perm ((map.entries.filter test) ++ (map.keep fun entry => !test entry).entries) :=
  (List.filter_append_perm test map.entries).symm

end SortedMap

end Library
