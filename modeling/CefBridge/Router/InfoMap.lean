import CefBridge.Library.SortedMap
import Mathlib.Data.Prod.Lex

/-!
# Objects of browsers

Both sides of the message router keep objects under a browser and a second number.
The objects of one browser are in a map of their own, which exists as long as it has
an object. A visitor is shown objects in order; it can have them taken out as it
sees them, and it can stop.

Read as one map from pairs, the two levels do not show: every operation is the one of
a single map whose entries are in the order of the pairs.
-/

namespace CefBridge.Router

open Library

universe u v w
variable {Id : Type u} {Object : Type v} {State : Type w} [LinearOrder Id]

/-- The maps of the browsers. None of them is empty. -/
structure BrowserInfoMap (Id : Type u) (Object : Type v) [LinearOrder Id] where
  browserInfoMap : SortedMap Int (SortedMap Id Object)
  filled : ∀ entry ∈ browserInfoMap.entries, entry.2.entries ≠ []

/-- What a visit of an object leads to, whether to remove the object, and whether to
go on. -/
abbrev Visitor (State : Type w) (Id : Type u) (Object : Type v) :=
  State → Int → Id → Object → State × Bool × Bool

namespace BrowserInfoMap

def empty : BrowserInfoMap Id Object := ⟨.empty, List.forall_mem_nil _⟩

section Operations

/-- Put the map of a browser back, or remove it if it has become empty. -/
def putBack (map : BrowserInfoMap Id Object) (browserId : Int) (infoMap : SortedMap Id Object) :
    BrowserInfoMap Id Object :=
  if none : infoMap.entries = [] then
    ⟨map.browserInfoMap.erase browserId, fun entry member =>
      map.filled entry (List.mem_of_mem_filter member)⟩
  else
    ⟨map.browserInfoMap.replace browserId infoMap, fun entry member => by
      obtain ⟨old, present, rfl⟩ := List.mem_map.mp member
      split_ifs
      · exact none
      · exact map.filled old present⟩

theorem insert_filled {map : SortedMap Int (SortedMap Id Object)}
    (filled : ∀ entry ∈ map.entries, entry.2.entries ≠ []) (browserId : Int) (infoId : Id)
    (info : Object) :
    ∀ entry ∈ (map.insert browserId (SortedMap.empty.insert infoId info)).entries,
      entry.2.entries ≠ [] := by
  intro entry member
  cases SortedMap.mem_insertEntry member with
  | inl new =>
    rw [new]
    exact List.cons_ne_nil _ _
  | inr old => exact filled entry old

/-- Add an object. -/
def add (map : BrowserInfoMap Id Object) (browserId : Int) (infoId : Id) (info : Object) :
    BrowserInfoMap Id Object :=
  match map.browserInfoMap.find browserId with
  | none =>
    ⟨map.browserInfoMap.insert browserId (SortedMap.empty.insert infoId info),
      insert_filled map.filled browserId infoId info⟩
  | some infoMap => map.putBack browserId (infoMap.insert infoId info)

/-- Find an object, show it to a visitor, and remove it if the visitor says so. -/
def find (map : BrowserInfoMap Id Object) (visitor : Visitor State Id Object) (state : State)
    (browserId : Int) (infoId : Id) : State × Option Object × BrowserInfoMap Id Object :=
  match map.browserInfoMap.find browserId with
  | none => (state, none, map)
  | some infoMap =>
    match infoMap.find infoId with
    | none => (state, none, map)
    | some info =>
      let (state, remove, _) := visitor state browserId infoId info
      (state, some info, if remove then map.putBack browserId (infoMap.erase infoId) else map)

/-- Show the objects of one browser to a visitor. -/
def visitInfos (visitor : Visitor State Id Object) (state : State) (browserId : Int)
    (infoMap : SortedMap Id Object) : State × SortedMap Id Object × Bool :=
  infoMap.sweep (fun state infoId info =>
    let (state, remove, keepgoing) := visitor state browserId infoId info
    (state, if remove then none else some info, keepgoing)) state

/-- Show all objects of one browser, and drop its map if it has become empty. -/
def visitBrowser (visitor : Visitor State Id Object) (state : State) (browserId : Int)
    (infoMap : SortedMap Id Object) : State × Option (SortedMap Id Object) × Bool :=
  let (state, infoMap, keepgoing) := visitInfos visitor state browserId infoMap
  (state, if infoMap.entries = [] then none else some infoMap, keepgoing)

theorem visitBrowser_filled (visitor : Visitor State Id Object) (state : State) (browserId : Int)
    (infoMap kept : SortedMap Id Object)
    (left : (visitBrowser visitor state browserId infoMap).2.1 = some kept) : kept.entries ≠ [] := by
  simp only [visitBrowser] at left
  split_ifs at left with none
  cases left
  exact none

/-- Show all objects to a visitor, browser by browser. -/
def findAll (map : BrowserInfoMap Id Object) (visitor : Visitor State Id Object) (state : State) :
    State × BrowserInfoMap Id Object :=
  let swept := map.browserInfoMap.sweep (visitBrowser visitor) state
  (swept.1, ⟨swept.2.1, SortedMap.sweep_forall
    (fun state browserId infoMap kept _ left => visitBrowser_filled visitor state browserId infoMap kept left)
    state map.filled⟩)

/-- Show all objects of a browser to a visitor. -/
def findAllOf (map : BrowserInfoMap Id Object) (browserId : Int) (visitor : Visitor State Id Object)
    (state : State) : State × BrowserInfoMap Id Object :=
  match map.browserInfoMap.find browserId with
  | none => (state, map)
  | some infoMap =>
    let (state, infoMap, _) := visitInfos visitor state browserId infoMap
    (state, map.putBack browserId infoMap)

def isEmpty (map : BrowserInfoMap Id Object) : Bool := map.browserInfoMap.entries.isEmpty

def size (map : BrowserInfoMap Id Object) : Nat :=
  map.browserInfoMap.entries.foldl (fun size entry => size + entry.2.entries.length) 0

def sizeOf (map : BrowserInfoMap Id Object) (browserId : Int) : Nat :=
  match map.browserInfoMap.find browserId with
  | none => 0
  | some infoMap => infoMap.entries.length

end Operations

section Flat

/-- The entries of one browser, under pairs. -/
def paired (entry : Int × SortedMap Id Object) : List ((Int ×ₗ Id) × Object) :=
  entry.2.entries.map fun info => (toLex (entry.1, info.1), info.2)

theorem paired_sorted {entries : List (Int × SortedMap Id Object)}
    (sorted : (entries.map Prod.fst).Pairwise (· < ·)) :
    ((entries.flatMap paired).map Prod.fst).Pairwise (· < ·) := by
  rw [List.pairwise_map, List.pairwise_flatMap]
  constructor
  · intro entry _
    rw [paired, List.pairwise_map]
    refine (List.pairwise_map.mp entry.2.sorted).imp fun lower => ?_
    exact Prod.Lex.toLex_lt_toLex.mpr (.inr ⟨rfl, lower⟩)
  · refine (List.pairwise_map.mp sorted).imp fun lower first firstMember second secondMember => ?_
    obtain ⟨_, -, rfl⟩ := List.mem_map.mp firstMember
    obtain ⟨_, -, rfl⟩ := List.mem_map.mp secondMember
    exact Prod.Lex.toLex_lt_toLex.mpr (.inl lower)

/-- All objects in one map. -/
def flat (map : BrowserInfoMap Id Object) : SortedMap (Int ×ₗ Id) Object :=
  ⟨map.browserInfoMap.entries.flatMap paired, paired_sorted map.browserInfoMap.sorted⟩

/-- The object of a browser and a number. -/
def info (map : BrowserInfoMap Id Object) (browserId : Int) (infoId : Id) : Option Object :=
  map.flat.find (toLex (browserId, infoId))

theorem info_eq (map : BrowserInfoMap Id Object) (browserId : Int) (infoId : Id) :
    map.info browserId infoId =
      (map.browserInfoMap.find browserId).bind fun infoMap => infoMap.find infoId := by
  apply Option.ext
  intro object
  rw [info, SortedMap.find_eq_some_iff, Option.bind_eq_some_iff]
  simp only [SortedMap.find_eq_some_iff, flat, List.mem_flatMap, paired, List.mem_map, Prod.mk.injEq,
    Prod.exists, EmbeddingLike.apply_eq_iff_eq]
  constructor
  · rintro ⟨browser, infoMap, present, id, other, member, ⟨rfl, rfl⟩, rfl⟩
    exact ⟨infoMap, present, member⟩
  · rintro ⟨infoMap, present, member⟩
    exact ⟨browserId, infoMap, present, infoId, object, member, ⟨rfl, rfl⟩, rfl⟩

theorem flat_ext {map other : SortedMap (Int ×ₗ Id) Object}
    (same : ∀ browserId infoId, map.find (toLex (browserId, infoId)) =
      other.find (toLex (browserId, infoId))) : map = other :=
  SortedMap.ext_find fun key => same (ofLex key).1 (ofLex key).2

theorem info_putBack (map : BrowserInfoMap Id Object) {browserId : Int}
    {old : SortedMap Id Object} (present : map.browserInfoMap.find browserId = some old)
    (infoMap : SortedMap Id Object) (browser : Int) (infoId : Id) :
    (map.putBack browserId infoMap).info browser infoId =
      if browser = browserId then infoMap.find infoId else map.info browser infoId := by
  rw [info_eq, info_eq, putBack]
  by_cases none : infoMap.entries = []
  · rw [dif_pos none]
    simp only [SortedMap.find_erase]
    by_cases same : browser = browserId
    · simp [same, SortedMap.find, none]
    · simp [same]
  · rw [dif_neg none]
    simp only [SortedMap.find_replace]
    by_cases same : browser = browserId
    · simp [same, present]
    · simp [same]

/-- Adding is inserting under the pair. -/
theorem flat_add (map : BrowserInfoMap Id Object) (browserId : Int) (infoId : Id) (object : Object) :
    (map.add browserId infoId object).flat = map.flat.insert (toLex (browserId, infoId)) object := by
  apply flat_ext
  intro browser id
  have inserted := SortedMap.find_insert map.flat (toLex (browserId, infoId)) object (toLex (browser, id))
  have read := info_eq map browser id
  have own := info_eq map browserId infoId
  rw [info] at read own
  rw [inserted, own, read, ← info, add]
  simp only [EmbeddingLike.apply_eq_iff_eq, Prod.mk.injEq]
  have absent : ∀ wanted, (SortedMap.empty : SortedMap Id Object).find wanted = none := fun _ => rfl
  cases present : map.browserInfoMap.find browserId with
  | none =>
    simp only [info_eq, SortedMap.find_insert]
    by_cases same : browser = browserId
    · subst same
      by_cases here : id = infoId <;> simp [present, here, SortedMap.find_insert, absent]
    · simp [same]
  | some infoMap =>
    simp only [info_putBack map present]
    by_cases same : browser = browserId
    · subst same
      by_cases here : id = infoId <;> simp [present, here, SortedMap.find_insert]
    · simp [same, info_eq]

/-- Finding is finding under the pair, and removing is erasing the pair. -/
theorem find_eq (map : BrowserInfoMap Id Object) (visitor : Visitor State Id Object) (state : State)
    (browserId : Int) (infoId : Id) :
    (map.find visitor state browserId infoId).2.1 = map.info browserId infoId ∧
      ∀ object, map.info browserId infoId = some object →
        (map.find visitor state browserId infoId).1 = (visitor state browserId infoId object).1 ∧
        (map.find visitor state browserId infoId).2.2.flat =
          if (visitor state browserId infoId object).2.1 then map.flat.erase (toLex (browserId, infoId))
          else map.flat := by
  rw [info_eq, find]
  cases present : map.browserInfoMap.find browserId with
  | none => simp
  | some infoMap =>
    cases found : infoMap.find infoId with
    | none => simp [found]
    | some object =>
      refine ⟨by simp [found], fun other same => ?_⟩
      obtain rfl : object = other := by simpa [found] using same
      simp only [found, true_and]
      cases removed : (visitor state browserId infoId object).2.1 with
      | false => simp
      | true =>
        simp only [if_true]
        apply flat_ext
        intro browser id
        rw [SortedMap.find_erase, ← info, ← info, info_putBack map present, SortedMap.find_erase]
        simp only [EmbeddingLike.apply_eq_iff_eq, Prod.mk.injEq]
        by_cases same : browser = browserId
        · subst same
          simp [info_eq, present]
        · simp [same]

theorem find_none (map : BrowserInfoMap Id Object) (visitor : Visitor State Id Object) (state : State)
    {browserId : Int} {infoId : Id} (absent : map.info browserId infoId = none) :
    map.find visitor state browserId infoId = (state, none, map) := by
  rw [info_eq] at absent
  rw [find]
  cases present : map.browserInfoMap.find browserId with
  | none => rfl
  | some infoMap =>
    rw [present, Option.bind_some] at absent
    simp [absent]

/-- A visit of an entry of the one map. -/
def visitFlat (visitor : Visitor State Id Object) (state : State) (entry : (Int ×ₗ Id) × Object) :
    State × Option ((Int ×ₗ Id) × Object) × Bool :=
  let (state, remove, keepgoing) := visitor state (ofLex entry.1).1 (ofLex entry.1).2 entry.2
  (state, if remove then none else some entry, keepgoing)

/-- A visitor that sees one browser only. -/
def visitFlatOf (browserId : Int) (visitor : Visitor State Id Object) (state : State)
    (entry : (Int ×ₗ Id) × Object) : State × Option ((Int ×ₗ Id) × Object) × Bool :=
  if (ofLex entry.1).1 = browserId then visitFlat visitor state entry else (state, some entry, true)

theorem visitInfos_flat (visitor : Visitor State Id Object) (state : State) (browserId : Int)
    (infoMap : SortedMap Id Object) :
    Library.sweep (visitFlat visitor) state (paired (browserId, infoMap)) =
      ((visitInfos visitor state browserId infoMap).1,
        paired (browserId, (visitInfos visitor state browserId infoMap).2.1),
        (visitInfos visitor state browserId infoMap).2.2) := by
  simp only [paired, visitInfos, SortedMap.sweep, List.map_eq_flatMap]
  apply sweep_flatMap
  intro state entry
  cases removed : (visitor state browserId entry.1 entry.2).2.1 <;>
    cases more : (visitor state browserId entry.1 entry.2).2.2 <;>
    simp [Library.sweep, visitFlat, removed, more]

theorem visitBrowser_flat (visitor : Visitor State Id Object) (state : State) (browserId : Int)
    (infoMap : SortedMap Id Object) :
    Library.sweep (visitFlat visitor) state (paired (browserId, infoMap)) =
      ((visitBrowser visitor state browserId infoMap).1,
        ((visitBrowser visitor state browserId infoMap).2.1.map
          fun infoMap => (browserId, infoMap)).toList.flatMap paired,
        (visitBrowser visitor state browserId infoMap).2.2) := by
  rw [visitInfos_flat, visitBrowser]
  simp only [Prod.mk.injEq, true_and, and_true]
  split_ifs with none
  · simp [paired, none]
  · simp

/-- Showing all objects is one walk along all entries. -/
theorem flat_findAll (map : BrowserInfoMap Id Object) (visitor : Visitor State Id Object) (state : State) :
    (map.findAll visitor state).1 = (Library.sweep (visitFlat visitor) state map.flat.entries).1 ∧
      (map.findAll visitor state).2.flat.entries =
        (Library.sweep (visitFlat visitor) state map.flat.entries).2.1 := by
  have walked := sweep_flatMap (fun state (entry : Int × SortedMap Id Object) =>
      let (state, kept, keepgoing) := visitBrowser visitor state entry.1 entry.2
      (state, kept.map fun infoMap => (entry.1, infoMap), keepgoing)) paired (visitFlat visitor)
    (fun state entry => visitBrowser_flat visitor state entry.1 entry.2) state map.browserInfoMap.entries
  rw [flat, walked]
  exact ⟨rfl, rfl⟩

/-- The entries of other browsers are passed. -/
theorem sweep_others (visitor : Visitor State Id Object) {browserId : Int}
    {entries : List (Int × SortedMap Id Object)} (others : ∀ entry ∈ entries, entry.1 ≠ browserId)
    (state : State) :
    Library.sweep (visitFlatOf browserId visitor) state (entries.flatMap paired) =
      (state, entries.flatMap paired, true) := by
  apply sweep_pass
  intro item member
  obtain ⟨entry, among, inside⟩ := List.mem_flatMap.mp member
  obtain ⟨info, -, rfl⟩ := List.mem_map.mp inside
  exact if_neg (others entry among)

theorem sweep_own (visitor : Visitor State Id Object) (browserId : Int) (infoMap : SortedMap Id Object)
    (state : State) :
    Library.sweep (visitFlatOf browserId visitor) state (paired (browserId, infoMap)) =
      Library.sweep (visitFlat visitor) state (paired (browserId, infoMap)) := by
  apply sweep_congr
  intro state item member
  obtain ⟨info, -, rfl⟩ := List.mem_map.mp member
  exact if_pos rfl

/-- The map of a browser stands between those of other browsers. -/
theorem split_browser (map : BrowserInfoMap Id Object) {browserId : Int}
    {infoMap : SortedMap Id Object} (present : map.browserInfoMap.find browserId = some infoMap) :
    ∃ front back, map.browserInfoMap.entries = front ++ (browserId, infoMap) :: back ∧
      (∀ entry ∈ front, entry.1 ≠ browserId) ∧ ∀ entry ∈ back, entry.1 ≠ browserId := by
  obtain ⟨front, back, whole⟩ := List.append_of_mem ((SortedMap.find_eq_some_iff _ _ _).mp present)
  have distinct := map.browserInfoMap.nodup
  rw [whole, List.map_append, List.map_cons] at distinct
  have apart := (List.nodup_middle.mp distinct).notMem
  simp only [List.mem_append, List.mem_map, not_or, not_exists, not_and] at apart
  exact ⟨front, back, whole, apart.1, apart.2⟩

theorem flat_putBack (map : BrowserInfoMap Id Object) {browserId : Int}
    {old : SortedMap Id Object} {front back : List (Int × SortedMap Id Object)}
    (whole : map.browserInfoMap.entries = front ++ (browserId, old) :: back)
    (before : ∀ entry ∈ front, entry.1 ≠ browserId) (after : ∀ entry ∈ back, entry.1 ≠ browserId)
    (infoMap : SortedMap Id Object) :
    (map.putBack browserId infoMap).flat.entries =
      front.flatMap paired ++ paired (browserId, infoMap) ++ back.flatMap paired := by
  rw [putBack]
  by_cases none : infoMap.entries = []
  · have erased : (map.browserInfoMap.erase browserId).entries = front ++ back := by
      have kept : ∀ entries : List (Int × SortedMap Id Object),
          (∀ entry ∈ entries, entry.1 ≠ browserId) →
            entries.filter (fun entry => entry.1 ≠ browserId) = entries := by
        intro entries others
        exact List.filter_eq_self.mpr fun entry member => decide_eq_true (others entry member)
      simp only [SortedMap.erase, SortedMap.keep, whole, List.filter_append]
      rw [kept front before, List.filter_cons_of_neg (by simp), kept back after]
    rw [dif_pos none]
    simp [flat, erased, paired, none]
  · have replaced : (map.browserInfoMap.replace browserId infoMap).entries =
        front ++ (browserId, infoMap) :: back := by
      have kept : ∀ entries : List (Int × SortedMap Id Object),
          (∀ entry ∈ entries, entry.1 ≠ browserId) →
            entries.map (fun entry => if entry.1 = browserId then (entry.1, infoMap) else entry) =
              entries := by
        intro entries others
        conv_rhs => rw [← List.map_id entries]
        exact List.map_congr_left fun entry member => if_neg (others entry member)
      simp only [SortedMap.replace, whole, List.map_append, List.map_cons, if_true]
      rw [kept front before, kept back after]
    rw [dif_neg none]
    simp [flat, replaced]

/-- Showing the objects of a browser is a walk that passes the others. -/
theorem flat_findAllOf (map : BrowserInfoMap Id Object) (browserId : Int)
    (visitor : Visitor State Id Object) (state : State) :
    (map.findAllOf browserId visitor state).1 =
        (Library.sweep (visitFlatOf browserId visitor) state map.flat.entries).1 ∧
      (map.findAllOf browserId visitor state).2.flat.entries =
        (Library.sweep (visitFlatOf browserId visitor) state map.flat.entries).2.1 := by
  rw [findAllOf]
  cases present : map.browserInfoMap.find browserId with
  | none =>
    have others : ∀ entry ∈ map.browserInfoMap.entries, entry.1 ≠ browserId := by
      rintro entry member rfl
      exact (SortedMap.find_eq_none_iff _ _).mp present (List.mem_map_of_mem member)
    have passed := sweep_others visitor others state
    simp only [flat, passed, and_self]
  | some infoMap =>
    obtain ⟨front, back, whole, before, after⟩ := map.split_browser present
    have walked : Library.sweep (visitFlatOf browserId visitor) state map.flat.entries =
        ((visitInfos visitor state browserId infoMap).1,
          front.flatMap paired ++ paired (browserId, (visitInfos visitor state browserId infoMap).2.1) ++
            back.flatMap paired, (visitInfos visitor state browserId infoMap).2.2) := by
      have laidOut : map.flat.entries =
          front.flatMap paired ++ (paired (browserId, infoMap) ++ back.flatMap paired) := by
        simp [flat, whole]
      rw [laidOut, sweep_append, sweep_others visitor before]
      simp only [if_true]
      rw [sweep_append, sweep_own, visitInfos_flat]
      cases (visitInfos visitor state browserId infoMap).2.2 with
      | false => simp
      | true => simp [sweep_others visitor after]
    rw [walked]
    exact ⟨rfl, flat_putBack map whole before after _⟩

theorem isEmpty_iff (map : BrowserInfoMap Id Object) : map.isEmpty = true ↔ map.flat.entries = [] := by
  rw [isEmpty, List.isEmpty_iff, flat, List.flatMap_eq_nil_iff]
  constructor
  · intro none entry member
    simp [none] at member
  · intro all
    apply List.eq_nil_iff_forall_not_mem.mpr
    intro entry member
    exact map.filled entry member (List.map_eq_nil_iff.mp (all entry member))

/-- The size is the number of objects. -/
theorem size_eq (map : BrowserInfoMap Id Object) : map.size = map.flat.entries.length := by
  have counted : ∀ (entries : List (Int × SortedMap Id Object)) (start : Nat),
      entries.foldl (fun size entry => size + entry.2.entries.length) start =
        start + (entries.flatMap paired).length := by
    intro entries
    induction entries with
    | nil => simp
    | cons entry entries ih =>
      intro start
      rw [List.foldl_cons, ih, List.flatMap_cons, List.length_append]
      simp [paired, Nat.add_assoc]
  rw [size, counted, flat, Nat.zero_add]

end Flat

section Selecting

variable (chosen : Int → Id → Object → Bool) (act : State → Int → Id → Object → State)

/-- Act on the chosen objects and have them removed. -/
def selectAll : Visitor State Id Object := fun state browserId infoId info =>
  if chosen browserId infoId info then (act state browserId infoId info, true, true)
  else (state, false, true)

/-- Act on the first chosen object, have it removed and stop. -/
def selectOne : Visitor State Id Object := fun state browserId infoId info =>
  if chosen browserId infoId info then (act state browserId infoId info, true, false)
  else (state, false, true)

/-- Count the chosen objects. -/
def tally : Visitor Nat Id Object := fun count browserId infoId info =>
  (if chosen browserId infoId info then count + 1 else count, false, true)

/-- Whether an entry is chosen, in the one map. -/
def chosenEntry (entry : (Int ×ₗ Id) × Object) : Bool :=
  chosen (ofLex entry.1).1 (ofLex entry.1).2 entry.2

def actEntry (state : State) (entry : (Int ×ₗ Id) × Object) : State :=
  act state (ofLex entry.1).1 (ofLex entry.1).2 entry.2

/-- Whether an entry of a browser is chosen. -/
def chosenEntryOf (browserId : Int) (entry : (Int ×ₗ Id) × Object) : Bool :=
  (ofLex entry.1).1 = browserId && chosenEntry chosen entry

omit [LinearOrder Id] in
theorem visitFlat_selectAll :
    visitFlat (selectAll chosen act) = select (chosenEntry chosen) (actEntry act) := by
  funext state entry
  by_cases picked : chosen (ofLex entry.1).1 (ofLex entry.1).2 entry.2 = true <;>
    simp [visitFlat, selectAll, select, chosenEntry, actEntry, picked]

omit [LinearOrder Id] in
theorem visitFlatOf_selectAll (browserId : Int) :
    visitFlatOf browserId (selectAll chosen act) =
      select (chosenEntryOf chosen browserId) (actEntry act) := by
  funext state entry
  rw [visitFlatOf, visitFlat_selectAll]
  by_cases own : (ofLex entry.1).1 = browserId <;> simp [select, chosenEntryOf, own]

omit [LinearOrder Id] in
theorem visitFlatOf_selectOne (browserId : Int) :
    visitFlatOf browserId (selectOne chosen act) =
      selectFirst (chosenEntryOf chosen browserId) (actEntry act) := by
  funext state entry
  by_cases own : (ofLex entry.1).1 = browserId
  · by_cases picked : chosen (ofLex entry.1).1 (ofLex entry.1).2 entry.2 = true <;>
      simp [visitFlatOf, visitFlat, selectOne, selectFirst, chosenEntryOf, chosenEntry, actEntry, ← own,
        picked]
  · simp [visitFlatOf, selectFirst, chosenEntryOf, own]

theorem findAll_selectAll (map : BrowserInfoMap Id Object) (state : State) :
    (map.findAll (selectAll chosen act) state).1 =
        (map.flat.entries.filter (chosenEntry chosen)).foldl (actEntry act) state ∧
      (map.findAll (selectAll chosen act) state).2.flat =
        map.flat.keep fun entry => !chosenEntry chosen entry := by
  have walked := map.flat_findAll (selectAll chosen act) state
  rw [visitFlat_selectAll, sweep_select] at walked
  exact ⟨walked.1, SortedMap.ext_entries walked.2⟩

theorem findAllOf_selectAll (map : BrowserInfoMap Id Object) (browserId : Int) (state : State) :
    (map.findAllOf browserId (selectAll chosen act) state).1 =
        (map.flat.entries.filter (chosenEntryOf chosen browserId)).foldl (actEntry act) state ∧
      (map.findAllOf browserId (selectAll chosen act) state).2.flat =
        map.flat.keep fun entry => !chosenEntryOf chosen browserId entry := by
  have walked := map.flat_findAllOf browserId (selectAll chosen act) state
  rw [visitFlatOf_selectAll, sweep_select] at walked
  exact ⟨walked.1, SortedMap.ext_entries walked.2⟩

theorem findAllOf_selectOne (map : BrowserInfoMap Id Object) (browserId : Int) (state : State) :
    (map.findAllOf browserId (selectOne chosen act) state).1 =
        (map.flat.entries.find? (chosenEntryOf chosen browserId)).toList.foldl (actEntry act) state ∧
      (map.findAllOf browserId (selectOne chosen act) state).2.flat.entries =
        map.flat.entries.eraseP (chosenEntryOf chosen browserId) := by
  have walked := map.flat_findAllOf browserId (selectOne chosen act) state
  rw [visitFlatOf_selectOne] at walked
  have swept := sweep_selectFirst (chosenEntryOf chosen browserId) (actEntry act) state map.flat.entries
  rw [Prod.mk.injEq] at swept
  exact ⟨walked.1.trans swept.1, walked.2.trans swept.2⟩

omit [LinearOrder Id] in
theorem sweep_tally (counted : (Int ×ₗ Id) × Object → Bool)
    {visit : Nat → (Int ×ₗ Id) × Object → Nat × Option ((Int ×ₗ Id) × Object) × Bool}
    (counts : ∀ count entry, visit count entry = (if counted entry then count + 1 else count, some entry, true))
    (entries : List ((Int ×ₗ Id) × Object)) (start : Nat) :
    Library.sweep visit start entries = (start + (entries.filter counted).length, entries, true) := by
  induction entries generalizing start with
  | nil => simp [Library.sweep]
  | cons entry entries ih =>
    rw [Library.sweep, counts]
    by_cases picked : counted entry = true
    · simp [ih, picked, Nat.add_assoc, Nat.add_comm 1]
    · simp [ih, picked]

/-- The tally is the number of chosen entries, and they all stay. -/
theorem findAll_tally (map : BrowserInfoMap Id Object) :
    (map.findAll (tally chosen) 0).1 = (map.flat.entries.filter (chosenEntry chosen)).length := by
  have counts : ∀ count entry, visitFlat (tally chosen) count entry =
      (if chosenEntry chosen entry then count + 1 else count, some entry, true) := by
    intro count entry
    by_cases picked : chosen (ofLex entry.1).1 (ofLex entry.1).2 entry.2 = true <;>
      simp [visitFlat, tally, chosenEntry, picked]
  rw [(map.flat_findAll (tally chosen) 0).1, sweep_tally (chosenEntry chosen) counts, Nat.zero_add]

theorem findAllOf_tally (map : BrowserInfoMap Id Object) (browserId : Int) :
    (map.findAllOf browserId (tally chosen) 0).1 =
      (map.flat.entries.filter (chosenEntryOf chosen browserId)).length := by
  have counts : ∀ count entry, visitFlatOf browserId (tally chosen) count entry =
      (if chosenEntryOf chosen browserId entry then count + 1 else count, some entry, true) := by
    intro count entry
    by_cases own : (ofLex entry.1).1 = browserId <;>
      simp [visitFlatOf, visitFlat, tally, chosenEntryOf, chosenEntry, own]
  rw [(map.flat_findAllOf browserId (tally chosen) 0).1, sweep_tally (chosenEntryOf chosen browserId) counts,
    Nat.zero_add]

/-- The size of a browser is the number of its objects. -/
theorem sizeOf_eq (map : BrowserInfoMap Id Object) (browserId : Int) :
    map.sizeOf browserId =
      (map.flat.entries.filter (chosenEntryOf (fun _ _ _ => true) browserId)).length := by
  have others : ∀ entries : List (Int × SortedMap Id Object), (∀ entry ∈ entries, entry.1 ≠ browserId) →
      (entries.flatMap paired).filter (chosenEntryOf (fun _ _ _ => true) browserId) = [] := by
    intro entries other
    apply List.filter_eq_nil_iff.mpr
    intro item member
    obtain ⟨entry, among, inside⟩ := List.mem_flatMap.mp member
    obtain ⟨info, -, rfl⟩ := List.mem_map.mp inside
    simp [chosenEntryOf, other entry among]
  rw [sizeOf]
  cases present : map.browserInfoMap.find browserId with
  | none =>
    have absent : ∀ entry ∈ map.browserInfoMap.entries, entry.1 ≠ browserId := by
      rintro entry member rfl
      exact (SortedMap.find_eq_none_iff _ _).mp present (List.mem_map_of_mem member)
    simp [flat, others _ absent]
  | some infoMap =>
    obtain ⟨front, back, whole, before, after⟩ := map.split_browser present
    have own : (paired (browserId, infoMap)).filter (chosenEntryOf (fun _ _ _ => true) browserId) =
        paired (browserId, infoMap) := by
      apply List.filter_eq_self.mpr
      intro item member
      obtain ⟨info, -, rfl⟩ := List.mem_map.mp member
      simp [chosenEntryOf, chosenEntry]
    have counted : (paired (browserId, infoMap)).length = infoMap.entries.length := List.length_map _
    simp [flat, whole, others _ before, others _ after, own, counted]

end Selecting

end BrowserInfoMap

end CefBridge.Router
