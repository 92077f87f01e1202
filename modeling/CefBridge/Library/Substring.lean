import Mathlib.Data.List.DropRight
import Mathlib.Data.List.Infix

/-!
# Substrings and the words between separators

`indexOf` is the search for the first occurrence of a pattern. A pattern that
stands in a text after a front is found there exactly when it does not occur
earlier, and that can be seen from the front and all of the pattern but its last
symbol.

The words of a text are its longest pieces without separators. A suffix that
opens with a separator and the first symbol of a word is determined by its words.
-/

namespace Library.Substring

universe u
variable {α : Type u}

section Search

variable [DecidableEq α]

/-- The position of the first occurrence of a pattern. -/
def indexOf : List α → List α → Option Nat
  | [], pattern => if pattern = [] then some 0 else none
  | symbol :: rest, pattern =>
    if pattern.isPrefixOf (symbol :: rest) then some 0
    else (indexOf rest pattern).map (· + 1)

/-- Nothing is found exactly when the pattern does not occur. -/
theorem indexOf_none_iff (text pattern : List α) :
    indexOf text pattern = none ↔ ¬ pattern <:+: text := by
  induction text with
  | nil => simp [indexOf]
  | cons symbol rest ih =>
    rw [indexOf, List.infix_cons_iff, ← List.isPrefixOf_iff_prefix]
    by_cases here : pattern.isPrefixOf (symbol :: rest) = true
    · simp [here]
    · simp [here, ih]

/-- The pattern stands where it is found. -/
theorem indexOf_stands {text pattern : List α} {index : Nat}
    (found : indexOf text pattern = some index) : pattern <+: text.drop index := by
  induction text generalizing index with
  | nil =>
    by_cases empty : pattern = []
    · simp [empty]
    · simp [indexOf, empty] at found
  | cons symbol rest ih =>
    rw [indexOf] at found
    by_cases here : pattern.isPrefixOf (symbol :: rest) = true
    · simp only [here, if_true, Option.some.injEq] at found
      subst found
      exact List.isPrefixOf_iff_prefix.mp here
    · simp only [here, Bool.false_eq_true, if_false, Option.map_eq_some_iff] at found
      obtain ⟨later, found, rfl⟩ := found
      exact ih found

/-- The pattern does not stand before the place where it is found. -/
theorem indexOf_least {text pattern : List α} {index other : Nat}
    (found : indexOf text pattern = some index) (stands : pattern <+: text.drop other)
    (inside : other ≤ text.length) : index ≤ other := by
  induction text generalizing index other with
  | nil =>
    by_cases empty : pattern = []
    · simp only [indexOf, empty, if_true, Option.some.injEq] at found
      omega
    · simp [indexOf, empty] at found
  | cons symbol rest ih =>
    rw [indexOf] at found
    by_cases here : pattern.isPrefixOf (symbol :: rest) = true
    · simp only [here, if_true, Option.some.injEq] at found
      omega
    · simp only [here, Bool.false_eq_true, if_false, Option.map_eq_some_iff] at found
      obtain ⟨later, found, rfl⟩ := found
      cases other with
      | zero => exact absurd (List.isPrefixOf_iff_prefix.mpr stands) here
      | succ other =>
        have least := ih found stands (by simpa using inside)
        omega

/-- Where a pattern stands after a front, it is found there exactly when it does
not occur in the front and all of the pattern but its last symbol. -/
theorem indexOf_append_iff (front pattern back : List α) (filled : pattern ≠ []) :
    indexOf (front ++ pattern ++ back) pattern = some front.length ↔
      ¬ pattern <:+: front ++ pattern.dropLast := by
  have length : pattern.dropLast.length + 1 = pattern.length := by
    have positive := List.length_pos_of_ne_nil filled
    rw [List.length_dropLast]
    omega
  have begins : front ++ pattern.dropLast <+: front ++ pattern ++ back := by
    rw [List.append_assoc]
    apply (List.prefix_append_right_inj front).mpr
    exact (List.dropLast_prefix pattern).trans (List.prefix_append pattern back)
  constructor
  · rintro found ⟨before, after, whole⟩
    have lengths := congrArg List.length whole
    simp only [List.length_append] at lengths
    obtain ⟨rest, split⟩ := begins
    have stands : pattern <+: (front ++ pattern ++ back).drop before.length := by
      rw [← split, ← whole]
      simp
    have least := indexOf_least found stands (by simp only [List.length_append]; omega)
    omega
  · intro absent
    have occurs : pattern <:+: front ++ pattern ++ back := ⟨front, back, rfl⟩
    cases found : indexOf (front ++ pattern ++ back) pattern with
    | none => exact absurd occurs ((indexOf_none_iff _ _).mp found)
    | some index =>
      have least : index ≤ front.length := by
        apply indexOf_least found
        · simp [List.append_assoc]
        · simp only [List.length_append]
          omega
      have stands := indexOf_stands found
      by_contra different
      apply absent
      have earlier : index < front.length := by
        have unequal : index ≠ front.length := fun same => different (congrArg some same)
        omega
      have inside : pattern <+: (front ++ pattern.dropLast).drop index := by
        obtain ⟨rest, split⟩ := begins
        have bound : index ≤ (front ++ pattern.dropLast).length := by
          rw [List.length_append]
          omega
        have cut : (front ++ pattern ++ back).drop index =
            (front ++ pattern.dropLast).drop index ++ rest := by
          rw [← split]
          exact List.drop_append_of_le_length bound
        rw [cut] at stands
        apply List.prefix_of_prefix_length_le stands (List.prefix_append _ _)
        simp only [List.length_drop, List.length_append]
        omega
      exact inside.isInfix.trans (List.drop_suffix index _).isInfix

end Search

section Words

variable (separates : α → Bool)

/-- The longest pieces of a text without separators. -/
def words (text : List α) : List (List α) := (text.splitOnP separates).filter fun word => !word.isEmpty

/-- Words end at a separator. -/
theorem words_append (front back : List α) {mark : α} (isMark : separates mark = true) :
    words separates (front ++ mark :: back) = words separates front ++ words separates back := by
  rw [words, List.splitOnP_append_cons front back isMark, List.filter_append]
  rfl

@[simp] theorem words_nil : words separates [] = [] := rfl

theorem words_mark (text : List α) {mark : α} (isMark : separates mark = true) :
    words separates (mark :: text) = words separates text := by
  have split := words_append separates [] text isMark
  rwa [List.nil_append, words_nil, List.nil_append] at split

theorem words_word (word : List α) (filled : word ≠ [])
    (solid : ∀ symbol ∈ word, separates symbol = false) : words separates word = [word] := by
  rw [words, List.splitOnP_eq_singleton solid]
  simp [filled]

/-- A text that holds more than separators has words. -/
theorem words_ne_nil (text : List α) (symbol : α) (member : symbol ∈ text)
    (solid : separates symbol = false) : words separates text ≠ [] := by
  induction text with
  | nil => cases member
  | cons first rest ih =>
    cases isMark : separates first with
    | true =>
      rw [words_mark separates rest isMark]
      apply ih
      cases List.mem_cons.mp member with
      | inl same =>
        subst same
        simp [isMark] at solid
      | inr later => exact later
    | false =>
      obtain ⟨word, more, split⟩ := List.exists_cons_of_ne_nil (List.splitOnP_ne_nil separates rest)
      simp [words, List.splitOnP_cons_eq_if_modifyHead, isMark, split]

/-- A text ends with its last word. -/
theorem rtakeWhile_mark (front word : List α) {mark : α} (isMark : separates mark = true)
    (solid : ∀ symbol ∈ word, separates symbol = false) :
    (front ++ mark :: word).rtakeWhile (fun symbol => !separates symbol) = word := by
  have whole : ∀ symbol ∈ word.reverse, (!separates symbol) = true := by
    intro symbol member
    rw [solid symbol (List.mem_reverse.mp member)]
    rfl
  rw [List.rtakeWhile, List.reverse_append, List.reverse_cons, List.append_assoc,
    List.takeWhile_append_of_pos whole]
  simp [isMark]

/-- Before its last word stand the front and a separator. -/
theorem rdropWhile_mark (front word : List α) {mark : α} (isMark : separates mark = true)
    (solid : ∀ symbol ∈ word, separates symbol = false) :
    (front ++ mark :: word).rdropWhile (fun symbol => !separates symbol) = front ++ [mark] := by
  have whole : ∀ symbol ∈ word.reverse, (!separates symbol) = true := by
    intro symbol member
    rw [solid symbol (List.mem_reverse.mp member)]
    rfl
  rw [List.rdropWhile, List.reverse_append, List.reverse_cons, List.append_assoc,
    List.dropWhile_append_of_pos whole]
  simp [isMark]

/-- A text opens with a separator and the first symbol of a word. -/
def Opens (text : List α) : Prop :=
  ∃ mark symbol rest, text = mark :: symbol :: rest ∧ separates mark = true ∧
    separates symbol = false

/-- A longer suffix has more words. -/
theorem words_longer {front back : List α} (filled : front ≠ []) (opens : Opens separates back)
    (longer : Opens separates (front ++ back)) :
    words separates (front ++ back) ≠ words separates back := by
  obtain ⟨mark, symbol, rest, rfl, isMark, solid⟩ := opens
  obtain ⟨first, second, more, whole, isFirst, isSecond⟩ := longer
  rw [words_append separates front (symbol :: rest) isMark, words_mark separates _ isMark]
  intro same
  have none : words separates front = [] := by
    have lengths := congrArg List.length same
    rw [List.length_append] at lengths
    exact List.eq_nil_of_length_eq_zero (by omega)
  cases front with
  | nil => exact filled rfl
  | cons head tail =>
    cases tail with
    | nil =>
      simp only [List.cons_append, List.nil_append, List.cons.injEq] at whole
      rw [whole.2.1, isSecond] at isMark
      cases isMark
    | cons next tail =>
      simp only [List.cons_append, List.cons.injEq] at whole
      have member : second ∈ head :: next :: tail := by simp [whole.2.1]
      exact words_ne_nil separates _ second member isSecond none

/-- Two suffixes of a text that open and have the same words are the same. -/
theorem suffix_eq_of_words {text first second : List α} (one : first <:+ text) (two : second <:+ text)
    (opens : Opens separates first) (other : Opens separates second)
    (same : words separates first = words separates second) : first = second := by
  cases List.suffix_or_suffix_of_suffix one two with
  | inl shorter =>
    obtain ⟨front, rfl⟩ := shorter
    by_cases empty : front = []
    · rw [empty, List.nil_append]
    · exact absurd same.symm (words_longer separates empty opens other)
  | inr longer =>
    obtain ⟨front, rfl⟩ := longer
    by_cases empty : front = []
    · rw [empty, List.nil_append]
    · exact absurd same (words_longer separates empty other opens)

end Words

end Library.Substring
