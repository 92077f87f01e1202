import Mathlib.Data.List.DropRight
import Mathlib.Data.List.TakeWhile
import Mathlib.Data.List.Infix

/-!
# Trimming and prefixes of symbol sequences

A symbol is blank or not, as one Boolean test says. Trimming removes the blank
symbols of either end and leaves the inner ones. A text is bare when trimming
changes nothing.

The laws here are the ones a line format needs that stores bare keys and looks
for them in raw lines: trimming is idempotent, and a bare key begins a raw line
after its left margin exactly when it begins the bare line. Replacing a key by
the whole bare line it was found in therefore only narrows what it matches.
-/

namespace Library.Trimming

universe u
variable {α : Type u} (blank : α → Bool)

/-- Remove the leading blanks. -/
def trimStart (text : List α) : List α := text.dropWhile blank

/-- Remove the trailing blanks. -/
def trimEnd (text : List α) : List α := text.rdropWhile blank

/-- Remove the blanks of both ends. -/
def trim (text : List α) : List α := trimEnd blank (trimStart blank text)

/-- Neither end is blank. -/
def Bare (text : List α) : Prop := trim blank text = text

instance [DecidableEq α] (text : List α) : Decidable (Bare blank text) :=
  inferInstanceAs (Decidable (_ = _))

variable {blank}

@[simp] theorem trimStart_nil : trimStart blank [] = [] := rfl

@[simp] theorem trimEnd_nil : trimEnd blank [] = [] := rfl

@[simp] theorem trim_nil : trim blank [] = [] := rfl

theorem trimStart_blank (symbol : α) (rest : List α) (isBlank : blank symbol = true) :
    trimStart blank (symbol :: rest) = trimStart blank rest := by
  simp [trimStart, isBlank]

theorem trimStart_solid (symbol : α) (rest : List α) (solid : blank symbol = false) :
    trimStart blank (symbol :: rest) = symbol :: rest := by
  simp [trimStart, solid]

theorem trimEnd_blank (front : List α) (symbol : α) (isBlank : blank symbol = true) :
    trimEnd blank (front ++ [symbol]) = trimEnd blank front :=
  List.rdropWhile_concat_pos blank front symbol isBlank

theorem trimEnd_solid (front : List α) (symbol : α) (solid : blank symbol = false) :
    trimEnd blank (front ++ [symbol]) = front ++ [symbol] :=
  List.rdropWhile_concat_neg blank front symbol (by simp [solid])

@[simp] theorem trimStart_trimStart (text : List α) :
    trimStart blank (trimStart blank text) = trimStart blank text :=
  List.dropWhile_idempotent blank text

@[simp] theorem trimEnd_trimEnd (blank : α → Bool) (text : List α) :
    trimEnd blank (trimEnd blank text) = trimEnd blank text :=
  List.rdropWhile_idempotent blank text

/-- A text is what trimming its end keeps, followed by blanks only. -/
theorem trimEnd_append_blanks (blank : α → Bool) (text : List α) :
    ∃ blanks, text = trimEnd blank text ++ blanks ∧ ∀ symbol ∈ blanks, blank symbol = true := by
  refine ⟨text.rtakeWhile blank, (List.rdropWhile_append_rtakeWhile).symm, ?_⟩
  intro symbol member
  exact List.mem_rtakeWhile_imp member

/-- Trimming the end does not open a new margin at the start: the first symbol
that is left was the first before, and if none is left there is no margin. -/
@[simp] theorem trimStart_trim (blank : α → Bool) (text : List α) :
    trimStart blank (trim blank text) = trim blank text := by
  unfold trim
  generalize started : trimStart blank text = body
  have settled : trimStart blank body = body := by rw [← started, trimStart_trimStart]
  cases kept : trimEnd blank body with
  | nil => rfl
  | cons symbol rest =>
    obtain ⟨blanks, whole, _⟩ := trimEnd_append_blanks blank body
    rw [kept, List.cons_append] at whole
    by_cases isBlank : blank symbol = true
    · rw [whole, trimStart_blank _ _ isBlank] at settled
      have shorter := congrArg List.length settled
      have bound := List.length_dropWhile_le blank (rest ++ blanks)
      simp only [trimStart, List.length_cons] at shorter
      omega
    · exact trimStart_solid _ _ (by simpa using isBlank)

@[simp] theorem trimEnd_trim (text : List α) : trimEnd blank (trim blank text) = trim blank text :=
  trimEnd_trimEnd blank (trimStart blank text)

@[simp] theorem trim_trim (text : List α) : trim blank (trim blank text) = trim blank text := by
  rw [trim, trimStart_trim, trimEnd_trim]

theorem bare_trim (text : List α) : Bare blank (trim blank text) := trim_trim text

theorem Bare.trimStart_eq {text : List α} (bare : Bare blank text) : trimStart blank text = text := by
  rw [← bare, trimStart_trim]

theorem Bare.trimEnd_eq {text : List α} (bare : Bare blank text) : trimEnd blank text = text := by
  rw [← bare, trimEnd_trim]

/-- A text with two solid ends is bare. -/
theorem bare_of_ends {text : List α} (first : trimStart blank text = text)
    (last : trimEnd blank text = text) : Bare blank text := by
  rw [Bare, trim, first, last]

theorem trimEnd_append_of_blank (text blanks : List α)
    (areBlank : ∀ symbol ∈ blanks, blank symbol = true) :
    trimEnd blank (text ++ blanks) = trimEnd blank text := by
  induction blanks using List.reverseRecOn with
  | nil => rw [List.append_nil]
  | append_singleton front last ih =>
    rw [← List.append_assoc, trimEnd_blank _ _ (areBlank last (by simp))]
    exact ih fun symbol member => areBlank symbol (by simp [member])

theorem trimStart_all_blank (blanks : List α) (areBlank : ∀ symbol ∈ blanks, blank symbol = true) :
    trimStart blank blanks = [] :=
  List.dropWhile_eq_nil_iff.mpr areBlank

/-- Blanks after a bare text are exactly what trimming takes away again. -/
theorem Bare.trim_append {text : List α} (bare : Bare blank text) (blanks : List α)
    (areBlank : ∀ symbol ∈ blanks, blank symbol = true) : trim blank (text ++ blanks) = text := by
  cases text with
  | nil => rw [List.nil_append, trim, trimStart_all_blank blanks areBlank, trimEnd_nil]
  | cons symbol rest =>
    have flush : trimStart blank (symbol :: rest ++ blanks) = symbol :: rest ++ blanks := by
      have settled := bare.trimStart_eq
      by_cases isBlank : blank symbol = true
      · rw [trimStart_blank _ _ isBlank] at settled
        have shorter := congrArg List.length settled
        have bound := List.length_dropWhile_le blank rest
        simp only [trimStart, List.length_cons] at shorter
        omega
      · exact trimStart_solid _ _ (by simpa using isBlank)
    rw [trim, flush, trimEnd_append_of_blank _ _ areBlank, bare.trimEnd_eq]

/-- Every kept symbol was there before. -/
theorem mem_of_mem_trimStart {text : List α} {symbol : α} (member : symbol ∈ trimStart blank text) :
    symbol ∈ text :=
  (List.dropWhile_sublist blank).subset member

theorem trimEnd_begins (blank : α → Bool) (text : List α) : trimEnd blank text <+: text :=
  List.rdropWhile_prefix blank text

theorem trim_prefix_trimStart (text : List α) : trim blank text <+: trimStart blank text :=
  trimEnd_begins blank (trimStart blank text)

theorem mem_of_mem_trim {text : List α} {symbol : α} (member : symbol ∈ trim blank text) :
    symbol ∈ text :=
  mem_of_mem_trimStart ((trim_prefix_trimStart text).subset member)

/-- Trimming leaves something of every text that is not blank throughout. -/
theorem trim_ne_nil_iff (text : List α) :
    trim blank text ≠ [] ↔ ∃ symbol ∈ text, blank symbol = false := by
  have nothing : trim blank text = [] ↔ ∀ symbol ∈ text, blank symbol = true := by
    constructor
    · intro empty
      have margin : trimEnd blank (trimStart blank text) = [] := empty
      rw [trimEnd, List.rdropWhile_eq_nil_iff] at margin
      rw [← List.dropWhile_eq_nil_iff]
      cases start : text.dropWhile blank with
      | nil => rfl
      | cons symbol rest =>
        have solid := List.head_dropWhile_not blank (l := text) (by simp [start])
        have isBlank := margin symbol (by simp [trimStart, start])
        simp [start, isBlank] at solid
    · intro areBlank
      rw [trim, trimStart_all_blank text areBlank, trimEnd_nil]
  rw [ne_eq, nothing]
  simp

/-- A key without trailing blanks begins a raw text after its margin exactly
when it begins the trimmed text. A longer key would end in one of the blanks
that trimming removed. -/
theorem prefix_trimStart_iff {key : List α} (closed : trimEnd blank key = key) (text : List α) :
    key <+: trimStart blank text ↔ key <+: trim blank text := by
  refine ⟨?_, fun begins => begins.trans (trim_prefix_trimStart text)⟩
  intro begins
  obtain ⟨blanks, whole, areBlank⟩ := trimEnd_append_blanks blank (trimStart blank text)
  change trimStart blank text = trim blank text ++ blanks at whole
  rw [whole] at begins
  rcases List.prefix_or_prefix_of_prefix begins (List.prefix_append _ blanks) with inside | past
  · exact inside
  · obtain ⟨excess, rfl⟩ := past
    have excessBegins : excess <+: blanks := (List.prefix_append_right_inj _).mp begins
    rcases List.eq_nil_or_concat excess with rfl | ⟨front, last, rfl⟩
    · simp
    · have lastBlank : blank last = true := areBlank last (excessBegins.subset (by simp))
      rw [List.concat_eq_append, ← List.append_assoc, trimEnd_blank _ _ lastBlank] at closed
      have shorter := congrArg List.length closed
      have bound := (trimEnd_begins blank (trim blank text ++ front)).length_le
      simp only [List.length_append, List.length_cons, List.length_nil] at shorter bound
      omega

/-- Narrowing a bare key to a whole trimmed line in which it was found rules
out every line that the key itself rules out. -/
theorem narrowed_key {key line other : List α} (closed : trimEnd blank key = key)
    (found : key <+: trimStart blank line) (again : trim blank line <+: trimStart blank other) :
    key <+: trimStart blank other :=
  ((prefix_trimStart_iff closed line).mp found).trans again

end Library.Trimming
