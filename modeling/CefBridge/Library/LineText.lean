import CefBridge.Library.Trimming

/-!
# Text as lines

A text is read line by line: a carriage return, a line feed or the pair of both
ends a line, and symbols after the last ending form a line of their own. Lines
are written one after another, each followed by the pair.

Reading never yields a line with an ending inside it, and reading what was
written gives such lines back. The last part is about a block of lines that is
stored trimmed as one text: reading the stored text yields the lines that
trimming left, and storing those again yields the same text. So a stored block
survives being written out and collected once more.
-/

namespace Library.LineText

open Trimming

/-- No line ending occurs in the line. -/
def OneLine (line : List Char) : Prop := '\r' ∉ line ∧ '\n' ∉ line

instance (line : List Char) : Decidable (OneLine line) :=
  inferInstanceAs (Decidable (_ ∧ _))

/-- The ending that is written after a line. -/
def newLine : List Char := ['\r', '\n']

/-- Split a text after each line ending. A symbol that is no ending belongs to
the first line of what follows it. -/
def readLines : List Char → List (List Char)
  | [] => []
  | '\r' :: '\n' :: rest => [] :: readLines rest
  | '\r' :: rest => [] :: readLines rest
  | '\n' :: rest => [] :: readLines rest
  | symbol :: rest =>
    match readLines rest with
    | [] => [[symbol]]
    | line :: lines => (symbol :: line) :: lines

/-- Write each line with an ending after it. -/
def writeLines (lines : List (List Char)) : List Char := lines.flatMap (· ++ newLine)

@[simp] theorem writeLines_nil : writeLines [] = [] := rfl

@[simp] theorem writeLines_cons (line : List Char) (lines : List (List Char)) :
    writeLines (line :: lines) = line ++ newLine ++ writeLines lines := rfl

@[simp] theorem writeLines_append (front back : List (List Char)) :
    writeLines (front ++ back) = writeLines front ++ writeLines back :=
  List.flatMap_append

theorem oneLine_nil : OneLine [] := by decide

theorem OneLine.of_subset {line part : List Char} (whole : OneLine line)
    (subset : ∀ symbol ∈ part, symbol ∈ line) : OneLine part :=
  ⟨fun member => whole.1 (subset _ member), fun member => whole.2 (subset _ member)⟩

theorem OneLine.append {front back : List Char} (first : OneLine front) (second : OneLine back) :
    OneLine (front ++ back) := by
  simp_all [OneLine]

theorem OneLine.head {symbol : Char} {rest : List Char} (line : OneLine (symbol :: rest)) :
    symbol ≠ '\r' ∧ symbol ≠ '\n' := by
  simp only [OneLine, List.mem_cons, not_or] at line
  exact ⟨Ne.symm line.1.1, Ne.symm line.2.1⟩

theorem OneLine.tail {symbol : Char} {rest : List Char} (line : OneLine (symbol :: rest)) :
    OneLine rest :=
  line.of_subset fun _ member => List.mem_cons_of_mem symbol member

/-- An inner symbol extends the first line of the remaining text. -/
theorem readLines_symbol (symbol : Char) (rest : List Char)
    (inner : symbol ≠ '\r' ∧ symbol ≠ '\n') :
    readLines (symbol :: rest) =
      match readLines rest with
      | [] => [[symbol]]
      | line :: lines => (symbol :: line) :: lines := by
  rw [readLines.eq_5] <;> simp_all

/-- An ended line is read whole, and reading continues after its ending. -/
theorem readLines_ended (line rest : List Char) (whole : OneLine line) :
    readLines (line ++ newLine ++ rest) = line :: readLines rest := by
  induction line with
  | nil => simp [newLine, readLines]
  | cons symbol line ih =>
    rw [List.cons_append, List.cons_append, readLines_symbol symbol _ whole.head, ih whole.tail]

/-- An unended line at the end of the text is read unless it is empty. -/
theorem readLines_unended (line : List Char) (whole : OneLine line) (shown : line ≠ []) :
    readLines line = [line] := by
  induction line with
  | nil => contradiction
  | cons symbol line ih =>
    rw [readLines_symbol symbol _ whole.head]
    by_cases last : line = []
    · rw [last, readLines]
    · rw [ih whole.tail last]

/-- Reading a written list of lines continues with the text after it. -/
theorem readLines_writeLines_append (lines : List (List Char)) (rest : List Char)
    (whole : ∀ line ∈ lines, OneLine line) :
    readLines (writeLines lines ++ rest) = lines ++ readLines rest := by
  induction lines with
  | nil => rfl
  | cons line lines ih =>
    rw [writeLines_cons, List.append_assoc, readLines_ended line _ (whole line (by simp)),
      ih fun other member => whole other (by simp [member]), List.cons_append]

/-- Reading inverts writing on lines without inner endings. -/
theorem readLines_writeLines (lines : List (List Char)) (whole : ∀ line ∈ lines, OneLine line) :
    readLines (writeLines lines) = lines := by
  simpa [readLines] using readLines_writeLines_append lines [] whole

/-- No read line contains an ending. -/
theorem readLines_oneLine (text : List Char) : ∀ line ∈ readLines text, OneLine line := by
  induction text using readLines.induct with
  | case1 => simp [readLines]
  | case2 rest ih =>
    rw [readLines]
    intro line member
    rcases List.mem_cons.mp member with rfl | member
    · exact oneLine_nil
    · exact ih line member
  | case3 rest unpaired ih =>
    rw [readLines.eq_3 rest unpaired]
    intro line member
    rcases List.mem_cons.mp member with rfl | member
    · exact oneLine_nil
    · exact ih line member
  | case4 rest ih =>
    rw [readLines]
    intro line member
    rcases List.mem_cons.mp member with rfl | member
    · exact oneLine_nil
    · exact ih line member
  | case5 symbol rest notPair notReturn notFeed remaining ih =>
    have inner : symbol ≠ '\r' ∧ symbol ≠ '\n' := ⟨notReturn, notFeed⟩
    rw [readLines_symbol symbol rest inner, remaining]
    intro line member
    rw [List.mem_singleton.mp member]
    simp [OneLine, inner.1.symm, inner.2.symm]
  | case6 symbol rest notPair notReturn notFeed first lines remaining ih =>
    have inner : symbol ≠ '\r' ∧ symbol ≠ '\n' := ⟨notReturn, notFeed⟩
    rw [readLines_symbol symbol rest inner, remaining]
    rw [remaining] at ih
    intro line member
    rcases List.mem_cons.mp member with rfl | member
    · have firstLine := ih first (by simp)
      simp only [OneLine, List.mem_cons, not_or]
      exact ⟨⟨inner.1.symm, firstLine.1⟩, inner.2.symm, firstLine.2⟩
    · exact ih line (by simp [member])

section Blocks

variable {blank : Char → Bool} (returnBlank : blank '\r' = true) (feedBlank : blank '\n' = true)

include returnBlank feedBlank

theorem newLine_blank : ∀ symbol ∈ newLine, blank symbol = true := by
  simp [newLine, returnBlank, feedBlank]

/-- Trimming the start of a block of flush lines removes its empty first lines. -/
theorem trimStart_writeLines (lines : List (List Char))
    (flush : ∀ line ∈ lines, trimStart blank line = line) :
    trimStart blank (writeLines lines) = writeLines (lines.dropWhile List.isEmpty) := by
  induction lines with
  | nil => rfl
  | cons line lines ih =>
    have tail := ih fun other member => flush other (by simp [member])
    cases line with
    | nil =>
      rw [writeLines_cons, List.nil_append, newLine, List.cons_append, List.cons_append,
        List.nil_append, trimStart_blank _ _ returnBlank, trimStart_blank _ _ feedBlank, tail]
      rfl
    | cons symbol rest =>
      have solid : blank symbol = false := by
        by_contra isBlank
        have settled := flush (symbol :: rest) (by simp)
        rw [trimStart_blank _ _ (by simpa using isBlank)] at settled
        have shorter := congrArg List.length settled
        have bound := List.length_dropWhile_le blank rest
        simp only [trimStart, List.length_cons] at shorter
        omega
      rw [writeLines_cons, List.cons_append, List.cons_append, trimStart_solid _ _ solid]
      rfl

/-- Trimming a block whose last line is not blank ends it inside that line. -/
theorem trimEnd_shown_line (front : List (List Char)) (line : List Char)
    (shown : trimEnd blank line ≠ []) :
    trimEnd blank (writeLines (front ++ [line])) = writeLines front ++ trimEnd blank line := by
  obtain ⟨blanks, whole, areBlank⟩ := trimEnd_append_blanks blank line
  have ended : trimEnd blank (writeLines (front ++ [line])) =
      trimEnd blank (writeLines front ++ trimEnd blank line) := by
    rw [writeLines_append, writeLines_cons, writeLines_nil, List.append_nil, ← List.append_assoc,
      trimEnd_append_of_blank _ _ (newLine_blank returnBlank feedBlank)]
    conv_lhs => rw [whole, ← List.append_assoc]
    exact trimEnd_append_of_blank _ _ areBlank
  rw [ended]
  obtain ⟨init, last, split⟩ := List.eq_nil_or_concat (trimEnd blank line) |>.resolve_left shown
  have solid : blank last = false := by
    by_contra isBlank
    have settled := trimEnd_trimEnd blank line
    rw [split, List.concat_eq_append, trimEnd_blank _ _ (by simpa using isBlank)] at settled
    have shorter := congrArg List.length settled
    have bound := (trimEnd_begins blank init).length_le
    simp only [List.length_append, List.length_cons, List.length_nil] at shorter
    omega
  rw [split, List.concat_eq_append, ← List.append_assoc, trimEnd_solid _ _ solid]

/-- Trimming a block takes a blank last line away. -/
theorem trimEnd_blank_line (front : List (List Char)) (line : List Char)
    (hidden : trimEnd blank line = []) :
    trimEnd blank (writeLines (front ++ [line])) = trimEnd blank (writeLines front) := by
  obtain ⟨blanks, whole, areBlank⟩ := trimEnd_append_blanks blank line
  rw [hidden, List.nil_append] at whole
  rw [writeLines_append, writeLines_cons, writeLines_nil, List.append_nil, ← List.append_assoc,
    trimEnd_append_of_blank _ _ (newLine_blank returnBlank feedBlank), whole]
  exact trimEnd_append_of_blank _ _ areBlank

/-- Trimming the end of a block leaves nothing, or ends it inside the last line
that is not blank. -/
theorem trimEnd_writeLines (lines : List (List Char)) :
    trimEnd blank (writeLines lines) = [] ∨
      ∃ front line back, lines = front ++ line :: back ∧ trimEnd blank line ≠ [] ∧
        trimEnd blank (writeLines lines) = writeLines front ++ trimEnd blank line := by
  induction lines using List.reverseRecOn with
  | nil => exact Or.inl rfl
  | append_singleton front line ih =>
    by_cases shown : trimEnd blank line = []
    · rw [trimEnd_blank_line returnBlank feedBlank front line shown]
      rcases ih with nothing | ⟨before, kept, back, split, solid, same⟩
      · exact Or.inl nothing
      · exact Or.inr ⟨before, kept, back ++ [line], by simp [split], solid, same⟩
    · exact Or.inr ⟨front, line, [], rfl, shown,
        trimEnd_shown_line returnBlank feedBlank front line shown⟩

/-- Reading a stored block yields flush beginnings of the block's own lines,
and storing the read lines yields the same text.

Trimming keeps whole inner lines and shortens only the last one. The kept text
is either empty or ends in a solid symbol, so the written lines are the kept
text and one line ending, which trimming takes away again. -/
theorem stored_block (lines : List (List Char)) (whole : ∀ line ∈ lines, OneLine line)
    (flush : ∀ line ∈ lines, trimStart blank line = line) :
    (∀ kept ∈ readLines (trim blank (writeLines lines)),
      trimStart blank kept = kept ∧ ∃ line ∈ lines, kept <+: line) ∧
    trim blank (writeLines (readLines (trim blank (writeLines lines)))) =
      trim blank (writeLines lines) := by
  have body : trim blank (writeLines lines) =
      trimEnd blank (writeLines (lines.dropWhile List.isEmpty)) := by
    rw [trim, trimStart_writeLines returnBlank feedBlank lines flush]
  have inner : ∀ line ∈ lines.dropWhile List.isEmpty, line ∈ lines := fun line member =>
    (List.dropWhile_sublist _).subset member
  rcases trimEnd_writeLines returnBlank feedBlank (lines.dropWhile List.isEmpty) with
    nothing | ⟨front, line, back, split, shown, same⟩
  · rw [body, nothing]
    simp [readLines]
  · have lineMember : line ∈ lines := inner line (by simp [split])
    have frontMember : ∀ kept ∈ front, kept ∈ lines := fun kept member =>
      inner kept (by simp [split, member])
    have lastLine : OneLine (trimEnd blank line) :=
      (whole line lineMember).of_subset fun _ member => (trimEnd_begins blank line).subset member
    have read : readLines (trim blank (writeLines lines)) = front ++ [trimEnd blank line] := by
      rw [body, same, readLines_writeLines_append front _ fun kept member =>
        whole kept (frontMember kept member), readLines_unended _ lastLine shown]
    have lastFlush : trimStart blank (trimEnd blank line) = trimEnd blank line := by
      have settled := trimStart_trim blank line
      rwa [trim, flush line lineMember] at settled
    rw [read]
    constructor
    · intro kept member
      rcases List.mem_append.mp member with early | late
      · exact ⟨flush kept (frontMember kept early), kept, frontMember kept early, List.prefix_rfl⟩
      · rw [List.mem_singleton.mp late]
        exact ⟨lastFlush, line, lineMember, trimEnd_begins blank line⟩
    · have written : writeLines (front ++ [trimEnd blank line]) =
          trim blank (writeLines lines) ++ newLine := by
        rw [body, same]
        simp
      rw [written]
      exact (bare_trim _).trim_append _ (newLine_blank returnBlank feedBlank)

/-- A stored block of flush lines with solid first and last lines is read back,
but for the blanks at the end of its last line. -/
theorem readLines_block (front : List (List Char)) (line : List Char)
    (whole : ∀ other ∈ front ++ [line], OneLine other)
    (flush : ∀ other ∈ front ++ [line], trimStart blank other = other)
    (first : ∀ other ∈ (front ++ [line]).head?, other ≠ []) (shown : trimEnd blank line ≠ []) :
    readLines (trim blank (writeLines (front ++ [line]))) = front ++ [trimEnd blank line] := by
  have started : (front ++ [line]).dropWhile List.isEmpty = front ++ [line] := by
    apply List.dropWhile_eq_self_iff.mpr
    intro bound
    have notEmpty := first _ (List.head?_eq_getElem? ▸ List.getElem?_eq_getElem bound)
    simpa using notEmpty
  have lastLine : OneLine (trimEnd blank line) :=
    (whole line (by simp)).of_subset fun _ member => (trimEnd_begins blank line).subset member
  rw [trim, trimStart_writeLines returnBlank feedBlank _ flush, started,
    trimEnd_shown_line returnBlank feedBlank front line shown,
    readLines_writeLines_append front _ fun other member => whole other (by simp [member]),
    readLines_unended _ lastLine shown]

end Blocks

end Library.LineText
