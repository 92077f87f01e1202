import CefBridge.Patcher.Preservation
import CefBridge.Patcher.Stored

/-!
# Files that a developer annotates by hand

An annotated file holds source lines with control lines and append blocks
between them. A start line, a find-next line or a follow-by line stands before
the source line it names, its anchor. An append block may stand anywhere after
the first anchor. All control and append lines are flush left and printed as the
writer prints them.

The patch read from such a file remembers of each anchor only its text, and of
an append block only its order among the commands. `Anchored` says when this is
enough: a search from one anchor to the next meets no earlier line that starts
with the next anchor's text, and no source line stands between an anchor and a
block or a follow-by line that comes after it. `patchContent_annotated_iff` shows
that applying the patch to the bare source lines restores the file exactly then.
-/

namespace CefBridge.Patcher

open Library Library.EditScript

/-- One directive with the source lines before it and its anchor, if it names
one. An append block carries the id that its own control line prints. -/
inductive Directive where
  | findNext (gap : List Text) (line : Text)
  | followBy (gap : List Text) (line : Text)
  | append (gap : List Text) (id : Int32) (body : List Text)

/-- The source lines of a directive. -/
def Directive.source : Directive → List Text
  | .findNext gap line => gap ++ [line]
  | .followBy gap line => gap ++ [line]
  | .append gap _ _ => gap

/-- The lines of a directive within a task. -/
def Directive.rendered (taskId : Int32) : Directive → List Text
  | .findNext gap line => gap ++ [controlLine false FIND_NEXT_LANDMARK taskId, line]
  | .followBy gap line => gap ++ [controlLine false FOLLOW_BY taskId, line]
  | .append gap id body => gap ++ controlLine false APPPEND_START id :: (body ++ [APPPEND_STOP])

/-- The command that is read from a directive. -/
def Directive.command (taskId : Int32) : Directive → PatchCommand
  | .findNext _ line => .new taskId .findNextLandMark line
  | .followBy _ line => .new taskId .followBy line
  | .append _ _ body => .new taskId .appendStringStart (LineText.writeLines body)

/-- Source lines are no commands. The lines of a block are flush left, and its
first and last lines are not blank. -/
def Directive.WellFormed : Directive → Prop
  | .findNext gap line => ∀ other ∈ gap ++ [line], Plain other
  | .followBy gap line => ∀ other ∈ gap ++ [line], Plain other
  | .append gap _ body =>
    (∀ other ∈ gap, Plain other) ∧
      (∀ other ∈ body, LineText.OneLine other ∧ trimStart other = other ∧ Plain other) ∧
      (∀ other ∈ body.head?, trim other ≠ []) ∧ ∀ other ∈ body.getLast?, trim other ≠ []

/-- The directive is found again at its own place, and printed as it was. -/
def Directive.Anchored (taskId : Int32) : Directive → Prop
  | .findNext gap line => ∀ other ∈ gap, Hits (trim line) other = false
  | .followBy gap _ => gap = []
  | .append gap id body =>
    gap = [] ∧ id = taskId ∧ ∀ other ∈ body.getLast?, Trimming.trimEnd isWhiteSpace other = other

/-- A start line with its anchor, the source lines before it and the directives
after it. -/
structure AnnotatedTask where
  gap : List Text
  taskId : Int32
  line : Text
  directives : List Directive

def AnnotatedTask.source (task : AnnotatedTask) : List Text :=
  task.gap ++ task.line :: task.directives.flatMap Directive.source

def AnnotatedTask.rendered (task : AnnotatedTask) : List Text :=
  task.gap ++ (START ++ ' ' :: printInt task.taskId) :: task.line ::
    task.directives.flatMap (Directive.rendered task.taskId)

/-- The task that is read from an annotated task. -/
def AnnotatedTask.task (task : AnnotatedTask) : PatchTask :=
  { PatchTask.new task.line task.taskId with
    commands := task.directives.map (Directive.command task.taskId) }

def AnnotatedTask.WellFormed (task : AnnotatedTask) : Prop :=
  (∀ other ∈ task.gap ++ [task.line], Plain other) ∧
    ∀ directive ∈ task.directives, directive.WellFormed

def AnnotatedTask.Anchored (task : AnnotatedTask) : Prop :=
  (∀ other ∈ task.gap, Hits (trim task.line) other = false) ∧
    ∀ directive ∈ task.directives, directive.Anchored task.taskId

/-- An annotated file, without a header line. -/
structure AnnotatedFile where
  tasks : List AnnotatedTask
  tail : List Text

/-- The file without its control lines and append blocks. -/
def AnnotatedFile.source (file : AnnotatedFile) : List Text :=
  file.tasks.flatMap AnnotatedTask.source ++ file.tail

def AnnotatedFile.rendered (file : AnnotatedFile) : List Text :=
  file.tasks.flatMap AnnotatedTask.rendered ++ file.tail

def AnnotatedFile.WellFormed (file : AnnotatedFile) : Prop :=
  (∀ task ∈ file.tasks, task.WellFormed) ∧ ∀ other ∈ file.tail, Plain other

def AnnotatedFile.Anchored (file : AnnotatedFile) : Prop := ∀ task ∈ file.tasks, task.Anchored

instance : (directive : Directive) → Decidable directive.WellFormed
  | .findNext gap line => inferInstanceAs (Decidable (∀ other ∈ gap ++ [line], Plain other))
  | .followBy gap line => inferInstanceAs (Decidable (∀ other ∈ gap ++ [line], Plain other))
  | .append gap _ body => inferInstanceAs (Decidable (
    (∀ other ∈ gap, Plain other) ∧
      (∀ other ∈ body, LineText.OneLine other ∧ trimStart other = other ∧ Plain other) ∧
      (∀ other ∈ body.head?, trim other ≠ []) ∧ ∀ other ∈ body.getLast?, trim other ≠ []))

instance (task : AnnotatedTask) : Decidable task.WellFormed := inferInstanceAs (Decidable (_ ∧ _))

instance (file : AnnotatedFile) : Decidable file.WellFormed :=
  inferInstanceAs (Decidable ((∀ task ∈ file.tasks, _) ∧ ∀ other ∈ file.tail, _))

instance (taskId : Int32) : (directive : Directive) → Decidable (directive.Anchored taskId)
  | .findNext gap line =>
    inferInstanceAs (Decidable (∀ other ∈ gap, Hits (trim line) other = false))
  | .followBy gap _ => inferInstanceAs (Decidable (gap = []))
  | .append gap id body => inferInstanceAs (Decidable (gap = [] ∧ id = taskId ∧
    ∀ other ∈ body.getLast?, Trimming.trimEnd isWhiteSpace other = other))

instance (task : AnnotatedTask) : Decidable task.Anchored := inferInstanceAs (Decidable (_ ∧ _))

instance (file : AnnotatedFile) : Decidable file.Anchored :=
  inferInstanceAs (Decidable (∀ task ∈ file.tasks, _))

section Lines

/-- Command lines are not plain. -/
theorem not_plain {line : Text} (command : CMD_PREFIX <+: line) : ¬ Plain line := by
  intro plain
  rw [Plain, command_flush line command] at plain
  exact plain command

/-- Plain lines before a command line are determined by the whole. -/
theorem plain_unique {front back rest more : List Text} {line other : Text}
    (same : front ++ line :: rest = back ++ other :: more)
    (plainFront : ∀ value ∈ front, Plain value) (command : CMD_PREFIX <+: line)
    (plainBack : ∀ value ∈ back, Plain value) (otherCommand : CMD_PREFIX <+: other) :
    front = back ∧ line = other ∧ rest = more := by
  apply first_hit_unique (fun value => decide (¬ Plain value)) same
  · exact fun value member => decide_eq_false (not_not_intro (plainFront value member))
  · exact decide_eq_true (not_plain command)
  · exact fun value member => decide_eq_false (not_not_intro (plainBack value member))
  · exact decide_eq_true (not_plain otherCommand)

theorem controlLine_command (name : Text) (taskId : Int32) (command : CMD_PREFIX <+: name) :
    CMD_PREFIX <+: controlLine false name taskId :=
  command.trans (List.prefix_append name (' ' :: printInt taskId))

/-- A printed control line determines its id. -/
theorem controlLine_injective {name : Text} {first second : Int32}
    (same : controlLine false name first = controlLine false name second) : first = second := by
  have printed : printInt first = printInt second := by
    simpa [controlLine, perfixComment] using same
  have parsed := congrArg parseInt printed
  rw [parseInt_printInt, parseInt_printInt] at parsed
  exact Except.ok.inj parsed

/-- What is kept of the body of a block: all but the blanks that end it. -/
theorem body_kept (body : List Text)
    (lines : ∀ other ∈ body, LineText.OneLine other ∧ trimStart other = other ∧ Plain other)
    (first : ∀ other ∈ body.head?, trim other ≠ []) (last : ∀ other ∈ body.getLast?, trim other ≠ []) :
    LineText.readLines (trim (LineText.writeLines body)) = body ↔
      ∀ other ∈ body.getLast?, Trimming.trimEnd isWhiteSpace other = other := by
  have returnBlank : isWhiteSpace '\r' = true := by decide
  have feedBlank : isWhiteSpace '\n' = true := by decide
  rcases List.eq_nil_or_concat' body with rfl | ⟨front, line, rfl⟩
  · simp [LineText.readLines]
  · have flush : ∀ other ∈ front ++ [line], trimStart other = other :=
      fun other member => (lines other member).2.1
    have shown : Trimming.trimEnd isWhiteSpace line ≠ [] := by
      have solid := last line (by simp)
      have settled : Trimming.trimStart isWhiteSpace line = line := flush line (by simp)
      rwa [trim, Trimming.trim, settled] at solid
    have started : ∀ other ∈ (front ++ [line]).head?, other ≠ [] := by
      rintro other member rfl
      exact first [] member rfl
    rw [LineText.readLines_block returnBlank feedBlank front line
      (fun other member => (lines other member).1) flush started shown]
    simp

end Lines

section Reading

/-- A directive is read as its command. -/
theorem directive_read (directive : Directive) (wellFormed : directive.WellFormed)
    (finished : List PatchTask) (ptask : PatchTask) (more : List Text) :
    buildLoop none ⟨finished, some ptask⟩ (directive.rendered ptask.taskId ++ more) =
      buildLoop none
        ⟨finished, some { ptask with
          commands := ptask.commands ++ [directive.command ptask.taskId] }⟩ more := by
  cases directive with
  | findNext gap line =>
    simp only [Directive.rendered, List.append_assoc, List.cons_append, List.nil_append]
    rw [buildLoop_plain _ _ gap fun other member => wellFormed other (by simp [member]),
      buildLoop_findNext]
    rfl
  | followBy gap line =>
    simp only [Directive.rendered, List.append_assoc, List.cons_append, List.nil_append]
    rw [buildLoop_plain _ _ gap fun other member => wellFormed other (by simp [member]),
      buildLoop_followBy]
    rfl
  | append gap id body =>
    obtain ⟨plain, lines, _⟩ := wellFormed
    have flush : body.map trimStart = body :=
      (List.map_congr_left fun other member => (lines other member).2.1).trans (List.map_id _)
    have block := buildLoop_append finished ptask id more body fun other member =>
      (lines other member).2.2
    rw [flush, List.cons_append] at block
    simp only [Directive.rendered, List.append_assoc, List.cons_append, List.nil_append]
    rw [buildLoop_plain _ _ gap plain, block]
    rfl

theorem directives_read (directives : List Directive)
    (wellFormed : ∀ directive ∈ directives, directive.WellFormed)
    (finished : List PatchTask) (ptask : PatchTask) (more : List Text) :
    buildLoop none ⟨finished, some ptask⟩
        (directives.flatMap (Directive.rendered ptask.taskId) ++ more) =
      buildLoop none
        ⟨finished, some { ptask with
          commands := ptask.commands ++ directives.map (Directive.command ptask.taskId) }⟩
        more := by
  induction directives generalizing ptask with
  | nil => simp
  | cons directive directives ih =>
    have tail := ih (fun other member => wellFormed other (by simp [member]))
      { ptask with commands := ptask.commands ++ [directive.command ptask.taskId] }
    rw [List.flatMap_cons, List.append_assoc,
      directive_read directive (wellFormed directive (by simp)), tail]
    simp

/-- An annotated file is read as its tasks. -/
theorem annotated_read (tasks : List AnnotatedTask) (tail : List Text)
    (wellFormed : ∀ task ∈ tasks, task.WellFormed) (plain : ∀ other ∈ tail, Plain other)
    (state : BuildState) :
    buildLoop none state (tasks.flatMap AnnotatedTask.rendered ++ tail) =
      .ok (state.startAll (tasks.map AnnotatedTask.task)) := by
  induction tasks generalizing state with
  | nil =>
    have read := buildLoop_plain state [] tail plain
    simpa [buildLoop, BuildState.startAll] using read
  | cons task tasks ih =>
    obtain ⟨lines, directives⟩ := wellFormed task (by simp)
    have read := directives_read task.directives directives state.tasks
      (PatchTask.new task.line task.taskId) (tasks.flatMap AnnotatedTask.rendered ++ tail)
    rw [List.flatMap_cons, List.append_assoc, AnnotatedTask.rendered, List.append_assoc,
      List.cons_append, List.cons_append,
      buildLoop_plain _ _ task.gap fun other member => lines other (by simp [member]),
      buildLoop_start, BuildState.start]
    refine read.trans ?_
    rw [ih (fun other member => wellFormed other (by simp [member])), List.map_cons, startAll_cons]
    rfl

end Reading

section Applying

/-- The edit of a directive's command. -/
def Directive.edit (taskId : Int32) (directive : Directive) : Edit Origin Text :=
  (directive.command taskId).edit false

/-- If the lines written for a directive are its own, it was anchored, and what
is read and written after it is what stands after it. -/
theorem directive_exact {directive : Directive} {taskId : Int32} {more rest out outMore : List Text}
    {marks : Record} (wellFormed : directive.WellFormed) (plain : ∀ other ∈ more, Plain other)
    (run : (directive.edit taskId).Run (directive.source ++ more) marks rest)
    (same : writes marks ++ out = directive.rendered taskId ++ outMore) :
    directive.Anchored taskId ∧ rest = more ∧ out = outMore := by
  generalize whole : directive.source ++ more = source at run
  cases directive with
  | findNext gap line =>
    have control := controlLine_command FIND_NEXT_LANDMARK taskId (by decide)
    cases run with
    | seek hit notes passedLines found after passed met =>
      simp only [Directive.source, List.append_assoc, List.cons_append, List.nil_append] at whole
      have passedPlain : ∀ other ∈ passedLines, Plain other := by
        intro other member
        have among : other ∈ gap ++ line :: more := whole ▸ List.mem_append_left _ member
        simp only [List.mem_append, List.mem_cons] at among
        rcases among with early | rfl | late
        · exact wellFormed other (by simp [early])
        · exact wellFormed other (by simp)
        · exact plain other late
      have split : passedLines ++ controlLine false FIND_NEXT_LANDMARK taskId :: found :: out =
          gap ++ controlLine false FIND_NEXT_LANDMARK taskId :: line :: outMore := by
        simpa [Directive.rendered, Directive.command, PatchCommand.new, PatchCommand.notes]
          using same
      obtain ⟨rfl, _, back⟩ := plain_unique split passedPlain control
        (fun other member => wellFormed other (by simp [member])) control
      obtain ⟨rfl, rfl⟩ := List.cons.inj back
      obtain ⟨_, rfl⟩ := List.cons.inj (List.append_cancel_left whole)
      exact ⟨passed, rfl, rfl⟩
  | followBy gap line =>
    have control := controlLine_command FOLLOW_BY taskId (by decide)
    cases run with
    | follow hit notes found after met =>
      have split : [] ++ controlLine false FOLLOW_BY taskId :: found :: out =
          gap ++ controlLine false FOLLOW_BY taskId :: line :: outMore := by
        simpa [Directive.rendered, Directive.command, PatchCommand.new, PatchCommand.notes]
          using same
      obtain ⟨rfl, _, back⟩ := plain_unique split (by simp) control
        (fun other member => wellFormed other (by simp [member])) control
      obtain ⟨rfl, rfl⟩ := List.cons.inj back
      obtain ⟨_, rfl⟩ := List.cons.inj whole
      exact ⟨rfl, rfl, rfl⟩
  | append gap id body =>
    obtain ⟨gapPlain, lines, first, last⟩ := wellFormed
    have collected : Collected (LineText.writeLines body) := ⟨body, lines, rfl⟩
    obtain ⟨kept, _⟩ := appendText_restored collected rfl
    have stop : CMD_PREFIX <+: APPPEND_STOP := by decide
    cases run with
    | put notes source =>
      let written := LineText.readLines (trim (LineText.writeLines body))
      have split : [] ++ controlLine false APPPEND_START taskId :: (written ++ APPPEND_STOP :: out) =
          gap ++ controlLine false APPPEND_START id :: (body ++ APPPEND_STOP :: outMore) := by
        simpa [Directive.rendered, Directive.command, PatchCommand.new, PatchCommand.notes,
          perfixComment, Function.comp_def] using same
      obtain ⟨rfl, control, back⟩ := plain_unique split (by simp)
        (controlLine_command APPPEND_START taskId (by decide)) gapPlain
        (controlLine_command APPPEND_START id (by decide))
      obtain ⟨bodies, _, rfl⟩ := plain_unique back (fun other member => (kept other member).1) stop
        (fun other member => (lines other member).2.2) stop
      have anchored := (body_kept body lines first last).mp bodies
      exact ⟨⟨rfl, (controlLine_injective control).symm, anchored⟩, whole.symm, rfl⟩

/-- An anchored directive leaves its own lines. -/
theorem directive_anchored {directive : Directive} {taskId : Int32} (more : List Text)
    (wellFormed : directive.WellFormed) (anchored : directive.Anchored taskId) :
    ∃ marks, (directive.edit taskId).Run (directive.source ++ more) marks more ∧
      writes marks = directive.rendered taskId := by
  cases directive with
  | findNext gap line =>
    have run := Edit.Run.seek (Hits (trim line))
      [(Origin.control, controlLine false FIND_NEXT_LANDMARK taskId)] gap line more anchored
      (hits_itself line)
    refine ⟨gap.map .copied ++ stamp [(Origin.control, controlLine false FIND_NEXT_LANDMARK taskId)] ++
      [.copied line], ?_, ?_⟩
    · have source : (Directive.findNext gap line).source ++ more = gap ++ line :: more := by
        simp [Directive.source]
      rw [source]
      exact run
    · simp [Directive.rendered]
  | followBy gap line =>
    obtain rfl : gap = [] := anchored
    have run := Edit.Run.follow (Hits (trim line))
      [(Origin.control, controlLine false FOLLOW_BY taskId)] line more (hits_itself line)
    exact ⟨_, run, by simp [Directive.rendered]⟩
  | append gap id body =>
    obtain ⟨rfl, rfl, last⟩ := anchored
    obtain ⟨_, lines, first, shown⟩ := wellFormed
    have kept := (body_kept body lines first shown).mpr last
    refine ⟨_, .put _ more, ?_⟩
    simp [Directive.rendered, Directive.command, PatchCommand.new, PatchCommand.notes,
      perfixComment, Function.comp_def, kept]

/-- Source lines of well-formed directives are plain. -/
theorem directive_plain {directive : Directive} (wellFormed : directive.WellFormed) :
    ∀ other ∈ directive.source, Plain other := by
  cases directive with
  | findNext gap line => exact wellFormed
  | followBy gap line => exact wellFormed
  | append gap id body => exact wellFormed.1

theorem directives_plain {directives : List Directive}
    (wellFormed : ∀ directive ∈ directives, directive.WellFormed) :
    ∀ other ∈ directives.flatMap Directive.source, Plain other := by
  intro other member
  obtain ⟨directive, among, line⟩ := List.mem_flatMap.mp member
  exact directive_plain (wellFormed directive among) other line

/-- The same for the directives of a task, one after another. -/
theorem directives_exact (directives : List Directive) {taskId : Int32}
    {more rest out outMore : List Text} {marks : Record}
    (wellFormed : ∀ directive ∈ directives, directive.WellFormed)
    (plain : ∀ other ∈ more, Plain other)
    (run : Chain Edit.Run (directives.map (Directive.edit taskId))
      (directives.flatMap Directive.source ++ more) marks rest)
    (same : writes marks ++ out =
      directives.flatMap (Directive.rendered taskId) ++ outMore) :
    (∀ directive ∈ directives, directive.Anchored taskId) ∧ rest = more ∧ out = outMore := by
  induction directives generalizing marks with
  | nil =>
    cases run
    exact ⟨by simp, rfl, same⟩
  | cons directive directives ih =>
    rw [List.flatMap_cons, List.append_assoc] at run
    generalize whole : directive.source ++ (directives.flatMap Directive.source ++ more) = source
      at run
    cases run with
    | step first remaining =>
      rename_i middle front back
      subst whole
      have laterWellFormed : ∀ other ∈ directives, other.WellFormed :=
        fun other member => wellFormed other (by simp [member])
      have laterPlain : ∀ other ∈ directives.flatMap Directive.source ++ more, Plain other := by
        intro other member
        cases List.mem_append.mp member with
        | inl early => exact directives_plain laterWellFormed other early
        | inr late => exact plain other late
      rw [writes_append, List.append_assoc, List.flatMap_cons, List.append_assoc] at same
      obtain ⟨anchored, rfl, sameBack⟩ :=
        directive_exact (wellFormed directive (by simp)) laterPlain first same
      obtain ⟨laterAnchored, rfl, rfl⟩ := ih laterWellFormed remaining sameBack
      exact ⟨by simpa using ⟨anchored, laterAnchored⟩, rfl, rfl⟩

theorem directives_anchored (directives : List Directive) {taskId : Int32} (more : List Text)
    (wellFormed : ∀ directive ∈ directives, directive.WellFormed)
    (anchored : ∀ directive ∈ directives, directive.Anchored taskId) :
    ∃ marks, Chain Edit.Run (directives.map (Directive.edit taskId))
        (directives.flatMap Directive.source ++ more) marks more ∧
      writes marks = directives.flatMap (Directive.rendered taskId) := by
  induction directives with
  | nil => exact ⟨[], .done more, rfl⟩
  | cons directive directives ih =>
    obtain ⟨back, remaining, backWritten⟩ :=
      ih (fun other member => wellFormed other (by simp [member]))
        (fun other member => anchored other (by simp [member]))
    obtain ⟨front, first, frontWritten⟩ :=
      directive_anchored (directives.flatMap Directive.source ++ more)
        (wellFormed directive (by simp)) (anchored directive (by simp))
    refine ⟨front ++ back, ?_, by simp [frontWritten, backWritten]⟩
    rw [List.flatMap_cons, List.append_assoc]
    exact .step first remaining

theorem annotated_edits (task : AnnotatedTask) :
    (task.task.script false).edits = task.directives.map (Directive.edit task.taskId) := by
  simp [AnnotatedTask.task, PatchTask.script, Directive.edit, Function.comp_def]

theorem task_plain {task : AnnotatedTask} (wellFormed : task.WellFormed) :
    ∀ other ∈ task.source, Plain other := by
  intro other member
  simp only [AnnotatedTask.source, List.mem_append, List.mem_cons] at member
  rcases member with early | rfl | late
  · exact wellFormed.1 other (by simp [early])
  · exact wellFormed.1 task.line (by simp)
  · exact directives_plain wellFormed.2 other late

theorem tasks_plain {tasks : List AnnotatedTask} {tail : List Text}
    (wellFormed : ∀ task ∈ tasks, task.WellFormed) (plain : ∀ other ∈ tail, Plain other) :
    ∀ other ∈ tasks.flatMap AnnotatedTask.source ++ tail, Plain other := by
  intro other member
  cases List.mem_append.mp member with
  | inl early =>
    obtain ⟨task, among, line⟩ := List.mem_flatMap.mp early
    exact task_plain (wellFormed task among) other line
  | inr late => exact plain other late

/-- If a pass writes the annotated lines, every task was anchored.

Follow the pass along the annotated lines. Both begin with plain lines up to
the first control line, so the pass copied exactly the lines of the gap, none of
which it hit. What is read and written after the task is again what stands after
it. A task that misses its landmark writes no control line at all. -/
theorem tasks_exact (tasks : List AnnotatedTask) {tail rest : List Text} {marks : Record}
    (wellFormed : ∀ task ∈ tasks, task.WellFormed) (plain : ∀ other ∈ tail, Plain other)
    (run : Chain Task.Run (tasks.map fun task => task.task.script false)
      (tasks.flatMap AnnotatedTask.source ++ tail) marks rest)
    (same : writes marks ++ rest = tasks.flatMap AnnotatedTask.rendered ++ tail) :
    ∀ task ∈ tasks, task.Anchored := by
  induction tasks generalizing marks with
  | nil => simp
  | cons task tasks ih =>
    have start : CMD_PREFIX <+: START ++ ' ' :: printInt task.taskId :=
      controlLine_command START task.taskId (by decide)
    have allPlain := tasks_plain wellFormed plain
    have laterWellFormed : ∀ other ∈ tasks, other.WellFormed :=
      fun other member => wellFormed other (by simp [member])
    generalize whole : (task :: tasks).flatMap AnnotatedTask.source ++ tail = source at run allPlain
    cases run with
    | step first remaining =>
      rename_i middle front back
      cases first with
      | missed passed =>
        obtain ⟨rfl, rfl⟩ := tasks_nothing remaining
        have among : START ++ ' ' :: printInt task.taskId ∈ source := by
          have written : source = (task :: tasks).flatMap AnnotatedTask.rendered ++ tail := by
            simpa using same
          rw [written]
          simp [AnnotatedTask.rendered]
        exact absurd (allPlain _ among) (not_plain start)
      | found carried =>
        cases carried with
        | found gap line middle after later passed met edited =>
          have sourceSplit : gap ++ line :: middle = task.gap ++ task.line ::
              (task.directives.flatMap Directive.source ++
                (tasks.flatMap AnnotatedTask.source ++ tail)) := by
            simp [← whole, AnnotatedTask.source]
          have split : gap ++ (START ++ ' ' :: printInt task.taskId) ::
                (line :: (writes later ++ (writes back ++ rest))) =
              task.gap ++ (START ++ ' ' :: printInt task.taskId) :: (task.line ::
                (task.directives.flatMap (Directive.rendered task.taskId) ++
                  (tasks.flatMap AnnotatedTask.rendered ++ tail))) := by
            simpa [AnnotatedTask.rendered, PatchTask.script, PatchTask.notes, AnnotatedTask.task,
              PatchTask.new] using same
          obtain ⟨gaps, _, lines⟩ := plain_unique split
            (fun other member => allPlain other (by simp [member])) start
            (fun other member => (wellFormed task (by simp)).1 other (by simp [member])) start
          obtain ⟨rfl, written⟩ := List.cons.inj lines
          subst gaps
          obtain ⟨_, rfl⟩ := List.cons.inj (List.append_cancel_left sourceSplit)
          rw [annotated_edits] at edited
          obtain ⟨anchored, rfl, sameBack⟩ := directives_exact task.directives
            (wellFormed task (by simp)).2 (tasks_plain laterWellFormed plain) edited written
          have laterAnchored := ih laterWellFormed remaining sameBack
          intro other member
          cases List.mem_cons.mp member with
          | inl isTask =>
            subst isTask
            exact ⟨passed, anchored⟩
          | inr later => exact laterAnchored other later

/-- A pass over anchored tasks writes the annotated lines. -/
theorem tasks_anchored (tasks : List AnnotatedTask) (tail : List Text)
    (wellFormed : ∀ task ∈ tasks, task.WellFormed) (anchored : ∀ task ∈ tasks, task.Anchored) :
    ∃ marks, Chain Task.Run (tasks.map fun task => task.task.script false)
        (tasks.flatMap AnnotatedTask.source ++ tail) marks tail ∧
      writes marks = tasks.flatMap AnnotatedTask.rendered := by
  induction tasks with
  | nil => exact ⟨[], .done tail, rfl⟩
  | cons task tasks ih =>
    obtain ⟨back, remaining, backWritten⟩ :=
      ih (fun other member => wellFormed other (by simp [member]))
        (fun other member => anchored other (by simp [member]))
    obtain ⟨passed, directives⟩ := anchored task (by simp)
    obtain ⟨later, edited, laterWritten⟩ := directives_anchored task.directives
      (tasks.flatMap AnnotatedTask.source ++ tail) (wellFormed task (by simp)).2 directives
    rw [← annotated_edits] at edited
    have carried := Task.Run.found (Task.Found.found task.gap task.line _ _ later passed
      (hits_itself task.line) edited)
    have source : (task :: tasks).flatMap AnnotatedTask.source ++ tail =
        task.gap ++ task.line :: (task.directives.flatMap Directive.source ++
          (tasks.flatMap AnnotatedTask.source ++ tail)) := by
      simp [AnnotatedTask.source]
    have run := Chain.step carried remaining
    rw [← source] at run
    refine ⟨_, run, ?_⟩
    simp [AnnotatedTask.rendered, PatchTask.script, PatchTask.notes, AnnotatedTask.task,
      PatchTask.new, laterWritten, backWritten]

end Applying

section Restoring

/-- The lines of an annotated file, with or without a header before them. -/
def AnnotatedFile.Lines (file : AnnotatedFile) (lines : List Text) : Prop :=
  lines = file.rendered ∨ ∃ header, ORIGINAL <+: header ∧ lines = header :: file.rendered

/-- The annotated lines do not begin with a header. -/
theorem rendered_unheaded {file : AnnotatedFile} (wellFormed : file.WellFormed) {line : Text}
    {rest : List Text} (whole : file.rendered = line :: rest) : ¬ ORIGINAL <+: line := by
  have plainUnheaded : ∀ other, Plain other → ¬ ORIGINAL <+: other := by
    intro other plain header
    have command : CMD_PREFIX <+: ORIGINAL := by decide
    exact not_plain (command.trans header) plain
  obtain ⟨tasks, tail⟩ := file
  obtain ⟨tasksWellFormed, plain⟩ := wellFormed
  cases tasks with
  | nil =>
    have isTail : tail = line :: rest := whole
    exact plainUnheaded line (plain line (by simp [isTail]))
  | cons task tasks =>
    obtain ⟨gap, taskId, anchor, directives⟩ := task
    cases gap with
    | nil =>
      have isStart : START ++ ' ' :: printInt taskId = line := by
        simp only [AnnotatedFile.rendered, List.flatMap_cons, AnnotatedTask.rendered,
          List.nil_append, List.cons_append] at whole
        exact (List.cons.inj whole).1
      subst isStart
      intro header
      have start : START <+: START ++ ' ' :: printInt taskId := List.prefix_append _ _
      cases List.prefix_or_prefix_of_prefix header start with
      | inl shorter => exact absurd shorter (by decide)
      | inr longer => exact absurd longer (by decide)
    | cons first gap =>
      have isFirst : first = line := by
        simp only [AnnotatedFile.rendered, List.flatMap_cons, AnnotatedTask.rendered,
          List.cons_append] at whole
        exact (List.cons.inj whole).1
      subst isFirst
      exact plainUnheaded first ((tasksWellFormed _ List.mem_cons_self).1 first (by simp))

/-- A patch that is read from an annotated file has the tasks of the file. -/
theorem annotated_tasks {file : AnnotatedFile} (wellFormed : file.WellFormed) (filename : Text)
    (lines : List Text) (patch : PatchFile) (annotated : file.Lines lines)
    (built : buildPatchLines filename lines = .ok (some patch)) :
    patch.patchTasks = file.tasks.map AnnotatedTask.task ∧ file.tasks ≠ [] := by
  obtain ⟨line, rest, finished, ptask, rfl, loop, shown, rfl⟩ :=
    (buildPatchLines_ok_iff filename lines patch).mp built
  have body : (readHeader filename line rest).2 = file.rendered := by
    rcases annotated with whole | ⟨header, starts, whole⟩
    · have unheaded : startsWith line ORIGINAL = false := by
        rw [← Bool.not_eq_true, startsWith_iff]
        exact rendered_unheaded wellFormed whole.symm
      simp [readHeader, getOriginalFilename, unheaded, whole]
    · obtain ⟨rfl, rfl⟩ := List.cons.inj whole
      have headed : startsWith line ORIGINAL = true := (startsWith_iff _ _).mpr starts
      simp [readHeader, getOriginalFilename, headed]
  have read := annotated_read file.tasks file.tail wellFormed.1 wellFormed.2 {}
  rw [body, AnnotatedFile.rendered, read] at loop
  have tasks := congrArg BuildState.tasks (Except.ok.inj loop)
  rw [startAll_tasks] at tasks
  have same : finished ++ [ptask] = file.tasks.map AnnotatedTask.task := by
    simpa [BuildState.tasks] using tasks.symm
  refine ⟨same, ?_⟩
  rintro empty
  simp [empty] at same

theorem annotated_singleLine {file : AnnotatedFile} {patch : PatchFile}
    (tasks : patch.patchTasks = file.tasks.map AnnotatedTask.task) : patch.SingleLine := by
  intro task member cmd cmdMember kind
  rw [tasks] at member
  obtain ⟨annotated, _, rfl⟩ := List.mem_map.mp member
  obtain ⟨directive, _, rfl⟩ := List.mem_map.mp cmdMember
  cases directive <;> contradiction

/-- A patch from an annotated file, applied to the source lines of the file,
restores the annotated lines below a header exactly when the file is anchored. -/
theorem patchContent_annotated_iff (file : AnnotatedFile) (wellFormed : file.WellFormed)
    (filename : Text) (library : Disk) (annotated : Text)
    (stored : library.files filename = some annotated)
    (lines : file.Lines (LineText.readLines annotated)) (patch : PatchFile)
    (built : ((buildPatchFile filename).on library).1 = .ok (some patch))
    (noScript : getFileName patch.originalFileName ≠ .ok CMAKE_FILE) (disk : Disk) (content : Text)
    (source : disk.files patch.originalFileName = some content)
    (sourceLines : LineText.readLines content = file.source) :
    (∃ after saved, patch.patchContent.on disk = (.ok (), after) ∧
      after.files patch.originalFileName = some saved ∧
      LineText.readLines saved =
        (ORIGINAL ++ ' ' :: patch.originalFileName) :: file.rendered) ↔ file.Anchored := by
  obtain ⟨other, otherStored, built⟩ := buildPatchFile_lines filename library patch built
  obtain rfl : annotated = other := Option.some.inj (stored.symm.trans otherStored)
  obtain ⟨tasks, shown⟩ := annotated_tasks wellFormed filename _ patch lines built
  have script : patch.forCMake = false := by simp [PatchFile.forCMake, noScript]
  have header : patch.header = ORIGINAL ++ ' ' :: patch.originalFileName := by
    simp [PatchFile.header, PatchFile.patchCode, script]
  have scripts : patch.scripts = file.tasks.map fun task => task.task.script false := by
    simp [PatchFile.scripts, script, tasks, Function.comp_def]
  have whole (record : Record) (pass : patch.Pass (LineText.readLines content) record) :=
    pass_oneLine patch _ record pass (annotated_singleLine tasks) (disk.named _ _ source).oneLine
      (LineText.readLines_oneLine content)
  constructor
  · rintro ⟨after, saved, completed, afterStored, restored⟩
    obtain ⟨other, record, otherSource, unpatched, pass, rfl⟩ :=
      (patchContent_ok_iff patch disk after).mp completed
    obtain rfl : content = other := Option.some.inj (source.symm.trans otherSource)
    rw [Disk.write_same, Option.some.injEq] at afterStored
    rw [← afterStored, LineText.readLines_writeLines _ (whole record pass), ← header] at restored
    cases pass with
    | pass marks rest run =>
      rw [scripts, sourceLines] at run
      have written : writes marks ++ rest = file.rendered := by
        simpa [PatchFile.recordOf] using restored
      exact tasks_exact file.tasks wellFormed.1 wellFormed.2 run written
  · intro anchored
    obtain ⟨marks, run, written⟩ := tasks_anchored file.tasks file.tail wellFormed.1 anchored
    have pass : patch.Pass (LineText.readLines content) (patch.recordOf marks file.tail) := by
      apply PatchFile.Pass.pass
      rw [scripts, sourceLines]
      exact run
    have unpatched : patch.Unpatched (LineText.readLines content) := by
      have plain := tasks_plain wellFormed.1 wellFormed.2
      cases first : file.source with
      | nil =>
        obtain ⟨task, among⟩ := List.exists_mem_of_ne_nil _ shown
        have member : task.line ∈ file.source :=
          List.mem_append_left _ (List.mem_flatMap.mpr ⟨task, among, by simp [AnnotatedTask.source]⟩)
        simp [first] at member
      | cons line rest =>
        refine ⟨line, rest, sourceLines.trans first, ?_⟩
        have linePlain : Plain line := plain line (by rw [← AnnotatedFile.source, first]; simp)
        simp only [PatchFile.patchCode, script, Bool.false_eq_true, if_false]
        intro begins
        have command : CMD_PREFIX <+: ORIGINAL := by decide
        exact not_plain (command.trans begins) linePlain
    have completed := (patchContent_ok_iff patch disk _).mpr
      ⟨content, patch.recordOf marks file.tail, source, unpatched, pass, rfl⟩
    refine ⟨_, _, completed, Disk.write_same _ _ _ _, ?_⟩
    rw [LineText.readLines_writeLines _ (whole _ pass), ← header]
    simp [PatchFile.recordOf, written, AnnotatedFile.rendered]

/-- A block after the first of two lines, with an indented anchor. -/
theorem patchContent_annotated_two_lines :
    let disk := (Disk.empty .exact).write "a.h".toList "  one\ntwo\n".toList (by decide)
    ∃ (patch : PatchFile) (after : Disk) (saved : Text),
      patch.patchContent.on disk = (.ok (), after) ∧
      after.files patch.originalFileName = some saved ∧
      LineText.readLines saved = ["//###_ORIGINAL a.h".toList, "//###_START 0".toList,
        "  one".toList, "//###_APPEND_START 0".toList, "new".toList, "//###_APPEND_STOP".toList,
        "two".toList] := by
  intro disk
  let file : AnnotatedFile :=
    ⟨[⟨[], 0, "  one".toList, [.append [] 0 ["new".toList]]⟩], ["two".toList]⟩
  let library := (Disk.empty .exact).write "a.h".toList (LineText.writeLines file.rendered) (by decide)
  let patch : PatchFile := ⟨"a.h".toList, [(PatchTask.new "one".toList 0).append "new".toList]⟩
  obtain ⟨after, saved, completed, stored, restored⟩ :=
    (patchContent_annotated_iff file (by decide) "a.h".toList library _ rfl
      (Or.inl (by decide +kernel)) patch (by decide +kernel) (by decide) disk _ rfl
      (by decide)).mpr (by decide)
  exact ⟨patch, after, saved, completed, stored, restored.trans (by decide +kernel)⟩

/-- A file with two closing braces and a block after the second. The patch that is
read from it puts the block after the first. -/
theorem patchContent_annotated_moved :
    let file : AnnotatedFile :=
      ⟨[⟨["void f() \x7b".toList, "\x7d".toList, "void g() \x7b".toList], 0, "\x7d".toList,
        [.append [] 0 ["new".toList]]⟩], []⟩
    let library := (Disk.empty .exact).write "a.h".toList (LineText.writeLines file.rendered) (by decide)
    let disk := (Disk.empty .exact).write "a.h".toList (LineText.writeLines file.source) (by decide)
    let patch : PatchFile := ⟨"a.h".toList, [(PatchTask.new "\x7d".toList 0).append "new".toList]⟩
    file.WellFormed ∧
      ((buildPatchFile "a.h".toList).on library).1 = .ok (some patch) ∧
      (patch.patchContent.on disk).1 = .ok () ∧
      (patch.patchContent.on disk).2.files "a.h".toList ≠
        some (LineText.writeLines ("//###_ORIGINAL a.h".toList :: file.rendered)) := by
  decide +kernel

end Restoring

end CefBridge.Patcher
