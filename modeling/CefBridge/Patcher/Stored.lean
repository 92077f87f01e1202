import CefBridge.Patcher.Reading

/-!
# Saving a patch and loading it again

`Stored` says what holds of every patch that was read from a file. Landmarks and
operands are lines, the ids of commands are those of their tasks, and an append
text is the trimmed text of a body without margins and without commands. A patch
of this shape is printed, and reading the printed lines returns it.
-/

namespace CefBridge.Patcher

open Library

/-- A text that the loop can collect for an append command. -/
def Collected (text : Text) : Prop :=
  ∃ body : List Text,
    (∀ line ∈ body, LineText.OneLine line ∧ trimStart line = line ∧ Plain line) ∧
      text = LineText.writeLines body

/-- A command as it is read under a task id. -/
def PatchCommand.Stored (taskId : Int32) (cmd : PatchCommand) : Prop :=
  cmd.taskId = taskId ∧
    match cmd.comandKind with
    | .appendStringStart => ∃ text, Collected text ∧ cmd.string = trim text
    | .findNextLandMark => LineText.OneLine cmd.string
    | .followBy => LineText.OneLine cmd.string
    | .skipUntilPass => LineText.OneLine cmd.string
    | .skipUntilAndAccept => LineText.OneLine cmd.string
    | .appendStringStop => False
    | .unknown => False

/-- A task as it is read. -/
structure PatchTask.Stored (task : PatchTask) : Prop where
  landMark : LineText.OneLine task.landMark
  commands : ∀ cmd ∈ task.commands, cmd.Stored task.taskId

def BuildState.Stored (state : BuildState) : Prop := ∀ task ∈ state.tasks, task.Stored

section Reading

theorem oneLine_trim {line : Text} (whole : LineText.OneLine line) :
    LineText.OneLine (trim line) :=
  whole.of_subset fun _ member => Trimming.mem_of_mem_trim member

theorem collected_nil : Collected [] := ⟨[], by simp, rfl⟩

/-- One more line is collected without its margin. -/
theorem Collected.line {text raw : Text} (collected : Collected text)
    (whole : LineText.OneLine raw) (plain : Plain raw) :
    Collected (text ++ trimStart raw ++ LineText.newLine) := by
  obtain ⟨body, lines, rfl⟩ := collected
  refine ⟨body ++ [trimStart raw], ?_, by simp⟩
  intro line member
  cases List.mem_append.mp member with
  | inl early => exact lines line early
  | inr last =>
    obtain rfl := List.mem_singleton.mp last
    have flush : trimStart (trimStart raw) = trimStart raw := Trimming.trimStart_trimStart raw
    refine ⟨?_, flush, ?_⟩
    · exact whole.of_subset fun _ symbol => Trimming.mem_of_mem_trimStart symbol
    · rw [Plain, flush]
      exact plain

/-- The rest of a control line is part of the line. -/
theorem getTaskId_text {line text : Text} {startPos : Nat} {taskId : Int32}
    (read : getTaskId line startPos = .ok (taskId, some text)) : ∀ symbol ∈ text, symbol ∈ line := by
  intro symbol member
  simp only [getTaskId] at read
  split at read
  · cases parsed : parseInt (trim (line.drop startPos)) with
    | error fault => simp only [parsed, bind, Except.bind, reduceCtorEq] at read
    | ok parsedId =>
      simp only [parsed, bind, Except.bind, pure, Except.pure, Except.ok.injEq, Prod.mk.injEq,
        reduceCtorEq, and_false] at read
  · rename_i fromSpace _
    cases parsed : parseInt (trim (trim ((line.drop startPos).takeWhile (· != ' ')))) with
    | error fault => simp only [parsed, bind, Except.bind, reduceCtorEq] at read
    | ok parsedId =>
      simp only [parsed, bind, Except.bind, pure, Except.pure, Except.ok.injEq, Prod.mk.injEq,
        Option.some.injEq] at read
      have trimmed : symbol ∈ (line.drop startPos).dropWhile (· != ' ') :=
        Trimming.mem_of_mem_trim (read.2 ▸ member)
      exact List.mem_of_mem_drop ((List.dropWhile_sublist _).subset trimmed)

/-- A task grows by a command of its own id. -/
theorem PatchTask.Stored.add {task : PatchTask} (stored : task.Stored) (kind : PatchCommandKind)
    (str : Text) (shape : (PatchCommand.new task.taskId kind str).Stored task.taskId) :
    (task.add kind str).Stored := by
  refine ⟨stored.landMark, ?_⟩
  intro cmd member
  cases List.mem_append.mp member with
  | inl early => exact stored.commands cmd early
  | inr last => exact List.mem_singleton.mp last ▸ shape

/-- Replacing the current task by a stored one. -/
theorem BuildState.Stored.replace {finished : List PatchTask} {ptask grown : PatchTask}
    (stored : BuildState.Stored ⟨finished, some ptask⟩) (grows : ptask.Stored → grown.Stored) :
    BuildState.Stored ⟨finished, some grown⟩ := by
  intro task member
  cases List.mem_append.mp member with
  | inl early => exact stored task (List.mem_append_left _ early)
  | inr last =>
    obtain rfl := List.mem_singleton.mp last
    exact grows (stored ptask (by simp [BuildState.tasks]))

/-- The commands with an operand store it trimmed. -/
theorem operandCommand_stored {name operand : Text} {add : PatchTask → Text → PatchTask}
    (adds : operandCommand name = some add) (whole : LineText.OneLine operand) {task : PatchTask}
    (stored : task.Stored) : (add task operand).Stored := by
  have trimmed := oneLine_trim whole
  unfold operandCommand at adds
  split at adds
  · cases adds
    exact stored.add .findNextLandMark operand ⟨rfl, trimmed⟩
  · split at adds
    · cases adds
      exact stored.add .followBy operand ⟨rfl, trimmed⟩
    · split at adds
      · cases adds
        exact stored.add .skipUntilAndAccept operand ⟨rfl, trimmed⟩
      · contradiction

/-- Reading keeps to stored tasks. -/
theorem Reads.stored {collected : Option Text} {state final : BuildState} {lines : List Text}
    (run : Reads collected state lines final) (whole : ∀ line ∈ lines, LineText.OneLine line)
    (collecting : ∀ text, collected = some text → Collected text) (stored : state.Stored) :
    final.Stored := by
  induction run with
  | done state => exact stored
  | pass state final raw rest plain remaining ih =>
    exact ih (fun line member => whole line (by simp [member])) (by simp) stored
  | start state final raw cmdValue rest taskId info control remaining ih =>
    apply ih (fun line member => whole line (by simp [member])) (by simp)
    intro task member
    cases List.mem_append.mp member with
    | inl early => exact stored task early
    | inr last =>
      obtain rfl := List.mem_singleton.mp last
      exact ⟨oneLine_trim (whole cmdValue (by simp)), by simp [PatchTask.new]⟩
  | openAppend state final raw rest taskId info control remaining ih =>
    apply ih (fun line member => whole line (by simp [member])) ?_ stored
    rintro text ⟨⟩
    exact collected_nil
  | skip finished ptask final raw text rest taskId control remaining ih =>
    apply ih (fun line member => whole line (by simp [member])) (by simp)
    apply stored.replace
    intro ptaskStored
    have line : LineText.OneLine text := by
      apply (whole raw (by simp)).of_subset
      intro symbol member
      exact Trimming.mem_of_mem_trimStart (getTaskId_text control.read symbol member)
    exact ptaskStored.add .skipUntilPass text ⟨rfl, oneLine_trim line⟩
  | operand finished ptask final raw name cmdValue rest info add control adds remaining ih =>
    apply ih (fun line member => whole line (by simp [member])) (by simp)
    exact stored.replace (operandCommand_stored adds (whole cmdValue (by simp)))
  | collect collected state final raw rest plain remaining ih =>
    apply ih (fun line member => whole line (by simp [member])) ?_ stored
    rintro text ⟨⟩
    exact (collecting collected rfl).line (whole raw (by simp)) plain
  | close collected finished ptask final raw rest stop remaining ih =>
    apply ih (fun line member => whole line (by simp [member])) (by simp)
    apply stored.replace
    intro ptaskStored
    exact ptaskStored.add .appendStringStart collected
      ⟨rfl, collected, collecting collected rfl, rfl⟩

end Reading

section Printing

/-- The lines that print a task of a stored patch. -/
def PatchTask.printed (task : PatchTask) : List Text :=
  (START ++ ' ' :: printInt task.taskId) :: task.landMark ::
    task.commands.flatMap fun cmd => (cmd.printed false true).getD []

/-- A stored command can be printed. -/
theorem PatchCommand.Stored.printed_eq {cmd : PatchCommand} {taskId : Int32}
    (stored : cmd.Stored taskId) :
    cmd.printed false true = some ((cmd.printed false true).getD []) := by
  cases kind : cmd.comandKind with
  | unknown => exact absurd stored.2 (by simp [kind])
  | appendStringStop => simp [PatchCommand.printed, kind]
  | appendStringStart => simp [PatchCommand.printed, kind]
  | findNextLandMark => simp [PatchCommand.printed, kind]
  | followBy => simp [PatchCommand.printed, kind]
  | skipUntilPass => simp [PatchCommand.printed, kind]
  | skipUntilAndAccept => simp [PatchCommand.printed, kind]

theorem writeCommands_eq (cmds : List PatchCommand) (taskId : Int32) (output : SourceFile)
    (script : output.isCMakeFile = false) (stored : ∀ cmd ∈ cmds, cmd.Stored taskId) :
    cmds.foldlM (fun output cmd => writeCommand output cmd true) output =
      .ok (output.addLines (cmds.flatMap fun cmd => (cmd.printed false true).getD [])) := by
  induction cmds generalizing output with
  | nil => rfl
  | cons cmd cmds ih =>
    have printed := (stored cmd (by simp)).printed_eq
    rw [List.foldlM_cons, writeCommand_eq, script, printed]
    change cmds.foldlM _ _ = _
    rw [ih _ (by simpa using script) fun other member => stored other (by simp [member])]
    simp

theorem writeTask_eq (task : PatchTask) (output : SourceFile)
    (script : output.isCMakeFile = false) (stored : task.Stored) :
    writeTask output task = .ok (output.addLines task.printed) := by
  rw [writeTask, writeCommands_eq task.commands task.taskId _ (by simpa using script)
    stored.commands]
  simp [PatchTask.printed, SourceFile.addLine_eq]

theorem writeTasks_eq (tasks : List PatchTask) (output : SourceFile)
    (script : output.isCMakeFile = false) (stored : ∀ task ∈ tasks, task.Stored) :
    tasks.foldlM writeTask output = .ok (output.addLines (tasks.flatMap PatchTask.printed)) := by
  induction tasks generalizing output with
  | nil => rfl
  | cons task tasks ih =>
    rw [List.foldlM_cons, writeTask_eq task output script (stored task (by simp))]
    change tasks.foldlM _ _ = _
    rw [ih _ (by simpa using script) fun other member => stored other (by simp [member])]
    simp

end Printing

section Loading

/-- The constructor restores a command from its own string. -/
theorem PatchCommand.new_eq {cmd : PatchCommand} {taskId : Int32} {kind : PatchCommandKind}
    {str : Text} (same : cmd.taskId = taskId) (ofKind : cmd.comandKind = kind)
    (string : trim str = cmd.string) : PatchCommand.new taskId kind str = cmd := by
  obtain ⟨comandKind, id, text, trimmed⟩ := cmd
  obtain rfl : id = taskId := same
  obtain rfl : comandKind = kind := ofKind
  obtain rfl : trim str = text := string
  rfl

/-- A stored append text is restored from its printed lines. -/
theorem appendText_restored {text string : Text} (collected : Collected text)
    (trimmed : trim text = string) :
    (∀ line ∈ LineText.readLines string, Plain line ∧ trimStart line = line) ∧
      trim (LineText.writeLines ((LineText.readLines string).map trimStart)) = string := by
  subst trimmed
  obtain ⟨body, lines, rfl⟩ := collected
  have returnBlank : isWhiteSpace '\r' = true := by decide
  have feedBlank : isWhiteSpace '\n' = true := by decide
  obtain ⟨kept, restored⟩ := LineText.stored_block returnBlank feedBlank body
    (fun line member => (lines line member).1) (fun line member => (lines line member).2.1)
  let bodyLines := LineText.readLines (trim (LineText.writeLines body))
  have flush : ∀ line ∈ bodyLines, trimStart line = line := fun line member => (kept line member).1
  constructor
  · intro line member
    refine ⟨?_, flush line member⟩
    obtain ⟨_, whole, among, begins⟩ := kept line member
    have plain := (lines whole among).2.2
    rw [Plain, (lines whole among).2.1] at plain
    rw [Plain, flush line member]
    exact fun command => plain (command.trans begins)
  · have same : bodyLines.map trimStart = bodyLines := (List.map_congr_left flush).trans (List.map_id _)
    rw [show LineText.readLines _ = bodyLines from rfl, same]
    exact restored

/-- The printed lines of a stored command give it back to its task. -/
theorem buildLoop_command (finished : List PatchTask) (task : PatchTask) (cmd : PatchCommand)
    (stored : cmd.Stored task.taskId) (rest : List Text) :
    buildLoop none ⟨finished, some task⟩ ((cmd.printed false true).getD [] ++ rest) =
      buildLoop none ⟨finished, some { task with commands := task.commands ++ [cmd] }⟩ rest := by
  obtain ⟨same, shape⟩ := stored
  have string : trim cmd.string = cmd.string := cmd.trimmed
  cases kind : cmd.comandKind with
  | unknown => exact absurd shape (by simp [kind])
  | appendStringStop => exact absurd shape (by simp [kind])
  | findNextLandMark =>
    simp only [PatchCommand.printed, kind, if_true, Option.getD_some, List.cons_append,
      List.nil_append, same, buildLoop_findNext]
    rw [PatchTask.findNext, PatchTask.add, PatchCommand.new_eq same kind string]
  | followBy =>
    simp only [PatchCommand.printed, kind, if_true, Option.getD_some, List.cons_append,
      List.nil_append, same, buildLoop_followBy]
    rw [PatchTask.followBy, PatchTask.add, PatchCommand.new_eq same kind string]
  | skipUntilAndAccept =>
    simp only [PatchCommand.printed, kind, if_true, Option.getD_some, List.cons_append,
      List.nil_append, same, buildLoop_skipUntilAndAccept]
    rw [PatchTask.skipUntilAndAccept, PatchTask.add, PatchCommand.new_eq same kind string]
  | skipUntilPass =>
    simp only [PatchCommand.printed, kind, Option.getD_some, List.cons_append, List.nil_append,
      buildLoop_skipUntilPass]
    rw [PatchTask.skipUntilPass, PatchTask.add, PatchCommand.new_eq same kind string]
  | appendStringStart =>
    rw [kind] at shape
    obtain ⟨text, collected, trimmed⟩ := shape
    obtain ⟨lines, restored⟩ := appendText_restored collected trimmed.symm
    have block := buildLoop_append finished task cmd.taskId rest (LineText.readLines cmd.string)
      fun line member => (lines line member).1
    simp only [PatchCommand.printed, kind, Option.getD_some, perfixComment, Bool.false_eq_true,
      if_false, List.nil_append, List.cons_append, List.append_assoc]
    rw [List.cons_append] at block
    rw [block, PatchTask.append, PatchTask.add, PatchCommand.new_eq same kind restored]

theorem buildLoop_commands (finished : List PatchTask) (task : PatchTask)
    (cmds : List PatchCommand) (stored : ∀ cmd ∈ cmds, cmd.Stored task.taskId) (rest : List Text) :
    buildLoop none ⟨finished, some task⟩
        ((cmds.flatMap fun cmd => (cmd.printed false true).getD []) ++ rest) =
      buildLoop none ⟨finished, some { task with commands := task.commands ++ cmds }⟩ rest := by
  induction cmds generalizing task with
  | nil => simp
  | cons cmd cmds ih =>
    rw [List.flatMap_cons, List.append_assoc,
      buildLoop_command finished task cmd (stored cmd (by simp)),
      ih { task with commands := task.commands ++ [cmd] } fun other member =>
        stored other (by simp [member])]
    simp

theorem PatchTask.new_eq (task : PatchTask) :
    { PatchTask.new task.landMark task.taskId with
      commands := (PatchTask.new task.landMark task.taskId).commands ++ task.commands } = task := by
  obtain ⟨landMark, taskId, commands, trimmed⟩ := task
  have same : trim landMark = landMark := trimmed
  simp [PatchTask.new, same]

/-- The printed lines of a stored task add it to the tasks. -/
theorem buildLoop_task (state : BuildState) (task : PatchTask) (stored : task.Stored)
    (rest : List Text) :
    buildLoop none state (task.printed ++ rest) = buildLoop none ⟨state.tasks, some task⟩ rest := by
  rw [PatchTask.printed, List.cons_append, List.cons_append, buildLoop_start, BuildState.start,
    buildLoop_commands _ (.new task.landMark task.taskId) task.commands stored.commands,
    PatchTask.new_eq]

/-- Printed tasks are read back as the tasks of the patch. -/
theorem buildLoop_tasks (tasks : List PatchTask) (state : BuildState)
    (stored : ∀ task ∈ tasks, task.Stored) :
    buildLoop none state (tasks.flatMap PatchTask.printed) = .ok (state.startAll tasks) := by
  induction tasks generalizing state with
  | nil => simp [buildLoop, BuildState.startAll]
  | cons task tasks ih =>
    rw [List.flatMap_cons, buildLoop_task state task (stored task (by simp)),
      ih _ fun other member => stored other (by simp [member]), startAll_cons]

end Loading

section RoundTrip

/-- A patch as it is read. -/
structure PatchFile.Stored (patch : PatchFile) : Prop where
  named : LineText.OneLine patch.originalFileName
  tasks : ∀ task ∈ patch.patchTasks, task.Stored
  last : ∃ tasks task, patch.patchTasks = tasks ++ [task] ∧ task.commands ≠ []

theorem PatchFile.Stored.singleLine {patch : PatchFile} (stored : patch.Stored) :
    patch.SingleLine := by
  intro task member cmd cmdMember kind
  have shape := ((stored.tasks task member).commands cmd cmdMember).2
  rw [kind] at shape
  exact shape

/-- Every patch that is read from lines is stored. -/
theorem buildPatchLines_stored (filename : Text) (lines : List Text) (patch : PatchFile)
    (named : LineText.OneLine filename) (whole : ∀ line ∈ lines, LineText.OneLine line)
    (built : buildPatchLines filename lines = .ok (some patch)) : patch.Stored := by
  obtain ⟨line, rest, finished, ptask, rfl, loop, shown, rfl⟩ :=
    (buildPatchLines_ok_iff filename lines patch).mp built
  obtain ⟨legal, lines⟩ := readHeader_lines filename line rest named whole
  have run := buildLoop_reads none {} _ _ loop
  have stored := run.stored lines (by simp) (by simp [BuildState.Stored, BuildState.tasks])
  exact ⟨legal, stored, finished, ptask, rfl, shown⟩

theorem buildPatchLines_trimmed (filename : Text) (lines : List Text) (patch : PatchFile)
    (trimmed : Trimmed filename) (built : buildPatchLines filename lines = .ok (some patch)) :
    Trimmed patch.originalFileName := by
  obtain ⟨line, rest, _, _, rfl, _, _, rfl⟩ :=
    (buildPatchLines_ok_iff filename lines patch).mp built
  exact readHeader_trimmed filename line rest trimmed

/-- The lines that print a patch. -/
def PatchFile.printed (patch : PatchFile) : List Text :=
  (ORIGINAL ++ ' ' :: patch.originalFileName) :: patch.patchTasks.flatMap PatchTask.printed

/-- A patch as it is loaded after it was saved: the name comes from the header. -/
def PatchFile.reloaded (patch : PatchFile) : PatchFile :=
  { patch with originalFileName := trim patch.originalFileName }

theorem PatchFile.reloaded_eq {patch : PatchFile} (trimmed : Trimmed patch.originalFileName) :
    patch.reloaded = patch := by
  have same : trim patch.originalFileName = patch.originalFileName := trimmed
  simp [reloaded, same]

/-- Reading the printed lines of a stored patch returns it, under any file name,
up to white space around the name of the original file. -/
theorem buildPatchLines_printed (patch : PatchFile) (stored : patch.Stored) (filename : Text) :
    buildPatchLines filename patch.printed = .ok (some patch.reloaded) := by
  obtain ⟨originalFileName, patchTasks⟩ := patch
  obtain ⟨_, tasksStored, tasks, task, rfl, shown⟩ := stored
  have header := readHeader_named filename originalFileName
    ((tasks ++ [task]).flatMap PatchTask.printed)
  refine (buildPatchLines_ok_iff _ _ _).mpr ⟨_, _, tasks, task, rfl, ?_, shown, ?_⟩
  · rw [header, buildLoop_tasks _ {} tasksStored, startAll_last]
    rfl
  · rw [header]
    rfl

theorem buildPatchFile_on (filename content : Text) (disk : Disk)
    (stored : disk.files filename = some content) :
    (buildPatchFile filename).on disk =
      (buildPatchLines filename (LineText.readLines content), disk) := by
  have read := FileM.on_readAllLines filename content disk stored
  simp only [buildPatchFile, SourceFile.readAllLines, FileM.on_bind, read, FileM.on_pure,
    List.nil_append]
  cases buildPatchLines filename (LineText.readLines content) <;> rfl

/-- A stored patch is saved as its printed lines. -/
theorem savePatchFile_on (patch : PatchFile) (stored : patch.Stored) (filename : Text)
    (legal : LegalName filename) (disk : Disk) :
    (patch.savePatchFile filename).on disk =
      (.ok (), disk.write filename (LineText.writeLines patch.printed) legal) := by
  simp only [PatchFile.savePatchFile]
  rw [writeTasks_eq patch.patchTasks _ rfl stored.tasks]
  have written := FileM.on_writeAllText filename (LineText.writeLines patch.printed) disk legal
  simpa [SourceFile.save, PatchFile.printed] using written

/-- A patch is saved only under a legal name. -/
theorem savePatchFile_legal {patch : PatchFile} (stored : patch.Stored) {filename : Text}
    {disk after : Disk} (saved : (patch.savePatchFile filename).on disk = (.ok (), after)) :
    LegalName filename := by
  by_contra illegal
  simp only [PatchFile.savePatchFile] at saved
  rw [writeTasks_eq patch.patchTasks _ rfl stored.tasks] at saved
  simp [SourceFile.save, writeAllText, illegal] at saved

/-- A control line and its operand are lines. -/
theorem oneLine_operand {name string : Text} (taskId : Int32) (named : LineText.OneLine name)
    (whole : LineText.OneLine string) :
    ∀ line ∈ [controlLine false name taskId, string], LineText.OneLine line := by
  intro line member
  simp only [List.mem_cons, List.not_mem_nil, or_false] at member
  rcases member with rfl | rfl
  · exact oneLine_controlLine false name taskId named
  · exact whole

/-- The printed lines of a stored command are lines. -/
theorem PatchCommand.Stored.oneLine {cmd : PatchCommand} {taskId : Int32}
    (stored : cmd.Stored taskId) :
    ∀ line ∈ (cmd.printed false true).getD [], LineText.OneLine line := by
  have shape := stored.2
  intro line member
  cases kind : cmd.comandKind with
  | unknown => exact absurd shape (by simp [kind])
  | appendStringStop => exact absurd shape (by simp [kind])
  | appendStringStart =>
    simp only [printed, kind, Option.getD_some, List.cons_append, List.mem_cons, List.mem_append,
      List.not_mem_nil, or_false] at member
    rcases member with rfl | text | rfl
    · exact oneLine_controlLine false APPPEND_START _ (by decide)
    · exact LineText.readLines_oneLine cmd.string line text
    · decide
  | findNextLandMark =>
    simp only [kind] at shape
    simp only [printed, kind, if_true, Option.getD_some] at member
    exact oneLine_operand cmd.taskId (by decide) shape line member
  | followBy =>
    simp only [kind] at shape
    simp only [printed, kind, if_true, Option.getD_some] at member
    exact oneLine_operand cmd.taskId (by decide) shape line member
  | skipUntilAndAccept =>
    simp only [kind] at shape
    simp only [printed, kind, if_true, Option.getD_some] at member
    exact oneLine_operand cmd.taskId (by decide) shape line member
  | skipUntilPass =>
    simp only [kind] at shape
    simp only [printed, kind, Option.getD_some, List.mem_cons, List.not_mem_nil,
      or_false] at member
    subst member
    exact (oneLine_controlLine false SKIP_UNTIL_PASS _ (by decide)).append (oneLine_space shape)

theorem PatchTask.Stored.oneLine {task : PatchTask} (stored : task.Stored) :
    ∀ line ∈ task.printed, LineText.OneLine line := by
  intro line member
  simp only [printed, List.mem_cons, List.mem_flatMap] at member
  rcases member with rfl | rfl | ⟨cmd, among, text⟩
  · exact oneLine_controlLine false START task.taskId (by decide)
  · exact stored.landMark
  · exact (stored.commands cmd among).oneLine line text

theorem PatchFile.Stored.oneLine {patch : PatchFile} (stored : patch.Stored) :
    ∀ line ∈ patch.printed, LineText.OneLine line := by
  intro line member
  simp only [printed, List.mem_cons, List.mem_flatMap] at member
  rcases member with rfl | ⟨task, among, text⟩
  · have header : LineText.OneLine ORIGINAL := by decide
    exact header.append (oneLine_space stored.named)
  · exact (stored.tasks task among).oneLine line text

/-- A patch that is read from a file is read from its lines. -/
theorem buildPatchFile_lines (filename : Text) (disk : Disk) (patch : PatchFile)
    (built : ((buildPatchFile filename).on disk).1 = .ok (some patch)) :
    ∃ content, disk.files filename = some content ∧
      buildPatchLines filename (LineText.readLines content) = .ok (some patch) := by
  cases Option.eq_none_or_eq_some (disk.files filename) with
  | inl absent =>
    have read := FileM.on_readAllLines_absent filename disk absent
    simp [buildPatchFile, SourceFile.readAllLines, FileM.on_bind, read] at built
  | inr present =>
    obtain ⟨content, source⟩ := present
    rw [buildPatchFile_on filename content disk source] at built
    exact ⟨content, source, built⟩

/-- A patch that is read from a file is stored. -/
theorem buildPatchFile_stored (filename : Text) (disk : Disk) (patch : PatchFile)
    (built : ((buildPatchFile filename).on disk).1 = .ok (some patch)) : patch.Stored := by
  obtain ⟨content, source, lines⟩ := buildPatchFile_lines filename disk patch built
  exact buildPatchLines_stored filename _ patch (disk.named _ _ source).oneLine
    (LineText.readLines_oneLine content) lines

/-- A patch that is read from a file can be saved to any file, and reading that
file returns the same patch. -/
theorem buildPatchFile_savePatchFile (filename target : Text) (disk other : Disk)
    (patch : PatchFile) (trimmed : Trimmed filename) (legal : LegalName target)
    (built : ((buildPatchFile filename).on disk).1 = .ok (some patch)) :
    ∃ saved, (patch.savePatchFile target).on other = (.ok (), saved) ∧
      (buildPatchFile target).on saved = (.ok (some patch), saved) := by
  obtain ⟨content, _, lines⟩ := buildPatchFile_lines filename disk patch built
  have stored := buildPatchFile_stored filename disk patch built
  have same := PatchFile.reloaded_eq (buildPatchLines_trimmed filename _ patch trimmed lines)
  refine ⟨_, savePatchFile_on patch stored target legal other, ?_⟩
  rw [buildPatchFile_on target _ _ (Disk.write_same other target _ legal),
    LineText.readLines_writeLines _ stored.oneLine, buildPatchLines_printed patch stored target,
    same]

/-- A file with an empty append text, an empty skip string and a second task. -/
theorem buildPatchFile_savePatchFile_empty_texts :
    let content := "//###_START 0\none\n  //###_APPEND_START 0\n//###_APPEND_STOP\n".toList ++
      "//###_START 7\ntwo\n//###_SKIP_UNTIL_PASS 7 \nthree\n".toList
    ∃ patch saved,
      ((buildPatchFile "a.h".toList).on ((Disk.empty .exact).write "a.h".toList content (by decide))).1 =
        .ok (some patch) ∧
      (buildPatchFile "a.patch".toList).on saved = (.ok (some patch), saved) := by
  intro content
  let disk := (Disk.empty .exact).write "a.h".toList content (by decide)
  let first := (PatchTask.new "one".toList 0).append []
  let second := (PatchTask.new "two".toList 7).skipUntilPass []
  have built : ((buildPatchFile "a.h".toList).on disk).1 =
      .ok (some ⟨"a.h".toList, [first, second]⟩) := by decide +kernel
  obtain ⟨saved, _, loaded⟩ := buildPatchFile_savePatchFile "a.h".toList "a.patch".toList disk disk
    ⟨"a.h".toList, [first, second]⟩ (by decide) (by decide) built
  exact ⟨_, saved, built, loaded⟩

end RoundTrip

end CefBridge.Patcher
