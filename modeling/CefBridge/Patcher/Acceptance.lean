import CefBridge.Patcher.Upstream
import CefBridge.Patcher.Stored
import CefBridge.Patcher.Instructions

/-!
# Which annotated files become patches

A file is refused when one of its control lines cannot be read, when a command
comes before the first task, or when a command that the reader compares carries
the id of another task. From every other file the reader makes tasks, in file
order and with all their commands, and returns them if the last one has any.

Three properties that a reader of annotations should have fail here, each on a
part of its inputs. A trailing task without commands takes all others with it;
the ids of append and skip-past commands are not compared; and the line after a
control line may be blank. The theorems say exactly where the properties hold.
-/

namespace CefBridge.Patcher

open Library

section Tasks

/-- Append commands under the id of the task. -/
def PatchTask.addAll (task : PatchTask) (commands : List (PatchCommandKind × Text)) : PatchTask :=
  { task with
    commands := task.commands ++ commands.map fun command => .new task.taskId command.1 command.2 }

/-- The commands before the next start. -/
def leading : List Instruction → List (PatchCommandKind × Text)
  | [] => []
  | .start _ _ :: _ => []
  | .command kind _ text :: rest => (kind, text) :: leading rest
  | .malformed :: rest => leading rest

/-- Every task, with the commands up to the next one. -/
def tasksOf : List Instruction → List PatchTask
  | [] => []
  | .start taskId landMark :: rest => (PatchTask.new landMark taskId).addAll (leading rest) :: tasksOf rest
  | .command _ _ _ :: rest => tasksOf rest
  | .malformed :: rest => tasksOf rest

theorem addAll_nil (task : PatchTask) : task.addAll [] = task := by
  simp [PatchTask.addAll]

theorem addAll_cons (task : PatchTask) (kind : PatchCommandKind) (text : Text)
    (commands : List (PatchCommandKind × Text)) :
    task.addAll ((kind, text) :: commands) = (task.add kind text).addAll commands := by
  simp [PatchTask.addAll, PatchTask.add]

/-- The landmark or the command of an instruction is as wanted. -/
def Instruction.Meets (landMark : Text → Prop) (command : PatchCommandKind → Text → Prop) :
    Instruction → Prop
  | .start _ text => landMark (trim text)
  | .command kind _ text => command kind (trim text)
  | .malformed => True

/-- What holds of all landmarks and commands of the tasks holds of all
instructions, and the other way round. -/
theorem forall_tasksOf (landMark : Text → Prop) (command : PatchCommandKind → Text → Prop)
    (list : List Instruction) :
    ((∀ pair ∈ leading list, command pair.1 (trim pair.2)) ∧
      ∀ task ∈ tasksOf list, landMark task.landMark ∧
        ∀ cmd ∈ task.commands, command cmd.comandKind cmd.string) ↔
      ∀ instruction ∈ list, instruction.Meets landMark command := by
  induction list with
  | nil => simp [leading, tasksOf]
  | cons instruction rest ih =>
    rw [List.forall_mem_cons, ← ih]
    cases instruction with
    | start taskId text =>
      have own : (∀ cmd ∈ ((PatchTask.new text taskId).addAll (leading rest)).commands,
          command cmd.comandKind cmd.string) ↔
            ∀ pair ∈ leading rest, command pair.1 (trim pair.2) := by
        simp only [PatchTask.addAll, PatchTask.new, List.nil_append, List.forall_mem_map]
        rfl
      have mark : ((PatchTask.new text taskId).addAll (leading rest)).landMark = trim text := rfl
      simp only [leading, tasksOf, List.forall_mem_cons, own, mark, Instruction.Meets, and_assoc,
        List.not_mem_nil, false_implies, implies_true, true_and]
    | command kind taskId text =>
      simp only [leading, tasksOf, List.forall_mem_cons, Instruction.Meets, and_assoc]
    | malformed => simp only [leading, tasksOf, Instruction.Meets, true_and]

end Tasks

section Assembled

/-- What the assembly leaves: the open task has grown by the commands before the
next start, and all later tasks have been added. Without an open task there are
no such commands. -/
theorem assemble_tasks (state final : BuildState) (list : List Instruction)
    (assembled : assemble state list = some final) :
    (state.ptask = none → leading list = []) ∧
      final.tasks = state.finished ++ state.ptask.toList.map (PatchTask.addAll · (leading list)) ++
        tasksOf list := by
  induction list generalizing state with
  | nil =>
    cases assembled
    cases opened : final.ptask <;> simp [leading, tasksOf, BuildState.tasks, opened, addAll_nil]
  | cons instruction rest ih =>
    cases instruction with
    | start taskId landMark =>
      obtain ⟨_, tasks⟩ := ih (state.start landMark taskId) assembled
      rw [tasks]
      cases opened : state.ptask <;>
        simp [leading, tasksOf, BuildState.start, BuildState.tasks, opened, addAll_nil]
    | command kind taskId text =>
      obtain ⟨finished, ptask⟩ := state
      cases ptask with
      | none => cases assembled
      | some ptask =>
        simp only [assemble, BuildState.take] at assembled
        by_cases refused : kind.compared = true ∧ taskId ≠ ptask.taskId
        · simp [refused] at assembled
        · simp only [refused, if_false] at assembled
          obtain ⟨_, tasks⟩ := ih _ assembled
          simp [tasks, leading, tasksOf, addAll_cons]
    | malformed => cases assembled

/-- The tasks that are made of all instructions of a file. -/
theorem assemble_all (final : BuildState) (list : List Instruction)
    (assembled : assemble {} list = some final) : leading list = [] ∧ final.tasks = tasksOf list := by
  obtain ⟨none, tasks⟩ := assemble_tasks {} final list assembled
  refine ⟨none rfl, ?_⟩
  simpa using tasks

/-- The id that the commands of a list should carry is that of the latest start.
Something holds of this id, the kind and the own id of every command. -/
def EachCommand (holds : Option Int32 → PatchCommandKind → Int32 → Prop) :
    Option Int32 → List Instruction → Prop
  | _, [] => True
  | _, .start taskId _ :: rest => EachCommand holds (some taskId) rest
  | current, .command kind taskId _ :: rest =>
    holds current kind taskId ∧ EachCommand holds current rest
  | current, .malformed :: rest => EachCommand holds current rest

/-- A command carries the id of the latest start. -/
def Numbered (current : Option Int32) (_ : PatchCommandKind) (taskId : Int32) : Prop :=
  current = some taskId

/-- A command comes after a start, and under its id if the reader compares it. -/
def Taken (current : Option Int32) (kind : PatchCommandKind) (taskId : Int32) : Prop :=
  current ≠ none ∧ (kind.compared = true → current = some taskId)

/-- A command that the reader does not compare carries the id of the latest
start. -/
def NumberedAnyway (current : Option Int32) (kind : PatchCommandKind) (taskId : Int32) : Prop :=
  kind.compared = false → current = some taskId

theorem eachCommand_and (holds other : Option Int32 → PatchCommandKind → Int32 → Prop)
    (current : Option Int32) (list : List Instruction) :
    EachCommand (fun current kind taskId => holds current kind taskId ∧ other current kind taskId)
      current list ↔ EachCommand holds current list ∧ EachCommand other current list := by
  induction list generalizing current with
  | nil => simp [EachCommand]
  | cons instruction rest ih =>
    cases instruction with
    | start taskId landMark => exact ih (some taskId)
    | command kind taskId text =>
      simp only [EachCommand, ih]
      exact and_and_and_comm
    | malformed => exact ih current

theorem eachCommand_congr {holds other : Option Int32 → PatchCommandKind → Int32 → Prop}
    (same : ∀ current kind taskId, holds current kind taskId ↔ other current kind taskId)
    (current : Option Int32) (list : List Instruction) :
    EachCommand holds current list ↔ EachCommand other current list := by
  have equal : holds = other := by
    funext current kind taskId
    exact propext (same current kind taskId)
  rw [equal]

/-- The assembly succeeds exactly when every control line could be read and
every command is taken. -/
theorem assemble_some_iff (state : BuildState) (list : List Instruction) :
    (∃ final, assemble state list = some final) ↔
      .malformed ∉ list ∧ EachCommand Taken (state.ptask.map PatchTask.taskId) list := by
  induction list generalizing state with
  | nil => simp [assemble, EachCommand]
  | cons instruction rest ih =>
    cases instruction with
    | start taskId landMark =>
      have next := ih (state.start landMark taskId)
      simpa [assemble, BuildState.take, EachCommand, BuildState.start, PatchTask.new] using next
    | command kind taskId text =>
      obtain ⟨finished, ptask⟩ := state
      cases ptask with
      | none => simp [assemble, BuildState.take, EachCommand, Taken]
      | some ptask =>
        by_cases refused : kind.compared = true ∧ taskId ≠ ptask.taskId
        · have different : ptask.taskId ≠ taskId := fun same => refused.2 same.symm
          simp [assemble, BuildState.take, EachCommand, Taken, refused, different]
        · have taken : kind.compared = true → ptask.taskId = taskId := by
            intro compared
            by_contra different
            exact refused ⟨compared, fun same => different same.symm⟩
          have next := ih ⟨finished, some (ptask.add kind text)⟩
          simp only [assemble, BuildState.take, refused, if_false, next]
          simp [EachCommand, Taken, PatchTask.add]
          exact fun _ _ => taken
    | malformed => simp [assemble, BuildState.take]

def Instruction.isCommand : Instruction → Bool
  | .command _ _ _ => true
  | _ => false

theorem assemble_concat (state : BuildState) (front : List Instruction) (last : Instruction) :
    assemble state (front ++ [last]) = (assemble state front).bind (BuildState.take · last) := by
  induction front generalizing state with
  | nil =>
    rw [List.nil_append, assemble]
    cases taken : state.take last <;> simp [assemble, taken]
  | cons instruction front ih =>
    rw [List.cons_append, assemble, assemble]
    cases state.take instruction with
    | none => rfl
    | some next => exact ih next

/-- The open task has commands exactly when the last instruction is one. -/
theorem assemble_last_iff (final : BuildState) (list : List Instruction)
    (assembled : assemble {} list = some final) :
    (∃ ptask, final.ptask = some ptask ∧ ptask.commands ≠ []) ↔
      ∃ last ∈ list.getLast?, last.isCommand = true := by
  cases List.eq_nil_or_concat list with
  | inl none =>
    subst none
    cases assembled
    simp
  | inr some =>
    obtain ⟨front, last, rfl⟩ := some
    rw [List.concat_eq_append, assemble_concat] at assembled
    obtain ⟨⟨finished, ptask⟩, _, taken⟩ := Option.bind_eq_some_iff.mp assembled
    cases last with
    | start taskId landMark =>
      cases taken
      simp [BuildState.start, PatchTask.new, Instruction.isCommand]
    | command kind taskId text =>
      cases ptask with
      | none => cases taken
      | some ptask =>
        simp only [BuildState.take] at taken
        by_cases refused : kind.compared = true ∧ taskId ≠ ptask.taskId
        · simp [refused] at taken
        · simp only [refused, if_false, Option.some.injEq] at taken
          subst taken
          simp [PatchTask.add, Instruction.isCommand]
    | malformed => cases taken

end Assembled

section Reading

/-- The patch under a name that is returned for the tasks of a file. -/
def BuildState.patch (state : BuildState) (name : Text) : Option PatchFile :=
  match state.ptask with
  | none => none
  | some ptask => if ptask.commands = [] then none else some ⟨name, state.tasks⟩

theorem instructions_cons (filename line : Text) (rest : List Text) :
    instructions (line :: rest) = scan none (readHeader filename line rest).2 := by
  have same : (readHeader [] line rest).2 = (readHeader filename line rest).2 := by
    unfold readHeader
    cases getOriginalFilename line <;> rfl
  exact congrArg (scan none) same

theorem buildPatchLines_cons (filename line : Text) (rest : List Text) :
    buildPatchLines filename (line :: rest) =
      (buildLoop none {} (readHeader filename line rest).2).map
        (BuildState.patch · (readHeader filename line rest).1) := by
  simp only [buildPatchLines]
  cases loop : buildLoop none {} (readHeader filename line rest).2 with
  | error fault => rfl
  | ok final =>
    obtain ⟨finished, ptask⟩ := final
    cases ptask with
    | none => rfl
    | some ptask =>
      by_cases empty : ptask.commands = []
      · simp [Except.map, BuildState.patch, empty]
      · simp [Except.map, BuildState.patch, empty, List.length_pos_iff]

/-- What the reader returns is the patch of the assembled instructions. -/
theorem buildPatchLines_assembled (filename : Text) (lines : List Text) (outcome : Option PatchFile)
    (built : buildPatchLines filename lines = .ok outcome) :
    ∃ name final, assemble {} (instructions lines) = some final ∧ outcome = final.patch name := by
  cases lines with
  | nil => cases built
  | cons line rest =>
    rw [buildPatchLines_cons] at built
    cases loop : buildLoop none {} (readHeader filename line rest).2 with
    | error fault =>
      rw [loop] at built
      cases built
    | ok final =>
      rw [loop] at built
      cases built
      refine ⟨_, final, ?_, rfl⟩
      rw [instructions_cons filename]
      exact (buildLoop_scan none {} _ final).mp loop

/-- The reader refuses exactly what cannot be assembled. -/
theorem buildPatchLines_refused_iff (filename : Text) (lines : List Text) :
    (∃ fault, buildPatchLines filename lines = .error fault) ↔
      assemble {} (instructions lines) = none := by
  cases lines with
  | nil => simp [buildPatchLines, instructions, assemble_malformed]
  | cons line rest =>
    have scanned := buildLoop_scan none {} (readHeader filename line rest).2
    rw [buildPatchLines_cons, instructions_cons filename]
    cases loop : buildLoop none {} (readHeader filename line rest).2 with
    | error fault =>
      have unassembled : assemble {} (scan none (readHeader filename line rest).2) = none := by
        rw [Option.eq_none_iff_forall_ne_some]
        intro final assembled
        have contrary := (scanned final).mpr assembled
        rw [Option.map_none, loop] at contrary
        cases contrary
      simp [Except.map, unassembled]
    | ok final => simp [Except.map, (scanned final).mp loop]

end Reading

section Edits

/-- A task without commands is no loss, and with any command in the file all of
it is returned. -/
structure KeepsEdits (outcome : Option PatchFile) (list : List Instruction) : Prop where
  refusal : outcome = none → ∀ task ∈ tasksOf list, task.commands = []
  whole : (∃ task ∈ tasksOf list, task.commands ≠ []) →
    ∃ name, outcome = some ⟨name, tasksOf list⟩

/-- The last instruction of a file is a command, or none is. -/
def EndsInCommand (list : List Instruction) : Prop :=
  (∃ last ∈ list.getLast?, last.isCommand = true) ∨
    ∀ instruction ∈ list, instruction.isCommand = false

/-- No task has a command exactly when no instruction is one. -/
theorem tasksOf_bare_iff (list : List Instruction) (none : leading list = []) :
    (∀ task ∈ tasksOf list, task.commands = []) ↔
      ∀ instruction ∈ list, instruction.isCommand = false := by
  have meets := forall_tasksOf (fun _ => True) (fun _ _ => False) list
  have bare : ∀ instruction : Instruction,
      instruction.Meets (fun _ => True) (fun _ _ => False) ↔ instruction.isCommand = false := by
    intro instruction
    cases instruction <;> simp [Instruction.Meets, Instruction.isCommand]
  simp only [none, bare] at meets
  rw [← meets]
  simp [List.eq_nil_iff_forall_not_mem]

theorem buildPatchFile_read (filename content : Text) (disk : Disk)
    (stored : disk.files filename = some content) :
    ((buildPatchFile filename).on disk).1 = buildPatchLines filename (LineText.readLines content) := by
  rw [buildPatchFile_on filename content disk stored]

/-- A file that is read without a fault keeps all its edits exactly when it ends
in a command, or has none. -/
theorem buildPatchFile_keeps_iff (filename content : Text) (disk : Disk)
    (stored : disk.files filename = some content) (outcome : Option PatchFile)
    (built : ((buildPatchFile filename).on disk).1 = .ok outcome) :
    KeepsEdits outcome (instructions (LineText.readLines content)) ↔
      EndsInCommand (instructions (LineText.readLines content)) := by
  rw [buildPatchFile_read filename content disk stored] at built
  obtain ⟨name, final, assembled, rfl⟩ := buildPatchLines_assembled _ _ _ built
  obtain ⟨none, tasks⟩ := assemble_all final _ assembled
  have last := assemble_last_iff final _ assembled
  have bare := tasksOf_bare_iff _ none
  generalize instructions (LineText.readLines content) = list at *
  by_cases shown : ∃ ptask, final.ptask = some ptask ∧ ptask.commands ≠ []
  · have ends : EndsInCommand list := Or.inl (last.mp shown)
    obtain ⟨ptask, current, commands⟩ := shown
    have returned : final.patch name = some ⟨name, tasksOf list⟩ := by
      simp [BuildState.patch, current, commands, tasks]
    simp only [ends, iff_true, returned]
    refine ⟨?_, fun _ => ⟨name, rfl⟩⟩
    intro refused
    cases refused
  · have returned : final.patch name = Option.none := by
      cases current : final.ptask with
      | none => simp [BuildState.patch, current]
      | some ptask =>
        by_contra other
        apply shown
        refine ⟨ptask, current, ?_⟩
        intro empty
        simp [BuildState.patch, current, empty] at other
    have ends : EndsInCommand list ↔ ∀ task ∈ tasksOf list, task.commands = [] := by
      rw [EndsInCommand, ← last, bare]
      simp only [shown, false_or]
    rw [returned, ends]
    constructor
    · intro kept
      exact kept.refusal rfl
    · intro empty
      refine ⟨fun _ => empty, ?_⟩
      rintro ⟨task, member, commands⟩
      exact absurd (empty task member) commands

/-- Two tasks, the second of which has a command. -/
theorem buildPatchFile_keeps_two_tasks :
    let content := "//###_START 0\none\n//###_START 1\ntwo\n//###_FOLLOW_BY 1\nthree\n".toList
    ∃ outcome, ((buildPatchFile "a.h".toList).on
        ((Disk.empty .exact).write "a.h".toList content (by decide))).1 = .ok outcome ∧
      KeepsEdits outcome (instructions (LineText.readLines content)) := by
  intro content
  have stored := Disk.write_same (.empty .exact) "a.h".toList content (by decide)
  have read : ∃ outcome, buildPatchLines "a.h".toList (LineText.readLines content) = .ok outcome :=
    ⟨some ⟨"a.h".toList, tasksOf (instructions (LineText.readLines content))⟩, by decide +kernel⟩
  obtain ⟨outcome, lines⟩ := read
  have built := (buildPatchFile_read _ content _ stored).trans lines
  refine ⟨outcome, built, (buildPatchFile_keeps_iff _ content _ stored outcome built).mpr (.inl ?_)⟩
  exact ⟨.command .followBy 1 "three".toList, by decide +kernel, rfl⟩

/-- An empty last task takes the first one and its command with it. -/
theorem buildPatchFile_keeps_lost :
    let content := "//###_START 0\none\n//###_FOLLOW_BY 0\ntwo\n//###_START 1\nthree\n".toList
    ((buildPatchFile "a.h".toList).on
        ((Disk.empty .exact).write "a.h".toList content (by decide))).1 = .ok none ∧
      ¬ KeepsEdits none (instructions (LineText.readLines content)) := by
  intro content
  have stored := Disk.write_same (.empty .exact) "a.h".toList content (by decide)
  have lines : buildPatchLines "a.h".toList (LineText.readLines content) = .ok none := by
    decide +kernel
  refine ⟨(buildPatchFile_read _ content _ stored).trans lines, ?_⟩
  intro kept
  have empty := kept.refusal rfl
  exact absurd empty (by decide +kernel)

end Edits

section Ids

/-- The reader throws if some command does not carry the id of the latest start,
or has none before it. -/
def ThrowsIfMisnumbered (outcome : Except Fault (Option PatchFile)) (list : List Instruction) :
    Prop :=
  ¬ EachCommand Numbered none list → ∃ fault, outcome = .error fault

/-- A file is refused for a control line that cannot be read, a command before
the first start, or a compared command under the id of another task; or its
append and skip-past commands carry the ids of their tasks. -/
def RefusedOrNumbered (list : List Instruction) : Prop :=
  .malformed ∈ list ∨ ¬ EachCommand Taken none list ∨ EachCommand NumberedAnyway none list

/-- Commands that are taken, and carry their id where it is not compared, carry
it anyway. -/
theorem eachCommand_numbered_iff (list : List Instruction) (taken : EachCommand Taken none list) :
    EachCommand Numbered none list ↔ EachCommand NumberedAnyway none list := by
  have both := eachCommand_and Taken NumberedAnyway none list
  have numbered : EachCommand Numbered none list ↔
      EachCommand (fun current kind taskId =>
        Taken current kind taskId ∧ NumberedAnyway current kind taskId) none list := by
    apply eachCommand_congr
    intro current kind taskId
    constructor
    · intro same
      refine ⟨⟨?_, fun _ => same⟩, fun _ => same⟩
      rw [same]
      exact Option.some_ne_none taskId
    · rintro ⟨⟨_, compared⟩, uncompared⟩
      cases kind : kind.compared with
      | true => exact compared kind
      | false => exact uncompared kind
  rw [numbered, both]
  simp only [taken, true_and]

/-- The reader throws on misnumbered commands exactly when the file is refused
anyway, or the append and skip-past commands carry the ids of their tasks. -/
theorem buildPatchFile_numbered_iff (filename content : Text) (disk : Disk)
    (stored : disk.files filename = some content) :
    ThrowsIfMisnumbered ((buildPatchFile filename).on disk).1
        (instructions (LineText.readLines content)) ↔
      RefusedOrNumbered (instructions (LineText.readLines content)) := by
  rw [buildPatchFile_read filename content disk stored, ThrowsIfMisnumbered, RefusedOrNumbered,
    buildPatchLines_refused_iff]
  generalize instructions (LineText.readLines content) = list
  have accepted := assemble_some_iff {} list
  rw [← Option.isSome_iff_exists, Option.map_none] at accepted
  by_cases refused : assemble {} list = none
  · have reason : .malformed ∈ list ∨ ¬ EachCommand Taken none list := by
      by_contra neither
      rw [not_or, not_not] at neither
      have assembled := accepted.mpr neither
      simp [refused] at assembled
    simp only [refused, implies_true, true_iff]
    exact or_assoc.mp (Or.inl reason)
  · obtain ⟨readable, taken⟩ := accepted.mp (Option.isSome_iff_ne_none.mpr refused)
    have numbered := eachCommand_numbered_iff list taken
    simp only [refused, readable, taken, numbered, imp_false, not_not, not_true_eq_false, false_or]

/-- An append command under the id of its task. -/
theorem buildPatchFile_numbered_append :
    let content := "//###_START 4\none\n//###_APPEND_START 4\nnew\n//###_APPEND_STOP\n".toList
    ThrowsIfMisnumbered
      ((buildPatchFile "a.h".toList).on
        ((Disk.empty .exact).write "a.h".toList content (by decide))).1
      (instructions (LineText.readLines content)) := by
  intro content
  have stored := Disk.write_same (.empty .exact) "a.h".toList content (by decide)
  apply (buildPatchFile_numbered_iff _ content _ stored).mpr
  have list : instructions (LineText.readLines content) =
      [.start 4 "one".toList, .command .appendStringStart 4 "new\r\n".toList] := by decide +kernel
  rw [list]
  exact .inr (.inr (by simp [EachCommand, NumberedAnyway]))

/-- An append command joins a task of another id. -/
theorem buildPatchFile_numbered_joins :
    let content := "//###_START 4\none\n//###_APPEND_START 5\nnew\n//###_APPEND_STOP\n".toList
    ¬ ThrowsIfMisnumbered
      ((buildPatchFile "a.h".toList).on
        ((Disk.empty .exact).write "a.h".toList content (by decide))).1
      (instructions (LineText.readLines content)) := by
  intro content throws
  have stored := Disk.write_same (.empty .exact) "a.h".toList content (by decide)
  have list : instructions (LineText.readLines content) =
      [.start 4 "one".toList, .command .appendStringStart 5 "new\r\n".toList] := by decide +kernel
  have built : buildPatchLines "a.h".toList (LineText.readLines content) =
      .ok (some ⟨"a.h".toList, tasksOf (instructions (LineText.readLines content))⟩) := by
    rw [list]
    decide +kernel
  rw [ThrowsIfMisnumbered, buildPatchFile_read _ content _ stored, built, list] at throws
  obtain ⟨fault, thrown⟩ := throws (by simp [EachCommand, Numbered])
  cases thrown

end Ids

section Anchors

/-- A string that is looked for is not empty, so some line does not start with
it. -/
def Anchoring (anchor : Text) : Prop := anchor ≠ [] ∧ ∃ line, Hits anchor line = false

/-- All landmarks and search strings of a patch can anchor something. -/
def PatchFile.Anchored (patch : PatchFile) : Prop :=
  ∀ task ∈ patch.patchTasks, Anchoring task.landMark ∧
    ∀ cmd ∈ task.commands, cmd.comandKind.searches = true → Anchoring cmd.string

/-- A text is not white space throughout. -/
def Solid (text : Text) : Prop := ∃ symbol ∈ text, isWhiteSpace symbol = false

/-- The operand of an instruction, where it is looked for, is not white space
throughout. -/
def Instruction.Shown : Instruction → Prop
  | .start _ landMark => Solid landMark
  | .command kind _ text => kind.searches = true → Solid text
  | .malformed => True

theorem anchoring_iff (anchor : Text) : Anchoring anchor ↔ anchor ≠ [] := by
  constructor
  · exact And.left
  · intro filled
    have bare : trimStart [] = [] := rfl
    refine ⟨filled, [], ?_⟩
    rw [← Bool.not_eq_true, hits_iff, bare, List.prefix_nil]
    exact filled

theorem anchoring_trim_iff (text : Text) : Anchoring (trim text) ↔ Solid text := by
  rw [anchoring_iff]
  exact Trimming.trim_ne_nil_iff text

/-- All anchors of a patch that is read from a file can anchor something exactly
when no landmark line and no operand of a search is blank. -/
theorem buildPatchFile_anchored_iff (filename content : Text) (disk : Disk)
    (stored : disk.files filename = some content) (patch : PatchFile)
    (built : ((buildPatchFile filename).on disk).1 = .ok (some patch)) :
    patch.Anchored ↔
      ∀ instruction ∈ instructions (LineText.readLines content), instruction.Shown := by
  rw [buildPatchFile_read filename content disk stored] at built
  obtain ⟨name, final, assembled, outcome⟩ := buildPatchLines_assembled _ _ _ built
  obtain ⟨none, tasks⟩ := assemble_all final _ assembled
  have whole : patch.patchTasks = tasksOf (instructions (LineText.readLines content)) := by
    rw [← tasks]
    unfold BuildState.patch at outcome
    split at outcome
    · cases outcome
    · split at outcome
      · cases outcome
      · cases outcome
        rfl
  have meets := forall_tasksOf Anchoring (fun kind string => kind.searches = true → Anchoring string)
    (instructions (LineText.readLines content))
  have shown : ∀ instruction : Instruction,
      instruction.Meets Anchoring (fun kind string => kind.searches = true → Anchoring string) ↔
        instruction.Shown := by
    intro instruction
    cases instruction with
    | start taskId landMark => exact anchoring_trim_iff landMark
    | command kind taskId text => exact imp_congr_right fun _ => anchoring_trim_iff text
    | malformed => exact Iff.rfl
  simp only [none, shown, List.not_mem_nil, false_implies, implies_true, true_and] at meets
  rw [PatchFile.Anchored, whole]
  exact meets

/-- A file with a landmark and a search string. -/
theorem buildPatchFile_anchored_shown :
    let content := "//###_START 0\none\n//###_SKIP_UNTIL_AND_ACCEPT 0\n  \x7d\n".toList
    ∃ patch, ((buildPatchFile "a.h".toList).on
        ((Disk.empty .exact).write "a.h".toList content (by decide))).1 = .ok (some patch) ∧
      patch.Anchored := by
  intro content
  have stored := Disk.write_same (.empty .exact) "a.h".toList content (by decide)
  have list : instructions (LineText.readLines content) =
      [.start 0 "one".toList, .command .skipUntilAndAccept 0 "  \x7d".toList] := by decide +kernel
  have lines : buildPatchLines "a.h".toList (LineText.readLines content) =
      .ok (some ⟨"a.h".toList, tasksOf (instructions (LineText.readLines content))⟩) := by
    rw [list]
    decide +kernel
  have built := (buildPatchFile_read _ content _ stored).trans lines
  refine ⟨_, built, (buildPatchFile_anchored_iff _ content _ stored _ built).mpr ?_⟩
  rw [list]
  intro instruction member
  simp only [List.mem_cons, List.not_mem_nil, or_false] at member
  obtain rfl | rfl := member
  · exact ⟨'o', by decide, by decide⟩
  · exact fun _ => ⟨'}', by decide, by decide⟩

/-- The line after a skip command is blank, and its string is empty. -/
theorem buildPatchFile_anchored_blank :
    let content := "//###_START 8\none\n//###_SKIP_UNTIL_AND_ACCEPT 8\n\n".toList
    ∃ patch, ((buildPatchFile "a.h".toList).on
        ((Disk.empty .exact).write "a.h".toList content (by decide))).1 = .ok (some patch) ∧
      ¬ patch.Anchored := by
  intro content
  have stored := Disk.write_same (.empty .exact) "a.h".toList content (by decide)
  have lines : buildPatchLines "a.h".toList (LineText.readLines content) =
      .ok (some ⟨"a.h".toList,
        [(PatchTask.new "one".toList 8).skipUntilAndAccept []]⟩) := by
    decide +kernel
  refine ⟨_, (buildPatchFile_read _ content _ stored).trans lines, ?_⟩
  intro anchored
  have skip := (anchored _ List.mem_cons_self).2 _ List.mem_cons_self rfl
  exact skip.1 (by decide)

end Anchors

end CefBridge.Patcher
