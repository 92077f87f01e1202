import CefBridge.Patcher.Runtime

/-!
# Patches and how they are written

A patch names an original file and lists tasks. A task has a landmark and a list
of commands. Constructors trim landmarks and command strings, so a value of
these types never carries white space at the ends of one.

`writeCommand` prints a command into a source file that is being built, either
with its string or as the bare control lines that an applied patch leaves.
`savePatchFile` prints a whole patch.
-/

namespace CefBridge.Patcher

open Library

inductive PatchCommandKind where
  | unknown
  | findNextLandMark
  | appendStringStart
  | appendStringStop
  | followBy
  | skipUntilPass
  | skipUntilAndAccept
  deriving DecidableEq, Repr

def CMD_PREFIX : Text := "//###_".toList
def START : Text := "//###_START".toList
def APPPEND_START : Text := "//###_APPEND_START".toList
def APPPEND_STOP : Text := "//###_APPEND_STOP".toList
def FIND_NEXT_LANDMARK : Text := "//###_FIND_NEXT_LANDMARK".toList
def FOLLOW_BY : Text := "//###_FOLLOW_BY".toList
def SKIP_UNTIL_AND_ACCEPT : Text := "//###_SKIP_UNTIL_AND_ACCEPT".toList
def SKIP_UNTIL_PASS : Text := "//###_SKIP_UNTIL_PASS".toList
def ORIGINAL : Text := "//###_ORIGINAL".toList

structure PatchCommand where
  comandKind : PatchCommandKind
  taskId : Int32
  string : Text
  trimmed : Trimmed string
  deriving DecidableEq

/-- The constructor of a command trims its string. -/
def PatchCommand.new (taskId : Int32) (comandKind : PatchCommandKind) (str : Text) :
    PatchCommand where
  comandKind
  taskId
  string := trim str
  trimmed := Trimming.bare_trim str

structure PatchTask where
  landMark : Text
  taskId : Int32
  commands : List PatchCommand
  trimmed : Trimmed landMark
  deriving DecidableEq

/-- The constructor of a task trims its landmark. -/
def PatchTask.new (landMark : Text) (taskId : Int32) : PatchTask where
  landMark := trim landMark
  taskId
  commands := []
  trimmed := Trimming.bare_trim landMark

/-- Append a command of a kind under the task's own id. -/
def PatchTask.add (task : PatchTask) (comandKind : PatchCommandKind) (str : Text) : PatchTask :=
  { task with commands := task.commands ++ [.new task.taskId comandKind str] }

def PatchTask.append (task : PatchTask) (appendString : Text) : PatchTask :=
  task.add .appendStringStart appendString

def PatchTask.followBy (task : PatchTask) (landMark : Text) : PatchTask :=
  task.add .followBy landMark

def PatchTask.findNext (task : PatchTask) (landMark : Text) : PatchTask :=
  task.add .findNextLandMark landMark

def PatchTask.skipUntilPass (task : PatchTask) (text : Text) : PatchTask :=
  task.add .skipUntilPass text

def PatchTask.skipUntilAndAccept (task : PatchTask) (text : Text) : PatchTask :=
  task.add .skipUntilAndAccept text

structure PatchFile where
  originalFileName : Text
  patchTasks : List PatchTask
  deriving DecidableEq

/-- A file that is read or being built, with a reading position. -/
structure SourceFile where
  filename : Text
  isOutput : Bool
  isCMakeFile : Bool := false
  currentLine : Nat := 0
  lines : List Text := []
  deriving DecidableEq

def SourceFile.addLine (file : SourceFile) (str : Text) : SourceFile :=
  { file with lines := file.lines ++ [str] }

/-- An index past the last line is out of range. -/
def SourceFile.getLine (file : SourceFile) (index : Nat) : Except Fault Text :=
  match file.lines[index]? with
  | some line => .ok line
  | none => .error .argumentOutOfRange

def SourceFile.lineCount (file : SourceFile) : Nat := file.lines.length

def SourceFile.readAllLines (file : SourceFile) : FileM SourceFile := do
  let read ← Patcher.readAllLines file.filename
  return { file with lines := file.lines ++ read }

def SourceFile.save (file : SourceFile) : FileM Unit :=
  writeAllText file.filename (LineText.writeLines file.lines)

/-- Add several lines. -/
def SourceFile.addLines (file : SourceFile) (added : List Text) : SourceFile :=
  added.foldl SourceFile.addLine file

/-- The comment sign before control lines in a build script. -/
def perfixComment (isCMakeFile : Bool) : Text := if isCMakeFile then "# ".toList else []

/-- A control line: its name, a space, and the task id. -/
def controlLine (isCMakeFile : Bool) (name : Text) (taskId : Int32) : Text :=
  perfixComment isCMakeFile ++ name ++ ' ' :: printInt taskId

/-- Print a command whose string, if wanted, stands on the next line. -/
def writeOperand (outputFile : SourceFile) (name : Text) (cmd : PatchCommand)
    (withValue : Bool) : SourceFile :=
  let outputFile := outputFile.addLine (controlLine outputFile.isCMakeFile name cmd.taskId)
  if withValue then outputFile.addLine cmd.string else outputFile

/-- Print a command. The lines of an append text are always printed, and the
string of a skip-past command always stands on its control line. -/
def writeCommand (outputFile : SourceFile) (cmd : PatchCommand) (withValue : Bool) :
    Except Fault SourceFile :=
  match cmd.comandKind with
  | .appendStringStart =>
    let isCMakeFile := outputFile.isCMakeFile
    let outputFile := outputFile.addLine (controlLine isCMakeFile APPPEND_START cmd.taskId)
    let outputFile := outputFile.addLines (LineText.readLines cmd.string)
    .ok (outputFile.addLine (perfixComment isCMakeFile ++ APPPEND_STOP))
  | .appendStringStop => .ok (writeOperand outputFile APPPEND_STOP cmd withValue)
  | .findNextLandMark => .ok (writeOperand outputFile FIND_NEXT_LANDMARK cmd withValue)
  | .followBy => .ok (writeOperand outputFile FOLLOW_BY cmd withValue)
  | .skipUntilAndAccept => .ok (writeOperand outputFile SKIP_UNTIL_AND_ACCEPT cmd withValue)
  | .skipUntilPass =>
    .ok (outputFile.addLine
      (controlLine outputFile.isCMakeFile SKIP_UNTIL_PASS cmd.taskId ++ ' ' :: cmd.string))
  | .unknown => .error (.notSupported none)

/-- Print a task: its start line, its landmark and its commands. -/
def writeTask (output : SourceFile) (ptask : PatchTask) : Except Fault SourceFile :=
  let output := output.addLine (START ++ ' ' :: printInt ptask.taskId)
  let output := output.addLine ptask.landMark
  ptask.commands.foldlM (fun output cmd => writeCommand output cmd true) output

/-- Print a patch into a file. -/
def PatchFile.savePatchFile (patch : PatchFile) (filename : Text) : FileM Unit := do
  let output : SourceFile := { filename, isOutput := true }
  let output := output.addLine (ORIGINAL ++ ' ' :: patch.originalFileName)
  match patch.patchTasks.foldlM writeTask output with
  | .ok output => output.save
  | .error fault => throw fault

/-- No control line of the patch breaks. Only one command prints its string on
its control line. -/
def PatchFile.SingleLine (patch : PatchFile) : Prop :=
  ∀ task ∈ patch.patchTasks, ∀ cmd ∈ task.commands, cmd.comandKind = .skipUntilPass →
    LineText.OneLine cmd.string

instance (patch : PatchFile) : Decidable patch.SingleLine :=
  inferInstanceAs (Decidable (∀ task ∈ patch.patchTasks, ∀ cmd ∈ task.commands, _ → _))

section Lines

@[simp] theorem SourceFile.addLine_lines (file : SourceFile) (str : Text) :
    (file.addLine str).lines = file.lines ++ [str] := rfl
@[simp] theorem SourceFile.addLine_isCMakeFile (file : SourceFile) (str : Text) :
    (file.addLine str).isCMakeFile = file.isCMakeFile := rfl
@[simp] theorem SourceFile.addLine_filename (file : SourceFile) (str : Text) :
    (file.addLine str).filename = file.filename := rfl

/-- Adding lines only appends them. -/
theorem SourceFile.addLines_eq (file : SourceFile) (added : List Text) :
    file.addLines added = { file with lines := file.lines ++ added } := by
  induction added generalizing file with
  | nil => simp [addLines]
  | cons str added ih =>
    change (file.addLine str).addLines added = _
    rw [ih]
    simp [addLine]

theorem SourceFile.addLine_eq (file : SourceFile) (str : Text) :
    file.addLine str = file.addLines [str] := rfl

@[simp] theorem SourceFile.addLines_addLines (file : SourceFile) (first second : List Text) :
    (file.addLines first).addLines second = file.addLines (first ++ second) := by
  simp [addLines_eq]

@[simp] theorem SourceFile.addLines_nil (file : SourceFile) : file.addLines [] = file := rfl

@[simp] theorem SourceFile.addLines_lines (file : SourceFile) (added : List Text) :
    (file.addLines added).lines = file.lines ++ added := by
  rw [addLines_eq]

@[simp] theorem SourceFile.addLines_isCMakeFile (file : SourceFile) (added : List Text) :
    (file.addLines added).isCMakeFile = file.isCMakeFile := by
  rw [addLines_eq]

@[simp] theorem SourceFile.addLines_filename (file : SourceFile) (added : List Text) :
    (file.addLines added).filename = file.filename := by
  rw [addLines_eq]

/-- The lines that print a command, where it can be printed. -/
def PatchCommand.printed (isCMakeFile withValue : Bool) (cmd : PatchCommand) :
    Option (List Text) :=
  let operand (name : Text) :=
    controlLine isCMakeFile name cmd.taskId :: if withValue then [cmd.string] else []
  match cmd.comandKind with
  | .appendStringStart =>
    some (controlLine isCMakeFile APPPEND_START cmd.taskId :: LineText.readLines cmd.string ++
      [perfixComment isCMakeFile ++ APPPEND_STOP])
  | .appendStringStop => some (operand APPPEND_STOP)
  | .findNextLandMark => some (operand FIND_NEXT_LANDMARK)
  | .followBy => some (operand FOLLOW_BY)
  | .skipUntilAndAccept => some (operand SKIP_UNTIL_AND_ACCEPT)
  | .skipUntilPass =>
    some [controlLine isCMakeFile SKIP_UNTIL_PASS cmd.taskId ++ ' ' :: cmd.string]
  | .unknown => none

/-- Writing a command adds exactly the lines that print it. -/
theorem writeCommand_eq (outputFile : SourceFile) (cmd : PatchCommand) (withValue : Bool) :
    writeCommand outputFile cmd withValue =
      match cmd.printed outputFile.isCMakeFile withValue with
      | some added => .ok (outputFile.addLines added)
      | none => .error (.notSupported none) := by
  cases kind : cmd.comandKind <;>
    cases withValue <;>
    simp [writeCommand, PatchCommand.printed, kind, writeOperand, SourceFile.addLine_eq]

theorem oneLine_printInt (value : Int32) : LineText.OneLine (printInt value) := by
  have solid := printInt_solid value
  constructor
  · intro member
    exact absurd (solid _ member) (by decide)
  · intro member
    exact absurd (solid _ member) (by decide)

/-- A space can stand before the end of a line. -/
theorem oneLine_space {text : Text} (whole : LineText.OneLine text) :
    LineText.OneLine (' ' :: text) := by
  have space : LineText.OneLine [' '] := by decide
  exact space.append whole

theorem oneLine_controlLine (isCMakeFile : Bool) (name : Text) (taskId : Int32)
    (whole : LineText.OneLine name) : LineText.OneLine (controlLine isCMakeFile name taskId) := by
  have sign : LineText.OneLine (perfixComment isCMakeFile) := by
    cases isCMakeFile <;> decide
  exact (sign.append whole).append (oneLine_space (oneLine_printInt taskId))

end Lines

end CefBridge.Patcher
