import CefBridge.Patcher.Patch

/-!
# Reading a patch out of an annotated file

`buildPatchFile` reads a file line by line. Lines that do not start with the
command prefix are passed over. A control line holds a command name, a task id
and possibly more text; some commands take the next line as their operand, and
an append command collects the lines up to its stop line.

The loop over line indices is a recursion on the lines that are left. Its first
argument is present while the inner loop of an append command collects text.
Reading past the last line is the fault of an index out of range.
-/

namespace CefBridge.Patcher

open Library

/-- The task id at a position of a control line, and the text after the id's
space, if there is one. -/
def getTaskId (line : Text) (startPos : Nat) : Except Fault (Int32 × Option Text) :=
  let sub1 := (line.drop startPos).takeWhile (· != ' ')
  match (line.drop startPos).dropWhile (· != ' ') with
  | [] => do
    let taskId ← parseInt (trim (line.drop startPos))
    return (taskId, none)
  | fromSpace => do
    let taskId ← parseInt (trim (trim sub1))
    return (taskId, some (trim fromSpace))

def getOriginalFilename (line : Text) : Option Text :=
  if startsWith line ORIGINAL then some (trim (line.drop ORIGINAL.length)) else none

/-- The tasks added so far. The current task, absent before the first start
line, is the last task of the patch; it is kept apart because it still grows. -/
structure BuildState where
  finished : List PatchTask := []
  ptask : Option PatchTask := none
  deriving DecidableEq

def BuildState.tasks (state : BuildState) : List PatchTask := state.finished ++ state.ptask.toList

/-- Start a new task. -/
def BuildState.start (state : BuildState) (cmdValue : Text) (taskId : Int32) : BuildState where
  finished := state.tasks
  ptask := some (.new cmdValue taskId)

/-- Let the current task grow. Without one there is nothing to call. -/
def BuildState.grow (state : BuildState) (add : PatchTask → PatchTask) : Except Fault BuildState :=
  match state.ptask with
  | none => .error .nullReference
  | some ptask => .ok { state with ptask := some (add ptask) }

/-- Let the current task grow by a command that must carry its id. -/
def BuildState.growChecked (state : BuildState) (taskId : Int32) (add : PatchTask → PatchTask) :
    Except Fault BuildState :=
  match state.ptask with
  | none => .error .nullReference
  | some ptask =>
    if taskId ≠ ptask.taskId then .error (.notSupported none)
    else .ok { state with ptask := some (add ptask) }

/-- The commands whose operand is the next line. -/
def operandCommand (cmdline : Text) : Option (PatchTask → Text → PatchTask) :=
  if cmdline = FIND_NEXT_LANDMARK then some PatchTask.findNext
  else if cmdline = FOLLOW_BY then some PatchTask.followBy
  else if cmdline = SKIP_UNTIL_AND_ACCEPT then some PatchTask.skipUntilAndAccept
  else none

def buildLoop : Option Text → BuildState → List Text → Except Fault BuildState
  | none, state, [] => .ok state
  | some _, _, [] => .error .argumentOutOfRange
  | some collected, state, raw :: rest =>
    let line := trimStart raw
    if startsWith line APPPEND_STOP then
      match state.grow fun ptask => ptask.append collected with
      | .error fault => .error fault
      | .ok state => buildLoop none state rest
    else if startsWith line CMD_PREFIX then .error (.notSupported none)
    else buildLoop (some (collected ++ line ++ LineText.newLine)) state rest
  | none, state, raw :: rest =>
    let line := trimStart raw
    if startsWith line CMD_PREFIX then
      let cmdline := line.takeWhile (· != ' ')
      if cmdline = line then .error (.notSupported (some "pos 0"))
      else
        match getTaskId line (cmdline.length + 1) with
        | .error fault => .error fault
        | .ok (taskId, additionalInfo) =>
          if cmdline = START then
            match rest with
            | [] => .error .argumentOutOfRange
            | cmdValue :: rest => buildLoop none (state.start cmdValue taskId) rest
          else if cmdline = APPPEND_START then buildLoop (some []) state rest
          else if cmdline = APPPEND_STOP then .error (.notSupported none)
          else if cmdline = SKIP_UNTIL_PASS then
            match additionalInfo with
            | none => .error (.notSupported none)
            | some text =>
              match state.grow fun ptask => ptask.skipUntilPass text with
              | .error fault => .error fault
              | .ok state => buildLoop none state rest
          else
            match operandCommand cmdline with
            | none => .error (.notSupported none)
            | some add =>
              match rest with
              | [] => .error .argumentOutOfRange
              | cmdValue :: rest =>
                match state.growChecked taskId fun ptask => add ptask cmdValue with
                | .error fault => .error fault
                | .ok state => buildLoop none state rest
    else buildLoop none state rest

/-- The original file name and the lines after a header. Without a header it is
the name of the file that is read. -/
def readHeader (filename line : Text) (rest : List Text) : Text × List Text :=
  match getOriginalFilename line with
  | some originalFilename => (originalFilename, rest)
  | none => (filename, line :: rest)

/-- The patch in the lines of a file, if its last task has a command. -/
def buildPatchLines (filename : Text) (lines : List Text) : Except Fault (Option PatchFile) :=
  match lines with
  | [] => .error .argumentOutOfRange
  | line :: rest =>
    let (originalFileName, body) := readHeader filename line rest
    match buildLoop none {} body with
    | .error fault => .error fault
    | .ok state =>
      match state.ptask with
      | some ptask =>
        if ptask.commands.length > 0 then .ok (some ⟨originalFileName, state.tasks⟩) else .ok none
      | none => .ok none

/-- Create a patch from a file on disk. -/
def buildPatchFile (filename : Text) : FileM (Option PatchFile) := do
  let sourceFile ← SourceFile.readAllLines { filename, isOutput := false }
  match buildPatchLines filename sourceFile.lines with
  | .ok patchFile => return patchFile
  | .error fault => throw fault

end CefBridge.Patcher
