import CefBridge.Patcher.Patch

/-!
# Applying a patch to its original file

`patchContent` reads the original file, refuses it if it carries a patch header
already, lets every task copy and edit from the current line on, copies what is
left, and saves the result under the same name.

The searches of a task and of three of its commands are one loop over a range of
indices. It reads the indexed line and advances the current line of the input
beside its own index, as the code does; what it writes at a hit and at a miss
differs from search to search.
-/

namespace CefBridge.Patcher

open Library

/-- The outcome of a search: whether it hit, the input and the output. -/
abbrev Searched := Bool × SourceFile × SourceFile

/-- Search for a line that starts with a text, for as many lines as are left. -/
def searchLoop (text : Text) (found : Text → SourceFile → Except Fault SourceFile)
    (miss : Text → SourceFile → SourceFile) :
    Nat → Nat → SourceFile → SourceFile → Except Fault Searched
  | 0, _, input, output => .ok (false, input, output)
  | left + 1, i, input, output => do
    let line ← input.getLine i
    let input := { input with currentLine := input.currentLine + 1 }
    if startsWith (trimStart line) text then
      let output ← found line output
      return (true, input, output)
    else searchLoop text found miss left (i + 1) input (miss line output)

/-- Search from the current line to the end of the input. -/
def searchFrom (text : Text) (found : Text → SourceFile → Except Fault SourceFile)
    (miss : Text → SourceFile → SourceFile) (input output : SourceFile) :
    Except Fault Searched :=
  let curLine := input.currentLine
  searchLoop text found miss (input.lineCount - curLine) curLine input output

/-- A search that must hit. -/
def searchNext (text : Text) (found : Text → SourceFile → Except Fault SourceFile)
    (miss : Text → SourceFile → SourceFile) (input output : SourceFile) :
    Except Fault (SourceFile × SourceFile) := do
  let (foundNextLandMark, input, output) ← searchFrom text found miss input output
  if !foundNextLandMark then throw (.notSupported (some "next land mark not found"))
  return (input, output)

/-- Carry out one command. -/
def PatchCommand.perform (cmd : PatchCommand) (input output : SourceFile) :
    Except Fault (SourceFile × SourceFile) :=
  match cmd.comandKind with
  | .findNextLandMark =>
    searchNext cmd.string
      (fun line output => do
        let output ← writeCommand output cmd false
        return output.addLine line)
      (fun line output => output.addLine line) input output
  | .appendStringStart => do
    let output ← writeCommand output cmd false
    return (input, output)
  | .followBy => do
    let nextLine ← input.getLine input.currentLine
    let input := { input with currentLine := input.currentLine + 1 }
    if startsWith (trimStart nextLine) cmd.string then
      let output ← writeCommand output cmd false
      return (input, output.addLine nextLine)
    else throw (.notSupported none)
  | .skipUntilPass =>
    searchNext cmd.string (fun _ output => writeCommand output cmd false)
      (fun _ output => output) input output
  | .skipUntilAndAccept =>
    searchNext cmd.string
      (fun line output => do
        let output ← writeCommand output cmd false
        return output.addLine line)
      (fun _ output => output) input output
  | .unknown => .error (.notSupported none)
  | .appendStringStop => .error (.notSupported none)

/-- Carry out a task: find its landmark, then perform its commands. A landmark
that is not found ends the task without an exception. -/
def PatchTask.patchFile (task : PatchTask) (input output : SourceFile) :
    Except Fault (SourceFile × SourceFile) := do
  let (foundLandMark, input, output) ← searchFrom task.landMark
    (fun line output =>
      let output :=
        if !output.isCMakeFile then output.addLine (START ++ ' ' :: printInt task.taskId)
        else output
      .ok (output.addLine line))
    (fun line output => output.addLine line) input output
  if !foundLandMark then return (input, output)
  task.commands.foldlM (fun (input, output) cmd => cmd.perform input output) (input, output)

def CMAKE_FILE : Text := "CMakeLists.txt".toList
def CMAKE_PATCH : Text := "# PATCH ".toList

/-- Whether a file has the code that starts a patched file, with that code. A
build script is marked as one. -/
def checkIfFileWasPatched (input : SourceFile) : Except Fault (Bool × Text × SourceFile) := do
  let filename ← getFileName input.filename
  let isCMakeFile := filename = CMAKE_FILE
  let patchCode := if isCMakeFile then CMAKE_PATCH else ORIGINAL
  let input := if isCMakeFile then { input with isCMakeFile := true } else input
  let line ← input.getLine 0
  return (startsWith line patchCode, patchCode, input)

/-- Copy the input from an index on, for as many lines as are left. -/
def copyLoop : Nat → Nat → SourceFile → SourceFile → Except Fault (SourceFile × SourceFile)
  | 0, _, input, output => .ok (input, output)
  | left + 1, i, input, output => do
    let line ← input.getLine i
    copyLoop left (i + 1) { input with currentLine := input.currentLine + 1 } (output.addLine line)

/-- Build the patched file from the file as it was read. -/
def PatchFile.patched (patch : PatchFile) (input : SourceFile) : Except Fault SourceFile := do
  let output : SourceFile := { filename := patch.originalFileName, isOutput := true }
  let (patchedBefore, patchCode, input) ← checkIfFileWasPatched input
  if patchedBefore then throw (.notSupported (some "not patch again in this file"))
  let output := output.addLine (patchCode ++ ' ' :: patch.originalFileName)
  let output := { output with isCMakeFile := input.isCMakeFile }
  let (input, output) ← patch.patchTasks.foldlM
    (fun (input, output) task => task.patchFile input output) (input, output)
  let (_, output) ← copyLoop (input.lineCount - input.currentLine) input.currentLine input output
  return output

/-- Apply a patch to its original file on disk. -/
def PatchFile.patchContent (patch : PatchFile) : FileM Unit := do
  if !(← fileExists patch.originalFileName) then throw (.notSupported (some "file not found!"))
  let input ← SourceFile.readAllLines { filename := patch.originalFileName, isOutput := false }
  match patch.patched input with
  | .ok output => output.save
  | .error fault => throw fault

end CefBridge.Patcher
