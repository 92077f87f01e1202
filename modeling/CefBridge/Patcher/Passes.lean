import CefBridge.Patcher.Apply
import CefBridge.Library.ScriptLaws

/-!
# Applying a patch is one pass of an edit script

Every command is an edit and every task a script task over source lines. The
loops of `patchContent` perform exactly the script: they raise the fault of the
script's refusal, or they leave the cursor where the script stops and add the
lines that its record writes.

`patchContent_ok_iff` and `patchContent_fault` carry this to the disk. Applying
a patch either raises a fault and leaves the disk as it was, or replaces the
original file by what a record of a pass writes. Inserted lines are noted as the
header, as control lines, or as lines of an append command's text.
-/

namespace CefBridge.Patcher

open Library Library.EditScript

/-- Why a line that is not in the source stands in the output. -/
inductive Origin where
  | header
  | control
  | appended (cmd : PatchCommand)
  deriving DecidableEq

abbrev Record := List (Mark Origin Text)

/-- The test of a search: the line starts with the text after its margin. -/
def Hits (text line : Text) : Bool := startsWith (trimStart line) text

theorem hits_iff (text line : Text) : Hits text line = true ↔ text <+: trimStart line :=
  startsWith_iff (trimStart line) text

/-- A matched line, trimmed, is found where its search string was found. -/
theorem hits_itself (line : Text) : Hits (trim line) line = true :=
  (hits_iff _ _).mpr (Trimming.trim_prefix_trimStart line)

/-- The lines that a command inserts, with their origins. -/
def PatchCommand.notes (isCMakeFile : Bool) (cmd : PatchCommand) : List (Origin × Text) :=
  match cmd.comandKind with
  | .appendStringStart =>
    (.control, controlLine isCMakeFile APPPEND_START cmd.taskId) ::
      (LineText.readLines cmd.string).map (fun line => (.appended cmd, line)) ++
      [(.control, perfixComment isCMakeFile ++ APPPEND_STOP)]
  | .findNextLandMark => [(.control, controlLine isCMakeFile FIND_NEXT_LANDMARK cmd.taskId)]
  | .followBy => [(.control, controlLine isCMakeFile FOLLOW_BY cmd.taskId)]
  | .skipUntilAndAccept => [(.control, controlLine isCMakeFile SKIP_UNTIL_AND_ACCEPT cmd.taskId)]
  | .skipUntilPass =>
    [(.control, controlLine isCMakeFile SKIP_UNTIL_PASS cmd.taskId ++ ' ' :: cmd.string)]
  | .appendStringStop => []
  | .unknown => []

/-- A command as an edit of source lines. -/
def PatchCommand.edit (isCMakeFile : Bool) (cmd : PatchCommand) : Edit Origin Text :=
  match cmd.comandKind with
  | .findNextLandMark => .seek (Hits cmd.string) (cmd.notes isCMakeFile)
  | .appendStringStart => .put (cmd.notes isCMakeFile)
  | .followBy => .follow (Hits cmd.string) (cmd.notes isCMakeFile)
  | .skipUntilPass => .skipPast (Hits cmd.string) (cmd.notes isCMakeFile)
  | .skipUntilAndAccept => .skipTo (Hits cmd.string) (cmd.notes isCMakeFile)
  | .unknown => .unsupported
  | .appendStringStop => .unsupported

/-- The line that marks a found landmark, except in a build script. -/
def PatchTask.notes (isCMakeFile : Bool) (task : PatchTask) : List (Origin × Text) :=
  if isCMakeFile then [] else [(.control, START ++ ' ' :: printInt task.taskId)]

/-- A task as a task over source lines. -/
def PatchTask.script (isCMakeFile : Bool) (task : PatchTask) : Task Origin Text where
  hit := Hits task.landMark
  notes := task.notes isCMakeFile
  edits := task.commands.map (PatchCommand.edit isCMakeFile)

/-- The exception that a refused edit raises. -/
def faultOf : Refusal → Fault
  | .absent => .notSupported (some "next land mark not found")
  | .exhausted => .argumentOutOfRange
  | .mismatched => .notSupported none
  | .unsupported => .notSupported none

/-- The input with exactly `rest` still to read. -/
def SourceFile.moveTo (input : SourceFile) (rest : List Text) : SourceFile :=
  { input with currentLine := input.lines.length - rest.length }

@[simp] theorem SourceFile.moveTo_lines (input : SourceFile) (rest : List Text) :
    (input.moveTo rest).lines = input.lines := rfl

/-- What performing steps comes to when their script comes to `result`. -/
def outcome (input output : SourceFile) :
    Except Refusal (Record × List Text) → Except Fault (SourceFile × SourceFile)
  | .ok (marks, after) => .ok (input.moveTo after, output.addLines (writes marks))
  | .error refusal => .error (faultOf refusal)

section Loops

/-- The next line is the first of those still to read. -/
theorem getLine_moveTo (input : SourceFile) (line : Text) (rest : List Text)
    (left : line :: rest <:+ input.lines) :
    (input.moveTo (line :: rest)).getLine (input.lines.length - (line :: rest).length) =
      .ok line := by
  obtain ⟨read, whole⟩ := left
  have position : input.lines.length - (line :: rest).length = read.length := by
    rw [← whole, List.length_append]
    omega
  rw [SourceFile.getLine, SourceFile.moveTo_lines, position, ← whole,
    List.getElem?_append_right (Nat.le_refl _)]
  simp

/-- Advancing by one line leaves the lines after it. -/
theorem moveTo_next (input : SourceFile) (line : Text) (rest : List Text)
    (left : line :: rest <:+ input.lines) :
    { input.moveTo (line :: rest) with
      currentLine := (input.moveTo (line :: rest)).currentLine + 1 } = input.moveTo rest := by
  have bound := left.length_le
  simp only [List.length_cons] at bound
  simp only [SourceFile.moveTo, List.length_cons, SourceFile.mk.injEq, true_and, and_true]
  omega

/-- A search splits the lines still to read at the first hit. Its own index and
the current line of the input advance together. -/
theorem searchLoop_eq (text : Text) (found : Text → SourceFile → Except Fault SourceFile)
    (miss : Text → SourceFile → SourceFile) (input output : SourceFile) (rest : List Text)
    (left : rest <:+ input.lines) :
    searchLoop text found miss rest.length (input.lines.length - rest.length)
        (input.moveTo rest) output =
      match splitAtFirst (Hits text) rest with
      | none => .ok (false, input.moveTo [], rest.foldl (fun output line => miss line output) output)
      | some (gap, line, after) =>
        (found line (gap.foldl (fun output line => miss line output) output)).map
          fun output => (true, input.moveTo after, output) := by
  induction rest generalizing output with
  | nil => rfl
  | cons line rest ih =>
    have tailLeft : rest <:+ input.lines := (List.suffix_cons line rest).trans left
    have bound := left.length_le
    simp only [List.length_cons] at bound
    have next : input.lines.length - (rest.length + 1) + 1 = input.lines.length - rest.length := by
      omega
    have read := getLine_moveTo input line rest left
    simp only [List.length_cons] at read
    rw [List.length_cons, searchLoop, read, moveTo_next input line rest left, next]
    cases met : startsWith (trimStart line) text with
    | true =>
      have hit : Hits text line = true := met
      simp only [bind, Except.bind, met, if_true, splitAtFirst, hit, List.foldl_nil]
      cases found line output <;> rfl
    | false =>
      have missed : Hits text line = false := met
      simp only [bind, Except.bind, met, Bool.false_eq_true, if_false, splitAtFirst, missed,
        ih (miss line output) tailLeft]
      cases splitAtFirst (Hits text) rest <;> rfl

theorem searchFrom_eq (text : Text) (found : Text → SourceFile → Except Fault SourceFile)
    (miss : Text → SourceFile → SourceFile) (input output : SourceFile) (rest : List Text)
    (left : rest <:+ input.lines) :
    searchFrom text found miss (input.moveTo rest) output =
      match splitAtFirst (Hits text) rest with
      | none => .ok (false, input.moveTo [], rest.foldl (fun output line => miss line output) output)
      | some (gap, line, after) =>
        (found line (gap.foldl (fun output line => miss line output) output)).map
          fun output => (true, input.moveTo after, output) := by
  have bound := left.length_le
  have count : (input.moveTo rest).lineCount - (input.moveTo rest).currentLine = rest.length := by
    simp only [SourceFile.lineCount, SourceFile.moveTo]
    omega
  rw [← searchLoop_eq text found miss input output rest left]
  simp only [searchFrom, count]
  rfl

/-- Copying at every miss adds the missed lines. -/
theorem foldl_addLine (output : SourceFile) (lines : List Text) :
    lines.foldl (fun output line => output.addLine line) output = output.addLines lines := rfl

/-- Performing a command performs its edit. -/
theorem perform_eq (cmd : PatchCommand) (input output : SourceFile) (rest : List Text)
    (left : rest <:+ input.lines) :
    cmd.perform (input.moveTo rest) output =
      outcome input output ((cmd.edit output.isCMakeFile).exec rest) := by
  cases kind : cmd.comandKind with
  | unknown => simp [PatchCommand.perform, PatchCommand.edit, kind, Edit.exec, outcome, faultOf]
  | appendStringStop =>
    simp [PatchCommand.perform, PatchCommand.edit, kind, Edit.exec, outcome, faultOf]
  | appendStringStart =>
    simp [PatchCommand.perform, PatchCommand.edit, kind, Edit.exec, outcome, writeCommand_eq,
      PatchCommand.printed, PatchCommand.notes, bind, Except.bind, pure, Except.pure, Function.comp_def]
  | followBy =>
    cases rest with
    | nil =>
      have past : (input.moveTo []).getLine (input.moveTo []).currentLine =
          .error .argumentOutOfRange := by
        simp [SourceFile.getLine, SourceFile.moveTo]
      simp [PatchCommand.perform, PatchCommand.edit, kind, Edit.exec, outcome, faultOf, past, bind,
        Except.bind]
    | cons line rest =>
      have read := getLine_moveTo input line rest left
      have next := moveTo_next input line rest left
      simp only [PatchCommand.perform, kind, PatchCommand.edit, Edit.exec]
      rw [show (input.moveTo (line :: rest)).getLine (input.moveTo (line :: rest)).currentLine =
        .ok line from read, next]
      cases met : startsWith (trimStart line) cmd.string with
      | true =>
        have hit : Hits cmd.string line = true := met
        simp [bind, Except.bind, pure, Except.pure, met, hit, outcome, writeCommand_eq,
          PatchCommand.printed, PatchCommand.notes, kind, SourceFile.addLine_eq]
      | false =>
        have missed : Hits cmd.string line = false := met
        simp [bind, Except.bind, met, missed, outcome, faultOf, throw, throwThe, MonadExceptOf.throw]
  | findNextLandMark =>
    simp only [PatchCommand.perform, kind, searchNext, searchFrom_eq _ _ _ input output rest left,
      PatchCommand.edit, Edit.exec]
    cases splitAtFirst (Hits cmd.string) rest with
    | none => rfl
    | some parts =>
      obtain ⟨gap, line, after⟩ := parts
      simp only [foldl_addLine]
      simp [bind, Except.bind, pure, Except.pure, Except.map, outcome, writeCommand_eq,
        PatchCommand.printed, PatchCommand.notes, kind, SourceFile.addLine_eq]
  | skipUntilPass =>
    simp only [PatchCommand.perform, kind, searchNext, searchFrom_eq _ _ _ input output rest left,
      PatchCommand.edit, Edit.exec]
    cases splitAtFirst (Hits cmd.string) rest with
    | none => rfl
    | some parts =>
      obtain ⟨gap, line, after⟩ := parts
      simp [bind, Except.bind, pure, Except.pure, Except.map, outcome,
        writeCommand_eq, PatchCommand.printed, PatchCommand.notes, kind]
  | skipUntilAndAccept =>
    simp only [PatchCommand.perform, kind, searchNext, searchFrom_eq _ _ _ input output rest left,
      PatchCommand.edit, Edit.exec]
    cases splitAtFirst (Hits cmd.string) rest with
    | none => rfl
    | some parts =>
      obtain ⟨gap, line, after⟩ := parts
      simp [bind, Except.bind, pure, Except.pure, Except.map, outcome,
        writeCommand_eq, PatchCommand.printed, PatchCommand.notes, kind, SourceFile.addLine_eq]

/-- Steps that perform their scripts one by one perform the chain of them. -/
theorem foldlM_eq {β : Type}
    (perform : β → SourceFile → SourceFile → Except Fault (SourceFile × SourceFile))
    (exec : Bool → β → List Text → Except Refusal (Record × List Text))
    (refines : ∀ step input output rest, rest <:+ input.lines →
      perform step (input.moveTo rest) output =
        outcome input output (exec output.isCMakeFile step rest))
    (keeps : ∀ isCMakeFile step rest marks after,
      exec isCMakeFile step rest = .ok (marks, after) → after <:+ rest)
    (steps : List β) (input output : SourceFile) (rest : List Text)
    (left : rest <:+ input.lines) :
    steps.foldlM (fun (input, output) step => perform step input output)
        (input.moveTo rest, output) =
      outcome input output (chain (exec output.isCMakeFile) steps rest) := by
  induction steps generalizing output rest with
  | nil => rfl
  | cons step steps ih =>
    rw [List.foldlM_cons]
    change (perform step (input.moveTo rest) output >>= fun init =>
      steps.foldlM (fun (input, output) step => perform step input output) init) = _
    rw [refines step input output rest left]
    cases first : exec output.isCMakeFile step rest with
    | error refusal => simp [chain, first, outcome, bind, Except.bind]
    | ok result =>
      obtain ⟨marks, middle⟩ := result
      have middleLeft := (keeps _ _ _ _ _ first).trans left
      have tail := ih (output.addLines (writes marks)) middle middleLeft
      simp only [outcome, bind, Except.bind, chain, first] at tail ⊢
      rw [tail, SourceFile.addLines_isCMakeFile]
      cases chain (exec output.isCMakeFile) steps middle with
      | error refusal => rfl
      | ok later => simp

/-- An edit leaves an end of what it was given. -/
theorem edit_keeps (edit : Edit Origin Text) (rest after : List Text) (marks : Record)
    (performed : edit.exec rest = .ok (marks, after)) : after <:+ rest :=
  ⟨reads marks, (((Edit.exec_ok_iff edit rest marks after).mp performed).accounts).symm⟩

theorem task_keeps (task : Task Origin Text) (rest after : List Text) (marks : Record)
    (performed : task.exec rest = .ok (marks, after)) : after <:+ rest :=
  ⟨reads marks, (((Task.exec_ok_iff task rest marks after).mp performed).accounts).symm⟩

theorem chain_map {β γ : Type} (exec : γ → List Text → Except Refusal (Record × List Text))
    (f : β → γ) (steps : List β) (rest : List Text) :
    chain (fun step => exec (f step)) steps rest = chain exec (steps.map f) rest := by
  induction steps generalizing rest with
  | nil => rfl
  | cons step steps ih => simp only [chain, List.map_cons, ih]

/-- Carrying out a task performs its script. -/
theorem patchFile_eq (task : PatchTask) (input output : SourceFile) (rest : List Text)
    (left : rest <:+ input.lines) :
    task.patchFile (input.moveTo rest) output =
      outcome input output ((task.script output.isCMakeFile).exec rest) := by
  simp only [PatchTask.patchFile, searchFrom_eq _ _ _ input output rest left, Task.exec,
    PatchTask.script]
  cases split : splitAtFirst (Hits task.landMark) rest with
  | none => simp [foldl_addLine, bind, Except.bind, pure, Except.pure, outcome]
  | some parts =>
    obtain ⟨gap, line, after⟩ := parts
    have whole := ((splitAtFirst_some_iff _ _ _ _ _).mp split).1
    have afterLeft : after <:+ input.lines :=
      (List.suffix_append_of_suffix (List.suffix_cons line after)).trans (whole ▸ left)
    have started : ∀ built : SourceFile, built.isCMakeFile = output.isCMakeFile →
        (if !built.isCMakeFile then built.addLine (START ++ ' ' :: printInt task.taskId)
          else built).addLine line =
          built.addLines ((task.notes output.isCMakeFile).map Prod.snd ++ [line]) := by
      intro built same
      cases isCMakeFile : output.isCMakeFile <;>
        simp [same, isCMakeFile, PatchTask.notes, SourceFile.addLine_eq]
    have commands := foldlM_eq PatchCommand.perform
      (fun isCMakeFile cmd => (cmd.edit isCMakeFile).exec)
      (fun cmd input output rest => perform_eq cmd input output rest)
      (fun isCMakeFile cmd rest marks after => edit_keeps (cmd.edit isCMakeFile) rest after marks)
      task.commands input
      (output.addLines (gap ++ ((task.notes output.isCMakeFile).map Prod.snd ++ [line]))) after
      afterLeft
    simp only [Except.map, bind, Except.bind, Bool.not_true, Bool.false_eq_true, if_false]
    rw [started (gap.foldl (fun output line => output.addLine line) output)
      (by rw [foldl_addLine, SourceFile.addLines_isCMakeFile]), foldl_addLine,
      SourceFile.addLines_addLines]
    refine commands.trans ?_
    rw [SourceFile.addLines_isCMakeFile, chain_map Edit.exec]
    cases chain Edit.exec (task.commands.map (PatchCommand.edit output.isCMakeFile)) after with
    | error refusal => rfl
    | ok result => simp [outcome]

/-- The copy loop adds all lines still to read. -/
theorem copyLoop_eq (input output : SourceFile) (rest : List Text) (left : rest <:+ input.lines) :
    copyLoop rest.length (input.lines.length - rest.length) (input.moveTo rest) output =
      .ok (input.moveTo [], output.addLines rest) := by
  induction rest generalizing output with
  | nil => rfl
  | cons line rest ih =>
    have tailLeft : rest <:+ input.lines := (List.suffix_cons line rest).trans left
    have bound := left.length_le
    simp only [List.length_cons] at bound
    have next : input.lines.length - (rest.length + 1) + 1 = input.lines.length - rest.length := by
      omega
    have read := getLine_moveTo input line rest left
    simp only [List.length_cons] at read
    rw [List.length_cons, copyLoop, read, moveTo_next input line rest left, next]
    change copyLoop rest.length _ (input.moveTo rest) (output.addLine line) = _
    rw [ih (output.addLine line) tailLeft, SourceFile.addLine_eq, SourceFile.addLines_addLines]
    rfl

/-- Nothing is done with nothing to read. -/
theorem tasks_nothing {tasks : List (Task Origin Text)} {rest : List Text} {marks : Record}
    (run : Chain Task.Run tasks [] marks rest) : marks = [] ∧ rest = [] := by
  have performed := (tasks_ok_iff tasks [] marks rest).mpr run
  rw [chain_exec_nil] at performed
  cases performed
  exact ⟨rfl, rfl⟩

end Loops

/-- Whether the original file is a build script. -/
def PatchFile.forCMake (patch : PatchFile) : Bool :=
  getFileName patch.originalFileName = .ok CMAKE_FILE

/-- The text that starts a file to which the patch was applied. -/
def PatchFile.patchCode (patch : PatchFile) : Text :=
  if patch.forCMake then CMAKE_PATCH else ORIGINAL

def PatchFile.header (patch : PatchFile) : Text :=
  patch.patchCode ++ ' ' :: patch.originalFileName

/-- The tasks of a patch as one script over source lines. -/
def PatchFile.scripts (patch : PatchFile) : List (Task Origin Text) :=
  patch.patchTasks.map (PatchTask.script patch.forCMake)

/-- The record of a whole pass: the header, what the tasks leave, and the copied
end of the source. -/
def PatchFile.recordOf (patch : PatchFile) (marks : Record) (rest : List Text) : Record :=
  .inserted .header patch.header :: marks ++ rest.map .copied

/-- What a completed application of a patch may record. -/
inductive PatchFile.Pass (patch : PatchFile) (source : List Text) : Record → Prop where
  | pass (marks : Record) (rest : List Text)
      (run : Chain Task.Run patch.scripts source marks rest) :
      Pass patch source (patch.recordOf marks rest)

/-- A first line that does not yet carry the header of a patched file. -/
def PatchFile.Unpatched (patch : PatchFile) (source : List Text) : Prop :=
  ∃ first rest, source = first :: rest ∧ ¬ patch.patchCode <+: first

/-- The saved lines, or the exception, for the lines of the original file. -/
def PatchFile.result (patch : PatchFile) (source : List Text) : Except Fault (List Text) :=
  match source with
  | [] => .error .argumentOutOfRange
  | first :: _ =>
    if startsWith first patch.patchCode then
      .error (.notSupported (some "not patch again in this file"))
    else
      match chain Task.exec patch.scripts source with
      | .error refusal => .error (faultOf refusal)
      | .ok (marks, rest) => .ok (writes (patch.recordOf marks rest))

section Whole

/-- Copying the rest adds all lines still to read. -/
theorem copyRest_eq (input output : SourceFile) (rest : List Text) (left : rest <:+ input.lines) :
    copyLoop ((input.moveTo rest).lineCount - (input.moveTo rest).currentLine)
        (input.moveTo rest).currentLine (input.moveTo rest) output =
      .ok (input.moveTo [], output.addLines rest) := by
  have bound := left.length_le
  have count : (input.moveTo rest).lineCount - (input.moveTo rest).currentLine = rest.length := by
    simp only [SourceFile.lineCount, SourceFile.moveTo]
    omega
  rw [count]
  exact copyLoop_eq input output rest left

/-- Performing all tasks performs the script. -/
theorem patchTasks_eq (tasks : List PatchTask) (input output : SourceFile) (rest : List Text)
    (left : rest <:+ input.lines) :
    tasks.foldlM (fun (input, output) task => task.patchFile input output)
        (input.moveTo rest, output) =
      outcome input output (chain Task.exec (tasks.map (PatchTask.script output.isCMakeFile)) rest) := by
  have steps := foldlM_eq PatchTask.patchFile
    (fun isCMakeFile task => (task.script isCMakeFile).exec)
    (fun task input output rest => patchFile_eq task input output rest)
    (fun isCMakeFile task rest marks after => task_keeps (task.script isCMakeFile) rest after marks)
    tasks input output rest left
  rw [chain_map Task.exec] at steps
  exact steps

/-- The lines of the patched file are the result for the lines that were read. -/
theorem patched_eq (patch : PatchFile) (legal : LegalName patch.originalFileName)
    (source : List Text) :
    (patch.patched { filename := patch.originalFileName, isOutput := false, lines := source }).map
        (fun output => (output.filename, output.lines)) =
      (patch.result source).map fun lines => (patch.originalFileName, lines) := by
  have named := legal.getFileName_eq
  generalize patch.originalFileName.rtakeWhile (fun symbol => !isSeparator symbol) = filename
    at named
  cases source with
  | nil =>
    have checked : checkIfFileWasPatched
        { filename := patch.originalFileName, isOutput := false } =
          .error .argumentOutOfRange := by
      by_cases script : filename = CMAKE_FILE <;>
        simp [checkIfFileWasPatched, named, SourceFile.getLine, bind, Except.bind, script]
    simp [PatchFile.patched, checked, PatchFile.result, bind, Except.bind, Except.map]
  | cons first others =>
    let input : SourceFile :=
      { filename := patch.originalFileName, isOutput := false, isCMakeFile := patch.forCMake,
        lines := first :: others }
    have whole : input = input.moveTo (first :: others) := by
      simp [SourceFile.moveTo, input]
    have checked : checkIfFileWasPatched
        { filename := patch.originalFileName, isOutput := false, lines := first :: others } =
          .ok (startsWith first patch.patchCode, patch.patchCode, input) := by
      by_cases script : filename = CMAKE_FILE <;>
        simp [checkIfFileWasPatched, named, SourceFile.getLine, bind, Except.bind, pure, Except.pure,
          PatchFile.patchCode, PatchFile.forCMake, input, script]
    simp only [PatchFile.patched, checked, PatchFile.result]
    cases before : startsWith first patch.patchCode with
    | true => rfl
    | false =>
      let output : SourceFile :=
        { filename := patch.originalFileName, isOutput := true, isCMakeFile := patch.forCMake,
          lines := [patch.header] }
      have tasks := patchTasks_eq patch.patchTasks input output (first :: others) List.suffix_rfl
      rw [← whole] at tasks
      change Except.map _ (patch.patchTasks.foldlM
        (fun (input, output) task => task.patchFile input output) (input, output) >>= _) = _
      rw [tasks]
      change Except.map _ (outcome input output
        (chain Task.exec patch.scripts (first :: others)) >>= _) = _
      cases performed : chain Task.exec patch.scripts (first :: others) with
      | error refusal => rfl
      | ok result =>
        obtain ⟨marks, rest⟩ := result
        have accounted := ((tasks_ok_iff _ _ _ _).mp performed).accounts
          fun _ _ _ _ => Task.Run.accounts
        have left : rest <:+ input.lines := ⟨reads marks, accounted.symm⟩
        change Except.map _ (copyLoop _ _ (input.moveTo rest) (output.addLines (writes marks)) >>=
          _) = _
        rw [copyRest_eq input (output.addLines (writes marks)) rest left]
        simp [Except.map, bind, Except.bind, pure, Except.pure, PatchFile.recordOf, output]

/-- A result is what a pass over an unpatched source writes. -/
theorem result_ok_iff (patch : PatchFile) (source lines : List Text) :
    patch.result source = .ok lines ↔
      patch.Unpatched source ∧ ∃ record, patch.Pass source record ∧ lines = writes record := by
  cases source with
  | nil =>
    constructor
    · intro produced
      simp [PatchFile.result] at produced
    · rintro ⟨⟨first, rest, empty, _⟩, _⟩
      contradiction
  | cons first others =>
    constructor
    · intro produced
      simp only [PatchFile.result] at produced
      cases before : startsWith first patch.patchCode with
      | true => simp [before] at produced
      | false =>
        cases performed : chain Task.exec patch.scripts (first :: others) with
        | error refusal => simp [before, performed] at produced
        | ok result =>
          obtain ⟨marks, rest⟩ := result
          simp only [before, performed, Bool.false_eq_true, if_false, Except.ok.injEq] at produced
          refine ⟨⟨first, others, rfl, ?_⟩, patch.recordOf marks rest, ?_, produced.symm⟩
          · rw [← startsWith_iff, before]
            exact Bool.false_ne_true
          · exact .pass marks rest ((tasks_ok_iff _ _ _ _).mp performed)
    · rintro ⟨⟨same, rest, whole, unpatched⟩, record, pass, rfl⟩
      obtain ⟨rfl, rfl⟩ := List.cons.inj whole
      rw [← startsWith_iff, Bool.not_eq_true] at unpatched
      cases pass with
      | pass marks rest run =>
        have performed := (tasks_ok_iff _ _ _ _).mpr run
        simp [PatchFile.result, unpatched, performed]

theorem patchContent_absent (patch : PatchFile) (disk : Disk)
    (absent : disk.files patch.originalFileName = none) :
    patch.patchContent.on disk = (.error (.notSupported (some "file not found!")), disk) := by
  simp [PatchFile.patchContent, FileM.on_bind, absent]

/-- Applying a patch to a stored file saves the result, or raises its fault and
writes nothing. -/
theorem patchContent_stored (patch : PatchFile) (disk : Disk) (content : Text)
    (stored : disk.files patch.originalFileName = some content) :
    patch.patchContent.on disk =
      match patch.result (LineText.readLines content) with
      | .error fault => (.error fault, disk)
      | .ok lines =>
        (.ok (), disk.write patch.originalFileName (LineText.writeLines lines)
          (disk.named _ _ stored)) := by
  have legal := disk.named _ _ stored
  have produced := patched_eq patch legal (LineText.readLines content)
  have read := FileM.on_readAllLines patch.originalFileName content disk stored
  simp only [PatchFile.patchContent, FileM.on_bind, FileM.on_fileExists, stored, Option.isSome_some,
    Bool.not_true, Bool.false_eq_true, if_false, FileM.on_pure, SourceFile.readAllLines, read,
    List.nil_append]
  generalize patch.patched
    { filename := patch.originalFileName, isOutput := false, lines := LineText.readLines content } =
      patched at produced ⊢
  cases patched with
  | error fault =>
    cases result : patch.result (LineText.readLines content) with
    | error other =>
      have same : fault = other := by simpa [result, Except.map] using produced
      simp [same]
    | ok lines => simp [result, Except.map] at produced
  | ok output =>
    cases result : patch.result (LineText.readLines content) with
    | error other => simp [result, Except.map] at produced
    | ok lines =>
      have same : output.filename = patch.originalFileName ∧ output.lines = lines := by
        simpa [result, Except.map] using produced
      simp only [SourceFile.save, same.1, same.2]
      exact FileM.on_writeAllText patch.originalFileName (LineText.writeLines lines) disk legal

/-- When applying a patch completes, and what it leaves. -/
theorem patchContent_ok_iff (patch : PatchFile) (disk after : Disk) :
    patch.patchContent.on disk = (.ok (), after) ↔
      ∃ content record, ∃ stored : disk.files patch.originalFileName = some content,
        patch.Unpatched (LineText.readLines content) ∧
        patch.Pass (LineText.readLines content) record ∧
        after = disk.write patch.originalFileName (LineText.writeLines (writes record))
          (disk.named _ _ stored) := by
  constructor
  · intro completed
    cases Option.eq_none_or_eq_some (disk.files patch.originalFileName) with
    | inl absent => simp [patchContent_absent patch disk absent] at completed
    | inr present =>
      obtain ⟨content, stored⟩ := present
      rw [patchContent_stored patch disk content stored] at completed
      cases produced : patch.result (LineText.readLines content) with
      | error fault => simp [produced] at completed
      | ok lines =>
        obtain ⟨unpatched, record, pass, rfl⟩ := (result_ok_iff _ _ _).mp produced
        simp only [produced, Prod.mk.injEq, true_and] at completed
        exact ⟨content, record, stored, unpatched, pass, completed.symm⟩
  · rintro ⟨content, record, stored, unpatched, pass, rfl⟩
    rw [patchContent_stored patch disk content stored,
      (result_ok_iff patch _ _).mpr ⟨unpatched, record, pass, rfl⟩]

end Whole

end CefBridge.Patcher
