import CefBridge.Patcher.Passes

/-!
# Applying a patch preserves the source text

Every line of the original file is read exactly once and in order. It is written
again unless a skip command discards it, and a skip command discards only the
lines from the cursor to its first hit. Every other line of the saved file is
the header, a control line, or a line of an append command that was executed.

A control line that prints a search string is one line of the file only when the
string is, so reading the saved file back asks for such strings.
-/

namespace CefBridge.Patcher

open Library Library.EditScript

/-- The sign that starts header and control lines. -/
def commentStart (isCMakeFile : Bool) : Text := if isCMakeFile then "#".toList else CMD_PREFIX

/-- The command belongs to a task that was carried out within a record. -/
def PatchFile.Executed (patch : PatchFile) (record : Record) (cmd : PatchCommand) : Prop :=
  ∃ task ∈ patch.patchTasks, cmd ∈ task.commands ∧
    ∃ part piece after, (task.script patch.forCMake).Found part piece after ∧ piece <:+: record

/-- What a record may say of a line that is not in the source. -/
def PatchFile.Explains (patch : PatchFile) (record : Record) (line : Text) : Origin → Prop
  | .header => line = patch.header ∧ commentStart patch.forCMake <+: line
  | .control => commentStart patch.forCMake <+: line
  | .appended cmd =>
    cmd.comandKind = .appendStringStart ∧ line ∈ LineText.readLines cmd.string ∧
      patch.Executed record cmd

/-- No command of the patch skips. -/
def PatchFile.WithoutSkips (patch : PatchFile) : Prop :=
  ∀ task ∈ patch.patchTasks, ∀ cmd ∈ task.commands,
    cmd.comandKind ≠ .skipUntilPass ∧ cmd.comandKind ≠ .skipUntilAndAccept

section Notes

/-- All command names start with the command prefix. -/
theorem commentStart_name (isCMakeFile : Bool) (name rest : Text) (command : CMD_PREFIX <+: name) :
    commentStart isCMakeFile <+: perfixComment isCMakeFile ++ (name ++ rest) := by
  cases isCMakeFile with
  | true => exact ⟨' ' :: (name ++ rest), rfl⟩
  | false => exact command.trans (List.prefix_append name rest)

theorem commentStart_controlLine (isCMakeFile : Bool) (name : Text) (taskId : Int32) (rest : Text)
    (command : CMD_PREFIX <+: name) :
    commentStart isCMakeFile <+: controlLine isCMakeFile name taskId ++ rest := by
  have start := commentStart_name isCMakeFile name (' ' :: printInt taskId ++ rest) command
  simpa [controlLine] using start

/-- A command inserts an append text between control lines, one control line, or
nothing. Only the control line of a skip past its string prints a string. -/
theorem PatchCommand.notes_cases (isCMakeFile : Bool) (cmd : PatchCommand) :
    cmd.comandKind = .appendStringStart ∧
      cmd.notes isCMakeFile = (.control, controlLine isCMakeFile APPPEND_START cmd.taskId) ::
        (LineText.readLines cmd.string).map (fun line => (.appended cmd, line)) ++
          [(.control, perfixComment isCMakeFile ++ APPPEND_STOP)] ∨
    (∃ name, CMD_PREFIX <+: name ∧ LineText.OneLine name ∧
      cmd.notes isCMakeFile = [(.control, controlLine isCMakeFile name cmd.taskId)]) ∨
    cmd.comandKind = .skipUntilPass ∧
      cmd.notes isCMakeFile =
        [(.control, controlLine isCMakeFile SKIP_UNTIL_PASS cmd.taskId ++ ' ' :: cmd.string)] ∨
    cmd.notes isCMakeFile = [] := by
  cases kind : cmd.comandKind with
  | appendStringStart => exact Or.inl ⟨rfl, by simp [notes, kind]⟩
  | findNextLandMark =>
    exact Or.inr (Or.inl ⟨FIND_NEXT_LANDMARK, by decide, by decide, by simp [notes, kind]⟩)
  | followBy => exact Or.inr (Or.inl ⟨FOLLOW_BY, by decide, by decide, by simp [notes, kind]⟩)
  | skipUntilAndAccept =>
    exact Or.inr (Or.inl ⟨SKIP_UNTIL_AND_ACCEPT, by decide, by decide, by simp [notes, kind]⟩)
  | skipUntilPass => exact Or.inr (Or.inr (Or.inl ⟨rfl, by simp [notes, kind]⟩))
  | appendStringStop => exact Or.inr (Or.inr (Or.inr (by simp [notes, kind])))
  | unknown => exact Or.inr (Or.inr (Or.inr (by simp [notes, kind])))

/-- The lines that a command inserts are control lines or lines of its text. -/
theorem PatchCommand.note_shape (isCMakeFile : Bool) (cmd : PatchCommand) (origin : Origin)
    (line : Text) (noted : (origin, line) ∈ cmd.notes isCMakeFile) :
    origin = .control ∧ commentStart isCMakeFile <+: line ∨
      origin = .appended cmd ∧ cmd.comandKind = .appendStringStart ∧
        line ∈ LineText.readLines cmd.string := by
  have bare (name : Text) (command : CMD_PREFIX <+: name) :
      commentStart isCMakeFile <+: controlLine isCMakeFile name cmd.taskId := by
    simpa using commentStart_controlLine isCMakeFile name cmd.taskId [] command
  rcases cmd.notes_cases isCMakeFile with
    ⟨kind, appends⟩ | ⟨name, command, _, operand⟩ | ⟨_, past⟩ | none
  · simp only [appends, List.cons_append, List.mem_cons, Prod.mk.injEq, List.mem_append,
      List.mem_map, List.not_mem_nil, or_false] at noted
    rcases noted with ⟨rfl, rfl⟩ | ⟨text, member, rfl, rfl⟩ | ⟨rfl, rfl⟩
    · exact Or.inl ⟨rfl, bare APPPEND_START (by decide)⟩
    · exact Or.inr ⟨rfl, kind, member⟩
    · refine Or.inl ⟨rfl, ?_⟩
      simpa using commentStart_name isCMakeFile APPPEND_STOP [] (by decide)
  · simp only [operand, List.mem_singleton, Prod.mk.injEq] at noted
    exact Or.inl ⟨noted.1, noted.2 ▸ bare name command⟩
  · simp only [past, List.mem_singleton, Prod.mk.injEq] at noted
    have control := commentStart_controlLine isCMakeFile SKIP_UNTIL_PASS cmd.taskId
      (' ' :: cmd.string) (by decide)
    exact Or.inl ⟨noted.1, noted.2 ▸ control⟩
  · simp [none] at noted

theorem PatchTask.note_shape (isCMakeFile : Bool) (task : PatchTask) (origin : Origin) (line : Text)
    (noted : (origin, line) ∈ task.notes isCMakeFile) :
    origin = .control ∧ commentStart isCMakeFile <+: line := by
  cases isCMakeFile with
  | true => simp [notes] at noted
  | false =>
    simp only [notes, Bool.false_eq_true, if_false, List.mem_singleton, Prod.mk.injEq] at noted
    obtain ⟨rfl, rfl⟩ := noted
    exact ⟨rfl, commentStart_name false START _ (by decide)⟩

/-- The edit of a command inserts the command's notes, or is refused. -/
theorem PatchCommand.edit_notes (isCMakeFile : Bool) (cmd : PatchCommand) :
    (cmd.edit isCMakeFile).notes = cmd.notes isCMakeFile := by
  cases kind : cmd.comandKind <;> simp [edit, notes, kind, Edit.notes]

theorem PatchCommand.edit_retains (isCMakeFile : Bool) (cmd : PatchCommand)
    (past : cmd.comandKind ≠ .skipUntilPass) (accept : cmd.comandKind ≠ .skipUntilAndAccept) :
    (cmd.edit isCMakeFile).Retains := by
  cases kind : cmd.comandKind <;> simp_all [edit, Edit.Retains]

theorem header_commentStart (patch : PatchFile) :
    commentStart patch.forCMake <+: patch.header := by
  cases script : patch.forCMake with
  | true =>
    have start : commentStart true <+: CMAKE_PATCH := by decide
    exact start.trans (by simp [PatchFile.header, PatchFile.patchCode, script])
  | false =>
    have start : commentStart false <+: ORIGINAL := by decide
    exact start.trans (by simp [PatchFile.header, PatchFile.patchCode, script])

/-- Every inserted line of a pass is explained. -/
theorem pass_explained (patch : PatchFile) (source : List Text) (record : Record)
    (pass : patch.Pass source record) (origin : Origin) (line : Text)
    (member : .inserted origin line ∈ record) : patch.Explains record line origin := by
  cases pass with
  | pass marks rest run =>
    simp only [PatchFile.recordOf, List.cons_append, List.mem_cons, Mark.inserted.injEq,
      List.mem_append, List.mem_map, reduceCtorEq, and_false, exists_false, or_false] at member
    rcases member with ⟨rfl, rfl⟩ | member
    · exact ⟨rfl, header_commentStart patch⟩
    · obtain ⟨script, among, ⟨part, piece, after, carried, within⟩, noted⟩ :=
        tasks_inserted run member
      obtain ⟨task, taskMember, rfl⟩ := List.mem_map.mp among
      rcases noted with own | ⟨edit, editMember, noted⟩
      · obtain ⟨rfl, start⟩ := task.note_shape patch.forCMake origin line own
        exact start
      · obtain ⟨cmd, cmdMember, rfl⟩ := List.mem_map.mp editMember
        rw [cmd.edit_notes] at noted
        rcases cmd.note_shape patch.forCMake origin line noted with
          ⟨rfl, start⟩ | ⟨rfl, kind, text⟩
        · exact start
        · refine ⟨kind, text, task, taskMember, cmdMember, part, piece, after, carried, ?_⟩
          apply within.trans
          exact ⟨[.inserted .header patch.header], rest.map .copied, by simp [PatchFile.recordOf]⟩

end Notes

section Lines

/-- The source line of a pass is read by exactly one mark, in order. -/
theorem pass_reads (patch : PatchFile) (source : List Text) (record : Record)
    (pass : patch.Pass source record) : reads record = source := by
  cases pass with
  | pass marks rest run =>
    have accounted := run.accounts fun _ _ _ _ => Task.Run.accounts
    simp [PatchFile.recordOf, ← accounted]

/-- Without skip commands a pass keeps every source line. -/
theorem pass_keeps (patch : PatchFile) (source : List Text) (record : Record)
    (pass : patch.Pass source record) (unskipped : patch.WithoutSkips) :
    keeps record = source := by
  rw [← pass_reads patch source record pass]
  cases pass with
  | pass marks rest run =>
    have tail : keeps marks = reads marks := by
      apply run.retained
      intro script among before part after taskRun
      obtain ⟨task, member, rfl⟩ := List.mem_map.mp among
      apply taskRun.retained
      intro edit editMember
      obtain ⟨cmd, cmdMember, rfl⟩ := List.mem_map.mp editMember
      obtain ⟨past, accept⟩ := unskipped task member cmd cmdMember
      exact cmd.edit_retains patch.forCMake past accept
    simp [PatchFile.recordOf, tail]

/-- A written line is inserted or comes from the source. -/
theorem written_mem {line : Text} {record : Record} (member : line ∈ writes record) :
    (∃ origin, Mark.inserted origin line ∈ record) ∨ line ∈ reads record := by
  obtain ⟨mark, markMember, written⟩ := List.mem_filterMap.mp member
  cases mark with
  | inserted origin other =>
    cases written
    exact Or.inl ⟨origin, markMember⟩
  | copied other =>
    cases written
    exact Or.inr (List.mem_filterMap.mpr ⟨_, markMember, rfl⟩)
  | followed other =>
    cases written
    exact Or.inr (List.mem_filterMap.mpr ⟨_, markMember, rfl⟩)
  | skipped other => contradiction

/-- The notes of a command are lines when a string on a control line is one. -/
theorem oneLine_notes (isCMakeFile : Bool) (cmd : PatchCommand)
    (single : cmd.comandKind = .skipUntilPass → LineText.OneLine cmd.string) (origin : Origin)
    (line : Text) (noted : (origin, line) ∈ cmd.notes isCMakeFile) : LineText.OneLine line := by
  rcases cmd.notes_cases isCMakeFile with
    ⟨_, appends⟩ | ⟨name, _, named, operand⟩ | ⟨kind, past⟩ | none
  · simp only [appends, List.cons_append, List.mem_cons, Prod.mk.injEq, List.mem_append,
      List.mem_map, List.not_mem_nil, or_false] at noted
    rcases noted with ⟨rfl, rfl⟩ | ⟨text, member, rfl, rfl⟩ | ⟨rfl, rfl⟩
    · exact oneLine_controlLine isCMakeFile APPPEND_START _ (by decide)
    · exact LineText.readLines_oneLine cmd.string text member
    · cases isCMakeFile <;> decide
  · simp only [operand, List.mem_singleton, Prod.mk.injEq] at noted
    exact noted.2 ▸ oneLine_controlLine isCMakeFile name _ named
  · simp only [past, List.mem_singleton, Prod.mk.injEq] at noted
    have control := oneLine_controlLine isCMakeFile SKIP_UNTIL_PASS cmd.taskId (by decide)
    exact noted.2 ▸ control.append (oneLine_space (single kind))
  · simp [none] at noted

theorem oneLine_header (patch : PatchFile) (named : LineText.OneLine patch.originalFileName) :
    LineText.OneLine patch.header := by
  have code : LineText.OneLine patch.patchCode := by
    cases script : patch.forCMake <;> simp only [PatchFile.patchCode, script] <;> decide
  exact code.append (oneLine_space named)

/-- All lines that a pass writes are lines. -/
theorem pass_oneLine (patch : PatchFile) (source : List Text) (record : Record)
    (pass : patch.Pass source record) (single : patch.SingleLine)
    (named : LineText.OneLine patch.originalFileName)
    (lines : ∀ line ∈ source, LineText.OneLine line) :
    ∀ line ∈ writes record, LineText.OneLine line := by
  intro line member
  rcases written_mem member with ⟨origin, inserted⟩ | read
  · cases pass with
    | pass marks rest run =>
      simp only [PatchFile.recordOf, List.cons_append, List.mem_cons, Mark.inserted.injEq,
        List.mem_append, List.mem_map, reduceCtorEq, and_false, exists_false, or_false] at inserted
      rcases inserted with ⟨rfl, rfl⟩ | inserted
      · exact oneLine_header patch named
      · obtain ⟨script, among, _, noted⟩ := tasks_inserted run inserted
        obtain ⟨task, taskMember, rfl⟩ := List.mem_map.mp among
        rcases noted with own | ⟨edit, editMember, noted⟩
        · simp only [PatchTask.script, PatchTask.notes] at own
          cases script : patch.forCMake with
          | true => simp [script] at own
          | false =>
            simp only [script, Bool.false_eq_true, if_false, List.mem_singleton,
              Prod.mk.injEq] at own
            exact own.2 ▸ oneLine_controlLine false START task.taskId (by decide)
        · obtain ⟨cmd, cmdMember, rfl⟩ := List.mem_map.mp editMember
          rw [cmd.edit_notes] at noted
          exact oneLine_notes patch.forCMake cmd (single task taskMember cmd cmdMember) origin line
            noted
  · rw [pass_reads patch source record pass] at read
    exact lines line read

end Lines

/-- A completed application of a patch loses, repeats and moves no source line.

There is a record of the pass whose marks read the source line by line and write
the lines of the saved file. Its skipped marks come from skip edits, which skip
from the cursor up to their first hit. All inserted lines are explained. -/
theorem patchContent_preserves (patch : PatchFile) (single : patch.SingleLine) (disk after : Disk)
    (completed : patch.patchContent.on disk = (.ok (), after)) :
    ∃ content saved record,
      disk.files patch.originalFileName = some content ∧
      after.files patch.originalFileName = some saved ∧
      (∀ other, disk.rule.key other ≠ disk.rule.key patch.originalFileName →
        after.files other = disk.files other) ∧
      patch.Pass (LineText.readLines content) record ∧
      reads record = LineText.readLines content ∧
      writes record = LineText.readLines saved ∧
      (∀ origin line, .inserted origin line ∈ record → patch.Explains record line origin) ∧
      (patch.WithoutSkips → keeps record = LineText.readLines content) := by
  obtain ⟨content, record, stored, unpatched, pass, rfl⟩ :=
    (patchContent_ok_iff patch disk after).mp completed
  have lines := pass_oneLine patch _ record pass single (disk.named _ _ stored).oneLine
    (LineText.readLines_oneLine content)
  refine ⟨content, LineText.writeLines (writes record), record, stored, Disk.write_same _ _ _ _, ?_,
    pass, pass_reads patch _ record pass, ?_, ?_, pass_keeps patch _ record pass⟩
  · intro other different
    exact Disk.write_other disk _ _ other _ different
  · exact (LineText.readLines_writeLines (writes record) lines).symm
  · intro origin line member
    exact pass_explained patch _ record pass origin line member

/-- A patch that skips and appends, applied to a file of three lines. -/
theorem patchContent_preserves_three_lines :
    ∃ record : Record, reads record = ["one".toList, "two".toList, "three".toList] ∧
      writes record = ["//###_ORIGINAL a.h".toList, "//###_START 0".toList, "one".toList,
        "//###_SKIP_UNTIL_PASS 0 two".toList, "//###_APPEND_START 0".toList, "new".toList,
        "//###_APPEND_STOP".toList, "three".toList] := by
  let task := ((PatchTask.new "one".toList 0).skipUntilPass "two".toList).append "new".toList
  let patch : PatchFile := ⟨"a.h".toList, [task]⟩
  let disk := (Disk.empty .exact).write "a.h".toList "one\ntwo\nthree".toList (by decide)
  obtain ⟨content, saved, record, stored, written, _, _, read, wrote, _⟩ :=
    patchContent_preserves patch (by decide) disk (patch.patchContent.on disk).2 rfl
  cases stored
  refine ⟨record, read, wrote.trans ?_⟩
  cases written
  decide +kernel

end CefBridge.Patcher
