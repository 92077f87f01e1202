import CefBridge.Patcher.Preservation
import CefBridge.Patcher.Stored

/-!
# Extracting a patch from a patched file

The control lines of a patched file record, in order, which searches hit and
which lines they hit. Reading the file makes a whole matched line, trimmed, the
new search string. It is longer than the old one but finds the same line, since
whatever line it begins is begun by the old one too. So the extracted patch
repeats the pass, mark by mark.

The proof follows one run through both programs. Each performed command leaves
marks that the reader takes for a command that performs the same marks.
-/

namespace CefBridge.Patcher

open Library Library.EditScript

section Narrowing

/-- A line before the matched one is not found by it either. -/
theorem hits_narrowed {key line other : Text} (trimmed : Trimmed key)
    (met : Hits key line = true) (passed : Hits key other = false) :
    Hits (trim line) other = false := by
  rw [← Bool.not_eq_true] at passed ⊢
  intro again
  apply passed
  exact (hits_iff _ _).mpr (Trimming.narrowed_key (Trimming.Bare.trimEnd_eq trimmed)
    ((hits_iff _ _).mp met) ((hits_iff _ _).mp again))

theorem gap_narrowed {key line : Text} {gap : List Text} (trimmed : Trimmed key)
    (met : Hits key line = true) (passed : ∀ other ∈ gap, Hits key other = false) :
    ∀ other ∈ gap, Hits (trim line) other = false :=
  fun other member => hits_narrowed trimmed met (passed other member)

end Narrowing

/-- Reading lines adds commands to the current task, whatever follows. -/
def AddsCommands (lines : List Text) (taskId : Int32) (cmds : List PatchCommand) : Prop :=
  ∀ finished (ptask : PatchTask) more, ptask.taskId = taskId →
    buildLoop none ⟨finished, some ptask⟩ (lines ++ more) =
      buildLoop none ⟨finished, some { ptask with commands := ptask.commands ++ cmds }⟩ more

section Commands

/-- The marks of a performed command are read as a command that leaves the same
marks on the same lines. -/
theorem command_reread {cmd : PatchCommand} {taskId : Int32} {source rest : List Text}
    {marks : Record} (stored : cmd.Stored taskId) (plain : ∀ line ∈ source, Plain line)
    (run : (cmd.edit false).Run source marks rest) :
    ∃ again : PatchCommand, (again.edit false).Run source marks rest ∧
      AddsCommands (writes marks) taskId [again] := by
  obtain ⟨rfl, shape⟩ := stored
  have trimmed := cmd.trimmed
  cases kind : cmd.comandKind with
  | unknown => exact absurd shape (by simp [kind])
  | appendStringStop => exact absurd shape (by simp [kind])
  | appendStringStart =>
    refine ⟨cmd, run, ?_⟩
    intro finished ptask more same
    rw [kind] at shape
    obtain ⟨text, collected, whole⟩ := shape
    obtain ⟨lines, restored⟩ := appendText_restored collected whole.symm
    simp only [PatchCommand.edit, kind] at run
    cases run
    have block := buildLoop_append finished ptask cmd.taskId more (LineText.readLines cmd.string)
      fun line member => (lines line member).1
    simp only [writes_stamp, PatchCommand.notes, kind, perfixComment, Bool.false_eq_true, if_false,
      List.nil_append, List.cons_append, List.map_cons, List.map_append, List.map_map,
      Function.comp_def, List.map_id', List.map_nil, List.append_assoc]
    rw [List.cons_append] at block
    rw [block, PatchTask.append, PatchTask.add, PatchCommand.new_eq same.symm kind restored]
  | skipUntilPass =>
    refine ⟨cmd, run, ?_⟩
    intro finished ptask more same
    simp only [PatchCommand.edit, kind] at run
    cases run with
    | skipPast hit notes gap found rest passed met =>
      have line := buildLoop_skipUntilPass finished ptask cmd.taskId more cmd.string
      simp only [writes_append, writes_skipped, writes_stamp, PatchCommand.notes, kind,
        writes_skipped_cons, writes_nil, List.append_nil, List.nil_append, List.map_cons,
        List.map_nil, List.cons_append]
      rw [line, PatchTask.skipUntilPass, PatchTask.add, PatchCommand.new_eq same.symm kind trimmed]
  | findNextLandMark =>
    simp only [PatchCommand.edit, kind, PatchCommand.notes] at run
    cases run with
    | seek hit notes gap found rest passed met =>
      refine ⟨.new cmd.taskId .findNextLandMark found, ?_, ?_⟩
      · exact .seek (Hits (trim found)) _ gap found rest (gap_narrowed trimmed met passed)
          (hits_itself found)
      · intro finished ptask more same
        have line := buildLoop_findNext finished ptask more found
        rw [same] at line
        simp only [writes_append, writes_copied, writes_stamp, writes_copied_cons, writes_nil,
          List.map_cons, List.map_nil, List.append_assoc, List.cons_append, List.nil_append]
        rw [buildLoop_plain _ _ gap fun other member => plain other (by simp [member]), line,
          PatchTask.findNext, PatchTask.add, same]
  | followBy =>
    simp only [PatchCommand.edit, kind, PatchCommand.notes] at run
    cases run with
    | follow hit notes found rest met =>
      refine ⟨.new cmd.taskId .followBy found, ?_, ?_⟩
      · exact .follow (Hits (trim found)) _ found rest (hits_itself found)
      · intro finished ptask more same
        have line := buildLoop_followBy finished ptask more found
        rw [same] at line
        simp only [writes_append, writes_stamp, writes_followed_cons, writes_nil, List.map_cons,
          List.map_nil, List.cons_append, List.nil_append]
        rw [line, PatchTask.followBy, PatchTask.add, same]
  | skipUntilAndAccept =>
    simp only [PatchCommand.edit, kind, PatchCommand.notes] at run
    cases run with
    | skipTo hit notes gap found rest passed met =>
      refine ⟨.new cmd.taskId .skipUntilAndAccept found, ?_, ?_⟩
      · exact .skipTo (Hits (trim found)) _ gap found rest (gap_narrowed trimmed met passed)
          (hits_itself found)
      · intro finished ptask more same
        have line := buildLoop_skipUntilAndAccept finished ptask more found
        rw [same] at line
        simp only [writes_append, writes_skipped, writes_stamp, writes_copied_cons, writes_nil,
          List.map_cons, List.map_nil, List.cons_append, List.nil_append]
        rw [line, PatchTask.skipUntilAndAccept, PatchTask.add, same]

/-- The same for the commands of a task, one after another. -/
theorem commands_reread (cmds : List PatchCommand) {taskId : Int32} {source rest : List Text}
    {marks : Record} (stored : ∀ cmd ∈ cmds, cmd.Stored taskId)
    (plain : ∀ line ∈ source, Plain line)
    (run : Chain Edit.Run (cmds.map (PatchCommand.edit false)) source marks rest) :
    ∃ again : List PatchCommand, again.length = cmds.length ∧
      Chain Edit.Run (again.map (PatchCommand.edit false)) source marks rest ∧
      AddsCommands (writes marks) taskId again := by
  induction cmds generalizing source marks with
  | nil =>
    cases run
    refine ⟨[], rfl, .done _, ?_⟩
    intro finished ptask more same
    simp
  | cons cmd cmds ih =>
    cases run with
    | step first remaining =>
      rename_i middle front back
      have split := first.accounts
      obtain ⟨head, headRun, headAdds⟩ := command_reread (stored cmd (by simp)) plain first
      obtain ⟨tail, length, tailRun, tailAdds⟩ :=
        ih (fun other member => stored other (by simp [member]))
          (fun line member => plain line (by simp [split, member])) remaining
      refine ⟨head :: tail, by simp [length], .step headRun tailRun, ?_⟩
      intro finished ptask more same
      rw [writes_append, List.append_assoc, headAdds finished ptask _ same,
        tailAdds finished { ptask with commands := ptask.commands ++ [head] } more same]
      simp

end Commands

section Tasks

/-- The marks of a carried-out task are read as a task that leaves the same
marks. -/
theorem task_reread {task : PatchTask} {source rest : List Text} {marks : Record}
    (stored : task.Stored) (plain : ∀ line ∈ source, Plain line)
    (run : (task.script false).Found source marks rest) :
    ∃ again : PatchTask, again.commands.length = task.commands.length ∧
      (again.script false).Found source marks rest ∧
      ∀ (state : BuildState) more, buildLoop none state (writes marks ++ more) =
        buildLoop none ⟨state.tasks, some again⟩ more := by
  obtain ⟨landMark, taskId, cmds, trimmed⟩ := task
  cases run with
  | found gap line middle rest later passed met edited =>
    obtain ⟨again, length, againRun, adds⟩ := commands_reread cmds stored.commands
      (fun other member => plain other (by simp [member])) edited
    refine ⟨{ PatchTask.new line taskId with commands := again }, length, ?_, ?_⟩
    · exact .found gap line middle rest later (gap_narrowed trimmed met passed) (hits_itself line)
        againRun
    · intro state more
      simp only [writes_append, writes_copied, PatchTask.script, PatchTask.notes,
        Bool.false_eq_true, if_false, writes_stamp, writes_copied_cons, List.map_cons,
        List.map_nil, List.append_assoc, List.cons_append, List.nil_append]
      rw [buildLoop_plain _ _ gap fun other member => plain other (by simp [member]),
        buildLoop_start, BuildState.start, adds _ (PatchTask.new line taskId) more rfl]
      simp [PatchTask.new]

/-- The marks of a pass over all tasks are read as the tasks that were carried
out, and these leave the same marks. -/
theorem tasks_reread (tasks : List PatchTask) {source rest : List Text} {marks : Record}
    (stored : ∀ task ∈ tasks, task.Stored) (plain : ∀ line ∈ source, Plain line)
    (commands : ∀ task ∈ tasks, task.commands ≠ [])
    (run : Chain Task.Run (tasks.map (PatchTask.script false)) source marks rest) :
    ∃ (again : List PatchTask) (others : Record) (last : List Text),
      (∀ task ∈ again, task.commands ≠ []) ∧
      (again = [] → ∀ task ∈ tasks.head?, ∀ line ∈ source, Hits task.landMark line = false) ∧
      Chain Task.Run (again.map (PatchTask.script false)) source others last ∧
      others ++ last.map .copied = marks ++ rest.map .copied ∧
      ∀ state, buildLoop none state (writes marks ++ rest) = .ok (state.startAll again) := by
  induction tasks generalizing source marks with
  | nil =>
    cases run
    refine ⟨[], [], rest, by simp, by simp, .done _, rfl, ?_⟩
    intro state
    have read := buildLoop_plain state [] rest plain
    simpa [buildLoop, BuildState.startAll] using read
  | cons task tasks ih =>
    cases run with
    | step first remaining =>
      rename_i middle front back
      cases first with
      | missed passed =>
        obtain ⟨rfl, rfl⟩ := tasks_nothing remaining
        refine ⟨[], [], source, by simp, ?_, .done _, by simp, ?_⟩
        · rintro _ other ⟨⟩
          exact passed
        · intro state
          have read := buildLoop_plain state [] source plain
          simpa [buildLoop, BuildState.startAll] using read
      | found carried =>
        have split := carried.accounts
        obtain ⟨head, length, headRun, headReads⟩ := task_reread (stored task (by simp)) plain carried
        obtain ⟨tail, others, last, tailCommands, _, tailRun, same, tailReads⟩ :=
          ih (fun other member => stored other (by simp [member]))
            (fun line member => plain line (by simp [split, member]))
            (fun other member => commands other (by simp [member])) remaining
        refine ⟨head :: tail, front ++ others, last, ?_, by simp, .step (.found headRun) tailRun,
          by simp [same], ?_⟩
        · intro other member
          cases List.mem_cons.mp member with
          | inl isHead =>
            subst isHead
            have shown : task.commands ≠ [] := commands task (by simp)
            rw [← List.length_pos_iff] at shown ⊢
            omega
          | inr isTail => exact tailCommands other isTail
        · intro state
          rw [writes_append, List.append_assoc, headReads, tailReads]
          rfl

end Tasks

/-- A patch that is extracted from a patched file patches the same source into
the same file. -/
theorem buildPatchFile_patchContent (filename : Text) (library : Disk) (patch : PatchFile)
    (built : ((buildPatchFile filename).on library).1 = .ok (some patch))
    (trimmed : Trimmed patch.originalFileName)
    (noScript : getFileName patch.originalFileName ≠ .ok CMAKE_FILE)
    (commands : ∀ task ∈ patch.patchTasks, task.commands ≠ []) (disk after : Disk)
    (content : Text) (source : disk.files patch.originalFileName = some content)
    (plain : ∀ line ∈ LineText.readLines content, Plain line)
    (first : ∀ task ∈ patch.patchTasks.head?,
      ∃ line ∈ LineText.readLines content, Hits task.landMark line = true)
    (completed : patch.patchContent.on disk = (.ok (), after)) :
    ∃ extracted, (buildPatchFile patch.originalFileName).on after = (.ok (some extracted), after) ∧
      extracted.patchContent.on disk = (.ok (), after) := by
  have stored := buildPatchFile_stored filename library patch built
  have script : patch.forCMake = false := by simp [PatchFile.forCMake, noScript]
  obtain ⟨other, record, otherSource, unpatched, pass, rfl⟩ :=
    (patchContent_ok_iff patch disk after).mp completed
  obtain rfl : content = other := Option.some.inj (source.symm.trans otherSource)
  have lines := pass_oneLine patch _ record pass stored.singleLine stored.named
    (LineText.readLines_oneLine content)
  cases pass with
  | pass marks rest run =>
    rw [PatchFile.scripts, script] at run
    obtain ⟨again, others, last, againCommands, missed, againRun, same, reads⟩ :=
      tasks_reread patch.patchTasks stored.tasks plain commands run
    rcases List.eq_nil_or_concat' again with rfl | ⟨earlier, task, rfl⟩
    · obtain ⟨tasks, task, whole, _⟩ := stored.last
      have shown : patch.patchTasks ≠ [] := by simp [whole]
      obtain ⟨line, member, met⟩ := first _ (List.head_mem_head? shown)
      have notMet := missed rfl _ (List.head_mem_head? shown) line member
      rw [met] at notMet
      contradiction
    · let extracted : PatchFile := ⟨patch.originalFileName, earlier ++ [task]⟩
      have record : extracted.recordOf others last = patch.recordOf marks rest := by
        have headers : extracted.header = patch.header := rfl
        simp only [PatchFile.recordOf, headers, List.cons_append, same]
      refine ⟨extracted, ?_, ?_⟩
      · rw [buildPatchFile_on _ _ _ (Disk.write_same disk _ _ _), LineText.readLines_writeLines _ lines]
        have header : patch.header = ORIGINAL ++ ' ' :: patch.originalFileName := by
          simp [PatchFile.header, PatchFile.patchCode, script]
        have written : writes (patch.recordOf marks rest) =
            patch.header :: (writes marks ++ rest) := by
          simp [PatchFile.recordOf]
        have named := readHeader_named patch.originalFileName patch.originalFileName
          (writes marks ++ rest)
        have name : trim patch.originalFileName = patch.originalFileName := trimmed
        have extractedLines : buildPatchLines patch.originalFileName
            (writes (patch.recordOf marks rest)) = .ok (some extracted) := by
          refine (buildPatchLines_ok_iff _ _ _).mpr ⟨patch.header, writes marks ++ rest, earlier,
            task, written, ?_, againCommands task (by simp), ?_⟩
          · rw [header, named, reads, startAll_last]
            rfl
          · rw [header, named, name]
        rw [extractedLines]
      · apply (patchContent_ok_iff extracted disk _).mpr
        refine ⟨content, extracted.recordOf others last, source, unpatched, .pass others last ?_, ?_⟩
        · have sameScript : extracted.forCMake = false := script
          rw [PatchFile.scripts, sameScript]
          exact againRun
        · rw [record]

/-- A landmark that is the beginning of its line, and a skip to a later line. -/
theorem buildPatchFile_patchContent_short_landmark :
    ∃ (patch extracted : PatchFile) (after : Disk),
      patch.patchContent.on ((Disk.empty .exact).write "a.h".toList "int a;\n b\nint c;".toList (by decide)) =
        (.ok (), after) ∧
      (buildPatchFile "a.h".toList).on after = (.ok (some extracted), after) ∧
      extracted.patchContent.on
          ((Disk.empty .exact).write "a.h".toList "int a;\n b\nint c;".toList (by decide)) =
        (.ok (), after) := by
  let annotated := "//###_START 0\nint\n//###_SKIP_UNTIL_AND_ACCEPT 0\nint\n".toList
  let library := (Disk.empty .exact).write "a.h".toList annotated (by decide)
  let disk := (Disk.empty .exact).write "a.h".toList "int a;\n b\nint c;".toList (by decide)
  let patch : PatchFile :=
    ⟨"a.h".toList, [(PatchTask.new "int".toList 0).skipUntilAndAccept "int".toList]⟩
  have built : ((buildPatchFile "a.h".toList).on library).1 = .ok (some patch) := by decide +kernel
  have first : ∀ task ∈ patch.patchTasks.head?,
      ∃ line ∈ LineText.readLines "int a;\n b\nint c;".toList, Hits task.landMark line = true := by
    rintro task ⟨⟩
    exact ⟨"int a;".toList, by decide, by decide⟩
  have completed : patch.patchContent.on disk = (.ok (), (patch.patchContent.on disk).2) := rfl
  obtain ⟨extracted, read, again⟩ :=
    buildPatchFile_patchContent "a.h".toList library patch built (by decide) (by decide) (by decide)
      disk _ _ rfl (by decide) first completed
  exact ⟨patch, extracted, _, completed, read, again⟩

end CefBridge.Patcher
