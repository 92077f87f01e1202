import CefBridge.Patcher.Passes

/-!
# When applying a patch is all or nothing

A patch is carried out when every task finds its landmark at or after the cursor
and performs all its commands. A command that cannot be performed raises a
fault, and nothing is written. A landmark that is not found does not: the task
returns before the statement that would raise one, the rest of the file is
copied, and the file is saved as patched.

`allOrNothing_iff` says exactly when this path is not taken. The landmark of
every task whose turn comes must occur in the lines that are left.
-/

namespace CefBridge.Patcher

open Library Library.EditScript

/-- All tasks of the patch found their landmarks and performed their commands,
and every append text stands in the saved file. -/
def PatchFile.CarriedOut (patch : PatchFile) (source : List Text) (saved : Text) : Prop :=
  ∃ marks rest, Chain Task.Found patch.scripts source marks rest ∧
    saved = LineText.writeLines (writes (patch.recordOf marks rest)) ∧
    ∀ task ∈ patch.patchTasks, ∀ cmd ∈ task.commands, cmd.comandKind = .appendStringStart →
      LineText.readLines cmd.string <:+: writes (patch.recordOf marks rest)

/-- A fault leaves the disk as it was, and a return leaves the patch carried out. -/
def PatchFile.AllOrNothing (patch : PatchFile) (disk : Disk) : Prop :=
  match patch.patchContent.on disk with
  | (.error _, after) => after = disk
  | (.ok _, after) =>
    ∃ content saved, disk.files patch.originalFileName = some content ∧
      after.files patch.originalFileName = some saved ∧
      patch.CarriedOut (LineText.readLines content) saved

/-- In a file that can be patched, the landmark of every task that is reached
occurs in what is left. -/
def PatchFile.LandmarksMet (patch : PatchFile) (disk : Disk) : Prop :=
  ∀ content, disk.files patch.originalFileName = some content →
    patch.Unpatched (LineText.readLines content) →
    Met patch.scripts (LineText.readLines content)

/-- The text of an append command stands among its notes in one piece. -/
theorem appended_piece (isCMakeFile : Bool) (cmd : PatchCommand)
    (kind : cmd.comandKind = .appendStringStart) :
    LineText.readLines cmd.string <:+: writes (stamp (cmd.edit isCMakeFile).notes) := by
  refine ⟨[controlLine isCMakeFile APPPEND_START cmd.taskId],
    [perfixComment isCMakeFile ++ APPPEND_STOP], ?_⟩
  simp [PatchCommand.edit, PatchCommand.notes, kind, Edit.notes, Function.comp_def]

/-- When all tasks are carried out, every append text is written. -/
theorem carriedOut_appends (patch : PatchFile) (source rest : List Text) (marks : Record)
    (run : Chain Task.Found patch.scripts source marks rest) (task : PatchTask)
    (member : task ∈ patch.patchTasks) (cmd : PatchCommand) (cmdMember : cmd ∈ task.commands)
    (kind : cmd.comandKind = .appendStringStart) :
    LineText.readLines cmd.string <:+: writes (patch.recordOf marks rest) := by
  have script : task.script patch.forCMake ∈ patch.scripts := List.mem_map_of_mem member
  have edit : cmd.edit patch.forCMake ∈ (task.script patch.forCMake).edits :=
    List.mem_map_of_mem cmdMember
  have piece : stamp (cmd.edit patch.forCMake).notes <:+: marks :=
    run.stamped (fun _ _ _ carried => carried.stamped edit) script
  have whole : marks <:+: patch.recordOf marks rest :=
    ⟨[.inserted .header patch.header], rest.map .copied, by simp [PatchFile.recordOf]⟩
  apply (appended_piece patch.forCMake cmd kind).trans
  exact (piece.trans whole).filterMap Mark.written

/-- A result over an unpatched source is that of its script. -/
theorem result_unpatched (patch : PatchFile) (source : List Text)
    (unpatched : patch.Unpatched source) :
    patch.result source =
      match chain Task.exec patch.scripts source with
      | .error refusal => .error (faultOf refusal)
      | .ok (marks, rest) => .ok (writes (patch.recordOf marks rest)) := by
  obtain ⟨first, others, rfl, fresh⟩ := unpatched
  rw [← startsWith_iff, Bool.not_eq_true] at fresh
  cases outcome : chain Task.exec patch.scripts (first :: others) with
  | error refusal => simp only [PatchFile.result, fresh, Bool.false_eq_true, if_false, outcome]
  | ok final => simp only [PatchFile.result, fresh, Bool.false_eq_true, if_false, outcome]

/-- Applying a patch is all or nothing exactly when every landmark is met.

A fault always leaves the disk alone, so the two sides differ only where the
file can be patched. There the script is refused, or carried out in full, or
loses a task, and `met_iff` separates the last case from the others. -/
theorem allOrNothing_iff (patch : PatchFile) (disk : Disk) :
    patch.AllOrNothing disk ↔ patch.LandmarksMet disk := by
  cases Option.eq_none_or_eq_some (disk.files patch.originalFileName) with
  | inl absent =>
    constructor
    · intro _ content stored
      rw [absent] at stored
      contradiction
    · intro _
      rw [PatchFile.AllOrNothing, patchContent_absent patch disk absent]
  | inr present =>
    obtain ⟨content, stored⟩ := present
    rw [PatchFile.AllOrNothing, patchContent_stored patch disk content stored]
    constructor
    · intro outcome other otherStored unpatched
      obtain rfl : content = other := Option.some.inj (stored.symm.trans otherStored)
      rw [result_unpatched patch _ unpatched] at outcome
      apply (met_iff _ _).mpr
      cases performed : chain Task.exec patch.scripts (LineText.readLines content) with
      | error refusal => exact Or.inl ⟨refusal, rfl⟩
      | ok result =>
        rw [performed] at outcome
        obtain ⟨before, saved, beforeStored, _, marks, rest, run, _⟩ := outcome
        obtain rfl : content = before := Option.some.inj (stored.symm.trans beforeStored)
        exact Or.inr ⟨marks, rest, run⟩
    · intro landmarks
      cases produced : patch.result (LineText.readLines content) with
      | error fault => rfl
      | ok lines =>
        obtain ⟨unpatched, _⟩ := (result_ok_iff _ _ _).mp produced
        rw [result_unpatched patch _ unpatched] at produced
        cases (met_iff _ _).mp (landmarks content stored unpatched) with
        | inl refused =>
          obtain ⟨refusal, performed⟩ := refused
          simp [performed] at produced
        | inr carriedOut =>
          obtain ⟨marks, rest, run⟩ := carriedOut
          have weaker := run.mono fun _ _ _ _ carried => Task.Run.found carried
          have performed := (tasks_ok_iff _ _ _ _).mpr weaker
          simp only [performed, Except.ok.injEq] at produced
          refine ⟨content, LineText.writeLines lines, stored, Disk.write_same _ _ _ _, marks, rest,
            run, by rw [produced], ?_⟩
          exact carriedOut_appends patch _ rest marks run

/-- A file without the landmark of the only task is saved as patched, without
the text of the task's append command. -/
theorem allOrNothing_lost_task :
    ¬ PatchFile.AllOrNothing ⟨"a.h".toList, [(PatchTask.new "two".toList 0).append "new".toList]⟩
      ((Disk.empty .exact).write "a.h".toList "one".toList (by decide)) := by
  intro outcome
  obtain ⟨content, saved, stored, _, marks, rest, run, _⟩ := outcome
  cases stored
  cases run with
  | step first remaining =>
    generalize whole : LineText.readLines "one".toList = source at first
    cases first with
    | found gap line middle after later passed met edited =>
      have only : line ∈ LineText.readLines "one".toList := by
        rw [whole]
        exact List.mem_append_right gap List.mem_cons_self
      have missed : ∀ other ∈ LineText.readLines "one".toList,
          Hits "two".toList other = false := by decide
      have hit : Hits "two".toList line = true := met
      exact Bool.false_ne_true ((missed line only).symm.trans hit)

end CefBridge.Patcher
