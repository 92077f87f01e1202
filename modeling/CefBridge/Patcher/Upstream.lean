import CefBridge.Patcher.Passes

/-!
# Patches under unrelated changes of their original file

A line is added to the original file that no search of a patch hits and that is
no patch header. Unless it stands directly before a line that a follow-by
command reads, the patch still completes. Its pass then takes the same steps as
before, and its record gains one mark for the new line.
-/

namespace CefBridge.Patcher

open Library Library.EditScript

/-- The kinds of commands whose string is searched for. -/
def PatchCommandKind.searches : PatchCommandKind → Bool
  | .findNextLandMark => true
  | .followBy => true
  | .skipUntilPass => true
  | .skipUntilAndAccept => true
  | .unknown => false
  | .appendStringStart => false
  | .appendStringStop => false

/-- No search of the patch hits the line. -/
def PatchFile.Overlooks (patch : PatchFile) (line : Text) : Prop :=
  ∀ task ∈ patch.patchTasks, Hits task.landMark line = false ∧
    ∀ cmd ∈ task.commands, cmd.comandKind.searches = true → Hits cmd.string line = false

instance (patch : PatchFile) (line : Text) : Decidable (patch.Overlooks line) :=
  inferInstanceAs (Decidable (∀ task ∈ patch.patchTasks, _ ∧ ∀ cmd ∈ task.commands, _ → _))

theorem PatchCommand.edit_misses (isCMakeFile : Bool) (cmd : PatchCommand) (line : Text)
    (overlooked : cmd.comandKind.searches = true → Hits cmd.string line = false) :
    (cmd.edit isCMakeFile).Misses line := by
  cases kind : cmd.comandKind <;>
    simp_all [edit, Edit.Misses, PatchCommandKind.searches]

/-- The script of a patch misses every line that the patch overlooks. -/
theorem scripts_miss (patch : PatchFile) (line : Text) (overlooked : patch.Overlooks line) :
    ∀ task ∈ patch.scripts, task.Misses line := by
  intro script among
  obtain ⟨task, member, rfl⟩ := List.mem_map.mp among
  obtain ⟨landMark, commands⟩ := overlooked task member
  refine ⟨landMark, ?_⟩
  intro edit editMember
  obtain ⟨cmd, cmdMember, rfl⟩ := List.mem_map.mp editMember
  exact cmd.edit_misses patch.forCMake line (commands cmd cmdMember)

theorem unpatched_with (patch : PatchFile) (front back : List Text) (extra : Text)
    (unpatched : patch.Unpatched (front ++ back)) (unheaded : ¬ patch.patchCode <+: extra) :
    patch.Unpatched (front ++ extra :: back) := by
  cases front with
  | nil => exact ⟨extra, back, rfl, unheaded⟩
  | cons first front =>
    obtain ⟨other, rest, whole, fresh⟩ := unpatched
    obtain ⟨rfl, _⟩ := List.cons.inj whole
    exact ⟨first, front ++ extra :: back, rfl, fresh⟩

/-- A pass takes an added line with one more mark. Either a task reads past the
line, or all tasks stop before it and it is copied with the rest. -/
theorem pass_absorbs (patch : PatchFile) (front back : List Text) (extra : Text) (record : Record)
    (pass : patch.Pass (front ++ back) record) (overlooked : patch.Overlooks extra)
    (undemanded : Undemanded front record) :
    ∃ before mark later, record = before ++ later ∧ reads before = front ∧
      (mark = .copied extra ∨ mark = .skipped extra) ∧
      patch.Pass (front ++ extra :: back) (before ++ mark :: later) := by
  cases pass with
  | pass marks rest run =>
    have tasksUndemanded : Undemanded front marks := by
      intro before line after split same
      apply undemanded (.inserted .header patch.header :: before) line (after ++ rest.map .copied)
      · simp [PatchFile.recordOf, split]
      · exact same
    cases tasks_absorb run (scripts_miss patch extra overlooked) tasksUndemanded with
    | passed before after mark split place kind wider =>
      refine ⟨.inserted .header patch.header :: before, mark, after ++ rest.map .copied, ?_, place,
        kind, ?_⟩
      · simp [PatchFile.recordOf, split]
      · simpa [PatchFile.recordOf] using PatchFile.Pass.pass _ rest wider
    | ahead remaining left place wider =>
      refine ⟨.inserted .header patch.header :: marks ++ remaining.map .copied, .copied extra,
        back.map .copied, ?_, ?_, Or.inl rfl, ?_⟩
      · simp [PatchFile.recordOf, left]
      · simpa using place
      · simpa [PatchFile.recordOf] using PatchFile.Pass.pass _ _ wider

/-- A patch that completes on a file completes on the file with an overlooked
line added, unless the line separates a follow-by command from the line that it
reads.

The two passes leave the same marks but for the one of the new line, which
copies it or, within a skip command, discards it. So the saved file gains the
line at one place or stays as it was. -/
theorem patchContent_survives (patch : PatchFile) (disk changed after : Disk)
    (content changedContent : Text) (front back : List Text) (extra : Text)
    (stored : disk.files patch.originalFileName = some content)
    (lines : LineText.readLines content = front ++ back)
    (changedStored : changed.files patch.originalFileName = some changedContent)
    (changedLines : LineText.readLines changedContent = front ++ extra :: back)
    (completed : patch.patchContent.on disk = (.ok (), after))
    (unheaded : ¬ patch.patchCode <+: extra) (overlooked : patch.Overlooks extra)
    (undemanded : ∀ record, patch.Pass (front ++ back) record → Undemanded front record) :
    ∃ changedAfter before mark later,
      patch.patchContent.on changed = (.ok (), changedAfter) ∧
      patch.Pass (front ++ back) (before ++ later) ∧
      patch.Pass (front ++ extra :: back) (before ++ mark :: later) ∧
      reads before = front ∧
      after.files patch.originalFileName =
        some (LineText.writeLines (writes before ++ writes later)) ∧
      (mark = .copied extra ∧ changedAfter.files patch.originalFileName =
          some (LineText.writeLines (writes before ++ extra :: writes later)) ∨
        mark = .skipped extra ∧ changedAfter.files patch.originalFileName =
          after.files patch.originalFileName) := by
  obtain ⟨other, record, otherStored, unpatched, pass, rfl⟩ :=
    (patchContent_ok_iff patch disk after).mp completed
  obtain rfl : content = other := Option.some.inj (stored.symm.trans otherStored)
  rw [lines] at unpatched pass
  obtain ⟨before, mark, later, rfl, place, kind, wider⟩ :=
    pass_absorbs patch front back extra record pass overlooked (undemanded record pass)
  have changedCompleted := (patchContent_ok_iff patch changed _).mpr
    ⟨changedContent, before ++ mark :: later, changedStored,
      changedLines ▸ unpatched_with patch front back extra unpatched unheaded,
      changedLines ▸ wider, rfl⟩
  refine ⟨_, before, mark, later, changedCompleted, pass, wider, place, ?_, ?_⟩
  · rw [Disk.write_same, writes_append]
  · cases kind with
    | inl copied =>
      subst copied
      exact Or.inl ⟨rfl, by rw [Disk.write_same, writes_append, writes_copied_cons]⟩
    | inr skipped =>
      subst skipped
      refine Or.inr ⟨rfl, ?_⟩
      rw [Disk.write_same, Disk.write_same, writes_append, writes_append, writes_skipped_cons]

/-- A line added between the two lines of a file to which a patch appends. -/
theorem patchContent_survives_added_line :
    ∃ changedAfter : Disk,
      (PatchFile.mk "a.h".toList [(PatchTask.new "one".toList 0).append "new".toList]).patchContent.on
          ((Disk.empty .exact).write "a.h".toList "one\nextra\ntwo".toList (by decide)) =
        (.ok (), changedAfter) := by
  let patch : PatchFile := ⟨"a.h".toList, [(PatchTask.new "one".toList 0).append "new".toList]⟩
  let disk := (Disk.empty .exact).write "a.h".toList "one\ntwo".toList (by decide)
  let changed := (Disk.empty .exact).write "a.h".toList "one\nextra\ntwo".toList (by decide)
  have undemanded : ∀ record, patch.Pass ["one".toList, "two".toList] record →
      Undemanded ["one".toList] record := by
    intro record pass before line after split
    have followed : Mark.followed line ∈ record := by simp [split]
    cases pass with
    | pass marks rest run =>
      have performed := (tasks_ok_iff _ _ _ _).mpr run
      cases performed
      simp [PatchFile.recordOf, stamp] at followed
  obtain ⟨changedAfter, _, _, _, changedCompleted, _⟩ :=
    patchContent_survives patch disk changed (patch.patchContent.on disk).2 "one\ntwo".toList
      "one\nextra\ntwo".toList ["one".toList] ["two".toList] "extra".toList rfl (by decide) rfl
      (by decide) rfl (by decide) (by decide) undemanded
  exact ⟨changedAfter, changedCompleted⟩

end CefBridge.Patcher
