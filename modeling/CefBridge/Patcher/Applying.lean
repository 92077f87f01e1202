import CefBridge.Patcher.Preservation
import CefBridge.Patcher.Retarget

/-!
# A run over all loaded patches

The form moves and applies the loaded patches one after the other. `AppliedOnce`
says what a run leaves that returns: every patch has changed a file of its own,
from the content that the file had before the run, and all other files are as
they were. A patch for a file that the run has patched already is refused, for
the file then starts with the header that the patch looks for.

The look-out for that header depends on the file name, which tells a build
script by its exact spelling. `Unambiguous` rules out that one file is taken for
a build script by one patch and not by another.
-/

namespace CefBridge.Patcher

open Library

/-- The patches of a run with their names in the new tree. -/
def Moves (newPathName : Text) (pfiles moved : List PatchFile) : Prop :=
  pfiles.map (PatchFile.retarget · newPathName) = moved.map .ok

/-- The form of its original's name by which a patch finds its file. -/
def PatchFile.target (rule : NameRule) (patch : PatchFile) : Text := rule.key patch.originalFileName

/-- Names for the same file are both those of a build script or neither. -/
def Unambiguous (newPathName : Text) (rule : NameRule) (pfiles : List PatchFile) : Prop :=
  ∀ first ∈ pfiles, ∀ second ∈ pfiles, ∀ firstMoved secondMoved,
    first.retarget newPathName = .ok firstMoved → second.retarget newPathName = .ok secondMoved →
      firstMoved.target rule = secondMoved.target rule → firstMoved.forCMake = secondMoved.forCMake

/-- The content of its file to which a patch can be applied, and the lines that come out. -/
def PatchFile.Gives (patch : PatchFile) (disk : Disk) (lines : List Text) : Prop :=
  ∃ content, disk.files patch.originalFileName = some content ∧
    patch.result (LineText.readLines content) = .ok lines

/-- Each patch has changed its own file, once, and no other file has changed. -/
structure AppliedOnce (patches : List PatchFile) (before after : Disk) : Prop where
  rule : after.rule = before.rule
  distinct : (patches.map (PatchFile.target before.rule)).Nodup
  patched : ∀ patch ∈ patches, ∃ lines, patch.Gives before lines ∧
    after.files patch.originalFileName = some (LineText.writeLines lines)
  others : ∀ name, (∀ patch ∈ patches, patch.target before.rule ≠ before.rule.key name) →
    after.files name = before.files name

section Moving

variable {newPathName : Text} {pfile moved : PatchFile} {pfiles patches : List PatchFile}

theorem Moves.cons (first : pfile.retarget newPathName = .ok moved)
    (rest : Moves newPathName pfiles patches) : Moves newPathName (pfile :: pfiles) (moved :: patches) := by
  rw [Moves, List.map_cons, List.map_cons, first]
  exact congrArg (List.cons _) rest

theorem Moves.mem (moves : Moves newPathName pfiles patches) (member : moved ∈ patches) :
    ∃ pfile ∈ pfiles, pfile.retarget newPathName = .ok moved := by
  have among : Except.ok moved ∈ (patches.map .ok : List (Except Fault PatchFile)) :=
    List.mem_map_of_mem member
  rw [← moves] at among
  exact List.mem_map.mp among

theorem Moves.reverse (moves : Moves newPathName pfiles patches) :
    Moves newPathName pfiles.reverse patches.reverse := by
  rw [Moves, List.map_reverse, List.map_reverse]
  exact congrArg List.reverse moves

end Moving

section Step

variable {patch other : PatchFile} {disk after : Disk} {lines : List Text}

/-- The lines that a patch gives begin with its header. -/
theorem PatchFile.Gives.headed (gives : patch.Gives disk lines) :
    ∃ rest, LineText.readLines (LineText.writeLines lines) = patch.header :: rest := by
  obtain ⟨content, stored, result⟩ := gives
  obtain ⟨-, record, pass, rfl⟩ := (result_ok_iff patch _ _).mp result
  cases pass with
  | pass marks rest run =>
    have whole := oneLine_header patch (disk.named _ _ stored).oneLine
    refine ⟨LineText.readLines (LineText.writeLines (Library.EditScript.writes marks ++ rest)), ?_⟩
    have written : Library.EditScript.writes (patch.recordOf marks rest) =
        patch.header :: (Library.EditScript.writes marks ++ rest) := by
      simp [PatchFile.recordOf]
    rw [written, LineText.writeLines_cons]
    exact LineText.readLines_ended _ _ whole

/-- Behind a header no patch with the same header code is applied. -/
theorem not_gives_headed {content : Text} {rest : List Text}
    (stored : disk.files other.originalFileName = some content)
    (headed : LineText.readLines content = patch.header :: rest)
    (same : patch.forCMake = other.forCMake) : ¬ other.Gives disk lines := by
  rintro ⟨found, there, result⟩
  obtain rfl : content = found := Option.some.inj (stored.symm.trans there)
  obtain ⟨⟨first, later, split, fresh⟩, -⟩ := (result_ok_iff other _ _).mp result
  rw [headed] at split
  obtain ⟨rfl, -⟩ := List.cons.inj split
  have code : patch.patchCode = other.patchCode := by rw [PatchFile.patchCode, PatchFile.patchCode, same]
  exact fresh (code ▸ List.prefix_append _ _)

/-- What a patch gives does not depend on the other files. -/
theorem PatchFile.Gives.of_files (gives : patch.Gives disk lines)
    (same : after.files patch.originalFileName = disk.files patch.originalFileName) :
    patch.Gives after lines := by
  obtain ⟨content, stored, result⟩ := gives
  exact ⟨content, same.trans stored, result⟩

end Step

section Runs

variable {newPathName : Text} {pfile moved : PatchFile} {pfiles patches : List PatchFile}
  {disk after : Disk}

/-- A patch before a run: its file is none that the run patches. -/
theorem AppliedOnce.cons {lines : List Text} {legal : LegalName moved.originalFileName}
    (gives : moved.Gives disk lines)
    (rest : AppliedOnce patches
      (disk.write moved.originalFileName (LineText.writeLines lines) legal) after)
    (scripts : ∀ patch ∈ patches, moved.target disk.rule = patch.target disk.rule →
      moved.forCMake = patch.forCMake) : AppliedOnce (moved :: patches) disk after := by
  have apart : ∀ patch ∈ patches, patch.target disk.rule ≠ moved.target disk.rule := by
    intro patch member same
    obtain ⟨given, again, -⟩ := rest.patched patch member
    obtain ⟨later, headed⟩ := gives.headed
    have written : (disk.write moved.originalFileName (LineText.writeLines lines) legal).files
        patch.originalFileName = some (LineText.writeLines lines) :=
      if_pos same
    exact not_gives_headed written headed (scripts patch member same.symm) again
  constructor
  case rule => exact rest.rule
  case distinct =>
    refine List.nodup_cons.mpr ⟨fun member => ?_, rest.distinct⟩
    obtain ⟨patch, among, same⟩ := List.mem_map.mp member
    exact apart patch among same
  case patched =>
    intro patch member
    rcases List.mem_cons.mp member with rfl | later
    · refine ⟨lines, gives, ?_⟩
      rw [rest.others _ fun other among => apart other among, Disk.write_same]
    · obtain ⟨given, again, saved⟩ := rest.patched patch later
      refine ⟨given, again.of_files ?_, saved⟩
      exact (Disk.write_other disk _ _ _ legal (apart patch later)).symm
  case others =>
    intro name untouched
    rw [rest.others name fun patch member => untouched patch (List.mem_cons_of_mem moved member)]
    exact Disk.write_other disk _ _ _ legal (untouched moved List.mem_cons_self).symm

theorem Unambiguous.tail {rule : NameRule}
    (unambiguous : Unambiguous newPathName rule (pfile :: pfiles)) : Unambiguous newPathName rule pfiles :=
  fun first firstMember second secondMember =>
    unambiguous first (List.mem_cons_of_mem pfile firstMember) second (List.mem_cons_of_mem pfile secondMember)

end Runs

theorem Unambiguous.of_subset {newPathName : Text} {rule : NameRule} {pfiles part : List PatchFile}
    (unambiguous : Unambiguous newPathName rule pfiles) (within : part ⊆ pfiles) :
    Unambiguous newPathName rule part :=
  fun first firstMember second secondMember =>
    unambiguous first (within firstMember) second (within secondMember)

theorem AppliedOnce.reverse {patches : List PatchFile} {before after : Disk}
    (applied : AppliedOnce patches before after) : AppliedOnce patches.reverse before after where
  rule := applied.rule
  distinct := by
    rw [List.map_reverse]
    exact List.pairwise_reverse.mpr (applied.distinct.imp Ne.symm)
  patched patch member := applied.patched patch (List.mem_reverse.mp member)
  others name untouched :=
    applied.others name fun patch member => untouched patch (List.mem_reverse.mpr member)

theorem unambiguous_of_sources {newPathName : Text} {rule : NameRule} {pfiles : List PatchFile}
    (sources : ∀ pfile ∈ pfiles, ∀ moved, pfile.retarget newPathName = .ok moved →
      moved.forCMake = false) : Unambiguous newPathName rule pfiles := by
  intro first firstMember second secondMember firstMoved secondMoved firstMoves secondMoves _
  rw [sources first firstMember firstMoved firstMoves, sources second secondMember secondMoved secondMoves]

section Form

variable {newPathName : Text} {pfiles patches : List PatchFile} {disk after : Disk}

end Form

end CefBridge.Patcher
