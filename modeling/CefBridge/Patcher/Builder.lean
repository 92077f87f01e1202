import CefBridge.Library.KeyedStore
import CefBridge.Patcher.Stored

/-!
# Making, saving and loading a set of patches

`makePatch` collects the patchable files of folder trees and keeps the patch of
every annotated one. `save` writes each patch into one folder, under the bare
name of its original file. `loadPatchesFromFolder` reads all files of a folder.

Folder trees and folder contents are given as the framework lists them, in any
order. `Listed` says what such a listing of a folder is. A folder is written
without a separator at its end.

Patches for originals of the same bare name are saved to the same file, so only
one of them survives. `keepsPatches_iff` says exactly when no patch is lost.
-/

namespace CefBridge.Patcher

open Library

/-- The extension of a file name, with its dot. A dot at the end is none. -/
def getExtension (path : Text) : Text :=
  let name := path.rtakeWhile fun symbol => !isSeparator symbol
  let ext := name.rtakeWhile (· != '.')
  if '.' ∈ name ∧ ext ≠ [] then '.' :: ext else []

def fileExts : List Text := [".cpp".toList, ".h".toList, ".cc".toList]

def isPatchableFile (filename : Text) : Bool :=
  fileExts.contains ((getExtension filename).map Char.toLower)

/-- A folder: the paths of its files, and its subfolders. -/
inductive Folder where
  | folder (allfiles : List Text) (allSubDirs : List Folder)

mutual

/-- The patchable files of a folder and of the folders below it. Both loops run
from the last entry to the first. -/
def collectFilesRecursive : Folder → List Text
  | .folder allfiles allSubDirs =>
    allfiles.reverse.filter isPatchableFile ++ collectSubDirs allSubDirs

def collectSubDirs : List Folder → List Text
  | [] => []
  | dir :: allSubDirs => collectSubDirs allSubDirs ++ collectFilesRecursive dir

end

structure PatchBuilder where
  srcFolders : List Folder
  filenames : List Text := []
  pfiles : List PatchFile := []

/-- Read patches one by one and keep those that exist. -/
def buildPatchFiles : List Text → FileM (List PatchFile)
  | [] => return []
  | filename :: filenames => do
    let pfile ← buildPatchFile filename
    let pfiles ← buildPatchFiles filenames
    return pfile.toList ++ pfiles

def PatchBuilder.makePatch (builder : PatchBuilder) : FileM PatchBuilder := do
  let filenames := builder.srcFolders.flatMap collectFilesRecursive
  let pfiles ← buildPatchFiles filenames.reverse
  return { builder with filenames, pfiles }

/-- Save one patch into a folder. -/
def savePatch (folder : Text) (pfile : PatchFile) : FileM Unit :=
  match getFileName pfile.originalFileName with
  | .error fault => throw fault
  | .ok bareName => pfile.savePatchFile (folder ++ '\\' :: bareName ++ ".patch".toList)

/-- Save all patches into a folder, the last one first. -/
def savePatches (folder : Text) : List PatchFile → FileM Unit
  | [] => return ()
  | pfile :: pfiles => do
    savePatches folder pfiles
    savePatch folder pfile

def PatchBuilder.save (builder : PatchBuilder) (folder : Text) : FileM Unit :=
  savePatches folder builder.pfiles

/-- Load the patches of a folder whose files are listed. -/
def PatchBuilder.loadPatchesFromFolder (builder : PatchBuilder) (filenames : List Text) :
    FileM PatchBuilder := do
  let pfiles ← buildPatchFiles filenames.reverse
  return { builder with filenames := [], pfiles }

/-- A name without separators, as a file directly in a folder has one. -/
def Bare (name : Text) : Prop := ∀ symbol ∈ name, isSeparator symbol = false

instance (name : Text) : Decidable (Bare name) :=
  decidable_of_iff (name.all (fun symbol => !isSeparator symbol) = true) (by simp [Bare])

/-- The files directly in a folder, each listed once, in any order. -/
structure Listed (disk : Disk) (folder : Text) (listing : List Text) : Prop where
  present : ∀ name ∈ listing, (disk.files name).isSome = true ∧
    ∃ bareName, Bare bareName ∧ name = folder ++ '\\' :: bareName
  complete : ∀ bareName, Bare bareName → (disk.files (folder ++ '\\' :: bareName)).isSome = true →
    ∃ name ∈ listing, disk.rule.key name = disk.rule.key (folder ++ '\\' :: bareName)
  once : (listing.map disk.rule.key).Nodup

def EmptyFolder (disk : Disk) (folder : Text) : Prop :=
  ∀ bareName, Bare bareName → disk.files (folder ++ '\\' :: bareName) = none

/-- Saving the patches and loading the folder returns them, up to order. -/
def PatchBuilder.KeepsPatches (builder : PatchBuilder) (folder : Text) (disk : Disk) : Prop :=
  ∃ saved, (builder.save folder).on disk = (.ok (), saved) ∧
    ∀ listing, Listed saved folder listing →
      ∃ loaded, (builder.loadPatchesFromFolder listing).on saved = (.ok loaded, saved) ∧
        loaded.pfiles.Perm builder.pfiles

/-- The name of a path without its folders, where the path is valid. -/
def bareNameOf (path : Text) : Text := path.rtakeWhile fun symbol => !isSeparator symbol

/-- The original file that an annotated file is for, by its header if it has
one. -/
def originalIn (disk : Disk) (filename : Text) : Option Text :=
  match (disk.files filename).map LineText.readLines with
  | some (line :: rest) =>
    match buildPatchLines filename (line :: rest) with
    | .ok (some _) => some (readHeader filename line rest).1
    | _ => none
  | _ => none

/-- The original files of all annotated files below the source folders. -/
def PatchBuilder.originals (builder : PatchBuilder) (disk : Disk) : List Text :=
  (builder.srcFolders.flatMap collectFilesRecursive).filterMap (originalIn disk)

/-- The name of an original file can be used for a patch file and survives the
header of that file. -/
def Nameable (original : Text) : Prop :=
  original.any isInvalidPathSymbol = false ∧ LegalName (bareNameOf original) ∧ Trimmed original

instance (original : Text) : Decidable (Nameable original) :=
  inferInstanceAs (Decidable (_ ∧ _ ∧ _))

/-- Original files have usable and distinct bare names. -/
def Separable (rule : NameRule) (originals : List Text) : Prop :=
  (originals.map fun original => rule.key (bareNameOf original)).Nodup ∧
    ∀ original ∈ originals, Nameable original

section Reading

/-- Reading a patch changes no file. -/
theorem buildPatchFile_disk (filename : Text) (disk : Disk) :
    ((buildPatchFile filename).on disk).2 = disk := by
  cases Option.eq_none_or_eq_some (disk.files filename) with
  | inl absent =>
    have read := FileM.on_readAllLines_absent filename disk absent
    simp [buildPatchFile, SourceFile.readAllLines, FileM.on_bind, read]
  | inr present =>
    obtain ⟨content, stored⟩ := present
    rw [buildPatchFile_on filename content disk stored]

theorem buildPatchFiles_cons_ok {filename : Text} {filenames : List Text} {disk : Disk}
    {pfiles : List PatchFile}
    (built : ((buildPatchFiles (filename :: filenames)).on disk).1 = .ok pfiles) :
    ∃ pfile others, ((buildPatchFile filename).on disk).1 = .ok pfile ∧
      ((buildPatchFiles filenames).on disk).1 = .ok others ∧ pfiles = pfile.toList ++ others := by
  simp only [buildPatchFiles, FileM.on_bind] at built
  have unchanged := buildPatchFile_disk filename disk
  cases read : (buildPatchFile filename).on disk with
  | mk outcome after =>
    rw [read] at unchanged built
    obtain rfl : after = disk := unchanged
    cases outcome with
    | error fault => contradiction
    | ok pfile =>
      cases later : (buildPatchFiles filenames).on after with
      | mk laterOutcome last =>
        cases laterOutcome with
        | error fault => simp [later] at built
        | ok others =>
          simp only [later, FileM.on_pure, Except.ok.injEq] at built
          exact ⟨pfile, others, rfl, rfl, built.symm⟩

/-- Patches that were read come from files. -/
theorem buildPatchFiles_stored {filenames : List Text} {disk : Disk} {pfiles : List PatchFile}
    (built : ((buildPatchFiles filenames).on disk).1 = .ok pfiles) :
    ∀ pfile ∈ pfiles, pfile.Stored := by
  induction filenames generalizing pfiles with
  | nil =>
    cases built
    simp
  | cons filename filenames ih =>
    obtain ⟨found, others, read, later, rfl⟩ := buildPatchFiles_cons_ok built
    intro pfile member
    cases List.mem_append.mp member with
    | inl first =>
      obtain rfl := Option.mem_toList.mp first
      exact buildPatchFile_stored filename disk pfile read
    | inr rest => exact ih later pfile rest

/-- A patch is for the original that its file names. -/
theorem buildPatchFile_original {filename : Text} {disk : Disk} {found : Option PatchFile}
    (read : ((buildPatchFile filename).on disk).1 = .ok found) :
    found.map PatchFile.originalFileName = originalIn disk filename := by
  cases Option.eq_none_or_eq_some (disk.files filename) with
  | inl absent =>
    have missing := FileM.on_readAllLines_absent filename disk absent
    simp [buildPatchFile, SourceFile.readAllLines, FileM.on_bind, missing] at read
  | inr present =>
    obtain ⟨content, source⟩ := present
    rw [buildPatchFile_on filename content disk source] at read
    cases found with
    | none =>
      cases lines : LineText.readLines content with
      | nil => simp [originalIn, source, lines]
      | cons line rest =>
        have built : buildPatchLines filename (line :: rest) = .ok none := lines ▸ read
        simp [originalIn, source, lines, built]
    | some patch =>
      obtain ⟨line, rest, _, _, lines, _, _, same⟩ := (buildPatchLines_ok_iff _ _ _).mp read
      have built : buildPatchLines filename (line :: rest) = .ok (some patch) := lines ▸ read
      simp [originalIn, source, lines, built, same]

theorem buildPatchFiles_originals {filenames : List Text} {disk : Disk} {pfiles : List PatchFile}
    (built : ((buildPatchFiles filenames).on disk).1 = .ok pfiles) :
    pfiles.map PatchFile.originalFileName = filenames.filterMap (originalIn disk) := by
  induction filenames generalizing pfiles with
  | nil =>
    cases built
    rfl
  | cons filename filenames ih =>
    obtain ⟨found, others, read, later, rfl⟩ := buildPatchFiles_cons_ok built
    have first := buildPatchFile_original read
    rw [List.map_append, ih later]
    cases found with
    | none => rw [List.filterMap_cons_none first.symm, Option.toList_none, List.map_nil,
        List.nil_append]
    | some patch => rw [List.filterMap_cons_some first.symm, Option.toList_some, List.map_singleton,
        List.singleton_append]

/-- Reading files that all hold patches returns these. -/
theorem buildPatchFiles_all (filenames : List Text) (disk : Disk) (patchOf : Text → Option PatchFile)
    (each : ∀ filename ∈ filenames, ∃ patch, patchOf filename = some patch ∧
      (buildPatchFile filename).on disk = (.ok (some patch), disk)) :
    (buildPatchFiles filenames).on disk = (.ok (filenames.filterMap patchOf), disk) := by
  induction filenames with
  | nil => rfl
  | cons filename filenames ih =>
    obtain ⟨patch, found, read⟩ := each filename List.mem_cons_self
    have later := ih fun other member => each other (List.mem_cons_of_mem filename member)
    simp only [buildPatchFiles, FileM.on_bind, read, later, FileM.on_pure, Option.toList_some,
      List.filterMap_cons_some found, List.cons_append, List.nil_append]

end Reading

section Saving

/-- The name of the file to which a patch is saved. -/
def PatchFile.patchName (folder : Text) (patch : PatchFile) : Text :=
  folder ++ '\\' :: bareNameOf patch.originalFileName ++ ".patch".toList

/-- The form of that name that is compared. -/
def patchKey (rule : NameRule) (folder : Text) (patch : PatchFile) : Text :=
  rule.key (patch.patchName folder)

theorem legal_patchName {folder : Text} {patch : PatchFile} (legal : LegalName folder) :
    LegalName (patch.patchName folder) ↔ LegalName (bareNameOf patch.originalFileName) := by
  have ext : LegalName ".patch".toList := by decide
  constructor
  · intro whole symbol member
    apply whole
    simp [PatchFile.patchName, member]
  · intro bareLegal symbol member
    simp only [PatchFile.patchName, List.append_assoc, List.cons_append, List.mem_append,
      List.mem_cons] at member
    rcases member with inFolder | rfl | inName | inExt
    · exact legal symbol inFolder
    · decide
    · exact bareLegal symbol inName
    · exact ext symbol inExt

/-- A patch file stands directly in its folder. -/
theorem patchName_bare (patch : PatchFile) : Bare (bareNameOf patch.originalFileName ++ ".patch".toList) := by
  have ext : Bare ".patch".toList := by decide
  intro symbol member
  cases List.mem_append.mp member with
  | inl inName =>
    have kept := List.mem_rtakeWhile_imp inName
    simpa using kept
  | inr inExt => exact ext symbol inExt

theorem patchName_direct (folder : Text) (patch : PatchFile) :
    patch.patchName folder =
      folder ++ '\\' :: (bareNameOf patch.originalFileName ++ ".patch".toList) := by
  simp [PatchFile.patchName]

/-- Two patch files of a folder are one file exactly when their bare names are
compared as equal. -/
theorem patchKey_eq_iff (rule : NameRule) (folder : Text) (first second : PatchFile) :
    patchKey rule folder first = patchKey rule folder second ↔
      rule.key (bareNameOf first.originalFileName) = rule.key (bareNameOf second.originalFileName) := by
  simp [patchKey, PatchFile.patchName, NameRule.key]

/-- Saving a patch writes its printed lines, or fails for its name. -/
theorem savePatch_on {patch : PatchFile} (stored : patch.Stored) (folder : Text)
    (disk : Disk) (valid : patch.originalFileName.any isInvalidPathSymbol = false)
    (legal : LegalName (patch.patchName folder)) :
    (savePatch folder patch).on disk =
      (.ok (), disk.write (patch.patchName folder) (LineText.writeLines patch.printed) legal) := by
  have named : getFileName patch.originalFileName = .ok (bareNameOf patch.originalFileName) := by
    simp [getFileName, valid, bareNameOf]
  simp only [savePatch, named]
  exact savePatchFile_on patch stored (patch.patchName folder) legal disk

theorem savePatch_ok {patch : PatchFile} (stored : patch.Stored) {folder : Text}
    {disk after : Disk} (saved : (savePatch folder patch).on disk = (.ok (), after)) :
    patch.originalFileName.any isInvalidPathSymbol = false ∧ LegalName (patch.patchName folder) := by
  cases valid : patch.originalFileName.any isInvalidPathSymbol with
  | true =>
    have named : getFileName patch.originalFileName = .error .argument := by
      simp [getFileName, valid]
    simp [savePatch, named] at saved
  | false =>
    refine ⟨rfl, ?_⟩
    have named : getFileName patch.originalFileName = .ok (bareNameOf patch.originalFileName) := by
      simp [getFileName, valid, bareNameOf]
    simp only [savePatch, named] at saved
    exact savePatchFile_legal stored saved

/-- What saving all patches leaves on a disk: under each name the first patch of
the list that is saved there. -/
theorem savePatches_on (folder : Text) (pfiles : List PatchFile) (disk : Disk)
    (stored : ∀ pfile ∈ pfiles, pfile.Stored)
    (savable : ∀ pfile ∈ pfiles, pfile.originalFileName.any isInvalidPathSymbol = false ∧
      LegalName (pfile.patchName folder)) :
    ∃ saved, (savePatches folder pfiles).on disk = (.ok (), saved) ∧ saved.rule = disk.rule ∧
      ∀ name, saved.files name =
        match KeyedStore.survivor (patchKey disk.rule folder) pfiles (disk.rule.key name) with
        | some pfile => some (LineText.writeLines pfile.printed)
        | none => disk.files name := by
  induction pfiles with
  | nil => exact ⟨disk, rfl, rfl, fun name => rfl⟩
  | cons pfile pfiles ih =>
    obtain ⟨before, savedBefore, rule, files⟩ :=
      ih (fun other member => stored other (List.mem_cons_of_mem pfile member))
        fun other member => savable other (List.mem_cons_of_mem pfile member)
    obtain ⟨valid, legal⟩ := savable pfile List.mem_cons_self
    have last := savePatch_on (stored pfile List.mem_cons_self) folder before valid legal
    refine ⟨before.write (pfile.patchName folder) (LineText.writeLines pfile.printed) legal, ?_, rule,
      ?_⟩
    · rw [savePatches, FileM.on_bind, savedBefore]
      exact last
    · intro name
      rw [KeyedStore.survivor_cons]
      by_cases same : patchKey disk.rule folder pfile = disk.rule.key name
      · have written : disk.rule.key name = disk.rule.key (pfile.patchName folder) := same.symm
        simp [Disk.write, rule, same, written]
      · have beside : disk.rule.key name ≠ disk.rule.key (pfile.patchName folder) := Ne.symm same
        simp [Disk.write, rule, same, beside, files name]

/-- All patches can be saved if saving completes. -/
theorem savePatches_ok (folder : Text) (pfiles : List PatchFile) (disk after : Disk)
    (stored : ∀ pfile ∈ pfiles, pfile.Stored)
    (saved : (savePatches folder pfiles).on disk = (.ok (), after)) :
    ∀ pfile ∈ pfiles, pfile.originalFileName.any isInvalidPathSymbol = false ∧
      LegalName (pfile.patchName folder) := by
  induction pfiles generalizing after with
  | nil => simp
  | cons pfile pfiles ih =>
    rw [savePatches, FileM.on_bind] at saved
    cases first : (savePatches folder pfiles).on disk with
    | mk outcome before =>
      cases outcome with
      | error fault => simp [first] at saved
      | ok done =>
        simp only [first] at saved
        have earlier := ih before (fun other member => stored other (List.mem_cons_of_mem pfile member))
          first
        intro other member
        cases List.mem_cons.mp member with
        | inl same =>
          subst same
          exact savePatch_ok (stored other List.mem_cons_self) saved
        | inr later => exact earlier other later

end Saving

section Loading

/-- What a disk holds after patches were saved to an empty folder. -/
structure SavedTo (folder : Text) (pfiles : List PatchFile) (disk saved : Disk) : Prop where
  empty : EmptyFolder disk folder
  rule : saved.rule = disk.rule
  files : ∀ name, saved.files name =
    match KeyedStore.survivor (patchKey disk.rule folder) pfiles (disk.rule.key name) with
    | some pfile => some (LineText.writeLines pfile.printed)
    | none => disk.files name

variable {folder : Text} {pfiles : List PatchFile} {disk saved : Disk}

/-- A file of the folder holds the patch that survives under its name. -/
theorem SavedTo.found (savedTo : SavedTo folder pfiles disk saved) {bareName : Text}
    (bare : Bare bareName) (shown : (saved.files (folder ++ '\\' :: bareName)).isSome = true) :
    ∃ pfile, KeyedStore.survivor (patchKey disk.rule folder) pfiles
        (disk.rule.key (folder ++ '\\' :: bareName)) = some pfile ∧
      saved.files (folder ++ '\\' :: bareName) = some (LineText.writeLines pfile.printed) := by
  have content := savedTo.files (folder ++ '\\' :: bareName)
  cases found : KeyedStore.survivor (patchKey disk.rule folder) pfiles
      (disk.rule.key (folder ++ '\\' :: bareName)) with
  | none =>
    rw [found] at content
    simp [content, savedTo.empty bareName bare] at shown
  | some pfile =>
    rw [found] at content
    exact ⟨pfile, rfl, content⟩

/-- Every saved patch has a file. -/
theorem SavedTo.shown (savedTo : SavedTo folder pfiles disk saved) {pfile : PatchFile}
    (member : pfile ∈ pfiles) : (saved.files (pfile.patchName folder)).isSome = true := by
  obtain ⟨other, found⟩ := KeyedStore.survivor_shown (patchKey disk.rule folder) member
  rw [patchKey] at found
  rw [savedTo.files, found]
  rfl

/-- The folder can be listed. -/
theorem SavedTo.exists_listed (savedTo : SavedTo folder pfiles disk saved) :
    ∃ listing, Listed saved folder listing := by
  obtain ⟨part, within, covers, distinct⟩ :=
    KeyedStore.exists_distinct (patchKey disk.rule folder) pfiles
  refine ⟨part.map (PatchFile.patchName folder), ?_, ?_, ?_⟩
  · intro name member
    obtain ⟨pfile, among, rfl⟩ := List.mem_map.mp member
    exact ⟨savedTo.shown (within pfile among), _, patchName_bare pfile, patchName_direct folder pfile⟩
  · intro bareName bare shown
    obtain ⟨pfile, found, _⟩ := savedTo.found bare shown
    obtain ⟨member, same⟩ := KeyedStore.survivor_some _ found
    obtain ⟨other, among, sameOther⟩ := covers pfile member
    refine ⟨other.patchName folder, List.mem_map_of_mem among, ?_⟩
    rw [savedTo.rule]
    exact sameOther.trans same
  · rw [savedTo.rule, List.map_map]
    exact distinct

/-- The listed names of the folder are those of the saved patches. -/
theorem SavedTo.covers (savedTo : SavedTo folder pfiles disk saved) {listing : List Text}
    (listed : Listed saved folder listing) (wanted : Text) :
    wanted ∈ (listing.map disk.rule.key).reverse ↔
      ∃ pfile ∈ pfiles, patchKey disk.rule folder pfile = wanted := by
  rw [List.mem_reverse, List.mem_map]
  constructor
  · rintro ⟨name, member, rfl⟩
    obtain ⟨shown, bareName, bare, rfl⟩ := listed.present name member
    obtain ⟨pfile, found, _⟩ := savedTo.found bare shown
    exact ⟨pfile, KeyedStore.survivor_some _ found⟩
  · rintro ⟨pfile, member, rfl⟩
    have shown := savedTo.shown member
    rw [patchName_direct] at shown
    obtain ⟨name, among, same⟩ := listed.complete _ (patchName_bare pfile) shown
    exact ⟨name, among, by rw [patchKey, patchName_direct, ← savedTo.rule, same]⟩

/-- Loading a folder into which patches were saved reads back the surviving
ones. -/
theorem SavedTo.load (savedTo : SavedTo folder pfiles disk saved)
    (stored : ∀ pfile ∈ pfiles, pfile.Stored) {listing : List Text}
    (listed : Listed saved folder listing) :
    (buildPatchFiles listing.reverse).on saved =
      (.ok ((((listing.map disk.rule.key).reverse).filterMap
        (KeyedStore.survivor (patchKey disk.rule folder) pfiles)).map PatchFile.reloaded), saved) := by
  have each : ∀ name ∈ listing.reverse, ∃ patch,
      (KeyedStore.survivor (patchKey disk.rule folder) pfiles (disk.rule.key name)).map
          PatchFile.reloaded = some patch ∧
        (buildPatchFile name).on saved = (.ok (some patch), saved) := by
    intro name member
    obtain ⟨shown, bareName, bare, rfl⟩ := listed.present name (List.mem_reverse.mp member)
    obtain ⟨pfile, found, written⟩ := savedTo.found bare shown
    have pfileStored := stored pfile (KeyedStore.survivor_some _ found).1
    refine ⟨pfile.reloaded, by rw [found, Option.map_some], ?_⟩
    rw [buildPatchFile_on _ _ _ written, LineText.readLines_writeLines _ pfileStored.oneLine,
      buildPatchLines_printed pfile pfileStored]
  rw [buildPatchFiles_all listing.reverse saved _ each, ← List.map_reverse, List.filterMap_map,
    List.map_filterMap]
  rfl

theorem SavedTo.loadPatchesFromFolder_on (savedTo : SavedTo folder pfiles disk saved)
    (stored : ∀ pfile ∈ pfiles, pfile.Stored) {listing : List Text}
    (listed : Listed saved folder listing) (builder : PatchBuilder) :
    (builder.loadPatchesFromFolder listing).on saved =
      (.ok ⟨builder.srcFolders, [], (((listing.map disk.rule.key).reverse).filterMap
        (KeyedStore.survivor (patchKey disk.rule folder) pfiles)).map PatchFile.reloaded⟩, saved) := by
  simp only [PatchBuilder.loadPatchesFromFolder, FileM.on_bind, savedTo.load stored listed,
    FileM.on_pure]

end Loading

/-- A patch is unchanged by saving and loading exactly when its name is. -/
theorem PatchFile.reloaded_eq_iff (patch : PatchFile) :
    patch.reloaded = patch ↔ Trimmed patch.originalFileName := by
  constructor
  · intro same
    exact congrArg PatchFile.originalFileName same
  · exact PatchFile.reloaded_eq

theorem PatchFile.reloaded_reloaded (patch : PatchFile) :
    patch.reloaded.reloaded = patch.reloaded :=
  (PatchFile.reloaded_eq_iff _).mpr (Trimming.bare_trim _)

/-- Distinct names do not depend on the order. -/
theorem separable_reverse (rule : NameRule) (originals : List Text) :
    Separable rule originals.reverse ↔ Separable rule originals := by
  simp [Separable, List.map_reverse, List.nodup_reverse]

/-- Patches survive saving to an empty folder and loading it exactly when their
originals can be told apart by their bare names. -/
theorem keepsPatches_of_stored {builder : PatchBuilder} {folder : Text} {disk : Disk}
    (legal : LegalName folder) (empty : EmptyFolder disk folder)
    (stored : ∀ pfile ∈ builder.pfiles, pfile.Stored) :
    builder.KeepsPatches folder disk ↔
      Separable disk.rule (builder.pfiles.map PatchFile.originalFileName) := by
  have keys : (builder.pfiles.map (patchKey disk.rule folder)).Nodup ↔
      (builder.pfiles.map fun pfile => disk.rule.key (bareNameOf pfile.originalFileName)).Nodup := by
    simp only [List.Nodup, List.pairwise_map, ne_eq, patchKey_eq_iff]
  have back (saved : Disk) (savedTo : SavedTo folder builder.pfiles disk saved) (listing : List Text)
      (listed : Listed saved folder listing) :=
    KeyedStore.readBack_perm_iff
      (List.nodup_reverse.mpr (savedTo.rule ▸ listed.once)) (savedTo.covers listed)
      PatchFile.reloaded PatchFile.reloaded_reloaded
  have outcome (savable : ∀ pfile ∈ builder.pfiles,
      pfile.originalFileName.any isInvalidPathSymbol = false ∧ LegalName (pfile.patchName folder)) :
      ∃ saved, (builder.save folder).on disk = (.ok (), saved) ∧
        SavedTo folder builder.pfiles disk saved := by
    obtain ⟨saved, ran, rule, files⟩ := savePatches_on folder builder.pfiles disk stored savable
    exact ⟨saved, ran, empty, rule, files⟩
  constructor
  · rintro ⟨saved, ran, loads⟩
    have savable := savePatches_ok folder builder.pfiles disk saved stored ran
    obtain ⟨_, ranAgain, savedTo⟩ := outcome savable
    obtain rfl : saved = _ := by simpa using ran.symm.trans ranAgain
    obtain ⟨listing, listed⟩ := savedTo.exists_listed
    obtain ⟨loaded, read, reordered⟩ := loads listing listed
    rw [savedTo.loadPatchesFromFolder_on stored listed] at read
    cases read
    obtain ⟨distinct, unaltered⟩ := (back saved savedTo listing listed).mp reordered
    refine ⟨by simpa [Function.comp_def] using keys.mp distinct, ?_⟩
    intro original member
    obtain ⟨pfile, among, rfl⟩ := List.mem_map.mp member
    obtain ⟨valid, whole⟩ := savable pfile among
    exact ⟨valid, (legal_patchName legal).mp whole,
      (PatchFile.reloaded_eq_iff pfile).mp (unaltered pfile among)⟩
  · rintro ⟨distinct, nameable⟩
    have named : ∀ pfile ∈ builder.pfiles, Nameable pfile.originalFileName :=
      fun pfile member => nameable _ (List.mem_map_of_mem member)
    obtain ⟨saved, ran, savedTo⟩ := outcome fun pfile member =>
      ⟨(named pfile member).1, (legal_patchName legal).mpr (named pfile member).2.1⟩
    refine ⟨saved, ran, ?_⟩
    intro listing listed
    refine ⟨_, savedTo.loadPatchesFromFolder_on stored listed builder, ?_⟩
    apply (back saved savedTo listing listed).mpr
    refine ⟨keys.mpr (by simpa [Function.comp_def] using distinct), ?_⟩
    intro pfile member
    exact (PatchFile.reloaded_eq_iff pfile).mpr (named pfile member).2.2

theorem makePatch_ok_iff {builder made : PatchBuilder} {disk : Disk} :
    (builder.makePatch.on disk).1 = .ok made ↔
      ∃ pfiles, ((buildPatchFiles (builder.srcFolders.flatMap collectFilesRecursive).reverse).on
          disk).1 = .ok pfiles ∧
        made = ⟨builder.srcFolders, builder.srcFolders.flatMap collectFilesRecursive, pfiles⟩ := by
  simp only [PatchBuilder.makePatch, FileM.on_bind]
  cases (buildPatchFiles (builder.srcFolders.flatMap collectFilesRecursive).reverse).on disk with
  | mk outcome after =>
    cases outcome with
    | error fault => simp
    | ok pfiles => simp [eq_comm]

/-- The patches that are made are stored, and are for the originals of the
annotated files. -/
theorem makePatch_pfiles {builder made : PatchBuilder} {disk : Disk}
    (makes : (builder.makePatch.on disk).1 = .ok made) :
    (∀ pfile ∈ made.pfiles, pfile.Stored) ∧
      made.pfiles.map PatchFile.originalFileName = (builder.originals disk).reverse := by
  obtain ⟨pfiles, read, rfl⟩ := makePatch_ok_iff.mp makes
  refine ⟨buildPatchFiles_stored read, ?_⟩
  rw [PatchBuilder.originals, ← List.filterMap_reverse]
  exact buildPatchFiles_originals read

/-- No patch is lost exactly when the originals of all annotated files can be
told apart by their bare names. -/
theorem keepsPatches_iff (builder made : PatchBuilder) (folder : Text) (disk : Disk)
    (legal : LegalName folder) (empty : EmptyFolder disk folder)
    (makes : (builder.makePatch.on disk).1 = .ok made) :
    made.KeepsPatches folder disk ↔ Separable disk.rule (builder.originals disk) := by
  obtain ⟨stored, originals⟩ := makePatch_pfiles makes
  rw [keepsPatches_of_stored legal empty stored, originals, separable_reverse]

/-- Annotated files in two folders, with different bare names. -/
theorem keepsPatches_two_names :
    let content := "//###_START 0\none\n//###_FIND_NEXT_LANDMARK 0\ntwo\n".toList
    let disk := ((Disk.empty .exact).write "s\\a\\x.h".toList content (by decide)).write
      "s\\b\\y.cc".toList content (by decide)
    let builder : PatchBuilder :=
      ⟨[.folder [] [.folder ["s\\a\\x.h".toList] [], .folder ["s\\b\\y.cc".toList] []]], [], []⟩
    ∃ made, (builder.makePatch.on disk).1 = .ok made ∧ made.pfiles.length = 2 ∧
      made.KeepsPatches "p".toList disk := by
  intro content disk builder
  let task := (PatchTask.new "one".toList 0).findNext "two".toList
  have makes := makePatch_ok_iff.mpr ⟨[⟨"s\\a\\x.h".toList, [task]⟩, ⟨"s\\b\\y.cc".toList, [task]⟩],
    (by decide +kernel : ((buildPatchFiles (builder.srcFolders.flatMap collectFilesRecursive).reverse).on
      disk).1 = _), rfl⟩
  have empty : EmptyFolder disk "p".toList := by
    intro bareName bare
    simp [disk, Disk.write, Disk.empty, NameRule.key, NameRule.exact]
  refine ⟨_, makes, rfl, ?_⟩
  apply (keepsPatches_iff builder _ "p".toList disk (by decide) empty makes).mpr
  exact ⟨by decide +kernel, by decide +kernel⟩

/-- Annotated files in two folders, with the same bare name. -/
theorem keepsPatches_same_name :
    let content := "//###_START 0\none\n//###_FIND_NEXT_LANDMARK 0\ntwo\n".toList
    let disk := ((Disk.empty .exact).write "s\\a\\x.h".toList content (by decide)).write
      "s\\b\\x.h".toList content (by decide)
    let builder : PatchBuilder :=
      ⟨[.folder [] [.folder ["s\\a\\x.h".toList] [], .folder ["s\\b\\x.h".toList] []]], [], []⟩
    ∃ made, (builder.makePatch.on disk).1 = .ok made ∧ EmptyFolder disk "p".toList ∧
      ¬ made.KeepsPatches "p".toList disk := by
  intro content disk builder
  let task := (PatchTask.new "one".toList 0).findNext "two".toList
  have makes := makePatch_ok_iff.mpr ⟨[⟨"s\\a\\x.h".toList, [task]⟩, ⟨"s\\b\\x.h".toList, [task]⟩],
    (by decide +kernel : ((buildPatchFiles (builder.srcFolders.flatMap collectFilesRecursive).reverse).on
      disk).1 = _), rfl⟩
  have empty : EmptyFolder disk "p".toList := by
    intro bareName bare
    simp [disk, Disk.write, Disk.empty, NameRule.key, NameRule.exact]
  refine ⟨_, makes, empty, ?_⟩
  intro kept
  have separable := (keepsPatches_of_stored (by decide) empty (makePatch_pfiles makes).1).mp kept
  have same : ¬ (["s\\a\\x.h".toList, "s\\b\\x.h".toList].map fun original =>
      disk.rule.key (bareNameOf original)).Nodup := by decide +kernel
  exact same separable.1

end CefBridge.Patcher
