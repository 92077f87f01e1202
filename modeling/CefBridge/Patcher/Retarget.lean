import CefBridge.Library.Substring
import CefBridge.Patcher.Apply

/-!
# Retargeting patches to another tree

Before it applies the loaded patches, the form moves each of them to a new root.
It looks for a folder name with a backslash on both sides in the directory of the
original file, first `cefclient` and then `shared`, and keeps what starts there.

The first occurrence need not be the right one, and a file at the top of its
folder has no backslash after the folder name once the file name is cut off. The
main theorem says for which roots, subfolders and files the relative path is
kept.
-/

namespace CefBridge.Patcher

open Library

/-- A separator between the names of a path. -/
def isDirectorySeparator (symbol : Char) : Bool := symbol == '\\' || symbol == '/'

/-- The part of a path before its last separator. The directory of a bare root
is outside. -/
def getDirectoryName (path : Text) : Except Fault Text :=
  if path.any isInvalidPathSymbol || path.isEmpty then .error .argument
  else .ok (path.rdropWhile fun symbol => !isDirectorySeparator symbol).dropLast

def CEFCLIENT : Text := "\\cefclient\\".toList
def SHARED : Text := "\\shared\\".toList

/-- Move a patch to a new root. -/
def PatchFile.retarget (pfile : PatchFile) (newPathName : Text) : Except Fault PatchFile := do
  let onlyFileName ← getFileName pfile.originalFileName
  let onlyPath ← getDirectoryName pfile.originalFileName
  let indexOfCefClient ←
    match Substring.indexOf onlyPath CEFCLIENT with
    | some index => .ok index
    | none =>
      match Substring.indexOf onlyPath SHARED with
      | some index => .ok index
      | none => .error (.notSupported none)
  let rightSide := onlyPath.drop indexOfCefClient
  let replaceName := newPathName ++ rightSide
  return { pfile with originalFileName := replaceName ++ "//".toList ++ onlyFileName }

/-- Move and apply the loaded patches, the last one first. A fault ends the run
with the patches before it applied. -/
def cmdLoadPatchAndApplyPatch (newPathName : Text) (pfiles : List PatchFile) : FileM Unit :=
  forM pfiles.reverse fun pfile =>
    match pfile.retarget newPathName with
    | .ok moved => moved.patchContent
    | .error fault => throw fault

/-- The name of a file or of a folder. -/
structure EntryName where
  symbols : Text
  filled : symbols ≠ []
  legal : LegalName symbols
  solid : ∀ symbol ∈ symbols, isSeparator symbol = false

/-- The path of a directory that can exist. -/
structure DirectoryPath where
  symbols : Text
  legal : LegalName symbols

/-- The two folders whose files are patched. -/
inductive SourceFolder where
  | cefclient
  | shared
  deriving DecidableEq

def SourceFolder.name : SourceFolder → EntryName
  | .cefclient => ⟨"cefclient".toList, by decide, by decide, by simp [isSeparator]⟩
  | .shared => ⟨"shared".toList, by decide, by decide, by simp [isSeparator]⟩

/-- The name of a folder as the form looks for it. -/
def SourceFolder.mark : SourceFolder → Text
  | .cefclient => CEFCLIENT
  | .shared => SHARED

/-- Names below a root. -/
def entryPath (root : Text) (names : List EntryName) : Text :=
  root ++ names.flatMap fun name => '\\' :: name.symbols

/-- A path leads from a root through the given names. How many separators stand
between two names, and which, does not matter. -/
def LeadsTo (root : Text) (names : List EntryName) (path : Text) : Prop :=
  ∃ tail, path = root ++ tail ∧ tail.head?.any isDirectorySeparator = true ∧
    Substring.words isDirectorySeparator tail = names.map EntryName.symbols

/-- The names of a patched file below its root. -/
def relativeNames (folder : SourceFolder) (subfolders : List EntryName) (file : EntryName) :
    List EntryName :=
  folder.name :: subfolders ++ [file]

/-- Moved to a new root, a patch keeps its tasks and the relative path of its
original file. -/
def Retargeted (root : DirectoryPath) (newRoot : Text) (folder : SourceFolder)
    (subfolders : List EntryName) (file : EntryName) (patchTasks : List PatchTask) : Prop :=
  let names := relativeNames folder subfolders file
  ∃ moved, PatchFile.retarget ⟨entryPath root.symbols names, patchTasks⟩ newRoot =
      .ok ⟨moved, patchTasks⟩ ∧
    LeadsTo newRoot names moved

/-- The file is in a subfolder, the root has no folder of the same name, and for
`shared` there is no `cefclient` on the way. -/
structure Retargetable (root : DirectoryPath) (folder : SourceFolder)
    (subfolders : List EntryName) : Prop where
  inside : subfolders ≠ []
  first : ¬ folder.mark <:+: root.symbols ++ folder.mark.dropLast
  unhidden : folder = .shared →
    ¬ CEFCLIENT <:+: entryPath root.symbols (folder.name :: subfolders)

section Paths

theorem EntryName.solid_directory (name : EntryName) :
    ∀ symbol ∈ name.symbols, isDirectorySeparator symbol = false := by
  intro symbol member
  have solid := name.solid symbol member
  simp only [isSeparator, Bool.or_eq_false_iff] at solid
  simp [isDirectorySeparator, solid]

theorem entryPath_cons (root : Text) (name : EntryName) (names : List EntryName) :
    entryPath root (name :: names) = entryPath (root ++ '\\' :: name.symbols) names := by
  simp [entryPath]

theorem entryPath_concat (root : Text) (names : List EntryName) (name : EntryName) :
    entryPath root (names ++ [name]) = entryPath root names ++ '\\' :: name.symbols := by
  simp [entryPath]

theorem legal_entryPath {root : Text} (legal : LegalName root) (names : List EntryName) :
    LegalName (entryPath root names) := by
  have separator : legalSymbol '\\' = true := by decide
  intro symbol member
  simp only [entryPath, List.mem_append, List.mem_flatMap, List.mem_cons] at member
  rcases member with inRoot | ⟨name, -, same | inName⟩
  · exact legal symbol inRoot
  · rwa [same]
  · exact name.legal symbol inName

/-- The path of an entry is its directory and its name. -/
theorem getFileName_entry {root : Text} (legal : LegalName root) (names : List EntryName)
    (name : EntryName) : getFileName (entryPath root (names ++ [name])) = .ok name.symbols := by
  rw [(legal_entryPath legal _).getFileName_eq, entryPath_concat,
    Substring.rtakeWhile_mark isSeparator _ _ rfl name.solid]

theorem getDirectoryName_entry {root : Text} (legal : LegalName root) (names : List EntryName)
    (name : EntryName) :
    getDirectoryName (entryPath root (names ++ [name])) = .ok (entryPath root names) := by
  have filled : (entryPath root (names ++ [name])).isEmpty = false := by
    simp [entryPath_concat]
  rw [getDirectoryName, (legal_entryPath legal _).valid, filled, entryPath_concat,
    Substring.rdropWhile_mark isDirectorySeparator _ _ rfl name.solid_directory]
  simp

theorem words_entryPath (names : List EntryName) :
    Substring.words isDirectorySeparator (entryPath [] names) = names.map EntryName.symbols := by
  induction names using List.reverseRecOn with
  | nil => rfl
  | append_singleton names name ih =>
    rw [entryPath_concat, Substring.words_append isDirectorySeparator _ _ rfl, ih,
      Substring.words_word isDirectorySeparator _ name.filled name.solid_directory,
      List.map_append]
    rfl

theorem entryPath_split (root : Text) (names : List EntryName) :
    entryPath root names = root ++ entryPath [] names := by
  simp [entryPath]

/-- The path of names below an empty root opens with a separator and a name. -/
theorem opens_entryPath (name : EntryName) (names : List EntryName) :
    Substring.Opens isDirectorySeparator (entryPath [] (name :: names)) := by
  obtain ⟨symbol, rest, split⟩ := List.exists_cons_of_ne_nil name.filled
  have solid := name.solid_directory symbol (by simp [split])
  exact ⟨'\\', symbol, rest ++ names.flatMap fun name => '\\' :: name.symbols,
    by simp [entryPath, split], rfl, solid⟩

end Paths

section Split

/-- Where the directory of an original file is cut. -/
def splitPoint (onlyPath : Text) : Option Nat :=
  (Substring.indexOf onlyPath CEFCLIENT).or (Substring.indexOf onlyPath SHARED)

theorem SourceFolder.mark_eq (folder : SourceFolder) :
    folder.mark = '\\' :: folder.name.symbols ++ ['\\'] := by
  cases folder <;> rfl

/-- A mark stands at the start of a path only where the path begins with that
folder and goes on. -/
theorem mark_starts {other folder : SourceFolder} {rest : Text}
    (starts : other.mark <+: '\\' :: folder.name.symbols ++ rest) : other = folder ∧ rest ≠ [] := by
  obtain ⟨back, whole⟩ := starts
  have same : other = folder := by
    cases other with
    | cefclient =>
      cases folder with
      | cefclient => rfl
      | shared =>
        have second : some 'c' = some 's' := congrArg (fun text : Text => text[1]?) whole
        exact absurd second (by decide)
    | shared =>
      cases folder with
      | cefclient =>
        have second : some 's' = some 'c' := congrArg (fun text : Text => text[1]?) whole
        exact absurd second (by decide)
      | shared => rfl
  subst same
  rw [SourceFolder.mark_eq, List.append_assoc, List.append_cancel_left_eq] at whole
  exact ⟨rfl, by simp [← whole]⟩

/-- One of the two folders stands where a directory is cut. -/
theorem splitPoint_stands {onlyPath : Text} {index : Nat}
    (chosen : splitPoint onlyPath = some index) :
    ∃ other : SourceFolder, other.mark <+: onlyPath.drop index := by
  rw [splitPoint, Option.or_eq_some_iff] at chosen
  cases chosen with
  | inl client => exact ⟨.cefclient, Substring.indexOf_stands client⟩
  | inr shared => exact ⟨.shared, Substring.indexOf_stands shared.2⟩

/-- What a patch below a root becomes. -/
theorem retarget_entry {root : Text} (legal : LegalName root) (newRoot : Text)
    (names : List EntryName) (file : EntryName) (patchTasks : List PatchTask) :
    PatchFile.retarget ⟨entryPath root (names ++ [file]), patchTasks⟩ newRoot =
      match splitPoint (entryPath root names) with
      | some index =>
        .ok ⟨newRoot ++ (entryPath root names).drop index ++ "//".toList ++ file.symbols, patchTasks⟩
      | none => .error (.notSupported none) := by
  rw [PatchFile.retarget, getFileName_entry legal, getDirectoryName_entry legal, splitPoint]
  simp only [bind, Except.bind]
  cases Substring.indexOf (entryPath root names) CEFCLIENT with
  | some index => rfl
  | none => cases Substring.indexOf (entryPath root names) SHARED <;> rfl

/-- The cut is right exactly when what it keeps is the path below the root. -/
theorem leadsTo_split_iff (newRoot : Text) (file : EntryName) {root : Text}
    {folder other : SourceFolder} {subfolders : List EntryName} {index : Nat}
    (stands : other.mark <+: (entryPath root (folder.name :: subfolders)).drop index) :
    LeadsTo newRoot (relativeNames folder subfolders file)
        (newRoot ++ (entryPath root (folder.name :: subfolders)).drop index ++ "//".toList ++
          file.symbols) ↔
      index = root.length := by
  generalize whole : entryPath root (folder.name :: subfolders) = onlyPath at stands ⊢
  have below := entryPath_split root (folder.name :: subfolders)
  rw [whole] at below
  have cut := opens_entryPath folder.name subfolders
  have right : Substring.Opens isDirectorySeparator (onlyPath.drop index) := by
    obtain ⟨back, kept⟩ := stands
    rw [← kept]
    cases other with
    | cefclient => exact ⟨'\\', 'c', _, rfl, rfl, rfl⟩
    | shared => exact ⟨'\\', 's', _, rfl, rfl, rfl⟩
  have named : Substring.words isDirectorySeparator
      (onlyPath.drop index ++ "//".toList ++ file.symbols) =
        Substring.words isDirectorySeparator (onlyPath.drop index) ++ [file.symbols] := by
    have slashes : onlyPath.drop index ++ "//".toList ++ file.symbols =
        onlyPath.drop index ++ '/' :: '/' :: file.symbols := by simp
    rw [slashes, Substring.words_append isDirectorySeparator _ _ rfl,
      Substring.words_mark isDirectorySeparator _ rfl,
      Substring.words_word isDirectorySeparator _ file.filled file.solid_directory]
  have wanted : (relativeNames folder subfolders file).map EntryName.symbols =
      Substring.words isDirectorySeparator (entryPath [] (folder.name :: subfolders)) ++
        [file.symbols] := by
    rw [words_entryPath, relativeNames, List.map_append]
    rfl
  constructor
  · rintro ⟨tail, same, -, names⟩
    simp only [List.append_assoc, List.append_cancel_left_eq] at same
    rw [← same, ← List.append_assoc, named, wanted, List.append_cancel_right_eq] at names
    have equal := Substring.suffix_eq_of_words isDirectorySeparator (List.drop_suffix index onlyPath)
      (below ▸ List.suffix_append _ _) right cut names
    have lengths := congrArg List.length equal
    have total := congrArg List.length below
    have positive : 0 < (entryPath [] (folder.name :: subfolders)).length := by simp [entryPath]
    simp only [List.length_drop, List.length_append] at lengths total
    omega
  · intro same
    have equal : onlyPath.drop index = entryPath [] (folder.name :: subfolders) := by
      rw [same, below, List.drop_left]
    refine ⟨onlyPath.drop index ++ "//".toList ++ file.symbols, by simp, ?_, ?_⟩
    · rw [equal]
      rfl
    · rw [named, wanted, equal]

/-- In the directory of a file in a subfolder stands the mark of its folder. -/
theorem entryPath_mark (root : Text) (folder : SourceFolder) {subfolders : List EntryName}
    (inside : subfolders ≠ []) :
    ∃ back, entryPath root (folder.name :: subfolders) = root ++ folder.mark ++ back := by
  obtain ⟨name, names, rfl⟩ := List.exists_cons_of_ne_nil inside
  refine ⟨name.symbols ++ entryPath [] names, ?_⟩
  rw [folder.mark_eq, entryPath_cons, entryPath_cons, entryPath_split]
  simp

/-- The mark that stands right behind the root is that of the folder. -/
theorem mark_behind (other : SourceFolder) {root : Text} {folder : SourceFolder} {subfolders : List EntryName}
    (found : Substring.indexOf (entryPath root (folder.name :: subfolders)) other.mark =
      some root.length) : other = folder ∧ subfolders ≠ [] := by
  have stands := Substring.indexOf_stands found
  rw [entryPath_split, List.drop_left] at stands
  obtain ⟨same, more⟩ := mark_starts stands
  exact ⟨same, fun empty => more (by simp [empty])⟩

/-- The directory is cut behind the root exactly when the patch can be moved. -/
theorem splitPoint_iff (root : DirectoryPath) (folder : SourceFolder)
    (subfolders : List EntryName) :
    splitPoint (entryPath root.symbols (folder.name :: subfolders)) = some root.symbols.length ↔
      Retargetable root folder subfolders := by
  have found : subfolders ≠ [] →
      (Substring.indexOf (entryPath root.symbols (folder.name :: subfolders)) folder.mark =
          some root.symbols.length ↔
        ¬ folder.mark <:+: root.symbols ++ folder.mark.dropLast) := by
    intro inside
    obtain ⟨back, whole⟩ := entryPath_mark root.symbols folder inside
    rw [whole]
    exact Substring.indexOf_append_iff _ _ _ (by cases folder <;> decide)
  constructor
  · intro chosen
    rw [splitPoint, Option.or_eq_some_iff] at chosen
    rcases chosen with client | ⟨absent, shared⟩
    · obtain ⟨rfl, inside⟩ := mark_behind .cefclient client
      exact ⟨inside, (found inside).mp client, by simp⟩
    · obtain ⟨rfl, inside⟩ := mark_behind .shared shared
      refine ⟨inside, (found inside).mp shared, fun _ => ?_⟩
      exact (Substring.indexOf_none_iff _ _).mp absent
  · rintro ⟨inside, first, unhidden⟩
    cases folder with
    | cefclient =>
      have client : Substring.indexOf (entryPath root.symbols (SourceFolder.cefclient.name :: subfolders))
          CEFCLIENT = some root.symbols.length := (found inside).mpr first
      rw [splitPoint, client, Option.some_or]
    | shared =>
      rw [splitPoint, (Substring.indexOf_none_iff _ _).mpr (unhidden rfl), Option.none_or]
      exact (found inside).mpr first

end Split

/-- A patch for a file in a subfolder of one of the two folders keeps its relative
path exactly when no earlier part of the path looks like the folder searched for. -/
theorem retarget_iff (root : DirectoryPath) (newRoot : Text) (folder : SourceFolder)
    (subfolders : List EntryName) (file : EntryName) (patchTasks : List PatchTask) :
    Retargeted root newRoot folder subfolders file patchTasks ↔
      Retargetable root folder subfolders := by
  have moved := retarget_entry root.legal newRoot (folder.name :: subfolders) file patchTasks
  rw [← splitPoint_iff, Retargeted]
  simp only [relativeNames, moved]
  cases chosen : splitPoint (entryPath root.symbols (folder.name :: subfolders)) with
  | none => simp
  | some index =>
    obtain ⟨other, stands⟩ := splitPoint_stands chosen
    have right := leadsTo_split_iff newRoot file stands
    rw [Option.some.injEq, ← right]
    constructor
    · rintro ⟨path, same, leads⟩
      simp only [Except.ok.injEq, PatchFile.mk.injEq, and_true] at same
      rwa [same]
    · intro leads
      exact ⟨_, rfl, leads⟩

/-- A file at the top of its folder stops the run: its directory ends with the name
of the folder, without the backslash that the search wants. -/
theorem retarget_top_file :
    let root : DirectoryPath := ⟨"D:\\cef".toList, by decide⟩
    let file : EntryName := ⟨"a.cc".toList, by decide, by decide, by simp [isSeparator]⟩
    ¬ Retargeted root "D:\\new".toList .cefclient [] file [] ∧
      PatchFile.retarget ⟨"D:\\cef\\cefclient\\a.cc".toList, []⟩ "D:\\new".toList =
        .error (.notSupported none) := by
  refine ⟨?_, by decide +kernel⟩
  rw [retarget_iff]
  rintro ⟨inside, -, -⟩
  exact inside rfl

/-- A patch that cannot be moved ends the run: the patches listed before it are
never applied. -/
theorem cmdLoadPatchAndApplyPatch_stops (newPathName : Text) (before after : List PatchFile)
    {pfile : PatchFile} {fault : Fault} (stuck : pfile.retarget newPathName = .error fault)
    (disk : Disk) :
    FileM.on (cmdLoadPatchAndApplyPatch newPathName (before ++ pfile :: after)) disk =
      match FileM.on (cmdLoadPatchAndApplyPatch newPathName after) disk with
      | (.ok _, patched) => (.error fault, patched)
      | (.error earlier, patched) => (.error earlier, patched) := by
  have split : cmdLoadPatchAndApplyPatch newPathName (before ++ pfile :: after) =
      cmdLoadPatchAndApplyPatch newPathName after >>= fun _ =>
        throw fault >>= fun _ : PUnit => cmdLoadPatchAndApplyPatch newPathName before := by
    simp only [cmdLoadPatchAndApplyPatch, List.reverse_append, List.reverse_cons, List.append_assoc,
      List.forM_append, List.singleton_append, List.forM_cons, stuck]
  rw [split, FileM.on_bind]
  cases FileM.on (cmdLoadPatchAndApplyPatch newPathName after) disk with
  | mk outcome patched => cases outcome <;> rfl

end CefBridge.Patcher
