import CefBridge.Library.LineText
import CefBridge.Library.Decimal

/-!
# What the patcher takes from its framework

Strings, trimming, number parsing, file names and files, as the patcher's code
uses them. Text is a list of characters. Comparisons are ordinal. `isWhiteSpace`
lists the characters that trimming removes in the framework version that the
projects target.

A disk maps file names to contents. A rule says which names it takes for the
same file. Names with invalid symbols are refused, so no stored file has a line
break in its name. Code that touches files is a `FileM`: it raises a
fault or returns a result, and in both cases leaves a disk behind.

Encodings, sharing, access rights and devices are outside.
-/

namespace CefBridge.Patcher

open Library

abbrev Text := List Char

/-- A character that trimming removes. -/
def isWhiteSpace (symbol : Char) : Bool :=
  let code := symbol.toNat
  (0x9 ≤ code && code ≤ 0xD) || code == 0x20 || code == 0x85 || code == 0xA0 || code == 0x1680 ||
    (0x2000 ≤ code && code ≤ 0x200B) || code == 0x2028 || code == 0x2029 || code == 0x3000 ||
    code == 0xFEFF

abbrev trimStart (text : Text) : Text := Trimming.trimStart isWhiteSpace text

abbrev trim (text : Text) : Text := Trimming.trim isWhiteSpace text

/-- Neither end is white space. -/
abbrev Trimmed (text : Text) : Prop := Trimming.Bare isWhiteSpace text

def startsWith (text start : Text) : Bool := start.isPrefixOf text

theorem startsWith_iff (text start : Text) : startsWith text start = true ↔ start <+: text :=
  List.isPrefixOf_iff_prefix

/-- The exceptions that the patcher's code can raise. -/
inductive Fault where
  | notSupported (message : Option String)
  | argumentOutOfRange
  | argument
  | nullReference
  | format
  | overflow
  | fileNotFound
  deriving DecidableEq, Repr

/-- White space that number parsing skips by itself. -/
def isNumberWhite (symbol : Char) : Bool :=
  symbol == ' ' || (0x9 ≤ symbol.toNat && symbol.toNat ≤ 0xD)

/-- Parse a 32-bit integer: white space, a sign, digits, white space, and any
number of terminating null characters. -/
def parseInt (text : Text) : Except Fault Int32 :=
  match Decimal.readInt (text.dropWhile isNumberWhite) with
  | none => .error .format
  | some (value, rest) =>
    if (rest.dropWhile isNumberWhite).all (· == '\x00') then
      if Int32.minValue.toInt ≤ value ∧ value ≤ Int32.maxValue.toInt then .ok (Int32.ofInt value)
      else .error .overflow
    else .error .format

/-- The decimal form of a 32-bit integer. -/
def printInt (value : Int32) : Text := Decimal.writeInt value.toInt

/-- A printed integer has no white space and no space character. -/
theorem printInt_solid (value : Int32) : ∀ symbol ∈ printInt value, isWhiteSpace symbol = false := by
  intro symbol member
  cases Decimal.writeInt_symbols _ symbol member with
  | inl sign => subst sign; decide
  | inr digit =>
    have bounds : 48 ≤ symbol.toNat ∧ symbol.toNat ≤ 57 := by
      simp only [Char.isDigit, ge_iff_le, Bool.and_eq_true, decide_eq_true_eq,
        UInt32.le_iff_toNat_le] at digit
      exact digit
    simp only [isWhiteSpace, Bool.or_eq_false_iff, Bool.and_eq_false_iff, decide_eq_false_iff_not,
      beq_eq_false_iff_ne]
    omega

/-- Parsing inverts printing. -/
theorem parseInt_printInt (value : Int32) : parseInt (printInt value) = .ok value := by
  have unskipped : (printInt value).dropWhile isNumberWhite = printInt value := by
    cases printed : printInt value with
    | nil => rfl
    | cons symbol rest =>
      have solid := printInt_solid value symbol (by simp [printed])
      have shown : isNumberWhite symbol = false := by
        simp only [isWhiteSpace, Bool.or_eq_false_iff] at solid
        simp only [isNumberWhite, Bool.or_eq_false_iff]
        refine ⟨?_, solid.1.1.1.1.1.1.1.1.1⟩
        have notSpace : symbol.toNat ≠ 0x20 := by simpa using solid.1.1.1.1.1.1.1.1.2
        have different : symbol ≠ ' ' := fun same => notSpace (same ▸ rfl)
        simpa using different
      simp [shown]
  have read := Decimal.readInt_writeInt value.toInt [] (by simp)
  rw [List.append_nil] at read
  have bounds := And.intro value.minValue_le_toInt value.toInt_le
  rw [parseInt, unskipped, printInt, read]
  simp only [List.dropWhile_nil, List.all_nil, if_true, bounds, and_self, Int32.ofInt_toInt]

/-- A symbol that no path may hold. -/
def isInvalidPathSymbol (symbol : Char) : Bool :=
  symbol.toNat < 0x20 || symbol == '"' || symbol == '<' || symbol == '>' || symbol == '|'

def isSeparator (symbol : Char) : Bool := symbol == '\\' || symbol == '/' || symbol == ':'

/-- The part of a path after its last separator. -/
def getFileName (path : Text) : Except Fault Text :=
  if path.any isInvalidPathSymbol then .error .argument
  else .ok (path.rtakeWhile fun symbol => !isSeparator symbol)

/-- A symbol that the name of a file can hold: neither invalid nor a wildcard. -/
def legalSymbol (symbol : Char) : Bool :=
  !isInvalidPathSymbol symbol && symbol != '*' && symbol != '?'

def LegalName (name : Text) : Prop := ∀ symbol ∈ name, legalSymbol symbol = true

instance (name : Text) : Decidable (LegalName name) :=
  decidable_of_iff (name.all legalSymbol = true) List.all_eq_true

theorem LegalName.oneLine {name : Text} (legal : LegalName name) : LineText.OneLine name :=
  ⟨fun member => absurd (legal _ member) (by decide), fun member => absurd (legal _ member) (by decide)⟩

theorem LegalName.valid {name : Text} (legal : LegalName name) :
    name.any isInvalidPathSymbol = false := by
  apply List.any_eq_false.mpr
  intro symbol member
  have accepted := legal symbol member
  simp only [legalSymbol, Bool.and_eq_true, Bool.not_eq_true'] at accepted
  simp [accepted.1.1]

/-- The name of a file that can exist is accepted as a path. -/
theorem LegalName.getFileName_eq {name : Text} (legal : LegalName name) :
    getFileName name = .ok (name.rtakeWhile fun symbol => !isSeparator symbol) := by
  simp [getFileName, legal.valid]

/-- How a file system compares names, symbol by symbol: without regard to case,
for one. Symbols that are no names stay none. -/
structure NameRule where
  fold : Char → Char
  legal : ∀ first second, fold first = fold second → legalSymbol first = legalSymbol second

/-- The form of a name that is compared. -/
def NameRule.key (rule : NameRule) (name : Text) : Text := name.map rule.fold

/-- Names are compared as they are. -/
def NameRule.exact : NameRule := ⟨id, fun _ _ same => congrArg legalSymbol same⟩

theorem NameRule.legal_of_key {rule : NameRule} {name other : Text}
    (same : rule.key other = rule.key name) (legal : LegalName name) : LegalName other := by
  intro symbol member
  have folded : rule.fold symbol ∈ rule.key name := same ▸ List.mem_map_of_mem member
  obtain ⟨twin, twinMember, twinFolded⟩ := List.mem_map.mp folded
  rw [rule.legal symbol twin twinFolded.symm]
  exact legal twin twinMember

/-- The files of a disk, by name. Names that compare as equal are one file. -/
structure Disk where
  rule : NameRule
  files : Text → Option Text
  named : ∀ name content, files name = some content → LegalName name
  folded : ∀ name other, rule.key name = rule.key other → files name = files other

/-- A disk without files. -/
def Disk.empty (rule : NameRule) : Disk where
  rule
  files _ := none
  named _ _ stored := by contradiction
  folded _ _ _ := rfl

/-- Put a file on a disk, in place of one of the same name. -/
def Disk.write (disk : Disk) (name content : Text) (legal : LegalName name) : Disk where
  rule := disk.rule
  files other := if disk.rule.key other = disk.rule.key name then some content else disk.files other
  named other _ stored := by
    by_cases same : disk.rule.key other = disk.rule.key name
    · exact NameRule.legal_of_key same legal
    · exact disk.named other _ (by simpa [same] using stored)
  folded first second same := by
    simp only [same, disk.folded first second same]

@[simp] theorem Disk.write_rule (disk : Disk) (name content : Text) (legal : LegalName name) :
    (disk.write name content legal).rule = disk.rule := rfl

@[simp] theorem Disk.write_same (disk : Disk) (name content : Text)
    (legal : LegalName name) : (disk.write name content legal).files name = some content := by
  simp [write]

theorem Disk.write_other (disk : Disk) (name content other : Text)
    (legal : LegalName name) (different : disk.rule.key other ≠ disk.rule.key name) :
    (disk.write name content legal).files other = disk.files other := by
  simp [write, different]

/-- Code that works on files. A fault leaves the disk as it is at that moment. -/
abbrev FileM := ExceptT Fault (StateM Disk)

/-- The outcome of code on a disk, and the disk afterwards. -/
def FileM.on {α : Type} (code : FileM α) (disk : Disk) : Except Fault α × Disk :=
  (ExceptT.run code).run disk

def fileExists (name : Text) : FileM Bool := do
  return ((← get).files name).isSome

def readAllLines (name : Text) : FileM (List Text) := do
  match (← get).files name with
  | none => throw .fileNotFound
  | some content => return LineText.readLines content

def writeAllText (name content : Text) : FileM Unit :=
  if legal : LegalName name then modify fun disk => disk.write name content legal
  else throw .argument

section Steps

variable {α β : Type}

@[simp] theorem FileM.on_pure (value : α) (disk : Disk) :
    FileM.on (pure value) disk = (.ok value, disk) := rfl

@[simp] theorem FileM.on_throw (fault : Fault) (disk : Disk) :
    FileM.on (throw fault : FileM α) disk = (.error fault, disk) := rfl

theorem FileM.on_bind (code : FileM α) (next : α → FileM β) (disk : Disk) :
    FileM.on (code >>= next) disk =
      match FileM.on code disk with
      | (.ok value, after) => FileM.on (next value) after
      | (.error fault, after) => (.error fault, after) := by
  simp only [FileM.on, ExceptT.run_bind, StateT.run_bind]
  cases (ExceptT.run code).run disk with
  | mk outcome after => cases outcome <;> rfl

@[simp] theorem FileM.on_fileExists (name : Text) (disk : Disk) :
    FileM.on (fileExists name) disk = (.ok (disk.files name).isSome, disk) := rfl

theorem FileM.on_readAllLines (name content : Text) (disk : Disk)
    (stored : disk.files name = some content) :
    FileM.on (readAllLines name) disk = (.ok (LineText.readLines content), disk) := by
  change FileM.on (get >>= _) disk = _
  rw [FileM.on_bind]
  change FileM.on (match disk.files name with | none => _ | some content => _) disk = _
  rw [stored]
  rfl

theorem FileM.on_readAllLines_absent (name : Text) (disk : Disk)
    (absent : disk.files name = none) :
    FileM.on (readAllLines name) disk = (.error .fileNotFound, disk) := by
  change FileM.on (get >>= _) disk = _
  rw [FileM.on_bind]
  change FileM.on (match disk.files name with | none => _ | some content => _) disk = _
  rw [absent]
  rfl

theorem FileM.on_writeAllText (name content : Text) (disk : Disk)
    (legal : LegalName name) :
    FileM.on (writeAllText name content) disk = (.ok (), disk.write name content legal) := by
  simp only [writeAllText, legal, dif_pos]
  rfl

end Steps

end CefBridge.Patcher
