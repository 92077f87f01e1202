import CefBridge.Patcher.Runtime

/-!
# Which kind of process has started

The same program starts as the browser process, as a renderer and as a helper.
The managed side scans the start arguments by hand and sets two flags. The
native side looks up one switch on its command line.

The main theorem says for which arguments the two agree. Arguments without a
type switch start the browser process, but the managed side takes them for a
helper unless there are none at all.
-/

namespace CefBridge.Managed

open Patcher (Text startsWith startsWith_iff)

def SWITCH : Text := "--".toList
def TYPE : Text := "--type".toList

/-- The start arguments as they were parsed. No process type is null. -/
structure CefStartArgs where
  isValidCefArgs : Bool := false
  processType : Option Text := none
  deriving DecidableEq

/-- Scan the arguments, up to one that gives the process type. -/
def CefStartArgs.parseLoop : List Text → CefStartArgs → CefStartArgs
  | [], cefStartArgs => cefStartArgs
  | arg :: rest, cefStartArgs =>
    if startsWith arg SWITCH then
      match arg.splitOn '=' with
      | [name, value] =>
        if name = TYPE then { isValidCefArgs := true, processType := some value }
        else parseLoop rest cefStartArgs
      | _ => parseLoop rest cefStartArgs
    else parseLoop rest cefStartArgs

def CefStartArgs.parse (startupArgs : List Text) : CefStartArgs := parseLoop startupArgs {}

/-- The flags that tell the program its process. -/
structure Cef3InitEssential where
  isInRenderProcess : Bool := false
  isInMainProcess : Bool := false
  deriving DecidableEq

/-- Load the native libraries and set the flags. -/
def loadCef3 (loadNativeLibs : Bool) (startArgs : List Text) (flags : Cef3InitEssential) :
    Bool × Cef3InitEssential :=
  if !loadNativeLibs then (false, flags)
  else if 0 < startArgs.length then
    let cefStartArg := CefStartArgs.parse startArgs
    (true, {
      isInRenderProcess := cefStartArg.isValidCefArgs && cefStartArg.processType = some "renderer".toList
      isInMainProcess := cefStartArg.isValidCefArgs && cefStartArg.processType = some [] })
  else (true, { flags with isInMainProcess := true })

/-- Whether the program goes on to show its form. -/
def programMain (loadNativeLibs : Bool) (args : List Text) : Bool :=
  let (loaded, flags) := loadCef3 loadNativeLibs args {}
  loaded && flags.isInMainProcess

inductive ProcessType where
  | browserProcess
  | rendererProcess
  | zygoteProcess
  | otherProcess
  deriving DecidableEq, Repr

/-- What the native side asks of its command line. -/
structure CefCommandLine where
  hasSwitch : Text → Bool
  getSwitchValue : Text → Text

def kProcessType : Text := "type".toList
def kRendererProcess : Text := "renderer".toList
def kZygoteProcess : Text := "zygote".toList

/-- The kind of process, as the native side sees it. -/
def getProcessType (linux : Bool) (commandLine : CefCommandLine) : ProcessType :=
  if !commandLine.hasSwitch kProcessType then .browserProcess
  else
    let processType := commandLine.getSwitchValue kProcessType
    if processType = kRendererProcess then .rendererProcess
    else if linux && processType = kZygoteProcess then .zygoteProcess
    else .otherProcess

section CommandLine

/-- An argument that is the switch of that name, with or without a value. -/
def isSwitch (name arg : Text) : Bool :=
  arg == SWITCH ++ name || startsWith arg (SWITCH ++ name ++ ['='])

/-- The text after the first equals sign. -/
def switchValue (arg : Text) : Text := (arg.dropWhile (· != '=')).tail

/-- A command line that was made from start arguments: it has the switches among
them, and the value of one that is given once. -/
structure CefCommandLine.Reads (commandLine : CefCommandLine) (args : List Text) : Prop where
  has : ∀ name, commandLine.hasSwitch name = args.any (isSwitch name)
  value : ∀ name arg, args.filter (isSwitch name) = [arg] →
    commandLine.getSwitchValue name = switchValue arg

/-- A command line on which the last switch of a name counts. -/
def CefCommandLine.ofArgs (args : List Text) : CefCommandLine where
  hasSwitch name := args.any (isSwitch name)
  getSwitchValue name := ((args.filter (isSwitch name)).getLast?.map switchValue).getD []

theorem reads_ofArgs (args : List Text) : (CefCommandLine.ofArgs args).Reads args where
  has _ := rfl
  value name arg only := by
    simp only [CefCommandLine.ofArgs, only, List.getLast?_singleton, Option.map_some,
      Option.getD_some]

theorem isSwitch_iff (name arg : Text) :
    isSwitch name arg = true ↔
      arg = SWITCH ++ name ∨ ∃ value, arg = SWITCH ++ name ++ '=' :: value := by
  rw [isSwitch, Bool.or_eq_true, beq_iff_eq, startsWith_iff]
  apply or_congr_right
  constructor
  · rintro ⟨value, rfl⟩
    exact ⟨value, by simp⟩
  · rintro ⟨value, rfl⟩
    exact ⟨value, by simp⟩

theorem switchValue_append (front value : Text) (plain : '=' ∉ front) :
    switchValue (front ++ '=' :: value) = value := by
  have passed : ∀ symbol ∈ front, (symbol != '=') = true := by
    intro symbol member
    exact bne_iff_ne.mpr fun same => plain (same ▸ member)
  rw [switchValue, List.dropWhile_append_of_pos passed]
  rfl

theorem switchValue_plain (front : Text) (plain : '=' ∉ front) : switchValue front = [] := by
  have passed : ∀ symbol ∈ front, (symbol != '=') = true := by
    intro symbol member
    exact bne_iff_ne.mpr fun same => plain (same ▸ member)
  rw [switchValue, List.dropWhile_eq_nil_iff.mpr passed]
  rfl

end CommandLine

section Scan

/-- The process type that the scan takes from an argument. -/
def scanned (arg : Text) : Option Text :=
  if startsWith arg SWITCH then
    match arg.splitOn '=' with
    | [name, value] => if name = TYPE then some value else none
    | _ => none
  else none

theorem parseLoop_cons (arg : Text) (rest : List Text) (cefStartArgs : CefStartArgs) :
    CefStartArgs.parseLoop (arg :: rest) cefStartArgs =
      match scanned arg with
      | some value => { isValidCefArgs := true, processType := some value }
      | none => CefStartArgs.parseLoop rest cefStartArgs := by
  rw [CefStartArgs.parseLoop, scanned]
  by_cases dashes : startsWith arg SWITCH = true
  · rw [if_pos dashes, if_pos dashes]
    split
    · rename_i name value split
      by_cases named : name = TYPE
      · rw [if_pos named, if_pos named]
      · rw [if_neg named, if_neg named]
    · rfl
  · rw [if_neg dashes, if_neg dashes]

/-- The scan stops at the first argument that gives a type. -/
theorem parseLoop_eq (args : List Text) (cefStartArgs : CefStartArgs) :
    CefStartArgs.parseLoop args cefStartArgs =
      match args.findSome? scanned with
      | some value => { isValidCefArgs := true, processType := some value }
      | none => cefStartArgs := by
  induction args with
  | nil => rfl
  | cons arg rest ih =>
    rw [parseLoop_cons, List.findSome?_cons]
    cases scanned arg with
    | some value => rfl
    | none => exact ih

/-- A text without separators is the only piece. -/
theorem plain_of_splitOn {value : Text} (only : value.splitOn '=' = [value]) : '=' ∉ value := by
  intro member
  obtain ⟨front, back, rfl⟩ := List.append_of_mem member
  have lengths := congrArg List.length only
  have first := List.length_pos_of_ne_nil (List.splitOn_ne_nil '=' front)
  have second := List.length_pos_of_ne_nil (List.splitOn_ne_nil '=' back)
  rw [List.splitOn_append_cons_self, List.length_append, List.length_singleton] at lengths
  omega

/-- The type is taken from a switch whose value has no further equals sign. -/
theorem scanned_iff (arg value : Text) :
    scanned arg = some value ↔ arg = TYPE ++ '=' :: value ∧ '=' ∉ value := by
  have named : ∀ text : Text, (TYPE ++ '=' :: text).splitOn '=' = TYPE :: text.splitOn '=' :=
    fun text => List.splitOn_append_cons_self_of_not_mem (by decide) text
  constructor
  · intro taken
    rw [scanned] at taken
    split at taken
    · split at taken
      · rename_i name other split
        by_cases type : name = TYPE
        · rw [if_pos type, Option.some.injEq] at taken
          subst type taken
          have whole : ['='].intercalate (arg.splitOn '=') = arg := List.intercalate_splitOn '='
          rw [split] at whole
          have same : arg = TYPE ++ '=' :: other := by simpa using whole.symm
          rw [same, named, List.cons.injEq] at split
          exact ⟨same, plain_of_splitOn split.2⟩
        · rw [if_neg type] at taken
          cases taken
      · cases taken
    · cases taken
  · rintro ⟨rfl, plain⟩
    have dashes : startsWith (TYPE ++ '=' :: value) SWITCH = true :=
      (startsWith_iff _ _).mpr ⟨"type".toList ++ '=' :: value, rfl⟩
    rw [scanned, if_pos dashes, named, List.splitOn_eq_singleton plain]
    rfl

/-- Arguments set the flags by the first type that the scan takes. -/
theorem loadCef3_flags {args : List Text} (given : args ≠ []) :
    (loadCef3 true args {}).2 =
      match args.findSome? scanned with
      | some value =>
        { isInRenderProcess := value = kRendererProcess, isInMainProcess := value = [] }
      | none => {} := by
  have positive := List.length_pos_of_ne_nil given
  rw [loadCef3, if_neg (by simp), if_pos positive, CefStartArgs.parse, parseLoop_eq]
  cases args.findSome? scanned with
  | none => rfl
  | some value =>
    simp only [Bool.true_and, Option.some.injEq]
    rfl

end Scan

section Agreement

/-- An argument that is the type switch. -/
abbrev isTypeSwitch : Text → Bool := isSwitch kProcessType

/-- The flags say the same as the native side about the two kinds of process that
the managed side knows. -/
structure Agree (flags : Cef3InitEssential) (processType : ProcessType) : Prop where
  main : flags.isInMainProcess = true ↔ processType = .browserProcess
  renderer : flags.isInRenderProcess = true ↔ processType = .rendererProcess

/-- With one type switch, what the scan takes is what it takes from that one. -/
theorem scanned_single {args : List Text} {arg : Text} (only : args.filter isTypeSwitch = [arg]) :
    args.findSome? scanned = scanned arg := by
  have given : arg ∈ args.filter isTypeSwitch := by simp [only]
  cases first : args.findSome? scanned with
  | none => exact (List.findSome?_eq_none_iff.mp first arg (List.mem_of_mem_filter given)).symm
  | some value =>
    obtain ⟨other, member, taken⟩ := List.exists_of_findSome?_eq_some first
    have switch : isTypeSwitch other = true :=
      (isSwitch_iff _ _).mpr (.inr ⟨value, ((scanned_iff _ _).mp taken).1⟩)
    have same : other ∈ args.filter isTypeSwitch := List.mem_filter.mpr ⟨member, switch⟩
    rw [only, List.mem_singleton] at same
    rw [← same, taken]

/-- Without a type switch the scan takes nothing. -/
theorem scanned_absent {args : List Text} (absent : args.filter isTypeSwitch = []) :
    args.findSome? scanned = none := by
  apply List.findSome?_eq_none_iff.mpr
  intro arg member
  cases taken : scanned arg with
  | none => rfl
  | some value =>
    have switch : isTypeSwitch arg = true :=
      (isSwitch_iff _ _).mpr (.inr ⟨value, ((scanned_iff _ _).mp taken).1⟩)
    exact absurd switch (List.filter_eq_nil_iff.mp absent arg member)

/-- The kind of process that a given type stands for. -/
theorem getProcessType_given (linux : Bool) {commandLine : CefCommandLine}
    (has : commandLine.hasSwitch kProcessType = true) :
    getProcessType linux commandLine ≠ .browserProcess ∧
      (getProcessType linux commandLine = .rendererProcess ↔
        commandLine.getSwitchValue kProcessType = kRendererProcess) := by
  rw [getProcessType, has]
  by_cases renderer : commandLine.getSwitchValue kProcessType = kRendererProcess
  · simp [renderer]
  · by_cases zygote : linux && commandLine.getSwitchValue kProcessType = kZygoteProcess
    · simp [renderer, zygote]
    · simp [renderer, zygote]

/-- The managed side classifies one type switch as the native side does, unless
its value is empty. -/
theorem agree_single {args : List Text} {commandLine : CefCommandLine} {arg : Text} (linux : Bool)
    (reads : commandLine.Reads args) (only : args.filter isTypeSwitch = [arg]) :
    Agree (loadCef3 true args {}).2 (getProcessType linux commandLine) ↔ arg ≠ TYPE ++ ['='] := by
  have member : arg ∈ args.filter isTypeSwitch := by simp [only]
  obtain ⟨given, switch⟩ := List.mem_filter.mp member
  have has : commandLine.hasSwitch kProcessType = true := by
    rw [reads.has]
    exact List.any_eq_true.mpr ⟨arg, given, switch⟩
  obtain ⟨notBrowser, renderer⟩ := getProcessType_given linux has
  rw [reads.value _ _ only] at renderer
  rw [loadCef3_flags (List.ne_nil_of_mem given), scanned_single only]
  have untaken : scanned arg = none → switchValue arg ≠ kRendererProcess →
      Agree {} (getProcessType linux commandLine) := by
    intro nothing other
    exact ⟨by simp [notBrowser], by simp [renderer, other]⟩
  rcases (isSwitch_iff _ _).mp switch with bare | ⟨value, valued⟩
  · have nothing : scanned arg = none := by
      cases taken : scanned arg with
      | none => rfl
      | some value =>
        have same : TYPE ++ '=' :: value = TYPE := ((scanned_iff _ _).mp taken).1.symm.trans bare
        have lengths := congrArg List.length same
        rw [List.length_append, List.length_cons] at lengths
        omega
    have empty : switchValue arg ≠ kRendererProcess := by
      rw [bare, switchValue_plain _ (by decide)]
      decide
    rw [nothing]
    simp only [untaken nothing empty, true_iff]
    rw [bare]
    decide
  · have same : switchValue arg = value := by
      rw [valued]
      exact switchValue_append _ value (by decide)
    have whole : arg = TYPE ++ '=' :: value := valued
    have filled : arg ≠ TYPE ++ ['='] ↔ value ≠ [] := by
      rw [whole, Ne, List.append_cancel_left_eq, List.cons.injEq, eq_self, true_and]
    rw [filled]
    by_cases plain : '=' ∈ value
    · have nothing : scanned arg = none := by
        cases taken : scanned arg with
        | none => rfl
        | some other =>
          obtain ⟨again, solid⟩ := (scanned_iff _ _).mp taken
          rw [whole, List.append_cancel_left_eq, List.cons.injEq] at again
          exact absurd (again.2 ▸ plain) solid
      have notRenderer : switchValue arg ≠ kRendererProcess := by
        rintro renderer
        rw [← same, renderer] at plain
        exact absurd plain (by decide)
      rw [nothing]
      simp only [untaken nothing notRenderer, true_iff]
      exact List.ne_nil_of_mem plain
    · have taken : scanned arg = some value := (scanned_iff _ _).mpr ⟨whole, plain⟩
      rw [taken]
      rw [same] at renderer
      constructor
      · rintro ⟨main, -⟩ empty
        exact notBrowser (main.mp (by simp [empty]))
      · intro value
        exact ⟨by simp [notBrowser, value], by simp [renderer]⟩

/-- Without a type switch the native side sees the browser process. -/
theorem getProcessType_absent {args : List Text} {commandLine : CefCommandLine} (linux : Bool)
    (reads : commandLine.Reads args) (absent : args.filter isTypeSwitch = []) :
    getProcessType linux commandLine = .browserProcess := by
  have none : commandLine.hasSwitch kProcessType = false := by
    rw [reads.has, List.any_eq_false]
    exact List.filter_eq_nil_iff.mp absent
  rw [getProcessType, none]
  rfl

/-- Both sides agree on the kind of process exactly when there are no arguments,
or there is a type switch and it does not have an empty value. -/
theorem loadCef3_agrees_iff (linux : Bool) (args : List Text) (commandLine : CefCommandLine)
    (reads : commandLine.Reads args) (single : (args.filter isTypeSwitch).length ≤ 1) :
    Agree (loadCef3 true args {}).2 (getProcessType linux commandLine) ↔
      args = [] ∨ ((∃ arg ∈ args, isTypeSwitch arg = true) ∧ "--type=".toList ∉ args) := by
  have emptied : isTypeSwitch "--type=".toList = true := by decide
  cases switches : args.filter isTypeSwitch with
  | nil =>
    have browser := getProcessType_absent linux reads switches
    have absent := List.filter_eq_nil_iff.mp switches
    rw [browser]
    constructor
    · intro agree
      by_contra neither
      have given : args ≠ [] := fun empty => neither (.inl empty)
      have main := agree.main.mpr rfl
      rw [loadCef3_flags given, scanned_absent switches] at main
      cases main
    · rintro (rfl | ⟨⟨arg, member, switch⟩, -⟩)
      · exact ⟨by decide, by decide⟩
      · exact absurd switch (absent arg member)
  | cons arg more =>
    have only : args.filter isTypeSwitch = [arg] := by
      have none : more = [] := by
        apply List.eq_nil_of_length_eq_zero
        rw [switches, List.length_cons] at single
        omega
      rw [switches, none]
    have member : arg ∈ args.filter isTypeSwitch := by simp [only]
    obtain ⟨given, switch⟩ := List.mem_filter.mp member
    rw [agree_single linux reads only]
    constructor
    · intro filled
      refine .inr ⟨⟨arg, given, switch⟩, fun empty => filled ?_⟩
      have same : "--type=".toList ∈ args.filter isTypeSwitch :=
        List.mem_filter.mpr ⟨empty, emptied⟩
      rw [only, List.mem_singleton] at same
      exact same.symm
    · rintro (rfl | ⟨-, filled⟩) empty
      · cases given
      · rw [empty] at given
        exact filled given

/-- A renderer is recognised by both sides. -/
theorem loadCef3_agrees_renderer :
    ["--type=renderer".toList, "--lang=en".toList].filter isTypeSwitch = ["--type=renderer".toList] ∧
      Agree (loadCef3 true ["--type=renderer".toList, "--lang=en".toList] {}).2
        (getProcessType false (.ofArgs ["--type=renderer".toList, "--lang=en".toList])) := by
  refine ⟨by decide, (loadCef3_agrees_iff false _ _ (reads_ofArgs _) (by decide)).mpr ?_⟩
  exact .inr ⟨⟨"--type=renderer".toList, by decide, by decide⟩, by decide⟩

/-- Opened with a file, the browser process takes itself for another one. -/
theorem loadCef3_agrees_not_file :
    getProcessType false (.ofArgs ["file.html".toList]) = .browserProcess ∧
      ¬ Agree (loadCef3 true ["file.html".toList] {}).2
        (getProcessType false (.ofArgs ["file.html".toList])) := by
  refine ⟨by decide, fun agree => ?_⟩
  exact absurd (agree.main.mpr (by decide)) (by decide)

/-- Started with arguments but no type switch, the program ends without a form. -/
theorem programMain_absent {args : List Text} (given : args ≠ [])
    (absent : args.filter isTypeSwitch = []) (loadNativeLibs : Bool) :
    programMain loadNativeLibs args = false := by
  cases loadNativeLibs with
  | false => rfl
  | true =>
    have flags := loadCef3_flags given
    rw [scanned_absent absent] at flags
    simp [programMain, flags]

end Agreement

end CefBridge.Managed
