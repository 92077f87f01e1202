import CefBridge.Patcher.Reading

/-!
# The instructions of an annotated file

What the control lines of a file say can be listed without keeping any task:
where a task starts, which commands stand in the file, and under which ids. A
line that follows a control line as its operand, or stands in the body of an
append command, is no control line. The list ends at the first control line that
cannot be read, as nobody can tell what the lines after it are.

`buildLoop_scan` says that the loop of `buildPatchFile` is the listing followed
by an assembly of tasks. What is accepted, and which tasks come out, are then
questions about lists of instructions.
-/

namespace CefBridge.Patcher

open Library

inductive Instruction where
  | start (taskId : Int32) (landMark : Text)
  | command (kind : PatchCommandKind) (taskId : Int32) (text : Text)
  | malformed
  deriving DecidableEq

section Listing

/-- The kind of a command whose operand is the next line. -/
def operandKind (cmdline : Text) : Option PatchCommandKind :=
  if cmdline = FIND_NEXT_LANDMARK then some .findNextLandMark
  else if cmdline = FOLLOW_BY then some .followBy
  else if cmdline = SKIP_UNTIL_AND_ACCEPT then some .skipUntilAndAccept
  else none

/-- The instructions in lines. The first argument is present within an append
command: its id, and the text collected so far. -/
def scan : Option (Int32 × Text) → List Text → List Instruction
  | none, [] => []
  | some _, [] => [.malformed]
  | some (taskId, collected), raw :: rest =>
    let line := trimStart raw
    if startsWith line APPPEND_STOP then
      .command .appendStringStart taskId collected :: scan none rest
    else if startsWith line CMD_PREFIX then [.malformed]
    else scan (some (taskId, collected ++ line ++ LineText.newLine)) rest
  | none, raw :: rest =>
    let line := trimStart raw
    if startsWith line CMD_PREFIX then
      match readControl line with
      | none => [.malformed]
      | some (name, taskId, additionalInfo) =>
        if name = START then
          match rest with
          | [] => [.malformed]
          | landMark :: rest => .start taskId landMark :: scan none rest
        else if name = APPPEND_START then scan (some (taskId, [])) rest
        else if name = SKIP_UNTIL_PASS then
          match additionalInfo with
          | none => [.malformed]
          | some text => .command .skipUntilPass taskId text :: scan none rest
        else
          match operandKind name with
          | none => [.malformed]
          | some kind =>
            match rest with
            | [] => [.malformed]
            | text :: rest => .command kind taskId text :: scan none rest
    else scan none rest

/-- The instructions of a file, below its header. A file without lines has none
that can be read. -/
def instructions (lines : List Text) : List Instruction :=
  match lines with
  | [] => [.malformed]
  | line :: rest => scan none (readHeader [] line rest).2

end Listing

section Assembly

/-- The commands whose id the reader compares with that of the task. -/
def PatchCommandKind.compared : PatchCommandKind → Bool
  | .findNextLandMark => true
  | .followBy => true
  | .skipUntilAndAccept => true
  | _ => false

/-- Take an instruction into the tasks. -/
def BuildState.take (state : BuildState) : Instruction → Option BuildState
  | .start taskId landMark => some (state.start landMark taskId)
  | .command kind taskId text =>
    match state.ptask with
    | none => none
    | some ptask =>
      if kind.compared = true ∧ taskId ≠ ptask.taskId then none
      else some ⟨state.finished, some (ptask.add kind text)⟩
  | .malformed => none

def assemble : BuildState → List Instruction → Option BuildState
  | state, [] => some state
  | state, instruction :: rest =>
    match state.take instruction with
    | none => none
    | some next => assemble next rest

theorem assemble_malformed (state : BuildState) : assemble state [.malformed] = none := rfl

theorem operandCommand_eq (cmdline : Text) :
    operandCommand cmdline =
      (operandKind cmdline).map fun kind => fun (ptask : PatchTask) text => ptask.add kind text := by
  unfold operandCommand operandKind
  split
  · rfl
  · split
    · rfl
    · split <;> rfl

/-- The reader compares the ids of all commands with an operand of their own. -/
theorem operandKind_compared {cmdline : Text} {kind : PatchCommandKind}
    (named : operandKind cmdline = some kind) : kind.compared = true := by
  unfold operandKind at named
  split at named
  · cases named
    rfl
  · split at named
    · cases named
      rfl
    · split at named
      · cases named
        rfl
      · cases named

theorem operandKind_stop {cmdline : Text} {kind : PatchCommandKind}
    (named : operandKind cmdline = some kind) : cmdline ≠ APPPEND_STOP := by
  rintro rfl
  have unknown : operandKind APPPEND_STOP = none := by decide
  rw [unknown] at named
  contradiction

/-- A command that is not compared is taken where there is a task. -/
theorem take_uncompared (state : BuildState) (kind : PatchCommandKind) (taskId : Int32) (text : Text)
    (uncompared : kind.compared = false) :
    state.take (.command kind taskId text) =
      (state.grow fun ptask => ptask.add kind text).toOption := by
  obtain ⟨finished, ptask⟩ := state
  cases ptask with
  | none => rfl
  | some ptask => simp [BuildState.take, BuildState.grow, uncompared, Except.toOption]

/-- A command that is compared is taken under the id of the task. -/
theorem take_compared (state : BuildState) (kind : PatchCommandKind) (taskId : Int32) (text : Text)
    (compared : kind.compared = true) :
    state.take (.command kind taskId text) =
      (state.growChecked taskId fun ptask => ptask.add kind text).toOption := by
  obtain ⟨finished, ptask⟩ := state
  cases ptask with
  | none => rfl
  | some ptask =>
    by_cases same : taskId = ptask.taskId
    · simp [BuildState.take, BuildState.growChecked, same, Except.toOption]
    · simp [BuildState.take, BuildState.growChecked, compared, same, Except.toOption]

/-- What may fault and then goes on, and what may fail and then goes on. -/
theorem then_iff {step : Except Fault BuildState} {after : BuildState → Except Fault BuildState}
    {other : BuildState → Option BuildState} {final : BuildState}
    (ih : ∀ state, after state = .ok final ↔ other state = some final) :
    (match step with
      | .error fault => .error fault
      | .ok state => after state) = Except.ok final ↔
    (match step.toOption with
      | none => none
      | some state => other state) = some final := by
  cases step with
  | error fault => simp [Except.toOption]
  | ok state => exact ih state

end Assembly

/-- The loop lists the instructions and assembles them.

The induction is on the listing. Where it ends at a malformed control line the
loop raises a fault, and elsewhere both take one instruction and go on. -/
theorem buildLoop_scan (pending : Option (Int32 × Text)) (state : BuildState) (lines : List Text)
    (final : BuildState) :
    buildLoop (pending.map Prod.snd) state lines = .ok final ↔
      assemble state (scan pending lines) = some final := by
  fun_induction scan pending lines generalizing state with
  | case1 => simp [buildLoop, assemble]
  | case2 => simp [buildLoop, assemble_malformed]
  | case3 taskId collected raw rest line stops ih =>
    rw [Option.map_some, buildLoop, assemble, take_uncompared _ _ _ _ rfl]
    simp only [line] at stops
    simp only [stops, if_true]
    exact then_iff ih
  | case4 taskId collected raw rest line unstopped starts =>
    simp only [line] at unstopped starts
    simp [buildLoop, unstopped, starts, assemble_malformed]
  | case5 taskId collected raw rest line unstopped plain ih =>
    rw [Option.map_some, buildLoop]
    simp only [line] at unstopped plain
    simp only [unstopped, plain]
    exact ih state
  | case6 raw rest line starts unread =>
    obtain ⟨fault, failed⟩ := buildLoop_unread state rest raw starts unread
    simp [failed, assemble_malformed]
  | case7 raw line starts taskId info read =>
    rw [Option.map_none, buildLoop_control state taskId [] raw START info starts read]
    simp [assemble_malformed]
  | case8 raw line starts taskId info landMark rest read ih =>
    rw [Option.map_none, buildLoop_control state taskId _ raw START info starts read, if_pos rfl]
    exact ih _
  | case9 raw rest line starts taskId info read other ih =>
    rw [Option.map_none, buildLoop_control state taskId rest raw APPPEND_START info starts read,
      if_neg other, if_pos rfl]
    exact ih state
  | case10 raw rest line starts taskId other another read =>
    rw [Option.map_none, buildLoop_control state taskId rest raw SKIP_UNTIL_PASS none starts read,
      if_neg other, if_neg another, if_neg (by decide), if_pos rfl]
    simp [assemble_malformed]
  | case11 raw rest line starts taskId text other another read ih =>
    rw [Option.map_none, buildLoop_control state taskId rest raw SKIP_UNTIL_PASS _ starts read,
      if_neg other, if_neg another, if_neg (by decide), if_pos rfl, assemble,
      take_uncompared _ _ _ _ rfl]
    exact then_iff ih
  | case12 raw rest line starts name taskId info read start append skip unknown =>
    rw [Option.map_none, buildLoop_control state taskId rest raw name info starts read,
      operandCommand_eq, unknown]
    simp [start, append, skip, assemble_malformed]
  | case13 raw line starts name taskId info read start append skip kind named =>
    rw [Option.map_none, buildLoop_control state taskId [] raw name info starts read,
      operandCommand_eq, named]
    simp [start, append, skip, operandKind_stop named, assemble_malformed]
  | case14 raw line starts name taskId info read start append skip kind named text rest ih =>
    rw [Option.map_none, buildLoop_control state taskId _ raw name info starts read,
      operandCommand_eq, named, if_neg start, if_neg append, if_neg (operandKind_stop named),
      if_neg skip, assemble, take_compared _ _ _ _ (operandKind_compared named)]
    exact then_iff ih
  | case15 raw rest line plain ih =>
    rw [Option.map_none, buildLoop]
    simp only [line] at plain
    simp only [plain]
    exact ih state

end CefBridge.Patcher
