import CefBridge.Patcher.Reader

/-!
# What the reader makes of printed control lines

One law for each form in which a command stands in a file. It says what the loop
of `buildPatchFile` does at the form, whatever lines follow, so that printed
patches and patched files can be read piece by piece. Lines that are no command
are passed over.

All forms begin at the left margin, as they are printed. Operands and the lines
of an append body may have margins.

`Reads` lists once what the loop can do with a file that it accepts. What holds
of every patch that was read is proved by induction on it.
-/

namespace CefBridge.Patcher

open Library

/-- A command name: it starts with the command prefix and has no space. -/
def CommandName (name : Text) : Prop := CMD_PREFIX <+: name ∧ ' ' ∉ name

instance (name : Text) : Decidable (CommandName name) := inferInstanceAs (Decidable (_ ∧ _))

/-- After its margin, the line does not start with the command prefix. -/
def Plain (line : Text) : Prop := ¬ CMD_PREFIX <+: trimStart line

instance (line : Text) : Decidable (Plain line) := inferInstanceAs (Decidable (¬ _))

/-- The name, the id and the rest of a control line. -/
def readControl (line : Text) : Option (Text × Int32 × Option Text) :=
  let cmdline := line.takeWhile (· != ' ')
  if cmdline = line then none
  else
    match getTaskId line (cmdline.length + 1) with
    | .error _ => none
    | .ok (taskId, additionalInfo) => some (cmdline, taskId, additionalInfo)

section Names

/-- What is read from a control line. -/
theorem readControl_some {line name : Text} {taskId : Int32} {additionalInfo : Option Text}
    (read : readControl line = some (name, taskId, additionalInfo)) :
    line.takeWhile (· != ' ') = name ∧ name ≠ line ∧
      getTaskId line (name.length + 1) = .ok (taskId, additionalInfo) := by
  simp only [readControl] at read
  split at read
  · cases read
  · rename_i shorter
    split at read
    · cases read
    · rename_i id
      cases read
      exact ⟨rfl, shorter, id⟩

/-- A line that starts with a command name has no margin. -/
theorem command_flush (line : Text) (command : CMD_PREFIX <+: line) : trimStart line = line := by
  obtain ⟨rest, rfl⟩ := command
  exact Trimming.trimStart_solid '/' _ (by decide)

theorem command_starts (name suffix : Text) (command : CommandName name) :
    CMD_PREFIX <+: name ++ ' ' :: suffix :=
  command.1.trans (List.prefix_append name (' ' :: suffix))

theorem takeWhile_name (name suffix : Text) (command : CommandName name) :
    (name ++ ' ' :: suffix).takeWhile (· != ' ') = name := by
  have solid : ∀ symbol ∈ name, (symbol != ' ') = true := by
    intro symbol member
    have different : symbol ≠ ' ' := fun same => command.2 (same ▸ member)
    simpa using different
  rw [List.takeWhile_append_of_pos solid]
  simp

/-- A printed id has no space. -/
theorem printInt_unspaced (taskId : Int32) :
    ∀ symbol ∈ printInt taskId, (symbol != ' ') = true := by
  intro symbol member
  have solid := printInt_solid taskId symbol member
  have different : symbol ≠ ' ' := by
    rintro rfl
    exact absurd solid (by decide)
  simpa using different

theorem trim_printInt (taskId : Int32) : trim (printInt taskId) = printInt taskId := by
  have solid := printInt_solid taskId
  apply Trimming.bare_of_ends
  · exact List.dropWhile_eq_self_iff.mpr fun shown => by simp [solid]
  · exact List.rdropWhile_eq_self_iff.mpr fun shown => by simp [solid]

/-- A command name, a space and an id are read as a control line. -/
theorem readControl_name (name suffix : Text) (command : CommandName name) (taskId : Int32)
    (additionalInfo : Option Text)
    (read : getTaskId (name ++ ' ' :: suffix) (name.length + 1) = .ok (taskId, additionalInfo)) :
    startsWith (trimStart (name ++ ' ' :: suffix)) CMD_PREFIX = true ∧
      readControl (trimStart (name ++ ' ' :: suffix)) = some (name, taskId, additionalInfo) := by
  have starts := command_starts name suffix command
  have shorter : name ≠ name ++ ' ' :: suffix := by
    intro same
    have lengths := congrArg List.length same
    simp at lengths
  rw [command_flush _ starts]
  refine ⟨(startsWith_iff _ _).mpr starts, ?_⟩
  simp only [readControl, takeWhile_name name suffix command, shorter, if_false, read]

/-- The id of a control line that holds nothing more. -/
theorem getTaskId_bare (name : Text) (taskId : Int32) :
    getTaskId (name ++ ' ' :: printInt taskId) (name.length + 1) = .ok (taskId, none) := by
  have dropped : (name ++ ' ' :: printInt taskId).drop (name.length + 1) = printInt taskId := by
    rw [List.drop_append]
    simp
  have unspaced := printInt_unspaced taskId
  have rest : (printInt taskId).dropWhile (· != ' ') = [] := List.dropWhile_eq_nil_iff.mpr unspaced
  simp only [getTaskId, dropped, rest, trim_printInt, parseInt_printInt]
  rfl

/-- The id of a control line that goes on, and the rest of the line. -/
theorem getTaskId_more (name : Text) (taskId : Int32) (text : Text) :
    getTaskId (name ++ ' ' :: (printInt taskId ++ ' ' :: text)) (name.length + 1) =
      .ok (taskId, some (trim (' ' :: text))) := by
  have dropped : (name ++ ' ' :: (printInt taskId ++ ' ' :: text)).drop (name.length + 1) =
      printInt taskId ++ ' ' :: text := by
    rw [List.drop_append]
    simp
  have unspaced := printInt_unspaced taskId
  have first : (printInt taskId ++ ' ' :: text).takeWhile (· != ' ') = printInt taskId := by
    rw [List.takeWhile_append_of_pos unspaced]
    simp
  have rest : (printInt taskId ++ ' ' :: text).dropWhile (· != ' ') = ' ' :: text := by
    rw [List.dropWhile_append_of_pos unspaced]
    simp
  simp only [getTaskId, dropped, first, rest, trim_printInt, parseInt_printInt]
  rfl

theorem trim_space (text : Text) : trim (' ' :: text) = trim text := by
  rw [trim, Trimming.trim, Trimming.trimStart_blank ' ' text (by decide)]
  rfl

end Names

section Lines

variable (state : BuildState) (finished : List PatchTask) (ptask : PatchTask) (taskId : Int32)
  (rest : List Text)

/-- Lines that are no command are passed over. -/
theorem buildLoop_plain (plain : List Text) (noCommand : ∀ line ∈ plain, Plain line) :
    buildLoop none state (plain ++ rest) = buildLoop none state rest := by
  induction plain with
  | nil => rfl
  | cons line plain ih =>
    have passed : startsWith (trimStart line) CMD_PREFIX = false := by
      rw [← Bool.not_eq_true, startsWith_iff]
      exact noCommand line (by simp)
    rw [List.cons_append, buildLoop]
    simp only [passed, Bool.false_eq_true, if_false]
    exact ih fun other member => noCommand other (by simp [member])

/-- What the loop does at a control line depends on the command name. -/
theorem buildLoop_control (raw name : Text) (additionalInfo : Option Text)
    (starts : startsWith (trimStart raw) CMD_PREFIX = true) :
    readControl (trimStart raw) = some (name, taskId, additionalInfo) →
    buildLoop none state (raw :: rest) =
      if name = START then
        match rest with
        | [] => .error .argumentOutOfRange
        | cmdValue :: rest => buildLoop none (state.start cmdValue taskId) rest
      else if name = APPPEND_START then buildLoop (some []) state rest
      else if name = APPPEND_STOP then .error (.notSupported none)
      else if name = SKIP_UNTIL_PASS then
        match additionalInfo with
        | none => .error (.notSupported none)
        | some text =>
          match state.grow fun ptask => ptask.skipUntilPass text with
          | .error fault => .error fault
          | .ok state => buildLoop none state rest
      else
        match operandCommand name with
        | none => .error (.notSupported none)
        | some add =>
          match rest with
          | [] => .error .argumentOutOfRange
          | cmdValue :: rest =>
            match state.growChecked taskId fun ptask => add ptask cmdValue with
            | .error fault => .error fault
            | .ok state => buildLoop none state rest := by
  intro read
  obtain ⟨named, shorter, id⟩ := readControl_some read
  subst named
  -- The sides differ in the names of their matches, so the goal itself is not rewritten.
  have unfolded : buildLoop none state (raw :: rest) = buildLoop none state (raw :: rest) := rfl
  conv_rhs at unfolded => rw [buildLoop]
  simp only [starts, if_true, shorter, if_false, id] at unfolded
  exact unfolded

/-- A control line that cannot be read is a fault. -/
theorem buildLoop_unread (raw : Text) (starts : startsWith (trimStart raw) CMD_PREFIX = true)
    (unread : readControl (trimStart raw) = none) :
    ∃ fault, buildLoop none state (raw :: rest) = .error fault := by
  rw [buildLoop]
  simp only [starts, if_true]
  by_cases whole : (trimStart raw).takeWhile (· != ' ') = trimStart raw
  · rw [if_pos whole]
    exact ⟨_, rfl⟩
  · rw [if_neg whole]
    cases id : getTaskId (trimStart raw) (((trimStart raw).takeWhile (· != ' ')).length + 1) with
    | error fault => exact ⟨fault, rfl⟩
    | ok value => simp [readControl, whole, id] at unread

/-- A start line and the line after it start a task. -/
theorem buildLoop_start (landMark : Text) :
    buildLoop none state ((START ++ ' ' :: printInt taskId) :: landMark :: rest) =
      buildLoop none (state.start landMark taskId) rest := by
  obtain ⟨starts, read⟩ :=
    readControl_name START _ (by decide) taskId none (getTaskId_bare START taskId)
  rw [buildLoop_control state taskId _ _ START none starts read, if_pos rfl]

/-- A command with an operand on the next line, under the id of the current task. -/
theorem buildLoop_operand (name operand : Text) (command : CommandName name)
    (add : PatchTask → Text → PatchTask) (adds : operandCommand name = some add)
    (starts : name ≠ START) (appends : name ≠ APPPEND_START) (stops : name ≠ APPPEND_STOP)
    (skips : name ≠ SKIP_UNTIL_PASS) :
    buildLoop none ⟨finished, some ptask⟩ (controlLine false name ptask.taskId :: operand :: rest) =
      buildLoop none ⟨finished, some (add ptask operand)⟩ rest := by
  have line : controlLine false name ptask.taskId = name ++ ' ' :: printInt ptask.taskId := rfl
  obtain ⟨begins, read⟩ :=
    readControl_name name _ command ptask.taskId none (getTaskId_bare name ptask.taskId)
  rw [line, buildLoop_control _ ptask.taskId _ _ name none begins read, if_neg starts,
    if_neg appends, if_neg stops, if_neg skips, adds]
  simp [BuildState.growChecked]

theorem buildLoop_findNext (operand : Text) :
    buildLoop none ⟨finished, some ptask⟩
        (controlLine false FIND_NEXT_LANDMARK ptask.taskId :: operand :: rest) =
      buildLoop none ⟨finished, some (ptask.findNext operand)⟩ rest :=
  buildLoop_operand finished ptask rest FIND_NEXT_LANDMARK operand (by decide) PatchTask.findNext
    rfl (by decide) (by decide) (by decide) (by decide)

theorem buildLoop_followBy (operand : Text) :
    buildLoop none ⟨finished, some ptask⟩
        (controlLine false FOLLOW_BY ptask.taskId :: operand :: rest) =
      buildLoop none ⟨finished, some (ptask.followBy operand)⟩ rest :=
  buildLoop_operand finished ptask rest FOLLOW_BY operand (by decide) PatchTask.followBy
    rfl (by decide) (by decide) (by decide) (by decide)

theorem buildLoop_skipUntilAndAccept (operand : Text) :
    buildLoop none ⟨finished, some ptask⟩
        (controlLine false SKIP_UNTIL_AND_ACCEPT ptask.taskId :: operand :: rest) =
      buildLoop none ⟨finished, some (ptask.skipUntilAndAccept operand)⟩ rest :=
  buildLoop_operand finished ptask rest SKIP_UNTIL_AND_ACCEPT operand (by decide)
    PatchTask.skipUntilAndAccept rfl (by decide) (by decide) (by decide) (by decide)

/-- The text of a skip-past command is the rest of its own line. Its id is not
compared with the task's. -/
theorem buildLoop_skipUntilPass (text : Text) :
    buildLoop none ⟨finished, some ptask⟩
        ((controlLine false SKIP_UNTIL_PASS taskId ++ ' ' :: text) :: rest) =
      buildLoop none ⟨finished, some (ptask.skipUntilPass text)⟩ rest := by
  have line : controlLine false SKIP_UNTIL_PASS taskId ++ ' ' :: text =
      SKIP_UNTIL_PASS ++ ' ' :: (printInt taskId ++ ' ' :: text) := by
    simp [controlLine, perfixComment]
  have same : ptask.skipUntilPass (trim (' ' :: text)) = ptask.skipUntilPass text := by
    have trimmed : trim (trim (' ' :: text)) = trim text := by
      rw [trim_space]
      exact Trimming.trim_trim text
    simp only [PatchTask.skipUntilPass, PatchTask.add, PatchCommand.new, trimmed]
  obtain ⟨starts, read⟩ := readControl_name SKIP_UNTIL_PASS _ (by decide) taskId _
    (getTaskId_more SKIP_UNTIL_PASS taskId text)
  rw [line, buildLoop_control _ taskId _ _ SKIP_UNTIL_PASS _ starts read, if_neg (by decide),
    if_neg (by decide), if_neg (by decide), if_pos rfl]
  simp only [BuildState.grow, same]

/-- The body of an append command is collected up to its stop line. -/
theorem buildLoop_body (collected : Text) (body : List Text)
    (noCommand : ∀ line ∈ body, Plain line) :
    buildLoop (some collected) ⟨finished, some ptask⟩ (body ++ APPPEND_STOP :: rest) =
      buildLoop none
        ⟨finished, some (ptask.append (collected ++ LineText.writeLines (body.map trimStart)))⟩
        rest := by
  induction body generalizing collected with
  | nil =>
    have flush : trimStart APPPEND_STOP = APPPEND_STOP := command_flush _ (by decide)
    have stops : startsWith APPPEND_STOP APPPEND_STOP = true := by decide
    rw [List.nil_append, buildLoop]
    simp [flush, stops, BuildState.grow]
  | cons line body ih =>
    have plain : ¬ CMD_PREFIX <+: trimStart line := noCommand line (by simp)
    have passed : startsWith (trimStart line) CMD_PREFIX = false := by
      rw [← Bool.not_eq_true, startsWith_iff]
      exact plain
    have unstopped : startsWith (trimStart line) APPPEND_STOP = false := by
      rw [← Bool.not_eq_true, startsWith_iff]
      intro stop
      have command : CMD_PREFIX <+: APPPEND_STOP := by decide
      exact plain (command.trans stop)
    rw [List.cons_append, buildLoop]
    simp only [unstopped, passed, Bool.false_eq_true, if_false]
    rw [ih _ fun other member => noCommand other (by simp [member])]
    simp

/-- An append block. Its id is not compared with the task's. -/
theorem buildLoop_append (body : List Text) (noCommand : ∀ line ∈ body, Plain line) :
    buildLoop none ⟨finished, some ptask⟩
        (controlLine false APPPEND_START taskId :: body ++ APPPEND_STOP :: rest) =
      buildLoop none
        ⟨finished, some (ptask.append (LineText.writeLines (body.map trimStart)))⟩ rest := by
  have line : controlLine false APPPEND_START taskId =
      APPPEND_START ++ ' ' :: printInt taskId := rfl
  obtain ⟨starts, read⟩ :=
    readControl_name APPPEND_START _ (by decide) taskId none (getTaskId_bare APPPEND_START taskId)
  rw [line, List.cons_append, buildLoop_control _ taskId _ _ APPPEND_START none starts read,
    if_neg (by decide), if_pos rfl, buildLoop_body finished ptask rest [] body noCommand, List.nil_append]

end Lines

/-- Tasks added one after another, the last one still open. -/
def BuildState.startAll (state : BuildState) (tasks : List PatchTask) : BuildState :=
  tasks.foldl (fun state task => ⟨state.tasks, some task⟩) state

theorem startAll_cons (state : BuildState) (task : PatchTask) (tasks : List PatchTask) :
    state.startAll (task :: tasks) = BuildState.startAll ⟨state.tasks, some task⟩ tasks := rfl

theorem startAll_tasks (state : BuildState) (tasks : List PatchTask) :
    (state.startAll tasks).tasks = state.tasks ++ tasks := by
  induction tasks generalizing state with
  | nil => simp [BuildState.startAll]
  | cons task tasks ih =>
    rw [startAll_cons, ih]
    simp [BuildState.tasks]

theorem startAll_last (state : BuildState) (tasks : List PatchTask) (task : PatchTask) :
    state.startAll (tasks ++ [task]) = ⟨state.tasks ++ tasks, some task⟩ := by
  have whole : (state.startAll tasks).tasks = state.tasks ++ tasks := startAll_tasks state tasks
  rw [← whole, BuildState.startAll, List.foldl_append]
  rfl

section Accepted

/-- A line that the loop takes for a control line. -/
structure ControlLine (raw name : Text) (taskId : Int32) (additionalInfo : Option Text) :
    Prop where
  command : CMD_PREFIX <+: trimStart raw
  named : (trimStart raw).takeWhile (· != ' ') = name
  more : name ≠ trimStart raw
  read : getTaskId (trimStart raw) (name.length + 1) = .ok (taskId, additionalInfo)

/-- What the loop does with the lines of a file that it accepts. The first
argument is present while the body of an append command is collected. -/
inductive Reads : Option Text → BuildState → List Text → BuildState → Prop where
  | done (state : BuildState) : Reads none state [] state
  | pass (state final : BuildState) (raw : Text) (rest : List Text) (plain : Plain raw)
      (remaining : Reads none state rest final) : Reads none state (raw :: rest) final
  | start (state final : BuildState) (raw cmdValue : Text) (rest : List Text) (taskId : Int32)
      (info : Option Text) (control : ControlLine raw START taskId info)
      (remaining : Reads none (state.start cmdValue taskId) rest final) :
      Reads none state (raw :: cmdValue :: rest) final
  | openAppend (state final : BuildState) (raw : Text) (rest : List Text) (taskId : Int32)
      (info : Option Text) (control : ControlLine raw APPPEND_START taskId info)
      (remaining : Reads (some []) state rest final) : Reads none state (raw :: rest) final
  | skip (finished : List PatchTask) (ptask : PatchTask) (final : BuildState) (raw text : Text)
      (rest : List Text) (taskId : Int32)
      (control : ControlLine raw SKIP_UNTIL_PASS taskId (some text))
      (remaining : Reads none ⟨finished, some (ptask.skipUntilPass text)⟩ rest final) :
      Reads none ⟨finished, some ptask⟩ (raw :: rest) final
  | operand (finished : List PatchTask) (ptask : PatchTask) (final : BuildState)
      (raw name cmdValue : Text) (rest : List Text) (info : Option Text)
      (add : PatchTask → Text → PatchTask) (control : ControlLine raw name ptask.taskId info)
      (adds : operandCommand name = some add)
      (remaining : Reads none ⟨finished, some (add ptask cmdValue)⟩ rest final) :
      Reads none ⟨finished, some ptask⟩ (raw :: cmdValue :: rest) final
  | collect (collected : Text) (state final : BuildState) (raw : Text) (rest : List Text)
      (plain : Plain raw)
      (remaining : Reads (some (collected ++ trimStart raw ++ LineText.newLine)) state rest final) :
      Reads (some collected) state (raw :: rest) final
  | close (collected : Text) (finished : List PatchTask) (ptask : PatchTask) (final : BuildState)
      (raw : Text) (rest : List Text) (stop : APPPEND_STOP <+: trimStart raw)
      (remaining : Reads none ⟨finished, some (ptask.append collected)⟩ rest final) :
      Reads (some collected) ⟨finished, some ptask⟩ (raw :: rest) final

theorem grow_ok {state grown : BuildState} {add : PatchTask → PatchTask}
    (done : state.grow add = .ok grown) :
    ∃ ptask, state = ⟨state.finished, some ptask⟩ ∧ grown = ⟨state.finished, some (add ptask)⟩ := by
  obtain ⟨finished, ptask⟩ := state
  cases ptask with
  | none => contradiction
  | some ptask =>
    cases done
    exact ⟨ptask, rfl, rfl⟩

theorem growChecked_ok {state grown : BuildState} {taskId : Int32} {add : PatchTask → PatchTask}
    (done : state.growChecked taskId add = .ok grown) :
    ∃ ptask, state = ⟨state.finished, some ptask⟩ ∧ taskId = ptask.taskId ∧
      grown = ⟨state.finished, some (add ptask)⟩ := by
  obtain ⟨finished, ptask⟩ := state
  cases ptask with
  | none => contradiction
  | some ptask =>
    by_cases same : taskId = ptask.taskId
    · simp only [BuildState.growChecked, same, ne_eq, not_true_eq_false, if_false,
        Except.ok.injEq] at done
      exact ⟨ptask, rfl, same, done.symm⟩
    · simp [BuildState.growChecked, same] at done

/-- The loop does nothing else. The remaining branches raise a fault. -/
theorem buildLoop_reads (collected : Option Text) (state : BuildState) (lines : List Text)
    (final : BuildState) (built : buildLoop collected state lines = .ok final) :
    Reads collected state lines final := by
  fun_induction buildLoop collected state lines with
  | case1 state =>
    cases built
    exact .done _
  | case4 collected state raw rest line stops grown grew ih =>
    obtain ⟨ptask, whole, rfl⟩ := grow_ok grew
    rw [whole]
    exact .close collected _ ptask final raw rest ((startsWith_iff _ _).mp stops) (ih built)
  | case6 collected state raw rest line unstopped passed ih =>
    exact .collect collected state final raw rest (mt (startsWith_iff _ _).mpr passed) (ih built)
  | case10 state raw line command cmdline more taskId info read named cmdValue rest ih =>
    have control : ControlLine raw START taskId info :=
      ⟨(startsWith_iff _ _).mp command, named, named ▸ more, named ▸ read⟩
    exact .start state final raw cmdValue rest taskId info control (ih built)
  | case11 state raw rest line command cmdline more taskId info read starts named ih =>
    have control : ControlLine raw APPPEND_START taskId info :=
      ⟨(startsWith_iff _ _).mp command, named, named ▸ more, named ▸ read⟩
    exact .openAppend state final raw rest taskId info control (ih built)
  | case15 state raw rest line command cmdline more taskId starts appends stops named text grown
      grew read ih =>
    obtain ⟨ptask, whole, rfl⟩ := grow_ok grew
    have control : ControlLine raw SKIP_UNTIL_PASS taskId (some text) :=
      ⟨(startsWith_iff _ _).mp command, named, named ▸ more, named ▸ read⟩
    rw [whole]
    exact .skip _ ptask final raw text rest taskId control (ih built)
  | case19 state raw line command cmdline more taskId info read starts appends stops skips add adds
      cmdValue rest grown grew ih =>
    obtain ⟨ptask, whole, rfl, rfl⟩ := growChecked_ok grew
    have control : ControlLine raw cmdline ptask.taskId info :=
      ⟨(startsWith_iff _ _).mp command, rfl, more, read⟩
    rw [whole]
    exact .operand _ ptask final raw cmdline cmdValue rest info add control adds (ih built)
  | case20 state raw rest line passed ih =>
    exact .pass state final raw rest (mt (startsWith_iff _ _).mpr passed) (ih built)
  | _ => cases built

/-- When a patch is read from the lines of a file. -/
theorem buildPatchLines_ok_iff (filename : Text) (lines : List Text) (patch : PatchFile) :
    buildPatchLines filename lines = .ok (some patch) ↔
      ∃ line rest finished ptask, lines = line :: rest ∧
        buildLoop none {} (readHeader filename line rest).2 = .ok ⟨finished, some ptask⟩ ∧
        ptask.commands ≠ [] ∧ patch = ⟨(readHeader filename line rest).1, finished ++ [ptask]⟩ := by
  constructor
  · intro built
    cases lines with
    | nil => contradiction
    | cons line rest =>
      simp only [buildPatchLines] at built
      cases loop : buildLoop none {} (readHeader filename line rest).2 with
      | error fault => simp [loop] at built
      | ok final =>
        obtain ⟨finished, ptask⟩ := final
        cases ptask with
        | none => simp [loop] at built
        | some ptask =>
          simp only [loop] at built
          split at built
          · rename_i shown
            cases built
            exact ⟨line, rest, finished, ptask, rfl, loop, List.ne_nil_of_length_pos shown, rfl⟩
          · cases built
  · rintro ⟨line, rest, finished, ptask, rfl, loop, shown, rfl⟩
    have length : ptask.commands.length > 0 := List.length_pos_of_ne_nil shown
    simp only [buildPatchLines, loop, length, if_true]
    rfl

theorem readHeader_named (filename name : Text) (rest : List Text) :
    readHeader filename (ORIGINAL ++ ' ' :: name) rest = (trim name, rest) := by
  have starts : startsWith (ORIGINAL ++ ' ' :: name) ORIGINAL = true :=
    (startsWith_iff _ _).mpr (List.prefix_append _ _)
  have name : trim (' ' :: name) = trim name := trim_space name
  simp only [readHeader, getOriginalFilename, starts, if_true, List.drop_left, name]

/-- The original file name is trimmed if the name of the file is. -/
theorem readHeader_trimmed (filename line : Text) (rest : List Text) (trimmed : Trimmed filename) :
    Trimmed (readHeader filename line rest).1 := by
  by_cases original : startsWith line ORIGINAL = true
  · simp only [readHeader, getOriginalFilename, original, if_true]
    exact Trimming.bare_trim _
  · simp only [readHeader, getOriginalFilename, original]
    exact trimmed

/-- What a header leaves are lines of the file. -/
theorem readHeader_lines (filename line : Text) (rest : List Text) (named : LineText.OneLine filename)
    (whole : ∀ other ∈ line :: rest, LineText.OneLine other) :
    LineText.OneLine (readHeader filename line rest).1 ∧
      ∀ other ∈ (readHeader filename line rest).2, LineText.OneLine other := by
  by_cases original : startsWith line ORIGINAL = true
  · simp only [readHeader, getOriginalFilename, original, if_true]
    constructor
    · apply (whole line List.mem_cons_self).of_subset
      intro symbol member
      exact List.mem_of_mem_drop (Trimming.mem_of_mem_trim member)
    · exact fun other member => whole other (List.mem_cons_of_mem line member)
  · simp only [readHeader, getOriginalFilename, original]
    exact ⟨named, whole⟩

end Accepted

end CefBridge.Patcher
