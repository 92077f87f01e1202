import CefBridge.Library.EditScript

/-!
# Laws of edit scripts

Four laws that hold of every script and every source.

*Accounting.* The marks of a pass read a beginning of its source, and what is
left is the end of the source. No line is lost, repeated or moved.

*Provenance.* An inserted line comes from the notes of a task or of one of its
edits. A script without skipping edits keeps every line that it reads. A task
that is carried out leaves the notes of each of its edits in one piece.

*Completion.* `Met` asks of each task that is reached that its landmark occurs
in what is left. It holds exactly when the script is refused or carried out in
full, so a pass that ends without either has lost a task.

*Insertion.* A line that no test of the script hits can be added anywhere except
directly before a line that is demanded at the cursor. The pass then performs
the same steps; its record gains one mark, which copies or skips the new line
at its own place.
-/

namespace Library.EditScript

universe u v w
variable {Line : Type u} {Note : Type v} {β : Type w}

section Accounting

theorem Edit.Run.accounts {edit : Edit Note Line} {source rest : List Line}
    {marks : List (Mark Note Line)} (run : edit.Run source marks rest) :
    source = reads marks ++ rest := by
  cases run <;> simp

/-- When every step accounts for what it reads, so do the steps together. -/
theorem Chain.accounts {Step : β → List Line → List (Mark Note Line) → List Line → Prop}
    (each : ∀ step source marks rest, Step step source marks rest → source = reads marks ++ rest)
    {steps : List β} {source rest : List Line} {marks : List (Mark Note Line)}
    (run : Chain Step steps source marks rest) : source = reads marks ++ rest := by
  induction run with
  | done source => rfl
  | step first _ ih => rw [each _ _ _ _ first, ih, reads_append, List.append_assoc]

theorem Task.Found.accounts {task : Task Note Line} {source rest : List Line}
    {marks : List (Mark Note Line)} (run : task.Found source marks rest) :
    source = reads marks ++ rest := by
  cases run with
  | found gap line middle rest later passed met edited =>
    have tail := edited.accounts fun _ _ _ _ => Edit.Run.accounts
    simp [← tail]

theorem Task.Run.accounts {task : Task Note Line} {source rest : List Line}
    {marks : List (Mark Note Line)} (run : task.Run source marks rest) :
    source = reads marks ++ rest := by
  cases run with
  | found carried => exact carried.accounts
  | missed passed => simp

end Accounting

section Provenance

/-- The lines that an edit inserts. -/
def Edit.notes : Edit Note Line → List (Note × Line)
  | .seek _ notes => notes
  | .follow _ notes => notes
  | .put notes => notes
  | .skipPast _ notes => notes
  | .skipTo _ notes => notes
  | .unsupported => []

/-- The edits that write every line they read. -/
def Edit.Retains : Edit Note Line → Prop
  | .skipPast _ _ => False
  | .skipTo _ _ => False
  | _ => True

theorem inserted_mem_stamp {notes : List (Note × Line)} {note : Note} {line : Line}
    (member : Mark.inserted note line ∈ stamp notes) : (note, line) ∈ notes := by
  obtain ⟨entry, entryMember, same⟩ := List.mem_map.mp member
  cases same
  exact entryMember

theorem Edit.Run.inserted {edit : Edit Note Line} {source rest : List Line}
    {marks : List (Mark Note Line)} (run : edit.Run source marks rest) {note : Note} {line : Line}
    (member : .inserted note line ∈ marks) : (note, line) ∈ edit.notes := by
  apply inserted_mem_stamp
  cases run <;> simpa [Edit.notes] using member

theorem Chain.inserted {edits : List (Edit Note Line)} {source rest : List Line}
    {marks : List (Mark Note Line)} (run : Chain Edit.Run edits source marks rest) {note : Note}
    {line : Line} (member : .inserted note line ∈ marks) :
    ∃ edit ∈ edits, (note, line) ∈ edit.notes := by
  induction run with
  | done source => simp at member
  | step first remaining ih =>
    cases List.mem_append.mp member with
    | inl early => exact ⟨_, by simp, first.inserted early⟩
    | inr late =>
      obtain ⟨edit, among, noted⟩ := ih late
      exact ⟨edit, by simp [among], noted⟩

theorem Task.Found.inserted {task : Task Note Line} {source rest : List Line}
    {marks : List (Mark Note Line)} (run : task.Found source marks rest) {note : Note} {line : Line}
    (member : .inserted note line ∈ marks) :
    (note, line) ∈ task.notes ∨ ∃ edit ∈ task.edits, (note, line) ∈ edit.notes := by
  cases run with
  | found gap landmark middle rest later passed met edited =>
    simp only [List.mem_append, List.mem_cons, List.mem_map, reduceCtorEq, and_false,
      exists_false, false_or] at member
    cases member with
    | inl own => exact Or.inl (inserted_mem_stamp own)
    | inr edits => exact Or.inr (edited.inserted edits)

/-- An inserted line of a script comes from a task that was carried out. -/
theorem tasks_inserted {tasks : List (Task Note Line)} {source rest : List Line}
    {marks : List (Mark Note Line)} (run : Chain Task.Run tasks source marks rest) {note : Note}
    {line : Line} (member : .inserted note line ∈ marks) :
    ∃ task ∈ tasks, (∃ part piece after, task.Found part piece after ∧ piece <:+: marks) ∧
      ((note, line) ∈ task.notes ∨ ∃ edit ∈ task.edits, (note, line) ∈ edit.notes) := by
  induction run with
  | done source => simp at member
  | step first remaining ih =>
    cases List.mem_append.mp member with
    | inl early =>
      cases first with
      | missed passed => simp at early
      | found carried =>
        refine ⟨_, by simp, ⟨_, _, _, carried, ?_⟩, carried.inserted early⟩
        exact (List.prefix_append _ _).isInfix
    | inr late =>
      obtain ⟨task, among, ⟨part, piece, after, carried, within⟩, noted⟩ := ih late
      refine ⟨task, by simp [among], ⟨part, piece, after, carried, ?_⟩, noted⟩
      exact within.trans (List.suffix_append _ _).isInfix

theorem Edit.Run.retained {edit : Edit Note Line} {source rest : List Line}
    {marks : List (Mark Note Line)} (run : edit.Run source marks rest) (retains : edit.Retains) :
    keeps marks = reads marks := by
  cases run with
  | seek hit notes gap found rest passed met => simp
  | follow hit notes line rest met => simp
  | put notes source => simp
  | skipPast hit notes gap found rest passed met => exact retains.elim
  | skipTo hit notes gap found rest passed met => exact retains.elim

/-- When every step keeps what it reads, so do the steps together. -/
theorem Chain.retained {Step : β → List Line → List (Mark Note Line) → List Line → Prop}
    {steps : List β}
    (each : ∀ step ∈ steps, ∀ source marks rest, Step step source marks rest →
      keeps marks = reads marks)
    {source rest : List Line} {marks : List (Mark Note Line)}
    (run : Chain Step steps source marks rest) : keeps marks = reads marks := by
  induction run with
  | done source => rfl
  | step first remaining ih =>
    rw [keeps_append, reads_append, each _ (by simp) _ _ _ first,
      ih fun step member => each step (by simp [member])]

theorem Task.Run.retained {task : Task Note Line} {source rest : List Line}
    {marks : List (Mark Note Line)} (run : task.Run source marks rest)
    (retains : ∀ edit ∈ task.edits, edit.Retains) : keeps marks = reads marks := by
  cases run with
  | missed passed => simp
  | found carried =>
    cases carried with
    | found gap line middle rest later passed met edited =>
      have tail := edited.retained fun edit member _ _ _ run => run.retained (retains edit member)
      simp [tail]

/-- A performed edit leaves its notes in one piece. -/
theorem Edit.Run.stamped {edit : Edit Note Line} {source rest : List Line}
    {marks : List (Mark Note Line)} (run : edit.Run source marks rest) :
    stamp edit.notes <:+: marks := by
  cases run with
  | seek hit notes gap found rest passed met => exact ⟨gap.map .copied, [.copied found], rfl⟩
  | follow hit notes line rest met => exact ⟨[], [.followed line], rfl⟩
  | put notes source => exact List.infix_rfl
  | skipPast hit notes gap found rest passed met => exact ⟨gap.map .skipped, [.skipped found], rfl⟩
  | skipTo hit notes gap found rest passed met => exact ⟨gap.map .skipped, [.copied found], rfl⟩

/-- What each step leaves in one piece, the steps together leave in one piece. -/
theorem Chain.stamped {Step : β → List Line → List (Mark Note Line) → List Line → Prop}
    {steps : List β} {step : β} {piece : List (Mark Note Line)}
    (each : ∀ source marks rest, Step step source marks rest → piece <:+: marks)
    {source rest : List Line} {marks : List (Mark Note Line)}
    (run : Chain Step steps source marks rest) (member : step ∈ steps) : piece <:+: marks := by
  induction run with
  | done source => simp at member
  | step first remaining ih =>
    cases List.mem_cons.mp member with
    | inl same =>
      subst same
      exact (each _ _ _ first).trans (List.prefix_append _ _).isInfix
    | inr later => exact (ih later).trans (List.suffix_append _ _).isInfix

/-- A carried-out task leaves the notes of each of its edits in one piece. -/
theorem Task.Found.stamped {task : Task Note Line} {source rest : List Line}
    {marks : List (Mark Note Line)} (run : task.Found source marks rest) {edit : Edit Note Line}
    (member : edit ∈ task.edits) : stamp edit.notes <:+: marks := by
  cases run with
  | found gap line middle rest later passed met edited =>
    apply (edited.stamped (fun _ _ _ => Edit.Run.stamped) member).trans
    exact ((List.suffix_cons _ _).trans (List.suffix_append _ _)).isInfix

end Provenance

section Completion

/-- Steps that are carried out are performed, whatever the weaker rule. -/
theorem Chain.mono {Strong Weak : β → List Line → List (Mark Note Line) → List Line → Prop}
    (weaken : ∀ step source marks rest, Strong step source marks rest → Weak step source marks rest)
    {steps : List β} {source rest : List Line} {marks : List (Mark Note Line)}
    (run : Chain Strong steps source marks rest) : Chain Weak steps source marks rest := by
  induction run with
  | done source => exact .done source
  | step first _ ih => exact .step (weaken _ _ _ _ first) ih

/-- A task that is carried out leaves what its execution leaves. -/
theorem Task.Found.unique {task : Task Note Line} {source rest last : List Line}
    {marks others : List (Mark Note Line)} (run : task.Found source marks rest)
    (performed : task.exec source = .ok (others, last)) : marks = others ∧ rest = last := by
  have exactly := (Task.exec_ok_iff task source marks rest).mpr (.found run)
  simpa using exactly.symm.trans performed

/-- Nothing is left to hit in an empty source, so every task misses. -/
theorem chain_exec_nil (tasks : List (Task Note Line)) :
    chain Task.exec tasks [] = .ok ([], []) := by
  induction tasks with
  | nil => rfl
  | cons task tasks ih =>
    have first : task.exec [] = .ok ([], []) := rfl
    simp only [chain, first, ih, bind, Except.bind, List.append_nil]

/-- Every task that is reached has its landmark in what is left. A task is
reached when all tasks before it were carried out. -/
def Met : List (Task Note Line) → List Line → Prop
  | [], _ => True
  | task :: tasks, source =>
    (∃ line ∈ source, task.hit line = true) ∧
      ∀ marks rest, task.Found source marks rest → Met tasks rest

/-- Every landmark that is reached is met exactly when the script is refused or
carried out in full.

Induct over the tasks. A refusal or a carried-out script settles the first
landmark; after a carried-out first task the remaining tasks see what it left,
which is determined. A missed landmark leaves nothing, after which no later
task can be refused or carried out. -/
theorem met_iff (tasks : List (Task Note Line)) (source : List Line) :
    Met tasks source ↔
      (∃ refusal, chain Task.exec tasks source = .error refusal) ∨
        ∃ marks rest, Chain Task.Found tasks source marks rest := by
  induction tasks generalizing source with
  | nil => exact ⟨fun _ => Or.inr ⟨[], source, .done source⟩, fun _ => trivial⟩
  | cons task tasks ih =>
    constructor
    · rintro ⟨⟨line, member, hit⟩, later⟩
      cases performed : task.exec source with
      | error refusal =>
        exact Or.inl ⟨refusal, by simp [chain, performed, bind, Except.bind]⟩
      | ok result =>
        obtain ⟨marks, rest⟩ := result
        cases (Task.exec_ok_iff task source marks rest).mp performed with
        | missed passed => simp [passed line member] at hit
        | found carried =>
          cases (ih rest).mp (later marks rest carried) with
          | inl refused =>
            obtain ⟨refusal, remaining⟩ := refused
            exact Or.inl ⟨refusal, by simp [chain, performed, remaining, bind, Except.bind]⟩
          | inr carriedOut =>
            obtain ⟨back, last, remaining⟩ := carriedOut
            exact Or.inr ⟨marks ++ back, last, .step carried remaining⟩
    · rintro (⟨refusal, refused⟩ | ⟨marks, rest, carriedOut⟩)
      · cases performed : task.exec source with
        | error other =>
          cases split : splitAtFirst task.hit source with
          | none => simp [Task.exec, split] at performed
          | some parts =>
            obtain ⟨gap, line, after⟩ := parts
            obtain ⟨whole, _, hit⟩ := (splitAtFirst_some_iff task.hit source gap line after).mp split
            refine ⟨⟨line, by simp [whole], hit⟩, ?_⟩
            intro marks rest carried
            have exactly := (Task.exec_ok_iff task source marks rest).mpr (.found carried)
            rw [performed] at exactly
            contradiction
        | ok result =>
          obtain ⟨marks, rest⟩ := result
          simp only [chain, performed, bind, Except.bind] at refused
          cases remaining : chain Task.exec tasks rest with
          | ok later => simp [remaining] at refused
          | error other =>
            cases (Task.exec_ok_iff task source marks rest).mp performed with
            | missed passed => simp [chain_exec_nil] at remaining
            | found carried =>
              have hit : ∃ line ∈ source, task.hit line = true := by
                cases carried with
                | found gap line middle rest later passed met edited =>
                  exact ⟨line, by simp, met⟩
              refine ⟨hit, ?_⟩
              intro others last again
              obtain ⟨_, rfl⟩ := again.unique performed
              exact (ih last).mpr (Or.inl ⟨other, remaining⟩)
      · cases carriedOut with
        | step carried remaining =>
          have hit : ∃ line ∈ source, task.hit line = true := by
            cases carried with
            | found gap line middle rest later passed met edited => exact ⟨line, by simp, met⟩
          refine ⟨hit, ?_⟩
          intro others last again
          obtain ⟨_, rfl⟩ := again.unique ((Task.exec_ok_iff task source _ _).mpr (.found carried))
          exact (ih last).mpr (Or.inr ⟨_, _, remaining⟩)

end Completion

section Insertion

/-- How a step that took `marks` from `front ++ back` takes the line `extra`
added between them: it reads past the new line and leaves one more mark there,
or it stops before it. -/
inductive Absorbs (Step : List Line → List (Mark Note Line) → List Line → Prop)
    (front back : List Line) (extra : Line) (marks : List (Mark Note Line)) (rest : List Line) :
    Prop where
  | passed (before after : List (Mark Note Line)) (mark : Mark Note Line)
      (split : marks = before ++ after) (place : reads before = front)
      (kind : mark = .copied extra ∨ mark = .skipped extra)
      (run : Step (front ++ extra :: back) (before ++ mark :: after) rest)
  | ahead (remaining : List Line) (left : rest = remaining ++ back)
      (place : reads marks ++ remaining = front)
      (run : Step (front ++ extra :: back) marks (remaining ++ extra :: back))

/-- No demanded line stands directly after `front`. -/
def Undemanded (front : List Line) (marks : List (Mark Note Line)) : Prop :=
  ∀ before line after, marks = before ++ .followed line :: after → reads before ≠ front

/-- The tests of an edit do not hit a line. -/
def Edit.Misses (extra : Line) : Edit Note Line → Prop
  | .seek hit _ => hit extra = false
  | .follow hit _ => hit extra = false
  | .put _ => True
  | .skipPast hit _ => hit extra = false
  | .skipTo hit _ => hit extra = false
  | .unsupported => True

/-- Where a line is added to the lines around a hit: inside the gap before the
hit, or after the hit. -/
theorem added_line (front back gap rest : List Line) (found : Line)
    (split : front ++ back = gap ++ found :: rest) :
    (∃ inner, gap = front ++ inner ∧ back = inner ++ found :: rest) ∨
      ∃ inner, front = gap ++ found :: inner ∧ rest = inner ++ back := by
  rcases List.append_eq_append_iff.mp split with ⟨inner, rfl, rfl⟩ | ⟨inner, rfl, tail⟩
  · exact Or.inl ⟨inner, rfl, rfl⟩
  · cases inner with
    | nil => exact Or.inl ⟨[], by simp, by simpa using tail.symm⟩
    | cons first inner =>
      obtain ⟨rfl, rfl⟩ := List.cons.inj tail
      exact Or.inr ⟨inner, rfl, rfl⟩

theorem passed_with {hit : Line → Bool} {extra : Line} (front back : List Line)
    (passed : ∀ line ∈ front ++ back, hit line = false) (miss : hit extra = false) :
    ∀ line ∈ front ++ extra :: back, hit line = false := by
  intro line member
  cases List.mem_append.mp member with
  | inl early => exact passed line (by simp [early])
  | inr late =>
    cases List.mem_cons.mp late with
    | inl same => exact same ▸ miss
    | inr later => exact passed line (by simp [later])

/-- An edit takes an added line that its test does not hit. -/
theorem Edit.Run.absorbs {edit : Edit Note Line} {front back rest : List Line} {extra : Line}
    {marks : List (Mark Note Line)} (run : edit.Run (front ++ back) marks rest)
    (misses : edit.Misses extra) (undemanded : Undemanded front marks) :
    Absorbs edit.Run front back extra marks rest := by
  generalize whole : front ++ back = source at run
  cases run with
  | put notes source =>
    subst whole
    exact .ahead front rfl (by simp) (.put notes _)
  | follow hit notes line rest met =>
    cases front with
    | nil => exact absurd (by simp) (undemanded (stamp notes) line [] rfl)
    | cons first front =>
      obtain ⟨rfl, rfl⟩ := List.cons.inj whole
      exact .ahead front rfl (by simp) (.follow hit notes first _ met)
  | seek hit notes gap found rest passed met =>
    rcases added_line front back gap rest found whole with ⟨inner, rfl, rfl⟩ | ⟨inner, rfl, rfl⟩
    · refine .passed (front.map .copied) (inner.map .copied ++ stamp notes ++ [.copied found])
        (.copied extra) (by simp) (by simp) (Or.inl rfl) ?_
      have wider := Edit.Run.seek hit notes (front ++ extra :: inner) found rest
        (passed_with front inner passed misses) met
      simpa using wider
    · refine .ahead inner rfl (by simp) ?_
      simpa using Edit.Run.seek hit notes gap found (inner ++ extra :: back) passed met
  | skipPast hit notes gap found rest passed met =>
    rcases added_line front back gap rest found whole with ⟨inner, rfl, rfl⟩ | ⟨inner, rfl, rfl⟩
    · refine .passed (front.map .skipped) (inner.map .skipped ++ stamp notes ++ [.skipped found])
        (.skipped extra) (by simp) (by simp) (Or.inr rfl) ?_
      have wider := Edit.Run.skipPast hit notes (front ++ extra :: inner) found rest
        (passed_with front inner passed misses) met
      simpa using wider
    · refine .ahead inner rfl (by simp) ?_
      simpa using Edit.Run.skipPast hit notes gap found (inner ++ extra :: back) passed met
  | skipTo hit notes gap found rest passed met =>
    rcases added_line front back gap rest found whole with ⟨inner, rfl, rfl⟩ | ⟨inner, rfl, rfl⟩
    · refine .passed (front.map .skipped) (inner.map .skipped ++ stamp notes ++ [.copied found])
        (.skipped extra) (by simp) (by simp) (Or.inr rfl) ?_
      have wider := Edit.Run.skipTo hit notes (front ++ extra :: inner) found rest
        (passed_with front inner passed misses) met
      simpa using wider
    · refine .ahead inner rfl (by simp) ?_
      simpa using Edit.Run.skipTo hit notes gap found (inner ++ extra :: back) passed met

/-- Steps that take an added line take it together: the step that reads past it
is followed by the unchanged later steps, and until then each step leaves the
new line for the next. -/
theorem Chain.absorbs {Step : β → List Line → List (Mark Note Line) → List Line → Prop}
    {extra : Line} {back : List Line} {steps : List β}
    (each : ∀ step ∈ steps, ∀ front marks rest, Step step (front ++ back) marks rest →
      Undemanded front marks → Absorbs (Step step) front back extra marks rest)
    {front rest : List Line} {marks : List (Mark Note Line)}
    (run : Chain Step steps (front ++ back) marks rest) (undemanded : Undemanded front marks) :
    Absorbs (Chain Step steps) front back extra marks rest := by
  generalize whole : front ++ back = source at run
  induction run generalizing front with
  | done source =>
    subst whole
    exact .ahead front rfl (by simp) (.done _)
  | step first remaining ih =>
    rename_i step steps source middle rest marks later
    subst whole
    have firstUndemanded : Undemanded front marks := by
      intro before line after split
      exact undemanded before line (after ++ later) (by simp [split])
    cases each step (by simp) front marks middle first firstUndemanded with
    | passed before after mark split place kind run =>
      refine .passed before (after ++ later) mark (by simp [split]) place kind ?_
      simpa using Chain.step run remaining
    | ahead left middleLeft place run =>
      have laterUndemanded : Undemanded left later := by
        intro before line after split same
        refine undemanded (marks ++ before) line after (by simp [split]) ?_
        rw [reads_append, same, place]
      have rest := ih (fun other member => each other (by simp [member])) laterUndemanded
        middleLeft.symm
      cases rest with
      | passed before after mark split leftPlace kind laterRun =>
        refine .passed (marks ++ before) after mark (by simp [split])
          (by rw [reads_append, leftPlace, place]) kind ?_
        simpa using Chain.step run laterRun
      | ahead last lastLeft lastPlace laterRun =>
        refine .ahead last lastLeft ?_ (.step run laterRun)
        rw [reads_append, List.append_assoc, lastPlace, place]

/-- A task and its edits do not hit a line. -/
def Task.Misses (extra : Line) (task : Task Note Line) : Prop :=
  task.hit extra = false ∧ ∀ edit ∈ task.edits, edit.Misses extra

/-- A task takes an added line that none of its tests hits. -/
theorem Task.Run.absorbs {task : Task Note Line} {front back rest : List Line} {extra : Line}
    {marks : List (Mark Note Line)} (run : task.Run (front ++ back) marks rest)
    (misses : task.Misses extra) (undemanded : Undemanded front marks) :
    Absorbs task.Run front back extra marks rest := by
  generalize whole : front ++ back = source at run
  cases run with
  | missed passed =>
    subst whole
    refine .passed (front.map .copied) (back.map .copied) (.copied extra) (by simp) (by simp)
      (Or.inl rfl) ?_
    have wider := Task.Run.missed (front ++ extra :: back)
      (passed_with front back passed misses.1)
    simpa using wider
  | found carried =>
    cases carried with
    | found gap line middle rest later passed met edited =>
      rcases added_line front back gap middle line whole with
        ⟨inner, rfl, rfl⟩ | ⟨inner, rfl, rfl⟩
      · refine .passed (front.map .copied)
          (inner.map .copied ++ stamp task.notes ++ .copied line :: later) (.copied extra)
          (by simp) (by simp) (Or.inl rfl) (.found ?_)
        have wider := Task.Found.found (front ++ extra :: inner) line middle rest later
          (passed_with front inner passed misses.1) met edited
        simpa using wider
      · have laterUndemanded : Undemanded inner later := by
          intro before other after split same
          refine undemanded (gap.map .copied ++ stamp task.notes ++ .copied line :: before) other
            after (by simp [split]) ?_
          simp [same]
        have each : ∀ edit ∈ task.edits, ∀ front marks rest, edit.Run (front ++ back) marks rest →
            Undemanded front marks → Absorbs edit.Run front back extra marks rest :=
          fun edit member _ _ _ run => run.absorbs (misses.2 edit member)
        cases edited.absorbs each laterUndemanded with
        | passed before after mark split place kind run =>
          refine .passed (gap.map .copied ++ stamp task.notes ++ .copied line :: before) after mark
            (by simp [split]) (by simp [place]) kind (.found ?_)
          simpa using Task.Found.found gap line (inner ++ extra :: back) rest _ passed met run
        | ahead last left place run =>
          refine .ahead last left (by simp [place]) (.found ?_)
          simpa using Task.Found.found gap line (inner ++ extra :: back) _ _ passed met run

/-- A script takes an added line that none of its tests hits. -/
theorem tasks_absorb {tasks : List (Task Note Line)} {front back rest : List Line} {extra : Line}
    {marks : List (Mark Note Line)} (run : Chain Task.Run tasks (front ++ back) marks rest)
    (misses : ∀ task ∈ tasks, task.Misses extra) (undemanded : Undemanded front marks) :
    Absorbs (Chain Task.Run tasks) front back extra marks rest :=
  run.absorbs (fun task member _ _ _ run => run.absorbs (misses task member)) undemanded

end Insertion

end Library.EditScript
