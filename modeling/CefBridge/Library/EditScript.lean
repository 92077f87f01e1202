import Mathlib.Data.List.Basic

/-!
# Scripts that edit a sequence of lines in one pass

A script reads its source once, from the first line to the last. A task copies
lines until its landmark is hit and then performs its edits one after another,
each from where the previous one stopped. An edit copies or skips up to the
first line its test hits, demands a hit at once, or only inserts lines. A task
whose landmark is hit nowhere copies all that is left and performs nothing.

Every line that is read or written leaves one mark. The marks of a pass that
are read are its source, in order and without repetition; the marks that are
written are its output. The rules of `Edit.Run` and `Task.Run` say what each
step may leave, and the executable steps obey exactly these rules.
-/

namespace Library.EditScript

universe u v w
variable {Line : Type u} {Note : Type v} {β : Type w}

/-- The first line that a test hits, between what stands before and after it. -/
def splitAtFirst (hit : Line → Bool) : List Line → Option (List Line × Line × List Line)
  | [] => none
  | line :: rest =>
    if hit line then some ([], line, rest)
    else (splitAtFirst hit rest).map fun (gap, found, after) => (line :: gap, found, after)

/-- A split is the only one whose gap the test never hits. -/
theorem splitAtFirst_some_iff (hit : Line → Bool) (source gap : List Line) (found : Line)
    (rest : List Line) :
    splitAtFirst hit source = some (gap, found, rest) ↔
      source = gap ++ found :: rest ∧ (∀ line ∈ gap, hit line = false) ∧ hit found = true := by
  induction source generalizing gap with
  | nil => simp [splitAtFirst]
  | cons line source ih =>
    cases met : hit line with
    | true =>
      simp only [splitAtFirst, met, if_true, Option.some.injEq, Prod.mk.injEq]
      constructor
      · rintro ⟨rfl, rfl, rfl⟩
        exact ⟨rfl, by simp, met⟩
      · rintro ⟨split, passed, _⟩
        cases gap with
        | nil =>
          obtain ⟨rfl, rfl⟩ := List.cons.inj split
          exact ⟨rfl, rfl, rfl⟩
        | cons other gap =>
          have same : line = other := (List.cons.inj split).1
          simp [← same, met] at passed
    | false =>
      simp only [splitAtFirst, met, Bool.false_eq_true, if_false, Option.map_eq_some_iff,
        Prod.exists, Prod.mk.injEq]
      constructor
      · rintro ⟨inner, other, after, split, rfl, rfl, rfl⟩
        obtain ⟨rfl, passed, hitFound⟩ := (ih inner).mp split
        exact ⟨rfl, by simpa [met] using passed, hitFound⟩
      · rintro ⟨split, passed, hitFound⟩
        cases gap with
        | nil =>
          have same : line = found := (List.cons.inj split).1
          simp [← same, met] at hitFound
        | cons other gap =>
          obtain ⟨rfl, tail⟩ := List.cons.inj split
          have inner := (ih gap).mpr ⟨tail, fun value member => passed value (by simp [member]),
            hitFound⟩
          exact ⟨gap, found, rest, inner, rfl, rfl, rfl⟩

theorem splitAtFirst_none_iff (hit : Line → Bool) (source : List Line) :
    splitAtFirst hit source = none ↔ ∀ line ∈ source, hit line = false := by
  induction source with
  | nil => simp [splitAtFirst]
  | cons line source ih =>
    cases met : hit line <;> simp [splitAtFirst, met, ih]

/-- A list splits at its first hit in one way only. -/
theorem first_hit_unique (hit : Line → Bool) {front back rest more : List Line} {line other : Line}
    (same : front ++ line :: rest = back ++ other :: more)
    (passedFront : ∀ value ∈ front, hit value = false) (met : hit line = true)
    (passedBack : ∀ value ∈ back, hit value = false) (metOther : hit other = true) :
    front = back ∧ line = other ∧ rest = more := by
  have first := (splitAtFirst_some_iff hit _ front line rest).mpr ⟨rfl, passedFront, met⟩
  have second := (splitAtFirst_some_iff hit _ back other more).mpr ⟨rfl, passedBack, metOther⟩
  rw [same, second] at first
  simp only [Option.some.injEq, Prod.mk.injEq] at first
  exact ⟨first.1.symm, first.2.1.symm, first.2.2.symm⟩

/-- One entry of the record of a pass. -/
inductive Mark (Note : Type v) (Line : Type u) where
  /-- Read in a search, or after the last task, and written. -/
  | copied (line : Line)
  /-- Demanded at the cursor, and written. -/
  | followed (line : Line)
  /-- Read and not written. -/
  | skipped (line : Line)
  /-- Written without being read, for the noted reason. -/
  | inserted (note : Note) (line : Line)
  deriving DecidableEq, Repr

/-- The source line of a mark that reads one. -/
def Mark.read : Mark Note Line → Option Line
  | .copied line => some line
  | .followed line => some line
  | .skipped line => some line
  | .inserted _ _ => none

/-- The output line of a mark that writes one. -/
def Mark.written : Mark Note Line → Option Line
  | .copied line => some line
  | .followed line => some line
  | .skipped _ => none
  | .inserted _ line => some line

/-- The output line of a mark that writes what it reads. -/
def Mark.kept : Mark Note Line → Option Line
  | .copied line => some line
  | .followed line => some line
  | .skipped _ => none
  | .inserted _ _ => none

/-- The source lines that a record reads. -/
def reads (marks : List (Mark Note Line)) : List Line := marks.filterMap Mark.read

/-- The output lines that a record writes. -/
def writes (marks : List (Mark Note Line)) : List Line := marks.filterMap Mark.written

/-- The output lines of a record that were copied from the source. -/
def keeps (marks : List (Mark Note Line)) : List Line := marks.filterMap Mark.kept

/-- Marks for lines inserted with their notes. -/
def stamp (notes : List (Note × Line)) : List (Mark Note Line) :=
  notes.map fun (note, line) => .inserted note line

@[simp] theorem reads_nil : reads ([] : List (Mark Note Line)) = [] := rfl
@[simp] theorem writes_nil : writes ([] : List (Mark Note Line)) = [] := rfl
@[simp] theorem keeps_nil : keeps ([] : List (Mark Note Line)) = [] := rfl

@[simp] theorem reads_append (front back : List (Mark Note Line)) :
    reads (front ++ back) = reads front ++ reads back := List.filterMap_append

@[simp] theorem writes_append (front back : List (Mark Note Line)) :
    writes (front ++ back) = writes front ++ writes back := List.filterMap_append

@[simp] theorem keeps_append (front back : List (Mark Note Line)) :
    keeps (front ++ back) = keeps front ++ keeps back := List.filterMap_append

@[simp] theorem reads_copied_cons (line : Line) (marks : List (Mark Note Line)) :
    reads (.copied line :: marks) = line :: reads marks := rfl
@[simp] theorem reads_followed_cons (line : Line) (marks : List (Mark Note Line)) :
    reads (.followed line :: marks) = line :: reads marks := rfl
@[simp] theorem reads_skipped_cons (line : Line) (marks : List (Mark Note Line)) :
    reads (.skipped line :: marks) = line :: reads marks := rfl
@[simp] theorem reads_inserted_cons (note : Note) (line : Line) (marks : List (Mark Note Line)) :
    reads (.inserted note line :: marks) = reads marks := rfl
@[simp] theorem writes_copied_cons (line : Line) (marks : List (Mark Note Line)) :
    writes (.copied line :: marks) = line :: writes marks := rfl
@[simp] theorem writes_followed_cons (line : Line) (marks : List (Mark Note Line)) :
    writes (.followed line :: marks) = line :: writes marks := rfl
@[simp] theorem writes_skipped_cons (line : Line) (marks : List (Mark Note Line)) :
    writes (.skipped line :: marks) = writes marks := rfl
@[simp] theorem writes_inserted_cons (note : Note) (line : Line) (marks : List (Mark Note Line)) :
    writes (.inserted note line :: marks) = line :: writes marks := rfl
@[simp] theorem keeps_copied_cons (line : Line) (marks : List (Mark Note Line)) :
    keeps (.copied line :: marks) = line :: keeps marks := rfl
@[simp] theorem keeps_followed_cons (line : Line) (marks : List (Mark Note Line)) :
    keeps (.followed line :: marks) = line :: keeps marks := rfl
@[simp] theorem keeps_skipped_cons (line : Line) (marks : List (Mark Note Line)) :
    keeps (.skipped line :: marks) = keeps marks := rfl
@[simp] theorem keeps_inserted_cons (note : Note) (line : Line) (marks : List (Mark Note Line)) :
    keeps (.inserted note line :: marks) = keeps marks := rfl

@[simp] theorem reads_copied (lines : List Line) :
    reads (lines.map (Mark.copied : Line → Mark Note Line)) = lines := by
  induction lines <;> simp_all

@[simp] theorem writes_copied (lines : List Line) :
    writes (lines.map (Mark.copied : Line → Mark Note Line)) = lines := by
  induction lines <;> simp_all

@[simp] theorem keeps_copied (lines : List Line) :
    keeps (lines.map (Mark.copied : Line → Mark Note Line)) = lines := by
  induction lines <;> simp_all

@[simp] theorem reads_skipped (lines : List Line) :
    reads (lines.map (Mark.skipped : Line → Mark Note Line)) = lines := by
  induction lines <;> simp_all

@[simp] theorem writes_skipped (lines : List Line) :
    writes (lines.map (Mark.skipped : Line → Mark Note Line)) = [] := by
  induction lines <;> simp_all

@[simp] theorem reads_stamp (notes : List (Note × Line)) : reads (stamp notes) = [] := by
  induction notes <;> simp_all [stamp]

@[simp] theorem writes_stamp (notes : List (Note × Line)) :
    writes (stamp notes) = notes.map Prod.snd := by
  induction notes <;> simp_all [stamp]

@[simp] theorem keeps_stamp (notes : List (Note × Line)) : keeps (stamp notes) = [] := by
  induction notes <;> simp_all [stamp]

/-- Why an edit cannot be performed. -/
inductive Refusal where
  /-- No line that is left is hit. -/
  | absent
  /-- No line is left where one is demanded. -/
  | exhausted
  /-- The demanded line is not hit. -/
  | mismatched
  /-- There is no such edit. -/
  | unsupported
  deriving DecidableEq, Repr

/-- One edit, with the lines it inserts. -/
inductive Edit (Note : Type v) (Line : Type u) where
  /-- Copy up to the first hit, insert, copy the hit. -/
  | seek (hit : Line → Bool) (notes : List (Note × Line))
  /-- Demand a hit at the cursor; insert and copy it. -/
  | follow (hit : Line → Bool) (notes : List (Note × Line))
  /-- Insert only. -/
  | put (notes : List (Note × Line))
  /-- Skip up to and including the first hit; insert. -/
  | skipPast (hit : Line → Bool) (notes : List (Note × Line))
  /-- Skip up to the first hit, insert, copy the hit. -/
  | skipTo (hit : Line → Bool) (notes : List (Note × Line))
  /-- Always refused. -/
  | unsupported

/-- Perform one edit on the lines that are left. -/
def Edit.exec : Edit Note Line → List Line → Except Refusal (List (Mark Note Line) × List Line)
  | .seek hit notes, source =>
    match splitAtFirst hit source with
    | none => .error .absent
    | some (gap, found, rest) => .ok (gap.map .copied ++ stamp notes ++ [.copied found], rest)
  | .follow _ _, [] => .error .exhausted
  | .follow hit notes, line :: rest =>
    if hit line then .ok (stamp notes ++ [.followed line], rest) else .error .mismatched
  | .put notes, source => .ok (stamp notes, source)
  | .skipPast hit notes, source =>
    match splitAtFirst hit source with
    | none => .error .absent
    | some (gap, found, rest) => .ok (gap.map .skipped ++ stamp notes ++ [.skipped found], rest)
  | .skipTo hit notes, source =>
    match splitAtFirst hit source with
    | none => .error .absent
    | some (gap, found, rest) => .ok (gap.map .skipped ++ stamp notes ++ [.copied found], rest)
  | .unsupported, _ => .error .unsupported

/-- What an edit may do: the lines before it, the marks it leaves, the lines
after it. -/
inductive Edit.Run : Edit Note Line → List Line → List (Mark Note Line) → List Line → Prop where
  | seek (hit : Line → Bool) (notes : List (Note × Line)) (gap : List Line) (found : Line)
      (rest : List Line) (passed : ∀ line ∈ gap, hit line = false) (met : hit found = true) :
      Run (.seek hit notes) (gap ++ found :: rest)
        (gap.map .copied ++ stamp notes ++ [.copied found]) rest
  | follow (hit : Line → Bool) (notes : List (Note × Line)) (line : Line) (rest : List Line)
      (met : hit line = true) :
      Run (.follow hit notes) (line :: rest) (stamp notes ++ [.followed line]) rest
  | put (notes : List (Note × Line)) (source : List Line) :
      Run (.put notes) source (stamp notes) source
  | skipPast (hit : Line → Bool) (notes : List (Note × Line)) (gap : List Line) (found : Line)
      (rest : List Line) (passed : ∀ line ∈ gap, hit line = false) (met : hit found = true) :
      Run (.skipPast hit notes) (gap ++ found :: rest)
        (gap.map .skipped ++ stamp notes ++ [.skipped found]) rest
  | skipTo (hit : Line → Bool) (notes : List (Note × Line)) (gap : List Line) (found : Line)
      (rest : List Line) (passed : ∀ line ∈ gap, hit line = false) (met : hit found = true) :
      Run (.skipTo hit notes) (gap ++ found :: rest)
        (gap.map .skipped ++ stamp notes ++ [.copied found]) rest

/-- The executable edit follows exactly the rules. -/
theorem Edit.exec_ok_iff (edit : Edit Note Line) (source : List Line)
    (marks : List (Mark Note Line)) (rest : List Line) :
    edit.exec source = .ok (marks, rest) ↔ edit.Run source marks rest := by
  constructor
  · intro performed
    cases edit with
    | put notes =>
      simp only [exec, Except.ok.injEq, Prod.mk.injEq] at performed
      obtain ⟨rfl, rfl⟩ := performed
      exact .put notes source
    | unsupported => simp [exec] at performed
    | follow hit notes =>
      cases source with
      | nil => simp [exec] at performed
      | cons line source =>
        cases met : hit line with
        | false => simp [exec, met] at performed
        | true =>
          simp only [exec, met, if_true, Except.ok.injEq, Prod.mk.injEq] at performed
          obtain ⟨rfl, rfl⟩ := performed
          exact .follow hit notes line source met
    | seek hit notes =>
      cases split : splitAtFirst hit source with
      | none => simp [exec, split] at performed
      | some parts =>
        obtain ⟨gap, found, after⟩ := parts
        simp only [exec, split, Except.ok.injEq, Prod.mk.injEq] at performed
        obtain ⟨rfl, rfl⟩ := performed
        obtain ⟨rfl, passed, met⟩ := (splitAtFirst_some_iff hit source gap found after).mp split
        exact .seek hit notes gap found after passed met
    | skipPast hit notes =>
      cases split : splitAtFirst hit source with
      | none => simp [exec, split] at performed
      | some parts =>
        obtain ⟨gap, found, after⟩ := parts
        simp only [exec, split, Except.ok.injEq, Prod.mk.injEq] at performed
        obtain ⟨rfl, rfl⟩ := performed
        obtain ⟨rfl, passed, met⟩ := (splitAtFirst_some_iff hit source gap found after).mp split
        exact .skipPast hit notes gap found after passed met
    | skipTo hit notes =>
      cases split : splitAtFirst hit source with
      | none => simp [exec, split] at performed
      | some parts =>
        obtain ⟨gap, found, after⟩ := parts
        simp only [exec, split, Except.ok.injEq, Prod.mk.injEq] at performed
        obtain ⟨rfl, rfl⟩ := performed
        obtain ⟨rfl, passed, met⟩ := (splitAtFirst_some_iff hit source gap found after).mp split
        exact .skipTo hit notes gap found after passed met
  · intro permitted
    cases permitted with
    | put notes => rfl
    | follow hit notes line rest met => simp [exec, met]
    | seek hit notes gap found rest passed met =>
      have split := (splitAtFirst_some_iff hit _ gap found rest).mpr ⟨rfl, passed, met⟩
      simp [exec, split]
    | skipPast hit notes gap found rest passed met =>
      have split := (splitAtFirst_some_iff hit _ gap found rest).mpr ⟨rfl, passed, met⟩
      simp [exec, split]
    | skipTo hit notes gap found rest passed met =>
      have split := (splitAtFirst_some_iff hit _ gap found rest).mpr ⟨rfl, passed, met⟩
      simp [exec, split]

/-- Perform steps one after another, each on what the previous one left. -/
def chain (exec : β → List Line → Except Refusal (List (Mark Note Line) × List Line)) :
    List β → List Line → Except Refusal (List (Mark Note Line) × List Line)
  | [], source => .ok ([], source)
  | step :: steps, source => do
    let (marks, middle) ← exec step source
    let (later, rest) ← chain exec steps middle
    .ok (marks ++ later, rest)

/-- What steps may do one after another. -/
inductive Chain (Step : β → List Line → List (Mark Note Line) → List Line → Prop) :
    List β → List Line → List (Mark Note Line) → List Line → Prop where
  | done (source : List Line) : Chain Step [] source [] source
  | step {step : β} {steps : List β} {source middle rest : List Line}
      {marks later : List (Mark Note Line)} (first : Step step source marks middle)
      (remaining : Chain Step steps middle later rest) :
      Chain Step (step :: steps) source (marks ++ later) rest

theorem chain_ok_iff (exec : β → List Line → Except Refusal (List (Mark Note Line) × List Line))
    (Step : β → List Line → List (Mark Note Line) → List Line → Prop)
    (exact : ∀ step source marks rest, exec step source = .ok (marks, rest) ↔
      Step step source marks rest)
    (steps : List β) (source : List Line) (marks : List (Mark Note Line)) (rest : List Line) :
    chain exec steps source = .ok (marks, rest) ↔ Chain Step steps source marks rest := by
  constructor
  · intro performed
    induction steps generalizing source marks with
    | nil =>
      simp only [chain, Except.ok.injEq, Prod.mk.injEq] at performed
      obtain ⟨rfl, rfl⟩ := performed
      exact .done source
    | cons step steps ih =>
      simp only [chain] at performed
      cases first : exec step source with
      | error refusal => simp [first, bind, Except.bind] at performed
      | ok result =>
        obtain ⟨front, middle⟩ := result
        cases remaining : chain exec steps middle with
        | error refusal => simp [first, remaining, bind, Except.bind] at performed
        | ok later =>
          obtain ⟨back, last⟩ := later
          simp only [first, remaining, bind, Except.bind, Except.ok.injEq,
            Prod.mk.injEq] at performed
          obtain ⟨rfl, rfl⟩ := performed
          exact .step ((exact step source front middle).mp first) (ih middle back remaining)
  · intro permitted
    induction permitted with
    | done source => rfl
    | step first _ ih =>
      simp only [chain, (exact _ _ _ _).mpr first, ih, bind, Except.bind]

/-- A search landmark with the edits that follow it. -/
structure Task (Note : Type v) (Line : Type u) where
  hit : Line → Bool
  notes : List (Note × Line)
  edits : List (Edit Note Line)

/-- Perform a task. Without a landmark everything left is copied. -/
def Task.exec (task : Task Note Line) (source : List Line) :
    Except Refusal (List (Mark Note Line) × List Line) :=
  match splitAtFirst task.hit source with
  | none => .ok (source.map .copied, [])
  | some (gap, found, rest) => do
    let (later, after) ← chain Edit.exec task.edits rest
    .ok (gap.map .copied ++ stamp task.notes ++ .copied found :: later, after)

/-- A task whose landmark is found and whose edits are all performed. -/
inductive Task.Found (task : Task Note Line) :
    List Line → List (Mark Note Line) → List Line → Prop where
  | found (gap : List Line) (line : Line) (rest after : List Line)
      (later : List (Mark Note Line)) (passed : ∀ other ∈ gap, task.hit other = false)
      (met : task.hit line = true) (edited : Chain Edit.Run task.edits rest later after) :
      Found task (gap ++ line :: rest)
        (gap.map .copied ++ stamp task.notes ++ .copied line :: later) after

/-- What a task may do: be carried out, or miss its landmark and copy the rest. -/
inductive Task.Run (task : Task Note Line) :
    List Line → List (Mark Note Line) → List Line → Prop where
  | found {source rest : List Line} {marks : List (Mark Note Line)}
      (carried : task.Found source marks rest) : Run task source marks rest
  | missed (source : List Line) (passed : ∀ line ∈ source, task.hit line = false) :
      Run task source (source.map .copied) []

/-- The executable task follows exactly the rules. -/
theorem Task.exec_ok_iff (task : Task Note Line) (source : List Line)
    (marks : List (Mark Note Line)) (rest : List Line) :
    task.exec source = .ok (marks, rest) ↔ task.Run source marks rest := by
  constructor
  · intro performed
    cases split : splitAtFirst task.hit source with
    | none =>
      simp only [exec, split, Except.ok.injEq, Prod.mk.injEq] at performed
      obtain ⟨rfl, rfl⟩ := performed
      exact .missed source ((splitAtFirst_none_iff task.hit source).mp split)
    | some parts =>
      obtain ⟨gap, line, after⟩ := parts
      obtain ⟨rfl, passed, met⟩ := (splitAtFirst_some_iff task.hit source gap line after).mp split
      cases edited : chain Edit.exec task.edits after with
      | error refusal => simp [exec, split, edited, bind, Except.bind] at performed
      | ok result =>
        obtain ⟨later, last⟩ := result
        simp only [exec, split, edited, bind, Except.bind, Except.ok.injEq,
          Prod.mk.injEq] at performed
        obtain ⟨rfl, rfl⟩ := performed
        exact .found (.found gap line after last later passed met
          ((chain_ok_iff Edit.exec Edit.Run Edit.exec_ok_iff _ _ _ _).mp edited))
  · intro permitted
    cases permitted with
    | missed passed => simp [exec, (splitAtFirst_none_iff task.hit source).mpr passed]
    | found carried =>
      cases carried with
      | found gap line after rest later passed met edited =>
        have split := (splitAtFirst_some_iff task.hit _ gap line after).mpr ⟨rfl, passed, met⟩
        have performed := (chain_ok_iff Edit.exec Edit.Run Edit.exec_ok_iff _ _ _ _).mpr edited
        simp only [exec, split, performed, bind, Except.bind]

/-- The executable tasks follow exactly the rules. -/
theorem tasks_ok_iff (tasks : List (Task Note Line)) (source : List Line)
    (marks : List (Mark Note Line)) (rest : List Line) :
    chain Task.exec tasks source = .ok (marks, rest) ↔ Chain Task.Run tasks source marks rest :=
  chain_ok_iff Task.exec Task.Run Task.exec_ok_iff tasks source marks rest

end Library.EditScript
