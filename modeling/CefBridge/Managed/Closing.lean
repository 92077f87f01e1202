import CefBridge.Managed.Listing

/-!
# Closing a form

The first time a form is about to close, its window object cancels that, disposes
the browsers of the form and starts a timer. A tick that finds the form ready to
close stops the timer and closes the form again. From the second time on nothing
is cancelled.

No form should close while one of its browsers is pending. `closes_iff` says which
runs keep to that, by the order of their events: where the reports of the browsers
stand among the closings and the ticks. Nothing but the timer waits for browsers, and
the timer waits only for those that were created after the first closing.

Another request for the same form while its browsers are being disposed is outside.
-/

namespace CefBridge.Managed

open Library Runs

/-- The window object of a form. -/
structure MyWindowForm where
  startClosing : Bool := false
  /-- Whether the timer runs. -/
  tmClosingCheck : Bool := false
  deriving DecidableEq

/-- The window objects of the forms that have one, and the browsers. -/
structure Windows (Form Control : Type) where
  forms : Form → Option MyWindowForm
  registry : Registry Form Control

variable {Form Control : Type}

def Windows.empty : Windows Form Control := ⟨fun _ => none, Registry.empty⟩

variable [DecidableEq Form]

def Windows.set (windows : Windows Form Control) (form : Form) (window : MyWindowForm) :
    Windows Form Control :=
  { windows with forms := Function.update windows.forms form (some window) }

def Windows.tryGetWindowFormOrRegisterIfNotExists (windows : Windows Form Control) (form : Form) :
    Windows Form Control :=
  match windows.forms form with
  | some _ => windows
  | none => windows.set form {}

variable [DecidableEq Control]

/-- A form is about to close: whether that is cancelled, and what it leads to. A form
without a window object has no handler. -/
def Windows.form_FormClosing (windows : Windows Form Control) (form : Form) (turns : List Turn) :
    Bool × Windows Form Control :=
  match windows.forms form with
  | none => (false, windows)
  | some window =>
    if window.startClosing then (false, windows)
    else
      let window := { window with startClosing := true }
      match windows.registry.disposeAllChildWebBrowserControls form turns with
      -- The exception leaves the handler before the timer is started.
      | (some _, registry) => (true, { windows with registry }.set form window)
      | (none, registry) =>
        (true, { windows with registry }.set form { window with tmClosingCheck := true })

/-- Close a form: which form closes, if that is not cancelled. -/
def Windows.close (windows : Windows Form Control) (form : Form) (turns : List Turn) :
    Option Form × Windows Form Control :=
  let (cancel, windows) := windows.form_FormClosing form turns
  (if cancel then none else some form, windows)

/-- The timer of a form ticks, if it runs. -/
def Windows.tmClosingCheck_Tick (windows : Windows Form Control) (form : Form) :
    Option Form × Windows Form Control :=
  match windows.forms form with
  | none => (none, windows)
  | some window =>
    if window.tmClosingCheck && windows.registry.isReadyToClose form then
      (windows.set form { window with tmClosingCheck := false }).close form []
    else (none, windows)

/-- Construct a browser. Its form has a window object from then on, unless the
control was disposed. -/
def Windows.create (windows : Windows Form Control) (form : Form) (control : Control)
    (hasParent : Bool) : Windows Form Control :=
  if control ∈ windows.registry.disposed then windows
  else
    { windows.tryGetWindowFormOrRegisterIfNotExists form with
      registry := windows.registry.create form control hasParent }

inductive WindowEvent (Form Control : Type) where
  | register (form : Form)
  | create (form : Form) (control : Control) (hasParent : Bool)
  | notifyBrowserClosed (id : Nat)
  | close (form : Form) (turns : List Turn)
  | tick (form : Form)

/-- Which form an event closes, and what the event leads to. -/
def Windows.step (windows : Windows Form Control) :
    WindowEvent Form Control → Option Form × Windows Form Control
  | .register form => (none, windows.tryGetWindowFormOrRegisterIfNotExists form)
  | .create form control hasParent => (none, windows.create form control hasParent)
  | .notifyBrowserClosed id =>
    (none, { windows with registry := windows.registry.notifyBrowserClosed id })
  | .close form turns => windows.close form turns
  | .tick form => windows.tmClosingCheck_Tick form

def Windows.handle (windows : Windows Form Control) (event : WindowEvent Form Control) :
    Windows Form Control :=
  (windows.step event).2

/-- An event closes a form only if none of its browsers is pending. -/
def Windows.ClosesSafely (windows : Windows Form Control) (event : WindowEvent Form Control) : Prop :=
  ∀ form, (windows.step event).1 = some form → windows.registry.pending form = []

/-- The browser that an event creates. -/
def Windows.created (windows : Windows Form Control) :
    WindowEvent Form Control → Option (CefWb Form Control)
  | .create form control hasParent =>
    if control ∈ windows.registry.disposed then none
    else some ⟨windows.registry.created.length, form, control, hasParent⟩
  | _ => none

/-- The reports that come in with an event. The first closing of a form comes with those that
arrive while its browsers are disposed. -/
def Windows.reports (windows : Windows Form Control) : WindowEvent Form Control → List Nat
  | .notifyBrowserClosed id => [id]
  | .close form turns =>
    match windows.forms form with
    | some ⟨false, _⟩ => windows.registry.heard form (windows.registry.registered form).length turns
    | _ => []
  | _ => []

section Steps

/-- A form was about to close before. -/
def Windows.Started (windows : Windows Form Control) (form : Form) : Prop :=
  ∃ window, windows.forms form = some window ∧ window.startClosing = true

/-- The timer of a form runs. -/
def Windows.Waiting (windows : Windows Form Control) (form : Form) : Prop :=
  ∃ window, windows.forms form = some window ∧ window.tmClosingCheck = true

/-- Timers run only for forms that were about to close, and browsers are created only
on forms with a window object. -/
structure Watched (windows : Windows Form Control) : Prop where
  started : ∀ form, windows.Waiting form → windows.Started form
  hooked : ∀ wb ∈ windows.registry.created, windows.forms wb.parentForm ≠ none

omit [DecidableEq Control] in
theorem set_forms (windows : Windows Form Control) (form other : Form) (window : MyWindowForm) :
    (windows.set form window).forms other = if other = form then some window else windows.forms other := by
  by_cases same : other = form
  · simp [Windows.set, same]
  · simp [Windows.set, same]

/-- A form that has no handler or was about to close before is let through. From the first
time on it counts as about to close, and its timer runs if its browsers were disposed. -/
theorem close_cases (windows : Windows Form Control) (form : Form) (turns : List Turn) :
    ((windows.forms form = none ∨ windows.Started form) ∧
      windows.close form turns = (some form, windows)) ∨
    (windows.forms form ≠ none ∧ ¬ windows.Started form ∧
      ∃ check, (check = true ↔ windows.Waiting form ∨
          (windows.registry.disposeAllChildWebBrowserControls form turns).1 = none) ∧
        windows.close form turns =
        (none, { windows with
          registry := (windows.registry.disposeAllChildWebBrowserControls form turns).2 }.set form
            ⟨true, check⟩)) := by
  rw [Windows.close, Windows.form_FormClosing]
  cases found : windows.forms form with
  | none => exact .inl ⟨.inl rfl, rfl⟩
  | some window =>
    cases first : window.startClosing with
    | true =>
      refine .inl ⟨.inr ⟨window, found, first⟩, ?_⟩
      simp only [first, if_true, Bool.false_eq_true, if_false]
    | false =>
      have unstarted : ¬ windows.Started form := by
        rintro ⟨other, again, started⟩
        rw [found, Option.some.injEq] at again
        rw [← again, first] at started
        cases started
      have waiting : windows.Waiting form ↔ window.tmClosingCheck = true := by
        simp [Windows.Waiting, found]
      refine .inr ⟨Option.some_ne_none _, unstarted, ?_⟩
      rw [waiting]
      cases windows.registry.disposeAllChildWebBrowserControls form turns with
      | mk outcome registry =>
        cases outcome with
        | some fault => exact ⟨window.tmClosingCheck, by simp [first]⟩
        | none => exact ⟨true, by simp [first]⟩

/-- A tick closes the form for good, or it does nothing. -/
theorem tick_cases {windows : Windows Form Control} (watched : Watched windows) (form : Form) :
    (¬ (windows.Waiting form ∧ windows.registry.isReadyToClose form = true) ∧
      windows.tmClosingCheck_Tick form = (none, windows)) ∨
    (windows.Waiting form ∧ windows.registry.isReadyToClose form = true ∧
      windows.tmClosingCheck_Tick form = (some form, windows.set form ⟨true, false⟩)) := by
  rw [Windows.tmClosingCheck_Tick]
  cases found : windows.forms form with
  | none =>
    refine .inl ⟨?_, rfl⟩
    rintro ⟨⟨window, waiting, -⟩, -⟩
    rw [found] at waiting
    cases waiting
  | some window =>
    cases running : window.tmClosingCheck && windows.registry.isReadyToClose form with
    | false =>
      refine .inl ⟨?_, by simp [running]⟩
      rintro ⟨⟨other, again, waiting⟩, ready⟩
      rw [found, Option.some.injEq] at again
      rw [again, waiting, ready] at running
      cases running
    | true =>
      obtain ⟨waiting, ready⟩ := Bool.and_eq_true_iff.mp running
      have runs : windows.Waiting form := ⟨window, found, waiting⟩
      obtain ⟨other, again, started⟩ := watched.started form runs
      rw [found, Option.some.injEq] at again
      subst again
      refine .inr ⟨runs, ready, ?_⟩
      have stopped : (windows.set form { window with tmClosingCheck := false }).Started form :=
        ⟨{ window with tmClosingCheck := false }, by rw [set_forms, if_pos rfl], started⟩
      rcases close_cases (windows.set form { window with tmClosingCheck := false }) form [] with
        ⟨-, through⟩ | ⟨-, unstarted, -⟩
      · simp only [running, if_true, through]
        rw [started]
      · exact absurd stopped unstarted

omit [DecidableEq Control] in
theorem started_set (windows : Windows Form Control) (form other : Form) (window : MyWindowForm) :
    (windows.set form window).Started other ↔
      if other = form then window.startClosing = true else windows.Started other := by
  rw [Windows.Started, set_forms]
  by_cases same : other = form
  · simp [same]
  · simp only [if_neg same]
    rfl

omit [DecidableEq Control] in
theorem waiting_set (windows : Windows Form Control) (form other : Form) (window : MyWindowForm) :
    (windows.set form window).Waiting other ↔
      if other = form then window.tmClosingCheck = true else windows.Waiting other := by
  rw [Windows.Waiting, set_forms]
  by_cases same : other = form
  · simp [same]
  · simp only [if_neg same]
    rfl

omit [DecidableEq Control] in
/-- A window object whose timer runs only after the start of the closing can be put
in place. -/
theorem set_watched {windows : Windows Form Control} (watched : Watched windows) (form : Form)
    {window : MyWindowForm} (ordered : window.tmClosingCheck = true → window.startClosing = true) :
    Watched (windows.set form window) := by
  refine ⟨fun other waiting => ?_, fun wb member => ?_⟩
  · rw [waiting_set] at waiting
    rw [started_set]
    by_cases same : other = form
    · rw [if_pos same] at waiting ⊢
      exact ordered waiting
    · rw [if_neg same] at waiting ⊢
      exact watched.started other waiting
  · rw [set_forms]
    by_cases same : wb.parentForm = form
    · rw [if_pos same]
      exact Option.some_ne_none _
    · rw [if_neg same]
      exact watched.hooked wb member

omit [DecidableEq Control] in
theorem register_watched {windows : Windows Form Control} (watched : Watched windows) (form : Form) :
    Watched (windows.tryGetWindowFormOrRegisterIfNotExists form) := by
  rw [Windows.tryGetWindowFormOrRegisterIfNotExists]
  cases windows.forms form with
  | some window => exact watched
  | none => exact set_watched watched form nofun

omit [DecidableEq Control] in
/-- A new window object is not about to close. -/
theorem register_started (windows : Windows Form Control) (form other : Form) :
    (windows.tryGetWindowFormOrRegisterIfNotExists form).Started other ↔ windows.Started other := by
  rw [Windows.tryGetWindowFormOrRegisterIfNotExists]
  cases found : windows.forms form with
  | some window => rfl
  | none =>
    rw [started_set]
    by_cases same : other = form
    · subst same
      simp [Windows.Started, found]
    · rw [if_neg same]

omit [DecidableEq Control] in
theorem register_registry (windows : Windows Form Control) (form : Form) :
    (windows.tryGetWindowFormOrRegisterIfNotExists form).registry = windows.registry := by
  rw [Windows.tryGetWindowFormOrRegisterIfNotExists]
  cases windows.forms form <;> rfl

omit [DecidableEq Control] in
theorem register_hooked (windows : Windows Form Control) (form : Form) :
    (windows.tryGetWindowFormOrRegisterIfNotExists form).forms form ≠ none := by
  rw [Windows.tryGetWindowFormOrRegisterIfNotExists]
  cases found : windows.forms form with
  | some window => exact fun none => Option.some_ne_none _ (found.symm.trans none)
  | none =>
    rw [set_forms, if_pos rfl]
    exact Option.some_ne_none _

/-- Every event keeps timers after the start of the closing and browsers on forms with a
window object. -/
theorem handle_watched {windows : Windows Form Control} (watched : Watched windows)
    (event : WindowEvent Form Control) : Watched (windows.handle event) := by
  cases event with
  | register form => exact register_watched watched form
  | create form control hasParent =>
    rw [Windows.handle, Windows.step, Windows.create]
    by_cases gone : control ∈ windows.registry.disposed
    · rw [if_pos gone]
      exact watched
    · rw [if_neg gone]
      have registered := register_watched watched form
      refine ⟨registered.started, fun wb member => ?_⟩
      simp only [create_created gone, List.mem_append, List.mem_singleton] at member
      rcases member with before | rfl
      · rw [← register_registry windows form] at before
        exact registered.hooked wb before
      · exact register_hooked windows form
  | notifyBrowserClosed id =>
    refine ⟨watched.started, fun wb member => ?_⟩
    rw [Windows.handle, Windows.step, (notify_reported windows.registry id).created] at member
    exact watched.hooked wb member
  | close form turns =>
    rcases close_cases windows form turns with ⟨-, through⟩ | ⟨-, -, check, -, held⟩
    · rw [Windows.handle, Windows.step, through]
      exact watched
    · have kept := (disposeAll_heard windows.registry form turns).created
      have disposed : Watched { windows with
          registry := (windows.registry.disposeAllChildWebBrowserControls form turns).2 } :=
        ⟨watched.started, fun wb member => watched.hooked wb (kept ▸ member)⟩
      rw [Windows.handle, Windows.step, held]
      exact set_watched disposed form fun _ => rfl
  | tick form =>
    rcases tick_cases watched form with ⟨-, idle⟩ | ⟨-, -, closed⟩
    · rw [Windows.handle, Windows.step, idle]
      exact watched
    · rw [Windows.handle, Windows.step, closed]
      exact set_watched watched form nofun

/-- A form counts as about to close from the first time on that its window object handles
the event. -/
theorem handle_started {windows : Windows Form Control} (watched : Watched windows)
    (event : WindowEvent Form Control) (form : Form) :
    (windows.handle event).Started form ↔
      windows.Started form ∨ windows.forms form ≠ none ∧ ∃ turns, event = .close form turns := by
  cases event with
  | register other =>
    rw [Windows.handle, Windows.step, register_started]
    simp
  | create other control hasParent =>
    rw [Windows.handle, Windows.step, Windows.create]
    by_cases gone : control ∈ windows.registry.disposed
    · rw [if_pos gone]
      simp
    · have same : ({ windows.tryGetWindowFormOrRegisterIfNotExists other with
          registry := windows.registry.create other control hasParent } :
            Windows Form Control).Started form ↔ windows.Started form := register_started windows other form
      rw [if_neg gone, same]
      simp
  | notifyBrowserClosed id => simp [Windows.handle, Windows.step, Windows.Started]
  | close other turns =>
    rcases close_cases windows other turns with ⟨free, through⟩ | ⟨hooked, -, check, -, held⟩
    · rw [Windows.handle, Windows.step, through]
      constructor
      · exact Or.inl
      · rintro (started | ⟨hooked, other, same⟩)
        · exact started
        · cases same
          rcases free with none | started
          · exact absurd none hooked
          · exact started
    · rw [Windows.handle, Windows.step, held, started_set]
      by_cases same : form = other
      · subst same
        simp [hooked]
      · have elsewhere : ({ windows with
            registry := (windows.registry.disposeAllChildWebBrowserControls other turns).2 } :
              Windows Form Control).Started form ↔ windows.Started form := Iff.rfl
        rw [if_neg same, elsewhere]
        simp [Ne.symm same]
  | tick other =>
    rcases tick_cases watched other with ⟨-, idle⟩ | ⟨running, -, closed⟩
    · rw [Windows.handle, Windows.step, idle]
      simp
    · rw [Windows.handle, Windows.step, closed, started_set]
      by_cases same : form = other
      · subst same
        simp [watched.started form running]
      · simp [same]

/-- The list of a form goes on as long as its window object does not handle a first closing. -/
theorem handle_listedFrom {windows : Windows Form Control} (watched : Watched windows) {first : Nat}
    {form : Form} (listed : ListedFrom first form windows.registry) (event : WindowEvent Form Control)
    (later : ∀ turns, event = .close form turns → windows.forms form = none ∨ windows.Started form) :
    ListedFrom first form (windows.handle event).registry := by
  cases event with
  | register other =>
    rw [Windows.handle, Windows.step, register_registry]
    exact listed
  | create other control hasParent =>
    rw [Windows.handle, Windows.step, Windows.create]
    by_cases gone : control ∈ windows.registry.disposed
    · rw [if_pos gone]
      exact listed
    · rw [if_neg gone]
      exact create_listedFrom listed other control hasParent
  | notifyBrowserClosed id => exact notify_listedFrom listed id
  | close other turns =>
    rcases close_cases windows other turns with ⟨-, through⟩ | ⟨hooked, unstarted, check, -, held⟩
    · rw [Windows.handle, Windows.step, through]
      exact listed
    · have different : other ≠ form := by
        rintro rfl
        exact (later turns rfl).elim hooked unstarted
      rw [Windows.handle, Windows.step, held]
      exact disposeAll_other listed different turns
  | tick other =>
    rcases tick_cases watched other with ⟨-, idle⟩ | ⟨-, -, closed⟩
    · rw [Windows.handle, Windows.step, idle]
      exact listed
    · rw [Windows.handle, Windows.step, closed]
      exact listed

omit [DecidableEq Control] in
/-- The timer of a new window object does not run. -/
theorem register_waiting (windows : Windows Form Control) (form other : Form) :
    (windows.tryGetWindowFormOrRegisterIfNotExists form).Waiting other ↔ windows.Waiting other := by
  rw [Windows.tryGetWindowFormOrRegisterIfNotExists]
  cases found : windows.forms form with
  | some window => rfl
  | none =>
    rw [waiting_set]
    by_cases same : other = form
    · subst same
      simp [Windows.Waiting, found]
    · rw [if_neg same]

/-- The timer of a form runs from a first closing that disposed the browsers of the form until
a tick that finds it ready. -/
theorem handle_waiting {windows : Windows Form Control} (watched : Watched windows)
    (event : WindowEvent Form Control) (form : Form) :
    (windows.handle event).Waiting form ↔
      (windows.Waiting form ∧ ¬ (event = .tick form ∧ windows.registry.isReadyToClose form = true)) ∨
        windows.forms form ≠ none ∧ ¬ windows.Started form ∧ ∃ turns, event = .close form turns ∧
          (windows.registry.disposeAllChildWebBrowserControls form turns).1 = none := by
  cases event with
  | register other =>
    rw [Windows.handle, Windows.step, register_waiting]
    simp
  | create other control hasParent =>
    rw [Windows.handle, Windows.step, Windows.create]
    by_cases gone : control ∈ windows.registry.disposed
    · rw [if_pos gone]
      simp
    · have same : ({ windows.tryGetWindowFormOrRegisterIfNotExists other with
          registry := windows.registry.create other control hasParent } :
            Windows Form Control).Waiting form ↔ windows.Waiting form := register_waiting windows other form
      rw [if_neg gone, same]
      simp
  | notifyBrowserClosed id => simp [Windows.handle, Windows.step, Windows.Waiting]
  | close other turns =>
    rcases close_cases windows other turns with ⟨free, through⟩ | ⟨hooked, unstarted, check, runs, held⟩
    · rw [Windows.handle, Windows.step, through]
      constructor
      · exact fun waiting => .inl ⟨waiting, nofun⟩
      · rintro (⟨waiting, -⟩ | ⟨hooked, unstarted, other, same, -⟩)
        · exact waiting
        · cases same
          exact absurd free (not_or.mpr ⟨hooked, unstarted⟩)
    · rw [Windows.handle, Windows.step, held, waiting_set]
      by_cases same : form = other
      · subst same
        have idle : ¬ windows.Waiting form := fun waiting => unstarted (watched.started form waiting)
        simp [runs, idle, hooked, unstarted]
      · have elsewhere : ({ windows with
            registry := (windows.registry.disposeAllChildWebBrowserControls other turns).2 } :
              Windows Form Control).Waiting form ↔ windows.Waiting form := Iff.rfl
        rw [if_neg same, elsewhere]
        simp [Ne.symm same]
  | tick other =>
    rcases tick_cases watched other with ⟨idle, same⟩ | ⟨running, ready, closed⟩
    · rw [Windows.handle, Windows.step, same]
      constructor
      · refine fun waiting => .inl ⟨waiting, fun ticks => idle ?_⟩
        obtain ⟨same, ready⟩ := ticks
        cases same
        exact ⟨waiting, ready⟩
      · rintro (⟨waiting, -⟩ | ⟨-, -, turns, same, -⟩)
        · exact waiting
        · cases same
    · rw [Windows.handle, Windows.step, closed, waiting_set]
      by_cases same : form = other
      · subst same
        simp [ready]
      · simp [same, Ne.symm same]

theorem Windows.handle_created {windows : Windows Form Control} (watched : Watched windows)
    (event : WindowEvent Form Control) :
    (windows.handle event).registry.created =
      windows.registry.created ++ (windows.created event).toList := by
  cases event with
  | register form => simp [Windows.handle, Windows.step, register_registry, Windows.created]
  | create form control hasParent =>
    rw [Windows.handle, Windows.step, Windows.create, Windows.created]
    by_cases gone : control ∈ windows.registry.disposed
    · simp [gone]
    · rw [if_neg gone, if_neg gone]
      exact create_created gone form hasParent
  | notifyBrowserClosed id => simp [Windows.handle, Windows.step, Windows.created,
      (notify_reported windows.registry id).created]
  | close form turns =>
    rcases close_cases windows form turns with ⟨-, through⟩ | ⟨-, -, check, -, held⟩
    · simp [Windows.handle, Windows.step, through, Windows.created]
    · have kept := (disposeAll_heard windows.registry form turns).created
      simp [Windows.handle, Windows.step, held, Windows.created, Windows.set, kept]
  | tick form =>
    rcases tick_cases watched form with ⟨-, idle⟩ | ⟨-, -, closed⟩
    · simp [Windows.handle, Windows.step, idle, Windows.created]
    · simp [Windows.handle, Windows.step, closed, Windows.created, Windows.set]

theorem Windows.handle_delivered {windows : Windows Form Control} (watched : Watched windows)
    (event : WindowEvent Form Control) (id : Nat) :
    id ∈ (windows.handle event).registry.delivered ↔
      id ∈ windows.registry.delivered ∨
        id ∈ windows.reports event ∧ id < windows.registry.created.length := by
  cases event with
  | register form => simp [Windows.handle, Windows.step, register_registry, Windows.reports]
  | create form control hasParent =>
    rw [Windows.handle, Windows.step, Windows.create]
    by_cases gone : control ∈ windows.registry.disposed
    · simp [gone, Windows.reports]
    · simp [gone, Windows.reports, Registry.create, Registry.registerCefWbControl]
  | notifyBrowserClosed id =>
    rw [Windows.handle, Windows.step, Windows.reports, (notify_reported windows.registry id).delivered]
  | close form turns =>
    rcases close_cases windows form turns with ⟨free, through⟩ | ⟨hooked, unstarted, check, -, held⟩
    · have silent : windows.reports (.close form turns) = [] := by
        rw [Windows.reports]
        rcases free with unhooked | ⟨window, found, started⟩
        · rw [unhooked]
        · obtain ⟨startClosing, check⟩ := window
          cases started
          rw [found]
      simp [Windows.handle, Windows.step, through, silent]
    · have heard : windows.reports (.close form turns) =
          windows.registry.heard form (windows.registry.registered form).length turns := by
        obtain ⟨⟨startClosing, running⟩, found⟩ := Option.ne_none_iff_exists'.mp hooked
        cases startClosing with
        | true => exact absurd ⟨_, found, rfl⟩ unstarted
        | false => rw [Windows.reports, found]
      rw [Windows.handle, Windows.step, held, heard]
      exact (disposeAll_heard windows.registry form turns).delivered id
  | tick form =>
    rcases tick_cases watched form with ⟨-, idle⟩ | ⟨-, -, closed⟩
    · simp [Windows.handle, Windows.step, idle, Windows.reports]
    · simp [Windows.handle, Windows.step, closed, Windows.reports, Windows.set]

end Steps

section Runs

omit [DecidableEq Form] [DecidableEq Control] in
theorem watched_empty : Watched (Windows.empty : Windows Form Control) := by
  refine ⟨?_, nofun⟩
  simp [Windows.Waiting, Windows.empty]

/-- The windows after some events. -/
abbrev windowsAfter (events : List (WindowEvent Form Control)) : Windows Form Control :=
  run Windows.handle Windows.empty events

theorem windowsAfter_concat (events : List (WindowEvent Form Control)) (event : WindowEvent Form Control) :
    windowsAfter (events ++ [event]) = (windowsAfter events).handle event :=
  run_concat ..

/-- A window object of the form handled a closing before. -/
def ClosedBefore (form : Form) (events : List (WindowEvent Form Control)) : Prop :=
  ∃ before turns after, events = before ++ .close form turns :: after ∧
    (windowsAfter before).forms form ≠ none

/-- Some event created a browser of the form, with this number. -/
def CreatedIn (form : Form) (id : Nat) (events : List (WindowEvent Form Control)) : Prop :=
  ∃ before event after wb, events = before ++ event :: after ∧
    (windowsAfter before).created event = some wb ∧ wb.parentForm = form ∧ wb.id = id

/-- The report of a browser came in with some event. -/
def ReportedIn (id : Nat) (events : List (WindowEvent Form Control)) : Prop :=
  ∃ before event after, events = before ++ event :: after ∧
    id ∈ (windowsAfter before).reports event ∧ id < (windowsAfter before).registry.created.length

/-- A closing after some events is the first one of the form, and goes through its browsers. -/
structure GoesThrough (form : Form) (turns : List Turn) (before : List (WindowEvent Form Control)) :
    Prop where
  hooked : (windowsAfter before).forms form ≠ none
  first : ¬ ClosedBefore form before
  orderly : Orderly ((windowsAfter before).registry.pending form).reverse turns
    (windowsAfter before).registry.disposed

theorem run_watched (events : List (WindowEvent Form Control)) : Watched (windowsAfter events) :=
  run_invariant watched_empty (fun _ event watched => handle_watched watched event) events

theorem closedBefore_concat (form : Form) (events : List (WindowEvent Form Control))
    (event : WindowEvent Form Control) :
    ClosedBefore form (events ++ [event]) ↔
      ClosedBefore form events ∨
        (windowsAfter events).forms form ≠ none ∧ ∃ turns, event = .close form turns := by
  constructor
  · rintro ⟨before, turns, after, split, hooked⟩
    rcases split_concat split with ⟨rfl, rfl, -⟩ | ⟨rest, shorter, -⟩
    · exact .inr ⟨hooked, turns, rfl⟩
    · exact .inl ⟨before, turns, rest, shorter, hooked⟩
  · rintro (⟨before, turns, after, rfl, hooked⟩ | ⟨hooked, turns, rfl⟩)
    · exact ⟨before, turns, after ++ [event], by simp, hooked⟩
    · exact ⟨events, turns, [], rfl, hooked⟩

theorem run_started (events : List (WindowEvent Form Control)) (form : Form) :
    (windowsAfter events).Started form ↔ ClosedBefore form events := by
  induction events using List.reverseRecOn with
  | nil => simp [ClosedBefore, Windows.Started, windowsAfter, Windows.empty]
  | append_singleton events event ih =>
    rw [windowsAfter_concat, handle_started (run_watched events), ih, closedBefore_concat]

theorem windowsAfter_created (events : List (WindowEvent Form Control)) (wb : CefWb Form Control) :
    wb ∈ (windowsAfter events).registry.created ↔
      ∃ before event after, events = before ++ event :: after ∧
        (windowsAfter before).created event = some wb := by
  induction events using List.reverseRecOn with
  | nil => simp [windowsAfter, Windows.empty, Registry.empty]
  | append_singleton events event ih =>
    rw [exists_concat, ← ih, windowsAfter_concat, Windows.handle_created (run_watched events), List.mem_append,
      Option.mem_toList]

theorem createdIn_iff (form : Form) (id : Nat) (events : List (WindowEvent Form Control)) :
    CreatedIn form id events ↔
      ∃ wb ∈ (windowsAfter events).registry.created, wb.parentForm = form ∧ wb.id = id := by
  constructor
  · rintro ⟨before, event, after, wb, split, created, owner, number⟩
    exact ⟨wb, (windowsAfter_created events wb).mpr ⟨before, event, after, split, created⟩, owner, number⟩
  · rintro ⟨wb, member, owner, number⟩
    obtain ⟨before, event, after, split, created⟩ := (windowsAfter_created events wb).mp member
    exact ⟨before, event, after, wb, split, created, owner, number⟩

theorem reportedIn_iff (id : Nat) (events : List (WindowEvent Form Control)) :
    ReportedIn id events ↔ id ∈ (windowsAfter events).registry.delivered := by
  induction events using List.reverseRecOn with
  | nil => simp [ReportedIn, windowsAfter, Windows.empty, Registry.empty]
  | append_singleton events event ih =>
    rw [ReportedIn, exists_concat, ← ReportedIn, ih, windowsAfter_concat,
      Windows.handle_delivered (run_watched events)]

omit [DecidableEq Control] in
/-- A form without a window object has no browsers. -/
theorem Watched.pending_nil {windows : Windows Form Control} (watched : Watched windows) {form : Form}
    (unhooked : windows.forms form = none) : windows.registry.pending form = [] := by
  rw [pending_nil_iff]
  intro wb member owner
  exact absurd (owner ▸ unhooked) (watched.hooked wb member)

/-- None of the browsers of a form is pending when those that events created have reported. -/
theorem run_pending_nil_iff (events : List (WindowEvent Form Control)) (form : Form) :
    (windowsAfter events).registry.pending form = [] ↔
      ∀ id, CreatedIn form id events → ReportedIn id events := by
  rw [pending_nil_iff]
  simp only [createdIn_iff, reportedIn_iff]
  constructor
  · rintro all id ⟨wb, member, owner, rfl⟩
    exact all wb member owner
  · exact fun all wb member owner => all wb.id ⟨wb, member, owner, rfl⟩

theorem CreatedIn.more {form : Form} {id : Nat} {events : List (WindowEvent Form Control)}
    (created : CreatedIn form id events) (others : List (WindowEvent Form Control)) :
    CreatedIn form id (events ++ others) := by
  obtain ⟨before, event, after, wb, rfl, rest⟩ := created
  exact ⟨before, event, after ++ others, wb, by simp, rest⟩

theorem ReportedIn.more {id : Nat} {events : List (WindowEvent Form Control)}
    (reported : ReportedIn id events) (others : List (WindowEvent Form Control)) :
    ReportedIn id (events ++ others) := by
  obtain ⟨before, event, after, rfl, rest⟩ := reported
  exact ⟨before, event, after ++ others, by simp, rest⟩

/-- Until a first closing the list of a form holds all pending browsers. -/
theorem run_listedFrom {form : Form} {events : List (WindowEvent Form Control)}
    (first : ¬ ClosedBefore form events) : ListedFrom 0 form (windowsAfter events).registry := by
  induction events using List.reverseRecOn with
  | nil => exact listedFrom_empty
  | append_singleton events event ih =>
    rw [closedBefore_concat, not_or] at first
    rw [windowsAfter_concat]
    apply handle_listedFrom (run_watched events) (ih first.1)
    rintro turns rfl
    left
    by_contra hooked
    exact first.2 ⟨hooked, turns, rfl⟩

/-- A closing goes through the browsers of a form if it disposes them without an exception. -/
theorem goesThrough_iff (form : Form) (turns : List Turn) (before : List (WindowEvent Form Control)) :
    GoesThrough form turns before ↔
      (windowsAfter before).forms form ≠ none ∧ ¬ ClosedBefore form before ∧
        ((windowsAfter before).registry.disposeAllChildWebBrowserControls form turns).1 = none := by
  constructor
  · rintro ⟨hooked, first, orderly⟩
    have listed := run_listedFrom first
    refine ⟨hooked, first, ?_⟩
    rw [disposeAll_completes_iff listed.sound, listed.all]
    exact orderly
  · rintro ⟨hooked, first, completed⟩
    have listed := run_listedFrom first
    refine ⟨hooked, first, ?_⟩
    rw [disposeAll_completes_iff listed.sound, listed.all] at completed
    exact completed

/-- A timer that runs was started by a closing that went through. -/
theorem waiting_started {form : Form} {events : List (WindowEvent Form Control)}
    (waiting : (windowsAfter events).Waiting form) :
    ∃ before turns between, events = before ++ .close form turns :: between ∧
      GoesThrough form turns before := by
  induction events using List.reverseRecOn with
  | nil => simp [windowsAfter, Windows.empty, Windows.Waiting] at waiting
  | append_singleton events event ih =>
    rw [windowsAfter_concat, handle_waiting (run_watched events)] at waiting
    rcases waiting with ⟨earlier, -⟩ | ⟨hooked, unstarted, turns, rfl, completed⟩
    · obtain ⟨before, turns, between, rfl, through⟩ := ih earlier
      exact ⟨before, turns, between ++ [event], by simp, through⟩
    · refine ⟨events, turns, [], rfl, (goesThrough_iff form turns events).mpr ⟨hooked, ?_, completed⟩⟩
      rw [← run_started]
      exact unstarted

/-- After a closing that went through, the list of the form holds the browsers that were created
since, and the timer runs until a tick has found the form ready. -/
theorem run_through {form : Form} {turns : List Turn} {before : List (WindowEvent Form Control)}
    (through : GoesThrough form turns before) (between : List (WindowEvent Form Control)) :
    ListedFrom (windowsAfter before).registry.created.length form
        (windowsAfter (before ++ .close form turns :: between)).registry ∧
      (windowsAfter (before ++ .close form turns :: between)).Started form ∧
      ((windowsAfter (before ++ .close form turns :: between)).Waiting form ∨
        ∃ front back, between = front ++ .tick form :: back ∧
          (windowsAfter (before ++ .close form turns :: front)).Waiting form ∧
          (windowsAfter (before ++ .close form turns :: front)).registry.isReadyToClose form = true) := by
  obtain ⟨hooked, first, completed⟩ := (goesThrough_iff form turns before).mp through
  induction between using List.reverseRecOn with
  | nil =>
    have unstarted : ¬ (windowsAfter before).Started form := by
      rw [run_started]
      exact first
    have watched := run_watched before
    rw [windowsAfter_concat]
    refine ⟨?_, ?_, .inl ?_⟩
    · rcases close_cases (windowsAfter before) form turns with ⟨free, -⟩ | ⟨-, -, check, -, held⟩
      · exact absurd free (not_or.mpr ⟨hooked, unstarted⟩)
      · rw [Windows.handle, Windows.step, held]
        exact disposeAll_anew (run_listedFrom first) completed
    · exact (handle_started watched _ form).mpr (.inr ⟨hooked, turns, rfl⟩)
    · exact (handle_waiting watched _ form).mpr (.inr ⟨hooked, unstarted, turns, rfl, completed⟩)
  | append_singleton between event ih =>
    obtain ⟨listed, started, timer⟩ := ih
    have watched := run_watched (before ++ .close form turns :: between)
    have longer : before ++ .close form turns :: (between ++ [event]) =
        (before ++ .close form turns :: between) ++ [event] := by simp
    rw [longer, windowsAfter_concat]
    refine ⟨handle_listedFrom watched listed event fun _ _ => .inr started,
      (handle_started watched event form).mpr (.inl started), ?_⟩
    rcases timer with waiting | ⟨front, back, rfl, rest⟩
    · by_cases stops : event = .tick form ∧
          (windowsAfter (before ++ .close form turns :: between)).registry.isReadyToClose form = true
      · obtain ⟨rfl, ready⟩ := stops
        exact .inr ⟨between, [], rfl, waiting, ready⟩
      · exact .inl ((handle_waiting watched event form).mpr (.inl ⟨waiting, stops⟩))
    · exact .inr ⟨front, back ++ [event], by simp, rest⟩

theorem created_more (before between : List (WindowEvent Form Control)) :
    (windowsAfter before).registry.created <+: (windowsAfter (before ++ between)).registry.created := by
  induction between using List.reverseRecOn with
  | nil => rw [List.append_nil]
  | append_singleton between event ih =>
    rw [← List.append_assoc, windowsAfter_concat, Windows.handle_created (run_watched _)]
    exact ih.trans (List.prefix_append _ _)

/-- After a closing that went through, a form is ready exactly when the browsers that were
created since have reported. -/
theorem run_ready_iff {form : Form} {turns : List Turn} {before : List (WindowEvent Form Control)}
    (through : GoesThrough form turns before) (between : List (WindowEvent Form Control)) :
    (windowsAfter (before ++ .close form turns :: between)).registry.isReadyToClose form = true ↔
      ∀ id, CreatedIn form id (before ++ .close form turns :: between) → ¬ CreatedIn form id before →
        ReportedIn id (before ++ .close form turns :: between) := by
  obtain ⟨listed, -⟩ := run_through through between
  obtain ⟨more, created⟩ := created_more before (.close form turns :: between)
  rw [isReadyToClose_iff, listed.nil_iff]
  simp only [createdIn_iff, reportedIn_iff]
  constructor
  · rintro all id ⟨wb, member, owner, rfl⟩ late
    apply all wb member owner
    rw [← created, List.mem_append] at member
    rcases member with earlier | since
    · exact absurd ⟨wb, earlier, owner, rfl⟩ late
    · obtain ⟨place, found⟩ := List.mem_iff_getElem?.mp since
      have number : wb.id = (windowsAfter before).registry.created.length + place := by
        apply listed.sound.find
        rw [← created, List.getElem?_append_right (Nat.le_add_right _ _), Nat.add_sub_cancel_left, found]
      omega
  · intro all wb member owner late
    refine all wb.id ⟨wb, member, owner, rfl⟩ ?_
    rintro ⟨other, earlier, -, same⟩
    have bound : other.id < (windowsAfter before).registry.created.length :=
      (run_listedFrom through.first).sound.bound earlier
    omega

/-- No form closes while one of its browsers is pending, exactly if the browsers report in
time. Those of a form that closes again have reported before that. If a first closing
went through the browsers of a form, those that were created before it have reported
before any tick by which those created since have. -/
theorem closes_iff (events : List (WindowEvent Form Control)) :
    EachStep Windows.handle Windows.empty Windows.ClosesSafely events ↔
      (∀ before form turns after, events = before ++ .close form turns :: after →
        ClosedBefore form before → ∀ id, CreatedIn form id before → ReportedIn id before) ∧
      (∀ before form turns between after,
        events = before ++ .close form turns :: (between ++ .tick form :: after) →
        GoesThrough form turns before →
        (∀ id, CreatedIn form id (before ++ .close form turns :: between) → ¬ CreatedIn form id before →
          ReportedIn id (before ++ .close form turns :: between)) →
        ∀ id, CreatedIn form id before → ReportedIn id (before ++ .close form turns :: between)) := by
  constructor
  · intro each
    constructor
    · intro before form turns after split earlier
      have started := (run_started before form).mpr earlier
      rw [← run_pending_nil_iff]
      apply each before (.close form turns) after split
      rcases close_cases (windowsAfter before) form turns with ⟨-, through⟩ | ⟨-, unstarted, -⟩
      · exact congrArg Prod.fst through
      · exact absurd started unstarted
    · intro before form turns between after split through since id created
      rw [← run_ready_iff through] at since
      -- The form closes at this tick, or an earlier tick has closed it.
      obtain ⟨front, rest, back, rfl, tail, waiting, ready⟩ : ∃ front rest back,
          between = front ++ rest ∧ rest ++ .tick form :: after = .tick form :: back ∧
            (windowsAfter (before ++ .close form turns :: front)).Waiting form ∧
            (windowsAfter (before ++ .close form turns :: front)).registry.isReadyToClose form = true := by
        obtain ⟨-, -, waiting | ⟨front, back, rfl, waiting, ready⟩⟩ := run_through through between
        · exact ⟨between, [], after, (List.append_nil _).symm, rfl, waiting, since⟩
        · exact ⟨front, .tick form :: back, back ++ .tick form :: after, rfl, rfl, waiting, ready⟩
      have closes : ((windowsAfter (before ++ .close form turns :: front)).step (.tick form)).1 = some form := by
        rcases tick_cases (run_watched (before ++ .close form turns :: front)) form with
          ⟨neither, -⟩ | ⟨-, -, closed⟩
        · exact absurd ⟨waiting, ready⟩ neither
        · exact congrArg Prod.fst closed
      have none := each (before ++ .close form turns :: front) (.tick form) back
        (by rw [split, List.append_assoc, tail]; simp) form closes
      have reported := (run_pending_nil_iff _ form).mp none id (created.more _)
      simpa using reported.more rest
  · rintro ⟨requests, ticks⟩ before event after split form closes
    cases event with
    | register other => cases closes
    | create other control hasParent => cases closes
    | notifyBrowserClosed id => cases closes
    | close other turns =>
      rcases close_cases (windowsAfter before) other turns with ⟨free, through⟩ | ⟨-, -, check, -, held⟩
      · have same := (congrArg Prod.fst through).symm.trans closes
        cases same
        rcases free with unhooked | started
        · exact (run_watched before).pending_nil unhooked
        · rw [run_pending_nil_iff]
          exact requests before form turns after split ((run_started before form).mp started)
      · cases (congrArg Prod.fst held).symm.trans closes
    | tick other =>
      rcases tick_cases (run_watched before) other with ⟨-, idle⟩ | ⟨waiting, ready, closed⟩
      · cases (congrArg Prod.fst idle).symm.trans closes
      · cases (congrArg Prod.fst closed).symm.trans closes
        obtain ⟨front, turns, between, rfl, through⟩ := waiting_started waiting
        rw [run_ready_iff through] at ready
        have earlier := ticks front form turns between after (by simp [split]) through ready
        rw [run_pending_nil_iff]
        intro id created
        by_cases old : CreatedIn form id front
        · exact earlier id old
        · exact ready id created old

/-- A second request closes the form over its browser, and so does the first tick. -/
theorem closes_early :
    ¬ EachStep Windows.handle (Windows.empty : Windows Nat Nat) Windows.ClosesSafely
        [.create 0 0 true, .close 0 [], .close 0 []] ∧
      ¬ EachStep Windows.handle (Windows.empty : Windows Nat Nat) Windows.ClosesSafely
        [.create 0 0 true, .close 0 [], .tick 0] := by
  constructor
  · intro each
    exact absurd (each [.create 0 0 true, .close 0 []] (.close 0 []) [] rfl 0 (by decide)) (by decide)
  · intro each
    exact absurd (each [.create 0 0 true, .close 0 []] (.tick 0) [] rfl 0 (by decide)) (by decide)

end Runs

end CefBridge.Managed
