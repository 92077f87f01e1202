import CefBridge.Managed.Disposal

/-!
# Forms that are ready to close

A call that goes through all browsers of a form removes the entry of the form, and
a form without an entry counts as ready. `readyToClose_iff` says when a form is
ready exactly while none of its browsers is pending.
-/

namespace CefBridge.Managed

open Library Runs
open Patcher (Fault)

variable {Form Control : Type} [DecidableEq Form] [DecidableEq Control]

section Answers

omit [DecidableEq Control] in
theorem remove_faithful {registry : Registry Form Control} (faithful : Faithful registry)
    {form : Form} (none : registry.pending form = []) : Faithful (registry.remove form) := by
  refine ⟨faithful.numbered, faithful.known, fun other => ?_⟩
  have still : (registry.remove form).pending other = registry.pending other := rfl
  rw [still]
  by_cases same : other = form
  · rw [same, none]
    simp [Registry.registered, Registry.remove]
  · rw [← faithful.listed]
    simp [Registry.registered, Registry.remove, same]

omit [DecidableEq Control] in
/-- A form without an entry counts as ready. -/
theorem remove_truthful {registry : Registry Form Control} {form : Form}
    (truthful : (registry.remove form).Truthful) : registry.pending form = [] := by
  have ready : (registry.remove form).isReadyToClose form = true := by
    simp [Registry.isReadyToClose, Registry.remove]
  exact (pending_nil_iff registry form).mpr ((truthful form).mp ready)

/-- A call that disposes browsers is cut short, or it goes through all of them and removes
the entry of the form. -/
theorem disposeAll_cases {registry : Registry Form Control} (faithful : Faithful registry)
    (ownerForm : Form) (turns : List Turn) :
    (¬ Orderly (registry.pending ownerForm).reverse turns registry.disposed ∧
      (registry.disposeAllChildWebBrowserControls ownerForm turns).1 ≠ none ∧
      Faithful (registry.disposeAllChildWebBrowserControls ownerForm turns).2) ∨
    (Orderly (registry.pending ownerForm).reverse turns registry.disposed ∧
      ∃ last, registry.disposeAllChildWebBrowserControls ownerForm turns = (none, last.remove ownerForm) ∧
        Faithful last ∧
        Reported (reportsOf (registry.pending ownerForm).length turns) registry last) := by
  have listed := faithful.listed ownerForm
  cases entry : registry.registerTopWindowForms ownerForm with
  | none =>
    rw [Registry.registered, entry, Option.getD_none] at listed
    rw [← listed]
    have same : registry.remove ownerForm = registry := by
      rw [Registry.remove, ← entry, Function.update_eq_self]
    refine .inr ⟨trivial, registry, ?_, faithful, Reported.refl registry⟩
    rw [same]
    simp only [Registry.disposeAllChildWebBrowserControls, entry]
  | some foundList =>
    have found : registry.registered ownerForm = foundList := by
      rw [Registry.registered, entry, Option.getD_some]
    rw [← listed, found]
    have completes := disposeLoop_completes_iff ownerForm foundList [] turns faithful.sound
      (by rw [found, List.append_nil]) (List.forall_mem_nil _)
    have kept := disposeLoop_faithful ownerForm foundList.length turns faithful
    have reported := disposeLoop_completed ownerForm foundList.length turns registry
    cases loop : registry.disposeLoop ownerForm foundList.length turns with
    | mk outcome last =>
      rw [loop] at completes kept reported
      cases outcome with
      | some fault =>
        have result : registry.disposeAllChildWebBrowserControls ownerForm turns = (some fault, last) := by
          simp only [Registry.disposeAllChildWebBrowserControls, entry, loop]
        rw [result]
        refine .inl ⟨fun orderly => ?_, Option.some_ne_none _, kept⟩
        cases completes.mpr orderly
      | none =>
        have result : registry.disposeAllChildWebBrowserControls ownerForm turns =
            (none, last.remove ownerForm) := by
          simp only [Registry.disposeAllChildWebBrowserControls, entry, loop]
        exact .inr ⟨completes.mp rfl, last, result, kept, reported rfl⟩

/-- In a call that goes through all browsers of a form, those that are still pending
report. -/
def Registry.AllReport (registry : Registry Form Control) : RegistryEvent Form Control → Prop
  | .disposeAll ownerForm turns =>
    Orderly (registry.pending ownerForm).reverse turns registry.disposed →
      ∀ wb ∈ registry.pending ownerForm, wb.id ∈ reportsOf (registry.pending ownerForm).length turns
  | _ => True

theorem handle_faithful {registry : Registry Form Control} {event : RegistryEvent Form Control}
    (faithful : Faithful registry) (report : registry.AllReport event) :
    Faithful (registry.handle event) := by
  cases event with
  | create form control hasParent => exact create_faithful faithful form control hasParent
  | notifyBrowserClosed id => exact notify_faithful faithful id
  | disposeAll ownerForm turns =>
    rcases disposeAll_cases faithful ownerForm turns with
      ⟨-, -, kept⟩ | ⟨orderly, last, result, kept, reported⟩
    · exact kept
    · rw [Registry.handle, result]
      exact remove_faithful kept ((reported.pending_nil_iff faithful.sound ownerForm).mpr (report orderly))

theorem handle_untruthful {registry : Registry Form Control} {event : RegistryEvent Form Control}
    (faithful : Faithful registry) (missed : ¬ registry.AllReport event) :
    ¬ (registry.handle event).Truthful := by
  cases event with
  | create form control hasParent => exact absurd trivial missed
  | notifyBrowserClosed id => exact absurd trivial missed
  | disposeAll ownerForm turns =>
    intro truthful
    apply missed
    intro orderly
    rcases disposeAll_cases faithful ownerForm turns with
      ⟨cut, -, -⟩ | ⟨-, last, result, kept, reported⟩
    · exact absurd orderly cut
    · rw [Registry.handle, result] at truthful
      exact (reported.pending_nil_iff faithful.sound ownerForm).mp (remove_truthful truthful)

/-- In every state of a run, a form is ready to close exactly when all its browsers have
reported, if and only if in each call that goes through the browsers of a form,
those that are pending report during the call. -/
theorem readyToClose_iff (events : List (RegistryEvent Form Control)) :
    EachState Registry.handle Registry.empty Registry.Truthful events ↔
      EachStep Registry.handle Registry.empty Registry.AllReport events :=
  eachState_iff_eachStep faithful_empty (fun _ faithful => faithful.truthful)
    (fun _ _ => handle_faithful) (fun _ _ => handle_untruthful) events

/-- A form whose only browser is disposed without a report is ready at once. -/
theorem readyToClose_early :
    ¬ EachState Registry.handle (Registry.empty : Registry Nat Nat) Registry.Truthful
      [.create 0 0 true, .disposeAll 0 []] := by
  intro each
  have last := (each.last 0).mp (by decide)
  exact absurd last (by decide)

end Answers

end CefBridge.Managed
