import CefBridge.Managed.Disposal

/-!
# The list of one form

When the entry of a form is removed its list starts anew. From then on it holds the
pending browsers with numbers from that moment on, whatever becomes of other forms.
-/

namespace CefBridge.Managed

open Library

variable {Form Control : Type} [DecidableEq Form]

/-- The list of a form holds its pending browsers from a number on. -/
structure ListedFrom (first : Nat) (form : Form) (registry : Registry Form Control) : Prop where
  sound : Sound registry
  known : ∀ id ∈ registry.delivered, id < registry.created.length
  bound : first ≤ registry.created.length
  listed : registry.registered form = (registry.pending form).filter fun wb => first ≤ wb.id

variable {first : Nat} {form : Form} {registry : Registry Form Control}

theorem listedFrom_empty : ListedFrom 0 form (Registry.empty : Registry Form Control) :=
  ⟨sound_empty, nofun, Nat.le_refl 0, rfl⟩

/-- A form whose list starts with the first browser has all pending ones on it. -/
theorem ListedFrom.all (listed : ListedFrom 0 form registry) :
    registry.registered form = registry.pending form := by
  rw [listed.listed, List.filter_eq_self]
  intro wb member
  simp

/-- The list is empty when all browsers from the number on have reported. -/
theorem ListedFrom.nil_iff (listed : ListedFrom first form registry) :
    registry.registered form = [] ↔
      ∀ wb ∈ registry.created, wb.parentForm = form → first ≤ wb.id → wb.id ∈ registry.delivered := by
  rw [listed.listed, Registry.pending, List.filter_filter, List.filter_eq_nil_iff]
  simp only [Bool.and_eq_true, decide_eq_true_eq, not_and, not_not]
  exact forall₂_congr fun wb _ => ⟨fun none owner late => none late owner, fun none late owner => none owner late⟩

section Steps

variable [DecidableEq Control]

theorem notify_listedFrom (listed : ListedFrom first form registry) (id : Nat) :
    ListedFrom first form (registry.notifyBrowserClosed id) := by
  have reported := notify_reported registry id
  constructor
  · exact notify_sound listed.sound id
  · exact reported.known listed.known
  · rw [reported.created]
    exact listed.bound
  · rw [notify_registered listed.sound, reported.pending listed.sound, listed.listed, List.filter_filter,
      List.filter_filter]
    exact List.filter_congr fun wb _ => Bool.and_comm ..

theorem notifyAll_listedFrom (listed : ListedFrom first form registry) (ids : List Nat) :
    ListedFrom first form (registry.notifyAll ids) := by
  induction ids generalizing registry with
  | nil => exact listed
  | cons id rest ih => exact ih (notify_listedFrom listed id)

theorem create_listedFrom (listed : ListedFrom first form registry) (other : Form) (control : Control)
    (hasParent : Bool) : ListedFrom first form (registry.create other control hasParent) := by
  by_cases gone : control ∈ registry.disposed
  · rw [Registry.create, if_pos gone]
    exact listed
  · have created := create_created gone other hasParent
    have delivered : (registry.create other control hasParent).delivered = registry.delivered := by
      rw [Registry.create, if_neg gone]
      rfl
    have unreported : registry.created.length ∉ registry.delivered := fun reported =>
      absurd (listed.known _ reported) (lt_irrefl _)
    have bound := listed.bound
    constructor
    · exact create_sound listed.sound other control hasParent
    · intro id reported
      rw [delivered] at reported
      have bound := listed.known id reported
      rw [created, List.length_append]
      omega
    · rw [created, List.length_append]
      omega
    · rw [create_registered listed.sound gone, listed.listed, Registry.pending, Registry.pending, created,
        delivered, List.filter_append, List.filter_append]
      by_cases same : other = form
      · simp [unreported, same, bound]
      · simp [same]

theorem disposeOne_listedFrom (listed : ListedFrom first form registry) (wb : CefWb Form Control)
    (turn : Turn) : ListedFrom first form (registry.disposeOne wb turn).2 := by
  have asked : ListedFrom first form (registry.notifyCloseBw wb) :=
    ⟨notifyCloseBw_sound listed.sound wb, listed.known, listed.bound, listed.listed⟩
  have notified := notifyAll_listedFrom asked turn.notifying
  have gone : ListedFrom first form (((registry.notifyCloseBw wb).notifyAll turn.notifying).disposeControl wb) :=
    ⟨disposeControl_sound notified.sound wb, notified.known, notified.bound, notified.listed⟩
  rw [Registry.disposeOne]
  split
  · exact notified
  · exact notifyAll_listedFrom gone turn.disposing

/-- The list of a form does not depend on what becomes of another form. -/
theorem disposeAll_other (listed : ListedFrom first form registry) {ownerForm : Form}
    (other : ownerForm ≠ form) (turns : List Turn) :
    ListedFrom first form (registry.disposeAllChildWebBrowserControls ownerForm turns).2 := by
  apply disposeAll_invariant (ListedFrom first form)
    (fun _ wb turn kept => disposeOne_listedFrom kept wb turn) ownerForm turns _ listed
  intro last kept
  refine ⟨remove_sound kept.sound ownerForm, kept.known, kept.bound, ?_⟩
  have still : (last.remove ownerForm).registered form = last.registered form := by
    simp [Registry.registered, Registry.remove, other.symm]
  have pending : (last.remove ownerForm).pending form = last.pending form := rfl
  rw [still, pending, kept.listed]

/-- A call goes through all browsers of a form exactly when they are orderly. -/
theorem disposeAll_completes_iff (sound : Sound registry) (ownerForm : Form) (turns : List Turn) :
    (registry.disposeAllChildWebBrowserControls ownerForm turns).1 = none ↔
      Orderly (registry.registered ownerForm).reverse turns registry.disposed := by
  rw [Registry.disposeAllChildWebBrowserControls]
  cases entry : registry.registerTopWindowForms ownerForm with
  | none => simp [Registry.registered, entry, Orderly]
  | some foundList =>
    have found : registry.registered ownerForm = foundList := by
      rw [Registry.registered, entry, Option.getD_some]
    have completes := disposeLoop_completes_iff ownerForm foundList [] turns sound
      (by rw [found, List.append_nil]) (List.forall_mem_nil _)
    rw [found, ← completes]
    cases loop : registry.disposeLoop ownerForm foundList.length turns with
    | mk outcome last => cases outcome <;> simp [loop]

/-- A call that goes through all browsers of a form leaves it without an entry. -/
theorem disposeAll_removed {ownerForm : Form} {turns : List Turn}
    (completed : (registry.disposeAllChildWebBrowserControls ownerForm turns).1 = none) :
    (registry.disposeAllChildWebBrowserControls ownerForm turns).2.registered ownerForm = [] := by
  rw [Registry.disposeAllChildWebBrowserControls] at completed ⊢
  cases entry : registry.registerTopWindowForms ownerForm with
  | none => simp [Registry.registered, entry]
  | some foundList =>
    simp only [entry] at completed ⊢
    cases loop : registry.disposeLoop ownerForm foundList.length turns with
    | mk outcome last =>
      cases outcome with
      | some fault => simp [loop] at completed
      | none => simp [Registry.registered, Registry.remove]

/-- After such a call the list starts anew. -/
theorem disposeAll_anew (listed : ListedFrom first form registry) {turns : List Turn}
    (completed : (registry.disposeAllChildWebBrowserControls form turns).1 = none) :
    ListedFrom registry.created.length form (registry.disposeAllChildWebBrowserControls form turns).2 := by
  have reported := disposeAll_heard registry form turns
  have sound := disposeAll_sound listed.sound form turns
  constructor
  · exact sound
  · exact reported.known listed.known
  · rw [reported.created]
  · rw [disposeAll_removed completed, eq_comm, List.filter_eq_nil_iff]
    intro wb member
    have bound := sound.bound (List.mem_of_mem_filter member)
    rw [reported.created] at bound
    simp only [decide_eq_true_eq]
    omega

end Steps

end CefBridge.Managed
