import CefBridge.Library.Runs
import CefBridge.Patcher.Runtime
import Mathlib.Data.List.Nodup
import Mathlib.Data.List.Range
import Mathlib.Logic.Function.Basic

/-!
# The registry of browsers by form

A static dictionary keeps a list of browsers for every form. A new browser joins
the list of its form. When the native side reports that it is closed, it leaves
the list. A form that closes asks all its browsers to close and disposes their
controls, the last one first, and then its whole entry is removed. A form is
ready to close when it has no entry or an empty list.

Reports come at any time, also while the controls of a form are being disposed.
A browser that has not reported yet is pending. The lists are sound in every state:
a list holds browsers of its form, each once. They are faithful while they hold
the pending browsers.
-/

namespace CefBridge.Managed

open Library Runs
open Patcher (Fault)

/-- A browser, as the registry sees it. A form that is used as the control of a
browser has no parent. -/
structure CefWb (Form Control : Type) where
  id : Nat
  parentForm : Form
  parentControl : Control
  hasParent : Bool
  deriving DecidableEq

/-- The reports that come in while a browser is asked to close, and while its control
is disposed. -/
structure Turn where
  notifying : List Nat := []
  disposing : List Nat := []
  deriving DecidableEq

def Turn.reports (turn : Turn) : List Nat := turn.notifying ++ turn.disposing

structure Registry (Form Control : Type) where
  registerTopWindowForms : Form → Option (List (CefWb Form Control))
  created : List (CefWb Form Control)
  /-- The browsers that reported that they are closed. -/
  delivered : List Nat
  /-- The browsers that were asked to close. -/
  closing : List Nat
  /-- The controls that were disposed. -/
  disposed : List Control

variable {Form Control : Type}

def Registry.empty : Registry Form Control := ⟨fun _ => none, [], [], [], []⟩

/-- The list of a form, if it has one. -/
def Registry.registered (registry : Registry Form Control) (form : Form) : List (CefWb Form Control) :=
  (registry.registerTopWindowForms form).getD []

def Registry.isReadyToClose (registry : Registry Form Control) (winForm : Form) : Bool :=
  match registry.registerTopWindowForms winForm with
  | some cefBrowserList => cefBrowserList.length = 0
  | none => true

theorem isReadyToClose_iff (registry : Registry Form Control) (form : Form) :
    registry.isReadyToClose form = true ↔ registry.registered form = [] := by
  rw [Registry.isReadyToClose, Registry.registered]
  cases registry.registerTopWindowForms form with
  | none => simp
  | some list => simp

variable [DecidableEq Form]

/-- The browsers of a form that have not reported yet. -/
def Registry.pending (registry : Registry Form Control) (form : Form) : List (CefWb Form Control) :=
  registry.created.filter fun wb => wb.parentForm = form ∧ wb.id ∉ registry.delivered

/-- A form is ready to close exactly when every browser created under it has
reported. -/
def Registry.Truthful (registry : Registry Form Control) : Prop :=
  ∀ form, registry.isReadyToClose form = true ↔
    ∀ wb ∈ registry.created, wb.parentForm = form → wb.id ∈ registry.delivered

section Invariant

/-- Browsers are numbered, and the list of a form holds browsers of that form, each once. -/
structure Sound (registry : Registry Form Control) : Prop where
  numbered : registry.created.map CefWb.id = List.range registry.created.length
  within : ∀ form, ∀ wb ∈ registry.registered form, wb ∈ registry.created ∧ wb.parentForm = form
  distinct : ∀ form, (registry.registered form).Nodup

/-- Browsers are numbered, and the list of a form holds its pending browsers. -/
structure Faithful (registry : Registry Form Control) : Prop where
  numbered : registry.created.map CefWb.id = List.range registry.created.length
  known : ∀ id ∈ registry.delivered, id < registry.created.length
  listed : ∀ form, registry.registered form = registry.pending form

theorem pending_nil_iff (registry : Registry Form Control) (form : Form) :
    registry.pending form = [] ↔
      ∀ wb ∈ registry.created, wb.parentForm = form → wb.id ∈ registry.delivered := by
  rw [Registry.pending, List.filter_eq_nil_iff]
  simp

theorem Faithful.truthful {registry : Registry Form Control} (faithful : Faithful registry) :
    registry.Truthful := by
  intro form
  rw [isReadyToClose_iff, faithful.listed, pending_nil_iff]

omit [DecidableEq Form] in
theorem numbers_nodup {registry : Registry Form Control}
    (numbered : registry.created.map CefWb.id = List.range registry.created.length) :
    (registry.created.map CefWb.id).Nodup := by
  rw [numbered]
  exact List.nodup_range

theorem Faithful.sound {registry : Registry Form Control} (faithful : Faithful registry) :
    Sound registry := by
  refine ⟨faithful.numbered, fun form wb member => ?_, fun form => ?_⟩
  · rw [faithful.listed, Registry.pending, List.mem_filter, decide_eq_true_eq] at member
    exact ⟨member.1, member.2.1⟩
  · rw [faithful.listed]
    exact (List.Nodup.of_map _ (numbers_nodup faithful.numbered)).filter _

omit [DecidableEq Form] in
theorem Sound.find {registry : Registry Form Control} (sound : Sound registry)
    {wb : CefWb Form Control} {id : Nat} (found : registry.created[id]? = some wb) : wb.id = id := by
  obtain ⟨bound, -⟩ := List.getElem?_eq_some_iff.mp found
  have mapped : (registry.created.map CefWb.id)[id]? = some wb.id := by
    rw [List.getElem?_map, found]
    rfl
  rw [sound.numbered, List.getElem?_range bound] at mapped
  exact (Option.some.inj mapped).symm

omit [DecidableEq Form] in
theorem Sound.bound {registry : Registry Form Control} (sound : Sound registry)
    {wb : CefWb Form Control} (member : wb ∈ registry.created) : wb.id < registry.created.length := by
  have listed : wb.id ∈ registry.created.map CefWb.id := List.mem_map_of_mem member
  rwa [sound.numbered, List.mem_range] at listed

omit [DecidableEq Form] in
/-- Browsers of one number are one browser. -/
theorem Sound.same {registry : Registry Form Control} (sound : Sound registry)
    {wb other : CefWb Form Control} (member : wb ∈ registry.created) (among : other ∈ registry.created)
    (equal : wb.id = other.id) : wb = other :=
  List.inj_on_of_nodup_map (numbers_nodup sound.numbered) member among equal

omit [DecidableEq Form] in
theorem sound_empty : Sound (Registry.empty : Registry Form Control) :=
  ⟨rfl, nofun, fun _ => List.nodup_nil⟩

omit [DecidableEq Form] in
/-- A list that only loses browsers stays sound. -/
theorem Sound.narrowed {before after : Registry Form Control} (sound : Sound before)
    (created : after.created = before.created)
    (lists : ∀ form, ∃ kept : CefWb Form Control → Bool,
      after.registered form = (before.registered form).filter kept) : Sound after := by
  refine ⟨by rw [created]; exact sound.numbered, fun form wb member => ?_, fun form => ?_⟩
  · obtain ⟨kept, list⟩ := lists form
    rw [list] at member
    rw [created]
    exact sound.within form wb (List.mem_of_mem_filter member)
  · obtain ⟨kept, list⟩ := lists form
    rw [list]
    exact (sound.distinct form).filter kept

theorem faithful_empty : Faithful (Registry.empty : Registry Form Control) :=
  ⟨rfl, nofun, fun _ => rfl⟩

/-- No browser is created, and the browsers that report count as reported. -/
structure Reported (ids : List Nat) (before after : Registry Form Control) : Prop where
  created : after.created = before.created
  delivered : ∀ id, id ∈ after.delivered ↔
    id ∈ before.delivered ∨ id ∈ ids ∧ id < before.created.length

omit [DecidableEq Form] in
theorem Reported.refl (registry : Registry Form Control) : Reported [] registry registry :=
  ⟨rfl, by simp⟩

omit [DecidableEq Form] in
theorem Reported.trans {first second : List Nat} {before middle after : Registry Form Control}
    (one : Reported first before middle) (two : Reported second middle after) :
    Reported (first ++ second) before after := by
  refine ⟨two.created.trans one.created, fun id => ?_⟩
  rw [two.delivered, one.delivered, one.created, List.mem_append]
  tauto

omit [DecidableEq Form] in
/-- Only browsers that were created count as reported. -/
theorem Reported.known {ids : List Nat} {before after : Registry Form Control}
    (reported : Reported ids before after) (known : ∀ id ∈ before.delivered, id < before.created.length) :
    ∀ id ∈ after.delivered, id < after.created.length := by
  intro id member
  rw [reported.created]
  rcases (reported.delivered id).mp member with earlier | ⟨-, bound⟩
  · exact known id earlier
  · exact bound

/-- The browsers that reported are no longer pending. -/
theorem Reported.pending {ids : List Nat} {before after : Registry Form Control}
    (reported : Reported ids before after) (sound : Sound before) (form : Form) :
    after.pending form = (before.pending form).filter fun wb => wb.id ∉ ids := by
  rw [Registry.pending, Registry.pending, reported.created, List.filter_filter]
  apply List.filter_congr
  intro wb member
  have bound := sound.bound member
  rw [Bool.eq_iff_iff]
  simp only [decide_eq_true_eq, Bool.and_eq_true, reported.delivered, bound, and_true, not_or]
  tauto

/-- The browsers that are left pending are those that did not report. -/
theorem Reported.pending_nil_iff {ids : List Nat} {before after : Registry Form Control}
    (reported : Reported ids before after) (sound : Sound before) (form : Form) :
    after.pending form = [] ↔ ∀ wb ∈ before.pending form, wb.id ∈ ids := by
  rw [reported.pending sound, List.filter_eq_nil_iff]
  simp

end Invariant

variable [DecidableEq Control]

def Registry.registerCefWbControl (registry : Registry Form Control) (cefWb : CefWb Form Control) :
    Registry Form Control :=
  let foundList := (registry.registerTopWindowForms cefWb.parentForm).getD []
  { registry with
    registerTopWindowForms := Function.update registry.registerTopWindowForms cefWb.parentForm
      (some (if !foundList.contains cefWb then foundList ++ [cefWb] else foundList)) }

/-- Construct a browser. A control that was disposed raises an exception before
anything is registered. -/
def Registry.create (registry : Registry Form Control) (form : Form) (control : Control)
    (hasParent : Bool) : Registry Form Control :=
  if control ∈ registry.disposed then registry
  else
    let cefWb : CefWb Form Control := ⟨registry.created.length, form, control, hasParent⟩
    { registry.registerCefWbControl cefWb with created := registry.created ++ [cefWb] }

def Registry.cefBrowserControl_Disposed (registry : Registry Form Control)
    (wb : CefWb Form Control) : Registry Form Control :=
  match registry.registerTopWindowForms wb.parentForm with
  | none => registry
  | some wblist =>
    { registry with
      registerTopWindowForms := Function.update registry.registerTopWindowForms wb.parentForm
        (some (wblist.erase wb)) }

/-- A browser that was created reports that it is closed. -/
def Registry.notifyBrowserClosed (registry : Registry Form Control) (id : Nat) :
    Registry Form Control :=
  match registry.created[id]? with
  | none => registry
  | some wb => { registry with delivered := registry.delivered ++ [id] }.cefBrowserControl_Disposed wb

def Registry.notifyAll (registry : Registry Form Control) (ids : List Nat) : Registry Form Control :=
  ids.foldl Registry.notifyBrowserClosed registry

/-- Ask a browser to close. -/
def Registry.notifyCloseBw (registry : Registry Form Control) (wb : CefWb Form Control) :
    Registry Form Control :=
  { registry with closing := registry.closing ++ [wb.id] }

def Registry.disposeControl (registry : Registry Form Control) (wb : CefWb Form Control) :
    Registry Form Control :=
  { registry with disposed := registry.disposed ++ [wb.parentControl] }

/-- Ask a browser to close and dispose its control. The parent of a disposed control
cannot be asked for, and a form has none. -/
def Registry.disposeOne (registry : Registry Form Control) (mycefBw : CefWb Form Control)
    (turn : Turn) : Option Fault × Registry Form Control :=
  let registry := (registry.notifyCloseBw mycefBw).notifyAll turn.notifying
  if mycefBw.parentControl ∈ registry.disposed ∨ mycefBw.hasParent = false then
    (some .nullReference, registry)
  else (none, (registry.disposeControl mycefBw).notifyAll turn.disposing)

/-- Go through the list of a form as it is at each turn, from an index down. An
exception leaves what was done before it. -/
def Registry.disposeLoop (ownerForm : Form) : Nat → List Turn → Registry Form Control →
    Option Fault × Registry Form Control
  | 0, _, registry => (none, registry)
  | i + 1, turns, registry =>
    match (registry.registered ownerForm)[i]? with
    | none => (some .argumentOutOfRange, registry)
    | some mycefBw =>
      match registry.disposeOne mycefBw (turns.headD {}) with
      | (some fault, registry) => (some fault, registry)
      | (none, registry) => disposeLoop ownerForm i turns.tail registry

/-- Remove the entry of a form. -/
def Registry.remove (registry : Registry Form Control) (ownerForm : Form) : Registry Form Control :=
  { registry with
    registerTopWindowForms := Function.update registry.registerTopWindowForms ownerForm none }

def Registry.disposeAllChildWebBrowserControls (registry : Registry Form Control) (ownerForm : Form)
    (turns : List Turn) : Option Fault × Registry Form Control :=
  match registry.registerTopWindowForms ownerForm with
  | none => (none, registry)
  | some foundList =>
    match disposeLoop ownerForm foundList.length turns registry with
    | (some fault, registry) => (some fault, registry)
    | (none, registry) => (none, registry.remove ownerForm)

/-- What happens to the registry. A call that disposes browsers comes with the reports that
arrive during its turns. -/
inductive RegistryEvent (Form Control : Type) where
  | create (form : Form) (control : Control) (hasParent : Bool)
  | notifyBrowserClosed (id : Nat)
  | disposeAll (ownerForm : Form) (turns : List Turn)

def Registry.handle (registry : Registry Form Control) :
    RegistryEvent Form Control → Registry Form Control
  | .create form control hasParent => registry.create form control hasParent
  | .notifyBrowserClosed id => registry.notifyBrowserClosed id
  | .disposeAll ownerForm turns => (registry.disposeAllChildWebBrowserControls ownerForm turns).2

section Steps

theorem create_created {registry : Registry Form Control} {control : Control}
    (present : control ∉ registry.disposed) (form : Form) (hasParent : Bool) :
    (registry.create form control hasParent).created =
      registry.created ++ [⟨registry.created.length, form, control, hasParent⟩] := by
  rw [Registry.create, if_neg present]

/-- A new browser joins the list of its form. -/
theorem create_registered {registry : Registry Form Control} (sound : Sound registry)
    {control : Control} (present : control ∉ registry.disposed) (form : Form) (hasParent : Bool)
    (other : Form) :
    (registry.create form control hasParent).registered other =
      registry.registered other ++
        if form = other then [⟨registry.created.length, form, control, hasParent⟩] else [] := by
  rw [Registry.create, if_neg present]
  generalize made : (⟨registry.created.length, form, control, hasParent⟩ : CefWb Form Control) = wb
  have number : wb.id = registry.created.length := by simp [← made]
  have owner : wb.parentForm = form := by simp [← made]
  have fresh : wb ∉ registry.registered form := by
    intro member
    have bound := sound.bound (sound.within form wb member).1
    omega
  by_cases same : form = other
  · subst same
    rw [Registry.registered] at fresh
    simp [Registry.registered, Registry.registerCefWbControl, owner, fresh]
  · simp [Registry.registered, Registry.registerCefWbControl, owner, same, Ne.symm same]

theorem create_sound {registry : Registry Form Control} (sound : Sound registry) (form : Form)
    (control : Control) (hasParent : Bool) : Sound (registry.create form control hasParent) := by
  by_cases gone : control ∈ registry.disposed
  · rw [Registry.create, if_pos gone]
    exact sound
  · refine ⟨?_, fun other wb member => ?_, fun other => ?_⟩
    · rw [create_created gone]
      simp [sound.numbered, List.range_succ]
    · rw [create_registered sound gone, List.mem_append] at member
      rw [create_created gone, List.mem_append]
      rcases member with earlier | new
      · obtain ⟨among, owner⟩ := sound.within other wb earlier
        exact ⟨.inl among, owner⟩
      · by_cases same : form = other
        · rw [if_pos same, List.mem_singleton] at new
          exact ⟨.inr (List.mem_singleton.mpr new), new ▸ same⟩
        · rw [if_neg same] at new
          cases new
    · rw [create_registered sound gone]
      by_cases same : form = other
      · rw [if_pos same, List.nodup_append]
        refine ⟨sound.distinct other, List.nodup_singleton _, fun wb member new only => ?_⟩
        rw [List.mem_singleton] at only
        rintro rfl
        have bound := sound.bound (sound.within other wb member).1
        rw [only] at bound
        exact absurd bound (lt_irrefl _)
      · rw [if_neg same, List.append_nil]
        exact sound.distinct other

theorem create_faithful {registry : Registry Form Control} (faithful : Faithful registry)
    (form : Form) (control : Control) (hasParent : Bool) :
    Faithful (registry.create form control hasParent) := by
  by_cases gone : control ∈ registry.disposed
  · rw [Registry.create, if_pos gone]
    exact faithful
  · have created := create_created gone form hasParent
    have delivered : (registry.create form control hasParent).delivered = registry.delivered := by
      rw [Registry.create, if_neg gone]
      rfl
    have unreported : registry.created.length ∉ registry.delivered := by
      intro reported
      exact absurd (faithful.known _ reported) (lt_irrefl _)
    refine ⟨(create_sound faithful.sound form control hasParent).numbered, ?_, fun other => ?_⟩
    · intro id reported
      rw [delivered] at reported
      have bound := faithful.known id reported
      rw [created, List.length_append]
      omega
    · rw [create_registered faithful.sound gone, faithful.listed, Registry.pending, Registry.pending,
        created, delivered, List.filter_append]
      by_cases same : form = other
      · simp [unreported, same]
      · simp [same]

theorem disposed_registered (registry : Registry Form Control) (wb : CefWb Form Control)
    (form : Form) :
    (registry.cefBrowserControl_Disposed wb).registered form =
      if form = wb.parentForm then (registry.registered form).erase wb
      else registry.registered form := by
  rw [Registry.cefBrowserControl_Disposed]
  cases entry : registry.registerTopWindowForms wb.parentForm with
  | none =>
    by_cases same : form = wb.parentForm
    · simp [Registry.registered, same, entry]
    · simp [same]
  | some wblist =>
    by_cases same : form = wb.parentForm
    · simp [Registry.registered, same, entry]
    · simp [Registry.registered, same]

/-- A report changes the lists and the reports alone. -/
theorem notify_frame (registry : Registry Form Control) (id : Nat) :
    ∃ lists reports, registry.notifyBrowserClosed id =
      { registry with registerTopWindowForms := lists, delivered := reports } := by
  rw [Registry.notifyBrowserClosed]
  cases registry.created[id]? with
  | none => exact ⟨_, _, rfl⟩
  | some wb =>
    simp only [Registry.cefBrowserControl_Disposed]
    cases registry.registerTopWindowForms wb.parentForm with
    | none => exact ⟨_, _, rfl⟩
    | some wblist => exact ⟨_, _, rfl⟩

theorem notify_delivered (registry : Registry Form Control) (id : Nat) :
    (registry.notifyBrowserClosed id).delivered =
      if id < registry.created.length then registry.delivered ++ [id] else registry.delivered := by
  rw [Registry.notifyBrowserClosed]
  cases found : registry.created[id]? with
  | none => rw [if_neg (Nat.not_lt.mpr (List.getElem?_eq_none_iff.mp found))]
  | some wb =>
    obtain ⟨inside, -⟩ := List.getElem?_eq_some_iff.mp found
    rw [if_pos inside]
    simp only [Registry.cefBrowserControl_Disposed]
    cases registry.registerTopWindowForms wb.parentForm <;> rfl

theorem notify_reported (registry : Registry Form Control) (id : Nat) :
    Reported [id] registry (registry.notifyBrowserClosed id) := by
  refine ⟨?_, fun other => ?_⟩
  · obtain ⟨lists, reports, same⟩ := notify_frame registry id
    rw [same]
  · rw [notify_delivered, List.mem_singleton]
    by_cases inside : id < registry.created.length
    · rw [if_pos inside, List.mem_append, List.mem_singleton]
      exact or_congr_right ⟨fun same => ⟨same, same ▸ inside⟩, And.left⟩
    · rw [if_neg inside]
      exact ⟨Or.inl, fun either => either.resolve_right fun new => inside (new.1 ▸ new.2)⟩

/-- A browser that reports leaves the list of its form. -/
theorem notify_registered {registry : Registry Form Control} (sound : Sound registry) (id : Nat)
    (form : Form) :
    (registry.notifyBrowserClosed id).registered form =
      (registry.registered form).filter fun wb => wb.id ∉ [id] := by
  rw [Registry.notifyBrowserClosed]
  cases found : registry.created[id]? with
  | none =>
    have outside : registry.created.length ≤ id := List.getElem?_eq_none_iff.mp found
    rw [eq_comm, List.filter_eq_self]
    intro other member
    have bound := sound.bound (sound.within form other member).1
    simp only [List.mem_singleton, decide_eq_true_eq]
    omega
  | some wb =>
    have number := sound.find found
    have distinct : ∀ other ∈ registry.registered form, other.id = id → other = wb := by
      intro other member same
      exact sound.same (sound.within form other member).1 (List.mem_of_getElem? found)
        (same.trans number.symm)
    have start : Registry.registered { registry with delivered := registry.delivered ++ [id] } form =
        registry.registered form := rfl
    rw [disposed_registered, start]
    by_cases owner : form = wb.parentForm
    · rw [if_pos owner, (sound.distinct form).erase_eq_filter]
      apply List.filter_congr
      intro other member
      rw [Bool.eq_iff_iff]
      simp only [bne_iff_ne, List.mem_singleton, decide_eq_true_eq]
      constructor
      · exact fun different same => different (distinct other member same)
      · rintro different rfl
        exact different number
    · rw [if_neg owner, eq_comm, List.filter_eq_self]
      intro other member
      simp only [List.mem_singleton, decide_eq_true_eq]
      intro same
      rw [← (sound.within form other member).2, distinct other member same] at owner
      exact owner rfl

theorem notify_sound {registry : Registry Form Control} (sound : Sound registry) (id : Nat) :
    Sound (registry.notifyBrowserClosed id) :=
  sound.narrowed (notify_reported registry id).created fun form => ⟨_, notify_registered sound id form⟩

theorem notify_faithful {registry : Registry Form Control} (faithful : Faithful registry) (id : Nat) :
    Faithful (registry.notifyBrowserClosed id) := by
  have reported := notify_reported registry id
  refine ⟨(notify_sound faithful.sound id).numbered, reported.known faithful.known, fun form => ?_⟩
  rw [notify_registered faithful.sound, reported.pending faithful.sound, faithful.listed]

theorem notifyAll_reported (registry : Registry Form Control) (ids : List Nat) :
    Reported ids registry (registry.notifyAll ids) := by
  induction ids generalizing registry with
  | nil => exact Reported.refl registry
  | cons id rest ih => exact (notify_reported registry id).trans (ih _)

theorem notifyAll_frame (registry : Registry Form Control) (ids : List Nat) :
    ∃ lists reports, registry.notifyAll ids =
      { registry with registerTopWindowForms := lists, delivered := reports } := by
  induction ids generalizing registry with
  | nil => exact ⟨_, _, rfl⟩
  | cons id rest ih =>
    obtain ⟨lists, reports, first⟩ := notify_frame registry id
    obtain ⟨finalLists, finalReports, others⟩ := ih (registry.notifyBrowserClosed id)
    refine ⟨finalLists, finalReports, ?_⟩
    rw [Registry.notifyAll, List.foldl_cons, ← Registry.notifyAll, others, first]

theorem notifyAll_registered {registry : Registry Form Control} (sound : Sound registry)
    (ids : List Nat) (form : Form) :
    (registry.notifyAll ids).registered form =
      (registry.registered form).filter fun wb => wb.id ∉ ids := by
  induction ids generalizing registry with
  | nil => simp [Registry.notifyAll]
  | cons id rest ih =>
    rw [Registry.notifyAll, List.foldl_cons, ← Registry.notifyAll, ih (notify_sound sound id),
      notify_registered sound, List.filter_filter]
    apply List.filter_congr
    intro wb member
    rw [Bool.eq_iff_iff]
    simp [and_comm]

theorem notifyAll_sound {registry : Registry Form Control} (sound : Sound registry) (ids : List Nat) :
    Sound (registry.notifyAll ids) :=
  sound.narrowed (notifyAll_reported registry ids).created fun form =>
    ⟨_, notifyAll_registered sound ids form⟩

theorem notifyAll_faithful {registry : Registry Form Control} (faithful : Faithful registry)
    (ids : List Nat) : Faithful (registry.notifyAll ids) := by
  induction ids generalizing registry with
  | nil => exact faithful
  | cons id rest ih => exact ih (notify_faithful faithful id)

end Steps

end CefBridge.Managed
