import CefBridge.Managed.Registry

/-!
# Disposing the browsers of a form

The loop goes through the list of a form by index, from the end down, and each turn
may remove browsers from the list. Browsers whose turn has come stand behind the
index, so their removal moves nothing in front of it. A browser that reports before
its turn moves those behind it, and the loop comes to a control that is gone.

`disposeLoop_completes_iff` tells the calls that reach the end of the loop from
those that an exception cuts short, and `disposeAll_visits` says what is done by then.
-/

namespace CefBridge.Managed

open Library Runs
open Patcher (Fault)

variable {Form Control : Type} [DecidableEq Form] [DecidableEq Control]

section Loop

theorem asked_disposed (registry : Registry Form Control) (wb : CefWb Form Control)
    (notifying : List Nat) :
    ((registry.notifyCloseBw wb).notifyAll notifying).disposed = registry.disposed := by
  obtain ⟨lists, reports, notified⟩ := notifyAll_frame (registry.notifyCloseBw wb) notifying
  rw [notified]
  rfl

/-- A turn is completed exactly when the control is still there and has a parent. -/
theorem disposeOne_completes_iff (registry : Registry Form Control) (wb : CefWb Form Control)
    (turn : Turn) :
    (registry.disposeOne wb turn).1 = none ↔
      wb.parentControl ∉ registry.disposed ∧ wb.hasParent = true := by
  rw [Registry.disposeOne, asked_disposed]
  by_cases cut : wb.parentControl ∈ registry.disposed ∨ wb.hasParent = false
  · rw [if_pos cut]
    rcases cut with gone | orphan
    · simp [gone]
    · simp [orphan]
  · rw [if_neg cut]
    simpa using cut

omit [DecidableEq Form] [DecidableEq Control] in
theorem notifyCloseBw_sound {registry : Registry Form Control} (sound : Sound registry)
    (wb : CefWb Form Control) : Sound (registry.notifyCloseBw wb) :=
  ⟨sound.numbered, sound.within, sound.distinct⟩

omit [DecidableEq Form] [DecidableEq Control] in
theorem disposeControl_sound {registry : Registry Form Control} (sound : Sound registry)
    (wb : CefWb Form Control) : Sound (registry.disposeControl wb) :=
  ⟨sound.numbered, sound.within, sound.distinct⟩

theorem disposeOne_sound {registry : Registry Form Control} (sound : Sound registry)
    (wb : CefWb Form Control) (turn : Turn) : Sound (registry.disposeOne wb turn).2 := by
  have notified := notifyAll_sound (notifyCloseBw_sound sound wb) turn.notifying
  rw [Registry.disposeOne]
  split
  · exact notified
  · exact notifyAll_sound (disposeControl_sound notified wb) turn.disposing

theorem disposeOne_faithful {registry : Registry Form Control} (faithful : Faithful registry)
    (wb : CefWb Form Control) (turn : Turn) : Faithful (registry.disposeOne wb turn).2 := by
  have asked : Faithful (registry.notifyCloseBw wb) :=
    ⟨faithful.numbered, faithful.known, faithful.listed⟩
  have notified := notifyAll_faithful asked turn.notifying
  have gone : Faithful (((registry.notifyCloseBw wb).notifyAll turn.notifying).disposeControl wb) :=
    ⟨notified.numbered, notified.known, notified.listed⟩
  rw [Registry.disposeOne]
  split
  · exact notified
  · exact notifyAll_faithful gone turn.disposing

/-- What a completed turn of a browser changes. -/
structure Turned (wb : CefWb Form Control) (turn : Turn) (before after : Registry Form Control) :
    Prop where
  reported : Reported turn.reports before after
  closing : after.closing = before.closing ++ [wb.id]
  disposed : after.disposed = before.disposed ++ [wb.parentControl]
  listed : Sound before → ∀ form,
    after.registered form = (before.registered form).filter fun other => other.id ∉ turn.reports

theorem disposeOne_completed (registry : Registry Form Control) (wb : CefWb Form Control)
    (turn : Turn) (completed : (registry.disposeOne wb turn).1 = none) :
    Turned wb turn registry (registry.disposeOne wb turn).2 := by
  obtain ⟨present, parented⟩ := (disposeOne_completes_iff registry wb turn).mp completed
  obtain ⟨lists, reports, notified⟩ := notifyAll_frame (registry.notifyCloseBw wb) turn.notifying
  obtain ⟨lastLists, lastReports, all⟩ := notifyAll_frame
    (((registry.notifyCloseBw wb).notifyAll turn.notifying).disposeControl wb) turn.disposing
  have uncut : ¬ (wb.parentControl ∈ ((registry.notifyCloseBw wb).notifyAll turn.notifying).disposed ∨
      wb.hasParent = false) := by
    rw [asked_disposed]
    simp [present, parented]
  have asked := notifyAll_reported (registry.notifyCloseBw wb) turn.notifying
  have gone := notifyAll_reported
    (((registry.notifyCloseBw wb).notifyAll turn.notifying).disposeControl wb) turn.disposing
  rw [Registry.disposeOne, if_neg uncut]
  refine ⟨?_, ?_, ?_, fun sound form => ?_⟩
  · have first : Reported turn.notifying registry
        ((registry.notifyCloseBw wb).notifyAll turn.notifying) := ⟨asked.created, asked.delivered⟩
    exact first.trans ⟨gone.created, gone.delivered⟩
  · rw [all, notified]
    rfl
  · rw [all, notified]
    rfl
  · have closeable := notifyCloseBw_sound sound wb
    rw [notifyAll_registered (disposeControl_sound (notifyAll_sound closeable _) wb)]
    have still : (((registry.notifyCloseBw wb).notifyAll turn.notifying).disposeControl wb).registered
        form = (registry.registered form).filter fun other => other.id ∉ turn.notifying :=
      notifyAll_registered closeable turn.notifying form
    rw [still, List.filter_filter]
    apply List.filter_congr
    intro other member
    rw [Bool.eq_iff_iff]
    simp [Turn.reports, and_comm]

theorem disposeLoop_outside {ownerForm : Form} {i : Nat} (turns : List Turn)
    {registry : Registry Form Control} (found : (registry.registered ownerForm)[i]? = none) :
    registry.disposeLoop ownerForm (i + 1) turns = (some .argumentOutOfRange, registry) := by
  simp [Registry.disposeLoop, found]

theorem disposeLoop_cut {ownerForm : Form} {i : Nat} {turns : List Turn}
    {registry next : Registry Form Control} {wb : CefWb Form Control} {fault : Fault}
    (found : (registry.registered ownerForm)[i]? = some wb)
    (one : registry.disposeOne wb (turns.headD {}) = (some fault, next)) :
    registry.disposeLoop ownerForm (i + 1) turns = (some fault, next) := by
  simp only [Registry.disposeLoop, found, one]

theorem disposeLoop_next {ownerForm : Form} {i : Nat} {turns : List Turn}
    {registry next : Registry Form Control} {wb : CefWb Form Control}
    (found : (registry.registered ownerForm)[i]? = some wb)
    (one : registry.disposeOne wb (turns.headD {}) = (none, next)) :
    registry.disposeLoop ownerForm (i + 1) turns = next.disposeLoop ownerForm i turns.tail := by
  simp only [Registry.disposeLoop, found, one]

/-- What every turn keeps, the loop keeps, however it ends. -/
theorem disposeLoop_invariant (inv : Registry Form Control → Prop)
    (kept : ∀ registry wb turn, inv registry → inv (registry.disposeOne wb turn).2)
    (ownerForm : Form) (count : Nat) (turns : List Turn) {registry : Registry Form Control}
    (first : inv registry) : inv (registry.disposeLoop ownerForm count turns).2 := by
  induction count generalizing turns registry with
  | zero => exact first
  | succ i ih =>
    cases found : (registry.registered ownerForm)[i]? with
    | none =>
      rw [disposeLoop_outside turns found]
      exact first
    | some wb =>
      have second := kept registry wb (turns.headD {}) first
      cases one : registry.disposeOne wb (turns.headD {}) with
      | mk outcome next =>
        rw [one] at second
        cases outcome with
        | some fault =>
          rw [disposeLoop_cut found one]
          exact second
        | none =>
          rw [disposeLoop_next found one]
          exact ih turns.tail second

/-- What every turn and the removal keep, the whole call keeps. -/
theorem disposeAll_invariant (inv : Registry Form Control → Prop)
    (kept : ∀ registry wb turn, inv registry → inv (registry.disposeOne wb turn).2)
    (ownerForm : Form) (turns : List Turn)
    (removed : ∀ registry, inv registry → inv (registry.remove ownerForm))
    {registry : Registry Form Control} (first : inv registry) :
    inv (registry.disposeAllChildWebBrowserControls ownerForm turns).2 := by
  rw [Registry.disposeAllChildWebBrowserControls]
  cases registry.registerTopWindowForms ownerForm with
  | none => exact first
  | some foundList =>
    have looped := disposeLoop_invariant inv kept ownerForm foundList.length turns first
    cases loop : registry.disposeLoop ownerForm foundList.length turns with
    | mk outcome last =>
      rw [loop] at looped
      cases outcome with
      | some fault =>
        simp only [loop]
        exact looped
      | none =>
        simp only [loop]
        exact removed last looped

theorem disposeLoop_faithful (ownerForm : Form) (count : Nat) (turns : List Turn)
    {registry : Registry Form Control} (faithful : Faithful registry) :
    Faithful (registry.disposeLoop ownerForm count turns).2 :=
  disposeLoop_invariant Faithful (fun _ wb turn kept => disposeOne_faithful kept wb turn) ownerForm
    count turns faithful

/-- The reports that come in during a number of turns. -/
def reportsOf : Nat → List Turn → List Nat
  | 0, _ => []
  | count + 1, turns => (turns.headD {}).reports ++ reportsOf count turns.tail

theorem disposeLoop_completed (ownerForm : Form) (count : Nat) (turns : List Turn)
    (registry : Registry Form Control)
    (completed : (registry.disposeLoop ownerForm count turns).1 = none) :
    Reported (reportsOf count turns) registry (registry.disposeLoop ownerForm count turns).2 := by
  induction count generalizing turns registry with
  | zero => exact Reported.refl registry
  | succ i ih =>
    cases found : (registry.registered ownerForm)[i]? with
    | none =>
      rw [disposeLoop_outside turns found] at completed
      cases completed
    | some wb =>
      have turned := disposeOne_completed registry wb (turns.headD {})
      cases one : registry.disposeOne wb (turns.headD {}) with
      | mk outcome next =>
        rw [one] at turned
        cases outcome with
        | some fault =>
          rw [disposeLoop_cut found one] at completed
          cases completed
        | none =>
          rw [disposeLoop_next found one] at completed ⊢
          exact (turned rfl).reported.trans (ih turns.tail next completed)

/-- The reports that come in while the browsers of a form are disposed, up to where an
exception cuts the loop short. -/
def Registry.heard (ownerForm : Form) : Nat → List Turn → Registry Form Control → List Nat
  | 0, _, _ => []
  | i + 1, turns, registry =>
    match (registry.registered ownerForm)[i]? with
    | none => []
    | some mycefBw =>
      let turn := turns.headD {}
      match registry.disposeOne mycefBw turn with
      | (some _, _) => turn.notifying
      | (none, next) => turn.reports ++ heard ownerForm i turns.tail next

/-- An exception cuts a turn short when the browser has been asked to close. -/
theorem disposeOne_cut (registry : Registry Form Control) (wb : CefWb Form Control) (turn : Turn)
    (cut : (registry.disposeOne wb turn).1 ≠ none) :
    Reported turn.notifying registry (registry.disposeOne wb turn).2 := by
  have asked := notifyAll_reported (registry.notifyCloseBw wb) turn.notifying
  rw [Registry.disposeOne] at cut ⊢
  split_ifs at cut ⊢
  · exact ⟨asked.created, asked.delivered⟩
  · exact absurd rfl cut

theorem disposeLoop_heard (ownerForm : Form) (count : Nat) (turns : List Turn)
    (registry : Registry Form Control) :
    Reported (registry.heard ownerForm count turns) registry
      (registry.disposeLoop ownerForm count turns).2 := by
  induction count generalizing turns registry with
  | zero => exact Reported.refl registry
  | succ i ih =>
    rw [Registry.heard]
    cases found : (registry.registered ownerForm)[i]? with
    | none =>
      rw [disposeLoop_outside turns found]
      exact Reported.refl registry
    | some wb =>
      have turned := disposeOne_completed registry wb (turns.headD {})
      have asked := disposeOne_cut registry wb (turns.headD {})
      cases one : registry.disposeOne wb (turns.headD {}) with
      | mk outcome next =>
        rw [one] at turned asked
        cases outcome with
        | some fault =>
          rw [disposeLoop_cut found one]
          simp only [one]
          exact asked (Option.some_ne_none fault)
        | none =>
          rw [disposeLoop_next found one]
          simp only [one]
          exact (turned rfl).reported.trans (ih turns.tail next)

theorem disposeAll_heard (registry : Registry Form Control) (ownerForm : Form) (turns : List Turn) :
    Reported (registry.heard ownerForm (registry.registered ownerForm).length turns) registry
      (registry.disposeAllChildWebBrowserControls ownerForm turns).2 := by
  rw [Registry.disposeAllChildWebBrowserControls, Registry.registered]
  cases registry.registerTopWindowForms ownerForm with
  | none => exact Reported.refl registry
  | some foundList =>
    have reported := disposeLoop_heard ownerForm foundList.length turns registry
    simp only [Option.getD_some]
    cases loop : registry.disposeLoop ownerForm foundList.length turns with
    | mk outcome last =>
      rw [loop] at reported
      cases outcome with
      | some fault => exact reported
      | none => exact ⟨reported.created, reported.delivered⟩

/-- Each browser, the last one first, has a control that is still there and has a
parent, and none reports before its turn. -/
def Orderly : List (CefWb Form Control) → List Turn → List Control → Prop
  | [], _, _ => True
  | wb :: before, turns, disposed =>
    wb.parentControl ∉ disposed ∧ wb.hasParent = true ∧
      (∀ other ∈ before, other.id ∉ (turns.headD {}).reports) ∧
      Orderly before turns.tail (disposed ++ [wb.parentControl])

omit [DecidableEq Form] [DecidableEq Control] in
/-- A turn without early reports leaves the browsers whose turn is still to come. -/
theorem filter_unreported {front : List (CefWb Form Control)} {turn : Turn}
    (early : ∀ other ∈ front.reverse, other.id ∉ turn.reports) :
    front.filter (fun other => other.id ∉ turn.reports) = front := by
  rw [List.filter_eq_self]
  intro other member
  exact decide_eq_true (early other (List.mem_reverse.mpr member))

/-- Once a browser has left the list too early, the loop comes to a control that is
gone or to the end of the list. -/
theorem disposeLoop_faults {ownerForm : Form} {count : Nat} (turns : List Turn)
    {registry : Registry Form Control} {front visited : List (CefWb Form Control)}
    (listed : registry.registered ownerForm = front ++ visited)
    (gone : ∀ wb ∈ visited, wb.parentControl ∈ registry.disposed) (short : front.length < count) :
    (registry.disposeLoop ownerForm count turns).1 ≠ none := by
  cases count with
  | zero => omega
  | succ i =>
    cases found : (registry.registered ownerForm)[i]? with
    | none =>
      rw [disposeLoop_outside turns found]
      exact Option.some_ne_none _
    | some wb =>
      have member : wb ∈ visited := by
        rw [listed, List.getElem?_append_right (by omega)] at found
        exact List.mem_of_getElem? found
      have cut : (registry.disposeOne wb (turns.headD {})).1 ≠ none := by
        rw [Ne, disposeOne_completes_iff]
        exact fun present => present.1 (gone wb member)
      cases one : registry.disposeOne wb (turns.headD {}) with
      | mk outcome next =>
        rw [one] at cut
        cases outcome with
        | none => exact absurd rfl cut
        | some fault =>
          rw [disposeLoop_cut found one]
          exact Option.some_ne_none _

omit [DecidableEq Form] [DecidableEq Control] in
/-- A browser whose turn has come may have left the list, and browsers before it only if
they report early. -/
theorem Turned.left {ownerForm : Form} {front visited : List (CefWb Form Control)}
    {wb : CefWb Form Control} {turn : Turn} {before after : Registry Form Control}
    (turned : Turned wb turn before after) (sound : Sound before)
    (listed : before.registered ownerForm = front ++ [wb] ++ visited)
    (gone : ∀ other ∈ visited, other.parentControl ∈ before.disposed) :
    ∃ rest, after.registered ownerForm =
        front.filter (fun other => other.id ∉ turn.reports) ++ rest ∧
      ∀ other ∈ rest, other.parentControl ∈ after.disposed := by
  refine ⟨(wb :: visited).filter fun other => other.id ∉ turn.reports, ?_, ?_⟩
  · rw [turned.listed sound, listed, List.append_assoc, List.filter_append, List.singleton_append]
  · intro other member
    rw [turned.disposed]
    cases List.mem_cons.mp (List.mem_of_mem_filter member) with
    | inl same => simp [same]
    | inr earlier => exact List.mem_append_left _ (gone other earlier)

/-- The loop goes through all browsers of a form exactly when they are orderly. -/
theorem disposeLoop_completes_iff (ownerForm : Form) (front visited : List (CefWb Form Control))
    (turns : List Turn) {registry : Registry Form Control} (sound : Sound registry)
    (listed : registry.registered ownerForm = front ++ visited)
    (gone : ∀ wb ∈ visited, wb.parentControl ∈ registry.disposed) :
    (registry.disposeLoop ownerForm front.length turns).1 = none ↔
      Orderly front.reverse turns registry.disposed := by
  induction front using List.reverseRecOn generalizing visited turns registry with
  | nil => simp [Registry.disposeLoop, Orderly]
  | append_singleton front wb ih =>
    have found : (registry.registered ownerForm)[front.length]? = some wb := by
      rw [listed]
      simp
    have completes := disposeOne_completes_iff registry wb (turns.headD {})
    have turned := disposeOne_completed registry wb (turns.headD {})
    have kept := disposeOne_sound sound wb (turns.headD {})
    rw [List.length_append, List.length_singleton, List.reverse_append, List.reverse_singleton,
      List.singleton_append, Orderly]
    cases one : registry.disposeOne wb (turns.headD {}) with
    | mk outcome next =>
      rw [one] at completes turned kept
      cases outcome with
      | some fault =>
        rw [disposeLoop_cut found one]
        simp only [reduceCtorEq, false_iff] at completes ⊢
        exact fun orderly => completes ⟨orderly.1, orderly.2.1⟩
      | none =>
        obtain ⟨present, parented⟩ := completes.mp rfl
        obtain ⟨rest, left, restGone⟩ := (turned rfl).left sound listed gone
        rw [disposeLoop_next found one]
        by_cases early : ∀ other ∈ front.reverse, other.id ∉ (turns.headD {}).reports
        · rw [filter_unreported early] at left
          rw [ih rest turns.tail kept left restGone, (turned rfl).disposed]
          exact ⟨fun orderly => ⟨present, parented, early, orderly⟩, fun orderly => orderly.2.2.2⟩
        · have short : (front.filter fun other => other.id ∉ (turns.headD {}).reports).length <
              front.length := by
            rw [List.length_filter_lt_length_iff_exists]
            simp only [not_forall] at early
            obtain ⟨other, member, reports⟩ := early
            exact ⟨other, List.mem_reverse.mp member, by simpa using reports⟩
          have faults := disposeLoop_faults turns.tail left restGone short
          exact ⟨fun completed => absurd completed faults, fun orderly => absurd orderly.2.2.1 early⟩

end Loop

section Visits

/-- No two browsers share a control, and each control is there and has a parent. -/
structure OwnControls (disposed : List Control) (wbs : List (CefWb Form Control)) : Prop where
  distinct : (wbs.map CefWb.parentControl).Nodup
  present : ∀ wb ∈ wbs, wb.parentControl ∉ disposed
  parented : ∀ wb ∈ wbs, wb.hasParent = true

/-- During the turn of a browser none reports whose turn is still to come. The browser itself
and those that were visited may. -/
def InTurn : List (CefWb Form Control) → List Turn → Prop
  | [], _ => True
  | _ :: before, turns =>
    (∀ other ∈ before, other.id ∉ (turns.headD {}).reports) ∧ InTurn before turns.tail

/-- Each browser is asked to close once and its control is disposed once. -/
def VisitedOnce (wbs : List (CefWb Form Control)) (before after : Registry Form Control) : Prop :=
  ∀ wb ∈ wbs, after.closing.count wb.id = before.closing.count wb.id + 1 ∧
    after.disposed.count wb.parentControl = before.disposed.count wb.parentControl + 1

omit [DecidableEq Form] [DecidableEq Control] in
theorem OwnControls.reverse {disposed : List Control} {wbs : List (CefWb Form Control)}
    (own : OwnControls disposed wbs) : OwnControls disposed wbs.reverse := by
  refine ⟨?_, fun wb member => ?_, fun wb member => ?_⟩
  · rw [List.map_reverse, List.nodup_reverse]
    exact own.distinct
  · exact own.present wb (List.mem_reverse.mp member)
  · exact own.parented wb (List.mem_reverse.mp member)

omit [DecidableEq Form] [DecidableEq Control] in
/-- Browsers with controls of their own that report in turn are orderly. -/
theorem OwnControls.orderly {disposed : List Control} {wbs : List (CefWb Form Control)}
    (own : OwnControls disposed wbs) {turns : List Turn} (inTurn : InTurn wbs turns) :
    Orderly wbs turns disposed := by
  induction wbs generalizing turns disposed with
  | nil => trivial
  | cons wb before ih =>
    obtain ⟨early, rest⟩ := inTurn
    have distinct := List.nodup_cons.mp own.distinct
    refine ⟨own.present wb List.mem_cons_self, own.parented wb List.mem_cons_self, early, ?_⟩
    apply ih _ rest
    refine ⟨distinct.2, fun other member gone => ?_, fun other member => ?_⟩
    · rcases List.mem_append.mp gone with earlier | now
      · exact own.present other (List.mem_cons_of_mem wb member) earlier
      · rw [List.mem_singleton] at now
        exact distinct.1 (now ▸ List.mem_map_of_mem member)
    · exact own.parented other (List.mem_cons_of_mem wb member)

/-- What the loop has done when it has gone through orderly browsers. -/
theorem disposeLoop_visits (ownerForm : Form) (front visited : List (CefWb Form Control))
    (turns : List Turn) {registry : Registry Form Control} (sound : Sound registry)
    (listed : registry.registered ownerForm = front ++ visited)
    (gone : ∀ wb ∈ visited, wb.parentControl ∈ registry.disposed)
    (orderly : Orderly front.reverse turns registry.disposed) :
    ∃ last, registry.disposeLoop ownerForm front.length turns = (none, last) ∧
      last.closing = registry.closing ++ front.reverse.map CefWb.id ∧
      last.disposed = registry.disposed ++ front.reverse.map CefWb.parentControl := by
  induction front using List.reverseRecOn generalizing visited turns registry with
  | nil => exact ⟨registry, rfl, by simp, by simp⟩
  | append_singleton front wb ih =>
    have found : (registry.registered ownerForm)[front.length]? = some wb := by
      rw [listed]
      simp
    rw [List.reverse_append, List.reverse_singleton, List.singleton_append] at orderly ⊢
    obtain ⟨present, parented, early, rest⟩ := orderly
    have completed := (disposeOne_completes_iff registry wb (turns.headD {})).mpr ⟨present, parented⟩
    have turned := disposeOne_completed registry wb (turns.headD {}) completed
    have kept := disposeOne_sound sound wb (turns.headD {})
    cases one : registry.disposeOne wb (turns.headD {}) with
    | mk outcome next =>
      rw [one] at completed turned kept
      cases completed
      obtain ⟨others, left, othersGone⟩ := turned.left sound listed gone
      rw [filter_unreported early] at left
      rw [← turned.disposed] at rest
      obtain ⟨last, result, closing, disposed⟩ := ih others turns.tail kept left othersGone rest
      refine ⟨last, ?_, ?_, ?_⟩
      · rw [List.length_append, List.length_singleton, disposeLoop_next found one, result]
      · rw [closing, turned.closing, List.map_cons, List.append_assoc, List.singleton_append]
      · rw [disposed, turned.disposed, List.map_cons, List.append_assoc, List.singleton_append]

omit [DecidableEq Control] in
theorem remove_sound {registry : Registry Form Control} (sound : Sound registry) (form : Form) :
    Sound (registry.remove form) := by
  have still : (registry.remove form).created = registry.created := rfl
  apply sound.narrowed still
  intro other
  refine ⟨fun _ => other ≠ form, ?_⟩
  by_cases same : other = form
  · simp [Registry.registered, Registry.remove, same]
  · simp [Registry.registered, Registry.remove, same]

theorem disposeAll_sound {registry : Registry Form Control} (sound : Sound registry)
    (ownerForm : Form) (turns : List Turn) :
    Sound (registry.disposeAllChildWebBrowserControls ownerForm turns).2 :=
  disposeAll_invariant Sound (fun _ wb turn kept => disposeOne_sound kept wb turn) ownerForm turns
    (fun _ kept => remove_sound kept ownerForm) sound

theorem handle_sound {registry : Registry Form Control} (sound : Sound registry)
    (event : RegistryEvent Form Control) : Sound (registry.handle event) := by
  cases event with
  | create form control hasParent => exact create_sound sound form control hasParent
  | notifyBrowserClosed id => exact notify_sound sound id
  | disposeAll ownerForm turns => exact disposeAll_sound sound ownerForm turns

/-- The registry is sound after any events. -/
theorem run_sound (events : List (RegistryEvent Form Control)) :
    Sound (run Registry.handle Registry.empty events) :=
  run_invariant sound_empty (fun _ event sound => handle_sound sound event) events

omit [DecidableEq Form] [DecidableEq Control] in
/-- The browsers of a list have different numbers. -/
theorem Sound.ids_nodup {registry : Registry Form Control} (sound : Sound registry) (form : Form) :
    ((registry.registered form).map CefWb.id).Nodup := by
  apply (sound.distinct form).map_on
  intro wb member other among same
  exact sound.same (sound.within form wb member).1 (sound.within form other among).1 same

/-- What is appended to a log once is counted once more. -/
theorem count_logged {Entry : Type} [DecidableEq Entry] (log : List Entry) {new : List Entry}
    (distinct : new.Nodup) {entry : Entry} (member : entry ∈ new) :
    (log ++ new.reverse).count entry = log.count entry + 1 := by
  rw [List.count_append, List.count_reverse, List.count_eq_one_of_mem distinct member]

/-- In every state, if the browsers of a form have controls of their own and report in turn,
then closing the form asks each of them to close once, disposes each control once, and
leaves the form without an entry. -/
theorem disposeAll_visits (events : List (RegistryEvent Form Control)) (ownerForm : Form)
    (turns : List Turn)
    (own : OwnControls (run Registry.handle Registry.empty events).disposed
      ((run Registry.handle Registry.empty events).registered ownerForm))
    (inTurn : InTurn ((run Registry.handle Registry.empty events).registered ownerForm).reverse turns) :
    ∃ last, (run Registry.handle Registry.empty events).disposeAllChildWebBrowserControls ownerForm
        turns = (none, last) ∧
      VisitedOnce ((run Registry.handle Registry.empty events).registered ownerForm)
        (run Registry.handle Registry.empty events) last ∧
      last.registerTopWindowForms ownerForm = none := by
  have sound := run_sound events
  generalize run Registry.handle Registry.empty events = registry at own inTurn sound ⊢
  cases entry : registry.registerTopWindowForms ownerForm with
  | none =>
    refine ⟨registry, ?_, ?_, entry⟩
    · simp only [Registry.disposeAllChildWebBrowserControls, entry]
    · simp [VisitedOnce, Registry.registered, entry]
  | some foundList =>
    have found : registry.registered ownerForm = foundList := by
      rw [Registry.registered, entry, Option.getD_some]
    have ids := sound.ids_nodup ownerForm
    rw [found] at own inTurn ids ⊢
    obtain ⟨last, result, closing, disposed⟩ := disposeLoop_visits ownerForm foundList [] turns sound
      (by rw [found, List.append_nil]) (List.forall_mem_nil _) (own.reverse.orderly inTurn)
    refine ⟨last.remove ownerForm, ?_, fun wb member => ⟨?_, ?_⟩, ?_⟩
    · simp only [Registry.disposeAllChildWebBrowserControls, entry, result]
    · have asked : (last.remove ownerForm).closing = last.closing := rfl
      rw [asked, closing, List.map_reverse]
      exact count_logged _ ids (List.mem_map_of_mem member)
    · have gone : (last.remove ownerForm).disposed = last.disposed := rfl
      rw [gone, disposed, List.map_reverse]
      exact count_logged _ own.distinct (List.mem_map_of_mem member)
    · simp [Registry.remove]

/-- Two browsers, of which the first reports while the other one is visited, and the second
while it is asked to close. -/
theorem disposeAll_visits_two :
    ∃ last, (run Registry.handle (Registry.empty : Registry Nat Nat)
        [.create 0 10 true, .create 0 11 true]).disposeAllChildWebBrowserControls 0
        [⟨[1], []⟩, ⟨[1], [0]⟩] = (none, last) ∧
      VisitedOnce ((run Registry.handle Registry.empty
        [.create 0 10 true, .create 0 11 true]).registered 0)
        (run Registry.handle Registry.empty [.create 0 10 true, .create 0 11 true]) last ∧
      last.registerTopWindowForms 0 = none := by
  apply disposeAll_visits
  · exact ⟨by decide, by decide, by decide⟩
  · exact ⟨by decide, by decide, trivial⟩

end Visits

end CefBridge.Managed
