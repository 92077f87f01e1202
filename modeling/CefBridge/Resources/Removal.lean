import CefBridge.Resources.Requests

/-!
# Removing providers

The walk of a removal goes on behind an entry that it has marked, and at the same place when
it has deleted one. At an entry that was marked before it does neither, and stays there
forever. So a removal comes back exactly if it meets no such entry.
-/

namespace CefBridge.Resources.CefResourceManager

open Library

variable {Handler : Type} {manager after : CefResourceManager Handler}

section Deleting

theorem passState_clears {request : Nat} {held : Option RequestState}
    (passed : manager.passState request = (held, after)) : ∀ state, ¬ after.Holds request state := by
  intro state holds
  rw [passState, Prod.mk.injEq] at passed
  obtain ⟨-, rfl⟩ := passed
  rw [Holds, List.getElem?_set, if_pos rfl] at holds
  split_ifs at holds
  cases holds

theorem hasState_iff (request : Nat) : manager.hasState request = true ↔ ∃ state, manager.Holds request state := by
  rw [hasState, Option.isSome_iff_exists]
  exact exists_congr fun state => Option.join_eq_some_iff

theorem requestContinue_clears (manager : CefResourceManager Handler) (request : Nat) (handler : Option Handler) :
    ∀ state, ¬ (manager.requestContinue request handler).Holds request state := by
  unfold requestContinue
  cases passed : manager.passState request with
  | mk held left =>
    have clear := passState_clears passed
    cases held with
    | some state => exact clear
    | none =>
      intro state holds
      have joined : manager.requests[request]?.join = none := congrArg Prod.fst passed
      rw [show manager.requests[request]?.join = some state from Option.join_eq_some_iff.mpr holds] at joined
      cases joined

theorem requestStop_clears (manager : CefResourceManager Handler) (request : Nat) :
    ∀ state, ¬ (manager.requestStop request).Holds request state := by
  unfold requestStop
  cases passed : manager.passState request with
  | mk held left =>
    have clear := passState_clears passed
    cases held with
    | some state => exact clear
    | none =>
      intro state holds
      have joined : manager.requests[request]?.join = none := congrArg Prod.fst passed
      rw [show manager.requests[request]?.join = some state from Option.join_eq_some_iff.mpr holds] at joined
      cases joined

theorem cancelRequest_clears (stop : Bool) (manager : CefResourceManager Handler) (request : Nat) :
    ∀ state, ¬ (cancelRequest stop manager request).Holds request state := by
  rw [cancelRequest]
  split_ifs with held
  · exact requestStop_clears manager request
  · exact requestContinue_clears manager request none
  · exact fun state holds => held ((hasState_iff request).mpr ⟨state, holds⟩)

/-- No request of an entry that is deleted keeps its state. -/
theorem cancelRequests_clear (stop : Bool) (requests : List Nat) (manager : CefResourceManager Handler) :
    ∀ request ∈ requests, ∀ state, ¬ (requests.foldl (cancelRequest stop) manager).Holds request state := by
  induction requests generalizing manager with
  | nil => exact List.forall_mem_nil _
  | cons first requests ih =>
    intro request member state holds
    cases List.mem_cons.mp member with
    | inl same =>
      have shuffled : Shuffled [] [] (cancelRequest stop manager first)
          (requests.foldl (cancelRequest stop) (cancelRequest stop manager first)) :=
        cancelRequests_shuffled stop requests _
      exact cancelRequest_clears stop manager first state (same ▸ shuffled.held request state holds)
    | inr later => exact ih (cancelRequest stop manager first) request later state holds

/-- An entry that was marked before stays, one with requests is marked, and one without is
deleted. -/
theorem deleteProvider_cases (stop : Bool) {index : Nat} {entry : ProviderEntry}
    (found : manager.providers[index]? = some entry) :
    (entry.deletionPending = true ∧ deleteProvider stop manager index = (manager, index)) ∨
      (entry.deletionPending = false ∧ ∃ marked, deleteProvider stop manager index = (marked, index + 1) ∧
        marked.providers = manager.providers.set index { entry with deletionPending := true } ∧
          (∀ request ∈ entry.pendingRequests, ∀ state, ¬ marked.Holds request state) ∧
            (∀ request state, marked.Holds request state → manager.Holds request state) ∧
              ∀ call, .call call ∈ marked.tasks → .call call ∈ manager.tasks) ∨
      (entry.deletionPending = false ∧ deleteProvider stop manager index =
        ({ manager with providers := manager.providers.eraseIdx index }, index)) := by
  rw [deleteProvider, found]
  by_cases pending : entry.deletionPending = true
  · exact .inl ⟨pending, if_pos pending⟩
  · have unmarked := Bool.eq_false_of_not_eq_true pending
    right
    by_cases some : entry.pendingRequests ≠ []
    · left
      have shuffled : Shuffled [] []
          { manager with providers := manager.providers.set index { entry with deletionPending := true } } _ :=
        cancelRequests_shuffled stop entry.pendingRequests _
      refine ⟨unmarked, _, ?_, shuffled.providers, cancelRequests_clear stop entry.pendingRequests _,
        shuffled.held, shuffled.calls⟩
      simp only [pending, if_pos some]
      rfl
    · right
      refine ⟨unmarked, ?_⟩
      simp only [pending, if_neg some]
      rfl

end Deleting

section Walking

variable {chosen : String → Bool} {stop : Bool}

/-- A list from an index on, if there is an item at the index. -/
theorem drop_found {Item : Type} {items : List Item} {index : Nat} {item : Item}
    (found : items[index]? = some item) : items.drop index = item :: items.drop (index + 1) := by
  obtain ⟨less, same⟩ := List.getElem?_eq_some_iff.mp found
  rw [← same, List.drop_eq_getElem_cons less]

theorem drop_eraseIdx {Item : Type} {items : List Item} {index : Nat} (less : index < items.length) :
    (items.eraseIdx index).drop index = items.drop (index + 1) := by
  rw [List.eraseIdx_eq_take_drop_succ, List.drop_append_of_le_length (by simp; omega),
    List.drop_take_self, List.nil_append]

/-- A walk that comes back has met no entry that was marked before. -/
theorem unmarked_of_removeLoop {fuel index : Nat}
    (returned : removeLoop chosen stop fuel manager index = some after) :
    ∀ entry ∈ manager.providers.drop index, chosen entry.identifier = true → entry.deletionPending = false := by
  induction fuel generalizing manager index with
  | zero => cases returned
  | succ fuel ih =>
    rw [removeLoop] at returned
    cases found : manager.providers[index]? with
    | none =>
      rw [List.drop_eq_nil_of_le (List.getElem?_eq_none_iff.mp found)]
      exact List.forall_mem_nil _
    | some entry =>
      simp only [found] at returned
      have whole := drop_found found
      by_cases taken : chosen entry.identifier = true
      · rw [if_pos taken] at returned
        rcases deleteProvider_cases stop found with ⟨-, stays⟩ | ⟨fine, marked, goes, providers, -⟩ | ⟨fine, erased⟩
        · rw [stays] at returned
          exact ih returned
        · rw [goes] at returned
          have others := ih returned
          rw [providers, List.drop_set_of_lt (Nat.lt_succ_self _)] at others
          rw [whole]
          exact List.forall_mem_cons.mpr ⟨fun _ => fine, others⟩
        · rw [erased] at returned
          have others := ih returned
          rw [drop_eraseIdx (List.getElem?_eq_some_iff.mp found).1] at others
          rw [whole]
          exact List.forall_mem_cons.mpr ⟨fun _ => fine, others⟩
      · rw [if_neg taken] at returned
        rw [whole]
        exact List.forall_mem_cons.mpr ⟨fun also => absurd also taken, ih returned⟩

/-- A walk that meets no entry that was marked before comes back. -/
theorem removeLoop_of_unmarked {fuel index : Nat} (enough : manager.providers.length < fuel + index)
    (within : index ≤ manager.providers.length)
    (unmarked : ∀ entry ∈ manager.providers.drop index, chosen entry.identifier = true →
      entry.deletionPending = false) :
    ∃ after, removeLoop chosen stop fuel manager index = some after := by
  induction fuel generalizing manager index with
  | zero => omega
  | succ fuel ih =>
    rw [removeLoop]
    cases found : manager.providers[index]? with
    | none => exact ⟨manager, rfl⟩
    | some entry =>
      have less := (List.getElem?_eq_some_iff.mp found).1
      rw [drop_found found, List.forall_mem_cons] at unmarked
      obtain ⟨own, others⟩ := unmarked
      by_cases taken : chosen entry.identifier = true
      · simp only [if_pos taken]
        rcases deleteProvider_cases stop found with ⟨marked, -⟩ | ⟨-, marked, goes, providers, -⟩ | ⟨-, erased⟩
        · rw [own taken] at marked
          cases marked
        · rw [goes]
          apply ih
          · rw [providers, List.length_set]
            omega
          · rw [providers, List.length_set]
            omega
          · rwa [providers, List.drop_set_of_lt (Nat.lt_succ_self _)]
        · rw [erased]
          apply ih
          · rw [List.length_eraseIdx_of_lt less]
            omega
          · rw [List.length_eraseIdx_of_lt less]
            omega
          · rwa [drop_eraseIdx less]
      · simp only [if_neg taken]
        exact ih (by omega) less others

/-- With any fuel at all a removal comes back exactly if it meets no entry that was marked
before. -/
theorem removeLoop_returns_iff :
    (∃ fuel after, removeLoop chosen stop fuel manager 0 = some after) ↔
      ∀ entry ∈ manager.providers, chosen entry.identifier = true → entry.deletionPending = false := by
  constructor
  · rintro ⟨fuel, after, returned⟩
    exact unmarked_of_removeLoop returned
  · intro unmarked
    exact ⟨manager.providers.length + 1, removeLoop_of_unmarked (by omega) (Nat.zero_le _) unmarked⟩

theorem removeWhere_isSome_iff :
    (removeWhere chosen stop manager).isSome = true ↔
      ∀ entry ∈ manager.providers, chosen entry.identifier = true → entry.deletionPending = false := by
  rw [removeWhere, Option.isSome_iff_exists]
  by_cases empty : manager.providers = []
  · simp [empty]
  · rw [if_neg empty]
    constructor
    · rintro ⟨after, returned⟩
      exact unmarked_of_removeLoop returned
    · exact removeLoop_of_unmarked (by omega) (Nat.zero_le _)

end Walking

section Clearing

variable {stop : Bool}

/-- The requests of the first entries have no states. -/
def Cleared (manager : CefResourceManager Handler) (count : Nat) : Prop :=
  ∀ index < count, ∀ entry, manager.providers[index]? = some entry →
    ∀ request ∈ entry.pendingRequests, ∀ state, ¬ manager.Holds request state

/-- A walk over all providers leaves no state in a request object of an entry. -/
theorem removeLoop_clears {fuel index : Nat} (cleared : manager.Cleared index)
    (returned : removeLoop (fun _ => true) stop fuel manager index = some after) :
    (∀ entry ∈ after.providers, ∀ request ∈ entry.pendingRequests, ∀ state, ¬ after.Holds request state) ∧
      ∀ call, .call call ∈ after.tasks → .call call ∈ manager.tasks := by
  induction fuel generalizing manager index with
  | zero => cases returned
  | succ fuel ih =>
    rw [removeLoop] at returned
    cases found : manager.providers[index]? with
    | none =>
      simp only [found] at returned
      cases returned
      refine ⟨fun entry member => ?_, fun _ => id⟩
      obtain ⟨place, there⟩ := List.getElem?_of_mem member
      have less := (List.getElem?_eq_some_iff.mp there).1
      have beyond := List.getElem?_eq_none_iff.mp found
      exact cleared place (by omega) entry there
    | some entry =>
      simp only [found, if_true] at returned
      rcases deleteProvider_cases stop found with
        ⟨-, stays⟩ | ⟨-, marked, goes, providers, clear, held, calls⟩ | ⟨-, erased⟩
      · rw [stays] at returned
        exact ih cleared returned
      · rw [goes] at returned
        have more : marked.Cleared (index + 1) := by
          intro place less other there request member state holds
          rw [providers, List.getElem?_set] at there
          split_ifs at there with here
          · cases there
            exact clear request member state holds
          · exact cleared place (by omega) other there request member state (held request state holds)
        obtain ⟨clean, kept⟩ := ih more returned
        exact ⟨clean, fun call member => calls call (kept call member)⟩
      · rw [erased] at returned
        have same : CefResourceManager.Cleared
            { manager with providers := manager.providers.eraseIdx index } index := by
          intro place less other there
          rw [List.getElem?_eraseIdx_of_lt less] at there
          exact cleared place less other there
        obtain ⟨clean, kept⟩ := ih same returned
        exact ⟨clean, kept⟩

end Clearing

end CefBridge.Resources.CefResourceManager
