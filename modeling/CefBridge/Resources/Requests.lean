import Mathlib.Data.List.Perm.Subperm
import CefBridge.Resources.Manager

/-!
# What becomes of requests for resources

A request that has come and whose callback was not executed is under way: its state is held
by one request object or goes with one task, and the entry of one provider has this
object among its pending requests. Providers are asked in the order of the list, none
of them twice, and none that is to be deleted.
-/

namespace CefBridge.Resources

open Library
open CefBridge.Native (Bytes)

variable {Handler : Type}

/-- The state that goes with a task. -/
def IoTask.state : IoTask Handler → Option RequestState
  | .call _ => none
  | .continueOnIOThread state _ => some state
  | .stopOnIOThread state => some state

/-- The entry of a state, and its request object there. -/
def RequestState.place (state : RequestState) : Option Position × Nat :=
  (state.currentEntry, state.currentRequest)

/-- The request objects that an entry has. -/
def ProviderEntry.places (entry : ProviderEntry) : List (Option Position × Nat) :=
  entry.pendingRequests.map fun request => (some entry.position, request)

namespace CefResourceManager

variable {manager after : CefResourceManager Handler}

/-- The states of requests that are under way. -/
def states (manager : CefResourceManager Handler) : List RequestState :=
  manager.requests.filterMap id ++ manager.tasks.filterMap IoTask.state

/-- A request object holds a state. -/
def Holds (manager : CefResourceManager Handler) (request : Nat) (state : RequestState) : Prop :=
  manager.requests[request]? = some (some state)

def places (manager : CefResourceManager Handler) : List (Option Position × Nat) :=
  manager.providers.flatMap ProviderEntry.places

/-- Every request is in one place. `hand` has states that were just taken from a request
object or a task, and `moving` those that were detached from their entries. -/
structure Consistent (hand moving : List RequestState) (manager : CefResourceManager Handler) : Prop where
  once : ((hand ++ manager.states ++ moving).map RequestState.callback ++ manager.executed).Perm
    (List.range manager.started)
  placed : manager.alive = true → manager.places.Perm ((hand ++ manager.states).map RequestState.place)
  held : ∀ request state, manager.Holds request state → state.currentRequest = request
  gone : manager.alive = false → manager.providers = [] ∧
    (∀ request state, ¬ manager.Holds request state) ∧
      ∀ call, .call call ∈ manager.tasks → call.onManager = false
  sorted : manager.providers.Pairwise fun entry later => entry.position < later.position
  numbered : ∀ entry ∈ manager.providers, entry.number < manager.added
  kept : ∀ entry ∈ manager.providers, entry.deletionPending = true → entry.pendingRequests ≠ []
  valid : ∀ asked ∈ manager.asked, asked.valid = true
  known : ∀ asked ∈ manager.asked, asked.callback < manager.started
  ordered : manager.asked.Pairwise fun asked later =>
    asked.callback = later.callback → asked.position < later.position ∧ asked.url = later.url
  current : ∀ state ∈ hand ++ manager.states, ∀ asked ∈ manager.asked, asked.callback = state.callback →
    ∀ position, state.currentEntry = some position → asked.position ≤ position
  urls : ∀ state ∈ hand ++ manager.states ++ moving, ∀ asked ∈ manager.asked,
    asked.callback = state.callback → asked.url = state.params.url

theorem consistent_new : Consistent [] [] (new : CefResourceManager Handler) where
  once := .refl _
  placed := fun _ => .refl _
  held := fun request state impossible => by cases impossible
  gone := fun alive => by cases alive
  sorted := .nil
  numbered := List.forall_mem_nil _
  kept := List.forall_mem_nil _
  valid := List.forall_mem_nil _
  known := List.forall_mem_nil _
  ordered := .nil
  current := List.forall_mem_nil _
  urls := List.forall_mem_nil _

section Shuffling

/-- Nothing is different but where states are. -/
structure Shuffled (hand hand' : List RequestState) (manager after : CefResourceManager Handler) : Prop where
  alive : after.alive = manager.alive
  providers : after.providers = manager.providers
  added : after.added = manager.added
  asked : after.asked = manager.asked
  started : after.started = manager.started
  executed : after.executed = manager.executed
  states : (hand' ++ after.states).Perm (hand ++ manager.states)
  held : ∀ request state, after.Holds request state → manager.Holds request state
  calls : ∀ call, .call call ∈ after.tasks → .call call ∈ manager.tasks

variable {hand hand' moving : List RequestState}

theorem Consistent.shuffled (inv : Consistent hand moving manager) (shuffled : Shuffled hand hand' manager after) :
    Consistent hand' moving after where
  once := by
    rw [shuffled.executed, shuffled.started]
    exact (((shuffled.states.append_right moving).map _).append_right _).trans inv.once
  placed := by
    intro alive
    rw [places, shuffled.providers]
    exact (inv.placed (shuffled.alive ▸ alive)).trans (shuffled.states.map _).symm
  held := fun request state found => inv.held request state (shuffled.held request state found)
  gone := by
    intro dead
    rw [shuffled.alive] at dead
    obtain ⟨providers, requests, calls⟩ := inv.gone dead
    exact ⟨shuffled.providers.trans providers,
      fun request state found => requests request state (shuffled.held request state found),
      fun call member => calls call (shuffled.calls call member)⟩
  sorted := by
    rw [shuffled.providers]
    exact inv.sorted
  numbered := by
    rw [shuffled.providers, shuffled.added]
    exact inv.numbered
  kept := by
    rw [shuffled.providers]
    exact inv.kept
  valid := by
    rw [shuffled.asked]
    exact inv.valid
  known := by
    rw [shuffled.asked, shuffled.started]
    exact inv.known
  ordered := by
    rw [shuffled.asked]
    exact inv.ordered
  current := by
    intro state member
    rw [shuffled.asked]
    exact inv.current state (shuffled.states.subset member)
  urls := by
    intro state member
    rw [shuffled.asked]
    exact inv.urls state ((shuffled.states.append_right moving).subset member)

theorem Shuffled.trans {last : CefResourceManager Handler} {hand'' : List RequestState}
    (first : Shuffled hand hand' manager after) (second : Shuffled hand' hand'' after last) :
    Shuffled hand hand'' manager last where
  alive := second.alive.trans first.alive
  providers := second.providers.trans first.providers
  added := second.added.trans first.added
  asked := second.asked.trans first.asked
  started := second.started.trans first.started
  executed := second.executed.trans first.executed
  states := second.states.trans first.states
  held := fun request state found => first.held request state (second.held request state found)
  calls := fun call member => first.calls call (second.calls call member)

theorem Shuffled.refl (manager : CefResourceManager Handler) : Shuffled hand hand manager manager :=
  ⟨rfl, rfl, rfl, rfl, rfl, rfl, .refl _, fun _ _ => id, fun _ => id⟩

/-- A list around one of its items. -/
theorem split_at {Item : Type} {items : List Item} {index : Nat} {item : Item}
    (found : items[index]? = some item) : items = items.take index ++ item :: items.drop (index + 1) := by
  obtain ⟨less, same⟩ := List.getElem?_eq_some_iff.mp found
  rw [← same, ← List.drop_eq_getElem_cons less, List.take_append_drop]

/-- Taking the state of a request object leaves the others. -/
theorem filterMap_set {requests : List (Option RequestState)} {request : Nat} {state : RequestState}
    (held : requests[request]? = some (some state)) :
    (state :: (requests.set request none).filterMap id).Perm (requests.filterMap id) := by
  have after : requests.set request none = requests.take request ++ none :: requests.drop (request + 1) :=
    List.set_eq_take_append_cons_drop.trans (if_pos (List.getElem?_eq_some_iff.mp held).1)
  conv_rhs => rw [split_at held]
  rw [after]
  simp only [List.filterMap_append, List.filterMap_cons, id]
  exact List.perm_middle.symm

theorem passState_shuffled {request : Nat} {state : RequestState}
    (passed : manager.passState request = (some state, after)) :
    Shuffled hand (state :: hand) manager after := by
  rw [passState, Prod.mk.injEq] at passed
  obtain ⟨joined, rfl⟩ := passed
  have held : manager.requests[request]? = some (some state) := Option.join_eq_some_iff.mp joined
  have perm := filterMap_set held
  refine ⟨rfl, rfl, rfl, rfl, rfl, rfl, ?_, fun other state found => ?_, fun _ => id⟩
  · rw [List.cons_append]
    refine List.perm_middle.symm.trans (List.Perm.append_left hand ?_)
    exact (perm.append_right _)
  · rw [Holds, List.getElem?_set] at found
    split_ifs at found
    · cases found
    · exact found

theorem post_shuffled {task : IoTask Handler} {state : RequestState} (own : task.state = some state)
    (manager : CefResourceManager Handler) : Shuffled (state :: hand) hand manager (manager.post task) := by
  refine ⟨rfl, rfl, rfl, rfl, rfl, rfl, ?_, fun _ _ => id, fun call member => ?_⟩
  · have more : (manager.post task).states = manager.states ++ [state] := by simp [states, post, own]
    rw [more, ← List.append_assoc]
    exact List.perm_append_singleton state _
  · cases List.mem_append.mp member with
    | inl old => exact old
    | inr new =>
      rw [← List.mem_singleton.mp new] at own
      cases own

theorem requestContinue_shuffled (manager : CefResourceManager Handler) (request : Nat)
    (handler : Option Handler) : Shuffled hand hand manager (manager.requestContinue request handler) := by
  unfold requestContinue
  cases passed : manager.passState request with
  | mk held after =>
    cases held with
    | none => exact .refl manager
    | some state => exact (passState_shuffled passed).trans (post_shuffled rfl after)

theorem requestStop_shuffled (manager : CefResourceManager Handler) (request : Nat) :
    Shuffled hand hand manager (manager.requestStop request) := by
  unfold requestStop
  cases passed : manager.passState request with
  | mk held after =>
    cases held with
    | none => exact .refl manager
    | some state => exact (passState_shuffled passed).trans (post_shuffled rfl after)

theorem cancelRequest_shuffled (stop : Bool) (manager : CefResourceManager Handler) (request : Nat) :
    Shuffled hand hand manager (cancelRequest stop manager request) := by
  rw [cancelRequest]
  split_ifs
  · have stopped : Shuffled hand hand manager (manager.requestStop request) := requestStop_shuffled ..
    exact ⟨stopped.alive, stopped.providers, stopped.added, stopped.asked, stopped.started, stopped.executed,
      stopped.states, stopped.held, stopped.calls⟩
  · have continued : Shuffled hand hand manager (manager.requestContinue request none) :=
      requestContinue_shuffled ..
    exact ⟨continued.alive, continued.providers, continued.added, continued.asked, continued.started,
      continued.executed, continued.states, continued.held, continued.calls⟩
  · exact .refl manager

theorem cancelRequests_shuffled (stop : Bool) (requests : List Nat) (manager : CefResourceManager Handler) :
    Shuffled hand hand manager (requests.foldl (cancelRequest stop) manager) := by
  induction requests generalizing manager with
  | nil => exact .refl manager
  | cons request requests ih => exact (cancelRequest_shuffled stop manager request).trans (ih _)

end Shuffling

section Listing

variable {hand moving : List RequestState}

/-- The list of providers is another one, and nothing else. -/
theorem Consistent.relisted (inv : Consistent hand moving manager) (alive : manager.alive = true)
    {entries : List ProviderEntry} {added : Nat}
    (placed : (entries.flatMap ProviderEntry.places).Perm manager.places)
    (sorted : entries.Pairwise fun entry later => entry.position < later.position)
    (numbered : ∀ entry ∈ entries, entry.number < added)
    (kept : ∀ entry ∈ entries, entry.deletionPending = true → entry.pendingRequests ≠ []) :
    Consistent hand moving { manager with providers := entries, added := added } where
  once := inv.once
  placed := fun alive => placed.trans (inv.placed alive)
  held := inv.held
  gone := fun dead => absurd (alive.symm.trans dead) Bool.noConfusion
  sorted := sorted
  numbered := numbered
  kept := kept
  valid := inv.valid
  known := inv.known
  ordered := inv.ordered
  current := inv.current
  urls := inv.urls

theorem position_lt {entry later : ProviderEntry} : entry.position < later.position ↔
    entry.order < later.order ∨ entry.order = later.order ∧ entry.number < later.number :=
  Prod.Lex.toLex_lt_toLex

/-- Behind the place of a new provider all orders are higher. -/
theorem order_behind {entries : List ProviderEntry}
    (sorted : entries.Pairwise fun entry later => entry.position < later.position) (order : Int) :
    ∀ entry ∈ entries.dropWhile (fun entry => ¬ entry.order > order), order < entry.order := by
  intro entry member
  cases rest : entries.dropWhile (fun entry => ¬ entry.order > order) with
  | nil =>
    rw [rest] at member
    cases member
  | cons first others =>
    have high : order < first.order := by
      have some : entries.dropWhile (fun entry => ¬ entry.order > order) ≠ [] := by
        rw [rest]
        exact List.cons_ne_nil _ _
      have stopped := List.head_dropWhile_not (fun entry : ProviderEntry => ¬ entry.order > order) some
      simp only [rest, List.head_cons] at stopped
      simpa using stopped
    have ranked := sorted.sublist (List.dropWhile_sublist (fun entry => ¬ entry.order > order))
    rw [rest] at ranked member
    cases List.mem_cons.mp member with
    | inl same => exact same ▸ high
    | inr later =>
      rcases position_lt.mp (List.rel_of_pairwise_cons ranked later) with higher | ⟨same, -⟩
      · exact high.trans higher
      · exact same ▸ high

theorem Consistent.added (inv : Consistent hand moving manager) (alive : manager.alive = true) (order : Int)
    (identifier : String) : Consistent hand moving (manager.addProvider order identifier) := by
  have whole : manager.providers.takeWhile (fun entry => ¬ entry.order > order) ++
      manager.providers.dropWhile (fun entry => ¬ entry.order > order) = manager.providers :=
    List.takeWhile_append_dropWhile
  have front : ∀ entry ∈ manager.providers.takeWhile (fun entry => ¬ entry.order > order),
      entry.order ≤ order ∧ entry ∈ manager.providers := by
    intro entry member
    have low := List.mem_takeWhile_imp (p := fun entry : ProviderEntry => ¬ entry.order > order) member
    exact ⟨by simpa using low, (List.takeWhile_sublist _).subset member⟩
  have back := order_behind inv.sorted order
  have sorted := inv.sorted
  rw [← whole, List.pairwise_append] at sorted
  have members : ∀ entry ∈ manager.providers.takeWhile (fun entry => ¬ entry.order > order) ++
      (⟨order, manager.added, identifier, [], false⟩ : ProviderEntry) ::
        manager.providers.dropWhile (fun entry => ¬ entry.order > order),
      entry ∈ manager.providers ∨ entry = ⟨order, manager.added, identifier, [], false⟩ := by
    intro entry member
    rw [List.mem_append, List.mem_cons] at member
    rcases member with first | new | last
    · exact .inl (front entry first).2
    · exact .inr new
    · exact .inl ((List.dropWhile_sublist _).subset last)
  refine inv.relisted alive ?_ ?_ (fun entry member => ?_) (fun entry member pending => ?_)
  · have same := congrArg (List.flatMap ProviderEntry.places) whole
    rw [List.flatMap_append] at same ⊢
    exact List.Perm.of_eq same
  · refine List.pairwise_append.mpr ⟨sorted.1, List.pairwise_cons.mpr ⟨fun entry member => ?_, sorted.2.1⟩,
      fun entry first later member => ?_⟩
    · exact position_lt.mpr (.inl (back entry member))
    · cases List.mem_cons.mp member with
      | inl new =>
        rw [new, position_lt]
        rcases (front entry first).1.lt_or_eq with lower | same
        · exact .inl lower
        · exact .inr ⟨same, inv.numbered entry (front entry first).2⟩
      | inr last => exact sorted.2.2 entry first later last
  · cases members entry member with
    | inl old => exact (inv.numbered entry old).trans (Nat.lt_succ_self _)
    | inr new => exact new ▸ Nat.lt_succ_self _
  · cases members entry member with
    | inl old => exact inv.kept entry old pending
    | inr new =>
      rw [new] at pending
      cases pending

/-- An entry is changed where it stands. -/
theorem Consistent.marked (inv : Consistent hand moving manager) (alive : manager.alive = true) {index : Nat}
    {entry : ProviderEntry} (found : manager.providers[index]? = some entry) (some : entry.pendingRequests ≠ []) :
    Consistent hand moving
      { manager with providers := manager.providers.set index { entry with deletionPending := true } } := by
  have before := split_at found
  have after : manager.providers.set index { entry with deletionPending := true } =
      manager.providers.take index ++ { entry with deletionPending := true } ::
        manager.providers.drop (index + 1) :=
    List.set_eq_take_append_cons_drop.trans (if_pos (List.getElem?_eq_some_iff.mp found).1)
  have sorted := inv.sorted
  have numbered := inv.numbered
  have kept := inv.kept
  rw [before] at sorted numbered kept
  refine inv.relisted alive ?_ ?_ ?_ ?_
  · have same := congrArg (List.flatMap ProviderEntry.places) before
    rw [List.flatMap_append, List.flatMap_cons] at same
    rw [after, List.flatMap_append, List.flatMap_cons]
    exact List.Perm.of_eq same.symm
  · rw [after]
    rw [List.pairwise_append, List.pairwise_cons] at sorted ⊢
    refine ⟨sorted.1, sorted.2.1, fun first front later member => ?_⟩
    cases List.mem_cons.mp member with
    | inl same => exact same ▸ sorted.2.2 first front entry List.mem_cons_self
    | inr last => exact sorted.2.2 first front later (List.mem_cons_of_mem _ last)
  · rw [after]
    intro other member
    rw [List.mem_append, List.mem_cons] at member
    rcases member with first | same | last
    · exact numbered other (List.mem_append_left _ first)
    · exact same ▸ numbered entry (by simp)
    · exact numbered other (by simp [last])
  · rw [after]
    intro other member pending
    rw [List.mem_append, List.mem_cons] at member
    rcases member with first | same | last
    · exact kept other (List.mem_append_left _ first) pending
    · exact same ▸ some
    · exact kept other (by simp [last]) pending

/-- An entry without requests is deleted. -/
theorem Consistent.deleted (inv : Consistent hand moving manager) (alive : manager.alive = true) {index : Nat}
    {entry : ProviderEntry} (found : manager.providers[index]? = some entry) (none : entry.pendingRequests = []) :
    Consistent hand moving { manager with providers := manager.providers.eraseIdx index } := by
  have before := split_at found
  have less : ∀ other ∈ manager.providers.eraseIdx index, other ∈ manager.providers :=
    fun other member => List.eraseIdx_subset member
  refine inv.relisted alive ?_ (inv.sorted.sublist (List.eraseIdx_sublist _ _))
    (fun other member => inv.numbered other (less other member)) fun other member => inv.kept other (less other member)
  have same := congrArg (List.flatMap ProviderEntry.places) before
  have nothing : entry.places = [] := by rw [ProviderEntry.places, none, List.map_nil]
  rw [List.flatMap_append, List.flatMap_cons, nothing, List.nil_append, ← List.flatMap_append,
    ← List.eraseIdx_eq_take_drop_succ] at same
  exact List.Perm.of_eq same.symm

theorem deleteProvider_consistent (inv : Consistent hand moving manager) (alive : manager.alive = true)
    (stop : Bool) (index : Nat) :
    Consistent hand moving (deleteProvider stop manager index).1 ∧
      (deleteProvider stop manager index).1.alive = true := by
  unfold deleteProvider
  cases found : manager.providers[index]? with
  | none => exact ⟨inv, alive⟩
  | some entry =>
    simp only []
    split_ifs with pending some
    · exact ⟨inv, alive⟩
    · have marked := inv.marked alive found some
      have canceled : Shuffled hand hand _ _ := cancelRequests_shuffled stop entry.pendingRequests
        { manager with providers := manager.providers.set index { entry with deletionPending := true } }
      exact ⟨marked.shuffled canceled, canceled.alive.trans alive⟩
    · exact ⟨inv.deleted alive found (not_not.mp some), alive⟩

theorem removeLoop_consistent {chosen : String → Bool} {stop : Bool} {fuel index : Nat}
    (inv : Consistent hand moving manager) (alive : manager.alive = true)
    (returned : removeLoop chosen stop fuel manager index = some after) :
    Consistent hand moving after ∧ after.alive = true := by
  induction fuel generalizing manager index with
  | zero => cases returned
  | succ fuel ih =>
    rw [removeLoop] at returned
    split at returned
    · cases returned
      exact ⟨inv, alive⟩
    · split_ifs at returned
      · obtain ⟨kept, lives⟩ := deleteProvider_consistent inv alive stop index
        exact ih kept lives returned
      · exact ih inv alive returned

theorem removeWhere_consistent {chosen : String → Bool} {stop : Bool} (inv : Consistent hand moving manager)
    (alive : manager.alive = true) (returned : removeWhere chosen stop manager = some after) :
    Consistent hand moving after ∧ after.alive = true := by
  rw [removeWhere] at returned
  split_ifs at returned
  · cases returned
    exact ⟨inv, alive⟩
  · exact removeLoop_consistent inv alive returned

/-- A call keeps every request in one place. -/
theorem perform_consistent {call : Call Handler} (inv : Consistent hand moving manager)
    (allowed : manager.alive = true ∨ call.onManager = false) (returned : manager.perform call = some after) :
    Consistent hand moving after ∧ after.alive = manager.alive := by
  cases call with
  | continueRequest request handler =>
    cases returned
    have shuffled : Shuffled hand hand manager _ := requestContinue_shuffled manager request handler
    exact ⟨inv.shuffled shuffled, shuffled.alive⟩
  | stopRequest request =>
    cases returned
    have shuffled : Shuffled hand hand manager _ := requestStop_shuffled manager request
    exact ⟨inv.shuffled shuffled, shuffled.alive⟩
  | addProvider order identifier =>
    cases returned
    exact ⟨inv.added (allowed.resolve_right Bool.noConfusion) order identifier, rfl⟩
  | removeProviders identifier =>
    have alive := allowed.resolve_right Bool.noConfusion
    rw [alive]
    exact removeWhere_consistent inv alive returned
  | removeAllProviders =>
    have alive := allowed.resolve_right Bool.noConfusion
    rw [alive]
    exact removeWhere_consistent inv alive returned
  | setUrlFilter filter =>
    cases returned
    exact ⟨inv.shuffled ⟨rfl, rfl, rfl, rfl, rfl, rfl, .refl _, fun _ _ => id, fun _ => id⟩, rfl⟩

theorem calls_consistent {calls : List (Call Handler)} (inv : Consistent hand moving manager)
    (alive : manager.alive = true) (returned : calls.foldlM perform manager = some after) :
    Consistent hand moving after ∧ after.alive = true := by
  induction calls generalizing manager with
  | nil =>
    cases returned
    exact ⟨inv, alive⟩
  | cons call calls ih =>
    rw [List.foldlM_cons] at returned
    obtain ⟨middle, first, others⟩ := Option.bind_eq_some_iff.mp returned
    obtain ⟨kept, lives⟩ := perform_consistent inv (.inl alive) first
    exact ih kept (lives.trans alive) others

end Listing

section Moving

variable {hand moving : List RequestState}

/-- A request leaves its entry, and takes the entry with it if it was the last one and the
entry is to be deleted. -/
theorem without_places {entry : ProviderEntry} {request : Nat} (member : request ∈ entry.pendingRequests) :
    entry.places.Perm
      ((some entry.position, request) :: (entry.without request).toList.flatMap ProviderEntry.places) := by
  have perm := (List.perm_cons_erase member).map fun request => (some entry.position, request)
  rw [ProviderEntry.without]
  by_cases last : (entry.deletionPending && (entry.pendingRequests.erase request).isEmpty) = true
  · have nothing := List.isEmpty_iff.mp (Bool.and_eq_true_iff.mp last).2
    rw [nothing] at perm
    rw [if_pos last]
    exact perm
  · rw [if_neg last]
    simpa [ProviderEntry.places, ProviderEntry.position] using perm

/-- The list around one of its entries. Other entries are at other places. -/
theorem Consistent.around (inv : Consistent hand moving manager) {entry : ProviderEntry}
    (member : entry ∈ manager.providers) :
    ∃ front back, manager.providers = front ++ entry :: back ∧
      (∀ other ∈ front, other.position ≠ entry.position) ∧ ∀ other ∈ back, entry.position < other.position := by
  obtain ⟨front, back, whole⟩ := List.append_of_mem member
  have sorted := inv.sorted
  rw [whole, List.pairwise_append, List.pairwise_cons] at sorted
  exact ⟨front, back, whole, fun other among => (sorted.2.2 other among entry List.mem_cons_self).ne,
    sorted.2.1.1⟩

/-- The entry of a state stands in the list, and what comes of it when the state leaves. -/
theorem Consistent.entry {state : RequestState} (inv : Consistent (state :: hand) moving manager)
    (alive : manager.alive = true) :
    ∃ front entry back, manager.providers = front ++ entry :: back ∧ state.currentEntry = some entry.position ∧
      state.currentRequest ∈ entry.pendingRequests ∧ behind entry.position manager.providers = back ∧
      (∀ other ∈ back, entry.position < other.position) ∧
      manager.detachRequestFromProvider state =
        ({ manager with providers := front ++ ((entry.without state.currentRequest).toList ++ back) },
          { state with currentEntry := none }) := by
  have place : state.place ∈ manager.places := (inv.placed alive).symm.subset (by simp)
  obtain ⟨entry, member, among⟩ := List.mem_flatMap.mp place
  obtain ⟨request, pending, same⟩ := List.mem_map.mp among
  obtain ⟨entries, numbers⟩ := Prod.mk.inj same
  obtain ⟨front, back, whole, before, behindAll⟩ := inv.around member
  have later : ∀ other ∈ back, other.position ≠ entry.position := fun other among => (behindAll other among).ne'
  have stay : ∀ others : List ProviderEntry, (∀ other ∈ others, other.position ≠ entry.position) →
      (others.filterMap fun other =>
        if other.position = entry.position then other.without state.currentRequest else some other) = others := by
    intro others apart
    refine (List.filterMap_congr fun other among => ?_).trans List.filterMap_some
    rw [if_neg (apart other among)]
  refine ⟨front, entry, back, whole, entries.symm, numbers ▸ pending, ?_, behindAll, ?_⟩
  · have skip : (front ++ entry :: back).dropWhile (fun other => other.position ≠ entry.position) = entry :: back := by
      rw [List.dropWhile_append_of_pos fun other among => decide_eq_true (before other among)]
      simp
    rw [behind, whole, skip, List.tail_cons]
  · rw [detachRequestFromProvider, ← entries]
    have left : (manager.providers.filterMap fun other =>
        if other.position = entry.position then other.without state.currentRequest else some other) =
          front ++ ((entry.without state.currentRequest).toList ++ back) := by
      rw [whole, List.filterMap_append, List.filterMap_cons, stay front before, stay back later, if_pos rfl]
      cases entry.without state.currentRequest <;> rfl
    simp only [left]

/-- A state is detached from its entry, and may have the next one in view. -/
theorem Consistent.detached {state : RequestState} (inv : Consistent (state :: hand) moving manager)
    (alive : manager.alive = true) (next : Option Position) :
    Consistent hand ({ state with currentEntry := next } :: moving)
      (manager.detachRequestFromProvider state).1 := by
  obtain ⟨front, entry, back, whole, own, pending, -, -, result⟩ := inv.entry alive
  rw [result]
  have fewer : ∀ other ∈ front ++ ((entry.without state.currentRequest).toList ++ back),
      other ∈ manager.providers ∨ entry.without state.currentRequest = some other := by
    intro other member
    rw [List.mem_append, List.mem_append, Option.mem_toList] at member
    rw [whole, List.mem_append, List.mem_cons]
    rcases member with first | same | last
    · exact .inl (.inl first)
    · exact .inr same
    · exact .inl (.inr (.inr last))
  have entryThere : entry ∈ manager.providers := whole ▸ List.mem_append_right _ List.mem_cons_self
  have less : ∀ other, entry.without state.currentRequest = some other → other.position = entry.position ∧
      other.number = entry.number ∧ (other.deletionPending = true → other.pendingRequests ≠ []) := by
    intro other same
    rw [ProviderEntry.without] at same
    split_ifs at same with last
    cases same
    refine ⟨rfl, rfl, fun deleted none => last ?_⟩
    rw [Bool.and_eq_true]
    exact ⟨deleted, List.isEmpty_iff.mpr none⟩
  have states : ∀ other ∈ hand ++ manager.states, other ∈ (state :: hand) ++ manager.states := by
    intro other member
    exact List.mem_cons_of_mem _ member
  refine ⟨?_, fun _ => ?_, inv.held, fun dead => absurd (alive.symm.trans dead) Bool.noConfusion, ?_,
    fun other member => ?_, fun other member deleted => ?_, inv.valid, inv.known, inv.ordered,
    fun other member => inv.current other (states other member), fun other member => ?_⟩
  · have moved : ((hand ++ manager.states) ++ { state with currentEntry := next } :: moving).Perm
        ({ state with currentEntry := next } :: (hand ++ manager.states ++ moving)) := List.perm_middle
    exact ((moved.map RequestState.callback).append_right _).trans inv.once
  · have placed := inv.placed alive
    rw [places, whole, List.flatMap_append, List.flatMap_cons] at placed
    rw [places, List.flatMap_append, List.flatMap_append]
    refine List.Perm.cons_inv (a := state.place) (List.Perm.trans ?_ placed)
    refine List.perm_middle.symm.trans (List.Perm.append_left _ ?_)
    rw [← List.cons_append]
    refine List.Perm.append_right _ ?_
    have moved := without_places pending
    rw [← own] at moved
    exact moved.symm
  · have sorted := inv.sorted
    rw [whole, List.pairwise_append, List.pairwise_cons] at sorted
    rw [List.pairwise_append]
    cases rest : entry.without state.currentRequest with
    | none =>
      exact ⟨sorted.1, sorted.2.1.2, fun first among later member =>
        sorted.2.2 first among later (List.mem_cons_of_mem _ member)⟩
    | some other =>
      have same := (less other rest).1
      rw [Option.toList_some, List.singleton_append, List.pairwise_cons, same]
      refine ⟨sorted.1, sorted.2.1, fun first among later member => ?_⟩
      cases List.mem_cons.mp member with
      | inl own =>
        rw [own, same]
        exact sorted.2.2 first among entry List.mem_cons_self
      | inr last => exact sorted.2.2 first among later (List.mem_cons_of_mem _ last)
  · rcases fewer other member with old | rest
    · exact inv.numbered other old
    · exact (less other rest).2.1 ▸ inv.numbered entry entryThere
  · rcases fewer other member with old | rest
    · exact inv.kept other old deleted
    · exact (less other rest).2.2 deleted
  · rw [List.mem_append, List.mem_cons] at member
    rcases member with among | own | among
    · exact inv.urls other (List.mem_append_left _ (states other among))
    · rw [own]
      exact inv.urls state (by simp)
    · exact inv.urls other (List.mem_append_right _ among)

/-- The callback of a state that was detached is executed. -/
theorem Consistent.executed {state : RequestState} (inv : Consistent hand (state :: moving) manager) :
    Consistent hand moving (manager.execute state) where
  once := by
    have moved : ((hand ++ manager.states) ++ state :: moving).Perm (state :: (hand ++ manager.states ++ moving)) :=
      List.perm_middle
    have last := List.perm_append_singleton state.callback
      ((hand ++ manager.states ++ moving).map RequestState.callback ++ manager.executed)
    rw [List.append_assoc] at last
    exact last.trans (((moved.map RequestState.callback).append_right _).symm.trans inv.once)
  placed := inv.placed
  held := inv.held
  gone := inv.gone
  sorted := inv.sorted
  numbered := inv.numbered
  kept := inv.kept
  valid := inv.valid
  known := inv.known
  ordered := inv.ordered
  current := inv.current
  urls := fun other member => inv.urls other (by
    rw [List.mem_append] at member ⊢
    exact member.imp id (List.mem_cons_of_mem _))

/-- Requests under way have different callbacks. -/
theorem Consistent.alone {state : RequestState} (inv : Consistent hand (state :: moving) manager) :
    ∀ other ∈ hand ++ manager.states, other.callback ≠ state.callback := by
  have distinct := inv.once.nodup_iff.mpr List.nodup_range
  have callbacks := (List.nodup_append.mp distinct).1
  rw [List.map_append, List.nodup_append] at callbacks
  exact fun other member => callbacks.2.2 _ (List.mem_map_of_mem member) _ (by simp)

/-- What is known of a state that is about to be shown to a provider. -/
structure Ready (manager : CefResourceManager Handler) (state : RequestState) : Prop where
  entry : ∃ entry ∈ manager.providers, state.currentEntry = some entry.position ∧ entry.deletionPending = false
  before : ∀ asked ∈ manager.asked, asked.callback = state.callback →
    ∀ position, state.currentEntry = some position → asked.position < position

theorem newRequest_states (manager : CefResourceManager Handler) (state : RequestState) :
    (manager.newRequest state).states.Perm
      ({ state with currentRequest := manager.requests.length } :: manager.states) := by
  rw [states, states, newRequest, List.filterMap_append, List.append_assoc]
  exact List.perm_middle

/-- A request object is made on the entry of a state. -/
theorem Consistent.asks {state : RequestState} (inv : Consistent [] [state] manager) (alive : manager.alive = true)
    (ready : Ready manager state) : Consistent [] [] (manager.newRequest state) := by
  obtain ⟨entry, member, own, stays⟩ := ready.entry
  obtain ⟨front, back, whole, before, behindAll⟩ := inv.around member
  have states := manager.newRequest_states state
  have others := inv.alone
  have started : state.callback < manager.started := by
    rw [← List.mem_range]
    exact inv.once.subset (by simp)
  have question : manager.question state = some ⟨state.callback, entry.position, state.params.url,
      manager.providers.any fun other => other.position = entry.position && !other.deletionPending⟩ := by
    rw [CefResourceManager.question, own, Option.map_some]
  have asked : (manager.newRequest state).asked = manager.asked ++ [⟨state.callback, entry.position,
      state.params.url, manager.providers.any fun other => other.position = entry.position && !other.deletionPending⟩] := by
    rw [newRequest, question]
    rfl
  have members : ∀ other ∈ (manager.newRequest state).providers, ∃ old ∈ manager.providers,
      other.position = old.position ∧ other.number = old.number ∧ other.deletionPending = old.deletionPending ∧
        (old.pendingRequests ≠ [] → other.pendingRequests ≠ []) := by
    intro other among
    obtain ⟨old, there, rfl⟩ := List.mem_map.mp among
    refine ⟨old, there, ?_⟩
    split_ifs
    · exact ⟨rfl, rfl, rfl, fun _ => List.append_ne_nil_of_right_ne_nil _ (List.cons_ne_nil _ _)⟩
    · exact ⟨rfl, rfl, rfl, id⟩
  refine ⟨?_, fun _ => ?_, fun request held found => ?_,
    fun dead => absurd (alive.symm.trans dead) Bool.noConfusion, ?_, fun other among => ?_,
    fun other among deleted => ?_, fun other among => ?_, fun other among => ?_, ?_, fun other among => ?_,
    fun other among => ?_⟩
  · refine List.Perm.trans (List.Perm.append_right _ ?_) inv.once
    have moved := (states.map RequestState.callback).trans
      (List.perm_append_singleton state.callback (manager.states.map RequestState.callback)).symm
    simpa using moved
  · have placed := inv.placed alive
    have stay : ∀ rest : List ProviderEntry, (∀ other ∈ rest, other.position ≠ entry.position) →
        (rest.map fun other => if state.currentEntry = some other.position then
          { other with pendingRequests := other.pendingRequests ++ [manager.requests.length] } else other) = rest := by
      intro rest apart
      refine (List.map_congr_left fun other among => ?_).trans (List.map_id _)
      rw [own, if_neg fun same => apart other among (Option.some.inj same).symm]
      rfl
    have listed : (manager.newRequest state).providers = front ++
        { entry with pendingRequests := entry.pendingRequests ++ [manager.requests.length] } :: back := by
      rw [newRequest]
      simp only [whole]
      rw [List.map_append, List.map_cons, stay front before, stay back fun other among => (behindAll other among).ne',
        if_pos own]
    have more : (manager.newRequest state).places.Perm
        ((some entry.position, manager.requests.length) :: manager.places) := by
      rw [places, listed, places, whole]
      simp only [List.flatMap_append, List.flatMap_cons, ProviderEntry.places, List.map_append, List.map_cons,
        List.map_nil, List.append_assoc]
      rw [← List.append_assoc (front.flatMap _), ← List.append_assoc (front.flatMap _)]
      exact List.perm_middle
    have last := (states.map RequestState.place).symm
    rw [List.map_cons, RequestState.place, own] at last
    exact more.trans ((placed.cons _).trans last)
  · rw [Holds, newRequest, List.getElem?_append] at found
    split_ifs at found with less
    · exact inv.held request held found
    · obtain ⟨here, same⟩ := List.getElem?_eq_some_iff.mp found
      rw [List.length_singleton] at here
      have last : request = manager.requests.length := by omega
      subst last
      simp only [Nat.sub_self, List.getElem_cons_zero, Option.some.injEq] at same
      exact same ▸ rfl
  · have sorted := inv.sorted
    rw [newRequest, List.pairwise_map]
    refine sorted.imp fun {first later} less => ?_
    split_ifs <;> exact less
  · obtain ⟨old, there, -, number, -⟩ := members other among
    rw [number]
    exact inv.numbered old there
  · obtain ⟨old, there, -, -, same, pending⟩ := members other among
    exact pending (inv.kept old there (same ▸ deleted))
  · rw [asked] at among
    cases List.mem_append.mp among with
    | inl old => exact inv.valid other old
    | inr new =>
      rw [List.mem_singleton.mp new]
      exact List.any_eq_true.mpr ⟨entry, member, by simp [stays]⟩
  · rw [asked] at among
    cases List.mem_append.mp among with
    | inl old => exact inv.known other old
    | inr new =>
      rw [List.mem_singleton.mp new]
      exact started
  · rw [asked, List.pairwise_append]
    refine ⟨inv.ordered, List.pairwise_singleton _ _, fun first old later new same => ?_⟩
    rw [List.mem_singleton.mp new] at same ⊢
    exact ⟨ready.before first old same _ own, inv.urls state (by simp) first old same⟩
  · intro first old same position at_entry
    rw [asked] at old
    cases List.mem_cons.mp (states.subset among) with
    | inl mine =>
      rw [mine] at same at_entry
      cases List.mem_append.mp old with
      | inl earlier => exact (ready.before first earlier same position at_entry).le
      | inr new =>
        rw [List.mem_singleton.mp new]
        exact (Option.some.inj (own.symm.trans at_entry)).le
    | inr rest =>
      cases List.mem_append.mp old with
      | inl earlier => exact inv.current other rest first earlier same position at_entry
      | inr new =>
        rw [List.mem_singleton.mp new] at same
        exact absurd same.symm (others other rest)
  · intro first old same
    rw [List.append_nil] at among
    rw [asked] at old
    cases List.mem_cons.mp (states.subset among) with
    | inl mine =>
      rw [mine] at same ⊢
      cases List.mem_append.mp old with
      | inl earlier => exact inv.urls state (by simp) first earlier same
      | inr new => rw [List.mem_singleton.mp new]
    | inr rest =>
      cases List.mem_append.mp old with
      | inl earlier => exact inv.urls other (List.mem_append_left _ rest) first earlier same
      | inr new =>
        rw [List.mem_singleton.mp new] at same
        exact absurd same.symm (others other rest)

end Moving

section Sending

/-- A state moves to the next provider that is not to be deleted, if there is one. -/
theorem incrementProvider_consistent {state : RequestState} (inv : Consistent [state] [] manager)
    (alive : manager.alive = true) {moved : RequestState} {more : Bool}
    (result : manager.incrementProvider state = (after, moved, more)) :
    Consistent [] [moved] after ∧ after.alive = true ∧
      if more then Ready after moved else moved.currentEntry = none := by
  obtain ⟨front, entry, back, whole, own, pending, rest, higher, detached⟩ := inv.entry alive
  have kept := inv.detached alive (getNextValidProvider back)
  rw [incrementProvider, own, Option.bind_some, rest, detached] at result
  rw [detached] at kept
  simp only [Prod.mk.injEq] at result
  obtain ⟨rfl, rfl, rfl⟩ := result
  refine ⟨kept, alive, ?_⟩
  cases next : back.find? fun entry => !entry.deletionPending with
  | none => simp [getNextValidProvider, next]
  | some later =>
    have member := List.mem_of_find?_eq_some next
    have stays := List.find?_some next
    simp only [getNextValidProvider, next, Option.map_some, Option.isSome_some, if_true]
    refine ⟨⟨later, ?_, rfl, by simpa using stays⟩, fun asked old same position found => ?_⟩
    · exact List.mem_append_right _ (List.mem_append_right _ member)
    · cases found
      exact (inv.current state (by simp) asked old same entry.position own).trans_lt (higher later member)

/-- A state that is taken away from its provider ends. -/
theorem stopRequest_consistent {state : RequestState} (inv : Consistent [state] [] manager)
    (alive : manager.alive = true) : Consistent [] [] (manager.stopRequest state) := by
  obtain ⟨front, entry, back, whole, own, pending, rest, higher, detached⟩ := inv.entry alive
  have kept := inv.detached alive none
  rw [stopRequest, detached]
  rw [detached] at kept
  exact kept.executed

/-- A state without a provider ends. -/
theorem stopRequest_detached {state : RequestState} (none : state.currentEntry = none)
    (inv : Consistent [] [state] manager) : Consistent [] [] (manager.stopRequest state) := by
  rw [stopRequest, detachRequestFromProvider, none]
  exact inv.executed

/-- However long providers are asked, every request stays in one place. -/
theorem sendRequest_consistent (reactions : List (Reaction Handler)) {state : RequestState} {handled : Bool}
    (inv : Consistent [] [state] manager) (alive : manager.alive = true) (ready : Ready manager state)
    (returned : sendRequest reactions manager state = some (after, handled)) :
    Consistent [] [] after ∧ after.alive = true := by
  induction reactions generalizing manager state with
  | nil =>
    rw [sendRequest] at returned
    cases returned
    exact ⟨inv.asks alive ready, alive⟩
  | cons reaction reactions ih =>
    obtain ⟨calls, handles⟩ := reaction
    rw [sendRequest] at returned
    obtain ⟨middle, called, rest⟩ := Option.bind_eq_some_iff.mp returned
    obtain ⟨kept, lives⟩ := calls_consistent (inv.asks alive ready) alive called
    split_ifs at rest with takes
    · cases rest
      exact ⟨kept, lives⟩
    · cases passed : middle.passState manager.requests.length with
      | mk held left =>
        rw [passed] at rest
        cases held with
        | none =>
          cases rest
          exact ⟨kept, lives⟩
        | some state =>
          have shuffled : Shuffled [] [state] middle left := passState_shuffled passed
          cases increased : left.incrementProvider state with
          | mk last moved =>
            obtain ⟨moved, more⟩ := moved
            obtain ⟨there, lives, next⟩ := incrementProvider_consistent (kept.shuffled shuffled)
              (shuffled.alive.trans lives) increased
            simp only [increased] at rest
            cases more with
            | true => exact ih there lives next rest
            | false =>
              cases rest
              refine ⟨stopRequest_detached next there, ?_⟩
              rw [stopRequest, detachRequestFromProvider, next]
              exact lives

theorem continueRequest_consistent (reactions : List (Reaction Handler)) {state : RequestState}
    {handler : Option Handler} (inv : Consistent [state] [] manager) (alive : manager.alive = true)
    (returned : manager.continueRequest reactions state handler = some after) : Consistent [] [] after := by
  cases handler with
  | some handler =>
    cases returned
    refine stopRequest_consistent ?_ alive
    exact inv.shuffled ⟨rfl, rfl, rfl, rfl, rfl, rfl, .refl _, fun _ _ => id, fun _ => id⟩
  | none =>
    rw [continueRequest] at returned
    cases increased : manager.incrementProvider state with
    | mk last moved =>
      obtain ⟨moved, more⟩ := moved
      obtain ⟨there, lives, next⟩ := incrementProvider_consistent inv alive increased
      simp only [increased] at returned
      cases more with
      | true =>
        obtain ⟨result, sent, rfl⟩ := Option.map_eq_some_iff.mp returned
        exact (sendRequest_consistent reactions there lives next sent).1
      | false =>
        cases returned
        exact stopRequest_detached next there

/-- A request comes, and nothing is known of it yet. -/
theorem Consistent.comes (inv : Consistent [] [] manager) (next : Option Position) (params : RequestParams) :
    Consistent [] [⟨manager.started, next, 0, params⟩] { manager with started := manager.started + 1 } where
  once := by
    have more := (List.perm_append_singleton manager.started
      (manager.states.map RequestState.callback ++ manager.executed)).symm
    have moved : (([] ++ manager.states ++ [(⟨manager.started, next, 0, params⟩ : RequestState)]).map
        RequestState.callback ++ manager.executed).Perm
          (manager.started :: (manager.states.map RequestState.callback ++ manager.executed)) := by
      rw [List.nil_append, List.map_append, List.append_assoc]
      exact List.perm_middle
    have once := inv.once
    rw [List.nil_append, List.append_nil] at once
    rw [List.range_succ]
    exact (moved.trans more).trans (once.append_right _)
  placed := inv.placed
  held := inv.held
  gone := inv.gone
  sorted := inv.sorted
  numbered := inv.numbered
  kept := inv.kept
  valid := inv.valid
  known := fun asked member => (inv.known asked member).trans (Nat.lt_succ_self _)
  ordered := inv.ordered
  current := inv.current
  urls := by
    intro state member asked old same
    cases List.mem_append.mp member with
    | inl earlier => exact inv.urls state (List.mem_append_left _ earlier) asked old same
    | inr new =>
      rw [List.mem_singleton.mp new] at same
      exact absurd same (inv.known asked old).ne

theorem onBeforeResourceLoad_consistent (reactions : List (Reaction Handler)) {url : Bytes}
    {identifier : Identifier} {value : ReturnValue} (inv : Consistent [] [] manager) (alive : manager.alive = true)
    (returned : manager.onBeforeResourceLoad reactions url identifier = some (after, value)) :
    Consistent [] [] after := by
  rw [onBeforeResourceLoad] at returned
  cases first : getNextValidProvider manager.providers with
  | none =>
    rw [first] at returned
    cases returned
    exact inv
  | some position =>
    simp only [first] at returned
    obtain ⟨⟨last, handled⟩, sent, rest⟩ := Option.bind_eq_some_iff.mp returned
    cases rest
    obtain ⟨entry, found, rfl⟩ := Option.map_eq_some_iff.mp first
    have stays := List.find?_some found
    refine (sendRequest_consistent reactions (inv.comes _ _) alive ?_ sent).1
    refine ⟨⟨entry, List.mem_of_find?_eq_some found, rfl, by simpa using stays⟩, fun asked old same => ?_⟩
    exact absurd same (inv.known asked old).ne

end Sending

end CefResourceManager

end CefBridge.Resources
