import CefBridge.Resources.Removal

/-!
# The life of a resource manager

Whatever providers do, and however calls and tasks interleave, a request that has come is
under way in exactly one place or its callback was executed, once. When the manager is
destroyed no request is lost: the tasks that are left execute the callbacks.
-/

namespace CefBridge.Resources.CefResourceManager

open Library
open CefBridge.Native (Bytes ascii)

variable {Handler : Type} {manager after : CefResourceManager Handler}

section Events

/-- The state of a task whose manager is gone is destroyed. -/
theorem Consistent.lost {state : RequestState} (inv : Consistent [state] [] manager)
    (dead : manager.alive = false) : Consistent [] [] (manager.execute state) where
  once := by
    refine List.Perm.trans ?_ inv.once
    rw [List.nil_append, List.append_nil, List.append_nil, List.singleton_append, List.map_cons, execute,
      ← List.append_assoc]
    exact List.perm_append_singleton _ _
  placed := fun alive => absurd (alive.symm.trans dead) Bool.noConfusion
  held := inv.held
  gone := inv.gone
  sorted := inv.sorted
  numbered := inv.numbered
  kept := inv.kept
  valid := inv.valid
  known := inv.known
  ordered := inv.ordered
  current := fun other member => inv.current other (List.mem_cons_of_mem _ member)
  urls := fun other member => inv.urls other (List.mem_cons_of_mem _ member)

/-- The next task is taken, with the state that goes with it. -/
theorem taken_shuffled {task : IoTask Handler} {tasks : List (IoTask Handler)} (next : manager.tasks = task :: tasks) :
    Shuffled [] task.state.toList manager { manager with tasks := tasks } := by
  refine ⟨rfl, rfl, rfl, rfl, rfl, rfl, ?_, fun _ _ => id, fun call member => next ▸ List.mem_cons_of_mem _ member⟩
  rw [states, states, next, List.nil_append]
  cases carried : task.state with
  | none =>
    rw [List.filterMap_cons_none carried]
    exact .refl _
  | some state =>
    rw [List.filterMap_cons_some carried, Option.toList_some, List.singleton_append]
    exact List.perm_middle.symm

theorem runTask_consistent (reactions : List (Reaction Handler)) (inv : Consistent [] [] manager)
    (returned : manager.runTask reactions = some after) : Consistent [] [] after := by
  rw [runTask] at returned
  cases next : manager.tasks with
  | nil =>
    simp only [next] at returned
    cases returned
    exact inv
  | cons task tasks =>
    simp only [next] at returned
    have taken := inv.shuffled (taken_shuffled next)
    cases task with
    | call call =>
      have allowed : manager.alive = true ∨ call.onManager = false := by
        cases alive : manager.alive with
        | true => exact .inl rfl
        | false => exact .inr ((inv.gone alive).2.2 call (next ▸ List.mem_cons_self))
      exact (perform_consistent taken allowed returned).1
    | continueOnIOThread state handler =>
      split_ifs at returned with alive
      · exact continueRequest_consistent reactions taken alive returned
      · cases returned
        exact taken.lost (Bool.eq_false_of_not_eq_true alive)
    | stopOnIOThread state =>
      split_ifs at returned with alive
      · cases returned
        exact stopRequest_consistent taken alive
      · cases returned
        exact taken.lost (Bool.eq_false_of_not_eq_true alive)

/-- A manager that is destroyed leaves no state in any request object. -/
theorem destroy_consistent (inv : Consistent [] [] manager) (alive : manager.alive = true)
    (returned : manager.destroy = some after) : Consistent [] [] after := by
  rw [destroy] at returned
  split_ifs at returned with needed
  · cases returned
    exact inv
  · obtain ⟨last, removed, rest⟩ := Option.bind_eq_some_iff.mp returned
    cases rest
    obtain ⟨kept, lives⟩ := removeWhere_consistent inv alive removed
    have clear : (∀ entry ∈ last.providers, ∀ request ∈ entry.pendingRequests, ∀ state, ¬ last.Holds request state) ∧
        ∀ call, .call call ∈ last.tasks → .call call ∈ manager.tasks := by
      rw [removeAllProviders, removeWhere] at removed
      split_ifs at removed with empty
      · cases removed
        rw [empty]
        exact ⟨List.forall_mem_nil _, fun _ => id⟩
      · exact removeLoop_clears (fun _ less => absurd less (Nat.not_lt_zero _)) removed
    refine ⟨kept.once, (fun impossible => Bool.noConfusion impossible), kept.held, fun _ => ⟨rfl, fun request state holds => ?_,
      fun call member => ?_⟩, .nil, List.forall_mem_nil _, List.forall_mem_nil _, kept.valid, kept.known,
      kept.ordered, kept.current, kept.urls⟩
    · have member : state ∈ last.states :=
        List.mem_append_left _ (List.mem_filterMap.mpr ⟨some state, List.mem_of_getElem? holds, rfl⟩)
      have place : state.place ∈ last.places :=
        (kept.placed lives).symm.subset (List.mem_map_of_mem member)
      obtain ⟨entry, there, among⟩ := List.mem_flatMap.mp place
      obtain ⟨other, pending, same⟩ := List.mem_map.mp among
      have own : other = request := (congrArg Prod.snd same).trans (kept.held request state holds)
      exact clear.1 entry there request (own ▸ pending) state holds
    · cases needs : call.onManager with
      | false => rfl
      | true => exact absurd (List.any_eq_true.mpr ⟨_, clear.2 call member, needs⟩) needed

/-- Every event that comes back keeps every request in one place. -/
theorem step_consistent (inv : Consistent [] [] manager) {event : Event Handler}
    (returned : manager.step event = some after) : Consistent [] [] after := by
  cases event with
  | onBeforeResourceLoad url identifier reactions =>
    rw [step] at returned
    split_ifs at returned with alive
    · obtain ⟨⟨last, value⟩, sent, rfl⟩ := Option.map_eq_some_iff.mp returned
      exact onBeforeResourceLoad_consistent reactions inv alive sent
    · cases returned
      exact inv
  | getResourceHandler identifier =>
    rw [step] at returned
    split_ifs at returned with alive
    · cases returned
      rw [getResourceHandler]
      split
      · exact inv.shuffled ⟨rfl, rfl, rfl, rfl, rfl, rfl, .refl _, fun _ _ => id, fun _ => id⟩
      · exact inv
    · cases returned
      exact inv
  | call call =>
    rw [step] at returned
    split_ifs at returned with allowed
    · refine (perform_consistent inv ?_ returned).1
      simpa using allowed
    · cases returned
      exact inv
  | callElsewhere call =>
    rw [step] at returned
    split_ifs at returned with allowed
    · cases returned
      have states : (manager.post (.call call)).states = manager.states := by simp [post, states, IoTask.state]
      refine ⟨?_, ?_, inv.held, fun dead => ?_, inv.sorted, inv.numbered, inv.kept, inv.valid, inv.known,
        inv.ordered, ?_, ?_⟩
      · rw [states]
        exact inv.once
      · rw [states]
        exact inv.placed
      · obtain ⟨none, clear, calls⟩ := inv.gone dead
        refine ⟨none, clear, fun other member => ?_⟩
        cases List.mem_append.mp member with
        | inl old => exact calls other old
        | inr new =>
          cases List.mem_singleton.mp new
          have dead : manager.alive = false := dead
          simpa [dead] using allowed
      · rw [states]
        exact inv.current
      · rw [states]
        exact inv.urls
    · cases returned
      exact inv
  | runTask reactions => exact runTask_consistent reactions inv returned
  | destroy =>
    rw [step] at returned
    split_ifs at returned with alive
    · exact destroy_consistent inv alive returned
    · cases returned
      exact inv

/-- Every run that comes back keeps every request in one place. -/
theorem consistent_run (events : List (Event Handler)) (returned : run events = some manager) :
    Consistent [] [] manager := by
  induction events using List.reverseRecOn generalizing manager with
  | nil =>
    cases returned
    exact consistent_new
  | append_singleton events event ih =>
    rw [run, List.foldlM_append] at returned
    obtain ⟨before, earlier, last⟩ := Option.bind_eq_some_iff.mp returned
    rw [List.foldlM_cons] at last
    obtain ⟨final, stepped, same⟩ := Option.bind_eq_some_iff.mp last
    cases same
    exact step_consistent (ih earlier) stepped

end Events

section Example

/-- Two providers are added, the first refuses a request and the second keeps it, and both
are removed. -/
def waiting : List (Event Unit) :=
  [.call (.addProvider 5 "late"), .callElsewhere (.addProvider 1 "early"), .runTask [],
    .onBeforeResourceLoad (ascii "http://tests/page?query") 7 [([], false)],
    .call (.removeProviders "late"), .call (.removeProviders "early")]

/-- The manager after this run. -/
def waited : CefResourceManager Unit := (run waiting).get (by decide)

theorem waited_returned : run waiting = some waited := (Option.some_get _).symm

end Example

/-- In every run each request that has come is under way in one place, or its callback was
executed once. -/
theorem callback_once (events : List (Event Handler)) (returned : run events = some manager) :
    (manager.states.map RequestState.callback ++ manager.executed).Perm (List.range manager.started) := by
  have once := (consistent_run events returned).once
  rwa [List.nil_append, List.append_nil] at once

theorem callback_once_waiting :
    (waited.states.map RequestState.callback ++ waited.executed).Perm (List.range waited.started) :=
  callback_once waiting waited_returned

/-- In every run providers are asked for a request in ascending order, and those of one order
as they were added: none of them twice, none that is to be deleted, and all of them
for the same URL. -/
theorem asked_in_order (events : List (Event Handler)) (returned : run events = some manager) :
    (∀ asked ∈ manager.asked, asked.valid = true) ∧
      (∀ callback, ((manager.asked.filter fun asked => asked.callback = callback).map Asked.position).Pairwise (· < ·)) ∧
      ∀ asked ∈ manager.asked, ∀ other ∈ manager.asked, asked.callback = other.callback → asked.url = other.url := by
  have inv := consistent_run events returned
  refine ⟨inv.valid, fun callback => ?_, fun asked member other among same => ?_⟩
  · rw [List.pairwise_map, List.pairwise_filter]
    refine inv.ordered.imp fun {asked later} ranked first second => (ranked ?_).1
    rw [of_decide_eq_true first, of_decide_eq_true second]
  · have forth : manager.asked.Pairwise fun asked later =>
        asked.callback = later.callback → asked.url = later.url :=
      inv.ordered.imp fun ranked same => (ranked same).2
    have back : manager.asked.Pairwise (flip fun asked later =>
        asked.callback = later.callback → asked.url = later.url) :=
      inv.ordered.imp fun ranked same => (ranked same.symm).2.symm
    exact forth.forall_of_forall_of_flip (fun _ _ _ => rfl) back member among same

theorem asked_in_order_waiting :
    waited.asked.length = 2 ∧ (∀ asked ∈ waited.asked, asked.valid = true) ∧
      (∀ callback, ((waited.asked.filter fun asked => asked.callback = callback).map Asked.position).Pairwise (· < ·)) ∧
      ∀ asked ∈ waited.asked, ∀ other ∈ waited.asked, asked.callback = other.callback → asked.url = other.url :=
  ⟨by decide, asked_in_order waiting waited_returned⟩

/-- A manager that is there has an entry for every request under way. -/
theorem Consistent.entry_of_state (inv : Consistent [] [] manager) (alive : manager.alive = true)
    {state : RequestState} (member : state ∈ manager.states) :
    ∃ entry ∈ manager.providers, state.currentEntry = some entry.position ∧
      state.currentRequest ∈ entry.pendingRequests := by
  have place : state.place ∈ manager.places := (inv.placed alive).symm.subset (List.mem_map_of_mem member)
  obtain ⟨entry, there, among⟩ := List.mem_flatMap.mp place
  obtain ⟨request, pending, same⟩ := List.mem_map.mp among
  obtain ⟨entries, requests⟩ := Prod.mk.inj same
  exact ⟨entry, there, entries.symm, requests ▸ pending⟩

theorem Consistent.state_of_entry (inv : Consistent [] [] manager) (alive : manager.alive = true)
    {entry : ProviderEntry} (member : entry ∈ manager.providers) {request : Nat}
    (pending : request ∈ entry.pendingRequests) :
    ∃ state ∈ manager.states, state.currentEntry = some entry.position ∧ state.currentRequest = request := by
  have place : (some entry.position, request) ∈ manager.places :=
    List.mem_flatMap.mpr ⟨entry, member, List.mem_map_of_mem pending⟩
  obtain ⟨state, there, same⟩ := List.mem_map.mp ((inv.placed alive).subset place)
  exact ⟨state, there, congrArg Prod.fst same, congrArg Prod.snd same⟩

/-- In every run a manager that is there has an entry for every request under way, and an
entry that is to be deleted has such a request. A manager that is gone has neither
entries nor request objects with a state. -/
theorem entries_of_run (events : List (Event Handler)) (returned : run events = some manager) :
    (manager.alive = true →
      (∀ state ∈ manager.states, ∃ entry ∈ manager.providers, state.currentEntry = some entry.position ∧
        state.currentRequest ∈ entry.pendingRequests) ∧
      ∀ entry ∈ manager.providers, ∀ request ∈ entry.pendingRequests, ∃ state ∈ manager.states,
        state.currentEntry = some entry.position ∧ state.currentRequest = request) ∧
      (∀ entry ∈ manager.providers, entry.deletionPending = true → entry.pendingRequests ≠ []) ∧
      (manager.alive = false → manager.providers = [] ∧ ∀ request state, ¬ manager.Holds request state) := by
  have inv := consistent_run events returned
  refine ⟨fun alive => ⟨?_, ?_⟩, inv.kept, fun dead => ⟨(inv.gone dead).1, (inv.gone dead).2.1⟩⟩
  · exact fun state member => inv.entry_of_state alive member
  · exact fun entry member request pending => inv.state_of_entry alive member pending

theorem entries_of_waiting :
    (waited.alive = true →
      (∀ state ∈ waited.states, ∃ entry ∈ waited.providers, state.currentEntry = some entry.position ∧
        state.currentRequest ∈ entry.pendingRequests) ∧
      ∀ entry ∈ waited.providers, ∀ request ∈ entry.pendingRequests, ∃ state ∈ waited.states,
        state.currentEntry = some entry.position ∧ state.currentRequest = request) ∧
      (∀ entry ∈ waited.providers, entry.deletionPending = true → entry.pendingRequests ≠ []) ∧
      (waited.alive = false → waited.providers = [] ∧ ∀ request state, ¬ waited.Holds request state) :=
  entries_of_run waiting waited_returned

/-- In every run a removal of providers never comes back exactly if one of them was removed
before and still has a request under way. That there is no result with the fuel that
`removeWhere` gives means that there is none with any fuel, by `removeLoop_returns_iff`. -/
theorem removeProviders_stays_iff (events : List (Event Handler)) (returned : run events = some manager)
    (alive : manager.alive = true) (identifier : String) :
    manager.removeProviders identifier = none ↔
      ∃ entry ∈ manager.providers, entry.identifier = identifier ∧ entry.deletionPending = true ∧
        ∃ state ∈ manager.states, state.currentEntry = some entry.position := by
  have inv := consistent_run events returned
  rw [removeProviders, ← Option.not_isSome_iff_eq_none, removeWhere_isSome_iff]
  push Not
  refine exists_congr fun entry => and_congr_right fun member => ?_
  rw [decide_eq_true_iff, ne_eq, Bool.not_eq_false]
  refine and_congr_right fun _ => ⟨fun marked => ⟨marked, ?_⟩, And.left⟩
  obtain ⟨request, pending⟩ := List.exists_mem_of_ne_nil _ (inv.kept entry member marked)
  obtain ⟨state, there, own, -⟩ := inv.state_of_entry alive member pending
  exact ⟨state, there, own⟩

theorem removeProviders_stays_waiting :
    waited.removeProviders "late" = none ↔
      ∃ entry ∈ waited.providers, entry.identifier = "late" ∧ entry.deletionPending = true ∧
        ∃ state ∈ waited.states, state.currentEntry = some entry.position :=
  removeProviders_stays_iff waiting waited_returned (by decide) "late"

section Destroying

/-- A task of a manager that is gone executes its callback and leaves the other tasks. -/
theorem runTask_dead (reactions : List (Reaction Handler)) (inv : Consistent [] [] manager)
    (dead : manager.alive = false) {task : IoTask Handler} {tasks : List (IoTask Handler)}
    (next : manager.tasks = task :: tasks) :
    ∃ after, manager.runTask reactions = some after ∧ after.alive = false ∧ after.tasks = tasks ∧
      after.started = manager.started := by
  obtain ⟨-, clear, calls⟩ := inv.gone dead
  rw [runTask, next]
  cases task with
  | continueOnIOThread state handler =>
    exact ⟨execute { manager with tasks := tasks } state, by simp [dead], dead, rfl, rfl⟩
  | stopOnIOThread state =>
    exact ⟨execute { manager with tasks := tasks } state, by simp [dead], dead, rfl, rfl⟩
  | call call =>
    have free := calls call (next ▸ List.mem_cons_self)
    have nothing : ∀ request, manager.requests[request]?.join = none := fun request =>
      Option.eq_none_iff_forall_not_mem.mpr fun state holds => clear request state (Option.join_eq_some_iff.mp holds)
    cases call with
    | continueRequest request handler =>
      refine ⟨{ manager with tasks := tasks }, ?_, dead, rfl, rfl⟩
      simp [perform, requestContinue, passState, nothing]
    | stopRequest request =>
      refine ⟨{ manager with tasks := tasks }, ?_, dead, rfl, rfl⟩
      simp [perform, requestStop, passState, nothing]
    | addProvider order identifier => cases free
    | removeProviders identifier => cases free
    | removeAllProviders => cases free
    | setUrlFilter filter => cases free

/-- When the manager is gone and the tasks that are left have run, every request that has
come has had its callback executed, once. -/
theorem executed_of_destroyed (events : List (Event Handler)) (returned : run events = some manager)
    (dead : manager.alive = false) :
    ∃ after, run (events ++ List.replicate manager.tasks.length (.runTask [])) = some after ∧
      after.started = manager.started ∧ after.executed.Perm (List.range manager.started) := by
  have inv := consistent_run events returned
  rw [run, List.foldlM_append, show events.foldlM step new = some manager from returned]
  suffices settles : ∀ (tasks : List (IoTask Handler)) (manager : CefResourceManager Handler),
      Consistent [] [] manager → manager.alive = false → manager.tasks = tasks →
        ∃ after, (List.replicate tasks.length (.runTask [])).foldlM step manager = some after ∧
          after.started = manager.started ∧ after.executed.Perm (List.range manager.started) from
    settles manager.tasks manager inv dead rfl
  intro tasks
  induction tasks with
  | nil =>
    intro manager inv dead none
    have clear := (inv.gone dead).2.1
    have nothing : manager.states = [] := by
      rw [states, none, List.append_eq_nil_iff, List.filterMap_eq_nil_iff]
      refine ⟨fun held member => ?_, rfl⟩
      cases held with
      | none => rfl
      | some state =>
        obtain ⟨request, found⟩ := List.getElem?_of_mem member
        exact absurd found (clear request state)
    have once := inv.once
    rw [nothing] at once
    exact ⟨manager, rfl, rfl, once⟩
  | cons task tasks ih =>
    intro manager inv dead next
    obtain ⟨middle, ran, gone, left, same⟩ := runTask_dead [] inv dead next
    obtain ⟨after, others, started, executed⟩ := ih middle (runTask_consistent [] inv ran) gone left
    refine ⟨after, ?_, started.trans same, same ▸ executed⟩
    rw [List.length_cons, List.replicate_succ, List.foldlM_cons, step, ran]
    exact others

/-- The run in which the manager is destroyed while a request waits. -/
def abandoned : List (Event Unit) := waiting.take 4 ++ [.destroy]

def left : CefResourceManager Unit := (run abandoned).get (by decide)

theorem executed_of_abandoned :
    ∃ after, run (abandoned ++ List.replicate left.tasks.length (.runTask [])) = some after ∧
      after.started = left.started ∧ after.executed.Perm (List.range left.started) :=
  executed_of_destroyed abandoned (Option.some_get _).symm (by decide)

end Destroying

end CefBridge.Resources.CefResourceManager
