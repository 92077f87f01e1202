import CefBridge.Router.BrowserSide
import CefBridge.Router.Requests

/-!
# What becomes of the queries in the browser process

A query that a handler has taken is pending until it is completed or canceled. While it
is pending every outcome that its callback posted is sent on when its turn comes;
after that nothing more is sent for it. A query that no handler takes is answered
with a cancel.
-/

namespace CefBridge.Router

open Library

/-- The query that a task answers, and with what. -/
def UiTask.answer : UiTask → Option (Int × Int × Outcome)
  | .onCallbackSuccess browserId queryId response => some (browserId, queryId, .success response)
  | .onCallbackFailure browserId queryId errorCode errorMessage =>
    some (browserId, queryId, .failure errorCode errorMessage)
  | _ => none

namespace BrowserSide

variable {router after : BrowserSide}

abbrev PendingQuery := (Int ×ₗ Int) × QueryInfo

def browserIdOf (query : PendingQuery) : Int := (ofLex query.1).1

def queryIdOf (query : PendingQuery) : Int := (ofLex query.1).2

/-- The queries that are pending. -/
def pending (router : BrowserSide) : List PendingQuery := router.browserQueryInfoMap.flat.entries

/-- What stays of a callback. -/
def identity (impl : CallbackImpl) : Int × Int × Bool := (impl.browserId, impl.queryId, impl.persistent)

section Canceling

/-- Nothing is different but the handlers, what is pending, and what was sent and canceled. -/
structure Same (router after : BrowserSide) : Prop where
  queryIdGenerator : after.queryIdGenerator = router.queryIdGenerator
  callbacks : after.callbacks.map identity = router.callbacks.map identity
  tasks : after.tasks = router.tasks
  received : after.received = router.received
  questions : after.questions = router.questions
  handled : after.handled = router.handled
  completed : after.completed = router.completed

theorem Same.refl (router : BrowserSide) : Same router router := ⟨rfl, rfl, rfl, rfl, rfl, rfl, rfl⟩

theorem Same.trans {last : BrowserSide} (first : Same router after) (second : Same after last) :
    Same router last where
  queryIdGenerator := second.queryIdGenerator.trans first.queryIdGenerator
  callbacks := second.callbacks.trans first.callbacks
  tasks := second.tasks.trans first.tasks
  received := second.received.trans first.received
  questions := second.questions.trans first.questions
  handled := second.handled.trans first.handled
  completed := second.completed.trans first.completed

/-- Queries have been canceled, and the renderer process may have been told. -/
structure Removed (notify : Bool) (router after : BrowserSide) (gone : List PendingQuery) : Prop
    extends Same router after where
  pending : router.pending.Perm (gone ++ after.pending)
  sent : after.sent = router.sent ++ if notify then gone.map fun query => ⟨query.2.key, .canceled⟩ else []
  canceled : after.canceled = router.canceled ++ gone.map fun query => (queryIdOf query, query.2.handler)
  dropped : after.dropped = router.dropped ++ if notify then [] else gone.map fun query => query.2.key

theorem identity_detach (callbacks : List CallbackImpl) (callback : Nat) :
    (callbacks.modify callback fun impl => { impl with router := false }).map identity =
      callbacks.map identity := by
  apply List.ext_getElem?
  intro index
  rw [List.getElem?_map, List.getElem?_map, List.getElem?_modify]
  cases callbacks[index]? with
  | none => rfl
  | some impl =>
    by_cases own : callback = index
    · simp [own, identity]
    · simp [own]

/-- What canceling a list of queries does, apart from the map. -/
theorem foldl_cancelQuery (notify : Bool) (gone : List PendingQuery) (router : BrowserSide) :
    let after := gone.foldl (BrowserInfoMap.actEntry (cancelQuery notify)) router
    Same router after ∧
      after.sent = router.sent ++ (if notify then gone.map fun query => ⟨query.2.key, .canceled⟩ else []) ∧
      after.canceled = router.canceled ++ (gone.map fun query => (queryIdOf query, query.2.handler)) ∧
      after.dropped = router.dropped ++ if notify then [] else gone.map fun query => query.2.key := by
  induction gone generalizing router with
  | nil => exact ⟨.refl router, by simp, by simp, by simp⟩
  | cons query gone ih =>
    obtain ⟨same, sent, canceled, dropped⟩ := ih (BrowserInfoMap.actEntry (cancelQuery notify) router query)
    have first : Same router (BrowserInfoMap.actEntry (cancelQuery notify) router query) := by
      cases notify <;> exact ⟨rfl, identity_detach _ _, rfl, rfl, rfl, rfl, rfl⟩
    refine ⟨first.trans same, sent.trans ?_, canceled.trans ?_, dropped.trans ?_⟩
    · cases notify <;>
        simp [BrowserInfoMap.actEntry, cancelQuery, detach, sendQueryFailure, send, Outcome.canceled]
    · cases notify <;>
        simp [BrowserInfoMap.actEntry, cancelQuery, detach, sendQueryFailure, send, queryIdOf]
    · cases notify <;>
        simp [BrowserInfoMap.actEntry, cancelQuery, detach, sendQueryFailure, send]

/-- The queries that canceling for a browser or a handler takes away. -/
def isFor (browserId : Option Int) (handler : Option Handler) (query : PendingQuery) : Bool :=
  browserId.all (fun browserId => browserIdOf query = browserId) &&
    handler.all fun handler => query.2.handler = handler

theorem removed_of_walk {notify : Bool} {gone : List PendingQuery}
    {walked : BrowserSide × BrowserInfoMap Int QueryInfo}
    (state : walked.1 = gone.foldl (BrowserInfoMap.actEntry (cancelQuery notify)) router)
    (perm : router.pending.Perm (gone ++ walked.2.flat.entries)) :
    Removed notify router { walked.1 with browserQueryInfoMap := walked.2 } gone := by
  obtain ⟨same, sent, canceled, dropped⟩ := foldl_cancelQuery notify gone router
  rw [← state] at same sent canceled dropped
  exact ⟨⟨same.queryIdGenerator, same.callbacks, same.tasks, same.received, same.questions, same.handled,
    same.completed⟩, perm, sent, canceled, dropped⟩

theorem cancelPendingFor_removed (router : BrowserSide) (browserId : Option Int)
    (handler : Option Handler) (notify : Bool) :
    Removed notify router (router.cancelPendingFor browserId handler notify)
      (router.pending.filter (isFor browserId handler)) := by
  rw [cancelPendingFor]
  by_cases none : router.browserQueryInfoMap.isEmpty = true
  · have nothing : router.pending = [] := router.browserQueryInfoMap.isEmpty_iff.mp none
    rw [if_pos none, nothing]
    exact ⟨.refl router, by simp [nothing], by simp, by simp, by simp⟩
  · rw [if_neg none]
    cases browserId with
    | none =>
      obtain ⟨state, left⟩ := BrowserInfoMap.findAll_selectAll
        (fun _ _ (info : QueryInfo) => handler.all fun handler => info.handler = handler) (cancelQuery notify)
        router.browserQueryInfoMap router
      have chosen : isFor .none handler = BrowserInfoMap.chosenEntry
          fun _ _ (info : QueryInfo) => handler.all fun handler => info.handler = handler := by
        funext query
        simp [isFor, BrowserInfoMap.chosenEntry]
      rw [chosen]
      exact removed_of_walk state (left ▸ SortedMap.perm_keep _ _)
    | some browserId =>
      obtain ⟨state, left⟩ := BrowserInfoMap.findAllOf_selectAll
        (fun _ _ (info : QueryInfo) => handler.all fun handler => info.handler = handler) (cancelQuery notify)
        router.browserQueryInfoMap browserId router
      have chosen : isFor (some browserId) handler = BrowserInfoMap.chosenEntryOf
          (fun _ _ (info : QueryInfo) => handler.all fun handler => info.handler = handler) browserId := by
        funext query
        rfl
      rw [chosen]
      exact removed_of_walk state (left ▸ SortedMap.perm_keep _ _)

/-- Whether a query is for a request that a renderer process cancels. -/
def isCanceledBy (browserId contextId requestId : Int) (query : PendingQuery) : Bool :=
  browserIdOf query = browserId && (query.2.contextId = contextId &&
    (requestId = kReservedId || query.2.requestId = requestId))

/-- All queries of a context are canceled, or the first one of a request. -/
theorem cancelPendingRequest_removed (router : BrowserSide) (browserId contextId requestId : Int) :
    Removed false router (router.cancelPendingRequest browserId contextId requestId)
      (if requestId = kReservedId then router.pending.filter (isCanceledBy browserId contextId requestId)
      else (router.pending.find? (isCanceledBy browserId contextId requestId)).toList) := by
  let chosen : Int → Int → QueryInfo → Bool := fun _ _ info =>
    info.contextId = contextId && (requestId = kReservedId || info.requestId = requestId)
  have same : isCanceledBy browserId contextId requestId =
      BrowserInfoMap.chosenEntryOf chosen browserId := rfl
  rw [cancelPendingRequest, same]
  by_cases all : requestId = kReservedId
  · have visitor : (fun router browserId queryId info =>
        if info.contextId = contextId ∧ (requestId = kReservedId ∨ info.requestId = requestId) then
          (cancelQuery false router browserId queryId info, true, decide (requestId = kReservedId))
        else (router, false, true)) = BrowserInfoMap.selectAll chosen (cancelQuery false) := by
      funext router browserId queryId info
      simp [BrowserInfoMap.selectAll, chosen, all]
    obtain ⟨state, left⟩ := BrowserInfoMap.findAllOf_selectAll chosen (cancelQuery false)
      router.browserQueryInfoMap browserId router
    rw [if_pos all, visitor]
    exact removed_of_walk state (left ▸ SortedMap.perm_keep _ _)
  · have visitor : (fun router browserId queryId info =>
        if info.contextId = contextId ∧ (requestId = kReservedId ∨ info.requestId = requestId) then
          (cancelQuery false router browserId queryId info, true, decide (requestId = kReservedId))
        else (router, false, true)) = BrowserInfoMap.selectOne chosen (cancelQuery false) := by
      funext router browserId queryId info
      simp [BrowserInfoMap.selectOne, chosen, all]
    obtain ⟨state, left⟩ := BrowserInfoMap.findAllOf_selectOne chosen (cancelQuery false)
      router.browserQueryInfoMap browserId router
    rw [if_neg all, visitor]
    exact removed_of_walk state (left ▸ perm_eraseP _ _)

end Canceling

section Answers

/-- The outcomes that tasks have for a query. -/
def answers (queryId : Int) (tasks : List UiTask) : List Outcome :=
  tasks.filterMap fun task => task.answer.bind fun answer =>
    if answer.2.1 = queryId then some answer.2.2 else none

@[simp] theorem answers_append (queryId : Int) (front back : List UiTask) :
    answers queryId (front ++ back) = answers queryId front ++ answers queryId back :=
  List.filterMap_append

theorem answers_single {task : UiTask} {answer : Option (Int × Int × Outcome)} (same : task.answer = answer)
    (queryId : Int) :
    answers queryId [task] = (answer.bind fun answer =>
      if answer.2.1 = queryId then some answer.2.2 else none).toList := by
  rw [answers, List.filterMap_cons, same]
  cases answer.bind fun answer => if answer.2.1 = queryId then some answer.2.2 else none <;> rfl

theorem answers_eq_nil {queryId : Int} {tasks : List UiTask}
    (others : ∀ task ∈ tasks, ∀ browserId id outcome, task.answer = some (browserId, id, outcome) → id ≠ queryId) :
    answers queryId tasks = [] := by
  rw [answers, List.filterMap_eq_nil_iff]
  intro task member
  cases same : task.answer with
  | none => rfl
  | some answer =>
    obtain ⟨browserId, id, outcome⟩ := answer
    exact if_neg (others task member browserId id outcome same)

/-- A task has been posted, and nothing else is different. -/
structure Posted (router after : BrowserSide) (task : UiTask) : Prop where
  queryIdGenerator : after.queryIdGenerator = router.queryIdGenerator
  callbacks : after.callbacks.map identity = router.callbacks.map identity
  tasks : after.tasks = router.tasks.put task
  received : after.received = router.received
  questions : after.questions = router.questions
  handled : after.handled = router.handled
  completed : after.completed = router.completed
  pending : after.pending = router.pending
  sent : after.sent = router.sent
  canceled : after.canceled = router.canceled
  dropped : after.dropped = router.dropped

/-- A task that answers has the numbers of a callback. -/
def Known (router : BrowserSide) (task : UiTask) : Prop :=
  ∀ browserId queryId outcome, task.answer = some (browserId, queryId, outcome) →
    ∃ persistent, (browserId, queryId, persistent) ∈ router.callbacks.map identity

/-- Queries are canceled or a task is posted. -/
def Moved (router after : BrowserSide) : Prop :=
  (∃ notify gone, Removed notify router after gone) ∨ ∃ task, Posted router after task ∧ Known router task

theorem Removed.none {after : BrowserSide} (same : Same router after) (pending : after.pending = router.pending)
    (sent : after.sent = router.sent) (canceled : after.canceled = router.canceled)
    (dropped : after.dropped = router.dropped) : Removed false router after [] :=
  ⟨same, by rw [pending]; exact .refl _, by simp [sent], by simp [canceled], by simp [dropped]⟩

theorem Moved.refl (router : BrowserSide) : Moved router router :=
  .inl ⟨false, [], .none (.refl router) rfl rfl rfl rfl⟩

theorem identity_mem {callback : Nat} {impl : CallbackImpl} (found : router.callbacks[callback]? = some impl) :
    (impl.browserId, impl.queryId, impl.persistent) ∈ router.callbacks.map identity :=
  List.mem_map_of_mem (List.mem_of_getElem? found)

theorem success_moved (router : BrowserSide) (callback : Nat) (response : Text) :
    Moved router (router.success callback response) := by
  unfold success
  cases found : router.callbacks[callback]? with
  | none => exact .refl router
  | some impl =>
    have known : Known router (.onCallbackSuccess impl.browserId impl.queryId response) := by
      intro browserId queryId outcome same
      cases same
      exact ⟨impl.persistent, identity_mem found⟩
    by_cases attached : impl.router = true
    · simp only [attached, if_true]
      right
      refine ⟨_, ?_, known⟩
      split_ifs
      · exact ⟨rfl, rfl, rfl, rfl, rfl, rfl, rfl, rfl, rfl, rfl, rfl⟩
      · exact ⟨rfl, identity_detach _ _, rfl, rfl, rfl, rfl, rfl, rfl, rfl, rfl, rfl⟩
    · simp only [attached]
      exact .refl router

theorem failure_moved (router : BrowserSide) (callback : Nat) (errorCode : Int) (errorMessage : Text) :
    Moved router (router.failure callback errorCode errorMessage) := by
  unfold failure
  cases found : router.callbacks[callback]? with
  | none => exact .refl router
  | some impl =>
    have known : Known router (.onCallbackFailure impl.browserId impl.queryId errorCode errorMessage) := by
      intro browserId queryId outcome same
      cases same
      exact ⟨impl.persistent, identity_mem found⟩
    by_cases attached : impl.router = true
    · simp only [attached, if_true]
      exact .inr ⟨_, ⟨rfl, identity_detach _ _, rfl, rfl, rfl, rfl, rfl, rfl, rfl, rfl, rfl⟩, known⟩
    · simp only [attached]
      exact .refl router

theorem cancelPendingFor_moved (router : BrowserSide) (browserId : Option Int) (handler : Option Handler)
    (notify : Bool) : Moved router (router.cancelPendingFor browserId handler notify) :=
  .inl ⟨notify, _, cancelPendingFor_removed router browserId handler notify⟩

/-- A call cancels queries, posts a task, or does nothing that matters here. -/
theorem perform_moved (router : BrowserSide) (call : Call) : Moved router (router.perform call) := by
  cases call with
  | success callback response => exact success_moved router callback response
  | failure callback errorCode errorMessage => exact failure_moved router callback errorCode errorMessage
  | addHandler handler first =>
    simp only [perform, addHandler]
    split_ifs
    · exact .inl ⟨false, [], .none ⟨rfl, rfl, rfl, rfl, rfl, rfl, rfl⟩ rfl rfl rfl rfl⟩
    · exact .refl router
  | removeHandler handler =>
    simp only [perform, removeHandler]
    split_ifs
    · have removed := cancelPendingFor_removed { router with handlerSet := router.handlerSet.erase handler }
        none (some handler) true
      exact .inl ⟨true, _, ⟨removed.queryIdGenerator, removed.callbacks, removed.tasks, removed.received,
        removed.questions, removed.handled, removed.completed⟩, removed.pending, removed.sent, removed.canceled,
        removed.dropped⟩
    · exact .refl router
  | cancelPending browserId handler => exact cancelPendingFor_moved ..
  | onBeforeClose browserId => exact cancelPendingFor_moved router (some browserId) none false
  | onRenderProcessTerminated browserId => exact cancelPendingFor_moved router (some browserId) none false
  | onBeforeBrowse browserId isMain =>
    simp only [perform]
    split_ifs
    · exact cancelPendingFor_moved ..
    · exact .refl router

end Answers

section Tasks

/-- A task that answers a query has been taken. If the query is pending its outcome was
sent, and it stays pending only for a success and only if it is persistent. -/
structure Answered (router after : BrowserSide) (browserId queryId : Int) (outcome : Outcome) : Prop where
  queryIdGenerator : after.queryIdGenerator = router.queryIdGenerator
  callbacks : after.callbacks = router.callbacks
  received : after.received = router.received
  questions : after.questions = router.questions
  handled : after.handled = router.handled
  canceled : after.canceled = router.canceled
  dropped : after.dropped = router.dropped
  all : after.tasks.all = router.tasks.all
  past : ∃ task ∈ router.tasks.all, task.answer = some (browserId, queryId, outcome) ∧
    after.tasks.past = router.tasks.past ++ [task]
  result : (after.pending = router.pending ∧ after.sent = router.sent ∧ after.completed = router.completed ∧
      ∀ query ∈ router.pending, browserIdOf query = browserId → queryIdOf query ≠ queryId) ∨
    ∃ query ∈ router.pending, browserIdOf query = browserId ∧ queryIdOf query = queryId ∧
      after.sent = router.sent ++ [⟨query.2.key, outcome⟩] ∧
      ((outcome.isSuccess = true ∧ query.2.persistent = true ∧ after.pending = router.pending ∧
          after.completed = router.completed) ∨
        (router.pending.Perm (query :: after.pending) ∧ after.completed = router.completed ++ [queryId] ∧
          ¬ (outcome.isSuccess = true ∧ query.2.persistent = true)))

theorem sendQueryOutcome_eq (router : BrowserSide) (info : QueryInfo) (outcome : Outcome) :
    router.sendQueryOutcome info outcome = router.send info.key outcome := by
  cases outcome <;> rfl

theorem onCallback_answered {task : UiTask} {tasks : Feed UiTask} {browserId queryId : Int}
    {outcome : Outcome} (next : router.tasks.next = some (task, tasks))
    (same : task.answer = some (browserId, queryId, outcome)) :
    Answered router
      (onCallback { router with tasks := tasks } browserId queryId (!outcome.isSuccess) outcome)
      browserId queryId outcome := by
  have taken : ∃ task ∈ router.tasks.all, task.answer = some (browserId, queryId, outcome) ∧
      tasks.past = router.tasks.past ++ [task] := ⟨task, Feed.next_mem next, same, Feed.next_past next⟩
  have visit := router.browserQueryInfoMap.find_eq
    (fun (state : Unit) _ _ info => (state, !outcome.isSuccess || !info.persistent, true)) () browserId queryId
  unfold onCallback getQueryInfo
  cases present : router.browserQueryInfoMap.info browserId queryId with
  | none =>
    rw [router.browserQueryInfoMap.find_none _ () present]
    refine ⟨rfl, rfl, rfl, rfl, rfl, rfl, rfl, Feed.next_all next, taken, .inl ⟨rfl, rfl, rfl, ?_⟩⟩
    rintro query member rfl rfl
    exact (SortedMap.find_eq_none_iff _ _).mp present (List.mem_map_of_mem member)
  | some info =>
    have found := visit.1.trans present
    have flat := (visit.2 info present).2
    generalize router.browserQueryInfoMap.find
      (fun (state : Unit) _ _ info => (state, !outcome.isSuccess || !info.persistent, true)) () browserId queryId =
        walked at found flat ⊢
    obtain ⟨state, result, map⟩ := walked
    obtain rfl : result = some info := found
    have member : (toLex (browserId, queryId), info) ∈ router.pending :=
      (SortedMap.find_eq_some_iff _ _ _).mp present
    simp only [sendQueryOutcome_eq] at flat ⊢
    refine ⟨rfl, rfl, rfl, rfl, rfl, rfl, rfl, Feed.next_all next, taken, .inr ⟨_, member, rfl, rfl, rfl, ?_⟩⟩
    by_cases finished : (!outcome.isSuccess || !info.persistent) = true
    · rw [if_pos finished] at flat
      refine .inr ⟨?_, by rw [send, if_pos finished], fun stays => ?_⟩
      · have erased := SortedMap.perm_erase present
        rwa [← flat] at erased
      · simp [stays.1, show info.persistent = true from stays.2] at finished
    · rw [if_neg finished] at flat
      have stays : outcome.isSuccess = true ∧ info.persistent = true := by simpa using finished
      refine .inl ⟨stays.1, stays.2, congrArg SortedMap.entries flat, ?_⟩
      rw [send, if_neg finished]
      exact List.append_nil _

end Tasks

section Invariant

/-- The requests that queries have come for. -/
def requested (router : BrowserSide) : List Key := router.received.map RendererSide.keyOf

/-- The identities of the callbacks that were made. -/
def identities (router : BrowserSide) : List (Int × Int × Bool) := router.callbacks.map identity

/-- Queries have their numbers in order. What was sent for a pending query is what its
callback has posted and the thread has taken; for one that is over it is a part
of that, and maybe a cancel after it. `asking` is the request whose query is
just shown to handlers. -/
structure Accounted (asking : Option Key) (router : BrowserSide) : Prop where
  numbered : router.queryIdGenerator = int64Id router.identities.length
  numbers : router.identities.map (fun identity => identity.2.1) =
    Counter.numbers 64 router.identities.length
  made : router.identities.length ≤ router.received.length
  pendingHandled : ∀ query ∈ router.pending,
    (queryIdOf query, query.2) ∈ router.handled ∧ browserIdOf query = query.2.browserId
  handledKnown : ∀ query ∈ router.handled, query.2.key ∈ router.requested ∧ some query.2.key ≠ asking ∧
    (query.2.browserId, query.1, query.2.persistent) ∈ router.identities
  handledIds : (router.handled.map Prod.fst).Nodup
  handledKeys : (router.handled.map fun query => query.2.key).Nodup
  answersKnown : ∀ task ∈ router.tasks.all, Known router task
  sentKnown : ∀ reply ∈ router.sent, reply.key ∈ router.requested
  whole : ∀ query ∈ router.pending,
    outcomes query.2.key router.sent = answers (queryIdOf query) router.tasks.past
  ended : ∀ query ∈ router.handled, outcomes query.2.key router.sent <+: answers query.1 router.tasks.past ∨
    ∃ front, front <+: answers query.1 router.tasks.past ∧
      outcomes query.2.key router.sent = front ++ [.canceled]
  refused : ∀ key ∈ router.requested, key ∉ (router.handled.map fun query => query.2.key) →
    outcomes key router.sent = if asking = some key then [] else [.canceled]

theorem accounted_new : Accounted none new where
  numbered := rfl
  numbers := rfl
  made := Nat.le_refl _
  pendingHandled := List.forall_mem_nil _
  handledKnown := List.forall_mem_nil _
  handledIds := List.nodup_nil
  handledKeys := List.nodup_nil
  answersKnown := List.forall_mem_nil _
  sentKnown := List.forall_mem_nil _
  whole := List.forall_mem_nil _
  ended := List.forall_mem_nil _
  refused := List.forall_mem_nil _

variable {asking : Option Key}

/-- Pending queries are for different requests. -/
theorem Accounted.pendingKeys (inv : Accounted asking router) :
    (router.pending.map fun query => query.2.key).Nodup := by
  refine List.Nodup.map_on ?_ router.browserQueryInfoMap.flat.nodup.of_map
  intro query member other others same
  have first := inv.pendingHandled query member
  have second := inv.pendingHandled other others
  have equal := List.inj_on_of_nodup_map inv.handledKeys first.1 second.1 same
  obtain ⟨ids, infos⟩ := Prod.mk.inj equal
  have browsers : browserIdOf query = browserIdOf other := by rw [first.2, second.2, infos]
  exact Prod.ext (ofLex_inj.mp (Prod.ext browsers ids)) infos

/-- Each request of canceled queries gets one cancel. -/
theorem outcomes_canceled {gone : List PendingQuery} (distinct : (gone.map fun query => query.2.key).Nodup)
    (key : Key) :
    outcomes key (gone.map fun query => ⟨query.2.key, .canceled⟩) =
      if key ∈ gone.map (fun query => query.2.key) then [.canceled] else [] := by
  induction gone with
  | nil => rfl
  | cons query gone ih =>
    rw [List.map_cons, List.nodup_cons] at distinct
    rw [List.map_cons, List.map_cons, ← List.singleton_append, outcomes_append, ih distinct.2]
    by_cases own : query.2.key = key
    · have others : key ∉ gone.map fun query => query.2.key := own ▸ distinct.1
      rw [if_neg others, if_pos (own ▸ List.mem_cons_self), List.append_nil]
      subst own
      exact outcomes_own ⟨query.2.key, .canceled⟩
    · rw [outcomes_other own, List.nil_append]
      simp only [List.mem_cons, or_iff_right (Ne.symm own)]

theorem Accounted.removed (inv : Accounted asking router) {notify : Bool} {gone : List PendingQuery}
    (removed : Removed notify router after gone) : Accounted asking after := by
  have old : ∀ query ∈ after.pending, query ∈ router.pending := fun query member =>
    removed.pending.symm.subset (List.mem_append_right _ member)
  have was : ∀ query ∈ gone, query ∈ router.pending := fun query member =>
    removed.pending.symm.subset (List.mem_append_left _ member)
  have split := (removed.pending.map fun query => query.2.key).nodup_iff.mp inv.pendingKeys
  rw [List.map_append, List.nodup_append] at split
  obtain ⟨distinct, -, apart⟩ := split
  have identities : after.identities = router.identities := removed.callbacks
  have requested : after.requested = router.requested :=
    congrArg (List.map RendererSide.keyOf) removed.received
  -- a cancel is sent for the requests of the queries that are gone
  have sent : ∀ key, outcomes key after.sent = outcomes key router.sent ++
      if notify = true ∧ key ∈ gone.map (fun query => query.2.key) then [.canceled] else [] := by
    intro key
    rw [removed.sent, outcomes_append]
    congr 1
    cases notify with
    | false => simp
    | true => simp only [if_true, true_and, outcomes_canceled distinct key]
  have untouched : ∀ key, key ∉ gone.map (fun query => query.2.key) →
      outcomes key after.sent = outcomes key router.sent := by
    intro key outside
    rw [sent, if_neg fun whole => outside whole.2, List.append_nil]
  refine ⟨?_, ?_, ?_, fun query member => ?_, ?_, ?_, ?_, fun task member => ?_, fun reply member => ?_,
    fun query member => ?_, fun query member => ?_, fun key member unhandled => ?_⟩
  · rw [identities, removed.queryIdGenerator]
    exact inv.numbered
  · rw [identities]
    exact inv.numbers
  · rw [identities, removed.received]
    exact inv.made
  · rw [removed.handled]
    exact inv.pendingHandled query (old query member)
  · rw [removed.handled, requested, identities]
    exact inv.handledKnown
  · rw [removed.handled]
    exact inv.handledIds
  · rw [removed.handled]
    exact inv.handledKeys
  · rw [removed.tasks] at member
    intro browserId queryId outcome same
    rw [removed.callbacks]
    exact inv.answersKnown task member browserId queryId outcome same
  · rw [requested]
    rw [removed.sent] at member
    cases List.mem_append.mp member with
    | inl earlier => exact inv.sentKnown reply earlier
    | inr cancel =>
      split_ifs at cancel
      · obtain ⟨query, among, rfl⟩ := List.mem_map.mp cancel
        exact (inv.handledKnown _ (inv.pendingHandled query (was query among)).1).1
      · cases cancel
  · have outside : query.2.key ∉ gone.map fun query => query.2.key := fun among =>
      apart _ among _ (List.mem_map_of_mem member) rfl
    rw [untouched _ outside, removed.tasks]
    exact inv.whole query (old query member)
  · rw [removed.handled] at member
    rw [removed.tasks]
    by_cases among : query.2.key ∈ gone.map fun query => query.2.key
    · obtain ⟨entry, present, same⟩ := List.mem_map.mp among
      have first := inv.pendingHandled entry (was entry present)
      have equal := List.inj_on_of_nodup_map inv.handledKeys first.1 member same
      have whole := inv.whole entry (was entry present)
      have ids : queryIdOf entry = query.1 := congrArg Prod.fst equal
      rw [same, ids] at whole
      rw [sent, whole]
      split_ifs
      · exact .inr ⟨_, List.prefix_refl _, rfl⟩
      · rw [List.append_nil]
        exact .inl (List.prefix_refl _)
    · rw [untouched _ among]
      exact inv.ended query member
  · rw [requested] at member
    rw [removed.handled] at unhandled
    have outside : key ∉ gone.map fun query => query.2.key := by
      intro among
      obtain ⟨entry, present, rfl⟩ := List.mem_map.mp among
      exact unhandled (List.mem_map.mpr ⟨_, (inv.pendingHandled entry (was entry present)).1, rfl⟩)
    rw [untouched _ outside]
    exact inv.refused key member unhandled

theorem Accounted.posted (inv : Accounted asking router) {task : UiTask} (posted : Posted router after task)
    (known : Known router task) : Accounted asking after := by
  have identities : after.identities = router.identities := posted.callbacks
  have requested : after.requested = router.requested :=
    congrArg (List.map RendererSide.keyOf) posted.received
  have past : after.tasks.past = router.tasks.past := by rw [posted.tasks, Feed.past_put]
  refine ⟨?_, ?_, ?_, ?_, ?_, ?_, ?_, fun other member => ?_, ?_, ?_, ?_, ?_⟩
  · rw [identities, posted.queryIdGenerator]
    exact inv.numbered
  · rw [identities]
    exact inv.numbers
  · rw [identities, posted.received]
    exact inv.made
  · rw [posted.pending, posted.handled]
    exact inv.pendingHandled
  · rw [posted.handled, requested, identities]
    exact inv.handledKnown
  · rw [posted.handled]
    exact inv.handledIds
  · rw [posted.handled]
    exact inv.handledKeys
  · intro browserId queryId outcome same
    rw [posted.callbacks]
    rw [posted.tasks, Feed.all_put] at member
    cases List.mem_append.mp member with
    | inl old => exact inv.answersKnown other old browserId queryId outcome same
    | inr new =>
      rw [List.mem_singleton.mp new] at same
      exact known browserId queryId outcome same
  · rw [posted.sent, requested]
    exact inv.sentKnown
  · rw [posted.pending, posted.sent, past]
    exact inv.whole
  · rw [posted.handled, posted.sent, past]
    exact inv.ended
  · rw [requested, posted.handled, posted.sent]
    exact inv.refused

theorem Accounted.moved (inv : Accounted asking router) (moved : Moved router after) :
    Accounted asking after := by
  rcases moved with ⟨notify, gone, removed⟩ | ⟨task, posted, known⟩
  · exact inv.removed removed
  · exact inv.posted posted known

/-- Callbacks have different numbers, as long as there are enough of them. -/
theorem Accounted.ids_inj (inv : Accounted asking router) (few : router.received.length < 2 ^ 64)
    {first second : Int × Int × Bool} (member : first ∈ router.identities)
    (other : second ∈ router.identities) (same : first.2.1 = second.2.1) : first = second := by
  have distinct := Counter.numbers_nodup 64 (lt_of_le_of_lt inv.made few)
  rw [← inv.numbers] at distinct
  exact List.inj_on_of_nodup_map distinct member other same

/-- A pending query has the browser that its callback has. -/
theorem Accounted.browser_eq (inv : Accounted asking router) (few : router.received.length < 2 ^ 64)
    {query : PendingQuery} (member : query ∈ router.pending) {browserId : Int} {persistent : Bool}
    (known : (browserId, queryIdOf query, persistent) ∈ router.identities) : browserIdOf query = browserId := by
  have first := inv.pendingHandled query member
  have same := inv.ids_inj few (inv.handledKnown _ first.1).2.2 known rfl
  exact first.2.trans (congrArg Prod.fst same)

theorem Accounted.answered (inv : Accounted asking router) (few : router.received.length < 2 ^ 64)
    {browserId queryId : Int} {outcome : Outcome}
    (answered : Answered router after browserId queryId outcome) : Accounted asking after := by
  obtain ⟨task, came, given, past⟩ := answered.past
  have identities : after.identities = router.identities := congrArg (List.map identity) answered.callbacks
  have requested : after.requested = router.requested :=
    congrArg (List.map RendererSide.keyOf) answered.received
  have taken : ∀ id, answers id after.tasks.past =
      answers id router.tasks.past ++ if queryId = id then [outcome] else [] := by
    intro id
    rw [past, answers_append, answers_single given]
    congr 1
    by_cases own : queryId = id <;> simp [own]
  have grown : ∀ id, answers id router.tasks.past <+: answers id after.tasks.past := by
    intro id
    rw [taken]
    exact List.prefix_append _ _
  -- a query that is not the one answered keeps what was sent and taken for it
  have rest : ∀ key id, (outcomes key after.sent = outcomes key router.sent) →
      (outcomes key router.sent <+: answers id router.tasks.past ∨
        ∃ front, front <+: answers id router.tasks.past ∧ outcomes key router.sent = front ++ [.canceled]) →
      (outcomes key after.sent <+: answers id after.tasks.past ∨
        ∃ front, front <+: answers id after.tasks.past ∧ outcomes key after.sent = front ++ [.canceled]) := by
    rintro key id same (whole | ⟨front, first, whole⟩)
    · exact .inl (same ▸ whole.trans (grown id))
    · exact .inr ⟨front, first.trans (grown id), same ▸ whole⟩
  have old : ∀ query ∈ after.pending, query ∈ router.pending := by
    intro query member
    rcases answered.result with ⟨same, -⟩ | ⟨entry, -, -, -, -, ⟨-, -, same, -⟩ | ⟨perm, -⟩⟩
    · exact same ▸ member
    · exact same ▸ member
    · exact perm.symm.subset (List.mem_cons_of_mem _ member)
  refine ⟨?_, ?_, ?_, fun query member => ?_, ?_, ?_, ?_, ?_, fun reply member => ?_, fun query member => ?_,
    fun query member => ?_, fun key member unhandled => ?_⟩
  · rw [identities, answered.queryIdGenerator]
    exact inv.numbered
  · rw [identities]
    exact inv.numbers
  · rw [identities, answered.received]
    exact inv.made
  · rw [answered.handled]
    exact inv.pendingHandled query (old query member)
  · rw [answered.handled, requested, identities]
    exact inv.handledKnown
  · rw [answered.handled]
    exact inv.handledIds
  · rw [answered.handled]
    exact inv.handledKeys
  · rw [answered.all]
    intro other member browserId queryId outcome same
    rw [answered.callbacks]
    exact inv.answersKnown other member browserId queryId outcome same
  · rw [requested]
    rcases answered.result with ⟨-, same, -⟩ | ⟨entry, present, -, -, sent, -⟩
    · exact inv.sentKnown reply (same ▸ member)
    · rw [sent] at member
      cases List.mem_append.mp member with
      | inl earlier => exact inv.sentKnown reply earlier
      | inr new =>
        rw [List.mem_singleton.mp new]
        exact (inv.handledKnown _ (inv.pendingHandled entry present).1).1
  · have was := old query member
    rcases answered.result with ⟨-, same, -, missing⟩ | ⟨entry, present, -, ids, sent, -⟩
    · have other : queryId ≠ queryIdOf query := by
        rintro rfl
        obtain ⟨persistent, known⟩ := inv.answersKnown task came _ _ _ given
        exact missing query was (inv.browser_eq few was known) rfl
      rw [same, taken, if_neg other, List.append_nil]
      exact inv.whole query was
    · rw [sent, outcomes_append, taken, inv.whole query was]
      congr 1
      by_cases own : query.2.key = entry.2.key
      · have equal := List.inj_on_of_nodup_map inv.pendingKeys was present own
        rw [equal, if_pos ids.symm]
        exact outcomes_own ⟨entry.2.key, outcome⟩
      · have apart : queryId ≠ queryIdOf query := by
          rintro rfl
          have equal := List.inj_on_of_nodup_map inv.handledIds (inv.pendingHandled query was).1
            (inv.pendingHandled entry present).1 ids.symm
          exact own (congrArg (fun query => query.2.key) equal)
        rw [if_neg apart]
        exact outcomes_other (Ne.symm own)
  · rw [answered.handled] at member
    rcases answered.result with ⟨-, same, -⟩ | ⟨entry, present, -, ids, sent, -⟩
    · exact rest _ _ (congrArg _ same) (inv.ended query member)
    · by_cases own : query.2.key = entry.2.key
      · have equal := List.inj_on_of_nodup_map inv.handledKeys member (inv.pendingHandled entry present).1 own
        have number : query.1 = queryIdOf entry := congrArg Prod.fst equal
        left
        rw [sent, outcomes_append, taken, own, inv.whole entry present, number, if_pos ids.symm]
        exact (List.prefix_append_right_inj _).mpr (outcomes_own ⟨entry.2.key, outcome⟩ ▸ List.prefix_refl _)
      · refine rest _ _ ?_ (inv.ended query member)
        rw [sent, outcomes_append, outcomes_other (Ne.symm own), List.append_nil]
  · rw [requested] at member
    rw [answered.handled] at unhandled
    rw [← inv.refused key member unhandled]
    rcases answered.result with ⟨-, same, -⟩ | ⟨entry, present, -, -, sent, -⟩
    · rw [same]
    · have other : entry.2.key ≠ key := by
        rintro rfl
        exact unhandled (List.mem_map.mpr ⟨_, (inv.pendingHandled entry present).1, rfl⟩)
      rw [sent, outcomes_append, outcomes_other other, List.append_nil]

/-- A task that answers no query is taken. -/
theorem Accounted.silent (inv : Accounted asking router) {task : UiTask} {tasks : Feed UiTask}
    (next : router.tasks.next = some (task, tasks)) (none : task.answer = .none) :
    Accounted asking { router with tasks := tasks } := by
  have past : ∀ id, answers id tasks.past = answers id router.tasks.past := by
    intro id
    rw [Feed.next_past next, answers_append, answers_single none]
    exact List.append_nil _
  refine ⟨inv.numbered, inv.numbers, inv.made, inv.pendingHandled, inv.handledKnown, inv.handledIds,
    inv.handledKeys, ?_, inv.sentKnown, fun query member => ?_, fun query member => ?_, inv.refused⟩
  · intro other member
    exact inv.answersKnown other (Feed.next_all next ▸ member)
  · exact (inv.whole query member).trans (past _).symm
  · have kept := inv.ended query member
    rwa [← past] at kept

/-- The thread has nothing to do, does what a call does, or answers a query. -/
theorem runTask_cases (router : BrowserSide) :
    router.runTask = router ∨
      (∃ task tasks, router.tasks.next = some (task, tasks) ∧ task.answer = none ∧
        Moved { router with tasks := tasks } router.runTask) ∨
      ∃ browserId queryId outcome, Answered router router.runTask browserId queryId outcome := by
  unfold BrowserSide.runTask
  cases next : router.tasks.next with
  | none => exact .inl rfl
  | some taken =>
    obtain ⟨task, tasks⟩ := taken
    right
    cases task with
    | success callback response => exact .inl ⟨_, _, rfl, rfl, success_moved _ callback response⟩
    | failure callback errorCode errorMessage =>
      exact .inl ⟨_, _, rfl, rfl, failure_moved _ callback errorCode errorMessage⟩
    | onCallbackSuccess browserId queryId response => exact .inr ⟨_, _, _, onCallback_answered next rfl⟩
    | onCallbackFailure browserId queryId errorCode errorMessage =>
      exact .inr ⟨_, _, _, onCallback_answered next rfl⟩
    | cancelPendingFor browserId handler notify =>
      exact .inl ⟨_, _, rfl, rfl, cancelPendingFor_moved _ browserId handler notify⟩

theorem Accounted.runTask (inv : Accounted asking router) (few : router.received.length < 2 ^ 64) :
    Accounted asking router.runTask := by
  rcases runTask_cases router with idle | ⟨task, tasks, next, silent, moved⟩ | ⟨_, _, _, answered⟩
  · rw [idle]
    exact inv
  · exact (inv.silent next silent).moved moved
  · exact inv.answered few answered

/-- What calls leave as it is. -/
structure Steady (router after : BrowserSide) : Prop where
  queryIdGenerator : after.queryIdGenerator = router.queryIdGenerator
  identities : after.identities = router.identities
  past : after.tasks.past = router.tasks.past
  received : after.received = router.received
  handled : after.handled = router.handled
  sent : router.sent <+: after.sent

theorem Steady.trans {last : BrowserSide} (first : Steady router after) (second : Steady after last) :
    Steady router last where
  queryIdGenerator := second.queryIdGenerator.trans first.queryIdGenerator
  identities := second.identities.trans first.identities
  past := second.past.trans first.past
  received := second.received.trans first.received
  handled := second.handled.trans first.handled
  sent := first.sent.trans second.sent

theorem Moved.steady (moved : Moved router after) : Steady router after := by
  rcases moved with ⟨notify, gone, removed⟩ | ⟨task, posted, -⟩
  · exact ⟨removed.queryIdGenerator, removed.callbacks, congrArg Feed.past removed.tasks, removed.received,
      removed.handled, removed.sent ▸ List.prefix_append _ _⟩
  · exact ⟨posted.queryIdGenerator, posted.callbacks, by rw [posted.tasks, Feed.past_put], posted.received,
      posted.handled, posted.sent ▸ List.prefix_refl _⟩

theorem Steady.refl (router : BrowserSide) : Steady router router :=
  ⟨rfl, rfl, rfl, rfl, rfl, List.prefix_refl _⟩

theorem calls_steady (calls : List Call) (router : BrowserSide) :
    Steady router (calls.foldl perform router) := by
  induction calls generalizing router with
  | nil => exact .refl router
  | cons call calls ih => exact (perform_moved router call).steady.trans (ih (router.perform call))

theorem Accounted.calls (inv : Accounted asking router) (calls : List Call) :
    Accounted asking (calls.foldl perform router) := by
  induction calls generalizing router with
  | nil => exact inv
  | cons call calls ih => exact ih (inv.moved (perform_moved router call))

/-- What is written down about a question leaves the rest as it is. -/
theorem Accounted.question (inv : Accounted asking router) (questions : List Question) :
    Accounted asking { router with questions := questions } :=
  ⟨inv.numbered, inv.numbers, inv.made, inv.pendingHandled, inv.handledKnown, inv.handledIds,
    inv.handledKeys, inv.answersKnown, inv.sentKnown, inv.whole, inv.ended, inv.refused⟩

section Asking

variable (react : Reaction) (question : Handler → Question)

theorem ask_steady (handlers : List Handler) (router : BrowserSide) :
    Steady router (ask react question handlers router).1 := by
  induction handlers generalizing router with
  | nil => exact .refl router
  | cons handler handlers ih =>
    have steady := calls_steady (react handler).1
      { router with questions := router.questions ++ [question handler] }
    have first : Steady router
        ((react handler).1.foldl perform { router with questions := router.questions ++ [question handler] }) :=
      ⟨steady.queryIdGenerator, steady.identities, steady.past, steady.received, steady.handled, steady.sent⟩
    rw [ask]
    split_ifs
    · exact first
    · exact first.trans (ih _)

/-- Asking handlers keeps everything accounted, whatever they do. -/
theorem Accounted.ask (inv : Accounted asking router) (handlers : List Handler) :
    Accounted asking (ask react question handlers router).1 := by
  induction handlers generalizing router with
  | nil => exact inv
  | cons handler handlers ih =>
    have kept := (inv.question (router.questions ++ [question handler])).calls (react handler).1
    rw [BrowserSide.ask]
    split_ifs
    · exact kept
    · exact ih kept

end Asking

/-- A query has come for a new request. -/
theorem Accounted.came (inv : Accounted none router) {query : Int × QueryMessage}
    (fresh : RendererSide.keyOf query ∉ router.requested) :
    Accounted (some (RendererSide.keyOf query)) { router with received := router.received ++ [query] } := by
  have requested : ({ router with received := router.received ++ [query] } : BrowserSide).requested =
      router.requested ++ [RendererSide.keyOf query] := by
    simp [BrowserSide.requested]
  refine ⟨inv.numbered, inv.numbers, ?_, inv.pendingHandled, fun other member => ?_, inv.handledIds,
    inv.handledKeys, inv.answersKnown, fun reply member => ?_, inv.whole, inv.ended,
    fun key member unhandled => ?_⟩
  · rw [List.length_append]
    exact inv.made.trans (Nat.le_add_right _ _)
  · obtain ⟨before, -, known⟩ := inv.handledKnown other member
    rw [requested]
    refine ⟨List.mem_append_left _ before, fun same => ?_, known⟩
    exact fresh (Option.some.inj same ▸ before)
  · rw [requested]
    exact List.mem_append_left _ (inv.sentKnown reply member)
  · by_cases own : RendererSide.keyOf query = key
    · rw [if_pos (congrArg some own)]
      apply outcomes_eq_nil
      rintro reply among rfl
      exact fresh (own ▸ inv.sentKnown reply among)
    · rw [requested] at member
      cases List.mem_append.mp member with
      | inl before => simpa [own] using inv.refused key before unhandled
      | inr new => exact absurd (List.mem_singleton.mp new).symm own

theorem identities_start (router : BrowserSide) (browserId : Int) (query : QueryMessage) :
    (router.startQuery browserId query).identities =
      router.identities ++ [(browserId, Counter.next 64 router.queryIdGenerator, query.persistent)] := by
  simp [startQuery, BrowserSide.identities, identity]

/-- The query that has come is answered with a cancel. -/
theorem Accounted.refuse {key : Key} (inv : Accounted (some key) router) (known : key ∈ router.requested) :
    Accounted none (router.send key .canceled) := by
  have other : ∀ query ∈ router.handled, query.2.key ≠ key := fun query member same =>
    (inv.handledKnown query member).2.1 (congrArg some same)
  have sent : ∀ wanted, outcomes wanted (router.send key .canceled).sent =
      outcomes wanted router.sent ++ if key = wanted then [.canceled] else [] := by
    intro wanted
    rw [send, outcomes_append]
    congr 1
    split_ifs with own
    · rw [← own]
      exact outcomes_own ⟨key, .canceled⟩
    · exact outcomes_other own
  refine ⟨inv.numbered, inv.numbers, inv.made, inv.pendingHandled, fun query member => ?_, inv.handledIds,
    inv.handledKeys, inv.answersKnown, fun reply member => ?_, fun query member => ?_, fun query member => ?_,
    fun wanted member unhandled => ?_⟩
  · obtain ⟨before, -, callback⟩ := inv.handledKnown query member
    exact ⟨before, Option.some_ne_none _, callback⟩
  · rw [send] at member
    cases List.mem_append.mp member with
    | inl earlier => exact inv.sentKnown reply earlier
    | inr new =>
      rw [List.mem_singleton.mp new]
      exact known
  · rw [sent, if_neg (Ne.symm (other _ (inv.pendingHandled query member).1)), List.append_nil]
    exact inv.whole query member
  · rw [sent, if_neg (Ne.symm (other query member)), List.append_nil]
    exact inv.ended query member
  · have before := inv.refused wanted member unhandled
    rw [sent, before]
    by_cases own : key = wanted <;> simp [own]

/-- A query with a new number is one more. -/
theorem Accounted.perm_add (inv : Accounted asking router) {queryId : Int} (info : QueryInfo)
    (fresh : queryId ∉ router.handled.map Prod.fst) :
    (router.browserQueryInfoMap.add info.browserId queryId info).flat.entries.Perm
      ((toLex (info.browserId, queryId), info) :: router.pending) := by
  have absent : router.browserQueryInfoMap.flat.find (toLex (info.browserId, queryId)) = none := by
    rw [Option.eq_none_iff_forall_not_mem]
    intro old present
    have member := (SortedMap.find_eq_some_iff _ _ _).mp present
    exact fresh (List.mem_map_of_mem (inv.pendingHandled _ member).1)
  rw [BrowserInfoMap.flat_add]
  exact SortedMap.perm_insert absent info

/-- The query that has come is taken by a handler. -/
theorem Accounted.take {key : Key} (inv : Accounted (some key) router) (queryId : Int) (info : QueryInfo)
    (own : info.key = key) (known : key ∈ router.requested)
    (callback : (info.browserId, queryId, info.persistent) ∈ router.identities)
    (fresh : queryId ∉ router.handled.map Prod.fst) (unanswered : answers queryId router.tasks.past = []) :
    Accounted none { router with
      browserQueryInfoMap := router.browserQueryInfoMap.add info.browserId queryId info
      handled := router.handled ++ [(queryId, info)] } := by
  have other : ∀ query ∈ router.handled, query.2.key ≠ key := fun query member same =>
    (inv.handledKnown query member).2.1 (congrArg some same)
  have pending := inv.perm_add info fresh
  have untold : outcomes key router.sent = [] := by
    have nothing := inv.refused key known fun among => by
      obtain ⟨query, member, same⟩ := List.mem_map.mp among
      exact other query member same
    rwa [if_pos rfl] at nothing
  refine ⟨inv.numbered, inv.numbers, inv.made, fun query member => ?_, fun query member => ?_, ?_, ?_,
    inv.answersKnown, inv.sentKnown, fun query member => ?_, fun query member => ?_,
    fun wanted member unhandled => ?_⟩
  · cases List.mem_cons.mp (pending.subset member) with
    | inl new =>
      rw [new]
      exact ⟨List.mem_append_right _ (List.mem_singleton_self _), rfl⟩
    | inr old => exact ⟨List.mem_append_left _ (inv.pendingHandled query old).1, (inv.pendingHandled query old).2⟩
  · cases List.mem_append.mp member with
    | inl old =>
      obtain ⟨before, -, made⟩ := inv.handledKnown query old
      exact ⟨before, Option.some_ne_none _, made⟩
    | inr new =>
      rw [List.mem_singleton.mp new]
      exact ⟨own ▸ known, Option.some_ne_none _, callback⟩
  · rw [List.map_append, List.nodup_append]
    refine ⟨inv.handledIds, List.nodup_singleton _, fun id member id' single same => ?_⟩
    rw [same, List.mem_singleton.mp single] at member
    exact fresh member
  · rw [List.map_append, List.nodup_append]
    refine ⟨inv.handledKeys, List.nodup_singleton _, fun id member id' single same => ?_⟩
    rw [same, List.mem_singleton.mp single] at member
    obtain ⟨query, among, equal⟩ := List.mem_map.mp member
    exact other query among (equal.trans own)
  · cases List.mem_cons.mp (pending.subset member) with
    | inl new =>
      rw [new]
      exact (own ▸ untold).trans unanswered.symm
    | inr old => exact inv.whole query old
  · cases List.mem_append.mp member with
    | inl old => exact inv.ended query old
    | inr new =>
      rw [List.mem_singleton.mp new]
      left
      exact (own ▸ untold : outcomes info.key router.sent = []) ▸ List.nil_prefix
  · rw [List.map_append, List.mem_append, not_or] at unhandled
    have apart : key ≠ wanted := fun same => unhandled.2 (List.mem_singleton.mpr (same ▸ own.symm))
    rw [inv.refused wanted member unhandled.1]
    simp [apart]

/-- The number of a new callback is not that of an earlier one. -/
theorem Accounted.id_fresh (inv : Accounted asking router) (few : router.received.length + 1 < 2 ^ 64) :
    ∀ identity ∈ router.identities, identity.2.1 ≠ Counter.next 64 router.queryIdGenerator := by
  intro identity member same
  have among : identity.2.1 ∈ router.identities.map fun identity => identity.2.1 := List.mem_map_of_mem member
  rw [inv.numbers, same, inv.numbered] at among
  exact Counter.next_not_mem 64 (by have := inv.made; omega) among

theorem Accounted.detached (inv : Accounted asking router) (callback : Nat) :
    Accounted asking (router.detach callback) :=
  inv.removed (.none ⟨rfl, identity_detach _ _, rfl, rfl, rfl, rfl, rfl⟩ rfl rfl rfl rfl)

/-- A query has come for a new request, and its callback is made. -/
theorem Accounted.start (inv : Accounted none router) {browserId : Int} {query : QueryMessage}
    (fresh : RendererSide.keyOf (browserId, query) ∉ router.requested) :
    Accounted (some (RendererSide.keyOf (browserId, query))) (router.startQuery browserId query) := by
  have came := inv.came fresh
  have identities := router.identities_start browserId query
  refine ⟨?_, ?_, ?_, came.pendingHandled, fun other member => ?_, came.handledIds, came.handledKeys,
    fun task member browserId queryId outcome same => ?_, came.sentKnown, came.whole, came.ended, came.refused⟩
  · rw [identities, List.length_append, startQuery, inv.numbered]
    rfl
  · rw [identities, List.map_append, List.length_append, inv.numbers, List.map_singleton, List.length_singleton,
      Counter.numbers_succ, inv.numbered]
    rfl
  · rw [identities, List.length_append, startQuery, List.length_append]
    exact Nat.add_le_add_right inv.made 1
  · obtain ⟨before, apart, known⟩ := came.handledKnown other member
    rw [identities]
    exact ⟨before, apart, List.mem_append_left _ known⟩
  · obtain ⟨persistent, known⟩ := inv.answersKnown task member browserId queryId outcome same
    refine ⟨persistent, ?_⟩
    rw [← BrowserSide.identities, identities]
    exact List.mem_append_left _ known

/-- A query that comes finds no handlers, is refused by all of them, or is taken by one. -/
theorem onQuery_cases (router : BrowserSide) (browserId : Int) (query : QueryMessage) (react : Reaction) :
    let asked := BrowserSide.ask react
      (questionOf browserId (Counter.next 64 router.queryIdGenerator) query router.callbacks.length)
      (router.handlerSet.entries.map Prod.fst) (router.startQuery browserId query)
    router.onQuery browserId query react =
        send { router with received := router.received ++ [(browserId, query)] }
          (RendererSide.keyOf (browserId, query)) .canceled ∨
      (router.onQuery browserId query react =
        (asked.1.detach router.callbacks.length).send (RendererSide.keyOf (browserId, query)) .canceled) ∨
      ∃ handler, asked.2 = some handler ∧
        router.onQuery browserId query react =
          { asked.1 with
            browserQueryInfoMap := asked.1.browserQueryInfoMap.add browserId
              (Counter.next 64 router.queryIdGenerator) (infoOf browserId query router.callbacks.length handler)
            handled := asked.1.handled ++ [(Counter.next 64 router.queryIdGenerator,
              infoOf browserId query router.callbacks.length handler)] } := by
  intro asked
  by_cases nobody : router.handlerSet.entries = []
  · exact .inl (by rw [onQuery, if_pos nobody]; rfl)
  · have finished : router.onQuery browserId query react = finishQuery browserId
        (Counter.next 64 router.queryIdGenerator) query router.callbacks.length (asked.1, asked.2) := by
      rw [onQuery, if_neg nobody]
    cases taken : asked.2 with
    | none =>
      rw [taken] at finished
      exact .inr (.inl finished)
    | some handler =>
      rw [taken] at finished
      exact .inr (.inr ⟨handler, rfl, finished⟩)

section Query

variable (browserId : Int) (query : QueryMessage) (react : Reaction)

theorem onQuery_received (router : BrowserSide) :
    (router.onQuery browserId query react).received = router.received ++ [(browserId, query)] := by
  have steady := ask_steady react
    (questionOf browserId (Counter.next 64 router.queryIdGenerator) query router.callbacks.length)
    (router.handlerSet.entries.map Prod.fst) (router.startQuery browserId query)
  rcases router.onQuery_cases browserId query react with alone | refused | ⟨handler, -, taken⟩
  · rw [alone]
    rfl
  · rw [refused]
    exact steady.received
  · rw [taken]
    exact steady.received

theorem onQuery_sent (router : BrowserSide) : router.sent <+: (router.onQuery browserId query react).sent := by
  have steady := ask_steady react
    (questionOf browserId (Counter.next 64 router.queryIdGenerator) query router.callbacks.length)
    (router.handlerSet.entries.map Prod.fst) (router.startQuery browserId query)
  rcases router.onQuery_cases browserId query react with alone | refused | ⟨handler, -, taken⟩
  · rw [alone]
    exact List.prefix_append _ _
  · rw [refused]
    exact steady.sent.trans (List.prefix_append _ _)
  · rw [taken]
    exact steady.sent

/-- A query that comes for a new request keeps everything accounted, whatever the
handlers do when they are asked. -/
theorem Accounted.onQuery (inv : Accounted none router)
    (fresh : RendererSide.keyOf (browserId, query) ∉ router.requested)
    (few : router.received.length + 1 < 2 ^ 64) :
    Accounted none (router.onQuery browserId query react) := by
  have known : RendererSide.keyOf (browserId, query) ∈
      (router.received ++ [(browserId, query)]).map RendererSide.keyOf := by
    simp
  have steady := ask_steady react
    (questionOf browserId (Counter.next 64 router.queryIdGenerator) query router.callbacks.length)
    (router.handlerSet.entries.map Prod.fst) (router.startQuery browserId query)
  have kept := (inv.start fresh).ask react
    (questionOf browserId (Counter.next 64 router.queryIdGenerator) query router.callbacks.length)
    (router.handlerSet.entries.map Prod.fst)
  have asks := known
  rw [show router.received ++ [(browserId, query)] = _ from steady.received.symm] at asks
  rcases router.onQuery_cases browserId query react with alone | refused | ⟨handler, -, taken⟩
  · rw [alone]
    exact (inv.came fresh).refuse known
  · rw [refused]
    exact (kept.detached _).refuse asks
  · rw [taken]
    have new := inv.id_fresh few
    refine kept.take (Counter.next 64 router.queryIdGenerator)
      (infoOf browserId query router.callbacks.length handler) rfl asks ?_ ?_ ?_
    · rw [steady.identities, identities_start]
      exact List.mem_append_right _ (List.mem_singleton_self _)
    · rw [steady.handled]
      intro among
      obtain ⟨old, member, same⟩ := List.mem_map.mp among
      exact new _ (inv.handledKnown old member).2.2 same
    · rw [steady.past]
      apply answers_eq_nil
      intro task member browserId id outcome given same
      obtain ⟨persistent, made⟩ := inv.answersKnown task (router.tasks.prefix_all.subset member) _ _ _ given
      exact new _ made same

end Query

/-- What can happen to the router of the browser process. -/
inductive Event where
  | received (browserId : Int) (message : ProcessMessage) (react : Reaction)
  | perform (call : Call)
  | performElsewhere (call : Call)
  | runTask

variable (config : CefMessageRouterConfig)

def step (router : BrowserSide) : Event → BrowserSide
  | .received browserId message react => (router.onProcessMessageReceived config browserId message react).1
  | .perform call => router.perform call
  | .performElsewhere call => router.performElsewhere call
  | .runTask => router.runTask

/-- A query that comes is for a request that no query has come for. -/
def Fresh (router : BrowserSide) : Event → Prop
  | .received browserId message _ => message.name = config.queryMessageName →
    RendererSide.keyOf (browserId, QueryMessage.ofArgs message.args) ∉ router.requested
  | _ => True

/-- The query that comes with an event. -/
def arriving : Event → Option (Int × QueryMessage)
  | .received browserId message _ =>
    if message.name = config.queryMessageName then some (browserId, QueryMessage.ofArgs message.args) else none
  | _ => none

theorem Answered.sent_grows {browserId queryId : Int} {outcome : Outcome}
    (answered : Answered router after browserId queryId outcome) : router.sent <+: after.sent := by
  rcases answered.result with ⟨-, same, -⟩ | ⟨entry, -, -, -, sent, -⟩
  · exact same ▸ List.prefix_refl _
  · exact sent ▸ List.prefix_append _ _

theorem runTask_received (router : BrowserSide) : router.runTask.received = router.received := by
  rcases runTask_cases router with idle | ⟨task, tasks, -, -, moved⟩ | ⟨_, _, _, answered⟩
  · rw [idle]
  · exact moved.steady.received
  · exact answered.received

theorem runTask_sent (router : BrowserSide) : router.sent <+: router.runTask.sent := by
  rcases runTask_cases router with idle | ⟨task, tasks, -, -, moved⟩ | ⟨_, _, _, answered⟩
  · exact congrArg BrowserSide.sent idle ▸ List.prefix_refl _
  · exact moved.steady.sent
  · exact answered.sent_grows

theorem step_received (router : BrowserSide) (event : Event) :
    (router.step config event).received = router.received ++ (arriving config event).toList := by
  cases event with
  | received browserId message react =>
    rw [step, onProcessMessageReceived, arriving]
    by_cases queried : message.name = config.queryMessageName
    · simp only [if_pos queried]
      exact onQuery_received browserId _ react router
    · simp only [if_neg queried]
      split_ifs
      · rw [(cancelPendingRequest_removed router browserId _ _).received]
        exact (List.append_nil _).symm
      · exact (List.append_nil _).symm
  | perform call =>
    rw [step, (perform_moved router call).steady.received]
    exact (List.append_nil _).symm
  | performElsewhere call =>
    rw [step, performElsewhere]
    split <;> exact (List.append_nil _).symm
  | runTask =>
    rw [step, runTask_received]
    exact (List.append_nil _).symm

theorem step_sent (router : BrowserSide) (event : Event) : router.sent <+: (router.step config event).sent := by
  cases event with
  | received browserId message react =>
    rw [step, onProcessMessageReceived]
    split_ifs
    · exact onQuery_sent browserId _ react router
    · exact (cancelPendingRequest_removed router browserId _ _).sent ▸ List.prefix_append _ _
    · exact List.prefix_refl _
  | perform call => exact (perform_moved router call).steady.sent
  | performElsewhere call =>
    rw [step, performElsewhere]
    split <;> exact List.prefix_refl _
  | runTask => exact runTask_sent router

theorem performElsewhere_moved (router : BrowserSide) (call : Call) : Moved router (router.performElsewhere call) := by
  unfold performElsewhere
  cases given : posted call with
  | none => exact .refl router
  | some task =>
    refine .inr ⟨task, ⟨rfl, rfl, rfl, rfl, rfl, rfl, rfl, rfl, rfl, rfl, rfl⟩, ?_⟩
    intro browserId queryId outcome same
    cases call <;> simp only [posted] at given <;> (try split_ifs at given) <;> cases given <;> cases same

/-- Every event keeps everything accounted, as long as there are enough numbers. -/
theorem Accounted.step (inv : Accounted none router) {event : Event} (fresh : Fresh config router event)
    (few : (router.step config event).received.length < 2 ^ 64) : Accounted none (router.step config event) := by
  rw [step_received, List.length_append] at few
  cases event with
  | received browserId message react =>
    rw [BrowserSide.step, onProcessMessageReceived]
    by_cases queried : message.name = config.queryMessageName
    · rw [arriving, if_pos queried] at few
      rw [if_pos queried]
      exact inv.onQuery browserId _ react (fresh queried) few
    · rw [if_neg queried]
      split_ifs
      · exact inv.removed (cancelPendingRequest_removed router browserId _ _)
      · exact inv
  | perform call => exact inv.moved (perform_moved router call)
  | performElsewhere call => exact inv.moved (performElsewhere_moved router call)
  | runTask => exact inv.runTask (Nat.lt_of_le_of_lt (Nat.le_add_right _ _) few)

end Invariant

end BrowserSide

end CefBridge.Router
