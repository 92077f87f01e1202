import CefBridge.Router.RendererSide
import CefBridge.Library.Runs

/-!
# What becomes of the requests of a renderer process

A request is pending from its query on until a reply completes it or a cancel takes it
away. While it is pending it gets every reply that is taken from the tasks, in order;
afterwards it gets none. The numbers of requests are different as long as there are
fewer of them than numbers, and replies are expected to be to requests that were made.
-/

namespace CefBridge.Router

open Library

/-- The outcomes that replies have for a request. -/
def outcomes (key : Key) (replies : List Reply) : List Outcome :=
  (replies.filter fun reply => reply.key = key).map Reply.outcome

section Outcomes

@[simp] theorem outcomes_nil (key : Key) : outcomes key [] = [] := rfl

@[simp] theorem outcomes_append (key : Key) (front back : List Reply) :
    outcomes key (front ++ back) = outcomes key front ++ outcomes key back := by
  simp [outcomes]

@[simp] theorem outcomes_own (reply : Reply) : outcomes reply.key [reply] = [reply.outcome] := by
  simp [outcomes]

theorem outcomes_other {key : Key} {reply : Reply} (other : reply.key ≠ key) :
    outcomes key [reply] = [] := by
  simp [outcomes, other]

theorem outcomes_eq_nil {key : Key} {replies : List Reply} (none : ∀ reply ∈ replies, reply.key ≠ key) :
    outcomes key replies = [] := by
  rw [outcomes, List.map_eq_nil_iff, List.filter_eq_nil_iff]
  simpa using none

theorem outcomes_grow {front all : List Reply} (key : Key) (first : front <+: all) :
    outcomes key front <+: outcomes key all := by
  obtain ⟨rest, rfl⟩ := first
  rw [outcomes_append]
  exact List.prefix_append _ _

end Outcomes

namespace RendererSide

variable {Function : Type} {router after : RendererSide Function}

/-- The queries that were sent, and their browsers. -/
def queries (router : RendererSide Function) : List (Int × QueryMessage) :=
  router.sent.filterMap fun
    | .query browserId message => some (browserId, message)
    | .cancel .. => none

def keyOf (query : Int × QueryMessage) : Key := ⟨query.1, query.2.contextId, query.2.requestId⟩

/-- The requests that were made. -/
def asked (router : RendererSide Function) : List Key := router.queries.map keyOf

/-- A request that is pending. -/
def info (router : RendererSide Function) (key : Key) : Option (RequestInfo Function) :=
  router.browserRequestInfoMap.info key.browserId (toLex (key.contextId, key.requestId))

/-- The outcomes that a request was told. -/
def told (router : RendererSide Function) (key : Key) : List Outcome :=
  outcomes key (router.delivered.map Delivery.toReply)

section Operations

/-- Some requests may be gone, and nothing else is different. -/
structure Narrower (router after : RendererSide Function) : Prop where
  info : ∀ key, after.info key = router.info key ∨ after.info key = none
  queries : after.queries = router.queries
  requestIdGenerator : after.requestIdGenerator = router.requestIdGenerator
  tasks : after.tasks = router.tasks
  delivered : after.delivered = router.delivered
  sent : router.sent <+: after.sent

theorem Narrower.trans {last : RendererSide Function} (first : Narrower router after)
    (second : Narrower after last) : Narrower router last where
  info := fun key => by
    cases second.info key with
    | inl same => rw [same]; exact first.info key
    | inr gone => exact .inr gone
  queries := second.queries.trans first.queries
  requestIdGenerator := second.requestIdGenerator.trans first.requestIdGenerator
  tasks := second.tasks.trans first.tasks
  delivered := second.delivered.trans first.delivered
  sent := first.sent.trans second.sent

theorem getRequestInfo_none {map : BrowserInfoMap (Int ×ₗ Int) (RequestInfo Function)} (key : Key)
    (absent : map.info key.browserId (toLex (key.contextId, key.requestId)) = none) (alwaysRemove : Bool) :
    getRequestInfo map key.browserId key.contextId key.requestId alwaysRemove = (none, map) := by
  rw [getRequestInfo, map.find_none _ () absent]

/-- A request that is found is removed if it is to be, or if it is not persistent. -/
theorem getRequestInfo_some {map : BrowserInfoMap (Int ×ₗ Int) (RequestInfo Function)} (key : Key)
    {info : RequestInfo Function}
    (present : map.info key.browserId (toLex (key.contextId, key.requestId)) = some info)
    (alwaysRemove : Bool) :
    (getRequestInfo map key.browserId key.contextId key.requestId alwaysRemove).1 = some info ∧
      ∀ other : Key,
        (getRequestInfo map key.browserId key.contextId key.requestId alwaysRemove).2.info other.browserId
            (toLex (other.contextId, other.requestId)) =
          if other = key ∧ (alwaysRemove || !info.persistent) = true then none
          else map.info other.browserId (toLex (other.contextId, other.requestId)) := by
  have found := map.find_eq (fun (state : Unit) _ _ info => (state, alwaysRemove || !info.persistent, true)) ()
    key.browserId (toLex (key.contextId, key.requestId))
  refine ⟨found.1.trans present, fun other => ?_⟩
  have flat := (found.2 info present).2
  rw [getRequestInfo, BrowserInfoMap.info, flat]
  cases removed : alwaysRemove || !info.persistent with
  | false => simp [BrowserInfoMap.info]
  | true =>
    simp only [if_true, SortedMap.find_erase, and_true]
    obtain ⟨browserId, contextId, requestId⟩ := key
    obtain ⟨otherBrowser, otherContext, otherRequest⟩ := other
    simp [BrowserInfoMap.info]

/-- Nothing is different but contexts. -/
structure Unmoved (router after : RendererSide Function) : Prop where
  map : after.browserRequestInfoMap = router.browserRequestInfoMap
  sent : after.sent = router.sent
  requestIdGenerator : after.requestIdGenerator = router.requestIdGenerator
  tasks : after.tasks = router.tasks
  delivered : after.delivered = router.delivered

theorem Unmoved.refl (router : RendererSide Function) : Unmoved router router := ⟨rfl, rfl, rfl, rfl, rfl⟩

theorem Unmoved.info (unmoved : Unmoved router after) (key : Key) : after.info key = router.info key := by
  rw [RendererSide.info, unmoved.map, RendererSide.info]

theorem Unmoved.narrower (unmoved : Unmoved router after) : Narrower router after where
  info := fun key => .inl (unmoved.info key)
  queries := by rw [RendererSide.queries, unmoved.sent, RendererSide.queries]
  requestIdGenerator := unmoved.requestIdGenerator
  tasks := unmoved.tasks
  delivered := unmoved.delivered
  sent := unmoved.sent ▸ List.prefix_refl _

theorem handlerIDForContext_unmoved (router : RendererSide Function) (context : V8Context) :
    Unmoved router (router.handlerIDForContext context).1 := by
  rw [handlerIDForContext]
  split_ifs
  · exact ⟨rfl, rfl, rfl, rfl, rfl⟩
  · exact .refl router

theorem getIDForContext_unmoved (router : RendererSide Function) (context : V8Context) (remove : Bool) :
    Unmoved router (router.getIDForContext context remove).1 := by
  rw [getIDForContext]
  split
  · split_ifs
    · exact ⟨rfl, rfl, rfl, rfl, rfl⟩
    · exact .refl router
  · exact .refl router

/-- Whether a request is one that a cancel asks for. -/
def Covers (browserId contextId requestId : Int) (key : Key) : Prop :=
  key.browserId = browserId ∧ key.contextId = contextId ∧
    (requestId = kReservedId ∨ key.requestId = requestId)

instance (browserId contextId requestId : Int) (key : Key) :
    Decidable (Covers browserId contextId requestId key) := inferInstanceAs (Decidable (_ ∧ _ ∧ _))

theorem removeRequests_one (map : BrowserInfoMap (Int ×ₗ Int) (RequestInfo Function))
    {browserId contextId requestId : Int} (one : requestId ≠ kReservedId) (key : Key) :
    (removeRequests map browserId contextId requestId).2.info key.browserId
        (toLex (key.contextId, key.requestId)) =
      if Covers browserId contextId requestId key then none
      else map.info key.browserId (toLex (key.contextId, key.requestId)) := by
  rw [removeRequests, if_pos one]
  cases present : map.info browserId (toLex (contextId, requestId)) with
  | none =>
    rw [getRequestInfo_none ⟨browserId, contextId, requestId⟩ present]
    split_ifs with own
    · obtain ⟨rfl, rfl, zero | rfl⟩ := own
      · exact absurd zero one
      · exact present
    · rfl
  | some info =>
    have removed := (getRequestInfo_some ⟨browserId, contextId, requestId⟩ present true).2 key
    obtain ⟨keyBrowser, keyContext, keyRequest⟩ := key
    simpa [Covers, one] using removed

theorem removeRequests_all (map : BrowserInfoMap (Int ×ₗ Int) (RequestInfo Function))
    (browserId contextId : Int) (key : Key) :
    (removeRequests map browserId contextId kReservedId).2.info key.browserId
        (toLex (key.contextId, key.requestId)) =
      if Covers browserId contextId kReservedId key then none
      else map.info key.browserId (toLex (key.contextId, key.requestId)) := by
  have walked := BrowserInfoMap.findAllOf_selectAll (ofContext contextId)
    (fun (count : Nat) _ _ _ => count + 1) map browserId 0
  rw [removeRequests, if_neg (not_not_intro rfl), BrowserInfoMap.info, walked.2, BrowserInfoMap.info]
  by_cases own : key.browserId = browserId ∧ key.contextId = contextId
  · have covered : Covers browserId contextId kReservedId key := ⟨own.1, own.2, .inl rfl⟩
    rw [if_pos covered]
    apply SortedMap.find_keep_of_false
    intro info
    simp [own, BrowserInfoMap.chosenEntryOf, BrowserInfoMap.chosenEntry, ofContext]
  · have other : ¬ Covers browserId contextId kReservedId key := fun whole => own ⟨whole.1, whole.2.1⟩
    rw [if_neg other]
    apply SortedMap.find_keep_of_true
    intro info
    have apart : (decide (key.browserId = browserId) && decide (key.contextId = contextId)) = false := by
      rw [← Bool.decide_and]
      exact decide_eq_false own
    exact congrArg not apart

theorem sendCancel_eq (router : RendererSide Function) (browserId contextId requestId : Int) :
    (router.sendCancel browserId contextId requestId).1 =
      { router with
        browserRequestInfoMap :=
          (removeRequests router.browserRequestInfoMap browserId contextId requestId).2
        sent := router.sent ++
          if 0 < (removeRequests router.browserRequestInfoMap browserId contextId requestId).1 then
            [.cancel browserId ⟨contextId, requestId⟩] else [] } := by
  unfold sendCancel
  by_cases some : 0 < (removeRequests router.browserRequestInfoMap browserId contextId requestId).1 <;>
    simp [some]

/-- Exactly the requests that a cancel asks for are gone. -/
theorem sendCancel_info (router : RendererSide Function) (browserId contextId requestId : Int) (key : Key) :
    (router.sendCancel browserId contextId requestId).1.info key =
      if Covers browserId contextId requestId key then none else router.info key := by
  have removed : (removeRequests router.browserRequestInfoMap browserId contextId requestId).2.info
      key.browserId (toLex (key.contextId, key.requestId)) =
        if Covers browserId contextId requestId key then none else router.info key := by
    by_cases one : requestId = kReservedId
    · subst one
      exact removeRequests_all ..
    · exact removeRequests_one _ one key
  rw [sendCancel_eq]
  exact removed

theorem sendCancel_narrower (router : RendererSide Function) (browserId contextId requestId : Int) :
    Narrower router (router.sendCancel browserId contextId requestId).1 where
  info := fun key => by
    rw [sendCancel_info]
    split_ifs
    · exact .inr rfl
    · exact .inl rfl
  queries := by
    rw [sendCancel_eq]
    split_ifs <;> simp [RendererSide.queries]
  requestIdGenerator := by rw [sendCancel_eq]
  tasks := by rw [sendCancel_eq]
  delivered := by rw [sendCancel_eq]
  sent := by
    rw [sendCancel_eq]
    exact List.prefix_append _ _

end Operations

section Changes

/-- A query has been sent, under the next number. -/
structure Wider (router after : RendererSide Function) (query : Int × QueryMessage)
    (request : RequestInfo Function) : Prop where
  info : ∀ key, after.info key =
    if key = keyOf query then some ((router.info key).getD request) else router.info key
  queries : after.queries = router.queries ++ [query]
  number : query.2.requestId = Counter.next 32 router.requestIdGenerator
  requestIdGenerator : after.requestIdGenerator = query.2.requestId
  persistent : request.persistent = query.2.persistent
  tasks : after.tasks = router.tasks
  delivered : after.delivered = router.delivered
  sent : after.sent = router.sent ++ [.query query.1 query.2]

theorem sendQuery_wider (router : RendererSide Function) (browserId : Int) (frameId : BitVec 64)
    (isMainFrame : Bool) (contextId : Int) (request : Text) (persistent : Bool)
    (successCallback failureCallback : Option Function) :
    Wider router
      (router.sendQuery browserId frameId isMainFrame contextId request persistent successCallback
        failureCallback).1
      (browserId, ⟨frameId, isMainFrame, contextId, Counter.next 32 router.requestIdGenerator, request,
        persistent⟩)
      ⟨persistent, successCallback, failureCallback⟩ where
  info := fun key => by
    obtain ⟨keyBrowser, keyContext, keyRequest⟩ := key
    have added := router.browserRequestInfoMap.flat_add browserId
      (toLex (contextId, Counter.next 32 router.requestIdGenerator))
      (⟨persistent, successCallback, failureCallback⟩ : RequestInfo Function)
    simp only [sendQuery, RendererSide.info, BrowserInfoMap.info, added, SortedMap.find_insert, keyOf,
      EmbeddingLike.apply_eq_iff_eq, Prod.mk.injEq, Key.mk.injEq]
    split_ifs with own
    · obtain ⟨rfl, rfl, rfl⟩ := own
      rfl
    · rfl
  queries := by simp [sendQuery, RendererSide.queries]
  number := rfl
  requestIdGenerator := rfl
  persistent := rfl
  tasks := rfl
  delivered := rfl
  sent := rfl

/-- A call of a function by a page sends one query, or cancels, or does nothing that
matters here. -/
theorem execute_shape (config : CefMessageRouterConfig) (router : RendererSide Function)
    (context : V8Context) (name : String) (arguments : List (V8Value Function)) :
    Unmoved router (router.execute config context name arguments).1 ∨
      (∃ middle browserId contextId requestId, Unmoved router middle ∧
        (router.execute config context name arguments).1 =
          (middle.sendCancel browserId contextId requestId).1) ∨
      ∃ middle query request, Unmoved router middle ∧ query.1 = context.browserId ∧
        Wider middle (router.execute config context name arguments).1 query request := by
  unfold execute
  by_cases queried : name = config.jsQueryFunction
  · rw [if_pos queried]
    cases readQuery arguments with
    | error text => exact .inl (.refl router)
    | ok query =>
      exact .inr (.inr ⟨_, _, _, handlerIDForContext_unmoved router context, rfl, sendQuery_wider ..⟩)
  · rw [if_neg queried]
    split_ifs with canceled
    · split
      · split_ifs with one
        · exact .inr (.inl ⟨_, _, _, _, handlerIDForContext_unmoved router context, rfl⟩)
        · exact .inl (.refl router)
      · exact .inl (.refl router)
    · exact .inl (.refl router)

theorem execute_cases (config : CefMessageRouterConfig) (router : RendererSide Function)
    (context : V8Context) (name : String) (arguments : List (V8Value Function)) :
    Narrower router (router.execute config context name arguments).1 ∨
      ∃ middle query request, Narrower router middle ∧ query.1 = context.browserId ∧
        Wider middle (router.execute config context name arguments).1 query request := by
  rcases execute_shape config router context name arguments with
    unmoved | ⟨middle, browserId, contextId, requestId, unmoved, same⟩ | ⟨middle, query, request, unmoved, wider⟩
  · exact .inl unmoved.narrower
  · rw [same]
    exact .inl (unmoved.narrower.trans (sendCancel_narrower ..))
  · exact .inr ⟨middle, query, request, unmoved.narrower, wider⟩

/-- The release of a context cancels its requests, if it has a number. -/
theorem onContextReleased_shape (router : RendererSide Function) (context : V8Context) :
    Unmoved router (router.onContextReleased context) ∨
      ∃ middle browserId contextId requestId, Unmoved router middle ∧
        router.onContextReleased context = (middle.sendCancel browserId contextId requestId).1 := by
  unfold onContextReleased
  have found := getIDForContext_unmoved router context true
  by_cases known : (router.getIDForContext context true).2 ≠ kReservedId
  · refine .inr ⟨_, context.browserId, (router.getIDForContext context true).2, kReservedId, found, ?_⟩
    simp only [if_pos known]
  · simp only [if_neg known]
    exact .inl found

theorem onContextReleased_narrower (router : RendererSide Function) (context : V8Context) :
    Narrower router (router.onContextReleased context) := by
  rcases onContextReleased_shape router context with unmoved | ⟨middle, _, _, _, unmoved, same⟩
  · exact unmoved.narrower
  · rw [same]
    exact unmoved.narrower.trans (sendCancel_narrower ..)

/-- A reply has been taken from the tasks. Its request, if it is there, is told, and stays
only for a success and only if it is persistent. -/
structure Taken (router after : RendererSide Function) (reply : Reply) : Prop where
  past : after.tasks.past = router.tasks.past ++ [reply]
  all : after.tasks.all = router.tasks.all
  sent : after.sent = router.sent
  requestIdGenerator : after.requestIdGenerator = router.requestIdGenerator
  delivered : after.delivered.map Delivery.toReply = router.delivered.map Delivery.toReply ++
    if (router.info reply.key).isSome then [reply] else []
  info : ∀ key, after.info key =
    if key = reply.key then (router.info key).filter fun info => reply.outcome.isSuccess && info.persistent
    else router.info key

theorem Taken.queries {reply : Reply} (taken : Taken router after reply) : after.queries = router.queries := by
  rw [RendererSide.queries, taken.sent, RendererSide.queries]

theorem executeCallback_taken {router : RendererSide Function} {tasks : Feed Reply} {reply : Reply}
    (next : router.tasks.next = some (reply, tasks)) (callback : RequestInfo Function → Option Function) :
    Taken router
      (executeCallback { router with tasks := tasks } reply (!reply.outcome.isSuccess) callback) reply := by
  unfold executeCallback
  cases present : router.info reply.key with
  | none =>
    rw [getRequestInfo_none reply.key present]
    refine ⟨Feed.next_past next, Feed.next_all next, rfl, rfl, by simp [present], fun other => ?_⟩
    by_cases own : other = reply.key
    · rw [if_pos own, own, present]
      exact present
    · rw [if_neg own]
      rfl
  | some info =>
    have found := getRequestInfo_some reply.key present (!reply.outcome.isSuccess)
    generalize getRequestInfo router.browserRequestInfoMap reply.key.browserId reply.key.contextId
      reply.key.requestId (!reply.outcome.isSuccess) = result at found ⊢
    obtain ⟨result, map⟩ := result
    obtain ⟨rfl, kept⟩ := found
    refine ⟨Feed.next_past next, Feed.next_all next, rfl, rfl, by simp [present], fun other => ?_⟩
    refine (kept other).trans ?_
    by_cases own : other = reply.key
    · have here : router.browserRequestInfoMap.info reply.key.browserId
          (toLex (reply.key.contextId, reply.key.requestId)) = some info := present
      rw [if_pos own, own, here, present, Option.filter_some]
      cases reply.outcome.isSuccess <;> cases info.persistent <;> simp
    · rw [if_neg own, if_neg fun whole => own whole.1]
      rfl

theorem runTask_cases (router : RendererSide Function) :
    router.runTask = router ∨ ∃ reply, reply ∈ router.tasks.all ∧ Taken router router.runTask reply := by
  unfold runTask
  cases next : router.tasks.next with
  | none => exact .inl rfl
  | some taken =>
    obtain ⟨⟨key, outcome⟩, tasks⟩ := taken
    right
    refine ⟨⟨key, outcome⟩, Feed.next_mem next, ?_⟩
    cases outcome with
    | success response => exact executeCallback_taken next RequestInfo.successCallback
    | failure errorCode errorMessage => exact executeCallback_taken next RequestInfo.failureCallback

end Changes

/-- What can happen to the router of a renderer process. -/
inductive Event (Function : Type) where
  | execute (context : V8Context) (name : String) (arguments : List (V8Value Function))
  | released (context : V8Context)
  | received (browserId : Int) (message : ProcessMessage)
  | runTask

section Invariant

variable (config : CefMessageRouterConfig)

def step (router : RendererSide Function) : Event Function → RendererSide Function
  | .execute context name arguments => (router.execute config context name arguments).1
  | .released context => router.onContextReleased context
  | .received browserId message => (router.onProcessMessageReceived config browserId message).1
  | .runTask => router.runTask

/-- A reply that comes is to a request that was made. -/
def Expected (router : RendererSide Function) : Event Function → Prop
  | .received browserId message => message.name = config.queryMessageName →
    ⟨browserId, (ReplyMessage.ofArgs message.args).contextId,
      (ReplyMessage.ofArgs message.args).requestId⟩ ∈ router.asked
  | _ => True

/-- Requests have their numbers in order, a pending request has been told every reply
taken for it and can be told more, and one that is over was told a part of them. -/
structure Consistent (router : RendererSide Function) : Prop where
  numbered : router.requestIdGenerator = intId router.queries.length
  numbers : router.queries.map (fun query => query.2.requestId) = Counter.numbers 32 router.queries.length
  pending : ∀ key info, router.info key = some info → key ∈ router.asked ∧
    ∀ query ∈ router.queries, keyOf query = key → query.2.persistent = info.persistent
  expected : ∀ reply ∈ router.tasks.all, reply.key ∈ router.asked
  whole : ∀ key info, router.info key = some info → router.told key = outcomes key router.tasks.past
  ordered : ∀ key, router.told key <+: outcomes key router.tasks.past
  opened : ∀ key info, router.info key = some info →
    (∀ outcome ∈ router.told key, outcome.isSuccess = true) ∧
      (info.persistent = false → router.told key = [])
  ended : ∀ query ∈ router.queries,
    (∀ outcome ∈ (router.told (keyOf query)).dropLast, outcome.isSuccess = true) ∧
      (query.2.persistent = false → (router.told (keyOf query)).length ≤ 1)

theorem consistent_new : Consistent (new : RendererSide Function) where
  numbered := rfl
  numbers := rfl
  pending := fun _ _ present => by simp [RendererSide.info, new, BrowserInfoMap.info_eq, BrowserInfoMap.empty,
    SortedMap.find, SortedMap.empty] at present
  expected := List.forall_mem_nil _
  whole := fun _ _ _ => rfl
  ordered := fun _ => List.prefix_refl _
  opened := fun _ _ _ => ⟨List.forall_mem_nil _, fun _ => rfl⟩
  ended := List.forall_mem_nil _

theorem told_eq {key : Key} (same : after.delivered = router.delivered) :
    after.told key = router.told key := by
  rw [told, told, same]

theorem Consistent.narrower (inv : Consistent router) (narrower : Narrower router after) :
    Consistent after := by
  have kept : ∀ key info, after.info key = some info → router.info key = some info := by
    intro key info present
    cases narrower.info key with
    | inl same => rwa [← same]
    | inr gone => rw [gone] at present; cases present
  have told : ∀ key, after.told key = router.told key := fun key => told_eq narrower.delivered
  refine ⟨?_, ?_, fun key info present => ?_, ?_, fun key info present => ?_, fun key => ?_,
    fun key info present => ?_, fun query member => ?_⟩
  · rw [narrower.requestIdGenerator, narrower.queries]
    exact inv.numbered
  · rw [narrower.queries]
    exact inv.numbers
  · rw [asked, narrower.queries]
    exact inv.pending key info (kept key info present)
  · rw [narrower.tasks, asked, narrower.queries]
    exact inv.expected
  · rw [told, narrower.tasks]
    exact inv.whole key info (kept key info present)
  · rw [told, narrower.tasks]
    exact inv.ordered key
  · rw [told]
    exact inv.opened key info (kept key info present)
  · rw [told]
    rw [narrower.queries] at member
    exact inv.ended query member

/-- The next number is not that of a request, as long as there are enough numbers. -/
theorem Consistent.fresh (inv : Consistent router) (few : router.queries.length + 1 < 2 ^ 32) {key : Key}
    (next : key.requestId = Counter.next 32 router.requestIdGenerator) : key ∉ router.asked := by
  intro member
  obtain ⟨query, sent, rfl⟩ := List.mem_map.mp member
  have numbered : (keyOf query).requestId ∈ router.queries.map fun query => query.2.requestId :=
    List.mem_map_of_mem sent
  rw [inv.numbers, next, inv.numbered] at numbered
  exact Counter.next_not_mem 32 few numbered

theorem Consistent.told_unasked (inv : Consistent router) {key : Key} (unasked : key ∉ router.asked) :
    router.told key = [] := by
  have none : outcomes key router.tasks.past = [] := by
    apply outcomes_eq_nil
    rintro reply member rfl
    exact unasked (inv.expected reply (router.tasks.prefix_all.subset member))
  exact List.prefix_nil.mp (none ▸ inv.ordered key)

theorem Consistent.wider (inv : Consistent router) {query : Int × QueryMessage}
    {request : RequestInfo Function} (wider : Wider router after query request)
    (few : router.queries.length + 1 < 2 ^ 32) : Consistent after := by
  have fresh : keyOf query ∉ router.asked := inv.fresh few wider.number
  have absent : router.info (keyOf query) = none := by
    rw [Option.eq_none_iff_forall_not_mem]
    intro info present
    exact fresh (inv.pending _ info present).1
  have told : ∀ key, after.told key = router.told key := fun key => told_eq wider.delivered
  have untold := inv.told_unasked fresh
  have kept : ∀ key info, after.info key = some info →
      (key = keyOf query ∧ info = request) ∨ router.info key = some info := by
    intro key info present
    rw [wider.info] at present
    split_ifs at present with own
    · rw [own, absent] at present
      cases present
      exact .inl ⟨own, rfl⟩
    · exact .inr present
  refine ⟨?_, ?_, fun key info present => ?_, fun reply member => ?_, fun key info present => ?_, fun key => ?_,
    fun key info present => ?_, fun other member => ?_⟩
  · rw [wider.requestIdGenerator, wider.number, wider.queries, inv.numbered, List.length_append]
    rfl
  · rw [wider.queries, List.map_append, inv.numbers, List.length_append, List.length_singleton,
      Counter.numbers_succ, List.map_singleton, wider.number, inv.numbered]
    rfl
  · rw [asked, wider.queries, List.map_append]
    rcases kept key info present with ⟨rfl, rfl⟩ | old
    · refine ⟨List.mem_append_right _ (List.mem_singleton_self _), fun other member same => ?_⟩
      cases List.mem_append.mp member with
      | inl earlier => exact absurd (same ▸ List.mem_map_of_mem earlier) fresh
      | inr new => rw [List.mem_singleton.mp new, wider.persistent]
    · obtain ⟨before, lasting⟩ := inv.pending key info old
      refine ⟨List.mem_append_left _ before, fun other member same => ?_⟩
      cases List.mem_append.mp member with
      | inl earlier => exact lasting other earlier same
      | inr new =>
        rw [List.mem_singleton.mp new] at same
        exact absurd (same ▸ before) fresh
  · rw [wider.tasks] at member
    rw [asked, wider.queries, List.map_append]
    exact List.mem_append_left _ (inv.expected reply member)
  · rw [told, wider.tasks]
    rcases kept key info present with ⟨rfl, rfl⟩ | old
    · rw [untold]
      refine (outcomes_eq_nil ?_).symm
      intro reply member same
      exact fresh (same ▸ inv.expected reply (router.tasks.prefix_all.subset member))
    · exact inv.whole key info old
  · rw [told, wider.tasks]
    exact inv.ordered key
  · rw [told]
    rcases kept key info present with ⟨rfl, rfl⟩ | old
    · rw [untold]
      exact ⟨List.forall_mem_nil _, fun _ => rfl⟩
    · exact inv.opened key info old
  · rw [told]
    rw [wider.queries] at member
    cases List.mem_append.mp member with
    | inl old => exact inv.ended other old
    | inr new =>
      rw [List.mem_singleton.mp new, untold]
      exact ⟨List.forall_mem_nil _, fun _ => Nat.zero_le _⟩

theorem Consistent.posted (inv : Consistent router) {reply : Reply} (expected : reply.key ∈ router.asked) :
    Consistent { router with tasks := router.tasks.put reply } where
  numbered := inv.numbered
  numbers := inv.numbers
  pending := inv.pending
  expected := fun other member => by
    rw [Feed.all_put] at member
    cases List.mem_append.mp member with
    | inl old => exact inv.expected other old
    | inr new =>
      rw [List.mem_singleton.mp new]
      exact expected
  whole := inv.whole
  ordered := inv.ordered
  opened := inv.opened
  ended := inv.ended

/-- A pending request is told the reply that is taken. -/
theorem Taken.told {reply : Reply} (taken : Taken router after reply) (key : Key) :
    after.told key = router.told key ++
      if key = reply.key ∧ (router.info key).isSome then [reply.outcome] else [] := by
  rw [RendererSide.told, taken.delivered, outcomes_append]
  congr 1
  by_cases own : key = reply.key
  · subst own
    cases (router.info reply.key).isSome <;> simp
  · have apart : ¬ (key = reply.key ∧ (router.info key).isSome = true) := fun whole => own whole.1
    rw [if_neg apart]
    split_ifs
    · exact outcomes_other (Ne.symm own)
    · rfl

theorem Taken.past_outcomes {reply : Reply} (taken : Taken router after reply) (key : Key) :
    outcomes key after.tasks.past = outcomes key router.tasks.past ++
      if key = reply.key then [reply.outcome] else [] := by
  rw [taken.past, outcomes_append]
  congr 1
  split_ifs with own
  · rw [own, outcomes_own]
  · exact outcomes_other (Ne.symm own)

theorem Consistent.taken (inv : Consistent router) {reply : Reply} (taken : Taken router after reply) :
    Consistent after := by
  -- a request that stays was told a success and is persistent
  have kept : ∀ key info, after.info key = some info → router.info key = some info ∧
      (key = reply.key → reply.outcome.isSuccess = true ∧ info.persistent = true) := by
    intro key info present
    rw [taken.info] at present
    split_ifs at present with own
    · obtain ⟨here, lasting⟩ := Option.filter_eq_some_iff.mp present
      rw [Bool.and_eq_true] at lasting
      exact ⟨here, fun _ => lasting⟩
    · exact ⟨present, fun same => absurd same own⟩
  refine ⟨?_, ?_, fun key info present => ?_, fun other member => ?_, fun key info present => ?_, fun key => ?_,
    fun key info present => ?_, fun query member => ?_⟩
  · rw [taken.requestIdGenerator, taken.queries]
    exact inv.numbered
  · rw [taken.queries]
    exact inv.numbers
  · rw [asked, taken.queries]
    exact inv.pending key info (kept key info present).1
  · rw [taken.all] at member
    rw [asked, taken.queries]
    exact inv.expected other member
  · have here := (kept key info present).1
    rw [taken.told, taken.past_outcomes, inv.whole key info here]
    simp [here]
  · rw [taken.told, taken.past_outcomes]
    cases present : router.info key with
    | none => simpa using (inv.ordered key).trans (List.prefix_append _ _)
    | some info => simp [inv.whole key info present]
  · obtain ⟨here, lasting⟩ := kept key info present
    obtain ⟨successes, single⟩ := inv.opened key info here
    rw [taken.told]
    by_cases own : key = reply.key
    · obtain ⟨success, persistent⟩ := lasting own
      refine ⟨fun outcome member => ?_, fun once => ?_⟩
      · cases List.mem_append.mp member with
        | inl old => exact successes outcome old
        | inr new =>
          rw [if_pos ⟨own, by simp [here]⟩] at new
          rwa [List.mem_singleton.mp new]
      · rw [persistent] at once
        cases once
    · rw [if_neg fun whole => own whole.1, List.append_nil]
      exact ⟨successes, single⟩
  · rw [taken.queries] at member
    rw [taken.told]
    split_ifs with told
    · obtain ⟨info, present⟩ := Option.isSome_iff_exists.mp told.2
      obtain ⟨successes, single⟩ := inv.opened _ info present
      have lasting := (inv.pending _ info present).2 query member rfl
      rw [List.dropLast_concat, List.length_append]
      refine ⟨successes, fun once => ?_⟩
      rw [single (lasting ▸ once)]
      exact Nat.le_refl _
    · rw [List.append_nil]
      exact inv.ended query member

theorem sent_grows (router : RendererSide Function) (event : Event Function) :
    router.sent <+: (router.step config event).sent := by
  cases event with
  | execute context name arguments =>
    rcases execute_cases config router context name arguments with
      narrower | ⟨middle, query, request, narrower, -, wider⟩
    · exact narrower.sent
    · exact narrower.sent.trans (wider.sent ▸ List.prefix_append _ _)
  | released context => exact (onContextReleased_narrower router context).sent
  | received browserId message =>
    rw [step, onProcessMessageReceived]
    split_ifs <;> exact List.prefix_refl _
  | runTask =>
    rcases runTask_cases router with idle | ⟨reply, -, taken⟩
    · exact congrArg RendererSide.sent idle ▸ List.prefix_refl _
    · exact taken.sent ▸ List.prefix_refl _

theorem queries_grow (router : RendererSide Function) (event : Event Function) :
    router.queries <+: (router.step config event).queries :=
  (sent_grows config router event).filterMap _

/-- A new query is for the browser of the context that made it. -/
theorem step_queries (router : RendererSide Function) (event : Event Function) {query : Int × QueryMessage}
    (member : query ∈ (router.step config event).queries) :
    query ∈ router.queries ∨ ∃ context name arguments, event = .execute context name arguments ∧
      query.1 = context.browserId := by
  cases event with
  | execute context name arguments =>
    rcases execute_cases config router context name arguments with
      narrower | ⟨middle, new, request, narrower, own, wider⟩
    · exact .inl (narrower.queries ▸ member)
    · rw [step, wider.queries, narrower.queries] at member
      cases List.mem_append.mp member with
      | inl old => exact .inl old
      | inr last =>
        rw [List.mem_singleton.mp last]
        exact .inr ⟨context, name, arguments, rfl, own⟩
  | released context => exact .inl ((onContextReleased_narrower router context).queries ▸ member)
  | received browserId message =>
    rw [step, onProcessMessageReceived] at member
    split_ifs at member <;> exact .inl member
  | runTask =>
    rcases runTask_cases router with idle | ⟨reply, -, taken⟩
    · exact .inl (congrArg RendererSide.queries idle ▸ member)
    · exact .inl (taken.queries ▸ member)

/-- The reply that comes with an event. -/
def arriving : Event Function → Option Reply
  | .received browserId message =>
    if message.name = config.queryMessageName then
      some ⟨⟨browserId, (ReplyMessage.ofArgs message.args).contextId,
        (ReplyMessage.ofArgs message.args).requestId⟩, (ReplyMessage.ofArgs message.args).outcome⟩
    else none
  | _ => none

theorem step_tasks (router : RendererSide Function) (event : Event Function) :
    (router.step config event).tasks.all = router.tasks.all ++ (arriving config event).toList := by
  cases event with
  | execute context name arguments =>
    have same : (router.execute config context name arguments).1.tasks = router.tasks := by
      rcases execute_cases config router context name arguments with
        narrower | ⟨middle, new, request, narrower, own, wider⟩
      · exact narrower.tasks
      · exact wider.tasks.trans narrower.tasks
    rw [step, same]
    exact (List.append_nil _).symm
  | released context =>
    rw [step, (onContextReleased_narrower router context).tasks]
    exact (List.append_nil _).symm
  | received browserId message =>
    rw [step, onProcessMessageReceived, arriving]
    split_ifs
    · exact Feed.all_put ..
    · exact (List.append_nil _).symm
  | runTask =>
    rw [step]
    rcases runTask_cases router with idle | ⟨reply, -, taken⟩
    · rw [idle]
      exact (List.append_nil _).symm
    · rw [taken.all]
      exact (List.append_nil _).symm

/-- Different requests have different numbers, as long as there are enough of them. -/
theorem Consistent.asked_nodup (inv : Consistent router) (few : router.queries.length < 2 ^ 32) :
    router.asked.Nodup := by
  have distinct := Counter.numbers_nodup 32 few
  rw [← inv.numbers] at distinct
  refine List.Nodup.of_map (fun key : Key => key.requestId) ?_
  rw [asked, List.map_map]
  exact distinct

/-- Every event keeps the requests consistent, as long as there are enough numbers. -/
theorem Consistent.step (inv : Consistent router) {event : Event Function}
    (expected : Expected config router event)
    (few : (router.step config event).queries.length < 2 ^ 32) :
    Consistent (router.step config event) := by
  cases event with
  | execute context name arguments =>
    rcases execute_cases config router context name arguments with
      narrower | ⟨middle, query, request, narrower, -, wider⟩
    · exact inv.narrower narrower
    · have sent : ((router.execute config context name arguments).1.queries).length < 2 ^ 32 := few
      rw [wider.queries, List.length_append] at sent
      exact (inv.narrower narrower).wider wider sent
  | released context => exact inv.narrower (onContextReleased_narrower router context)
  | received browserId message =>
    rw [RendererSide.step, onProcessMessageReceived]
    split_ifs with named
    · exact inv.posted (expected named)
    · exact inv
  | runTask =>
    rw [RendererSide.step]
    rcases runTask_cases router with same | ⟨reply, -, taken⟩
    · rw [same]
      exact inv
    · exact inv.taken taken

end Invariant

end RendererSide

end CefBridge.Router
