import CefBridge.Router.Handling

/-!
# What both sides hold to be pending

A request stands from its query on until a cancel of its page covers it. It lasts as long
as it is persistent and has only had successes. A page holds a request to be pending
exactly while it stands and what the page was told lasts; the browser process
does so exactly while what was sent lasts and the query was not dropped.

So the two sides agree as soon as nothing is on its way, but for queries that the
browser process has dropped without a word.
-/

namespace CefBridge.Router

open Library

/-- Only successes, for a request that takes more than one. -/
def lasting (persistent : Bool) (told : List Outcome) : Prop :=
  ∀ outcome ∈ told, outcome.isSuccess = true ∧ persistent = true

theorem lasting_append {persistent : Bool} {front back : List Outcome} :
    lasting persistent (front ++ back) ↔ lasting persistent front ∧ lasting persistent back :=
  List.forall_mem_append

theorem not_lasting_canceled {persistent : Bool} {front : List Outcome} :
    ¬ lasting persistent (front ++ [.canceled]) := by
  intro all
  have last := (all .canceled (List.mem_append_right _ (List.mem_singleton_self _))).1
  cases last

/-- What a message does to the requests that stand. -/
def stands (keys : List Key) : PageMessage → List Key
  | .query browserId message => keys ++ [RendererSide.keyOf (browserId, message)]
  | .cancel browserId message =>
    keys.filter fun key => ¬ RendererSide.Covers browserId message.contextId message.requestId key

/-- The requests that stand after messages. -/
def standing (messages : List PageMessage) : List Key := messages.foldl stands []

theorem standing_concat (messages : List PageMessage) (message : PageMessage) :
    standing (messages ++ [message]) = stands (standing messages) message := by
  simp [standing]

namespace RendererSide

variable {Function : Type} {router after : RendererSide Function}

/-- A page holds a request to be pending while it stands and lasts. -/
def Follows (router : RendererSide Function) : Prop :=
  ∀ query ∈ router.queries, (router.info (keyOf query)).isSome = true ↔
    keyOf query ∈ standing router.sent ∧ lasting query.2.persistent (router.told (keyOf query))

theorem follows_new : Follows (new : RendererSide Function) := List.forall_mem_nil _

theorem Follows.same (inv : Follows router) (info : ∀ key, after.info key = router.info key)
    (sent : after.sent = router.sent) (delivered : after.delivered = router.delivered) : Follows after := by
  intro query member
  rw [queries, sent] at member
  rw [info, sent, told_eq delivered]
  exact inv query member

/-- If nothing is removed there was nothing to remove. -/
theorem removeRequests_zero (map : BrowserInfoMap (Int ×ₗ Int) (RequestInfo Function))
    {browserId contextId requestId : Int} (none : (removeRequests map browserId contextId requestId).1 = 0)
    {key : Key} (covered : Covers browserId contextId requestId key) :
    map.info key.browserId (toLex (key.contextId, key.requestId)) = .none := by
  by_cases one : requestId = kReservedId
  · subst one
    have walked := BrowserInfoMap.findAllOf_selectAll (ofContext contextId)
      (fun (count : Nat) _ _ _ => count + 1) map browserId 0
    have counted : ∀ (entries : List ((Int ×ₗ (Int ×ₗ Int)) × RequestInfo Function)) (start : Nat),
        entries.foldl (BrowserInfoMap.actEntry fun (count : Nat) _ _ _ => count + 1) start =
          start + entries.length := by
      intro entries
      induction entries with
      | nil => exact fun _ => rfl
      | cons entry entries ih =>
        intro start
        rw [List.foldl_cons, ih, List.length_cons, BrowserInfoMap.actEntry]
        omega
    rw [removeRequests, if_neg (not_not_intro rfl), walked.1, counted, Nat.zero_add, List.length_eq_zero_iff,
      List.filter_eq_nil_iff] at none
    rw [Option.eq_none_iff_forall_not_mem]
    intro info present
    refine none _ ((SortedMap.find_eq_some_iff _ _ _).mp present) ?_
    simp [BrowserInfoMap.chosenEntryOf, BrowserInfoMap.chosenEntry, ofContext, covered.1, covered.2.1]
  · obtain ⟨rfl, rfl, zero | rfl⟩ := covered
    · exact absurd zero one
    · by_contra present
      obtain ⟨info, here⟩ := Option.ne_none_iff_exists'.mp present
      have found := (getRequestInfo_some key here true).1
      rw [removeRequests, if_pos one] at none
      simp [found] at none

theorem Follows.canceled (inv : Follows router) (browserId contextId requestId : Int) :
    Follows (router.sendCancel browserId contextId requestId).1 := by
  by_cases some : 0 < (removeRequests router.browserRequestInfoMap browserId contextId requestId).1
  · have sent : (router.sendCancel browserId contextId requestId).1.sent =
        router.sent ++ [.cancel browserId ⟨contextId, requestId⟩] := by
      rw [sendCancel_eq, if_pos some]
    intro query member
    rw [(sendCancel_narrower router browserId contextId requestId).queries] at member
    rw [sendCancel_info, sent, standing_concat, stands,
      told_eq (sendCancel_narrower router browserId contextId requestId).delivered, List.mem_filter]
    by_cases covered : Covers browserId contextId requestId (keyOf query)
    · simp [covered]
    · simpa [covered] using inv query member
  · have zero := Nat.eq_zero_of_not_pos some
    refine inv.same (fun key => ?_) ?_ (sendCancel_narrower router browserId contextId requestId).delivered
    · rw [sendCancel_info]
      split_ifs with covered
      · exact (removeRequests_zero _ zero covered).symm
      · rfl
    · rw [sendCancel_eq, if_neg some]
      exact List.append_nil _

theorem Follows.wider (inv : Follows router) (consistent : Consistent router) {query : Int × QueryMessage}
    {request : RequestInfo Function} (wider : Wider router after query request)
    (few : router.queries.length + 1 < 2 ^ 32) : Follows after := by
  have fresh : keyOf query ∉ router.asked := consistent.fresh few wider.number
  intro other member
  rw [wider.queries] at member
  rw [wider.info, wider.sent, standing_concat, stands, told_eq wider.delivered, List.mem_append]
  cases List.mem_append.mp member with
  | inl old =>
    have apart : keyOf other ≠ keyOf query := fun same => fresh (same ▸ List.mem_map_of_mem old)
    simpa [apart] using inv other old
  | inr new =>
    rw [List.mem_singleton.mp new, consistent.told_unasked fresh, if_pos rfl]
    simp [lasting]

theorem Follows.taken (inv : Follows router) (consistent : Consistent router) {reply : Reply}
    (taken : Taken router after reply) : Follows after := by
  intro query member
  rw [taken.queries] at member
  rw [taken.info, taken.sent, taken.told]
  have before := inv query member
  by_cases own : keyOf query = reply.key
  · rw [if_pos own]
    cases present : router.info (keyOf query) with
    | none => simpa [present] using before
    | some info =>
      have same := (consistent.pending _ info present).2 query member rfl
      obtain ⟨stands, lasts⟩ := before.mp (by rw [present]; rfl)
      rw [if_pos ⟨own, rfl⟩, lasting_append, Option.filter_some, ← same]
      by_cases stays : (reply.outcome.isSuccess && query.2.persistent) = true
      · rw [if_pos stays]
        rw [Bool.and_eq_true] at stays
        refine ⟨fun _ => ⟨stands, lasts, fun outcome new => ?_⟩, fun _ => rfl⟩
        rwa [List.mem_singleton.mp new]
      · rw [if_neg stays]
        rw [Bool.and_eq_true] at stays
        exact ⟨fun impossible => absurd impossible Bool.false_ne_true,
          fun all => absurd (all.2.2 _ (List.mem_singleton_self _)) stays⟩
  · have apart : ¬ (keyOf query = reply.key ∧ (router.info (keyOf query)).isSome = true) :=
      fun whole => own whole.1
    rw [if_neg own, if_neg apart, List.append_nil]
    exact before

/-- Every event of a renderer process keeps this. -/
theorem Follows.step (inv : Follows router) (consistent : Consistent router) (event : Event Function)
    (few : (router.step config event).queries.length < 2 ^ 32) : Follows (router.step config event) := by
  cases event with
  | execute context name arguments =>
    rcases execute_shape config router context name arguments with
      unmoved | ⟨middle, browserId, contextId, requestId, unmoved, same⟩ |
        ⟨middle, query, request, unmoved, -, wider⟩
    · exact inv.same unmoved.info unmoved.sent unmoved.delivered
    · rw [RendererSide.step, same]
      exact (inv.same unmoved.info unmoved.sent unmoved.delivered).canceled browserId contextId requestId
    · have sent : ((router.execute config context name arguments).1.queries).length < 2 ^ 32 := few
      rw [wider.queries, List.length_append] at sent
      exact (inv.same unmoved.info unmoved.sent unmoved.delivered).wider
        (consistent.narrower unmoved.narrower) wider sent
  | released context =>
    rcases onContextReleased_shape router context with
      unmoved | ⟨middle, browserId, contextId, requestId, unmoved, same⟩
    · exact inv.same unmoved.info unmoved.sent unmoved.delivered
    · rw [RendererSide.step, same]
      exact (inv.same unmoved.info unmoved.sent unmoved.delivered).canceled browserId contextId requestId
  | received browserId message =>
    rw [RendererSide.step, onProcessMessageReceived]
    split_ifs
    · exact inv.same (fun _ => rfl) rfl rfl
    · exact inv
  | runTask =>
    rw [RendererSide.step]
    rcases runTask_cases router with idle | ⟨reply, -, taken⟩
    · rw [idle]
      exact inv
    · exact inv.taken consistent taken

end RendererSide

namespace BrowserSide

variable {router after : BrowserSide}

/-- The requests of pending queries. -/
def pendingKeys (router : BrowserSide) : List Key := router.pending.map fun query => query.2.key

/-- The browser process holds a request to be pending while it lasts and is not dropped, but
for the one whose query is just shown to handlers. A query is kept as persistent as it
came. -/
structure Holds (asking : Option Key) (router : BrowserSide) : Prop where
  pending : ∀ query ∈ router.received, asking ≠ some (RendererSide.keyOf query) →
    (RendererSide.keyOf query ∈ router.pendingKeys ↔ lasting query.2.persistent (outcomes (RendererSide.keyOf query) router.sent) ∧
      RendererSide.keyOf query ∉ router.dropped)
  persistent : ∀ query ∈ router.received, ∀ entry ∈ router.handled,
    entry.2.key = RendererSide.keyOf query → entry.2.persistent = query.2.persistent
  dropped : ∀ key ∈ router.dropped, key ∈ router.handled.map fun entry => entry.2.key

theorem holds_new : Holds none new where
  pending := List.forall_mem_nil _
  persistent := List.forall_mem_nil _
  dropped := List.forall_mem_nil _

variable {asking : Option Key}

theorem Holds.posted (inv : Holds asking router) {task : UiTask} (posted : Posted router after task) :
    Holds asking after where
  pending := by
    rw [posted.received, pendingKeys, posted.pending, posted.sent, posted.dropped]
    exact inv.pending
  persistent := by
    rw [posted.received, posted.handled]
    exact inv.persistent
  dropped := by
    rw [posted.dropped, posted.handled]
    exact inv.dropped

theorem Holds.removed (inv : Holds asking router) (accounted : Accounted asking router)
    {notify : Bool} {gone : List PendingQuery} (removed : Removed notify router after gone) :
    Holds asking after where
  pending := by
    intro query member other
    rw [removed.received] at member
    have before := inv.pending query member other
    have split := removed.pending.map fun query => query.2.key
    rw [List.map_append] at split
    have distinct := split.nodup_iff.mp accounted.pendingKeys
    have single : (gone.map fun query => query.2.key).Nodup := (List.nodup_append.mp distinct).1
    have member_iff : RendererSide.keyOf query ∈ router.pendingKeys ↔
        RendererSide.keyOf query ∈ (gone.map fun query => query.2.key) ∨
          RendererSide.keyOf query ∈ after.pendingKeys := by
      rw [pendingKeys, split.mem_iff, List.mem_append]
      rfl
    rw [removed.sent, removed.dropped, outcomes_append]
    by_cases among : RendererSide.keyOf query ∈ gone.map fun query => query.2.key
    · have absent : RendererSide.keyOf query ∉ after.pendingKeys := fun there =>
        (List.nodup_append.mp distinct).2.2 _ among _ there rfl
      cases notify with
      | true =>
        rw [if_pos rfl, outcomes_canceled single, if_pos among]
        exact ⟨fun there => absurd there absent, fun all => absurd all.1 not_lasting_canceled⟩
      | false =>
        exact ⟨fun there => absurd there absent, fun all => absurd (List.mem_append_right _ among) all.2⟩
    · have same : RendererSide.keyOf query ∈ after.pendingKeys ↔ RendererSide.keyOf query ∈ router.pendingKeys := by
        rw [member_iff]
        simp only [among, false_or]
      rw [same, before]
      cases notify with
      | true =>
        rw [if_pos rfl, if_pos rfl, outcomes_canceled single, if_neg among, List.append_nil, List.append_nil]
      | false => simp [among]
  persistent := by
    rw [removed.received, removed.handled]
    exact inv.persistent
  dropped := by
    intro key member
    rw [removed.handled]
    rw [removed.dropped] at member
    cases List.mem_append.mp member with
    | inl old => exact inv.dropped key old
    | inr new =>
      split_ifs at new
      · cases new
      · obtain ⟨query, among, rfl⟩ := List.mem_map.mp new
        have was := removed.pending.symm.subset (List.mem_append_left _ among)
        exact List.mem_map.mpr ⟨_, (accounted.pendingHandled query was).1, rfl⟩

theorem Holds.detached (inv : Holds asking router) (accounted : Accounted asking router) (callback : Nat) :
    Holds asking (router.detach callback) :=
  inv.removed accounted (.none ⟨rfl, identity_detach _ _, rfl, rfl, rfl, rfl, rfl⟩ rfl rfl rfl rfl)

theorem Holds.moved (inv : Holds asking router) (accounted : Accounted asking router)
    (moved : Moved router after) : Holds asking after := by
  rcases moved with ⟨notify, gone, removed⟩ | ⟨task, posted, -⟩
  · exact inv.removed accounted removed
  · exact inv.posted posted

theorem Holds.answered (inv : Holds asking router) (accounted : Accounted asking router)
    {browserId queryId : Int} {outcome : Outcome}
    (answered : Answered router after browserId queryId outcome) : Holds asking after where
  pending := by
    intro query member other
    rw [answered.received] at member
    have before := inv.pending query member other
    rw [answered.dropped]
    rcases answered.result with ⟨same, sent, -⟩ | ⟨entry, present, -, -, sent, result⟩
    · rw [pendingKeys, same, sent]
      exact before
    · rw [sent, outcomes_append, lasting_append]
      by_cases own : entry.2.key = RendererSide.keyOf query
      · have here : RendererSide.keyOf query ∈ router.pendingKeys := own ▸ List.mem_map_of_mem present
        have persistent := inv.persistent query member _ (accounted.pendingHandled entry present).1 own
        have single : outcomes (RendererSide.keyOf query) [⟨entry.2.key, outcome⟩] = [outcome] :=
          own ▸ outcomes_own ⟨entry.2.key, outcome⟩
        have lasts : lasting query.2.persistent [outcome] ↔
            outcome.isSuccess = true ∧ entry.2.persistent = true := by
          rw [persistent]
          exact List.forall_mem_singleton
        rw [single, lasts]
        rcases result with ⟨success, persists, same, -⟩ | ⟨perm, -, ends⟩
        · rw [pendingKeys, same]
          exact ⟨fun _ => ⟨⟨(before.mp here).1, success, persists⟩, (before.mp here).2⟩, fun _ => here⟩
        · refine ⟨fun there => ?_, fun all => absurd all.1.2 ends⟩
          have distinct := (perm.map fun query => query.2.key).nodup_iff.mp accounted.pendingKeys
          rw [List.map_cons, List.nodup_cons] at distinct
          exact absurd (own ▸ there) distinct.1
      · have nothing : lasting query.2.persistent (outcomes (RendererSide.keyOf query) [⟨entry.2.key, outcome⟩]) := by
          rw [outcomes_other own]
          exact List.forall_mem_nil _
        have same : RendererSide.keyOf query ∈ after.pendingKeys ↔ RendererSide.keyOf query ∈ router.pendingKeys := by
          rcases result with ⟨-, -, same, -⟩ | ⟨perm, -⟩
          · rw [pendingKeys, same, pendingKeys]
          · rw [pendingKeys, pendingKeys, (perm.map fun query => query.2.key).mem_iff, List.map_cons, List.mem_cons]
            exact ⟨.inr, fun all => all.resolve_left (Ne.symm own)⟩
        rw [same, before]
        simp [nothing]
  persistent := by
    rw [answered.received, answered.handled]
    exact inv.persistent
  dropped := by
    rw [answered.dropped, answered.handled]
    exact inv.dropped

theorem Holds.runTask (inv : Holds asking router) (accounted : Accounted asking router) :
    Holds asking router.runTask := by
  rcases runTask_cases router with idle | ⟨task, tasks, next, silent, moved⟩ | ⟨_, _, _, answered⟩
  · rw [idle]
    exact inv
  · have quiet : Holds asking { router with tasks := tasks } := ⟨inv.pending, inv.persistent, inv.dropped⟩
    exact quiet.moved (accounted.silent next silent) moved
  · exact inv.answered accounted answered

theorem Holds.calls (inv : Holds asking router) (accounted : Accounted asking router) (calls : List Call) :
    Holds asking (calls.foldl perform router) := by
  induction calls generalizing router with
  | nil => exact inv
  | cons call calls ih =>
    have moved := perform_moved router call
    exact ih (inv.moved accounted moved) (accounted.moved moved)

theorem Holds.ask (inv : Holds asking router) (accounted : Accounted asking router) (react : Reaction)
    (question : Handler → Question) (handlers : List Handler) :
    Holds asking (BrowserSide.ask react question handlers router).1 := by
  induction handlers generalizing router with
  | nil => exact inv
  | cons handler handlers ih =>
    have noted := accounted.question (router.questions ++ [question handler])
    have same : Holds asking { router with questions := router.questions ++ [question handler] } :=
      ⟨inv.pending, inv.persistent, inv.dropped⟩
    have kept := same.calls noted (react handler).1
    rw [BrowserSide.ask]
    split_ifs
    · exact kept
    · exact ih kept (noted.calls (react handler).1)

/-- A query has come for a new request. -/
theorem Holds.came (inv : Holds none router) (accounted : Accounted none router) {query : Int × QueryMessage}
    (fresh : RendererSide.keyOf query ∉ router.requested) :
    Holds (some (RendererSide.keyOf query)) { router with received := router.received ++ [query] } where
  pending := by
    intro other member apart
    cases List.mem_append.mp member with
    | inl old => exact inv.pending other old (Option.some_ne_none _).symm
    | inr new => exact absurd (congrArg (some ∘ RendererSide.keyOf) (List.mem_singleton.mp new).symm) apart
  persistent := by
    intro other member entry handled same
    cases List.mem_append.mp member with
    | inl old => exact inv.persistent other old entry handled same
    | inr new =>
      rw [List.mem_singleton.mp new] at same
      exact absurd (same ▸ (accounted.handledKnown entry handled).1) fresh
  dropped := inv.dropped

/-- The query that has come is answered with a cancel. -/
theorem Holds.refuse {key : Key} (inv : Holds (some key) router) (accounted : Accounted (some key) router) :
    Holds none (router.send key .canceled) where
  pending := by
    intro query member _
    have pending : (router.send key .canceled).pendingKeys = router.pendingKeys := rfl
    rw [pending, send, outcomes_append]
    by_cases own : key = RendererSide.keyOf query
    · rw [← own]
      refine ⟨fun there => ?_, fun all => absurd all.1 ?_⟩
      · obtain ⟨entry, present, same⟩ := List.mem_map.mp there
        exact absurd (congrArg some same) (accounted.handledKnown _ (accounted.pendingHandled entry present).1).2.1
      · rw [show outcomes key [⟨key, .canceled⟩] = [.canceled] from outcomes_own ⟨key, .canceled⟩]
        exact not_lasting_canceled
    · rw [outcomes_other own, List.append_nil]
      exact inv.pending query member fun same => own (Option.some.inj same)
  persistent := inv.persistent
  dropped := inv.dropped

/-- The query that has come is taken by a handler. -/
theorem Holds.take {browserId : Int} {query : QueryMessage}
    (inv : Holds (some (RendererSide.keyOf (browserId, query))) router)
    (accounted : Accounted (some (RendererSide.keyOf (browserId, query))) router) (queryId : Int)
    (callback : Nat) (handler : Handler) (once : (router.received.map RendererSide.keyOf).Nodup)
    (known : (browserId, query) ∈ router.received) (fresh : queryId ∉ router.handled.map Prod.fst) :
    Holds none { router with
      browserQueryInfoMap := router.browserQueryInfoMap.add browserId queryId
        (infoOf browserId query callback handler)
      handled := router.handled ++ [(queryId, infoOf browserId query callback handler)] } where
  pending := by
    intro other member _
    have perm := (accounted.perm_add (infoOf browserId query callback handler) fresh).map
      fun query => query.2.key
    have keys : ∀ key, key ∈ pendingKeys { router with
        browserQueryInfoMap := router.browserQueryInfoMap.add browserId queryId
          (infoOf browserId query callback handler)
        handled := router.handled ++ [(queryId, infoOf browserId query callback handler)] } ↔
          key = RendererSide.keyOf (browserId, query) ∨ key ∈ router.pendingKeys := by
      intro key
      rw [← List.mem_cons]
      exact perm.mem_iff
    have unhandled : RendererSide.keyOf (browserId, query) ∉ router.handled.map fun entry => entry.2.key := by
      intro among
      obtain ⟨entry, handled, same⟩ := List.mem_map.mp among
      exact (accounted.handledKnown entry handled).2.1 (congrArg some same)
    rw [keys]
    by_cases own : RendererSide.keyOf other = RendererSide.keyOf (browserId, query)
    · have unsent : outcomes (RendererSide.keyOf (browserId, query)) router.sent = [] := by
        have nothing := accounted.refused _ (List.mem_map_of_mem known) unhandled
        rwa [if_pos rfl] at nothing
      rw [own, unsent]
      exact ⟨fun _ => ⟨List.forall_mem_nil _, fun dropped => unhandled (inv.dropped _ dropped)⟩,
        fun _ => .inl rfl⟩
    · simp only [own, false_or]
      exact inv.pending other member fun same => own (Option.some.inj same).symm
  persistent := by
    intro other member entry handled same
    cases List.mem_append.mp handled with
    | inl old => exact inv.persistent other member entry old same
    | inr new =>
      rw [List.mem_singleton.mp new] at same ⊢
      have equal := List.inj_on_of_nodup_map once known member same
      rw [← equal]
      rfl
  dropped := by
    intro key member
    rw [List.map_append]
    exact List.mem_append_left _ (inv.dropped key member)

theorem Holds.onQuery (inv : Holds none router) (accounted : Accounted none router) (browserId : Int)
    (query : QueryMessage) (react : Reaction) (once : (router.received.map RendererSide.keyOf).Nodup)
    (fresh : RendererSide.keyOf (browserId, query) ∉ router.requested)
    (few : router.received.length + 1 < 2 ^ 64) : Holds none (router.onQuery browserId query react) := by
  have came := inv.came accounted fresh
  have started : Holds (some (RendererSide.keyOf (browserId, query))) (router.startQuery browserId query) :=
    ⟨came.pending, came.persistent, came.dropped⟩
  have steady := ask_steady react
    (questionOf browserId (Counter.next 64 router.queryIdGenerator) query router.callbacks.length)
    (router.handlerSet.entries.map Prod.fst) (router.startQuery browserId query)
  have kept := (accounted.start fresh).ask react
    (questionOf browserId (Counter.next 64 router.queryIdGenerator) query router.callbacks.length)
    (router.handlerSet.entries.map Prod.fst)
  have holds := started.ask (accounted.start fresh) react
    (questionOf browserId (Counter.next 64 router.queryIdGenerator) query router.callbacks.length)
    (router.handlerSet.entries.map Prod.fst)
  rcases router.onQuery_cases browserId query react with alone | refused | ⟨handler, -, taken⟩
  · rw [alone]
    exact came.refuse (accounted.came fresh)
  · rw [refused]
    exact (holds.detached kept _).refuse (kept.detached _)
  · rw [taken]
    have new := accounted.id_fresh few
    refine holds.take kept _ _ handler ?_ ?_ ?_
    · rw [steady.received, startQuery, List.map_append]
      refine List.nodup_append.mpr ⟨once, List.nodup_singleton _, fun key member key' single same => ?_⟩
      rw [same, List.mem_singleton.mp single] at member
      exact fresh member
    · rw [steady.received]
      exact List.mem_append_right _ (List.mem_singleton_self _)
    · rw [steady.handled]
      intro among
      obtain ⟨old, member, same⟩ := List.mem_map.mp among
      exact new _ (accounted.handledKnown old member).2.2 same

/-- Every event of the browser process keeps this. -/
theorem Holds.step (inv : Holds none router) (accounted : Accounted none router) {event : Event}
    (once : (router.received.map RendererSide.keyOf).Nodup) (fresh : Fresh config router event)
    (few : (router.step config event).received.length < 2 ^ 64) : Holds none (router.step config event) := by
  rw [step_received, List.length_append] at few
  cases event with
  | received browserId message react =>
    rw [BrowserSide.step, onProcessMessageReceived]
    by_cases queried : message.name = config.queryMessageName
    · rw [arriving, if_pos queried] at few
      rw [if_pos queried]
      exact inv.onQuery accounted browserId _ react once (fresh queried) few
    · rw [if_neg queried]
      split_ifs
      · exact inv.removed accounted (cancelPendingRequest_removed router browserId _ _)
      · exact inv
  | perform call => exact inv.moved accounted (perform_moved router call)
  | performElsewhere call => exact inv.moved accounted (performElsewhere_moved router call)
  | runTask => exact inv.runTask accounted

section Members

/-- No query becomes pending when queries are canceled or a task is posted. -/
theorem Moved.pendingKeys (moved : Moved router after) : after.pendingKeys ⊆ router.pendingKeys := by
  rcases moved with ⟨notify, gone, removed⟩ | ⟨task, posted, -⟩
  · refine List.map_subset _ fun query member => ?_
    exact removed.pending.symm.subset (List.mem_append_right _ member)
  · rw [BrowserSide.pendingKeys, posted.pending]
    exact List.Subset.refl _

theorem Answered.pendingKeys {browserId queryId : Int} {outcome : Outcome}
    (answered : Answered router after browserId queryId outcome) : after.pendingKeys ⊆ router.pendingKeys := by
  rcases answered.result with ⟨same, -⟩ | ⟨entry, -, -, -, -, ⟨-, -, same, -⟩ | ⟨perm, -⟩⟩
  · rw [BrowserSide.pendingKeys, same]
    exact List.Subset.refl _
  · rw [BrowserSide.pendingKeys, same]
    exact List.Subset.refl _
  · exact List.map_subset _ fun query member => perm.symm.subset (List.mem_cons_of_mem _ member)

theorem calls_pendingKeys (calls : List Call) (router : BrowserSide) :
    (calls.foldl perform router).pendingKeys ⊆ router.pendingKeys := by
  induction calls generalizing router with
  | nil => exact List.Subset.refl _
  | cons call calls ih => exact fun key member => (perform_moved router call).pendingKeys (ih (router.perform call) member)

theorem ask_pendingKeys (react : Reaction) (question : Handler → Question) (handlers : List Handler)
    (router : BrowserSide) : (ask react question handlers router).1.pendingKeys ⊆ router.pendingKeys := by
  induction handlers generalizing router with
  | nil => exact List.Subset.refl _
  | cons handler handlers ih =>
    have called := calls_pendingKeys (react handler).1
      { router with questions := router.questions ++ [question handler] }
    rw [ask]
    split_ifs
    · exact called
    · exact fun key member => called (ih _ member)

/-- Only the query that comes can become pending. -/
theorem Accounted.onQuery_pendingKeys (inv : Accounted none router) (browserId : Int) (query : QueryMessage)
    (react : Reaction) (fresh : RendererSide.keyOf (browserId, query) ∉ router.requested)
    (few : router.received.length + 1 < 2 ^ 64) {key : Key}
    (pending : key ∈ (router.onQuery browserId query react).pendingKeys) :
    key ∈ router.pendingKeys ∨ key = RendererSide.keyOf (browserId, query) := by
  have asked := ask_pendingKeys react
    (questionOf browserId (Counter.next 64 router.queryIdGenerator) query router.callbacks.length)
    (router.handlerSet.entries.map Prod.fst) (router.startQuery browserId query)
  have steady := ask_steady react
    (questionOf browserId (Counter.next 64 router.queryIdGenerator) query router.callbacks.length)
    (router.handlerSet.entries.map Prod.fst) (router.startQuery browserId query)
  have kept := (inv.start fresh).ask react
    (questionOf browserId (Counter.next 64 router.queryIdGenerator) query router.callbacks.length)
    (router.handlerSet.entries.map Prod.fst)
  rcases router.onQuery_cases browserId query react with alone | refused | ⟨handler, -, taken⟩
  · rw [alone] at pending
    exact .inl pending
  · rw [refused] at pending
    exact .inl (asked pending)
  · rw [taken] at pending
    have new : Counter.next 64 router.queryIdGenerator ∉
        (BrowserSide.ask react (questionOf browserId (Counter.next 64 router.queryIdGenerator) query router.callbacks.length)
          (router.handlerSet.entries.map Prod.fst) (router.startQuery browserId query)).1.handled.map Prod.fst := by
      rw [steady.handled]
      intro among
      obtain ⟨old, member, same⟩ := List.mem_map.mp among
      exact inv.id_fresh few _ (inv.handledKnown old member).2.2 same
    have perm := (kept.perm_add (infoOf browserId query router.callbacks.length handler) new).map
      fun query => query.2.key
    cases List.mem_cons.mp (perm.subset pending) with
    | inl latest => exact .inr latest
    | inr old => exact .inl (asked old)

theorem Accounted.step_pendingKeys (inv : Accounted none router) {event : Event}
    (fresh : Fresh config router event) (few : (router.step config event).received.length < 2 ^ 64) {key : Key}
    (pending : key ∈ (router.step config event).pendingKeys) :
    key ∈ router.pendingKeys ∨ ∃ query, arriving config event = some query ∧ key = RendererSide.keyOf query := by
  rw [step_received, List.length_append] at few
  cases event with
  | received browserId message react =>
    rw [BrowserSide.step, onProcessMessageReceived] at pending
    by_cases queried : message.name = config.queryMessageName
    · rw [arriving, if_pos queried] at few ⊢
      rw [if_pos queried] at pending
      exact (inv.onQuery_pendingKeys browserId _ react (fresh queried) few pending).imp id
        fun same => ⟨_, rfl, same⟩
    · rw [if_neg queried] at pending
      split_ifs at pending
      · have removed := cancelPendingRequest_removed router browserId
          (CancelMessage.ofArgs message.args).contextId (CancelMessage.ofArgs message.args).requestId
        exact .inl (Moved.pendingKeys (.inl ⟨_, _, removed⟩) pending)
      · exact .inl pending
  | perform call => exact .inl ((perform_moved router call).pendingKeys pending)
  | performElsewhere call => exact .inl ((performElsewhere_moved router call).pendingKeys pending)
  | runTask =>
    rw [BrowserSide.step] at pending
    rcases runTask_cases router with idle | ⟨task, tasks, -, -, moved⟩ | ⟨_, _, _, answered⟩
    · exact .inl (idle ▸ pending)
    · exact .inl (moved.pendingKeys pending)
    · exact .inl (answered.pendingKeys pending)

/-- A query that is pending has its request's key for its number in the map. -/
theorem Accounted.isCanceledBy_iff (inv : Accounted asking router) {browserId contextId requestId : Int}
    {query : PendingQuery} (member : query ∈ router.pending) :
    isCanceledBy browserId contextId requestId query = true ↔
      RendererSide.Covers browserId contextId requestId query.2.key := by
  simp [isCanceledBy, RendererSide.Covers, (inv.pendingHandled query member).2, QueryInfo.key]

/-- Nothing that a cancel of a page covers stays pending. -/
theorem Accounted.canceled_pendingKeys (inv : Accounted asking router) {browserId contextId requestId : Int}
    {key : Key} (pending : key ∈ (router.cancelPendingRequest browserId contextId requestId).pendingKeys) :
    ¬ RendererSide.Covers browserId contextId requestId key := by
  obtain ⟨query, member, rfl⟩ := List.mem_map.mp pending
  have removed := cancelPendingRequest_removed router browserId contextId requestId
  have was : query ∈ router.pending := removed.pending.symm.subset (List.mem_append_right _ member)
  have distinct := (removed.pending.map fun query => query.2.key).nodup_iff.mp inv.pendingKeys
  rw [List.map_append, List.nodup_append] at distinct
  intro covered
  have picked : isCanceledBy browserId contextId requestId query = true := (inv.isCanceledBy_iff was).mpr covered
  have gone : ∃ other ∈ (if requestId = kReservedId then
      router.pending.filter (isCanceledBy browserId contextId requestId)
      else (router.pending.find? (isCanceledBy browserId contextId requestId)).toList),
        other.2.key = query.2.key := by
    by_cases all : requestId = kReservedId
    · rw [if_pos all]
      exact ⟨query, List.mem_filter.mpr ⟨was, picked⟩, rfl⟩
    · rw [if_neg all]
      cases first : router.pending.find? (isCanceledBy browserId contextId requestId) with
      | none => exact absurd picked (List.find?_eq_none.mp first query was)
      | some other =>
        refine ⟨other, Option.mem_toList.mpr rfl, ?_⟩
        have same := (inv.isCanceledBy_iff (List.mem_of_find?_eq_some first)).mp (List.find?_some first)
        obtain ⟨browser, context, zero | request⟩ := same
        · exact absurd zero all
        · obtain ⟨browser', context', zero | request'⟩ := covered
          · exact absurd zero all
          · rw [Key.mk.injEq]
            exact ⟨browser.trans browser'.symm, context.trans context'.symm, request.trans request'.symm⟩
  obtain ⟨other, among, same⟩ := gone
  exact distinct.2.2 _ (List.mem_map_of_mem among) _ (List.mem_map_of_mem member) same

end Members

end BrowserSide

namespace System

variable {Process Callback : Type} [DecidableEq Process] {home : Int → Process}

/-- An event of the system is none for a renderer process, or one of its own. -/
theorem renderer_step (system : System Process Callback) (event : SystemEvent Process Callback)
    (process : Process) :
    (system.step home event).renderer process = system.renderer process ∨
      ∃ own, (system.step home event).renderer process = (system.renderer process).step config own := by
  have at_process : ∀ (other : Process) (happens : RendererSide.Event Callback),
      (system.atRenderer other happens).renderer process = system.renderer process ∨
        ∃ own, (system.atRenderer other happens).renderer process = (system.renderer process).step config own := by
    intro other happens
    by_cases same : process = other
    · subst same
      exact .inr ⟨happens, atRenderer_self ..⟩
    · exact .inl (atRenderer_other _ _ same)
  cases event with
  | execute context name arguments => exact at_process _ _
  | released context => exact at_process _ _
  | browserReceives other react =>
    rw [System.step]
    left
    split <;> rfl
  | rendererReceives other =>
    rw [System.step]
    split
    · exact .inl rfl
    · exact at_process _ _
  | rendererTask other => exact at_process _ _
  | perform call => exact .inl rfl
  | performElsewhere call => exact .inl rfl
  | browserTask => exact .inl rfl

theorem follows_run (home : Int → Process) (events : List (SystemEvent Process Callback))
    (few : (Runs.run (System.step home) System.new events).Few) (process : Process) :
    ((Runs.run (System.step home) (System.new : System Process Callback) events).renderer process).Follows := by
  induction events using List.reverseRecOn with
  | nil => exact RendererSide.follows_new
  | append_singleton events event ih =>
    rw [Runs.run_concat] at few ⊢
    have before := few_of_step home _ event few
    rcases renderer_step _ event process with same | ⟨own, stepped⟩
    · rw [same]
      exact ih before
    · rw [stepped]
      exact (ih before).step ((connected_run home events before).renderers process) own (stepped ▸ few.1 process)

theorem holds_run (home : Int → Process) (events : List (SystemEvent Process Callback))
    (few : (Runs.run (System.step home) System.new events).Few) :
    let browser := (Runs.run (System.step home) (System.new : System Process Callback) events).browser
    browser.Holds none ∧ browser.requested.Nodup := by
  suffices good : ∀ router : BrowserSide, ∀ event, router.Accounted none → router.Fresh config event →
      (router.step config event).received.length < 2 ^ 64 → router.Holds none ∧ router.requested.Nodup →
        (router.step config event).Holds none ∧ (router.step config event).requested.Nodup  from
    browser_run ⟨BrowserSide.holds_new, List.nodup_nil⟩ good home events few
  rintro router event accounted fresh small ⟨holds, once⟩
  refine ⟨holds.step accounted once fresh small, ?_⟩
  rw [BrowserSide.requested, BrowserSide.step_received, List.map_append, List.nodup_append]
  refine ⟨once, ?_, ?_⟩
  · cases BrowserSide.arriving config event with
    | none => exact List.nodup_nil
    | some query => exact List.nodup_singleton _
  · rintro key old key new rfl
    cases event with
    | received browserId message react =>
      rw [BrowserSide.arriving] at new
      split_ifs at new with queried
      · rw [Option.toList_some, List.map_singleton, List.mem_singleton] at new
        exact fresh queried (new ▸ old)
      · cases new
    | perform call => cases new
    | performElsewhere call => cases new
    | runTask => cases new

/-- A request that is pending in the browser process stands by what it has read. -/
def Stood (home : Int → Process) (system : System Process Callback) : Prop :=
  ∀ key ∈ system.browser.pendingKeys, key ∈
    standing ((system.renderer (home key.browserId)).sent.take (system.read (home key.browserId)))

theorem Stood.atRenderer {system : System Process Callback} (inv : Stood home system)
    (connected : Connected home system) (process : Process) (event : RendererSide.Event Callback) :
    Stood home (system.atRenderer process event) := by
  intro key pending
  have before := inv key pending
  have here : (system.atRenderer process event).read = system.read := rfl
  rw [here]
  by_cases same : home key.browserId = process
  · have grows := RendererSide.sent_grows config (system.renderer process) event
    have bound := connected.readBound (home key.browserId)
    rw [same] at before bound ⊢
    rwa [atRenderer_self, take_of_grows grows bound]
  · rwa [atRenderer_other _ _ same]

theorem Stood.atBrowser_silent {system : System Process Callback} (inv : Stood home system)
    (connected : Connected home system) {event : BrowserSide.Event} (few : (system.atBrowser event).Few)
    (fresh : system.browser.Fresh config event) (silent : BrowserSide.arriving config event = none) :
    Stood home (system.atBrowser event) := by
  intro key pending
  rcases connected.browser.step_pendingKeys fresh few.2 pending with old | ⟨query, came, -⟩
  · exact inv key old
  · rw [silent] at came
    cases came

/-- The next message of a renderer process arrives: what a cancel covers is not pending
any more. -/
theorem Stood.browserReceives {system : System Process Callback} (inv : Stood home system)
    (connected : Connected home system) {process : Process} {message : PageMessage}
    (next : (system.renderer process).sent[system.read process]? = some message) (react : Reaction)
    (few : (system.atBrowser (.received message.browserId (message.toMessage config) react)).Few)
    (before : system.Few) :
    Stood home
      { system.atBrowser (.received message.browserId (message.toMessage config) react) with
        read := Function.update system.read process (system.read process + 1) } := by
  obtain ⟨more, whole⟩ := queries_split next
  intro key pending
  have came := connected.browser.step_pendingKeys (connected.fresh next react before) few.2 pending
  rw [arriving_message] at came
  by_cases same : home key.browserId = process
  · simp only [same, Function.update_self]
    have taken : (system.atBrowser (.received message.browserId (message.toMessage config) react)).renderer =
        system.renderer := rfl
    rw [taken, more, standing_concat]
    cases message with
    | query browserId query =>
      rcases came with old | ⟨other, head, own⟩
      · have stood := inv key old
        rw [same] at stood
        exact List.mem_append_left _ stood
      · cases head
        exact List.mem_append_right _ (List.mem_singleton.mpr own)
    | cancel browserId cancel =>
      rcases came with old | ⟨other, head, -⟩
      · have stood := inv key old
        rw [same] at stood
        refine List.mem_filter.mpr ⟨stood, decide_eq_true ?_⟩
        have named : ((PageMessage.cancel browserId cancel).toMessage config).name ≠ config.queryMessageName :=
          messageName_apart names_apart
        have cancels : ((PageMessage.cancel browserId cancel).toMessage config).name = config.cancelMessageName := rfl
        have canceled : system.browser.step config
            (.received browserId ((PageMessage.cancel browserId cancel).toMessage config) react) =
              system.browser.cancelPendingRequest browserId cancel.contextId cancel.requestId := by
          rw [BrowserSide.step, BrowserSide.onProcessMessageReceived, if_neg named, if_pos cancels,
            PageMessage.toMessage, CancelMessage.ofArgs_toMessage]
        exact connected.browser.canceled_pendingKeys (canceled ▸ pending)
      · cases head
  · simp only [Function.update_of_ne same]
    rcases came with old | ⟨query, head, own⟩
    · exact inv key old
    · refine absurd ?_ same
      have mine : query ∈ queriesOf [message] := List.mem_of_mem_head? head
      have home := connected.homes process query
        (whole ▸ List.mem_append_right _ (List.mem_append_left _ mine))
      rwa [own]

theorem Stood.step {system : System Process Callback} (inv : Stood home system)
    (connected : Connected home system) (event : SystemEvent Process Callback)
    (few : (system.step home event).Few) : Stood home (system.step home event) := by
  cases event with
  | execute context name arguments => exact inv.atRenderer connected _ _
  | released context => exact inv.atRenderer connected _ _
  | browserReceives process react =>
    have before := few_of_step home system _ few
    rw [System.step] at few ⊢
    cases next : (system.renderer process).sent[system.read process]? with
    | none => exact inv
    | some message =>
      simp only [next] at few ⊢
      exact inv.browserReceives connected next react few before
  | rendererReceives process =>
    rw [System.step]
    cases (system.replies home process)[system.heard process]? with
    | none => exact inv
    | some reply => exact inv.atRenderer connected _ _
  | rendererTask process => exact inv.atRenderer connected _ _
  | perform call => exact inv.atBrowser_silent connected few trivial rfl
  | performElsewhere call => exact inv.atBrowser_silent connected few trivial rfl
  | browserTask => exact inv.atBrowser_silent connected few trivial rfl

theorem stood_run (home : Int → Process) (events : List (SystemEvent Process Callback))
    (few : (Runs.run (System.step home) System.new events).Few) :
    Stood home (Runs.run (System.step home) (System.new : System Process Callback) events) := by
  induction events using List.reverseRecOn with
  | nil => exact List.forall_mem_nil _
  | append_singleton events event ih =>
    rw [Runs.run_concat] at few ⊢
    have before := few_of_step home _ event few
    exact (ih before).step (connected_run home events before) event few

/-- Nothing is on its way to or from a renderer process. -/
structure Quiet (home : Int → Process) (system : System Process Callback) (process : Process) : Prop where
  read : system.read process = (system.renderer process).sent.length
  heard : system.heard process = (system.replies home process).length
  tasks : (system.renderer process).tasks.pending = []

/-- In every run both sides agree on which requests are pending when nothing is on its way
between them, but for queries that the browser process has dropped: the page of such
a query still waits. -/
theorem pending_agree (home : Int → Process) (events : List (SystemEvent Process Callback))
    (few : (Runs.run (System.step home) System.new events).Few) (key : Key)
    (quiet : (Runs.run (System.step home) (System.new : System Process Callback) events).Quiet home
      (home key.browserId)) :
    let system := Runs.run (System.step home) (System.new : System Process Callback) events
    key ∈ system.browser.pendingKeys ↔
      ((system.renderer (home key.browserId)).info key).isSome = true ∧ key ∉ system.browser.dropped := by
  intro system
  have inv : Connected home system := connected_run home events few
  have follows : (system.renderer (home key.browserId)).Follows := follows_run home events few _
  have holds : system.browser.Holds none := (holds_run home events few).1
  have stood : Stood home system := stood_run home events few
  have consistent := inv.renderers (home key.browserId)
  -- everything that was sent has been taken
  have taken : (system.renderer (home key.browserId)).tasks.past = system.replies home (home key.browserId) := by
    have whole := inv.heard (home key.browserId)
    rw [quiet.heard, List.take_length, Feed.all, quiet.tasks, List.append_nil] at whole
    exact whole
  have arrived := inv.read (home key.browserId)
  rw [quiet.read, List.take_length] at arrived
  have known : ∀ query ∈ (system.renderer (home key.browserId)).queries, query ∈ system.browser.received := by
    intro query member
    have here : query ∈ queriesOf (system.renderer (home key.browserId)).sent := member
    rw [← arrived] at here
    exact (List.mem_filter.mp here).1
  constructor
  · intro pending
    obtain ⟨entry, member, same⟩ := List.mem_map.mp pending
    have requested := (inv.browser.handledKnown _ (inv.browser.pendingHandled entry member).1).1
    obtain ⟨query, received, own⟩ := List.mem_map.mp (same ▸ requested)
    subst own
    have asked : query ∈ (system.renderer (home (RendererSide.keyOf query).browserId)).queries := by
      have here : query ∈ system.browser.received.filter fun other =>
          home other.1 = home (RendererSide.keyOf query).browserId :=
        List.mem_filter.mpr ⟨received, decide_eq_true rfl⟩
      rwa [arrived] at here
    obtain ⟨lasts, kept⟩ := (holds.pending query received (by simp)).mp pending
    have stands := stood _ pending
    rw [quiet.read, List.take_length] at stands
    refine ⟨(follows query asked).mpr ⟨stands, fun outcome told => ?_⟩, kept⟩
    have part := consistent.ordered (RendererSide.keyOf query)
    rw [taken, replies_own] at part
    exact lasts outcome (part.subset told)
  · rintro ⟨waits, kept⟩
    obtain ⟨info, present⟩ := Option.isSome_iff_exists.mp waits
    obtain ⟨query, asked, rfl⟩ := List.mem_map.mp (consistent.pending _ info present).1
    have lasts := ((follows query asked).mp waits).2
    rw [consistent.whole _ info present, taken, replies_own] at lasts
    exact (holds.pending query (known query asked) (by simp)).mpr ⟨lasts, kept⟩

theorem pending_agree_subscription :
    (⟨7, 1, 1⟩ : Key) ∈ (Runs.run (System.step fun _ => ()) (System.new : System Unit Nat)
        (subscription.take 6)).browser.pendingKeys ↔
      (((Runs.run (System.step fun _ => ()) (System.new : System Unit Nat)
          (subscription.take 6)).renderer ()).info ⟨7, 1, 1⟩).isSome = true ∧
        (⟨7, 1, 1⟩ : Key) ∉ (Runs.run (System.step fun _ => ()) (System.new : System Unit Nat)
          (subscription.take 6)).browser.dropped :=
  pending_agree (fun _ => ()) (subscription.take 6) ⟨fun | () => by decide, by decide⟩ ⟨7, 1, 1⟩
    ⟨by decide, by decide, by decide⟩

end System

end CefBridge.Router
