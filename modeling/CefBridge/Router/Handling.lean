import CefBridge.Router.System

/-!
# Handlers and their queries

Every query that a handler has taken is pending, completed or canceled, and only one of
these. A cancel is told to the handler that took the query and to no other. A
handler is shown what a page has sent, and no query twice.
-/

namespace CefBridge.Router

open Library

namespace BrowserSide

variable {router after : BrowserSide}

section Settling

/-- The numbers of the queries that were taken are those of the pending, the completed
and the canceled ones, and a cancel was told to the handler of its query. -/
structure Settled (router : BrowserSide) : Prop where
  ids : (router.handled.map Prod.fst).Perm
    (router.pending.map queryIdOf ++ (router.completed ++ router.canceled.map Prod.fst))
  told : ∀ cancel ∈ router.canceled, ∃ info, (cancel.1, info) ∈ router.handled ∧ info.handler = cancel.2

theorem settled_new : Settled new := ⟨.refl _, List.forall_mem_nil _⟩

theorem Settled.removed {asking : Option Key} (inv : Settled router) (accounted : Accounted asking router)
    {notify : Bool} {gone : List PendingQuery} (removed : Removed notify router after gone) : Settled after where
  ids := by
    have moved : (gone.map queryIdOf ++ after.pending.map queryIdOf ++
        (router.completed ++ router.canceled.map Prod.fst)).Perm
          (after.pending.map queryIdOf ++
            (router.completed ++ (router.canceled.map Prod.fst ++ gone.map queryIdOf))) := by
      rw [List.append_assoc]
      refine List.perm_append_comm.trans ?_
      simp only [List.append_assoc]
      exact .refl _
    rw [removed.handled, removed.completed, removed.canceled, List.map_append, List.map_map]
    have split := removed.pending.map queryIdOf
    rw [List.map_append] at split
    exact (inv.ids.trans (split.append_right _)).trans moved
  told := by
    intro cancel member
    rw [removed.handled]
    rw [removed.canceled] at member
    cases List.mem_append.mp member with
    | inl old => exact inv.told cancel old
    | inr new =>
      obtain ⟨query, among, rfl⟩ := List.mem_map.mp new
      have was := removed.pending.symm.subset (List.mem_append_left _ among)
      exact ⟨query.2, (accounted.pendingHandled query was).1, rfl⟩

theorem Settled.posted (inv : Settled router) {task : UiTask} (posted : Posted router after task) :
    Settled after where
  ids := by
    rw [posted.handled, posted.pending, posted.completed, posted.canceled]
    exact inv.ids
  told := by
    rw [posted.handled, posted.canceled]
    exact inv.told

theorem Settled.moved {asking : Option Key} (inv : Settled router) (accounted : Accounted asking router)
    (moved : Moved router after) : Settled after := by
  rcases moved with ⟨notify, gone, removed⟩ | ⟨task, posted, -⟩
  · exact inv.removed accounted removed
  · exact inv.posted posted

theorem Settled.answered (inv : Settled router) {browserId queryId : Int} {outcome : Outcome}
    (answered : Answered router after browserId queryId outcome) : Settled after where
  ids := by
    rw [answered.handled, answered.canceled]
    rcases answered.result with ⟨same, -, completed, -⟩ |
      ⟨query, -, -, id, -, ⟨-, -, same, completed⟩ | ⟨perm, completed, -⟩⟩
    · rw [same, completed]
      exact inv.ids
    · rw [same, completed]
      exact inv.ids
    · have split := perm.map queryIdOf
      rw [List.map_cons, id] at split
      rw [completed]
      refine (inv.ids.trans (split.append_right _)).trans ?_
      rw [List.append_assoc, List.cons_append]
      refine List.perm_middle.symm.trans ?_
      refine (List.Perm.append_left _ ?_)
      rw [List.singleton_append]
      exact List.perm_middle.symm
  told := by
    rw [answered.handled, answered.canceled]
    exact inv.told

theorem Settled.runTask {asking : Option Key} (inv : Settled router) (accounted : Accounted asking router) :
    Settled router.runTask := by
  rcases runTask_cases router with idle | ⟨task, tasks, next, silent, moved⟩ | ⟨_, _, _, answered⟩
  · rw [idle]
    exact inv
  · have quiet : Settled { router with tasks := tasks } := ⟨inv.ids, inv.told⟩
    exact quiet.moved (accounted.silent next silent) moved
  · exact inv.answered answered

theorem Settled.calls {asking : Option Key} (inv : Settled router) (accounted : Accounted asking router)
    (calls : List Call) : Settled (calls.foldl perform router) := by
  induction calls generalizing router with
  | nil => exact inv
  | cons call calls ih =>
    have moved := perform_moved router call
    exact ih (inv.moved accounted moved) (accounted.moved moved)

theorem Settled.ask {asking : Option Key} (inv : Settled router) (accounted : Accounted asking router)
    (react : Reaction) (question : Handler → Question) (handlers : List Handler) :
    Settled (BrowserSide.ask react question handlers router).1 := by
  induction handlers generalizing router with
  | nil => exact inv
  | cons handler handlers ih =>
    have noted := accounted.question (router.questions ++ [question handler])
    have same : Settled { router with questions := router.questions ++ [question handler] } :=
      ⟨inv.ids, inv.told⟩
    have kept := same.calls noted (react handler).1
    rw [BrowserSide.ask]
    split_ifs
    · exact kept
    · exact ih kept (noted.calls (react handler).1)

theorem Settled.onQuery (inv : Settled router) (accounted : Accounted none router) (browserId : Int)
    (query : QueryMessage) (react : Reaction)
    (fresh : RendererSide.keyOf (browserId, query) ∉ router.requested)
    (few : router.received.length + 1 < 2 ^ 64) : Settled (router.onQuery browserId query react) := by
  have started : Settled (router.startQuery browserId query) := ⟨inv.ids, inv.told⟩
  have steady := ask_steady react
    (questionOf browserId (Counter.next 64 router.queryIdGenerator) query router.callbacks.length)
    (router.handlerSet.entries.map Prod.fst) (router.startQuery browserId query)
  have kept := (accounted.start fresh).ask react
    (questionOf browserId (Counter.next 64 router.queryIdGenerator) query router.callbacks.length)
    (router.handlerSet.entries.map Prod.fst)
  have settled := started.ask (accounted.start fresh) react
    (questionOf browserId (Counter.next 64 router.queryIdGenerator) query router.callbacks.length)
    (router.handlerSet.entries.map Prod.fst)
  rcases router.onQuery_cases browserId query react with alone | refused | ⟨handler, -, taken⟩
  · rw [alone]
    exact ⟨inv.ids, inv.told⟩
  · rw [refused]
    exact ⟨settled.ids, settled.told⟩
  · rw [taken]
    have new := accounted.id_fresh few
    have unused : Counter.next 64 router.queryIdGenerator ∉ router.handled.map Prod.fst := by
      intro among
      obtain ⟨old, member, same⟩ := List.mem_map.mp among
      exact new _ (accounted.handledKnown old member).2.2 same
    rw [← show _ = router.handled from steady.handled] at unused
    have perm := (kept.perm_add (infoOf browserId query router.callbacks.length handler) unused).map queryIdOf
    constructor
    · rw [List.map_append]
      refine List.perm_append_comm.trans (.trans ?_ (perm.symm.append_right _))
      exact settled.ids.cons _
    · intro cancel member
      obtain ⟨info, known, same⟩ := settled.told cancel member
      exact ⟨info, List.mem_append_left _ known, same⟩

/-- Every event keeps the queries settled. -/
theorem Settled.step (inv : Settled router) (accounted : Accounted none router) {event : Event}
    (fresh : Fresh config router event) (few : (router.step config event).received.length < 2 ^ 64) :
    Settled (router.step config event) := by
  rw [step_received, List.length_append] at few
  cases event with
  | received browserId message react =>
    rw [BrowserSide.step, onProcessMessageReceived]
    by_cases queried : message.name = config.queryMessageName
    · rw [arriving, if_pos queried] at few
      rw [if_pos queried]
      exact inv.onQuery accounted browserId _ react (fresh queried) few
    · rw [if_neg queried]
      split_ifs
      · exact inv.removed accounted (cancelPendingRequest_removed router browserId _ _)
      · exact inv
  | perform call => exact inv.moved accounted (perform_moved router call)
  | performElsewhere call => exact inv.moved accounted (performElsewhere_moved router call)
  | runTask => exact inv.runTask accounted

end Settling

section Showing

theorem Moved.questions (moved : Moved router after) : after.questions = router.questions := by
  rcases moved with ⟨notify, gone, removed⟩ | ⟨task, posted, -⟩
  · exact removed.questions
  · exact posted.questions

theorem calls_questions (calls : List Call) (router : BrowserSide) :
    (calls.foldl perform router).questions = router.questions := by
  induction calls generalizing router with
  | nil => rfl
  | cons call calls ih => exact (ih (router.perform call)).trans (perform_moved router call).questions

/-- Handlers are asked in order, and the one that takes the query is the last. -/
theorem ask_questions (react : Reaction) (question : Handler → Question) (handlers : List Handler)
    (router : BrowserSide) :
    ∃ shown, shown <+: handlers ∧
      (BrowserSide.ask react question handlers router).1.questions = router.questions ++ shown.map question ∧
      ∀ handler, (BrowserSide.ask react question handlers router).2 = some handler →
        ∃ refusing, shown = refusing ++ [handler] := by
  induction handlers generalizing router with
  | nil => exact ⟨[], List.prefix_refl _, (List.append_nil _).symm, fun _ taken => by cases taken⟩
  | cons handler handlers ih =>
    have noted := calls_questions (react handler).1
      { router with questions := router.questions ++ [question handler] }
    rw [BrowserSide.ask]
    split_ifs
    · refine ⟨[handler], List.cons_prefix_cons.mpr ⟨rfl, List.nil_prefix⟩, noted, ?_⟩
      rintro _ ⟨rfl⟩
      exact ⟨[], rfl⟩
    · obtain ⟨shown, first, questions, last⟩ := ih
        ((react handler).1.foldl perform { router with questions := router.questions ++ [question handler] })
      refine ⟨handler :: shown, List.cons_prefix_cons.mpr ⟨rfl, first⟩, ?_, fun taker taken => ?_⟩
      · rw [questions, noted]
        simp
      · obtain ⟨refusing, rfl⟩ := last taker taken
        exact ⟨handler :: refusing, rfl⟩

/-- A handler is shown a query as it came, and once at most. The handler that took a query
was the last to be shown it. -/
structure Shown (router : BrowserSide) : Prop where
  came : ∀ question ∈ router.questions, ∃ query ∈ router.received,
    question = questionOf query.1 question.queryId query.2 question.callback question.handler
  numbered : ∀ question ∈ router.questions, question.queryId ∈ router.identities.map fun identity => identity.2.1
  once : (router.questions.map fun question => (question.queryId, question.handler)).Nodup
  taken : ∀ entry ∈ router.handled, ∃ query ∈ router.received,
    entry.2 = infoOf query.1 query.2 entry.2.callback entry.2.handler ∧
      ∃ front back, router.questions =
          front ++ questionOf query.1 entry.1 query.2 entry.2.callback entry.2.handler :: back ∧
        ∀ question ∈ back, question.queryId ≠ entry.1

theorem shown_new : Shown new where
  came := List.forall_mem_nil _
  numbered := List.forall_mem_nil _
  once := List.nodup_nil
  taken := List.forall_mem_nil _

theorem Shown.same (inv : Shown router) (questions : after.questions = router.questions)
    (received : after.received = router.received) (identities : after.identities = router.identities)
    (handled : after.handled = router.handled) : Shown after where
  came := by
    rw [questions, received]
    exact inv.came
  numbered := by
    rw [questions, identities]
    exact inv.numbered
  once := by
    rw [questions]
    exact inv.once
  taken := by
    rw [handled, received, questions]
    exact inv.taken

theorem Shown.moved (inv : Shown router) (moved : Moved router after) : Shown after :=
  inv.same moved.questions moved.steady.received moved.steady.identities moved.steady.handled

/-- A query is shown to some handlers under a new number. -/
theorem Shown.shows (inv : Shown router) {browserId queryId : Int} {query : QueryMessage} {callback : Nat}
    {persistent : Bool} {shown : List Handler} (distinct : shown.Nodup)
    (fresh : ∀ identity ∈ router.identities, identity.2.1 ≠ queryId)
    (known : ∀ entry ∈ router.handled, ∃ identity ∈ router.identities, identity.2.1 = entry.1)
    (questions : after.questions = router.questions ++ shown.map (questionOf browserId queryId query callback))
    (received : after.received = router.received ++ [(browserId, query)])
    (identities : after.identities = router.identities ++ [(browserId, queryId, persistent)])
    (handled : after.handled = router.handled) : Shown after where
  came := by
    intro question member
    rw [questions] at member
    rw [received]
    cases List.mem_append.mp member with
    | inl old =>
      obtain ⟨query, among, same⟩ := inv.came question old
      exact ⟨query, List.mem_append_left _ among, same⟩
    | inr new =>
      obtain ⟨handler, -, rfl⟩ := List.mem_map.mp new
      exact ⟨(browserId, query), List.mem_append_right _ (List.mem_singleton_self _), rfl⟩
  numbered := by
    intro question member
    rw [questions] at member
    rw [identities, List.map_append]
    cases List.mem_append.mp member with
    | inl old => exact List.mem_append_left _ (inv.numbered question old)
    | inr new =>
      obtain ⟨handler, -, rfl⟩ := List.mem_map.mp new
      exact List.mem_append_right _ (List.mem_singleton_self _)
  once := by
    rw [questions, List.map_append, List.nodup_append]
    refine ⟨inv.once, ?_, ?_⟩
    · rw [List.map_map]
      exact distinct.map fun handler other same => (Prod.mk.inj same).2
    · rintro first old second new rfl
      obtain ⟨question, among, same⟩ := List.mem_map.mp old
      rw [List.map_map] at new
      obtain ⟨handler, -, equal⟩ := List.mem_map.mp new
      obtain ⟨identity, made, number⟩ := List.mem_map.mp (inv.numbered question among)
      have number' : question.queryId = queryId := congrArg Prod.fst (same.trans equal.symm)
      exact fresh identity made (number.trans number')
  taken := by
    intro entry member
    rw [handled] at member
    obtain ⟨old, among, same, front, back, whole, last⟩ := inv.taken entry member
    rw [received]
    refine ⟨old, List.mem_append_left _ among, same, front,
      back ++ shown.map (questionOf browserId queryId query callback), ?_, fun question later => ?_⟩
    · rw [questions, whole, List.append_assoc, List.cons_append]
    · cases List.mem_append.mp later with
      | inl before => exact last question before
      | inr new =>
        obtain ⟨handler, -, rfl⟩ := List.mem_map.mp new
        obtain ⟨identity, made, number⟩ := known entry member
        exact fun equal => fresh identity made (number.trans equal.symm)

theorem Shown.onQuery (inv : Shown router) (accounted : Accounted none router) (browserId : Int)
    (query : QueryMessage) (react : Reaction) (few : router.received.length + 1 < 2 ^ 64) :
    Shown (router.onQuery browserId query react) := by
  have steady := ask_steady react
    (questionOf browserId (Counter.next 64 router.queryIdGenerator) query router.callbacks.length)
    (router.handlerSet.entries.map Prod.fst) (router.startQuery browserId query)
  obtain ⟨shown, first, questions, last⟩ := ask_questions react
    (questionOf browserId (Counter.next 64 router.queryIdGenerator) query router.callbacks.length)
    (router.handlerSet.entries.map Prod.fst) (router.startQuery browserId query)
  have distinct : shown.Nodup := router.handlerSet.nodup.sublist first.sublist
  have known : ∀ entry ∈ router.handled, ∃ identity ∈ router.identities, identity.2.1 = entry.1 :=
    fun entry member => ⟨_, (accounted.handledKnown entry member).2.2, rfl⟩
  have new := accounted.id_fresh few
  have asked := inv.shows distinct new known questions steady.received
    (steady.identities.trans (router.identities_start browserId query)) steady.handled
  rcases router.onQuery_cases browserId query react with alone | refused | ⟨handler, taken, whole⟩
  · rw [alone]
    exact ⟨fun question member => by
        obtain ⟨other, among, same⟩ := inv.came question member
        exact ⟨other, List.mem_append_left _ among, same⟩,
      inv.numbered, inv.once, fun entry member => by
        obtain ⟨other, among, same⟩ := inv.taken entry member
        exact ⟨other, List.mem_append_left _ among, same⟩⟩
  · rw [refused]
    exact asked.same rfl rfl (identity_detach _ _) rfl
  · rw [whole]
    refine ⟨asked.came, asked.numbered, asked.once, fun entry member => ?_⟩
    cases List.mem_append.mp member with
    | inl old => exact asked.taken entry old
    | inr latest =>
      rw [List.mem_singleton.mp latest]
      obtain ⟨refusing, rfl⟩ := last handler taken
      refine ⟨(browserId, query), ?_, rfl, router.questions ++ refusing.map
        (questionOf browserId (Counter.next 64 router.queryIdGenerator) query router.callbacks.length), [], ?_,
        List.forall_mem_nil _⟩
      · exact steady.received ▸ List.mem_append_right _ (List.mem_singleton_self _)
      · exact questions.trans (by simp [startQuery, infoOf])

/-- Every event keeps the handlers shown what came. -/
theorem Shown.step (inv : Shown router) (accounted : Accounted none router) {event : Event}
    (few : (router.step config event).received.length < 2 ^ 64) : Shown (router.step config event) := by
  rw [step_received, List.length_append] at few
  cases event with
  | received browserId message react =>
    rw [BrowserSide.step, onProcessMessageReceived]
    by_cases queried : message.name = config.queryMessageName
    · rw [arriving, if_pos queried] at few
      rw [if_pos queried]
      exact inv.onQuery accounted browserId _ react few
    · rw [if_neg queried]
      split_ifs
      · exact inv.moved (.inl ⟨_, _, cancelPendingRequest_removed router browserId _ _⟩)
      · exact inv
  | perform call => exact inv.moved (perform_moved router call)
  | performElsewhere call => exact inv.moved (performElsewhere_moved router call)
  | runTask =>
    rw [BrowserSide.step]
    rcases runTask_cases router with idle | ⟨task, tasks, -, -, moved⟩ | ⟨_, _, _, answered⟩
    · rw [idle]
      exact inv
    · have quiet : Shown { router with tasks := tasks } := ⟨inv.came, inv.numbered, inv.once, inv.taken⟩
      exact quiet.moved moved
    · exact inv.same answered.questions answered.received (congrArg (List.map identity) answered.callbacks)
        answered.handled

end Showing

section Counting

theorem getPendingCount_eq (router : BrowserSide) (browserId : Option Int) (handler : Option Handler) :
    router.getPendingCount browserId handler = (router.pending.filter (isFor browserId handler)).length := by
  unfold getPendingCount
  by_cases none : router.browserQueryInfoMap.isEmpty = true
  · have nothing : router.pending = [] := router.browserQueryInfoMap.isEmpty_iff.mp none
    rw [if_pos none, nothing]
    rfl
  · rw [if_neg none]
    cases handler with
    | none =>
      cases browserId with
      | none =>
        have every : router.pending.filter (isFor .none .none) = router.pending :=
          List.filter_eq_self.mpr fun _ _ => rfl
        rw [every]
        exact router.browserQueryInfoMap.size_eq
      | some browserId =>
        exact router.browserQueryInfoMap.sizeOf_eq browserId
    | some handler =>
      cases browserId with
      | none =>
        exact BrowserInfoMap.findAll_tally _ router.browserQueryInfoMap
      | some browserId =>
        exact BrowserInfoMap.findAllOf_tally _ router.browserQueryInfoMap browserId

/-- Canceling for a browser and a handler takes away the queries that are counted for them and
nothing else. Each of these queries is told to its own handler, in their order, and to
its own page if it is to be notified, and to no one else. -/
theorem cancelPendingFor_counts (router : BrowserSide) (browserId : Option Int) (handler : Option Handler)
    (notify : Bool) :
    let after := router.cancelPendingFor browserId handler notify
    let gone := router.pending.filter (isFor browserId handler)
    after.getPendingCount browserId handler = 0 ∧
      (∀ query, query ∈ after.pending ↔ query ∈ router.pending ∧ isFor browserId handler query = false) ∧
      gone.length = router.getPendingCount browserId handler ∧
      (gone.map Prod.fst).Nodup ∧
      after.canceled = router.canceled ++ (gone.map fun query => (queryIdOf query, query.2.handler)) ∧
      after.sent =
        router.sent ++ if notify then gone.map fun query => ⟨query.2.key, .canceled⟩ else [] := by
  intro after gone
  have removed := cancelPendingFor_removed router browserId handler notify
  have whole := List.filter_append_perm (isFor browserId handler) router.pending
  have left : after.pending.Perm (router.pending.filter fun query => !isFor browserId handler query) :=
    (List.perm_append_left_iff _).mp (removed.pending.symm.trans whole.symm)
  have members : ∀ query, query ∈ after.pending ↔ query ∈ router.pending ∧ isFor browserId handler query = false := by
    intro query
    rw [left.mem_iff, List.mem_filter]
    simp
  refine ⟨?_, members, (getPendingCount_eq ..).symm, ?_, removed.canceled, removed.sent⟩
  · rw [getPendingCount_eq, List.length_eq_zero_iff, List.filter_eq_nil_iff]
    intro query member
    rw [((members query).mp member).2]
    exact Bool.false_ne_true
  · exact router.browserQueryInfoMap.flat.nodup.sublist (List.filter_sublist.map Prod.fst)

end Counting

end BrowserSide

namespace System

variable {Process Callback : Type} [DecidableEq Process]

/-- In every run each query that a handler has taken is exactly one of pending, completed and
canceled, and a cancel was told to the handler that had taken the query. -/
theorem handled_once (home : Int → Process) (events : List (SystemEvent Process Callback))
    (few : (Runs.run (System.step home) System.new events).Few) :
    let browser := (Runs.run (System.step home) (System.new : System Process Callback) events).browser
    (browser.pending.map BrowserSide.queryIdOf ++
        (browser.completed ++ browser.canceled.map Prod.fst)).Nodup ∧
      (∀ queryId, queryId ∈ browser.handled.map Prod.fst ↔
        queryId ∈ browser.pending.map BrowserSide.queryIdOf ∨ queryId ∈ browser.completed ∨
          queryId ∈ browser.canceled.map Prod.fst) ∧
      ∀ cancel ∈ browser.canceled, ∃ info, (cancel.1, info) ∈ browser.handled ∧ info.handler = cancel.2 := by
  intro browser
  have settled : browser.Settled := browser_run BrowserSide.settled_new
    (fun router event accounted fresh few inv => inv.step accounted fresh few) home events few
  have distinct := (connected_run home events few).browser.handledIds
  refine ⟨settled.ids.nodup_iff.mp distinct, fun queryId => ?_, settled.told⟩
  rw [settled.ids.mem_iff, List.mem_append, List.mem_append]

theorem handled_once_subscription :
    let browser := (Runs.run (System.step fun _ => ()) (System.new : System Unit Nat) subscription).browser
    (browser.pending.map BrowserSide.queryIdOf ++
        (browser.completed ++ browser.canceled.map Prod.fst)).Nodup ∧
      (∀ queryId, queryId ∈ browser.handled.map Prod.fst ↔
        queryId ∈ browser.pending.map BrowserSide.queryIdOf ∨ queryId ∈ browser.completed ∨
          queryId ∈ browser.canceled.map Prod.fst) ∧
      ∀ cancel ∈ browser.canceled, ∃ info, (cancel.1, info) ∈ browser.handled ∧ info.handler = cancel.2 :=
  handled_once (fun _ => ()) subscription subscription_few

/-- In every run a handler is shown queries as pages have sent them, none of them twice, and
the handler that has taken a query was the last to be shown it. -/
theorem shown_run (home : Int → Process) (events : List (SystemEvent Process Callback))
    (few : (Runs.run (System.step home) System.new events).Few) :
    let system := Runs.run (System.step home) (System.new : System Process Callback) events
    (∀ question ∈ system.browser.questions, ∃ query ∈ (system.renderer (home question.browserId)).queries,
        question = BrowserSide.questionOf query.1 question.queryId query.2 question.callback question.handler) ∧
      (system.browser.questions.map fun question => (question.queryId, question.handler)).Nodup ∧
      ∀ entry ∈ system.browser.handled, ∃ query ∈ (system.renderer (home entry.2.browserId)).queries,
        entry.2 = BrowserSide.infoOf query.1 query.2 entry.2.callback entry.2.handler ∧
          ∃ front back, system.browser.questions = front ++
              BrowserSide.questionOf query.1 entry.1 query.2 entry.2.callback entry.2.handler :: back ∧
            ∀ question ∈ back, question.queryId ≠ entry.1 := by
  intro system
  have inv : Connected home system := connected_run home events few
  have shown : system.browser.Shown := browser_run BrowserSide.shown_new
    (fun router event accounted _ few inv => inv.step accounted few) home events few
  have sent : ∀ query ∈ system.browser.received, query ∈ (system.renderer (home query.1)).queries := by
    intro query member
    have here : query ∈ system.browser.received.filter fun other => home other.1 = home query.1 :=
      List.mem_filter.mpr ⟨member, decide_eq_true rfl⟩
    rw [inv.read] at here
    exact (queries_sublist _).subset here
  refine ⟨fun question member => ?_, shown.once, fun entry member => ?_⟩
  · obtain ⟨query, among, same⟩ := shown.came question member
    have own : question.browserId = query.1 := congrArg Question.browserId same
    rw [own]
    exact ⟨query, sent query among, same⟩
  · obtain ⟨query, among, same, rest⟩ := shown.taken entry member
    have own : entry.2.browserId = query.1 := congrArg QueryInfo.browserId same
    rw [own]
    exact ⟨query, sent query among, same, rest⟩

theorem shown_subscription :
    let system := Runs.run (System.step fun _ => ()) (System.new : System Unit Nat) subscription
    (∀ question ∈ system.browser.questions, ∃ query ∈ (system.renderer ()).queries,
        question = BrowserSide.questionOf query.1 question.queryId query.2 question.callback question.handler) ∧
      (system.browser.questions.map fun question => (question.queryId, question.handler)).Nodup ∧
      ∀ entry ∈ system.browser.handled, ∃ query ∈ (system.renderer ()).queries,
        entry.2 = BrowserSide.infoOf query.1 query.2 entry.2.callback entry.2.handler ∧
          ∃ front back, system.browser.questions = front ++
              BrowserSide.questionOf query.1 entry.1 query.2 entry.2.callback entry.2.handler :: back ∧
            ∀ question ∈ back, question.queryId ≠ entry.1 :=
  shown_run (fun _ => ()) subscription subscription_few

end System

end CefBridge.Router
