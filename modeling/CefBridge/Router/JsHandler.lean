import CefBridge.Router.Handling

/-!
# Queries that managed code answers

A client whose browsers have managed code adds one handler. It asks managed code, gives
the answer to the callback of the query at once, and takes the query. It never fails a
query and never keeps a callback, so the callback of a query hears one answer. The
answer of managed code is what `ReadOutputAsString(0)` gives of its results.

A page that asks is then told the answer of managed code to its own query, or a cancel,
or both if it has asked persistently.
-/

namespace CefBridge.Router

open Library

/-- `MyCefJsHandler::OnQuery`. Without managed code it takes no query. -/
def MyCefJsHandler.onQuery (mcallback : Option (Question → Text)) (question : Question) : List Call × Bool :=
  match mcallback with
  | some answer => ([.success question.callback (answer question)], true)
  | none => ([], false)

/-- Whether a call is one on the callback of a query. -/
def Call.onCallback : Call → Bool
  | .success .. => true
  | .failure .. => true
  | _ => false

namespace BrowserSide

variable {router after : BrowserSide}

/-- Every handler is one that asks managed code, and nobody else uses callbacks. -/
def Bridged (mcallback : Handler → Option (Question → Text)) (router : BrowserSide) : Event → Prop
  | .received browserId message react => ∀ handler, react handler =
    MyCefJsHandler.onQuery (mcallback handler)
      (questionOf browserId (Counter.next 64 router.queryIdGenerator) (QueryMessage.ofArgs message.args)
        router.callbacks.length handler)
  | .perform call => call.onCallback = false
  | .performElsewhere call => call.onCallback = false
  | .runTask => True

/-- The callback of every query that was taken has accepted the answer to this query, and
nothing else. No call on a callback waits. -/
structure Bridging (mcallback : Handler → Option (Question → Text)) (router : BrowserSide) : Prop where
  direct : ∀ task ∈ router.tasks.all, task.answer = none →
    ∃ browserId handler notify, task = .cancelPendingFor browserId handler notify
  answered : ∀ entry ∈ router.handled, ∃ query ∈ router.received, ∃ answer,
    entry.2 = infoOf query.1 query.2 entry.2.callback entry.2.handler ∧
      mcallback entry.2.handler = some answer ∧
        answers entry.1 router.tasks.all =
          [.success (answer (questionOf query.1 entry.1 query.2 entry.2.callback entry.2.handler))]

variable {mcallback : Handler → Option (Question → Text)}

theorem bridging_new : Bridging mcallback new := ⟨List.forall_mem_nil _, List.forall_mem_nil _⟩

theorem Bridging.same (inv : Bridging mcallback router) (tasks : after.tasks.all = router.tasks.all)
    (received : after.received = router.received) (handled : after.handled = router.handled) :
    Bridging mcallback after where
  direct := by
    rw [tasks]
    exact inv.direct
  answered := by
    rw [handled, received, tasks]
    exact inv.answered

/-- Canceling is posted, and no outcome of a query. -/
theorem Bridging.put (inv : Bridging mcallback router) (browserId : Option Int) (handler : Option Handler)
    (notify : Bool) : Bridging mcallback (router.post (.cancelPendingFor browserId handler notify)) where
  direct := by
    intro task member unanswered
    rw [post, Feed.all_put] at member
    cases List.mem_append.mp member with
    | inl old => exact inv.direct task old unanswered
    | inr new => exact ⟨browserId, handler, notify, List.mem_singleton.mp new⟩
  answered := by
    intro entry member
    obtain ⟨query, among, answer, info, managed, single⟩ := inv.answered entry member
    refine ⟨query, among, answer, info, managed, ?_⟩
    have none : UiTask.answer (.cancelPendingFor browserId handler notify) = none := rfl
    rw [post, Feed.all_put, answers_append, single, answers_single none]
    exact List.append_nil _

theorem Bridging.removed (inv : Bridging mcallback router) {notify : Bool} {gone : List PendingQuery}
    (removed : Removed notify router after gone) : Bridging mcallback after :=
  inv.same (congrArg Feed.all removed.tasks) removed.received removed.handled

theorem Bridging.perform (inv : Bridging mcallback router) {call : Call} (other : call.onCallback = false) :
    Bridging mcallback (router.perform call) := by
  cases call with
  | success callback response => cases other
  | failure callback errorCode errorMessage => cases other
  | addHandler handler first =>
    simp only [BrowserSide.perform, addHandler]
    split_ifs
    · exact inv.same rfl rfl rfl
    · exact inv
  | removeHandler handler =>
    simp only [BrowserSide.perform, removeHandler]
    split_ifs
    · have less : Bridging mcallback { router with handlerSet := router.handlerSet.erase handler } :=
        inv.same rfl rfl rfl
      exact less.removed (cancelPendingFor_removed _ none (some handler) true)
    · exact inv
  | cancelPending browserId handler => exact inv.removed (cancelPendingFor_removed ..)
  | onBeforeClose browserId => exact inv.removed (cancelPendingFor_removed router (some browserId) none false)
  | onRenderProcessTerminated browserId =>
    exact inv.removed (cancelPendingFor_removed router (some browserId) none false)
  | onBeforeBrowse browserId isMain =>
    simp only [BrowserSide.perform]
    split_ifs
    · exact inv.removed (cancelPendingFor_removed ..)
    · exact inv

theorem Bridging.performElsewhere (inv : Bridging mcallback router) {call : Call}
    (other : call.onCallback = false) : Bridging mcallback (router.performElsewhere call) := by
  rw [BrowserSide.performElsewhere]
  cases call with
  | success callback response => cases other
  | failure callback errorCode errorMessage => cases other
  | addHandler handler first => exact inv
  | removeHandler handler => exact inv
  | cancelPending browserId handler => exact inv.put ..
  | onBeforeClose browserId => exact inv.put ..
  | onRenderProcessTerminated browserId => exact inv.put ..
  | onBeforeBrowse browserId isMain =>
    cases isMain with
    | true => exact inv.put ..
    | false => exact inv

theorem Bridging.runTask (inv : Bridging mcallback router) : Bridging mcallback router.runTask := by
  unfold BrowserSide.runTask
  cases next : router.tasks.next with
  | none => exact inv
  | some taken =>
    obtain ⟨task, tasks⟩ := taken
    have kept : Bridging mcallback { router with tasks := tasks } := inv.same (Feed.next_all next) rfl rfl
    have direct := inv.direct task (Feed.next_mem next)
    cases task with
    | success callback response =>
      obtain ⟨_, _, _, impossible⟩ := direct rfl
      cases impossible
    | failure callback errorCode errorMessage =>
      obtain ⟨_, _, _, impossible⟩ := direct rfl
      cases impossible
    | onCallbackSuccess browserId queryId response =>
      have answered : Answered router _ browserId queryId (.success response) := onCallback_answered next rfl
      exact inv.same answered.all answered.received answered.handled
    | onCallbackFailure browserId queryId errorCode errorMessage =>
      have answered : Answered router _ browserId queryId (.failure errorCode errorMessage) :=
        onCallback_answered next rfl
      exact inv.same answered.all answered.received answered.handled
    | cancelPendingFor browserId handler notify => exact kept.removed (cancelPendingFor_removed ..)

theorem answers_success (id browserId queryId : Int) (response : Text) :
    answers id [.onCallbackSuccess browserId queryId response] =
      if queryId = id then [.success response] else [] := by
  by_cases own : queryId = id <;> simp [answers, UiTask.answer, own]

/-- Handlers are asked until one has managed code. Its answer is posted. -/
theorem ask_bridged {react : Reaction} {question : Handler → Question}
    (bridged : ∀ handler, react handler = MyCefJsHandler.onQuery (mcallback handler) (question handler))
    {callback : Nat} (own : ∀ handler, (question handler).callback = callback) {impl : CallbackImpl}
    (attached : impl.router = true) (handlers : List Handler) (router : BrowserSide)
    (found : router.callbacks[callback]? = some impl) :
    ((ask react question handlers router).2 = none ∧
        (ask react question handlers router).1.tasks = router.tasks) ∨
      ∃ handler answer, (ask react question handlers router).2 = some handler ∧
        mcallback handler = some answer ∧ (ask react question handlers router).1.tasks =
          router.tasks.put (.onCallbackSuccess impl.browserId impl.queryId (answer (question handler))) := by
  induction handlers generalizing router with
  | nil => exact .inl ⟨rfl, rfl⟩
  | cons handler handlers ih =>
    rw [ask, bridged handler]
    cases managed : mcallback handler with
    | none => exact ih { router with questions := router.questions ++ [question handler] } found
    | some answer =>
      refine .inr ⟨handler, answer, rfl, managed, ?_⟩
      simp only [MyCefJsHandler.onQuery, List.foldl_cons, List.foldl_nil, if_true, perform, success, own, found,
        attached]
      split_ifs <;> rfl

theorem Bridging.onQuery (inv : Bridging mcallback router) (accounted : Accounted none router)
    {browserId : Int} {query : QueryMessage} {react : Reaction}
    (bridged : ∀ handler, react handler = MyCefJsHandler.onQuery (mcallback handler)
      (questionOf browserId (Counter.next 64 router.queryIdGenerator) query router.callbacks.length handler))
    (few : router.received.length + 1 < 2 ^ 64) : Bridging mcallback (router.onQuery browserId query react) := by
  have steady := ask_steady react
    (questionOf browserId (Counter.next 64 router.queryIdGenerator) query router.callbacks.length)
    (router.handlerSet.entries.map Prod.fst) (router.startQuery browserId query)
  have asked := ask_bridged bridged (fun _ => rfl) (rfl : CallbackImpl.router ⟨browserId,
    Counter.next 64 router.queryIdGenerator, query.persistent, true⟩ = true)
    (router.handlerSet.entries.map Prod.fst) (router.startQuery browserId query) (by simp [startQuery])
  have new := accounted.id_fresh few
  -- an outcome with a new number is for none of the queries before
  have others : ∀ response, ∀ entry ∈ router.handled, answers entry.1
      [.onCallbackSuccess browserId (Counter.next 64 router.queryIdGenerator) response] = [] := by
    intro response entry member
    rw [answers_success, if_neg (new _ (accounted.handledKnown entry member).2.2).symm]
  have unanswered : answers (Counter.next 64 router.queryIdGenerator) router.tasks.all = [] := by
    apply answers_eq_nil
    rintro task member _ _ _ given rfl
    obtain ⟨persistent, made⟩ := accounted.answersKnown task member _ _ _ given
    exact new _ made rfl
  have came : Bridging mcallback { router with received := router.received ++ [(browserId, query)] } :=
    ⟨inv.direct, fun entry member => by
      obtain ⟨old, among, rest⟩ := inv.answered entry member
      exact ⟨old, List.mem_append_left _ among, rest⟩⟩
  have kept : Bridging mcallback (BrowserSide.ask react
      (questionOf browserId (Counter.next 64 router.queryIdGenerator) query router.callbacks.length)
      (router.handlerSet.entries.map Prod.fst) (router.startQuery browserId query)).1 := by
    rcases asked with ⟨-, tasks⟩ | ⟨handler, answer, -, -, tasks⟩
    · exact came.same (congrArg Feed.all tasks) steady.received steady.handled
    · refine ⟨fun task member none => ?_, fun entry member => ?_⟩
      · rw [tasks, Feed.all_put] at member
        cases List.mem_append.mp member with
        | inl old => exact inv.direct task old none
        | inr latest =>
          rw [List.mem_singleton.mp latest] at none
          cases none
      · rw [steady.handled] at member
        obtain ⟨old, among, rest, info, managed, single⟩ := came.answered entry member
        rw [steady.received, tasks, Feed.all_put]
        refine ⟨old, among, rest, info, managed, ?_⟩
        rw [answers_append, others _ entry member, List.append_nil]
        exact single
  rcases router.onQuery_cases browserId query react with alone | refused | ⟨handler, taker, whole⟩
  · rw [alone]
    exact came.same rfl rfl rfl
  · rw [refused]
    exact kept.same rfl rfl rfl
  · rw [whole]
    refine ⟨kept.direct, fun entry member => ?_⟩
    cases List.mem_append.mp member with
    | inl old => exact kept.answered entry old
    | inr latest =>
      rcases asked with ⟨refused, -⟩ | ⟨taking, answer, took, managed, tasks⟩
      · rw [refused] at taker
        cases taker
      · obtain rfl := Option.some.inj (took.symm.trans taker)
        rw [List.mem_singleton.mp latest]
        refine ⟨(browserId, query), ?_, answer, rfl, managed, ?_⟩
        · exact steady.received ▸ List.mem_append_right _ (List.mem_singleton_self _)
        · have outcome : answers (Counter.next 64 router.queryIdGenerator)
              ((router.tasks.put (.onCallbackSuccess browserId (Counter.next 64 router.queryIdGenerator)
                (answer (questionOf browserId (Counter.next 64 router.queryIdGenerator) query
                  router.callbacks.length taking)))).all) =
              [.success (answer (questionOf browserId (Counter.next 64 router.queryIdGenerator) query
                router.callbacks.length taking))] := by
            rw [Feed.all_put, answers_append, unanswered, answers_success, if_pos rfl, List.nil_append]
          exact tasks ▸ outcome

/-- Every event that is bridged keeps this. -/
theorem Bridging.step (inv : Bridging mcallback router) (accounted : Accounted none router) {event : Event}
    (bridged : Bridged mcallback router event)
    (few : (router.step config event).received.length < 2 ^ 64) :
    Bridging mcallback (router.step config event) := by
  rw [step_received, List.length_append] at few
  cases event with
  | received browserId message react =>
    rw [BrowserSide.step, onProcessMessageReceived]
    by_cases queried : message.name = config.queryMessageName
    · rw [arriving, if_pos queried] at few
      rw [if_pos queried]
      exact inv.onQuery accounted bridged few
    · rw [if_neg queried]
      split_ifs
      · exact inv.removed (cancelPendingRequest_removed router browserId _ _)
      · exact inv
  | perform call => exact inv.perform bridged
  | performElsewhere call => exact inv.performElsewhere bridged
  | runTask => exact inv.runTask

end BrowserSide

namespace System

variable {Process Callback : Type} [DecidableEq Process]

/-- Every query that comes is shown to handlers that ask managed code, and nobody else uses
callbacks. -/
def Bridged (mcallback : Handler → Option (Question → Text)) (system : System Process Callback) :
    SystemEvent Process Callback → Prop
  | .browserReceives process react => ∀ message,
    (system.renderer process).sent[system.read process]? = some message →
      system.browser.Bridged mcallback (.received message.browserId (message.toMessage config) react)
  | .perform call => system.browser.Bridged mcallback (.perform call)
  | .performElsewhere call => system.browser.Bridged mcallback (.performElsewhere call)
  | _ => True

theorem bridging_run {mcallback : Handler → Option (Question → Text)} (home : Int → Process)
    (events : List (SystemEvent Process Callback))
    (few : (Runs.run (System.step home) System.new events).Few)
    (bridged : Runs.EachStep (System.step home) System.new (Bridged mcallback) events) :
    (Runs.run (System.step home) (System.new : System Process Callback) events).browser.Bridging mcallback := by
  induction events using List.reverseRecOn with
  | nil => exact BrowserSide.bridging_new
  | append_singleton events event ih =>
    rw [Runs.run_concat] at few ⊢
    have before := few_of_step home _ event few
    have accounted := (connected_run home events before).browser
    have inv := ih before bridged.init
    have allowed := bridged.last
    have at_browser : ∀ own : BrowserSide.Event,
        (Runs.run (System.step home) (System.new : System Process Callback) events).browser.Bridged mcallback own →
        ((Runs.run (System.step home) (System.new : System Process Callback) events).browser.step config
          own).received.length < 2 ^ 64 →
        ((Runs.run (System.step home) (System.new : System Process Callback) events).browser.step config
          own).Bridging mcallback := fun own fits small => inv.step accounted fits small
    cases event with
    | execute context name arguments => exact inv
    | released context => exact inv
    | browserReceives process react =>
      rw [System.step] at few ⊢
      split
      · exact inv
      · rename_i message next
        simp only [next] at few
        exact at_browser _ (allowed message next) few.2
    | rendererReceives process =>
      rw [System.step]
      split
      · exact inv
      · exact inv
    | rendererTask process => exact inv
    | perform call => exact at_browser (.perform call) allowed few.2
    | performElsewhere call => exact at_browser (.performElsewhere call) allowed few.2
    | browserTask => exact at_browser .runTask trivial few.2

theorem nil_or_single {Item : Type} {front : List Item} {item : Item} (first : front <+: [item]) :
    front = [] ∨ front = [item] := by
  rcases List.prefix_cons_iff.mp first with none | ⟨rest, whole, empty⟩
  · exact .inl none
  · rw [List.prefix_nil.mp empty] at whole
    exact .inr whole

/-- In every run in which managed code answers, a page is told about its query nothing, a
cancel, or the answer that managed code has given to this query, and after the answer
to a persistent query at most a cancel. -/
theorem page_answer (mcallback : Handler → Option (Question → Text)) (home : Int → Process)
    (events : List (SystemEvent Process Callback))
    (few : (Runs.run (System.step home) System.new events).Few)
    (bridged : Runs.EachStep (System.step home) System.new (Bridged mcallback) events) (process : Process)
    (query : Int × QueryMessage)
    (sent : query ∈ ((Runs.run (System.step home) (System.new : System Process Callback) events).renderer
      process).queries) :
    let system := Runs.run (System.step home) (System.new : System Process Callback) events
    let told := system.told process (RendererSide.keyOf query)
    told = [] ∨ told = [.canceled] ∨ ∃ queryId callback handler answer,
      (queryId, BrowserSide.infoOf query.1 query.2 callback handler) ∈ system.browser.handled ∧
        mcallback handler = some answer ∧
          (told = [.success (answer (BrowserSide.questionOf query.1 queryId query.2 callback handler))] ∨
            (query.2.persistent = true ∧ told =
              [.success (answer (BrowserSide.questionOf query.1 queryId query.2 callback handler)), .canceled])) := by
  intro system told
  have inv : Connected home system := connected_run home events few
  have bridging : system.browser.Bridging mcallback := bridging_run home events few bridged
  have once := ((inv.renderers process).ended query sent).2
  by_cases taken : ∃ entry ∈ system.browser.handled, entry.2.key = RendererSide.keyOf query
  · obtain ⟨entry, member, own⟩ := taken
    obtain ⟨other, received, answer, info, managed, accepted⟩ := bridging.answered entry member
    -- the query of the entry is this one
    have same : other = query := by
      have key : RendererSide.keyOf other = RendererSide.keyOf query := by
        rw [← own, info]
        rfl
      have lives := inv.homes process query sent
      have browsers : other.1 = query.1 := congrArg Key.browserId key
      have here : other ∈ system.browser.received.filter fun query => home query.1 = process :=
        List.mem_filter.mpr ⟨received, decide_eq_true (browsers ▸ lives)⟩
      rw [inv.read] at here
      exact List.inj_on_of_nodup_map ((inv.renderers process).asked_nodup (few.1 process))
        ((queries_sublist process).subset here) sent key
    subst same
    have known : (entry.1, BrowserSide.infoOf other.1 other.2 entry.2.callback entry.2.handler) ∈
        system.browser.handled := info ▸ member
    have heard : system.accepted entry.1 =
        [.success (answer (BrowserSide.questionOf other.1 entry.1 other.2 entry.2.callback entry.2.handler))] :=
      accepted
    have told := inv.told_handled process member
    rw [own] at told
    rcases told with part | ⟨front, part, canceled⟩
    · rw [heard] at part
      rcases nil_or_single part with none | answered
      · exact .inl none
      · exact .inr (.inr ⟨_, _, _, answer, known, managed, .inl answered⟩)
    · rw [heard] at part
      rcases nil_or_single part with rfl | rfl
      · exact .inr (.inl canceled)
      · refine .inr (.inr ⟨_, _, _, answer, known, managed, .inr ⟨?_, canceled⟩⟩)
        by_contra single
        have short := once (Bool.eq_false_of_not_eq_true single)
        have two : ((system.renderer process).told (RendererSide.keyOf other)).length = 2 :=
          congrArg List.length canceled
        omega
  · push Not at taken
    rcases nil_or_single (inv.told_unhandled process taken) with none | canceled
    · exact .inl none
    · exact .inr (.inl canceled)

section Example

/-- A page asks, managed code answers with the question, and the page hears it. -/
def greeting : List (SystemEvent Unit Nat) :=
  [.perform (.addHandler 3 false),
    .execute pageContext "cefQuery" [.object [("request", .string [104]), ("onSuccess", .function 5)]],
    .browserReceives () fun _ => ([.success 0 [104, 33]], true), .browserTask, .rendererReceives (),
    .rendererTask ()]

/-- Managed code answers with the question and an exclamation mark. -/
def exclaim : Handler → Option (Question → Text) := fun _ => some fun question => question.request ++ [33]

theorem greeting_bridged : Runs.EachStep (System.step fun _ => ()) (System.new : System Unit Nat)
    (Bridged exclaim) greeting := by
  refine .cons rfl (.cons trivial (.cons ?_ (.cons trivial (.cons trivial (.cons trivial Runs.eachStep_nil)))))
  intro message next handler
  have first : message = .query 7 ⟨1, true, 1, 1, [104], false⟩ := (Option.some.inj (next.symm.trans rfl))
  subst first
  rfl

theorem page_answer_greeting :
    let system := Runs.run (System.step fun _ => ()) (System.new : System Unit Nat) greeting
    system.told () ⟨7, 1, 1⟩ = [.success [104, 33]] ∧
      (system.told () ⟨7, 1, 1⟩ = [] ∨ system.told () ⟨7, 1, 1⟩ = [.canceled] ∨
        ∃ queryId callback handler answer,
          (queryId, BrowserSide.infoOf 7 ⟨1, true, 1, 1, [104], false⟩ callback handler) ∈ system.browser.handled ∧
            exclaim handler = some answer ∧
              (system.told () ⟨7, 1, 1⟩ = [.success (answer (BrowserSide.questionOf 7 queryId
                  ⟨1, true, 1, 1, [104], false⟩ callback handler))] ∨
                (false = true ∧ system.told () ⟨7, 1, 1⟩ = [.success (answer (BrowserSide.questionOf 7 queryId
                  ⟨1, true, 1, 1, [104], false⟩ callback handler)), .canceled]))) :=
  ⟨by decide, page_answer exclaim (fun _ => ()) greeting ⟨fun | () => by decide, by decide⟩ greeting_bridged ()
    (7, ⟨1, true, 1, 1, [104], false⟩) (by decide)⟩

end Example

end System

end CefBridge.Router
