import CefBridge.Router.Queries
import CefBridge.Library.Runs

/-!
# Pages, routers and handlers together

The browser process has one router and every renderer process has its own. Pages of a
browser run in the renderer process that is its home. A message that is sent to the
other side arrives there in the order of sending, some time later.

In any run of pages, handlers and threads, what a page is told about a request is what
the callback of its query was given, in order and without a gap, up to a point, and
maybe a cancel there. This holds while there are `Few` requests, so that no number
comes twice, and while a browser does not move to another renderer process.
-/

namespace CefBridge.Router

open Library

variable {Process Callback : Type} [DecidableEq Process]

/-- Both sides have the default names. -/
def config : CefMessageRouterConfig := {}

def Reply.toMessage (reply : Reply) : ProcessMessage :=
  (⟨reply.key.contextId, reply.key.requestId, reply.outcome⟩ : ReplyMessage).toMessage config

/-- The routers, and how many of the messages that were sent have arrived. -/
structure System (Process Callback : Type) where
  browser : BrowserSide
  renderer : Process → RendererSide Callback
  read : Process → Nat
  heard : Process → Nat

inductive SystemEvent (Process Callback : Type) where
  | execute (context : V8Context) (name : String) (arguments : List (V8Value Callback))
  | released (context : V8Context)
  | browserReceives (process : Process) (react : Reaction)
  | rendererReceives (process : Process)
  | rendererTask (process : Process)
  | perform (call : Call)
  | performElsewhere (call : Call)
  | browserTask

namespace System

variable (home : Int → Process)

def new : System Process Callback where
  browser := .new
  renderer := fun _ => .new
  read := fun _ => 0
  heard := fun _ => 0

/-- The replies for a renderer process. -/
def replies (system : System Process Callback) (process : Process) : List Reply :=
  system.browser.sent.filter fun reply => home reply.key.browserId = process

/-- Something happens to the router of a renderer process. -/
def atRenderer (system : System Process Callback) (process : Process)
    (event : RendererSide.Event Callback) : System Process Callback :=
  { system with
    renderer := Function.update system.renderer process ((system.renderer process).step config event) }

/-- Something happens to the router of the browser process. -/
def atBrowser (system : System Process Callback) (event : BrowserSide.Event) : System Process Callback :=
  { system with browser := system.browser.step config event }

def step (system : System Process Callback) : SystemEvent Process Callback → System Process Callback
  | .execute context name arguments =>
    system.atRenderer (home context.browserId) (.execute context name arguments)
  | .released context => system.atRenderer (home context.browserId) (.released context)
  | .browserReceives process react =>
    match (system.renderer process).sent[system.read process]? with
    | none => system
    | some message =>
      { system.atBrowser (.received message.browserId (message.toMessage config) react) with
        read := Function.update system.read process (system.read process + 1) }
  | .rendererReceives process =>
    match (system.replies home process)[system.heard process]? with
    | none => system
    | some reply =>
      { system.atRenderer process (.received reply.key.browserId reply.toMessage) with
        heard := Function.update system.heard process (system.heard process + 1) }
  | .rendererTask process => system.atRenderer process .runTask
  | .perform call => system.atBrowser (.perform call)
  | .performElsewhere call => system.atBrowser (.performElsewhere call)
  | .browserTask => system.atBrowser .runTask

section Invariant

variable {home}

/-- The queries among messages. -/
def queriesOf (messages : List PageMessage) : List (Int × QueryMessage) :=
  messages.filterMap fun
    | .query browserId message => some (browserId, message)
    | .cancel .. => none

theorem queriesOf_append (front back : List PageMessage) :
    queriesOf (front ++ back) = queriesOf front ++ queriesOf back := List.filterMap_append

/-- There have been fewer requests and queries than numbers. -/
def Few (system : System Process Callback) : Prop :=
  (∀ process, (system.renderer process).queries.length < 2 ^ 32) ∧ system.browser.received.length < 2 ^ 64

variable (home) in
/-- Every router is consistent, and what has arrived is what the other side has sent,
up to a point. -/
structure Connected (system : System Process Callback) : Prop where
  renderers : ∀ process, (system.renderer process).Consistent
  browser : system.browser.Accounted none
  homes : ∀ process, ∀ query ∈ (system.renderer process).queries, home query.1 = process
  readBound : ∀ process, system.read process ≤ (system.renderer process).sent.length
  read : ∀ process, system.browser.received.filter (fun query => home query.1 = process) =
    queriesOf ((system.renderer process).sent.take (system.read process))
  heardBound : ∀ process, system.heard process ≤ (system.replies home process).length
  heard : ∀ process, (system.renderer process).tasks.all =
    (system.replies home process).take (system.heard process)

theorem connected_new : Connected home (new : System Process Callback) where
  renderers := fun _ => RendererSide.consistent_new
  browser := BrowserSide.accounted_new
  homes := fun _ => List.forall_mem_nil _
  readBound := fun _ => Nat.le_refl _
  read := fun _ => rfl
  heardBound := fun _ => Nat.le_refl _
  heard := fun _ => rfl

omit [DecidableEq Process] in
theorem queries_sublist {system : System Process Callback} (process : Process) :
    (queriesOf ((system.renderer process).sent.take (system.read process))).Sublist
      (system.renderer process).queries :=
  (List.take_sublist _ _).filterMap _

/-- A request that has reached the browser process was made by a page, and its query has
been read. -/
theorem Connected.asked {system : System Process Callback} (inv : Connected home system) {key : Key}
    (known : key ∈ system.browser.requested) :
    key ∈ (queriesOf ((system.renderer (home key.browserId)).sent.take
      (system.read (home key.browserId)))).map RendererSide.keyOf := by
  obtain ⟨query, member, rfl⟩ := List.mem_map.mp known
  have here : query ∈ system.browser.received.filter fun other =>
      home other.1 = home (RendererSide.keyOf query).browserId :=
    List.mem_filter.mpr ⟨member, decide_eq_true rfl⟩
  rw [inv.read] at here
  exact List.mem_map_of_mem here

/-- What has been taken of a list stays when the list grows. -/
theorem take_of_grows {Item : Type} {items more : List Item} (grows : items <+: more) {count : Nat}
    (bound : count ≤ items.length) : more.take count = items.take count := by
  obtain ⟨rest, rfl⟩ := grows
  exact List.take_append_of_le_length bound

theorem atRenderer_self (system : System Process Callback) (process : Process)
    (event : RendererSide.Event Callback) :
    (system.atRenderer process event).renderer process = (system.renderer process).step config event :=
  Function.update_self ..

theorem atRenderer_other (system : System Process Callback) {process other : Process}
    (event : RendererSide.Event Callback) (apart : other ≠ process) :
    (system.atRenderer process event).renderer other = system.renderer other :=
  Function.update_of_ne apart ..

/-- An event of a renderer process keeps everything connected, if its tasks are still the
replies that have arrived. -/
theorem Connected.atRenderer {system : System Process Callback} (inv : Connected home system)
    {process : Process} {event : RendererSide.Event Callback}
    (expected : (system.renderer process).Expected config event)
    (own : ∀ context name arguments, event = .execute context name arguments →
      home context.browserId = process)
    (few : (system.atRenderer process event).Few) {heard : Process → Nat}
    (bound : ∀ other, heard other ≤ (system.replies home other).length)
    (arrived : ∀ other, ((system.atRenderer process event).renderer other).tasks.all =
      (system.replies home other).take (heard other)) :
    Connected home { system.atRenderer process event with heard := heard } := by
  have here := system.atRenderer_self process event
  have there : ∀ other, other ≠ process →
      (system.atRenderer process event).renderer other = system.renderer other :=
    fun other apart => system.atRenderer_other event apart
  have grows := RendererSide.sent_grows config (system.renderer process) event
  refine ⟨fun other => ?_, inv.browser, fun other query member => ?_, fun other => ?_, fun other => ?_,
    bound, arrived⟩
  · by_cases same : other = process
    · subst same
      have small := few.1 other
      simp only [here] at small ⊢
      exact (inv.renderers other).step config expected small
    · simp only [there other same]
      exact inv.renderers other
  · by_cases same : other = process
    · subst same
      simp only [here] at member
      rcases RendererSide.step_queries config _ event member with
        old | ⟨context, name, arguments, given, browser⟩
      · exact inv.homes other query old
      · rw [browser]
        exact own context name arguments given
    · simp only [there other same] at member
      exact inv.homes other query member
  · by_cases same : other = process
    · subst same
      simp only [here]
      exact (inv.readBound other).trans grows.length_le
    · simp only [there other same]
      exact inv.readBound other
  · by_cases same : other = process
    · subst same
      simp only [here]
      exact (inv.read other).trans (congrArg queriesOf (take_of_grows grows (inv.readBound other)).symm)
    · simp only [there other same]
      exact inv.read other

theorem Connected.atRenderer_silent {system : System Process Callback} (inv : Connected home system)
    {process : Process} {event : RendererSide.Event Callback}
    (silent : RendererSide.arriving config event = none)
    (expected : (system.renderer process).Expected config event)
    (own : ∀ context name arguments, event = .execute context name arguments →
      home context.browserId = process)
    (few : (system.atRenderer process event).Few) : Connected home (system.atRenderer process event) := by
  refine inv.atRenderer expected own few inv.heardBound fun other => ?_
  by_cases same : other = process
  · subst same
    rw [atRenderer_self, RendererSide.step_tasks, silent]
    exact (List.append_nil _).trans (inv.heard other)
  · rw [atRenderer_other _ _ same]
    exact inv.heard other

/-- An event of the browser process keeps everything connected, if it has read the queries
of the messages that have arrived. -/
theorem Connected.atBrowser {system : System Process Callback} (inv : Connected home system)
    {event : BrowserSide.Event} (fresh : system.browser.Fresh config event)
    (few : (system.atBrowser event).Few) {read : Process → Nat}
    (bound : ∀ process, read process ≤ (system.renderer process).sent.length)
    (arrived : ∀ process,
      (system.browser.received ++ (BrowserSide.arriving config event).toList).filter
          (fun query => home query.1 = process) =
        queriesOf ((system.renderer process).sent.take (read process))) :
    Connected home { system.atBrowser event with read := read } := by
  have grows : ∀ process, system.replies home process <+: (system.atBrowser event).replies home process :=
    fun process => (BrowserSide.step_sent config system.browser event).filter _
  refine ⟨inv.renderers, inv.browser.step config fresh few.2, inv.homes, bound, fun process => ?_,
    fun process => (inv.heardBound process).trans (grows process).length_le, fun process => ?_⟩
  · exact (congrArg (List.filter _) (BrowserSide.step_received config system.browser event)).trans
      (arrived process)
  · exact (inv.heard process).trans (take_of_grows (grows process) (inv.heardBound process)).symm

theorem Connected.atBrowser_silent {system : System Process Callback} (inv : Connected home system)
    {event : BrowserSide.Event} (silent : BrowserSide.arriving config event = none)
    (fresh : system.browser.Fresh config event) (few : (system.atBrowser event).Few) :
    Connected home (system.atBrowser event) := by
  refine inv.atBrowser fresh few inv.readBound fun process => ?_
  rw [silent]
  exact (congrArg _ (List.append_nil _)).trans (inv.read process)

section Messages

theorem names_apart : config.jsQueryFunction ≠ config.jsCancelFunction := by decide

theorem arriving_message (message : PageMessage) (react : Reaction) :
    BrowserSide.arriving config (.received message.browserId (message.toMessage config) react) =
      (queriesOf [message]).head? := by
  cases message with
  | query browserId query =>
    have named : ((PageMessage.query browserId query).toMessage config).name = config.queryMessageName := rfl
    rw [BrowserSide.arriving, if_pos named, PageMessage.toMessage, QueryMessage.ofArgs_toMessage]
    rfl
  | cancel browserId cancel =>
    have named : ((PageMessage.cancel browserId cancel).toMessage config).name ≠ config.queryMessageName :=
      messageName_apart names_apart
    rw [BrowserSide.arriving, if_neg named]
    rfl

theorem queriesOf_single (message : PageMessage) :
    (queriesOf [message]).head?.toList = queriesOf [message] := by
  cases message <;> rfl

/-- Messages that have been sent are those that have arrived, the next one, and others. -/
theorem queries_split {router : RendererSide Callback} {count : Nat} {message : PageMessage}
    (next : router.sent[count]? = some message) :
    router.sent.take (count + 1) = router.sent.take count ++ [message] ∧
      router.queries = queriesOf (router.sent.take count) ++
        (queriesOf [message] ++ queriesOf (router.sent.drop (count + 1))) := by
  have more : router.sent.take (count + 1) = router.sent.take count ++ [message] := by
    rw [List.take_add_one, next]
    rfl
  refine ⟨more, ?_⟩
  rw [← List.append_assoc, ← queriesOf_append, ← more, ← queriesOf_append, List.take_append_drop]
  rfl

/-- The next query of a renderer process is for a new request. -/
theorem Connected.fresh {system : System Process Callback} (inv : Connected home system)
    {process : Process} {message : PageMessage}
    (next : (system.renderer process).sent[system.read process]? = some message) (react : Reaction)
    (few : system.Few) :
    system.browser.Fresh config (.received message.browserId (message.toMessage config) react) := by
  obtain ⟨-, whole⟩ := queries_split next
  intro queried known
  cases message with
  | cancel browserId cancel => exact messageName_apart names_apart queried
  | query browserId query =>
    simp only [PageMessage.toMessage, QueryMessage.ofArgs_toMessage] at known
    have asked := inv.asked known
    have mine : (browserId, query) ∈ queriesOf [.query browserId query] := List.mem_singleton_self _
    have own : home browserId = process :=
      inv.homes process (browserId, query) (whole ▸ List.mem_append_right _ (List.mem_append_left _ mine))
    simp only [PageMessage.browserId, RendererSide.keyOf, own] at asked
    have distinct := (inv.renderers process).asked_nodup (few.1 process)
    rw [RendererSide.asked, whole, List.map_append, List.map_append] at distinct
    exact List.disjoint_of_nodup_append distinct asked (List.mem_append_left _ (List.mem_map_of_mem mine))

/-- The next message of a renderer process arrives in the browser process. -/
theorem Connected.browserReceives {system : System Process Callback} (inv : Connected home system)
    {process : Process} {message : PageMessage}
    (next : (system.renderer process).sent[system.read process]? = some message) (react : Reaction)
    (few : (system.atBrowser (.received message.browserId (message.toMessage config) react)).Few)
    (before : system.Few) :
    Connected home
      { system.atBrowser (.received message.browserId (message.toMessage config) react) with
        read := Function.update system.read process (system.read process + 1) } := by
  obtain ⟨more, whole⟩ := queries_split next
  obtain ⟨less, -⟩ := List.getElem?_eq_some_iff.mp next
  have mine : ∀ query ∈ queriesOf [message], home query.1 = process := fun query member =>
    inv.homes process query (whole ▸ List.mem_append_right _ (List.mem_append_left _ member))
  refine inv.atBrowser (inv.fresh next react before) few ?_ ?_
  · intro other
    by_cases same : other = process
    · subst same
      rw [Function.update_self]
      exact less
    · rw [Function.update_of_ne same]
      exact inv.readBound other
  · intro other
    rw [arriving_message, queriesOf_single, List.filter_append, inv.read]
    by_cases same : other = process
    · subst same
      rw [Function.update_self, more, queriesOf_append]
      congr 1
      exact List.filter_eq_self.mpr fun query member => decide_eq_true (mine query member)
    · rw [Function.update_of_ne same]
      refine (congrArg _ ?_).trans (List.append_nil _)
      exact List.filter_eq_nil_iff.mpr fun query member found =>
        same (of_decide_eq_true found ▸ mine query member)

/-- The next reply for a renderer process arrives there. -/
theorem Connected.rendererReceives {system : System Process Callback} (inv : Connected home system)
    {process : Process} {reply : Reply}
    (next : (system.replies home process)[system.heard process]? = some reply)
    (few : (system.atRenderer process (.received reply.key.browserId reply.toMessage)).Few) :
    Connected home
      { system.atRenderer process (.received reply.key.browserId reply.toMessage) with
        heard := Function.update system.heard process (system.heard process + 1) } := by
  have member := List.mem_of_getElem? next
  obtain ⟨sent, own⟩ := List.mem_filter.mp member
  have arrives : RendererSide.arriving config
      (.received reply.key.browserId reply.toMessage : RendererSide.Event Callback) = some reply := by
    have named : reply.toMessage.name = config.queryMessageName := rfl
    rw [RendererSide.arriving, if_pos named, Reply.toMessage, ReplyMessage.ofArgs_toMessage]
  refine inv.atRenderer ?_ ?_ few ?_ ?_
  · intro _
    have asked := inv.asked (inv.browser.sentKnown reply sent)
    rw [of_decide_eq_true own] at asked
    simp only [Reply.toMessage, ReplyMessage.ofArgs_toMessage]
    exact (queries_sublist process).map RendererSide.keyOf |>.subset asked
  · intro context name arguments impossible
    cases impossible
  · intro other
    by_cases same : other = process
    · subst same
      rw [Function.update_self]
      exact (List.getElem?_eq_some_iff.mp next).1
    · rw [Function.update_of_ne same]
      exact inv.heardBound other
  · intro other
    by_cases same : other = process
    · subst same
      rw [atRenderer_self, Function.update_self, RendererSide.step_tasks, arrives, inv.heard,
        List.take_add_one, next]
    · rw [atRenderer_other _ _ same, Function.update_of_ne same]
      exact inv.heard other

end Messages

theorem few_of_atRenderer {system : System Process Callback} {process : Process}
    {event : RendererSide.Event Callback} (few : (system.atRenderer process event).Few) : system.Few := by
  refine ⟨fun other => ?_, few.2⟩
  have small := few.1 other
  by_cases same : other = process
  · subst same
    rw [atRenderer_self] at small
    exact (RendererSide.queries_grow config _ event).length_le.trans_lt small
  · rwa [atRenderer_other _ _ same] at small

omit [DecidableEq Process] in
theorem few_of_atBrowser {system : System Process Callback} {event : BrowserSide.Event}
    (few : (system.atBrowser event).Few) : system.Few := by
  refine ⟨few.1, ?_⟩
  have small := few.2
  rw [atBrowser, BrowserSide.step_received, List.length_append] at small
  exact (Nat.le_add_right _ _).trans_lt small

/-- There were few requests and queries before as well. -/
theorem few_of_step (home : Int → Process) (system : System Process Callback)
    (event : SystemEvent Process Callback) (few : (system.step home event).Few) : system.Few := by
  cases event with
  | execute context name arguments => exact few_of_atRenderer few
  | released context => exact few_of_atRenderer few
  | browserReceives process react =>
    rw [step] at few
    split at few
    · exact few
    · exact few_of_atBrowser few
  | rendererReceives process =>
    rw [step] at few
    split at few
    · exact few
    · exact few_of_atRenderer few
  | rendererTask process => exact few_of_atRenderer few
  | perform call => exact few_of_atBrowser few
  | performElsewhere call => exact few_of_atBrowser few
  | browserTask => exact few_of_atBrowser few

/-- Every event keeps everything connected, as long as there are enough numbers. -/
theorem Connected.step {system : System Process Callback} (inv : Connected home system)
    (event : SystemEvent Process Callback) (few : (system.step home event).Few) :
    Connected home (system.step home event) := by
  cases event with
  | execute context name arguments =>
    refine inv.atRenderer_silent rfl trivial ?_ few
    rintro _ _ _ ⟨rfl, rfl, rfl⟩
    rfl
  | released context =>
    refine inv.atRenderer_silent rfl trivial ?_ few
    rintro _ _ _ ⟨⟩
  | browserReceives process react =>
    have before := few_of_step home system _ few
    rw [System.step] at few ⊢
    cases next : (system.renderer process).sent[system.read process]? with
    | none => exact inv
    | some message =>
      simp only [next] at few ⊢
      exact inv.browserReceives next react few before
  | rendererReceives process =>
    rw [System.step] at few ⊢
    cases next : (system.replies home process)[system.heard process]? with
    | none => exact inv
    | some reply =>
      simp only [next] at few ⊢
      exact inv.rendererReceives next few
  | rendererTask process =>
    refine inv.atRenderer_silent rfl trivial ?_ few
    rintro _ _ _ ⟨⟩
  | perform call => exact inv.atBrowser_silent rfl trivial few
  | performElsewhere call => exact inv.atBrowser_silent rfl trivial few
  | browserTask => exact inv.atBrowser_silent rfl trivial few

/-- Every run keeps everything connected, as long as there are enough numbers. -/
theorem connected_run (home : Int → Process) (events : List (SystemEvent Process Callback))
    (few : (Runs.run (System.step home) System.new events).Few) :
    Connected home (Runs.run (System.step home) System.new events) := by
  induction events using List.reverseRecOn with
  | nil => exact connected_new
  | append_singleton events event ih =>
    rw [Runs.run_concat] at few ⊢
    exact (ih (few_of_step home _ event few)).step event few

/-- An event of the system is none for the browser process, or one that finds what it
expects. -/
theorem Connected.browser_step {system : System Process Callback} (inv : Connected home system)
    (event : SystemEvent Process Callback) (few : (system.step home event).Few) :
    (system.step home event).browser = system.browser ∨
      ∃ own, (system.step home event).browser = system.browser.step config own ∧
        system.browser.Fresh config own := by
  have before := few_of_step home system event few
  cases event with
  | execute context name arguments => exact .inl rfl
  | released context => exact .inl rfl
  | browserReceives process react =>
    rw [System.step]
    cases next : (system.renderer process).sent[system.read process]? with
    | none => exact .inl rfl
    | some message => exact .inr ⟨_, rfl, inv.fresh next react before⟩
  | rendererReceives process =>
    rw [System.step]
    left
    split <;> rfl
  | rendererTask process => exact .inl rfl
  | perform call => exact .inr ⟨.perform call, rfl, trivial⟩
  | performElsewhere call => exact .inr ⟨.performElsewhere call, rfl, trivial⟩
  | browserTask => exact .inr ⟨.runTask, rfl, trivial⟩

/-- What the router of the browser process keeps on its own holds in every run. -/
theorem browser_run {good : BrowserSide → Prop} (first : good .new)
    (kept : ∀ router event, router.Accounted none → router.Fresh config event →
      (router.step config event).received.length < 2 ^ 64 → good router → good (router.step config event))
    (home : Int → Process) (events : List (SystemEvent Process Callback))
    (few : (Runs.run (System.step home) System.new events).Few) :
    good (Runs.run (System.step home) (System.new : System Process Callback) events).browser := by
  induction events using List.reverseRecOn with
  | nil => exact first
  | append_singleton events event ih =>
    rw [Runs.run_concat] at few ⊢
    have before := few_of_step home _ event few
    have inv := connected_run home events before
    rcases inv.browser_step event few with same | ⟨own, stepped, fresh⟩
    · rw [same]
      exact ih before
    · rw [stepped]
      exact kept _ own inv.browser fresh (stepped ▸ few.2) (ih before)

end Invariant

section Delivery

variable {home}

/-- The outcomes that a page was told about a request. -/
def told (system : System Process Callback) (process : Process) (key : Key) : List Outcome :=
  (system.renderer process).told key

/-- The outcomes that the callback of a query has accepted. -/
def accepted (system : System Process Callback) (queryId : Int) : List Outcome :=
  BrowserSide.answers queryId system.browser.tasks.all

theorem replies_own (system : System Process Callback) (key : Key) :
    outcomes key (system.replies home (home key.browserId)) = outcomes key system.browser.sent := by
  rw [replies, outcomes, outcomes, List.filter_filter]
  congr 1
  apply List.filter_congr
  intro reply _
  by_cases own : reply.key = key <;> simp [own]

theorem replies_other (system : System Process Callback) {process : Process} {key : Key}
    (other : home key.browserId ≠ process) : outcomes key (system.replies home process) = [] := by
  apply outcomes_eq_nil
  rintro reply member rfl
  exact other (of_decide_eq_true (List.mem_filter.mp member).2)

/-- A page is told a part of what was sent to its process. -/
theorem Connected.told_part {system : System Process Callback} (inv : Connected home system)
    (process : Process) (key : Key) :
    system.told process key <+: outcomes key (system.replies home process) := by
  have arrived := (inv.renderers process).ordered key
  have taken := outcomes_grow key (system.renderer process).tasks.prefix_all
  rw [inv.heard] at taken
  refine (arrived.trans taken).trans (outcomes_grow key ?_)
  exact List.take_prefix _ _

/-- Other processes are told nothing. -/
theorem Connected.told_other {system : System Process Callback} (inv : Connected home system)
    {process : Process} {key : Key} (other : home key.browserId ≠ process) :
    system.told process key = [] := by
  have part := inv.told_part process key
  rw [system.replies_other other] at part
  exact List.prefix_nil.mp part

/-- About a query that a handler has taken a page is told what its callback has accepted,
in order, and maybe a cancel. -/
theorem Connected.told_handled {system : System Process Callback} (inv : Connected home system)
    (process : Process) {queryId : Int} {info : QueryInfo}
    (handled : (queryId, info) ∈ system.browser.handled) :
    system.told process info.key <+: system.accepted queryId ∨
      ∃ front, front <+: system.accepted queryId ∧ system.told process info.key = front ++ [.canceled] := by
  have part := inv.told_part process info.key
  by_cases own : home info.key.browserId = process
  · subst own
    rw [replies_own] at part
    have more : BrowserSide.answers queryId system.browser.tasks.past <+: system.accepted queryId :=
      system.browser.tasks.prefix_all.filterMap _
    rcases inv.browser.ended _ handled with whole | ⟨front, first, whole⟩
    · exact .inl (part.trans (whole.trans more))
    · rw [whole] at part
      rcases List.prefix_concat_iff.mp part with all | some
      · exact .inr ⟨front, first.trans more, all⟩
      · exact .inl (some.trans (first.trans more))
  · rw [inv.told_other own]
    exact .inl List.nil_prefix

/-- About a query that no handler has taken a page is told a cancel at most. -/
theorem Connected.told_unhandled {system : System Process Callback} (inv : Connected home system)
    (process : Process) {key : Key} (unhandled : ∀ query ∈ system.browser.handled, query.2.key ≠ key) :
    system.told process key <+: [.canceled] := by
  have part := inv.told_part process key
  by_cases own : home key.browserId = process
  · subst own
    rw [replies_own] at part
    by_cases known : key ∈ system.browser.requested
    · have refused := inv.browser.refused key known fun among => by
        obtain ⟨query, member, same⟩ := List.mem_map.mp among
        exact unhandled query member same
      rw [refused] at part
      simpa using part
    · have unsent : outcomes key system.browser.sent = [] := by
        apply outcomes_eq_nil
        rintro reply member rfl
        exact known (inv.browser.sentKnown reply member)
      rw [unsent] at part
      exact part.trans List.nil_prefix
  · rw [inv.told_other own]
    exact List.nil_prefix

section Example

def pageContext : V8Context := ⟨0, 7, 1, true⟩

/-- A page subscribes, the handler answers twice, and the subscription is canceled when
the page has got one of the answers. -/
def subscription : List (SystemEvent Unit Nat) :=
  [.perform (.addHandler 3 false),
    .execute pageContext "cefQuery"
      [.object [("request", .string [104]), ("onSuccess", .function 5), ("persistent", .bool true)]],
    .browserReceives () fun _ => ([.success 0 [1], .success 0 [2]], true),
    .browserTask, .rendererReceives (), .rendererTask (),
    .perform (.cancelPending none none), .browserTask, .rendererReceives (), .rendererTask ()]

theorem subscription_few :
    (Runs.run (System.step fun _ => ()) (System.new : System Unit Nat) subscription).Few :=
  ⟨fun | () => by decide, by decide⟩

end Example

/-- A page that asks once is told at most once, and nobody is told anything after a failure. -/
theorem told_once (home : Int → Process) (events : List (SystemEvent Process Callback))
    (few : (Runs.run (System.step home) System.new events).Few) (process : Process)
    (query : Int × QueryMessage)
    (sent : query ∈ ((Runs.run (System.step home) (System.new : System Process Callback) events).renderer
      process).queries) :
    let told := (Runs.run (System.step home) (System.new : System Process Callback) events).told process
      (RendererSide.keyOf query)
    (∀ outcome ∈ told.dropLast, outcome.isSuccess = true) ∧ (query.2.persistent = false → told.length ≤ 1) :=
  ((connected_run home events few).renderers process).ended query sent

theorem told_once_subscription :
    (∀ outcome ∈ ((Runs.run (System.step fun _ => ()) (System.new : System Unit Nat) subscription).told ()
        ⟨7, 1, 1⟩).dropLast, outcome.isSuccess = true) ∧
      (true = false → ((Runs.run (System.step fun _ => ()) (System.new : System Unit Nat) subscription).told ()
        ⟨7, 1, 1⟩).length ≤ 1) :=
  told_once (fun _ => ()) subscription subscription_few () (7, ⟨1, true, 1, 1, [104], true⟩) (by decide)

end Delivery

end System

end CefBridge.Router
