import CefBridge.Library.Feed
import CefBridge.Router.InfoMap
import CefBridge.Router.RendererSide

/-!
# The router of the browser process

A query that comes is shown to the handlers in turn until one of them takes it. It is
then kept until its callback is executed, the renderer process cancels it, or it is
canceled with its browser or its handler. Callbacks do not answer at once: they post
a task to the same thread, and when its turn comes the query may be gone.

What a handler does while it is asked is a list of calls that it makes and whether it
takes the query. What it does when a query of its own is canceled is left out. Beside its fields the router has what it was sent, what it has sent,
and what became of the queries that were taken.
-/

namespace CefBridge.Router

open Library

/-- A handler, by its address. The set of handlers is in the order of addresses. -/
abbrev Handler := Nat

/-- The callback of a query. It has its router until it is used up or detached. -/
structure CallbackImpl where
  browserId : Int
  queryId : Int
  persistent : Bool
  router : Bool
  deriving DecidableEq

/-- A pending query. Callbacks are numbered as they are made. -/
structure QueryInfo where
  browserId : Int
  frameId : BitVec 64
  isMainFrame : Bool
  contextId : Int
  requestId : Int
  persistent : Bool
  callback : Nat
  handler : Handler
  deriving DecidableEq

/-- The request of a renderer process that a query is for. -/
def QueryInfo.key (info : QueryInfo) : Key := ⟨info.browserId, info.contextId, info.requestId⟩

/-- What is posted to the thread of the router. -/
inductive UiTask where
  | success (callback : Nat) (response : Text)
  | failure (callback : Nat) (errorCode : Int) (errorMessage : Text)
  | onCallbackSuccess (browserId queryId : Int) (response : Text)
  | onCallbackFailure (browserId queryId errorCode : Int) (errorMessage : Text)
  | cancelPendingFor (browserId : Option Int) (handler : Option Handler) (notifyRenderer : Bool)
  deriving DecidableEq

/-- A handler was asked. -/
structure Question where
  handler : Handler
  browserId : Int
  frameId : BitVec 64
  isMainFrame : Bool
  queryId : Int
  request : Text
  persistent : Bool
  callback : Nat
  deriving DecidableEq

structure BrowserSide where
  queryIdGenerator : Int
  handlerSet : SortedMap Handler Unit
  browserQueryInfoMap : BrowserInfoMap Int QueryInfo
  callbacks : List CallbackImpl
  tasks : Feed UiTask
  received : List (Int × QueryMessage)
  sent : List Reply
  questions : List Question
  handled : List (Int × QueryInfo)
  completed : List Int
  canceled : List (Int × Handler)
  /-- The requests whose queries were canceled and whose pages were not told. -/
  dropped : List Key

/-- What code of the browser process can ask of the router and its callbacks. -/
inductive Call where
  | success (callback : Nat) (response : Text)
  | failure (callback : Nat) (errorCode : Int) (errorMessage : Text)
  | addHandler (handler : Handler) (first : Bool)
  | removeHandler (handler : Handler)
  | cancelPending (browserId : Option Int) (handler : Option Handler)
  | onBeforeClose (browserId : Int)
  | onRenderProcessTerminated (browserId : Int)
  | onBeforeBrowse (browserId : Int) (isMain : Bool)
  deriving DecidableEq

/-- What each handler does when it is asked: the calls that it makes, and whether it
takes the query. -/
abbrev Reaction := Handler → List Call × Bool

namespace BrowserSide

def new : BrowserSide where
  queryIdGenerator := kReservedId
  handlerSet := .empty
  browserQueryInfoMap := .empty
  callbacks := []
  tasks := .empty
  received := []
  sent := []
  questions := []
  handled := []
  completed := []
  canceled := []
  dropped := []

section Queries

/-- Send an outcome for a query. -/
def send (router : BrowserSide) (key : Key) (outcome : Outcome) : BrowserSide :=
  { router with sent := router.sent ++ [⟨key, outcome⟩] }

def sendQuerySuccess (router : BrowserSide) (info : QueryInfo) (response : Text) : BrowserSide :=
  router.send info.key (.success response)

def sendQueryFailure (router : BrowserSide) (info : QueryInfo) (errorCode : Int) (errorMessage : Text) :
    BrowserSide :=
  router.send info.key (.failure errorCode errorMessage)

/-- Send the outcome that a callback was given. -/
def sendQueryOutcome (router : BrowserSide) (info : QueryInfo) : Outcome → BrowserSide
  | .success response => router.sendQuerySuccess info response
  | .failure errorCode errorMessage => router.sendQueryFailure info errorCode errorMessage

/-- Invalidate a callback. -/
def detach (router : BrowserSide) (callback : Nat) : BrowserSide :=
  { router with callbacks := router.callbacks.modify callback fun impl => { impl with router := false } }

/-- Cancel a query that has not been sent to a handler. -/
def cancelUnhandledQuery (router : BrowserSide) (browserId contextId requestId : Int) : BrowserSide :=
  router.send ⟨browserId, contextId, requestId⟩ (.failure kCanceledErrorCode kCanceledErrorMessage)

/-- Cancel a query that has already been sent to a handler. Its handler is told so, and must not
use the callback then: no calls come back from it. -/
def cancelQuery (notifyRenderer : Bool) (router : BrowserSide) (_ : Int) (queryId : Int)
    (info : QueryInfo) : BrowserSide :=
  let router := if notifyRenderer then
    router.sendQueryFailure info kCanceledErrorCode kCanceledErrorMessage
    else { router with dropped := router.dropped ++ [info.key] }
  detach { router with canceled := router.canceled ++ [(queryId, info.handler)] } info.callback

/-- Cancel all pending queries of a browser or a handler, or all. -/
def cancelPendingFor (router : BrowserSide) (browserId : Option Int) (handler : Option Handler)
    (notifyRenderer : Bool) : BrowserSide :=
  if router.browserQueryInfoMap.isEmpty then router
  else
    let visitor := BrowserInfoMap.selectAll
      (fun _ _ info => handler.all fun handler => info.handler = handler) (cancelQuery notifyRenderer)
    let (after, map) := match browserId with
      | some browserId => router.browserQueryInfoMap.findAllOf browserId visitor router
      | none => router.browserQueryInfoMap.findAll visitor router
    { after with browserQueryInfoMap := map }

/-- Cancel a query by the numbers of the renderer process, or all queries of a context. The
walk stops at the first one if only one is meant. -/
def cancelPendingRequest (router : BrowserSide) (browserId contextId requestId : Int) : BrowserSide :=
  let visitor : Visitor BrowserSide Int QueryInfo := fun router browserId queryId info =>
    if info.contextId = contextId ∧ (requestId = kReservedId ∨ info.requestId = requestId) then
      (cancelQuery false router browserId queryId info, true, requestId = kReservedId)
    else (router, false, true)
  let (after, map) := router.browserQueryInfoMap.findAllOf browserId visitor router
  { after with browserQueryInfoMap := map }

def getQueryInfo (router : BrowserSide) (browserId queryId : Int) (alwaysRemove : Bool) :
    Option QueryInfo × BrowserInfoMap Int QueryInfo :=
  let (_, info, map) := router.browserQueryInfoMap.find
    (fun state _ _ info => (state, alwaysRemove || !info.persistent, true)) () browserId queryId
  (info, map)

/-- Find the query of a callback and send its outcome. -/
def onCallback (router : BrowserSide) (browserId queryId : Int) (alwaysRemove : Bool) (outcome : Outcome) :
    BrowserSide :=
  match router.getQueryInfo browserId queryId alwaysRemove with
  | (none, _) => router
  | (some info, map) =>
    sendQueryOutcome { router with
      browserQueryInfoMap := map
      completed := router.completed ++ if alwaysRemove || !info.persistent then [queryId] else [] } info outcome

/-- Called by a callback on success. -/
def onCallbackSuccess (router : BrowserSide) (browserId queryId : Int) (response : Text) : BrowserSide :=
  router.onCallback browserId queryId false (.success response)

/-- Called by a callback on failure. -/
def onCallbackFailure (router : BrowserSide) (browserId queryId errorCode : Int) (errorMessage : Text) :
    BrowserSide :=
  router.onCallback browserId queryId true (.failure errorCode errorMessage)

end Queries

section Calls

def post (router : BrowserSide) (task : UiTask) : BrowserSide :=
  { router with tasks := router.tasks.put task }

/-- `CallbackImpl::Success` on the thread of the router. -/
def success (router : BrowserSide) (callback : Nat) (response : Text) : BrowserSide :=
  match router.callbacks[callback]? with
  | some impl =>
    if impl.router then
      let router := router.post (.onCallbackSuccess impl.browserId impl.queryId response)
      if impl.persistent then router else router.detach callback
    else router
  | none => router

/-- `CallbackImpl::Failure` on the thread of the router. -/
def failure (router : BrowserSide) (callback : Nat) (errorCode : Int) (errorMessage : Text) :
    BrowserSide :=
  match router.callbacks[callback]? with
  | some impl =>
    if impl.router then
      (router.post (.onCallbackFailure impl.browserId impl.queryId errorCode errorMessage)).detach callback
    else router
  | none => router

/-- The place that is asked for is only a hint to a set, which keeps its order. -/
def addHandler (router : BrowserSide) (handler : Handler) (_first : Bool) : BrowserSide × Bool :=
  if (router.handlerSet.find handler).isNone then
    ({ router with handlerSet := router.handlerSet.insert handler () }, true)
  else (router, false)

def removeHandler (router : BrowserSide) (handler : Handler) : BrowserSide × Bool :=
  if (router.handlerSet.find handler).isSome then
    (cancelPendingFor { router with handlerSet := router.handlerSet.erase handler } none (some handler) true,
      true)
  else (router, false)

/-- A call on the thread of the router. -/
def perform (router : BrowserSide) : Call → BrowserSide
  | .success callback response => router.success callback response
  | .failure callback errorCode errorMessage => router.failure callback errorCode errorMessage
  | .addHandler handler first => (router.addHandler handler first).1
  | .removeHandler handler => (router.removeHandler handler).1
  | .cancelPending browserId handler => router.cancelPendingFor browserId handler true
  | .onBeforeClose browserId => router.cancelPendingFor (some browserId) none false
  | .onRenderProcessTerminated browserId => router.cancelPendingFor (some browserId) none false
  | .onBeforeBrowse browserId isMain =>
    if isMain then router.cancelPendingFor (some browserId) none false else router

/-- What a call on another thread posts, if it may be made there. -/
def posted : Call → Option UiTask
  | .success callback response => some (.success callback response)
  | .failure callback errorCode errorMessage => some (.failure callback errorCode errorMessage)
  | .addHandler .. => none
  | .removeHandler _ => none
  | .cancelPending browserId handler => some (.cancelPendingFor browserId handler true)
  | .onBeforeClose browserId => some (.cancelPendingFor (some browserId) none false)
  | .onRenderProcessTerminated browserId => some (.cancelPendingFor (some browserId) none false)
  | .onBeforeBrowse browserId isMain =>
    if isMain then some (.cancelPendingFor (some browserId) none false) else none

/-- A call on another thread. -/
def performElsewhere (router : BrowserSide) (call : Call) : BrowserSide :=
  match posted call with
  | some task => router.post task
  | none => router

/-- The thread gets to the next task that was posted. -/
def runTask (router : BrowserSide) : BrowserSide :=
  match router.tasks.next with
  | none => router
  | some (task, tasks) =>
    let router := { router with tasks := tasks }
    match task with
    | .success callback response => router.success callback response
    | .failure callback errorCode errorMessage => router.failure callback errorCode errorMessage
    | .onCallbackSuccess browserId queryId response => router.onCallbackSuccess browserId queryId response
    | .onCallbackFailure browserId queryId errorCode errorMessage =>
      router.onCallbackFailure browserId queryId errorCode errorMessage
    | .cancelPendingFor browserId handler notifyRenderer =>
      router.cancelPendingFor browserId handler notifyRenderer

end Calls

section Messages

/-- Ask handlers in turn until one takes the query. -/
def ask (react : Reaction) (question : Handler → Question) : List Handler → BrowserSide →
    BrowserSide × Option Handler
  | [], router => (router, none)
  | handler :: handlers, router =>
    let router := { router with questions := router.questions ++ [question handler] }
    let router := (react handler).1.foldl perform router
    if (react handler).2 then (router, some handler) else ask react question handlers router

/-- A query has come and its callback is made. -/
def startQuery (router : BrowserSide) (browserId : Int) (query : QueryMessage) : BrowserSide :=
  let queryId := Counter.next 64 router.queryIdGenerator
  { router with
    queryIdGenerator := queryId
    callbacks := router.callbacks ++ [⟨browserId, queryId, query.persistent, true⟩]
    received := router.received ++ [(browserId, query)] }

/-- What a handler is asked. -/
def questionOf (browserId queryId : Int) (query : QueryMessage) (callback : Nat) (handler : Handler) :
    Question where
  handler := handler
  browserId := browserId
  frameId := query.frameId
  isMainFrame := query.isMainFrame
  queryId := queryId
  request := query.request
  persistent := query.persistent
  callback := callback

/-- What is kept of a query that a handler has taken. -/
def infoOf (browserId : Int) (query : QueryMessage) (callback : Nat) (handler : Handler) : QueryInfo where
  browserId := browserId
  frameId := query.frameId
  isMainFrame := query.isMainFrame
  contextId := query.contextId
  requestId := query.requestId
  persistent := query.persistent
  callback := callback
  handler := handler

/-- Keep a query until its callback executes, or cancel it if no handler has taken it. -/
def finishQuery (browserId queryId : Int) (query : QueryMessage) (callback : Nat) :
    BrowserSide × Option Handler → BrowserSide
  | (router, some handler) =>
    let info := infoOf browserId query callback handler
    { router with
      browserQueryInfoMap := router.browserQueryInfoMap.add browserId queryId info
      handled := router.handled ++ [(queryId, info)] }
  | (router, none) =>
    (router.detach callback).cancelUnhandledQuery browserId query.contextId query.requestId

/-- A query comes. The handlers are copied before they are asked, as they may be added or
removed meanwhile. -/
def onQuery (router : BrowserSide) (browserId : Int) (query : QueryMessage) (react : Reaction) :
    BrowserSide :=
  if router.handlerSet.entries = [] then
    cancelUnhandledQuery { router with received := router.received ++ [(browserId, query)] } browserId
      query.contextId query.requestId
  else
    let queryId := Counter.next 64 router.queryIdGenerator
    let callback := router.callbacks.length
    finishQuery browserId queryId query callback
      (ask react (questionOf browserId queryId query callback) (router.handlerSet.entries.map Prod.fst)
        (router.startQuery browserId query))

/-- Returns true if the message is handled by the router. -/
def onProcessMessageReceived (config : CefMessageRouterConfig) (router : BrowserSide) (browserId : Int)
    (message : ProcessMessage) (react : Reaction) : BrowserSide × Bool :=
  if message.name = config.queryMessageName then
    (router.onQuery browserId (QueryMessage.ofArgs message.args) react, true)
  else if message.name = config.cancelMessageName then
    let cancel := CancelMessage.ofArgs message.args
    (router.cancelPendingRequest browserId cancel.contextId cancel.requestId, true)
  else (router, false)

/-- The number of pending queries, of a browser and a handler if they are given. The source
casts it to an `int`, which it fits while there are fewer than `2 ^ 31` queries. -/
def getPendingCount (router : BrowserSide) (browserId : Option Int) (handler : Option Handler) : Nat :=
  if router.browserQueryInfoMap.isEmpty then 0
  else match handler with
    | some handler =>
      let visitor := BrowserInfoMap.tally fun _ _ (info : QueryInfo) => info.handler = handler
      match browserId with
      | some browserId => (router.browserQueryInfoMap.findAllOf browserId visitor 0).1
      | none => (router.browserQueryInfoMap.findAll visitor 0).1
    | none => match browserId with
      | some browserId => router.browserQueryInfoMap.sizeOf browserId
      | none => router.browserQueryInfoMap.size

end Messages

end BrowserSide

end CefBridge.Router
