import CefBridge.Library.Feed
import CefBridge.Router.InfoMap
import CefBridge.Router.Messages

/-!
# The router of a renderer process

A page makes a query through a function of its window and can cancel it through
another one. The router numbers contexts and requests, keeps the callbacks of every
request that is pending, and sends queries and cancels to the browser process. A reply
that comes is posted to the same thread, and when its turn comes it finds the request
or finds it gone.

Beside its fields the router has what it has sent and which replies found their
request, so that statements can speak of them.
-/

namespace CefBridge.Router

open Library

/-- A JavaScript value, as far as the functions look at one. A member that an object does
not have reads as `other`. -/
inductive V8Value (Function : Type) where
  | string (value : Text)
  | bool (value : Bool)
  | int (value : Int)
  | function (value : Function)
  | object (members : List (String × V8Value Function))
  | other

/-- The members of a value that is an object. A function is one as well. -/
def V8Value.members {Function : Type} : V8Value Function → Option (List (String × V8Value Function))
  | .object members => some members
  | .function _ => some []
  | _ => none

/-- A context of JavaScript, and the frame and the browser that it is in. -/
structure V8Context where
  identity : Nat
  browserId : Int
  frameId : BitVec 64
  isMain : Bool
  deriving DecidableEq

structure RequestInfo (Function : Type) where
  persistent : Bool
  successCallback : Option Function
  failureCallback : Option Function

/-- A message that a renderer process sends for a browser. -/
inductive PageMessage where
  | query (browserId : Int) (message : QueryMessage)
  | cancel (browserId : Int) (message : CancelMessage)
  deriving DecidableEq

def PageMessage.browserId : PageMessage → Int
  | .query browserId _ => browserId
  | .cancel browserId _ => browserId

def PageMessage.toMessage (config : CefMessageRouterConfig) : PageMessage → ProcessMessage
  | .query _ message => message.toMessage config
  | .cancel _ message => message.toMessage config

/-- The request that a message asks for. -/
def PageMessage.asks : PageMessage → Option Key
  | .query browserId message => some ⟨browserId, message.contextId, message.requestId⟩
  | .cancel .. => none

/-- A reply to a request. -/
structure Reply where
  key : Key
  outcome : Outcome
  deriving DecidableEq

/-- A reply that found its request, and the function that was called with it. -/
structure Delivery (Function : Type) extends Reply where
  called : Option (V8Context × Function)

structure RendererSide (Function : Type) where
  contextIdGenerator : Int
  requestIdGenerator : Int
  browserRequestInfoMap : BrowserInfoMap (Int ×ₗ Int) (RequestInfo Function)
  contextMap : SortedMap Int V8Context
  /-- The number that the functions of a context keep for it. -/
  handlerContextId : V8Context → Int
  sent : List PageMessage
  tasks : Feed Reply
  delivered : List (Delivery Function)

/-- What a call of a function by a page comes to. -/
inductive Returned where
  | exception (text : String)
  | requestId (value : Int)
  | canceled (value : Bool)
  | notHandled
  deriving DecidableEq

namespace RendererSide

variable {Function : Type}

def new : RendererSide Function where
  contextIdGenerator := kReservedId
  requestIdGenerator := kReservedId
  browserRequestInfoMap := .empty
  contextMap := .empty
  handlerContextId := fun _ => kReservedId
  sent := []
  tasks := .empty
  delivered := []

section Requests

/-- Find a request. The parameters are the other way round than the pair of the map, and
so are the arguments of every call. -/
def getRequestInfo (map : BrowserInfoMap (Int ×ₗ Int) (RequestInfo Function)) (browserId requestId contextId : Int)
    (alwaysRemove : Bool) :
    Option (RequestInfo Function) × BrowserInfoMap (Int ×ₗ Int) (RequestInfo Function) :=
  let (_, info, map) := map.find
    (fun state _ _ info => (state, alwaysRemove || !info.persistent, true)) () browserId
    (toLex (requestId, contextId))
  (info, map)

/-- Returns the new request ID. -/
def sendQuery (router : RendererSide Function) (browserId : Int) (frameId : BitVec 64)
    (isMainFrame : Bool) (contextId : Int) (request : Text) (persistent : Bool)
    (successCallback failureCallback : Option Function) : RendererSide Function × Int :=
  let requestId := Counter.next 32 router.requestIdGenerator
  let info : RequestInfo Function := ⟨persistent, successCallback, failureCallback⟩
  let message : QueryMessage := ⟨frameId, isMainFrame, contextId, requestId, request, persistent⟩
  ({ router with
      requestIdGenerator := requestId
      browserRequestInfoMap :=
        router.browserRequestInfoMap.add browserId (toLex (contextId, requestId)) info
      sent := router.sent ++ [.query browserId message] }, requestId)

/-- Whether an entry is of a context. -/
def ofContext (contextId : Int) (_ : Int) (infoId : Int ×ₗ Int) (_ : RequestInfo Function) : Bool :=
  (ofLex infoId).1 = contextId

/-- Remove one request, or all of a context, and count what is removed. -/
def removeRequests (map : BrowserInfoMap (Int ×ₗ Int) (RequestInfo Function))
    (browserId contextId requestId : Int) : Nat × BrowserInfoMap (Int ×ₗ Int) (RequestInfo Function) :=
  if requestId ≠ kReservedId then
    let (info, map) := getRequestInfo map browserId contextId requestId true
    (if info.isSome then 1 else 0, map)
  else
    map.findAllOf browserId
      (BrowserInfoMap.selectAll (ofContext contextId) fun count _ _ _ => count + 1) 0

/-- Cancel one request, or all of a context. Returns true if any request was canceled. -/
def sendCancel (router : RendererSide Function) (browserId contextId requestId : Int) :
    RendererSide Function × Bool :=
  let (cancelCount, map) := removeRequests router.browserRequestInfoMap browserId contextId requestId
  let router := { router with browserRequestInfoMap := map }
  if 0 < cancelCount then
    ({ router with sent := router.sent ++ [.cancel browserId ⟨contextId, requestId⟩] }, true)
  else
    (router, false)

end Requests

section Contexts

def createIDForContext (router : RendererSide Function) (context : V8Context) :
    RendererSide Function × Int :=
  let contextId := Counter.next 32 router.contextIdGenerator
  ({ router with
      contextIdGenerator := contextId
      contextMap := router.contextMap.insert contextId context }, contextId)

/-- The number of a context in the map, which can be removed at once. -/
def getIDForContext (router : RendererSide Function) (context : V8Context) (remove : Bool) :
    RendererSide Function × Int :=
  match router.contextMap.entries.find? fun entry => entry.2 = context with
  | some (contextId, _) =>
    (if remove then { router with contextMap := router.contextMap.erase contextId } else router, contextId)
  | none => (router, kReservedId)

def getContextByID (router : RendererSide Function) (contextId : Int) : Option V8Context :=
  router.contextMap.find contextId

/-- The number that the functions of a context use, made when it is first needed. -/
def handlerIDForContext (router : RendererSide Function) (context : V8Context) :
    RendererSide Function × Int :=
  if router.handlerContextId context = kReservedId then
    let (router, contextId) := router.createIDForContext context
    ({ router with
        handlerContextId := fun other =>
          if other = context then contextId else router.handlerContextId other }, contextId)
  else (router, router.handlerContextId context)

end Contexts

section Functions

/-- A member of an object. -/
def getValue (members : List (String × V8Value Function)) (name : String) : V8Value Function :=
  (members.lookup name).getD .other

def hasValue (members : List (String × V8Value Function)) (name : String) : Bool :=
  (members.lookup name).isSome

def requestText : String :=
  "Invalid arguments; object member 'request' is required and must have type string"

def memberText (name type : String) : String :=
  "Invalid arguments; object member '" ++ name ++ "' must have type " ++ type

/-- A member that is a function, if it is there. -/
def functionMember (members : List (String × V8Value Function)) (name : String) :
    Except String (Option Function) :=
  if hasValue members name then
    match getValue members name with
    | .function value => .ok (some value)
    | _ => .error (memberText name "function")
  else .ok none

def boolMember (members : List (String × V8Value Function)) (name : String) : Except String Bool :=
  if hasValue members name then
    match getValue members name with
    | .bool value => .ok value
    | _ => .error (memberText name "boolean")
  else .ok false

/-- The argument of a query. -/
structure QueryArgument (Function : Type) where
  request : Text
  successCallback : Option Function
  failureCallback : Option Function
  persistent : Bool

/-- Check the arguments of a query one after the other. -/
def readQuery (arguments : List (V8Value Function)) : Except String (QueryArgument Function) :=
  match arguments with
  | [argument] =>
    match argument.members with
    | none => .error "Invalid arguments; expecting a single object"
    | some members =>
      match getValue members "request" with
      | .string request => do
        let successCallback ← functionMember members "onSuccess"
        let failureCallback ← functionMember members "onFailure"
        let persistent ← boolMember members "persistent"
        return ⟨request, successCallback, failureCallback, persistent⟩
      | _ => .error requestText
  | _ => .error "Invalid arguments; expecting a single object"

/-- A page calls one of the functions in a context. -/
def execute (config : CefMessageRouterConfig) (router : RendererSide Function) (context : V8Context)
    (name : String) (arguments : List (V8Value Function)) : RendererSide Function × Returned :=
  if name = config.jsQueryFunction then
    match readQuery arguments with
    | .error text => (router, .exception text)
    | .ok query =>
      let (router, contextId) := router.handlerIDForContext context
      let (router, requestId) := router.sendQuery context.browserId context.frameId context.isMain contextId
        query.request query.persistent query.successCallback query.failureCallback
      (router, .requestId requestId)
  else if name = config.jsCancelFunction then
    match arguments with
    | [.int requestId] =>
      if requestId ≠ kReservedId then
        let (router, contextId) := router.handlerIDForContext context
        let (router, result) := router.sendCancel context.browserId contextId requestId
        (router, .canceled result)
      else (router, .canceled false)
    | _ => (router, .exception "Invalid arguments; expecting a single integer")
  else (router, .notHandled)

end Functions

section Replies

def onContextReleased (router : RendererSide Function) (context : V8Context) : RendererSide Function :=
  let (router, contextId) := router.getIDForContext context true
  if contextId ≠ kReservedId then (router.sendCancel context.browserId contextId kReservedId).1
  else router

/-- Read a reply and post it. -/
def onProcessMessageReceived (config : CefMessageRouterConfig) (router : RendererSide Function)
    (browserId : Int) (message : ProcessMessage) : RendererSide Function × Bool :=
  if message.name = config.queryMessageName then
    let reply := ReplyMessage.ofArgs message.args
    ({ router with
        tasks := router.tasks.put ⟨⟨browserId, reply.contextId, reply.requestId⟩, reply.outcome⟩ }, true)
  else (router, false)

/-- Find the request of a reply and execute one of its JavaScript callbacks, if it has
it and its context is still there. -/
def executeCallback (router : RendererSide Function) (reply : Reply) (alwaysRemove : Bool)
    (callback : RequestInfo Function → Option Function) : RendererSide Function :=
  match getRequestInfo router.browserRequestInfoMap reply.key.browserId reply.key.contextId
    reply.key.requestId alwaysRemove with
  | (none, _) => router
  | (some info, map) =>
    let called := match router.getContextByID reply.key.contextId, callback info with
      | some context, some callback => some (context, callback)
      | _, _ => none
    { router with
      browserRequestInfoMap := map
      delivered := router.delivered ++ [⟨reply, called⟩] }

/-- Execute the onSuccess JavaScript callback. -/
def executeSuccessCallback (router : RendererSide Function) (key : Key) (response : Text) :
    RendererSide Function :=
  router.executeCallback ⟨key, .success response⟩ false RequestInfo.successCallback

/-- Execute the onFailure JavaScript callback. -/
def executeFailureCallback (router : RendererSide Function) (key : Key) (errorCode : Int)
    (errorMessage : Text) : RendererSide Function :=
  router.executeCallback ⟨key, .failure errorCode errorMessage⟩ true RequestInfo.failureCallback

/-- The thread gets to the next reply that was posted. -/
def runTask (router : RendererSide Function) : RendererSide Function :=
  match router.tasks.next with
  | none => router
  | some (reply, tasks) =>
    let router := { router with tasks := tasks }
    match reply.outcome with
    | .success response => router.executeSuccessCallback reply.key response
    | .failure errorCode errorMessage => router.executeFailureCallback reply.key errorCode errorMessage

/-- The number of pending requests, of a browser or a context if one is given. -/
def getPendingCount (router : RendererSide Function) (browserId : Option Int)
    (context : Option V8Context) : Nat :=
  if router.browserRequestInfoMap.isEmpty then 0
  else match context with
    | some context =>
      let (_, contextId) := router.getIDForContext context false
      if contextId = kReservedId then 0
      else match browserId with
        | some browserId =>
          (router.browserRequestInfoMap.findAllOf browserId (BrowserInfoMap.tally (ofContext contextId)) 0).1
        | none => (router.browserRequestInfoMap.findAll (BrowserInfoMap.tally (ofContext contextId)) 0).1
    | none =>
      match browserId with
      | some browserId => router.browserRequestInfoMap.sizeOf browserId
      | none => router.browserRequestInfoMap.size

end Replies

end RendererSide

end CefBridge.Router
