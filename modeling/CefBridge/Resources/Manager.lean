import Mathlib.Data.Prod.Lex
import CefBridge.Library.SortedMap
import CefBridge.Native.Routing

/-!
# The resource manager

A request for a resource is shown to providers in their order. A provider refuses it at
once, or takes it and continues or stops it later, on any thread. What is known of a
request while it is under way is its state. A request object is made for every
provider that is asked, and holds the state until it is continued or stopped; then
the state goes with a task to the IO thread. When the state is destroyed the
callback of the request is executed.

A provider that has requests cannot be deleted at once. It is marked, its requests
are continued or stopped, and it goes with the last of them.

Everything is done on the IO thread. What a provider does while it is asked is a
list of calls and whether it takes the request. When it is told that a request of its
own is canceled it makes no calls. A removal may never return, and nothing comes after
it then.
-/

namespace CefBridge.Resources

open Library
open CefBridge.Native (Bytes getUrlWithoutQueryOrFragment)

/-- Where an entry is in the list of providers: its order, and its number among all that
were added. -/
abbrev Position := Int ×ₗ Nat

/-- What tells the requests of the network apart. -/
abbrev Identifier := Nat

/-- Values that stay with a request as it moves between providers. -/
structure RequestParams where
  url : Bytes
  identifier : Identifier
  deriving DecidableEq

/-- Callbacks are numbered as requests come, and request objects as they are made. -/
structure RequestState where
  callback : Nat
  currentEntry : Option Position
  currentRequest : Nat
  params : RequestParams
  deriving DecidableEq

structure ProviderEntry where
  order : Int
  number : Nat
  identifier : String
  pendingRequests : List Nat
  deletionPending : Bool
  deriving DecidableEq

def ProviderEntry.position (entry : ProviderEntry) : Position := toLex (entry.order, entry.number)

/-- An entry that loses a request, if it stays. -/
def ProviderEntry.without (entry : ProviderEntry) (request : Nat) : Option ProviderEntry :=
  let pendingRequests := entry.pendingRequests.erase request
  if entry.deletionPending && pendingRequests.isEmpty then none
  else some { entry with pendingRequests := pendingRequests }

variable {Handler : Type}

/-- What any code can ask of the manager and of request objects. -/
inductive Call (Handler : Type) where
  | continueRequest (request : Nat) (handler : Option Handler)
  | stopRequest (request : Nat)
  | addProvider (order : Int) (identifier : String)
  | removeProviders (identifier : String)
  | removeAllProviders
  | setUrlFilter (filter : Option (Bytes → Bytes))

/-- Whether a call needs the manager, which a task with it keeps alive. -/
def Call.onManager : Call Handler → Bool
  | .continueRequest .. => false
  | .stopRequest _ => false
  | _ => true

inductive IoTask (Handler : Type) where
  | call (call : Call Handler)
  | continueOnIOThread (state : RequestState) (handler : Option Handler)
  | stopOnIOThread (state : RequestState)

/-- A provider was asked for a request. It is valid if its entry is there and is not to be
deleted. -/
structure Asked where
  callback : Nat
  position : Position
  url : Bytes
  valid : Bool
  deriving DecidableEq

/-- What a provider does when it is asked: the calls that it makes, and whether it takes the
request. -/
abbrev Reaction (Handler : Type) := List (Call Handler) × Bool

structure CefResourceManager (Handler : Type) where
  alive : Bool
  providers : List ProviderEntry
  added : Nat
  /-- The state that each request object holds. -/
  requests : List (Option RequestState)
  tasks : List (IoTask Handler)
  pendingHandlers : SortedMap Identifier Handler
  urlFilter : Bytes → Bytes
  started : Nat
  asked : List Asked
  canceled : List Nat
  executed : List Nat

/-- What the network is told about a request. -/
inductive ReturnValue where
  | rvContinue
  | rvContinueAsync
  deriving DecidableEq

namespace CefResourceManager

def new : CefResourceManager Handler where
  alive := true
  providers := []
  added := 0
  requests := []
  tasks := []
  pendingHandlers := .empty
  urlFilter := id
  started := 0
  asked := []
  canceled := []
  executed := []

section Requests

/-- Take the state away from a request object. -/
def passState (manager : CefResourceManager Handler) (request : Nat) :
    Option RequestState × CefResourceManager Handler :=
  (manager.requests[request]?.join, { manager with requests := manager.requests.set request none })

def post (manager : CefResourceManager Handler) (task : IoTask Handler) : CefResourceManager Handler :=
  { manager with tasks := manager.tasks ++ [task] }

/-- `Request::Continue` on the IO thread. -/
def requestContinue (manager : CefResourceManager Handler) (request : Nat) (handler : Option Handler) :
    CefResourceManager Handler :=
  match manager.passState request with
  | (none, _) => manager
  | (some state, manager) => manager.post (.continueOnIOThread state handler)

/-- `Request::Stop` on the IO thread. -/
def requestStop (manager : CefResourceManager Handler) (request : Nat) : CefResourceManager Handler :=
  match manager.passState request with
  | (none, _) => manager
  | (some state, manager) => manager.post (.stopOnIOThread state)

def hasState (manager : CefResourceManager Handler) (request : Nat) : Bool :=
  manager.requests[request]?.join.isSome

/-- What is noted of the provider that a state is for. -/
def question (manager : CefResourceManager Handler) (state : RequestState) : Option Asked :=
  state.currentEntry.map fun position => ⟨state.callback, position, state.params.url,
    manager.providers.any fun entry => entry.position = position && !entry.deletionPending⟩

/-- Make a request object on the entry of a state. -/
def newRequest (manager : CefResourceManager Handler) (state : RequestState) : CefResourceManager Handler :=
  let request := manager.requests.length
  { manager with
    providers := manager.providers.map fun entry =>
      if state.currentEntry = some entry.position then
        { entry with pendingRequests := entry.pendingRequests ++ [request] }
      else entry
    requests := manager.requests ++ [some { state with currentRequest := request }]
    asked := manager.asked ++ (manager.question state).toList }

end Requests

section Providers

/-- Insert a provider before the first one of a higher order. -/
def addProvider (manager : CefResourceManager Handler) (order : Int) (identifier : String) :
    CefResourceManager Handler :=
  let newEntry : ProviderEntry := ⟨order, manager.added, identifier, [], false⟩
  { manager with
    added := manager.added + 1
    providers := manager.providers.takeWhile (fun entry => ¬ entry.order > order) ++
      newEntry :: manager.providers.dropWhile (fun entry => ¬ entry.order > order) }

/-- Continue or stop a request of a provider that is to be deleted. -/
def cancelRequest (stop : Bool) (manager : CefResourceManager Handler) (request : Nat) :
    CefResourceManager Handler :=
  if manager.hasState request then
    let manager := if stop then manager.requestStop request else manager.requestContinue request none
    { manager with canceled := manager.canceled ++ [request] }
  else manager

/-- Delete the provider at a place of the list. Returns the place where the walk goes on. -/
def deleteProvider (stop : Bool) (manager : CefResourceManager Handler) (index : Nat) :
    CefResourceManager Handler × Nat :=
  match manager.providers[index]? with
  | none => (manager, index)
  | some currentEntry =>
    if currentEntry.deletionPending then (manager, index)
    else if currentEntry.pendingRequests ≠ [] then
      let manager := { manager with
        providers := manager.providers.set index { currentEntry with deletionPending := true } }
      (currentEntry.pendingRequests.foldl (cancelRequest stop) manager, index + 1)
    else ({ manager with providers := manager.providers.eraseIdx index }, index)

/-- Walk over the providers and delete those that are chosen, if there is fuel enough. -/
def removeLoop (chosen : String → Bool) (stop : Bool) :
    Nat → CefResourceManager Handler → Nat → Option (CefResourceManager Handler)
  | 0, _, _ => none
  | fuel + 1, manager, index =>
    match manager.providers[index]? with
    | none => some manager
    | some entry =>
      if chosen entry.identifier then
        let (manager, index) := deleteProvider stop manager index
        removeLoop chosen stop fuel manager index
      else removeLoop chosen stop fuel manager (index + 1)

/-- The walk over all providers. It does not return if no fuel is enough. -/
def removeWhere (chosen : String → Bool) (stop : Bool) (manager : CefResourceManager Handler) :
    Option (CefResourceManager Handler) :=
  if manager.providers = [] then some manager
  else removeLoop chosen stop (manager.providers.length + 1) manager 0

def removeProviders (manager : CefResourceManager Handler) (identifier : String) :
    Option (CefResourceManager Handler) :=
  removeWhere (fun other => other = identifier) false manager

def removeAllProviders (manager : CefResourceManager Handler) : Option (CefResourceManager Handler) :=
  removeWhere (fun _ => true) true manager

/-- A call on the IO thread. -/
def perform (manager : CefResourceManager Handler) : Call Handler → Option (CefResourceManager Handler)
  | .continueRequest request handler => some (manager.requestContinue request handler)
  | .stopRequest request => some (manager.requestStop request)
  | .addProvider order identifier => some (manager.addProvider order identifier)
  | .removeProviders identifier => manager.removeProviders identifier
  | .removeAllProviders => manager.removeAllProviders
  | .setUrlFilter filter => some { manager with urlFilter := filter.getD id }

end Providers

section Sending

/-- The first of some entries that is not pending deletion. -/
def getNextValidProvider (entries : List ProviderEntry) : Option Position :=
  (entries.find? fun entry => !entry.deletionPending).map ProviderEntry.position

/-- The entries behind a position. -/
def behind (position : Position) (entries : List ProviderEntry) : List ProviderEntry :=
  (entries.dropWhile fun entry => entry.position ≠ position).tail

/-- Detach a state from its provider, which may go with it. -/
def detachRequestFromProvider (manager : CefResourceManager Handler) (state : RequestState) :
    CefResourceManager Handler × RequestState :=
  match state.currentEntry with
  | none => (manager, state)
  | some position =>
    ({ manager with
        providers := manager.providers.filterMap fun entry =>
          if entry.position = position then entry.without state.currentRequest else some entry },
      { state with currentEntry := none })

/-- Execute the callback of a state that is destroyed. -/
def execute (manager : CefResourceManager Handler) (state : RequestState) : CefResourceManager Handler :=
  { manager with executed := manager.executed ++ [state.callback] }

def stopRequest (manager : CefResourceManager Handler) (state : RequestState) : CefResourceManager Handler :=
  let (manager, state) := manager.detachRequestFromProvider state
  manager.execute state

/-- Move a state to the next provider, if there are more. -/
def incrementProvider (manager : CefResourceManager Handler) (state : RequestState) :
    CefResourceManager Handler × RequestState × Bool :=
  let next := state.currentEntry.bind fun position => getNextValidProvider (behind position manager.providers)
  let (manager, state) := manager.detachRequestFromProvider state
  (manager, { state with currentEntry := next }, next.isSome)

/-- Send a request to providers in order until one takes it. A provider of which nothing is
said takes it. Returns true if the request is potentially handled. -/
def sendRequest : List (Reaction Handler) → CefResourceManager Handler → RequestState →
    Option (CefResourceManager Handler × Bool)
  | [], manager, state => some (manager.newRequest state, true)
  | (calls, handles) :: reactions, manager, state => do
    let request := manager.requests.length
    let manager ← calls.foldlM perform (manager.newRequest state)
    if handles then return (manager, true)
    match manager.passState request with
    | (none, _) => return (manager, true)
    | (some state, manager) =>
      match manager.incrementProvider state with
      | (manager, state, true) => sendRequest reactions manager state
      | (manager, state, false) => return (manager.stopRequest state, false)

def continueRequest (reactions : List (Reaction Handler)) (manager : CefResourceManager Handler)
    (state : RequestState) : Option Handler → Option (CefResourceManager Handler)
  | some handler =>
    let pendingHandlers := match manager.pendingHandlers.find state.params.identifier with
      | some _ => manager.pendingHandlers
      | none => manager.pendingHandlers.insert state.params.identifier handler
    some (stopRequest { manager with pendingHandlers := pendingHandlers } state)
  | none =>
    match manager.incrementProvider state with
    | (manager, state, true) => (sendRequest reactions manager state).map Prod.fst
    | (manager, state, false) => some (manager.stopRequest state)

def onBeforeResourceLoad (reactions : List (Reaction Handler)) (manager : CefResourceManager Handler)
    (url : Bytes) (identifier : Identifier) : Option (CefResourceManager Handler × ReturnValue) :=
  match getNextValidProvider manager.providers with
  | none => some (manager, .rvContinue)
  | some position => do
    let state : RequestState := ⟨manager.started, some position, 0,
      ⟨getUrlWithoutQueryOrFragment (manager.urlFilter url), identifier⟩⟩
    let (manager, handled) ← sendRequest reactions { manager with started := manager.started + 1 } state
    return (manager, if handled then .rvContinueAsync else .rvContinue)

def getResourceHandler (manager : CefResourceManager Handler) (identifier : Identifier) :
    CefResourceManager Handler × Option Handler :=
  match manager.pendingHandlers.find identifier with
  | some handler => ({ manager with pendingHandlers := manager.pendingHandlers.erase identifier }, some handler)
  | none => (manager, none)

end Sending

section Tasks

/-- The IO thread gets to the next task. A state whose manager is gone is destroyed. -/
def runTask (reactions : List (Reaction Handler)) (manager : CefResourceManager Handler) :
    Option (CefResourceManager Handler) :=
  match manager.tasks with
  | [] => some manager
  | task :: tasks =>
    let manager := { manager with tasks := tasks }
    match task with
    | .call call => manager.perform call
    | .continueOnIOThread state handler =>
      if manager.alive then manager.continueRequest reactions state handler else some (manager.execute state)
    | .stopOnIOThread state =>
      if manager.alive then some (manager.stopRequest state) else some (manager.execute state)

/-- The last reference to the manager goes. Tasks that need the manager have one. -/
def destroy (manager : CefResourceManager Handler) : Option (CefResourceManager Handler) :=
  if manager.tasks.any fun | .call call => call.onManager | _ => false then some manager
  else do
    let manager ← manager.removeAllProviders
    return { manager with alive := false, providers := [] }

end Tasks

end CefResourceManager

/-- What can happen around a resource manager. Nobody calls a manager that is gone. -/
inductive Event (Handler : Type) where
  | onBeforeResourceLoad (url : Bytes) (identifier : Identifier) (reactions : List (Reaction Handler))
  | getResourceHandler (identifier : Identifier)
  | call (call : Call Handler)
  | callElsewhere (call : Call Handler)
  | runTask (reactions : List (Reaction Handler))
  | destroy

namespace CefResourceManager

/-- None if the thread does not come back. -/
def step (manager : CefResourceManager Handler) : Event Handler → Option (CefResourceManager Handler)
  | .onBeforeResourceLoad url identifier reactions =>
    if manager.alive then (manager.onBeforeResourceLoad reactions url identifier).map Prod.fst else some manager
  | .getResourceHandler identifier =>
    if manager.alive then some (manager.getResourceHandler identifier).1 else some manager
  | .call call => if manager.alive || !call.onManager then manager.perform call else some manager
  | .callElsewhere call =>
    if manager.alive || !call.onManager then some (manager.post (.call call)) else some manager
  | .runTask reactions => manager.runTask reactions
  | .destroy => if manager.alive then manager.destroy else some manager

def run (events : List (Event Handler)) : Option (CefResourceManager Handler) := events.foldlM step new

end CefResourceManager

end CefBridge.Resources
