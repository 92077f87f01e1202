import Mathlib.Data.List.DropRight
import CefBridge.Native.MethodArgs

/-!
# Which managed callback hears about a resource request

Each browser has a client handler with a resource manager of its own. The handler
sets up the manager when it is made, and once more when it gets its managed
callback: then the manager gets a filter and a last provider that send messages.
The provider keeps the callback. The filter takes it from a variable that all
managers share, and every browser that is created overwrites it.

A message carries a URL; the arguments around it are left out. What a callback
answers is given with each request. The binary resources are known by name.
`requests_routed_iff` says in which runs all requests reach their own callback.
-/

namespace CefBridge.Native

/-- A string of bytes. -/
abbrev Bytes := List UInt8

def ascii (text : String) : Bytes := text.toList.map fun symbol => symbol.toNat.toUInt8

inductive Message where
  | setResourceManager
  | requestUrlFilter2
  | binaryResouceProviderOnRequest
  deriving DecidableEq

variable {Callback : Type}

/-- The arguments that a callback leaves for a message and a URL, with the memory
to which they point. -/
abbrev Answers (Callback : Type) := Callback → Message → Bytes → MethodArgs × Memory

abbrev Delivery (Callback : Type) := Callback × Message

section Filters

def kTestOrigin : Bytes := ascii "http://tests/"

def getUrlWithoutQueryOrFragment (url : Bytes) : Bytes :=
  url.takeWhile fun symbol => symbol != 0x3F && symbol != 0x23

/-- Add an extension to a URL of the test origin that has none. -/
def requestUrlFilter (url : Bytes) : Bytes :=
  if !kTestOrigin.isPrefixOf url then url
  else
    -- A query is looked for first, even behind a fragment.
    let (urlBase, urlSuffix) := if 0x3F ∈ url then url.span (· != 0x3F) else url.span (· != 0x23)
    if 0x2F ∉ urlBase then url
    else if 0x2E ∈ urlBase.rtakeWhile (· != 0x2F) then url
    else urlBase ++ ascii ".html" ++ urlSuffix

/-- The URL that an answer to a filter message asks for. -/
def rewritten (answer : MethodArgs × Memory) (url : Bytes) : Bytes :=
  let (metArgs, memory) := answer
  if metArgs.result0.i32 = 0 then url
  else (memory.bytes metArgs.result1.value).take (sizeOf32 metArgs.result1.length)

def requestUrlFilter2 (mcallback : Option Callback) (answers : Answers Callback) (url : Bytes) :
    Bytes × List (Delivery Callback) :=
  match mcallback with
  | none => (url, [])
  | some callback =>
    (rewritten (answers callback .requestUrlFilter2 url) url, [(callback, .requestUrlFilter2)])

inductive UrlFilter where
  | getFilteredUrl
  | requestUrlFilter
  | requestUrlFilter2

def UrlFilter.run (mcallback : Option Callback) (answers : Answers Callback) (url : Bytes) :
    UrlFilter → Bytes × List (Delivery Callback)
  | .getFilteredUrl => (url, [])
  | .requestUrlFilter => (CefBridge.Native.requestUrlFilter url, [])
  | .requestUrlFilter2 => CefBridge.Native.requestUrlFilter2 mcallback answers url

end Filters

section Providers

inductive Provider (Callback : Type) where
  | requestDumpResourceProvider (url : Bytes)
  | binaryResourceProvider (urlPath : Bytes)
  | managedResourceProvider (urlPath : Bytes) (mcallback : Option Callback)

/-- A provider of binary resources answers a URL below its path if there is a
resource. Otherwise the request goes on. -/
def servesBinary (getResourceId : Bytes → Bool) (urlPath url : Bytes) : Bool :=
  let relativePath := url.drop urlPath.length
  urlPath.isPrefixOf url && !relativePath.isEmpty && getResourceId relativePath

/-- Whether a provider answers a request, and what it sends. -/
def Provider.onRequest (getResourceId : Bytes → Bool) (answers : Answers Callback) (url : Bytes) :
    Provider Callback → Bool × List (Delivery Callback)
  | .requestDumpResourceProvider dumpUrl => (url == dumpUrl, [])
  | .binaryResourceProvider urlPath => (servesBinary getResourceId urlPath url, [])
  | .managedResourceProvider urlPath none => (servesBinary getResourceId urlPath url, [])
  | .managedResourceProvider _ (some callback) =>
    let (metArgs, _) := answers callback .binaryResouceProviderOnRequest url
    (metArgs.result0.i32 != 0, [(callback, .binaryResouceProviderOnRequest)])

structure ProviderEntry (Callback : Type) where
  provider : Provider Callback
  order : Int

structure CefResourceManager (Callback : Type) where
  urlFilter : UrlFilter := .getFilteredUrl
  providers : List (ProviderEntry Callback) := []

def CefResourceManager.setUrlFilter (manager : CefResourceManager Callback) (filter : UrlFilter) :
    CefResourceManager Callback :=
  { manager with urlFilter := filter }

/-- Insert a provider before the first one of a higher order. -/
def CefResourceManager.addProvider (manager : CefResourceManager Callback)
    (provider : Provider Callback) (order : Int) : CefResourceManager Callback :=
  { manager with
    providers := manager.providers.takeWhile (fun entry => ¬ entry.order > order) ++
      ⟨provider, order⟩ :: manager.providers.dropWhile (fun entry => ¬ entry.order > order) }

/-- Ask the providers in order until one answers. -/
def sendRequest (getResourceId : Bytes → Bool) (answers : Answers Callback) (url : Bytes) :
    List (ProviderEntry Callback) → List (Delivery Callback)
  | [] => []
  | entry :: entries =>
    match entry.provider.onRequest getResourceId answers url with
    | (true, sent) => sent
    | (false, sent) => sent ++ sendRequest getResourceId answers url entries

/-- The messages sent for a request, and the URL that the providers are asked
for. -/
structure Handling (Callback : Type) where
  sent : List (Delivery Callback)
  url : Option Bytes

/-- Handle a request. Without providers nothing is filtered. -/
def CefResourceManager.onBeforeResourceLoad (manager : CefResourceManager Callback)
    (mcallback : Option Callback) (getResourceId : Bytes → Bool) (answers : Answers Callback)
    (requestUrl : Bytes) : Handling Callback :=
  if manager.providers.isEmpty then ⟨[], none⟩
  else
    let (filtered, sent) := manager.urlFilter.run mcallback answers requestUrl
    let url := getUrlWithoutQueryOrFragment filtered
    ⟨sent ++ sendRequest getResourceId answers url manager.providers, some url⟩

end Providers

section Browsers

/-- The set-up that every client handler makes. -/
def setupResourceManager (manager : CefResourceManager Callback) : CefResourceManager Callback :=
  ((manager.setUrlFilter .requestUrlFilter).addProvider
    (.requestDumpResourceProvider (kTestOrigin ++ ascii "request.html")) 0).addProvider
      (.binaryResourceProvider kTestOrigin) 100

/-- The set-up for a managed callback. It also overwrites the shared callback. -/
def setupResourceManager2 (manager : CefResourceManager Callback) (mcallback : Callback) :
    CefResourceManager Callback × Option Callback :=
  ((manager.setUrlFilter .requestUrlFilter2).addProvider
    (.managedResourceProvider kTestOrigin (some mcallback)) 100, some mcallback)

structure ClientHandler (Callback : Type) where
  mcallback : Option Callback
  resourceManager : CefResourceManager Callback

def ClientHandler.new : ClientHandler Callback where
  mcallback := none
  resourceManager := setupResourceManager {}

/-- The shared callback, and the client handlers of all browsers. -/
structure System (Callback : Type) where
  mcallback : Option Callback := none
  browsers : List (ClientHandler Callback) := []

/-- Give a new client handler its callback, and send that its first message. -/
def myCefSetManagedCallBack (system : System Callback) (handler : ClientHandler Callback)
    (m : Callback) : System Callback × List (Delivery Callback) :=
  let (resourceManager, mcallback) := setupResourceManager2 handler.resourceManager m
  (⟨mcallback, system.browsers ++ [{ handler with mcallback := some m, resourceManager }]⟩,
    [(m, .setResourceManager)])

def myCefCreateMyWebBrowser (system : System Callback) (callback : Callback) :
    System Callback × List (Delivery Callback) :=
  myCefSetManagedCallBack system .new callback

/-- A request of a browser, by the position of the browser. -/
def System.request (system : System Callback) (getResourceId : Bytes → Bool) (browser : Nat)
    (url : Bytes) (answers : Answers Callback) : Handling Callback :=
  match system.browsers[browser]? with
  | none => ⟨[], none⟩
  | some handler =>
    handler.resourceManager.onBeforeResourceLoad system.mcallback getResourceId answers url

/-- What happens to the browsers. Windows for developer tools are browsers too. -/
inductive Event (Callback : Type) where
  | create (callback : Callback)
  | request (browser : Nat) (url : Bytes) (answers : Answers Callback)

def System.step (getResourceId : Bytes → Bool) (system : System Callback) :
    Event Callback → System Callback × List (Delivery Callback)
  | .create callback => myCefCreateMyWebBrowser system callback
  | .request browser url answers =>
    (system, (system.request getResourceId browser url answers).sent)

def run (getResourceId : Bytes → Bool) (events : List (Event Callback)) : System Callback :=
  events.foldl (fun system event => (system.step getResourceId event).1) {}

end Browsers

/-- The callbacks of the browsers created so far. -/
def created : List (Event Callback) → List Callback
  | [] => []
  | .create callback :: events => callback :: created events
  | .request _ _ _ :: events => created events

/-- A request is heard by one callback alone: it is asked for the URL, it is asked
for the resource, and the providers see the URL that it asked for. -/
def Routed (handling : Handling Callback) (callback : Callback) (url : Bytes)
    (answers : Answers Callback) : Prop :=
  handling.sent = [(callback, .requestUrlFilter2), (callback, .binaryResouceProviderOnRequest)] ∧
    handling.url = some
      (getUrlWithoutQueryOrFragment (rewritten (answers callback .requestUrlFilter2 url) url))

/-- One of the providers that every client handler has answers a URL. -/
def AnsweredInFront (getResourceId : Bytes → Bool) (url : Bytes) : Prop :=
  url = kTestOrigin ++ ascii "request.html" ∨ servesBinary getResourceId kTestOrigin url = true

/-- The callback is that of the latest browser, and it asks for a URL that no
provider in front answers. -/
def OwnRequest (getResourceId : Bytes → Bool) (callbacks : List Callback) (callback : Callback)
    (url : Bytes) (answers : Answers Callback) : Prop :=
  callbacks.getLast? = some callback ∧
    ¬ AnsweredInFront getResourceId
      (getUrlWithoutQueryOrFragment (rewritten (answers callback .requestUrlFilter2 url) url))

section Runs

variable (getResourceId : Bytes → Bool)

/-- The client handler of a browser that was created with a callback. -/
def handlerOf (callback : Callback) : ClientHandler Callback where
  mcallback := some callback
  resourceManager :=
    { urlFilter := .requestUrlFilter2
      providers :=
        [⟨.requestDumpResourceProvider (kTestOrigin ++ ascii "request.html"), 0⟩,
          ⟨.binaryResourceProvider kTestOrigin, 100⟩,
          ⟨.managedResourceProvider kTestOrigin (some callback), 100⟩] }

/-- What a run leaves is determined by the callbacks of the created browsers. -/
structure Reaches (system : System Callback) (callbacks : List Callback) : Prop where
  shared : system.mcallback = callbacks.getLast?
  browsers : system.browsers = callbacks.map handlerOf

/-- A client handler with its callback: the managed provider stands last. -/
theorem handlerOf_eq (callback : Callback) :
    handlerOf callback =
      { (ClientHandler.new : ClientHandler Callback) with
        mcallback := some callback
        resourceManager := (setupResourceManager2 ClientHandler.new.resourceManager callback).1 } := by
  simp [handlerOf, ClientHandler.new, setupResourceManager, setupResourceManager2,
    CefResourceManager.setUrlFilter, CefResourceManager.addProvider]

/-- Creating a browser adds its handler and overwrites the shared callback. -/
theorem create_reaches {system : System Callback} {callbacks : List Callback}
    (reaches : Reaches system callbacks) (callback : Callback) :
    Reaches (myCefCreateMyWebBrowser system callback).1 (callbacks ++ [callback]) := by
  constructor
  · simp [myCefCreateMyWebBrowser, myCefSetManagedCallBack, setupResourceManager2]
  · rw [List.map_append, List.map_singleton, handlerOf_eq, ← reaches.browsers]
    rfl

theorem created_append (before after : List (Event Callback)) :
    created (before ++ after) = created before ++ created after := by
  fun_induction created before with
  | case1 => rfl
  | case2 callback events ih => simp [created, ih]
  | case3 _ _ _ events ih => simp [created, ih]

/-- One event keeps the system as its created browsers determine it. -/
theorem step_reaches {system : System Callback} {callbacks : List Callback}
    (reaches : Reaches system callbacks) (event : Event Callback) :
    Reaches (system.step getResourceId event).1 (callbacks ++ created [event]) := by
  cases event with
  | create callback => exact create_reaches reaches callback
  | request browser url answers =>
    rw [created, created, List.append_nil]
    exact reaches

/-- After any run, the system is as its created browsers determine it. -/
theorem run_reaches (events : List (Event Callback)) :
    Reaches (run getResourceId events) (created events) := by
  induction events using List.reverseRecOn with
  | nil => exact ⟨rfl, rfl⟩
  | append_singleton events event ih =>
    rw [run, List.foldl_append, created_append]
    exact step_reaches getResourceId ih event

/-- What a request sends if the shared callback is that of some browser. -/
theorem request_handling (latest callback : Callback) (url : Bytes) (answers : Answers Callback) :
    (handlerOf callback).resourceManager.onBeforeResourceLoad (some latest) getResourceId answers url =
      let asked := getUrlWithoutQueryOrFragment (rewritten (answers latest .requestUrlFilter2 url) url)
      ⟨(latest, .requestUrlFilter2) ::
        sendRequest getResourceId answers asked (handlerOf callback).resourceManager.providers,
        some asked⟩ := rfl

/-- The managed provider is asked exactly when no provider in front answers. -/
theorem sendRequest_handlerOf_iff (callback : Callback) (url : Bytes) (answers : Answers Callback) :
    sendRequest getResourceId answers url (handlerOf callback).resourceManager.providers =
      [(callback, .binaryResouceProviderOnRequest)] ↔ ¬ AnsweredInFront getResourceId url := by
  by_cases dumped : url = kTestOrigin ++ ascii "request.html"
  · simp [handlerOf, sendRequest, Provider.onRequest, AnsweredInFront, dumped]
  · have passed : (url == kTestOrigin ++ ascii "request.html") = false := by simpa using dumped
    by_cases served : servesBinary getResourceId kTestOrigin url = true
    · simp [handlerOf, sendRequest, Provider.onRequest, AnsweredInFront, passed, served]
    · have unserved : servesBinary getResourceId kTestOrigin url = false := by simpa using served
      simp only [handlerOf, sendRequest, Provider.onRequest, AnsweredInFront, passed, unserved, dumped,
        List.nil_append, or_false, not_false_eq_true, iff_true, Bool.false_eq_true]
      split <;> simp_all

/-- A request is routed exactly if it is its browser's own. -/
theorem request_routed_iff {system : System Callback} {callbacks : List Callback}
    (reaches : Reaches system callbacks) {browser : Nat} {callback : Callback}
    (made : callbacks[browser]? = some callback) (url : Bytes) (answers : Answers Callback) :
    Routed (system.request getResourceId browser url answers) callback url answers ↔
      OwnRequest getResourceId callbacks callback url answers := by
  have handler : system.browsers[browser]? = some (handlerOf callback) := by
    simp [reaches.browsers, made]
  cases last : callbacks.getLast? with
  | none =>
    rw [List.getLast?_eq_none_iff] at last
    simp [last] at made
  | some latest =>
    have shared : system.mcallback = some latest := reaches.shared.trans last
    simp only [System.request, handler, shared, request_handling, Routed, OwnRequest, last,
      Option.some.injEq, List.cons.injEq, Prod.mk.injEq, and_true]
    constructor
    · rintro ⟨⟨rfl, asked⟩, _⟩
      exact ⟨rfl, (sendRequest_handlerOf_iff getResourceId latest _ answers).mp asked⟩
    · rintro ⟨rfl, unanswered⟩
      exact ⟨⟨rfl, (sendRequest_handlerOf_iff getResourceId latest _ answers).mpr unanswered⟩, rfl⟩

end Runs

/-- Something holds of each request that a created browser makes in a run: of the
events before it, the callback of its browser, and the request. -/
def EachRequest (events : List (Event Callback))
    (holds : List (Event Callback) → Callback → Nat → Bytes → Answers Callback → Prop) : Prop :=
  ∀ before browser url answers after callback,
    events = before ++ .request browser url answers :: after →
      (created before)[browser]? = some callback → holds before callback browser url answers

/-- In a run, every request of a browser is heard by that browser's callback alone
exactly when every request is made while its browser is the latest one, by
callback, and asks for no URL that a provider in front answers. -/
theorem requests_routed_iff (getResourceId : Bytes → Bool) (events : List (Event Callback)) :
    (EachRequest events fun before callback browser url answers =>
      Routed ((run getResourceId before).request getResourceId browser url answers) callback url
        answers) ↔
    (EachRequest events fun before callback _ url answers =>
      OwnRequest getResourceId (created before) callback url answers) := by
  constructor
  · intro routed before browser url answers after callback split made
    have alone := routed before browser url answers after callback split made
    exact (request_routed_iff getResourceId (run_reaches getResourceId before) made url answers).mp
      alone
  · intro own before browser url answers after callback split made
    have latest := own before browser url answers after callback split made
    exact (request_routed_iff getResourceId (run_reaches getResourceId before) made url answers).mpr
      latest

/-- With two browsers, the second one's callback is asked for the first one's
URL. -/
theorem requests_routed_first_of_two :
    let answers : Answers Nat := fun _ _ _ => (.zeroed, .blank)
    let before : List (Event Nat) := [.create 1, .create 2]
    ((run (fun _ => false) before).request (fun _ => false) 0 (ascii "http://a/") answers).sent =
        [(2, .requestUrlFilter2), (1, .binaryResouceProviderOnRequest)] ∧
      ¬ EachRequest (before ++ [.request 0 (ascii "http://a/") answers])
        fun before callback browser url answers =>
          Routed ((run (fun _ => false) before).request (fun _ => false) browser url answers) callback
            url answers := by
  intro answers before
  have sent : ((run (fun _ => false) before).request (fun _ => false) 0 (ascii "http://a/")
      answers).sent = [(2, .requestUrlFilter2), (1, .binaryResouceProviderOnRequest)] := by
    decide +kernel
  refine ⟨sent, ?_⟩
  intro routed
  have first := (routed before 0 (ascii "http://a/") answers [] 1 rfl rfl).1
  rw [sent] at first
  exact absurd first (by decide)

end CefBridge.Native
