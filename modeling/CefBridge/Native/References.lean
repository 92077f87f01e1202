import CefBridge.Library.RefCount

/-!
# References of the objects that exports return

Eleven exports return a pointer to a context, a value or a handler. Managed code
never releases what it gets, so before an object is sent out, a reference is to be
added for the receiver. CEF holds references of its own and drops them at any time.

The contexts, values and handlers that a call creates or that CEF answers with are
part of the call. Where CEF answers with null and the code uses the answer, the
process ends, so such calls are left out.

Contexts and values always get their reference. A handler never does: the export
that creates one adds nothing, and the one that reads one from a value adds the
reference to the value.
-/

namespace CefBridge.Native

open Library RefCount Runs

variable {Context Value Handler : Type}

/-- An object with a reference count. -/
inductive CefObject (Context Value Handler : Type) where
  | context (context : Context)
  | value (value : Value)
  | handler (handler : Handler)
  deriving DecidableEq

section Exports

/-- Code of an export. -/
abbrev Code (Context Value Handler : Type) := List (Operation (CefObject Context Value Handler))

/-- Add a reference to an object in a smart pointer and return the pointer. -/
def sendOut (object : CefObject Context Value Handler) : Code Context Value Handler :=
  withRef object [.addRef object, .giveOut object]

def myCefJsGetCurrentContext (currentContext : Context) : Code Context Value Handler :=
  sendOut (.context currentContext)

def myCefJs_GetEnteredContext (enteredContext : Context) : Code Context Value Handler :=
  sendOut (.context enteredContext)

def myCefJs_ContextEnter (enteredContext : Context) : Code Context Value Handler :=
  sendOut (.context enteredContext)

def myCefJsFrameContext (ctx : Context) : Code Context Value Handler := sendOut (.context ctx)

def myCefJsGetGlobal (globalObject : Value) : Code Context Value Handler :=
  sendOut (.value globalObject)

def myCefJs_EnterContext (context : Context) : Code Context Value Handler :=
  sendOut (.context context)

/-- A new handler is returned as it is. -/
def myCefJs_New_V8Handler (handler : Handler) : Code Context Value Handler :=
  [.giveOut (.handler handler)]

/-- The handler is wrapped for CEF, which keeps a reference to it. -/
def myCefJs_CreateFunction (handler : Handler) (cefFunc : Value) : Code Context Value Handler :=
  withRef (.handler handler) [.take (.handler handler)] ++ sendOut (.value cefFunc)

/-- The argument lives as long as the call. A function that fails has no result. -/
def myCefJs_ExecJsFunctionWithContext (context : Context) (arg : Value) (result : Option Value) :
    Code Context Value Handler :=
  withRef (.value arg) (withRef (.context context) [] ++
    match result with
    | none => []
    | some result => sendOut (.value result))

/-- An index out of range raises an exception, and nothing is returned. -/
def myCefJs_MetReadArgAsCefV8Value (jsArgs : List Value) (index : Nat) : Code Context Value Handler :=
  match jsArgs[index]? with
  | none => []
  | some value => sendOut (.value value)

/-- CEF takes a reference to the handler for the way back, which is released
when the handler is unwrapped into a smart pointer. -/
def getFunctionHandler (handler : Handler) (code : Code Context Value Handler) :
    Code Context Value Handler :=
  .take (.handler handler) :: withRef (.handler handler) (.drop (.handler handler) :: code)

/-- A value that is no function of ours has no handler, and null is returned. -/
def myCefJs_MetReadArgAsV8FuncHandle (handlerOf : Value → Option Handler) (jsArgs : List Value)
    (index : Nat) : Code Context Value Handler :=
  match jsArgs[index]? with
  | none => []
  | some value =>
    withRef (.value value) (.addRef (.value value) ::
      match handlerOf value with
      | none => []
      | some handler => getFunctionHandler handler [.giveOut (.handler handler)])

end Exports

section Calls

/-- A call of an export, with what CEF answers, or a reference that CEF takes or
drops by itself. -/
inductive JsEvent (Context Value Handler : Type) where
  | getCurrentContext (currentContext : Context)
  | getEnteredContext (enteredContext : Context)
  | contextEnter (enteredContext : Context)
  | frameContext (ctx : Context)
  | getGlobal (globalObject : Value)
  | enterContext (context : Context)
  | newV8Handler (handler : Handler)
  | createFunction (handler : Handler) (cefFunc : Value)
  | execJsFunctionWithContext (context : Context) (arg : Value) (result : Option Value)
  | metReadArgAsCefV8Value (jsArgs : List Value) (index : Nat)
  | metReadArgAsV8FuncHandle (handlerOf : Value → Option Handler) (jsArgs : List Value) (index : Nat)
  | cefTakes (object : CefObject Context Value Handler)
  | cefDrops (object : CefObject Context Value Handler)

def JsEvent.code : JsEvent Context Value Handler → Code Context Value Handler
  | .getCurrentContext currentContext => myCefJsGetCurrentContext currentContext
  | .getEnteredContext enteredContext => myCefJs_GetEnteredContext enteredContext
  | .contextEnter enteredContext => myCefJs_ContextEnter enteredContext
  | .frameContext ctx => myCefJsFrameContext ctx
  | .getGlobal globalObject => myCefJsGetGlobal globalObject
  | .enterContext context => myCefJs_EnterContext context
  | .newV8Handler handler => myCefJs_New_V8Handler handler
  | .createFunction handler cefFunc => myCefJs_CreateFunction handler cefFunc
  | .execJsFunctionWithContext context arg result =>
    myCefJs_ExecJsFunctionWithContext context arg result
  | .metReadArgAsCefV8Value jsArgs index => myCefJs_MetReadArgAsCefV8Value jsArgs index
  | .metReadArgAsV8FuncHandle handlerOf jsArgs index =>
    myCefJs_MetReadArgAsV8FuncHandle handlerOf jsArgs index
  | .cefTakes object => [.take object]
  | .cefDrops object => [.drop object]

/-- The handlers that a call returns: a new one, or that of the value it reads. -/
def JsEvent.handlers : JsEvent Context Value Handler → List Handler
  | .newV8Handler handler => [handler]
  | .metReadArgAsV8FuncHandle handlerOf jsArgs index => (jsArgs[index]?.bind handlerOf).toList
  | _ => []

variable [DecidableEq Context] [DecidableEq Value] [DecidableEq Handler]

/-- The ledger after a sequence of calls. -/
def ledgerAfter (events : List (JsEvent Context Value Handler)) :
    Ledger (CefObject Context Value Handler) :=
  Ledger.empty.performAll (events.flatMap JsEvent.code)

@[simp] theorem added_sendOut (object other : CefObject Context Value Handler) :
    added object (sendOut other) = if other = object then 1 else 0 := by
  simp [sendOut, Operation.added]

@[simp] theorem given_sendOut (object other : CefObject Context Value Handler) :
    given object (sendOut other) = if other = object then 1 else 0 := by
  simp [sendOut, Operation.given]

@[simp] theorem added_getFunctionHandler (object : CefObject Context Value Handler)
    (handler : Handler) (code : Code Context Value Handler) :
    added object (getFunctionHandler handler code) = added object code := by
  simp [getFunctionHandler, Operation.added]

@[simp] theorem given_getFunctionHandler (object : CefObject Context Value Handler)
    (handler : Handler) (code : Code Context Value Handler) :
    given object (getFunctionHandler handler code) = given object code := by
  simp [getFunctionHandler, Operation.given]

/-- No call adds a reference to a handler. -/
theorem added_handler (event : JsEvent Context Value Handler) (handler : Handler) :
    added (.handler handler) event.code = 0 := by
  cases event with
  | execJsFunctionWithContext context arg result =>
    cases result <;>
      simp [JsEvent.code, myCefJs_ExecJsFunctionWithContext]
  | metReadArgAsCefV8Value jsArgs index =>
    cases read : jsArgs[index]? <;>
      simp [JsEvent.code, myCefJs_MetReadArgAsCefV8Value, read]
  | metReadArgAsV8FuncHandle handlerOf jsArgs index =>
    cases read : jsArgs[index]? with
    | none => simp [JsEvent.code, myCefJs_MetReadArgAsV8FuncHandle, read]
    | some value =>
      cases own : handlerOf value <;>
        simp [JsEvent.code, myCefJs_MetReadArgAsV8FuncHandle, read, own, Operation.added]
  | _ => simp [JsEvent.code, myCefJsGetCurrentContext, myCefJs_GetEnteredContext,
      myCefJs_ContextEnter, myCefJsFrameContext, myCefJsGetGlobal, myCefJs_EnterContext,
      myCefJs_New_V8Handler, myCefJs_CreateFunction, Operation.added]

/-- A handler is given out by the two calls that return handlers. -/
theorem given_handler (event : JsEvent Context Value Handler) (handler : Handler) :
    given (.handler handler) event.code = event.handlers.count handler := by
  cases event with
  | execJsFunctionWithContext context arg result =>
    cases result <;>
      simp [JsEvent.code, JsEvent.handlers, myCefJs_ExecJsFunctionWithContext]
  | metReadArgAsCefV8Value jsArgs index =>
    cases read : jsArgs[index]? <;>
      simp [JsEvent.code, JsEvent.handlers, myCefJs_MetReadArgAsCefV8Value, read]
  | metReadArgAsV8FuncHandle handlerOf jsArgs index =>
    cases read : jsArgs[index]? with
    | none => simp [JsEvent.code, JsEvent.handlers, myCefJs_MetReadArgAsV8FuncHandle, read]
    | some value =>
      cases own : handlerOf value <;>
        simp [JsEvent.code, JsEvent.handlers, myCefJs_MetReadArgAsV8FuncHandle, read, own,
          Operation.given, List.count_singleton]
  | _ => simp [JsEvent.code, JsEvent.handlers, myCefJsGetCurrentContext, myCefJs_GetEnteredContext,
      myCefJs_ContextEnter, myCefJsFrameContext, myCefJsGetGlobal, myCefJs_EnterContext,
      myCefJs_New_V8Handler, myCefJs_CreateFunction, Operation.given, List.count_singleton]

theorem covered_sendOut (object other : CefObject Context Value Handler) :
    Covered object (sendOut other) := by
  rw [Covered, given_sendOut, added_sendOut]
  by_cases same : other = object
  · simp [same]
  · simp [same]

/-- A call that returns a context or a value adds a reference to it. -/
theorem covered_code (event : JsEvent Context Value Handler)
    (object : CefObject Context Value Handler) (other : ∀ handler, object ≠ .handler handler) :
    Covered object event.code := by
  cases event with
  | newV8Handler handler =>
    simp [Covered, JsEvent.code, myCefJs_New_V8Handler, Operation.given, Operation.added,
      (other handler).symm]
  | createFunction handler cefFunc =>
    have taken : Covered object [.take (.handler handler)] := by
      simp [Covered, Operation.given, Operation.added]
    exact (taken.withRef _).append (covered_sendOut _ _)
  | execJsFunctionWithContext context arg result =>
    have answer : Covered object (match result with
        | none => []
        | some result => sendOut (.value result)) := by
      cases result with
      | none => exact Covered.nil object
      | some result => exact covered_sendOut _ _
    exact (((Covered.nil object).withRef _).append answer).withRef _
  | metReadArgAsCefV8Value jsArgs index =>
    rw [JsEvent.code, myCefJs_MetReadArgAsCefV8Value]
    cases jsArgs[index]? with
    | none => exact Covered.nil object
    | some value => exact covered_sendOut _ _
  | metReadArgAsV8FuncHandle handlerOf jsArgs index =>
    rw [JsEvent.code, myCefJs_MetReadArgAsV8FuncHandle]
    cases jsArgs[index]? with
    | none => exact Covered.nil object
    | some value =>
      -- The reference for the handler goes to the value.
      have surplus : Covered object ([.addRef (.value value)] : Code Context Value Handler) := by
        by_cases same : CefObject.value value = object
        · simp [Covered, Operation.given, Operation.added, same]
        · simp [Covered, Operation.given, Operation.added, same]
      have answer : Covered object (match handlerOf value with
          | none => []
          | some handler => getFunctionHandler handler [.giveOut (.handler handler)]) := by
        cases handlerOf value with
        | none => exact Covered.nil object
        | some handler => simp [Covered, Operation.given, Operation.added, (other handler).symm]
      exact (surplus.append answer).withRef _
  | cefTakes taken => simp [Covered, JsEvent.code, Operation.given, Operation.added]
  | cefDrops dropped => simp [Covered, JsEvent.code, Operation.given, Operation.added]
  | _ => exact covered_sendOut _ _

/-- After any calls, CEF holds all references to a handler. -/
theorem own_handler (events : List (JsEvent Context Value Handler)) (handler : Handler) :
    (ledgerAfter events).own (.handler handler) = 0 := by
  rw [ledgerAfter, own_performAll]
  induction events with
  | nil => rfl
  | cons event rest ih =>
    rw [List.flatMap_cons, added_append, added_handler, Int.zero_add]
    exact ih

theorem returned_handler (events : List (JsEvent Context Value Handler)) (handler : Handler) :
    (ledgerAfter events).returned (.handler handler) =
      (events.flatMap JsEvent.handlers).count handler := by
  have start : (Ledger.empty : Ledger (CefObject Context Value Handler)).returned (.handler handler) = 0 :=
    rfl
  rw [ledgerAfter, returned_performAll, start, Nat.zero_add]
  induction events with
  | nil => rfl
  | cons event rest ih =>
    rw [List.flatMap_cons, List.flatMap_cons, given_append, List.count_append, given_handler, ih]

theorem referenced_other (events : List (JsEvent Context Value Handler))
    (object : CefObject Context Value Handler) (other : ∀ handler, object ≠ .handler handler) :
    (ledgerAfter events).Referenced object := by
  have covered : Covered object (events.flatMap JsEvent.code) := by
    induction events with
    | nil => exact Covered.nil object
    | cons event rest ih =>
      rw [List.flatMap_cons]
      exact (covered_code event object other).append ih
  have start : (Ledger.empty : Ledger (CefObject Context Value Handler)).own object = 0 := rfl
  have unreturned : (Ledger.empty : Ledger (CefObject Context Value Handler)).returned object = 0 := rfl
  rw [referenced_iff_own, ledgerAfter, own_performAll, returned_performAll, start, unreturned]
  rw [Covered] at covered
  omega

/-- An object has a reference for each time it was returned and for all that CEF
holds, exactly when it is no handler that a call returned. -/
theorem referenced_iff (events : List (JsEvent Context Value Handler))
    (object : CefObject Context Value Handler) :
    (ledgerAfter events).Referenced object ↔
      ∀ event ∈ events, ∀ handler ∈ event.handlers, object ≠ .handler handler := by
  cases object with
  | handler own =>
    rw [referenced_iff_own, own_handler, returned_handler]
    constructor
    · intro bound event member handler returned same
      cases same
      have counted : 0 < (events.flatMap JsEvent.handlers).count own :=
        List.count_pos_iff.mpr (List.mem_flatMap.mpr ⟨event, member, returned⟩)
      omega
    · intro never
      have absent : own ∉ events.flatMap JsEvent.handlers := by
        intro returned
        obtain ⟨event, member, inEvent⟩ := List.mem_flatMap.mp returned
        exact never event member own inEvent rfl
      rw [List.count_eq_zero_of_not_mem absent]
      omega
  | context context => simp [referenced_other]
  | value value => simp [referenced_other]

/-- A new handler is returned with nothing counted, and so is one that is read from
a value that CEF holds. -/
theorem referenced_not_handler :
    ¬ (ledgerAfter [.newV8Handler 7] : Ledger (CefObject Nat Nat Nat)).Referenced (.handler 7) ∧
      ¬ (ledgerAfter [.cefTakes (.value 3), .cefTakes (.handler 7),
          .metReadArgAsV8FuncHandle (fun _ => some 7) [3] 0] :
        Ledger (CefObject Nat Nat Nat)).Referenced (.handler 7) := by
  constructor
  · decide +kernel
  · decide +kernel

/-- A handler goes when CEF drops its last reference, whoever else has it. -/
theorem destroyed_handler (events : List (JsEvent Context Value Handler)) (handler : Handler)
    (last : (ledgerAfter events).held (.handler handler) = 1) :
    (ledgerAfter (events ++ [.cefDrops (.handler handler)])).destroyed (.handler handler) =
      (ledgerAfter events).destroyed (.handler handler) + 1 := by
  have counted := own_handler events handler
  have code : (events ++ [JsEvent.cefDrops (.handler handler)]).flatMap JsEvent.code =
      events.flatMap JsEvent.code ++ [.drop (.handler handler)] := by
    simp [JsEvent.code]
  rw [ledgerAfter, code, Ledger.performAll, run_concat]
  change ((ledgerAfter events).perform (.drop (.handler handler))).destroyed (.handler handler) = _
  rw [Ledger.own, last] at counted
  have left : (ledgerAfter events).count (.handler handler) - 1 = 0 := by omega
  simp [Ledger.perform, Ledger.release, last, left]

end Calls

end CefBridge.Native
