import CefBridge.Native.MethodArgs
import CefBridge.Library.Counter

/-!
# Messages of the message router

A query of a page goes to the browser process and its replies come back as process
messages: a name and a list of arguments that are read by position. A frame
identifier takes two of the arguments, and a reply has four arguments or five.

Each side reads what the other one has written.
-/

namespace CefBridge.Router

open Library

section Parameters

/-- ID value reserved for internal use. -/
def kReservedId : Int := 0

/-- Appended to the name of a JS function for its messages. -/
def kMessageSuffix : String := "Msg"

abbrev Text := Native.Wide

/-- Text of plain characters. -/
def ascii (text : String) : Text := text.toList.map fun character => character.toNat.toUInt16

def kCanceledErrorCode : Int := -1

def kCanceledErrorMessage : Text := ascii "The query has been canceled"

structure CefMessageRouterConfig where
  jsQueryFunction : String := "cefQuery"
  jsCancelFunction : String := "cefQueryCancel"
  deriving DecidableEq

/-- Both names must be given. -/
def validateConfig (config : CefMessageRouterConfig) : Bool :=
  !(config.jsCancelFunction.isEmpty || config.jsQueryFunction.isEmpty)

def CefMessageRouterConfig.queryMessageName (config : CefMessageRouterConfig) : String :=
  config.jsQueryFunction ++ kMessageSuffix

def CefMessageRouterConfig.cancelMessageName (config : CefMessageRouterConfig) : String :=
  config.jsCancelFunction ++ kMessageSuffix

/-- Messages of queries and cancels are told apart as the functions are. -/
theorem messageName_apart {config : CefMessageRouterConfig}
    (apart : config.jsQueryFunction ≠ config.jsCancelFunction) :
    config.cancelMessageName ≠ config.queryMessageName := by
  intro same
  have lists := congrArg String.toList same
  simp only [CefMessageRouterConfig.cancelMessageName, CefMessageRouterConfig.queryMessageName,
    String.toList_append] at lists
  exact apart (String.toList_inj.mp (List.append_cancel_right lists)).symm

/-- The numbers of a generator of `int` values. -/
def intId (count : Nat) : Int := Counter.nth 32 count

/-- The numbers of a generator of `int64` values. -/
def int64Id (count : Nat) : Int := Counter.nth 64 count

end Parameters

section Lists

/-- An item of the argument list of a process message. -/
inductive Argument where
  | int (value : Int)
  | bool (value : Bool)
  | string (value : Text)
  deriving DecidableEq

/-- An item of another type reads as zero. -/
def getInt (args : List Argument) (index : Nat) : Int :=
  match args[index]? with
  | some (.int value) => value
  | _ => 0

def getBool (args : List Argument) (index : Nat) : Bool :=
  match args[index]? with
  | some (.bool value) => value
  | _ => false

def getString (args : List Argument) (index : Nat) : Text :=
  match args[index]? with
  | some (.string value) => value
  | _ => []

structure ProcessMessage where
  name : String
  args : List Argument
  deriving DecidableEq

/-- The low half of a frame identifier as an `int`. -/
def cefInt64GetLow (value : BitVec 64) : Int := (value.setWidth 32).toInt

def cefInt64GetHigh (value : BitVec 64) : Int :=
  ((value.sshiftRight 32 &&& 0xFFFFFFFF#64).setWidth 32).toInt

/-- Put a frame identifier together from two `int` values. -/
def cefInt64Set (low high : Int) : BitVec 64 :=
  (BitVec.ofInt 32 low).setWidth 64 ||| (BitVec.ofInt 32 high).signExtend 64 <<< 32

theorem cefInt64GetHigh_eq (value : BitVec 64) :
    cefInt64GetHigh value = ((value.sshiftRight 32).setWidth 32).toInt := by
  have mask : (0xFFFFFFFF#64).setWidth 32 = BitVec.allOnes 32 := by decide
  rw [cefInt64GetHigh, BitVec.setWidth_and, mask, BitVec.and_allOnes]

/-- A frame identifier is put together from its halves. -/
theorem cefInt64Set_get (value : BitVec 64) :
    cefInt64Set (cefInt64GetLow value) (cefInt64GetHigh value) = value := by
  rw [cefInt64Set, cefInt64GetLow, cefInt64GetHigh_eq, BitVec.ofInt_toInt, BitVec.ofInt_toInt]
  apply BitVec.eq_of_getLsbD_eq
  intro bit small
  rw [BitVec.getLsbD_or, BitVec.getLsbD_shiftLeft, BitVec.getLsbD_setWidth, BitVec.getLsbD_setWidth]
  by_cases low : bit < 32
  · simp [low, small]
  · have width : bit - 32 < 32 := by omega
    have back : 32 + (bit - 32) = bit := by omega
    rw [BitVec.getLsbD_signExtend, BitVec.getLsbD_setWidth, BitVec.getLsbD_sshiftRight, back]
    simp [low, small, width, Nat.lt_of_lt_of_le width (by decide : 32 ≤ 64)]

end Lists

section Contents

/-- What a page is told. -/
inductive Outcome where
  | success (response : Text)
  | failure (errorCode : Int) (errorMessage : Text)
  deriving DecidableEq

def Outcome.isSuccess : Outcome → Bool
  | .success _ => true
  | .failure .. => false

/-- Default outcome of a query that is canceled. -/
def Outcome.canceled : Outcome := .failure kCanceledErrorCode kCanceledErrorMessage

structure QueryMessage where
  frameId : BitVec 64
  isMainFrame : Bool
  contextId : Int
  requestId : Int
  request : Text
  persistent : Bool
  deriving DecidableEq

structure CancelMessage where
  contextId : Int
  requestId : Int
  deriving DecidableEq

structure ReplyMessage where
  contextId : Int
  requestId : Int
  outcome : Outcome
  deriving DecidableEq

variable (config : CefMessageRouterConfig)

def QueryMessage.toMessage (query : QueryMessage) : ProcessMessage where
  name := config.queryMessageName
  args := [.int (cefInt64GetLow query.frameId), .int (cefInt64GetHigh query.frameId),
    .bool query.isMainFrame, .int query.contextId, .int query.requestId, .string query.request,
    .bool query.persistent]

def QueryMessage.ofArgs (args : List Argument) : QueryMessage where
  frameId := cefInt64Set (getInt args 0) (getInt args 1)
  isMainFrame := getBool args 2
  contextId := getInt args 3
  requestId := getInt args 4
  request := getString args 5
  persistent := getBool args 6

def CancelMessage.toMessage (cancel : CancelMessage) : ProcessMessage where
  name := config.cancelMessageName
  args := [.int cancel.contextId, .int cancel.requestId]

def CancelMessage.ofArgs (args : List Argument) : CancelMessage where
  contextId := getInt args 0
  requestId := getInt args 1

def ReplyMessage.toMessage (reply : ReplyMessage) : ProcessMessage where
  name := config.queryMessageName
  args := match reply.outcome with
    | .success response =>
      [.int reply.contextId, .int reply.requestId, .bool true, .string response]
    | .failure errorCode errorMessage =>
      [.int reply.contextId, .int reply.requestId, .bool false, .int errorCode, .string errorMessage]

def ReplyMessage.ofArgs (args : List Argument) : ReplyMessage where
  contextId := getInt args 0
  requestId := getInt args 1
  outcome := if getBool args 2 then .success (getString args 3)
    else .failure (getInt args 3) (getString args 4)

@[simp] theorem QueryMessage.ofArgs_toMessage (query : QueryMessage) :
    QueryMessage.ofArgs (query.toMessage config).args = query := by
  obtain ⟨frameId, isMainFrame, contextId, requestId, request, persistent⟩ := query
  simp [QueryMessage.ofArgs, QueryMessage.toMessage, getInt, getBool, getString, cefInt64Set_get]

@[simp] theorem CancelMessage.ofArgs_toMessage (cancel : CancelMessage) :
    CancelMessage.ofArgs (cancel.toMessage config).args = cancel := by
  simp [CancelMessage.ofArgs, CancelMessage.toMessage, getInt]

@[simp] theorem ReplyMessage.ofArgs_toMessage (reply : ReplyMessage) :
    ReplyMessage.ofArgs (reply.toMessage config).args = reply := by
  obtain ⟨contextId, requestId, outcome⟩ := reply
  cases outcome <;> simp [ReplyMessage.ofArgs, ReplyMessage.toMessage, getInt, getBool, getString]

end Contents

/-- What a request of a page is known by, in both processes. -/
structure Key where
  browserId : Int
  contextId : Int
  requestId : Int
  deriving DecidableEq

end CefBridge.Router
