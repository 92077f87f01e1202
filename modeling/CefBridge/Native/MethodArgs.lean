import CefBridge.Library.Terminated
import CefBridge.Library.Utf16

/-!
# Arguments and results of a call between native and managed code

A `JsValue` is a union of eight bytes with a type and a length. `MethodArgs` has
five of them for arguments and five for results. Native exports write them for
managed code, and native code reads the results after the call.

Memory says what lies at an address, to the end of what can be read there: wide
characters, bytes, or the text of a string object. Objects at different addresses
do not overlap. Pointers have 64 bits.
-/

namespace CefBridge.Native

open Library

abbrev Address := UInt64

/-- Wide characters, as native and managed code have them. -/
abbrev Wide := List UInt16

structure Memory where
  wide : Address → Wide
  bytes : Address → List UInt8
  cefString : Address → Wide

/-- Nothing can be read. -/
def Memory.blank : Memory := ⟨fun _ => [], fun _ => [], fun _ => []⟩

def Memory.setWide (memory : Memory) (place : Address) (content : Wide) : Memory :=
  { memory with wide := fun address => if address = place then content else memory.wide address }

def Memory.setBytes (memory : Memory) (place : Address) (content : List UInt8) : Memory :=
  { memory with bytes := fun address => if address = place then content else memory.bytes address }

@[simp] theorem Memory.setWide_same (memory : Memory) (place : Address) (content : Wide) :
    (memory.setWide place content).wide place = content := by
  simp [setWide]

@[simp] theorem Memory.setBytes_same (memory : Memory) (place : Address) (content : List UInt8) :
    (memory.setBytes place content).bytes place = content := by
  simp [setBytes]

/-- A string or an array of managed code. Its length is a 32-bit integer. -/
structure Managed (Item : Type) where
  items : List Item
  bounded : items.length < 0x80000000

def Managed.length {Item : Type} (array : Managed Item) : Int32 := Int32.ofNat array.items.length

/-- A managed length is not negative. -/
theorem Managed.length_toInt {Item : Type} (array : Managed Item) :
    array.length.toInt = array.items.length := by
  have bounded := array.bounded
  rw [length, Int32.toInt_ofNat_of_lt bounded]

def JSVALUE_TYPE_EMPTY : Int32 := 0
def JSVALUE_TYPE_INTEGER : Int32 := 3
def JSVALUE_TYPE_STRING : Int32 := 5
def JSVALUE_TYPE_WRAPPED : Int32 := 14
def JSVALUE_TYPE_BUFFER : Int32 := 20
def JSVALUE_TYPE_NATIVE_CEFSTRING : Int32 := 30

structure JsValue where
  value : UInt64
  type : Int32
  length : Int32
  deriving DecidableEq

def JsValue.zero : JsValue := ⟨0, 0, 0⟩

/-- The union read as a 32-bit integer: its first four bytes. -/
def JsValue.i32 (slot : JsValue) : Int32 := slot.value.toUInt32.toInt32

/-- The union with a 32-bit integer stored in it. The other bytes stay. -/
def storeInt32 (union : UInt64) (value : Int32) : UInt64 :=
  (union &&& 0xFFFFFFFF00000000) ||| value.toUInt32.toUInt64

/-- The integer that was stored is read back. -/
@[simp] theorem storeInt32_i32 (union : UInt64) (value type length : Int32) :
    JsValue.i32 ⟨storeInt32 union value, type, length⟩ = value := by
  have masked : (0xFFFFFFFF00000000 : UInt64).toUInt32 = 0 := by decide
  simp only [JsValue.i32, storeInt32, UInt64.toUInt32_or, UInt64.toUInt32_and, masked,
    UInt32.and_zero, UInt32.zero_or, UInt32.toUInt32_toUInt64, Int32.toInt32_toUInt32]

/-- A length as an unsigned 64-bit number. -/
def sizeOf32 (length : Int32) : Nat := (length.toInt % 0x10000000000000000).toNat

theorem sizeOf32_length {Item : Type} (array : Managed Item) :
    sizeOf32 array.length = array.items.length := by
  have bounded := array.bounded
  rw [sizeOf32, array.length_toInt]
  omega

structure MethodArgs where
  arg0 : JsValue
  arg1 : JsValue
  arg2 : JsValue
  arg3 : JsValue
  arg4 : JsValue
  result0 : JsValue
  result1 : JsValue
  result2 : JsValue
  result3 : JsValue
  result4 : JsValue
  deriving DecidableEq

/-- All bytes are zero. -/
def MethodArgs.zeroed : MethodArgs :=
  ⟨.zero, .zero, .zero, .zero, .zero, .zero, .zero, .zero, .zero, .zero⟩

section Arguments

/-- Write the argument of an index. Other indices have none. -/
def MethodArgs.modifyArg (args : MethodArgs) (argIndex : Int) (write : JsValue → JsValue) :
    MethodArgs :=
  match argIndex with
  | 0 => { args with arg0 := write args.arg0 }
  | 1 => { args with arg1 := write args.arg1 }
  | 2 => { args with arg2 := write args.arg2 }
  | 3 => { args with arg3 := write args.arg3 }
  | 4 => { args with arg4 := write args.arg4 }
  | _ => args

def MethodArgs.setArgAsNativeObject (args : MethodArgs) (argIndex : Int) (nativeObject : Address) :
    MethodArgs :=
  args.modifyArg argIndex fun _ => ⟨nativeObject, JSVALUE_TYPE_WRAPPED, 0⟩

def MethodArgs.setArgType (args : MethodArgs) (argIndex : Int) (type : Int32) : MethodArgs :=
  args.modifyArg argIndex fun arg => { arg with type }

/-- Without an argument of the index, the value is what the stack held. -/
def myCefNativeMetGetArgs (args : MethodArgs) (argIndex : Int) (stale : UInt64) : JsValue :=
  match argIndex with
  | 0 => args.arg0
  | 1 => args.arg1
  | 2 => args.arg2
  | 3 => args.arg3
  | 4 => args.arg4
  | _ => ⟨stale, JSVALUE_TYPE_EMPTY, 0⟩

end Arguments

section Results

/-- Write the result of an index. Other indices have none. -/
def MethodArgs.modifyResult (args : MethodArgs) (argIndex : Int) (write : JsValue → JsValue) :
    MethodArgs :=
  match argIndex with
  | 0 => { args with result0 := write args.result0 }
  | 1 => { args with result1 := write args.result1 }
  | 2 => { args with result2 := write args.result2 }
  | 3 => { args with result3 := write args.result3 }
  | 4 => { args with result4 := write args.result4 }
  | _ => args

def MethodArgs.setResultAsJsValue (args : MethodArgs) (retIndex : Int) (value : JsValue) :
    MethodArgs :=
  args.modifyResult retIndex fun _ => value

def MethodArgs.setResultAsString (args : MethodArgs) (argIndex : Int) (buffer : Address)
    (len : Int32) : MethodArgs :=
  args.modifyResult argIndex fun _ => ⟨buffer, JSVALUE_TYPE_STRING, len⟩

def MethodArgs.setResultAsByteBuffer (args : MethodArgs) (argIndex : Int) (byteBuffer : Address)
    (len : Int32) : MethodArgs :=
  args.modifyResult argIndex fun _ => ⟨byteBuffer, JSVALUE_TYPE_BUFFER, len⟩

/-- The length stays as it was. -/
def MethodArgs.setResultAsInt32 (args : MethodArgs) (argIndex : Int) (value : Int32) : MethodArgs :=
  args.modifyResult argIndex fun result =>
    { result with type := JSVALUE_TYPE_INTEGER, value := storeInt32 result.value value }

/-- How string objects decode bytes. Of their code only this is used: it decodes
the UTF-8 form of a text. -/
structure Utf8Decoder where
  decode : List UInt8 → Wide
  decodes : ∀ text : List Char, decode (text.flatMap String.utf8EncodeChar) = Utf16.encode text

/-- A decoder that makes one replacement character of bytes that are no text. -/
def Utf8Decoder.whole : Utf8Decoder where
  decode bytes :=
    match bytes.toByteArray.utf8Decode? with
    | some text => Utf16.encode text.toList
    | none => Utf16.encode [Utf16.replacement]
  decodes text := by
    have decoded : (text.flatMap String.utf8EncodeChar).toByteArray.utf8Decode? = some text.toArray :=
      List.utf8Decode?_utf8Encode
    rw [decoded]

/-- The text that a result stands for. Buffers have bytes: an empty one would give a null
pointer and a negative length an exception, but `SetOutput` takes the address of the
first byte of an array and cannot write either. -/
def JsValue.readString (slot : JsValue) (memory : Memory) (decoder : Utf8Decoder) : Wide :=
  if slot.type = JSVALUE_TYPE_STRING then Terminated.read 0 (memory.wide slot.value)
  else if slot.type = JSVALUE_TYPE_BUFFER then
    let str1 := (memory.bytes slot.value).take (sizeOf32 slot.length)
    let cefStr := decoder.decode str1
    Terminated.read 0 (cefStr ++ [0])
  else []

def MethodArgs.readOutputAsString (args : MethodArgs) (memory : Memory) (decoder : Utf8Decoder)
    (resultIndex : Int) : Wide :=
  match resultIndex with
  | 0 => args.result0.readString memory decoder
  | 1 => args.result1.readString memory decoder
  | 2 => args.result2.readString memory decoder
  | _ => []

/-- Whatever the index is, the type that is tested is that of the first result. -/
def MethodArgs.readOutputAsInt32 (args : MethodArgs) (resultIndex : Int) : Int32 :=
  match resultIndex with
  | 0 => if args.result0.type = JSVALUE_TYPE_INTEGER then args.result0.i32 else 0
  | 1 => if args.result0.type = JSVALUE_TYPE_INTEGER then args.result1.i32 else 0
  | 2 => if args.result0.type = JSVALUE_TYPE_INTEGER then args.result2.i32 else 0
  | _ => 0

/-- A write to a result, by one of the exports. -/
inductive ResultWrite where
  | jsValue (retIndex : Int) (value : JsValue)
  | string (argIndex : Int) (buffer : Address) (len : Int32)
  | byteBuffer (argIndex : Int) (buffer : Address) (len : Int32)
  | int32 (argIndex : Int) (value : Int32)

def MethodArgs.write (args : MethodArgs) : ResultWrite → MethodArgs
  | .jsValue retIndex value => args.setResultAsJsValue retIndex value
  | .string argIndex buffer len => args.setResultAsString argIndex buffer len
  | .byteBuffer argIndex buffer len => args.setResultAsByteBuffer argIndex buffer len
  | .int32 argIndex value => args.setResultAsInt32 argIndex value

def MethodArgs.writeAll (args : MethodArgs) (writes : List ResultWrite) : MethodArgs :=
  writes.foldl MethodArgs.write args

end Results

end CefBridge.Native
