import CefBridge.Native.MethodArgs

/-!
# String results of managed code

Managed code sets a result as a string or as an array of bytes, which the native
code then reads as a string. A string is handed over as a pointer to its
characters with a terminator behind them, an array as a pointer and a length.

Reading ends at the first null character either way, an empty array has no first
element to point to, and bytes are a text only if no surrogate stands alone.
`readOutputAsString_exact_iff` says when the string that was set is read.
-/

namespace CefBridge.Native

open Library

/-- What the native code sees of a call: its arguments, and memory. -/
structure Call where
  args : MethodArgs
  memory : Memory

/-- What ends a call that sets a result. -/
inductive ResultFault where
  | indexOutOfRange
  deriving DecidableEq

section SetOutput

/-- Set a result to a string, which is passed at a place in memory. -/
def Call.setOutputString (call : Call) (index : Int) (str : Managed UInt16) (place : Address) :
    Except ResultFault Call :=
  .ok
    { args := call.args.setResultAsString index place str.length
      memory := call.memory.setWide place (str.items ++ [0]) }

def Call.setOutputInt32 (call : Call) (index : Int) (value : Int32) : Except ResultFault Call :=
  .ok { call with args := call.args.setResultAsInt32 index value }

/-- Set a result to an array, which is pinned at a place in memory. The pointer is
to the first element. -/
def Call.setOutputBytes (call : Call) (index : Int) (buffer : Managed UInt8) (place : Address) :
    Except ResultFault Call :=
  if buffer.items = [] then .error .indexOutOfRange
  else
    .ok
      { args := call.args.setResultAsByteBuffer index place buffer.length
        memory := call.memory.setBytes place buffer.items }

end SetOutput

/-- The UTF-8 form of a string. A surrogate that stands alone is replaced. -/
def utf8Bytes (str : Wide) : List UInt8 := (Utf16.decode str).flatMap String.utf8EncodeChar

/-- A call completes, and the string is read as a result. -/
def Delivers (outcome : Except ResultFault Call) (decoder : Utf8Decoder) (index : Int)
    (str : Wide) : Prop :=
  ∃ call, outcome = .ok call ∧ call.args.readOutputAsString call.memory decoder index = str

section Slots

/-- A result that managed code sets is the one that native code reads. -/
theorem readOutputAsString_modifyResult (args : MethodArgs) (memory : Memory) (decoder : Utf8Decoder)
    (slot : Fin 3) (value : JsValue) :
    (args.modifyResult slot.val fun _ => value).readOutputAsString memory decoder slot.val =
      value.readString memory decoder := by
  match slot with
  | 0 => rfl
  | 1 => rfl
  | 2 => rfl

theorem readString_string (memory : Memory) (decoder : Utf8Decoder) (place : Address)
    (length : Int32) :
    JsValue.readString ⟨place, JSVALUE_TYPE_STRING, length⟩ memory decoder =
      Terminated.read 0 (memory.wide place) := rfl

theorem readString_bytes (memory : Memory) (decoder : Utf8Decoder) (place : Address)
    (buffer : Managed UInt8) :
    JsValue.readString ⟨place, JSVALUE_TYPE_BUFFER, buffer.length⟩ (memory.setBytes place buffer.items)
      decoder = Terminated.read 0 (decoder.decode buffer.items ++ [0]) := by
  have other : JSVALUE_TYPE_BUFFER ≠ JSVALUE_TYPE_STRING := by decide
  simp only [JsValue.readString, other, if_false, if_true, Memory.setBytes_same, sizeOf32_length,
    List.take_length]

end Slots

section Text

/-- Only the empty string has no bytes. -/
theorem utf8Bytes_eq_nil_iff (str : Wide) : utf8Bytes str = [] ↔ str = [] := by
  constructor
  · intro none
    have decoded : Utf16.decode str = [] := by
      cases text : Utf16.decode str with
      | nil => rfl
      | cons symbol rest =>
        rw [utf8Bytes, text, List.flatMap_cons, List.append_eq_nil_iff] at none
        exact absurd none.1 String.utf8EncodeChar_ne_nil
    have length := Utf16.length_encode_decode str
    rw [decoded] at length
    exact List.eq_nil_of_length_eq_zero length.symm
  · rintro rfl
    rfl

/-- The bytes of a string are decoded and read as the string exactly when it has
no null character and no surrogate stands alone. -/
theorem read_utf8Bytes_iff (decoder : Utf8Decoder) (str : Wide) :
    Terminated.read 0 (decoder.decode (utf8Bytes str) ++ [0]) = str ↔
      0 ∉ str ∧ Utf16.paired str = true := by
  rw [utf8Bytes, decoder.decodes, ← Utf16.encode_decode_iff, Terminated.read_append_stop,
    Terminated.read_eq_iff (Utf16.length_encode_decode str)]
  exact and_comm

end Text

/-- After any writes, the string that is set as a result is read from it exactly
when it has no null character. Its bytes are read as the string exactly when it
also is not empty and no surrogate stands alone. -/
theorem readOutputAsString_exact_iff (decoder : Utf8Decoder) (start : MethodArgs)
    (writes : List ResultWrite) (memory : Memory) (slot : Fin 3) (str : Managed UInt16)
    (bytes : Managed UInt8) (encoded : bytes.items = utf8Bytes str.items) (place : Address) :
    (Delivers (Call.setOutputString ⟨start.writeAll writes, memory⟩ slot.val str place) decoder
        slot.val str.items ↔ 0 ∉ str.items) ∧
    (Delivers (Call.setOutputBytes ⟨start.writeAll writes, memory⟩ slot.val bytes place) decoder
        slot.val str.items ↔
      str.items ≠ [] ∧ 0 ∉ str.items ∧ Utf16.paired str.items = true) := by
  constructor
  · have read : ∀ args : MethodArgs,
        (args.setResultAsString slot.val place str.length).readOutputAsString
          (memory.setWide place (str.items ++ [0])) decoder slot.val = str.items ↔ 0 ∉ str.items := by
      intro args
      rw [MethodArgs.setResultAsString, readOutputAsString_modifyResult, readString_string,
        Memory.setWide_same, Terminated.read_terminated_iff]
    constructor
    · rintro ⟨call, completed, same⟩
      cases completed
      exact (read _).mp same
    · intro free
      exact ⟨_, rfl, (read _).mpr free⟩
  · have read : ∀ args : MethodArgs,
        (args.setResultAsByteBuffer slot.val place bytes.length).readOutputAsString
          (memory.setBytes place bytes.items) decoder slot.val = str.items ↔
            0 ∉ str.items ∧ Utf16.paired str.items = true := by
      intro args
      rw [MethodArgs.setResultAsByteBuffer, readOutputAsString_modifyResult, readString_bytes, encoded,
        read_utf8Bytes_iff]
    have shown : bytes.items = [] ↔ str.items = [] := by
      rw [encoded]
      exact utf8Bytes_eq_nil_iff str.items
    constructor
    · rintro ⟨call, completed, same⟩
      by_cases empty : bytes.items = []
      · simp [Call.setOutputBytes, empty] at completed
      · simp only [Call.setOutputBytes, empty, if_false] at completed
        cases completed
        exact ⟨mt shown.mpr empty, (read _).mp same⟩
    · rintro ⟨filled, free, paired⟩
      have nonempty : bytes.items ≠ [] := mt shown.mp filled
      refine ⟨⟨(start.writeAll writes).setResultAsByteBuffer slot.val place bytes.length,
        memory.setBytes place bytes.items⟩, ?_, (read _).mpr ⟨free, paired⟩⟩
      rw [Call.setOutputBytes, if_neg nonempty]

/-- A string of two characters, the second of which has two bytes. -/
theorem readOutputAsString_exact_two_characters :
    let call : Call := ⟨MethodArgs.zeroed.writeAll [.int32 2 5], Memory.blank⟩
    Delivers (call.setOutputString 2 ⟨[104, 233], by decide⟩ 1) .whole 2 [104, 233] ∧
      Delivers (call.setOutputBytes 2 ⟨[104, 195, 169], by decide⟩ 1) .whole 2 [104, 233] := by
  obtain ⟨string, bytes⟩ := readOutputAsString_exact_iff .whole .zeroed [.int32 2 5] .blank 2
    ⟨[104, 233], by decide⟩ ⟨[104, 195, 169], by decide⟩ (by decide +kernel) 1
  exact ⟨string.mpr (by decide), bytes.mpr (by decide)⟩

/-- A string with a null character is cut off, and an empty array is refused. -/
theorem setOutput_lost :
    let call : Call := ⟨.zeroed, .blank⟩
    ¬ Delivers (call.setOutputString 0 ⟨[97, 0, 98], by decide⟩ 1) .whole 0 [97, 0, 98] ∧
      call.setOutputBytes 0 ⟨utf8Bytes [], by decide⟩ 1 = .error .indexOutOfRange := by
  intro call
  refine ⟨?_, rfl⟩
  rintro ⟨after, completed, same⟩
  cases completed
  exact absurd same (by decide +kernel)

end CefBridge.Native
