import CefBridge.Native.MethodArgs

/-!
# Managed readers of native strings

A reader lends a buffer to a native export. The export stores the true length of
its string and copies the string into the buffer, with a terminator. The reader
then makes a managed string out of the buffer, most of them by the stored length.

A buffer that is too small for string and terminator is left with an empty
string, while the stored length is still that of the whole string. The readers
notice a longer length but do nothing about it. `readers_exact_iff` says when
they return the native string.
-/

namespace CefBridge.Native

open Library

/-- What ends the call of a reader. -/
inductive Fault where
  | argumentOutOfRange
  | outOfRange
  | accessViolation
  deriving DecidableEq

/-- A managed string made from memory, and how much of the memory it took.
Without a string it is null. -/
structure Taken where
  text : Option Wide
  count : Nat
  deriving DecidableEq

section Framework

/-- Make a string of the characters from a pointer to the first terminator. -/
def newString (memory : Wide) : Except Fault Taken :=
  if 0 ∈ memory then .ok ⟨some (Terminated.read 0 memory), (Terminated.read 0 memory).length + 1⟩
  else .error .accessViolation

/-- Make a string of a given number of characters from a pointer. -/
def newStringFrom (memory : Wide) (length : Int32) : Except Fault Taken :=
  if length.toInt < 0 then .error .argumentOutOfRange
  else if memory.length < length.toInt.toNat then .error .accessViolation
  else .ok ⟨some (memory.take length.toInt.toNat), length.toInt.toNat⟩

/-- Make a string of a given number of characters of an array. -/
def newStringOf (array : Wide) (length : Int32) : Except Fault Taken :=
  if length.toInt < 0 ∨ array.length < length.toInt.toNat then .error .argumentOutOfRange
  else .ok ⟨some (array.take length.toInt.toNat), length.toInt.toNat⟩

/-- Copy a string and its terminator, or store an empty string. -/
def wcscpyS (memory : Memory) (dest : Address) (size : Nat) (src : Wide) : Memory :=
  memory.setWide dest (Terminated.copy 0 size src (memory.wide dest))

/-- Where a new buffer is placed, and what lies behind it. -/
structure Place where
  head : Address
  behind : Wide

/-- A new buffer. The runtime clears it, on the stack too. -/
def Memory.newBuffer (memory : Memory) (place : Place) (size : Nat) : Memory :=
  memory.setWide place.head (List.replicate size 0 ++ place.behind)

end Framework

section Exports

structure MyCefStringHolder where
  value : Wide

structure CefFrame where
  url : Wide

structure CefV8Value where
  stringValue : Wide

abbrev CefV8ValueList := List CefV8Value

/-- Store the length of a string and copy the string. -/
def readOut (memory : Memory) (str : Wide) (outputBuffer : Address) (outputBufferLen : Nat) :
    Memory × Int32 :=
  (wcscpyS memory outputBuffer outputBufferLen str, Int32.ofNat str.length)

def myCefFrame_GetUrl (memory : Memory) (frame : CefFrame) (outputBuffer : Address)
    (outputBufferLen : Nat) : Memory × Int32 :=
  readOut memory frame.url outputBuffer outputBufferLen

def myCefString_Read (memory : Memory) (cefStr : Address) (outputBuffer : Address)
    (outputBufferLen : Nat) : Memory × Int32 :=
  readOut memory (memory.cefString cefStr) outputBuffer outputBufferLen

def myCefStringHolder_Read (memory : Memory) (mycefStr : MyCefStringHolder)
    (outputBuffer : Address) (outputBufferLen : Nat) : Memory × Int32 :=
  readOut memory mycefStr.value outputBuffer outputBufferLen

def myCefJs_CefV8Value_ReadAsString (memory : Memory) (target : CefV8Value)
    (outputBuffer : Address) (outputBufferLen : Nat) : Memory × Int32 :=
  readOut memory target.stringValue outputBuffer outputBufferLen

def myCefJs_MetReadArgAsString (memory : Memory) (jsArgs : CefV8ValueList) (index : Int)
    (outputBuffer : Address) (outputBufferLen : Nat) : Except Fault (Memory × Int32) :=
  -- The index becomes unsigned, so a negative one is out of range too.
  match if index < 0 then none else jsArgs[index.toNat]? with
  | none => .error .outOfRange
  | some value => .ok (readOut memory value.stringValue outputBuffer outputBufferLen)

end Exports

section Readers

variable (memory : Memory) (place : Place)

structure QueryRequestArgs where
  requestCefStringHolder : MyCefStringHolder

def QueryRequestArgs.getRequest (args : QueryRequestArgs) : Except Fault Taken :=
  let BUFF_LEN := 256
  let (after, acutalLen) := myCefStringHolder_Read (memory.newBuffer place BUFF_LEN)
    args.requestCefStringHolder place.head BUFF_LEN
  newStringFrom (after.wide place.head) acutalLen

/-- An argument that is no native string object is a pointer to wide characters,
and null stands for null. -/
def getArgAsString (args : MethodArgs) (index : Int) (stale : UInt64) : Except Fault Taken :=
  let BUFF_LEN := 512
  let v := myCefNativeMetGetArgs args index stale
  if v.type = JSVALUE_TYPE_NATIVE_CEFSTRING then
    let (after, acutalLen) := myCefString_Read (memory.newBuffer place BUFF_LEN) v.value place.head
      BUFF_LEN
    newStringFrom (after.wide place.head) acutalLen
  else if v.value = 0 then .ok ⟨none, 0⟩
  else newString (memory.wide v.value)

def readArgAsString (jsArgs : CefV8ValueList) (index : Int) : Except Fault Taken :=
  let BUFF_LEN := 256
  match myCefJs_MetReadArgAsString (memory.newBuffer place BUFF_LEN) jsArgs index place.head
    BUFF_LEN with
  | .error fault => .error fault
  | .ok (after, acutalLen) => newStringFrom (after.wide place.head) acutalLen

def CefV8Value.readValueAsString (target : CefV8Value) : Except Fault Taken :=
  let BUFF_LEN := 512
  let (after, actualLen) := myCefJs_CefV8Value_ReadAsString (memory.newBuffer place BUFF_LEN) target
    place.head BUFF_LEN
  newStringOf ((after.wide place.head).take BUFF_LEN) actualLen

def CefFrame.getUrl (frame : CefFrame) : Except Fault Taken :=
  let (after, _) := myCefFrame_GetUrl (memory.newBuffer place 255) frame place.head 255
  newString (after.wide place.head)

end Readers

/-- A reader returns a string and takes no more than its buffer holds. -/
def Exact (outcome : Except Fault Taken) (text : Wide) (size : Nat) : Prop :=
  ∃ taken, outcome = .ok taken ∧ taken.text = some text ∧ taken.count ≤ size

/-- The arguments that a visitor of page text or source sends. -/
def visitArgs (string : Address) : MethodArgs :=
  (MethodArgs.zeroed.setArgAsNativeObject 0 string).setArgType 0 JSVALUE_TYPE_NATIVE_CEFSTRING

section Exactness

variable {size : Nat} {text : Wide} (memory : Wide)

theorem toInt_length (text : Wide) (small : text.length < 0x80000000) :
    (Int32.ofNat text.length).toInt = text.length :=
  Int32.toInt_ofNat_of_lt small

/-- A string that is made from the start of a buffer is what was copied into the
buffer only if that was shorter than the buffer. -/
theorem exact_short (free : 0 ∉ text) (room : 0 < size) {outcome : Except Fault Taken}
    (starts : ∀ taken, outcome = .ok taken →
      ∃ count, taken.text = some ((Terminated.copy 0 size text memory).take count))
    (exact : Exact outcome text size) : text.length < size := by
  obtain ⟨taken, completed, same, _⟩ := exact
  obtain ⟨count, start⟩ := starts taken completed
  by_contra long
  apply Terminated.take_copy_ne memory free room (by omega) count
  exact Option.some.inj (start.symm.trans same)

/-- Reading by the stored length from a pointer. -/
theorem newStringFrom_exact_iff (free : 0 ∉ text) (room : 0 < size) (bound : size < 0x80000000) :
    Exact (newStringFrom (Terminated.copy 0 size text memory) (Int32.ofNat text.length)) text size ↔
      text.length < size := by
  constructor
  · apply exact_short memory free room
    intro taken completed
    simp only [newStringFrom] at completed
    split at completed
    · cases completed
    · split at completed
      · cases completed
      · cases completed
        exact ⟨_, rfl⟩
  · intro fits
    have length := toInt_length text (by omega)
    have copied : (Terminated.copy 0 size text memory).take text.length = text :=
      Terminated.take_copy memory fits
    have nonnegative : ¬ (text.length : Int) < 0 := by omega
    have enough : ¬ (Terminated.copy 0 size text memory).length < text.length := by
      rw [Terminated.copy_fits memory fits]
      simp
    refine ⟨⟨some text, text.length⟩, ?_, rfl, fits.le⟩
    rw [newStringFrom, length, if_neg nonnegative, Int.toNat_natCast, if_neg enough, copied]

/-- Reading by the stored length from an array. -/
theorem newStringOf_exact_iff (free : 0 ∉ text) (room : 0 < size) (bound : size < 0x80000000) :
    Exact (newStringOf ((Terminated.copy 0 size text memory).take size) (Int32.ofNat text.length)) text
      size ↔ text.length < size := by
  constructor
  · apply exact_short memory free room
    intro taken completed
    simp only [newStringOf] at completed
    split at completed
    · cases completed
    · cases completed
      exact ⟨_, by rw [List.take_take]⟩
  · intro fits
    have length := toInt_length text (by omega)
    have copied : (Terminated.copy 0 size text memory).take text.length = text :=
      Terminated.take_copy memory fits
    have enough : ¬ ((text.length : Int) < 0 ∨
        ((Terminated.copy 0 size text memory).take size).length < text.length) := by
      rw [Terminated.copy_fits memory fits, List.length_take, List.length_append]
      omega
    refine ⟨⟨some text, text.length⟩, ?_, rfl, fits.le⟩
    rw [newStringOf, length, Int.toNat_natCast, if_neg enough, List.take_take,
      Nat.min_eq_left fits.le, copied]

/-- Reading to the terminator from a pointer. -/
theorem newString_exact_iff (free : 0 ∉ text) (room : 0 < size) :
    Exact (newString (Terminated.copy 0 size text memory)) text size ↔ text.length < size := by
  have read := Terminated.read_copy_iff memory free room
  constructor
  · rintro ⟨taken, completed, same, _⟩
    simp only [newString] at completed
    split at completed
    · cases completed
      exact read.mp (Option.some.inj same)
    · cases completed
  · intro fits
    have terminated : 0 ∈ Terminated.copy 0 size text memory := by
      rw [Terminated.copy_fits memory fits]
      simp
    refine ⟨⟨some text, text.length + 1⟩, ?_, rfl, Nat.succ_le_of_lt fits⟩
    simp [newString, terminated, read.mpr fits]

end Exactness

/-- A visited text arrives as a native string object. -/
theorem visitArgs_native (string : Address) (stale : UInt64) :
    myCefNativeMetGetArgs (visitArgs string) 0 stale =
      ⟨string, JSVALUE_TYPE_NATIVE_CEFSTRING, 0⟩ := by
  simp [visitArgs, MethodArgs.setArgAsNativeObject, MethodArgs.setArgType, MethodArgs.modifyArg,
    myCefNativeMetGetArgs]

/-- A reader returns a native string, within its buffer, exactly when the string
is shorter than the buffer. -/
theorem readers_exact_iff (memory : Memory) (place : Place) (text : Wide) (free : 0 ∉ text) :
    (∀ args index stale, (myCefNativeMetGetArgs args index stale).type =
        JSVALUE_TYPE_NATIVE_CEFSTRING →
      memory.cefString (myCefNativeMetGetArgs args index stale).value = text →
        (Exact (getArgAsString memory place args index stale) text 512 ↔ text.length < 512)) ∧
    (Exact (QueryRequestArgs.getRequest memory place ⟨⟨text⟩⟩) text 256 ↔ text.length < 256) ∧
    (∀ (jsArgs : CefV8ValueList) (index : Nat), jsArgs[index]? = some ⟨text⟩ →
      (Exact (readArgAsString memory place jsArgs index) text 256 ↔ text.length < 256)) ∧
    (Exact (CefV8Value.readValueAsString memory place ⟨text⟩) text 512 ↔ text.length < 512) ∧
    (Exact (CefFrame.getUrl memory place ⟨text⟩) text 255 ↔ text.length < 255) := by
  refine ⟨?_, ?_, ?_, ?_, ?_⟩
  · intro args index stale native content
    have unchanged : (memory.newBuffer place 512).cefString = memory.cefString := rfl
    simp only [getArgAsString, native, if_true, myCefString_Read, readOut, unchanged, content,
      wcscpyS, Memory.setWide_same]
    exact newStringFrom_exact_iff _ free (by decide) (by decide)
  · simp only [QueryRequestArgs.getRequest, myCefStringHolder_Read, readOut, wcscpyS,
      Memory.setWide_same]
    exact newStringFrom_exact_iff _ free (by decide) (by decide)
  · intro jsArgs index present
    have within : ¬ (index : Int) < 0 := by omega
    simp only [readArgAsString, myCefJs_MetReadArgAsString, within, if_false, Int.toNat_natCast,
      present, readOut, wcscpyS, Memory.setWide_same]
    exact newStringFrom_exact_iff _ free (by decide) (by decide)
  · simp only [CefV8Value.readValueAsString, myCefJs_CefV8Value_ReadAsString, readOut, wcscpyS,
      Memory.setWide_same]
    exact newStringOf_exact_iff _ free (by decide) (by decide)
  · simp only [CefFrame.getUrl, myCefFrame_GetUrl, readOut, wcscpyS, Memory.setWide_same]
    exact newString_exact_iff _ free (by decide)

/-- A string of 255 characters fits into the larger buffers, but not into the
one for a frame's URL. -/
theorem readers_exact_at_255 :
    let text : Wide := List.replicate 255 97
    let memory : Memory := { Memory.blank with cefString := fun _ => text }
    Exact (getArgAsString memory ⟨1, []⟩ (visitArgs 2) 0 0) text 512 ∧
      Exact (QueryRequestArgs.getRequest memory ⟨1, []⟩ ⟨⟨text⟩⟩) text 256 ∧
      ¬ Exact (CefFrame.getUrl memory ⟨1, []⟩ ⟨text⟩) text 255 := by
  intro text memory
  obtain ⟨argument, request, _, _, url⟩ := readers_exact_iff memory ⟨1, []⟩ text (by decide +kernel)
  have visited := argument (visitArgs 2) 0 0 (by rw [visitArgs_native]) rfl
  exact ⟨visited.mpr (by decide +kernel), request.mpr (by decide +kernel),
    fun exact => absurd (url.mp exact) (by decide +kernel)⟩

/-- A request of 256 characters is read as 256 null characters. -/
theorem getRequest_lost :
    let text : Wide := List.replicate 256 97
    QueryRequestArgs.getRequest Memory.blank ⟨1, []⟩ ⟨⟨text⟩⟩ =
        .ok ⟨some (List.replicate 256 0), 256⟩ ∧
      ¬ Exact (QueryRequestArgs.getRequest Memory.blank ⟨1, []⟩ ⟨⟨text⟩⟩) text 256 := by
  intro text
  have outcome : QueryRequestArgs.getRequest Memory.blank ⟨1, []⟩ ⟨⟨text⟩⟩ =
      .ok ⟨some (List.replicate 256 0), 256⟩ := by decide +kernel
  refine ⟨outcome, ?_⟩
  rintro ⟨taken, completed, same, _⟩
  rw [outcome] at completed
  cases completed
  exact absurd same (by decide +kernel)

end CefBridge.Native
