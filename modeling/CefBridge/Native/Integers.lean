import CefBridge.Library.Latest
import CefBridge.Native.MethodArgs

/-!
# Integer results of managed code

Exports of four kinds write results, each into the slot of its index, and native
code reads a slot as an integer. A slot that was last written as an integer should
give that integer, and any other slot zero, whatever else was written.

Each write changes its own slot alone. The reader, however, tests the type of
the first slot for all of them. `readOutputAsInt32_local_iff` says when a history
of writes does not show this.
-/

namespace CefBridge.Native

open Library Latest

section Slots

/-- The result of an index that native code reads. -/
def MethodArgs.result (args : MethodArgs) (slot : Fin 3) : JsValue :=
  match slot with
  | 0 => args.result0
  | 1 => args.result1
  | 2 => args.result2

def ResultWrite.index : ResultWrite → Int
  | .jsValue retIndex _ => retIndex
  | .string argIndex _ _ => argIndex
  | .byteBuffer argIndex _ _ => argIndex
  | .int32 argIndex _ => argIndex

/-- What a write makes of its slot. -/
def ResultWrite.change : ResultWrite → JsValue → JsValue
  | .jsValue _ value, _ => value
  | .string _ buffer len, _ => ⟨buffer, JSVALUE_TYPE_STRING, len⟩
  | .byteBuffer _ buffer len, _ => ⟨buffer, JSVALUE_TYPE_BUFFER, len⟩
  | .int32 _ value, result =>
    { result with type := JSVALUE_TYPE_INTEGER, value := storeInt32 result.value value }

/-- Every write changes the slot of its index. -/
theorem write_eq (args : MethodArgs) (write : ResultWrite) :
    args.write write = args.modifyResult write.index write.change := by
  cases write <;> rfl

theorem modifyResult_same (args : MethodArgs) (slot : Fin 3) (change : JsValue → JsValue) :
    (args.modifyResult slot.val change).result slot = change (args.result slot) := by
  match slot with
  | 0 => rfl
  | 1 => rfl
  | 2 => rfl

theorem modifyResult_other (args : MethodArgs) (slot : Fin 3) (index : Int)
    (change : JsValue → JsValue) (other : index ≠ slot.val) :
    (args.modifyResult index change).result slot = args.result slot := by
  unfold MethodArgs.modifyResult
  match slot with
  | 0 => split <;> first | rfl | contradiction
  | 1 => split <;> first | rfl | contradiction
  | 2 => split <;> first | rfl | contradiction

/-- The reader takes the integer of a slot if the first slot holds one. -/
theorem readOutputAsInt32_eq (args : MethodArgs) (slot : Fin 3) :
    args.readOutputAsInt32 slot.val =
      if (args.result 0).type = JSVALUE_TYPE_INTEGER then (args.result slot).i32 else 0 := by
  match slot with
  | 0 => rfl
  | 1 => rfl
  | 2 => rfl

end Slots

section History

/-- The integer that a value holds. -/
def JsValue.integer (value : JsValue) : Option Int32 :=
  if value.type = JSVALUE_TYPE_INTEGER then some value.i32 else none

/-- The integer that a write stores. -/
def ResultWrite.integer : ResultWrite → Option Int32
  | .jsValue _ value => value.integer
  | .string _ _ _ => none
  | .byteBuffer _ _ _ => none
  | .int32 _ value => some value

/-- The last write to a slot. -/
def lastWrite (slot : Fin 3) (writes : List ResultWrite) : Option ResultWrite :=
  (writes.filter fun write => write.index = (slot.val : Int)).getLast?

/-- The integer that the last write to a slot stored, or zero. -/
def storedInteger (slot : Fin 3) (writes : List ResultWrite) : Int32 :=
  ((lastWrite slot writes).bind ResultWrite.integer).getD 0

theorem change_integer (write : ResultWrite) (value : JsValue) :
    (write.change value).integer = write.integer := by
  cases write with
  | jsValue retIndex value => rfl
  | string argIndex buffer len => rfl
  | byteBuffer argIndex buffer len => rfl
  | int32 argIndex number =>
    simp only [ResultWrite.change, JsValue.integer, if_true, storeInt32_i32, ResultWrite.integer]

/-- A write goes to a slot. -/
def ResultWrite.To (write : ResultWrite) (slot : Fin 3) : Prop := write.index = (slot.val : Int)

instance (write : ResultWrite) (slot : Fin 3) : Decidable (write.To slot) :=
  inferInstanceAs (Decidable (_ = _))

theorem lastWrite_eq (slot : Fin 3) (writes : List ResultWrite) :
    lastWrite slot writes = latest ResultWrite.To slot writes := rfl

theorem lastWrite_other (slot : Fin 3) (writes : List ResultWrite) (write : ResultWrite)
    (other : ¬ write.To slot) : lastWrite slot (writes ++ [write]) = lastWrite slot writes := by
  rw [lastWrite_eq, latest_other other, lastWrite_eq]

theorem write_same (args : MethodArgs) (write : ResultWrite) (slot : Fin 3) (same : write.To slot) :
    ((args.write write).result slot).integer = write.integer := by
  rw [ResultWrite.To] at same
  rw [write_eq, same, modifyResult_same, change_integer]

theorem write_other (args : MethodArgs) (write : ResultWrite) (slot : Fin 3)
    (other : ¬ write.To slot) :
    ((args.write write).result slot).integer = (args.result slot).integer := by
  rw [write_eq, modifyResult_other args slot write.index write.change other]

theorem zeroed_integer (slot : Fin 3) : (MethodArgs.zeroed.result slot).integer = none := by
  match slot with
  | 0 => rfl
  | 1 => rfl
  | 2 => rfl

/-- After any writes to zeroed arguments, a slot holds the integer of the last
write to it, if that write stored one. -/
theorem writeAll_integer (slot : Fin 3) (writes : List ResultWrite) :
    ((MethodArgs.zeroed.writeAll writes).result slot).integer =
      (lastWrite slot writes).bind ResultWrite.integer := by
  have reading := read_run MethodArgs.write (fun args slot => (args.result slot).integer)
    ResultWrite.integer write_same write_other MethodArgs.zeroed writes slot
  rw [zeroed_integer, ← lastWrite_eq] at reading
  rw [MethodArgs.writeAll, ← Runs.run, reading]
  cases lastWrite slot writes with
  | none => rfl
  | some write => rfl

end History

/-- At every point of a history a slot gives the integer that was last stored in
it, and a write to another slot does not change its answer. -/
structure SlotLocal (slot : Fin 3) (writes : List ResultWrite) : Prop where
  answers : ∀ before after, writes = before ++ after →
    (MethodArgs.zeroed.writeAll before).readOutputAsInt32 slot.val = storedInteger slot before
  untouched : ∀ before write after, writes = before ++ write :: after → write.index ≠ (slot.val : Int) →
    (MethodArgs.zeroed.writeAll (before ++ [write])).readOutputAsInt32 slot.val =
      (MethodArgs.zeroed.writeAll before).readOutputAsInt32 slot.val

/-- The first slot and this one both hold integers or both do not, or the first
four bytes of this one are zero. -/
def TypesAgree (slot : Fin 3) (args : MethodArgs) : Prop :=
  ((args.result 0).type = JSVALUE_TYPE_INTEGER ↔ (args.result slot).type = JSVALUE_TYPE_INTEGER) ∨
    (args.result slot).i32 = 0

instance (slot : Fin 3) (args : MethodArgs) : Decidable (TypesAgree slot args) :=
  inferInstanceAs (Decidable (_ ∨ _))

/-- The answer for a slot is the integer that it holds exactly when its type and
that of the first slot agree, as far as its bytes show it. -/
theorem readOutputAsInt32_integer_iff (slot : Fin 3) (args : MethodArgs) :
    args.readOutputAsInt32 slot.val = (args.result slot).integer.getD 0 ↔ TypesAgree slot args := by
  rw [readOutputAsInt32_eq, TypesAgree, JsValue.integer]
  by_cases first : (args.result 0).type = JSVALUE_TYPE_INTEGER
  · by_cases own : (args.result slot).type = JSVALUE_TYPE_INTEGER
    · simp [first, own]
    · simp [first, own]
  · by_cases own : (args.result slot).type = JSVALUE_TYPE_INTEGER
    · simp [first, own, eq_comm]
    · simp [first, own]

/-- In a history of writes a slot is read locally exactly when, at every point of
it, the first slot and this one agree about being integers, or the first four
bytes of this one are zero. -/
theorem readOutputAsInt32_local_iff (slot : Fin 3) (writes : List ResultWrite) :
    SlotLocal slot writes ↔
      Runs.EachState MethodArgs.write MethodArgs.zeroed (TypesAgree slot) writes := by
  have answer : ∀ before : List ResultWrite,
      (MethodArgs.zeroed.writeAll before).readOutputAsInt32 slot.val = storedInteger slot before ↔
        TypesAgree slot (MethodArgs.zeroed.writeAll before) := by
    intro before
    rw [storedInteger, ← writeAll_integer]
    exact readOutputAsInt32_integer_iff slot _
  constructor
  · intro whole before after split
    exact (answer before).mp (whole.answers before after split)
  · intro agree
    have answers : ∀ before after, writes = before ++ after →
        (MethodArgs.zeroed.writeAll before).readOutputAsInt32 slot.val =
          storedInteger slot before := by
      intro before after split
      exact (answer before).mpr (agree before after split)
    refine ⟨answers, ?_⟩
    intro before write after split other
    have next : writes = (before ++ [write]) ++ after := by simpa using split
    rw [answers before (write :: after) split, answers (before ++ [write]) after next,
      storedInteger, lastWrite_other slot before write other, storedInteger]

/-- An integer in the second slot alone is not read. -/
theorem readOutputAsInt32_lost : ¬ SlotLocal 1 [.int32 1 5] := by
  intro whole
  have answer := whole.answers [.int32 1 5] [] rfl
  exact absurd answer (by decide)

end CefBridge.Native
