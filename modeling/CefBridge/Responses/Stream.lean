import CefBridge.Library.Runs
import CefBridge.Library.Source

/-!
# Responses that are read from a stream

A stream handler answers a request with what a stream holds. A stream that may block is
read on the file thread: the handler posts a task that fills a buffer, and gives out the
buffer when it is asked again. Any other stream is read where the handler is asked.

How many bytes a stream gives at each read is its own affair. `Source` has what is
promised of it.

The browser asks again after it was called back, and no more when the response has ended.
-/

namespace CefBridge.Responses

open Library

universe u
variable {Stream : Type u}

/-- The buffer between the threads. Bytes beyond the written ones have no meaning. -/
structure Buffer where
  size : Nat := 0
  bytesRequested : Nat := 0
  written : List UInt8 := []
  bytesRead : Nat := 0

namespace Buffer

def bytesWritten (buffer : Buffer) : Nat := buffer.written.length

def reset (buffer : Buffer) (newSize : Nat) : Buffer where
  size := if buffer.size < newSize then newSize else buffer.size
  bytesRequested := newSize

def isEmpty (buffer : Buffer) : Bool := buffer.bytesWritten = 0

def canRead (buffer : Buffer) : Bool := buffer.bytesRead < buffer.bytesWritten

/-- Give out bytes of the buffer, as many as are asked for and left. -/
def writeTo (buffer : Buffer) (bytesToRead : Nat) : Buffer × List UInt8 :=
  let writeSize := min bytesToRead (buffer.bytesWritten - buffer.bytesRead)
  ({ buffer with bytesRead := buffer.bytesRead + writeSize },
    (buffer.written.drop buffer.bytesRead).take writeSize)

/-- Read until the buffer is full or the stream has no more data. -/
def readFrom (source : Source UInt8 Stream) (buffer : Buffer) (reader : Stream) : Buffer × Stream :=
  let count := buffer.bytesRequested - buffer.bytesWritten
  let (read, reader) := source.fill (count + 1) count reader
  ({ buffer with written := buffer.written ++ read }, reader)

end Buffer

/-- A handler, and the size that a posted task is to read. -/
structure CefStreamResourceHandler (Stream : Type u) where
  stream : Stream
  readOnFileThread : Bool
  buffer : Option Buffer := none
  posted : Option Nat := none

namespace CefStreamResourceHandler

variable (source : Source UInt8 Stream)

/-- Give out bytes of the response: the handler afterwards, the bytes, and whether the
response goes on. -/
def readResponse (handler : CefStreamResourceHandler Stream) (bytesToRead : Nat) :
    CefStreamResourceHandler Stream × List UInt8 × Bool :=
  if handler.readOnFileThread then
    match handler.buffer.filter fun buffer => buffer.canRead || buffer.isEmpty with
    | some buffer =>
      if buffer.canRead then
        let (buffer, bytes) := buffer.writeTo bytesToRead
        ({ handler with buffer := some buffer }, bytes, 0 < bytes.length)
      else (handler, [], false)
    | none => ({ handler with posted := some bytesToRead }, [], true)
  else
    let (bytes, stream) := source.fill (bytesToRead + 1) bytesToRead handler.stream
    ({ handler with stream }, bytes, 0 < bytes.length)

/-- The task on the file thread. -/
def readOnFileThreadTask (handler : CefStreamResourceHandler Stream) (bytesToRead : Nat) :
    CefStreamResourceHandler Stream :=
  let buffer := handler.buffer.getD {}
  let (buffer, stream) := (buffer.reset bytesToRead).readFrom source handler.stream
  { handler with stream, buffer := some buffer, posted := none }

end CefStreamResourceHandler

/-- A response that is being loaded, with what the browser has got of it. -/
structure Loading (Stream : Type u) where
  handler : CefStreamResourceHandler Stream
  delivered : List UInt8 := []
  ended : Bool := false
  continues : Nat := 0

inductive LoadEvent where
  | readResponse (bytesToRead : Nat)
  | fileThread

namespace Loading

variable (source : Source UInt8 Stream)

/-- The response of a handler that was just made. -/
def new (stream : Stream) (mayBlock : Bool) : Loading Stream := { handler := ⟨stream, mayBlock, none, none⟩ }

/-- The browser asks for some bytes while no task is posted and the response has not
ended. The file thread runs the posted task and has the browser called back. -/
def step (loading : Loading Stream) : LoadEvent → Option (Loading Stream)
  | .readResponse bytesToRead =>
    if loading.handler.posted = none ∧ loading.ended = false ∧ 0 < bytesToRead then
      let (handler, bytes, goesOn) := loading.handler.readResponse source bytesToRead
      some { loading with handler, delivered := loading.delivered ++ bytes, ended := !goesOn }
    else none
  | .fileThread =>
    loading.handler.posted.map fun bytesToRead =>
      { loading with
        handler := loading.handler.readOnFileThreadTask source bytesToRead
        continues := loading.continues + 1 }

def run (loading : Loading Stream) (events : List LoadEvent) : Option (Loading Stream) :=
  events.foldlM (step source) loading

end Loading

namespace Buffer

/-- What has not been given out yet. -/
def unread (buffer : Buffer) : List UInt8 := buffer.written.drop buffer.bytesRead

/-- The buffer is read where it was written, and written where there is memory. -/
structure Sound (buffer : Buffer) : Prop where
  read : buffer.bytesRead ≤ buffer.bytesWritten
  written : buffer.bytesWritten ≤ buffer.bytesRequested
  memory : buffer.bytesRequested ≤ buffer.size

variable {buffer : Buffer}

theorem canRead_iff : buffer.canRead = true ↔ buffer.unread ≠ [] := by
  rw [canRead, decide_eq_true_iff, bytesWritten, unread, ne_eq, List.drop_eq_nil_iff,
    Nat.not_le]

theorem isEmpty_iff : buffer.isEmpty = true ↔ buffer.written = [] := by
  rw [isEmpty, decide_eq_true_iff, bytesWritten, List.length_eq_zero_iff]

/-- Bytes that are given out stand before those that are left. -/
theorem writeTo_eq (sound : buffer.Sound) (bytesToRead : Nat) :
    (buffer.writeTo bytesToRead).1.Sound ∧
      (buffer.writeTo bytesToRead).1.written = buffer.written ∧
      (buffer.writeTo bytesToRead).2 ++ (buffer.writeTo bytesToRead).1.unread = buffer.unread ∧
      (0 < bytesToRead → buffer.unread ≠ [] → (buffer.writeTo bytesToRead).2 ≠ []) := by
  have read := sound.read
  refine ⟨⟨?_, sound.written, sound.memory⟩, rfl, ?_, ?_⟩
  · simp only [writeTo, bytesWritten] at read ⊢
    omega
  · simp only [writeTo, unread]
    rw [← List.drop_drop]
    exact List.take_append_drop _ _
  · intro some left
    rw [← canRead_iff, canRead, decide_eq_true_iff] at left
    apply List.ne_nil_of_length_pos
    simp only [writeTo, List.length_take, List.length_drop]
    simp only [bytesWritten] at left ⊢
    omega

/-- A buffer that is filled anew holds the next bytes of the stream. -/
theorem reset_readFrom (source : Source UInt8 Stream) (buffer : Buffer) (newSize : Nat) (reader : Stream) :
    ((buffer.reset newSize).readFrom source reader).1.Sound ∧
      ((buffer.reset newSize).readFrom source reader).1.written = (source.rest reader).take newSize ∧
      ((buffer.reset newSize).readFrom source reader).1.unread = (source.rest reader).take newSize ∧
      source.rest ((buffer.reset newSize).readFrom source reader).2 = (source.rest reader).drop newSize := by
  have count : (buffer.reset newSize).bytesRequested - (buffer.reset newSize).bytesWritten = newSize := rfl
  obtain ⟨read, left⟩ := source.fill_eq (Nat.lt_succ_self newSize) reader
  have written : ((buffer.reset newSize).readFrom source reader).1.written =
      (source.rest reader).take newSize := by
    simp only [readFrom, count]
    rw [read]
    rfl
  refine ⟨⟨Nat.zero_le _, ?_, ?_⟩, written, ?_, left⟩
  · rw [bytesWritten, written, List.length_take]
    exact Nat.min_le_left _ _
  · simp only [readFrom, reset]
    split_ifs <;> omega
  · rw [unread, written]
    rfl

end Buffer

section Runs

variable {source : Source UInt8 Stream}

/-- What has been read from the stream and not been given out. -/
def CefStreamResourceHandler.unread (handler : CefStreamResourceHandler Stream) : List UInt8 :=
  match handler.buffer with
  | some buffer => buffer.unread
  | none => []

/-- The last task found nothing in the stream. -/
def CefStreamResourceHandler.drained (handler : CefStreamResourceHandler Stream) : Bool :=
  handler.buffer.any Buffer.isEmpty

/-- What holds while a response with a content is loaded. -/
structure Loading.Sound (source : Source UInt8 Stream) (content : List UInt8) (loading : Loading Stream) :
    Prop where
  whole : loading.delivered ++ loading.handler.unread ++ source.rest loading.handler.stream = content
  ended : loading.ended = true → loading.handler.unread = [] ∧ source.rest loading.handler.stream = []
  buffer : ∀ buffer ∈ loading.handler.buffer, buffer.Sound
  drained : loading.handler.drained = true →
    source.rest loading.handler.stream = [] ∧ loading.handler.posted = none
  direct : loading.handler.readOnFileThread = false →
    loading.handler.buffer = none ∧ loading.handler.posted = none
  posted : ∀ bytesToRead ∈ loading.handler.posted, 0 < bytesToRead ∧ loading.ended = false ∧
    loading.handler.unread = []
  counted : loading.continues ≤
    (loading.delivered ++ loading.handler.unread).length + if loading.handler.drained then 1 else 0

variable {content : List UInt8} {loading after : Loading Stream}

/-- What a handler does when it is asked for bytes. -/
inductive Answered (source : Source UInt8 Stream) (handler : CefStreamResourceHandler Stream)
    (bytesToRead : Nat) : CefStreamResourceHandler Stream × List UInt8 × Bool → Prop
  | direct (sync : handler.readOnFileThread = false) :
      Answered source handler bytesToRead
        ({ handler with stream := (source.fill (bytesToRead + 1) bytesToRead handler.stream).2 },
          (source.rest handler.stream).take bytesToRead,
          0 < ((source.rest handler.stream).take bytesToRead).length)
  | buffered (buffer : Buffer) (present : handler.buffer = some buffer) (left : buffer.unread ≠ []) :
      Answered source handler bytesToRead
        ({ handler with buffer := some (buffer.writeTo bytesToRead).1 }, (buffer.writeTo bytesToRead).2,
          0 < (buffer.writeTo bytesToRead).2.length)
  | drained (empty : handler.drained = true) (none : handler.unread = []) :
      Answered source handler bytesToRead (handler, [], false)
  | posts (async : handler.readOnFileThread = true) (none : handler.unread = [])
      (more : handler.drained = false) :
      Answered source handler bytesToRead ({ handler with posted := some bytesToRead }, [], true)

theorem readResponse_answered (handler : CefStreamResourceHandler Stream) (bytesToRead : Nat) :
    Answered source handler bytesToRead (handler.readResponse source bytesToRead) := by
  obtain ⟨stream, readOnFileThread, buffer, posted⟩ := handler
  cases readOnFileThread with
  | false =>
    obtain ⟨read, -⟩ := source.fill_eq (Nat.lt_succ_self bytesToRead) stream
    simp only [CefStreamResourceHandler.readResponse, Bool.false_eq_true, if_false]
    rw [show (source.fill (bytesToRead + 1) bytesToRead stream).1 = _ from read]
    exact .direct rfl
  | true =>
    rw [CefStreamResourceHandler.readResponse, if_pos rfl]
    cases buffer with
    | none => exact .posts rfl rfl rfl
    | some buffer =>
      cases left : buffer.canRead with
      | true =>
        simp only [Option.filter_some, left, Bool.true_or, if_true]
        exact .buffered buffer rfl (Buffer.canRead_iff.mp left)
      | false =>
        have unread : buffer.unread = [] := by
          by_contra more
          rw [Buffer.canRead_iff.mpr more] at left
          contradiction
        cases empty : buffer.isEmpty with
        | true =>
          simp only [Option.filter_some, left, empty, Bool.or_true, if_true, Bool.false_eq_true, if_false]
          exact .drained empty unread
        | false =>
          simp only [Option.filter_some, left, empty, Bool.or_false, Bool.false_eq_true, if_false]
          exact .posts rfl unread empty

/-- A read from the stream itself leaves what stands behind it. -/
theorem rest_direct (bytesToRead : Nat) (stream : Stream) :
    (source.rest stream).take bytesToRead ++
      source.rest (source.fill (bytesToRead + 1) bytesToRead stream).2 = source.rest stream := by
  rw [(source.fill_eq (Nat.lt_succ_self bytesToRead) stream).2]
  exact List.take_append_drop _ _

/-- A handler that is asked keeps what holds. -/
theorem Loading.Sound.asked (sound : loading.Sound source content) {bytesToRead : Nat}
    (idle : loading.handler.posted = none) (asked : 0 < bytesToRead)
    {handler : CefStreamResourceHandler Stream} {bytes : List UInt8} {more : Bool}
    (answered : Answered source loading.handler bytesToRead (handler, bytes, more)) :
    Loading.Sound source content
      { loading with handler, delivered := loading.delivered ++ bytes, ended := !more } := by
  have whole := sound.whole
  have counted := sound.counted
  cases answered with
  | direct sync =>
    obtain ⟨none, -⟩ := sound.direct sync
    have unread : loading.handler.unread = [] := by rw [CefStreamResourceHandler.unread, none]
    have undrained : loading.handler.drained = false := by
      rw [CefStreamResourceHandler.drained, none]
      rfl
    have left := (source.fill_eq (Nat.lt_succ_self bytesToRead) loading.handler.stream).2
    rw [unread, List.append_nil] at whole counted
    rw [undrained, if_neg Bool.false_ne_true] at counted
    constructor
    case whole =>
      change loading.delivered ++ _ ++ loading.handler.unread ++ _ = content
      rw [unread, List.append_nil, List.append_assoc, rest_direct, whole]
    case ended =>
      intro ended
      have nothing : (source.rest loading.handler.stream).take bytesToRead = [] := by simpa using ended
      have atEnd : source.rest loading.handler.stream = [] :=
        (List.take_eq_nil_iff.mp nothing).resolve_left (by omega)
      exact ⟨unread, left.trans (by rw [atEnd, List.drop_nil])⟩
    case buffer => exact sound.buffer
    case drained => exact fun drained => absurd (undrained.symm.trans drained) Bool.false_ne_true
    case direct => exact fun _ => ⟨none, idle⟩
    case posted => exact fun _ posted => absurd (idle.symm.trans posted) (by simp)
    case counted =>
      change loading.continues ≤ (loading.delivered ++ _ ++ loading.handler.unread).length + _
      simp only [List.length_append] at counted ⊢
      omega
  | buffered buffer present left =>
    have unread : loading.handler.unread = buffer.unread := by rw [CefStreamResourceHandler.unread, present]
    obtain ⟨soundBuffer, written, split, shown⟩ :=
      Buffer.writeTo_eq (sound.buffer buffer present) bytesToRead
    have drained : loading.handler.drained = buffer.isEmpty := by
      rw [CefStreamResourceHandler.drained, present]
      rfl
    rw [unread, ← split] at whole counted
    constructor
    case whole =>
      change loading.delivered ++ _ ++ (buffer.writeTo bytesToRead).1.unread ++ _ = content
      rw [List.append_assoc loading.delivered, whole]
    case ended =>
      intro ended
      have nothing : (buffer.writeTo bytesToRead).2 = [] := by simpa using ended
      exact absurd nothing (shown asked left)
    case buffer =>
      intro other same
      obtain rfl := Option.some.inj same
      exact soundBuffer
    case drained => exact fun empty => sound.drained (drained.trans empty)
    case direct => exact fun sync => absurd ((sound.direct sync).1.symm.trans present) (by simp)
    case posted => exact fun _ posted => absurd (idle.symm.trans posted) (by simp)
    case counted =>
      change loading.continues ≤ (loading.delivered ++ _ ++ (buffer.writeTo bytesToRead).1.unread).length +
        if buffer.isEmpty then 1 else 0
      rw [List.append_assoc, ← drained]
      exact counted
  | drained empty none =>
    constructor
    case whole =>
      rw [List.append_nil]
      exact whole
    case ended => exact fun _ => ⟨none, (sound.drained empty).1⟩
    case buffer => exact sound.buffer
    case drained => exact sound.drained
    case direct => exact sound.direct
    case posted => exact fun _ posted => absurd (idle.symm.trans posted) (by simp)
    case counted =>
      rw [List.append_nil]
      exact counted
  | posts async none more =>
    constructor
    case whole =>
      rw [List.append_nil]
      exact whole
    case ended => exact fun ended => absurd ended Bool.false_ne_true
    case buffer => exact sound.buffer
    case drained => exact fun drained => absurd (more.symm.trans drained) Bool.false_ne_true
    case direct => exact fun sync => absurd (sync.symm.trans async) Bool.false_ne_true
    case posted =>
      intro other same
      obtain rfl := Option.some.inj same
      exact ⟨asked, rfl, none⟩
    case counted =>
      rw [List.append_nil]
      exact counted

/-- A task that has run keeps what holds. -/
theorem Loading.Sound.filled (sound : loading.Sound source content) {bytesToRead : Nat}
    (posted : loading.handler.posted = some bytesToRead) :
    Loading.Sound source content
      { loading with
        handler := loading.handler.readOnFileThreadTask source bytesToRead
        continues := loading.continues + 1 } := by
  obtain ⟨asked, goesOn, none⟩ := sound.posted bytesToRead posted
  have async : loading.handler.readOnFileThread ≠ false := by
    intro sync
    exact absurd ((sound.direct sync).2.symm.trans posted) (by simp)
  have more : loading.handler.drained ≠ true := by
    intro drained
    exact absurd ((sound.drained drained).2.symm.trans posted) (by simp)
  obtain ⟨soundBuffer, written, unread, left⟩ :=
    Buffer.reset_readFrom source (loading.handler.buffer.getD {}) bytesToRead loading.handler.stream
  have whole := sound.whole
  have counted := sound.counted
  rw [none, List.append_nil] at whole counted
  rw [if_neg more] at counted
  set filled := ((loading.handler.buffer.getD {}).reset bytesToRead).readFrom source loading.handler.stream
    with filled_eq
  constructor
  case whole =>
    change loading.delivered ++ filled.1.unread ++ source.rest filled.2 = content
    rw [unread, left, List.append_assoc, List.take_append_drop, whole]
  case ended => exact fun ended => absurd (goesOn.symm.trans ended) Bool.false_ne_true
  case buffer =>
    intro other same
    obtain rfl := Option.some.inj same
    exact soundBuffer
  case drained =>
    intro empty
    have nothing : filled.1.written = [] := Buffer.isEmpty_iff.mp empty
    have atEnd : source.rest loading.handler.stream = [] :=
      (List.take_eq_nil_iff.mp (written.symm.trans nothing)).resolve_left (by omega)
    refine ⟨?_, rfl⟩
    change source.rest filled.2 = []
    rw [left, atEnd, List.drop_nil]
  case direct => exact fun sync => absurd sync async
  case posted => exact fun _ posted => absurd posted (by simp [CefStreamResourceHandler.readOnFileThreadTask])
  case counted =>
    change loading.continues + 1 ≤ (loading.delivered ++ filled.1.unread).length +
      if filled.1.isEmpty then 1 else 0
    rw [List.length_append, unread, ← written]
    cases empty : filled.1.isEmpty with
    | true =>
      rw [if_pos rfl]
      omega
    | false =>
      have some : filled.1.written ≠ [] := by
        intro nothing
        rw [Buffer.isEmpty_iff.mpr nothing] at empty
        contradiction
      have shown := List.length_pos_iff.mpr some
      omega

/-- What one event can be. -/
theorem Loading.step_cases {event : LoadEvent} (stepped : loading.step source event = some after) :
    (∃ bytesToRead handler bytes more, 0 < bytesToRead ∧ loading.handler.posted = none ∧
      loading.ended = false ∧ Answered source loading.handler bytesToRead (handler, bytes, more) ∧
      after = { loading with handler, delivered := loading.delivered ++ bytes, ended := !more }) ∨
    ∃ bytesToRead, loading.handler.posted = some bytesToRead ∧
      after =
        { loading with
          handler := loading.handler.readOnFileThreadTask source bytesToRead
          continues := loading.continues + 1 } := by
  cases event with
  | readResponse bytesToRead =>
    rw [Loading.step] at stepped
    split_ifs at stepped with may
    obtain ⟨idle, goesOn, asked⟩ := may
    cases stepped
    exact .inl ⟨bytesToRead, _, _, _, asked, idle, goesOn, readResponse_answered _ _, rfl⟩
  | fileThread =>
    rw [Loading.step, Option.map_eq_some_iff] at stepped
    obtain ⟨bytesToRead, posted, rfl⟩ := stepped
    exact .inr ⟨bytesToRead, posted, rfl⟩

theorem Loading.Sound.stepped (sound : loading.Sound source content) {event : LoadEvent}
    (stepped : loading.step source event = some after) : after.Sound source content := by
  rcases Loading.step_cases stepped with
    ⟨_, handler, bytes, more, asked, idle, -, answered, rfl⟩ | ⟨_, posted, rfl⟩
  · exact sound.asked idle asked answered
  · exact sound.filled posted

theorem Loading.Sound.first (stream : Stream) (mayBlock : Bool) :
    (Loading.new stream mayBlock).Sound source (source.rest stream) := by
  constructor <;> simp [Loading.new, CefStreamResourceHandler.unread, CefStreamResourceHandler.drained]

theorem Loading.Sound.of_run {stream : Stream} {mayBlock : Bool} {events : List LoadEvent}
    (ran : (Loading.new stream mayBlock).run source events = some after) :
    after.Sound source (source.rest stream) :=
  Runs.foldlM_invariant (fun _ _ _ sound stepped => sound.stepped stepped) (.first stream mayBlock) ran

/-- The bytes that were given out, a task that runs, the end, and what waits to be run. -/
def Loading.progress (loading : Loading Stream) : Nat :=
  loading.delivered.length + 2 * loading.continues + (if loading.ended then 1 else 0) +
    if loading.handler.posted.isSome then 1 else 0

/-- An answer has bytes or is the last one. -/
theorem given_or_ended (bytes : List UInt8) :
    0 < bytes.length + if !decide (0 < bytes.length) then 1 else 0 := by
  cases bytes <;> simp

theorem Loading.progress_step {event : LoadEvent} (stepped : loading.step source event = some after) :
    loading.progress < after.progress := by
  rcases Loading.step_cases stepped with
    ⟨bytesToRead, handler, bytes, more, -, idle, goesOn, answered, rfl⟩ | ⟨bytesToRead, posted, rfl⟩
  · simp only [Loading.progress, goesOn, idle, List.length_append]
    cases answered with
    | direct sync =>
      have answer := given_or_ended ((source.rest loading.handler.stream).take bytesToRead)
      simp only [idle, Option.isSome_none, Bool.false_eq_true, if_false]
      omega
    | buffered buffer present left =>
      have answer := given_or_ended (buffer.writeTo bytesToRead).2
      simp only [idle, Option.isSome_none, Bool.false_eq_true, if_false]
      omega
    | drained empty none => simp [idle]
    | posts async none more => simp
  · simp only [Loading.progress, posted, CefStreamResourceHandler.readOnFileThreadTask]
    simp
    omega

/-- A stream that gives one byte at a time. -/
def oneByOne : Source UInt8 (List UInt8) where
  read count stream := (stream.take (min 1 count), stream.drop (min 1 count))
  rest stream := stream
  whole _ _ := List.take_append_drop _ _
  bounded count stream := by
    rw [List.length_take]
    omega
  shown count stream some more := by
    have one : min 1 count = 1 := by omega
    cases stream <;> simp_all

/-- The browser gets the bytes of the stream one after another, each of them once, and
all of them when the response has ended. No byte of the buffer is given out before it
was written, and none is written where there is no memory. -/
theorem delivered_streamed {stream : Stream} {mayBlock : Bool} {events : List LoadEvent}
    (ran : (Loading.new stream mayBlock).run source events = some after) :
    after.delivered <+: source.rest stream ∧
      (after.ended = true → after.delivered = source.rest stream) ∧
      ∀ buffer ∈ after.handler.buffer, buffer.Sound := by
  have sound := Loading.Sound.of_run ran
  have whole := sound.whole
  refine ⟨⟨after.handler.unread ++ source.rest after.handler.stream, ?_⟩, ?_, sound.buffer⟩
  · rw [← List.append_assoc, whole]
  · intro ended
    obtain ⟨read, left⟩ := sound.ended ended
    rw [read, left, List.append_nil, List.append_nil] at whole
    exact whole

theorem delivered_streamed_three :
    ∃ after, (Loading.new [7, 8, 9] true).run oneByOne
        [.readResponse 2, .fileThread, .readResponse 2, .readResponse 2, .fileThread, .readResponse 2,
          .readResponse 2, .fileThread, .readResponse 2] = some after ∧
      after.ended = true ∧ after.delivered = [7, 8, 9] := by
  have ran : (Loading.new [7, 8, 9] true).run oneByOne
      [.readResponse 2, .fileThread, .readResponse 2, .readResponse 2, .fileThread, .readResponse 2,
        .readResponse 2, .fileThread, .readResponse 2] = some _ := rfl
  exact ⟨_, ran, rfl, (delivered_streamed ran).2.1 rfl⟩

/-- Loading comes to an end: a run has a bounded number of events, and it can go on as
long as the response has not ended. -/
theorem loading_ends {stream : Stream} {mayBlock : Bool} {events : List LoadEvent}
    (ran : (Loading.new stream mayBlock).run source events = some after) :
    events.length ≤ 3 * (source.rest stream).length + 3 ∧
      ((∀ event, after.step source event = none) ↔ after.ended = true) := by
  have sound := Loading.Sound.of_run ran
  constructor
  · have steps : (Loading.new stream mayBlock).progress + events.length ≤ after.progress :=
      Runs.foldlM_measure (fun _ _ _ stepped => Loading.progress_step stepped) ran
    have whole := congrArg List.length sound.whole
    have counted := sound.counted
    simp only [List.length_append] at whole counted
    have bound : after.progress ≤ 3 * (source.rest stream).length + 3 := by
      rw [Loading.progress]
      by_cases drained : after.handler.drained = true
      · rw [if_pos drained] at counted
        rw [(sound.drained drained).2, Option.isSome_none, if_neg Bool.false_ne_true]
        split_ifs <;> omega
      · rw [if_neg drained] at counted
        split_ifs <;> omega
    omega
  · constructor
    · intro stuck
      by_contra goesOn
      rw [Bool.not_eq_true] at goesOn
      cases waiting : after.handler.posted with
      | some bytesToRead =>
        have runs := stuck .fileThread
        simp [Loading.step, waiting] at runs
      | none =>
        have asks := stuck (.readResponse 1)
        simp [Loading.step, waiting, goesOn] at asks
    · rintro ended (bytesToRead | _)
      · simp [Loading.step, ended]
      · cases waiting : after.handler.posted with
        | none => simp [Loading.step, waiting]
        | some bytesToRead => exact absurd (ended.symm.trans (sound.posted bytesToRead waiting).2.1) (by simp)

theorem loading_ends_posted :
    ∃ after, (Loading.new [7] true).run oneByOne [.readResponse 4, .fileThread, .readResponse 4] = some after ∧
      after.ended = false ∧ ¬ ∀ event, after.step oneByOne event = none := by
  have ran : (Loading.new [7] true).run oneByOne [.readResponse 4, .fileThread, .readResponse 4] = some _ := rfl
  exact ⟨_, ran, rfl, fun stuck => Bool.false_ne_true ((loading_ends ran).2.mp stuck)⟩

end Runs

end CefBridge.Responses
