import CefBridge.Library.RefCount
import CefBridge.Native.Readers

/-!
# Visitors of page text and page source

Two exports ask CEF for the text or the source of a page. Each makes a visitor with
the callback of its caller and hands it to CEF, which takes a reference and sends
the string at some later time. A visitor is destroyed with its last reference.

Calls run one operation at a time, in any order with each other and with the strings
that CEF sends. The last operation of a call deletes its visitor by hand, whatever
is counted: `live_iff` says that visitors are safe exactly until a call gets there.
-/

namespace CefBridge.Native

open Library RefCount Runs

variable {Callback : Type}

section Exports

/-- CEF takes a reference to the visitor, which is passed in a smart pointer. -/
def wrap (visitor : Nat) : List (Operation Nat) := withRef visitor [.take visitor]

/-- The pointer to the visitor is converted to a smart pointer for the call. -/
def frameGetText (visitor : Nat) : List (Operation Nat) := withRef visitor (wrap visitor)

def frameGetSource (visitor : Nat) : List (Operation Nat) := withRef visitor (wrap visitor)

/-- What the export does with its new visitor. -/
def myCefDomGetTextWalk (bwVisitor : Nat) : List (Operation Nat) :=
  frameGetText bwVisitor ++ [.delete bwVisitor]

def myCefDomGetSourceWalk (bwVisitor : Nat) : List (Operation Nat) :=
  frameGetSource bwVisitor ++ [.delete bwVisitor]

end Exports

/-- A visitor, and what its call has still to do. -/
structure Visitor (Callback : Type) where
  mcallback : Callback
  code : List (Operation Nat)

/-- A call of a callback. -/
structure CallbackCall (Callback : Type) where
  mcallback : Callback
  id : Int
  args : MethodArgs
  deriving DecidableEq

/-- A string that CEF sent to a visitor, and the call that the visitor made of it. -/
structure Visit (Callback : Type) where
  visitor : Nat
  string : Address
  called : Option (CallbackCall Callback)
  deriving DecidableEq

/-- Visitors are numbered as they are made. -/
structure Walks (Callback : Type) where
  ledger : Ledger Nat
  visitors : List (Visitor Callback)
  visits : List (Visit Callback)

def Walks.empty : Walks Callback := ⟨Ledger.empty, [], []⟩

/-- Send a string to the callback. -/
def Visitor.visit (visitor : Visitor Callback) (string : Address) : CallbackCall Callback :=
  ⟨visitor.mcallback, 302, visitArgs string⟩

/-- A call makes a visitor with its callback. -/
def Walks.call (walks : Walks Callback) (code : Nat → List (Operation Nat)) (strCallBack : Callback) :
    Walks Callback :=
  { walks with visitors := walks.visitors ++ [⟨strCallBack, code walks.visitors.length⟩] }

/-- The call of a visitor goes on by one operation. -/
def Walks.advance (walks : Walks Callback) (visitor : Nat) : Walks Callback :=
  match walks.visitors[visitor]? with
  | some ⟨mcallback, operation :: code⟩ =>
    { walks with
      ledger := walks.ledger.perform operation
      visitors := walks.visitors.set visitor ⟨mcallback, code⟩ }
  | _ => walks

/-- What a visitor makes of a string. Nothing can be said of one that was destroyed. -/
def Walks.visit (walks : Walks Callback) (visitor : Nat) (string : Address) : Visit Callback where
  visitor := visitor
  string := string
  called :=
    if walks.ledger.destroyed visitor = 0 then
      walks.visitors[visitor]?.map fun target => target.visit string
    else none

/-- CEF keeps its reference until it has sent the string. -/
def Walks.deliver (walks : Walks Callback) (visitor : Nat) (string : Address) : Walks Callback :=
  if walks.ledger.held visitor = 0 then walks
  else
    { walks with
      visits := walks.visits ++ [walks.visit visitor string]
      ledger := walks.ledger.perform (.drop visitor) }

inductive WalkEvent (Callback : Type) where
  | domGetTextWalk (strCallBack : Callback)
  | domGetSourceWalk (strCallBack : Callback)
  | advance (visitor : Nat)
  | deliver (visitor : Nat) (string : Address)

def Walks.handle (walks : Walks Callback) : WalkEvent Callback → Walks Callback
  | .domGetTextWalk strCallBack => walks.call myCefDomGetTextWalk strCallBack
  | .domGetSourceWalk strCallBack => walks.call myCefDomGetSourceWalk strCallBack
  | .advance visitor => walks.advance visitor
  | .deliver visitor string => walks.deliver visitor string

/-- Visitors are destroyed once and with nothing counted, every string reaches the
callback of the call that made its visitor, and no visitor gets two. -/
structure Live (walks : Walks Callback) : Prop where
  destroyed : ∀ visitor, walks.ledger.destroyed visitor ≠ 0 →
    walks.ledger.destroyed visitor = 1 ∧ walks.ledger.count visitor = 0
  answered : ∀ visit ∈ walks.visits, ∃ target, walks.visitors[visit.visitor]? = some target ∧
    visit.called = some (target.visit visit.string)
  once : (walks.visits.map Visit.visitor).Nodup

/-- No call has come to its end. -/
def Walks.Running (walks : Walks Callback) : Prop := ∀ visitor ∈ walks.visitors, visitor.code ≠ []

section Calls

theorem getText_operations {visitor : Nat} {operation : Operation Nat}
    (member : operation ∈ frameGetText visitor) :
    operation = .addRef visitor ∨ operation = .take visitor ∨ operation = .release visitor := by
  simpa [frameGetText, wrap, withRef] using member

theorem getText_operation_object {visitor : Nat} {operation : Operation Nat}
    (member : operation ∈ frameGetText visitor) : operation.object = visitor := by
  rcases getText_operations member with rfl | rfl | rfl <;> rfl

theorem closing_wrap (visitor : Nat) : Closing visitor (wrap visitor) :=
  (closing_take visitor visitor).withRef visitor

theorem added_getText (visitor : Nat) : added visitor (frameGetText visitor) = 0 := by
  simp [frameGetText, wrap, Operation.added]

/-- CEF takes one reference. -/
theorem take_notMem_left {visitor : Nat} {left : List (Operation Nat)}
    (suffix : .take visitor :: left <:+ frameGetText visitor) : .take visitor ∉ left := by
  have once : (frameGetText visitor).count (.take visitor) = 1 := by
    simp [frameGetText, wrap, withRef]
  have most := suffix.sublist.count_le (.take visitor)
  rw [once, List.count_cons_self] at most
  intro member
  have another := List.count_pos_iff.mpr member
  omega

end Calls

section Tracking

/-- Where a visitor stands when its call has still to do some code and then to delete it. -/
structure Tracked (ledger : Ledger Nat) (visited : List Nat) (visitor : Nat)
    (left : List (Operation Nat)) : Prop where
  suffix : left <:+ frameGetText visitor
  own : ledger.own visitor + added visitor left = 0
  new : left = frameGetText visitor → ledger.count visitor = 0 ∧ ledger.destroyed visitor = 0
  settled : left ≠ frameGetText visitor → ledger.Settled visitor
  unsent : .take visitor ∈ left → ledger.held visitor = 0 ∧ visitor ∉ visited
  waiting : ledger.held visitor ≠ 0 → ledger.held visitor = 1 ∧ visitor ∉ visited

/-- Nothing has happened to a visitor. -/
structure Untouched (ledger : Ledger Nat) (visited : List Nat) (visitor : Nat) : Prop where
  count : ledger.count visitor = 0
  held : ledger.held visitor = 0
  destroyed : ledger.destroyed visitor = 0
  unvisited : visitor ∉ visited

variable {ledger : Ledger Nat} {visited after : List Nat} {visitor : Nat} {operation : Operation Nat}
  {left : List (Operation Nat)}

/-- A new visitor has all the code of its call before it. -/
theorem Untouched.begins (untouched : Untouched ledger visited visitor) :
    Tracked ledger visited visitor (frameGetText visitor) := by
  refine ⟨List.suffix_refl _, ?_, fun _ => ⟨untouched.count, untouched.destroyed⟩,
    fun begun => absurd rfl begun, fun _ => ⟨untouched.held, untouched.unvisited⟩,
    fun sent => absurd untouched.held sent⟩
  rw [added_getText, Ledger.own, untouched.count, untouched.held]
  rfl

/-- A visitor is left alone by an operation on another one. -/
theorem Untouched.frame (untouched : Untouched ledger visited visitor) (operation : Operation Nat)
    (other : visitor ≠ operation.object) (visits : visitor ∈ after ↔ visitor ∈ visited) :
    Untouched (ledger.perform operation) after visitor := by
  obtain ⟨count, held, destroyed⟩ := perform_other ledger other
  refine ⟨count.trans untouched.count, held.trans untouched.held, destroyed.trans untouched.destroyed, ?_⟩
  rw [visits]
  exact untouched.unvisited

theorem Tracked.frame (tracked : Tracked ledger visited visitor left) (operation : Operation Nat)
    (other : visitor ≠ operation.object) (visits : visitor ∈ after ↔ visitor ∈ visited) :
    Tracked (ledger.perform operation) after visitor left := by
  obtain ⟨count, held, destroyed⟩ := perform_other ledger other
  refine ⟨tracked.suffix, ?_, ?_, ?_, ?_, ?_⟩
  · rw [Ledger.own, count, held]
    exact tracked.own
  · rw [count, destroyed]
    exact tracked.new
  · rw [Ledger.Settled, count, destroyed]
    exact tracked.settled
  · rw [held, visits]
    exact tracked.unsent
  · rw [held, visits]
    exact tracked.waiting

/-- While a call is at work, its pointers hold their references. -/
theorem Tracked.count_pos (tracked : Tracked ledger visited visitor left)
    (begun : left ≠ frameGetText visitor) (busy : left ≠ [] ∨ ledger.held visitor ≠ 0) :
    0 < ledger.count visitor := by
  have own := tracked.own
  rw [Ledger.own] at own
  by_cases done : left = []
  · have held := busy.resolve_left (not_not.mpr done)
    rw [done, added_nil] at own
    omega
  · have balance := (closing_wrap visitor).added_left tracked.suffix begun done
    omega

/-- A visitor that CEF holds is there. -/
theorem Tracked.present (tracked : Tracked ledger visited visitor left)
    (held : ledger.held visitor ≠ 0) :
    left ≠ frameGetText visitor ∧ 0 < ledger.count visitor ∧ ledger.destroyed visitor = 0 := by
  have begun : left ≠ frameGetText visitor := by
    intro whole
    apply held
    apply (tracked.unsent _).1
    simp [whole, frameGetText, wrap, withRef]
  have counted := tracked.count_pos begun (.inr held)
  refine ⟨begun, counted, ?_⟩
  rw [tracked.settled begun, if_neg (by omega)]

/-- A step of a call before its last one. -/
theorem Tracked.step (tracked : Tracked ledger visited visitor (operation :: left)) :
    Tracked (ledger.perform operation) visited visitor left := by
  have within : operation ∈ frameGetText visitor := tracked.suffix.subset List.mem_cons_self
  have begun : left ≠ frameGetText visitor := by
    intro whole
    have shorter := tracked.suffix.length_le
    rw [whole, List.length_cons] at shorter
    omega
  have kept : operation ≠ .delete visitor := by
    rcases getText_operations within with rfl | rfl | rfl <;> exact nofun
  refine ⟨(List.suffix_cons operation left).trans tracked.suffix, ?_, fun whole => absurd whole begun,
    fun _ => ?_, fun more => ?_, fun held => ?_⟩
  · have own := tracked.own
    rw [added_cons] at own
    rw [own_perform]
    omega
  · by_cases new : operation :: left = frameGetText visitor
    · obtain ⟨count, destroyed⟩ := tracked.new new
      have first : operation = .addRef visitor := (List.cons.inj new).1
      rw [first, Ledger.perform]
      exact settled_addRef (by omega) destroyed
    · have counted := tracked.count_pos new (.inl (List.cons_ne_nil _ _))
      exact settled_perform (tracked.settled new) counted kept
  · obtain ⟨none, unvisited⟩ := tracked.unsent (List.mem_cons_of_mem operation more)
    refine ⟨?_, unvisited⟩
    rcases getText_operations within with rfl | rfl | rfl
    · exact none
    · exact absurd more (take_notMem_left tracked.suffix)
    · exact none
  · rcases getText_operations within with rfl | rfl | rfl
    · exact tracked.waiting held
    · obtain ⟨none, unvisited⟩ := tracked.unsent List.mem_cons_self
      refine ⟨?_, unvisited⟩
      simp [Ledger.perform, none]
    · exact tracked.waiting held

/-- A string is sent to a visitor that CEF holds. -/
theorem Tracked.deliver (tracked : Tracked ledger visited visitor left)
    (held : ledger.held visitor ≠ 0) :
    Tracked (ledger.perform (.drop visitor)) after visitor left := by
  obtain ⟨begun, counted, -⟩ := tracked.present held
  have dropped : (ledger.perform (.drop visitor)).held visitor = 0 := by
    rw [Ledger.perform, if_neg held]
    simp [(tracked.waiting held).1]
  refine ⟨tracked.suffix, ?_, fun whole => absurd whole begun, fun _ => ?_, fun more => ?_,
    fun again => absurd dropped again⟩
  · have own := tracked.own
    have unchanged : Operation.added visitor (.drop visitor) = 0 := rfl
    rw [own_perform, unchanged]
    omega
  · exact settled_perform (tracked.settled begun) counted (by simp)
  · exact absurd (tracked.unsent more).1 held

/-- The last operation of a call destroys a visitor that is referenced, or one that
is gone already. -/
theorem Tracked.delete (tracked : Tracked ledger visited visitor []) :
    (ledger.perform (.delete visitor)).destroyed visitor ≠ 0 ∧
      ¬ ((ledger.perform (.delete visitor)).destroyed visitor = 1 ∧
        (ledger.perform (.delete visitor)).count visitor = 0) := by
  have settled := tracked.settled (by simp [frameGetText, withRef])
  have again : (ledger.perform (.delete visitor)).destroyed visitor = ledger.destroyed visitor + 1 := by
    simp [Ledger.perform]
  have same : (ledger.perform (.delete visitor)).count visitor = ledger.count visitor := rfl
  rw [again, same]
  refine ⟨Nat.succ_ne_zero _, ?_⟩
  rintro ⟨once, none⟩
  rw [Ledger.Settled, if_pos none] at settled
  omega

end Tracking

section Steps

/-- The visitors that got a string. -/
def Walks.visited (walks : Walks Callback) : List Nat := walks.visits.map Visit.visitor

/-- No call has come to its end, and what was sent has reached its callback. -/
structure Tracking (walks : Walks Callback) : Prop where
  tracked : ∀ visitor target, walks.visitors[visitor]? = some target →
    ∃ left, target.code = left ++ [.delete visitor] ∧ Tracked walks.ledger walks.visited visitor left
  unknown : ∀ visitor, walks.visitors.length ≤ visitor → Untouched walks.ledger walks.visited visitor
  answered : ∀ visit ∈ walks.visits, ∃ target, walks.visitors[visit.visitor]? = some target ∧
    visit.called = some (target.visit visit.string)
  once : walks.visited.Nodup

theorem tracking_empty : Tracking (Walks.empty : Walks Callback) :=
  ⟨nofun, fun _ _ => ⟨rfl, rfl, rfl, nofun⟩, nofun, List.nodup_nil⟩

theorem Tracking.live {walks : Walks Callback} (tracking : Tracking walks) : Live walks := by
  refine ⟨fun visitor gone => ?_, tracking.answered, tracking.once⟩
  cases found : walks.visitors[visitor]? with
  | none => exact absurd (tracking.unknown visitor (List.getElem?_eq_none_iff.mp found)).destroyed gone
  | some target =>
    obtain ⟨left, -, tracked⟩ := tracking.tracked visitor target found
    by_cases new : left = frameGetText visitor
    · exact absurd (tracked.new new).2 gone
    · have settled := tracked.settled new
      rw [Ledger.Settled] at settled
      by_cases none : walks.ledger.count visitor = 0
      · rw [if_pos none] at settled
        exact ⟨settled, none⟩
      · rw [if_neg none] at settled
        exact absurd settled gone

theorem Tracking.running {walks : Walks Callback} (tracking : Tracking walks) : walks.Running := by
  intro target member
  obtain ⟨visitor, found⟩ := List.mem_iff_getElem?.mp member
  obtain ⟨left, code, -⟩ := tracking.tracked visitor target found
  rw [code]
  exact List.append_ne_nil_of_right_ne_nil _ (List.cons_ne_nil _ _)

theorem call_tracking {walks : Walks Callback} (tracking : Tracking walks) (strCallBack : Callback) :
    Tracking (walks.call myCefDomGetTextWalk strCallBack) := by
  refine ⟨fun visitor target found => ?_, fun visitor beyond => ?_, fun visit member => ?_,
    tracking.once⟩
  · rw [Walks.call, List.getElem?_append] at found
    by_cases old : visitor < walks.visitors.length
    · rw [if_pos old] at found
      exact tracking.tracked visitor target found
    · rw [if_neg old] at found
      have only : visitor = walks.visitors.length := by
        obtain ⟨inside, -⟩ := List.getElem?_eq_some_iff.mp found
        rw [List.length_singleton] at inside
        omega
      subst only
      rw [Nat.sub_self, List.getElem?_cons_zero] at found
      cases found
      exact ⟨_, rfl, (tracking.unknown _ (Nat.le_refl _)).begins⟩
  · rw [Walks.call, List.length_append] at beyond
    exact tracking.unknown visitor (by omega)
  · obtain ⟨target, found, called⟩ := tracking.answered visit member
    obtain ⟨inside, -⟩ := List.getElem?_eq_some_iff.mp found
    refine ⟨target, ?_, called⟩
    rw [Walks.call, List.getElem?_append_left inside]
    exact found

/-- A call that goes on deletes its visitor, or takes a step before that. -/
theorem advance_cases {walks : Walks Callback} (tracking : Tracking walks) (visitor : Nat) :
    walks.advance visitor = walks ∨
    (∃ mcallback, walks.visitors[visitor]? = some ⟨mcallback, [.delete visitor]⟩ ∧
      Tracked walks.ledger walks.visited visitor [] ∧
      walks.advance visitor = ⟨walks.ledger.perform (.delete visitor),
        walks.visitors.set visitor ⟨mcallback, []⟩, walks.visits⟩) ∨
    ∃ mcallback operation left,
      walks.visitors[visitor]? = some ⟨mcallback, operation :: (left ++ [.delete visitor])⟩ ∧
      Tracked walks.ledger walks.visited visitor (operation :: left) ∧
      walks.advance visitor = ⟨walks.ledger.perform operation,
        walks.visitors.set visitor ⟨mcallback, left ++ [.delete visitor]⟩, walks.visits⟩ := by
  cases found : walks.visitors[visitor]? with
  | none =>
    left
    simp only [Walks.advance, found]
  | some target =>
    right
    obtain ⟨rest, code, tracked⟩ := tracking.tracked visitor target found
    obtain ⟨mcallback, whole⟩ := target
    have same : whole = rest ++ [.delete visitor] := code
    subst same
    cases rest with
    | nil =>
      refine .inl ⟨mcallback, rfl, tracked, ?_⟩
      simp only [Walks.advance, found, List.nil_append]
    | cons operation rest =>
      refine .inr ⟨mcallback, operation, rest, rfl, tracked, ?_⟩
      simp only [Walks.advance, found, List.cons_append]

theorem advance_tracking {walks : Walks Callback} (tracking : Tracking walks) {visitor : Nat}
    (running : (walks.advance visitor).Running) : Tracking (walks.advance visitor) := by
  rcases advance_cases tracking visitor with
    same | ⟨mcallback, found, -, next⟩ | ⟨mcallback, operation, left, found, tracked, next⟩
  · rw [same]
    exact tracking
  · obtain ⟨inside, -⟩ := List.getElem?_eq_some_iff.mp found
    rw [next] at running
    exact absurd rfl (running ⟨mcallback, []⟩ (List.mem_set inside _))
  · obtain ⟨inside, -⟩ := List.getElem?_eq_some_iff.mp found
    have own : operation.object = visitor :=
      getText_operation_object (tracked.suffix.subset List.mem_cons_self)
    rw [next]
    refine ⟨fun other target foundOther => ?_, fun other beyond => ?_, fun visit member => ?_,
      tracking.once⟩
    · by_cases same : visitor = other
      · subst same
        rw [List.getElem?_set_self inside] at foundOther
        cases foundOther
        exact ⟨left, rfl, tracked.step⟩
      · rw [List.getElem?_set_ne same] at foundOther
        obtain ⟨otherLeft, otherCode, otherTracked⟩ := tracking.tracked other target foundOther
        exact ⟨otherLeft, otherCode, otherTracked.frame operation (by omega) Iff.rfl⟩
    · rw [List.length_set] at beyond
      exact (tracking.unknown other beyond).frame operation (by omega) Iff.rfl
    · obtain ⟨target, foundTarget, called⟩ := tracking.answered visit member
      by_cases same : visitor = visit.visitor
      · rw [← same, found] at foundTarget
        cases foundTarget
        refine ⟨⟨mcallback, left ++ [.delete visitor]⟩, ?_, called⟩
        rw [← same, List.getElem?_set_self inside]
      · refine ⟨target, ?_, called⟩
        rw [List.getElem?_set_ne same, foundTarget]

/-- A string goes to a visitor that is there and has had none. -/
theorem deliver_tracking {walks : Walks Callback} (tracking : Tracking walks) (visitor : Nat)
    (string : Address) : Tracking (walks.deliver visitor string) := by
  rw [Walks.deliver]
  by_cases none : walks.ledger.held visitor = 0
  · rw [if_pos none]
    exact tracking
  · rw [if_neg none]
    cases found : walks.visitors[visitor]? with
    | none => exact absurd (tracking.unknown visitor (List.getElem?_eq_none_iff.mp found)).held none
    | some target =>
      obtain ⟨inside, -⟩ := List.getElem?_eq_some_iff.mp found
      obtain ⟨left, -, tracked⟩ := tracking.tracked visitor target found
      have present := (tracked.present none).2.2
      have unvisited := (tracked.waiting none).2
      have visits : (walks.visits ++ [walks.visit visitor string]).map Visit.visitor =
          walks.visited ++ [visitor] := by
        rw [List.map_append]
        rfl
      have others : ∀ other, other ≠ visitor →
          (other ∈ (walks.visits ++ [walks.visit visitor string]).map Visit.visitor ↔
            other ∈ walks.visited) := by
        intro other different
        rw [visits, List.mem_append, List.mem_singleton, or_iff_left different]
      refine ⟨fun other target foundOther => ?_, fun other beyond => ?_, fun visit member => ?_, ?_⟩
      · obtain ⟨otherLeft, otherCode, otherTracked⟩ := tracking.tracked other target foundOther
        refine ⟨otherLeft, otherCode, ?_⟩
        by_cases same : other = visitor
        · subst same
          exact otherTracked.deliver none
        · exact otherTracked.frame (.drop visitor) same (others other same)
      · have outside : walks.visitors.length ≤ other := beyond
        have different : other ≠ visitor := by omega
        exact (tracking.unknown other outside).frame (.drop visitor) different (others other different)
      · rcases List.mem_append.mp member with earlier | now
        · exact tracking.answered visit earlier
        · rw [List.mem_singleton] at now
          subst now
          refine ⟨target, found, ?_⟩
          rw [Walks.visit, if_pos present, found]
          rfl
      · rw [Walks.visited, visits, List.nodup_append]
        refine ⟨tracking.once, by simp, fun other earlier last only => ?_⟩
        rw [List.mem_singleton] at only
        rintro rfl
        exact unvisited (only ▸ earlier)

theorem handle_tracking {walks : Walks Callback} {event : WalkEvent Callback}
    (tracking : Tracking walks) (running : (walks.handle event).Running) :
    Tracking (walks.handle event) := by
  cases event with
  | domGetTextWalk strCallBack => exact call_tracking tracking strCallBack
  | domGetSourceWalk strCallBack => exact call_tracking tracking strCallBack
  | advance visitor => exact advance_tracking tracking running
  | deliver visitor string => exact deliver_tracking tracking visitor string

theorem handle_lost {walks : Walks Callback} {event : WalkEvent Callback} (tracking : Tracking walks)
    (ended : ¬ (walks.handle event).Running) : ¬ Live (walks.handle event) := by
  cases event with
  | domGetTextWalk strCallBack => exact absurd (call_tracking tracking strCallBack).running ended
  | domGetSourceWalk strCallBack => exact absurd (call_tracking tracking strCallBack).running ended
  | deliver visitor string => exact absurd (deliver_tracking tracking visitor string).running ended
  | advance visitor =>
    rw [Walks.handle] at ended ⊢
    rcases advance_cases tracking visitor with
      same | ⟨mcallback, -, tracked, next⟩ | ⟨mcallback, operation, left, found, tracked, next⟩
    · rw [same] at ended
      exact absurd tracking.running ended
    · obtain ⟨gone, wrong⟩ := tracked.delete
      rw [next]
      exact fun live => wrong (live.destroyed visitor gone)
    · refine absurd ?_ ended
      rw [next]
      intro target member
      rcases List.mem_or_eq_of_mem_set member with earlier | rfl
      · exact tracking.running target earlier
      · exact List.append_ne_nil_of_right_ne_nil _ (List.cons_ne_nil _ _)

/-- A call that has come to its end stays there. -/
theorem handle_running {walks : Walks Callback} {event : WalkEvent Callback}
    (running : (walks.handle event).Running) : walks.Running := by
  cases event with
  | domGetTextWalk strCallBack =>
    exact fun target member => running target (List.mem_append_left _ member)
  | domGetSourceWalk strCallBack =>
    exact fun target member => running target (List.mem_append_left _ member)
  | deliver visitor string =>
    rw [Walks.handle, Walks.deliver] at running
    split at running
    · exact running
    · exact running
  | advance visitor =>
    rw [Walks.handle, Walks.advance] at running
    split at running
    · next mcallback operation code found =>
      intro target member
      obtain ⟨index, foundTarget⟩ := List.mem_iff_getElem?.mp member
      by_cases same : visitor = index
      · rw [← same, found] at foundTarget
        cases foundTarget
        exact List.cons_ne_nil operation code
      · apply running target
        apply List.mem_of_getElem?
        rw [List.getElem?_set_ne same]
        exact foundTarget
    · exact running

end Steps

section Answers

/-- In every state of a run visitors are safe and strings reach their callbacks,
exactly when no call of the run has come to its end. -/
theorem live_iff (events : List (WalkEvent Callback)) :
    EachState Walks.handle Walks.empty Live events ↔ (Runs.run Walks.handle Walks.empty events).Running := by
  have steps : EachState Walks.handle Walks.empty Live events ↔
      EachStep Walks.handle Walks.empty (fun walks event => (walks.handle event).Running) events :=
    eachState_iff_eachStep tracking_empty (fun _ tracking => tracking.live) (fun _ _ => handle_tracking)
      (fun _ _ => handle_lost) events
  rw [steps]
  exact eachStep_iff_run nofun (fun _ _ => handle_running) events

/-- A string that comes after the call has returned finds no visitor. -/
theorem live_deleted :
    ¬ EachState Walks.handle (Walks.empty : Walks Nat) Live
      ([.domGetTextWalk 5] ++ List.replicate 6 (.advance 0) ++ [.deliver 0 1]) := by
  intro each
  obtain ⟨target, -, called⟩ := each.last.answered ⟨0, 1, none⟩ (by decide +kernel)
  cases called

end Answers

end CefBridge.Native
