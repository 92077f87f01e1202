import CefBridge.Library.Latest
import CefBridge.Native.MethodArgs
import Mathlib.Data.Finset.Insert
import Mathlib.Data.Finset.Erase

/-!
# The cross-origin whitelist

CEF keeps a set of entries. Its functions insert an entry into the set and erase
one from it, and they refuse arguments without a source origin or a protocol. Two
exports pass their arguments on to CEF, one to add an entry and one to remove it.

The export that removes an entry calls the function that adds it. With the
functions of CEF themselves, the last call that names an entry would decide whether
it is on the whitelist; `whitelisted_iff` says for which calls the exports do as well.
-/

namespace CefBridge.Native

open Library Runs Latest

/-- An entry of the whitelist. None is without a source origin or a protocol. -/
structure WhitelistEntry where
  sourceOrigin : Wide
  targetProtocol : Wide
  targetDomain : Wide
  allowTargetSubdomains : Bool
  origin : sourceOrigin ≠ []
  protocol : targetProtocol ≠ []
  deriving DecidableEq

abbrev Whitelist := Finset WhitelistEntry

section Cef

/-- Verify the arguments and execute a function of CEF on the entry that they make. -/
def verified (whitelist : Whitelist) (sourceOrigin targetProtocol targetDomain : Wide)
    (allowTargetSubdomains : Bool) (execute : WhitelistEntry → Whitelist) : Bool × Whitelist :=
  if origin : sourceOrigin = [] then (false, whitelist)
  else if protocol : targetProtocol = [] then (false, whitelist)
  else
    (true, execute ⟨sourceOrigin, targetProtocol, targetDomain, allowTargetSubdomains, origin, protocol⟩)

def cefAddCrossOriginWhitelistEntry (whitelist : Whitelist)
    (sourceOrigin targetProtocol targetDomain : Wide) (allowTargetSubdomains : Bool) :
    Bool × Whitelist :=
  verified whitelist sourceOrigin targetProtocol targetDomain allowTargetSubdomains
    fun entry => insert entry whitelist

def cefRemoveCrossOriginWhitelistEntry (whitelist : Whitelist)
    (sourceOrigin targetProtocol targetDomain : Wide) (allowTargetSubdomains : Bool) :
    Bool × Whitelist :=
  verified whitelist sourceOrigin targetProtocol targetDomain allowTargetSubdomains
    fun entry => whitelist.erase entry

end Cef

section Exports

/-- The string that CEF makes of the characters at a pointer. -/
def cefString (memory : Wide) : Wide := Terminated.read 0 memory

/-- The arguments of an export: what lies at three pointers, and a flag. -/
structure EntryArgs where
  sourceOrigin : Wide
  targetProtocol : Wide
  targetDomain : Wide
  allowTargetSubdomains : Bool
  deriving DecidableEq

def myCefAddCrossOriginWhitelistEntry (whitelist : Whitelist) (args : EntryArgs) : Bool × Whitelist :=
  cefAddCrossOriginWhitelistEntry whitelist (cefString args.sourceOrigin)
    (cefString args.targetProtocol) (cefString args.targetDomain) args.allowTargetSubdomains

/-- The body is that of the export above. -/
def myCefRemoveCrossOriginWhitelistEntry (whitelist : Whitelist) (args : EntryArgs) :
    Bool × Whitelist :=
  cefAddCrossOriginWhitelistEntry whitelist (cefString args.sourceOrigin)
    (cefString args.targetProtocol) (cefString args.targetDomain) args.allowTargetSubdomains

/-- The arguments are those of an entry. -/
def EntryArgs.Names (args : EntryArgs) (entry : WhitelistEntry) : Prop :=
  cefString args.sourceOrigin = entry.sourceOrigin ∧
    cefString args.targetProtocol = entry.targetProtocol ∧
    cefString args.targetDomain = entry.targetDomain ∧
    args.allowTargetSubdomains = entry.allowTargetSubdomains

inductive WhitelistCall where
  | add (args : EntryArgs)
  | remove (args : EntryArgs)
  deriving DecidableEq

def WhitelistCall.Names (call : WhitelistCall) (entry : WhitelistEntry) : Prop :=
  match call with
  | .add args => args.Names entry
  | .remove args => args.Names entry

instance (args : EntryArgs) (entry : WhitelistEntry) : Decidable (args.Names entry) :=
  inferInstanceAs (Decidable (_ ∧ _))

instance (call : WhitelistCall) (entry : WhitelistEntry) : Decidable (call.Names entry) :=
  match call with
  | .add args => inferInstanceAs (Decidable (args.Names entry))
  | .remove args => inferInstanceAs (Decidable (args.Names entry))

/-- What a call of an export does. -/
def WhitelistCall.perform (whitelist : Whitelist) : WhitelistCall → Whitelist
  | .add args => (myCefAddCrossOriginWhitelistEntry whitelist args).2
  | .remove args => (myCefRemoveCrossOriginWhitelistEntry whitelist args).2

/-- The whitelist after a sequence of calls. -/
def whitelistAfter (calls : List WhitelistCall) : Whitelist := Runs.run WhitelistCall.perform ∅ calls

/-- The last call that names an entry. -/
def lastCall (entry : WhitelistEntry) (calls : List WhitelistCall) : Option WhitelistCall :=
  latest WhitelistCall.Names entry calls

/-- An entry is on the whitelist exactly when the last call that names it adds it. -/
def Whitelisted (calls : List WhitelistCall) : Prop :=
  ∀ entry, entry ∈ whitelistAfter calls ↔ ∃ args, lastCall entry calls = some (.add args)

end Exports

section Execution

variable {whitelist : Whitelist} {args : EntryArgs} {entry : WhitelistEntry}

/-- A function of CEF is executed on the entry that the arguments name. -/
theorem verified_named (named : args.Names entry) (execute : WhitelistEntry → Whitelist) :
    verified whitelist (cefString args.sourceOrigin) (cefString args.targetProtocol)
      (cefString args.targetDomain) args.allowTargetSubdomains execute = (true, execute entry) := by
  obtain ⟨origin, protocol, domain, subdomains⟩ := named
  rw [verified]
  simp only [origin, protocol, domain, subdomains, entry.origin, entry.protocol, dite_false]

/-- For other entries it makes no difference. -/
theorem verified_unnamed (unnamed : ¬ args.Names entry) {execute : WhitelistEntry → Whitelist}
    (frame : ∀ other, entry ≠ other → (entry ∈ execute other ↔ entry ∈ whitelist)) :
    entry ∈ (verified whitelist (cefString args.sourceOrigin) (cefString args.targetProtocol)
      (cefString args.targetDomain) args.allowTargetSubdomains execute).2 ↔ entry ∈ whitelist := by
  rw [verified]
  by_cases origin : cefString args.sourceOrigin = []
  · simp only [origin, dite_true]
  · by_cases protocol : cefString args.targetProtocol = []
    · simp only [origin, protocol, dite_true, dite_false]
    · simp only [origin, protocol, dite_false]
      apply frame
      rintro rfl
      exact unnamed ⟨rfl, rfl, rfl, rfl⟩

theorem mem_add_named (named : args.Names entry) (whitelist : Whitelist) :
    entry ∈ (cefAddCrossOriginWhitelistEntry whitelist (cefString args.sourceOrigin)
      (cefString args.targetProtocol) (cefString args.targetDomain) args.allowTargetSubdomains).2 := by
  rw [cefAddCrossOriginWhitelistEntry, verified_named named]
  exact Finset.mem_insert_self entry whitelist

theorem mem_add_unnamed (unnamed : ¬ args.Names entry) (whitelist : Whitelist) :
    entry ∈ (cefAddCrossOriginWhitelistEntry whitelist (cefString args.sourceOrigin)
      (cefString args.targetProtocol) (cefString args.targetDomain) args.allowTargetSubdomains).2 ↔
        entry ∈ whitelist := by
  rw [cefAddCrossOriginWhitelistEntry]
  apply verified_unnamed unnamed
  intro other different
  rw [Finset.mem_insert]
  exact or_iff_right different

theorem notMem_remove_named (named : args.Names entry) (whitelist : Whitelist) :
    entry ∉ (cefRemoveCrossOriginWhitelistEntry whitelist (cefString args.sourceOrigin)
      (cefString args.targetProtocol) (cefString args.targetDomain) args.allowTargetSubdomains).2 := by
  rw [cefRemoveCrossOriginWhitelistEntry, verified_named named]
  exact Finset.notMem_erase entry whitelist

theorem mem_remove_unnamed (unnamed : ¬ args.Names entry) (whitelist : Whitelist) :
    entry ∈ (cefRemoveCrossOriginWhitelistEntry whitelist (cefString args.sourceOrigin)
      (cefString args.targetProtocol) (cefString args.targetDomain) args.allowTargetSubdomains).2 ↔
        entry ∈ whitelist := by
  rw [cefRemoveCrossOriginWhitelistEntry]
  apply verified_unnamed unnamed
  intro other different
  rw [Finset.mem_erase]
  exact and_iff_right different

end Execution

section Histories

/-- What the name of an export promises: the function of CEF with the same name. -/
def WhitelistCall.promised (whitelist : Whitelist) : WhitelistCall → Whitelist
  | .add args =>
    (cefAddCrossOriginWhitelistEntry whitelist (cefString args.sourceOrigin)
      (cefString args.targetProtocol) (cefString args.targetDomain) args.allowTargetSubdomains).2
  | .remove args =>
    (cefRemoveCrossOriginWhitelistEntry whitelist (cefString args.sourceOrigin)
      (cefString args.targetProtocol) (cefString args.targetDomain) args.allowTargetSubdomains).2

theorem promised_named {call : WhitelistCall} {entry : WhitelistEntry} (named : call.Names entry)
    (whitelist : Whitelist) :
    entry ∈ call.promised whitelist ↔ ∃ args, call = .add args := by
  cases call with
  | add args => exact iff_of_true (mem_add_named named whitelist) ⟨args, rfl⟩
  | remove args => exact iff_of_false (notMem_remove_named named whitelist) nofun

theorem promised_unnamed {call : WhitelistCall} {entry : WhitelistEntry} (unnamed : ¬ call.Names entry)
    (whitelist : Whitelist) : entry ∈ call.promised whitelist ↔ entry ∈ whitelist := by
  cases call with
  | add args => exact mem_add_unnamed unnamed whitelist
  | remove args => exact mem_remove_unnamed unnamed whitelist

/-- With the functions of CEF, the last call that names an entry decides. -/
theorem mem_promised_iff (calls : List WhitelistCall) (entry : WhitelistEntry) :
    entry ∈ Runs.run WhitelistCall.promised ∅ calls ↔ ∃ args, lastCall entry calls = some (.add args) := by
  have decided := read_run WhitelistCall.promised (fun whitelist entry => entry ∈ whitelist)
    (fun call => ∃ args, call = .add args)
    (fun whitelist _ _ named => propext (promised_named named whitelist))
    (fun whitelist _ _ unnamed => propext (promised_unnamed unnamed whitelist)) ∅ calls entry
  rw [decided, lastCall]
  cases latest WhitelistCall.Names entry calls with
  | none => simp
  | some call => simp

/-- Both exports add the entry that they name. -/
theorem perform_named {call : WhitelistCall} {entry : WhitelistEntry} (named : call.Names entry)
    (whitelist : Whitelist) : entry ∈ call.perform whitelist := by
  cases call with
  | add args => exact mem_add_named named whitelist
  | remove args => exact mem_add_named named whitelist

theorem perform_unnamed {call : WhitelistCall} {entry : WhitelistEntry} (unnamed : ¬ call.Names entry)
    (whitelist : Whitelist) : entry ∈ call.perform whitelist ↔ entry ∈ whitelist := by
  cases call with
  | add args => exact mem_add_unnamed unnamed whitelist
  | remove args => exact mem_add_unnamed unnamed whitelist

/-- With the exports, an entry is on the whitelist as soon as a call has named it. -/
theorem mem_whitelistAfter_iff (calls : List WhitelistCall) (entry : WhitelistEntry) :
    entry ∈ whitelistAfter calls ↔ lastCall entry calls ≠ none := by
  have decided := read_run WhitelistCall.perform (fun whitelist entry => entry ∈ whitelist)
    (fun _ => True) (fun whitelist _ _ named => eq_true (perform_named named whitelist))
    (fun whitelist _ _ unnamed => propext (perform_unnamed unnamed whitelist)) ∅ calls entry
  rw [whitelistAfter, decided, lastCall]
  cases latest WhitelistCall.Names entry calls with
  | none => simp
  | some call => simp

/-- What the last calls decide is what the functions of CEF leave. -/
theorem whitelisted_promised (calls : List WhitelistCall) :
    Whitelisted calls ↔ whitelistAfter calls = Runs.run WhitelistCall.promised ∅ calls := by
  rw [Whitelisted, Finset.ext_iff]
  refine forall_congr' fun entry => ?_
  rw [mem_promised_iff]

/-- After any calls the whitelist has the entries whose last call adds them, exactly
when no entry's last call removes it. -/
theorem whitelisted_iff (calls : List WhitelistCall) :
    Whitelisted calls ↔ ∀ entry args, lastCall entry calls ≠ some (.remove args) := by
  constructor
  · intro whole entry args removed
    have present : entry ∈ whitelistAfter calls := by
      rw [mem_whitelistAfter_iff, removed]
      exact Option.some_ne_none _
    obtain ⟨added, last⟩ := (whole entry).mp present
    rw [removed] at last
    cases last
  · intro kept entry
    rw [mem_whitelistAfter_iff]
    cases last : lastCall entry calls with
    | none => simp
    | some call =>
      cases call with
      | add args => simp
      | remove args => exact absurd last (kept entry args)

/-- An entry that is added and removed stays. -/
theorem whitelisted_removed :
    ¬ Whitelisted [.add ⟨[97], [98], [99], true⟩, .remove ⟨[97], [98], [99], true⟩] := by
  intro whole
  let entry : WhitelistEntry := ⟨[97], [98], [99], true, by decide, by decide⟩
  have removed : lastCall entry [.add ⟨[97], [98], [99], true⟩, .remove ⟨[97], [98], [99], true⟩] =
      some (.remove ⟨[97], [98], [99], true⟩) := by decide
  have present : entry ∈ whitelistAfter
      [.add ⟨[97], [98], [99], true⟩, .remove ⟨[97], [98], [99], true⟩] := by
    rw [mem_whitelistAfter_iff, removed]
    exact Option.some_ne_none _
  obtain ⟨args, last⟩ := (whole entry).mp present
  rw [removed] at last
  cases last

end Histories

end CefBridge.Native
