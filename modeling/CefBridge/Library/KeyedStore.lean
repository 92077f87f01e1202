import Mathlib.Data.List.Nodup
import Mathlib.Data.List.Perm.Subperm

/-!
# Records stored under keys

Records are stored one by one under keys that they determine. Of two records
with one key only one survives, here the one that stands first in the list. What
is read back, key by key, is a reordering of all records exactly when their keys
are distinct, and when reading back alters no record.
-/

namespace Library.KeyedStore

universe u v
variable {Record : Type u} {Key : Type v} [DecidableEq Key] (key : Record → Key)

/-- The record that survives under a key. -/
def survivor (records : List Record) (wanted : Key) : Option Record :=
  records.find? fun record => key record = wanted

theorem survivor_some {records : List Record} {wanted : Key} {record : Record}
    (found : survivor key records wanted = some record) : record ∈ records ∧ key record = wanted := by
  refine ⟨List.mem_of_find?_eq_some found, ?_⟩
  simpa using List.find?_some found

/-- Some record survives under the key of every record. -/
theorem survivor_shown {records : List Record} {record : Record} (member : record ∈ records) :
    ∃ other, survivor key records (key record) = some other := by
  cases found : survivor key records (key record) with
  | some other => exact ⟨other, rfl⟩
  | none =>
    have different := List.find?_eq_none.mp found record member
    simp at different

/-- With distinct keys every record survives. -/
theorem survivor_eq {records : List Record} (distinct : (records.map key).Nodup) {record : Record}
    (member : record ∈ records) : survivor key records (key record) = some record := by
  obtain ⟨other, found⟩ := survivor_shown key member
  obtain ⟨otherMember, same⟩ := survivor_some key found
  rw [found, List.inj_on_of_nodup_map distinct otherMember member same]

theorem survivor_cons (first : Record) (records : List Record) (wanted : Key) :
    survivor key (first :: records) wanted =
      if key first = wanted then some first else survivor key records wanted := by
  by_cases same : key first = wanted <;> simp [survivor, same]

/-- A list has a part that holds each of its keys once. -/
theorem exists_distinct (records : List Record) :
    ∃ part : List Record, (∀ record ∈ part, record ∈ records) ∧
      (∀ record ∈ records, ∃ other ∈ part, key other = key record) ∧ (part.map key).Nodup := by
  induction records with
  | nil => exact ⟨[], by simp⟩
  | cons first records ih =>
    obtain ⟨part, within, covers, distinct⟩ := ih
    by_cases present : ∃ other ∈ part, key other = key first
    · refine ⟨part, fun record member => List.mem_cons_of_mem first (within record member), ?_,
        distinct⟩
      intro record member
      cases List.mem_cons.mp member with
      | inl same => exact same ▸ present
      | inr later => exact covers record later
    · refine ⟨first :: part, ?_, ?_, ?_⟩
      · intro record member
        cases List.mem_cons.mp member with
        | inl same => exact same ▸ List.mem_cons_self
        | inr later => exact List.mem_cons_of_mem first (within record later)
      · intro record member
        cases List.mem_cons.mp member with
        | inl same => exact ⟨first, List.mem_cons_self, by rw [same]⟩
        | inr later =>
          obtain ⟨other, among, same⟩ := covers record later
          exact ⟨other, List.mem_cons_of_mem first among, same⟩
      · rw [List.map_cons, List.nodup_cons]
        refine ⟨?_, distinct⟩
        intro member
        obtain ⟨other, among, same⟩ := List.mem_map.mp member
        exact present ⟨other, among, same⟩

section ReadBack

variable {key} {records : List Record} {keys : List Key} (listed : keys.Nodup)
  (covers : ∀ wanted, wanted ∈ keys ↔ ∃ record ∈ records, key record = wanted)

include covers in
/-- One record is read back for each listed key. -/
theorem readBack_length : (keys.filterMap (survivor key records)).length = keys.length := by
  have shown : ∀ wanted ∈ keys, (survivor key records wanted).isSome = true := by
    intro wanted member
    obtain ⟨record, among, rfl⟩ := (covers wanted).mp member
    obtain ⟨other, found⟩ := survivor_shown key among
    simp [found]
  clear covers
  induction keys with
  | nil => rfl
  | cons wanted keys ih =>
    obtain ⟨record, found⟩ := Option.isSome_iff_exists.mp (shown wanted List.mem_cons_self)
    rw [List.filterMap_cons_some found, List.length_cons, List.length_cons,
      ih fun other member => shown other (List.mem_cons_of_mem wanted member)]

include listed covers in
/-- With distinct keys all records are read back. -/
theorem readBack_perm (distinct : (records.map key).Nodup) :
    (keys.filterMap (survivor key records)).Perm records := by
  have recordsNodup : records.Nodup := distinct.of_map key
  have foundNodup : (keys.filterMap (survivor key records)).Nodup := by
    apply listed.filterMap
    intro first second record foundFirst foundSecond
    have sameFirst := (survivor_some key foundFirst).2
    have sameSecond := (survivor_some key foundSecond).2
    exact sameFirst.symm.trans sameSecond
  apply (List.perm_ext_iff_of_nodup foundNodup recordsNodup).mpr
  intro record
  constructor
  · intro member
    obtain ⟨wanted, _, found⟩ := List.mem_filterMap.mp member
    exact (survivor_some key found).1
  · intro member
    apply List.mem_filterMap.mpr
    exact ⟨key record, (covers _).mpr ⟨record, member, rfl⟩, survivor_eq key distinct member⟩

include listed covers in
/-- What is read back through a settling map is a reordering of the records
exactly when their keys are distinct and the map alters none of them. -/
theorem readBack_perm_iff (settle : Record → Record)
    (settled : ∀ record, settle (settle record) = settle record) :
    ((keys.filterMap (survivor key records)).map settle).Perm records ↔
      (records.map key).Nodup ∧ ∀ record ∈ records, settle record = record := by
  constructor
  · intro reordered
    constructor
    · have within : keys ⊆ records.map key := by
        intro wanted member
        obtain ⟨record, among, same⟩ := (covers wanted).mp member
        exact same ▸ List.mem_map_of_mem among
      have lengths := reordered.length_eq
      rw [List.length_map, readBack_length covers] at lengths
      have whole : keys.Perm (records.map key) := by
        apply (listed.subperm within).perm_of_length_le
        rw [List.length_map]
        omega
      exact whole.nodup_iff.mp listed
    · intro record member
      obtain ⟨other, _, same⟩ := List.mem_map.mp (reordered.mem_iff.mpr member)
      rw [← same, settled]
  · rintro ⟨distinct, unaltered⟩
    have all := readBack_perm listed covers distinct
    have same : (keys.filterMap (survivor key records)).map settle =
        keys.filterMap (survivor key records) := by
      conv_rhs => rw [← List.map_id (keys.filterMap (survivor key records))]
      exact List.map_congr_left fun record member => unaltered record (all.mem_iff.mp member)
    rw [same]
    exact all

end ReadBack

end Library.KeyedStore
