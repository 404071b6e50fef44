import Mathlib.Data.Finset.Card
import ExternalDns.Provider.Entry

/-!
# The TXT record set of a DNS lock

A `DNSLock` owns the TXT record set of its DNS name.  `checkAndUpdateLock` builds the record set
the lock wants (lines 551-557: one quoted TXT value per text of the lock, at the lock's TTL) and
decides whether the observed one must be rewritten (lines 588-602).  That decision is a
shortcut: the observed values are put in a set, and nothing is written when the desired list has
as many entries as the set, each of them in it, at the observed TTL.

## Main Definitions

* `attrLockId`, `attrTimestamp`, `lockAttrs`, `lockTexts` — the texts a lock writes.
* `desiredRecordSet` — `newRS`.
* `valueSet`, `lockChanged` — the observed value set and the `changed` flag.

## Main Statements

* `lockChanged_eq_false_iff` — with pairwise distinct desired values, `changed` is false exactly
  when the value sets agree and every desired record has the observed TTL.
* `lock_change_misses_foreign_value` — with a repeated text the shortcut misses a foreign value.

## Design Notes

`GetText()` of a `DNSLockObject`, `dnsutils.NewText(...).AsRecord()` and the attribute names
`dns.ATTR_*` are declared outside the source and are modelled from the spec: the texts are
`lockid=<LockId>`, `timestamp=<Unix seconds>` and `<k>=<v>` per attribute (in the map's
iteration order, which `LockSpec.attributes` fixes), each stored between double quotes.
-/

namespace ExternalDns

/-- Modelled from the spec: `dns.ATTR_LOCKID` (in `pkg/dns`, not in the source). -/
def attrLockId : GoString := "lockid".toList

/-- Modelled from the spec: `dns.ATTR_TIMESTAMP` (in `pkg/dns`, not in the source). -/
def attrTimestamp : GoString := "timestamp".toList

/-- `dns.RS_TXT`. -/
def rsTxt : GoString := "TXT".toList

/-- Modelled from the spec: the attributes `GetText()` lists for a lock with id `id`, timestamp
`secs` (Unix seconds) and its own attributes, in this order. -/
def lockAttrs (id : GoString) (secs : Int) (attributes : List (GoString × GoString)) :
    List (GoString × GoString) :=
  (attrLockId, id) :: (attrTimestamp, formatInt secs) :: attributes

/-- Modelled from the spec: the text `<k>=<v>` of one attribute. -/
def attrText (a : GoString × GoString) : GoString := a.1 ++ '=' :: a.2

/-- Modelled from the spec: `GetText()` of a `DNSLockObject` (not in the source). -/
def lockTexts (spec : LockSpec) : List GoString :=
  (lockAttrs (spec.lockId.getD []) spec.timestamp.unixSec spec.attributes).map attrText

/-- Lines 551-557: `newRS`, one TXT record per text of the lock, at the lock's TTL.  The value
of `dnsutils.NewText(s, ttl).AsRecord()` is modelled from the spec as `s` between quotes. -/
def desiredRecordSet (dnsName : GoString) (spec : LockSpec) : RecordSet :=
  fromPlainRecordSet dnsName ⟨rsTxt, spec.ttl, (lockTexts spec).map quote⟩

/-- Lines 589-592: `oldRecords`, the set of the observed values. -/
def valueSet (rs : RecordSet) : List GoString := (rs.map (·.value)).dedup

/-- Lines 594-602: `changed` for an observed record set whose first record has TTL `oldTTL`. -/
def lockChanged (newRS rs : RecordSet) (oldTTL : Int) : Bool :=
  if newRS.length = (valueSet rs).length then
    newRS.any fun r => !(valueSet rs).contains r.value || oldTTL != r.ttl
  else true

@[simp] theorem desiredRecordSet_values (dnsName : GoString) (spec : LockSpec) :
    (desiredRecordSet dnsName spec).map (·.value) = (lockTexts spec).map quote := by
  simp [desiredRecordSet, fromPlainRecordSet, Function.comp_def]

theorem ttl_of_mem_desiredRecordSet {dnsName : GoString} {spec : LockSpec} {r : Record}
    (hr : r ∈ desiredRecordSet dnsName spec) : r.ttl = spec.ttl := by
  simp only [desiredRecordSet, fromPlainRecordSet, List.mem_map] at hr
  obtain ⟨_, _, rfl⟩ := hr
  rfl

/-- The first two records of `newRS` hold the lock id and the timestamp. -/
theorem desiredRecordSet_eq (dnsName : GoString) (spec : LockSpec) :
    desiredRecordSet dnsName spec =
      ⟨dnsName, rsTxt, spec.ttl, quote (attrLockId ++ '=' :: spec.lockId.getD [])⟩ ::
        ⟨dnsName, rsTxt, spec.ttl,
          quote (attrTimestamp ++ '=' :: formatInt spec.timestamp.unixSec)⟩ ::
          fromPlainRecordSet dnsName
            ⟨rsTxt, spec.ttl, (spec.attributes.map attrText).map quote⟩ :=
  rfl

/-- `GetAttr` reads the lock's own id back from its record set. -/
theorem getAttr_desiredRecordSet_lockId (dnsName : GoString) (spec : LockSpec) :
    getAttr (desiredRecordSet dnsName spec) attrLockId = some (spec.lockId.getD []) :=
  @getAttr_eq_of_first _ _ _ [] _ _ (desiredRecordSet_eq dnsName spec) (by simp) rfl

/-- `GetAttr` reads the lock's own `%d` seconds back from its record set: the lock-id record
before it does not start with `"timestamp=`. -/
theorem getAttr_desiredRecordSet_timestamp (dnsName : GoString) (spec : LockSpec) :
    getAttr (desiredRecordSet dnsName spec) attrTimestamp =
      some (formatInt spec.timestamp.unixSec) :=
  @getAttr_eq_of_first _ _ _ [_] _ _ (desiredRecordSet_eq dnsName spec)
    (by simp only [List.mem_singleton, forall_eq]; rfl) rfl

/-- `changed` is false exactly when every desired value is observed, every desired record has
the observed TTL, and there are as many desired records as observed values. -/
theorem lockChanged_eq_false {newRS rs : RecordSet} {oldTTL : Int} :
    lockChanged newRS rs oldTTL = false ↔ newRS.length = (valueSet rs).length ∧
      ∀ r ∈ newRS, r.value ∈ rs.map (·.value) ∧ r.ttl = oldTTL := by
  unfold lockChanged
  split
  · rename_i hlen
    simp only [hlen, true_and, List.any_eq_false, Bool.or_eq_true, Bool.not_eq_true', not_or,
      Bool.not_eq_false, bne_iff_ne, ne_eq, not_not, List.contains, List.elem_eq_mem,
      decide_eq_true_eq, valueSet, List.mem_dedup]
    exact forall₂_congr fun _ _ => and_congr_right' eq_comm
  · simp_all

/-- **With pairwise distinct desired values, the shortcut is set equality.**  `changed` is
false exactly when the desired and the observed records have the same set of values and every
desired record has the TTL of the first observed one. -/
theorem lockChanged_eq_false_iff {newRS rs : RecordSet} (oldTTL : Int)
    (hnodup : (newRS.map (·.value)).Nodup) :
    lockChanged newRS rs oldTTL = false ↔
      (∀ v, v ∈ newRS.map (·.value) ↔ v ∈ rs.map (·.value)) ∧
        ∀ r ∈ newRS, r.ttl = oldTTL := by
  rw [lockChanged_eq_false]
  have hcard : (newRS.map (·.value)).toFinset.card = newRS.length := by
    rw [List.toFinset_card_of_nodup hnodup, List.length_map]
  have hold : (rs.map (·.value)).toFinset.card = (valueSet rs).length := by
    rw [valueSet, ← List.toFinset_card_of_nodup (List.nodup_dedup _)]
    congr 1; ext; simp
  constructor
  · rintro ⟨hlen, hmem⟩
    have hsub : (newRS.map (·.value)).toFinset ⊆ (rs.map (·.value)).toFinset := by
      intro v hv
      obtain ⟨r, hr, rfl⟩ := List.mem_map.1 (List.mem_toFinset.1 hv)
      exact List.mem_toFinset.2 (hmem r hr).1
    have heq := Finset.eq_of_subset_of_card_le hsub (by rw [hcard, hold, hlen])
    refine ⟨fun v => ?_, fun r hr => (hmem r hr).2⟩
    rw [← List.mem_toFinset, heq, List.mem_toFinset]
  · rintro ⟨hset, httl⟩
    have heq : (newRS.map (·.value)).toFinset = (rs.map (·.value)).toFinset :=
      Finset.ext fun v => by simp only [List.mem_toFinset]; exact hset v
    refine ⟨by rw [← hcard, ← hold, heq],
      fun r hr => ⟨(hset _).1 (List.mem_map_of_mem _ hr), httl r hr⟩⟩

/-- **`checkAndUpdateLock` detects a change exactly when the value sets or the TTL differ**, for
every lock whose texts are pairwise distinct and every non-empty observed record set. -/
theorem lock_change_is_set_equality {dnsName : GoString} {spec : LockSpec}
    (hnodup : (lockTexts spec).Nodup) (r0 : Record) (rs : RecordSet) :
    lockChanged (desiredRecordSet dnsName spec) (r0 :: rs) r0.ttl = false ↔
      (∀ v, v ∈ (desiredRecordSet dnsName spec).map (·.value) ↔
          v ∈ (r0 :: rs).map (·.value)) ∧
        ∀ r ∈ desiredRecordSet dnsName spec, r.ttl = r0.ttl :=
  lockChanged_eq_false_iff _ (by rw [desiredRecordSet_values]; exact hnodup.map quote_injective)

/-- A lock `L` created at the epoch with TTL 60 and no attributes. -/
def plainLock : LockSpec := ⟨some "L".toList, Time.unix 0, [], 60⟩

/-- A TXT record of `n` at TTL 60 holding `v` between quotes. -/
def observedRecord (v : String) : Record := ⟨"n".toList, rsTxt, 60, quote v.toList⟩

set_option maxRecDepth 4000 in
/-- `plainLock` sees no change in its own two records, and a change when a foreign value is
added to them. -/
example : lockChanged (desiredRecordSet "n".toList plainLock)
      [observedRecord "lockid=L", observedRecord "timestamp=0"] 60 = false ∧
    lockChanged (desiredRecordSet "n".toList plainLock)
      [observedRecord "lockid=L", observedRecord "timestamp=0", observedRecord "x"] 60 = true := by
  decide

/-- The lock `L` whose one attribute repeats its lock id: `lockid=L` is written twice. -/
def repeatedIdLock : LockSpec :=
  ⟨some "L".toList, Time.unix 0, [("lockid".toList, "L".toList)], 60⟩

set_option maxRecDepth 4000 in
/-- The repeated text makes the desired list as long as an observed set with one foreign value,
so the shortcut sees no change where the value sets differ. -/
theorem lock_change_misses_foreign_value :
    ¬ ∀ (dnsName : GoString) (spec : LockSpec) (r0 : Record) (rs : RecordSet),
      (lockChanged (desiredRecordSet dnsName spec) (r0 :: rs) r0.ttl = false ↔
        (∀ v, v ∈ (desiredRecordSet dnsName spec).map (·.value) ↔
            v ∈ (r0 :: rs).map (·.value)) ∧
          ∀ r ∈ desiredRecordSet dnsName spec, r.ttl = r0.ttl) := by
  intro h
  obtain ⟨hset, -⟩ := (h "n".toList repeatedIdLock (observedRecord "lockid=L")
    [observedRecord "timestamp=0", observedRecord "x"]).1 (by decide)
  exact absurd ((hset (quote "x".toList)).2 (by decide)) (by decide)

end ExternalDns
