import ExternalDns.Lock.Update
import ExternalDns.Provider.IndexInvariant

/-!
# `HandleUpdateEntry` (lines 424-480)

One reconcile of an observed object: compute the premise, let `Setup` build the version and
its status, hand the version to `AddEntryVersion`, and then either run the lock handlers (for a
`DNSLock`) or reschedule the entry and trigger its hosted zone when the entry was modified.

## Main Definitions

* `HandleResult` — the index, the entry, the status, and every call the reconcile made.
* `handleUpdateEntry` — the handler.

## Main Statements

* `addEntryVersion_deleting` — a deleting version always comes back as an entry carrying it,
  so a deleting `DNSLock` always reaches `checkAndDeleteLock`.
* `handleUpdateEntry_deleting_lock` — with no provider found, that call panics.
* `duplicate_never_triggers_zone` — the zone trigger fires only for an entry not marked
  duplicate.
* `handleUpdateEntry_setFinalizer_error` — when `SetFinalizer` fails, an entry whose DNS name
  another entry holds is never marked, and triggers its zone.

## Design Notes

`NewEntryVersion` and `v.Setup` are declared in `entry.go`, outside the source; `setup` stands
for both, as a function of the premise and the error the handler passes to it.  The premise of
the second `EntryPremise` call (line 470) is the input `check`, since the providers may have
changed in between.
-/

namespace ExternalDns

/-- What `HandleUpdateEntry` leaves: the index, the entry `AddEntryVersion` returned, the
status, the calls of `AddEntryVersion`, the hosted zone triggered at line 465, and the calls of
the lock handler. -/
structure HandleResult where
  state : State
  entry : Option Ptr
  status : Status
  effects : List Effect
  zoneTrigger : Option GoString
  lockCalls : List LockCall

/-- The error of line 434. -/
def noMatchingProvider (zoneid : GoString) : GoString :=
  "no matching provider for zone '".toList ++ zoneid ++ "' found".toList

/-- Lines 453-459: the lock's entry goes to a lock handler, whose `updateRequired` it keeps. -/
def lockReconcile (a : AddResult) (new : Ptr) (run : Except GoPanic LockRun) :
    Except GoPanic HandleResult :=
  run.map fun r =>
    ⟨{ a.state with
        heap := Function.update a.state.heap new
          { a.state.heap new with updateRequired := r.updateRequired } },
      some new, r.status, a.effects, none, r.calls⟩

/-- The lock branch triggers no hosted zone. -/
theorem lockReconcile_zoneTrigger {a : AddResult} {new : Ptr} {run : Except GoPanic LockRun}
    {r : HandleResult} (h : lockReconcile a new run = .ok r) : r.zoneTrigger = none := by
  cases run with
  | error => cases h
  | ok r' => cases h; rfl

/-- Lines 452-479, once `AddEntryVersion` has answered `a` for the premise `p`: the lock
handlers for a lock, otherwise the rescheduling and the zone trigger; then the repeat when the
premise changed (`check`, computed again at line 470). -/
def reconcileEntry (a : AddResult) (p check : EntryPremise) (lo : LockOutcomes)
    (object : Object) : Except GoPanic HandleResult :=
  let recheck (status : Status) : Status :=
    if !object.deleting && !check.isMatch p then .repeat else status
  match a.entry with
  | none => .ok ⟨a.state, none, recheck a.status, a.effects, none, []⟩
  | some new =>
    let e := a.state.heap new
    if e.kind = .lock then
      lockReconcile a new
        (if object.deleting then checkAndDeleteLock e p lo else checkAndUpdateLock e p lo)
    else
      let status := if a.status.isSucceeded && e.valid && decide (e.interval > 0) then
          .rescheduleAfter e.interval else a.status
      let trigger := if e.modified && e.zoneId != [] then some e.zoneId else none
      .ok ⟨a.state, some new, recheck status, a.effects, trigger, []⟩

/-- `HandleUpdateEntry(op, object)`.  `lk` answers the provider lookups of `EntryPremise`, and
`setup` builds the version and its status from the premise and the error.  `RescheduleAfter`
(in the controller framework, not in the source) is modelled as a rescheduling after the
entry's interval. -/
def handleUpdateEntry (typeCodes enabled : List GoString) (lk : ProviderLookup)
    (check : EntryPremise) (setup : EntryPremise → Option GoString → EntryVersion × Status)
    (o : Outcomes) (lo : LockOutcomes) (s : State) (object : Object) :
    Except GoPanic HandleResult :=
  let premise := entryPremise enabled lk object
  let p := premise.1
  let err := if p.provider.isNone && premise.2.isNone && p.zoneid != [] then
      some (noMatchingProvider p.zoneid) else premise.2
  let vs := setup p err
  reconcileEntry (addEntryVersion typeCodes o s vs.1 vs.2) p check lo object

/-- The zone trigger fires only for a modified entry, which is no duplicate when the index
satisfies `Inv`. -/
theorem reconcileEntry_zoneTrigger {a : AddResult} {p check : EntryPremise} {lo : LockOutcomes}
    {object : Object} {r : HandleResult} {z : GoString} (hi : Inv a.state)
    (hr : reconcileEntry a p check lo object = .ok r) (hz : r.zoneTrigger = some z) :
    ∃ q, r.entry = some q ∧ (r.state.heap q).duplicate = false := by
  unfold reconcileEntry at hr
  cases hent : a.entry with
  | none => simp only [hent] at hr; cases hr; cases hz
  | some new =>
    simp only [hent] at hr
    by_cases hk : (a.state.heap new).kind = .lock
    · rw [if_pos hk] at hr
      exact absurd (lockReconcile_zoneTrigger hr ▸ hz) (by simp)
    · rw [if_neg hk] at hr
      cases hr
      refine ⟨new, rfl, Bool.eq_false_iff.2 fun hdup => ?_⟩
      simp [hi.duplicate_unmodified new hdup] at hz

/-! ## The deleting path -/

/-- The deleting branch returns the entry it was given. -/
theorem State.addDeleting_entry (s : State) (o : Outcomes) (old : Option Ptr) (new : Ptr)
    (v : EntryVersion) : (s.addDeleting o old new v).entry = some new := by
  unfold State.addDeleting
  dsimp only
  repeat' split
  all_goals rfl

/-- The deleting branch writes no entry. -/
theorem State.addDeleting_heap (s : State) (o : Outcomes) (old : Option Ptr) (new : Ptr)
    (v : EntryVersion) : (s.addDeleting o old new v).state.heap = s.heap := by
  rcases State.addDeleting_state s o old new v with h | h | h <;> rw [h] <;> simp

/-- A deleting version always comes back from `AddEntryVersion` as an entry carrying it. -/
theorem addEntryVersion_deleting (typeCodes : List GoString) (o : Outcomes) (s : State)
    {v : EntryVersion} (status : Status) (hdel : v.object.deleting = true) :
    ∃ new, (addEntryVersion typeCodes o s v status).entry = some new ∧
      ((addEntryVersion typeCodes o s v status).state.heap new).version = v := by
  let s0 : State := { s with blockingEntries := s.blockingEntries.erase v.objectName }
  have hver := (State.allocate_new s0 (s.entries.lookup v.objectName) v o.changed).1
  simp only [addEntryVersion, addAllocated, hdel, if_true]
  exact ⟨_, State.addDeleting_entry .., by rw [State.addDeleting_heap]; exact hver⟩

/-- A deleting lock reconciled under a premise without provider panics, whatever branch of
`AddEntryVersion` returned its entry. -/
theorem reconcileEntry_deleting_lock {typeCodes : List GoString} (o : Outcomes) (s : State)
    {v : EntryVersion} (status : Status) {p : EntryPremise} (check : EntryPremise)
    (lo : LockOutcomes) {object : Object} (hv : v.object = object)
    (hdel : object.deleting = true) (hlock : object.lock.isSome) (hp : p.provider = none) :
    reconcileEntry (addEntryVersion typeCodes o s v status) p check lo object =
      .error .nilDereference := by
  subst hv
  obtain ⟨new, hnew, hver⟩ := addEntryVersion_deleting typeCodes o s status hdel
  have hkind : ((addEntryVersion typeCodes o s v status).state.heap new).kind = .lock := by
    simp only [Entry.kind, hver, Object.kind, hlock, if_true]
  unfold reconcileEntry
  simp only [hnew, hkind, hdel, if_true, checkAndDeleteLock, hp]
  rfl

/-- **A deleting `DNSLock` whose provider is gone panics.**  With no provider found, the
premise has none, `AddEntryVersion` returns the lock's entry, and `checkAndDeleteLock`
calls `GetDNSDirectHandler()` on the nil provider — for every index, every answer of the
cluster, and whatever `Setup` computes from the object. -/
theorem handleUpdateEntry_deleting_lock {typeCodes enabled : List GoString}
    {lk : ProviderLookup} (check : EntryPremise)
    {setup : EntryPremise → Option GoString → EntryVersion × Status} (o : Outcomes)
    (lo : LockOutcomes) (s : State) {object : Object} (hdel : object.deleting = true)
    (hlock : object.lock.isSome) (hprov : lk.provider = none)
    (hsetup : ∀ p err, (setup p err).1.object = object) :
    handleUpdateEntry typeCodes enabled lk check setup o lo s object = .error .nilDereference :=
  reconcileEntry_deleting_lock o s _ check lo (hsetup _ _) hdel hlock
    (by rw [entryPremise_provider, hprov])

/-- A lookup that finds no provider and no zone: the provider of the lock's domain is gone. -/
def goneProviderLookup : ProviderLookup := ⟨none, none, none, fun _ => none⟩

/-- The `DNSLock` `ns/l` on `n`, being deleted, last served from zone `z` by `aws`. -/
def deletingLock : Object :=
  ⟨"ns/l".toList, "n".toList, Time.zero, true, true,
    ⟨.ready, some "z".toList, some "aws".toList⟩, some plainLock, 0⟩

/-- `Setup` answering with the version of `deletingLock` as it was last reconciled. -/
def deletingLockSetup (_ : EntryPremise) (_ : Option GoString) : EntryVersion × Status :=
  (⟨deletingLock, true, deletingLock.status⟩, .succeeded)

/-- The failing input of the nil-provider law: the premise of the deleting lock has no
provider, and `HandleUpdateEntry` hands it to `checkAndDeleteLock`, which panics. -/
theorem deleted_lock_without_provider_panics :
    (entryPremise ["aws".toList] goneProviderLookup deletingLock).1.provider = none ∧
      handleUpdateEntry ["aws".toList] ["aws".toList] goneProviderLookup lockPremise
          deletingLockSetup (sampleOutcomes none none) (lockOutcomes none none) State.empty
          deletingLock = .error .nilDereference :=
  ⟨rfl, handleUpdateEntry_deleting_lock _ _ _ _ rfl rfl rfl fun _ _ => rfl⟩

/-! ## No duplicate triggers its zone -/

/-- **No duplicate ever triggers its zone.**  In every reachable index a duplicate entry is
not modified, and for every reconcile the hosted-zone trigger of lines 464-466 fires only for
a returned entry that is not a duplicate. -/
theorem duplicate_never_triggers_zone {typeCodes : List GoString} {allowed : Outcomes → Prop}
    {s : State} (h : Reachable typeCodes allowed s) :
    (∀ k p, s.entries.lookup k = some p → (s.heap p).duplicate = true →
        (s.heap p).modified = false) ∧
      ∀ enabled lk check setup o lo object r z,
        handleUpdateEntry typeCodes enabled lk check setup o lo s object = .ok r →
        r.zoneTrigger = some z →
        ∃ p, r.entry = some p ∧ (r.state.heap p).duplicate = false := by
  refine ⟨fun _ p _ => h.inv.duplicate_unmodified p, ?_⟩
  intro enabled lk check setup o lo object r z hr hz
  exact reconcileEntry_zoneTrigger (h.inv.addEntryVersion typeCodes o _ _) hr hz

/-- The provider `p` of type `aws` serving the hosted zone `z` of `example.org`. -/
def zoneLookup : ProviderLookup :=
  ⟨some ⟨"p".toList, "aws".toList, true⟩, none, none,
    fun _ => some ⟨"z".toList, "example.org".toList, "aws".toList⟩⟩

/-- The `DNSEntry` `name` on `n`, ready in zone `z` of provider type `aws`. -/
def zonedObject (name : String) : Object :=
  ⟨name.toList, "n".toList, Time.zero, false, true,
    ⟨.ready, some "z".toList, some "aws".toList⟩, none, 0⟩

/-- `Setup` answering with the valid version of `zonedObject name`. -/
def zonedSetup (name : String) (_ : EntryPremise) (_ : Option GoString) :
    EntryVersion × Status :=
  (⟨zonedObject name, true, (zonedObject name).status⟩, .succeeded)

/-- In `duplicatesRun`, whose duplicates `ns/c` and `ns/b` are unmodified, the claim holder
`ns/a` is reconciled in zone `z` and triggers it, as an entry that is no duplicate. -/
theorem duplicate_never_triggers_zone_holder :
    (∀ k p, duplicatesRun.entries.lookup k = some p →
        (duplicatesRun.heap p).duplicate = true → (duplicatesRun.heap p).modified = false) ∧
      ∃ r, handleUpdateEntry ["aws".toList] ["aws".toList] zoneLookup lockPremise
          (zonedSetup "ns/a") (sampleOutcomes none none) (lockOutcomes none none) duplicatesRun
          (zonedObject "ns/a") = .ok r ∧
        r.zoneTrigger = some "z".toList ∧
        ∃ p, r.entry = some p ∧ (r.state.heap p).duplicate = false :=
  have h := duplicate_never_triggers_zone
    (show Reachable ["aws".toList] (fun _ => True) duplicatesRun from
      addRun_reachable fun _ _ => trivial)
  ⟨h.1, _, rfl, rfl, h.2 ["aws".toList] zoneLookup lockPremise (zonedSetup "ns/a")
    (sampleOutcomes none none) (lockOutcomes none none) (zonedObject "ns/a") _ _ rfl rfl⟩

/-! ## A failed `SetFinalizer` -/

/-- Line 331: when `SetFinalizer` fails for a valid managed version, `AddEntryVersion` returns
the entry it allocated with `Delay`, before binding it under its object name and before the
claim on its DNS name is arbitrated. -/
theorem addEntryVersion_setFinalizer_error (typeCodes : List GoString) {o : Outcomes} (s : State)
    {v : EntryVersion} (status : Status) {err : GoString} (hdel : v.object.deleting = false)
    (hvalid : v.valid = true) (hman : isManaging typeCodes v = true)
    (hset : o.setFinalizer = some err) :
    let a := State.allocate { s with blockingEntries := s.blockingEntries.erase v.objectName }
      (s.entries.lookup v.objectName) v o.changed
    addEntryVersion typeCodes o s v status =
      ⟨a.1, some a.2, .delay err, [.setFinalizer v.objectName]⟩ := by
  intro a
  have hv : (a.1.heap a.2).valid = true := by
    rw [Entry.valid, (State.allocate_new _ _ v o.changed).1, hvalid]
  simp only [addEntryVersion, addAllocated, hdel, hv, hman, hset]
  rfl

/-- **A failed `SetFinalizer` lets a would-be duplicate trigger its zone.**  A new object whose
DNS name another entry holds comes back from line 331 unmarked and modified while that entry
keeps the claim, and `HandleUpdateEntry` triggers the object's zone.  The duplicate flag that
`duplicate_never_triggers_zone` reads is never set for it. -/
theorem handleUpdateEntry_setFinalizer_error {typeCodes enabled : List GoString}
    {lk : ProviderLookup} (check : EntryPremise)
    {setup : EntryPremise → Option GoString → EntryVersion × Status} {o : Outcomes}
    (lo : LockOutcomes) {s : State} (hi : Inv s) (object : Object) {v : EntryVersion}
    {err : GoString} {cur : Ptr} (hsetup : ∀ p e, (setup p e).1 = v)
    (hdel : v.object.deleting = false) (hkind : v.object.lock = none) (hvalid : v.valid = true)
    (hman : isManaging typeCodes v = true) (hzone : v.zoneId ≠ [])
    (hset : o.setFinalizer = some err) (hnew : s.entries.lookup v.objectName = none)
    (hcur : s.dnsnames v.dnsName = some cur) :
    ∃ r q, handleUpdateEntry typeCodes enabled lk check setup o lo s object = .ok r ∧
      r.entry = some q ∧ q ≠ cur ∧ r.state.dnsnames v.dnsName = some cur ∧
      (r.state.heap q).duplicate = false ∧ (r.state.heap q).modified = true ∧
      r.zoneTrigger = some v.zoneId := by
  have ha := fun status =>
    addEntryVersion_setFinalizer_error typeCodes s status hdel hvalid hman hset
  simp only [hnew, State.allocate, State.newEntry] at ha
  have hk : (Entry.new v).kind ≠ .lock := by simp [Entry.kind, Object.kind, hkind]
  unfold handleUpdateEntry reconcileEntry
  simp only [hsetup, ha, Function.update_same, hk, if_false]
  refine ⟨_, s.next, rfl, rfl, (Nat.ne_of_lt (hi.claim_lt hcur)).symm, hcur, ?_, ?_, ?_⟩ <;>
    simp [Entry.new, Entry.zoneId, hzone]

/-- `ns/d` on `n`, held by `ns/a`, reconciled while `SetFinalizer` fails: entry 3 triggers
zone `z` and `ns/a` keeps the claim. -/
example : (handleUpdateEntry ["aws".toList] ["aws".toList] zoneLookup lockPremise
    (zonedSetup "ns/d") (sampleOutcomes (some "conflict".toList) none) (lockOutcomes none none)
    duplicatesRun (zonedObject "ns/d")).toOption.map
      (fun r => (r.entry, r.state.dnsnames "n".toList, r.zoneTrigger)) =
    some (some 3, some 0, some "z".toList) := by decide

/-- The same reconcile with `SetFinalizer` succeeding marks `ns/d` a duplicate and triggers
nothing. -/
example : (handleUpdateEntry ["aws".toList] ["aws".toList] zoneLookup lockPremise
    (zonedSetup "ns/d") (sampleOutcomes none none) (lockOutcomes none none)
    duplicatesRun (zonedObject "ns/d")).toOption.map (·.zoneTrigger) = some none := by decide

end ExternalDns
