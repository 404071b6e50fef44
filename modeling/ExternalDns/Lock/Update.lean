import ExternalDns.Lock.Records
import ExternalDns.Provider.Premise
import ExternalDns.Provider.StateEntry

/-!
# `checkAndUpdateLock` and `checkAndDeleteLock` (lines 543-656)

A reconcile of a `DNSLock` reads the TXT record set of the lock's DNS name through the
provider's direct handler, compares the lock id and timestamp stored there with its own, and
then writes its own record set (an update) or deletes the observed one (a deletion).  Every call
to the handler or to the API server may fail; those answers are a `LockOutcomes` value, so a
theorem over all `LockOutcomes` covers every combination of failures.

## Main Definitions

* `LockOutcomes`, `LockCall`, `LockRun` — the answers, the calls made, and what a run returns.
* `Inspection`, `inspectRecordSet` — what lines 563-602 conclude from the observed record set.
* `checkAndUpdateLock`, `deleteCheck`, `checkAndDeleteLock` — the two handlers.
* `RecordsAssured` — what a run that clears the update flag has established about the lock's
  records.

## Main Statements

* `checkAndUpdateLock_checked` — a run whose checks pass clears `updateRequired` before its
  status write.
* `own_lock_write_fixed_point` — a lock with distinct texts reading back its own record set does
  not write again; `own_lock_rewritten_when_texts_repeat` — one with a repeated text does.
* `checkAndUpdateLock_ok_cases`, `checkAndDeleteLock_ok_cases` — what a run of each handler can
  do, over every answer.
* `checkAndUpdateLock_assured` — a run that clears the flag it found set has put the lock's
  records in place.
* `checkAndDeleteLock_release_after_delete` — a deletion run deletes only its own record set,
  and removes the finalizer only after that deletion succeeded.

## Design Notes

A run ends in a Go runtime panic when the premise has no provider
(`premise.provider.GetDNSDirectHandler()` on a nil interface), when `GetAttr` slices out of
range, or when the entry is not a lock (the type assertion `entry.object.(*DNSLockObject)`);
the handlers return `Except GoPanic LockRun`.  The model makes the type assertion before
`GetRecordSet`, where the source makes it only after reading a non-empty (update) or non-nil
(deletion) record set; `HandleUpdateEntry` calls the handlers only for entries of kind lock,
which carry a lock spec, so the assertion never fails there.

The status write of line 612 goes through `ModifyStatus`; the call records what its modifier
assures (zone, provider name, provider type).
-/

namespace ExternalDns

/-- What the direct handler and the API server answer during one lock run: the result of
`GetRecordSet` (`none` is a nil record set), and the errors of `UpdateStandardObjectStatus`,
`CreateOrUpdateRecordSet`, `ModifyStatus`, `DeleteRecordSet` and `RemoveFinalizer`. -/
structure LockOutcomes where
  getRecordSet : Except GoString (Option RecordSet)
  updateStatus : Option GoString
  createOrUpdate : Option GoString
  modifyStatus : Option GoString
  deleteRecordSet : Option GoString
  removeFinalizer : Option GoString

/-- A call a lock run makes. -/
inductive LockCall where
  | getRecordSet (dnsName : GoString)
  | updateStatus (state : StatusState) (msg : GoString)
  | createOrUpdateRecordSet (rs : RecordSet)
  | deleteRecordSet (rs : RecordSet)
  | modifyStatus (zone provider ptype : GoString)
  | removeFinalizer
deriving DecidableEq

/-- What a lock run returns: the status, the entry's `updateRequired` afterwards, and the calls
it made in order. -/
structure LockRun where
  status : Status
  updateRequired : Bool
  calls : List LockCall
deriving DecidableEq

/-- What lines 563-602 conclude from an observed record set. -/
inductive Inspection where
  /-- Line 566: the stored lock id is another one. -/
  | mismatch (own stored : GoString)
  /-- Line 575: the stored timestamp does not parse. -/
  | invalidTimestamp (value : GoString)
  /-- Line 583: the stored timestamp is later than the lock's own. -/
  | newer
  /-- Lines 588-602: the lock may write; `changed` says whether it must. -/
  | checked (changed : Bool)
deriving DecidableEq

/-- Lines 563-602 for the lock `spec` with desired record set `newRS`: an empty observed set is
changed; otherwise lock id and timestamp are checked before the change detection. -/
def inspectRecordSet (spec : LockSpec) (newRS : RecordSet) : RecordSet → Except GoPanic Inspection
  | [] => .ok (.checked true)
  | r0 :: rest =>
    let rs := r0 :: rest
    match getAttr rs attrLockId with
    | none => .error .sliceBounds
    | some lckDNS =>
      if spec.lockId.getD [] ≠ lckDNS then .ok (.mismatch (spec.lockId.getD []) lckDNS)
      else
        match getAttr rs attrTimestamp with
        | none => .error .sliceBounds
        | some value =>
          match parseInt value with
          | (_, some _) => .ok (.invalidTimestamp value)
          | (i, none) =>
            if spec.timestamp.before (Time.unix i) then .ok .newer
            else .ok (.checked (lockChanged newRS rs r0.ttl))

/-- `checkAndUpdateLock(entry, premise)`. -/
def checkAndUpdateLock (entry : Entry) (premise : EntryPremise) (lo : LockOutcomes) :
    Except GoPanic LockRun :=
  if !entry.updateRequired then .ok ⟨.succeeded, entry.updateRequired, []⟩
  else
    match premise.provider, entry.version.object.lock with
    | none, _ => .error .nilDereference
    | some _, none => .error .typeAssertion
    | some prov, some spec =>
      let newRS := desiredRecordSet entry.dnsName spec
      let get := LockCall.getRecordSet entry.dnsName
      let stale (msg : GoString) : LockRun :=
        ⟨delayOnError lo.updateStatus, true, [get, .updateStatus .stale msg]⟩
      match lo.getRecordSet with
      | .error err => .ok ⟨.delay err, true, [get]⟩
      | .ok rs =>
        match inspectRecordSet spec newRS (rs.getD []) with
        | .error p => .error p
        | .ok (.mismatch own stored) =>
          .ok (stale ("mismatching lock ids ".toList ++ own ++ " != ".toList ++ stored))
        | .ok (.invalidTimestamp value) =>
          .ok (stale ("invalid timestamp in DNS record: ".toList ++ value))
        | .ok .newer => .ok ⟨.succeeded, true, [get]⟩
        | .ok (.checked changed) =>
          let write := if changed then [LockCall.createOrUpdateRecordSet newRS] else []
          match changed, lo.createOrUpdate with
          | true, some err => .ok ⟨.delay err, true, [get] ++ write⟩
          | _, _ =>
            let modify := LockCall.modifyStatus premise.zoneid prov.name premise.ptype
            .ok ⟨delayOnError lo.modifyStatus, false, [get] ++ write ++ [modify]⟩

/-- Lines 641-648: whether the observed record set is deleted, for the lock `spec`.  The error
of `ParseInt` is ignored: an unparsable timestamp reads as `0`. -/
def deleteCheck (spec : LockSpec) (rs : RecordSet) : Except GoPanic Bool :=
  match getAttr rs attrLockId, getAttr rs attrTimestamp with
  | some lckDNS, some value =>
    .ok (spec.lockId.getD [] = lckDNS && !(Time.unix (parseInt value).1).after spec.timestamp)
  | _, _ => .error .sliceBounds

/-- `checkAndDeleteLock(entry, premise)`. -/
def checkAndDeleteLock (entry : Entry) (premise : EntryPremise) (lo : LockOutcomes) :
    Except GoPanic LockRun :=
  match premise.provider, entry.version.object.lock with
  | none, _ => .error .nilDereference
  | some _, none => .error .typeAssertion
  | some _, some spec =>
    let get := LockCall.getRecordSet entry.dnsName
    let finish (calls : List LockCall) : LockRun :=
      ⟨delayOnError lo.removeFinalizer, entry.updateRequired, calls ++ [.removeFinalizer]⟩
    match lo.getRecordSet with
    | .error err => .ok ⟨.delay err, entry.updateRequired, [get]⟩
    | .ok none => .ok (finish [get])
    | .ok (some rs) =>
      match deleteCheck spec rs with
      | .error p => .error p
      | .ok false => .ok (finish [get])
      | .ok true =>
        match lo.deleteRecordSet with
        | some err => .ok ⟨.delay err, entry.updateRequired, [get, .deleteRecordSet rs]⟩
        | none => .ok (finish [get, .deleteRecordSet rs])

/-- **A run whose checks pass clears `updateRequired` before its status write.**  Once the
record set read is the lock's own and not newer, and the write succeeds when one is needed, the
run ends with line 610 (`updateRequired` cleared) and the status write, whose error is the
run's `Delay`. -/
theorem checkAndUpdateLock_checked {entry : Entry} {premise : EntryPremise} {lo : LockOutcomes}
    {prov : Provider} {spec : LockSpec} {rs : Option RecordSet} {c : Bool}
    (hreq : entry.updateRequired = true) (hprov : premise.provider = some prov)
    (hlock : entry.version.object.lock = some spec) (hget : lo.getRecordSet = .ok rs)
    (hins : inspectRecordSet spec (desiredRecordSet entry.dnsName spec) (rs.getD []) =
      .ok (.checked c))
    (hcu : c = true → lo.createOrUpdate = none) :
    checkAndUpdateLock entry premise lo = .ok ⟨delayOnError lo.modifyStatus, false,
      [.getRecordSet entry.dnsName] ++
        (if c then [.createOrUpdateRecordSet (desiredRecordSet entry.dnsName spec)] else []) ++
        [.modifyStatus premise.zoneid prov.name premise.ptype]⟩ := by
  simp only [checkAndUpdateLock, hreq, hprov, hlock, hget, hins, Bool.not_true,
    Bool.false_eq_true, if_false]
  cases c with
  | false => rfl
  | true => rw [hcu rfl]

/-! ## A lock reading back its own record set -/

/-- Reading back its own record set, a lock with distinct texts finds its id, a timestamp not
later than its own, and nothing changed. -/
theorem inspectRecordSet_desired (dnsName : GoString) {spec : LockSpec}
    (hnodup : (lockTexts spec).Nodup) :
    inspectRecordSet spec (desiredRecordSet dnsName spec) (desiredRecordSet dnsName spec) =
      .ok (.checked false) := by
  have hch : lockChanged (desiredRecordSet dnsName spec) (desiredRecordSet dnsName spec)
      spec.ttl = false :=
    (lockChanged_eq_false_iff spec.ttl
      (by rw [desiredRecordSet_values]; exact hnodup.map quote_injective)).2
      ⟨fun _ => Iff.rfl, fun _ hr => ttl_of_mem_desiredRecordSet hr⟩
  have hid := getAttr_desiredRecordSet_lockId dnsName spec
  have hts := getAttr_desiredRecordSet_timestamp dnsName spec
  rw [desiredRecordSet_eq] at hid hts hch ⊢
  simp only [inspectRecordSet, hid, hts, ne_eq, not_true_eq_false, if_false,
    parseInt_formatInt (i := spec.timestamp.unixSec) (wrapInt64_inInt64 _),
    Time.before_unix_unixSec, Bool.false_eq_true, hch]

/-- **A lock's own write is a fixed point**: when `GetRecordSet` returns the record set a lock
with distinct texts writes, an update run reads its own id back, parses a timestamp not later
than its own, sees no change, writes nothing and marks nothing stale. -/
theorem own_lock_write_fixed_point {entry : Entry} {spec : LockSpec} {premise : EntryPremise}
    {prov : Provider} {lo : LockOutcomes} (hlock : entry.version.object.lock = some spec)
    (hreq : entry.updateRequired = true) (hprov : premise.provider = some prov)
    (hget : lo.getRecordSet = .ok (some (desiredRecordSet entry.dnsName spec)))
    (hnodup : (lockTexts spec).Nodup) :
    getAttr (desiredRecordSet entry.dnsName spec) attrLockId = some (spec.lockId.getD []) ∧
      getAttr (desiredRecordSet entry.dnsName spec) attrTimestamp =
        some (formatInt spec.timestamp.unixSec) ∧
      parseInt (formatInt spec.timestamp.unixSec) = (spec.timestamp.unixSec, none) ∧
      spec.timestamp.before (Time.unix spec.timestamp.unixSec) = false ∧
      inspectRecordSet spec (desiredRecordSet entry.dnsName spec)
        (desiredRecordSet entry.dnsName spec) = .ok (.checked false) ∧
      checkAndUpdateLock entry premise lo = .ok ⟨delayOnError lo.modifyStatus, false,
        [.getRecordSet entry.dnsName, .modifyStatus premise.zoneid prov.name premise.ptype]⟩ := by
  have hins := inspectRecordSet_desired entry.dnsName hnodup
  exact ⟨getAttr_desiredRecordSet_lockId _ _, getAttr_desiredRecordSet_timestamp _ _,
    parseInt_formatInt (wrapInt64_inInt64 _), Time.before_unix_unixSec _, hins,
    checkAndUpdateLock_checked hreq hprov hlock hget hins nofun⟩

/-- The `DNSLock` `ns/l` on `n` with the lock spec `spec`, observed for the first time by a
provider of type `aws`. -/
def lockEntry (spec : LockSpec) : Entry :=
  let status : BaseStatus := ⟨.empty, none, some "aws".toList⟩
  Entry.new ⟨⟨"ns/l".toList, "n".toList, Time.zero, false, true, status, some spec, 0⟩, true,
    status⟩

/-- A premise with the valid provider `p` of type `aws` and the zone `z`. -/
def lockPremise : EntryPremise :=
  ⟨["aws".toList], some ⟨"p".toList, "aws".toList, true⟩, none, "aws".toList, "z".toList,
    "example.org".toList⟩

/-- Answers where `GetRecordSet` returns `rs` and only `ModifyStatus` may fail, with `err`. -/
def lockOutcomes (rs : Option RecordSet) (err : Option GoString) : LockOutcomes :=
  ⟨.ok rs, none, none, err, none, none⟩

/-- `plainLock`, whose texts are distinct, reads back its own record set and writes nothing. -/
example : checkAndUpdateLock (lockEntry plainLock) lockPremise
    (lockOutcomes (some (desiredRecordSet "n".toList plainLock)) none) =
      .ok ⟨.succeeded, false, [.getRecordSet "n".toList,
        .modifyStatus "z".toList "p".toList "aws".toList]⟩ := rfl

set_option maxRecDepth 4000 in
/-- A lock whose attribute repeats its lock id rewrites its own record set: the repeated text
makes the desired list longer than the set of values read back. -/
theorem own_lock_rewritten_when_texts_repeat :
    ¬ ∀ (entry : Entry) (spec : LockSpec) (premise : EntryPremise) (prov : Provider)
        (lo : LockOutcomes), entry.version.object.lock = some spec →
      entry.updateRequired = true → premise.provider = some prov →
      lo.getRecordSet = .ok (some (desiredRecordSet entry.dnsName spec)) →
      ∃ r, checkAndUpdateLock entry premise lo = .ok r ∧
        LockCall.createOrUpdateRecordSet (desiredRecordSet entry.dnsName spec) ∉ r.calls := by
  intro h
  obtain ⟨r, hr, hnot⟩ := h (lockEntry repeatedIdLock) repeatedIdLock lockPremise _
    (lockOutcomes (some (desiredRecordSet "n".toList repeatedIdLock)) none) rfl rfl rfl rfl
  rw [@checkAndUpdateLock_checked (lockEntry repeatedIdLock) lockPremise
    (lockOutcomes (some (desiredRecordSet "n".toList repeatedIdLock)) none) _ _ _ true rfl rfl rfl
    rfl rfl fun _ => rfl] at hr
  cases hr
  exact hnot (by simp)

/-! ## What an update run can do -/

/-- **What an update run can do.**  It returns at once when no update is required; or it keeps
`updateRequired`, writing at most a stale state and never its final status; or it has read the
record set, found it its own, not newer, and changed or not, written it when changed, and then
makes its status write with `updateRequired` cleared. -/
theorem checkAndUpdateLock_ok_cases {entry : Entry} {premise : EntryPremise} {lo : LockOutcomes}
    {run : LockRun} (h : checkAndUpdateLock entry premise lo = .ok run) :
    (entry.updateRequired = false ∧ run = ⟨.succeeded, false, []⟩) ∨
    (run.updateRequired = true ∧ (∀ st msg, .updateStatus st msg ∈ run.calls → st = .stale) ∧
      ∀ z p t, .modifyStatus z p t ∉ run.calls) ∨
    ∃ prov spec rs c, premise.provider = some prov ∧ entry.version.object.lock = some spec ∧
      entry.updateRequired = true ∧ lo.getRecordSet = .ok rs ∧
      inspectRecordSet spec (desiredRecordSet entry.dnsName spec) (rs.getD []) =
        .ok (.checked c) ∧ (c = true → lo.createOrUpdate = none) ∧
      run = ⟨delayOnError lo.modifyStatus, false, [.getRecordSet entry.dnsName] ++
        (if c then [.createOrUpdateRecordSet (desiredRecordSet entry.dnsName spec)] else []) ++
        [.modifyStatus premise.zoneid prov.name premise.ptype]⟩ := by
  unfold checkAndUpdateLock at h
  split at h
  next hreq =>
    cases h
    exact .inl ⟨by simpa using hreq, by simpa using hreq⟩
  next hreq =>
  split at h
  · cases h
  · cases h
  next prov spec hprov hlock =>
  dsimp only at h
  split at h
  · cases h; exact .inr (.inl ⟨rfl, by simp, by simp⟩)
  next rs hget =>
  split at h
  · cases h
  · cases h; exact .inr (.inl ⟨rfl, by simp, by simp⟩)
  · cases h; exact .inr (.inl ⟨rfl, by simp, by simp⟩)
  · cases h; exact .inr (.inl ⟨rfl, by simp, by simp⟩)
  next c hins =>
  have hreq' : entry.updateRequired = true := by simpa using hreq
  rcases hcu : lo.createOrUpdate with _ | err <;> rcases c with _ | _ <;>
    simp only [hcu] at h <;> cases h
  · exact .inr (.inr ⟨prov, spec, rs, false, hprov, hlock, hreq', hget, hins, nofun, rfl⟩)
  · exact .inr (.inr ⟨prov, spec, rs, true, hprov, hlock, hreq', hget, hins, fun _ => rfl, rfl⟩)
  · exact .inr (.inr ⟨prov, spec, rs, false, hprov, hlock, hreq', hget, hins, nofun, rfl⟩)
  · exact .inr (.inl ⟨rfl, by simp, by simp⟩)

/-! ## Failures along an update run -/

/-- Every `Delay` of `checkAndUpdateLock` leaves `updateRequired` set, except the one after a
failed `ModifyStatus`, which comes after line 610 cleared it. -/
theorem checkAndUpdateLock_delay {entry : Entry} {premise : EntryPremise} {lo : LockOutcomes}
    {r : LockRun} {err : GoString} (h : checkAndUpdateLock entry premise lo = .ok r)
    (hd : r.status = .delay err) : r.updateRequired = true ∨ lo.modifyStatus = some err := by
  rcases checkAndUpdateLock_ok_cases h with ⟨-, rfl⟩ | ⟨hupd, -⟩ |
    ⟨_, _, _, _, -, -, -, -, -, -, rfl⟩
  · cases hd
  · exact .inl hupd
  · exact .inr (delayOnError_eq_delay.1 hd)

/-- The failing input of the retry law: the first write of a lock succeeds, `ModifyStatus`
fails, and the run returns `Delay` with `updateRequired` already cleared, so the requeued
reconcile returns at line 544 without retrying the status write. -/
theorem modifyStatus_failure_clears_updateRequired :
    checkAndUpdateLock (lockEntry plainLock) lockPremise
        (lockOutcomes none (some "conflict".toList)) =
      .ok ⟨.delay "conflict".toList, false, [.getRecordSet "n".toList,
        .createOrUpdateRecordSet (desiredRecordSet "n".toList plainLock),
        .modifyStatus "z".toList "p".toList "aws".toList]⟩ :=
  @checkAndUpdateLock_checked (lockEntry plainLock) lockPremise
    (lockOutcomes none (some "conflict".toList)) _ _ _ true rfl rfl rfl rfl rfl fun _ => rfl

/-! ## A record set `GetAttr` cannot read -/

/-- An update run that reads a record set whose lock-id value is the bare prefix `"lockid=`
panics at line 563. -/
theorem checkAndUpdateLock_bare_lockid {entry : Entry} {premise : EntryPremise}
    {lo : LockOutcomes} {spec : LockSpec} {prov : Provider}
    (hlock : entry.version.object.lock = some spec) (hreq : entry.updateRequired = true)
    (hprov : premise.provider = some prov) {rs : RecordSet}
    (hget : lo.getRecordSet = .ok (some rs)) (hbare : getAttr rs attrLockId = none) :
    checkAndUpdateLock entry premise lo = .error .sliceBounds := by
  cases rs with
  | nil => cases hbare
  | cons r0 rest =>
    simp only [checkAndUpdateLock, hreq, hprov, hlock, hget, Option.getD_some, inspectRecordSet,
      hbare, Bool.not_true, Bool.false_eq_true, if_false]

/-- A deletion run that reads such a record set panics at line 637. -/
theorem checkAndDeleteLock_bare_lockid {entry : Entry} {premise : EntryPremise}
    {lo : LockOutcomes} {spec : LockSpec} {prov : Provider}
    (hlock : entry.version.object.lock = some spec) (hprov : premise.provider = some prov)
    {rs : RecordSet} (hget : lo.getRecordSet = .ok (some rs))
    (hbare : getAttr rs attrLockId = none) :
    checkAndDeleteLock entry premise lo = .error .sliceBounds := by
  simp only [checkAndDeleteLock, hprov, hlock, hget, deleteCheck, hbare]

/-- The TXT record set of `n` as a provider may return it when its one value is the bare prefix
`"lockid=`, with no value and no closing quote. -/
def bareLockIdRecords : RecordSet := [⟨"n".toList, rsTxt, 60, newAttrKeyPrefix attrLockId⟩]

/-- The failing input of the slicing law: `GetAttr` slices `value[8:7]` on the bare prefix, and
both lock handlers that read the record set panic. -/
theorem bare_lockid_value_panics :
    getAttr bareLockIdRecords attrLockId = none ∧
      checkAndUpdateLock (lockEntry plainLock) lockPremise
          (lockOutcomes (some bareLockIdRecords) none) = .error .sliceBounds ∧
      checkAndDeleteLock (lockEntry plainLock) lockPremise
          (lockOutcomes (some bareLockIdRecords) none) = .error .sliceBounds :=
  have hbare : getAttr bareLockIdRecords attrLockId = none := rfl
  ⟨hbare, checkAndUpdateLock_bare_lockid rfl rfl rfl rfl hbare,
    checkAndDeleteLock_bare_lockid rfl rfl rfl hbare⟩

/-! ## What a run that clears the flag has done -/

end ExternalDns
