import ExternalDns.Provider.State

/-!
# `AddEntryVersion` and `EntryDeleted` (`state_entry.go`)

The state-transition kernel of the entry index.  `addEntryVersion` follows lines 276-392 of
the source block by block: the deleting branch is `State.addDeleting`, the claim arbitration
on the DNS name is `State.arbitrate`, and every early return of the Go function is a return
here.  Everything the handler learns from the rest of the controller during one call — which
hosted zones exist, the owner check, whether `Update` saw a change, and the results of the
finalizer and status writes — is an `Outcomes` value, so a theorem over all `Outcomes` is a
theorem over every answer the cluster can give.

## Main Definitions

* `Status`, `delayOnError` — `reconcile.Status` as the handlers build it.
* `Outcomes` — the answers of one `AddEntryVersion` call.
* `addEntryVersion`, `entryDeleted` — the two operations on the index.
* `Step`, `Reachable` — runs of those operations from the empty index.
-/

namespace ExternalDns

/-- A `reconcile.Status` as the handlers build it. -/
inductive Status where
  | succeeded
  | delay (err : GoString)
  | failed (err : GoString)
  | repeat
  | rescheduleAfter (secs : Int)
deriving DecidableEq

/-- `status.IsSucceeded()`. -/
def Status.isSucceeded : Status → Bool
  | .succeeded => true
  | .rescheduleAfter _ => true
  | _ => false

/-- `reconcile.DelayOnError(logger, err)`. -/
def delayOnError : Option GoString → Status
  | none => .succeeded
  | some err => .delay err

theorem delayOnError_eq_delay {e : Option GoString} {err : GoString} :
    delayOnError e = .delay err ↔ e = some err := by
  cases e <;> simp [delayOnError]

/-- What the rest of the controller answers during one `AddEntryVersion`: the hosted zones it
knows (`this.zones[id] != nil`), the owner check `new.IsActive()`, whether `Update` saw a
changed version, and the errors of `SetFinalizer`, `RemoveFinalizer` and `v.UpdateStatus`. -/
structure Outcomes where
  zoneKnown : GoString → Bool
  active : Bool
  changed : Bool
  setFinalizer : Option GoString
  removeFinalizer : Option GoString
  updateStatus : Option GoString

/-- What `AddEntryVersion` leaves: the index, the returned entry, the status, and the calls it
made. -/
structure AddResult where
  state : State
  entry : Option Ptr
  status : Status
  effects : List Effect

/-- `found.Trigger(nil)` for the entry `cleanupEntry` reactivates. -/
def reactivate (heap : Ptr → Entry) : Option Ptr → List Effect
  | some f => [.triggerKey (heap f).objectName]
  | none => []

/-- Lines 282-288: `NewEntry(v)` when nothing is bound under the object name, `old.Update(v)`
otherwise. -/
def State.allocate (s : State) (old : Option Ptr) (v : EntryVersion) (changed : Bool) :
    State × Ptr :=
  match old with
  | none => s.newEntry v
  | some p => s.updateEntry p v changed

/-- Lines 292-296: `cleanupEntry(old)`, skipped for a lock (the source's TODO). -/
def State.cleanupUnlessLock (s : State) : Option Ptr → State × List Effect
  | some p =>
    if (s.heap p).kind ≠ .lock then ((s.cleanupEntry p).1, reactivate s.heap (s.cleanupEntry p).2)
    else (s, [])
  | none => (s, [])

@[simp] theorem State.allocate_entries (s : State) (old v c) :
    (s.allocate old v c).1.entries = s.entries := by
  cases old with
  | none => rfl
  | some p => simp only [State.allocate, State.updateEntry]; split <;> rfl
@[simp] theorem State.allocate_dnsnames (s : State) (old v c) :
    (s.allocate old v c).1.dnsnames = s.dnsnames := by
  cases old with
  | none => rfl
  | some p => simp only [State.allocate, State.updateEntry]; split <;> rfl

/-- The entry `allocate` returns carries the observed version and is not a duplicate. -/
theorem State.allocate_new (s : State) (old v c) :
    ((s.allocate old v c).1.heap (s.allocate old v c).2).version = v ∧
      ((s.allocate old v c).1.heap (s.allocate old v c).2).duplicate = false := by
  cases old <;> simp only [State.allocate, State.updateEntry]
  · simp
  · split <;> simp

/-- `allocate` writes no entry but the one it returns. -/
theorem State.allocate_heap_of_ne (s : State) (old v c) {p : Ptr}
    (hp : p ≠ (s.allocate old v c).2) : (s.allocate old v c).1.heap p = s.heap p := by
  cases old with
  | none => exact Function.update_noteq hp _ _
  | some q =>
    simp only [State.allocate, State.updateEntry] at hp ⊢
    split at hp <;> simp only [if_pos, if_neg, *] <;> exact Function.update_noteq hp _ _

@[simp] theorem State.cleanupUnlessLock_heap (s : State) (old) :
    (s.cleanupUnlessLock old).1.heap = s.heap := by
  cases old with
  | none => rfl
  | some p => simp only [State.cleanupUnlessLock]; split_ifs <;> simp
@[simp] theorem State.cleanupUnlessLock_next (s : State) (old) :
    (s.cleanupUnlessLock old).1.next = s.next := by
  cases old with
  | none => rfl
  | some p => simp only [State.cleanupUnlessLock]; split_ifs <;> simp

/-- Lines 290-326: the observed version is being deleted.  A non-lock old entry is cleaned up;
then the entry is queued as outdated (valid, zone known, finalizer held), or its finalizer is
removed; when that fails the entry is put back into `entries`. -/
def State.addDeleting (s : State) (o : Outcomes) (old : Option Ptr) (new : Ptr)
    (v : EntryVersion) : AddResult :=
  let c := s.cleanupUnlessLock old
  let finish (err : Option GoString) (calls : List Effect) : AddResult :=
    ⟨if err.isSome then c.1.install v.objectName new else c.1, some new, delayOnError err,
      c.2 ++ calls⟩
  let remove := finish o.removeFinalizer [.removeFinalizer v.objectName]
  if (c.1.heap new).valid then
    if o.zoneKnown (c.1.heap new).activezone then
      if v.object.finalizer then
        ⟨{ c.1 with outdated := c.1.outdated.insert v.objectName new }, some new, .succeeded,
          c.2⟩
      else finish none []
    else if !o.active || v.object.status.zone.isNone then remove
    else finish none []
  else if !o.active || v.object.status.state ≠ .stale then remove
  else finish none []

/-- The three states the deleting branch can end in: the cleaned-up index, the same with the
entry queued as outdated, or the same with the entry put back under its object name. -/
theorem State.addDeleting_state (s : State) (o : Outcomes) (old : Option Ptr) (new : Ptr)
    (v : EntryVersion) :
    (s.addDeleting o old new v).state = (s.cleanupUnlessLock old).1 ∨
    (s.addDeleting o old new v).state = { (s.cleanupUnlessLock old).1 with
      outdated := (s.cleanupUnlessLock old).1.outdated.insert v.objectName new } ∨
    (s.addDeleting o old new v).state = (s.cleanupUnlessLock old).1.install v.objectName new := by
  unfold State.addDeleting
  dsimp only
  repeat' split
  all_goals simp

/-- Lines 336-346: the DNS name changed, so the old entry is cleaned up and, when it was bound
to another known zone, that zone is triggered. -/
def State.cleanupRenamed (s : State) (o : Outcomes) (old : Option Ptr) (new : Ptr)
    (v : EntryVersion) : State × List Effect :=
  match old with
  | some p =>
    if p ≠ new then
      let oldZone := (s.heap p).activezone
      ((s.cleanupEntry p).1, reactivate s.heap (s.cleanupEntry p).2 ++
        if oldZone ≠ [] ∧ oldZone ≠ v.zoneId ∧ o.zoneKnown oldZone
        then [.triggerHostedZone oldZone] else [])
    else (s, [])
  | none => (s, [])

@[simp] theorem State.cleanupRenamed_heap (s : State) (o old new v) :
    (s.cleanupRenamed o old new v).1.heap = s.heap := by
  cases old with
  | none => rfl
  | some p => simp only [State.cleanupRenamed]; split_ifs <;> simp
@[simp] theorem State.cleanupRenamed_next (s : State) (o old new v) :
    (s.cleanupRenamed o old new v).1.next = s.next := by
  cases old with
  | none => rfl
  | some p => simp only [State.cleanupRenamed]; split_ifs <;> simp

/-- Lines 353-391: the claim on the DNS name.  An earlier holder makes the new entry a
duplicate (in `error`, citing the holder); otherwise a different holder is marked duplicate and
re-triggered, and the new entry takes the claim. -/
def State.arbitrate (s : State) (o : Outcomes) (new : Ptr) (v : EntryVersion) (status : Status)
    (eff : List Effect) : AddResult :=
  let dnsname := v.dnsName
  let activate (s : State) (eff : List Effect) : AddResult :=
    let e := s.heap new
    let eff :=
      if e.valid ∧ e.version.status.state ≠ .ready ∧ e.version.status.state ≠ .pending then
        eff ++ [.updateStatus v.objectName .pending ("activating for ".toList ++ dnsname)]
      else eff
    ⟨s.claim dnsname new, some new, status, eff⟩
  if dnsname = [] then ⟨s, some new, status, eff⟩
  else match s.dnsnames dnsname with
    | none => activate s eff
    | some cur =>
      if (s.heap cur).objectName = (s.heap new).objectName then activate s eff
      else if before (s.heap cur) (s.heap new) then
        let busy := Effect.updateStatus v.objectName .error
          (alreadyBusyForEntry dnsname (s.heap cur).objectName)
        if status.isSucceeded then
          ⟨s.markDuplicate new, some new,
            (match o.updateStatus with | some err => .delay err | none => status), eff ++ [busy]⟩
        else ⟨s.markDuplicate new, some new, status, eff⟩
      else activate (s.markDuplicate cur) (eff ++ [.triggerKey (s.heap cur).objectName])
where
  /-- The message of `perrs.AlreadyBusyForEntry{DNSName, ObjectName}`; the type is declared in
  `pkg/dns/provider/errors`, outside the source, so the text cites the two fields it holds. -/
  alreadyBusyForEntry (dnsName objectName : GoString) : GoString :=
    "DNS name ".toList ++ dnsName ++ " already busy for entry ".toList ++ objectName

/-- Lines 290-391 of `AddEntryVersion`, once the entry `a.2` for the version is allocated in
`a.1`; `old` is the entry that was bound under the object name. -/
def addAllocated (typeCodes : List GoString) (o : Outcomes) (a : State × Ptr)
    (old : Option Ptr) (v : EntryVersion) (status : Status) : AddResult :=
  let new := a.2
  if v.object.deleting then a.1.addDeleting o old new v
  else
    let setsFinalizer := (a.1.heap new).valid && isManaging typeCodes v
    if setsFinalizer && o.setFinalizer.isSome then
      ⟨a.1, some new, delayOnError o.setFinalizer, [.setFinalizer v.objectName]⟩
    else
      let eff0 : List Effect := if setsFinalizer then [.setFinalizer v.objectName] else []
      let t := (a.1.install v.objectName new).cleanupRenamed o old new v
      if !isManaging typeCodes v then ⟨t.1, none, status, eff0 ++ t.2⟩
      else t.1.arbitrate o new v status (eff0 ++ t.2)

/-- `AddEntryVersion(v, status)`. -/
def addEntryVersion (typeCodes : List GoString) (o : Outcomes) (s : State) (v : EntryVersion)
    (status : Status) : AddResult :=
  let s := { s with blockingEntries := s.blockingEntries.erase v.objectName }
  let old := s.entries.lookup v.objectName
  addAllocated typeCodes o (s.allocate old v o.changed) old v status

/-- `EntryDeleted(key)`: the object is gone and its entry leaves the index.  `zone` is the
hosted zone the provider lookup finds for the entry's DNS name, whose reconciliation is
triggered. -/
def entryDeleted (s : State) (name : GoString) (zone : Option GoString) :
    State × List Effect :=
  let s := { s with blockingEntries := s.blockingEntries.erase name }
  match s.entries.lookup name with
  | some old =>
    ((s.cleanupEntry old).1,
      (zone.map Effect.triggerHostedZone).toList ++ reactivate s.heap (s.cleanupEntry old).2)
  | none => (s, [])

/-! ## Runs -/

/-- One operation on the index: `AddEntryVersion` of any version with any status and any
answers `allowed` admits, or `EntryDeleted` of any object name. -/
inductive Step (typeCodes : List GoString) (allowed : Outcomes → Prop) : State → State → Prop
  | add {s : State} (o : Outcomes) (v : EntryVersion) (status : Status) :
      allowed o → Step typeCodes allowed s (addEntryVersion typeCodes o s v status).state
  | deleted {s : State} (name : GoString) (zone : Option GoString) :
      Step typeCodes allowed s (entryDeleted s name zone).1

/-- The index states a run of `Step`s reaches from the empty index. -/
inductive Reachable (typeCodes : List GoString) (allowed : Outcomes → Prop) : State → Prop
  | empty : Reachable typeCodes allowed State.empty
  | step {s s' : State} :
      Reachable typeCodes allowed s → Step typeCodes allowed s s' →
        Reachable typeCodes allowed s'

/-- An invariant that holds of the empty index and survives every step holds of every
reachable index. -/
theorem Reachable.induct_inv {typeCodes : List GoString} {allowed : Outcomes → Prop}
    {P : State → Prop} (h0 : P State.empty)
    (hstep : ∀ s s', P s → Step typeCodes allowed s s' → P s') {s : State}
    (h : Reachable typeCodes allowed s) : P s := by
  induction h with
  | empty => exact h0
  | step _ hs ih => exact hstep _ _ ih hs

end ExternalDns
