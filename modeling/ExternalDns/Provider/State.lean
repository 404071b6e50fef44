import ExternalDns.Provider.Entry

/-!
# The index state and its primitive operations

`State` is the part of the provider `state` that `AddEntryVersion`, `EntryDeleted` and
`cleanupEntry` read and write: the heap of entries, `entries`, `dnsnames`, `outdated` and
`blockingEntries`.  This module gives the primitive updates those handlers are composed of,
each with the `@[simp]` lemmas that say which fields it touches, and `cleanupEntry` itself.

## Main Definitions

* `State`, `State.empty` — the index and the empty index the controller starts from.
* `State.newEntry`, `State.updateEntry`, `State.install`, `State.entriesDelete`,
  `State.markDuplicate`, `State.claim` — the primitive writes.
* `scanStep`, `promoteCandidate` — the duplicate scan of `cleanupEntry` (lines 514-525).
* `State.cleanupEntry` — `cleanupEntry`, returning the entry it reactivates.

## Design Notes

Go's maps are modelled by `AList` where the handlers iterate over them (`entries`) and by
functions where they only look up and assign (`dnsnames`).  The iteration order of `entries`
in `cleanupEntry` is Go's randomised map order; the model iterates in the `AList`'s own order,
and `Promotion` proves the result the same for every order.
-/

namespace ExternalDns

/-- A pointer to an `*Entry`. -/
abbrev Ptr := Nat

/-- The entry index of the provider `state`. -/
structure State where
  heap : Ptr → Entry
  next : Ptr
  entries : AList (fun _ : GoString => Ptr)
  dnsnames : GoString → Option Ptr
  outdated : AList (fun _ : GoString => Ptr)
  blockingEntries : AList (fun _ : GoString => Time)

/-- What the handlers ask of the rest of the controller. -/
inductive Effect where
  /-- `TriggerEntry`/`triggerKey`: enqueue the object for reconciliation. -/
  | triggerKey (name : GoString)
  /-- `triggerHostedZone(zoneid)`. -/
  | triggerHostedZone (zone : GoString)
  /-- `SetFinalizer(object)`. -/
  | setFinalizer (name : GoString)
  /-- `RemoveFinalizer(object)`. -/
  | removeFinalizer (name : GoString)
  /-- `UpdateStatus(state, msg)` on the object. -/
  | updateStatus (name : GoString) (state : StatusState) (msg : GoString)
deriving DecidableEq

namespace State

/-- The empty index the controller starts from. -/
def empty : State := ⟨fun _ => default, 0, ∅, fun _ => none, ∅, ∅⟩

/-- `NewEntry(v, this)`: a fresh entry at the next free pointer. -/
def newEntry (s : State) (v : EntryVersion) : State × Ptr :=
  ({ s with heap := Function.update s.heap s.next (Entry.new v), next := s.next + 1 }, s.next)

/-- Modelled from the spec: `old.Update(logger, v)` (in `entry.go`, not in the source).  The
entry is updated in place when the DNS name is unchanged; otherwise a new entry replaces it. -/
def updateEntry (s : State) (old : Ptr) (v : EntryVersion) (changed : Bool) : State × Ptr :=
  if (s.heap old).dnsName = v.dnsName then
    ({ s with heap := Function.update s.heap old ((s.heap old).update v changed) }, old)
  else s.newEntry v

/-- `this.entries[name] = p`. -/
def install (s : State) (name : GoString) (p : Ptr) : State :=
  { s with entries := s.entries.insert name p }

/-- Modelled from the spec: `this.entries.Delete(e)` (in `entry.go`, not in the source).  The
entry is removed from the index: its object name's binding goes when it is this entry. -/
def entriesDelete (s : State) (p : Ptr) : State :=
  if s.entries.lookup (s.heap p).objectName = some p then
    { s with entries := s.entries.erase (s.heap p).objectName }
  else s

/-- `e.duplicate = true; e.modified = false`. -/
def markDuplicate (s : State) (p : Ptr) : State :=
  { s with heap := Function.update s.heap p { s.heap p with duplicate := true, modified := false } }

/-- `this.dnsnames[dnsname] = p`. -/
def claim (s : State) (dnsname : GoString) (p : Ptr) : State :=
  { s with dnsnames := Function.update s.dnsnames dnsname (some p) }

/-! ### What each write touches -/

@[simp] theorem newEntry_snd (s : State) (v) : (s.newEntry v).2 = s.next := rfl
@[simp] theorem newEntry_heap (s : State) (v) :
    (s.newEntry v).1.heap = Function.update s.heap s.next (Entry.new v) := rfl
@[simp] theorem newEntry_next (s : State) (v) : (s.newEntry v).1.next = s.next + 1 := rfl
@[simp] theorem newEntry_entries (s : State) (v) : (s.newEntry v).1.entries = s.entries := rfl
@[simp] theorem newEntry_dnsnames (s : State) (v) : (s.newEntry v).1.dnsnames = s.dnsnames := rfl

/-- `NewEntry` writes only the unallocated pointer. -/
theorem newEntry_heap_of_lt (s : State) (v : EntryVersion) {p : Ptr} (hp : p < s.next) :
    (s.newEntry v).1.heap p = s.heap p := by
  rw [newEntry_heap, Function.update_noteq (ne_of_lt hp)]

@[simp] theorem install_heap (s : State) (k p) : (s.install k p).heap = s.heap := rfl
@[simp] theorem install_next (s : State) (k p) : (s.install k p).next = s.next := rfl
@[simp] theorem install_entries (s : State) (k p) :
    (s.install k p).entries = s.entries.insert k p := rfl
@[simp] theorem install_dnsnames (s : State) (k p) : (s.install k p).dnsnames = s.dnsnames := rfl

@[simp] theorem markDuplicate_next (s : State) (p) : (s.markDuplicate p).next = s.next := rfl
@[simp] theorem markDuplicate_entries (s : State) (p) :
    (s.markDuplicate p).entries = s.entries := rfl
@[simp] theorem markDuplicate_dnsnames (s : State) (p) :
    (s.markDuplicate p).dnsnames = s.dnsnames := rfl
@[simp] theorem markDuplicate_heap (s : State) (p) :
    (s.markDuplicate p).heap =
      Function.update s.heap p { s.heap p with duplicate := true, modified := false } := rfl

@[simp] theorem claim_heap (s : State) (n p) : (s.claim n p).heap = s.heap := rfl
@[simp] theorem claim_next (s : State) (n p) : (s.claim n p).next = s.next := rfl
@[simp] theorem claim_entries (s : State) (n p) : (s.claim n p).entries = s.entries := rfl
@[simp] theorem claim_dnsnames (s : State) (n p) :
    (s.claim n p).dnsnames = Function.update s.dnsnames n (some p) := rfl

@[simp] theorem entriesDelete_heap (s : State) (p) : (s.entriesDelete p).heap = s.heap := by
  unfold entriesDelete; split <;> rfl
@[simp] theorem entriesDelete_next (s : State) (p) : (s.entriesDelete p).next = s.next := by
  unfold entriesDelete; split <;> rfl
@[simp] theorem entriesDelete_dnsnames (s : State) (p) :
    (s.entriesDelete p).dnsnames = s.dnsnames := by
  unfold entriesDelete; split <;> rfl

/-- After `Entries.Delete(e)` a name is bound as before, except that `e` is gone. -/
theorem lookup_entriesDelete (s : State) (p : Ptr) (k : GoString) :
    (s.entriesDelete p).entries.lookup k =
      if s.entries.lookup k = some p ∧ k = (s.heap p).objectName then none
      else s.entries.lookup k := by
  unfold entriesDelete
  split <;> rename_i h
  · by_cases hk : k = (s.heap p).objectName
    · subst hk; simp [h, AList.lookup_erase]
    · simp [hk, AList.lookup_erase_ne hk]
  · split
    · rename_i hk; exact absurd (hk.2 ▸ hk.1) h
    · rfl

/-! ## `cleanupEntry` -/

/-- One iteration of the loop in `cleanupEntry` (lines 515-524): a duplicate claiming `dns`
becomes the candidate when there is none yet or when it is `Before` the current one. -/
def scanStep (heap : Ptr → Entry) (dns : GoString) (found : Option Ptr) (a : Ptr) :
    Option Ptr :=
  if (heap a).duplicate && (heap a).dnsName == dns then
    match found with
    | none => some a
    | some f => if before (heap a) (heap f) then some a else some f
  else found

/-- The loop of `cleanupEntry` over the entries in the order `order`. -/
def promoteCandidate (heap : Ptr → Entry) (dns : GoString) (order : List Ptr) : Option Ptr :=
  order.foldl (scanStep heap dns) none

/-- `cleanupEntry(e)`: remove `e` from the index; if it held the claim on its DNS name, drop
the claim and reactivate (trigger) the earliest duplicate of that name.  The second component
is the reactivated entry. -/
def cleanupEntry (s : State) (e : Ptr) : State × Option Ptr :=
  let s := s.entriesDelete e
  if s.dnsnames (s.heap e).dnsName = some e then
    ({ s with dnsnames := Function.update s.dnsnames (s.heap e).dnsName none },
      promoteCandidate s.heap (s.heap e).dnsName (s.entries.entries.map (·.2)))
  else (s, none)

@[simp] theorem cleanupEntry_heap (s : State) (e) : (s.cleanupEntry e).1.heap = s.heap := by
  simp only [cleanupEntry]; split <;> simp
@[simp] theorem cleanupEntry_next (s : State) (e) : (s.cleanupEntry e).1.next = s.next := by
  simp only [cleanupEntry]; split <;> simp
@[simp] theorem cleanupEntry_entries (s : State) (e) :
    (s.cleanupEntry e).1.entries = (s.entriesDelete e).entries := by
  simp only [cleanupEntry]; split <;> rfl

/-- After `cleanupEntry(e)`, only `e`'s own claim is gone. -/
theorem cleanupEntry_dnsnames (s : State) (e : Ptr) (n : GoString) :
    (s.cleanupEntry e).1.dnsnames n =
      if n = (s.heap e).dnsName ∧ s.dnsnames n = some e then none else s.dnsnames n := by
  simp only [cleanupEntry, entriesDelete_heap, entriesDelete_dnsnames]
  by_cases h : s.dnsnames (s.heap e).dnsName = some e
  · rw [if_pos h]
    by_cases hn : n = (s.heap e).dnsName
    · subst hn; simp [h]
    · simp [hn, Function.update_noteq hn]
  · rw [if_neg h, if_neg (by rintro ⟨rfl, hn⟩; exact h hn)]; simp

/-- A binding left by `cleanupEntry` was there before. -/
theorem lookup_cleanupEntry_of_some {s : State} {e : Ptr} {k : GoString} {p : Ptr}
    (h : (s.cleanupEntry e).1.entries.lookup k = some p) : s.entries.lookup k = some p := by
  rw [cleanupEntry_entries, lookup_entriesDelete] at h
  split at h
  · cases h
  · exact h

/-- A claim left by `cleanupEntry` was there before, and is not `e`'s own. -/
theorem dnsnames_cleanupEntry_of_some {s : State} {e : Ptr} {n : GoString} {p : Ptr}
    (h : (s.cleanupEntry e).1.dnsnames n = some p) :
    s.dnsnames n = some p ∧ ¬ (n = (s.heap e).dnsName ∧ s.dnsnames n = some e) := by
  rw [cleanupEntry_dnsnames] at h
  split at h
  · cases h
  · exact ⟨h, ‹_›⟩

end State

end ExternalDns
