import Mathlib.Data.List.AList
import ExternalDns.Direct.RecordSet

/-!
# Entries and the entry index (`pkg/dns/provider`)

The provider `state` keeps every observed DNS entry and DNS lock in one index: `entries` maps
an object name to its `*Entry`, `dnsnames` maps a DNS name to the entry that holds the claim
on it.  Entries are shared, mutable objects — `AddEntryVersion` flips the `duplicate` and
`modified` flags of an entry that may be reachable from both maps — so the index is modelled
with an explicit heap: maps store pointers, the heap stores the entries.

## Main Definitions

* `Object`, `EntryVersion`, `Entry` — what an entry is built from and what it carries.
* `State` — the heap, the allocation counter, `entries`, `dnsnames`, `outdated` and
  `blockingEntries`.
* `State.newEntry`, `State.updateEntry`, `before`, `State.entriesDelete` — `NewEntry`,
  `Entry.Update`, `Entry.Before` and `Entries.Delete`, which the handlers use but which are
  declared outside the source.

## Design Notes

**What is modelled from the spec.**  `NewEntry`, `Entry.Update`, `Entry.Before` and
`Entries.Delete` live in `entry.go`, which is not part of the source.  They are modelled from
the spec's words, each under a docstring saying so: an entry is created on first observation,
updated *in place* when its DNS name is unchanged and replaced by a fresh entry otherwise;
"earlier" is creation timestamp, then object name; cleanup removes *the entry* from the index.

**Per-version data.**  `valid`, `duplicate` and the status are properties of one observed
version: the handler builds a fresh `EntryVersion` for every reconcile and `AddEntryVersion`
decides `duplicate` anew.  An in-place update therefore carries the new version's flags, with
`duplicate` clear.  `modified` and `updateRequired` belong to the entry and are only raised by
an update (`changed` stands for the comparison of targets, TTL and text that `Update` makes).
-/

namespace ExternalDns

/-! ## Objects and versions -/

/-- The resource behind an entry: a `DNSEntry` or a `DNSLock`. -/
inductive Kind where
  | entry
  | lock
deriving DecidableEq, Repr

/-- `status.State` (`api.STATE_*`); `empty` is a status never written. -/
inductive StatusState where
  | empty
  | pending
  | ready
  | error
  | invalid
  | stale
  | deleting
deriving DecidableEq, Repr, Inhabited

/-- The spec of a `DNSLock`: `LockId`, `Timestamp`, `Attributes` (in map iteration order) and
`TTL`. -/
structure LockSpec where
  lockId : Option GoString
  timestamp : Time
  attributes : List (GoString × GoString)
  ttl : Int
deriving DecidableEq, Inhabited

/-- The persisted status an object carries (`BaseStatus()`). -/
structure BaseStatus where
  state : StatusState
  zone : Option GoString
  providerType : Option GoString
deriving DecidableEq, Inhabited

/-- An observed `DNSSpecification`: object name, DNS name, creation timestamp, whether it is
being deleted, whether it carries the controller's finalizer, its persisted status, the lock
spec when it is a `DNSLock`, and the lookup interval in seconds a `DNSEntry` asks for. -/
structure Object where
  name : GoString
  dnsName : GoString
  creationTimestamp : Time
  deleting : Bool
  finalizer : Bool
  status : BaseStatus
  lock : Option LockSpec
  interval : Int
deriving DecidableEq, Inhabited

/-- `Kind()`. -/
def Object.kind (o : Object) : Kind := if o.lock.isSome then .lock else .entry

/-- One `EntryVersion`: the object and what `Setup` computed for it (`valid`, and the status
`v.status` with the provider type the premise resolved). -/
structure EntryVersion where
  object : Object
  valid : Bool
  status : BaseStatus
deriving DecidableEq, Inhabited

namespace EntryVersion

/-- `v.ObjectName()`. -/
def objectName (v : EntryVersion) : GoString := v.object.name

/-- `v.DNSName()`. -/
def dnsName (v : EntryVersion) : GoString := v.object.dnsName

/-- `v.ZoneId()`. -/
def zoneId (v : EntryVersion) : GoString := v.status.zone.getD []

end EntryVersion

/-- `IsManaging(v)`: the version's provider type is one of the type codes of the handler
factory. -/
def isManaging (typeCodes : List GoString) (v : EntryVersion) : Bool :=
  match v.status.providerType with
  | none => false
  | some t => t ∈ typeCodes

/-! ## Entries -/

/-- An `*Entry`: the current version and the entry's own flags. -/
structure Entry where
  version : EntryVersion
  duplicate : Bool
  modified : Bool
  activezone : GoString
  updateRequired : Bool
deriving Inhabited

namespace Entry

/-- `e.ObjectName()`. -/
def objectName (e : Entry) : GoString := e.version.objectName

/-- `e.DNSName()`. -/
def dnsName (e : Entry) : GoString := e.version.dnsName

/-- `e.Kind()`. -/
def kind (e : Entry) : Kind := e.version.object.kind

/-- `e.valid`. -/
def valid (e : Entry) : Bool := e.version.valid

/-- Modelled from the spec: `e.ZoneId()` (in `entry.go`, not in the source), the zone of the
entry's current version. -/
def zoneId (e : Entry) : GoString := e.version.zoneId

/-- Modelled from the spec: `e.Interval()` (in `entry.go`, not in the source), the lookup
interval the object asks for. -/
def interval (e : Entry) : Int := e.version.object.interval

/-- Modelled from the spec: `NewEntry(v)` (in `entry.go`, not in the source).  A new entry is
unmarked, modified, bound to the zone its object's status names, and due for a lock update. -/
def new (v : EntryVersion) : Entry :=
  ⟨v, false, true, v.object.status.zone.getD [], true⟩

/-- Modelled from the spec: the in-place half of `Entry.Update` (in `entry.go`, not in the
source).  The entry takes the new version, whose `duplicate` flag is clear, and raises
`modified` and `updateRequired` when the version differs (`changed`). -/
def update (e : Entry) (v : EntryVersion) (changed : Bool) : Entry :=
  ⟨v, false, e.modified || changed, e.activezone, e.updateRequired || changed⟩

@[simp] theorem new_version (v : EntryVersion) : (new v).version = v := rfl
@[simp] theorem new_duplicate (v : EntryVersion) : (new v).duplicate = false := rfl
@[simp] theorem update_version (e : Entry) (v c) : (e.update v c).version = v := rfl
@[simp] theorem update_duplicate (e : Entry) (v c) : (e.update v c).duplicate = false := rfl

end Entry

/-! ## `Entry.Before` -/

/-- `strings.Compare(a, b) < 0`: byte-wise lexicographic order. -/
def compareLess : GoString → GoString → Bool
  | [], [] => false
  | [], _ :: _ => true
  | _ :: _, [] => false
  | a :: as, b :: bs => if a = b then compareLess as bs else a.toNat < b.toNat

theorem compareLess_irrefl (a : GoString) : compareLess a a = false := by
  induction a with
  | nil => rfl
  | cons c a ih => simp [compareLess, ih]

theorem compareLess_trans {a b c : GoString} (hab : compareLess a b) (hbc : compareLess b c) :
    compareLess a c := by
  induction a generalizing b c with
  | nil => cases b <;> cases c <;> simp_all [compareLess]
  | cons x a ih =>
    cases b with
    | nil => simp [compareLess] at hab
    | cons y b =>
      cases c with
      | nil => simp [compareLess] at hbc
      | cons z c =>
        simp only [compareLess] at hab hbc ⊢
        by_cases hxy : x = y <;> by_cases hyz : y = z <;> simp_all
        · exact ih hab hbc
        · have : x ≠ z := by rintro rfl; omega
          simp only [this, if_false, decide_eq_true_eq]; omega

theorem compareLess_total {a b : GoString} (h : a ≠ b) : compareLess a b ∨ compareLess b a := by
  induction a generalizing b with
  | nil => cases b <;> simp_all [compareLess]
  | cons x a ih =>
    cases b with
    | nil => simp [compareLess]
    | cons y b =>
      simp only [compareLess]
      by_cases hxy : x = y
      · subst hxy; simpa using ih (by simpa using h)
      · have : x.toNat ≠ y.toNat := fun h => hxy (Char.ext (UInt32.toNat.inj h))
        simp only [hxy, if_false, Ne.symm hxy, decide_eq_true_eq]
        omega

/-- Modelled from the spec: `a.Before(b)` (in `entry.go`, not in the source).  Earlier creation
timestamp first; for equal timestamps the smaller object name. -/
def before (a b : Entry) : Bool :=
  let ta := a.version.object.creationTimestamp
  let tb := b.version.object.creationTimestamp
  if ta = tb then compareLess a.objectName b.objectName else ta.before tb

theorem before_irrefl (a : Entry) : before a a = false := by
  simp [before, compareLess_irrefl]

theorem before_trans {a b c : Entry} (hab : before a b) (hbc : before b c) : before a c := by
  unfold before at *
  generalize a.version.object.creationTimestamp = ta at *
  generalize b.version.object.creationTimestamp = tb at *
  generalize c.version.object.creationTimestamp = tc at *
  by_cases h1 : ta = tb <;> by_cases h2 : tb = tc <;>
    simp only [h1, h2, if_true, if_false] at hab hbc
  · subst h1 h2; simpa using compareLess_trans hab hbc
  · subst h1; simpa [h2] using hbc
  · subst h2; simpa [h1] using hab
  · have hac := Time.before_trans hab hbc
    have hne : ta ≠ tc := by
      rintro rfl; simpa [Time.before_irrefl] using Time.before_trans hbc hab
    simpa [hne] using hac

/-- Entries with different object names are always ordered one way or the other. -/
theorem before_total {a b : Entry} (h : a.objectName ≠ b.objectName) :
    before a b ∨ before b a := by
  unfold before
  by_cases ht : a.version.object.creationTimestamp = b.version.object.creationTimestamp
  · simpa [ht] using compareLess_total h
  · simpa [ht, Ne.symm ht] using Time.before_total ht

end ExternalDns
