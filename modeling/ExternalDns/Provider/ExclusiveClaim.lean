import ExternalDns.Provider.IndexInvariant

/-!
# One claim per DNS name

Every managed, unmarked entry of the index should hold the claim on its DNS name in `dnsnames`,
so that at most one such entry exists per name.  `AddEntryVersion` breaks this on two of its
early returns: a failed `SetFinalizer` (line 331) leaves an entry updated in place without
arbitration, and a failed `RemoveFinalizer` (line 323) puts a deleting entry back into
`entries` after `cleanupEntry` released its claim.  Counting only entries whose object is not
being deleted, and runs in which `SetFinalizer` succeeds, the law holds over every run.

## Main Definitions

* `State.Holds`, `State.Live` — the entries the law counts, without and with the deletion
  filter.
* `State.ExclusiveFor` — the law at one DNS name.
* `State.ClaimedExcept`, `State.Claimed` — the invariant: every live entry (but one) holds its
  claim.

## Design Notes

The invariant is broken at one entry while `AddEntryVersion` runs: the entry `allocate` returns
has the new version but has not been arbitrated yet.  `ClaimedExcept s q` is the invariant with
that one exception; every write keeps it, and `ClaimedExcept.claimed` restores `Claimed` once `q`
is not live or has taken the claim.  `Inv` supplies the one structural fact the writes need:
an entry is bound only under its own object name.
-/

namespace ExternalDns

namespace State

variable (typeCodes : List GoString)

/-- The entries the exclusive-claim law counts at DNS name `n`: bound in `entries`, of DNS name
`n`, accepted by `IsManaging` and not a duplicate. -/
def Holds (s : State) (n : GoString) (p : Ptr) : Prop :=
  (∃ k, s.entries.lookup k = some p) ∧ (s.heap p).dnsName = n ∧
    isManaging typeCodes (s.heap p).version = true ∧ (s.heap p).duplicate = false

/-- A counted entry whose object is not being deleted. -/
def Live (s : State) (n : GoString) (p : Ptr) : Prop :=
  s.Holds typeCodes n p ∧ (s.heap p).version.object.deleting = false

/-- The exclusive-claim law at DNS name `n` for the entries `count` selects: at most one, and
that one holds the claim. -/
def ExclusiveFor (s : State) (count : GoString → Ptr → Prop) (n : GoString) : Prop :=
  (∀ p q, count n p → count n q → p = q) ∧ ∀ p, count n p → s.dnsnames n = some p

/-- Every live entry other than `q` holds the claim on its non-empty DNS name. -/
def ClaimedExcept (s : State) (q : Option Ptr) : Prop :=
  ∀ n p, q ≠ some p → n ≠ [] → s.Live typeCodes n p → s.dnsnames n = some p

/-- Every live entry holds the claim on its non-empty DNS name. -/
def Claimed (s : State) : Prop := s.ClaimedExcept typeCodes none

variable {typeCodes}

/-- Liveness is read off the entry and its binding: an entry that is live after a write whose
entry and binding come from before was live before. -/
theorem Live.of_frame {s t : State} {n : GoString} {p : Ptr} (h : t.Live typeCodes n p)
    (hheap : t.heap p = s.heap p)
    (hbound : ∀ k, t.entries.lookup k = some p → ∃ k', s.entries.lookup k' = some p) :
    s.Live typeCodes n p := by
  obtain ⟨⟨⟨k, hk⟩, hdns, hman, hdup⟩, hdel⟩ := h
  rw [hheap] at hdns hman hdup hdel
  exact ⟨⟨hbound k hk, hdns, hman, hdup⟩, hdel⟩

theorem Live.dnsName {s : State} {n : GoString} {p : Ptr} (h : s.Live typeCodes n p) :
    (s.heap p).dnsName = n := h.1.2.1

theorem not_live_of_duplicate {s : State} {n : GoString} {p : Ptr}
    (h : (s.heap p).duplicate = true) : ¬ s.Live typeCodes n p :=
  fun hl => absurd (h.symm.trans hl.1.2.2.2) (by decide)

theorem not_live_of_deleting {s : State} {n : GoString} {p : Ptr}
    (h : (s.heap p).version.object.deleting = true) : ¬ s.Live typeCodes n p :=
  fun hl => absurd (h.symm.trans hl.2) (by decide)

theorem not_live_of_not_managing {s : State} {n : GoString} {p : Ptr}
    (h : isManaging typeCodes (s.heap p).version = false) : ¬ s.Live typeCodes n p :=
  fun hl => absurd (h.symm.trans hl.1.2.2.1) (by decide)

/-- The exception is settled once `q` holds the claim on every name it is live for, or is not
live at all. -/
theorem ClaimedExcept.claimed {s : State} {q : Ptr} (h : s.ClaimedExcept typeCodes (some q))
    (hq : ∀ n, n ≠ [] → s.Live typeCodes n q → s.dnsnames n = some q) :
    s.Claimed typeCodes := by
  intro n p _ hn hp
  by_cases hqp : q = p
  · subst hqp; exact hq n hn hp
  · exact h n p (fun h => hqp (Option.some_injective _ h)) hn hp

/-- A write after which `q` is not live settles the exception. -/
theorem ClaimedExcept.claimed_of_not_live {s : State} {q : Ptr}
    (h : s.ClaimedExcept typeCodes (some q)) (hq : ∀ n, ¬ s.Live typeCodes n q) :
    s.Claimed typeCodes :=
  h.claimed fun n _ hl => absurd hl (hq n)

/-! ## The writes -/

/-- `allocate` touches only the entry it returns. -/
theorem Claimed.allocate {s : State} (h : s.Claimed typeCodes) (old : Option Ptr)
    (v : EntryVersion) (c : Bool) :
    (s.allocate old v c).1.ClaimedExcept typeCodes (some (s.allocate old v c).2) := by
  intro n p hne hn hp
  rw [allocate_dnsnames]
  exact h n p (by simp) hn (hp.of_frame
    (s.allocate_heap_of_ne old v c fun h => hne (congrArg some h.symm))
    fun k hk => ⟨k, by rwa [allocate_entries] at hk⟩)

/-- Binding `q` itself leaves every other entry's binding as it was or removes it. -/
theorem ClaimedExcept.install {s : State} {q : Ptr} (h : s.ClaimedExcept typeCodes (some q))
    (k : GoString) : (s.install k q).ClaimedExcept typeCodes (some q) := by
  intro n p hne hn hp
  refine h n p hne hn (hp.of_frame rfl fun k' hk => ⟨k', ?_⟩)
  simp only [install_entries] at hk
  by_cases hk' : k' = k
  · subst hk'; rw [AList.lookup_insert] at hk; exact absurd hk hne
  · rwa [AList.lookup_insert_ne hk'] at hk

theorem ClaimedExcept.markDuplicate {s : State} {q : Option Ptr}
    (h : s.ClaimedExcept typeCodes q) (r : Ptr) :
    (s.markDuplicate r).ClaimedExcept typeCodes q := by
  intro n p hne hn hp
  by_cases hpr : p = r
  · subst hpr; exact absurd hp (not_live_of_duplicate (by simp))
  · exact h n p hne hn (hp.of_frame (by simp [Function.update_noteq hpr]) fun k hk => ⟨k, hk⟩)

/-- `cleanupEntry(e)` releases only `e`'s claim, and `e` is no longer bound afterwards. -/
theorem ClaimedExcept.cleanupEntry {s : State} {q : Option Ptr} (h : s.ClaimedExcept typeCodes q)
    (hname : ∀ {k p}, s.entries.lookup k = some p → (s.heap p).objectName = k) (e : Ptr) :
    (s.cleanupEntry e).1.ClaimedExcept typeCodes q := by
  intro n p hne hn hp
  have hbound : ∀ k, (s.cleanupEntry e).1.entries.lookup k = some p →
      s.entries.lookup k = some p ∧ p ≠ e := by
    intro k hk
    rw [cleanupEntry_entries, lookup_entriesDelete] at hk
    split at hk
    · cases hk
    · rename_i hdel
      exact ⟨hk, fun hpe => hdel ⟨hpe ▸ hk, (hname (hpe ▸ hk)).symm⟩⟩
  obtain ⟨k, hk⟩ := hp.1.1
  have hclaim := h n p hne hn (hp.of_frame (by simp) fun k hk => ⟨k, (hbound k hk).1⟩)
  rw [cleanupEntry_dnsnames,
    if_neg fun hc => (hbound k hk).2 (Option.some_injective _ (hclaim.symm.trans hc.2))]
  exact hclaim

theorem ClaimedExcept.cleanupUnlessLock {s : State} {q : Option Ptr}
    (h : s.ClaimedExcept typeCodes q) (hi : Inv s) (old : Option Ptr) :
    (s.cleanupUnlessLock old).1.ClaimedExcept typeCodes q := by
  cases old with
  | none => exact h
  | some p =>
    simp only [State.cleanupUnlessLock]
    split
    · exact h.cleanupEntry hi.entries_name p
    · exact h

theorem ClaimedExcept.cleanupRenamed {s : State} {q : Ptr} (h : s.ClaimedExcept typeCodes (some q))
    (hname : ∀ {k p}, s.entries.lookup k = some p → (s.heap p).objectName = k) (o : Outcomes)
    (old : Option Ptr) (v : EntryVersion) :
    (s.cleanupRenamed o old q v).1.ClaimedExcept typeCodes (some q) := by
  cases old with
  | none => exact h
  | some p =>
    simp only [State.cleanupRenamed]
    split
    · exact h.cleanupEntry hname p
    · exact h

/-- `q` takes the claim on `n` when no other live entry is on `n`. -/
theorem ClaimedExcept.claim {s : State} {q : Ptr} {n : GoString}
    (h : s.ClaimedExcept typeCodes (some q)) (hdns : (s.heap q).dnsName = n)
    (hother : ∀ p, q ≠ p → ¬ s.Live typeCodes n p) : (s.claim n q).Claimed typeCodes := by
  have hc : (s.claim n q).ClaimedExcept typeCodes (some q) := fun m p hne hm hp => by
    have hp' : s.Live typeCodes m p := hp.of_frame rfl fun k hk => ⟨k, hk⟩
    have hqp : q ≠ p := fun h => hne (congrArg some h)
    have hmn : m ≠ n := by rintro rfl; exact hother p hqp hp'
    simpa [Function.update_noteq hmn] using h m p hne hm hp'
  refine hc.claimed fun m _ hq => ?_
  have : m = n := hq.dnsName.symm.trans hdns
  simp [this]

/-! ## The two operations -/

/-- The deleting branch: the entry being deleted is not live, whatever the branch leaves. -/
theorem ClaimedExcept.addDeleting {s : State} {new : Ptr} (h : s.ClaimedExcept typeCodes (some new))
    (hi : Inv s) (o : Outcomes) (old : Option Ptr) (v : EntryVersion)
    (hdel : (s.heap new).version.object.deleting = true) :
    (s.addDeleting o old new v).state.Claimed typeCodes := by
  have hc := h.cleanupUnlessLock hi old
  have hnot : ∀ t : State, t.heap = s.heap → ∀ n, ¬ t.Live typeCodes n new :=
    fun t ht _ => not_live_of_deleting (by rw [ht]; exact hdel)
  rcases State.addDeleting_state s o old new v with hr | hr | hr <;> rw [hr]
  · exact hc.claimed_of_not_live (hnot _ (by simp))
  · exact hc.claimed_of_not_live (hnot _ (by simp))
  · exact (hc.install _).claimed_of_not_live (hnot _ (by simp))

/-- The arbitration on the DNS name leaves every live entry with its claim. -/
theorem ClaimedExcept.arbitrate {s : State} {new : Ptr} (h : s.ClaimedExcept typeCodes (some new))
    (hi : Inv s) (o : Outcomes) (v : EntryVersion) (status : Status) (eff : List Effect)
    (hdns : (s.heap new).dnsName = v.dnsName)
    (hidx : s.entries.lookup (s.heap new).objectName = some new) :
    (s.arbitrate o new v status eff).state.Claimed typeCodes := by
  unfold State.arbitrate
  dsimp only
  split
  · rename_i hnil
    exact h.claimed fun n hn hl => absurd (hl.dnsName.symm.trans (hdns.trans hnil)) hn
  rename_i hn
  have hother : ∀ p, new ≠ p → s.Live typeCodes v.dnsName p →
      s.dnsnames v.dnsName = some p :=
    fun p hne hl => h _ p (fun h => hne (Option.some_injective _ h)) hn hl
  split
  · rename_i hnone
    exact h.claim hdns fun p hne hl => by rw [hother p hne hl] at hnone; cases hnone
  rename_i cur hcur
  split
  · rename_i hsame
    refine h.claim hdns fun p hne hl => hne ?_
    have hpc : p = cur := Option.some_injective _ ((hother p hne hl).symm.trans hcur)
    obtain ⟨k, hk⟩ := hl.1.1
    have hpk := hi.entries_name hk
    subst hpc
    rw [← hpk, hsame, hidx] at hk
    exact Option.some_injective _ hk
  rename_i hne
  have hcn : cur ≠ new := fun h => hne (by rw [h])
  split
  · split <;> exact (h.markDuplicate new).claimed_of_not_live fun _ =>
      not_live_of_duplicate (by simp)
  · refine (h.markDuplicate cur).claim (by simpa [Function.update_noteq hcn.symm])
      fun p hpn hl => ?_
    by_cases hpc : p = cur
    · subst hpc; exact not_live_of_duplicate (by simp) hl
    · have hl' : s.Live typeCodes v.dnsName p :=
        hl.of_frame (by simp [Function.update_noteq hpc]) fun k hk => ⟨k, hk⟩
      exact hpc (Option.some_injective _ ((hother p hpn hl').symm.trans hcur))

end State

/-- Lines 290-391 with `SetFinalizer` succeeding: every live entry holds its claim afterwards. -/
theorem State.ClaimedExcept.addAllocated {typeCodes : List GoString} {a : State × Ptr}
    (h : a.1.ClaimedExcept typeCodes (some a.2)) (hi : Inv a.1) (o : Outcomes)
    (hset : o.setFinalizer = none) {old : Option Ptr} {v : EntryVersion} (status : Status)
    (hlt : a.2 < a.1.next) (hver : (a.1.heap a.2).version = v)
    (hold : a.1.entries.lookup v.objectName = old) :
    (addAllocated typeCodes o a old v status).state.Claimed typeCodes := by
  have hname := congrArg EntryVersion.objectName hver
  unfold ExternalDns.addAllocated
  dsimp only
  split
  · exact h.addDeleting hi o old v (by rw [hver]; assumption)
  rw [if_neg (by simp [hset])]
  have ht := (h.install v.objectName).cleanupRenamed (hi.install_entries_name hname) o old v
  have hheap : ((a.1.install v.objectName a.2).cleanupRenamed o old a.2 v).1.heap = a.1.heap := by
    simp
  split
  · rename_i hman
    exact ht.claimed_of_not_live fun _ => State.not_live_of_not_managing (by
      rw [hheap, hver]; simpa using hman)
  · obtain ⟨hti, hidx⟩ := hi.cleanupRenamed_install o hold hname hlt
    refine ht.arbitrate hti o v status _
      (by rw [hheap]; exact congrArg EntryVersion.dnsName hver) ?_
    rw [hheap, show (a.1.heap a.2).objectName = v.objectName from hname]; exact hidx

namespace State

variable {typeCodes : List GoString}

/-- **`AddEntryVersion` keeps every live entry on its claim** when `SetFinalizer` succeeds. -/
theorem Claimed.addEntryVersion {s : State} (h : s.Claimed typeCodes) (hi : Inv s) (o : Outcomes)
    (hset : o.setFinalizer = none) (v : EntryVersion) (status : Status) :
    (ExternalDns.addEntryVersion typeCodes o s v status).state.Claimed typeCodes := by
  let s0 : State := { s with blockingEntries := s.blockingEntries.erase v.objectName }
  have hi0 : Inv s0 := hi.of_agree rfl rfl rfl fun _ => rfl
  have h0 : s0.Claimed typeCodes := h
  obtain ⟨ha, hlt⟩ := hi0.allocate v o.changed
  exact (h0.allocate _ v o.changed).addAllocated ha o hset status hlt
    (State.allocate_new s0 _ v o.changed).1 (by simp [s0])

theorem Claimed.entryDeleted {s : State} (h : s.Claimed typeCodes) (hi : Inv s) (name : GoString)
    (zone : Option GoString) : (ExternalDns.entryDeleted s name zone).1.Claimed typeCodes := by
  let s0 : State := { s with blockingEntries := s.blockingEntries.erase name }
  have h0 : s0.Claimed typeCodes := h
  unfold ExternalDns.entryDeleted
  dsimp only
  split
  · exact h0.cleanupEntry (hi.of_agree (t := s0) rfl rfl rfl fun _ => rfl).entries_name _
  · exact h

end State

/-- Every index reached by runs in which `SetFinalizer` succeeds satisfies `Claimed`. -/
theorem Reachable.claimed {typeCodes : List GoString} {s : State}
    (h : Reachable typeCodes (fun o => o.setFinalizer = none) s) :
    s.Claimed typeCodes := by
  refine (h.induct_inv (P := fun s => Inv s ∧ s.Claimed typeCodes) ⟨inv_empty, ?_⟩ ?_).2
  · intro n p _ _ hp; obtain ⟨⟨⟨k, hk⟩, -⟩, -⟩ := hp; simp [State.empty] at hk
  · rintro s s' ⟨hi, hc⟩ hs
    refine ⟨hi.step hs, ?_⟩
    cases hs with
    | add o v status hset => exact hc.addEntryVersion hi o hset v status
    | deleted name zone => exact hc.entryDeleted hi name zone

/-! ## The law -/

/-- **At most one live entry per non-empty DNS name, and it holds the claim**, after every run
in which `SetFinalizer` succeeds, whatever else the cluster answers. -/
theorem live_claim_exclusive {typeCodes : List GoString} {s : State}
    (h : Reachable typeCodes (fun o => o.setFinalizer = none) s) {n : GoString} (hn : n ≠ []) :
    s.ExclusiveFor (s.Live typeCodes) n := by
  have hc : ∀ p, s.Live typeCodes n p → s.dnsnames n = some p :=
    fun p hp => h.claimed n p (Option.some_ne_none p).symm hn hp
  exact ⟨fun p q hp hq => Option.some_injective _ ((hc p hp).symm.trans (hc q hq)), hc⟩

/-- In `duplicatesRun` the law meets a live holder and two bound duplicates on `n`: `ns/a`
(entry 0) is live and holds the claim, and `ns/b` (entry 2) is bound on `n` as a duplicate. -/
theorem live_claim_exclusive_duplicates :
    duplicatesRun.ExclusiveFor (duplicatesRun.Live ["aws".toList]) "n".toList ∧
      duplicatesRun.Live ["aws".toList] "n".toList 0 ∧
      duplicatesRun.entries.lookup "ns/b".toList = some 2 ∧
      (duplicatesRun.heap 2).dnsName = "n".toList ∧ (duplicatesRun.heap 2).duplicate = true :=
  ⟨live_claim_exclusive (addRun_reachable (by decide)) (by decide),
    ⟨⟨⟨"ns/a".toList, by decide⟩, by decide, by decide, by decide⟩, by decide⟩,
    by decide, by decide, by decide⟩

/-- The entry `ns/a` claims `n`; then its object is being deleted and `RemoveFinalizer` fails,
so line 323 puts the cleaned-up entry back under `ns/a` without its claim. -/
def removeFailRun : State :=
  addRun ["aws".toList]
    [(sampleOutcomes none none, sampleVersion "ns/a" "n" "aws" false false),
     (sampleOutcomes none (some "conflict".toList), sampleVersion "ns/a" "n" "aws" false true)]

/-- The entry `ns/a` is first foreign (provider type `other`); then it is managed, but
`SetFinalizer` fails, so line 331 returns the entry updated in place without arbitration. -/
def setFinalizerFailRun : State :=
  addRun ["aws".toList]
    [(sampleOutcomes none none, sampleVersion "ns/a" "n" "other" false false),
     (sampleOutcomes (some "conflict".toList) none, sampleVersion "ns/a" "n" "aws" false false)]

/-- Without the deletion filter the law fails on a run where only `RemoveFinalizer` fails, and
with it the law fails on a run where `SetFinalizer` fails. -/
theorem exclusive_claim_fails_on_finalizer_errors :
    (¬ ∀ s, Reachable ["aws".toList] (fun o => o.setFinalizer = none) s →
        ∀ n, n ≠ [] → s.ExclusiveFor (s.Holds ["aws".toList]) n) ∧
      ¬ ∀ s, Reachable ["aws".toList] (fun _ => True) s →
        ∀ n, n ≠ [] → s.ExclusiveFor (s.Live ["aws".toList]) n := by
  constructor
  · intro h
    have := (h removeFailRun (addRun_reachable (by decide)) "n".toList (by decide)).2 0
      ⟨⟨"ns/a".toList, by decide⟩, by decide, by decide, by decide⟩
    exact absurd this (by decide)
  · intro h
    have := (h setFinalizerFailRun (addRun_reachable fun _ _ => trivial) "n".toList (by decide)).2 0
      ⟨⟨⟨"ns/a".toList, by decide⟩, by decide, by decide, by decide⟩, by decide⟩
    exact absurd this (by decide)

end ExternalDns
