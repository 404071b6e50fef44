import ExternalDns.Provider.StateEntry

/-!
# The invariant of the entry index

`Inv` is what every run of `AddEntryVersion` and `EntryDeleted` keeps, whatever the cluster
answers: the index is well formed (every binding of `entries` is under its entry's own object
name, every pointer is allocated), every claim in `dnsnames` is held by an unmarked entry of
that DNS name which is still in `entries` — or is a lock, whose deletion skips `cleanupEntry` —
and no entry is both a duplicate and modified.

The proof is by one lemma per primitive write of `State` (`Inv.newEntry`, `Inv.install`,
`Inv.cleanupEntry`, `Inv.markDuplicate`, ...), each with the side condition under which that
write keeps `Inv`; the two branches of `AddEntryVersion` (`Inv.addDeleting`, `Inv.arbitrate`)
and the whole operation are then assembled from them without unfolding a write again.
-/

namespace ExternalDns

/-- The invariant of the entry index. -/
structure Inv (s : State) : Prop where
  entries_name : ∀ {k p}, s.entries.lookup k = some p → (s.heap p).objectName = k
  entries_lt : ∀ {k p}, s.entries.lookup k = some p → p < s.next
  claim_lt : ∀ {n p}, s.dnsnames n = some p → p < s.next
  claim_dnsName : ∀ {n p}, s.dnsnames n = some p → (s.heap p).dnsName = n
  claim_unmarked : ∀ {n p}, s.dnsnames n = some p → (s.heap p).duplicate = false
  claim_indexed : ∀ {n p}, s.dnsnames n = some p →
    s.entries.lookup (s.heap p).objectName = some p ∨ (s.heap p).kind = .lock
  duplicate_unmodified : ∀ p, (s.heap p).duplicate = true → (s.heap p).modified = false

theorem inv_empty : Inv State.empty where
  entries_name h := by simp [State.empty] at h
  entries_lt h := by simp [State.empty] at h
  claim_lt h := by simp [State.empty] at h
  claim_dnsName h := by simp [State.empty] at h
  claim_unmarked h := by simp [State.empty] at h
  claim_indexed h := by simp [State.empty] at h
  duplicate_unmodified _ h := by simp [State.empty, default] at h

namespace Inv

variable {s : State}

/-- The claim of an entry is on its own DNS name, so an entry holds at most one claim. -/
theorem claim_unique (h : Inv s) {n m : GoString} {p : Ptr} (hn : s.dnsnames n = some p)
    (hm : s.dnsnames m = some p) : n = m :=
  (h.claim_dnsName hn).symm.trans (h.claim_dnsName hm)

/-! ## The primitive writes -/

theorem newEntry (h : Inv s) (v : EntryVersion) : Inv (s.newEntry v).1 where
  entries_name hk := by
    rw [State.newEntry_heap_of_lt _ v (h.entries_lt hk)]; exact h.entries_name hk
  entries_lt hk := Nat.lt_succ_of_lt (h.entries_lt hk)
  claim_lt hn := Nat.lt_succ_of_lt (h.claim_lt hn)
  claim_dnsName hn := by
    rw [State.newEntry_heap_of_lt _ v (h.claim_lt hn)]; exact h.claim_dnsName hn
  claim_unmarked hn := by
    rw [State.newEntry_heap_of_lt _ v (h.claim_lt hn)]; exact h.claim_unmarked hn
  claim_indexed hn := by
    rw [State.newEntry_heap_of_lt _ v (h.claim_lt hn)]; exact h.claim_indexed hn
  duplicate_unmodified p hp := by
    simp only [State.newEntry_heap] at hp ⊢
    by_cases hq : p = s.next
    · subst hq; simp at hp
    · rw [Function.update_noteq hq] at hp ⊢; exact h.duplicate_unmodified p hp

/-- Rewriting one entry keeps `Inv` when its object name and DNS name stay, its kind stays or
it is bound under its name, a claim holder stays unmarked, and it is not left a modified
duplicate.  In-place `Update` and `markDuplicate` are both such rewrites. -/
theorem setEntry (h : Inv s) {q : Ptr} {e : Entry}
    (hname : e.objectName = (s.heap q).objectName) (hdns : e.dnsName = (s.heap q).dnsName)
    (hkind : e.kind = (s.heap q).kind ∨ s.entries.lookup (s.heap q).objectName = some q)
    (hclaim : ∀ {n}, s.dnsnames n = some q → e.duplicate = false)
    (hdup : e.duplicate = true → e.modified = false) :
    Inv { s with heap := Function.update s.heap q e } where
  entries_name {k p} hk := by
    by_cases hp : p = q
    · subst hp; simpa [hname] using h.entries_name hk
    · simpa [Function.update_noteq hp] using h.entries_name hk
  entries_lt hk := h.entries_lt hk
  claim_lt hn := h.claim_lt hn
  claim_dnsName {n p} hn := by
    by_cases hp : p = q
    · subst hp; simpa [hdns] using h.claim_dnsName hn
    · simpa [Function.update_noteq hp] using h.claim_dnsName hn
  claim_unmarked {n p} hn := by
    by_cases hp : p = q
    · subst hp; simpa using hclaim hn
    · simpa [Function.update_noteq hp] using h.claim_unmarked hn
  claim_indexed {n p} hn := by
    dsimp only at hn ⊢
    by_cases hp : p = q
    · subst hp
      rw [Function.update_same, hname]
      rcases hkind with hk | hk
      · rw [hk]; exact h.claim_indexed hn
      · exact .inl hk
    · rw [Function.update_noteq hp]; exact h.claim_indexed hn
  duplicate_unmodified p hp := by
    by_cases hpq : p = q
    · subst hpq; simp only [Function.update_same] at hp ⊢; exact hdup hp
    · simp only [Function.update_noteq hpq] at hp ⊢; exact h.duplicate_unmodified p hp

/-- `Update` keeps `Inv`, whether it rewrites the bound entry in place or allocates a new one. -/
theorem updateEntry (h : Inv s) {p : Ptr} {v : EntryVersion} (c : Bool)
    (hp : s.entries.lookup v.objectName = some p) : Inv (s.updateEntry p v c).1 := by
  unfold State.updateEntry
  split
  · rename_i hdns
    have hname := h.entries_name hp
    exact h.setEntry
      (by simp [Entry.objectName, EntryVersion.objectName] at hname ⊢; exact hname.symm)
      (by simpa [Entry.dnsName] using hdns.symm) (.inr (by rw [hname]; exact hp))
      (fun _ => rfl) (by simp)
  · exact h.newEntry v

/-- `markDuplicate` keeps `Inv` on an entry that holds no claim. -/
theorem markDuplicate (h : Inv s) {q : Ptr} (hq : ∀ n, s.dnsnames n ≠ some q) :
    Inv (s.markDuplicate q) :=
  h.setEntry rfl rfl (.inl rfl) (fun hn => absurd hn (hq _)) (fun _ => rfl)

/-- Binding an entry under its own name keeps every binding under its entry's name. -/
theorem install_entries_name (h : Inv s) {k : GoString} {p : Ptr}
    (hname : (s.heap p).objectName = k) {k' : GoString} {q : Ptr}
    (hk : (s.install k p).entries.lookup k' = some q) :
    ((s.install k p).heap q).objectName = k' := by
  simp only [State.install_entries, State.install_heap] at hk ⊢
  by_cases hk' : k' = k
  · subst hk'; rw [AList.lookup_insert] at hk; cases hk; exact hname
  · rw [AList.lookup_insert_ne hk'] at hk; exact h.entries_name hk

/-- Binding an entry under its own name keeps `Inv` when every other claim holder of that name
is a lock. -/
theorem install (h : Inv s) {k : GoString} {p : Ptr} (hname : (s.heap p).objectName = k)
    (hp : p < s.next)
    (hclaims : ∀ {n q}, s.dnsnames n = some q → (s.heap q).objectName = k →
      q = p ∨ (s.heap q).kind = .lock) :
    Inv (s.install k p) where
  entries_name hk := h.install_entries_name hname hk
  entries_lt {k' q} hk := by
    simp only [State.install_entries, State.install_next] at hk ⊢
    by_cases hk' : k' = k
    · subst hk'; rw [AList.lookup_insert] at hk; cases hk; exact hp
    · rw [AList.lookup_insert_ne hk'] at hk; exact h.entries_lt hk
  claim_lt hn := h.claim_lt hn
  claim_dnsName hn := h.claim_dnsName hn
  claim_unmarked hn := h.claim_unmarked hn
  claim_indexed {n q} hn := by
    simp only [State.install_entries, State.install_heap, State.install_dnsnames] at hn ⊢
    by_cases hq : (s.heap q).objectName = k
    · rcases hclaims hn hq with rfl | hl
      · rw [hq, AList.lookup_insert]; exact .inl rfl
      · exact .inr hl
    · rw [AList.lookup_insert_ne hq]; exact h.claim_indexed hn
  duplicate_unmodified p hp := h.duplicate_unmodified p hp

/-- Binding an entry under a name nothing is bound to. -/
theorem install_unbound (h : Inv s) {k : GoString} {p : Ptr} (hname : (s.heap p).objectName = k)
    (hp : p < s.next) (hk : s.entries.lookup k = none) : Inv (s.install k p) :=
  h.install hname hp fun hn hq => by
    rcases h.claim_indexed hn with hl | hl
    · rw [hq, hk] at hl; cases hl
    · exact .inr hl

/-- Re-binding a name whose entry is `p` itself or a lock. -/
theorem install_rebind (h : Inv s) {k : GoString} {p p' : Ptr}
    (hname : (s.heap p).objectName = k) (hp : p < s.next) (hk : s.entries.lookup k = some p')
    (hp' : p' = p ∨ (s.heap p').kind = .lock) : Inv (s.install k p) :=
  h.install hname hp fun hn hq => by
    rcases h.claim_indexed hn with hl | hl
    · rw [hq, hk] at hl; cases hl; exact hp'
    · exact .inr hl

/-- `this.dnsnames[n] = p` keeps `Inv` for an unmarked entry of DNS name `n` bound under its
own name. -/
theorem claim (h : Inv s) {n : GoString} {p : Ptr} (hp : p < s.next)
    (hdns : (s.heap p).dnsName = n) (hdup : (s.heap p).duplicate = false)
    (hidx : s.entries.lookup (s.heap p).objectName = some p) : Inv (s.claim n p) where
  entries_name hk := h.entries_name hk
  entries_lt hk := h.entries_lt hk
  claim_lt {n' q} hn := by
    simp only [State.claim_dnsnames, State.claim_next] at hn ⊢
    by_cases hn' : n' = n
    · subst hn'; simp at hn; subst hn; exact hp
    · rw [Function.update_noteq hn'] at hn; exact h.claim_lt hn
  claim_dnsName {n' q} hn := by
    simp only [State.claim_dnsnames, State.claim_heap] at hn ⊢
    by_cases hn' : n' = n
    · subst hn'; simp at hn; subst hn; exact hdns
    · rw [Function.update_noteq hn'] at hn; exact h.claim_dnsName hn
  claim_unmarked {n' q} hn := by
    simp only [State.claim_dnsnames, State.claim_heap] at hn ⊢
    by_cases hn' : n' = n
    · subst hn'; simp at hn; subst hn; exact hdup
    · rw [Function.update_noteq hn'] at hn; exact h.claim_unmarked hn
  claim_indexed {n' q} hn := by
    simp only [State.claim_dnsnames, State.claim_heap, State.claim_entries] at hn ⊢
    by_cases hn' : n' = n
    · subst hn'; simp at hn; subst hn; exact .inl hidx
    · rw [Function.update_noteq hn'] at hn; exact h.claim_indexed hn
  duplicate_unmodified p hp := h.duplicate_unmodified p hp

/-- A new holder takes over the claim on `n` and the old holder is marked duplicate. -/
theorem markDuplicate_claim (h : Inv s) {n : GoString} {cur p : Ptr}
    (hcur : s.dnsnames n = some cur) (hne : cur ≠ p) (hp : p < s.next)
    (hdns : (s.heap p).dnsName = n) (hdup : (s.heap p).duplicate = false)
    (hidx : s.entries.lookup (s.heap p).objectName = some p) :
    Inv ((s.markDuplicate cur).claim n p) := by
  have hc : Inv (s.claim n p) := h.claim hp hdns hdup hidx
  have hfree : ∀ m, (s.claim n p).dnsnames m ≠ some cur := by
    intro m hm
    simp only [State.claim_dnsnames] at hm
    by_cases hmn : m = n
    · subst hmn; simp at hm; exact hne hm.symm
    · rw [Function.update_noteq hmn] at hm; exact hmn (h.claim_unique hm hcur)
  exact hc.markDuplicate hfree

/-- `cleanupEntry` keeps `Inv`, for any entry. -/
theorem cleanupEntry (h : Inv s) (e : Ptr) : Inv (s.cleanupEntry e).1 where
  entries_name hk := by simpa using h.entries_name (State.lookup_cleanupEntry_of_some hk)
  entries_lt hk := by simpa using h.entries_lt (State.lookup_cleanupEntry_of_some hk)
  claim_lt hn := by simpa using h.claim_lt (State.dnsnames_cleanupEntry_of_some hn).1
  claim_dnsName hn := by simpa using h.claim_dnsName (State.dnsnames_cleanupEntry_of_some hn).1
  claim_unmarked hn := by simpa using h.claim_unmarked (State.dnsnames_cleanupEntry_of_some hn).1
  claim_indexed {n p} hn := by
    obtain ⟨hc, hne⟩ := State.dnsnames_cleanupEntry_of_some hn
    have hpe : p ≠ e := by
      rintro rfl; exact hne ⟨(h.claim_dnsName hc).symm, hc⟩
    rw [State.cleanupEntry_heap, State.cleanupEntry_entries, State.lookup_entriesDelete]
    rcases h.claim_indexed hc with hl | hl
    · rw [if_neg (fun hc => hpe (Option.some_injective _ (hl.symm.trans hc.1)))]; exact .inl hl
    · exact .inr hl
  duplicate_unmodified p hp := by
    rw [State.cleanupEntry_heap] at hp ⊢; exact h.duplicate_unmodified p hp

/-- `Inv` sees `entries` only through `lookup`. -/
theorem of_agree {t : State} (h : Inv s) (hheap : t.heap = s.heap) (hnext : t.next = s.next)
    (hdns : t.dnsnames = s.dnsnames) (hlook : ∀ k, t.entries.lookup k = s.entries.lookup k) :
    Inv t where
  entries_name hk := by rw [hheap]; exact h.entries_name (by rwa [hlook] at hk)
  entries_lt hk := by rw [hnext]; exact h.entries_lt (by rwa [hlook] at hk)
  claim_lt hn := by rw [hnext]; exact h.claim_lt (by rwa [hdns] at hn)
  claim_dnsName hn := by rw [hheap]; exact h.claim_dnsName (by rwa [hdns] at hn)
  claim_unmarked hn := by rw [hheap]; exact h.claim_unmarked (by rwa [hdns] at hn)
  claim_indexed hn := by rw [hheap, hlook]; exact h.claim_indexed (by rwa [hdns] at hn)
  duplicate_unmodified p hp := by rw [hheap] at hp ⊢; exact h.duplicate_unmodified p hp

/-- Lines 334-339: the renamed version is bound under the object name, then the old entry is
cleaned up. -/
theorem install_cleanupEntry (h : Inv s) {k : GoString} {p new : Ptr}
    (hk : s.entries.lookup k = some p) (hne : p ≠ new) (hname : (s.heap new).objectName = k)
    (hlt : new < s.next) : Inv ((s.install k new).cleanupEntry p).1 := by
  have hpk : (s.heap p).objectName = k := h.entries_name hk
  have hclean : (s.cleanupEntry p).1.entries.lookup k = none := by
    rw [State.cleanupEntry_entries, State.lookup_entriesDelete, if_pos ⟨hk, hpk.symm⟩]
  have hi := (h.cleanupEntry p).install_unbound (by simpa using hname) (by simpa using hlt) hclean
  refine hi.of_agree (by simp) (by simp) (funext fun n => by simp [State.cleanupEntry_dnsnames])
    fun k' => ?_
  simp only [State.cleanupEntry_entries, State.install_entries, State.lookup_entriesDelete,
    State.install_heap]
  by_cases hk' : k' = k
  · subst hk'; simp [AList.lookup_insert, Ne.symm hne]
  · rw [AList.lookup_insert_ne hk', AList.lookup_insert_ne hk', State.lookup_entriesDelete]

/-- The deleting branch may put `new` back under the object name after the cleanup. -/
theorem install_cleanupUnlessLock (h : Inv s) {k : GoString} {new : Ptr} {old : Option Ptr}
    (hold : s.entries.lookup k = old) (hname : (s.heap new).objectName = k) (hlt : new < s.next) :
    Inv ((s.cleanupUnlessLock old).1.install k new) := by
  cases old with
  | none => exact h.install_unbound hname hlt hold
  | some p =>
    simp only [State.cleanupUnlessLock]
    split
    · have hclean : (s.cleanupEntry p).1.entries.lookup k = none := by
        rw [State.cleanupEntry_entries, State.lookup_entriesDelete,
          if_pos ⟨hold, (h.entries_name hold).symm⟩]
      exact (h.cleanupEntry p).install_unbound (by simpa using hname) (by simpa using hlt) hclean
    · rename_i hlock
      exact h.install_rebind hname hlt hold (.inr (by simpa using hlock))

theorem cleanupUnlessLock (h : Inv s) (old : Option Ptr) : Inv (s.cleanupUnlessLock old).1 := by
  cases old with
  | none => exact h
  | some p => simp only [State.cleanupUnlessLock]; split; exacts [h.cleanupEntry p, h]

/-- The deleting branch keeps `Inv`. -/
theorem addDeleting (h : Inv s) (o : Outcomes) {old : Option Ptr} {new : Ptr} {v : EntryVersion}
    (hold : s.entries.lookup v.objectName = old) (hname : (s.heap new).objectName = v.objectName)
    (hlt : new < s.next) : Inv (s.addDeleting o old new v).state := by
  rcases State.addDeleting_state s o old new v with hr | hr | hr <;> rw [hr]
  · exact h.cleanupUnlessLock old
  · exact (h.cleanupUnlessLock old).of_agree rfl rfl rfl fun _ => rfl
  · exact h.install_cleanupUnlessLock hold hname hlt

/-- The rename path of the non-deleting branch keeps `Inv`, and leaves `new` bound. -/
theorem cleanupRenamed_install (h : Inv s) (o : Outcomes) {old : Option Ptr} {new : Ptr}
    {v : EntryVersion} (hold : s.entries.lookup v.objectName = old)
    (hname : (s.heap new).objectName = v.objectName) (hlt : new < s.next) :
    Inv ((s.install v.objectName new).cleanupRenamed o old new v).1 ∧
      ((s.install v.objectName new).cleanupRenamed o old new v).1.entries.lookup
        v.objectName = some new := by
  cases old with
  | none => exact ⟨h.install_unbound hname hlt hold, AList.lookup_insert _⟩
  | some p =>
    simp only [State.cleanupRenamed]
    split
    · rename_i hne
      refine ⟨h.install_cleanupEntry hold hne hname hlt, ?_⟩
      rw [State.cleanupEntry_entries, State.lookup_entriesDelete]
      simp [AList.lookup_insert, Ne.symm hne]
    · rename_i hpn
      simp only [not_not] at hpn
      exact ⟨h.install_rebind hname hlt hold (.inl hpn), AList.lookup_insert _⟩

/-- The claim arbitration keeps `Inv` for an unmarked `new` of the version's DNS name bound
under its own name. -/
theorem arbitrate (h : Inv s) (o : Outcomes) {new : Ptr} {v : EntryVersion} (status : Status)
    (eff : List Effect) (hlt : new < s.next) (hdns : (s.heap new).dnsName = v.dnsName)
    (hdup : (s.heap new).duplicate = false)
    (hidx : s.entries.lookup (s.heap new).objectName = some new) :
    Inv (s.arbitrate o new v status eff).state := by
  unfold State.arbitrate
  dsimp only
  split
  · exact h
  · split
    · exact h.claim hlt hdns hdup hidx
    · rename_i cur hcur
      have hfree : (s.heap cur).objectName ≠ (s.heap new).objectName →
          ∀ m, s.dnsnames m ≠ some new := by
        intro hne m hm
        have hmv : m = v.dnsName := (h.claim_dnsName hm).symm.trans hdns
        subst hmv
        rw [hcur] at hm
        cases hm
        exact hne rfl
      split
      · exact h.claim hlt hdns hdup hidx
      · rename_i hne
        have hcn : cur ≠ new := fun hc => hne (by rw [hc])
        split
        · split <;> exact h.markDuplicate (hfree hne)
        · exact h.markDuplicate_claim hcur hcn hlt hdns hdup hidx

/-- `allocate` keeps `Inv`, and the pointer it returns is allocated. -/
theorem allocate (h : Inv s) (v : EntryVersion) (c : Bool) :
    Inv (s.allocate (s.entries.lookup v.objectName) v c).1 ∧
      (s.allocate (s.entries.lookup v.objectName) v c).2 <
        (s.allocate (s.entries.lookup v.objectName) v c).1.next := by
  cases hold : s.entries.lookup v.objectName with
  | none => exact ⟨h.newEntry v, by simp [State.allocate]⟩
  | some p =>
    refine ⟨h.updateEntry c hold, ?_⟩
    simp only [State.allocate, State.updateEntry]
    split
    · exact h.entries_lt hold
    · simp

/-- Lines 290-391 keep `Inv` once an unmarked entry of the version is allocated. -/
theorem addAllocated {a : State × Ptr} (ha : Inv a.1) (typeCodes : List GoString)
    (o : Outcomes) {old : Option Ptr} {v : EntryVersion} (status : Status)
    (hlt : a.2 < a.1.next) (hver : (a.1.heap a.2).version = v)
    (hdup : (a.1.heap a.2).duplicate = false) (hold : a.1.entries.lookup v.objectName = old) :
    Inv (addAllocated typeCodes o a old v status).state := by
  have hname := congrArg EntryVersion.objectName hver
  unfold ExternalDns.addAllocated
  dsimp only
  split
  · exact ha.addDeleting o hold hname hlt
  · split
    · exact ha
    · obtain ⟨ht, hidx⟩ := ha.cleanupRenamed_install o hold hname hlt
      split
      · exact ht
      · have hheap : ((a.1.install v.objectName a.2).cleanupRenamed o old a.2 v).1.heap =
            a.1.heap := by simp
        refine ht.arbitrate o status _ (by simpa using hlt) ?_ (by rw [hheap]; exact hdup) ?_
        · rw [hheap]; exact congrArg EntryVersion.dnsName hver
        · rw [hheap, show (a.1.heap a.2).objectName = v.objectName from hname]; exact hidx

/-- **`AddEntryVersion` keeps `Inv`**, for every version, status and answer of the cluster. -/
theorem addEntryVersion (h : Inv s) (typeCodes : List GoString) (o : Outcomes)
    (v : EntryVersion) (status : Status) : Inv (addEntryVersion typeCodes o s v status).state := by
  let s0 : State := { s with blockingEntries := s.blockingEntries.erase v.objectName }
  have h0 : Inv s0 := h.of_agree rfl rfl rfl fun _ => rfl
  obtain ⟨ha, hlt⟩ := h0.allocate v o.changed
  obtain ⟨hver, hdup⟩ := State.allocate_new s0 (s.entries.lookup v.objectName) v o.changed
  exact ha.addAllocated typeCodes o status hlt hver hdup (by simp [s0])

/-- `EntryDeleted` keeps `Inv`. -/
theorem entryDeleted (h : Inv s) (name : GoString) (zone : Option GoString) :
    Inv (entryDeleted s name zone).1 := by
  have h0 : Inv { s with blockingEntries := s.blockingEntries.erase name } :=
    h.of_agree rfl rfl rfl fun _ => rfl
  unfold ExternalDns.entryDeleted
  dsimp only
  split
  · exact h0.cleanupEntry _
  · exact h0

/-- One step of any run keeps `Inv`. -/
theorem step {typeCodes : List GoString} {allowed : Outcomes → Prop} {s' : State} (h : Inv s)
    (hs : Step typeCodes allowed s s') : Inv s' := by
  cases hs with
  | add o v status _ => exact h.addEntryVersion typeCodes o v status
  | deleted name zone => exact h.entryDeleted name zone

end Inv

/-- Every reachable index satisfies `Inv`. -/
theorem Reachable.inv {typeCodes : List GoString} {allowed : Outcomes → Prop} {s : State}
    (h : Reachable typeCodes allowed s) : Inv s :=
  h.induct_inv inv_empty fun _ _ hi hs => hi.step hs

/-! ## Claims after any run -/

/-- **Every claim is held by an unmarked entry of its DNS name, bound under its own object name
unless it is a lock**, after any run and whatever the cluster answers. -/
theorem claim_holder_consistent {typeCodes : List GoString} {allowed : Outcomes → Prop}
    {s : State} (h : Reachable typeCodes allowed s) {n : GoString} {p : Ptr}
    (hn : s.dnsnames n = some p) :
    (s.heap p).dnsName = n ∧ (s.heap p).duplicate = false ∧
      (s.entries.lookup (s.heap p).objectName = some p ∨ (s.heap p).kind = .lock) :=
  have hi := h.inv
  ⟨hi.claim_dnsName hn, hi.claim_unmarked hn, hi.claim_indexed hn⟩

/-! ### Sample runs -/

/-- The object `name` on DNS name `dns` with provider type `ptype`, created at `Time.zero`, valid
and carrying the finalizer: a `DNSLock` with id `L` when `lock` is set, being deleted when
`deleting` is. -/
def sampleVersion (name dns ptype : String) (lock deleting : Bool) : EntryVersion :=
  let status : BaseStatus := ⟨.empty, none, some ptype.toList⟩
  ⟨⟨name.toList, dns.toList, Time.zero, deleting, true, status,
    if lock then some ⟨some "L".toList, Time.zero, [], 60⟩ else none, 0⟩, true, status⟩

/-- Answers with no hosted zone known, the owner active, no change seen, and the given errors
of `SetFinalizer` and `RemoveFinalizer`. -/
def sampleOutcomes (setFinalizer removeFinalizer : Option GoString) : Outcomes :=
  ⟨fun _ => false, true, false, setFinalizer, removeFinalizer, none⟩

/-- `AddEntryVersion` of each version in turn, with its answers and status `Succeeded`, from
the empty index. -/
def addRun (typeCodes : List GoString) (steps : List (Outcomes × EntryVersion)) : State :=
  steps.foldl (fun s x => (addEntryVersion typeCodes x.1 s x.2 .succeeded).state) State.empty

theorem addRun_reachable {typeCodes : List GoString} {allowed : Outcomes → Prop}
    {steps : List (Outcomes × EntryVersion)} (h : ∀ x ∈ steps, allowed x.1) :
    Reachable typeCodes allowed (addRun typeCodes steps) := by
  suffices ∀ s, Reachable typeCodes allowed s →
      Reachable typeCodes allowed
        (steps.foldl (fun s x => (addEntryVersion typeCodes x.1 s x.2 .succeeded).state) s) from
    this _ .empty
  induction steps with
  | nil => exact fun _ hs => hs
  | cons x steps ih =>
    intro s hs
    exact ih (fun y hy => h y (List.mem_cons_of_mem _ hy)) _
      (.step hs (.add x.1 x.2 .succeeded (h x (List.mem_cons_self _ _))))

/-- `ns/a` claims `n`; then `ns/c` and `ns/b`, created at the same time and so later by name,
become its duplicates. -/
def duplicatesRun : State :=
  addRun ["aws".toList]
    [(sampleOutcomes none none, sampleVersion "ns/a" "n" "aws" false false),
     (sampleOutcomes none none, sampleVersion "ns/c" "n" "aws" false false),
     (sampleOutcomes none none, sampleVersion "ns/b" "n" "aws" false false)]

/-- The lock `ns/a` claims `n`; then it is renamed to `m` while being deleted, and
`RemoveFinalizer` fails.  Line 293 skips `cleanupEntry` for the lock, and line 323 binds the new
entry under `ns/a`: the claim on `n` still names the old entry. -/
def lockRenameRun : State :=
  addRun ["aws".toList]
    [(sampleOutcomes none none, sampleVersion "ns/a" "n" "aws" true false),
     (sampleOutcomes none (some "busy".toList), sampleVersion "ns/a" "m" "aws" true true)]

theorem claim_holder_consistent_lock_rename :
    (lockRenameRun.heap 0).dnsName = "n".toList ∧ (lockRenameRun.heap 0).duplicate = false ∧
      (lockRenameRun.entries.lookup (lockRenameRun.heap 0).objectName = some 0 ∨
        (lockRenameRun.heap 0).kind = .lock) :=
  claim_holder_consistent
    (show Reachable ["aws".toList] (fun _ => True) lockRenameRun from
      addRun_reachable fun _ _ => trivial) (by decide)

/-- The claim holder is not always the entry bound under its object name. -/
theorem claim_holder_unbound_after_lock_rename :
    ¬ ∀ s, Reachable ["aws".toList] (fun _ => True) s → ∀ n p, s.dnsnames n = some p →
      (s.heap p).dnsName = n ∧ s.entries.lookup (s.heap p).objectName = some p ∧
        (s.heap p).duplicate = false := by
  intro h
  have := (h lockRenameRun (addRun_reachable fun _ _ => trivial) "n".toList 0 (by decide)).2.1
  exact absurd this (by decide)

end ExternalDns
