import ExternalDns.Provider.IndexInvariant

/-!
# Promotion of the earliest duplicate (`cleanupEntry`, lines 514-525)

When the claim holder of a DNS name leaves the index, `cleanupEntry` scans `entries` for
duplicates of that name and reactivates the one that is `Before` all others.  Go iterates a map
in a random order, so the scan is only deterministic if its result does not depend on the
order.  It does not: over any enumeration of the remaining entries the scan ends with the
`Before`-least duplicate, because `Before` is a strict total order on entries with distinct
object names, and the index binds every entry under its own, distinct, object name.

## Main Definitions

* `IsDup` — a duplicate of the DNS name being released.
* `LeastDup` — the loop invariant: `found` is the `Before`-least duplicate among the entries
  seen, or there is none.

## Main Statements

* `LeastDup.scanStep`, `LeastDup.foldl` — one iteration, and the whole loop, keep `LeastDup`.
* `LeastDup.unique` — `LeastDup` depends only on which entries were seen.
-/

namespace ExternalDns

variable (heap : Ptr → Entry) (dns : GoString)

/-- The entry is a duplicate of the DNS name `dns`: the condition of line 517. -/
def IsDup (a : Ptr) : Prop := (heap a).duplicate = true ∧ (heap a).dnsName = dns

/-- `found` is the `Before`-least duplicate of `dns` among `seen`, or `seen` has none. -/
def LeastDup (seen : List Ptr) : Option Ptr → Prop
  | none => ∀ b ∈ seen, ¬ IsDup heap dns b
  | some f => f ∈ seen ∧ IsDup heap dns f ∧
      ∀ b ∈ seen, IsDup heap dns b → b = f ∨ before (heap f) (heap b)

variable {heap dns}

theorem isDup_iff (a : Ptr) :
    IsDup heap dns a ↔ ((heap a).duplicate && (heap a).dnsName == dns) = true := by
  simp [IsDup]

/-- One iteration of the loop keeps the invariant, when the entry read has an object name of its
own. -/
theorem LeastDup.scanStep {seen : List Ptr} {found : Option Ptr} (h : LeastDup heap dns seen found)
    {a : Ptr} (hdist : ∀ b ∈ seen, b ≠ a → (heap b).objectName ≠ (heap a).objectName) :
    LeastDup heap dns (seen ++ [a]) (State.scanStep heap dns found a) := by
  have hmem : ∀ {b}, b ∈ seen ++ [a] ↔ b ∈ seen ∨ b = a := by simp
  unfold State.scanStep
  by_cases ha : IsDup heap dns a
  · rw [if_pos ((isDup_iff a).1 ha)]
    cases found with
    | none =>
      exact ⟨List.mem_concat_self _ _, ha, fun b hb hbd =>
        .inl ((hmem.1 hb).resolve_left fun hb => h b hb hbd)⟩
    | some f =>
      obtain ⟨hf, hfd, hleast⟩ := h
      dsimp only
      split
      · rename_i haf
        refine ⟨List.mem_concat_self _ _, ha, fun b hb hbd => ?_⟩
        rcases hmem.1 hb with hb | rfl
        · rcases hleast b hb hbd with rfl | hfb
          · exact .inr haf
          · exact .inr (before_trans haf hfb)
        · exact .inl rfl
      · rename_i haf
        refine ⟨List.mem_append_left _ hf, hfd, fun b hb hbd => ?_⟩
        rcases hmem.1 hb with hb | rfl
        · exact hleast b hb hbd
        · by_cases hbf : b = f
          · exact .inl hbf
          · exact .inr ((before_total (hdist f hf (Ne.symm hbf)).symm).resolve_left haf)
  · rw [if_neg (fun h => ha ((isDup_iff a).2 h))]
    cases found with
    | none =>
      intro b hb hbd
      rcases hmem.1 hb with hb | rfl
      · exact h b hb hbd
      · exact ha hbd
    | some f =>
      obtain ⟨hf, hfd, hleast⟩ := h
      refine ⟨List.mem_append_left _ hf, hfd, fun b hb hbd => ?_⟩
      rcases hmem.1 hb with hb | rfl
      · exact hleast b hb hbd
      · exact absurd hbd ha

/-- The whole loop keeps the invariant, over entries with pairwise distinct object names. -/
theorem LeastDup.foldl {seen : List Ptr} {found : Option Ptr} (h : LeastDup heap dns seen found)
    (l : List Ptr)
    (hdist : ∀ a ∈ seen ++ l, ∀ b ∈ seen ++ l, a ≠ b →
      (heap a).objectName ≠ (heap b).objectName) :
    LeastDup heap dns (seen ++ l) (l.foldl (State.scanStep heap dns) found) := by
  induction l generalizing seen found with
  | nil => simpa using h
  | cons a l ih =>
    have hstep := h.scanStep fun b hb hba =>
      hdist b (List.mem_append_left _ hb) a (by simp) hba
    simpa using ih hstep (by simpa using hdist)

/-- The scan from `found = nil` computes the invariant's `found` over the entries it reads. -/
theorem leastDup_promoteCandidate {l : List Ptr}
    (hdist : ∀ a ∈ l, ∀ b ∈ l, a ≠ b → (heap a).objectName ≠ (heap b).objectName) :
    LeastDup heap dns l (State.promoteCandidate heap dns l) := by
  have h0 : LeastDup heap dns [] none := fun _ h => absurd h (List.not_mem_nil _)
  simpa using h0.foldl l (by simpa using hdist)

/-- The invariant determines `found` from the set of entries seen. -/
theorem LeastDup.unique {l l' : List Ptr} (hmem : ∀ b, b ∈ l ↔ b ∈ l') {x y : Option Ptr}
    (hx : LeastDup heap dns l x) (hy : LeastDup heap dns l' y) : x = y := by
  cases x with
  | none =>
    cases y with
    | none => rfl
    | some g => exact absurd hy.2.1 (hx g ((hmem g).2 hy.1))
  | some f =>
    cases y with
    | none => exact absurd hx.2.1 (hy f ((hmem f).1 hx.1))
    | some g =>
      rcases hx.2.2 g ((hmem g).2 hy.1) hy.2.1 with rfl | hfg
      · rfl
      rcases hy.2.2 f ((hmem f).1 hx.1) hx.2.1 with rfl | hgf
      · rfl
      exact absurd (before_trans hfg hgf) (by simp [before_irrefl])

/-! ## The loop of `cleanupEntry` -/

/-- Every entry the loop reads is bound under its own object name, and is not `e`. -/
theorem bound_of_mem_entriesDelete {s : State} {e a : Ptr}
    (hname : ∀ {k p}, s.entries.lookup k = some p → (s.heap p).objectName = k)
    (ha : a ∈ (s.entriesDelete e).entries.entries.map (·.2)) :
    s.entries.lookup (s.heap a).objectName = some a ∧ a ≠ e := by
  obtain ⟨⟨k, b⟩, hx, rfl⟩ := List.mem_map.1 ha
  have hk : (s.entriesDelete e).entries.lookup k = some b := AList.mem_lookup_iff.2 hx
  rw [State.lookup_entriesDelete] at hk
  split at hk
  · cases hk
  · rename_i hdel
    refine ⟨by rw [hname hk]; exact hk, fun hbe => hdel ⟨hbe ▸ hk, ?_⟩⟩
    subst hbe; exact (hname hk).symm

/-- The entries the loop reads have pairwise distinct object names. -/
theorem objectName_injOn_entriesDelete {s : State} {e : Ptr}
    (hname : ∀ {k p}, s.entries.lookup k = some p → (s.heap p).objectName = k) :
    ∀ a ∈ (s.entriesDelete e).entries.entries.map (·.2),
      ∀ b ∈ (s.entriesDelete e).entries.entries.map (·.2),
        a ≠ b → (s.heap a).objectName ≠ (s.heap b).objectName := by
  intro a ha b hb hab hn
  have hla := (bound_of_mem_entriesDelete hname ha).1
  rw [hn, (bound_of_mem_entriesDelete hname hb).1] at hla
  exact hab (Option.some_injective _ hla).symm

/-- While `e` holds the claim on its DNS name, `cleanupEntry(e)` reactivates what the loop finds
over `entries` without `e`. -/
theorem cleanupEntry_snd_of_claim {s : State} {e : Ptr}
    (hclaim : s.dnsnames (s.heap e).dnsName = some e) :
    (s.cleanupEntry e).2 = State.promoteCandidate s.heap (s.heap e).dnsName
      ((s.entriesDelete e).entries.entries.map (·.2)) := by
  simp only [State.cleanupEntry, State.entriesDelete_heap, State.entriesDelete_dnsnames, hclaim,
    if_true]

/-- **The promoted duplicate does not depend on the map order.**  For every enumeration of the
index without `e`, the loop of `cleanupEntry(e)` ends with what `cleanupEntry` reactivates: the
`Before`-least duplicate of `e`'s DNS name, none when there is no duplicate, and never `e`. -/
theorem cleanupEntry_promotes_least_duplicate {s : State} {e : Ptr}
    (hname : ∀ {k p}, s.entries.lookup k = some p → (s.heap p).objectName = k)
    (hclaim : s.dnsnames (s.heap e).dnsName = some e) {order : List Ptr}
    (horder : order.Perm ((s.entriesDelete e).entries.entries.map (·.2))) :
    (s.cleanupEntry e).2 = State.promoteCandidate s.heap (s.heap e).dnsName order ∧
      LeastDup s.heap (s.heap e).dnsName ((s.entriesDelete e).entries.entries.map (·.2))
        (s.cleanupEntry e).2 ∧
      ∀ a, (s.cleanupEntry e).2 = some a → a ≠ e := by
  let pool := (s.entriesDelete e).entries.entries.map (·.2)
  have hdist := objectName_injOn_entriesDelete (e := e) hname
  have hpool : LeastDup s.heap (s.heap e).dnsName pool
      (State.promoteCandidate s.heap (s.heap e).dnsName pool) :=
    leastDup_promoteCandidate hdist
  have hord : LeastDup s.heap (s.heap e).dnsName order
      (State.promoteCandidate s.heap (s.heap e).dnsName order) :=
    leastDup_promoteCandidate fun a ha b hb => hdist a (horder.subset ha) b (horder.subset hb)
  rw [cleanupEntry_snd_of_claim hclaim]
  refine ⟨hpool.unique (fun b => horder.mem_iff.symm) hord, hpool, fun a ha => ?_⟩
  rw [ha] at hpool
  exact (bound_of_mem_entriesDelete hname hpool.1).2

theorem cleanupEntry_promotes_least_duplicate_reversed :
    (duplicatesRun.cleanupEntry 0).2 = State.promoteCandidate duplicatesRun.heap
        (duplicatesRun.heap 0).dnsName
        ((duplicatesRun.entriesDelete 0).entries.entries.map (·.2)).reverse ∧
      LeastDup duplicatesRun.heap (duplicatesRun.heap 0).dnsName
        ((duplicatesRun.entriesDelete 0).entries.entries.map (·.2))
        (duplicatesRun.cleanupEntry 0).2 ∧
      ∀ a, (duplicatesRun.cleanupEntry 0).2 = some a → a ≠ 0 :=
  cleanupEntry_promotes_least_duplicate
    (show Reachable ["aws".toList] (fun _ => True) duplicatesRun from
      addRun_reachable fun _ _ => trivial).inv.entries_name
    (by decide) (List.reverse_perm _)

example : (duplicatesRun.cleanupEntry 0).2 = some 2 := by decide

end ExternalDns
