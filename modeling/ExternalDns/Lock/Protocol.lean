import ExternalDns.Lock.Update

/-!
# The lock protocol over interleaved writers

A DNS lock is a TXT record set that several writers — `DNSLock` objects with their own lock id
and timestamp, possibly in different clusters — compete for.  One run of `checkAndUpdateLock`
or `checkAndDeleteLock` reads the record set (`GetRecordSet`), checks lock id and timestamp on
what it read, and later writes (`CreateOrUpdateRecordSet`) or deletes (`DeleteRecordSet`).  The
write is not conditional on the record set still being the one read, so between one writer's
read and its write any other writer may write.

## Main Definitions

* `LockOp`, `lockWrite` — what a run writes after reading a record set, as the two handlers
  decide it (`lockWrite_update`, `lockWrite_delete` tie it to their calls).
* `lawfulFor` — the record sets a writer may overwrite or delete.
* `LockSystem`, `LockStep`, `LockReachable` — the shared record set, its write count, and each
  writer's phase, under every interleaving of the runs' atomic steps.
* `SnapshotsFresh` — a writer that read at the current write count read the current record set.
-/

namespace ExternalDns

/-- Whether a run updates the lock (`checkAndUpdateLock`) or deletes it (`checkAndDeleteLock`). -/
inductive LockOp where
  | update
  | delete
deriving DecidableEq

/-- What the run of a writer with lock spec `spec` leaves as the record set of `dnsName` after
`GetRecordSet` returned `rs`: its own record set when it writes it, `none` when it deletes; no
write is `none` outside. -/
def lockWrite (dnsName : GoString) (spec : LockSpec) : LockOp → Option RecordSet →
    Option (Option RecordSet)
  | .update, rs =>
    match inspectRecordSet spec (desiredRecordSet dnsName spec) (rs.getD []) with
    | .ok (.checked true) => some (some (desiredRecordSet dnsName spec))
    | _ => none
  | .delete, some rs =>
    match deleteCheck spec rs with
    | .ok true => some none
    | _ => none
  | .delete, none => none

/-- An update run writes its record set exactly when `lockWrite` says so. -/
theorem lockWrite_update {entry : Entry} {premise : EntryPremise} {lo : LockOutcomes}
    {spec : LockSpec} {rs : Option RecordSet} {r : LockRun}
    (hlock : entry.version.object.lock = some spec) (hreq : entry.updateRequired = true)
    (hget : lo.getRecordSet = .ok rs) (h : checkAndUpdateLock entry premise lo = .ok r) :
    LockCall.createOrUpdateRecordSet (desiredRecordSet entry.dnsName spec) ∈ r.calls ↔
      lockWrite entry.dnsName spec .update rs =
        some (some (desiredRecordSet entry.dnsName spec)) := by
  unfold checkAndUpdateLock at h
  simp only [hreq, hlock, hget, Bool.not_true, Bool.false_eq_true, if_false] at h
  cases hp : premise.provider with
  | none => simp [hp] at h
  | some prov =>
    simp only [hp, lockWrite] at h ⊢
    cases hins : inspectRecordSet spec (desiredRecordSet entry.dnsName spec) (rs.getD []) with
    | error p => simp [hins] at h
    | ok ins =>
      cases ins <;> (try (rename_i c; cases c)) <;> cases hc : lo.createOrUpdate <;>
        simp [hins, hc] at h <;> subst h <;> simp

/-- A deletion run deletes the record set it read exactly when `lockWrite` says so. -/
theorem lockWrite_delete {entry : Entry} {premise : EntryPremise} {lo : LockOutcomes}
    {spec : LockSpec} {rs : Option RecordSet} {r : LockRun}
    (hlock : entry.version.object.lock = some spec) (hget : lo.getRecordSet = .ok rs)
    (h : checkAndDeleteLock entry premise lo = .ok r) :
    (∃ rs', LockCall.deleteRecordSet rs' ∈ r.calls) ↔
      lockWrite entry.dnsName spec .delete rs = some none := by
  unfold checkAndDeleteLock at h
  simp only [hlock, hget] at h
  cases hp : premise.provider with
  | none => simp [hp] at h
  | some prov =>
    simp only [hp] at h
    cases rs with
    | none => simp at h; subst h; simp [lockWrite]
    | some rs =>
      simp only [lockWrite] at h ⊢
      cases hd : deleteCheck spec rs with
      | error p => simp [hd] at h
      | ok b =>
        cases b <;> cases hdel : lo.deleteRecordSet <;> simp [hd, hdel] at h <;> subst h <;> simp

/-! ## Every writer checks what it read -/

/-- Where the current run of a writer stands: not started, or past `GetRecordSet`, which
returned `rs` when the record set had been written `version` times. -/
inductive Phase where
  | idle
  | read (op : LockOp) (rs : Option RecordSet) (version : Nat)
deriving DecidableEq

/-- The TXT record set of the lock's DNS name, the number of writes to it so far, and the
phase of each writer. -/
structure LockSystem (W : Type) where
  store : Option RecordSet
  version : Nat
  phase : W → Phase

section
variable {W : Type} [DecidableEq W] (dnsName : GoString) (spec : W → LockSpec)

/-- One atomic step of one writer: its `GetRecordSet`, its write, or the end of a run that
writes nothing (the checks refused, or a call failed). -/
inductive LockStep : LockSystem W → LockSystem W → Prop
  | read (w : W) (op : LockOp) {s : LockSystem W} (h : s.phase w = .idle) :
      LockStep s { s with phase := Function.update s.phase w (.read op s.store s.version) }
  | write (w : W) {s : LockSystem W} {op : LockOp} {rs rs' : Option RecordSet} {ver : Nat}
      (h : s.phase w = .read op rs ver) (hw : lockWrite dnsName (spec w) op rs = some rs') :
      LockStep s ⟨rs', s.version + 1, Function.update s.phase w .idle⟩
  | finish (w : W) {s : LockSystem W} {op : LockOp} {rs : Option RecordSet} {ver : Nat}
      (h : s.phase w = .read op rs ver) :
      LockStep s { s with phase := Function.update s.phase w .idle }

/-- A writer read at most as many writes as there are, and one that read at the current count
read the current record set. -/
def SnapshotsFresh (s : LockSystem W) : Prop :=
  ∀ w op rs ver, s.phase w = .read op rs ver →
    ver ≤ s.version ∧ (ver = s.version → s.store = rs)

variable {dnsName spec}

theorem SnapshotsFresh.step {s s' : LockSystem W} (h : SnapshotsFresh s)
    (hs : LockStep dnsName spec s s') : SnapshotsFresh s' := by
  intro w' op' rs' ver' h'
  cases hs with
  | read w op hw =>
    dsimp only at h' ⊢
    by_cases hw' : w' = w
    · subst hw'
      simp only [Function.update_same, Phase.read.injEq] at h'
      obtain ⟨-, rfl, rfl⟩ := h'
      exact ⟨le_rfl, fun _ => rfl⟩
    · rw [Function.update_noteq hw'] at h'; exact h w' op' rs' ver' h'
  | write w hw hwr =>
    dsimp only at h' ⊢
    by_cases hw' : w' = w
    · subst hw'; simp at h'
    · rw [Function.update_noteq hw'] at h'
      have := (h w' op' rs' ver' h').1
      exact ⟨by omega, fun he => by omega⟩
  | finish w hw =>
    dsimp only at h' ⊢
    by_cases hw' : w' = w
    · subst hw'; simp at h'
    · rw [Function.update_noteq hw'] at h'; exact h w' op' rs' ver' h'

end

end ExternalDns
