import ExternalDns.Lock.Refresh

/-!
# Lookup failures of a lock (`UpdateLockStates`, lines 694-741)

When the lookup of a lock's DNS name fails, `UpdateLockStates` records in the lock's status when
the failures began (`FirstFailedDNSLookup`), marks the lock stale, and asks for it to be written
again (`updateRequired`, which also requeues it) when the lock was not ready before, or when the
failures have lasted more than twice its TTL.  A failure recorded before the process started
(`startupTime`) is not continued: the first failure after the start begins a new streak.  The
time of no failure is Go's zero `time.Time`, which `AssureTimestamp` stores as `nil`.

One lock across rounds is its status as the API server holds it and its entry's
`updateRequired` flag.  `streakStep` says, in terms of the rounds alone, when the current
failure streak began; every run of the code carries that value in the lock's status.

## Main Definitions

* `LockStatus`, `assureTimestamp` — `api.DNSLockStatus` and `AssureTimestamp`.
* `GoMap`, `equalAttrs` — a Go `map[string]string` and `EqualAttrs`.
* `lookupLock` — lines 669-712: what the lookup leaves for the status modifier.
* `lockStatusModifier`, `updateLockState` — lines 714-733, and one round for one lock.
* `refreshRun` — rounds one after another.
* `liveFailure` — the failure that line 699 continues; `streakStep` — the first failed round of
  the current failure streak.

## Main Statements

* `equalAttrs_iff` — `EqualAttrs` is map equality.
* `foldl_streakStep_eq_some_iff` — `streakStep` holds the clock value of the first failed round
  of the last uninterrupted run of failures.
* `liveFailure_refreshRun` — over every run whose clock values are after the start, the status
  records the streak `streakStep` follows.
* `lookup_failure_streak` — after every round, `FirstFailedDNSLookup` is the start of the
  streak, the lock is ready after a success and stale after a failure, and a failed round asks
  for an update when it begins a streak on a lock that was not ready, or when it continues one
  for more than twice the TTL.
* `lookup_failure_exceptions` — why the law needs a first failure apart from a later one, and a
  start not before the zero time.

## Design Notes

A status write that succeeds stores the status the modifier computed, and the next round reads
it back.  When the modifier reports no change `I_modify` writes nothing; the status then
already holds every value the modifier assures (`assureTimestamp_changed_iff` for the
timestamps, `equalAttrs_iff` for the attributes), so the next round reads the same.  The API
server keeps a `metav1.Time` to the second; that rounding lies outside the source and the model
does not apply it.
-/

namespace ExternalDns

/-- The message of a lock whose TXT records were found (line 719). -/
def msgRecordIsSet : GoString := "DNS record is set.".toList

/-- The message of a lock whose lookup failed (line 723). -/
def msgCannotBeLookedUp : GoString := "DNS record cannot be looked up".toList

/-- `api.DNSLockStatus`: the fields `UpdateLockStates` reads or writes. -/
structure LockStatus where
  state : StatusState
  message : Option GoString
  timestamp : Option Time
  firstFailedDNSLookup : Option Time
  attributes : GoString → Option GoString

/-- `AssureTimestamp(target, ts)` (lines 745-758): the new `*target`, `nil` for the zero time,
and whether it changed. -/
def assureTimestamp (target : Option Time) (ts : Time) : Option Time × Bool :=
  if ts.isZero then (none, target.isSome)
  else
    (some ts, match target with
      | none => true
      | some t => t != ts)

@[simp] theorem assureTimestamp_fst (target : Option Time) (ts : Time) :
    (assureTimestamp target ts).1 = if ts.isZero then none else some ts := by
  unfold assureTimestamp; split <;> rfl

/-- `AssureTimestamp` reports a change exactly when it changes the target. -/
theorem assureTimestamp_changed_iff (target : Option Time) (ts : Time) :
    (assureTimestamp target ts).2 = true ↔ (assureTimestamp target ts).1 ≠ target := by
  unfold assureTimestamp
  split <;> rcases target with _ | t <;> simp
  exact ne_comm

/-- A Go `map[string]string`: one value per key. -/
abbrev GoMap := AList fun _ : GoString => GoString

/-- `EqualAttrs(a, b)` (lines 760-769): the lengths agree, and every entry of `a` is found in `b`
with the same value.  Go ranges over a map in no fixed order; the loop only looks for an entry
that fails, so the model ranges over `a`'s entries in list order. -/
def equalAttrs (a b : GoMap) : Bool :=
  if a.entries.length != b.entries.length then false
  else a.entries.all fun kv =>
    match b.lookup kv.1 with
    | some f => f == kv.2
    | none => false

/-- The loop of `EqualAttrs` runs through every entry of `a` exactly when `b` holds them all. -/
theorem equalAttrs_all_iff (a b : GoMap) :
    (a.entries.all fun kv =>
      match b.lookup kv.1 with
      | some f => f == kv.2
      | none => false) = true ↔ a.entries ⊆ b.entries := by
  rw [List.all_eq_true]
  refine forall₂_congr fun kv _ => ?_
  rw [← AList.mem_lookup_iff]
  cases b.lookup kv.1 with
  | none => simp
  | some f => simp only [beq_iff_eq, Option.mem_def, Option.some.injEq]

/-- **`EqualAttrs` is map equality.**  Its length check and one-way search compare two Go maps
exactly: they are equal when, and only when, every key has the same value, or none, in both. -/
theorem equalAttrs_iff (a b : GoMap) : equalAttrs a b = true ↔ ∀ k, a.lookup k = b.lookup k := by
  unfold equalAttrs
  constructor
  · intro h k
    split at h
    · cases h
    next hlen =>
      have hsub := (equalAttrs_all_iff a b).1 h
      have hle : b.entries.length ≤ a.entries.length := by simp_all
      exact AList.perm_lookup ((a.nodupKeys.nodup.subperm hsub).perm_of_length_le hle)
  · intro h
    have hperm : a.entries.Perm b.entries :=
      List.lookup_ext a.nodupKeys b.nodupKeys fun k v => by
        show v ∈ a.lookup k ↔ v ∈ b.lookup k
        rw [h]
    rw [if_neg (by simp [hperm.length_eq]), equalAttrs_all_iff]
    exact hperm.subset

/-! ## One round -/

/-- What lines 669-712 leave for the status modifier: `updateRequired`, `firstfailed`, `ts` and
`attrs`. -/
structure LockLookup where
  updateRequired : Bool
  firstfailed : Time
  ts : Time
  attrs : GoString → Option GoString

/-- Lines 669-712 for a lock with `Spec.TTL = ttl` and status `status`: `records` is what
`net.LookupTXT` returned (`none` for an error), and `now` is `time.Now()`, which only a failed
lookup reads.  `time.Duration(TTL) * time.Second` and `ttl*2` are `int64` products. -/
def lookupLock (startupTime now : Time) (ttl : Int) (status : LockStatus)
    (records : Option (List GoString)) : LockLookup :=
  match records with
  | some records =>
    let p := parseTxt records
    ⟨false, Time.zero, p.ts, p.attrs⟩
  | none =>
    let ttl := wrapInt64 (ttl * 10 ^ 9)
    let restart : LockLookup := ⟨status.state != .ready, now, Time.zero, fun _ => none⟩
    match status.firstFailedDNSLookup with
    | some firstfailed =>
      if firstfailed.after startupTime then
        ⟨decide (wrapInt64 (ttl * 2) < now.sub firstfailed), firstfailed, Time.zero,
          fun _ => none⟩
      else restart
    | none => restart

/-- Lines 714-733: the status the modifier computes. -/
def lockStatusModifier (l : LockLookup) (status : LockStatus) : LockStatus :=
  let stale := !l.firstfailed.isZero
  { state := if stale then .stale else .ready
    message := some (if stale then msgCannotBeLookedUp else msgRecordIsSet)
    timestamp := (assureTimestamp status.timestamp l.ts).1
    firstFailedDNSLookup := (assureTimestamp status.firstFailedDNSLookup l.firstfailed).1
    attributes := l.attrs }

/-- One lock in `UpdateLockStates`: its status as the API server holds it, and its entry's
`updateRequired` flag. -/
structure LockRefresh where
  status : LockStatus
  updateRequired : Bool

/-- A round of `UpdateLockStates` for one lock: the value `time.Now()` reads, and what the
lookup returned (`none` for an error). -/
structure LookupRound where
  now : Time
  records : Option (List GoString)

/-- One pass of the loop of lines 667-741 over the lock: the lock after it, and the round's
`updateRequired`, which sets the entry's flag and requeues the lock. -/
def updateLockState (startupTime : Time) (ttl : Int) (s : LockRefresh) (r : LookupRound) :
    LockRefresh × Bool :=
  let l := lookupLock startupTime r.now ttl s.status r.records
  (⟨lockStatusModifier l s.status, s.updateRequired || l.updateRequired⟩, l.updateRequired)

/-- Rounds one after another, every status write succeeding and nothing else writing the lock's
status or resetting its flag in between. -/
def refreshRun (startupTime : Time) (ttl : Int) : LockRefresh → List LookupRound → LockRefresh :=
  List.foldl fun s r => (updateLockState startupTime ttl s r).1

/-- The failure line 699 continues: one recorded after the start. -/
def liveFailure (startupTime : Time) (status : LockStatus) : Option Time :=
  status.firstFailedDNSLookup.filter (·.after startupTime)

theorem after_of_liveFailure {startupTime first : Time} {status : LockStatus}
    (h : liveFailure startupTime status = some first) : first.after startupTime :=
  (Option.filter_eq_some.1 h).2

/-- A failed lookup continues the live failure, or begins one at `now`. -/
theorem lookupLock_failed (startupTime now : Time) (ttl : Int) (status : LockStatus) :
    lookupLock startupTime now ttl status none =
      ⟨(liveFailure startupTime status).elim (status.state != .ready) fun first =>
          decide (wrapInt64 (wrapInt64 (ttl * 10 ^ 9) * 2) < now.sub first),
        (liveFailure startupTime status).getD now, Time.zero, fun _ => none⟩ := by
  unfold lookupLock liveFailure
  rcases status.firstFailedDNSLookup with _ | t
  · rfl
  · by_cases ht : t.after startupTime <;> simp [ht, Option.filter]

section Round

variable {startupTime : Time} {ttl : Int} {status : LockStatus}

/-- After a lookup that found records, the lock is ready, with the timestamp and attributes
read from its texts, and records no failure. -/
theorem lockStatusModifier_found (now : Time) (records : List GoString) :
    lockStatusModifier (lookupLock startupTime now ttl status (some records)) status =
      ⟨.ready, some msgRecordIsSet, (assureTimestamp status.timestamp (parseTxt records).ts).1,
        none, (parseTxt records).attrs⟩ := rfl

/-- After a failed lookup, the lock is stale, records when its failures began, and keeps no
timestamp and no attributes. -/
theorem lockStatusModifier_failed {now : Time} (hstart : startupTime.before Time.zero = false)
    (hnow : now.after startupTime) :
    lockStatusModifier (lookupLock startupTime now ttl status none) status =
      ⟨.stale, some msgCannotBeLookedUp, none, some ((liveFailure startupTime status).getD now),
        fun _ => none⟩ := by
  have hnz : ((liveFailure startupTime status).getD now).isZero = false := by
    rcases hl : liveFailure startupTime status with _ | first
    · exact Time.isZero_eq_false_of_after hstart hnow
    · exact Time.isZero_eq_false_of_after hstart (after_of_liveFailure hl)
  rw [lookupLock_failed]
  simp [lockStatusModifier, hnz]

/-- Without overflow, the `int64` products of lines 698 and 701 compare as twice the TTL in
nanoseconds. -/
theorem lt_sub_ttl_iff (now first : Time) (httl : InInt64 (2 * ttl * 10 ^ 9)) :
    wrapInt64 (wrapInt64 (ttl * 10 ^ 9) * 2) < now.sub first ↔
      2 * ttl * 10 ^ 9 < now.toNanos - first.toNanos := by
  unfold InInt64 at httl
  have h1 : wrapInt64 (ttl * 10 ^ 9) = ttl * 10 ^ 9 :=
    wrapInt64_of_inInt64 (by unfold InInt64; omega)
  have h2 : wrapInt64 (ttl * 10 ^ 9 * 2) = ttl * 10 ^ 9 * 2 :=
    wrapInt64_of_inInt64 (by unfold InInt64; omega)
  rw [h1, h2, show ttl * 10 ^ 9 * 2 = 2 * ttl * 10 ^ 9 by omega]
  exact Time.lt_sub_iff ⟨httl.1, httl.2⟩ (by omega)

end Round

/-! ## The failure streak -/

/-- The failure streak after one more round: the clock value of its first failed round, or
`none` after a success. -/
def streakStep (streak : Option Time) (r : LookupRound) : Option Time :=
  match r.records with
  | some _ => none
  | none => some (streak.getD r.now)

theorem foldl_streakStep_of_failed {post : List LookupRound}
    (h : ∀ x ∈ post, x.records = none) (t : Time) : post.foldl streakStep (some t) = some t := by
  induction post with
  | nil => rfl
  | cons x post ih =>
    simp only [List.foldl_cons, streakStep, h x (List.mem_cons_self _ _), Option.getD_some]
    exact ih fun y hy => h y (List.mem_cons_of_mem _ hy)

/-- From no failure, a run ends with no streak exactly when it is empty or ends in a success. -/
theorem foldl_streakStep_eq_none_iff {rounds : List LookupRound} :
    rounds.foldl streakStep none = none ↔ ∀ p ∈ rounds.getLast?, p.records.isSome := by
  rcases rounds.eq_nil_or_concat with rfl | ⟨rounds, r, rfl⟩
  · simp
  · rcases hr : r.records with _ | records <;> simp [streakStep, hr]

/-- **`streakStep` says what the rounds say.**  From no failure, a run ends in a streak begun
at `t` exactly when `t` is the clock value of the first failed round of its last uninterrupted
run of failed rounds. -/
theorem foldl_streakStep_eq_some_iff {rounds : List LookupRound} {t : Time} :
    rounds.foldl streakStep none = some t ↔
      ∃ pre q post, rounds = pre ++ q :: post ∧ (∀ p ∈ pre.getLast?, p.records.isSome) ∧
        q.records = none ∧ (∀ x ∈ post, x.records = none) ∧ q.now = t := by
  constructor
  · induction rounds using List.reverseRecOn with
    | nil => intro h; cases h
    | append_singleton rounds r ih =>
      rcases hr : r.records with _ | records
      · rcases hl : rounds.foldl streakStep none with _ | t'
        · intro h
          simp only [List.foldl_append, List.foldl_cons, List.foldl_nil, hl, streakStep, hr,
            Option.getD_none, Option.some.injEq] at h
          exact ⟨rounds, r, [], rfl, foldl_streakStep_eq_none_iff.1 hl, hr, by simp, h⟩
        · intro h
          simp only [List.foldl_append, List.foldl_cons, List.foldl_nil, hl, streakStep, hr,
            Option.getD_some, Option.some.injEq] at h
          obtain ⟨pre, q, post, rfl, hpre, hq, hpost, hqt⟩ := ih (hl.trans (congrArg some h))
          refine ⟨pre, q, post ++ [r], by simp, hpre, hq, ?_, hqt⟩
          intro x hx
          rcases List.mem_append.1 hx with hx | hx
          · exact hpost x hx
          · rw [List.mem_singleton.1 hx, hr]
      · simp [streakStep, hr]
  · rintro ⟨pre, q, post, rfl, hpre, hq, hpost, rfl⟩
    rw [List.foldl_append, foldl_streakStep_eq_none_iff.2 hpre, List.foldl_cons, streakStep, hq]
    exact foldl_streakStep_of_failed hpost _

section Run

variable {startupTime : Time} {ttl : Int}

/-- **One round.**  From a status whose live failure is `streak`, a round whose clock value is
after the start records the next streak, and nothing older. -/
theorem firstFailed_updateLockState (hstart : startupTime.before Time.zero = false)
    (s : LockRefresh) {r : LookupRound} (hnow : r.now.after startupTime) :
    (updateLockState startupTime ttl s r).1.status.firstFailedDNSLookup =
      streakStep (liveFailure startupTime s.status) r := by
  rcases hr : r.records with _ | records
  · simp [updateLockState, hr, lockStatusModifier_failed hstart hnow, streakStep]
  · simp [updateLockState, hr, lockStatusModifier_found, streakStep]

/-- A streak recorded by a round after the start is live in the next round. -/
theorem liveFailure_updateLockState (hstart : startupTime.before Time.zero = false)
    (s : LockRefresh) {r : LookupRound} (hnow : r.now.after startupTime) :
    liveFailure startupTime (updateLockState startupTime ttl s r).1.status =
      streakStep (liveFailure startupTime s.status) r := by
  rw [liveFailure, firstFailed_updateLockState hstart s hnow, streakStep]
  split
  · rfl
  · rcases hl : liveFailure startupTime s.status with _ | first
    · simp [Option.filter, hnow]
    · simp [Option.filter, after_of_liveFailure hl]

/-- **Every run.**  Over rounds whose clock values are after the start, the live failure of the
lock's status follows `streakStep` from the one it started with. -/
theorem liveFailure_refreshRun (hstart : startupTime.before Time.zero = false) :
    ∀ (s : LockRefresh) (rounds : List LookupRound), (∀ r ∈ rounds, r.now.after startupTime) →
      liveFailure startupTime (refreshRun startupTime ttl s rounds).status =
        rounds.foldl streakStep (liveFailure startupTime s.status)
  | _, [], _ => rfl
  | s, r :: rounds, h => by
    rw [List.foldl_cons, ← liveFailure_updateLockState hstart s (h r (List.mem_cons_self _ _))]
    exact liveFailure_refreshRun hstart _ rounds fun q hq => h q (List.mem_cons_of_mem _ hq)

/-- **The failure streak of a lock.**  Take any run of `UpdateLockStates` rounds for one lock,
every status write succeeding and nothing else touching the lock in between, with clock values
after `startupTime`, which is not before the zero time, and a TTL whose double fits in `int64`
nanoseconds.  After each further round `r`, `FirstFailedDNSLookup` is `nil` if the lookup
succeeded and otherwise the clock value of the first failed round of the current failure
streak; the lock is ready after a success and stale after a failure; a success asks for no
update; and a failure asks for one exactly when it begins a streak on a lock that was not ready,
or continues a streak whose first failure lies more than twice the TTL before it. -/
theorem lookup_failure_streak (startupTime : Time) (ttl : Int) (s : LockRefresh)
    (rounds : List LookupRound) (r : LookupRound)
    (hstart : startupTime.before Time.zero = false) (httl : InInt64 (2 * ttl * 10 ^ 9))
    (hclock : ∀ q ∈ rounds ++ [r], q.now.after startupTime) :
    let before := refreshRun startupTime ttl s rounds
    let streak := rounds.foldl streakStep (liveFailure startupTime s.status)
    let after := updateLockState startupTime ttl before r
    after.1.status.firstFailedDNSLookup = streakStep streak r ∧
      after.1.status.state = (if r.records.isSome then .ready else .stale) ∧
      (r.records.isSome → after.2 = false) ∧
      (r.records = none → (after.2 = true ↔
        (streak = none ∧ before.status.state ≠ .ready) ∨
          ∃ first, streak = some first ∧ 2 * ttl * 10 ^ 9 < r.now.toNanos - first.toNanos)) := by
  intro before streak after
  have hrun : liveFailure startupTime before.status = streak :=
    liveFailure_refreshRun hstart s rounds fun q hq => hclock q (List.mem_append_left _ hq)
  have hnow : r.now.after startupTime :=
    hclock r (List.mem_append_right _ (List.mem_singleton_self _))
  refine ⟨hrun ▸ firstFailed_updateLockState hstart before hnow, ?_, ?_, ?_⟩
  · rcases hr : r.records with _ | records
    · simp [after, updateLockState, hr, lockStatusModifier_failed hstart hnow]
    · simp [after, updateLockState, hr, lockStatusModifier_found]
  · intro hr
    obtain ⟨records, hr⟩ := Option.isSome_iff_exists.1 hr
    simp [after, updateLockState, hr, lookupLock]
  · intro hr
    simp only [after, updateLockState, hr, lookupLock_failed, hrun]
    rcases streak with _ | first
    · simp
    · simp only [Option.elim, decide_eq_true_eq, lt_sub_ttl_iff _ _ httl]
      simp

/-- A lock that is ready and records no failure. -/
def readyLockStatus : LockStatus := ⟨.ready, some msgRecordIsSet, none, none, fun _ => none⟩

/-- A ready lock whose lookups fail at 150 s and at 300 s after the epoch, with a TTL of 60 s:
the second failure continues the streak begun at 150 s. -/
theorem lookup_failure_streak_continues :
    let after := updateLockState (Time.unix 100) 60
      (refreshRun (Time.unix 100) 60 ⟨readyLockStatus, false⟩ [⟨Time.unix 150, none⟩])
      ⟨Time.unix 300, none⟩
    after.1.status.firstFailedDNSLookup = some (Time.unix 150) ∧
      after.1.status.state = .stale :=
  have h := lookup_failure_streak (Time.unix 100) 60 ⟨readyLockStatus, false⟩
    [⟨Time.unix 150, none⟩] ⟨Time.unix 300, none⟩ (by decide) (by decide) (by decide)
  ⟨h.1, h.2.1⟩

/-- Two runs outside the law above.  With a TTL of -1 s, the first failure of a ready lock lies
more than twice the TTL after itself, yet asks for no update.  With a start before the zero
time, a failure at the zero time leaves the lock ready and records no failure. -/
theorem lookup_failure_exceptions :
    (InInt64 (2 * -1 * 10 ^ 9) ∧ (Time.unix 200).after (Time.unix 100) ∧
      2 * -1 * 10 ^ 9 < (Time.unix 200).toNanos - (Time.unix 200).toNanos ∧
      (updateLockState (Time.unix 100) (-1) ⟨readyLockStatus, false⟩
        ⟨Time.unix 200, none⟩).2 = false) ∧
    (Time.zero.after ⟨-1, 0, by decide, by decide⟩ ∧
      (updateLockState ⟨-1, 0, by decide, by decide⟩ 60 ⟨readyLockStatus, false⟩
        ⟨Time.zero, none⟩).1.status.state = .ready ∧
      (updateLockState ⟨-1, 0, by decide, by decide⟩ 60 ⟨readyLockStatus, false⟩
        ⟨Time.zero, none⟩).1.status.firstFailedDNSLookup = none) := by
  decide

end Run

end ExternalDns
