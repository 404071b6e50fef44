import ExternalDns.Go.Runtime

/-!
# Optimistic updates of a resource (`_i_object.I_modify`, lines 807-866)

`I_modify` applies a modifier to a copy of an object and writes the result back with
`update` (or `updateStatus`), retrying on a conflict: it re-reads the object with `get`,
applies the modifier again and writes again, ten times at most.  With `create` it first reads
the object and creates it from the modified copy when it does not exist, falling back to the
update loop when a concurrent create got there first.

Every call may fail, and which return is taken depends on the whole sequence of the server's
answers.  The model takes that sequence as an oracle: `server i` answers the call at position
`i` of the run and `modifier i` the modifier call at position `i` (a modifier may answer
differently on each call).  The run returns the calls it made, in order, with their answers.

## Main Definitions

* `ApiError`, `ModifyCall`, `ModifyResult` — the errors `I_modify` tells apart, the calls it
  makes, and what it returns.
* `modifyRound`, `modifyLoop`, `iModify` — one pass of the loop body, the loop, and the function.
* `ReappliesAfterConflict` — an update after a conflict sends the modifier's result on the
  object re-read after that conflict.
* `UpdatesModified` — every update sends the result of the modifier call right before it, which
  reported a modification and no error.

## Main Statements

* `iModify_bounded_retry` — at most ten updates, `ObjectData` changed only to what a
  successful write returned, `(true, nil)` exactly after such a write, and every retry built
  from a fresh read.
* `iModify_updates_only_modified` — no update without a modification.
-/

namespace ExternalDns

/-- An error of a call: the three reasons `I_modify` tests (`errors.IsNotFound`,
`IsAlreadyExists`, `IsConflict`) and every other error. -/
inductive ApiError where
  | notFound
  | alreadyExists
  | conflict
  | other (msg : GoString)
deriving DecidableEq

/-- A call `I_modify` makes, with its answer. -/
inductive ModifyCall (D : Type) where
  /-- `I_get(data)`: the object read, or the error. -/
  | get (answer : Except ApiError D)
  /-- `modifier(data)` on `input`. -/
  | modify (input : D)
  /-- `I_create(data)` of `sent`. -/
  | create (sent : D) (answer : Except ApiError D)
  /-- `I_updateStatus(data)` (when `statusOnly`) or `I_update(data)` of `sent`. -/
  | update (statusOnly : Bool) (sent : D) (answer : Except ApiError D)

/-- What `I_modify` returns (`mod`, `err`), `this.ObjectData` afterwards, and the calls it
made. -/
structure ModifyResult (D : Type) where
  mod : Bool
  err : Option ApiError
  objectData : D
  calls : List (ModifyCall D)

/-- How one pass of the loop body ends: `I_modify` returns `r`, or the update hit a conflict,
`get` re-read the object `data`, and the loop goes on with `lasterr`. -/
inductive RoundEnd (D : Type) where
  | done (r : ModifyResult D)
  | retry (calls : List (ModifyCall D)) (data : D) (lasterr : ApiError)

variable {D : Type}

/-- An `update` or `updateStatus` call. -/
def ModifyCall.isUpdate : ModifyCall D → Bool
  | .update .. => true
  | _ => false

/-- The object a successful `create`, `update` or `updateStatus` returned. -/
def ModifyCall.written : ModifyCall D → Option D
  | .create _ (.ok o) => some o
  | .update _ _ (.ok o) => some o
  | _ => none

/-- The result of a run after the calls `pre`. -/
def ModifyResult.prepend (pre : List (ModifyCall D)) (r : ModifyResult D) : ModifyResult D :=
  { r with calls := pre ++ r.calls }

section
variable (statusOnly : Bool) (modifier : Nat → D → D × Bool × Option ApiError)
  (server : Nat → Except ApiError D) (od : D)

/-- Lines 840-861, with the modifier call at position `n`: modify `data`, write it, and on a
conflict re-read it. -/
def modifyRound (n : Nat) (data : D) : RoundEnd D :=
  let r := modifier n data
  let call := ModifyCall.modify data
  if !r.2.1 then .done ⟨false, r.2.2, od, [call]⟩
  else
    match r.2.2 with
    | some err => .done ⟨true, some err, od, [call]⟩
    | none =>
      let put := ModifyCall.update statusOnly r.1 (server (n + 1))
      match server (n + 1) with
      | .ok modified => .done ⟨true, none, modified, [call, put]⟩
      | .error e =>
        if e ≠ .conflict then .done ⟨true, some e, od, [call, put]⟩
        else
          match server (n + 2) with
          | .error e' => .done ⟨true, some e', od, [call, put, .get (.error e')]⟩
          | .ok d => .retry [call, put, .get (.ok d)] d e

/-- Lines 839-865: `for cnt > 0`, the first call at position `n`; at `cnt = 0` the loop ends
with `(true, lasterr)`. -/
def modifyLoop : Nat → Nat → D → Option ApiError → ModifyResult D
  | 0, _, _, lasterr => ⟨true, lasterr, od, []⟩
  | cnt + 1, n, data, _ =>
    match modifyRound statusOnly modifier server od n data with
    | .done r => r
    | .retry calls d e => (modifyLoop cnt (n + 3) d (some e)).prepend calls

/-- `I_modify(status_only, create, modifier)` on an object whose `ObjectData` is `od`. -/
def iModify (create : Bool) : ModifyResult D :=
  let loop (n : Nat) (data : D) := modifyLoop statusOnly modifier server od 10 n data none
  if create then
    match server 0 with
    | .ok d => (loop 1 d).prepend [.get (.ok d)]
    | .error e =>
      let read := ModifyCall.get (.error e)
      if e ≠ .notFound then ⟨false, some e, od, [read]⟩
      else
        let r := modifier 1 od
        match r.2.2 with
        | some err => ⟨false, some err, od, [read, .modify od]⟩
        | none =>
          let made := ModifyCall.create r.1 (server 2)
          match server 2 with
          | .ok created => ⟨true, none, created, [read, .modify od, made]⟩
          | .error e2 =>
            if e2 ≠ .alreadyExists then ⟨false, some e2, od, [read, .modify od, made]⟩
            else
              match server 3 with
              | .error e3 => ⟨false, some e3, od, [read, .modify od, made, .get (.error e3)]⟩
              | .ok d => (loop 4 d).prepend [read, .modify od, made, .get (.ok d)]
  else loop 0 od

end

/-- Every update that follows a conflicting update, with no update between, comes right after
the `get` that re-read the object (`d`) and the modifier call on `d`, and sends what that call
returned.  `modifier i` answers the modifier call at position `i` of `calls`. -/
def ReappliesAfterConflict (modifier : Nat → D → D × Bool × Option ApiError)
    (calls : List (ModifyCall D)) : Prop :=
  ∀ (pre : List (ModifyCall D)) (b : Bool) (x : D) (mid : List (ModifyCall D)) (b' : Bool)
    (sent : D) (ans : Except ApiError D) (post : List (ModifyCall D)),
    calls = pre ++ .update b x (.error .conflict) :: (mid ++ .update b' sent ans :: post) →
    (∀ c ∈ mid, c.isUpdate = false) →
    ∃ d, mid = [.get (.ok d), .modify d] ∧ sent = (modifier (pre.length + 2) d).1

/-- With at most one update there is nothing to check. -/
theorem reapplies_of_updates_le_one {m : Nat → D → D × Bool × Option ApiError}
    {calls : List (ModifyCall D)} (h : (calls.filter ModifyCall.isUpdate).length ≤ 1) :
    ReappliesAfterConflict m calls := by
  intro pre b x mid b' sent ans post hcalls _
  subst hcalls
  simp [List.filter_append, ModifyCall.isUpdate] at h
  omega

/-- Calls without an update in front shift the positions and change nothing else. -/
theorem reapplies_append {m : Nat → D → D × Bool × Option ApiError}
    {pre0 calls : List (ModifyCall D)} (hpre0 : ∀ c ∈ pre0, c.isUpdate = false)
    (h : ReappliesAfterConflict (fun i => m (pre0.length + i)) calls) :
    ReappliesAfterConflict m (pre0 ++ calls) := by
  intro pre b x mid b' sent ans post hcalls hmid
  rcases List.append_eq_append_iff.1 hcalls with ⟨a', rfl, hc⟩ | ⟨c', rfl, hc⟩
  · obtain ⟨d, hmid', hsent⟩ := h a' b x mid b' sent ans post hc hmid
    exact ⟨d, hmid', by rw [hsent, List.length_append, Nat.add_assoc]⟩
  · rcases c' with _ | ⟨c, c'⟩
    · obtain ⟨d, hmid', hsent⟩ := h [] b x mid b' sent ans post (by simpa using hc.symm) hmid
      exact ⟨d, hmid', by simpa using hsent⟩
    · simp only [List.cons_append, List.cons.injEq] at hc
      have := hpre0 c (by simp)
      rw [← hc.1] at this
      simp [ModifyCall.isUpdate] at this

/-- A conflicting round in front of a loop that starts by modifying the object re-read. -/
theorem reapplies_retry {m : Nat → D → D × Bool × Option ApiError} {b : Bool} {x y d : D}
    {rest : List (ModifyCall D)} (hrest : ReappliesAfterConflict (fun i => m (3 + i)) rest)
    (hhead : rest = [] ∨ ∃ tail, rest = .modify d :: tail ∧
      (tail = [] ∨ ∃ a post, tail = .update b (m 3 d).1 a :: post)) :
    ReappliesAfterConflict m
      (.modify x :: .update b y (.error .conflict) :: .get (.ok d) :: rest) := by
  intro pre b1 x1 mid b2 sent ans post hcalls hmid
  rcases pre with _ | ⟨c1, _ | ⟨c2, _ | ⟨c3, pre⟩⟩⟩
  · simp at hcalls
  · simp only [List.singleton_append, List.cons.injEq] at hcalls
    obtain ⟨-, -, hrest'⟩ := hcalls
    rcases mid with _ | ⟨g, _ | ⟨c, mid⟩⟩
    · simp at hrest'
    · simp only [List.singleton_append, List.cons.injEq] at hrest'
      obtain ⟨-, hr⟩ := hrest'
      rcases hhead with rfl | ⟨tail, rfl, _⟩ <;> simp at hr
    · simp only [List.cons_append, List.cons.injEq] at hrest'
      obtain ⟨rfl, hr⟩ := hrest'
      rcases hhead with rfl | ⟨tail, rfl, htail⟩
      · simp at hr
      · simp only [List.cons.injEq] at hr
        obtain ⟨rfl, hr⟩ := hr
        rcases htail with rfl | ⟨a, post', rfl⟩
        · simp at hr
        · rcases mid with _ | ⟨c', mid⟩
          · simp only [List.nil_append, List.cons.injEq, ModifyCall.update.injEq] at hr
            obtain ⟨⟨-, rfl, -⟩, -⟩ := hr
            exact ⟨_, rfl, rfl⟩
          · simp only [List.cons_append, List.cons.injEq] at hr
            obtain ⟨rfl, -⟩ := hr
            simp [ModifyCall.isUpdate] at hmid
  · simp at hcalls
  · simp only [List.cons_append, List.cons.injEq] at hcalls
    obtain ⟨-, -, -, hrest'⟩ := hcalls
    obtain ⟨d', hmid', hsent⟩ := hrest pre b1 x1 mid b2 sent ans post hrest' hmid
    refine ⟨d', hmid', ?_⟩
    rw [hsent, show (c1 :: c2 :: c3 :: pre).length + 2 = 3 + (pre.length + 2) by simp; omega]

/-- Every update sends what the modifier call right before it returned, and that call reported a
modification and no error.  `modifier i` answers the modifier call at position `i` of
`calls`. -/
def UpdatesModified (modifier : Nat → D → D × Bool × Option ApiError)
    (calls : List (ModifyCall D)) : Prop :=
  ∀ (pre : List (ModifyCall D)) (b : Bool) (sent : D) (ans : Except ApiError D)
    (post : List (ModifyCall D)), calls = pre ++ .update b sent ans :: post →
    ∃ pre' d, pre = pre' ++ [.modify d] ∧ modifier pre'.length d = (sent, true, none)

/-- Calls without an update have nothing to check. -/
theorem updatesModified_of_no_update {m : Nat → D → D × Bool × Option ApiError}
    {calls : List (ModifyCall D)} (h : ∀ c ∈ calls, c.isUpdate = false) :
    UpdatesModified m calls := by
  intro pre b sent ans post hcalls
  have := h (.update b sent ans) (by simp [hcalls])
  simp [ModifyCall.isUpdate] at this

/-- A modifier call that reports a modification, then the update of its result. -/
theorem updatesModified_modify_update {m : Nat → D → D × Bool × Option ApiError} {d sent : D}
    {b : Bool} {ans : Except ApiError D} {rest : List (ModifyCall D)}
    (hm : m 0 d = (sent, true, none)) (hrest : ∀ c ∈ rest, c.isUpdate = false) :
    UpdatesModified m (.modify d :: .update b sent ans :: rest) := by
  intro pre b' sent' ans' post hcalls
  rcases pre with _ | ⟨c, _ | ⟨c', pre⟩⟩
  · simp at hcalls
  · simp only [List.singleton_append, List.cons.injEq, ModifyCall.update.injEq] at hcalls
    obtain ⟨rfl, ⟨-, rfl, -⟩, -⟩ := hcalls
    exact ⟨[], d, rfl, hm⟩
  · simp only [List.cons_append, List.cons.injEq] at hcalls
    have := hrest (.update b' sent' ans') (by simp [hcalls.2.2])
    simp [ModifyCall.isUpdate] at this

/-- Two runs of calls one after the other, the positions of the second shifted past the
first. -/
theorem updatesModified_append {m : Nat → D → D × Bool × Option ApiError}
    {pre0 calls : List (ModifyCall D)} (h0 : UpdatesModified m pre0)
    (h : UpdatesModified (fun i => m (pre0.length + i)) calls) :
    UpdatesModified m (pre0 ++ calls) := by
  intro pre b sent ans post hcalls
  rcases List.append_eq_append_iff.1 hcalls with ⟨a', rfl, hc⟩ | ⟨c', rfl, hc⟩
  · obtain ⟨pre', d, rfl, hm⟩ := h a' b sent ans post hc
    exact ⟨pre0 ++ pre', d, (List.append_assoc _ _ _).symm, by simpa using hm⟩
  · rcases c' with _ | ⟨c, c'⟩
    · obtain ⟨pre', d, hpre', -⟩ := h [] b sent ans post (by simpa using hc.symm)
      simp at hpre'
    · simp only [List.cons_append, List.cons.injEq] at hc
      obtain ⟨rfl, rfl⟩ := hc
      exact h0 pre b sent ans c' rfl

/-- Nothing is half-committed: `ObjectData` is what a successful write returned, or unchanged
when no write succeeded, and `(true, nil)` is returned exactly after such a write. -/
def ModifyResult.Committed (od : D) (r : ModifyResult D) : Prop :=
  r.objectData = (r.calls.findSome? ModifyCall.written).getD od ∧
    ((r.mod = true ∧ r.err = none) ↔ (r.calls.findSome? ModifyCall.written).isSome)

theorem ModifyResult.Committed.prepend {od : D} {r : ModifyResult D} (h : r.Committed od)
    {pre : List (ModifyCall D)} (hpre : ∀ c ∈ pre, c.written = none) :
    (r.prepend pre).Committed od := by
  have hfs : (pre ++ r.calls).findSome? ModifyCall.written =
      r.calls.findSome? ModifyCall.written := by
    rw [List.findSome?_append, List.findSome?_eq_none_iff.2 hpre, Option.none_or]
  simpa [Committed, ModifyResult.prepend, hfs] using h

section
variable {statusOnly : Bool} {modifier : Nat → D → D × Bool × Option ApiError}
  {server : Nat → Except ApiError D} {od : D}

/-- **What one round can do.**  It returns, having committed exactly what it wrote, with the
modifier call on `data` first and at most one update, of what that call returned; or its update
hit a conflict and `get` re-read the object. -/
theorem modifyRound_cases (n : Nat) (data : D) :
    (∃ r, modifyRound statusOnly modifier server od n data = .done r ∧ r.Committed od ∧
      ∃ tail, r.calls = .modify data :: tail ∧
        (tail = [] ∨ ∃ a post, tail = .update statusOnly (modifier n data).1 a :: post ∧
          ∀ c ∈ post, c.isUpdate = false)) ∨
    ∃ d, modifyRound statusOnly modifier server od n data = .retry [.modify data,
      .update statusOnly (modifier n data).1 (.error .conflict), .get (.ok d)] d .conflict := by
  unfold modifyRound
  dsimp only
  split
  · exact .inl ⟨_, rfl, ⟨rfl, by simp [ModifyCall.written]⟩, _, rfl, .inl rfl⟩
  split
  · exact .inl ⟨_, rfl, ⟨rfl, by simp [ModifyCall.written]⟩, _, rfl, .inl rfl⟩
  split
  next modified h1 =>
    exact .inl ⟨_, rfl, ⟨by simp [ModifyCall.written, h1], by simp [ModifyCall.written, h1]⟩, _,
      rfl, .inr ⟨_, [], rfl, by simp⟩⟩
  next e h1 =>
    split
    · exact .inl ⟨_, rfl, ⟨by simp [ModifyCall.written, h1], by simp [ModifyCall.written, h1]⟩,
        _, rfl, .inr ⟨_, [], rfl, by simp⟩⟩
    next hc =>
      obtain rfl : e = .conflict := not_not.1 hc
      split
      · exact .inl ⟨_, rfl, ⟨by simp [ModifyCall.written, h1], by simp [ModifyCall.written, h1]⟩,
          _, rfl, .inr ⟨_, [_], rfl, by simp [ModifyCall.isUpdate]⟩⟩
      · exact .inr ⟨_, by rw [h1]⟩

theorem modifyRound_done {n : Nat} {data : D} {r : ModifyResult D}
    (h : modifyRound statusOnly modifier server od n data = .done r) :
    r.Committed od ∧ ∃ tail, r.calls = .modify data :: tail ∧
      (tail = [] ∨ ∃ a post, tail = .update statusOnly (modifier n data).1 a :: post ∧
        ∀ c ∈ post, c.isUpdate = false) := by
  rcases modifyRound_cases n data with ⟨r', h', hr'⟩ | ⟨d, h'⟩ <;> rw [h'] at h <;> cases h
  exact hr'

theorem modifyRound_retry {n : Nat} {data d : D} {calls : List (ModifyCall D)} {e : ApiError}
    (h : modifyRound statusOnly modifier server od n data = .retry calls d e) :
    e = .conflict ∧ calls = [.modify data,
      .update statusOnly (modifier n data).1 (.error .conflict), .get (.ok d)] := by
  rcases modifyRound_cases n data with ⟨r', h', -⟩ | ⟨d', h'⟩ <;> rw [h'] at h <;> cases h
  exact ⟨rfl, rfl⟩

/-- The shape of a loop's calls: none, or the modifier call on `data` first, then, if any, the
update of what it returned. -/
theorem modifyLoop_head (cnt n : Nat) (data : D) (lasterr : Option ApiError) :
    (modifyLoop statusOnly modifier server od cnt n data lasterr).calls = [] ∨
      ∃ tail, (modifyLoop statusOnly modifier server od cnt n data lasterr).calls =
        .modify data :: tail ∧
        (tail = [] ∨ ∃ a post, tail = .update statusOnly (modifier n data).1 a :: post) := by
  cases cnt with
  | zero => exact .inl rfl
  | succ cnt =>
    right
    simp only [modifyLoop]
    split
    · rename_i r hr
      obtain ⟨-, tail, htail, hshape⟩ := modifyRound_done hr
      exact ⟨tail, htail, hshape.imp_right fun ⟨a, post, h, _⟩ => ⟨a, post, h⟩⟩
    · rename_i calls d e hr
      obtain ⟨-, rfl⟩ := modifyRound_retry hr
      exact ⟨_, rfl, .inr ⟨_, _, rfl⟩⟩

/-- A round that returns makes at most one update. -/
theorem modifyRound_done_updates {n : Nat} {data : D} {r : ModifyResult D}
    (h : modifyRound statusOnly modifier server od n data = .done r) :
    (r.calls.filter ModifyCall.isUpdate).length ≤ 1 := by
  obtain ⟨-, tail, htail, hshape⟩ := modifyRound_done h
  rcases hshape with rfl | ⟨a, post, rfl, hpost⟩
  · simp [htail, ModifyCall.isUpdate]
  · simp [htail, ModifyCall.isUpdate, List.filter_eq_nil_iff.2 (by simpa using hpost)]

/-- The loop makes at most one update per round. -/
theorem modifyLoop_updates_le (cnt : Nat) : ∀ n data lasterr,
    ((modifyLoop statusOnly modifier server od cnt n data lasterr).calls.filter
      ModifyCall.isUpdate).length ≤ cnt := by
  induction cnt with
  | zero => intros; simp [modifyLoop]
  | succ cnt ih =>
    intro n data lasterr
    simp only [modifyLoop]
    split
    · exact (modifyRound_done_updates ‹_›).trans (by omega)
    · rename_i calls d e hr
      obtain ⟨-, rfl⟩ := modifyRound_retry hr
      have := ih (n + 3) d (some e)
      simp [ModifyResult.prepend, ModifyCall.isUpdate, List.filter_append]
      omega

/-- The loop commits nothing half, as long as it ends on a write or with an error. -/
theorem modifyLoop_committed (cnt : Nat) : ∀ n data lasterr, (lasterr ≠ none ∨ cnt ≠ 0) →
    (modifyLoop statusOnly modifier server od cnt n data lasterr).Committed od := by
  induction cnt with
  | zero =>
    intro n data lasterr h
    obtain ⟨e, rfl⟩ := Option.ne_none_iff_exists'.1 (h.resolve_right (by simp))
    simp [modifyLoop, ModifyResult.Committed]
  | succ cnt ih =>
    intro n data lasterr _
    simp only [modifyLoop]
    split
    · exact (modifyRound_done ‹_›).1
    · rename_i calls d e hr
      obtain ⟨-, rfl⟩ := modifyRound_retry hr
      exact (ih (n + 3) d (some e) (.inl (by simp))).prepend (by simp [ModifyCall.written])

/-- Every retry of the loop is built from the object re-read after the conflict. -/
theorem modifyLoop_reapplies (cnt : Nat) : ∀ n data lasterr,
    ReappliesAfterConflict (fun i => modifier (n + i))
      (modifyLoop statusOnly modifier server od cnt n data lasterr).calls := by
  induction cnt with
  | zero => intros; exact reapplies_of_updates_le_one (by simp [modifyLoop])
  | succ cnt ih =>
    intro n data lasterr
    simp only [modifyLoop]
    split
    · exact reapplies_of_updates_le_one (modifyRound_done_updates ‹_›)
    · rename_i calls d e hr
      obtain ⟨rfl, rfl⟩ := modifyRound_retry hr
      exact reapplies_retry (by simpa only [Nat.add_assoc] using ih (n + 3) d (some .conflict))
        (modifyLoop_head cnt (n + 3) d (some .conflict))

/-- A round updates only right after its modifier call, with what that call returned when it
reported a modification and no error. -/
theorem modifyRound_updatesModified (n : Nat) (data : D) :
    (∀ r, modifyRound statusOnly modifier server od n data = .done r →
      UpdatesModified (fun i => modifier (n + i)) r.calls) ∧
    ∀ calls d e, modifyRound statusOnly modifier server od n data = .retry calls d e →
      UpdatesModified (fun i => modifier (n + i)) calls := by
  have hquiet : UpdatesModified (fun i => modifier (n + i)) [.modify data] :=
    updatesModified_of_no_update (by simp [ModifyCall.isUpdate])
  unfold modifyRound
  dsimp only
  split
  · exact ⟨fun r h => by cases h; exact hquiet, nofun⟩
  next hmod =>
  split
  · exact ⟨fun r h => by cases h; exact hquiet, nofun⟩
  next herr =>
  have hm : (fun i => modifier (n + i)) 0 data = ((modifier n data).1, true, none) := by
    simp only [Nat.add_zero]
    rw [← herr, ← (by simpa using hmod : (modifier n data).2.1 = true)]
  have hupd (rest : List (ModifyCall D)) (hrest : ∀ c ∈ rest, c.isUpdate = false)
      (ans : Except ApiError D) : UpdatesModified (fun i => modifier (n + i))
        (.modify data :: .update statusOnly (modifier n data).1 ans :: rest) :=
    updatesModified_modify_update hm hrest
  split
  · exact ⟨fun r h => by cases h; exact hupd [] nofun _, nofun⟩
  split
  · exact ⟨fun r h => by cases h; exact hupd [] nofun _, nofun⟩
  split
  · exact ⟨fun r h => by cases h; exact hupd _ (by simp [ModifyCall.isUpdate]) _, nofun⟩
  · exact ⟨nofun, fun calls d e h => by cases h; exact hupd _ (by simp [ModifyCall.isUpdate]) _⟩

/-- The loop updates only with what the modifier call right before returned with a
modification. -/
theorem modifyLoop_updatesModified (cnt : Nat) : ∀ n data lasterr,
    UpdatesModified (fun i => modifier (n + i))
      (modifyLoop statusOnly modifier server od cnt n data lasterr).calls := by
  induction cnt with
  | zero => intros; exact updatesModified_of_no_update (by simp [modifyLoop])
  | succ cnt ih =>
    intro n data lasterr
    simp only [modifyLoop]
    split
    · exact (modifyRound_updatesModified n data).1 _ ‹_›
    · rename_i calls d e hr
      have hround := (modifyRound_updatesModified n data).2 _ _ _ hr
      obtain ⟨-, rfl⟩ := modifyRound_retry hr
      exact updatesModified_append hround
        (by simpa only [Nat.add_assoc] using ih (n + 3) d (some e))

/-- **What `I_modify` can do.**  It runs the loop after calls that neither update nor write,
with the positions shifted past them, or it returns without an update, committing nothing
half. -/
theorem iModify_cases (create : Bool) :
    (∃ pre d, (∀ c ∈ pre, c.isUpdate = false ∧ c.written = none) ∧
      iModify statusOnly modifier server od create =
        (modifyLoop statusOnly modifier server od 10 pre.length d none).prepend pre) ∨
    ((iModify statusOnly modifier server od create).calls.filter ModifyCall.isUpdate = [] ∧
      (iModify statusOnly modifier server od create).Committed od) := by
  unfold iModify
  dsimp only
  split
  · split
    · exact .inl ⟨[_], _, by simp [ModifyCall.isUpdate, ModifyCall.written], rfl⟩
    split
    · exact .inr ⟨rfl, rfl, by simp [ModifyCall.written]⟩
    split
    · exact .inr ⟨rfl, rfl, by simp [ModifyCall.written]⟩
    split
    next created h2 =>
      exact .inr ⟨by simp [ModifyCall.isUpdate], by simp [ModifyResult.Committed,
        ModifyCall.written, h2]⟩
    next e2 h2 =>
      split
      · exact .inr ⟨by simp [ModifyCall.isUpdate], by simp [ModifyResult.Committed,
          ModifyCall.written, h2]⟩
      split
      · exact .inr ⟨by simp [ModifyCall.isUpdate], by simp [ModifyResult.Committed,
          ModifyCall.written, h2]⟩
      · exact .inl ⟨[_, _, _, _], _, by simp [ModifyCall.isUpdate, ModifyCall.written, h2], rfl⟩
  · exact .inl ⟨[], od, by simp, rfl⟩

theorem iModify_updates_le (create : Bool) :
    ((iModify statusOnly modifier server od create).calls.filter ModifyCall.isUpdate).length ≤
      10 := by
  rcases @iModify_cases _ statusOnly modifier server od create with ⟨pre, d, hpre, h⟩ | ⟨h, -⟩
  · have hnil : pre.filter ModifyCall.isUpdate = [] :=
      List.filter_eq_nil_iff.2 fun c hc => by simp [(hpre c hc).1]
    rw [h, ModifyResult.prepend, List.filter_append, hnil, List.nil_append]
    exact modifyLoop_updates_le 10 _ _ _
  · simp [h]

theorem iModify_committed (create : Bool) :
    (iModify statusOnly modifier server od create).Committed od := by
  rcases @iModify_cases _ statusOnly modifier server od create with ⟨pre, d, hpre, h⟩ | ⟨-, h⟩
  · rw [h]
    exact (modifyLoop_committed 10 _ _ _ (.inr (by decide))).prepend fun c hc => (hpre c hc).2
  · exact h

theorem iModify_reapplies (create : Bool) :
    ReappliesAfterConflict modifier (iModify statusOnly modifier server od create).calls := by
  rcases @iModify_cases _ statusOnly modifier server od create with ⟨pre, d, hpre, h⟩ | ⟨h, -⟩
  · rw [h]
    exact reapplies_append (fun c hc => (hpre c hc).1) (modifyLoop_reapplies 10 _ _ _)
  · exact reapplies_of_updates_le_one (by simp [h])

/-- **Bounded optimistic retry with no half-committed state.**  For every modifier and every
sequence of answers of the server, with or without `create` and for status or object updates,
`I_modify` makes at most ten updates; `ObjectData` afterwards is the object a successful
create or update returned, and is unchanged when none succeeded; it returns `(true, nil)`
exactly when such a write succeeded; and every update after a conflict sends the modifier's
result on the object read by the `get` that followed that conflict. -/
theorem iModify_bounded_retry (statusOnly create : Bool)
    (modifier : Nat → D → D × Bool × Option ApiError) (server : Nat → Except ApiError D)
    (od : D) :
    let r := iModify statusOnly modifier server od create
    (r.calls.filter ModifyCall.isUpdate).length ≤ 10 ∧
      r.objectData = (r.calls.findSome? ModifyCall.written).getD od ∧
      ((r.mod = true ∧ r.err = none) ↔ (r.calls.findSome? ModifyCall.written).isSome) ∧
      ReappliesAfterConflict modifier r.calls :=
  ⟨iModify_updates_le create, (iModify_committed create).1, (iModify_committed create).2,
    iModify_reapplies create⟩

end

/-- **No update without a modification.**  For every modifier and every sequence of answers of
the server, with or without `create`, for status or object updates: every update `I_modify`
sends is the result of the modifier call right before it, and that call reported a
modification and no error.  The create path (lines 813-825) is not constrained: it sends
`I_create` after a modifier call without error, whatever change that call reports. -/
theorem iModify_updates_only_modified (statusOnly create : Bool)
    (modifier : Nat → D → D × Bool × Option ApiError) (server : Nat → Except ApiError D)
    (od : D) : UpdatesModified modifier (iModify statusOnly modifier server od create).calls := by
  rcases @iModify_cases _ statusOnly modifier server od create with ⟨pre, d, hpre, h⟩ | ⟨h, -⟩
  · rw [h]
    exact updatesModified_append (updatesModified_of_no_update fun c hc => (hpre c hc).1)
      (modifyLoop_updatesModified 10 pre.length d none)
  · exact updatesModified_of_no_update fun c hc => by simpa using List.filter_eq_nil_iff.1 h c hc

/-- A server that answers the first update with a conflict, the re-read with `5`, and the
second update with `7`. -/
def conflictOnce : Nat → Except ApiError Nat
  | 1 => .error .conflict
  | 2 => .ok 5
  | _ => .ok 7

example : (iModify false (fun _ d => (d + 1, true, none)) conflictOnce 0 false).calls.map
    ModifyCall.written = [none, none, none, none, some 7] := rfl

end ExternalDns
