import ExternalDns.Lock.Records

/-!
# Reading a lock back from DNS (`UpdateLockStates`, lines 668-693)

`UpdateLockStates` looks up the TXT strings of every lock's DNS name and decodes them with a
loop of its own: each string is trimmed of quotes and split at every `=`; a string that does not
split into exactly two fields becomes the value of a synthetic key `_<n>`; the field named like
the timestamp attribute is parsed as Unix seconds (a string that does not parse is skipped), and
every other field is stored under its key.

The loop inverts the encoding of `checkAndUpdateLock` only on a part of it.  The texts it must
read are `<k>=<v>` with one `=`: a value with an `=` of its own (the padding of a base64 value)
splits into three fields and is lost under a synthetic key; and an attribute named like the
lock-id attribute competes with the lock id for one key, so the later string wins.

## Main Definitions

* `TxtParse`, `TxtParse.put`, `parseTxtStep`, `parseTxt` — the loop and its state.
* `txtPair`, `PairRecord` — a string that splits into one key and one value.

## Main Statements

* `foldl_parseTxtStep` — on strings that split into two fields the loop is a sequence of
  `put`s, one per key.
* `TxtParse.putAll_of_mem` — with pairwise distinct keys, the one `put` of a key decides what
  the loop reads for it, whatever the order.
* `parseTxt_decodes_lock_texts` — the loop reads back the timestamp, the lock id and every
  attribute of a lock's texts, quoted or not and in any order.
-/

namespace ExternalDns

/-! ## Quotes -/

/-- A string that neither starts nor ends with `"`, so that `strings.Trim(r, "\"")` keeps it. -/
def Unquoted (s : GoString) : Prop := s.head? ≠ some '"' ∧ s.getLast? ≠ some '"'

instance : DecidablePred Unquoted := fun _ => instDecidableAnd

theorem dropWhile_quote_of_head {s : GoString} (h : s.head? ≠ some '"') :
    s.dropWhile (· == '"') = s := by
  cases s with
  | nil => rfl
  | cons x xs =>
    have : x ≠ '"' := fun hx => h (by simp [hx])
    simp [List.dropWhile_cons, this]

theorem trim_unquoted {s : GoString} (h : Unquoted s) : trim s '"' = s := by
  unfold trim
  rw [dropWhile_quote_of_head h.1, dropWhile_quote_of_head (by rw [List.head?_reverse]; exact h.2),
    List.reverse_reverse]

/-- Trimming undoes the quotes `checkAndUpdateLock` puts around a text. -/
theorem trim_quote {s : GoString} (h : Unquoted s) : trim (quote s) '"' = s := by
  cases s with
  | nil => rfl
  | cons x xs =>
    have hd : ((x :: xs) ++ ['"']).head? ≠ some '"' := by simpa using h.1
    have hl : (x :: xs).reverse.head? ≠ some '"' := by rw [List.head?_reverse]; exact h.2
    unfold trim quote
    rw [List.cons_append, List.dropWhile_cons_of_pos (by simp), dropWhile_quote_of_head hd,
      List.reverse_append, List.reverse_singleton, List.singleton_append,
      List.dropWhile_cons_of_pos (by simp), dropWhile_quote_of_head hl, List.reverse_reverse]

/-- `strings.Split` of `<k>=<v>` at `=` gives the two fields when neither holds an `=`. -/
theorem split_pair {k v : GoString} (hk : '=' ∉ k) (hv : '=' ∉ v) :
    split (k ++ '=' :: v) '=' = [k, v] := by
  have h : (['='].intercalate [k, v]).splitOn '=' = [k, v] :=
    List.splitOn_intercalate [k, v] '=' (by simp [hk, hv]) (by simp)
  simpa [List.intercalate] using h

/-! ## The loop -/

/-- The synthetic key `fmt.Sprintf("_%d", unnamed)` of line 682. -/
def unnamedKey (n : Nat) : GoString := '_' :: formatInt n

/-- The variables of the loop: `ts`, `attrs` and the count `unnamed` of strings without a key. -/
structure TxtParse where
  ts : Time
  attrs : GoString → Option GoString
  unnamed : Nat

/-- Lines 679-684: the key and value of a trimmed string, and the new `unnamed`. -/
def txtFields (unnamed : Nat) (r : GoString) : GoString × GoString × Nat :=
  match split r '=' with
  | [k, v] => (k, v, unnamed)
  | _ => (unnamedKey unnamed, r, unnamed + 1)

/-- Lines 685-692: the timestamp field sets `ts` when its value parses and is skipped
otherwise; every other field is stored under its key. -/
def TxtParse.put (st : TxtParse) (key value : GoString) : TxtParse :=
  if key = attrTimestamp then
    match parseInt value with
    | (i, none) => { st with ts := Time.unix i }
    | (_, some _) => st
  else { st with attrs := Function.update st.attrs key (some value) }

/-- One pass of the loop of lines 677-693 over the string `r`. -/
def parseTxtStep (st : TxtParse) (r : GoString) : TxtParse :=
  let f := txtFields st.unnamed (trim r '"')
  { st with unnamed := f.2.2 }.put f.1 f.2.1

/-- The loop of lines 677-693 from `ts = time.Time{}`, an empty `attrs` and `unnamed = 0`. -/
def parseTxt (records : List GoString) : TxtParse :=
  records.foldl parseTxtStep ⟨Time.zero, fun _ => none, 0⟩

/-! ## Strings with one key and one value -/

/-- The key and value the loop reads from a string that splits into two fields. -/
def txtPair (r : GoString) : GoString × GoString :=
  ((txtFields 0 (trim r '"')).1, (txtFields 0 (trim r '"')).2.1)

/-- A string that is `<k>=<v>` with no further `=` once its quotes are trimmed. -/
def PairRecord (r : GoString) : Prop :=
  ∃ k v, trim r '"' = k ++ '=' :: v ∧ '=' ∉ k ∧ '=' ∉ v

theorem parseTxtStep_pair {r : GoString} (h : PairRecord r) (st : TxtParse) :
    parseTxtStep st r = st.put (txtPair r).1 (txtPair r).2 := by
  obtain ⟨k, v, hr, hk, hv⟩ := h
  simp only [parseTxtStep, txtPair, txtFields, hr, split_pair hk hv]

/-- `put` every pair of `P`, in order. -/
def TxtParse.putAll (st : TxtParse) (P : List (GoString × GoString)) : TxtParse :=
  P.foldl (fun st kv => st.put kv.1 kv.2) st

/-- On strings that split into two fields, the loop is `putAll` of their pairs. -/
theorem foldl_parseTxtStep {records : List GoString} (h : ∀ r ∈ records, PairRecord r)
    (st : TxtParse) : records.foldl parseTxtStep st = st.putAll (records.map txtPair) := by
  induction records generalizing st with
  | nil => rfl
  | cons r rs ih =>
    rw [List.foldl_cons, parseTxtStep_pair (h r (List.mem_cons_self _ _)),
      ih (fun r' hr' => h r' (List.mem_cons_of_mem _ hr'))]
    rfl

/-! ## What one key receives -/

theorem TxtParse.put_attrs (st : TxtParse) (key value k : GoString) :
    (st.put key value).attrs k =
      if key = attrTimestamp then st.attrs k else Function.update st.attrs key (some value) k := by
  unfold TxtParse.put
  split_ifs
  · split <;> rfl
  · rfl

theorem TxtParse.put_ts_of_ne (st : TxtParse) {key : GoString} (value : GoString)
    (h : key ≠ attrTimestamp) : (st.put key value).ts = st.ts := by
  simp [TxtParse.put, h]

/-- A property that every pair of `P` keeps holds after `putAll`. -/
theorem TxtParse.putAll_preserves {Q : TxtParse → Prop} :
    ∀ {P : List (GoString × GoString)} {st : TxtParse},
      (∀ st, ∀ kv ∈ P, Q st → Q (st.put kv.1 kv.2)) → Q st → Q (st.putAll P)
  | [], _, _, hst => hst
  | kv :: P, st, hQ, hst =>
    putAll_preserves (P := P) (fun st' kv' h => hQ st' kv' (List.mem_cons_of_mem _ h))
      (hQ st kv (List.mem_cons_self _ _) hst)

/-- **The one `put` of a key decides it.**  When the keys of `P` are pairwise distinct,
`(k, v) ∈ P`, `Q` holds after any `put k v` and `put` of every other key keeps `Q`, then `Q`
holds after `putAll P`, in whichever order `P` lists its pairs. -/
theorem TxtParse.putAll_of_mem {Q : TxtParse → Prop} {k v : GoString}
    (hput : ∀ st : TxtParse, Q (st.put k v))
    (hkeep : ∀ (st : TxtParse) (k' v' : GoString), k' ≠ k → Q st → Q (st.put k' v')) :
    ∀ {P : List (GoString × GoString)} (st : TxtParse), (P.map Prod.fst).Nodup →
      (k, v) ∈ P → Q (st.putAll P)
  | [], _, _, hmem => absurd hmem (List.not_mem_nil _)
  | kv :: P, st, hnd, hmem => by
    rw [List.map_cons, List.nodup_cons] at hnd
    rcases List.mem_cons.1 hmem with rfl | hmem
    · show Q ((st.put k v).putAll P)
      exact putAll_preserves (fun st' kv' hkv' => hkeep st' kv'.1 kv'.2
        fun h => hnd.1 (by simpa [h] using List.mem_map_of_mem Prod.fst hkv')) (hput st)
    · exact putAll_of_mem hput hkeep (st.put kv.1 kv.2) hnd.2 hmem

theorem TxtParse.putAll_attrs_of_mem {P : List (GoString × GoString)} (st : TxtParse)
    (hnd : (P.map Prod.fst).Nodup) {k v : GoString} (hkv : (k, v) ∈ P)
    (hk : k ≠ attrTimestamp) :
    (st.putAll P).attrs k = some v :=
  putAll_of_mem (Q := fun st => st.attrs k = some v) (fun st => by simp [put_attrs, hk])
    (fun st k' v' hne h => by simp [put_attrs, Function.update_noteq (Ne.symm hne), h]) st hnd hkv

theorem TxtParse.putAll_ts_of_mem {P : List (GoString × GoString)} (st : TxtParse)
    (hnd : (P.map Prod.fst).Nodup) {v : GoString} {i : Int} (hkv : (attrTimestamp, v) ∈ P)
    (hi : parseInt v = (i, none)) : (st.putAll P).ts = Time.unix i :=
  putAll_of_mem (Q := fun st => st.ts = Time.unix i) (fun st => by simp [put, hi])
    (fun st _ v' hne h => (put_ts_of_ne st v' hne).trans h) st hnd hkv

/-- A key no pair of `P` has keeps its value; so does the timestamp key, which never enters
`attrs`. -/
theorem TxtParse.putAll_attrs_of_not_mem {P : List (GoString × GoString)} (st : TxtParse)
    {k : GoString} (hk : k ∉ P.map Prod.fst ∨ k = attrTimestamp) :
    (st.putAll P).attrs k = st.attrs k :=
  putAll_preserves (Q := fun st' => st'.attrs k = st.attrs k) (fun st' kv hkv h => by
    show (st'.put kv.1 kv.2).attrs k = st.attrs k
    rw [put_attrs]
    split_ifs with hts
    · exact h
    · rw [Function.update_noteq, h]
      rintro rfl
      exact hk.elim (fun hk => hk (List.mem_map_of_mem _ hkv)) hts) rfl

/-! ## The texts of a lock -/

/-- `formatInt` writes a sign and digits only. -/
theorem mem_formatInt {i : Int} {c : Char} (h : c ∈ formatInt i) : c = '-' ∨ c.isDigit := by
  unfold formatInt at h
  split at h
  · rcases List.mem_cons.1 h with rfl | h
    · exact .inl rfl
    · exact .inr (isDigit_of_mem_toDigits _ c h)
  · exact .inr (isDigit_of_mem_toDigits _ c h)

theorem unquoted_attrText {k v : GoString} (hk : '"' ∉ k) (hv : v.getLast? ≠ some '"') :
    Unquoted (attrText (k, v)) := by
  constructor
  · cases k with
    | nil => simp [attrText]
    | cons c cs =>
      simp only [attrText, List.cons_append, List.head?_cons, ne_eq, Option.some.injEq]
      rintro rfl
      exact hk (List.mem_cons_self _ _)
  · rw [attrText, List.getLast?_append, List.getLast?_cons]
    cases hl : v.getLast? <;> simp_all

/-- An attribute whose text the loop splits back into its key and value. -/
def GoodAttr (a : GoString × GoString) : Prop :=
  '=' ∉ a.1 ∧ '=' ∉ a.2 ∧ Unquoted (attrText a)

/-- A text of a good attribute, quoted or not, is read back as that attribute. -/
theorem txtPair_of_attrText {a : GoString × GoString} (ha : GoodAttr a) {r : GoString}
    (hr : r = attrText a ∨ r = quote (attrText a)) : PairRecord r ∧ txtPair r = a := by
  have htrim : trim r '"' = a.1 ++ '=' :: a.2 := by
    rcases hr with rfl | rfl
    · exact trim_unquoted ha.2.2
    · exact trim_quote ha.2.2
  exact ⟨⟨a.1, a.2, htrim, ha.1, ha.2.1⟩,
    by simp [txtPair, txtFields, htrim, split_pair ha.1 ha.2.1]⟩

/-- Strings that are texts of good attributes, each quoted or not, split into those
attributes. -/
theorem pairs_of_forall₂ {records texts : List GoString}
    (h : List.Forall₂ (fun r s => r = s ∨ r = quote s) records texts)
    (hs : ∀ s ∈ texts, ∃ a, GoodAttr a ∧ s = attrText a) :
    (∀ r ∈ records, PairRecord r) ∧ records.map txtPair = texts.map txtPair := by
  induction h with
  | nil => simp
  | @cons r s rs ss hrs _ ih =>
    obtain ⟨a, ha, rfl⟩ := hs s (List.mem_cons_self _ _)
    obtain ⟨ih1, ih2⟩ := ih fun s' hs' => hs s' (List.mem_cons_of_mem _ hs')
    obtain ⟨hpr, hpa⟩ := txtPair_of_attrText ha hrs
    refine ⟨List.forall_mem_cons.2 ⟨hpr, ih1⟩, ?_⟩
    simp only [List.map_cons, hpa, ih2, (txtPair_of_attrText ha (.inl rfl)).2]

/-- The conditions on the lock id and the attributes under which every text of a lock is the
text of a good attribute. -/
theorem goodAttr_lockAttrs {id : GoString} {t : Int} {A : List (GoString × GoString)}
    (hid : '=' ∉ id ∧ Unquoted id)
    (hA : ∀ a ∈ A, ('=' ∉ a.1 ∧ '"' ∉ a.1) ∧ '=' ∉ a.2 ∧ Unquoted a.2) :
    ∀ a ∈ lockAttrs id t A, GoodAttr a := by
  have hsecs : ∀ c ∈ formatInt t, c ≠ '=' ∧ c ≠ '"' := fun c hc => by
    rcases mem_formatInt hc with rfl | hd
    · decide
    · constructor <;> rintro rfl <;> exact absurd hd (by decide)
  intro a ha
  simp only [lockAttrs, List.mem_cons] at ha
  rcases ha with rfl | rfl | ha
  · exact ⟨show '=' ∉ attrLockId by decide, hid.1, unquoted_attrText (by decide) hid.2.2⟩
  · exact ⟨show '=' ∉ attrTimestamp by decide, fun h => (hsecs _ h).1 rfl,
      unquoted_attrText (by decide) fun h => (hsecs _ (List.mem_of_getLast?_eq_some h)).2 rfl⟩
  · exact ⟨(hA a ha).1.1, (hA a ha).2.1, unquoted_attrText (hA a ha).1.2 (hA a ha).2.2.2⟩

/-- The keys of a lock's attributes are pairwise distinct when those of its own are and none is
named like the lock-id or the timestamp attribute. -/
theorem lockAttrs_keys_nodup {id : GoString} {t : Int} {A : List (GoString × GoString)}
    (hkeys : (A.map Prod.fst).Nodup)
    (hA : ∀ a ∈ A, a.1 ≠ attrTimestamp ∧ a.1 ≠ attrLockId) :
    ((lockAttrs id t A).map Prod.fst).Nodup := by
  have hAkeys : ∀ k ∈ A.map Prod.fst, k ≠ attrTimestamp ∧ k ≠ attrLockId := by
    simp only [List.mem_map]
    rintro _ ⟨a, ha, rfl⟩
    exact hA a ha
  simp only [lockAttrs, List.map_cons, List.nodup_cons, List.mem_cons, not_or]
  exact ⟨⟨by decide, fun h => (hAkeys _ h).2 rfl⟩, fun h => (hAkeys _ h).1 rfl, hkeys⟩

/-- Strings that are the texts of good attributes `L`, permuted and each quoted or not, split
into a permutation of `L`. -/
theorem txtPairs_perm {L : List (GoString × GoString)} (hgood : ∀ a ∈ L, GoodAttr a)
    {texts records : List GoString} (hperm : texts.Perm (L.map attrText))
    (hrec : List.Forall₂ (fun r s => r = s ∨ r = quote s) records texts) :
    (∀ r ∈ records, PairRecord r) ∧ (records.map txtPair).Perm L := by
  obtain ⟨hpair, hmap⟩ := pairs_of_forall₂ hrec fun s hs => by
    obtain ⟨a, ha, rfl⟩ := List.mem_map.1 (hperm.mem_iff.1 hs)
    exact ⟨a, hgood a ha, rfl⟩
  have hround : (L.map attrText).map txtPair = L := by
    rw [List.map_map]
    exact (List.map_congr_left fun a ha => (txtPair_of_attrText (hgood a ha) (.inl rfl)).2).trans
      (List.map_id _)
  exact ⟨hpair, hmap ▸ hround ▸ hperm.map txtPair⟩

/-- **The refresh loop decodes a lock's texts.**  For every lock id `id` and `int64` timestamp
`t` without an `=`, and every attribute map `A` (pairwise distinct keys) whose keys hold no `=`
and no `"` and differ from the timestamp and the lock-id attribute and whose values hold no `=`:
when the strings looked up are the texts `lockid=<id>`, `timestamp=<t>` and `<k>=<v>`, in any
order and each with or without its quotes, the loop of lines 677-693 ends with
`ts = time.Unix(t, 0)` and `attrs` the map `A` plus `lockid ↦ id`. -/
theorem parseTxt_decodes_lock_texts {id : GoString} {t : Int} {A : List (GoString × GoString)}
    (ht : InInt64 t) (hid : '=' ∉ id ∧ Unquoted id) (hkeys : (A.map Prod.fst).Nodup)
    (hA : ∀ a ∈ A,
      ('=' ∉ a.1 ∧ '"' ∉ a.1 ∧ a.1 ≠ attrTimestamp ∧ a.1 ≠ attrLockId) ∧
        '=' ∉ a.2 ∧ Unquoted a.2)
    {texts records : List GoString} (hperm : texts.Perm ((lockAttrs id t A).map attrText))
    (hrec : List.Forall₂ (fun r s => r = s ∨ r = quote s) records texts) :
    (parseTxt records).ts = Time.unix t ∧
      ∀ k, (parseTxt records).attrs k = if k = attrLockId then some id else A.lookup k := by
  obtain ⟨hpair, hP⟩ := txtPairs_perm (goodAttr_lockAttrs hid fun a ha =>
    ⟨⟨(hA a ha).1.1, (hA a ha).1.2.1⟩, (hA a ha).2⟩) hperm hrec
  have hnd : ((records.map txtPair).map Prod.fst).Nodup :=
    (hP.map Prod.fst).nodup_iff.2 (lockAttrs_keys_nodup hkeys fun a ha => (hA a ha).1.2.2)
  rw [parseTxt, foldl_parseTxtStep hpair]
  refine ⟨TxtParse.putAll_ts_of_mem _ hnd (hP.mem_iff.2 (by simp [lockAttrs]))
    (parseInt_formatInt ht), fun k => ?_⟩
  split_ifs with hk
  · subst hk
    exact TxtParse.putAll_attrs_of_mem _ hnd (hP.mem_iff.2 (by simp [lockAttrs])) (by decide)
  · cases hl : A.lookup k with
    | some v =>
      obtain ⟨l₁, l₂, rfl, -⟩ := List.lookup_eq_some_iff.1 hl
      have hmem : (k, v) ∈ l₁ ++ (k, v) :: l₂ := by simp
      exact TxtParse.putAll_attrs_of_mem _ hnd (hP.mem_iff.2 (by simp [lockAttrs, hmem]))
        (hA _ hmem).1.2.2.1
    | none =>
      refine TxtParse.putAll_attrs_of_not_mem _ ?_
      by_cases hts : k = attrTimestamp
      · exact .inr hts
      · refine .inl fun h => ?_
        simp only [(hP.map Prod.fst).mem_iff, lockAttrs, List.map_cons, List.mem_cons, hk, hts,
          false_or, List.mem_map] at h
        obtain ⟨a, ha, rfl⟩ := h
        simpa using List.lookup_eq_none_iff.1 hl a ha

/-- The lock `L` at the epoch with one attribute `owner=x`. -/
def ownerAttrs : List (GoString × GoString) := [("owner".toList, "x".toList)]

/-- The texts of that lock as a lookup may return them: quoted, in reverse order. -/
def ownerRecords : List GoString :=
  (((lockAttrs "L".toList 0 ownerAttrs).map attrText).reverse).map quote

theorem parseTxt_decodes_lock_texts_reversed :
    (parseTxt ownerRecords).ts = Time.unix 0 ∧
      ∀ k, (parseTxt ownerRecords).attrs k =
        if k = attrLockId then some "L".toList else ownerAttrs.lookup k :=
  parseTxt_decodes_lock_texts (by decide) (by decide) (by decide) (by decide)
    (List.reverse_perm _) (by decide)

/-- The conditions of the refresh law on an attribute key: non-empty, no `=` and no `"`, not the
timestamp attribute and not a synthetic key. -/
def RefreshKey (k : GoString) : Prop :=
  k ≠ [] ∧ '=' ∉ k ∧ '"' ∉ k ∧ k ≠ attrTimestamp ∧ ∀ n, k ≠ unnamedKey n

theorem refreshKey_of_head {k : GoString} {c : Char} (hc : k.head? = some c) (hu : c ≠ '_')
    (h : '=' ∉ k ∧ '"' ∉ k ∧ k ≠ attrTimestamp) : RefreshKey k :=
  ⟨fun h0 => by simp [h0] at hc, h.1, h.2.1, h.2.2,
    fun n hn => hu (by simpa [hn, unnamedKey] using hc.symm)⟩

set_option maxRecDepth 4000 in
/-- Without the added conditions the loop misreads a lock: a value with an `=` of its own splits
into three fields and is stored under `_0`, and an attribute named `lockid` overwrites the lock
id when its text comes last. -/
theorem lock_texts_misread :
    (¬ ∀ (id : GoString) (t : Int) (A : List (GoString × GoString))
        (texts records : List GoString),
        InInt64 t → '=' ∉ id → Unquoted id → (A.map Prod.fst).Nodup →
        (∀ a ∈ A, RefreshKey a.1 ∧ a.1 ≠ attrLockId ∧ Unquoted a.2) →
        texts.Perm ((lockAttrs id t A).map attrText) →
        List.Forall₂ (fun r s => r = s ∨ r = quote s) records texts →
        (parseTxt records).ts = Time.unix t ∧
          ∀ k, (parseTxt records).attrs k = if k = attrLockId then some id else A.lookup k) ∧
    ¬ ∀ (id : GoString) (t : Int) (A : List (GoString × GoString))
        (texts records : List GoString),
        InInt64 t → '=' ∉ id → Unquoted id → (A.map Prod.fst).Nodup →
        (∀ a ∈ A, RefreshKey a.1 ∧ '=' ∉ a.2 ∧ Unquoted a.2) →
        texts.Perm ((lockAttrs id t A).map attrText) →
        List.Forall₂ (fun r s => r = s ∨ r = quote s) records texts →
        (parseTxt records).ts = Time.unix t ∧
          ∀ k, (parseTxt records).attrs k = if k = attrLockId then some id else A.lookup k := by
  constructor
  · intro h
    have hA : ∀ a ∈ [("a".toList, "x=".toList)],
        RefreshKey a.1 ∧ a.1 ≠ attrLockId ∧ Unquoted a.2 := by
      simp only [List.mem_singleton, forall_eq]
      exact ⟨refreshKey_of_head rfl (by decide) (by decide), by decide, by decide⟩
    have := (h "L".toList 0 _ _
      ((lockAttrs "L".toList 0 [("a".toList, "x=".toList)]).map attrText) (by decide) (by decide)
      (by decide) (by decide) hA (List.Perm.refl _) (by decide)).2 "a".toList
    exact absurd this (by decide)
  · intro h
    have hA : ∀ a ∈ [("lockid".toList, "x".toList)],
        RefreshKey a.1 ∧ '=' ∉ a.2 ∧ Unquoted a.2 := by
      simp only [List.mem_singleton, forall_eq]
      exact ⟨refreshKey_of_head rfl (by decide) (by decide), by decide, by decide⟩
    have := (h "L".toList 0 _ _
      ((lockAttrs "L".toList 0 [("lockid".toList, "x".toList)]).map attrText) (by decide)
      (by decide) (by decide) (by decide) hA (List.Perm.refl _) (by decide)).2 attrLockId
    exact absurd this (by decide)

end ExternalDns
