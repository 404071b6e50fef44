import ExternalDns.Go.Runtime

/-!
# Direct record sets (`pkg/dns/provider/direct`)

The lock handlers talk to a provider through the *direct* record-set vocabulary: a
`RecordSet` is a list of records, each carrying its own DNS name, type, TTL and value, and
`FromPlainRecordSet`/`ToPlainRecordset` convert to and from the plain `dns.RecordSet` (one type,
one TTL, a list of values).  Lock attributes are read off a record set with `GetAttr`, which
looks for the first value starting with `"<name>=` and slices off the prefix and the closing
quote.

## Main Definitions

* `Record`, `RecordSet` — `plainRecord` through the `Record` interface's getters.
* `DnsRecordSet` — the plain `dns.RecordSet` of `pkg/dns`.
* `fromPlainRecordSet`, `toPlainRecordset` — the two conversions.
* `getAttr` — `RecordSet.GetAttr`; `none` is the runtime panic of a slice whose bounds cross.

## Main Statements

* `plain_direct_round_trip` — the two conversions undo each other: on every non-empty plain
  set, and on every non-empty direct set whose records share name, type and TTL.
* `getAttr_eq_none_iff` — `GetAttr` panics exactly when the first value with the prefix
  `"<name>=` is that prefix and nothing more.

## Design Notes

`dns.RecordSet` and `dns.NewRecordSet` are declared in `pkg/dns`, which is not part of the
source; only the fields the conversions touch (`Type`, `TTL`, `Records[i].Value`) are kept.
Go's `int` is 64 bits wide, so the `int64 → int → int64` conversions of the TTL are the
identity and the TTL is an `Int` throughout.
-/

namespace ExternalDns

/-- A record of a direct record set, as its `Record` interface reads it (`plainRecord`). -/
structure Record where
  dnsName : GoString
  type : GoString
  ttl : Int
  value : GoString
deriving DecidableEq, Repr

/-- `direct.RecordSet`. -/
abbrev RecordSet := List Record

/-- The plain `dns.RecordSet`: one type and one TTL for all record values. -/
structure DnsRecordSet where
  type : GoString
  ttl : Int
  records : List GoString
deriving DecidableEq, Repr

/-- `FromPlainRecordSet(dnsName, rs)`: one direct record per value, each with the set's type
and TTL. -/
def fromPlainRecordSet (dnsName : GoString) (rs : DnsRecordSet) : RecordSet :=
  rs.records.map fun value => ⟨dnsName, rs.type, rs.ttl, value⟩

/-- `ToPlainRecordset(rawrs)`: name, type and TTL of the first record, and every value;
`("", nil)` for an empty set. -/
def toPlainRecordset : RecordSet → GoString × Option DnsRecordSet
  | [] => ([], none)
  | r :: rs => (r.dnsName, some ⟨r.type, r.ttl, (r :: rs).map (·.value)⟩)

/-- `newAttrKeyPrefix(name)`: `"<name>=`. -/
def newAttrKeyPrefix (name : GoString) : GoString := '"' :: name ++ ['=']

/-- The Go slice expression `s[low:high]`; `none` is the runtime panic when the bounds do not
satisfy `0 ≤ low ≤ high ≤ len(s)`. -/
def slice (s : GoString) (low high : Int) : Option GoString :=
  if 0 ≤ low ∧ low ≤ high ∧ high ≤ s.length then some ((s.take high.toNat).drop low.toNat)
  else none

/-- `rs.GetAttr(name)`: the value of the first record starting with `"<name>=`, without that
prefix and without its last byte; `""` when no record has the prefix. -/
def getAttr (rs : RecordSet) (name : GoString) : Option GoString :=
  match rs with
  | [] => some []
  | r :: rs =>
    if hasPrefix r.value (newAttrKeyPrefix name) then
      slice r.value (newAttrKeyPrefix name).length (r.value.length - 1)
    else getAttr rs name

@[simp] theorem getAttr_nil (name : GoString) : getAttr [] name = some [] := rfl

/-- A TXT value as the lock code stores it: the text between double quotes. -/
def quote (s : GoString) : GoString := '"' :: s ++ ['"']

theorem quote_injective : Function.Injective quote := by
  intro a b h
  simpa [quote] using h

/-- `"<name>=v"` has the prefix `"<name>=`. -/
theorem hasPrefix_quote_attr (name v : GoString) :
    hasPrefix (quote (name ++ '=' :: v)) (newAttrKeyPrefix name) := by
  simp [hasPrefix, quote, newAttrKeyPrefix, List.isPrefixOf_iff_prefix]

/-- Slicing `"<name>=v"` after the prefix and before the closing quote gives `v`. -/
theorem slice_quote_attr (name v : GoString) :
    slice (quote (name ++ '=' :: v)) (newAttrKeyPrefix name).length
      ((quote (name ++ '=' :: v)).length - 1) = some v := by
  have hq : quote (name ++ '=' :: v) = newAttrKeyPrefix name ++ v ++ ['"'] := by
    simp [quote, newAttrKeyPrefix]
  have hhigh : (((newAttrKeyPrefix name ++ v ++ ['"']).length : Int) - 1).toNat =
      (newAttrKeyPrefix name ++ v).length := by simp; omega
  rw [hq, slice, if_pos (by simp; omega), hhigh, List.take_left, Int.toNat_ofNat, List.drop_left]

/-- **What `GetAttr` reads off a quoted attribute.**  If the first record with the prefix
`"<name>=` holds `"<name>=v"`, `GetAttr` returns `v`. -/
theorem getAttr_eq_of_first {rs : RecordSet} {name v : GoString} {pre : RecordSet} {r : Record}
    {post : RecordSet} (hrs : rs = pre ++ r :: post)
    (hpre : ∀ q ∈ pre, hasPrefix q.value (newAttrKeyPrefix name) = false)
    (hr : r.value = quote (name ++ '=' :: v)) : getAttr rs name = some v := by
  subst hrs
  induction pre with
  | nil => simp [getAttr, hr, hasPrefix_quote_attr, slice_quote_attr]
  | cons q pre ih =>
    simp only [List.cons_append, getAttr, hpre q (List.mem_cons_self _ _), Bool.false_eq_true,
      if_false]
    exact ih fun q' hq' => hpre q' (List.mem_cons_of_mem _ hq')

/-! ## The round trip of the conversions -/

theorem toPlainRecordset_fromPlainRecordSet (dnsName : GoString) {rs : DnsRecordSet}
    (h : rs.records ≠ []) :
    toPlainRecordset (fromPlainRecordSet dnsName rs) = (dnsName, some rs) := by
  obtain ⟨type, ttl, _ | ⟨v, vs⟩⟩ := rs
  · exact absurd rfl h
  · simp [fromPlainRecordSet, toPlainRecordset, Function.comp_def]

/-- `ToPlainRecordset` keeps the first record's name, type and TTL, which on a uniform set are
every record's. -/
theorem fromPlainRecordSet_toPlainRecordset {rs : RecordSet} (h : rs ≠ [])
    (huni : ∀ r ∈ rs, ∀ q ∈ rs,
      r.dnsName = q.dnsName ∧ r.type = q.type ∧ r.ttl = q.ttl) :
    (toPlainRecordset rs).2.map (fromPlainRecordSet (toPlainRecordset rs).1) = some rs := by
  obtain ⟨r0, rest, rfl⟩ := List.exists_cons_of_ne_nil h
  simp only [toPlainRecordset, Option.map_some', fromPlainRecordSet, List.map_map,
    Option.some.injEq]
  conv_rhs => rw [← List.map_id (r0 :: rest)]
  refine List.map_congr_left fun r hr => ?_
  obtain ⟨hname, htype, httl⟩ := huni r hr r0 (List.mem_cons_self _ _)
  rw [← hname, ← htype, ← httl]
  rfl

/-- **The plain and direct record sets convert back and forth without loss.**  For every DNS
name and every plain set with a record, `ToPlainRecordset(FromPlainRecordSet(d, rs))` returns
`d` and the same type, TTL and values in order; for every non-empty direct set whose records
share DNS name, type and TTL, `FromPlainRecordSet` of what `ToPlainRecordset` returns gives
back the same records in order. -/
theorem plain_direct_round_trip :
    (∀ (dnsName : GoString) (rs : DnsRecordSet), rs.records ≠ [] →
      toPlainRecordset (fromPlainRecordSet dnsName rs) = (dnsName, some rs)) ∧
    ∀ rs : RecordSet, rs ≠ [] →
      (∀ r ∈ rs, ∀ q ∈ rs, r.dnsName = q.dnsName ∧ r.type = q.type ∧ r.ttl = q.ttl) →
      (toPlainRecordset rs).2.map (fromPlainRecordSet (toPlainRecordset rs).1) = some rs :=
  ⟨fun dnsName _ h => toPlainRecordset_fromPlainRecordSet dnsName h,
    fun _ h huni => fromPlainRecordSet_toPlainRecordset h huni⟩

/-- Two TXT values of `n` at TTL 60. -/
def sampleTxtSet : RecordSet :=
  [⟨"n".toList, "TXT".toList, 60, "\"a=1\"".toList⟩,
    ⟨"n".toList, "TXT".toList, 60, "\"b=2\"".toList⟩]

theorem plain_direct_round_trip_txt :
    toPlainRecordset (fromPlainRecordSet "n".toList ⟨"TXT".toList, 60, ["\"a=1\"".toList]⟩) =
        ("n".toList, some ⟨"TXT".toList, 60, ["\"a=1\"".toList]⟩) ∧
      (toPlainRecordset sampleTxtSet).2.map
          (fromPlainRecordSet (toPlainRecordset sampleTxtSet).1) = some sampleTxtSet :=
  ⟨plain_direct_round_trip.1 _ _ (by decide),
    plain_direct_round_trip.2 _ (by decide) (by decide)⟩

/-! ## When `GetAttr` panics -/

/-- The slice of line 140 on a value with the prefix fails exactly when the value is the
prefix: then `len(value)-1` is below `len(prefix)`. -/
theorem slice_prefix_eq_none_iff {v p : GoString} (h : hasPrefix v p = true) :
    slice v p.length (v.length - 1) = none ↔ v = p := by
  have hp : p <+: v := by simpa [hasPrefix, List.isPrefixOf_iff_prefix] using h
  have hle := hp.length_le
  unfold slice
  constructor
  · intro hs
    have : ¬ ((p.length : Int) ≤ v.length - 1) := fun hl => by
      rw [if_pos ⟨by omega, hl, by omega⟩] at hs; cases hs
    exact (hp.eq_of_length (by omega)).symm
  · rintro rfl
    rw [if_neg (by omega)]

/-- **`GetAttr` panics exactly on a bare prefix**: when the first record whose value starts
with `"<name>=` has that prefix as its whole value. -/
theorem getAttr_eq_none_iff (rs : RecordSet) (name : GoString) :
    getAttr rs name = none ↔ ∃ pre r post, rs = pre ++ r :: post ∧
      (∀ q ∈ pre, hasPrefix q.value (newAttrKeyPrefix name) = false) ∧
      r.value = newAttrKeyPrefix name := by
  induction rs with
  | nil => simp
  | cons r rs ih =>
    by_cases hr : hasPrefix r.value (newAttrKeyPrefix name) = true
    · rw [getAttr, if_pos hr, slice_prefix_eq_none_iff hr]
      constructor
      · intro h; exact ⟨[], r, rs, rfl, by simp, h⟩
      · rintro ⟨_ | ⟨q, pre⟩, r', post, hrs, hpre, hv⟩ <;> cases hrs
        · exact hv
        · exact absurd (hpre r (List.mem_cons_self _ _)) (by simp [hr])
    · rw [getAttr, if_neg hr, ih]
      constructor
      · rintro ⟨pre, r', post, rfl, hpre, hv⟩
        exact ⟨r :: pre, r', post, rfl, by simpa [hr] using hpre, hv⟩
      · rintro ⟨_ | ⟨q, pre⟩, r', post, hrs, hpre, hv⟩ <;> cases hrs
        · exact absurd (by rw [hv]; simp [hasPrefix]) hr
        · exact ⟨pre, r', post, rfl, fun q' hq' => hpre q' (List.mem_cons_of_mem _ hq'), hv⟩

end ExternalDns
