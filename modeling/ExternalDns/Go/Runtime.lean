import Mathlib.Data.List.Basic
import Mathlib.Algebra.Group.Int
import Mathlib.Algebra.Group.Nat.Basic

/-!
# The Go runtime the handlers read

The provider state handlers of `pkg/dns/provider` are Go.  What they take from the Go runtime is
small but load-bearing: byte strings sliced by index, `strings.Trim`/`strings.Split`,
`strconv.ParseInt` (whose error value is *used* by `checkAndDeleteLock`), `time.Unix` and the
comparisons on `time.Time`.  This module models exactly those, as the Go standard library
computes them, so that the handler modules can be read against the source line by line.

## Main Definitions

* `GoString` — a Go string, one list element per byte.
* `wrapInt64` — two's-complement wrap-around of `int64` arithmetic.
* `Time` — `time.Time` as Go stores it (seconds since year 1 in an `int64`, and nanoseconds);
  `Time.unix` is `time.Unix(sec, 0)`, `Time.unixSec` is `t.Unix()`.
* `parseInt` — `strconv.ParseInt(s, 10, 64)`, value and error together; `formatInt` — `%d`.

## Design Notes

**Bytes, not characters.**  Go slices strings by byte offset (`value[len(prefix):len(value)-1]`
in `RecordSet.GetAttr`), so a Go string is a list with one element per byte.  The elements are
`Char`s so that the ASCII constants of the source (`'"'`, `'='`, `'_'`, digits) read as
themselves; nothing in the model looks at an element except to compare it with such a
constant, so every theorem over all `GoString`s holds in particular for every byte string.

**Overflow is kept.**  `time.Unix(sec, 0)` stores `sec + unixToInternal` in an `int64`, which
wraps for `sec` near `math.MaxInt64`; `t.Unix()` subtracts it again, also wrapping.  Both are
modelled with `wrapInt64`, and `Time` carries the `int64` range of its seconds as a field, so
that `Time.unix_unixSec` — the timestamp round trip the lock code relies on — is a theorem and
not an assumption.
-/

namespace ExternalDns

/-- A Go `string`: one element per byte. -/
abbrev GoString := List Char

/-- A Go runtime panic the handlers can raise. -/
inductive GoPanic where
  /-- A method called on a nil interface value. -/
  | nilDereference
  /-- A slice expression whose bounds are out of range. -/
  | sliceBounds
  /-- A type assertion on a value of another dynamic type. -/
  | typeAssertion
deriving DecidableEq, Repr

/-! ## `int64` -/

/-- The values of Go's `int64`. -/
def InInt64 (x : Int) : Prop := -2 ^ 63 ≤ x ∧ x < 2 ^ 63

instance (x : Int) : Decidable (InInt64 x) := inferInstanceAs (Decidable (_ ∧ _))

/-- Two's-complement wrap-around: the `int64` that Go's arithmetic leaves for the exact
result `x`. -/
def wrapInt64 (x : Int) : Int := (x + 2 ^ 63) % 2 ^ 64 - 2 ^ 63

theorem wrapInt64_inInt64 (x : Int) : InInt64 (wrapInt64 x) := by
  unfold InInt64 wrapInt64; omega

theorem wrapInt64_of_inInt64 {x : Int} (h : InInt64 x) : wrapInt64 x = x := by
  unfold InInt64 at h; unfold wrapInt64; omega

/-- Wrapping an intermediate result does not change the wrapped end result. -/
theorem wrapInt64_wrapInt64_add (x y : Int) :
    wrapInt64 (wrapInt64 x + y) = wrapInt64 (x + y) := by
  unfold wrapInt64; omega

/-! ## `time.Time` -/

/-- Seconds from January 1 of year 1 to the Unix epoch (Go's `unixToInternal`). -/
def unixToInternal : Int := 62135596800

/-- A `time.Time` without a monotonic reading: `sec` is Go's `t.sec()`, seconds since
January 1 of year 1 UTC in an `int64`, and `nsec` the nanoseconds within that second. -/
structure Time where
  sec : Int
  nsec : Nat
  sec_inInt64 : InInt64 sec
  nsec_lt : nsec < 10 ^ 9
deriving DecidableEq

namespace Time

/-- `time.Time{}`, the zero time. -/
def zero : Time := ⟨0, 0, by decide, by decide⟩

instance : Inhabited Time := ⟨zero⟩

/-- `time.Unix(sec, 0)`: the internal seconds are `sec + unixToInternal`, in `int64`. -/
def unix (sec : Int) : Time :=
  ⟨wrapInt64 (sec + unixToInternal), 0, wrapInt64_inInt64 _, by decide⟩

/-- `t.Unix()`: the Unix seconds of `t`, in `int64`. -/
def unixSec (t : Time) : Int := wrapInt64 (t.sec - unixToInternal)

/-- `t.Before(u)`. -/
def before (t u : Time) : Bool := t.sec < u.sec || (t.sec == u.sec && t.nsec < u.nsec)

/-- `t.After(u)`. -/
def after (t u : Time) : Bool := u.before t

/-- `t.IsZero()`. -/
def isZero (t : Time) : Bool := t.sec == 0 && t.nsec == 0

theorem ext {t u : Time} (hs : t.sec = u.sec) (hn : t.nsec = u.nsec) : t = u := by
  cases t; cases u; simp_all

theorem before_irrefl (t : Time) : t.before t = false := by simp [before]

theorem before_trans {t u w : Time} (htu : t.before u) (huw : u.before w) : t.before w := by
  simp only [before, Bool.or_eq_true, decide_eq_true_eq, Bool.and_eq_true, beq_iff_eq] at *
  omega

theorem before_total {t u : Time} (h : t ≠ u) : t.before u ∨ u.before t := by
  simp only [before, Bool.or_eq_true, decide_eq_true_eq, Bool.and_eq_true, beq_iff_eq]
  by_contra hc
  exact h (ext (by omega) (by omega))

@[simp] theorem unix_sec (s : Int) : (unix s).sec = wrapInt64 (s + unixToInternal) := rfl

@[simp] theorem unix_nsec (s : Int) : (unix s).nsec = 0 := rfl

/-- **The timestamp round trip.**  Writing `t.Unix()` and reading it back with `time.Unix`
gives `t` truncated to its second, for every representable `t`, the `int64` wrap-around of
both conversions included. -/
theorem unix_unixSec (t : Time) : unix t.unixSec = ⟨t.sec, 0, t.sec_inInt64, by decide⟩ := by
  have h : wrapInt64 (t.unixSec + unixToInternal) = t.sec := by
    rw [unixSec, wrapInt64_wrapInt64_add, Int.sub_add_cancel, wrapInt64_of_inInt64 t.sec_inInt64]
  simp only [unix, h]

/-- A time is never before its own truncation to the second. -/
theorem before_unix_unixSec (t : Time) : t.before (unix t.unixSec) = false := by
  simp [unix_unixSec, before]

@[simp] theorem isZero_zero : zero.isZero = true := rfl

/-- `t` in nanoseconds since January 1 of year 1. -/
def toNanos (t : Time) : Int := t.sec * 10 ^ 9 + t.nsec

/-- `t.Sub(u)` for times without a monotonic reading: `t - u` in nanoseconds, saturated to the
range of `time.Duration` (`minDuration` and `maxDuration`). -/
def sub (t u : Time) : Int := max (-2 ^ 63) (min (2 ^ 63 - 1) (t.toNanos - u.toNanos))

/-- Against a duration below `maxDuration`, `t.Sub(u)` compares as the exact difference. -/
theorem lt_sub_iff {t u : Time} {d : Int} (hd : InInt64 d) (hmax : d ≠ 2 ^ 63 - 1) :
    d < t.sub u ↔ d < t.toNanos - u.toNanos := by
  unfold InInt64 at hd; unfold sub; omega

/-- A time after one that is not before the zero time is not the zero time. -/
theorem isZero_eq_false_of_after {t u : Time} (hu : u.before zero = false) (h : t.after u) :
    t.isZero = false := by
  simp only [after, before, isZero, zero, Bool.or_eq_true, Bool.or_eq_false_iff,
    Bool.and_eq_true, Bool.and_eq_false_iff, decide_eq_true_eq, decide_eq_false_iff_not,
    beq_iff_eq, beq_eq_false_iff_ne] at *
  omega

end Time

/-! ## `strconv` -/

/-- The `Err` field of a `*strconv.NumError`. -/
inductive NumError where
  /-- `strconv.ErrSyntax`. -/
  | errSyntax
  /-- `strconv.ErrRange`. -/
  | errRange
deriving DecidableEq, Repr

/-- `math.MaxUint64`. -/
def maxUint64 : Nat := 2 ^ 64 - 1

/-- The digit loop of `strconv.ParseUint(s, 10, 64)` from the accumulated value `n`: a
non-digit is a syntax error with value `0`; an overflow is a range error with value
`maxUint64`, reported as soon as it happens, before the rest of the string is looked at. -/
def parseUintLoop (n : Nat) : GoString → Nat × Option NumError
  | [] => (n, none)
  | c :: cs =>
    if c.isDigit then
      if n ≥ maxUint64 / 10 + 1 then (maxUint64, some .errRange)
      else if n * 10 + (c.toNat - '0'.toNat) > maxUint64 then (maxUint64, some .errRange)
      else parseUintLoop (n * 10 + (c.toNat - '0'.toNat)) cs
    else (0, some .errSyntax)

/-- `strconv.ParseUint(s, 10, 64)`. -/
def parseUint (s : GoString) : Nat × Option NumError :=
  if s = [] then (0, some .errSyntax) else parseUintLoop 0 s

/-- `strconv.ParseInt(s, 10, 64)`: the value and the error, as Go returns both.  A range error
comes with `math.MaxInt64` or `math.MinInt64`, a syntax error with `0`. -/
def parseInt (s : GoString) : Int × Option NumError :=
  match s with
  | [] => (0, some .errSyntax)
  | c :: rest =>
    let neg := c = '-'
    let digits := if c = '+' ∨ c = '-' then rest else s
    let (un, err) := parseUint digits
    if err = some .errSyntax then (0, some .errSyntax)
    else if !neg ∧ un ≥ 2 ^ 63 then (2 ^ 63 - 1, some .errRange)
    else if neg ∧ un > 2 ^ 63 then (-2 ^ 63, some .errRange)
    else (if neg then -(un : Int) else un, none)

/-- `%d` (`strconv.FormatInt(i, 10)`): a minus sign for negative values, then the decimal
digits of the magnitude. -/
def formatInt (i : Int) : GoString :=
  if i < 0 then '-' :: Nat.toDigits 10 i.natAbs else Nat.toDigits 10 i.toNat

/-! ### The decimal round trip

`formatInt` writes the digits that `Nat.toDigits` produces; `parseInt` reads them back.  The
digit list is peeled from its last digit (`toDigits_eq_append`), which is the order in which
`parseUintLoop` accumulates. -/

/-- One step of `Nat.toDigitsCore` in base 10. -/
theorem toDigitsCore_succ (f n : Nat) (acc : List Char) :
    Nat.toDigitsCore 10 (f + 1) n acc =
      if n / 10 = 0 then Nat.digitChar (n % 10) :: acc
      else Nat.toDigitsCore 10 f (n / 10) (Nat.digitChar (n % 10) :: acc) := rfl

/-- `Nat.toDigitsCore` prepends its result to the accumulator it is given. -/
theorem toDigitsCore_acc (f n : Nat) (acc : List Char) (h : n < f) :
    Nat.toDigitsCore 10 f n acc = Nat.toDigitsCore 10 f n [] ++ acc := by
  induction f generalizing n acc with
  | zero => omega
  | succ f ih =>
    rw [toDigitsCore_succ, toDigitsCore_succ]
    split
    · rfl
    · rw [ih _ _ (by omega), ih _ [_] (by omega), List.append_assoc, List.singleton_append]

/-- Any fuel above the value gives the same digits. -/
theorem toDigitsCore_fuel (f g n : Nat) (acc : List Char) (hf : n < f) (hg : n < g) :
    Nat.toDigitsCore 10 f n acc = Nat.toDigitsCore 10 g n acc := by
  induction f generalizing g n acc with
  | zero => omega
  | succ f ih =>
    obtain ⟨g, rfl⟩ : ∃ g', g = g' + 1 := ⟨g - 1, by omega⟩
    rw [toDigitsCore_succ, toDigitsCore_succ]
    split
    · rfl
    · exact ih _ _ _ (by omega) (by omega)

/-- The decimal digits of `n`: those of `n / 10` (none when `n < 10`), then `n % 10`. -/
theorem toDigits_eq_append (n : Nat) :
    Nat.toDigits 10 n =
      (if n < 10 then [] else Nat.toDigits 10 (n / 10)) ++ [Nat.digitChar (n % 10)] := by
  show Nat.toDigitsCore 10 (n + 1) n [] = _
  rw [toDigitsCore_succ]
  split
  · rw [if_pos (by omega)]; rfl
  · rw [if_neg (by omega), toDigitsCore_acc _ _ _ (by omega),
      toDigitsCore_fuel n (n / 10 + 1) _ _ (by omega) (by omega)]
    rfl

theorem digitChar_isDigit {d : Nat} (h : d < 10) : (Nat.digitChar d).isDigit := by
  have : ∀ d : Fin 10, (Nat.digitChar d).isDigit := by decide
  exact this ⟨d, h⟩

theorem digitChar_value {d : Nat} (h : d < 10) : (Nat.digitChar d).toNat - '0'.toNat = d := by
  have : ∀ d : Fin 10, (Nat.digitChar d).toNat - '0'.toNat = d := by decide
  exact this ⟨d, h⟩

theorem isDigit_of_mem_toDigits (n : Nat) : ∀ c ∈ Nat.toDigits 10 n, c.isDigit := by
  induction n using Nat.strong_induction_on with
  | _ n ih =>
    rw [toDigits_eq_append]
    intro c hc
    rcases List.mem_append.mp hc with hc | hc
    · split at hc
      · simp at hc
      · exact ih _ (by omega) c hc
    · rw [List.mem_singleton.mp hc]
      exact digitChar_isDigit (Nat.mod_lt _ (by decide))

/-- The digit loop runs through a prefix that parses without error. -/
theorem parseUintLoop_append {n m : Nat} {xs : GoString} (ys : GoString)
    (h : parseUintLoop n xs = (m, none)) : parseUintLoop n (xs ++ ys) = parseUintLoop m ys := by
  induction xs generalizing n with
  | nil => cases h; rfl
  | cons c cs ih =>
    simp only [parseUintLoop] at h
    simp only [List.cons_append, parseUintLoop]
    split_ifs at h ⊢ <;> first | cases h | exact ih h

/-- The digits of every `uint64` value parse back to it. -/
theorem parseUintLoop_toDigits {n : Nat} (h : n ≤ maxUint64) :
    parseUintLoop 0 (Nat.toDigits 10 n) = (n, none) := by
  induction n using Nat.strong_induction_on with
  | _ n ih =>
    have hd := digitChar_value (Nat.mod_lt n (show 10 > 0 by decide))
    have hdig := digitChar_isDigit (Nat.mod_lt n (show 10 > 0 by decide))
    rw [toDigits_eq_append]
    split
    · simp only [List.nil_append, parseUintLoop, hdig, hd, if_true, maxUint64] at h ⊢
      rw [if_neg (by omega), if_neg (by omega)]
      congr 1; omega
    · rw [parseUintLoop_append _ (ih _ (by omega) (by unfold maxUint64 at h ⊢; omega))]
      simp only [parseUintLoop, hdig, hd, if_true, maxUint64] at h ⊢
      rw [if_neg (by omega), if_neg (by omega)]
      congr 1; omega

theorem toDigits_ne_nil (n : Nat) : Nat.toDigits 10 n ≠ [] := by
  rw [toDigits_eq_append]; simp

/-- **`ParseInt` reads back `%d`** for every `int64`. -/
theorem parseInt_formatInt {i : Int} (h : InInt64 i) : parseInt (formatInt i) = (i, none) := by
  unfold InInt64 at h
  obtain ⟨c, cs, hcs⟩ :=
    List.exists_cons_of_ne_nil (toDigits_ne_nil (if i < 0 then i.natAbs else i.toNat))
  have hc : c.isDigit := isDigit_of_mem_toDigits _ c (by rw [hcs]; exact List.mem_cons_self _ _)
  have hsign : c ≠ '+' ∧ c ≠ '-' := by
    constructor <;> rintro rfl <;> simp [Char.isDigit] at hc
  have hpu : ∀ n : Nat, n ≤ maxUint64 → parseUint (Nat.toDigits 10 n) = (n, none) :=
    fun n hn => by rw [parseUint, if_neg (toDigits_ne_nil n), parseUintLoop_toDigits hn]
  unfold formatInt
  split
  · rename_i hneg
    simp only [hneg, if_true] at hcs
    simp only [parseInt, if_true, or_true,
      hpu _ (show i.natAbs ≤ maxUint64 by unfold maxUint64; omega)]
    rw [if_neg (by simp), if_neg (by simp), if_neg (by simp; omega)]
    congr 1; omega
  · rename_i hneg
    simp only [hneg, if_false] at hcs
    rw [hcs]
    simp only [parseInt, hsign.1, hsign.2, or_self, if_false, ← hcs,
      hpu _ (show i.toNat ≤ maxUint64 by unfold maxUint64; omega)]
    rw [if_neg (by simp), if_neg (by simp; omega), if_neg (by simp)]
    congr 1; omega

/-! ## `strings` -/

/-- `strings.HasPrefix(s, prefix)`. -/
def hasPrefix (s pre : GoString) : Bool := pre.isPrefixOf s

/-- `strings.Trim(s, cutset)` for a one-byte cutset `c`: every leading and trailing `c` goes. -/
def trim (s : GoString) (c : Char) : GoString :=
  ((s.dropWhile (· == c)).reverse.dropWhile (· == c)).reverse

/-- `strings.Split(s, sep)` for a one-byte separator: the fields between the separators. -/
def split (s : GoString) (sep : Char) : List GoString := s.splitOn sep

end ExternalDns
