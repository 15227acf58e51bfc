import FilterQuery.Bson.Encoder
import FilterQuery.Proofs.Calendar.Elapsed

/-!
# What encoding keeps of a value

In the store, a date is the start of its day and an instant is the millisecond it lies in, so that
dates and instants outside leap seconds keep their order.  Apart from that only the types of small
integers are lost: `Value.SameInStore` relates the values that become the same.
-/

namespace FilterQuery

open Calendar

/-! ### Points in time -/

namespace Bson

/-- Whether two values of the store are points in time, the first before the second. -/
def IsEarlier : Bson → Bson → Prop
  | .dateTime m, .dateTime n => m < n
  | _, _ => False

/-- Whether two values of the store are points in time, the first not after the second. -/
def IsNotLater : Bson → Bson → Prop
  | .dateTime m, .dateTime n => m ≤ n
  | _, _ => False

end Bson

/-- A date becomes as many days of 86400000 milliseconds as there are from 1970-01-01 to it, so that
an earlier date becomes an earlier point in time.  An instant outside leap seconds becomes the whole
milliseconds from the start of 1970 to it, so that it is not after the point in time of a later
instant, and a date is not after it exactly when the date is not after its own.  All this is
computed within 64 bits. -/
theorem dateTime_ofValue (d e : Date) {t : Instant} (plain : t.isLeap = false) (u : Instant) :
  (∃ days, Date.epoch.IsDaysTo d days ∧ Bson.ofValue (.date d) = .dateTime (86400000 * days))
    ∧ (d < e → (Bson.ofValue (.date d)).IsEarlier (Bson.ofValue (.date e)))
    ∧ (∃ millis, Bson.ofValue (.timestamp t) = .dateTime millis
      ∧ millis * 1000000 ≤ t.nanos ∧ t.nanos < (millis + 1) * 1000000)
    ∧ (t ≤ u → (Bson.ofValue (.timestamp t)).IsNotLater (Bson.ofValue (.timestamp u)))
    ∧ ((Bson.ofValue (.date d)).IsNotLater (Bson.ofValue (.timestamp t)) ↔ d ≤ t.date)
    ∧ (Instant.midnight d).millisInWord?.map Bson.dateTime = some (Bson.ofValue (.date d))
    ∧ t.millisInWord?.map Bson.dateTime = some (Bson.ofValue (.timestamp t))
  := by
  refine ⟨⟨d.dayNumber, ?days, ?date⟩, ?dates, ⟨t.millis, rfl, ?floor⟩, ?instants, ?both, ?_, ?_⟩
  case days => rw [Date.isDaysTo_epoch_iff]
  case date => rw [Bson.ofValue, Date.millis, Int.mul_comm]
  case dates =>
    intro before
    have number := Date.dayNumber_lt_of_lt before
    change d.dayNumber * 86400000 < e.dayNumber * 86400000
    omega
  case floor =>
    rw [Instant.millis_eq]
    omega
  case instants =>
    intro notAfter
    have nanos := Instant.nanos_le_nanos plain notAfter
    change t.millis ≤ u.millis
    rw [Instant.millis_eq, Instant.millis_eq]
    omega
  case both => apply Instant.millis_le_millis_iff plain
  · rw [Instant.millisInWord?_eq, Instant.millis_midnight]
    rfl
  · rw [Instant.millisInWord?_eq]
    rfl

/-- The last instant of 1969 lies in the millisecond before 1970, and in the last day before. -/
theorem dateTime_ofValue_before_epoch :
  let d : Date := ⟨1969, 12, 31, by decide⟩
  let t : Instant := ⟨d, 86399, 999999999, by decide⟩
  t.isLeap = false ∧ d < Date.epoch ∧ t ≤ Instant.midnight Date.epoch
    ∧ (Bson.ofValue (.date d)).IsEarlier (Bson.ofValue (.date Date.epoch))
    ∧ (Bson.ofValue (.timestamp t)).IsNotLater
      (Bson.ofValue (.timestamp (Instant.midnight Date.epoch)))
    ∧ (Bson.ofValue (.date d)).IsNotLater (Bson.ofValue (.timestamp t))
    ∧ ¬ (Bson.ofValue (.date Date.epoch)).IsNotLater (Bson.ofValue (.timestamp t))
    ∧ Bson.ofValue (.timestamp t) = .dateTime (-1)
  := by
  intro d t
  have plain : t.isLeap = false := rfl
  have before : d < Date.epoch := by decide
  have notAfter : t ≤ Instant.midnight Date.epoch := by decide
  obtain ⟨-, earlier, -, notLater, inDate, -⟩ :=
    dateTime_ofValue d Date.epoch plain (Instant.midnight Date.epoch)
  obtain ⟨-, -, -, -, notBefore, -⟩ := dateTime_ofValue Date.epoch d plain t
  refine ⟨plain, before, notAfter, earlier before, notLater notAfter, inDate.2 (by decide), ?_, ?_⟩
  · rw [notBefore]
    decide
  · have millis : t.millis = -1 := by decide
    rw [Bson.ofValue, millis]

/-! ### Values that become the same -/

/-- Whether two instants lie in the same millisecond. -/
def Calendar.Instant.SameMillisecond (t u : Instant) : Prop :=
  t.nanos / 1000000 = u.nanos / 1000000

theorem Calendar.Instant.sameMillisecond_iff {t u : Instant} :
  t.SameMillisecond u ↔ t.millis = u.millis
  := by
  rw [millis_eq, millis_eq]
  rfl

namespace Value

/-- Whether two values are the same to the store. -/
inductive SameInStore : Value → Value → Prop
  | same (v : Value) : SameInStore v v
  | intUint {n : Int64} {m : UInt64} (h : n.toInt = m.toNat) : SameInStore (.int n) (.uint m)
  | uintInt {n : Int64} {m : UInt64} (h : n.toInt = m.toNat) : SameInStore (.uint m) (.int n)
  | timestamps {t u : Instant} (h : t.SameMillisecond u) :
    SameInStore (.timestamp t) (.timestamp u)
  | dateTimestamp {d : Date} {t : Instant} (h : (Instant.midnight d).SameMillisecond t) :
    SameInStore (.date d) (.timestamp t)
  | timestampDate {d : Date} {t : Instant} (h : (Instant.midnight d).SameMillisecond t) :
    SameInStore (.timestamp t) (.date d)

/-- Whether a value is no unsigned integer too large for the integers of the store. -/
def FitsStore : Value → Prop
  | .uint n => n.toNat < 2 ^ 63
  | _ => True

/-- Whether a value may have become a value of the store. -/
def IsSourceOf (v : Value) : Bson → Prop
  | .int64 n => v = .int n ∨ ∃ m : UInt64, v = .uint m ∧ n.toInt = m.toNat
  | .double x => v = .float x
  | .string s => v = .string s
  | .boolean b => v = .boolean b
  | .binary .uuid block => ∃ id : Uuid, v = .uuid id ∧ id.bytes = block
  | .binary .generic block => v = .bytes block
  | .objectId id => v = .objectId id
  | .dateTime millis =>
    (∃ d : Date, v = .date d ∧ d.millis = millis)
      ∨ ∃ t : Instant, v = .timestamp t ∧ t.millis = millis
  | .regex p => v = .pattern p
  | .null => v = .null
  | .array _ => False
  | .document _ => False

variable {v w : Value}

/-- An unsigned integer that is not too large becomes an integer. -/
theorem ofValue_uint {n : UInt64} (fits : n.toNat < 2 ^ 63) :
  Bson.ofValue (.uint n) = .int64 (Int64.ofNat n.toNat)
  := by
  have most : Int64.maxValue.toInt = 2 ^ 63 - 1 := rfl
  rw [Bson.ofValue, if_pos]
  omega

theorem isSourceOf_ofValue (fits : v.FitsStore) :
  v.IsSourceOf (Bson.ofValue v)
  := by
  cases v with
  | int n => exact .inl rfl
  | uint n =>
    rw [ofValue_uint fits]
    exact .inr ⟨n, rfl, Int64.toInt_ofNat_of_lt fits⟩
  | uuid id => exact ⟨id, rfl, rfl⟩
  | date d => exact .inl ⟨d, rfl, rfl⟩
  | timestamp t => exact .inr ⟨t, rfl, rfl⟩
  | _ => rfl

/-- Values that may have become the same value of the store are the same to the store. -/
theorem sameInStore_of_isSourceOf {b : Bson} (hv : v.IsSourceOf b) (hw : w.IsSourceOf b) :
  v.SameInStore w
  := by
  cases b with
  | int64 n =>
    rcases hv with rfl | ⟨m, rfl, hm⟩
    · rcases hw with rfl | ⟨m, rfl, hm⟩
      · exact .same _
      · exact .intUint hm
    · rcases hw with rfl | ⟨m', rfl, hm'⟩
      · exact .uintInt hm
      · have same : m = m' := by
          apply UInt64.toNat_inj.1
          omega
        rw [same]
        exact .same _
  | dateTime millis =>
    rcases hv with ⟨d, rfl, hd⟩ | ⟨t, rfl, ht⟩
    · rcases hw with ⟨e, rfl, he⟩ | ⟨u, rfl, hu⟩
      · have same : d = e := by
          apply Date.eq_of_dayNumber_eq
          rw [Date.millis] at hd he
          omega
        rw [same]
        exact .same _
      · apply SameInStore.dateTimestamp
        rw [Instant.sameMillisecond_iff, Instant.millis_midnight, hd, hu]
    · rcases hw with ⟨e, rfl, he⟩ | ⟨u, rfl, hu⟩
      · apply SameInStore.timestampDate
        rw [Instant.sameMillisecond_iff, Instant.millis_midnight, he, ht]
      · apply SameInStore.timestamps
        rw [Instant.sameMillisecond_iff, ht, hu]
  | binary subtype block =>
    cases subtype with
    | generic =>
      obtain rfl : v = .bytes block := hv
      obtain rfl : w = .bytes block := hw
      exact .same _
    | uuid =>
      obtain ⟨⟨_, length⟩, rfl, rfl⟩ := hv
      obtain ⟨⟨_, length'⟩, rfl, rfl⟩ := hw
      exact .same _
  | array => exact hv.elim
  | document => exact hv.elim
  | _ =>
    rw [show v = w from hv.trans hw.symm]
    exact .same _

/-- Values that are the same to the store become the same. -/
theorem SameInStore.ofValue_eq (h : v.SameInStore w) (hv : v.FitsStore) (hw : w.FitsStore) :
  Bson.ofValue v = Bson.ofValue w
  := by
  have integer {n : Int64} {m : UInt64} (same : n.toInt = m.toNat) (fits : m.toNat < 2 ^ 63) :
      Bson.ofValue (.int n) = Bson.ofValue (.uint m) := by
    have value : Int64.ofNat m.toNat = n := by
      rw [← Int64.toInt_inj, Int64.toInt_ofNat_of_lt fits, same]
    rw [ofValue_uint fits, value, Bson.ofValue]
  cases h with
  | same => rfl
  | intUint same => exact integer same hw
  | uintInt same => exact (integer same hv).symm
  | timestamps same => rw [Bson.ofValue, Bson.ofValue, Instant.sameMillisecond_iff.1 same]
  | dateTimestamp same =>
    rw [Bson.ofValue, Bson.ofValue, ← Instant.sameMillisecond_iff.1 same, Instant.millis_midnight]
  | timestampDate same =>
    rw [Bson.ofValue, Bson.ofValue, ← Instant.sameMillisecond_iff.1 same, Instant.millis_midnight]

end Value

/-- Two values, neither an unsigned integer too large for the store, become the same exactly when
they are the same to the store: when they are equal, are an integer with a sign and one without that
stand for the same number, are instants in the same millisecond, or are a date and an instant in its
first millisecond.  So an identifier never becomes the same as bytes, nor a string the same as a
value of another type; and no value becomes an array or a document. -/
theorem ofValue_eq_ofValue_iff {v w : Value} (hv : v.FitsStore) (hw : w.FitsStore) :
  (Bson.ofValue v = Bson.ofValue w ↔ v.SameInStore w)
    ∧ (v.type = .uuid → w.type = .bytes → Bson.ofValue v ≠ Bson.ofValue w)
    ∧ (v.type = .string → w.type ≠ .string → Bson.ofValue v ≠ Bson.ofValue w)
    ∧ (∀ items, Bson.ofValue v ≠ .array items) ∧ ∀ members, Bson.ofValue v ≠ .document members
  := by
  have source := Value.isSourceOf_ofValue hv
  have sameOf (h : Bson.ofValue v = Bson.ofValue w) : v.SameInStore w :=
    Value.sameInStore_of_isSourceOf source (h ▸ Value.isSourceOf_ofValue hw)
  refine ⟨⟨sameOf, fun same => same.ofValue_eq hv hw⟩, ?_, ?_, ?_, ?_⟩
  · intro uuid bytes h
    cases sameOf h with
    | same => rw [uuid] at bytes; cases bytes
    | _ => cases uuid
  · intro string other h
    cases sameOf h with
    | same => exact other string
    | _ => cases string
  · intro items h
    rw [h] at source
    exact source
  · intro members h
    rw [h] at source
    exact source

/-- The leap second at the end of 2016 lies in the first second of 2017, whose first millisecond is
the start of the date.  The largest integer with a sign is also one without. -/
theorem ofValue_eq_ofValue_leap_second :
  let d : Date := ⟨2017, 1, 1, by decide⟩
  let t : Instant := ⟨⟨2016, 12, 31, by decide⟩, 86399, 1000999999, by decide⟩
  (Value.date d).FitsStore ∧ (Value.timestamp t).FitsStore
    ∧ Bson.ofValue (.date d) = Bson.ofValue (.timestamp t)
    ∧ (Value.int Int64.maxValue).FitsStore ∧ (Value.uint 0x7FFFFFFFFFFFFFFF).FitsStore
    ∧ Bson.ofValue (.int Int64.maxValue) = Bson.ofValue (.uint 0x7FFFFFFFFFFFFFFF)
  := by
  intro d t
  have first : (Instant.midnight d).SameMillisecond t := by
    rw [Instant.SameMillisecond]
    decide
  have fits : (Value.uint 0x7FFFFFFFFFFFFFFF).FitsStore := by
    rw [Value.FitsStore]
    decide
  obtain ⟨times, -⟩ := ofValue_eq_ofValue_iff (v := .date d) (w := .timestamp t) trivial trivial
  obtain ⟨integers, -⟩ := ofValue_eq_ofValue_iff (v := .int Int64.maxValue) trivial fits
  exact ⟨trivial, trivial, times.2 (.dateTimestamp first), trivial, fits,
    integers.2 (.intUint (by decide))⟩

end FilterQuery
