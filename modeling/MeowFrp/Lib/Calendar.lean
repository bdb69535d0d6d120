import Mathlib.Algebra.BigOperators.Group.List.Basic
import Mathlib.Algebra.Ring.Nat

/-!
# The civil calendar

The proleptic Gregorian calendar, with days counted from the first day of year 1, and local times of a place
whose offset from UTC changes. Moving a date by years keeps month and day, and a 29 February that does not
exist becomes 1 March. Months and days of a month are counted from zero.

A move by `k` years takes between 365 and 366 days a year on the calendar. Between instants the change of the
offset is added to this.
-/

namespace MeowFrp.Lib.Calendar

open List

/-! ## Years and months -/

def isLeap (year : Int) : Bool := year % 4 = 0 && (year % 100 ≠ 0 || year % 400 = 0)

def yearLength (year : Int) : Int := if isLeap year then 366 else 365

/-- The number of days before a year. -/
def daysBeforeYear (year : Int) : Int :=
  365 * (year - 1) + (year - 1) / 4 - (year - 1) / 100 + (year - 1) / 400

/-- The next year begins after the days of this one. -/
lemma daysBeforeYear_succ (year : Int) : daysBeforeYear (year + 1) = daysBeforeYear year + yearLength year := by
  unfold daysBeforeYear yearLength
  split
  · rename_i leap
    simp only [isLeap, Bool.and_eq_true, Bool.or_eq_true, decide_eq_true_eq] at leap
    omega
  · rename_i short
    simp only [isLeap, Bool.and_eq_true, Bool.or_eq_true, decide_eq_true_eq] at short
    omega

/-- Years have 365 or 366 days; the first one matters. -/
lemma daysBeforeYear_add (year : Int) (k : Nat) :
    daysBeforeYear year + yearLength year + 365 * k ≤ daysBeforeYear (year + k + 1) ∧
      daysBeforeYear (year + k + 1) ≤ daysBeforeYear year + yearLength year + 366 * k := by
  induction k with
  | zero =>
    have next := daysBeforeYear_succ year
    simp [next]
  | succ k =>
    have next := daysBeforeYear_succ (year + k + 1)
    have length : yearLength (year + k + 1) = 365 ∨ yearLength (year + k + 1) = 366 := by
      unfold yearLength
      split
      · exact .inr rfl
      · exact .inl rfl
    rw [Int.natCast_succ, ← add_assoc year]
    omega

def monthLengths (leap : Bool) : List Nat := [31, if leap then 29 else 28, 31, 30, 31, 30, 31, 31, 30, 31, 30, 31]

/-- The number of days of a year before a month. -/
def daysBeforeMonth (leap : Bool) (month : Nat) : Nat := ((monthLengths leap).take month).sum

lemma daysBeforeMonth_leap (month : Nat) : daysBeforeMonth false month ≤ daysBeforeMonth true month ∧
    daysBeforeMonth true month ≤ daysBeforeMonth false month + 1 := by
  match month with
  | 0 => decide
  | 1 => decide
  | month + 2 =>
    simp only [daysBeforeMonth, monthLengths, take_succ_cons, sum_cons, Bool.false_eq_true, if_false,
      if_true]
    omega

/-- Find the block of a position, and the position in it. -/
def locate : List Nat → Nat → Nat × Nat
  | [], n => (0, n)
  | length :: lengths, n =>
    if n < length then (0, n)
    else
      let (i, n) := locate lengths (n - length)
      (i + 1, n)

/-- What `locate` finds adds up to the day. -/
lemma locate_sum (lengths : List Nat) (n : Nat) :
    (lengths.take (locate lengths n).1).sum + (locate lengths n).2 = n := by
  induction lengths generalizing n with
  | nil => simp [locate]
  | cons length _ ih =>
    unfold locate
    split
    · simp
    · rename_i past
      have rest := ih (n - length)
      simp only [take_succ_cons, sum_cons]
      omega

/-! ## Dates -/

structure Date where
  year : Int
  month : Nat
  day : Nat
  deriving DecidableEq, Repr

/-- The year of a day, by cycles of 400, 100, 4 and 1 years, and the day in it. -/
def yearOf (n : Int) : Int × Int :=
  let n400 := n / 146097
  let n := n - 146097 * n400
  -- the last cycle of 100 years has one more day, and so has the last year of a cycle of 4
  let n100 := n / 36524 - n / 36524 / 4
  let n := n - 36524 * n100
  let n4 := n / 1461
  let n := n - 1461 * n4
  let n1 := n / 365 - n / 365 / 4
  (400 * n400 + 100 * n100 + 4 * n4 + n1 + 1, n - 365 * n1)

lemma daysBeforeYear_cycles {n400 n100 n4 n1 : Int} (h100 : 0 ≤ n100 ∧ n100 ≤ 3) (h4 : 0 ≤ n4 ∧ n4 ≤ 24)
    (h1 : 0 ≤ n1 ∧ n1 ≤ 3) :
    daysBeforeYear (400 * n400 + 100 * n100 + 4 * n4 + n1 + 1) =
      146097 * n400 + 36524 * n100 + 1461 * n4 + 365 * n1 := by
  unfold daysBeforeYear
  omega

/-- The year of a day and the day in it. -/
lemma yearOf_spec (n : Int) : daysBeforeYear (yearOf n).1 + (yearOf n).2 = n ∧ 0 ≤ (yearOf n).2 := by
  simp only [yearOf]
  rw [daysBeforeYear_cycles (by omega) (by omega) (by omega)]
  omega

def Date.ofDays (n : Int) : Date :=
  let (year, rest) := yearOf n
  let (month, day) := locate (monthLengths (isLeap year)) rest.toNat
  { year, month, day }

def Date.toDays (d : Date) : Int := daysBeforeYear d.year + daysBeforeMonth (isLeap d.year) d.month + d.day

/-- A day's date has that day number. -/
lemma Date.toDays_ofDays (n : Int) : (Date.ofDays n).toDays = n := by
  obtain ⟨spec, pos⟩ := yearOf_spec n
  have sum := locate_sum (monthLengths (isLeap (yearOf n).1)) (yearOf n).2.toNat
  simp only [Date.toDays, Date.ofDays, daysBeforeMonth]
  rw [add_assoc, ← Int.natCast_add, sum, Int.toNat_of_nonneg pos, spec]

def Date.addYears (d : Date) (k : Nat) : Date := { d with year := d.year + k }

/-- A move by years takes 365 to 366 days a year. -/
lemma Date.toDays_addYears (d : Date) (k : Nat) :
    d.toDays + 365 * k ≤ (d.addYears k).toDays ∧ (d.addYears k).toDays ≤ d.toDays + 366 * k := by
  cases k with
  | zero => simp [Date.addYears]
  | succ k =>
    have years := daysBeforeYear_add d.year k
    have month := daysBeforeMonth_leap d.month
    simp only [Date.toDays, Date.addYears, Int.natCast_succ, ← add_assoc]
    unfold yearLength at years
    -- an additional day in one of the two years is compensated by the length of the first
    cases leap : isLeap d.year with
    | true =>
      rw [if_pos leap] at years
      cases isLeap (d.year + k + 1) with
      | true | false => omega
    | false =>
      rw [if_neg (Bool.eq_false_iff.mp leap)] at years
      cases isLeap (d.year + k + 1) with
      | true | false => omega

/-! ## Local times -/

/-- Move a local time, in seconds, by years. -/
def shift (k : Nat) (t : Int) : Int := ((Date.ofDays (t / 86400)).addYears k).toDays * 86400 + t % 86400

/-- A year has 365 or 366 days. -/
lemma shift_bounds (k : Nat) (t : Int) : t + 365 * k * 86400 ≤ shift k t ∧ shift k t ≤ t + 366 * k * 86400 := by
  have days := (Date.ofDays (t / 86400)).toDays_addYears k
  rw [Date.toDays_ofDays] at days
  unfold shift
  omega

/-- A place: the seconds by which its clocks are ahead of UTC at an instant. -/
structure Location where
  offset : Int → Int
  /-- no clock differs from UTC by more than a week -/
  bounded : ∀ t, -604800 ≤ offset t ∧ offset t ≤ 604800

namespace Location

variable (l : Location)

/-- The offset of a local time, which is taken for one of UTC at first. -/
def offsetOn (t : Int) : Int := if l.offset t = 0 then 0 else l.offset (t - l.offset t)

/-- The instant with the same local time, `k` years later. -/
def addYears (k : Nat) (t : Int) : Int :=
  shift k (t + l.offset t) - l.offsetOn (shift k (t + l.offset t))

/-- How much the offset is smaller `k` years later. -/
def loss (k : Nat) (t : Int) : Int := l.offset t - l.offsetOn (shift k (t + l.offset t))

lemma offsetOn_bounded (t : Int) : -604800 ≤ l.offsetOn t ∧ l.offsetOn t ≤ 604800 := by
  unfold offsetOn
  split
  · decide
  · exact l.bounded _

lemma addYears_bounds (k : Nat) (t : Int) :
    t + 365 * k * 86400 + l.loss k t ≤ l.addYears k t ∧ l.addYears k t ≤ t + 366 * k * 86400 + l.loss k t := by
  have bounds := shift_bounds k (t + l.offset t)
  unfold addYears loss
  omega

/-- The two offsets differ by at most two weeks. -/
lemma loss_bounded (k : Nat) (t : Int) : -1209600 ≤ l.loss k t ∧ l.loss k t ≤ 1209600 := by
  have now := l.bounded t
  have later := l.offsetOn_bounded (shift k (t + l.offset t))
  unfold loss
  omega

/-- A place whose offset changes at given instants, the latest first. -/
def offsetIn (first : Int) : List (Int × Int) → Int → Int
  | [], _ => first
  | (start, offset) :: changes, t => if start ≤ t then offset else offsetIn first changes t

lemma offsetIn_bounded {first : Int} {changes : List (Int × Int)} {t : Int}
    (bound : -604800 ≤ first ∧ first ≤ 604800) (bounds : ∀ c ∈ changes, -604800 ≤ c.2 ∧ c.2 ≤ 604800) :
    -604800 ≤ offsetIn first changes t ∧ offsetIn first changes t ≤ 604800 := by
  induction changes with
  | nil => exact bound
  | cons _ _ ih =>
    obtain ⟨here, rest⟩ := forall_mem_cons.mp bounds
    unfold offsetIn
    split
    · exact here
    · exact ih rest

end Location

end MeowFrp.Lib.Calendar
