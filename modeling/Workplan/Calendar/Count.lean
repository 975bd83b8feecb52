import Workplan.Bisection
import Workplan.Calendar

/-!
# Counting working days

The working days are numbered in order, from 0. How many of them lie before a given position
has a closed form: full weeks, the begun week, less the holidays on working weekdays. The
day that bears a given number is found by bisection of that count.

## Main definitions

* `Calendar.workingBefore`: the number of working days before a position
* `Calendar.nth?`: the working day with a given number

## Main results

* `workingBefore_succ`: the closed form grows by one exactly past a working day
* `nth?_eq_some_iff`: `nth?` inverts the count on working days
-/

namespace Workplan.Calendar

variable (c : Calendar)

/-- The number of days before position `i` that are on working weekdays. -/
def workweekBefore (i : Nat) : Nat :=
  i / 7 * c.weekdays.length + (List.range (i % 7)).countP c.isWorkweekdayAt

/-- The number of holidays before position `i` that are on working weekdays. -/
def holidaysBefore (i : Nat) : Nat :=
  c.holidays.countP fun h => h.index < i && c.isWorkweekdayAt h.index

/-- The number of working days before position `i`. -/
def workingBefore (i : Nat) : Nat := c.workweekBefore i - c.holidaysBefore i

/-- Is the day at position `i` worked? Behind the range there are no holidays. -/
def isWorkingAt (i : Nat) : Bool := c.isWorkweekdayAt i && !c.holidays.any (·.index == i)

/-- The working day with `k` working days before it, if the range has so many. -/
def nth? (k : Nat) : Option Day := Day.ofIndex? (bisect c.workingBefore k 28 0)

variable {c}

/-! ## The closed form -/

theorem isWorkingAt_index (d : Day) : c.isWorkingAt d.index = c.isWorking d := by
  have h : c.holidays.any (·.index == d.index) = c.holidays.contains d := by
    rw [Bool.eq_iff_iff]
    simp only [List.any_eq_true, beq_iff_eq, List.contains_iff_mem]
    exact ⟨fun h => h.elim fun e he => Day.ext he.2 ▸ he.1, fun h => ⟨d, h, rfl⟩⟩
  rw [isWorkingAt, isWorking, h]

theorem isWorkweekdayAt_mod (i : Nat) : c.isWorkweekdayAt (i % 7) = c.isWorkweekdayAt i := by
  have : Weekday.ofIndex (i % 7) = Weekday.ofIndex i := by
    simp only [Weekday.ofIndex, Fin.mk.injEq]
    omega
  rw [isWorkweekdayAt, isWorkweekdayAt, this]

/-- Two strictly ascending lists of weekdays with the same members are equal. -/
private theorem eq_of_ascending {l l' : List Weekday} (h : l.Pairwise (· < ·))
    (h' : l'.Pairwise (· < ·)) (hmem : ∀ w, w ∈ l ↔ w ∈ l') : l = l' := by
  induction l generalizing l' with
  | nil =>
    cases l' with
    | nil => rfl
    | cons b l' => simpa using (hmem b)
  | cons a l ih =>
    cases l' with
    | nil => simpa using (hmem a)
    | cons b l' =>
      rw [List.pairwise_cons] at h h'
      have hab : a = b := by
        have ha := (hmem a).1 List.mem_cons_self
        have hb := (hmem b).2 List.mem_cons_self
        grind
      subst hab
      rw [ih h.2 h'.2 fun w => ?_]
      have := hmem w
      grind

/-- A full week has as many working days as there are working weekdays. -/
theorem countP_range_week : (List.range 7).countP c.isWorkweekdayAt = c.weekdays.length := by
  have hfilter : (List.finRange 7).filter c.weekdays.contains = c.weekdays :=
    eq_of_ascending ((List.pairwise_lt_finRange 7).filter _) c.weekdays_ascending (by simp)
  have hweek : ((List.range 7).map Weekday.ofIndex).Perm (List.finRange 7) := by decide
  calc (List.range 7).countP c.isWorkweekdayAt
      = ((List.range 7).map Weekday.ofIndex).countP c.weekdays.contains := by
        rw [List.countP_map]; rfl
    _ = (List.finRange 7).countP c.weekdays.contains := hweek.countP_eq _
    _ = c.weekdays.length := by rw [List.countP_eq_length_filter, hfilter]

/-- The count by whole weeks and the begun one grows past a day of a working weekday. The day
either completes the begun week, which is counted as a whole one from then on, or leaves it begun
and one day longer. -/
theorem workweekBefore_succ (i : Nat) :
    c.workweekBefore (i + 1) = c.workweekBefore i + if c.isWorkweekdayAt i then 1 else 0 := by
  have hstep : (List.range (i % 7 + 1)).countP c.isWorkweekdayAt
      = (List.range (i % 7)).countP c.isWorkweekdayAt + if c.isWorkweekdayAt i then 1 else 0 := by
    rw [List.range_succ, List.countP_append, List.countP_singleton, isWorkweekdayAt_mod]
  rw [workweekBefore, workweekBefore]
  by_cases h : i % 7 = 6
  · have h₁ : (i + 1) / 7 = i / 7 + 1 := by omega
    have h₂ : (i + 1) % 7 = 0 := by omega
    rw [h] at hstep ⊢
    rw [h₁, h₂, Nat.add_assoc, ← hstep, countP_range_week, Nat.add_mul, Nat.one_mul]
    rfl
  · have h₁ : (i + 1) / 7 = i / 7 := by omega
    have h₂ : (i + 1) % 7 = i % 7 + 1 := by omega
    rw [h₁, h₂, hstep, Nat.add_assoc]

/-- The holidays in front of a position grow by the one at it, if there is one. It is counted once,
as the holidays are listed in order, so that those behind it in the list are on later days. -/
private theorem countP_succ {days : List Day} (h : days.Pairwise (· < ·)) (p : Nat → Bool)
    (i : Nat) :
    days.countP (fun d => d.index < i + 1 && p d.index)
      = days.countP (fun d => d.index < i && p d.index)
        + if p i && days.any (·.index == i) then 1 else 0 := by
  induction days with
  | nil => simp
  | cons d rest ih =>
    rw [List.pairwise_cons] at h
    rw [List.countP_cons, List.countP_cons, ih h.2]
    by_cases hd : d.index = i
    · have hrest : rest.any (·.index == i) = false := by
        rw [List.any_eq_false]
        intro e he heq
        have := h.1 e he
        simp only [Day.lt_def, beq_iff_eq] at this heq
        omega
      subst hd
      simp [hrest]
    · have hlt : d.index < i + 1 ↔ d.index < i := by omega
      have hbeq : (d.index == i) = false := by simpa using hd
      simp only [List.any_cons, hbeq, Bool.false_or, hlt]
      omega

theorem holidaysBefore_succ (i : Nat) :
    c.holidaysBefore (i + 1) = c.holidaysBefore i
      + if c.isWorkweekdayAt i && c.holidays.any (·.index == i) then 1 else 0 :=
  countP_succ c.holidays_ascending c.isWorkweekdayAt i

theorem holidaysBefore_le (i : Nat) : c.holidaysBefore i ≤ c.workweekBefore i := by
  induction i with
  | zero => simp [holidaysBefore]
  | succ i ih =>
    rw [holidaysBefore_succ, workweekBefore_succ]
    cases c.isWorkweekdayAt i with
    | false => simpa using ih
    | true =>
      have hone : (if (true && c.holidays.any (·.index == i)) = true then 1 else 0) ≤ 1 := by
        split
        · exact Nat.le_refl 1
        · exact Nat.zero_le 1
      exact Nat.add_le_add ih hone

@[simp] theorem workingBefore_zero : c.workingBefore 0 = 0 := by
  simp [workingBefore, workweekBefore]

/-- **The count grows by one exactly past a working day.** What is counted are the days of working
weekdays less the holidays among them. A holiday on such a weekday adds one to both, so that their
difference stays, and there are never more of them than days to take them from. -/
theorem workingBefore_succ (i : Nat) :
    c.workingBefore (i + 1) = c.workingBefore i + if c.isWorkingAt i then 1 else 0 := by
  have hle := holidaysBefore_le (c := c) i
  rw [workingBefore, workingBefore, holidaysBefore_succ, workweekBefore_succ, isWorkingAt]
  cases c.isWorkweekdayAt i with
  | false => simp
  | true =>
    cases c.holidays.any (·.index == i) with
    | false =>
      simp only [Bool.true_and, Bool.not_false, Bool.false_eq_true, if_true, if_false]
      omega
    | true =>
      simp only [Bool.true_and, Bool.not_true, Bool.false_eq_true, if_true, if_false]
      omega

theorem workingBefore_mono {i j : Nat} (h : i ≤ j) : c.workingBefore i ≤ c.workingBefore j := by
  induction j with
  | zero => simp_all
  | succ j ih =>
    rcases Nat.lt_or_ge j i with hlt | hle
    · exact Nat.le_of_eq (congrArg _ (Nat.le_antisymm h hlt))
    · rw [workingBefore_succ]
      exact Nat.le_trans (ih hle) (Nat.le_add_right _ _)

/-! ## The numbered working day -/

/-- Inside the range, the search for a number ends where the count is about to pass it. -/
theorem lt_workingBefore_bisect_succ {k : Nat} (h : bisect c.workingBefore k 28 0 < dayCount) :
    k < c.workingBefore (bisect c.workingBefore k 28 0 + 1) :=
  lt_apply_bisect_succ (by rw [dayCount] at h; omega)

/-- The search for the number of a working day ends at that day, as the count passes the number
right behind it. In front of the day the search would not have gone far enough, and behind it too
far. -/
theorem bisect_workingBefore {d : Day} (hd : c.isWorking d) :
    bisect c.workingBefore (c.workingBefore d.index) 28 0 = d.index := by
  have hle : c.workingBefore (bisect c.workingBefore (c.workingBefore d.index) 28 0) ≤
      c.workingBefore d.index := apply_bisect_le (by simp)
  have hsucc := workingBefore_succ (c := c) d.index
  rw [isWorkingAt_index, hd, if_pos rfl] at hsucc
  rcases Nat.lt_trichotomy (bisect c.workingBefore (c.workingBefore d.index) 28 0) d.index with
    hfront | heq | hbehind
  · have hlast := lt_workingBefore_bisect_succ (Nat.lt_trans hfront d.index_lt)
    have hmono := workingBefore_mono (c := c) (show _ + 1 ≤ d.index from hfront)
    omega
  · exact heq
  · have hmono := workingBefore_mono (c := c) (show d.index + 1 ≤ _ from hbehind)
    omega

/-- **The `k`-th working day is the one with `k` working days before it.** The search comes to the
last position up to which no more than `k` are counted. Right behind it there are more, so the count
grows there by one, which it does past a working day only. -/
theorem nth?_eq_some_iff {k : Nat} {d : Day} :
    c.nth? k = some d ↔ c.isWorking d ∧ c.workingBefore d.index = k := by
  constructor
  · intro h
    rw [nth?, Day.ofIndex?] at h
    split at h
    · next hlt =>
      cases h
      have hle : c.workingBefore (bisect c.workingBefore k 28 0) ≤ k := apply_bisect_le (by simp)
      have hlast := lt_workingBefore_bisect_succ hlt
      rw [← isWorkingAt_index]
      rw [workingBefore_succ] at hlast
      dsimp only
      split at hlast
      · next hworking => exact ⟨hworking, by omega⟩
      · omega
    · cases h
  · rintro ⟨hworking, rfl⟩
    rw [nth?, bisect_workingBefore hworking, Day.ofIndex?, dif_pos d.index_lt]

end Workplan.Calendar
