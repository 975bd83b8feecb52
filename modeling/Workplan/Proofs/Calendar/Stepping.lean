import Workplan.Proofs.Calendar.Exact
import Workplan.Proofs.Calendar.Interval

/-!
# Stepping from day to day

Working days are found and counted by their numbers, but what is meant is a walk along the range,
one day at a time: a search stops at the first working day that it comes to, and a count goes down
by one on each working day. Both stop at the end of the range for which they are headed. A step past
a working day adds one to the count of the days in front, a step past another day adds nothing, and
so the day on which such a walk stops is the one that its number leads to.

## Main definitions

* `Direction`, `Direction.step?`: the two ways along the range, and a step of one day
* `Calendar.scan`, `Calendar.seek`: the first working day that is come to, with or without the day
  on which the search starts
* `Calendar.walk`: the steps that pass a number of working days
* `Calendar.stepTo`, `Calendar.stepBy`: counting working days from a day on, and moving by them

## Main results

* `seek_ahead`, `seek_ahead_excluding`, `seek_back`, `seek_back_excluding`: a search finds the day
  of a number
* `walk_ahead`, `walk_back`: a walk adds to the number or takes away from it
* `stepTo_eq_advance`, `stepBy_eq_offset`: counting and moving day by day agree with the numbers
-/

namespace Workplan

/-! ## Steps -/

/-- The two ways along the range. -/
inductive Direction where
  | ahead | back
  deriving DecidableEq

namespace Direction

variable {way : Direction} {d e : Day}

/-- The day next to a day, unless the range ends there. -/
def step? : Direction → Day → Option Day
  | ahead, d => Day.ofIndex? (d.index + 1)
  | back, d => if d.index = 0 then none else Day.ofIndex? (d.index - 1)

/-- The number of steps that are left up to the end of the range. -/
def room : Direction → Day → ℕ
  | ahead, d => Day.last.index - d.index
  | back, d => d.index

theorem step?_ahead_eq_some_iff : ahead.step? d = some e ↔ e.index = d.index + 1 :=
  Day.ofIndex?_eq_some_iff

theorem step?_ahead_eq_none_iff : ahead.step? d = none ↔ d = Day.last := by
  have hlt := d.index_lt
  rw [step?, Day.ofIndex?, dite_eq_right_iff, Day.ext_iff]
  simp only [reduceCtorEq, imp_false, Day.last]
  omega

theorem step?_back_eq_some_iff : back.step? d = some e ↔ e.index + 1 = d.index := by
  rw [step?]
  split
  · next hzero => simp [hzero]
  · next hpos =>
    rw [Day.ofIndex?_eq_some_iff]
    omega

theorem step?_back_eq_none_iff : back.step? d = none ↔ d = Day.first := by
  have hlt := d.index_lt
  rw [step?, Day.ext_iff]
  split
  · next hzero => simpa [Day.first] using hzero
  · next hpos =>
    rw [Day.ofIndex?, dif_pos (by omega)]
    simpa [Day.first] using hpos

/-- Each step leaves less room. -/
theorem room_lt_of_step? (h : way.step? d = some e) : way.room e < way.room d := by
  have hlt := e.index_lt
  cases way with
  | ahead =>
    rw [step?_ahead_eq_some_iff] at h
    simp only [room, Day.last]
    omega
  | back =>
    rw [step?_back_eq_some_iff] at h
    simp only [room]
    omega

end Direction

namespace Calendar

variable (c : Calendar)

/-! ## Searching and counting -/

/-- Goes on to a working day, or to the end of the range if none is come to. -/
def scan (way : Direction) (d : Day) : Day :=
  if c.isWorking d then d
  else
    match _h : way.step? d with
    | some e => scan way e
    | none => d
termination_by way.room d
decreasing_by exact Direction.room_lt_of_step? _h

/-- The first working day that is come to, where the day itself may be the one or not. -/
def seek (way : Direction) (d : Day) (including : Bool) : Day :=
  if including then c.scan way d
  else
    match way.step? d with
    | some e => c.scan way e
    | none => d

/-- Goes on until as many working days as are `left` have been come to, or to the end of the
range. -/
def walk (way : Direction) (left : ℕ) (d : Day) : Day :=
  if left = 0 then d
  else
    match _h : way.step? d with
    | some e => if c.isWorking e then walk way (left - 1) e else walk way left e
    | none => d
termination_by way.room d
decreasing_by all_goals exact Direction.room_lt_of_step? _h

/-- Counts `n` working days from the first one on or after a day, which is the first of them on the
way ahead and is left out on the way back. -/
def stepTo (d : Day) (n : ℤ) : Day :=
  if n = 0 then d
  else if 0 < n then c.walk .ahead (n.natAbs - 1) (c.seek .ahead d true)
  else c.walk .back n.natAbs (c.seek .ahead d true)

/-- The greatest count. -/
def maxCount : ℤ := 0x7fffffffffffffff

/-- Moves by `k` working days from the first one on or after a day. Ahead that is to count one more
day, as far as there are counts. -/
def stepBy (d : Day) (k : ℤ) : Day :=
  if k = 0 then c.seek .ahead d true
  else if 0 < k then c.stepTo d (min (k + 1) maxCount)
  else c.stepTo d k

variable {c} {d e : Day} {n : ℕ}

/-! ## Searches find a number -/

/-- The first working day that a search ahead comes to has the number of the day on which the search
starts. -/
theorem scan_ahead (d : Day) : c.scan .ahead d = c.onOrAfter d := by
  fun_induction c.scan .ahead d with
  | case1 d hworking => exact (dayAt_rank hworking).symm
  | case2 d hoff e hstep ih =>
    rw [Direction.step?_ahead_eq_some_iff] at hstep
    rw [ih, onOrAfter, onOrAfter, rank, hstep, workingBefore_index_succ_of_not hoff]
  | case3 d hoff hstep =>
    rw [Direction.step?_ahead_eq_none_iff] at hstep
    rw [hstep]
    exact le_antisymm (le_dayAt le_rfl) (Day.le_last _)

/-- The first working day that a search back comes to has the number right below the count behind
the day on which the search starts. -/
theorem scan_back (d : Day) : c.scan .back d = c.onOrBefore d := by
  fun_induction c.scan .back d with
  | case1 d hworking => exact (onOrBefore_of_isWorking hworking).symm
  | case2 d hoff e hstep ih =>
    rw [Direction.step?_back_eq_some_iff] at hstep
    rw [ih, onOrBefore, onOrBefore, hstep, workingBefore_index_succ_of_not hoff, rank]
  | case3 d hoff hstep =>
    rw [Direction.step?_back_eq_none_iff] at hstep
    rw [onOrBefore, workingBefore_index_succ_of_not hoff, hstep, rank]
    exact (dayAt_of_neg (by simp [Day.first])).symm

theorem seek_ahead (d : Day) : c.seek .ahead d true = c.onOrAfter d := scan_ahead d

theorem seek_back (d : Day) : c.seek .back d true = c.onOrBefore d := scan_back d

/-- Behind the last day of the range there is nothing to search, and it stands for what is not
found. -/
theorem seek_ahead_excluding (d : Day) : c.seek .ahead d false = c.after d := by
  rw [seek, if_neg Bool.false_ne_true]
  split
  · next e hstep =>
    rw [Direction.step?_ahead_eq_some_iff] at hstep
    rw [scan_ahead, onOrAfter, after, rank, hstep]
  · next hstep =>
    rw [Direction.step?_ahead_eq_none_iff] at hstep
    rw [hstep]
    exact (dayAt_eq_last le_rfl).symm

/-- In front of the first day of the range there is nothing to search, and it stands for what is not
found. -/
theorem seek_back_excluding (d : Day) : c.seek .back d false = c.before d := by
  rw [seek, if_neg Bool.false_ne_true]
  split
  · next e hstep =>
    rw [Direction.step?_back_eq_some_iff] at hstep
    rw [scan_back, onOrBefore, before, rank, hstep]
  · next hstep =>
    rw [Direction.step?_back_eq_none_iff] at hstep
    rw [hstep]
    exact (dayAt_of_neg (by simp [rank, Day.first])).symm

/-! ## Walks add to a number -/

@[simp] theorem walk_zero (way : Direction) (d : Day) : c.walk way 0 d = d := by
  rw [walk, if_pos rfl]

/-- **A walk ahead adds to the count behind the day on which it starts**: the days that it comes to
are numbered from there on. By induction along the walk, of which the first step comes to the day of
the next number or changes nothing. -/
theorem walk_ahead (n : ℕ) (d : Day) :
    c.walk .ahead (n + 1) d = c.dayAt (c.workingBefore (d.index + 1) + n) := by
  generalize hleft : n + 1 = left
  fun_induction c.walk .ahead left d generalizing n with
  | case1 d => omega
  | case2 left d hne e hstep hworking ih =>
    rw [Direction.step?_ahead_eq_some_iff] at hstep
    rw [← hstep]
    cases n with
    | zero =>
      rw [← hleft, walk_zero]
      simpa [rank] using (dayAt_rank hworking).symm
    | succ n =>
      rw [ih n (by omega), workingBefore_index_succ hworking, rank]
      congr 1
      omega
  | case3 left d hne e hstep hoff ih =>
    rw [Direction.step?_ahead_eq_some_iff] at hstep
    rw [ih n hleft, workingBefore_index_succ_of_not hoff, rank, hstep]
  | case4 left d hne hstep =>
    rw [Direction.step?_ahead_eq_none_iff] at hstep
    rw [hstep]
    exact (dayAt_eq_last (by simp [Day.last])).symm

/-- **A walk back takes away from the number of the day on which it starts.** The induction is that
of the walk ahead, with the days numbered downwards. -/
theorem walk_back (n : ℕ) (d : Day) :
    c.walk .back (n + 1) d = c.dayAt (c.rank d - (n + 1)) := by
  generalize hleft : n + 1 = left
  fun_induction c.walk .back left d generalizing n with
  | case1 d => omega
  | case2 left d hne e hstep hworking ih =>
    rw [Direction.step?_back_eq_some_iff] at hstep
    have hrank : c.rank d = c.rank e + 1 := by
      rw [rank, ← hstep, workingBefore_index_succ hworking]
    cases n with
    | zero =>
      rw [← hleft, walk_zero, hrank]
      simpa using (dayAt_rank hworking).symm
    | succ n =>
      rw [ih n (by omega), hrank]
      congr 1
      omega
  | case3 left d hne e hstep hoff ih =>
    rw [Direction.step?_back_eq_some_iff] at hstep
    have hrank : c.rank d = c.rank e := by
      rw [rank, ← hstep, workingBefore_index_succ_of_not hoff]
    rw [ih n hleft, hrank]
  | case4 left d hne hstep =>
    rw [Direction.step?_back_eq_none_iff] at hstep
    rw [hstep]
    exact (dayAt_of_neg (by simp [rank, Day.first]; omega)).symm

/-! ## Counting and moving -/

/-- Days that are counted ahead from the first working day on or after a day have the numbers from
that of the day on. Where no working day is left, the count does not get away from the last day. -/
theorem walk_ahead_onOrAfter (n : ℕ) (d : Day) :
    c.walk .ahead n (c.onOrAfter d) = c.dayAt (c.rank d + n) := by
  cases n with
  | zero => simp [onOrAfter]
  | succ n =>
    rw [walk_ahead]
    rcases dayAt_cases (c := c) (c.rank d) with ⟨hworking, hrank⟩ | ⟨hlast, hle⟩
    · rw [onOrAfter, workingBefore_index_succ hworking, hrank]
      congr 1
      push_cast
      omega
    · rw [onOrAfter, hlast, dayAt_eq_last (by simp [Day.last]), dayAt_eq_last (by omega)]

/-- **Counting day by day ends on the day that the numbers lead to**, for counts of either sign. -/
theorem stepTo_eq_advance (d : Day) (n : ℤ) : c.stepTo d n = c.advance d n := by
  rw [stepTo, seek_ahead]
  split
  · next hzero => rw [hzero, advance_zero]
  · next hne =>
    split
    · next hpos =>
      rw [walk_ahead_onOrAfter, advance_of_pos hpos]
      congr 1
      omega
    · next hneg =>
      obtain ⟨m, hm⟩ : ∃ m, n.natAbs = m + 1 := ⟨n.natAbs - 1, by omega⟩
      rw [hm, walk_back, rank_anchor, advance_of_neg (by omega)]
      congr 1
      omega

/-- **Moving day by day ends on the day that the numbers lead to**, for moves of either sign. That
the greatest move counts no more days than there are counts makes no difference, since both lead
past the range. -/
theorem stepBy_eq_offset (d : Day) (k : ℤ) : c.stepBy d k = c.offset d k := by
  have htotal := workingBefore_le (c := c) dayCount
  rw [stepBy, seek_ahead, stepTo_eq_advance, stepTo_eq_advance]
  split
  · next hzero => rw [hzero, offset, Int.add_zero, onOrAfter]
  · next hne =>
    split
    · next hpos =>
      rw [advance_of_pos (by rw [maxCount]; omega), offset]
      rcases le_or_gt (k + 1) maxCount with hle | hlt
      · rw [min_eq_left hle, Int.add_sub_cancel]
      · -- there are fewer days in the range than the greatest count
        rw [min_eq_right hlt.le]
        rw [maxCount] at hlt ⊢
        rw [dayCount] at htotal
        rw [dayAt_eq_last (by rw [dayCount]; omega), dayAt_eq_last (by rw [dayCount]; omega)]
    · next hneg => rw [advance_of_neg (by omega), offset]

end Calendar

end Workplan
