import Mathlib.Data.Finset.Card
import Workplan.Proofs.Calendar.Exact

/-!
# How far walks lead

Each week has a working weekday, and each holiday takes at most one of them away. So there are
enough working days for a walk among as many weeks as the walk has days and the calendar has
holidays, on either side of the day from which it starts. If the range reaches that far, the walk
completes its count within these weeks and does not come to the end of the range.

## Main definitions

* `Calendar.reach`: the days among which a number of working days is found

## Main results

* `length_holidays_ofParts`: a calendar has as many holidays as it was given distinct ones
* `workingBefore_add_reach`: the days of the reach have that many working days
* `advance_within_reach`, `advance_neg_within_reach`: walks to later and to earlier days
* `walks_stay_short`: walks complete their count within their reach
-/

namespace Workplan

theorem mem_foldr_insertDay {d : Day} {days : List Day} :
    d ∈ days.foldr insertDay [] ↔ d ∈ days := by
  induction days with
  | nil => rfl
  | cons e rest ih => rw [List.foldr_cons, mem_insertDay, ih, List.mem_cons]

namespace Calendar

variable {c : Calendar} {d : Day} {n : ℕ}

/-- Holidays do not repeat. -/
theorem nodup_holidays (c : Calendar) : c.holidays.Nodup :=
  c.holidays_ascending.imp fun h => h.ne

theorem holidays_ofParts {weekdays : List ℕ} {hours : Float} {holidays : List Day}
    (h : ofParts weekdays hours holidays = .ok c) : c.holidays = holidays.foldr insertDay [] := by
  unfold ofParts at h
  split at h
  · cases h
  · split at h
    · cases h
    · split at h
      · cases h
      · cases h
        rfl

/-- **A calendar has as many holidays as it was given distinct ones.** -/
theorem length_holidays_ofParts {weekdays : List ℕ} {hours : Float} {holidays : List Day}
    (h : ofParts weekdays hours holidays = .ok c) :
    c.holidays.length = holidays.toFinset.card := by
  have hdays : c.holidays.toFinset = holidays.toFinset := by
    ext d
    rw [List.mem_toFinset, List.mem_toFinset, holidays_ofParts h, mem_foldr_insertDay]
  rw [← hdays, List.toFinset_card_of_nodup c.nodup_holidays]

/-! ## Working days among whole weeks -/

/-- Each week has all working weekdays. -/
theorem workweekBefore_add_weeks (c : Calendar) (i weeks : ℕ) :
    c.workweekBefore (i + 7 * weeks) = c.workweekBefore i + weeks * c.weekdays.length := by
  have hdiv : (i + 7 * weeks) / 7 = i / 7 + weeks := by omega
  have hmod : (i + 7 * weeks) % 7 = i % 7 := by omega
  rw [workweekBefore, workweekBefore, hdiv, hmod, Nat.add_mul]
  omega

/-- No more days are lost than there are holidays. -/
theorem holidaysBefore_le_length (c : Calendar) (i : ℕ) :
    c.holidaysBefore i ≤ c.holidays.length :=
  List.countP_le_length

/-- Among some weeks there are that many working days, but for the holidays. -/
theorem workingBefore_add_weeks (c : Calendar) (i weeks : ℕ) :
    c.workingBefore i + weeks ≤ c.workingBefore (i + 7 * weeks) + c.holidays.length := by
  have hweekday : weeks * 1 ≤ weeks * c.weekdays.length :=
    Nat.mul_le_mul_left _ (List.length_pos_of_ne_nil c.weekdays_ne_nil)
  have hweeks := c.workweekBefore_add_weeks i weeks
  have hlost := c.holidaysBefore_le_length (i + 7 * weeks)
  unfold workingBefore
  omega

/-- The days among which a number of working days is found, wherever they begin. -/
def reach (c : Calendar) (n : ℕ) : ℕ := 7 * (c.holidays.length + n)

/-- **The days of the reach have that many working days.** -/
theorem workingBefore_add_reach (c : Calendar) (i n : ℕ) :
    c.workingBefore i + n ≤ c.workingBefore (i + c.reach n) := by
  have hweeks := c.workingBefore_add_weeks i (c.holidays.length + n)
  rw [reach]
  omega

/-! ## Walks -/

/-- **A walk to later days** completes its count within its reach, since the reach holds as many
working days as the walk counts. An end behind it would have counted more. -/
theorem advance_within_reach (hn : 1 ≤ n) (h : d.index + c.reach n ≤ dayCount) :
    c.isWorking (c.advance d n) ∧ d ≤ c.advance d n ∧
      (c.advance d n).index < d.index + c.reach n ∧
      c.worked (Set.Icc d (c.advance d n)) = n := by
  have hreach := c.workingBefore_add_reach d.index n
  have htotal := workingBefore_mono (c := c) h
  have henough : (n : ℤ) ≤ c.worked (Set.Ici d) := by
    rw [worked_Ici, rank]
    omega
  obtain ⟨hworking, hle, hcount⟩ := (advance_eq_iff_of_pos (by omega) henough).mp rfl
  refine ⟨hworking, hle, ?_, Int.ofNat_inj.mp hcount⟩
  by_contra hfar
  have hmono := workingBefore_mono (c := c) (Nat.not_lt.mp hfar)
  rw [worked_Icc, workingBefore_index_succ hworking, rank, rank] at hcount
  omega

/-- **A walk to earlier days** completes its count within its reach, for the same reason: an end in
front of the reach would have counted more days than the walk. -/
theorem advance_neg_within_reach (hn : 1 ≤ n) (h : c.reach n ≤ d.index) :
    c.isWorking (c.advance d (-n)) ∧ c.advance d (-n) < d ∧
      d.index ≤ (c.advance d (-n)).index + c.reach n ∧
      c.worked (Set.Ico (c.advance d (-n)) d) = n := by
  have hreach := c.workingBefore_add_reach (d.index - c.reach n) n
  rw [Nat.sub_add_cancel h] at hreach
  have henough : -(-(n : ℤ)) ≤ c.worked (Set.Iio d) := by
    rw [worked_Iio, rank]
    omega
  obtain ⟨hworking, hlt, hcount⟩ := (advance_eq_iff_of_neg (by omega) rfl henough).mp rfl
  rw [Int.neg_neg] at hcount
  refine ⟨hworking, hlt, ?_, Int.ofNat_inj.mp hcount⟩
  by_contra hfar
  have hless := rank_lt_of_index_lt hworking
    (show (c.advance d (-n)).index < d.index - c.reach n by omega)
  rw [worked_Ico, rank] at hcount
  omega

/-- **Walks complete their count within their reach**: as many weeks as they have days and the
calendar has holidays. So a walk that starts this far inside the range ends on a working day, with
as many working days on the way as it was to count, and not because the range does. -/
theorem walks_stay_short {weekdays : List ℕ} {hours : Float} {holidays : List Day}
    (h : ofParts weekdays hours holidays = .ok c) (hn : 1 ≤ n) (d : Day) :
    (d.index + 7 * (holidays.toFinset.card + n) ≤ dayCount →
      c.isWorking (c.advance d n) ∧ d ≤ c.advance d n ∧
        (c.advance d n).index < d.index + 7 * (holidays.toFinset.card + n) ∧
        c.worked (Set.Icc d (c.advance d n)) = n) ∧
    (7 * (holidays.toFinset.card + n) ≤ d.index →
      c.isWorking (c.advance d (-n)) ∧ c.advance d (-n) < d ∧
        d.index ≤ (c.advance d (-n)).index + 7 * (holidays.toFinset.card + n) ∧
        c.worked (Set.Ico (c.advance d (-n)) d) = n) := by
  rw [← length_holidays_ofParts h]
  exact ⟨advance_within_reach hn, advance_neg_within_reach hn⟩

end Calendar

namespace Sample

/-- Monday, 3 June 2024. -/
def firstMonday : Day := ⟨96485169, by decide⟩

/-- Two Mondays off, of which the first is told twice. -/
def mondaysOff : List Day := [firstMonday, ⟨96485183, by decide⟩, firstMonday]

/-- If only Mondays are worked and two of them are off, there are two working days among four weeks
on either side. -/
theorem walks_stay_short_sample :
    ∃ c, Calendar.ofParts [0] 2.0 mondaysOff = .ok c ∧
      c.isWorking (c.advance firstMonday 2) ∧
      (c.advance firstMonday 2).index < firstMonday.index + 28 ∧
      c.worked (Set.Icc firstMonday (c.advance firstMonday 2)) = 2 ∧
      c.isWorking (c.advance firstMonday (-2)) ∧
      firstMonday.index ≤ (c.advance firstMonday (-2)).index + 28 ∧
      c.worked (Set.Ico (c.advance firstMonday (-2)) firstMonday) = 2 := by
  obtain ⟨c, h⟩ : ∃ c, Calendar.ofParts [0] 2.0 mondaysOff = .ok c := ⟨_, by rfl⟩
  have htwo : 7 * (mondaysOff.toFinset.card + 2) = 28 := by decide
  obtain ⟨hahead, hback⟩ := Calendar.walks_stay_short h (show 1 ≤ 2 by decide) firstMonday
  rw [htwo] at hahead hback
  obtain ⟨hworking, -, hwithin, hcount⟩ := hahead (by decide)
  obtain ⟨hworking', -, hwithin', hcount'⟩ := hback (by decide)
  exact ⟨c, h, hworking, hwithin, hcount, hworking', hwithin', hcount'⟩

end Sample

end Workplan
