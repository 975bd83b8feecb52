import Mathlib.Data.Set.Card
import Mathlib.Order.Interval.Set.Nat
import Workplan.Proofs.Calendar.Nearest

/-!
# Walks count exactly

A walk by working days goes by their numbers, and the working days of a stretch have the numbers
from the count at its begin up to the count at its end. So a walk ends on the day that completes
its count. The first working day on or after the day on which a walk starts is counted on the way
to later days and left out on the way to earlier ones. Where there are not enough working days on
one side, the walk stops at that end of the range.

## Main definitions

* `Calendar.worked`: the number of working days among some days
* `Calendar.IsAnchor`: the first working day on or after a day, or the last day of the range
* `Calendar.WalksExactly`: what the walks from a day count

## Main results

* `worked_between`: the working days of a stretch are as many as the count grows along it
* `dayAt_eq_iff`, `dayAt_eq_last`: the day of a number that a working day has, and of one past them
* `isAnchor_onOrAfter`: the day from which walks count
* `walksExactly_onOrAfter`: walks count exactly, in both directions and up to the ends of the range
-/

namespace Workplan.Calendar

variable {c : Calendar} {d a w : Day}

/-- The number of working days among some days. -/
noncomputable def worked (c : Calendar) (days : Set Day) : ℕ := {d ∈ days | c.isWorking d}.ncard

/-- **The day from which walks count**: the first working day on or after a day, or the last day of
the range if there is none. -/
def IsAnchor (c : Calendar) (d a : Day) : Prop :=
  IsLeast {e | c.isWorking e ∧ d ≤ e} a ∨ (∀ e, c.isWorking e → e < d) ∧ a = Day.last

/-- **What the walks from a day count**, where `a` is the day from which they count. -/
structure WalksExactly (c : Calendar) (d a : Day) : Prop where
  advance_zero : c.advance d 0 = d
  /-- On the way to later days, the first working day counts. -/
  advance_pos : ∀ n : ℤ, 0 < n → n ≤ c.worked (Set.Ici d) → ∀ w,
    c.advance d n = w ↔ c.isWorking w ∧ d ≤ w ∧ c.worked (Set.Icc d w) = n
  advance_last : ∀ n : ℤ, c.worked (Set.Ici d) < n → c.advance d n = Day.last
  /-- On the way to earlier days, the first working day is left out. -/
  advance_neg : ∀ n : ℤ, n < 0 → -n ≤ c.worked (Set.Iio a) → ∀ w,
    c.advance d n = w ↔ c.isWorking w ∧ w < a ∧ c.worked (Set.Ico w a) = -n
  advance_first : ∀ n : ℤ, c.worked (Set.Iio a) < -n → c.advance d n = Day.first
  offset_zero : c.offset d 0 = a
  offset_pos : ∀ k : ℤ, 0 < k → k ≤ c.worked (Set.Ioi a) → ∀ w,
    c.offset d k = w ↔ c.isWorking w ∧ a < w ∧ c.worked (Set.Ioc a w) = k
  offset_last : ∀ k : ℤ, c.worked (Set.Ioi a) < k → c.offset d k = Day.last
  offset_neg : ∀ k : ℤ, k < 0 → c.offset d k = c.advance d k

/-! ## Counting among some days -/

/-- The working days of a stretch have the numbers from the count at its begin to that at its
end. Those in front of it have lesser numbers, as the rank grows from one working day to the
next. -/
theorem rank_image_between (c : Calendar) (i : ℕ) {j : ℕ} (hj : j ≤ dayCount) :
    c.rank '' {d | (i ≤ d.index ∧ d.index < j) ∧ c.isWorking d} =
      Set.Ico (c.workingBefore i) (c.workingBefore j) := by
  ext k
  constructor
  · rintro ⟨d, ⟨⟨hi, hlt⟩, hd⟩, rfl⟩
    exact ⟨workingBefore_mono hi, rank_lt_of_index_lt hd hlt⟩
  · rintro ⟨hi, hlt⟩
    obtain ⟨d, hd, hdj, rfl⟩ := exists_rank_eq hj hlt
    refine ⟨d, ⟨⟨?_, hdj⟩, hd⟩, rfl⟩
    by_contra hfront
    exact hi.not_gt (rank_lt_of_index_lt hd (Nat.not_le.mp hfront))

/-- **The working days of a stretch are as many as the count grows along it.** -/
theorem worked_between (c : Calendar) (i : ℕ) {j : ℕ} (hj : j ≤ dayCount) :
    c.worked {d | i ≤ d.index ∧ d.index < j} = c.workingBefore j - c.workingBefore i := by
  have hinj : Set.InjOn c.rank {d | (i ≤ d.index ∧ d.index < j) ∧ c.isWorking d} :=
    fun d hd e he heq => (eq_iff_rank_eq hd.2 he.2).mpr heq
  calc c.worked {d | i ≤ d.index ∧ d.index < j}
      = (c.rank '' {d | (i ≤ d.index ∧ d.index < j) ∧ c.isWorking d}).ncard :=
        hinj.ncard_image.symm
    _ = c.workingBefore j - c.workingBefore i := by
        rw [rank_image_between c i hj, Set.ncard_Ico_nat]

theorem worked_Icc (d w : Day) :
    c.worked (Set.Icc d w) = c.workingBefore (w.index + 1) - c.rank d := by
  rw [rank, ← worked_between c d.index (show w.index + 1 ≤ dayCount from w.index_lt)]
  congr 1 with e
  exact and_congr_right fun _ => Nat.lt_succ_iff.symm

theorem worked_Ioc (a w : Day) : c.worked (Set.Ioc a w) =
    c.workingBefore (w.index + 1) - c.workingBefore (a.index + 1) := by
  rw [← worked_between c (a.index + 1) (show w.index + 1 ≤ dayCount from w.index_lt)]
  congr 1 with e
  exact and_congr_right fun _ => Nat.lt_succ_iff.symm

theorem worked_Ico (w a : Day) : c.worked (Set.Ico w a) = c.rank a - c.rank w :=
  worked_between c w.index (Nat.le_of_lt a.index_lt)

theorem worked_Iio (a : Day) : c.worked (Set.Iio a) = c.rank a := by
  have h := worked_between c 0 (Nat.le_of_lt a.index_lt)
  rw [workingBefore_zero, Nat.sub_zero] at h
  rw [rank, ← h]
  congr 1 with e
  exact (and_iff_right (Nat.zero_le _)).symm

theorem worked_Ici (d : Day) : c.worked (Set.Ici d) = c.workingBefore dayCount - c.rank d := by
  rw [rank, ← worked_between c d.index le_rfl]
  congr 1 with e
  exact (and_iff_left e.index_lt).symm

theorem worked_Ioi (a : Day) :
    c.worked (Set.Ioi a) = c.workingBefore dayCount - c.workingBefore (a.index + 1) := by
  rw [← worked_between c (a.index + 1) le_rfl]
  congr 1 with e
  exact (and_iff_left e.index_lt).symm

/-! ## The day of a number -/

/-- **A number below the count of all working days is the number of the day that bears it.** -/
theorem dayAt_eq_iff {k : ℤ} (hk : 0 ≤ k) (h : k < c.workingBefore dayCount) :
    c.dayAt k = w ↔ c.isWorking w ∧ (c.rank w : ℤ) = k := by
  constructor
  · rintro rfl
    obtain ⟨k, rfl⟩ := Int.eq_ofNat_of_zero_le hk
    rcases dayAt_cases (c := c) k with ⟨hworking, hrank⟩ | ⟨-, hle⟩
    · exact ⟨hworking, congrArg _ hrank⟩
    · omega
  · rintro ⟨hw, rfl⟩
    exact dayAt_rank hw

/-- A number that is past all working days stands for the last day of the range. -/
theorem dayAt_eq_last {k : ℤ} (h : c.workingBefore dayCount ≤ k) : c.dayAt k = Day.last := by
  obtain ⟨k, rfl⟩ := Int.eq_ofNat_of_zero_le (show 0 ≤ k by omega)
  rcases dayAt_cases (c := c) k with ⟨hworking, hrank⟩ | ⟨hlast, -⟩
  · have := rank_lt_workingBefore hworking
    omega
  · exact hlast

/-! ## Exact walks -/

/-- The day from which walks count has the number of the day on which they start. If no working day
is left, walks count from the last day of the range, up to which no more of them are found. -/
theorem rank_anchor (d : Day) : c.rank (c.onOrAfter d) = c.rank d := by
  rcases dayAt_cases (c := c) (c.rank d) with ⟨-, hrank⟩ | ⟨hlast, hle⟩
  · exact hrank
  · change c.onOrAfter d = Day.last at hlast
    rw [hlast]
    exact le_antisymm ((workingBefore_mono (Nat.le_of_lt Day.last.index_lt)).trans hle)
      (rank_mono d.le_last)

theorem isAnchor_onOrAfter (d : Day) : c.IsAnchor d (c.onOrAfter d) := by
  rcases isFirstIn_onOrAfter (c := c) d with hleast | ⟨hnone, hlast⟩
  · exact Or.inl hleast
  · exact Or.inr ⟨fun e he => not_le.mp (hnone e he), hlast⟩

theorem advance_eq_iff_of_pos {n : ℤ} (hn : 0 < n) (h : n ≤ c.worked (Set.Ici d)) :
    c.advance d n = w ↔ c.isWorking w ∧ d ≤ w ∧ c.worked (Set.Icc d w) = n := by
  rw [worked_Ici] at h
  rw [advance_of_pos hn, dayAt_eq_iff (by omega) (by omega)]
  refine and_congr_right fun hw => ?_
  rw [worked_Icc, workingBefore_index_succ hw, le_iff_rank_le hw]
  omega

theorem advance_eq_iff_of_neg {n : ℤ} (hn : n < 0) (ha : c.rank a = c.rank d)
    (h : -n ≤ c.worked (Set.Iio a)) :
    c.advance d n = w ↔ c.isWorking w ∧ w < a ∧ c.worked (Set.Ico w a) = -n := by
  have htotal : c.rank a ≤ c.workingBefore dayCount := workingBefore_mono (Nat.le_of_lt a.index_lt)
  rw [worked_Iio] at h
  rw [advance_of_neg hn, dayAt_eq_iff (by omega) (by omega)]
  refine and_congr_right fun hw => ?_
  rw [worked_Ico, lt_iff_rank_lt hw]
  omega

theorem offset_eq_iff_of_pos {k : ℤ} (hk : 0 < k) (ha : c.isWorking a) (hrank : c.rank a = c.rank d)
    (h : k ≤ c.worked (Set.Ioi a)) :
    c.offset d k = w ↔ c.isWorking w ∧ a < w ∧ c.worked (Set.Ioc a w) = k := by
  rw [worked_Ioi, workingBefore_index_succ ha] at h
  rw [offset, dayAt_eq_iff (by omega) (by omega)]
  refine and_congr_right fun hw => ?_
  rw [worked_Ioc, workingBefore_index_succ hw, workingBefore_index_succ ha, lt_iff_rank_lt ha]
  omega

/-- A walk of more days than there are working days behind its anchor ends on the last day. If there
is no working day to count from, every walk does so: all working days are in front of where it
starts, and none are left. -/
theorem offset_eq_last_of_pos {k : ℤ} (ha : c.IsAnchor d a) (hrank : c.rank a = c.rank d)
    (h : c.worked (Set.Ioi a) < k) : c.offset d k = Day.last := by
  rw [worked_Ioi] at h
  refine dayAt_eq_last ?_
  rcases ha with hleast | ⟨hall, rfl⟩
  · rw [workingBefore_index_succ hleast.1.1] at h
    omega
  · have hlast : ¬ c.isWorking Day.last := fun hworking =>
      (hall Day.last hworking).not_ge d.le_last
    have htotal : c.workingBefore dayCount = c.rank Day.last :=
      workingBefore_index_succ_of_not hlast
    omega

/-- **Walks count exactly**, in both directions and up to the ends of the range. -/
theorem walksExactly_onOrAfter (c : Calendar) (d : Day) :
    c.IsAnchor d (c.onOrAfter d) ∧ c.WalksExactly d (c.onOrAfter d) := by
  have hanchor := isAnchor_onOrAfter (c := c) d
  have hrank := rank_anchor (c := c) d
  refine ⟨hanchor, ?_⟩
  constructor
  case advance_zero => rfl
  case advance_pos => exact fun n hn h w => advance_eq_iff_of_pos hn h
  case advance_last =>
    intro n h
    rw [worked_Ici] at h
    rw [advance_of_pos (by omega), dayAt_eq_last (by omega)]
  case advance_neg => exact fun n hn h w => advance_eq_iff_of_neg hn hrank h
  case advance_first =>
    intro n h
    rw [worked_Iio, hrank] at h
    rw [advance_of_neg (by omega), dayAt_of_neg (by omega)]
  case offset_zero => rw [offset, Int.add_zero, onOrAfter]
  case offset_pos =>
    intro k hk h w
    rcases hanchor with hleast | ⟨-, hlast⟩
    · exact offset_eq_iff_of_pos hk hleast.1.1 hrank h
    · -- behind the last day there is no working day to walk to
      rw [hlast, worked_Ioi, show Day.last.index + 1 = dayCount from rfl, Nat.sub_self] at h
      omega
  case offset_last => exact fun k h => offset_eq_last_of_pos hanchor hrank h
  case offset_neg =>
    intro k hk
    rw [advance_of_neg hk, offset]

end Workplan.Calendar
