import Mathlib.Order.MinMax
import Workplan.Calendar.Walk

/-!
# Ranks of working days

Days are ordered along the range, and a working day is known by its rank, the number of
working days before it. Every move by working days is an addition to the rank as long as it
ends inside the range; past its ends it stops at the first or the last day.

## Main definitions

* `Day.IsInner`: a day strictly between the ends of the range

## Main results

* `le_iff_rank_le`: up to a working day, days compare as their ranks do
* `dayAt_le_iff`, `le_dayAt`: where the numbered day lies, also past the ends of the range
* `rank_dayAt`, `rank_offset`: the rank of a move that ends inside the range
* `offset_le_offset`, `advance_le_advance`: longer moves from later days end no earlier
* `dayAt_sub_one_cases`, `onOrBefore_cases`: the last working day in front of a position and up to a
  day
-/

namespace Workplan

namespace Day

instance : LinearOrder Day where
  le_refl a := Nat.le_refl a.index
  le_trans _ _ _ := Nat.le_trans
  lt_iff_le_not_ge _ _ := Nat.lt_iff_le_and_not_ge
  le_antisymm _ _ h h' := Day.ext (Nat.le_antisymm h h')
  le_total a b := Nat.le_total a.index b.index
  toDecidableLE := inferInstance
  compare_eq_compareOfLessAndEq a b := by
    have heq : a = b ↔ a.index = b.index := ⟨congrArg Day.index, Day.ext⟩
    change compare a.index b.index = _
    rw [Nat.compare_eq_ite_lt]
    simp only [compareOfLessAndEq, lt_def, heq]
    split
    · rfl
    · split <;> split <;> first | rfl | omega

instance : Std.LawfulEqOrd Day := ⟨compare_eq_iff_eq.mp⟩

theorem first_le (d : Day) : first ≤ d := Nat.zero_le _

theorem le_last (d : Day) : d ≤ last := Nat.le_pred_of_lt d.index_lt

/-- A day strictly between the ends of the range. -/
def IsInner (d : Day) : Prop := first < d ∧ d < last

instance (d : Day) : Decidable d.IsInner := inferInstanceAs (Decidable (_ ∧ _))

end Day

namespace Calendar

variable {c : Calendar} {d e : Day}

/-! ## Ranks -/

theorem rank_mono (h : d ≤ e) : c.rank d ≤ c.rank e := workingBefore_mono h

/-- No more days are counted than there are. -/
theorem workingBefore_le (i : Nat) : c.workingBefore i ≤ i := by
  induction i with
  | zero => simp
  | succ i ih =>
    rw [workingBefore_succ]
    split <;> omega

/-- The count steps up behind a working day. -/
theorem workingBefore_index_succ (hd : c.isWorking d) :
    c.workingBefore (d.index + 1) = c.rank d + 1 := by
  rw [workingBefore_succ, isWorkingAt_index, hd, if_pos rfl, rank]

/-- The count stays behind a day that is not worked. -/
theorem workingBefore_index_succ_of_not (hd : ¬ c.isWorking d) :
    c.workingBefore (d.index + 1) = c.rank d := by
  rw [workingBefore_succ, isWorkingAt_index, if_neg hd, Nat.add_zero, rank]

/-- A working day is one of those that are counted at each position behind it. -/
theorem rank_lt_of_index_lt {i : Nat} (hd : c.isWorking d) (h : d.index < i) :
    c.rank d < c.workingBefore i := by
  have hstep := workingBefore_mono (c := c) (show d.index + 1 ≤ i from h)
  rwa [workingBefore_index_succ hd] at hstep

theorem rank_lt_rank (hd : c.isWorking d) (h : d < e) : c.rank d < c.rank e :=
  rank_lt_of_index_lt hd h

/-- A working day is one of all that are counted. -/
theorem rank_lt_workingBefore (hd : c.isWorking d) : c.rank d < c.workingBefore dayCount :=
  rank_lt_of_index_lt hd d.index_lt

/-- **Up to a working day, days compare as their ranks do.** -/
theorem le_iff_rank_le (he : c.isWorking e) : d ≤ e ↔ c.rank d ≤ c.rank e := by
  refine ⟨rank_mono, ?_⟩
  intro h
  by_contra hlt
  exact absurd (rank_lt_rank he (not_le.mp hlt)) (Nat.not_lt.mpr h)

theorem lt_iff_rank_lt (hd : c.isWorking d) : d < e ↔ c.rank d < c.rank e := by
  rw [← not_le, ← Nat.not_le, le_iff_rank_le hd]

theorem eq_iff_rank_eq (hd : c.isWorking d) (he : c.isWorking e) :
    d = e ↔ c.rank d = c.rank e := by
  rw [le_antisymm_iff, le_iff_rank_le he, le_iff_rank_le hd, ← Nat.le_antisymm_iff]

/-! ## The numbered day -/

/-- Every number below the count at a position is the rank of a working day in front of it. As the
count grows by one at a time, each number is passed at some day of the stretch, and past a working
day only. -/
theorem exists_rank_eq {i k : Nat} (hi : i ≤ dayCount) (h : k < c.workingBefore i) :
    ∃ d : Day, c.isWorking d ∧ d.index < i ∧ c.rank d = k := by
  induction i with
  | zero => simp at h
  | succ i ih =>
    let d : Day := ⟨i, hi⟩
    rcases Nat.lt_or_ge k (c.workingBefore i) with hlt | hge
    · obtain ⟨e, he, hei, hk⟩ := ih (Nat.le_of_succ_le hi) hlt
      exact ⟨e, he, Nat.lt_succ_of_lt hei, hk⟩
    · by_cases hd : c.isWorking d
      · have := workingBefore_index_succ hd
        exact ⟨d, hd, Nat.lt_succ_self i, by simp only [d, rank] at this ⊢; omega⟩
      · have := workingBefore_index_succ_of_not hd
        simp only [d, rank] at this
        omega

theorem dayAt_of_neg {k : Int} (h : k < 0) : c.dayAt k = Day.first := if_pos h

theorem dayAt_rank (hd : c.isWorking d) : c.dayAt (c.rank d) = d := by
  have h : c.nth? (c.rank d) = some d := nth?_eq_some_iff.mpr ⟨hd, rfl⟩
  rw [dayAt, if_neg (by omega), Int.toNat_natCast, h, Option.getD_some]

/-- A numbered day is the working day of that rank, or its number leads past the range: the search
then finds no such day, and the last day of the range stands for it. -/
theorem dayAt_cases (k : Nat) :
    (c.isWorking (c.dayAt k) ∧ c.rank (c.dayAt k) = k) ∨
      (c.dayAt k = Day.last ∧ c.workingBefore dayCount ≤ k) := by
  rcases Nat.lt_or_ge k (c.workingBefore dayCount) with hlt | hge
  · obtain ⟨d, hd, -, rfl⟩ := exists_rank_eq le_rfl hlt
    rw [dayAt_rank hd]
    exact Or.inl ⟨hd, rfl⟩
  · refine Or.inr ⟨?_, hge⟩
    rw [dayAt, if_neg (by omega), Int.toNat_natCast]
    cases h : c.nth? k with
    | none => rfl
    | some d =>
      obtain ⟨hd, hk⟩ := nth?_eq_some_iff.mp h
      have hlt := rank_lt_workingBefore hd
      rw [rank] at hlt
      omega

/-- The day numbered right below a count is the first day of the range if nothing is counted, and
otherwise the working day with which the count is reached. -/
theorem dayAt_sub_one_cases {i : Nat} (hi : i ≤ dayCount) :
    (c.workingBefore i = 0 ∧ c.dayAt (c.workingBefore i - 1) = Day.first) ∨
      (c.isWorking (c.dayAt (c.workingBefore i - 1)) ∧
        (c.dayAt (c.workingBefore i - 1)).index < i ∧
        c.rank (c.dayAt (c.workingBefore i - 1)) + 1 = c.workingBefore i) := by
  rcases Nat.eq_zero_or_pos (c.workingBefore i) with h | h
  · refine Or.inl ⟨h, ?_⟩
    rw [h]
    exact dayAt_of_neg (by decide)
  · obtain ⟨e, he, hfront, hk⟩ :=
      exists_rank_eq (c := c) (k := c.workingBefore i - 1) hi (by omega)
    rw [show (c.workingBefore i : Int) - 1 = c.rank e by omega, dayAt_rank he]
    exact Or.inr ⟨he, hfront, by omega⟩

/-- The day numbered by a count that is not negative has it for its rank, unless it is the
last one. -/
theorem rank_dayAt_of_nonneg {k : Int} (hk : 0 ≤ k) (h : c.dayAt k < Day.last) :
    c.isWorking (c.dayAt k) ∧ (c.rank (c.dayAt k) : Int) = k := by
  obtain ⟨k, rfl⟩ := Int.eq_ofNat_of_zero_le hk
  rcases dayAt_cases (c := c) k with hd | hd
  · exact ⟨hd.1, congrArg _ hd.2⟩
  · exact absurd hd.1 h.ne

/-- **A numbered day inside the range is the working day of that rank.** -/
theorem rank_dayAt {k : Int} (h : (c.dayAt k).IsInner) :
    c.isWorking (c.dayAt k) ∧ (c.rank (c.dayAt k) : Int) = k := by
  refine rank_dayAt_of_nonneg (Int.not_lt.mp fun hk => ?_) h.2
  exact h.1.ne (dayAt_of_neg hk).symm

theorem le_dayAt {k : Int} (h : c.rank d ≤ k) : d ≤ c.dayAt k := by
  obtain ⟨k, rfl⟩ := Int.eq_ofNat_of_zero_le (show 0 ≤ k by omega)
  rcases dayAt_cases (c := c) k with ⟨hw, hk⟩ | ⟨hk, -⟩
  · exact (le_iff_rank_le hw).mpr (by omega)
  · rw [hk]
    exact d.le_last

theorem dayAt_le {k : Int} (hd : c.isWorking d) (h : k ≤ c.rank d) : c.dayAt k ≤ d := by
  rcases Int.lt_or_le k 0 with hk | hk
  · rw [dayAt_of_neg hk]
    exact d.first_le
  · obtain ⟨k, rfl⟩ := Int.eq_ofNat_of_zero_le hk
    rcases dayAt_cases (c := c) k with ⟨-, hr⟩ | ⟨-, hr⟩
    · exact (le_iff_rank_le hd).mpr (by omega)
    · have := rank_lt_workingBefore hd
      omega

/-- **A numbered day lies up to a working day exactly if its number does**, also where the
number leads past the ends of the range. -/
theorem dayAt_le_iff {k : Int} (hd : c.isWorking d) (hlt : d < Day.last) :
    c.dayAt k ≤ d ↔ k ≤ c.rank d := by
  refine ⟨?_, dayAt_le hd⟩
  intro h
  rcases Int.lt_or_le k 0 with hk | hk
  · omega
  · have hr := (rank_dayAt_of_nonneg hk (lt_of_le_of_lt h hlt)).2
    have := rank_mono (c := c) h
    omega

theorem dayAt_mono {j k : Int} (h : j ≤ k) : c.dayAt j ≤ c.dayAt k := by
  rcases Int.lt_or_le k 0 with hk | hk
  · rw [dayAt_of_neg hk, dayAt_of_neg (Int.lt_of_le_of_lt h hk)]
  · obtain ⟨k, rfl⟩ := Int.eq_ofNat_of_zero_le hk
    rcases dayAt_cases (c := c) k with ⟨hw, hrank⟩ | ⟨hlast, -⟩
    · exact dayAt_le hw (by rwa [hrank])
    · rw [hlast]
      exact Day.le_last _

/-! ## Moves -/

/-- **A move that ends inside the range adds its length to the rank.** -/
theorem rank_offset {k : Int} (h : (c.offset d k).IsInner) :
    c.isWorking (c.offset d k) ∧ (c.rank (c.offset d k) : Int) = c.rank d + k :=
  rank_dayAt h

theorem offset_le_iff {k : Int} (he : c.isWorking e) (hlt : e < Day.last) :
    c.offset d k ≤ e ↔ c.rank d + k ≤ c.rank e :=
  dayAt_le_iff he hlt

theorem le_offset {k : Int} (h : 0 ≤ k) : d ≤ c.offset d k := le_dayAt (by omega)

theorem offset_eq_of_rank {k : Int} (he : c.isWorking e) (h : c.rank d + k = c.rank e) :
    c.offset d k = e := by
  rw [offset, h, dayAt_rank he]

/-- A walk back ends no later than it begins. It leaves the range at its first day, or comes to a
number that a working day in front has. -/
theorem offset_le {k : Int} (h : k < 0) : c.offset d k ≤ d := by
  rcases Int.lt_or_le (c.rank d + k) 0 with hneg | hnonneg
  · rw [offset, dayAt_of_neg hneg]
    exact d.first_le
  · obtain ⟨e, he, hlt, hrank⟩ := exists_rank_eq (c := c) (k := (c.rank d + k).toNat)
      (Nat.le_of_lt d.index_lt) (show _ < c.rank d by omega)
    rw [offset_eq_of_rank he (by omega)]
    exact Nat.le_of_lt hlt

/-- A longer walk from a later day ends no earlier. -/
theorem offset_le_offset {j k : Int} (h : d ≤ e) (hk : j ≤ k) : c.offset d j ≤ c.offset e k :=
  dayAt_mono (Int.add_le_add (Int.ofNat_le.mpr (rank_mono h)) hk)

theorem offset_mono {k : Int} (h : d ≤ e) : c.offset d k ≤ c.offset e k :=
  offset_le_offset h le_rfl

/-! ## Completing a count -/

theorem advance_of_pos {n : Int} (h : 0 < n) : c.advance d n = c.dayAt (c.rank d + (n - 1)) := by
  rw [advance, if_neg h.ne', if_pos h, offset]

theorem advance_of_neg {n : Int} (h : n < 0) : c.advance d n = c.dayAt (c.rank d + n) := by
  rw [advance, if_neg h.ne, if_neg h.not_gt, offset]

theorem le_advance {n : Int} (h : 0 ≤ n) : d ≤ c.advance d n := by
  rcases h.eq_or_lt with rfl | hpos
  · exact le_rfl
  · rw [advance_of_pos hpos]
    exact le_dayAt (by omega)

theorem advance_le {n : Int} (h : n ≤ 0) : c.advance d n ≤ d := by
  rcases h.eq_or_lt with rfl | hneg
  · exact le_rfl
  · rw [advance_of_neg hneg]
    exact offset_le hneg

/-- **More days from a later day on are complete no earlier**, also where one count goes back and
the other one forward. -/
theorem advance_le_advance {m n : Int} (h : d ≤ e) (hmn : m ≤ n) :
    c.advance d m ≤ c.advance e n := by
  have hrank := rank_mono (c := c) h
  rcases Int.lt_or_le 0 m with hm | hm
  · rw [advance_of_pos hm, advance_of_pos (hm.trans_le hmn)]
    exact dayAt_mono (by omega)
  · rcases Int.lt_or_le n 0 with hn | hn
    · rw [advance_of_neg (hmn.trans_lt hn), advance_of_neg hn]
      exact dayAt_mono (by omega)
    · -- no days at all may lead to no working day, but the two days lie between
      exact (advance_le hm).trans (h.trans (le_advance hn))

/-! ## The nearest working days -/

theorem rank_onOrAfter (h : (c.onOrAfter d).IsInner) :
    c.isWorking (c.onOrAfter d) ∧ c.rank (c.onOrAfter d) = c.rank d :=
  ⟨(rank_dayAt h).1, Int.ofNat_inj.mp (rank_dayAt h).2⟩

theorem onOrBefore_of_isWorking (hd : c.isWorking d) : c.onOrBefore d = d := by
  have h : (c.workingBefore (d.index + 1) : Int) - 1 = c.rank d := by
    rw [workingBefore_index_succ hd]
    omega
  rw [onOrBefore, h, dayAt_rank hd]

/-- The last working day up to a day is the first day of the range if there is none, and
otherwise the working day right before the next step of the count. -/
theorem onOrBefore_cases (d : Day) :
    (c.workingBefore (d.index + 1) = 0 ∧ c.onOrBefore d = Day.first) ∨
      (c.isWorking (c.onOrBefore d) ∧ c.onOrBefore d ≤ d ∧
        c.rank (c.onOrBefore d) + 1 = c.workingBefore (d.index + 1)) := by
  rcases dayAt_sub_one_cases (c := c) (i := d.index + 1) d.index_lt with
    hnone | ⟨hworking, hlt, hrank⟩
  · exact Or.inl hnone
  · exact Or.inr ⟨hworking, Nat.lt_succ_iff.mp hlt, hrank⟩

/-! ## Counting in an interval -/

theorem countIn_eq (h : e < Day.last) :
    c.countIn d e = c.workingBefore (e.index + 1) - c.rank d := by
  rw [countIn, Nat.min_eq_left h]

theorem countIn_of_isWorking (he : c.isWorking e) (h : e < Day.last) :
    c.countIn d e = c.rank e + 1 - c.rank d := by
  rw [countIn_eq h, workingBefore_index_succ he]

/-- The count of an interval is that of its days, except that the last day of the range is
never counted. So nothing is lost up to a last day that is not worked. -/
theorem countIn_eq_of_not (h : ¬ (e = Day.last ∧ c.isWorking Day.last)) :
    c.countIn d e = c.workingBefore (e.index + 1) - c.rank d := by
  rcases lt_or_eq_of_le e.le_last with hlt | rfl
  · exact countIn_eq hlt
  · rw [workingBefore_index_succ_of_not fun hworking => h ⟨rfl, hworking⟩]
    rfl

theorem countIn_le (d e : Day) : c.countIn d e ≤ c.workingBefore (e.index + 1) - c.rank d :=
  Nat.sub_le_sub_right (workingBefore_mono (Nat.min_le_left _ _)) _

theorem countIn_mono {e' : Day} (h : e ≤ e') : c.countIn d e ≤ c.countIn d e' := by
  have hmin : min (e.index + 1) Day.last.index ≤ min (e'.index + 1) Day.last.index := by
    have : e.index ≤ e'.index := h
    omega
  exact Nat.sub_le_sub_right (workingBefore_mono hmin) _

/-- An interval counts as many days as the one up to its last working day. The last day of the
range is counted in neither, and it is its own last working day if it is worked. -/
theorem countIn_onOrBefore (d e : Day) : c.countIn d (c.onOrBefore e) = c.countIn d e := by
  rcases onOrBefore_cases (c := c) e with ⟨hzero, hfirst⟩ | ⟨hworking, hle, hrank⟩
  · have hcount := countIn_le (c := c) d e
    have hcount' := countIn_mono (c := c) (d := d) e.first_le
    rw [hzero] at hcount
    rw [hfirst]
    omega
  · by_cases hlast : e = Day.last ∧ c.isWorking Day.last
    · rw [onOrBefore_of_isWorking (hlast.1 ▸ hlast.2)]
    · have hlast' : ¬ (c.onOrBefore e = Day.last ∧ c.isWorking Day.last) := fun hboth =>
        hlast ⟨le_antisymm e.le_last (hboth.1 ▸ hle), hboth.2⟩
      rw [countIn_eq_of_not hlast, countIn_eq_of_not hlast', workingBefore_index_succ hworking,
        hrank]

end Calendar

end Workplan
