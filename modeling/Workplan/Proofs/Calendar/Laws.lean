import Workplan.Proofs.Calendar.Exact
import Workplan.Proofs.Calendar.Interval
import Workplan.Proofs.Span

/-!
# Laws of walks and counts

Days are counted one by one and walked to by their ranks, and the two agree: a count is reached
within an interval exactly if the walk that completes it ends there. A walk adds its length to the
rank, so that walks inside the range add up, and a walk back undoes the walk forth. Hence the bounds
that a relation derives in the two directions are one and the same demand. The order of days does
not depend on that, since a walk that leaves the range stops at the end for which it is headed.

## Main results

* `length_daysIn`: the count of an interval is the number of its listed days
* `counts_agree_with_walks`: a count is reached exactly where the walk that completes it ends
* `walks_keep_order`: longer walks from later days end no earlier
* `walks_add_up`: walks are an action of the integers, and those back are adjoint to those forth
-/

namespace Workplan

namespace Calendar

variable {c : Calendar} {d e : Day} {k n : ℤ}

/-! ## Counts and walks -/

/-- **The count of an interval is the number of its listed days.** -/
theorem length_daysIn (c : Calendar) (d e : Day) : (c.daysIn d e).length = c.countIn d e := by
  let stop := min (e.index + 1) Day.last.index
  have hstop : stop ≤ dayCount :=
    (Nat.min_le_right _ _).trans (Nat.le_of_lt Day.last.index_lt)
  have hdays : ((c.daysIn d e).toFinset : Set Day) =
      {x ∈ {x | d.index ≤ x.index ∧ x.index < stop} | c.isWorking x} := by
    ext x
    simp only [daysIn, Finset.mem_coe, List.mem_toFinset, List.mem_filter, Day.mem_upTo,
      Set.mem_ofPred_eq, stop]
  calc (c.daysIn d e).length
      = (c.daysIn d e).toFinset.card := (List.toFinset_card_of_nodup nodup_daysIn).symm
    _ = ((c.daysIn d e).toFinset : Set Day).ncard := (Set.ncard_coe_finset _).symm
    _ = c.worked {x | d.index ≤ x.index ∧ x.index < stop} := by rw [hdays, worked]
    _ = c.countIn d e := worked_between c d.index hstop

/-- In front of the last day of the range, the count of an interval is that of its working days. -/
theorem countIn_eq_worked (he : e < Day.last) : c.countIn d e = c.worked (Set.Icc d e) := by
  rw [countIn_eq he, worked_Icc]

/-- The day of a number lies up to another day exactly if it is counted up to there. A day behind
would have at least the number that the count has reached by then. Numbers past those of all working
days stand for the last day, and no count up to an earlier one comes to them. -/
theorem dayAt_le_iff_lt (hk : 0 ≤ k) (he : e < Day.last) :
    c.dayAt k ≤ e ↔ k < c.workingBefore (e.index + 1) := by
  obtain ⟨k, rfl⟩ := Int.eq_ofNat_of_zero_le hk
  rcases dayAt_cases (c := c) k with ⟨hworking, hrank⟩ | ⟨hlast, hcount⟩
  · constructor
    · intro hle
      have hcount := rank_lt_of_index_lt hworking (Nat.lt_add_one_of_le hle)
      rw [hrank] at hcount
      omega
    · intro hlt
      by_contra hbehind
      have hmono := workingBefore_mono (c := c)
        (show e.index + 1 ≤ (c.dayAt k).index from not_le.mp hbehind)
      rw [← rank, hrank] at hmono
      omega
  · have hmono := workingBefore_mono (c := c) (show e.index + 1 ≤ dayCount from e.index_lt)
    rw [hlast]
    exact iff_of_false he.not_ge (by omega)

theorem le_countIn_iff (hn : 1 ≤ n) (he : e < Day.last) :
    n ≤ c.countIn d e ↔ c.advance d n ≤ e := by
  rw [countIn_eq he, advance_of_pos (by omega), dayAt_le_iff_lt (by omega) he]
  omega

theorem countIn_advance (hn : 1 ≤ n) (h : c.advance d n < Day.last) :
    c.countIn d (c.advance d n) = n := by
  rw [advance_of_pos (by omega)] at h ⊢
  obtain ⟨hworking, hrank⟩ := rank_dayAt_of_nonneg (by omega) h
  rw [countIn_of_isWorking hworking h]
  omega

/-- **A count is reached exactly where the walk that completes it ends.** The days are those listed
from the start on, which need not be a working day nor come first. -/
theorem counts_agree_with_walks (c : Calendar) (start : Day) :
    (∀ finish, (c.daysIn start finish).length = c.countIn start finish) ∧
    (∀ finish < Day.last, ∀ n : ℤ, 1 ≤ n →
      (n ≤ c.countIn start finish ↔ c.advance start n ≤ finish)) ∧
    ∀ n : ℤ, 1 ≤ n → c.advance start n < Day.last →
      c.countIn start (c.advance start n) = n := by
  refine ⟨length_daysIn c start, ?_, ?_⟩
  · intro finish hfinish n hn
    exact le_countIn_iff hn hfinish
  · intro n hn hlast
    exact countIn_advance hn hlast

end Calendar

namespace Sample

/-- Monday to Friday, with Wednesday, 1 May 2024 off. -/
def withMayDay : Calendar :=
  { Calendar.standard with
    holidays := [⟨96485136, by decide⟩]
    holidays_ascending := List.pairwise_singleton _ _ }

/-- Saturday, 27 April 2024. -/
def lastSaturday : Day := ⟨96485132, by decide⟩

/-- Sunday, 5 May 2024. -/
def firstSunday : Day := ⟨96485140, by decide⟩

/-- The third working day from the Saturday on is Thursday, and on Sunday it has been counted. -/
theorem counts_agree_with_walks_sample :
    firstSunday < Day.last ∧ withMayDay.advance lastSaturday 3 ≤ firstSunday ∧
      3 ≤ (withMayDay.countIn lastSaturday firstSunday : ℤ) ∧
      withMayDay.advance lastSaturday 3 < Day.last ∧
      (withMayDay.countIn lastSaturday (withMayDay.advance lastSaturday 3) : ℤ) = 3 := by
  obtain ⟨-, hwalk, hcount⟩ := Calendar.counts_agree_with_walks withMayDay lastSaturday
  have hsunday : firstSunday < Day.last := by decide
  have hends : withMayDay.advance lastSaturday 3 ≤ firstSunday := by decide
  have hlast : withMayDay.advance lastSaturday 3 < Day.last := by decide
  refine ⟨hsunday, hends, ?_, hlast, hcount 3 (by decide) hlast⟩
  exact (hwalk firstSunday hsunday 3 (by decide)).mpr hends

end Sample

namespace Calendar

variable {d e : Day} {m n : ℤ}

/-! ## The order of walks -/

/-- **Longer walks from later days end no earlier**, wherever the days lie and also where a walk
stops at an end of the range. -/
theorem walks_keep_order (c : Calendar) (h : d ≤ e) (hmn : m ≤ n) :
    c.advance d m ≤ c.advance e n ∧ c.offset d m ≤ c.offset e n :=
  ⟨advance_le_advance h hmn, offset_le_offset h hmn⟩

end Calendar

namespace Sample

/-- A walk back from a Saturday, and no walk at all from the Sunday behind it. -/
theorem walks_keep_order_sample :
    (lastSaturday ≤ firstSunday ∧ (-1 : ℤ) ≤ 0) ∧
      withMayDay.advance lastSaturday (-1) ≤ withMayDay.advance firstSunday 0 ∧
      withMayDay.offset lastSaturday (-1) ≤ withMayDay.offset firstSunday 0 := by
  have hdays : lastSaturday ≤ firstSunday := by decide
  have hcounts : (-1 : ℤ) ≤ 0 := by decide
  exact ⟨⟨hdays, hcounts⟩, Calendar.walks_keep_order withMayDay hdays hcounts⟩

end Sample

namespace Calendar

variable {c : Calendar} {d e : Day} {j k : ℤ}

/-! ## Walks forth and back -/

theorem offset_zero_of_isWorking (hd : c.isWorking d) : c.offset d 0 = d :=
  offset_eq_of_rank hd (Int.add_zero _)

/-- Walks add up, if the first of them ends inside the range. -/
theorem offset_add (h : (c.offset d j).IsInner) :
    c.offset (c.offset d j) k = c.offset d (j + k) := by
  calc c.offset (c.offset d j) k
      = c.dayAt (c.rank (c.offset d j) + k) := rfl
    _ = c.dayAt (c.rank d + (j + k)) := by rw [(rank_offset h).2, Int.add_assoc]
    _ = c.offset d (j + k) := rfl

/-- **A walk forth stays in front of a working day exactly if its start stays in front of the walk
back from there.** -/
theorem offset_le_iff_le_offset_neg (he : c.isWorking e) (hforth : (c.offset d k).IsInner)
    (hback : (c.offset e (-k)).IsInner) : c.offset d k ≤ e ↔ d ≤ c.offset e (-k) := by
  obtain ⟨-, hrank⟩ := rank_offset hforth
  obtain ⟨hworking, hrank'⟩ := rank_offset hback
  rw [le_iff_rank_le he, le_iff_rank_le hworking]
  omega

/-- **Walks by working days are an action of the integers**, and a walk back is adjoint to the walk
forth: so the latest start that a relation leaves its predecessor undoes the earliest start that it
leaves its successor. -/
theorem walks_add_up (c : Calendar) :
    (∀ d, c.isWorking d → c.offset d 0 = d) ∧
    (∀ d j k, (c.offset d j).IsInner → c.offset (c.offset d j) k = c.offset d (j + k)) ∧
    (∀ x y k, c.isWorking y → (c.offset x k).IsInner → (c.offset y (-k)).IsInner →
      (c.offset x k ≤ y ↔ x ≤ c.offset y (-k))) ∧
    ∀ (r : Relation) m n a b, c.IsSpan m a → c.IsSpan n b →
      (∀ d ∈ r.earliestWalks c a n, d.IsInner) → (∀ d ∈ r.latestWalks c b m, d.IsInner) →
        (r.earliestStart c a n ≤ b.start ↔ a.start ≤ r.latestStart c b m) := by
  refine ⟨?_, ?_, ?_, ?_⟩
  · intro d hd
    exact offset_zero_of_isWorking hd
  · intro d j k hinner
    exact offset_add hinner
  · intro x y k hy hforth hback
    exact offset_le_iff_le_offset_neg hy hforth hback
  · intro r m n a b ha hb hearliest hlatest
    exact Relation.earliestStart_le_iff ha hb hearliest hlatest

end Calendar

namespace Sample

/-- Friday, 3 May 2024. -/
def firstFriday : Day := ⟨96485138, by decide⟩

/-- Three days from Monday, 29 April 2024 on. -/
def threeDays : Span := withMayDay.spanFrom ⟨96485134, by decide⟩ 3

/-- Two days from Thursday, 2 May 2024 on. -/
def twoDays : Span := withMayDay.spanFrom ⟨96485137, by decide⟩ 2

/-- The two days finish one working day after the three, between which there is the day off. -/
theorem walks_add_up_sample :
    withMayDay.offset (withMayDay.offset lastSaturday 3) (-5) =
        withMayDay.offset lastSaturday (-2) ∧
      (withMayDay.offset lastSaturday 3 ≤ firstFriday ∧
        lastSaturday ≤ withMayDay.offset firstFriday (-3)) ∧
      (⟨.finish, .finish, 1⟩ : Relation).earliestStart withMayDay threeDays 2 ≤ twoDays.start ∧
      threeDays.start ≤ (⟨.finish, .finish, 1⟩ : Relation).latestStart withMayDay twoDays 3 := by
  obtain ⟨-, hadd, hadjoint, hbounds⟩ := Calendar.walks_add_up withMayDay
  have hthree : withMayDay.IsSpan 3 threeDays := ⟨by decide, rfl, by decide⟩
  have htwo : withMayDay.IsSpan 2 twoDays := ⟨by decide, rfl, by decide⟩
  have hforth : withMayDay.offset lastSaturday 3 ≤ firstFriday := by decide
  have hback := (hadjoint _ _ _ (by decide) (by decide) (by decide)).mp hforth
  have hearliest : (⟨.finish, .finish, 1⟩ : Relation).earliestStart withMayDay threeDays 2 ≤
      twoDays.start := by decide
  have hlatest := (hbounds _ _ _ _ _ hthree htwo (by decide) (by decide)).mp hearliest
  exact ⟨hadd _ _ _ (by decide), ⟨hforth, hback⟩, hearliest, hlatest⟩

end Sample

end Workplan
