import Workplan.Proofs.Plan.Regular

/-!
# Feasible starts

Starts of the planned tasks are feasible if they are working days that keep every dependency
and the end of the project. The early starts of a regular plan are the least feasible ones and
the late starts the greatest: the first by induction along the order of the network, the
second against it, and each step is one direction of the bound of a relation.

## Main definitions

* `IsFeasible`: starts that keep every dependency and a last day

## Main results

* `IsRegular.isFeasible_early`, `IsRegular.earlyStart_le`: early starts are feasible, and the
  least such
* `IsRegular.isFeasible_late`, `IsRegular.le_lateStart`: late starts are feasible, and the
  greatest such
-/

namespace Workplan

variable {n : Nat}

/-- Starts of the planned tasks of a project that are working days, keep every dependency
between two of them, and let them end by the day `finish`. -/
structure IsFeasible (c : Calendar) (tasks : Vector Task n) (dependencies : List Dependency)
    (planned : Fin n → Prop) (finish : Day) (starts : Fin n → Day) : Prop where
  isWorking : ∀ i, planned i → c.isWorking (starts i)
  holds : ∀ d ∈ dependencies, ∀ i j, d.Joins tasks i j → planned i → planned j →
    d.relation.Holds c (c.spanFrom (starts i) (tasks.get i).days)
      (c.spanFrom (starts j) (tasks.get j).days)
  finish_le : ∀ i, planned i → c.finishFrom (starts i) (tasks.get i).days ≤ finish

namespace Plan

variable {p : Plan n} {dependencies : List Dependency} {shifts : Shifts n}
  {finish finish' : Day} {starts : Fin n → Day} {i : Fin n}

/-- Feasible starts of the planned tasks of a plan. -/
abbrev Feasible (p : Plan n) (dependencies : List Dependency) (finish : Day)
    (starts : Fin n → Day) : Prop :=
  IsFeasible p.calendar p.network.tasks dependencies p.IsPlanned finish starts

/-- Feasible starts make spans of the length of the tasks. -/
theorem Feasible.isSpan (hf : p.Feasible dependencies finish starts) (hlt : finish < Day.last)
    (hi : p.IsPlanned i) : p.calendar.IsSpan (p.task i).days (p.spanAt starts i) :=
  ⟨hf.isWorking i hi, rfl, lt_of_le_of_lt (hf.finish_le i hi) hlt⟩

namespace IsRegular

variable (hr : p.IsRegular dependencies shifts finish)

include hr

/-- Starts are feasible exactly if they keep the links of the network. -/
theorem feasible_iff : p.Feasible dependencies finish' starts ↔
    (∀ i, p.IsPlanned i → p.calendar.isWorking (starts i)) ∧
    (∀ link ∈ p.network.links, p.IsPlanned link.predecessor → p.IsPlanned link.successor →
      link.relation.Holds p.calendar (p.spanAt starts link.predecessor)
        (p.spanAt starts link.successor)) ∧
    ∀ i, p.IsPlanned i → (p.spanAt starts i).finish ≤ finish' := by
  constructor
  · intro hf
    refine ⟨hf.isWorking, ?_, hf.finish_le⟩
    intro link hlink hp hs
    obtain ⟨d, hd, hjoins, hrelation⟩ := (Network.mem_links_iff hr.network_eq).mp hlink
    rw [← hrelation]
    exact hf.holds d hd _ _ hjoins hp hs
  · rintro ⟨hworking, hlinks, hfinish⟩
    refine ⟨hworking, ?_, hfinish⟩
    intro d hd i j hjoins hi hj
    exact hlinks ⟨i, j, d.relation⟩
      ((Network.mem_links_iff hr.network_eq).mpr ⟨d, hd, hjoins, rfl⟩) hi hj

/-! ## Early starts -/

/-- **Early starts are feasible** under any shifts. -/
theorem isFeasible_early : p.Feasible dependencies finish (p.earlyStart shifts) := by
  apply hr.feasible_iff.mpr
  refine ⟨?_, ?_, ?_⟩
  · intro i hi
    exact hr.isWorking_early hi
  · intro link hlink hp hs
    exact (Relation.holds_iff_earliestStart_le (hr.isSpan_early hs)
      (hr.inner_earliest hlink hp hs)).mpr (hr.earliest_le hlink hp hs)
  · intro i hi
    exact hr.early_finish_le hi

/-- **Early starts are the least feasible ones** among those that are as late where a start
comes from a shift or an anchor. Every other early start is a bound that comes from a predecessor,
and along the order this starts no later than in `starts`. -/
theorem earlyStart_le (hf : p.Feasible dependencies finish' starts) (hlt : finish' < Day.last)
    (hroots : ∀ i, p.IsPlanned i → shifts.get i ≠ 0 ∨ p.startBounds i (p.early shifts) = [] →
      p.earlyStart shifts i ≤ starts i) (hi : p.IsPlanned i) :
    p.earlyStart shifts i ≤ starts i := by
  induction i using hr.isOrdered.induction_along with
  | step i ih =>
    by_cases hzero : shifts.get i = 0
    · rcases hr.earlyStart_cases hi with ⟨link, hlink, rfl, hp, bound, rfl, hstart⟩ | hnil
      · rw [hzero, shifted_zero, max_self] at hstart
        have hspan := hf.isSpan hlt hi
        rw [hstart]
        apply (Relation.holds_iff_earliestStart_le hspan (hr.inner_earliest hlink hp hi)).mp
        exact ((hr.feasible_iff.mp hf).2.1 link hlink hp hi).mono (hf.isSpan hlt hp)
          (hr.isSpan_early hp) hspan hspan (ih link hlink rfl hp) le_rfl
      · exact hroots i hi (Or.inr hnil)
    · exact hroots i hi (Or.inl hzero)

/-! ## Late starts -/

/-- **Late starts are feasible.** -/
theorem isFeasible_late : p.Feasible dependencies finish (p.lateStart shifts finish) := by
  apply hr.feasible_iff.mpr
  refine ⟨?_, ?_, ?_⟩
  · intro i hi
    exact hr.isWorking_late hi
  · intro link hlink hp hs
    exact (Relation.holds_iff_le_latestStart (hr.isSpan_late hp) (hr.isSpan_late hs)
      (hr.inner_latest hlink hp hs)).mpr (hr.le_latest hlink hp hs)
  · intro i hi
    exact hr.late_finish_le hi

/-- **Late starts are the greatest feasible ones.** Against the order, each one comes from the end
of the project or is a limit from a successor, which starts no earlier late than in `starts`. -/
theorem le_lateStart (hf : p.Feasible dependencies finish starts) (hi : p.IsPlanned i) :
    starts i ≤ p.lateStart shifts finish i := by
  induction i using hr.isOrdered.induction_against with
  | step i ih =>
    have hspan := hf.isSpan hr.finish_lt hi
    rcases hr.lateStart_cases hi with hlast | ⟨link, hlink, rfl, hs, hstart⟩
    · rw [hlast]
      exact (hspan.finish_le_iff hr.isNumbered_finish (hr.inner_last hi)).mp (hf.finish_le i hi)
    · rw [← hstart]
      apply (Relation.holds_iff_le_latestStart hspan (hr.isSpan_late hs)
        (hr.inner_latest hlink hi hs)).mp
      exact ((hr.feasible_iff.mp hf).2.1 link hlink hi hs).mono hspan hspan
        (hf.isSpan hr.finish_lt hs) (hr.isSpan_late hs) le_rfl (ih link hlink rfl hs)

/-- Early starts do not come behind late starts. -/
theorem earlyStart_le_lateStart (hi : p.IsPlanned i) :
    p.earlyStart shifts i ≤ p.lateStart shifts finish i :=
  hr.le_lateStart hr.isFeasible_early hi

end IsRegular

end Plan

end Workplan
