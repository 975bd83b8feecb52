import Workplan.Overload
import Workplan.Proofs.Network.Resolution

/-!
# Checks before the search for overloads

The search for overloads cannot fail: what can be refused is the threshold, and an assignment
of a task or a resource that is not there. The schedule is asked for its keys only.

## Main results

* `checkThreshold_eq_ok_iff`, `checkAssignments_eq_ok_iff`: what the two checks accept
* `checkAssignments_congr`: of a schedule, only its keys are checked
* `overloads_eq_ok_iff`: overloads are found exactly if both checks accept
-/

namespace Workplan

variable {schedule schedule' : Schedule} {resources : List Resource}
  {assignments : List Assignment} {threshold : Float}

theorem checkThreshold_eq_ok_iff :
    checkThreshold threshold = .ok () ↔ threshold.isFinite ∧ ¬ threshold ≤ 0.0 := by
  unfold checkThreshold
  split
  · next h =>
    refine iff_of_false nofun ?_
    rintro ⟨hfinite, hpos⟩
    simp [hfinite, hpos] at h
  · next h => simpa using h

/-- A check of all entries of a list accepts exactly if each of them is accepted. -/
theorem forM_eq_ok_iff {α ε : Type} {f : α → Except ε Unit} {l : List α} :
    l.forM f = .ok () ↔ ∀ a ∈ l, f a = .ok () := by
  induction l with
  | nil => exact iff_of_true rfl (List.forall_mem_nil _)
  | cons a rest ih =>
    change f a >>= (fun _ => rest.forM f) = .ok () ↔ _
    rw [bind_eq_ok_iff, List.forall_mem_cons, ← ih]
    exact ⟨fun ⟨_, ha, hrest⟩ => ⟨ha, hrest⟩, fun ⟨ha, hrest⟩ => ⟨(), ha, hrest⟩⟩

/-- **Accepted are assignments of tasks and resources that are there.** -/
theorem checkAssignments_eq_ok_iff :
    checkAssignments schedule resources assignments = .ok () ↔ ∀ a ∈ assignments,
      (schedule.get? a.task).isSome ∧ ∃ resource ∈ resources, resource.id = a.resource := by
  unfold checkAssignments
  rw [forM_eq_ok_iff]
  refine forall₂_congr fun a _ => ?_
  have hany : resources.any (·.id = a.resource) ↔
      ∃ resource ∈ resources, resource.id = a.resource := by simp
  rw [← hany]
  cases schedule.get? a.task with
  | none => exact iff_of_false nofun fun h => nomatch h.1
  | some t =>
    cases resources.any (·.id = a.resource) with
    | false => exact iff_of_false nofun fun h => nomatch h.2
    | true => exact iff_of_true rfl ⟨rfl, rfl⟩

/-- **Of a schedule, only its keys are checked.** -/
theorem checkAssignments_congr
    (h : ∀ key, (schedule.get? key).isNone = (schedule'.get? key).isNone)
    (resources : List Resource) (assignments : List Assignment) :
    checkAssignments schedule resources assignments =
      checkAssignments schedule' resources assignments := by
  simp only [checkAssignments, h]

/-- **Overloads are found exactly if both checks accept.** -/
theorem overloads_eq_ok_iff {c : Calendar} {found : List Overload} :
    overloads c schedule resources assignments threshold = .ok found ↔
      checkThreshold threshold = .ok () ∧ checkAssignments schedule resources assignments = .ok () ∧
        found = overloadsAmong schedule resources threshold
          (Ledger.ofAssignments c schedule assignments).toList := by
  unfold overloads
  simp only [bind_eq_ok_iff]
  constructor
  · rintro ⟨_, hthreshold, _, hassignments, heq⟩
    exact ⟨hthreshold, hassignments, (Except.ok.inj heq).symm⟩
  · rintro ⟨hthreshold, hassignments, rfl⟩
    exact ⟨(), hthreshold, (), hassignments, rfl⟩

end Workplan
