import Workplan.Proofs.Plan.Equation

/-!
# Plans that are alike

Two plans may hold the same tasks at other positions and the same links in another order. The
early and late span of a task are read off the spans of its neighbours, and of those only the
greatest bound or the least limit counts: so what is alike around two tasks is alike in their
dates. As in a bisimulation it is enough to relate the positions of the two plans such that
links lead from related tasks to related tasks. Neither of the two orders along which the spans
are filled in plays a part, beyond being one along the links.

## Main definitions

* `Corresponds`: each entry of either list has a counterpart in the other
* `Task.IsAlike`: tasks with the same planning data
* `Plan.EarlyAlike`, `Plan.Alike`: plans whose related tasks are alike, with corresponding links
  into them, or on both sides

## Main results

* `Corresponds.filterMap`: what is read off counterparts corresponds
* `EarlyAlike.early_eq`: related tasks have the same early span
* `Alike.late_eq`: related tasks have the same late span
-/

namespace Workplan

/-! ## Corresponding lists -/

section Correspondence

variable {α β γ δ : Type} {S : α → β → Prop} {l : List α} {l' : List β}

/-- Each entry of either list has a counterpart in the other. -/
structure Corresponds (S : α → β → Prop) (l : List α) (l' : List β) : Prop where
  forth : ∀ a ∈ l, ∃ b ∈ l', S a b
  back : ∀ b ∈ l', ∃ a ∈ l, S a b

/-- Lists that agree entry by entry correspond. -/
theorem Corresponds.of_forall₂ (h : List.Forall₂ S l l') : Corresponds S l l' := by
  induction h with
  | nil => exact ⟨nofun, nofun⟩
  | cons hab _ ih =>
    constructor
    · rintro a (_ | ⟨_, ha⟩)
      · exact ⟨_, List.mem_cons_self, hab⟩
      · obtain ⟨b, hb, hab⟩ := ih.forth a ha
        exact ⟨b, List.mem_cons_of_mem _ hb, hab⟩
    · rintro b (_ | ⟨_, hb⟩)
      · exact ⟨_, List.mem_cons_self, hab⟩
      · obtain ⟨a, ha, hab⟩ := ih.back b hb
        exact ⟨a, List.mem_cons_of_mem _ ha, hab⟩

theorem exists_of_rel_some_left {T : γ → δ → Prop} {x : γ} {y? : Option δ}
    (h : Option.Rel T (some x) y?) : ∃ y, y? = some y ∧ T x y := by
  cases h with
  | some hxy => exact ⟨_, rfl, hxy⟩

theorem exists_of_rel_some_right {T : γ → δ → Prop} {x? : Option γ} {y : δ}
    (h : Option.Rel T x? (some y)) : ∃ x, x? = some x ∧ T x y := by
  cases h with
  | some hxy => exact ⟨_, rfl, hxy⟩

/-- Counterparts are read off counterparts. -/
theorem Corresponds.filterMap {T : γ → δ → Prop} {f : α → Option γ} {g : β → Option δ}
    (h : Corresponds S l l') (hfg : ∀ a ∈ l, ∀ b ∈ l', S a b → Option.Rel T (f a) (g b)) :
    Corresponds T (l.filterMap f) (l'.filterMap g) where
  forth x hx := by
    obtain ⟨a, ha, hfa⟩ := List.mem_filterMap.mp hx
    obtain ⟨b, hb, hab⟩ := h.forth a ha
    obtain ⟨y, hgb, hxy⟩ := exists_of_rel_some_left (hfa ▸ hfg a ha b hb hab)
    exact ⟨y, List.mem_filterMap.mpr ⟨b, hb, hgb⟩, hxy⟩
  back y hy := by
    obtain ⟨b, hb, hgb⟩ := List.mem_filterMap.mp hy
    obtain ⟨a, ha, hab⟩ := h.back b hb
    obtain ⟨x, hfa, hxy⟩ := exists_of_rel_some_right (hgb ▸ hfg a ha b hb hab)
    exact ⟨x, List.mem_filterMap.mpr ⟨a, ha, hfa⟩, hxy⟩

/-- What is the same for counterparts is found in either list. -/
theorem Corresponds.mem_filterMap_iff {f : α → Option γ} {g : β → Option γ}
    (h : Corresponds S l l') (hfg : ∀ a ∈ l, ∀ b ∈ l', S a b → f a = g b) (x : γ) :
    x ∈ l.filterMap f ↔ x ∈ l'.filterMap g := by
  have hsame : Corresponds Eq (l.filterMap f) (l'.filterMap g) := by
    refine h.filterMap fun a ha b hb hab => ?_
    rw [hfg a ha b hb hab]
    cases g b with
    | none => exact .none
    | some y => exact .some rfl
  constructor
  · intro hx
    obtain ⟨_, hy, rfl⟩ := hsame.forth x hx
    exact hy
  · intro hx
    obtain ⟨_, hy, rfl⟩ := hsame.back x hx
    exact hy

/-- The greatest entry does not depend on order and repetition. -/
theorem max?_congr {l l' : List Day} (h : ∀ x, x ∈ l ↔ x ∈ l') : l.max? = l'.max? :=
  Option.ext fun x => by simp only [List.max?_eq_some_iff, h]

/-- Neither does the least of an entry and some others. -/
theorem foldl_min_congr {l l' : List Day} (h : ∀ x, x ∈ l ↔ x ∈ l') (a : Day) :
    l.foldl min a = l'.foldl min a := by
  have hmin : (a :: l).min? = (a :: l').min? :=
    Option.ext fun x => by simp only [List.min?_eq_some_iff, List.mem_cons, h]
  rw [List.min?_cons', List.min?_cons'] at hmin
  exact Option.some.inj hmin

end Correspondence

/-- Tasks with the same planning data. -/
structure Task.IsAlike (t u : Task) : Prop where
  anchor_eq : t.anchor = u.anchor
  duration_eq : t.duration = u.duration
  began_eq : t.began = u.began
  ended_eq : t.ended = u.ended

theorem Task.IsAlike.symm {t u : Task} (h : t.IsAlike u) : u.IsAlike t :=
  ⟨h.anchor_eq.symm, h.duration_eq.symm, h.began_eq.symm, h.ended_eq.symm⟩

theorem Task.IsAlike.days_eq {t u : Task} (h : t.IsAlike u) : t.days = u.days := by
  rw [Task.days, h.duration_eq, Task.days]

namespace Plan

variable {n m : Nat} {p : Plan n} {p' : Plan m} {R : Fin n → Fin m → Prop}
  {shifts : Shifts n} {shifts' : Shifts m} {i : Fin n} {j : Fin m}

/-- **Plans alike up to related tasks**: these have the same planning data, and the links into
them come from related tasks. -/
structure EarlyAlike (p : Plan n) (p' : Plan m) (R : Fin n → Fin m → Prop) : Prop where
  calendar_eq : p.calendar = p'.calendar
  projectStart_eq : p.projectStart = p'.projectStart
  task : ∀ {i j}, R i j → (p.task i).IsAlike (p'.task j)
  incoming : ∀ {i j}, R i j → Corresponds
    (fun link link' => R link.predecessor link'.predecessor ∧ link.relation = link'.relation)
    (p.network.incoming i) (p'.network.incoming j)

/-- **Plans alike around related tasks**: the links out of them lead to related tasks, too. -/
structure Alike (p : Plan n) (p' : Plan m) (R : Fin n → Fin m → Prop) : Prop
    extends EarlyAlike p p' R where
  outgoing : ∀ {i j}, R i j → Corresponds
    (fun link link' => R link.successor link'.successor ∧ link.relation = link'.relation)
    (p.network.outgoing i) (p'.network.outgoing j)

/-! ## Early dates -/

namespace EarlyAlike

variable (h : EarlyAlike p p' R) {early : Vector (Option Span) n} {early' : Vector (Option Span) m}

include h

/-- Related tasks have the same bounds, given the same spans of their predecessors. -/
theorem mem_startBounds_iff (hR : R i j)
    (hearly : ∀ link ∈ p.network.links, link.successor = i →
      ∀ k, R link.predecessor k → early.get link.predecessor = early'.get k) (x : Day) :
    x ∈ p.startBounds i early ↔ x ∈ p'.startBounds j early' := by
  rw [startBounds_eq, startBounds_eq]
  apply (h.incoming hR).mem_filterMap_iff
  rintro link hlink link' - ⟨hpred, hrelation⟩
  obtain ⟨hlink, hs⟩ := mem_linksInto.mp hlink
  rw [hearly link hlink hs _ hpred, hrelation, h.calendar_eq, (h.task hR).days_eq]

theorem plannedStart?_eq (hR : R i j) (hshift : shifts.get i = shifts'.get j)
    (hbounds : ∀ x, x ∈ p.startBounds i early ↔ x ∈ p'.startBounds j early') :
    p.plannedStart? shifts i early = p'.plannedStart? shifts' j early' := by
  simp only [plannedStart?, shifted, max?_congr hbounds, hshift, (h.task hR).anchor_eq,
    h.projectStart_eq, h.calendar_eq]

theorem recordedSpan?_eq {t u : Task} (htask : t.IsAlike u) (planned : Option Day) :
    p.recordedSpan? t planned = p'.recordedSpan? u planned := by
  simp only [recordedSpan?, htask.ended_eq, htask.began_eq, htask.days_eq, h.calendar_eq]

/-- **Related tasks have the same early span**, under shifts that move them alike. The induction is
along the order of the one plan, and says this of all tasks of the other one that are related. -/
theorem early_eq (hp : p.network.IsOrdered) (hp' : p'.network.IsOrdered)
    (hshift : ∀ {i j}, R i j → shifts.get i = shifts'.get j) (hR : R i j) :
    (p.early shifts).get i = (p'.early shifts').get j := by
  induction i using hp.induction_along generalizing j with
  | step i ih =>
    have hbounds := h.mem_startBounds_iff hR fun link hlink hs k hk => ih link hlink hs hk
    rw [Plan.early_eq hp, Plan.early_eq hp', earlySpan?, earlySpan?, (h.task hR).duration_eq,
      h.plannedStart?_eq hR (hshift hR) hbounds, h.recordedSpan?_eq (h.task hR)]

end EarlyAlike

/-! ## Late dates -/

namespace Alike

variable (h : Alike p p' R) {early late : Vector (Option Span) n}
  {early' late' : Vector (Option Span) m}

include h

/-- Related tasks have the same limits, given the same spans of their successors. -/
theorem mem_startLimits_iff (hR : R i j)
    (hlate : ∀ link ∈ p.network.links, link.predecessor = i →
      ∀ k, R link.successor k → late.get link.successor = late'.get k) (days : Nat) (x : Day) :
    x ∈ p.startLimits i days late ↔ x ∈ p'.startLimits j days late' := by
  rw [startLimits_eq, startLimits_eq]
  apply (h.outgoing hR).mem_filterMap_iff
  rintro link hlink link' - ⟨hsucc, hrelation⟩
  obtain ⟨hlink, hp⟩ := mem_linksOutOf.mp hlink
  rw [hlate link hlink hp _ hsucc, hrelation, h.calendar_eq]

/-- **Related tasks have the same late span**, if they have the same early span. -/
theorem late_eq (hp : p.network.IsOrdered) (hp' : p'.network.IsOrdered)
    (hearly : ∀ {i j}, R i j → early.get i = early'.get j) (finish : Day) (hR : R i j) :
    (p.late early finish).get i = (p'.late early' finish).get j := by
  induction i using hp.induction_against generalizing j with
  | step i ih =>
    have hlimits := h.mem_startLimits_iff hR fun link hlink hs k hk => ih link hlink hs hk
    simp only [Plan.late_eq hp, Plan.late_eq hp', lateSpan?, keptDays, hearly hR, h.calendar_eq,
      (h.task hR).days_eq, foldl_min_congr (hlimits _)]

end Alike

end Plan

end Workplan
