import Workplan.Proofs.Network.Acyclic
import Workplan.Proofs.Plan.Alike
import Workplan.Proofs.Plan.Schedule
import Workplan.Proofs.Plan.Walk

/-!
# Delays

A project is delayed by later anchors, by longer lags and by shifts to later days. No task of it
is planned earlier for that: each step on the way from the predecessors of a task to its own dates
leads from later days to later days. This holds of lags and shifts of either sign, of tasks with
recorded days, and wherever walks stop at the ends of the range.

## Main definitions

* `Span.IsDelayed`: a span that is no earlier than another at either end
* `Relation.IsDelayed`, `Dependency.IsDelayed`, `Task.IsDelayed`: what is delayed of a project
* `IsDelayed`: a project that may only be delayed against another
* `Plan.IsDelayed`, `Schedule.IsDelayed`: the same of plans and of schedules

## Main results

* `shifted_le_shifted`, `earliestStart_le_earliestStart`: the single steps
* `rel_early`: no early span is earlier in a delayed plan
* `schedule_delayed`: the same tasks of a delayed project get dates, and none earlier ones
-/

namespace Workplan

variable {n : Nat}

/-! ## What is delayed -/

/-- **A span that is no earlier at either end.** -/
structure Span.IsDelayed (a b : Span) : Prop where
  start_le : a.start ≤ b.start
  finish_le : a.finish ≤ b.finish

/-- A relation between the same ends that demands no less. -/
structure Relation.IsDelayed (r s : Relation) : Prop where
  source_eq : r.source = s.source
  target_eq : r.target = s.target
  lag_le : r.lag ≤ s.lag

/-- A dependency between the same tasks that demands no less. -/
structure Dependency.IsDelayed (d e : Dependency) : Prop where
  predecessor_eq : d.predecessor = e.predecessor
  successor_eq : d.successor = e.successor
  relation : d.relation.IsDelayed e.relation

/-- A task of the same days, planned or recorded, with no earlier anchor. -/
structure Task.IsDelayed (t u : Task) : Prop where
  id_eq : t.id = u.id
  duration_eq : t.duration = u.duration
  began_eq : t.began = u.began
  ended_eq : t.ended = u.ended
  anchor : Option.Rel (· ≤ ·) t.anchor u.anchor

theorem rel_le_refl (d? : Option Day) : Option.Rel (· ≤ ·) d? d? := by
  cases d? with
  | none => exact .none
  | some _ => exact .some le_rfl

theorem Task.IsDelayed.refl (t : Task) : t.IsDelayed t where
  id_eq := rfl
  duration_eq := rfl
  began_eq := rfl
  ended_eq := rfl
  anchor := rel_le_refl _

theorem Task.IsDelayed.days_eq {t u : Task} (h : t.IsDelayed u) : t.days = u.days := by
  rw [Task.days, h.duration_eq, Task.days]

/-- **A project that is only delayed against another**: the same tasks and dependencies, with
anchors, lags and a start that are no earlier. -/
structure IsDelayed (tasks : Vector Task n) (dependencies : List Dependency) (settings : Settings)
    (tasks' : Vector Task n) (dependencies' : List Dependency) (settings' : Settings) : Prop where
  task : ∀ i, (tasks.get i).IsDelayed (tasks'.get i)
  dependencies : Corresponds Dependency.IsDelayed dependencies dependencies'
  projectStart : Option.Rel (· ≤ ·) settings.projectStart settings'.projectStart

/-! ## Steps -/

theorem Span.IsDelayed.atEnd_le {a b : Span} (h : a.IsDelayed b) (side : Endpoint) :
    a.atEnd side ≤ b.atEnd side := by
  cases side with
  | start => exact h.start_le
  | finish => exact h.finish_le

/-- A later predecessor and a longer lag leave a later start. -/
theorem Relation.IsDelayed.earliestStart_le_earliestStart {r s : Relation} {c : Calendar}
    {a b : Span} (h : r.IsDelayed s) (hab : a.IsDelayed b) (days : Nat) :
    r.earliestStart c a days ≤ s.earliestStart c b days := by
  have hbound : c.offset (a.atEnd r.source) r.lag ≤ c.offset (b.atEnd s.source) s.lag :=
    Calendar.offset_le_offset (h.source_eq ▸ hab.atEnd_le r.source) h.lag_le
  unfold earliestStart
  rw [← h.target_eq]
  cases r.target with
  | start => exact hbound
  | finish => exact Calendar.startFor_mono hbound

/-- The last of later days is later. -/
theorem rel_max? {l l' : List Day} (h : Corresponds (· ≤ ·) l l') :
    Option.Rel (· ≤ ·) l.max? l'.max? := by
  cases hmax : l.max? with
  | none =>
    cases hmax' : l'.max? with
    | none => exact .none
    | some y =>
      obtain ⟨x, hx, -⟩ := h.back y (List.max?_mem hmax')
      rw [List.max?_eq_none_iff.mp hmax] at hx
      cases hx
  | some x =>
    obtain ⟨y, hy, hxy⟩ := h.forth x (List.max?_mem hmax)
    cases hmax' : l'.max? with
    | none =>
      rw [List.max?_eq_none_iff.mp hmax'] at hy
      cases hy
    | some last => exact .some (hxy.trans ((List.max?_eq_some_iff.mp hmax').2 y hy))

theorem rel_map {α β γ δ : Type} {R : α → β → Prop} {S : γ → δ → Prop} {f : α → γ} {g : β → δ}
    (hfg : ∀ {a b}, R a b → S (f a) (g b)) {a? : Option α} {b? : Option β}
    (h : Option.Rel R a? b?) : Option.Rel S (a?.map f) (b?.map g) := by
  cases h with
  | none => exact .none
  | some hab => exact .some (hfg hab)

theorem rel_orElse {α β : Type} {R : α → β → Prop} {a? c? : Option α} {b? d? : Option β}
    (hab : Option.Rel R a? b?) (hcd : Option.Rel R c? d?) :
    Option.Rel R (a? <|> c?) (b? <|> d?) := by
  cases hab with
  | none => exact hcd
  | some hab => exact .some hab

namespace Plan

variable {p p' : Plan n} {shifts shifts' : Shifts n} {early early' : Vector (Option Span) n}
  {i : Fin n}

/-- **A plan that is only delayed against another.** -/
structure IsDelayed (p p' : Plan n) : Prop where
  calendar_eq : p.calendar = p'.calendar
  projectStart : Option.Rel (· ≤ ·) p.projectStart p'.projectStart
  task : ∀ i, (p.task i).IsDelayed (p'.task i)
  incoming : ∀ i, Corresponds
    (fun link link' => link.predecessor = link'.predecessor ∧
      link.relation.IsDelayed link'.relation)
    (p.network.incoming i) (p'.network.incoming i)

theorem IsDelayed.refl (p : Plan n) : p.IsDelayed p where
  calendar_eq := rfl
  projectStart := rel_le_refl _
  task _ := .refl _
  incoming _ := .of_forall₂ (List.forall₂_same.mpr fun _ _ => ⟨rfl, rfl, rfl, le_rfl⟩)

/-- Later days that are shifted further stay later. A shift by no days leaves its day as it is,
worked or not, so that it is compared with one to an earlier and one to a later day by itself. -/
theorem shifted_le_shifted {d e : Day} {j k : Int} (hde : d ≤ e) (hjk : j ≤ k) :
    p.shifted d j ≤ p.shifted e k := by
  unfold shifted
  split
  · split
    · exact hde
    · exact hde.trans (Calendar.le_offset (by omega))
  · split
    · exact (Calendar.offset_le (by omega)).trans hde
    · exact Calendar.offset_le_offset hde hjk

/-- The last of later finishes is later. -/
theorem rel_lastFinish? (h : ∀ i, Option.Rel Span.IsDelayed (early.get i) (early'.get i)) :
    Option.Rel (· ≤ ·) (lastFinish? early) (lastFinish? early') := by
  refine rel_max? ⟨fun d hd => ?_, fun d hd => ?_⟩
  · obtain ⟨i, own, hown, rfl⟩ := mem_finishes.mp hd
    obtain ⟨own', hown', hle⟩ := exists_of_rel_some_left (hown ▸ h i)
    exact ⟨_, mem_finishes.mpr ⟨i, own', hown', rfl⟩, hle.finish_le⟩
  · obtain ⟨i, own', hown', rfl⟩ := mem_finishes.mp hd
    obtain ⟨own, hown, hle⟩ := exists_of_rel_some_right (hown' ▸ h i)
    exact ⟨_, mem_finishes.mpr ⟨i, own, hown, rfl⟩, hle.finish_le⟩

namespace IsDelayed

variable (h : p.IsDelayed p')

include h

/-! ## Early dates -/

/-- Later predecessors leave later bounds. -/
theorem corresponds_startBounds
    (hearly : ∀ link ∈ p.network.links, link.successor = i →
      Option.Rel Span.IsDelayed (early.get link.predecessor) (early'.get link.predecessor)) :
    Corresponds (· ≤ ·) (p.startBounds i early) (p'.startBounds i early') := by
  rw [startBounds_eq, startBounds_eq]
  refine (h.incoming i).filterMap ?_
  rintro link hlink link' - ⟨hpred, hrelation⟩
  obtain ⟨hlink, hs⟩ := mem_linksInto.mp hlink
  rw [← hpred, ← h.calendar_eq, ← (h.task i).days_eq]
  refine rel_map (fun hab => ?_) (hearly link hlink hs)
  exact hrelation.earliestStart_le_earliestStart hab _

theorem rel_plannedStart? (hshift : shifts.get i ≤ shifts'.get i)
    (hbounds : Corresponds (· ≤ ·) (p.startBounds i early) (p'.startBounds i early')) :
    Option.Rel (· ≤ ·) (p.plannedStart? shifts i early) (p'.plannedStart? shifts' i early') := by
  have hshifted : ∀ {d e : Day}, d ≤ e →
      p.shifted d (shifts.get i) ≤ p'.shifted e (shifts'.get i) := by
    intro d e hde
    have hle := shifted_le_shifted (p := p) hde hshift
    unfold shifted at hle ⊢
    rwa [← h.calendar_eq]
  have hmax := rel_max? hbounds
  unfold plannedStart?
  generalize (p.startBounds i early).max? = bound?, (p'.startBounds i early').max? = bound?' at hmax
  cases hmax with
  | some hle => exact .some (max_le_max (hshifted hle) hle)
  | none =>
    refine rel_map (fun hle => hshifted ?_) (rel_orElse (h.task i).anchor h.projectStart)
    rw [← h.calendar_eq]
    exact Calendar.dayAt_mono (Int.ofNat_le.mpr (Calendar.rank_mono hle))

theorem rel_recordedSpan? {t u : Task} (htask : t.IsDelayed u) {planned planned' : Option Day}
    (hplanned : Option.Rel (· ≤ ·) planned planned') :
    Option.Rel Span.IsDelayed (p.recordedSpan? t planned) (p'.recordedSpan? u planned') := by
  unfold recordedSpan?
  rw [← htask.ended_eq, ← htask.began_eq, ← htask.days_eq, ← h.calendar_eq]
  cases t.ended with
  | some finish => exact .some ⟨le_rfl, le_rfl⟩
  | none =>
    refine rel_map (R := (· ≤ ·)) (fun hle => ⟨hle, Calendar.finishFrom_mono hle⟩) ?_
    cases t.began with
    | none => exact hplanned
    | some began =>
      cases hplanned with
      | none => exact .some le_rfl
      | some hle => exact .some (max_le_max le_rfl hle)

/-- **No early span is earlier in a delayed plan.** Along the order, later predecessors leave later
bounds, and these later starts. -/
theorem rel_early (hp : p.network.IsOrdered) (hp' : p'.network.IsOrdered)
    (hshifts : ∀ i, shifts.get i ≤ shifts'.get i) (i : Fin n) :
    Option.Rel Span.IsDelayed ((p.early shifts).get i) ((p'.early shifts').get i) := by
  induction i using hp.induction_along with
  | step i ih =>
    rw [early_eq hp, early_eq hp', earlySpan?, earlySpan?, ← (h.task i).duration_eq]
    split
    · exact .none
    · exact h.rel_recordedSpan? (h.task i)
        (h.rel_plannedStart? (hshifts i) (h.corresponds_startBounds ih))

end IsDelayed

end Plan

/-! ## Schedules -/

/-- **A schedule that is only delayed against another**: no early dates and no finish are earlier,
and none are missing in either of the two. -/
structure Schedule.IsDelayed (s s' : Schedule) : Prop where
  early : ∀ key, Option.Rel Span.IsDelayed (s.early? key) (s'.early? key)
  finish : Option.Rel (· ≤ ·) s.finish? s'.finish?

theorem Schedule.IsDelayed.isScheduled_iff {s s' : Schedule} (h : s.IsDelayed s') (key : String) :
    s.isScheduled key ↔ s'.isScheduled key := by
  rw [s.isScheduled_iff, s'.isScheduled_iff]
  constructor
  · rintro ⟨a, ha⟩
    obtain ⟨b, hb, -⟩ := exists_of_rel_some_left (ha ▸ h.early key)
    exact ⟨b, hb⟩
  · rintro ⟨b, hb⟩
    obtain ⟨a, ha, -⟩ := exists_of_rel_some_right (hb ▸ h.early key)
    exact ⟨a, ha⟩

namespace Plan.IsDelayed

variable {p p' : Plan n} {dependencies dependencies' : List Dependency} {shifts shifts' : Shifts n}
  {s s' : Schedule} (h : p.IsDelayed p')
  (hnet : Network.ofProject p.network.tasks dependencies = .ok p.network)
  (hnet' : Network.ofProject p'.network.tasks dependencies' = .ok p'.network)
  (hshifts : ∀ i, shifts.get i ≤ shifts'.get i)

include h hnet hnet' hshifts

theorem rel_lastFinish?_early :
    Option.Rel (· ≤ ·) (lastFinish? (p.early shifts)) (lastFinish? (p'.early shifts')) :=
  rel_lastFinish? (h.rel_early (Network.isOrdered_of_ofProject hnet)
    (Network.isOrdered_of_ofProject hnet') hshifts)

/-- **The schedule of a delayed plan is delayed.** -/
theorem isDelayed_schedule (hs : p.schedule shifts = .ok s) (hs' : p'.schedule shifts' = .ok s') :
    s.IsDelayed s' where
  early key := by
    by_cases hkey : ∃ i, (p.task i).id = key
    · obtain ⟨i, rfl⟩ := hkey
      rw [early?_schedule hnet hs, (h.task i).id_eq, early?_schedule hnet' hs']
      exact h.rel_early (Network.isOrdered_of_ofProject hnet)
        (Network.isOrdered_of_ofProject hnet') hshifts i
    · have hkey' : ¬ ∃ i, (p'.task i).id = key := by
        simpa only [← (h.task _).id_eq] using hkey
      rw [early?_schedule_eq_none hnet hs hkey, early?_schedule_eq_none hnet' hs' hkey']
      exact .none
  finish := by
    rw [finish?_schedule hnet hs, finish?_schedule hnet' hs']
    exact h.rel_lastFinish?_early hnet hnet' hshifts

/-- A delayed plan lacks dates exactly if the other one does. -/
theorem exists_error_iff :
    (∃ e, p.schedule shifts = .error e) ↔ ∃ e', p'.schedule shifts' = .error e' := by
  have hfinish := h.rel_lastFinish?_early hnet hnet' hshifts
  simp only [schedule_eq_error_iff]
  generalize lastFinish? (p.early shifts) = a, lastFinish? (p'.early shifts') = b at hfinish
  cases hfinish <;> simp

/-- Either both plans have a schedule, and the one is delayed against the other, or neither has. -/
theorem schedule_cases :
    (∃ s s', p.schedule shifts = .ok s ∧ p'.schedule shifts' = .ok s' ∧
      (∀ key, s.isScheduled key ↔ s'.isScheduled key) ∧ s.IsDelayed s') ∨
    ∃ e e', p.schedule shifts = .error e ∧ p'.schedule shifts' = .error e' := by
  have herror := h.exists_error_iff hnet hnet' hshifts
  cases hs : p.schedule shifts with
  | error e =>
    obtain ⟨e', he'⟩ := herror.mp ⟨e, hs⟩
    exact Or.inr ⟨e, e', rfl, he'⟩
  | ok s =>
    cases hs' : p'.schedule shifts' with
    | error e' =>
      obtain ⟨e, he⟩ := herror.mpr ⟨e', hs'⟩
      rw [hs] at he
      cases he
    | ok s' =>
      have hdelayed := h.isDelayed_schedule hnet hnet' hshifts hs hs'
      exact Or.inl ⟨s, s', rfl, rfl, hdelayed.isScheduled_iff, hdelayed⟩

end Plan.IsDelayed

/-! ## Projects -/

namespace IsDelayed

variable {tasks tasks' : Vector Task n} {dependencies dependencies' : List Dependency}
  {settings settings' : Settings} {net net' : Network n}
  (h : IsDelayed tasks dependencies settings tasks' dependencies' settings')

include h

theorem joins_iff {d e : Dependency} (hde : d.IsDelayed e) {i j : Fin n} :
    d.Joins tasks i j ↔ e.Joins tasks' i j := by
  rw [Dependency.Joins, (h.task i).id_eq, (h.task j).id_eq, hde.predecessor_eq, hde.successor_eq,
    Dependency.Joins]

theorem ids_eq : tasks.toList.map (·.id) = tasks'.toList.map (·.id) := by
  refine List.ext_getElem (by simp) fun k hk _ => ?_
  simpa [Vector.get] using (h.task ⟨k, by simpa using hk⟩).id_eq

theorem isResolved_iff : IsResolved tasks dependencies ↔ IsResolved tasks' dependencies' := by
  constructor
  · intro hresolved e he
    obtain ⟨d, hd, hde⟩ := h.dependencies.back e he
    obtain ⟨i, j, hjoins⟩ := hresolved d hd
    exact ⟨i, j, (h.joins_iff hde).mp hjoins⟩
  · intro hresolved d hd
    obtain ⟨e, he, hde⟩ := h.dependencies.forth d hd
    obtain ⟨i, j, hjoins⟩ := hresolved e he
    exact ⟨i, j, (h.joins_iff hde).mpr hjoins⟩

theorem isAcyclic_iff : IsAcyclic dependencies ↔ IsAcyclic dependencies' := by
  refine exists_congr fun number => ⟨?_, ?_⟩
  · intro hnumber e he
    obtain ⟨d, hd, hde⟩ := h.dependencies.back e he
    rw [← hde.predecessor_eq, ← hde.successor_eq]
    exact hnumber d hd
  · intro hnumber d hd
    obtain ⟨e, he, hde⟩ := h.dependencies.forth d hd
    rw [hde.predecessor_eq, hde.successor_eq]
    exact hnumber e he

/-- Delays do not change whether there is a network. -/
theorem exists_network_iff : (∃ net, Network.ofProject tasks dependencies = .ok net) ↔
    ∃ net', Network.ofProject tasks' dependencies' = .ok net' := by
  rw [Network.exists_network_iff, Network.exists_network_iff, h.ids_eq, h.isResolved_iff,
    h.isAcyclic_iff]

variable (hnet : Network.ofProject tasks dependencies = .ok net)
  (hnet' : Network.ofProject tasks' dependencies' = .ok net')

include hnet hnet'

/-- Links have delayed counterparts between the same tasks. -/
theorem corresponds_incoming (i : Fin n) : Corresponds
    (fun link link' => link.predecessor = link'.predecessor ∧
      link.relation.IsDelayed link'.relation) (net.incoming i) (net'.incoming i) where
  forth link hlink := by
    obtain ⟨hlink, hs⟩ := mem_linksInto.mp hlink
    obtain ⟨d, hd, hjoins, hrelation⟩ := (Network.mem_links_iff hnet).mp hlink
    obtain ⟨e, he, hde⟩ := h.dependencies.forth d hd
    refine ⟨⟨link.predecessor, link.successor, e.relation⟩, mem_linksInto.mpr ⟨?_, hs⟩, rfl,
      hrelation ▸ hde.relation⟩
    exact (Network.mem_links_iff hnet').mpr ⟨e, he, (h.joins_iff hde).mp hjoins, rfl⟩
  back link hlink := by
    obtain ⟨hlink, hs⟩ := mem_linksInto.mp hlink
    obtain ⟨e, he, hjoins, hrelation⟩ := (Network.mem_links_iff hnet').mp hlink
    obtain ⟨d, hd, hde⟩ := h.dependencies.back e he
    refine ⟨⟨link.predecessor, link.successor, d.relation⟩, mem_linksInto.mpr ⟨?_, hs⟩, rfl,
      hrelation ▸ hde.relation⟩
    exact (Network.mem_links_iff hnet).mpr ⟨d, hd, (h.joins_iff hde).mpr hjoins, rfl⟩

/-- **The plan of a delayed project is delayed.** -/
theorem isDelayed_plan (c : Calendar) : (⟨c, net, settings.projectStart⟩ : Plan n).IsDelayed
    ⟨c, net', settings'.projectStart⟩ where
  calendar_eq := rfl
  projectStart := h.projectStart
  task i := by
    rw [Plan.task, Network.tasks_eq hnet, Plan.task, Network.tasks_eq hnet']
    exact h.task i
  incoming := h.corresponds_incoming hnet hnet'

end IsDelayed

/-- **Delays never make anything earlier.** With no earlier anchors, no shorter lags and no lesser
shifts, the same tasks get dates, none of them starts or finishes earlier, and the project does not
finish earlier; or both runs are refused. -/
theorem schedule_delayed {tasks tasks' : Vector Task n}
    {dependencies dependencies' : List Dependency} {settings settings' : Settings}
    {shifts shifts' : Shifts n}
    (h : IsDelayed tasks dependencies settings tasks' dependencies' settings')
    (hshifts : ∀ i, shifts.get i ≤ shifts'.get i) (c : Calendar) :
    (∃ s s', Plan.ofProject c tasks dependencies settings >>= (·.schedule shifts) = .ok s ∧
      Plan.ofProject c tasks' dependencies' settings' >>= (·.schedule shifts') = .ok s' ∧
      (∀ key, s.isScheduled key ↔ s'.isScheduled key) ∧ s.IsDelayed s') ∨
    ∃ e e', Plan.ofProject c tasks dependencies settings >>= (·.schedule shifts) = .error e ∧
      Plan.ofProject c tasks' dependencies' settings' >>= (·.schedule shifts') = .error e' := by
  cases hnet : Network.ofProject tasks dependencies with
  | error e =>
    cases hnet' : Network.ofProject tasks' dependencies' with
    | error e' =>
      rw [Plan.ofProject, hnet, Plan.ofProject, hnet']
      exact Or.inr ⟨e, e', rfl, rfl⟩
    | ok net' =>
      obtain ⟨net, hok⟩ := h.exists_network_iff.mpr ⟨net', hnet'⟩
      rw [hnet] at hok
      cases hok
  | ok net =>
    obtain ⟨net', hnet'⟩ := h.exists_network_iff.mp ⟨net, hnet⟩
    have hplan := h.isDelayed_plan hnet hnet' c
    rw [Plan.ofProject, hnet, Plan.ofProject, hnet']
    obtain rfl := Network.tasks_eq hnet
    obtain rfl := Network.tasks_eq hnet'
    exact hplan.schedule_cases hnet hnet' hshifts

/-! The draft has begun, the review is planned from a day of its own, and the release may overlap
with the draft. Then the review and the project move to the next day, and so does the release. -/

namespace Sample

def underway (review : Day) : Vector Task 3 :=
  #v[{ id := "draft", duration := some 3, began := some monday },
    { id := "review", duration := some 1, anchor := some review },
    { id := "release", duration := some 0 }]

def lagged (lag : Int) : List Dependency :=
  [{ predecessor := "draft", successor := "release", relation := { lag := lag } },
    { predecessor := "review", successor := "release", relation := { target := .finish } }]

/-- Tuesday, 7 May 2024. -/
def nextDay : Day := ⟨monday.index + 1, by decide⟩

theorem isDelayed_underway : IsDelayed (underway monday) (lagged (-1)) settings
    (underway nextDay) (lagged 0) { projectStart := some nextDay } where
  task
    | 0 => .refl _
    | 1 => ⟨rfl, rfl, rfl, rfl, .some (by decide)⟩
    | 2 => .refl _
  dependencies := .of_forall₂
    (.cons ⟨rfl, rfl, rfl, rfl, by decide⟩ (.cons ⟨rfl, rfl, rfl, rfl, by decide⟩ .nil))
  projectStart := .some (by decide)

/-- The review is shifted ahead by fewer days, and the release no more. -/
theorem schedule_delayed_sample :
    ∃ s s', Plan.ofProject .standard (underway monday) (lagged (-1)) settings >>=
        (·.schedule #v[0, -4, -3]) = .ok s ∧
      Plan.ofProject .standard (underway nextDay) (lagged 0) { projectStart := some nextDay } >>=
        (·.schedule #v[0, -1, 0]) = .ok s' ∧
      (∀ key, s.isScheduled key ↔ s'.isScheduled key) ∧ s.IsDelayed s' := by
  obtain ⟨s, hs⟩ : ∃ s, Plan.ofProject .standard (underway monday) (lagged (-1)) settings >>=
      (·.schedule #v[0, -4, -3]) = .ok s := ⟨_, by rfl⟩
  refine (schedule_delayed isDelayed_underway (by decide) .standard).resolve_right ?_
  rintro ⟨e, -, he, -⟩
  rw [hs] at he
  cases he

end Sample

end Workplan
