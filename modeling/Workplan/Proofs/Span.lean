import Workplan.Proofs.Calendar.Rank
import Workplan.Span

/-!
# Spans by rank

Inside the range a span is a rank and a number of days, and a relation between two spans is
an inequality between ranks. The bound that a relation derives in one direction is exactly
the inverse of the bound it derives in the other one.

## Main definitions

* `Calendar.IsNumbered`: the working day of a rank, strictly inside the range
* `Calendar.spanFrom`, `Calendar.IsSpan`: the span of a number of working days
* `Relation.Holds`: what a relation demands of two spans
* `Calendar.finishWalk`, `Calendar.startWalk`, `Relation.earliestWalks`,
  `Relation.latestWalks`: the days at which the walks of a computation end

## Main results

* `holds_iff_earliestStart_le`, `holds_iff_le_latestStart`: a relation holds exactly if its
  successor keeps the earliest, or its predecessor the latest start that it leaves
* `earliestStart_eq_iff`: the two bounds are inverse to each other
* `latestStart_of_lag_eq`: what the least lag leaves, which cannot be taken back
-/

namespace Workplan

/-- The working days from the start of a span of `days` days to one of its ends. -/
def Endpoint.lead : Endpoint → Nat → Nat
  | .start, _ => 0
  | .finish, days => days - 1

@[simp] theorem Endpoint.lead_start (days : Nat) : Endpoint.start.lead days = 0 := rfl

@[simp] theorem Endpoint.lead_finish (days : Nat) : Endpoint.finish.lead days = days - 1 := rfl

namespace Calendar

variable (c : Calendar)

/-- The working day of a rank, strictly inside the range. -/
structure IsNumbered (d : Day) (k : Int) : Prop where
  isWorking : c.isWorking d
  isInner : d.IsInner
  rank_eq : (c.rank d : Int) = k

/-- The span of `days` working days from a start on. -/
def spanFrom (start : Day) (days : Nat) : Span := ⟨start, c.finishFrom start days⟩

/-- A span of `days` working days that ends before the last day of the range. -/
structure IsSpan (days : Nat) (s : Span) : Prop where
  isWorking : c.isWorking s.start
  finish_eq : s.finish = c.finishFrom s.start days
  finish_lt : s.finish < Day.last

/-! ## Walks

A computation of days walks over the calendar. The lists below hold the days at which its
walks end; a move by no days walks nowhere. -/

/-- The end of the walk to the finish of `days` days. -/
def finishWalk (start : Day) (days : Nat) : List Day :=
  if days = 0 then [] else [c.finishFrom start days]

/-- The end of the walk back to the start of `days` days. -/
def startWalk (finish : Day) (days : Nat) : List Day :=
  if days ≤ 1 then [] else [c.startFor finish days]

variable {c} {d e : Day} {k : Int}

/-! ## Numbered days -/

theorem isNumbered_offset (h : (c.offset d k).IsInner) :
    c.IsNumbered (c.offset d k) (c.rank d + k) :=
  ⟨(rank_offset h).1, h, (rank_offset h).2⟩

/-- The least lag leads past the first day of the range from wherever it is applied. -/
theorem offset_leastLag (d : Day) : c.offset d Relation.leastLag = Day.first := by
  have hrank : c.rank d < dayCount := (workingBefore_le d.index).trans_lt d.index_lt
  rw [offset]
  apply dayAt_of_neg
  rw [Relation.leastLag]
  rw [dayCount] at hrank
  omega

theorem isNumbered_onOrAfter (h : (c.onOrAfter d).IsInner) :
    c.IsNumbered (c.onOrAfter d) (c.rank d) :=
  ⟨(rank_onOrAfter h).1, h, congrArg _ (rank_onOrAfter h).2⟩

theorem finishFrom_eq_offset {days : Nat} (h : days ≠ 0) :
    c.finishFrom d days = c.offset d (days - 1 : Nat) := by
  rw [finishFrom, advance, if_neg (by omega), if_pos (by omega)]
  congr 1
  omega

theorem finishFrom_mono {days : Nat} (h : d ≤ e) : c.finishFrom d days ≤ c.finishFrom e days :=
  advance_le_advance h le_rfl

theorem le_finishFrom (d : Day) (days : Nat) : d ≤ c.finishFrom d days :=
  le_advance (Int.natCast_nonneg _)

theorem startFor_eq_offset {days : Nat} (h : 1 < days) :
    c.startFor d days = c.offset d (-((days - 1 : Nat) : Int)) := by
  rw [startFor, advance, if_neg (by omega), if_neg (by omega)]

theorem startFor_of_le_one {days : Nat} (h : days ≤ 1) : c.startFor d days = d := by
  rw [startFor, Nat.sub_eq_zero_of_le h]
  rfl

theorem startFor_mono {days : Nat} (h : d ≤ e) : c.startFor d days ≤ c.startFor e days :=
  advance_le_advance h le_rfl

/-- The finish from a numbered day on is numbered, if no walk to it leaves the range. A milestone
finishes where it starts, without a walk. -/
theorem IsNumbered.finishFrom {days : Nat} (hd : c.IsNumbered d k)
    (h : ∀ e ∈ c.finishWalk d days, e.IsInner) :
    c.IsNumbered (c.finishFrom d days) (k + (days - 1 : Nat)) := by
  by_cases hz : days = 0
  · subst hz
    simpa using hd
  · have hin : (c.finishFrom d days).IsInner := h _ (by simp [finishWalk, hz])
    rw [finishFrom_eq_offset hz] at hin ⊢
    rw [← hd.rank_eq]
    exact isNumbered_offset hin

/-- The start for a numbered finish is numbered, if no walk to it leaves the range. A task of one
day or none starts where it finishes, without a walk. -/
theorem IsNumbered.startFor {days : Nat} (hd : c.IsNumbered d k)
    (h : ∀ e ∈ c.startWalk d days, e.IsInner) :
    c.IsNumbered (c.startFor d days) (k - (days - 1 : Nat)) := by
  by_cases hone : days ≤ 1
  · rw [startFor_of_le_one hone, Nat.sub_eq_zero_of_le hone]
    simpa using hd
  · have hin : (c.startFor d days).IsInner := h _ (by simp [startWalk, hone])
    rw [startFor_eq_offset (Nat.lt_of_not_le hone)] at hin ⊢
    rw [← hd.rank_eq]
    exact isNumbered_offset hin

/-! ## Spans -/

theorem IsSpan.start_le {days : Nat} {s : Span} (h : c.IsSpan days s) : s.start ≤ s.finish := by
  rw [h.finish_eq]
  exact le_finishFrom _ _

/-- **Both ends of a span are working days, with the days of the span between them.** -/
theorem IsSpan.rank_atEnd {days : Nat} {s : Span} (h : c.IsSpan days s) (side : Endpoint) :
    c.isWorking (s.atEnd side) ∧ c.rank (s.atEnd side) = c.rank s.start + side.lead days := by
  cases side with
  | start => exact ⟨h.isWorking, rfl⟩
  | finish =>
    have hlt := h.finish_lt
    simp only [Span.atEnd_finish, Endpoint.lead_finish, h.finish_eq] at hlt ⊢
    by_cases hz : days = 0
    · subst hz
      exact ⟨h.isWorking, rfl⟩
    · rw [finishFrom_eq_offset hz] at hlt ⊢
      have := rank_dayAt_of_nonneg (by omega) hlt
      exact ⟨this.1, Int.ofNat_inj.mp (by simpa [offset] using this.2)⟩

theorem IsSpan.atEnd_lt {days : Nat} {s : Span} (h : c.IsSpan days s) (side : Endpoint) :
    s.atEnd side < Day.last := by
  cases side with
  | start => exact lt_of_le_of_lt h.start_le h.finish_lt
  | finish => exact h.finish_lt

theorem IsNumbered.isSpan {days : Nat} {start : Day} (hs : c.IsNumbered start k)
    (h : ∀ e ∈ c.finishWalk start days, e.IsInner) : c.IsSpan days (c.spanFrom start days) :=
  ⟨hs.isWorking, rfl, (hs.finishFrom h).isInner.2⟩

/-- **A span ends by a working day exactly if it starts by the day that leaves its length.** Between
ranks, the two sides are the same inequality. -/
theorem IsSpan.finish_le_iff {days : Nat} {s : Span} (h : c.IsSpan days s)
    (hd : c.IsNumbered d k) (hw : ∀ e ∈ c.startWalk d days, e.IsInner) :
    s.finish ≤ d ↔ s.start ≤ c.startFor d days := by
  have hstart := hd.startFor hw
  have hrank := hstart.rank_eq
  have hfinish := (h.rank_atEnd .finish).2
  rw [Span.atEnd_finish, Endpoint.lead_finish] at hfinish
  rw [le_iff_rank_le hd.isWorking, le_iff_rank_le hstart.isWorking, hfinish]
  have := hd.rank_eq
  omega

theorem IsSpan.finish_eq_iff {days : Nat} {s : Span} (h : c.IsSpan days s)
    (hd : c.IsNumbered d k) (hw : ∀ e ∈ c.startWalk d days, e.IsInner) :
    s.finish = d ↔ s.start = c.startFor d days := by
  have hstart := hd.startFor hw
  have hrank := hstart.rank_eq
  obtain ⟨hworking, hfinish⟩ := h.rank_atEnd .finish
  rw [Span.atEnd_finish, Endpoint.lead_finish] at hfinish
  rw [Span.atEnd_finish] at hworking
  rw [eq_iff_rank_eq hworking hd.isWorking, eq_iff_rank_eq h.isWorking hstart.isWorking, hfinish]
  have := hd.rank_eq
  omega

/-- A span is counted in full by the working days from its start to its finish. -/
theorem IsSpan.countIn_eq {days : Nat} {s : Span} (h : c.IsSpan days s) (hdays : days ≠ 0) :
    c.countIn s.start s.finish = days := by
  have hfinish := h.rank_atEnd .finish
  rw [Span.atEnd_finish, Endpoint.lead_finish] at hfinish
  rw [countIn_of_isWorking hfinish.1 h.finish_lt, hfinish.2]
  omega

end Calendar

/-! ## Relations -/

namespace Relation

variable (r : Relation) (c : Calendar)

/-- The demand of a relation: the target end of the successor lies at least `lag` working
days behind the source end of the predecessor. -/
def Holds (predecessor successor : Span) : Prop :=
  c.offset (predecessor.atEnd r.source) r.lag ≤ successor.atEnd r.target

instance (predecessor successor : Span) : Decidable (r.Holds c predecessor successor) :=
  inferInstanceAs (Decidable (_ ≤ _))

/-- The ends of the walks to the earliest start of a successor of `days` days. -/
def earliestWalks (predecessor : Span) (days : Nat) : List Day :=
  let bound := c.offset (predecessor.atEnd r.source) r.lag
  match r.target with
  | .start => [bound]
  | .finish => bound :: c.startWalk bound days

/-- The ends of the walks to the latest start of a predecessor of `days` days. -/
def latestWalks (successor : Span) (days : Nat) : List Day :=
  let bound := c.offset (successor.atEnd r.target) r.lead
  match r.source with
  | .start => [bound]
  | .finish => bound :: c.startWalk bound days

variable {r c} {a b : Span} {m n : Nat}

theorem holds_iff_rank (hb : c.IsSpan n b) :
    r.Holds c a b ↔ c.rank (a.atEnd r.source) + r.lag ≤ c.rank (b.atEnd r.target) :=
  Calendar.offset_le_iff (hb.rank_atEnd _).1 (hb.atEnd_lt _)

theorem isNumbered_earliestStart (h : ∀ d ∈ r.earliestWalks c a n, d.IsInner) :
    c.IsNumbered (r.earliestStart c a n)
      (c.rank (a.atEnd r.source) + r.lag - r.target.lead n) := by
  unfold earliestWalks at h
  unfold earliestStart
  cases ht : r.target with
  | start =>
    rw [ht] at h
    simpa using Calendar.isNumbered_offset (h _ (List.mem_singleton.mpr rfl))
  | finish =>
    rw [ht, List.forall_mem_cons] at h
    exact (Calendar.isNumbered_offset h.1).startFor h.2

theorem offset_mem_latestWalks : c.offset (b.atEnd r.target) r.lead ∈ r.latestWalks c b m := by
  unfold latestWalks
  cases r.source <;> simp

/-- The least lag leaves a predecessor no day but the first one of the range: taken back it is still
a lead, and leads past that day. -/
theorem latestStart_of_lag_eq (h : r.lag = leastLag) : r.latestStart c b m = Day.first := by
  have hbound : c.offset (b.atEnd r.target) r.lead = Day.first := by
    rw [lead, if_pos h]
    exact Calendar.offset_leastLag _
  unfold latestStart
  rw [hbound]
  cases r.source with
  | start => rfl
  | finish => exact le_antisymm (Calendar.advance_le (by omega)) (Day.first_le _)

/-- A lag is taken back by its opposite wherever the walks of the latest start stay inside the
range, as they do not under the least lag. -/
theorem lead_eq_neg (h : ∀ d ∈ r.latestWalks c b m, d.IsInner) : r.lead = -r.lag := by
  apply if_neg
  intro hleast
  have hinner := h _ offset_mem_latestWalks
  rw [lead, if_pos hleast, Calendar.offset_leastLag] at hinner
  exact absurd hinner.1 (lt_irrefl _)

theorem isNumbered_latestStart (h : ∀ d ∈ r.latestWalks c b m, d.IsInner) :
    c.IsNumbered (r.latestStart c b m)
      (c.rank (b.atEnd r.target) + -r.lag - r.source.lead m) := by
  rw [← lead_eq_neg h]
  unfold latestWalks at h
  unfold latestStart
  cases hs : r.source with
  | start =>
    rw [hs] at h
    simpa using Calendar.isNumbered_offset (h _ (List.mem_singleton.mpr rfl))
  | finish =>
    rw [hs, List.forall_mem_cons] at h
    exact (Calendar.isNumbered_offset h.1).startFor h.2

/-- **A relation holds exactly if the successor keeps its earliest start.** -/
theorem holds_iff_earliestStart_le (hb : c.IsSpan n b)
    (h : ∀ d ∈ r.earliestWalks c a n, d.IsInner) :
    r.Holds c a b ↔ r.earliestStart c a n ≤ b.start := by
  have hrank := (isNumbered_earliestStart h).rank_eq
  rw [holds_iff_rank hb, Calendar.le_iff_rank_le hb.isWorking, (hb.rank_atEnd _).2]
  omega

/-- **A relation holds exactly if the predecessor keeps its latest start.** -/
theorem holds_iff_le_latestStart (ha : c.IsSpan m a) (hb : c.IsSpan n b)
    (h : ∀ d ∈ r.latestWalks c b m, d.IsInner) :
    r.Holds c a b ↔ a.start ≤ r.latestStart c b m := by
  have hnum := isNumbered_latestStart h
  have hrank := hnum.rank_eq
  rw [holds_iff_rank hb, Calendar.le_iff_rank_le hnum.isWorking, (ha.rank_atEnd _).2]
  omega

/-- **The successor keeps its earliest start exactly if the predecessor keeps its latest start.** -/
theorem earliestStart_le_iff (ha : c.IsSpan m a) (hb : c.IsSpan n b)
    (h : ∀ d ∈ r.earliestWalks c a n, d.IsInner) (h' : ∀ d ∈ r.latestWalks c b m, d.IsInner) :
    r.earliestStart c a n ≤ b.start ↔ a.start ≤ r.latestStart c b m :=
  (holds_iff_earliestStart_le hb h).symm.trans (holds_iff_le_latestStart ha hb h')

/-- An earlier predecessor and a later successor of the same lengths keep a relation, since only the
ranks of their starts differ in what it says. -/
theorem Holds.mono {a' b' : Span} (h : r.Holds c a b) (ha : c.IsSpan m a) (ha' : c.IsSpan m a')
    (hb : c.IsSpan n b) (hb' : c.IsSpan n b') (hpre : a'.start ≤ a.start)
    (hsuc : b.start ≤ b'.start) : r.Holds c a' b' := by
  rw [holds_iff_rank hb, (ha.rank_atEnd _).2, (hb.rank_atEnd _).2] at h
  rw [holds_iff_rank hb', (ha'.rank_atEnd _).2, (hb'.rank_atEnd _).2]
  have hpre' := Calendar.rank_mono (c := c) hpre
  have hsuc' := Calendar.rank_mono (c := c) hsuc
  omega

/-- **The two bounds of a relation are inverse to each other.** -/
theorem earliestStart_eq_iff (ha : c.IsSpan m a) (hb : c.IsSpan n b)
    (h : ∀ d ∈ r.earliestWalks c a n, d.IsInner) (h' : ∀ d ∈ r.latestWalks c b m, d.IsInner) :
    r.earliestStart c a n = b.start ↔ r.latestStart c b m = a.start := by
  have hearliest := isNumbered_earliestStart h
  have hlatest := isNumbered_latestStart h'
  have hrank := hearliest.rank_eq
  have hrank' := hlatest.rank_eq
  rw [Calendar.eq_iff_rank_eq hearliest.isWorking hb.isWorking,
    Calendar.eq_iff_rank_eq hlatest.isWorking ha.isWorking]
  rw [(ha.rank_atEnd _).2] at hrank
  rw [(hb.rank_atEnd _).2] at hrank'
  omega

end Relation

end Workplan
