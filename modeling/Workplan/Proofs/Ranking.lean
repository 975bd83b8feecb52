import Mathlib.Data.List.Nodup
import Mathlib.Data.List.Perm.Basic
import Workplan.Ranking

/-!
# Ranked lists are in order

What comes out of a ranking is in order as soon as the comparison is one that can be put in
order, ties apart. If it ties only what is the same, the ranked list does not depend on the
order in which the entries came.

## Main definitions

* `IsRanking`: a comparison by which entries can be put in order
* `StandsBefore`: where an entry is put that precedes another or came before it

## Main results

* `pairwise_insertWhere`: an entry is put in order
* `inOrder_ranked`: no entry precedes one in front of it
* `pairwise_standsBefore_ranked`: entries that tie keep the order in which they came
* `ranked_eq_of_perm`: without ties, the order of the entries does not matter
* `ranked_map`, `ranked_congr`: what the comparison does not look at may be replaced
* `leader?_eq_some_iff`: the entry that comes first precedes all others
* `pairwise_precedes_ranked`, `ranked_eq_of_perm_of_nodup`: entries that a transitive comparison
  tells apart come in a strict order, and always in the same
-/

namespace Workplan

variable {α β : Type} {precedes : α → α → Bool}

/-- **A comparison by which entries can be put in order**: it does not go both ways, and what
lies between two entries that are out of order is out of order with one of them. -/
structure IsRanking (precedes : α → α → Bool) : Prop where
  asymm : ∀ {a b}, precedes a b → ¬ precedes b a
  not_trans : ∀ {a b c}, ¬ precedes a b → ¬ precedes b c → ¬ precedes a c

/-- Text is ranked by its order. -/
theorem isRanking_lt : IsRanking fun a b : String => a < b where
  asymm hab hba := String.lt_asymm (of_decide_eq_true hab) (of_decide_eq_true hba)
  not_trans hab hbc := by
    simp only [decide_eq_true_eq, String.not_lt] at hab hbc ⊢
    exact String.le_trans hbc hab

/-! ## Order -/

/-- **An entry is put in order** where it comes before those that it is put in front of and after
the others. -/
theorem pairwise_insertWhere {r : α → α → Prop} {p : α → α → Bool} {a : α} {l : List α}
    (htrans : ∀ b ∈ l, ∀ c ∈ l, r a b → r b c → r a c) (hfront : ∀ b ∈ l, p a b → r a b)
    (hbehind : ∀ b ∈ l, ¬ p a b → r b a) (hl : l.Pairwise r) : (insertWhere p a l).Pairwise r := by
  induction l with
  | nil => exact List.pairwise_singleton _ a
  | cons b rest ih =>
    obtain ⟨hb, hrest⟩ := List.pairwise_cons.mp hl
    rw [insertWhere]
    split
    · next hab =>
      have hab := hfront b List.mem_cons_self hab
      refine List.pairwise_cons.mpr ⟨fun x hx => ?_, hl⟩
      rcases List.mem_cons.mp hx with rfl | hrest
      · exact hab
      · exact htrans b List.mem_cons_self x hx hab (hb x hrest)
    · next hab =>
      simp only [List.forall_mem_cons] at htrans hfront hbehind
      refine List.pairwise_cons.mpr ⟨fun x hx => ?_,
        ih (fun c hc => (htrans.2 c hc).2) hfront.2 hbehind.2 hrest⟩
      rcases mem_insertWhere.mp hx with rfl | hx
      · exact hbehind.1 hab
      · exact hb x hx

/-- Where an entry stands before another one: it precedes it, or neither does and it came first. -/
def StandsBefore (precedes : α → α → Bool) (cameFirst : α → α → Prop) (a b : α) : Prop :=
  precedes a b ∨ ¬ precedes b a ∧ cameFirst a b

variable {cameFirst : α → α → Prop} {a b : α} {entries : List α}

theorem IsRanking.not_precedes_of_standsBefore (h : IsRanking precedes)
    (hab : StandsBefore precedes cameFirst a b) : ¬ precedes b a :=
  hab.elim h.asymm And.left

/-- An entry is put where it stands, in a list of those that came before it, last one first. -/
theorem IsRanking.pairwise_insertWhere (h : IsRanking precedes) {placed : List α}
    (hfirst : ∀ b ∈ placed, cameFirst b a)
    (hplaced : placed.Pairwise fun b a => StandsBefore precedes cameFirst a b) :
    (insertWhere (fun a b => !precedes a b) a placed).Pairwise fun b a =>
      StandsBefore precedes cameFirst a b := by
  refine Workplan.pairwise_insertWhere (r := fun b a => StandsBefore precedes cameFirst a b)
    ?_ ?_ ?_ hplaced
  · intro b _ c hc hba hcb
    exact Or.inr ⟨h.not_trans (h.not_precedes_of_standsBefore hba)
      (h.not_precedes_of_standsBefore hcb), hfirst c hc⟩
  · intro b hb hab
    exact Or.inr ⟨by simpa using hab, hfirst b hb⟩
  · intro b _ hab
    exact Or.inl (by simpa using hab)

/-- **Entries are ranked, and those that tie keep the order in which they came.** -/
theorem pairwise_standsBefore_ranked (h : IsRanking precedes)
    (hfirst : entries.Pairwise cameFirst) :
    (ranked precedes entries).Pairwise (StandsBefore precedes cameFirst) := by
  rw [ranked, List.pairwise_reverse]
  -- the entries placed so far stand in order and came before the others, starting from none
  suffices ∀ placed : List α, (∀ b ∈ placed, ∀ a ∈ entries, cameFirst b a) →
      placed.Pairwise (fun b a => StandsBefore precedes cameFirst a b) →
      (entries.foldl (fun placed a => insertWhere (fun a b => !precedes a b) a placed)
        placed).Pairwise fun b a => StandsBefore precedes cameFirst a b from
    this [] (List.forall_mem_nil _) .nil
  induction entries with
  | nil => exact fun placed _ hplaced => hplaced
  | cons a rest ih =>
    obtain ⟨ha, hrest⟩ := List.pairwise_cons.mp hfirst
    intro placed hbefore hplaced
    refine ih hrest _ (fun b hb x hx => ?_)
      (h.pairwise_insertWhere (fun b hb => hbefore b hb a List.mem_cons_self) hplaced)
    rcases mem_insertWhere.mp hb with rfl | hb
    · exact ha x hx
    · exact hbefore b hb x (List.mem_cons_of_mem _ hx)

/-- **No entry precedes one in front of it.** -/
theorem inOrder_ranked (h : IsRanking precedes) (entries : List α) :
    (ranked precedes entries).Pairwise fun a b => ¬ precedes b a := by
  have hstands : (ranked precedes entries).Pairwise (StandsBefore precedes fun _ _ => True) :=
    pairwise_standsBefore_ranked h (List.pairwise_of_forall fun _ _ => trivial)
  exact hstands.imp h.not_precedes_of_standsBefore

/-- **Without ties, the order in which the entries came does not matter.** -/
theorem ranked_eq_of_perm (h : IsRanking precedes) {entries entries' : List α}
    (hperm : entries.Perm entries')
    (hties : ∀ a b, a ∈ entries → b ∈ entries → ¬ precedes a b → ¬ precedes b a → a = b) :
    ranked precedes entries = ranked precedes entries' := by
  refine List.Perm.eq_of_pairwise (fun a b ha hb hba hab => ?_) (inOrder_ranked h entries)
    (inOrder_ranked h entries') ?_
  · exact hties a b (mem_ranked.mp ha) (hperm.mem_iff.mpr (mem_ranked.mp hb)) hab hba
  · exact (ranked_perm _ _).trans (hperm.trans (ranked_perm _ _).symm)

/-! ## What is not compared -/

theorem insertWhere_map {p : α → α → Bool} {q : β → β → Bool} {f : α → β}
    (h : ∀ a b, q (f a) (f b) = p a b) (a : α) (l : List α) :
    insertWhere q (f a) (l.map f) = (insertWhere p a l).map f := by
  induction l with
  | nil => rfl
  | cons b rest ih =>
    rw [List.map_cons, insertWhere, insertWhere, h, ih]
    split <;> rfl

/-- **What the comparison does not look at may be replaced**, before the ranking or behind
it. -/
theorem ranked_map {precedes' : β → β → Bool} {f : α → β}
    (h : ∀ a b, precedes' (f a) (f b) = precedes a b) (entries : List α) :
    ranked precedes' (entries.map f) = (ranked precedes entries).map f := by
  rw [ranked, ranked, List.map_reverse, List.foldl_map]
  congr 1
  suffices ∀ placed : List α,
      entries.foldl (fun placed a => insertWhere (fun a b => !precedes' a b) (f a) placed)
          (placed.map f) =
        (entries.foldl (fun placed a => insertWhere (fun a b => !precedes a b) a placed)
          placed).map f from this []
  induction entries with
  | nil => exact fun placed => rfl
  | cons a rest ih =>
    intro placed
    rw [List.foldl_cons, List.foldl_cons, ← ih]
    rw [insertWhere_map fun a b => by rw [h]]

/-- Entries may be ranked with their membership at hand. -/
theorem map_val_ranked_attach (precedes : α → α → Bool) (entries : List α) :
    (ranked (fun a b : {x // x ∈ entries} => precedes a b) entries.attach).map Subtype.val =
      ranked precedes entries := by
  calc (ranked _ entries.attach).map Subtype.val
      = ranked precedes (entries.attach.map Subtype.val) := (ranked_map (fun _ _ => rfl) _).symm
    _ = ranked precedes entries := by rw [List.attach_map_subtype_val]

/-- The comparison counts only between the entries themselves. -/
theorem ranked_congr {precedes' : α → α → Bool} {entries : List α}
    (h : ∀ a ∈ entries, ∀ b ∈ entries, precedes a b = precedes' a b) :
    ranked precedes entries = ranked precedes' entries := by
  have hmembers : (fun a b : {x // x ∈ entries} => precedes a b) =
      fun a b : {x // x ∈ entries} => precedes' a b :=
    funext₂ fun a b => h a a.property b b.property
  rw [← map_val_ranked_attach, hmembers, map_val_ranked_attach]

/-! ## The entry that comes first -/

/-- The entry that comes first is found by comparing the first two. -/
theorem leader?_cons_cons (a b : α) (rest : List α) :
    leader? precedes (a :: b :: rest) =
      leader? precedes ((if precedes b a then b else a) :: rest) :=
  rfl

/-- **No entry precedes the one that comes first.** The leader is found by comparing two entries at
a time, and the one of them that falls behind does not precede the other one. -/
theorem IsRanking.not_precedes_leader (h : IsRanking precedes)
    (hleader : leader? precedes entries = some a) : ∀ b ∈ entries, ¬ precedes b a := by
  cases entries with
  | nil => exact List.forall_mem_nil _
  | cons first rest =>
    induction rest generalizing first with
    | nil =>
      cases hleader
      simpa using fun hself => h.asymm hself hself
    | cons next rest ih =>
      rw [leader?_cons_cons] at hleader
      obtain ⟨hbest, hrest⟩ := List.forall_mem_cons.mp (ih _ hleader)
      suffices ¬ precedes first a ∧ ¬ precedes next a from
        List.forall_mem_cons.mpr ⟨this.1, List.forall_mem_cons.mpr ⟨this.2, hrest⟩⟩
      split at hbest
      · next hnext => exact ⟨h.not_trans (h.asymm hnext) hbest, hbest⟩
      · next hnext => exact ⟨hbest, h.not_trans hnext hbest⟩

theorem leader?_congr {precedes' : α → α → Bool}
    (h : ∀ a ∈ entries, ∀ b ∈ entries, precedes a b = precedes' a b) :
    leader? precedes entries = leader? precedes' entries := by
  cases entries with
  | nil => rfl
  | cons first rest =>
    induction rest generalizing first with
    | nil => rfl
    | cons next rest ih =>
      rw [leader?_cons_cons, leader?_cons_cons, h next (by simp) first (by simp)]
      refine ih _ fun a ha b hb => h a ?_ b ?_ <;> grind

/-! ## Comparisons -/

section Comparison

variable {cmp : α → α → Ordering} [Std.TransCmp cmp]

theorem not_isLT_iff {a b : α} : ¬ (cmp a b).isLT ↔ (cmp b a).isLE := by
  rw [show cmp b a = (cmp a b).swap from Std.OrientedCmp.eq_swap]
  cases cmp a b <;> decide

/-- **Entries can be put in order by a comparison that is transitive.** -/
theorem isRanking_isLT : IsRanking fun a b => (cmp a b).isLT where
  asymm hab hba := by
    rw [Ordering.isLT_iff_eq_lt] at hab hba
    exact Std.OrientedCmp.not_lt_of_lt hab hba
  not_trans hab hbc := by
    rw [not_isLT_iff] at hab hbc ⊢
    exact Std.TransCmp.isLE_trans hbc hab

/-! Entries with different keys are told apart by the comparison. -/

variable {entries' : List α} {key : α → β}
  (hcmp : ∀ a ∈ entries, ∀ b ∈ entries, precedes a b = (cmp a b).isLT)
  (hkey : ∀ a b, cmp a b = .eq → key a = key b)

include hcmp hkey

/-- **The entry that comes first precedes all others.** -/
theorem leader?_eq_some_iff (hinj : ∀ a ∈ entries, ∀ b ∈ entries, key a = key b → a = b) :
    leader? precedes entries = some a ↔ a ∈ entries ∧ ∀ b ∈ entries, b ≠ a → precedes a b := by
  have hleast : ∀ {a}, leader? precedes entries = some a →
      a ∈ entries ∧ ∀ b ∈ entries, b ≠ a → precedes a b := by
    intro a ha
    have hmem := mem_of_leader? ha
    refine ⟨hmem, fun b hb hne => ?_⟩
    rw [leader?_congr hcmp] at ha
    rw [hcmp a hmem b hb]
    by_contra hab
    -- if neither is before the other, they are not told apart
    exact hne (hinj b hb a hmem (hkey b a (Std.OrientedCmp.isLE_antisymm (not_isLT_iff.mp hab)
      (not_isLT_iff.mp (isRanking_isLT.not_precedes_leader ha b hb)))))
  refine ⟨hleast, fun ⟨ha, hall⟩ => ?_⟩
  cases hleader : leader? precedes entries with
  | none => rw [leader?_eq_none_iff.mp hleader] at ha; cases ha
  | some b =>
    obtain ⟨hb, hball⟩ := hleast hleader
    by_contra hne
    -- two entries that precede all others would precede each other
    have hab : a ≠ b := fun heq => hne (congrArg some heq.symm)
    have hforth := hball a ha hab
    have hback := hall b hb hab.symm
    rw [hcmp _ hb _ ha] at hforth
    rw [hcmp _ ha _ hb] at hback
    exact isRanking_isLT.asymm hforth hback

variable (hnodup : (entries.map key).Nodup)

include hnodup

/-- **Entries that are told apart are put in a strict order.** -/
theorem pairwise_precedes_ranked :
    (ranked precedes entries).Pairwise fun a b => precedes a b := by
  have hdistinct : (ranked precedes entries).Pairwise fun a b => key a ≠ key b :=
    List.pairwise_map.mp (((ranked_perm _ entries).map key).nodup_iff.mpr hnodup)
  have horder : (ranked precedes entries).Pairwise fun a b => ¬ (cmp b a).isLT := by
    rw [ranked_congr hcmp]
    exact inOrder_ranked isRanking_isLT entries
  refine (hdistinct.and horder).imp_of_mem ?_
  rintro a b ha hb ⟨hne, hba⟩
  rw [hcmp a (mem_ranked.mp ha) b (mem_ranked.mp hb)]
  by_contra hab
  -- if neither is before the other, they are not told apart
  exact hne (hkey a b (Std.OrientedCmp.isLE_antisymm (not_isLT_iff.mp hba) (not_isLT_iff.mp hab)))

/-- **Entries that are told apart are put in the same order, however they came.** -/
theorem ranked_eq_of_perm_of_nodup (hperm : entries.Perm entries') :
    ranked precedes entries = ranked precedes entries' := by
  have hcmp' : ∀ a ∈ entries', ∀ b ∈ entries', precedes a b = (cmp a b).isLT := by
    simpa only [hperm.mem_iff] using hcmp
  rw [ranked_congr hcmp, ranked_congr hcmp']
  refine ranked_eq_of_perm isRanking_isLT hperm fun a b ha hb hab hba => ?_
  exact List.inj_on_of_nodup_map hnodup ha hb
    (hkey a b (Std.OrientedCmp.isLE_antisymm (not_isLT_iff.mp hba) (not_isLT_iff.mp hab)))

end Comparison

end Workplan
