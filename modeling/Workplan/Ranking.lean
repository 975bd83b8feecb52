/-!
# Ranking

Ordering a list by a comparison, kept stable: what the comparison does not tell apart stays
in the order it came in.

## Main definitions

* `insertWhere p a`: puts `a` in front of the first entry `b` with `p a b`
* `ranked precedes`: a list in the order of `precedes`
* `leader? precedes`: the entry that comes first

## Main results

* `insertWhere_perm`, `ranked_perm`: nothing is lost or added
* `mem_of_leader?`: the entry that comes first is one of the entries
-/

namespace Workplan

variable {α : Type}

/-- Puts `a` in front of the first entry `b` with `p a b`, or at the end. -/
def insertWhere (p : α → α → Bool) (a : α) : List α → List α
  | [] => [a]
  | b :: rest => if p a b then a :: b :: rest else b :: insertWhere p a rest

/-- The entries in the order of `precedes`. Each entry in turn is put behind the last of the
entries before it that it does not precede. -/
def ranked (precedes : α → α → Bool) (entries : List α) : List α :=
  (entries.foldl (fun placed a => insertWhere (fun a b => !precedes a b) a placed) []).reverse

/-- The entry that comes first: an entry leads until a later one precedes it. -/
def leader? (precedes : α → α → Bool) : List α → Option α
  | [] => none
  | a :: rest => some (rest.foldl (fun leader b => if precedes b leader then b else leader) a)

theorem insertWhere_perm (p : α → α → Bool) (a : α) (l : List α) :
    (insertWhere p a l).Perm (a :: l) := by
  induction l with
  | nil => exact .refl _
  | cons b rest ih =>
    rw [insertWhere]
    split
    · exact .refl _
    · exact (ih.cons b).trans (.swap a b rest)

@[simp] theorem mem_insertWhere {p : α → α → Bool} {a x : α} {l : List α} :
    x ∈ insertWhere p a l ↔ x = a ∨ x ∈ l := by
  rw [(insertWhere_perm p a l).mem_iff, List.mem_cons]

theorem ranked_perm (precedes : α → α → Bool) (entries : List α) :
    (ranked precedes entries).Perm entries := by
  have h : ∀ placed : List α,
      (entries.foldl (fun placed a => insertWhere (fun a b => !precedes a b) a placed)
        placed).Perm (entries ++ placed) := by
    induction entries with
    | nil => exact fun placed => .refl _
    | cons a rest ih =>
      intro placed
      exact (ih _).trans ((insertWhere_perm _ a placed).append_left rest |>.trans
        List.perm_middle)
  exact (List.reverse_perm _).trans (by simpa using h [])

@[simp] theorem mem_ranked {precedes : α → α → Bool} {x : α} {entries : List α} :
    x ∈ ranked precedes entries ↔ x ∈ entries :=
  (ranked_perm precedes entries).mem_iff

/-- The entry that comes first is one of the entries. The leader after a while is either still the
first of them or one that came by. -/
theorem mem_of_leader? {precedes : α → α → Bool} {a : α} {entries : List α}
    (h : leader? precedes entries = some a) : a ∈ entries := by
  cases entries with
  | nil => cases h
  | cons b rest =>
    cases h
    induction rest generalizing b with
    | nil => exact List.mem_cons_self
    | cons d rest ih =>
      rw [List.foldl_cons]
      rcases List.mem_cons.mp (ih (if precedes d b then d else b)) with hfirst | hrest
      · rw [hfirst]
        split
        · exact List.mem_cons_of_mem _ List.mem_cons_self
        · exact List.mem_cons_self
      · exact List.mem_cons_of_mem _ (List.mem_cons_of_mem _ hrest)

theorem leader?_eq_none_iff {precedes : α → α → Bool} {entries : List α} :
    leader? precedes entries = none ↔ entries = [] := by
  cases entries <;> simp [leader?]

end Workplan
