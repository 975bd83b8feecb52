import Workplan.Table

/-!
# Propagation

Filling a table entry by entry, each from the entries filled before it. Along an order in
which every entry comes after those it needs, the table solves the equations of its entries.

## Main definitions

* `propagate order entry`: the table filled along `order`
-/

namespace Workplan

variable {α : Type} {n : Nat}

/-- The table filled along `order`, where `entry i table` is the entry of `i` given those in
`table`; the others are empty. -/
def propagate (order : List (Fin n)) (entry : Fin n → Vector (Option α) n → Option α) :
    Vector (Option α) n :=
  order.foldl (fun table i => setAt table i (entry i table)) (Vector.replicate n none)

end Workplan
