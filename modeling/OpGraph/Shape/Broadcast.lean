import OpGraph.Shape.Basic

/-!
# Broadcasting and compatibility of shapes

Two shapes broadcast when, aligned at their innermost dimensions and padded with ones in front,
their dimensions agree pairwise up to ones and dynamic extents. Two shapes are compatible when they
have the same rank and differ only where one of them is dynamic.
-/

namespace OpGraph

namespace Dim

/-- The dimension two dimensions broadcast to: an extent of one gives way to the other side, then a
dynamic extent does. -/
def broadcast? (a b : Dim) : Option Dim :=
  if a = b then some a
  else
    match a, b with
    | fixed 1, other => some other
    | other, fixed 1 => some other
    | dynamic, other => some other
    | other, dynamic => some other
    | _, _ => none

/-- Whether two dimensions agree or one of them is dynamic. -/
def compatible (a b : Dim) : Bool := a == b || a == dynamic || b == dynamic

@[simp] theorem compatible_self (d : Dim) : d.compatible d = true := by simp [compatible]

end Dim

namespace Shape

/-- The dimensions padded in front with ones to a given rank. -/
def padTo (rank : Nat) (s : Shape) : List Dim :=
  List.replicate (rank - s.rank) (.fixed 1) ++ s.dims

/-- The shape two shapes broadcast to. -/
def broadcast? (a b : Shape) : Option Shape :=
  let rank := max a.rank b.rank
  return ⟨← ((a.padTo rank).zip (b.padTo rank)).mapM fun p => p.1.broadcast? p.2⟩

/-- Whether two shapes have the same rank and agree up to dynamic dimensions. -/
def compatible (a b : Shape) : Bool :=
  a.rank == b.rank && (a.dims.zip b.dims).all fun p => p.1.compatible p.2

@[simp] theorem compatible_self (s : Shape) : s.compatible s = true := by
  have hdims : ∀ ds : List Dim, (ds.zip ds).all (fun p => p.1.compatible p.2) = true := by
    intro ds
    induction ds with
    | nil => rfl
    | cons d ds ih => rw [List.zip_cons_cons, List.all_cons, ih, Dim.compatible_self]; rfl
  simp [compatible, hdims]

end Shape

end OpGraph
