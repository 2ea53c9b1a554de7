import OpGraph.Proofs.Shape.Recorded
import OpGraph.Proofs.Shape.Refinement

/-!
# Extents that fit into a signed number

Extents are unsigned 64-bit numbers, but files and texts give them as signed ones. What is decoded
from these fits, and broadcasting makes no extents but those that are there and one.
-/

namespace OpGraph

namespace Dim

variable {a b d : Dim} {value : Int64}

/-- The extent, if it is fixed, fits into a signed 64-bit number. -/
def FitsSigned : Dim → Prop
  | fixed extent => (extent.toNat : Int) ≤ Int64.maxValue.toInt
  | dynamic => True

instance (d : Dim) : Decidable d.FitsSigned :=
  match d with
  | fixed extent => inferInstanceAs (Decidable ((extent.toNat : Int) ≤ Int64.maxValue.toInt))
  | dynamic => inferInstanceAs (Decidable True)

/-- The extent that an integer records is this integer. -/
theorem Records.fitsSigned (h : Records value d) : d.FitsSigned := by
  cases d with
  | fixed extent => exact le_of_eq_of_le h value.toInt_le
  | dynamic => trivial

/-- Two dimensions broadcast to one of them. -/
theorem FitsSigned.broadcast? (ha : a.FitsSigned) (hb : b.FitsSigned)
    (h : a.broadcast? b = some d) : d.FitsSigned := by
  rw [broadcast?_eq] at h
  split at h
  · exact Option.some.inj h ▸ ha
  · split at h
    · exact Option.some.inj h ▸ hb
    · cases h

end Dim

namespace Shape

variable {a b s : Shape} {values : List Int64}

/-- All extents fit into a signed 64-bit number. -/
def FitsSigned (s : Shape) : Prop := ∀ d ∈ s.dims, d.FitsSigned

instance (s : Shape) : Decidable s.FitsSigned :=
  inferInstanceAs (Decidable (∀ d ∈ s.dims, d.FitsSigned))

/-- So the extents of a recorded shape fit. -/
theorem Records.fitsSigned (h : Records values s) : s.FitsSigned := by
  intro d hd
  obtain ⟨value, -, hvalue⟩ := exists_mem_of_forall₂ h.flip d hd
  exact Dim.Records.fitsSigned hvalue

theorem FitsSigned.padTo (hs : s.FitsSigned) (rank : Nat) : ∀ d ∈ s.padTo rank, d.FitsSigned := by
  refine List.forall_mem_append.2 ⟨fun d hd => ?_, hs⟩
  obtain rfl := List.eq_of_mem_replicate hd
  decide

theorem FitsSigned.broadcast? (ha : a.FitsSigned) (hb : b.FitsSigned)
    (h : a.broadcast? b = some s) : s.FitsSigned := by
  intro d hd
  obtain ⟨p, hp, hbroadcast⟩ := exists_mem_of_forall₂ (broadcast?_eq_some_iff.1 h).flip d hd
  obtain ⟨hleft, hright⟩ := List.of_mem_zip hp
  exact (ha.padTo _ p.1 hleft).broadcast? (hb.padTo _ p.2 hright) hbroadcast

end Shape

end OpGraph
