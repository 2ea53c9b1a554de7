import OpGraph.Proofs.Traversal
import OpGraph.Shape.Basic

/-!
# Recorded shapes

A file records a shape as a list of 64-bit integers. A list of them can be decoded exactly if no
value is less than `-1`. The shape it records has a dynamic dimension for each `-1` and a fixed one
for each other value, in their order.
-/

namespace OpGraph

namespace Dim

variable {d : Dim} {value : Int64}

/-- The value is the extent of the dimension, or `-1` if that is dynamic. -/
def Records (value : Int64) : Dim → Prop
  | fixed extent => (extent.toNat : Int) = value.toInt
  | dynamic => value.toInt = -1

theorem records_toUInt64 (hvalue : 0 ≤ value) : Records value (fixed value.toUInt64) := by
  have hnonneg : 0 ≤ value.toInt := Int64.le_iff_toInt_le.1 hvalue
  rw [Records, Int64.toNat_toUInt64_of_le hvalue]
  exact Int.toNat_of_nonneg hnonneg

theorem records_dynamic_iff : Records value dynamic ↔ value = -1 := Int64.toInt_inj (y := -1)

/-- The extent that a value records is the value as an unsigned number. -/
theorem records_fixed_iff {extent : UInt64} :
    Records value (fixed extent) ↔ 0 ≤ value ∧ extent = value.toUInt64 := by
  constructor
  · intro h
    have hnat : (extent.toNat : Int) = value.toInt := h
    have hvalue : 0 ≤ value := by
      refine Int64.le_iff_toInt_le.2 ?_
      rw [← hnat]
      exact Int.natCast_nonneg _
    have hdecoded : (value.toUInt64.toNat : Int) = value.toInt := records_toUInt64 hvalue
    exact ⟨hvalue, UInt64.toNat_inj.1 (by omega)⟩
  · rintro ⟨hvalue, rfl⟩
    exact records_toUInt64 hvalue

/-- A dimension is decoded to what its integer records. -/
theorem ofRecorded_eq_ok_iff : ofRecorded value = .ok d ↔ Records value d := by
  unfold ofRecorded
  split
  next hminus =>
    subst hminus
    cases d with
    | fixed extent => simp [records_fixed_iff]
    | dynamic => simp [records_dynamic_iff]
  next hminus =>
    split
    next hvalue =>
      cases d with
      | fixed extent => simp [records_fixed_iff, hvalue, eq_comm]
      | dynamic => simp [records_dynamic_iff, hminus]
    next hvalue =>
      cases d with
      | fixed extent => simp [records_fixed_iff, hvalue]
      | dynamic => simp [records_dynamic_iff, hminus]

/-- Every integer from `-1` on records a dimension. -/
theorem exists_records_iff : (∃ d, Records value d) ↔ -1 ≤ value.toInt := by
  constructor
  · rintro ⟨extent | _, hd⟩
    · have hnat : (extent.toNat : Int) = value.toInt := hd
      omega
    · exact Int.le_of_eq (Eq.symm hd)
  · intro hvalue
    by_cases hminus : value.toInt = -1
    · exact ⟨dynamic, hminus⟩
    · have hnonneg : 0 ≤ value.toInt := by omega
      exact ⟨_, records_toUInt64 (Int64.le_iff_toInt_le.2 hnonneg)⟩

/-- An integer is refused if it is less than `-1`, and the error names it. -/
theorem ofRecorded_eq_error_iff {err : ShapeError} :
    ofRecorded value = .error err ↔ value.toInt < -1 ∧ err = .negativeDim value := by
  unfold ofRecorded
  split
  next hminus =>
    subst hminus
    simp
  next hminus =>
    have hne : value.toInt ≠ -1 := fun h => hminus (records_dynamic_iff.1 h)
    split
    next hvalue =>
      have hnonneg : 0 ≤ value.toInt := Int64.le_iff_toInt_le.1 hvalue
      have hnot : ¬ value.toInt < -1 := by omega
      simp [hnot]
    next hvalue =>
      have hnegative : ¬ 0 ≤ value.toInt := fun h => hvalue (Int64.le_iff_toInt_le.2 h)
      have hlt : value.toInt < -1 := by omega
      simp [hlt, eq_comm]

end Dim

namespace Shape

variable {s : Shape} {values : List Int64}

/-- The values record the dimensions of the shape, one for each. -/
def Records (values : List Int64) (s : Shape) : Prop := List.Forall₂ Dim.Records values s.dims

/-- A shape is decoded to what its integers record. -/
theorem ofRecorded_eq_ok_iff : ofRecorded values = .ok s ↔ Records values s := by
  have hdims : ∀ dims, values.mapM Dim.ofRecorded = .ok dims ↔
      List.Forall₂ Dim.Records values dims :=
    fun _ => mapM_eq_ok_iff fun _ _ => Dim.ofRecorded_eq_ok_iff
  simp only [ofRecorded, bind_eq_ok_iff, pure_eq_ok_iff, hdims, Records]
  constructor
  · rintro ⟨dims, hrecords, rfl⟩
    exact hrecords
  · intro hrecords
    exact ⟨s.dims, hrecords, rfl⟩

/-- Integers record a shape if none is less than `-1`. -/
theorem exists_records_iff : (∃ s, Records values s) ↔ ∀ value ∈ values, -1 ≤ value.toInt := by
  simp only [← Dim.exists_records_iff]
  rw [← exists_forall₂_iff]
  constructor
  · rintro ⟨s, hs⟩
    exact ⟨s.dims, hs⟩
  · rintro ⟨dims, hdims⟩
    exact ⟨⟨dims⟩, hdims⟩

/-- The error is that of the first value that is too small. -/
theorem ofRecorded_eq_error_iff {err : ShapeError} : ofRecorded values = .error err ↔
    ∃ before value after, values = before ++ value :: after ∧
      (∀ v ∈ before, -1 ≤ v.toInt) ∧ value.toInt < -1 ∧ err = .negativeDim value := by
  have hrest : ofRecorded values = .error err ↔ values.mapM Dim.ofRecorded = .error err := by
    rw [ofRecorded]
    cases values.mapM Dim.ofRecorded <;> simp [bind, Except.bind, pure, Except.pure]
  simp only [hrest, mapM_eq_error_iff, Dim.ofRecorded_eq_ok_iff, Dim.exists_records_iff,
    Dim.ofRecorded_eq_error_iff]

end Shape

end OpGraph
