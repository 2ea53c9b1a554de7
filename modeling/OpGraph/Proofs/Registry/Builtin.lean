import Mathlib.Logic.Function.Iterate
import OpGraph.Proofs.Registry

/-!
# The builtin extenders

The builtin extenders know four operator types. To a node of one of them they give its strategy, and
to a graph input also the element type under its present name, if it stands only under the older
one. The element type is copied in lower case, which reads the same. Nothing else changes, so it
makes no difference how often they are applied.
-/

namespace OpGraph

section LetterCase

/-- A capital letter becomes a small one, and that one the capital letter again. There are 26 of
them, and nothing happens to other characters in the first place. -/
theorem toUpper_toLower_char (c : Char) : c.toLower.toUpper = c.toUpper := by
  by_cases hc : c.val ≥ 'A'.val ∧ c.val ≤ 'Z'.val
  · have hcapitals : ∀ n ∈ List.range' 65 26,
        (Char.ofNat n).toLower.toUpper = (Char.ofNat n).toUpper := by decide
    have hmem : c.toNat ∈ List.range' 65 26 :=
      List.mem_range'_1.2 ⟨hc.1, Nat.lt_succ_of_le hc.2⟩
    rw [← Char.ofNat_toNat c]
    exact hcapitals c.toNat hmem
  · have hlower : c.toLower = c := dif_neg hc
    rw [hlower]

theorem toUpper_toLower (text : String) : text.toLower.toUpper = text.toUpper := by
  show (text.map Char.toLower).map Char.toUpper = text.map Char.toUpper
  rw [String.map_map]
  congr 1
  funext c
  exact toUpper_toLower_char c

/-- In lower case a name is read as the element type that it names as written, or as none. -/
theorem ElementType.ofName?_toLower (text : String) : ofName? text.toLower = ofName? text := by
  rw [ofName?, ofName?, toUpper_toLower]

end LetterCase

variable {n : Node} {key value tag : String}

/-- The attributes of a node are determined by their values. -/
theorem Node.attributes_eq_of_attribute? {m : Node}
    (h : ∀ key, m.attribute? key = n.attribute? key) :
    m.attributes = n.attributes :=
  Dictionary.ext_get? h

namespace Extender

theorem extend_sequence (tag : String) (n : Node) :
    (sequence tag).extend n = { n with strategy := .recorded } := rfl

theorem strategy_extend_parameter (n : Node) : (parameter.extend n).strategy = .fromAttribute := by
  rw [extend, Node.strategy_foldl_amend, parameter]
  simp [Amendment.strategy?]

/-- The only attribute that changes is a missing element type. -/
theorem attribute?_extend_parameter (n : Node) (key : String) :
    (parameter.extend n).attribute? key =
      if key = "element_type" then
        (n.attribute? key).or ((n.attribute? "precision").map String.toLower)
      else n.attribute? key := by
  have hsettles : ∀ s, Amendment.value? key (.setStrategy s) = none := fun _ => rfl
  rw [extend, Node.attribute?_foldl_amend, parameter]
  simp only [List.filterMap_append, List.filterMap_cons, hsettles,
    List.filterMap_nil, List.append_nil]
  by_cases hkey : key = "element_type"
  · subst hkey
    cases n.attribute? "element_type" <;> cases n.attribute? "precision" <;> simp [Amendment.value?]
  · cases n.attribute? "element_type" <;> cases n.attribute? "precision" <;>
      simp [Amendment.value?, hkey]

end Extender

namespace Registry

section Lookup

theorem opTypes_builtin :
    builtin.opTypes = ["GRUSequence", "LSTMSequence", "Parameter", "RNNSequence"] := rfl

/-- Graph inputs have an extender of their own, and all other types that are known share one. -/
theorem get?_builtin_of_mem (htag : tag ∈ builtin.opTypes) :
    builtin.get? tag = some (if tag = "Parameter" then .parameter else .sequence tag) := by
  simp only [opTypes_builtin, List.mem_cons, List.not_mem_nil, or_false] at htag
  rcases htag with rfl | rfl | rfl | rfl <;> rfl

theorem get?_builtin_of_not_mem (htag : tag ∉ builtin.opTypes) : builtin.get? tag = none := by
  rw [mem_opTypes_iff, ← Option.isSome_iff_exists] at htag
  exact Option.not_isSome_iff_eq_none.1 htag

end Lookup

section Extension

theorem extend?_builtin_of_mem (hn : n.opType ∈ builtin.opTypes) :
    builtin.extend? n = some (builtin.extend n) := by
  rw [extend, extend?, get?_builtin_of_mem hn, Option.map_some, Option.getD_some]

theorem extend?_builtin_of_not_mem (hn : n.opType ∉ builtin.opTypes) :
    builtin.extend? n = none := by
  rw [extend?, get?_builtin_of_not_mem hn, Option.map_none]

theorem extend_builtin_of_not_mem (hn : n.opType ∉ builtin.opTypes) : builtin.extend n = n := by
  rw [extend, extend?_builtin_of_not_mem hn, Option.getD_none]

/-- A graph input is extended by its own extender, the other types that are known get the recorded
shapes. -/
theorem extend_builtin_of_mem (hn : n.opType ∈ builtin.opTypes) : builtin.extend n =
    if n.opType = "Parameter" then Extender.parameter.extend n
    else { n with strategy := .recorded } := by
  rw [extend, extend?, get?_builtin_of_mem hn, Option.map_some, Option.getD_some]
  split
  · rfl
  · exact Extender.extend_sequence n.opType n

/-- An extender leaves everything but strategy and attributes as it is. -/
theorem extend_eq (r : Registry) (n : Node) : r.extend n =
    { n with attributes := (r.extend n).attributes, strategy := (r.extend n).strategy } := by
  rw [extend_eq_foldl_amend]
  exact Node.foldl_amend_eq _ n

/-- The strategy of a node of a known type, after it was extended. -/
theorem strategy_extend_builtin (hn : n.opType ∈ builtin.opTypes) :
    (builtin.extend n).strategy = if n.opType = "Parameter" then .fromAttribute else .recorded := by
  rw [extend_builtin_of_mem hn]
  split
  · exact Extender.strategy_extend_parameter n
  · rfl

/-- No attribute changes but the missing element type of a graph input. -/
theorem attribute?_extend_builtin (n : Node) (key : String) : (builtin.extend n).attribute? key =
    if n.opType = "Parameter" ∧ key = "element_type" then
      (n.attribute? key).or ((n.attribute? "precision").map String.toLower)
    else n.attribute? key := by
  by_cases hn : n.opType ∈ builtin.opTypes
  · rw [extend_builtin_of_mem hn]
    by_cases htype : n.opType = "Parameter"
    · rw [if_pos htype, Extender.attribute?_extend_parameter]
      simp [htype]
    · simp [htype, Node.attribute?]
  · have htype : n.opType ≠ "Parameter" := by
      rintro heq
      rw [heq, opTypes_builtin] at hn
      simp at hn
    simp [extend_builtin_of_not_mem hn, htype]

theorem opType_extend (r : Registry) (n : Node) : (r.extend n).opType = n.opType :=
  (congrArg Node.opType (r.extend_eq n) :)

/-- An attribute that is there keeps its value. -/
theorem attribute?_extend_builtin_of_some (hvalue : n.attribute? key = some value) :
    (builtin.extend n).attribute? key = some value := by
  rw [attribute?_extend_builtin, hvalue, Option.some_or, ite_self]

/-- What was extended has nothing left to be extended. -/
theorem extend_builtin_extend (n : Node) :
    builtin.extend (builtin.extend n) = builtin.extend n := by
  have htype : (builtin.extend n).opType = n.opType := builtin.opType_extend n
  by_cases hn : n.opType ∈ builtin.opTypes
  · have hstrategy : (builtin.extend (builtin.extend n)).strategy =
        (builtin.extend n).strategy := by
      rw [strategy_extend_builtin (htype ▸ hn), strategy_extend_builtin hn, htype]
    have hattributes : (builtin.extend (builtin.extend n)).attributes =
        (builtin.extend n).attributes := by
      refine Node.attributes_eq_of_attribute? fun key => ?_
      simp only [attribute?_extend_builtin, htype]
      split
      · -- the older attribute is the same as before, and what was missing is there
        simp [Option.or_assoc]
      · rfl
    rw [extend_eq, hstrategy, hattributes]
  · rw [extend_builtin_of_not_mem hn, extend_builtin_of_not_mem hn]

/-- Whether a registry has an extender for a node depends on its operator type only. -/
theorem isSome_extend? (r : Registry) (n : Node) :
    (r.extend? n).isSome = (r.get? n.opType).isSome :=
  Option.isSome_map

theorem iterate_extend_builtin (n : Node) (k : Nat) :
    builtin.extend^[k + 1] n = builtin.extend n := by
  rw [Function.iterate_succ_apply]
  exact Function.iterate_fixed (extend_builtin_extend n) k

theorem isSome_extend?_iterate (n : Node) (k : Nat) :
    (builtin.extend? (builtin.extend^[k] n)).isSome = (builtin.extend? n).isSome := by
  cases k with
  | zero => rfl
  | succ k => rw [iterate_extend_builtin, isSome_extend?, isSome_extend?, opType_extend]

/-- Whatever a node holds, to extend it with the builtin extenders once or more often makes the same
of it, and each time an extender is there or each time none is. A node of another type than the four
that are known is left as it is. A node of one of these gets the strategy of its type and keeps
everything else: a graph input without an element type gets the one that stands under the older
name, in lower case, and no other attribute is added or changed. In lower case every name of an
element type is read as before. -/
theorem extend_builtin_settles (n : Node) :
    (∀ k, builtin.extend^[k + 1] n = builtin.extend n ∧
      (builtin.extend? (builtin.extend^[k] n)).isSome = (builtin.extend? n).isSome) ∧
    builtin.opTypes = ["GRUSequence", "LSTMSequence", "Parameter", "RNNSequence"] ∧
    (n.opType ∉ builtin.opTypes → builtin.extend? n = none ∧ builtin.extend n = n) ∧
    (n.opType ∈ builtin.opTypes → builtin.extend? n = some (builtin.extend n) ∧
      (builtin.extend n).strategy = if n.opType = "Parameter" then .fromAttribute else .recorded) ∧
    builtin.extend n = { n with
      attributes := (builtin.extend n).attributes
      strategy := (builtin.extend n).strategy } ∧
    (∀ key, (builtin.extend n).attribute? key =
      if n.opType = "Parameter" ∧ key = "element_type" then
        (n.attribute? key).or ((n.attribute? "precision").map String.toLower)
      else n.attribute? key) ∧
    (∀ key value, n.attribute? key = some value →
      (builtin.extend n).attribute? key = some value) ∧
    ∀ text, ElementType.ofName? text.toLower = ElementType.ofName? text :=
  ⟨fun k => ⟨iterate_extend_builtin n k, isSome_extend?_iterate n k⟩, opTypes_builtin,
    fun hn => ⟨extend?_builtin_of_not_mem hn, extend_builtin_of_not_mem hn⟩,
    fun hn => ⟨extend?_builtin_of_mem hn, strategy_extend_builtin hn⟩, builtin.extend_eq n,
    attribute?_extend_builtin n, fun _ _ => attribute?_extend_builtin_of_some,
    ElementType.ofName?_toLower⟩

/-- A graph input that has its element type under the older name. -/
def olderInput : Node where
  id := 3
  name := "x"
  opType := "Parameter"
  version := some "opset1"
  attributes := .ofList [("precision", "Fp16"), ("shape", "2,?")]
  inputs := []
  outputs := [⟨0, none, none, none⟩]

theorem extend_builtin_olderInput_settles :
    builtin.extend^[3] olderInput = builtin.extend olderInput ∧
    builtin.extend? olderInput = some (builtin.extend olderInput) ∧
    (builtin.extend olderInput).attribute? "precision" = some "Fp16" ∧
    (builtin.extend olderInput).attribute? "element_type" = some "fp16" ∧
    ElementType.ofName? "fp16" = some .f16 := by
  have hlower : "Fp16".toLower = "fp16" := by decide +kernel
  obtain ⟨hagain, -, -, hknown, -, hattribute, hkept, hread⟩ := extend_builtin_settles olderInput
  have htype : olderInput.opType ∈ builtin.opTypes := by decide
  refine ⟨(hagain 2).1, (hknown htype).1, hkept _ _ (by decide), ?_, ?_⟩
  · rw [hattribute, ← hlower]
    rfl
  · rw [← hlower, hread]
    decide +kernel

end Extension

end Registry

end OpGraph
