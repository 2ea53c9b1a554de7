import OpGraph.Proofs.Inference.Blame
import OpGraph.Proofs.Inference.Settled

/-!
# Nodes whose shapes stand in an attribute

The shape of such a node hangs on nothing but its attribute `shape`. So it is known before the run,
and so is whether the attribute will be refused: a run that gets to the node fails with this error
exactly if the attribute gives it.
-/

namespace OpGraph

namespace Node

variable {n : Node} {text : String} {err : InferError}

theorem effectiveStrategy_of_fromAttribute (hn : n.strategy = .fromAttribute) (fallback : Bool) :
    n.effectiveStrategy fallback = .fromAttribute := by
  rw [effectiveStrategy, hn]
  exact if_neg fun h => Strategy.noConfusion h.1

/-- An attribute that is there is refused only because its text spells no shape, and for the fault
that reading it finds. -/
theorem attributeShapes_eq_error_iff (htext : n.attribute? "shape" = some text) :
    n.attributeShapes = .error err ↔
      ∃ e, Shape.parse text = .error e ∧ err = .badAttribute n.id "shape" (.notAShape e) := by
  cases hs : Shape.parse text <;> simp [attributeShapes, htext, hs, eq_comm]

end Node

namespace Graph

variable {g h : Graph} {options : InferOptions} {n : Node} {id : NodeId} {key : String}
  {fault : AttributeFault} {err : InferError}

section Visit

/-- Without verification a visit to such a node finds what its attribute says, whatever arrives. -/
theorem shapesOf_of_fromAttribute (hn : n.strategy = .fromAttribute) (fallback : Bool) :
    g.shapesOf ⟨fallback, false⟩ n = n.attributeShapes := by
  simp [shapesOf_of_not_verify, Node.effectiveStrategy_of_fromAttribute hn, Strategy.readsInputs,
    Node.inferShapes]

/-- A comparison may fail as well, but with another error. -/
theorem shapesOf_eq_badAttribute_iff (hn : n.strategy = .fromAttribute) :
    g.shapesOf options n = .error (.badAttribute id key fault) ↔
      n.attributeShapes = .error (.badAttribute id key fault) := by
  obtain ⟨fallback, _ | _⟩ := options
  · rw [shapesOf_of_fromAttribute hn]
  · have hcomputed : n.effectiveStrategy fallback ≠ .recorded := by
      rw [Node.effectiveStrategy_of_fromAttribute hn]
      decide
    rw [shapesOf_verify_eq_error_iff hcomputed rfl, shapesOf_of_fromAttribute hn]

/-- In a settled graph all outputs of the node hold the shape that stands in the attribute. -/
theorem Settled.shape_eq_of_attribute (hsettled : h.Settled options) (hn : h.node? id = some n)
    (hstrategy : n.strategy = .fromAttribute) : ∃ text s, n.attribute? "shape" = some text ∧
      Shape.parse text = .ok s ∧ ∀ q ∈ n.outputs, q.shape = some s := by
  obtain ⟨shapes, hshapes, houtputs⟩ := hsettled id n hn
  obtain ⟨inputs, -, -, hrule, -⟩ := shapesOf_eq_ok_iff.1 hshapes
  rw [Node.effectiveStrategy_of_fromAttribute hstrategy, Node.inferShapes,
    Node.attributeShapes_eq_ok_iff] at hrule
  obtain ⟨text, s, htext, hs, rfl⟩ := hrule
  refine ⟨text, s, htext, hs, fun q hq => ?_⟩
  obtain ⟨s', hs', hshape⟩ := exists_mem_of_forall₂ (outputShapes_eq_iff.1 houtputs) q hq
  rw [hshape, List.eq_of_mem_replicate hs']

end Visit

section Run

/-- A run refuses the attribute exactly if it gets to the node and the attribute is to be
refused. -/
theorem WellFormed.result_eq_badAttribute_iff (hg : g.WellFormed) (hn : g.node? id = some n)
    (hstrategy : n.strategy = .fromAttribute) :
    (g.inferShapes options).result = .error (.badAttribute id key fault) ↔
      g.GetsTo options id ∧ n.attributeShapes = .error (.badAttribute id key fault) := by
  have hnode : (InferError.badAttribute id key fault).node? = some id := rfl
  refine hg.result_eq_error_iff_getsTo hnode fun before after h report _ hbefore => ?_
  have hframe : SameFrame g h := by
    simpa only [hbefore] using sameFrame_visitAll options before g {}
  obtain ⟨m, hm, hmn⟩ := hframe.exists_node? hn
  have hmstrategy : m.strategy = .fromAttribute := (congrArg Node.strategy hmn).trans hstrategy
  have hrule : m.attributeShapes = n.attributeShapes :=
    Node.inferShapes_congr hmn .fromAttribute []
  rw [visit_eq_error_iff hm, shapesOf_eq_badAttribute_iff hmstrategy, hrule]

end Run

end Graph

end OpGraph
