import OpGraph.Proofs.Inference.Failure
import OpGraph.Proofs.Inference.Verification
import OpGraph.Proofs.Order.Stuck

/-!
# What the errors of a run name

The error of a visit names the visited node, whichever part of the visit has failed. Only the sort,
before the first visit, has an error about several nodes: it names those on cycles and behind them.
So a run reports a cycle exactly if there is one, and the nodes it names are told by the edges
alone.
-/

namespace OpGraph

/-- The node an error is about; errors of the graph as a whole are about none. -/
def InferError.node? : InferError → Option NodeId
  | missingRecorded n _ | missingInput n _ | noStrategy n _ | incompatibleBroadcast n _ _
  | badAttribute n _ _ | shapeMismatch n _ _ _ | inputShapeMismatch n _ _ _ => some n
  | graph _ => none

theorem InferError.node?_of_mismatchNode? {err : InferError} {id : NodeId}
    (h : err.mismatchNode? = some id) : err.node? = some id := by
  cases err with
  | shapeMismatch => exact h
  | inputShapeMismatch => exact h
  | _ => cases h

namespace Node

variable {n : Node} {inputs : List Shape} {err : InferError}

theorem node?_of_recordedShapes_error (h : n.recordedShapes = .error err) :
    err.node? = some n.id := by
  obtain ⟨p, -, hfail⟩ := exists_mem_of_mapM_eq_error h
  split at hfail
  · cases hfail
  · exact Except.error.inj hfail ▸ rfl

theorem node?_of_identityShapes_error (h : n.identityShapes inputs = .error err) :
    err.node? = some n.id := by
  cases inputs with
  | nil => exact Except.error.inj h ▸ rfl
  | cons first rest => cases h

theorem node?_of_broadcastShapes_error (h : n.broadcastShapes inputs = .error err) :
    err.node? = some n.id := by
  cases inputs with
  | nil => exact Except.error.inj h ▸ rfl
  | cons first rest =>
    rw [broadcastShapes] at h
    split at h
    · cases h
    · exact Except.error.inj h ▸ rfl

theorem node?_of_attributeShapes_error (h : n.attributeShapes = .error err) :
    err.node? = some n.id := by
  rw [attributeShapes] at h
  split at h
  · exact Except.error.inj h ▸ rfl
  · split at h
    · cases h
    · exact Except.error.inj h ▸ rfl

/-- The rule of every strategy blames the node it is applied to. -/
theorem node?_of_inferShapes_error {strategy : Strategy}
    (h : n.inferShapes strategy inputs = .error err) : err.node? = some n.id := by
  cases strategy with
  | recorded => exact node?_of_recordedShapes_error h
  | identity => exact node?_of_identityShapes_error h
  | broadcast => exact node?_of_broadcastShapes_error h
  | fromAttribute => exact node?_of_attributeShapes_error h
  | unspecified => exact Except.error.inj h ▸ rfl

end Node

namespace Graph

variable {g : Graph} {options : InferOptions} {n : Node} {err : InferError} {stuck : List NodeId}

theorem node?_of_gatherInputs_error (h : g.gatherInputs n = .error err) :
    err.node? = some n.id := by
  obtain ⟨p, -, hfail⟩ := exists_mem_of_mapM_eq_error h
  split at hfail
  · cases hfail
  · exact Except.error.inj hfail ▸ rfl

/-- Without comparisons, the inputs are missing or the rule fails. -/
theorem node?_of_shapesOf_error_of_not_verify {fallback : Bool}
    (h : g.shapesOf ⟨fallback, false⟩ n = .error err) : err.node? = some n.id := by
  rw [shapesOf_of_not_verify] at h
  rcases bind_eq_error_iff.1 h with hinputs | ⟨inputs, -, hrule⟩
  · split at hinputs
    · exact node?_of_gatherInputs_error hinputs
    · cases hinputs
  · exact Node.node?_of_inferShapes_error hrule

/-- Whatever part of a visit fails, its error names the visited node. -/
theorem node?_of_shapesOf_error (h : g.shapesOf options n = .error err) :
    err.node? = some n.id := by
  obtain ⟨fallback, _ | _⟩ := options
  · exact node?_of_shapesOf_error_of_not_verify h
  · rcases shapesOf_verify_cases g fallback n with hsame | ⟨err', hfail, hnode⟩
    · exact node?_of_shapesOf_error_of_not_verify (hsame ▸ h)
    · rw [hfail] at h
      exact Except.error.inj h ▸ InferError.node?_of_mismatchNode? hnode

/-- A visit blames the node it finds under its number, or there is none. -/
theorem node?_of_visit_error {report : InferReport} {id : NodeId}
    (h : g.visit options report id = .error err) :
    (g.node? id = none ∧ err = .graph (.unknownNode id)) ∨
      ∃ n, g.node? id = some n ∧ err.node? = some n.id := by
  cases hn : g.node? id with
  | none =>
    left
    rw [visit, hn] at h
    exact ⟨rfl, (Except.error.inj h).symm⟩
  | some n => exact Or.inr ⟨n, rfl, node?_of_shapesOf_error ((visit_eq_error_iff hn).1 h)⟩

/-- The order fails exactly if nodes are stuck, and names these. -/
theorem topologicalOrder_eq_cycle_iff :
    g.topologicalOrder = .error (.cycle stuck) ↔ IsStuck g.links stuck := by
  have hsort : g.topologicalOrder = (topologicalSort g.nodeIds g.links).mapError .cycle := rfl
  rw [hsort, ← @topologicalSort_eq_error_iff g.nodeIds]
  cases topologicalSort g.nodeIds g.links <;> simp [Except.mapError]

/-- Once there is an order, no run reports a cycle: visits blame single nodes. -/
theorem visitAll_result_ne_cycle {order : List NodeId} {report : InferReport} :
    (visitAll options order g report).result ≠ .error (.graph (.cycle stuck)) := by
  intro hrun
  obtain ⟨before, id, after, h, report', -, -, hfail⟩ := exists_visit_of_visitAll_error hrun
  rcases node?_of_visit_error hfail with ⟨-, herr⟩ | ⟨n, -, hnode⟩
  · cases herr
  · cases hnode

/-- A run reports a cycle exactly if the order does; a visit never makes such an error. -/
theorem inferShapes_result_eq_cycle_iff : (g.inferShapes options).result =
    .error (.graph (.cycle stuck)) ↔ g.topologicalOrder = .error (.cycle stuck) := by
  cases hsort : g.topologicalOrder with
  | ok order =>
    rw [inferShapes_of_ok hsort]
    exact iff_of_false visitAll_result_ne_cycle (by simp)
  | error e =>
    rw [inferShapes_of_error hsort]
    simp

section Nodes

variable {id : NodeId}

/-- A run visits all nodes before this one with success. -/
def GetsTo (g : Graph) (options : InferOptions) (id : NodeId) : Prop :=
  ∃ before after h report, g.topologicalOrder = .ok (before ++ id :: after) ∧
    visitAll options before g {} = ⟨h, .ok report⟩

/-- A run that fails with an error about a node stops at this node. -/
theorem WellFormed.result_eq_error_iff_stopsAt (hg : g.WellFormed) (herr : err.node? = some id) :
    (g.inferShapes options).result = .error err ↔
      ∃ before after, g.StopsAt options before id after err := by
  constructor
  · intro hrun
    -- the error of a cycle names no node
    have hacyclic : ¬ HasCycle g.links := by
      intro hcycle
      rcases hg.topologicalOrder_cases with ⟨hacyclic, -⟩ | ⟨-, stuck, hsort⟩
      · exact hacyclic hcycle
      · rw [inferShapes_of_error hsort] at hrun
        obtain rfl := Except.error.inj hrun
        cases herr
    obtain ⟨before, id', after, hstop⟩ := exists_stopsAt_of_error hg hacyclic hrun
    obtain ⟨h, report, hbefore, hfail⟩ := hstop.exists_visit
    have hframe : SameFrame g h := by
      simpa only [hbefore] using sameFrame_visitAll options before g {}
    rcases node?_of_visit_error hfail with ⟨-, rfl⟩ | ⟨n, hn, hnode⟩
    · cases herr
    · have hid : n.id = id' := (hg.of_sameFrame hframe).id_eq id' n hn
      obtain rfl : id = id' := by
        rw [← hid]
        exact Option.some.inj (herr.symm.trans hnode)
      exact ⟨before, after, hstop⟩
  · rintro ⟨before, after, hstop⟩
    obtain ⟨h, report, -, hrun⟩ := hstop.inferShapes_eq
    rw [hrun]

/-- A run fails with an error about a node exactly if it gets to the node and what makes its visit
fail with this error is the case. -/
theorem WellFormed.result_eq_error_iff_getsTo (hg : g.WellFormed) (herr : err.node? = some id)
    {cause : Prop}
    (hvisit : ∀ before after h report, g.topologicalOrder = .ok (before ++ id :: after) →
      visitAll options before g {} = ⟨h, .ok report⟩ →
      (h.visit options report id = .error err ↔ cause)) :
    (g.inferShapes options).result = .error err ↔ g.GetsTo options id ∧ cause := by
  rw [hg.result_eq_error_iff_stopsAt herr]
  constructor
  · rintro ⟨before, after, hsort, h, report, hrun, hfail⟩
    exact ⟨⟨before, after, h, report, hsort, hrun⟩, (hvisit _ _ _ _ hsort hrun).1 hfail⟩
  · rintro ⟨⟨before, after, h, report, hsort, hrun⟩, hcause⟩
    exact ⟨before, after, hsort, h, report, hrun, (hvisit _ _ _ _ hsort hrun).2 hcause⟩

end Nodes

/-- A sort fails exactly with the ascending list of all nodes that lie on cycles of the links or
behind them, if there are any. The order of a graph and every run on it report a cycle with exactly
this list for the links between its nodes. -/
theorem cycle_reported_iff_isStuck :
    (∀ ids links stuck, topologicalSort ids links = .error stuck ↔ IsStuck links stuck) ∧
      ∀ (g : Graph) (stuck : List NodeId),
        (g.topologicalOrder = .error (.cycle stuck) ↔ IsStuck g.links stuck) ∧
        ∀ options, (g.inferShapes options).result = .error (.graph (.cycle stuck)) ↔
          IsStuck g.links stuck := by
  refine ⟨fun ids links stuck => topologicalSort_eq_error_iff,
    fun g stuck => ⟨?_, fun options => ?_⟩⟩
  · exact topologicalOrder_eq_cycle_iff
  · rw [inferShapes_result_eq_cycle_iff, topologicalOrder_eq_cycle_iff]

end Graph

end OpGraph
