import OpGraph.Proofs.Graph.WellFormed
import OpGraph.Proofs.Traversal

/-!
# What one visit computes

The rule of each strategy and the two comparisons with the recorded shapes, each said as the exact
condition under which it succeeds. What a visit computes hangs on the frame of the graph and on the
shapes that arrive at the node, and on nothing else.
-/

namespace OpGraph

/-- Broadcasting a list of shapes is to go through it from left to right. -/
theorem Shape.broadcastAll_eq_ok_iff {first s : Shape} {rest : List Shape} :
    first.broadcastAll rest = .ok s ↔ rest.foldlM Shape.broadcast? first = some s := by
  induction rest generalizing first with
  | nil => simp [broadcastAll]
  | cons next rest ih =>
    rw [broadcastAll, List.foldlM_cons]
    cases first.broadcast? next with
    | none => simp
    | some joined => simpa using ih

namespace Node

variable {n m : Node} {inputs shapes : List Shape}

section Rules

theorem recordedShapes_eq_ok_iff : n.recordedShapes = .ok shapes ↔
    List.Forall₂ (fun p s => p.recorded = some s) n.outputs shapes := by
  refine mapM_eq_ok_iff fun p s => ?_
  cases p.recorded <;> simp

theorem identityShapes_eq_ok_iff : n.identityShapes inputs = .ok shapes ↔
    ∃ first rest, inputs = first :: rest ∧ shapes = n.onAllOutputs first := by
  cases inputs <;> simp [identityShapes, eq_comm]

/-- All inputs together give the shape that they broadcast to. -/
theorem broadcastShapes_eq_ok_iff : n.broadcastShapes inputs = .ok shapes ↔
    ∃ first rest s, inputs = first :: rest ∧ rest.foldlM Shape.broadcast? first = some s ∧
      shapes = n.onAllOutputs s := by
  cases inputs with
  | nil => simp [broadcastShapes]
  | cons first rest =>
    simp only [broadcastShapes, ← Shape.broadcastAll_eq_ok_iff]
    cases hs : first.broadcastAll rest <;> simp [hs, eq_comm]

theorem attributeShapes_eq_ok_iff : n.attributeShapes = .ok shapes ↔
    ∃ text s, n.attribute? "shape" = some text ∧ Shape.parse text = .ok s ∧
      shapes = n.onAllOutputs s := by
  cases htext : n.attribute? "shape" with
  | none => simp [attributeShapes, htext]
  | some text => cases hs : Shape.parse text <;> simp [attributeShapes, htext, hs, eq_comm]

/-- Every rule gives one shape for each output. -/
theorem length_of_inferShapes {strategy : Strategy}
    (h : n.inferShapes strategy inputs = .ok shapes) : shapes.length = n.outputs.length := by
  cases strategy with
  | recorded => exact (recordedShapes_eq_ok_iff.1 h).length_eq.symm
  | identity =>
    obtain ⟨first, rest, -, rfl⟩ := identityShapes_eq_ok_iff.1 h
    simp [onAllOutputs]
  | broadcast =>
    obtain ⟨first, rest, s, -, -, rfl⟩ := broadcastShapes_eq_ok_iff.1 h
    simp [onAllOutputs]
  | fromAttribute =>
    rw [inferShapes, attributeShapes_eq_ok_iff] at h
    obtain ⟨text, s, -, -, rfl⟩ := h
    simp [onAllOutputs]
  | unspecified => cases h

/-- Computed shapes pass verification if each is compatible with what is recorded, where something
is. -/
theorem checkOutputs_eq_ok_iff : n.checkOutputs shapes = .ok () ↔
    ∀ p s, (p, s) ∈ n.outputs.zip shapes → ∀ r, p.recorded = some r → s.compatible r := by
  rw [checkOutputs, forM_eq_ok_iff]
  simp only [Prod.forall]
  refine forall₃_congr fun p s _ => ?_
  cases p.recorded with
  | none => simp
  | some r => by_cases hr : s.compatible r <;> simp [hr]

end Rules

section Frames

theorem effectiveStrategy_congr (hstrategy : n.strategy = m.strategy) (fallback : Bool) :
    n.effectiveStrategy fallback = m.effectiveStrategy fallback := by
  simp only [effectiveStrategy, hstrategy]

/-- A rule looks at recorded shapes and attributes, not at the shapes found before. -/
theorem inferShapes_congr (hframe : n.withoutShapes = m.withoutShapes) (strategy : Strategy)
    (inputs : List Shape) : n.inferShapes strategy inputs = m.inferShapes strategy inputs := by
  have hstored : ∀ k : Node,
      k.withoutShapes.inferShapes strategy inputs = k.inferShapes strategy inputs := by
    intro k
    cases strategy with
    | recorded => simp [inferShapes, recordedShapes, withoutShapes, Function.comp_def]
    | identity => cases inputs <;> simp [inferShapes, identityShapes, onAllOutputs, withoutShapes,
        lacksInput]
    | broadcast => cases inputs <;> simp [inferShapes, broadcastShapes, onAllOutputs, withoutShapes,
        lacksInput]
    | fromAttribute => simp [inferShapes, attributeShapes, onAllOutputs, withoutShapes, attribute?]
    | unspecified => rfl
  rw [← hstored n, hframe, hstored m]

theorem checkOutputs_congr (hframe : n.withoutShapes = m.withoutShapes) (shapes : List Shape) :
    n.checkOutputs shapes = m.checkOutputs shapes := by
  have hstored : ∀ k : Node, k.withoutShapes.checkOutputs shapes = k.checkOutputs shapes := by
    intro k
    simp [checkOutputs, withoutShapes, List.zip_map_left]
  rw [← hstored n, hframe, hstored m]

end Frames

end Node

theorem InferReport.count_congr {n m : Node} (hstrategy : n.strategy = m.strategy)
    (report : InferReport) (strategy : Strategy) :
    report.count n strategy = report.count m strategy := by
  simp only [count, hstrategy]

namespace Graph

variable {g h : Graph} {n m : Node} {options : InferOptions} {shapes : List Shape}

/-- The inputs can be gathered if a shape arrives at each of them. -/
theorem gatherInputs_eq_ok_iff : g.gatherInputs n = .ok shapes ↔
    List.Forall₂ (fun p s => g.arriving? n.id p.id = some s) n.inputs shapes := by
  refine mapM_eq_ok_iff fun p s => ?_
  cases g.arriving? n.id p.id <;> simp

/-- Arriving shapes pass verification if each is compatible with what is recorded for its input;
inputs without either are not looked at. -/
theorem checkInputs_eq_ok_iff : g.checkInputs n = .ok () ↔
    ∀ p ∈ n.inputs, ∀ r s, p.recorded = some r → g.arriving? n.id p.id = some s →
      s.compatible r := by
  rw [checkInputs, forM_eq_ok_iff]
  refine forall₂_congr fun p _ => ?_
  cases p.recorded with
  | none => simp
  | some r =>
    cases g.arriving? n.id p.id with
    | none => simp
    | some s => by_cases hr : s.compatible r <;> simp [hr]

/-- Gathering fails at the first input at which nothing arrives. -/
theorem gatherInputs_eq_error_iff {err : InferError} : g.gatherInputs n = .error err ↔
    ∃ before p after, n.inputs = before ++ p :: after ∧
      (∀ q ∈ before, ∃ s, g.arriving? n.id q.id = some s) ∧ g.arriving? n.id p.id = none ∧
      err = .missingInput n.id p.id := by
  rw [gatherInputs, mapM_eq_error_iff]
  refine exists₃_congr fun before p after => and_congr_right fun _ => and_congr ?_ ?_
  · refine forall₂_congr fun q _ => ?_
    cases g.arriving? n.id q.id <;> simp
  · cases g.arriving? n.id p.id <;> simp [@eq_comm _ err]

/-- The comparison of inputs fails at the first that contradicts its recorded shape. -/
theorem checkInputs_eq_error_iff {err : InferError} : g.checkInputs n = .error err ↔
    ∃ before p after, n.inputs = before ++ p :: after ∧
      (∀ q ∈ before, ∀ r s, q.recorded = some r → g.arriving? n.id q.id = some s →
        s.compatible r) ∧
      ∃ r s, p.recorded = some r ∧ g.arriving? n.id p.id = some s ∧ ¬ s.compatible r ∧
        err = .inputShapeMismatch n.id p.id s r := by
  rw [checkInputs, forM_eq_error_iff]
  refine exists₃_congr fun before p after => and_congr_right fun _ => and_congr ?_ ?_
  · -- the inputs before are those of a node that has no others
    rw [← forM_eq_ok_iff]
    exact checkInputs_eq_ok_iff (n := { n with inputs := before })
  · cases p.recorded with
    | none => simp
    | some r =>
      cases g.arriving? n.id p.id with
      | none => simp
      | some s => by_cases hr : s.compatible r <;> simp [hr, @eq_comm _ err]

/-- A visit without comparisons gathers the inputs that are read and applies the rule. -/
theorem shapesOf_of_not_verify {fallback : Bool} : g.shapesOf ⟨fallback, false⟩ n =
    (if (n.effectiveStrategy fallback).readsInputs then g.gatherInputs n else pure []) >>=
      n.inferShapes (n.effectiveStrategy fallback) := by
  simp only [shapesOf, Bool.false_eq_true, false_and, if_false, bind_pure]
  split <;> rfl

/-- A visit finds shapes exactly if all four parts of it succeed: the inputs are gathered where the
strategy reads them, they pass where recorded shapes are used, the rule applies, and what it gives
passes where it is computed. -/
theorem shapesOf_eq_ok_iff : g.shapesOf options n = .ok shapes ↔
    ∃ inputs,
      (if (n.effectiveStrategy options.fallbackToRecorded).readsInputs then
        g.gatherInputs n = .ok inputs else inputs = []) ∧
      (options.verify ∧ n.effectiveStrategy options.fallbackToRecorded = .recorded →
        g.checkInputs n = .ok ()) ∧
      n.inferShapes (n.effectiveStrategy options.fallbackToRecorded) inputs = .ok shapes ∧
      (options.verify ∧ n.effectiveStrategy options.fallbackToRecorded ≠ .recorded →
        n.checkOutputs shapes = .ok ()) := by
  generalize hstrategy : n.effectiveStrategy options.fallbackToRecorded = strategy
  simp only [shapesOf, hstrategy]
  cases strategy.readsInputs with
  | true =>
    simp only [if_true, bind_eq_ok_iff, ite_bind_eq_ok_iff, pure_eq_ok_iff, exists_eq_right_right]
  | false =>
    simp only [Bool.false_eq_true, if_false, bind_eq_ok_iff, ite_bind_eq_ok_iff, pure_eq_ok_iff,
      exists_eq_right_right, exists_eq_left, exists_eq_left']

theorem length_of_shapesOf (h : g.shapesOf options n = .ok shapes) :
    shapes.length = n.outputs.length := by
  obtain ⟨inputs, -, -, hshapes, -⟩ := shapesOf_eq_ok_iff.1 h
  exact Node.length_of_inferShapes hshapes

/-- A visit to a stored node for which shapes are found succeeds: as many are found as the node has
outputs, and storing them leaves the node of the same frame that holds them. -/
theorem exists_visit_of_shapesOf {id : NodeId} (hn : g.node? id = some n)
    (hshapes : g.shapesOf options n = .ok shapes) (report : InferReport) :
    ∃ m, m.withoutShapes = n.withoutShapes ∧ m.outputShapes = shapes.map some ∧
      g.visit options report id = .ok (g.setNode id m,
        report.count n (n.effectiveStrategy options.fallbackToRecorded)) := by
  obtain ⟨m, hm⟩ : ∃ m, n.withShapes? shapes = some m := by
    simp [Node.withShapes?, length_of_shapesOf hshapes]
  obtain ⟨hframe, houtputs⟩ := Node.withShapes?_eq_some_iff.1 hm
  have hset : g.setOutputShapes id shapes = .ok (g.setNode id m) :=
    setOutputShapes_eq_ok_iff.2 ⟨n, m, hn, hframe, houtputs, rfl⟩
  exact ⟨m, hframe, houtputs, visit_eq_ok_iff.2 ⟨n, shapes, hn, hshapes, hset, rfl⟩⟩

/-- A visit to a stored node fails exactly where no shapes are found. -/
theorem visit_eq_error_iff {id : NodeId} (hn : g.node? id = some n) {report : InferReport}
    {err : InferError} :
    g.visit options report id = .error err ↔ g.shapesOf options n = .error err := by
  cases hshapes : g.shapesOf options n with
  | error err' => simp [visit, hn, hshapes, bind, Except.bind]
  | ok shapes =>
    obtain ⟨m, -, -, hvisit⟩ := exists_visit_of_shapesOf hn hshapes report
    simp [hvisit]

/-- A visit to a stored node succeeds exactly where shapes are found. -/
theorem exists_visit_iff_exists_shapesOf {id : NodeId} (hn : g.node? id = some n)
    {report : InferReport} : (∃ next, g.visit options report id = .ok next) ↔
      ∃ shapes, g.shapesOf options n = .ok shapes := by
  constructor
  · rintro ⟨next, hvisit⟩
    obtain ⟨m, shapes, hm, hshapes, -⟩ := visit_eq_ok_iff.1 hvisit
    obtain rfl : n = m := Option.some.inj (hn.symm.trans hm)
    exact ⟨shapes, hshapes⟩
  · rintro ⟨shapes, hshapes⟩
    obtain ⟨m, -, -, hvisit⟩ := exists_visit_of_shapesOf hn hshapes report
    exact ⟨_, hvisit⟩

/-- A shape arrives over an edge, from the output at its source. -/
theorem arriving?_eq_some_iff_exists_edge (hg : g.WellFormed) {id : NodeId} {port : PortId}
    {s : Shape} : g.arriving? id port = some s ↔
      ∃ e ∈ g.edges, e.target = ⟨id, port⟩ ∧ g.shapeAt? e.source = some s := by
  simp only [arriving?, Option.bind_eq_bind, Option.bind_eq_some_iff, hg.producer?_eq_some_iff,
    and_assoc]

/-- What arrives at an input depends on the shapes at the sources of its edges only. -/
theorem arriving?_congr (hg : g.WellFormed) (hgh : SameFrame g h) {id : NodeId} {port : PortId}
    (hshape : ∀ e ∈ g.edges, e.target = ⟨id, port⟩ → g.shapeAt? e.source = h.shapeAt? e.source) :
    g.arriving? id port = h.arriving? id port := by
  simp only [arriving?, ← hgh.producer?_eq]
  cases hproducer : g.producer? id port with
  | none => rfl
  | some e =>
    obtain ⟨he, htarget⟩ := hg.producer?_eq_some_iff.1 hproducer
    exact hshape e he htarget

/-- A visit depends on the frame of the node and on the shapes that arrive at its inputs. -/
theorem shapesOf_eq_of_arriving? (hnm : n.withoutShapes = m.withoutShapes)
    (harriving : ∀ p ∈ n.inputs, g.arriving? n.id p.id = h.arriving? n.id p.id) :
    g.shapesOf options n = h.shapesOf options m := by
  have hid : m.id = n.id := (congrArg Node.id hnm.symm :)
  have hinputs : m.inputs = n.inputs := (congrArg Node.inputs hnm.symm :)
  have hstrategy : m.strategy = n.strategy := (congrArg Node.strategy hnm.symm :)
  have hgather : g.gatherInputs n = h.gatherInputs m := by
    rw [gatherInputs, gatherInputs, hinputs, hid]
    refine mapM_congr fun p hp => ?_
    rw [harriving p hp]
  have hcheck : g.checkInputs n = h.checkInputs m := by
    rw [checkInputs, checkInputs, hinputs, hid]
    refine forM_congr fun p hp => ?_
    rw [harriving p hp]
  simp only [shapesOf, hgather, hcheck, Node.effectiveStrategy_congr hstrategy,
    Node.inferShapes_congr hnm, Node.checkOutputs_congr hnm]

/-- A visit depends on the frame and on the shapes at the sources of the edges into the node. -/
theorem shapesOf_congr (hg : g.WellFormed) (hgh : SameFrame g h)
    (hnm : n.withoutShapes = m.withoutShapes)
    (hshape : ∀ e ∈ g.edges, e.target.node = n.id → g.shapeAt? e.source = h.shapeAt? e.source) :
    g.shapesOf options n = h.shapesOf options m := by
  refine shapesOf_eq_of_arriving? hnm fun p _ => ?_
  refine arriving?_congr hg hgh fun e he htarget => hshape e he ?_
  rw [htarget]

end Graph

end OpGraph
