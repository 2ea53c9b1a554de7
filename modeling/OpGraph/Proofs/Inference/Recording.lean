import OpGraph.Proofs.Graph.Mapping
import OpGraph.Proofs.Inference.Verification

/-!
# Recording what was found

The shapes that a run has found can be recorded at the ports of the graph: at the outputs that hold
them and at the inputs they arrive at. A run on the graph with these records passes all comparisons
and finds the same shapes again, for nodes that use their recorded shapes read back what they have
stored, and all others do not look at records.
-/

namespace OpGraph

/-- The node with the shapes recorded that `h` holds at its outputs and those that arrive in `h` at
its inputs; an input at which nothing arrives keeps its record. -/
def Node.recordFrom (h : Graph) (n : Node) : Node :=
  { n with
    inputs := n.inputs.map fun p => { p with recorded := (h.arriving? n.id p.id).or p.recorded }
    outputs := n.outputs.map fun p => { p with recorded := h.shapeAt? ⟨n.id, p.id⟩ } }

namespace Graph

variable {g h k : Graph} {n : Node} {options : InferOptions} {inputs shapes : List Shape}

/-- The graph with the shapes recorded that `h` holds. -/
def recordFrom (g h : Graph) : Graph := g.mapNodes (Node.recordFrom h)

theorem keepsPorts_recordFrom (h : Graph) : Node.KeepsPorts (Node.recordFrom h) where
  id_eq _ := rfl
  inputs_eq n := by simp [Node.recordFrom]
  outputs_eq n := by simp [Node.recordFrom]

section Frame

theorem withoutShapes_recordFrom (h : Graph) (n : Node) :
    (n.recordFrom h).withoutShapes = n.withoutShapes.recordFrom h := by
  simp [Node.recordFrom, Node.withoutShapes]

/-- Recording shapes in graphs with one frame gives graphs with one frame. -/
theorem SameFrame.recordFrom (hgk : SameFrame g k) (h : Graph) :
    SameFrame (g.recordFrom h) (k.recordFrom h) := by
  refine ext_node? hgk.name_eq hgk.version_eq hgk.edges_eq hgk.feeds_eq fun id => ?_
  have hnode := congrArg (Option.map (Node.recordFrom h)) (hgk.node?_map_eq id)
  simpa only [node?_withoutShapes, Graph.recordFrom, node?_mapNodes, Option.map_map,
    Function.comp_def, withoutShapes_recordFrom] using hnode

theorem SameFrame.strategiesOf_eq (hgk : SameFrame g k) (ids : List NodeId) :
    g.strategiesOf ids = k.strategiesOf ids := by
  have hstrategy : ∀ id, (g.node? id).map Node.strategy = (k.node? id).map Node.strategy := by
    intro id
    have hnode := congrArg (Option.map Node.strategy) (hgk.node?_map_eq id)
    rwa [Option.map_map, Option.map_map] at hnode
  simp only [strategiesOf, hstrategy]

theorem strategiesOf_recordFrom (g h : Graph) (ids : List NodeId) :
    (g.recordFrom h).strategiesOf ids = g.strategiesOf ids := by
  simp only [strategiesOf, recordFrom, node?_mapNodes, Option.map_map]
  rfl

end Frame

section Visit

/-- The same shapes arrive at the inputs of a node before and after recording. -/
theorem gatherInputs_recordFrom_eq_ok_iff :
    (h.recordFrom h).gatherInputs (n.recordFrom h) = .ok inputs ↔
      h.gatherInputs n = .ok inputs := by
  rw [gatherInputs_eq_ok_iff, gatherInputs_eq_ok_iff, Node.recordFrom, List.forall₂_map_left_iff]
  simp only [recordFrom, arriving?_mapNodes (keepsPorts_recordFrom h)]

/-- What arrives agrees with what was recorded as arriving. -/
theorem checkInputs_recordFrom (h : Graph) (n : Node) :
    (h.recordFrom h).checkInputs (n.recordFrom h) = .ok () := by
  rw [checkInputs_eq_ok_iff]
  intro p hp r s hr hs
  obtain ⟨q, -, rfl⟩ := List.mem_map.1 hp
  rw [recordFrom, arriving?_mapNodes (keepsPorts_recordFrom h)] at hs
  have harriving : h.arriving? n.id q.id = some s := hs
  simp only [harriving, Option.some_or, Option.some.injEq] at hr
  rw [hr]
  exact r.compatible_self

/-- What is held at the outputs agrees with what was recorded there. -/
theorem checkOutputs_recordFrom (hh : h.WellFormed) (hn : h.node? n.id = some n)
    (houtputs : n.outputShapes = shapes.map some) :
    (n.recordFrom h).checkOutputs shapes = .ok () := by
  have houtputs' : (n.recordFrom h).outputShapes = shapes.map some := by
    rw [(keepsPorts_recordFrom h).outputShapes_eq, houtputs]
  rw [checkOutputs_eq_ok_iff_of_outputShapes houtputs']
  intro p hp r hr
  obtain ⟨q, hq, rfl⟩ := List.mem_map.1 hp
  exact ⟨r, (hh.shapeAt?_eq hn hq).symm.trans hr, r.compatible_self⟩

/-- The rule of a node that holds the shapes it gives leads to them also where they are recorded. -/
theorem inferShapes_node_recordFrom (hh : h.WellFormed) (hn : h.node? n.id = some n)
    (houtputs : n.outputShapes = shapes.map some) {strategy : Strategy}
    (hshapes : n.inferShapes strategy inputs = .ok shapes) :
    (n.recordFrom h).inferShapes strategy inputs = .ok shapes := by
  -- recording keeps the number of outputs, and a rule that computes gives all of them one shape
  have hall : ∀ s, (n.recordFrom h).onAllOutputs s = n.onAllOutputs s := by
    intro s
    simp [Node.onAllOutputs, Node.recordFrom]
  cases strategy with
  | recorded =>
    refine Node.recordedShapes_eq_ok_iff.2 (List.forall₂_map_left_iff.2 ?_)
    exact hh.forall₂_shapeAt? hn houtputs
  | identity =>
    obtain ⟨first, rest, rfl, rfl⟩ := Node.identityShapes_eq_ok_iff.1 hshapes
    exact Node.identityShapes_eq_ok_iff.2 ⟨first, rest, rfl, (hall first).symm⟩
  | broadcast =>
    obtain ⟨first, rest, s, rfl, hs, rfl⟩ := Node.broadcastShapes_eq_ok_iff.1 hshapes
    exact Node.broadcastShapes_eq_ok_iff.2 ⟨first, rest, s, rfl, hs, (hall s).symm⟩
  | fromAttribute =>
    rw [Node.inferShapes, Node.attributeShapes_eq_ok_iff] at hshapes ⊢
    obtain ⟨text, s, htext, hs, rfl⟩ := hshapes
    exact ⟨text, s, htext, hs, (hall s).symm⟩
  | unspecified => cases hshapes

/-- A visit to a node that holds what it finds finds the same when this is recorded, and passes all
comparisons. -/
theorem shapesOf_recordFrom (hh : h.WellFormed) (hn : h.node? n.id = some n)
    (houtputs : n.outputShapes = shapes.map some) (hshapes : h.shapesOf options n = .ok shapes) :
    (h.recordFrom h).shapesOf ⟨options.fallbackToRecorded, true⟩ (n.recordFrom h) = .ok shapes := by
  obtain ⟨inputs, hinputs, -, hrule, -⟩ := shapesOf_eq_ok_iff.1 hshapes
  refine shapesOf_eq_ok_iff.2 ⟨inputs, ?_, fun _ => checkInputs_recordFrom h n,
    inferShapes_node_recordFrom hh hn houtputs hrule,
    fun _ => checkOutputs_recordFrom hh hn houtputs⟩
  rw [gatherInputs_recordFrom_eq_ok_iff]
  exact hinputs

/-- A settled graph with its own shapes recorded is settled, and verification has nothing to
object. -/
theorem settled_recordFrom (hh : h.WellFormed) (hsettled : h.Settled options) :
    (h.recordFrom h).Settled ⟨options.fallbackToRecorded, true⟩ := by
  intro id m hm
  obtain ⟨n, hn, rfl⟩ := exists_node?_of_mapNodes hm
  obtain ⟨shapes, hshapes, houtputs⟩ := hsettled id n hn
  obtain rfl : n.id = id := hh.id_eq id n hn
  refine ⟨shapes, shapesOf_recordFrom hh hn houtputs hshapes, ?_⟩
  rw [(keepsPorts_recordFrom h).outputShapes_eq, houtputs]

end Visit

section Run

variable {report : InferReport}

/-- Take a graph made by operations on which a run succeeds, with any options. Record in it the
shapes that the run has found: at every output the one found there, and at every connected input the
one found at the port that feeds it. Whatever inferred shapes the graph with these records holds, a
run on it that compares, with the same choice of fallback, succeeds with the same report and finds
the same shapes. -/
theorem inferShapes_recordFrom (hg : g.Reachable)
    (hrun : (g.inferShapes options).result = .ok report)
    (hk : SameFrame k (g.recordFrom (g.inferShapes options).graph)) :
    (k.inferShapes ⟨options.fallbackToRecorded, true⟩).result = .ok report ∧
      ∀ t, (k.inferShapes ⟨options.fallbackToRecorded, true⟩).graph.shapeAt? t =
        (g.inferShapes options).graph.shapeAt? t := by
  have hwf : g.WellFormed := hg.wellFormed
  obtain ⟨hacyclic, hframe, hsettled, rfl⟩ := hwf.settled_of_ok hrun
  generalize (g.inferShapes options).graph = h at hframe hsettled hk
  have hkwf : k.WellFormed := (hwf.mapNodes (keepsPorts_recordFrom h)).of_sameFrame hk.symm
  have hlinks : k.links = g.links := by
    simp only [links, hk.edges_eq, recordFrom, edges_mapNodes]
  have hids : k.nodeIds = g.nodeIds := by
    rw [hk.nodeIds_eq, recordFrom, nodeIds_mapNodes]
  -- the shapes found before are settled for the recorded graph, and so a run finds them
  have hrun' := hkwf.inferShapes_eq_ok_iff.2 ⟨hlinks ▸ hacyclic, hk.trans (hframe.recordFrom h),
    settled_recordFrom (hwf.of_sameFrame hframe) hsettled, rfl⟩
  rw [hrun', hk.strategiesOf_eq, strategiesOf_recordFrom, hids]
  exact ⟨rfl, shapeAt?_mapNodes (keepsPorts_recordFrom h) h⟩

/-- A source, a node that falls back to the shape recorded at its output although another one is
recorded at its input, and a node without records behind it. -/
def relied : Graph :=
  (empty "relied" 1).performAll
    [.addNode ⟨7, "x", "Parameter", none, .empty, [],
        [⟨0, none, some ⟨[.fixed 4]⟩, none⟩], .recorded⟩,
      .addNode ⟨3, "y", "TopK", none, .empty, [⟨0, some ⟨[.fixed 9]⟩⟩],
        [⟨1, none, some ⟨[.dynamic]⟩, none⟩], .unspecified⟩,
      .addNode ⟨5, "z", "Relu", none, .empty, [⟨0, none⟩], [⟨1, none, none, none⟩], .identity⟩,
      .addEdge ⟨⟨7, 0⟩, ⟨3, 0⟩⟩, .addEdge ⟨⟨3, 1⟩, ⟨5, 0⟩⟩]

/-- A graph that fails verification and passes it when the shapes of a run are recorded. -/
theorem inferShapes_relied_recordFrom :
    (relied.inferShapes ⟨true, false⟩).result = .ok ⟨3, 2, 1, 1⟩ ∧
    (relied.inferShapes ⟨true, true⟩).result =
      .error (.inputShapeMismatch 3 0 ⟨[.fixed 4]⟩ ⟨[.fixed 9]⟩) ∧
    (((relied.recordFrom (relied.inferShapes ⟨true, false⟩).graph).performAll
      [.setOutputShapes 5 [.scalar]]).inferShapes ⟨true, true⟩).result = .ok ⟨3, 2, 1, 1⟩ := by
  have hreachable : relied.Reachable := ⟨_, _, _, rfl⟩
  have hrun : (relied.inferShapes ⟨true, false⟩).result = .ok ⟨3, 2, 1, 1⟩ := by decide
  have hframe : SameFrame
      ((relied.recordFrom (relied.inferShapes ⟨true, false⟩).graph).performAll
        [.setOutputShapes 5 [.scalar]])
      (relied.recordFrom (relied.inferShapes ⟨true, false⟩).graph) := rfl
  exact ⟨hrun, by decide, (inferShapes_recordFrom hreachable hrun hframe).1⟩

end Run

end Graph

end OpGraph
