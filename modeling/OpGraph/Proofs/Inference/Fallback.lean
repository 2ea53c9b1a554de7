import OpGraph.Proofs.Graph.Mapping
import OpGraph.Proofs.Inference.Progress

/-!
# Fallback to recorded shapes

With fallback a run goes as it would without on the graph in which every node without a strategy is
told to use its recorded shapes. Both go alike visit by visit, so they find the same shapes and fail
with the same error. A run that succeeds without fallback has met no node without a strategy; with
fallback it goes the same way.
-/

namespace OpGraph

namespace Node

/-- The node with its recorded shapes as strategy if it has none. -/
def markRecorded (n : Node) : Node :=
  { n with strategy := if n.strategy = .unspecified then .recorded else n.strategy }

theorem keepsPorts_markRecorded : KeepsPorts markRecorded where
  id_eq _ := rfl
  inputs_eq _ := rfl
  outputs_eq _ := rfl

theorem effectiveStrategy_false (n : Node) : n.effectiveStrategy false = n.strategy := by
  simp [effectiveStrategy]

/-- Fallback changes the strategy only where none is known. -/
theorem effectiveStrategy_of_ne {n : Node} (hn : n.strategy ≠ .unspecified) (fallback : Bool) :
    n.effectiveStrategy fallback = n.strategy := by
  simp [effectiveStrategy, hn]

/-- A marked node is visited without fallback as the node is visited with it. -/
theorem effectiveStrategy_markRecorded (n : Node) :
    n.markRecorded.effectiveStrategy false = n.effectiveStrategy true := by
  simp [effectiveStrategy, markRecorded]

/-- A rule does not look at the strategy of the node that it is applied to. -/
theorem inferShapes_markRecorded (n : Node) (strategy : Strategy) (inputs : List Shape) :
    n.markRecorded.inferShapes strategy inputs = n.inferShapes strategy inputs := by
  have hid : n.markRecorded.id = n.id := rfl
  have hattribute : n.markRecorded.attribute? = n.attribute? := rfl
  have hall : n.markRecorded.onAllOutputs = n.onAllOutputs := rfl
  cases strategy with
  | fromAttribute => simp only [inferShapes, attributeShapes, hid, hattribute, hall]
  | _ => rfl

end Node

namespace InferReport

/-- The counts but for that of fallbacks. -/
def withoutFallbacks (r : InferReport) : InferReport := { r with fallbacks := 0 }

/-- A marked node is counted as one with recorded shapes, as with fallback, but as no fallback. -/
theorem count_markRecorded (r : InferReport) (n : Node) :
    r.withoutFallbacks.count n.markRecorded (n.effectiveStrategy true) =
      (r.count n (n.effectiveStrategy true)).withoutFallbacks := by
  have hstrategy : n.effectiveStrategy true = n.markRecorded.strategy := by
    rw [← n.effectiveStrategy_markRecorded, Node.effectiveStrategy_false]
  simp [count, withoutFallbacks, hstrategy]

theorem fallbacks_count_false (r : InferReport) (n : Node) :
    (r.count n (n.effectiveStrategy false)).fallbacks = r.fallbacks := by
  simp [count, Node.effectiveStrategy_false]

end InferReport

namespace Graph

variable {g h : Graph} {n : Node} {verify : Bool} {options : InferOptions} {shapes : List Shape}
  {id : NodeId} {order : List NodeId} {report report' : InferReport}

/-- The graph in which nodes without a strategy use their recorded shapes. -/
def markRecorded (g : Graph) : Graph := g.mapNodes Node.markRecorded

section Marked

/-- A visit to a marked node finds the same shapes or fails with the same error. -/
theorem shapesOf_markRecorded (g : Graph) (verify : Bool) (n : Node) :
    g.markRecorded.shapesOf ⟨false, verify⟩ n.markRecorded = g.shapesOf ⟨true, verify⟩ n := by
  have harriving : ∀ port, g.markRecorded.arriving? n.id port = g.arriving? n.id port :=
    arriving?_mapNodes Node.keepsPorts_markRecorded g n.id
  have hid : n.markRecorded.id = n.id := rfl
  have hinputs : n.markRecorded.inputs = n.inputs := rfl
  have hgather : g.markRecorded.gatherInputs n.markRecorded = g.gatherInputs n := by
    simp only [gatherInputs, hid, hinputs, harriving]
  have hcheck : g.markRecorded.checkInputs n.markRecorded = g.checkInputs n := by
    simp only [checkInputs, hid, hinputs, harriving]
  have houtputs : n.markRecorded.checkOutputs = n.checkOutputs := rfl
  simp only [shapesOf, n.effectiveStrategy_markRecorded, hgather, hcheck, houtputs,
    n.inferShapes_markRecorded]

/-- A visit with fallback goes like one without on the marked graph. -/
theorem visit_markRecorded (g : Graph) (verify : Bool) (report : InferReport) (id : NodeId) :
    g.markRecorded.visit ⟨false, verify⟩ report.withoutFallbacks id =
      (g.visit ⟨true, verify⟩ report id).map
        fun (h, r) => (h.markRecorded, r.withoutFallbacks) := by
  cases hn : g.node? id with
  | none =>
    have hn' : g.markRecorded.node? id = none := by simp [markRecorded, hn]
    simp [visit, hn, hn']
    rfl
  | some n =>
    have hn' : g.markRecorded.node? id = some n.markRecorded := by simp [markRecorded, hn]
    cases hshapes : g.shapesOf ⟨true, verify⟩ n with
    | error err =>
      rw [(visit_eq_error_iff hn).2 hshapes, (visit_eq_error_iff hn').2
        ((g.shapesOf_markRecorded verify n).trans hshapes)]
      rfl
    | ok shapes =>
      obtain ⟨m, hframe, houtputs, hvisit⟩ := exists_visit_of_shapesOf hn hshapes report
      obtain ⟨m', hframe', houtputs', hvisit'⟩ := exists_visit_of_shapesOf hn'
        ((g.shapesOf_markRecorded verify n).trans hshapes) report.withoutFallbacks
      -- marking a node leaves its shapes, and the visits change nothing else
      obtain rfl : m' = m.markRecorded := by
        refine Node.eq_of_withoutShapes (hframe'.trans ?_) (houtputs'.trans houtputs.symm)
        exact congrArg Node.markRecorded hframe.symm
      rw [hvisit, hvisit', markRecorded, setNode_mapNodes, n.effectiveStrategy_markRecorded,
        InferReport.count_markRecorded]
      rfl

/-- Visit by visit the run over marked nodes without fallback follows the run with fallback. The
induction is on the nodes still to be visited. -/
theorem visitAll_markRecorded (order : List NodeId) (g : Graph) (verify : Bool)
    (report : InferReport) :
    visitAll ⟨false, verify⟩ order g.markRecorded report.withoutFallbacks =
      ⟨(visitAll ⟨true, verify⟩ order g report).graph.markRecorded,
        (visitAll ⟨true, verify⟩ order g report).result.map InferReport.withoutFallbacks⟩ := by
  induction order generalizing g report with
  | nil => rfl
  | cons id order ih =>
    rw [visitAll, visitAll, visit_markRecorded]
    cases g.visit ⟨true, verify⟩ report id with
    | error err => rfl
    | ok next => exact ih next.1 next.2

/-- A run without fallback on the marked graph has the result of the run with fallback, but for the
count of fallbacks, and leaves the marked graph of what that leaves. -/
theorem inferShapes_markRecorded (g : Graph) (verify : Bool) :
    g.markRecorded.inferShapes ⟨false, verify⟩ =
      ⟨(g.inferShapes ⟨true, verify⟩).graph.markRecorded,
        (g.inferShapes ⟨true, verify⟩).result.map InferReport.withoutFallbacks⟩ := by
  simp only [inferShapes, markRecorded, topologicalOrder_mapNodes]
  cases g.topologicalOrder with
  | error err => rfl
  | ok order => exact visitAll_markRecorded order g verify {}

end Marked

section Undisturbed

/-- The rule of a node without a strategy finds nothing. -/
theorem strategy_ne_of_shapesOf (hshapes : g.shapesOf ⟨false, verify⟩ n = .ok shapes) :
    n.strategy ≠ .unspecified := by
  intro hstrategy
  obtain ⟨inputs, -, -, hrule, -⟩ := shapesOf_eq_ok_iff.1 hshapes
  rw [n.effectiveStrategy_false, hstrategy] at hrule
  cases hrule

/-- A visit that succeeds without fallback goes the same way with it, and counts none. -/
theorem visit_undisturbed (hvisit : g.visit ⟨false, verify⟩ report id = .ok (h, report')) :
    g.visit ⟨true, verify⟩ report id = .ok (h, report') ∧ report'.fallbacks = report.fallbacks := by
  obtain ⟨n, shapes, hn, hshapes, hset, rfl⟩ := visit_eq_ok_iff.1 hvisit
  have hstrategy : n.effectiveStrategy true = n.effectiveStrategy false := by
    have hne := strategy_ne_of_shapesOf hshapes
    rw [Node.effectiveStrategy_of_ne hne, Node.effectiveStrategy_of_ne hne]
  refine ⟨visit_eq_ok_iff.2 ⟨n, shapes, hn, ?_, hset, by rw [hstrategy]⟩,
    report.fallbacks_count_false n⟩
  rw [← hshapes]
  simp only [shapesOf, hstrategy]

/-- Where a run without fallback succeeds, all strategies are known on its way, and fallback has
nothing to do. -/
theorem visitAll_undisturbed
    (hrun : (visitAll ⟨false, verify⟩ order g report).result = .ok report') :
    visitAll ⟨true, verify⟩ order g report = visitAll ⟨false, verify⟩ order g report ∧
      report'.fallbacks = report.fallbacks := by
  induction order generalizing g report with
  | nil => exact ⟨rfl, congrArg InferReport.fallbacks (Except.ok.inj hrun).symm⟩
  | cons id order ih =>
    rw [visitAll] at hrun ⊢
    split at hrun
    next g' r hvisit =>
      obtain ⟨hvisit', hcount⟩ := visit_undisturbed hvisit
      obtain ⟨hsame, hrest⟩ := ih hrun
      rw [visitAll, hvisit, hvisit']
      exact ⟨hsame, hrest.trans hcount⟩
    next err hvisit => cases hrun

/-- A run that succeeds without fallback goes the same way with it, and counts none. -/
theorem inferShapes_undisturbed (hrun : (g.inferShapes ⟨false, verify⟩).result = .ok report) :
    g.inferShapes ⟨true, verify⟩ = g.inferShapes ⟨false, verify⟩ ∧ report.fallbacks = 0 := by
  cases hsort : g.topologicalOrder with
  | error err =>
    rw [inferShapes_of_error hsort] at hrun
    cases hrun
  | ok order =>
    rw [inferShapes_of_ok hsort] at hrun ⊢
    rw [inferShapes_of_ok hsort]
    exact visitAll_undisturbed hrun

/-- A run that succeeds goes the same way with fallback. -/
theorem inferShapes_withFallback (hrun : (g.inferShapes options).result = .ok report) :
    g.inferShapes { options with fallbackToRecorded := true } = g.inferShapes options := by
  obtain ⟨fallback, verify⟩ := options
  cases fallback with
  | true => rfl
  | false => exact (inferShapes_undisturbed hrun).1

end Undisturbed

end Graph

end OpGraph
