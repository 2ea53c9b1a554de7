import OpGraph.Proofs.Inference.Fallback
import OpGraph.Proofs.Inference.Settled

/-!
# What a report says

A run counts while it goes through the nodes. As the order in which it goes lists every node once,
the report of a run that succeeds does not depend on this order: it says how many nodes there are,
how many of them used their recorded shapes, and how many did so for want of a strategy. Without
fallback a run that succeeds has met no such node.
-/

namespace OpGraph

namespace InferReport

variable {fallback : Bool} {ss : List Strategy}

/-- To count nodes one after the other is to count their strategies. -/
theorem ofStrategies_eq_foldl_count (fallback : Bool) (ns : List Node) :
    ofStrategies fallback (ns.map Node.strategy) =
      ns.foldl (fun r n => r.count n (n.effectiveStrategy fallback)) {} := by
  induction ns using List.reverseRecOn with
  | nil => rfl
  | append_singleton ns n ih =>
    rw [List.map_append, List.map_singleton, ofStrategies_snoc, ih, List.foldl_append,
      List.foldl_cons, List.foldl_nil]

/-- Recorded shapes are used by nodes that have this strategy, and with fallback by those that have
none. -/
theorem fromRecorded_ofStrategies (fallback : Bool) (ss : List Strategy) :
    (ofStrategies fallback ss).fromRecorded =
      ss.count .recorded + if fallback then ss.count .unspecified else 0 := by
  induction ss with
  | nil => cases fallback <;> rfl
  | cons s ss ih =>
    simp only [ofStrategies] at ih ⊢
    rw [List.countP_cons, ih]
    cases fallback <;> cases s <;> simp <;> omega

/-- Every node either uses its recorded shapes or computes. -/
theorem visited_ofStrategies (fallback : Bool) (ss : List Strategy) :
    (ofStrategies fallback ss).visited =
      (ofStrategies fallback ss).fromRecorded + (ofStrategies fallback ss).computed := by
  simpa [ofStrategies] using List.length_eq_countP_add_countP
    (fun s : Strategy => decide (s = .recorded ∨ s = .unspecified ∧ fallback)) (l := ss)

/-- The fallbacks are the nodes without a strategy, provided that without fallback there are
none. -/
theorem fallbacks_ofStrategies (hss : fallback = false → Strategy.unspecified ∉ ss) :
    (ofStrategies fallback ss).fallbacks = ss.count .unspecified := by
  cases fallback with
  | true => exact List.countP_congr fun s _ => by simp
  | false => simp [ofStrategies, List.count_eq_zero.2 (hss rfl)]

end InferReport

namespace Graph

variable {g : Graph} {options : InferOptions} {report : InferReport} {id : NodeId} {n : Node}

/-- How many nodes have the strategy. -/
def countStrategy (g : Graph) (s : Strategy) : Nat := (g.nodes.values.map Node.strategy).count s

theorem strategiesOf_eq_map (g : Graph) (ids : List NodeId) :
    g.strategiesOf ids = (ids.filterMap g.node?).map Node.strategy := by
  rw [List.map_filterMap]
  rfl

/-- The strategies of all nodes are those of the nodes as they are stored. -/
theorem strategiesOf_nodeIds (g : Graph) :
    g.strategiesOf g.nodeIds = g.nodes.values.map Node.strategy := by
  rw [strategiesOf_eq_map]
  exact congrArg (List.map Node.strategy) g.nodes.filterMap_get?_keys

/-- A run that succeeds without fallback has met a strategy at every node. -/
theorem WellFormed.strategy_ne_of_ok (hg : g.WellFormed)
    (hrun : (g.inferShapes options).result = .ok report)
    (hfallback : options.fallbackToRecorded = false)
    (hn : g.node? id = some n) : n.strategy ≠ .unspecified := by
  obtain ⟨-, hframe, hsettled, -⟩ := hg.settled_of_ok hrun
  obtain ⟨m, hm, hmn⟩ := hframe.exists_node? hn
  obtain ⟨shapes, hshapes, -⟩ := hsettled id m hm
  obtain ⟨fallback, verify⟩ := options
  obtain rfl : fallback = false := hfallback
  have hstrategy : m.strategy = n.strategy := (congrArg Node.strategy hmn :)
  exact hstrategy ▸ strategy_ne_of_shapesOf hshapes

/-- On every graph made by operations and with any options, the report of a run that succeeds is
exact. The run has visited all nodes. Those that have used recorded shapes are the nodes with this
strategy and, with fallback, those without a strategy; all others have computed. The fallbacks are
the nodes without a strategy, and without fallback there are none. For the report is made by
counting each node once, in an order that lists the nodes of the graph without repetition. -/
theorem inferShapes_report_exact (hg : g.Reachable)
    (hrun : (g.inferShapes options).result = .ok report) :
    report.visited = g.size ∧
    report.fromRecorded = g.countStrategy .recorded +
      (if options.fallbackToRecorded then g.countStrategy .unspecified else 0) ∧
    report.visited = report.fromRecorded + report.computed ∧
    report.fallbacks = g.countStrategy .unspecified ∧
    (options.fallbackToRecorded = false → report.fallbacks = 0) ∧
    ∃ order, g.topologicalOrder = .ok order ∧ order.Nodup ∧ order.Perm g.nodeIds ∧
      report = (order.filterMap g.node?).foldl
        (fun r n => r.count n (n.effectiveStrategy options.fallbackToRecorded)) {} := by
  have hwf : g.WellFormed := hg.wellFormed
  obtain ⟨hacyclic, -, -, hreport⟩ := hwf.settled_of_ok hrun
  obtain ⟨order, hsort⟩ := hwf.exists_topologicalOrder_iff.2 hacyclic
  have horder : g.IsOrder order := hwf.isOrder_of_topologicalOrder hsort
  have hcounted : report = .ofStrategies options.fallbackToRecorded (g.strategiesOf order) := by
    rw [hreport]
    exact InferReport.ofStrategies_perm (horder.perm_nodeIds.symm.filterMap _)
  rw [strategiesOf_nodeIds] at hreport
  -- without fallback such a node would have made the run fail
  have hunspecified : options.fallbackToRecorded = false →
      Strategy.unspecified ∉ g.nodes.values.map Node.strategy := by
    intro hfallback hmem
    obtain ⟨n, hvalue, hstrategy⟩ := List.mem_map.1 hmem
    obtain ⟨id, hn⟩ := Dictionary.mem_values_iff.1 hvalue
    exact hwf.strategy_ne_of_ok hrun hfallback hn hstrategy
  have hfallbacks : report.fallbacks = g.countStrategy .unspecified := by
    rw [hreport]
    exact InferReport.fallbacks_ofStrategies hunspecified
  refine ⟨?_, ?_, ?_, hfallbacks, ?_, order, hsort, horder.nodup, horder.perm_nodeIds, ?_⟩
  · rw [hreport]
    simp [InferReport.ofStrategies, size, Dictionary.size, Dictionary.values]
  · rw [hreport]
    exact InferReport.fromRecorded_ofStrategies _ _
  · rw [hreport]
    exact InferReport.visited_ofStrategies _ _
  · intro hfallback
    rw [hfallbacks, countStrategy, List.count_eq_zero.2 (hunspecified hfallback)]
  · rw [hcounted, strategiesOf_eq_map, InferReport.ofStrategies_eq_foldl_count]

/-- A source with recorded shapes, a node without a strategy behind it, one that computes behind
both, and one without a strategy or any port that stands alone. -/
def audited : Graph :=
  (empty "audited" 1).performAll
    [.addNode ⟨9, "x", "Parameter", none, .empty, [],
        [⟨0, none, some ⟨[.fixed 4]⟩, none⟩], .recorded⟩,
      .addNode ⟨4, "y", "TopK", none, .empty, [⟨0, none⟩], [⟨1, none, some ⟨[.fixed 1]⟩, none⟩],
        .unspecified⟩,
      .addNode ⟨2, "z", "Add", none, .empty, [⟨0, none⟩, ⟨1, none⟩],
        [⟨2, none, none, none⟩], .broadcast⟩,
      .addNode ⟨5, "w", "Sink", none, .empty, [], [], .unspecified⟩,
      .addEdge ⟨⟨9, 0⟩, ⟨4, 0⟩⟩, .addEdge ⟨⟨9, 0⟩, ⟨2, 0⟩⟩, .addEdge ⟨⟨4, 1⟩, ⟨2, 1⟩⟩]

/-- A run with fallback over all kinds of nodes: of four, one has recorded shapes, two fall back to
them and one computes. -/
theorem inferShapes_audited_report_exact :
    (audited.inferShapes ⟨true, true⟩).result = .ok ⟨4, 3, 1, 2⟩ ∧ audited.size = 4 ∧
    audited.countStrategy .recorded = 1 ∧ audited.countStrategy .unspecified = 2 ∧
    3 = audited.countStrategy .recorded + audited.countStrategy .unspecified := by
  have hreachable : audited.Reachable := ⟨_, _, _, rfl⟩
  have hrun : (audited.inferShapes ⟨true, true⟩).result = .ok ⟨4, 3, 1, 2⟩ := by decide
  obtain ⟨hvisited, hrecorded, -, hfallbacks, -⟩ := inferShapes_report_exact hreachable hrun
  exact ⟨hrun, hvisited.symm, by decide, hfallbacks.symm, hrecorded⟩

end Graph

end OpGraph
