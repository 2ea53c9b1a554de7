import OpGraph.Proofs.Graph.Order

/-!
# Edges at ports and nodes

The edges that enter a port or a node can be found by going through the list of edges, or through
the index from input ports to positions in that list. In a well-formed graph both ways lead to the
same: one edge at most enters a port, the edges that enter a node are the producers of its inputs,
and each edge enters exactly one node.
-/

namespace OpGraph

namespace Graph

variable {g : Graph} {e : Edge} {id : NodeId} {n : Node}

theorem mem_inEdges_iff : e ∈ g.inEdges id ↔ e ∈ g.edges ∧ e.target.node = id := by
  rw [inEdges, List.mem_filter, beq_iff_eq]

/-- No edge is there twice, since no two lead to the same input port. -/
theorem WellFormed.nodup_edges (hg : g.WellFormed) : g.edges.Nodup := hg.nodup_targets.of_map

theorem WellFormed.nodup_inEdges (hg : g.WellFormed) (id : NodeId) : (g.inEdges id).Nodup :=
  hg.nodup_edges.filter _

/-- Who goes through all edges for those that enter a port finds the producer, once, or nothing. -/
theorem WellFormed.filter_target_eq (hg : g.WellFormed) (t : Terminal) :
    g.edges.filter (fun e => e.target = t) = (g.producer? t.node t.port).toList := by
  have hmem : ∀ e, e ∈ g.edges.filter (fun e => e.target = t) ↔
      e ∈ (g.producer? t.node t.port).toList := by
    intro e
    rw [List.mem_filter, decide_eq_true_eq, Option.mem_toList, hg.producer?_eq_some_iff]
  have hnodup : (g.edges.filter fun e => e.target = t).Nodup := hg.nodup_edges.filter _
  cases hproducer : g.producer? t.node t.port with
  | none =>
    refine List.eq_nil_iff_forall_not_mem.2 fun e he => ?_
    simpa [hproducer] using (hmem e).1 he
  | some e' =>
    refine List.perm_singleton.1
      ((List.perm_ext_iff_of_nodup hnodup (List.nodup_singleton e')).2 ?_)
    intro e
    rw [hmem, hproducer, Option.toList_some]

/-- The producers of all inputs of a node are the edges that enter it. -/
theorem WellFormed.producers_perm_inEdges (hg : g.WellFormed) (hn : g.node? id = some n) :
    (n.inputs.filterMap fun p => g.producer? id p.id).Perm (g.inEdges id) := by
  have hports : (n.inputs.filterMap fun p => g.producer? id p.id) =
      (n.inputs.map InputPort.id).filterMap (g.producer? id) := by
    rw [List.filterMap_map]
    rfl
  rw [hports]
  -- an edge is the producer of one port only
  have hnodup : ((n.inputs.map InputPort.id).filterMap (g.producer? id)).Nodup := by
    refine (hg.nodup_inputs id n hn).filterMap fun port port' e he he' => ?_
    have htarget := (hg.producer?_eq_some_iff.1 he).2
    rw [(hg.producer?_eq_some_iff.1 he').2] at htarget
    exact (congrArg Terminal.port htarget).symm
  refine (List.perm_ext_iff_of_nodup hnodup (hg.nodup_inEdges id)).2 fun e => ?_
  rw [List.mem_filterMap, mem_inEdges_iff]
  constructor
  · rintro ⟨port, -, hproducer⟩
    obtain ⟨he, htarget⟩ := hg.producer?_eq_some_iff.1 hproducer
    exact ⟨he, congrArg Terminal.node htarget⟩
  · rintro ⟨he, rfl⟩
    obtain ⟨m, hm, p, hp, hport⟩ := hg.isInput_target e he
    obtain rfl : n = m := Option.some.inj (hn.symm.trans hm)
    exact ⟨e.target.port, List.mem_map.2 ⟨p, hp, hport⟩, hg.producer?_eq_some_iff.2 ⟨he, rfl⟩⟩

/-- Every edge enters one of the nodes, and no edge enters two. -/
theorem WellFormed.flatMap_inEdges_perm (hg : g.WellFormed) :
    (g.nodeIds.flatMap g.inEdges).Perm g.edges := by
  have hdisjoint : g.nodeIds.Pairwise (Function.onFun List.Disjoint g.inEdges) := by
    refine (Dictionary.nodup_keys g.nodes).imp fun {id id'} hne => ?_
    intro e he he'
    exact hne ((mem_inEdges_iff.1 he).2.symm.trans (mem_inEdges_iff.1 he').2)
  have hnodup : (g.nodeIds.flatMap g.inEdges).Nodup :=
    List.nodup_flatMap.2 ⟨fun id _ => hg.nodup_inEdges id, hdisjoint⟩
  refine (List.perm_ext_iff_of_nodup hnodup hg.nodup_edges).2 fun e => ?_
  simp only [List.mem_flatMap, mem_inEdges_iff]
  constructor
  · rintro ⟨id, -, he, -⟩
    exact he
  · intro he
    obtain ⟨n, hn, -⟩ := hg.isInput_target e he
    exact ⟨e.target.node, mem_nodeIds_iff.2 ⟨n, hn⟩, he, rfl⟩

/-- On every graph made by operations, be they successful or not, the index finds for any port of
any node, stored or not, exactly the edge in the list of edges that enters this port. There is one
such edge in the list, or none if the index finds nothing. The producers of the inputs of a stored
node are the edges that enter it, and the edges that enter the nodes are all edges, each once. -/
theorem producer?_scans_edges (hg : g.Reachable) :
    (∀ id port e, g.producer? id port = some e ↔ e ∈ g.edges ∧ e.target = ⟨id, port⟩) ∧
    (∀ id port, g.producer? id port = none ↔ ∀ e ∈ g.edges, e.target ≠ ⟨id, port⟩) ∧
    (∀ id port, g.edges.filter (fun e => e.target = ⟨id, port⟩) = (g.producer? id port).toList) ∧
    (∀ id n, g.node? id = some n →
      (n.inputs.filterMap fun p => g.producer? id p.id).Perm (g.inEdges id)) ∧
    (g.nodeIds.flatMap g.inEdges).Perm g.edges ∧ g.edges.Nodup := by
  have hwf : g.WellFormed := hg.wellFormed
  exact ⟨fun id port e => hwf.producer?_eq_some_iff, fun id port => hwf.producer?_eq_none_iff,
    fun id port => hwf.filter_target_eq ⟨id, port⟩, fun id n hn => hwf.producers_perm_inEdges hn,
    hwf.flatMap_inEdges_perm, hwf.nodup_edges⟩

/-- Two outputs that feed the inputs of a node crosswise, after attempts to feed one of them twice
and to feed a node that is not there. -/
def crossed : Graph :=
  (empty "crossed" 1).performAll
    [.addNode ⟨8, "x", "Split", none, .empty, [],
        [⟨0, none, some ⟨[.fixed 4]⟩, none⟩, ⟨1, none, some ⟨[.fixed 1]⟩, none⟩], .recorded⟩,
      .addNode ⟨3, "y", "Add", none, .empty, [⟨1, none⟩, ⟨0, none⟩],
        [⟨2, none, none, none⟩], .broadcast⟩,
      .addEdge ⟨⟨8, 0⟩, ⟨3, 0⟩⟩, .addEdge ⟨⟨8, 1⟩, ⟨3, 0⟩⟩, .addEdge ⟨⟨8, 1⟩, ⟨5, 0⟩⟩,
      .addEdge ⟨⟨8, 1⟩, ⟨3, 1⟩⟩, .inferShapes {}]

/-- In the graph above, by index and by search: two edges into one node, in another order than that
of its ports, and a node without any. -/
theorem producer?_crossed_scans_edges :
    crossed.edges.filter (fun e => e.target = ⟨3, 0⟩) = [⟨⟨8, 0⟩, ⟨3, 0⟩⟩] ∧
    crossed.producer? 5 0 = none ∧
    [⟨⟨8, 1⟩, ⟨3, 1⟩⟩, ⟨⟨8, 0⟩, ⟨3, 0⟩⟩].Perm (crossed.inEdges 3) ∧
    (crossed.inEdges 3 ++ crossed.inEdges 8).Perm crossed.edges := by
  have hreachable : crossed.Reachable := ⟨_, _, _, rfl⟩
  have hids : crossed.nodeIds = [3, 8] := by decide
  obtain ⟨-, hnone, hfilter, hnode, hall, -⟩ := producer?_scans_edges hreachable
  refine ⟨hfilter 3 0, (hnone 5 0).2 (by decide), hnode 3 _ rfl, ?_⟩
  simpa [hids] using hall

end Graph

end OpGraph
