import OpGraph.Proofs.Graph.Order

/-!
# Graphs whose nodes are changed in place

A function on nodes can be applied to all nodes of a graph, while the edges stay. If it keeps the
numbers of nodes and ports and the inferred shapes, then a well-formed graph stays well formed, and
the same shapes arrive at every input.
-/

namespace OpGraph

namespace Node

variable {f : Node → Node}

/-- The function keeps the numbers of a node and of its ports, and the inferred shapes. -/
structure KeepsPorts (f : Node → Node) : Prop where
  id_eq : ∀ n, (f n).id = n.id
  inputs_eq : ∀ n, (f n).inputs.map InputPort.id = n.inputs.map InputPort.id
  outputs_eq : ∀ n,
    (f n).outputs.map (fun p => (p.id, p.shape)) = n.outputs.map fun p => (p.id, p.shape)

theorem KeepsPorts.map_id_outputs_eq (hf : KeepsPorts f) (n : Node) :
    (f n).outputs.map OutputPort.id = n.outputs.map OutputPort.id := by
  simpa [Function.comp_def] using congrArg (List.map Prod.fst) (hf.outputs_eq n)

/-- A change that keeps ports keeps the shapes on them. -/
theorem KeepsPorts.outputShapes_eq (hf : KeepsPorts f) (n : Node) :
    (f n).outputShapes = n.outputShapes := by
  simpa [outputShapes, Function.comp_def] using congrArg (List.map Prod.snd) (hf.outputs_eq n)

/-- The shape at an output port, found among the numbers and shapes of the ports. In this form it is
clear that a change of nothing else matters. -/
theorem output?_bind_shape (n : Node) (port : PortId) : (n.output? port).bind OutputPort.shape =
    ((n.outputs.map fun p => (p.id, p.shape)).find? fun q => q.1 == port).bind Prod.snd := by
  rw [output?, List.find?_map, Option.bind_map]
  rfl

end Node

namespace Graph

variable {f : Node → Node} {g : Graph}

/-- The graph with a function applied to every node. -/
def mapNodes (f : Node → Node) (g : Graph) : Graph := { g with nodes := g.nodes.map f }

@[simp] theorem node?_mapNodes (f : Node → Node) (g : Graph) (id : NodeId) :
    (g.mapNodes f).node? id = (g.node? id).map f :=
  Dictionary.get?_map _ _ _

@[simp] theorem edges_mapNodes (f : Node → Node) (g : Graph) : (g.mapNodes f).edges = g.edges := rfl

/-- Ports are fed by the same edges as before, since nodes have no part in the index. -/
@[simp] theorem producer?_mapNodes (f : Node → Node) (g : Graph) :
    (g.mapNodes f).producer? = g.producer? := rfl

@[simp] theorem nodeIds_mapNodes (f : Node → Node) (g : Graph) :
    (g.mapNodes f).nodeIds = g.nodeIds :=
  Dictionary.keys_map _ _

@[simp] theorem topologicalOrder_mapNodes (f : Node → Node) (g : Graph) :
    (g.mapNodes f).topologicalOrder = g.topologicalOrder := by
  simp only [topologicalOrder, nodeIds_mapNodes, edges_mapNodes]

theorem setNode_mapNodes (f : Node → Node) (g : Graph) (id : NodeId) (n : Node) :
    (g.mapNodes f).setNode id (f n) = (g.setNode id n).mapNodes f := by
  refine ext_node? rfl rfl rfl rfl fun v => ?_
  rw [node?_setNode, node?_mapNodes, node?_mapNodes, node?_setNode]
  split <;> rfl

theorem exists_node?_of_mapNodes {id : NodeId} {n : Node} (hn : (g.mapNodes f).node? id = some n) :
    ∃ m, g.node? id = some m ∧ f m = n := by
  rwa [node?_mapNodes, Option.map_eq_some_iff] at hn

section Ports

theorem isOutput_mapNodes (hf : Node.KeepsPorts f) {t : Terminal} (ht : g.IsOutput t) :
    (g.mapNodes f).IsOutput t := by
  obtain ⟨n, hn, p, hp, hport⟩ := ht
  have hid : t.port ∈ (f n).outputs.map OutputPort.id := by
    rw [hf.map_id_outputs_eq, ← hport]
    exact List.mem_map_of_mem hp
  obtain ⟨q, hq, hqid⟩ := List.mem_map.1 hid
  exact ⟨f n, by rw [node?_mapNodes, hn]; rfl, q, hq, hqid⟩

theorem isInput_mapNodes (hf : Node.KeepsPorts f) {t : Terminal} (ht : g.IsInput t) :
    (g.mapNodes f).IsInput t := by
  obtain ⟨n, hn, p, hp, hport⟩ := ht
  have hid : t.port ∈ (f n).inputs.map InputPort.id := by
    rw [hf.inputs_eq, ← hport]
    exact List.mem_map_of_mem hp
  obtain ⟨q, hq, hqid⟩ := List.mem_map.1 hid
  exact ⟨f n, by rw [node?_mapNodes, hn]; rfl, q, hq, hqid⟩

/-- A graph stays well formed when its nodes are changed and their ports kept. -/
theorem WellFormed.mapNodes (hg : g.WellFormed) (hf : Node.KeepsPorts f) :
    (g.mapNodes f).WellFormed where
  id_eq := by
    intro id n hn
    obtain ⟨m, hm, rfl⟩ := exists_node?_of_mapNodes hn
    rw [hf.id_eq, hg.id_eq id m hm]
  nodup_inputs := by
    intro id n hn
    obtain ⟨m, hm, rfl⟩ := exists_node?_of_mapNodes hn
    rw [hf.inputs_eq]
    exact hg.nodup_inputs id m hm
  nodup_outputs := by
    intro id n hn
    obtain ⟨m, hm, rfl⟩ := exists_node?_of_mapNodes hn
    rw [hf.map_id_outputs_eq]
    exact hg.nodup_outputs id m hm
  isOutput_source e he := isOutput_mapNodes hf (hg.isOutput_source e he)
  isInput_target e he := isInput_mapNodes hf (hg.isInput_target e he)
  nodup_targets := hg.nodup_targets
  feeds_eq := hg.feeds_eq

/-- The shapes at output ports are those of the graph before the change. -/
theorem shapeAt?_mapNodes (hf : Node.KeepsPorts f) (g : Graph) (t : Terminal) :
    (g.mapNodes f).shapeAt? t = g.shapeAt? t := by
  simp only [shapeAt?, node?_mapNodes, Option.bind_eq_bind]
  cases g.node? t.node with
  | none => rfl
  | some n =>
    simp only [Option.map_some, Option.bind_some, Node.output?_bind_shape, hf.outputs_eq]

theorem arriving?_mapNodes (hf : Node.KeepsPorts f) (g : Graph) (id : NodeId) (port : PortId) :
    (g.mapNodes f).arriving? id port = g.arriving? id port := by
  simp only [arriving?, producer?_mapNodes, shapeAt?_mapNodes hf]

end Ports

end Graph

end OpGraph
