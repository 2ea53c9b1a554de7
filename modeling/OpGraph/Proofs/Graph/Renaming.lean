import OpGraph.Proofs.Graph.Construction
import Mathlib.Logic.Equiv.Defs

/-!
# Other numbers for nodes and ports

Nodes can be given other numbers, and so can the input ports and the output ports of each node. The
edges follow. Nothing in a graph compares numbers other than for equality, except for the order in
which nodes are kept and sorted; so all that does not hang on this order comes along.

## Main definitions

- `Renaming`: new numbers for nodes and ports
- `Node.rename`, `Edge.rename`: a node and an edge with the new numbers
- `Graph.Renames`: the same graph with the new numbers, up to inferred shapes

## Main statements

- `Graph.Renames.wellFormed`: the graph with the new numbers is well formed
- `Graph.Renames.not_hasCycle`: it has no cycle where there was none
- `Graph.Renames.arriving?_eq`: what arrives at an input port
- `Graph.renames_ofNodes`: the graph of nodes and edges with new numbers
-/

namespace OpGraph

/-- New numbers for nodes, and at each node for its input ports and for its output ports. -/
structure Renaming where
  node : Equiv.Perm NodeId
  -- the ports of the node that had the given number
  input : NodeId → Equiv.Perm PortId
  output : NodeId → Equiv.Perm PortId

/-- The way back to the old numbers. -/
def Renaming.symm (ρ : Renaming) : Renaming where
  node := ρ.node.symm
  input id := (ρ.input (ρ.node.symm id)).symm
  output id := (ρ.output (ρ.node.symm id)).symm

/-- A place with the new numbers of its node and its port. -/
def Terminal.rename (node : Equiv.Perm NodeId) (port : NodeId → Equiv.Perm PortId) (t : Terminal) :
    Terminal :=
  ⟨node t.node, port t.node t.port⟩

theorem Terminal.rename_injective (node : Equiv.Perm NodeId) (port : NodeId → Equiv.Perm PortId) :
    Function.Injective (Terminal.rename node port) := by
  rintro ⟨id, p⟩ ⟨id', p'⟩ heq
  obtain ⟨hid, hport⟩ := Terminal.mk.inj heq
  obtain rfl : id = id' := node.injective hid
  obtain rfl : p = p' := (port id).injective hport
  rfl

/-- An edge with the new numbers of its ends. -/
def Edge.rename (ρ : Renaming) (e : Edge) : Edge :=
  ⟨e.source.rename ρ.node ρ.output, e.target.rename ρ.node ρ.input⟩

@[simp] theorem Edge.rename_symm (ρ : Renaming) (e : Edge) : (e.rename ρ).rename ρ.symm = e := by
  simp [Edge.rename, Terminal.rename, Renaming.symm]

namespace Node

/-- The same node with the new numbers. -/
def rename (ρ : Renaming) (n : Node) : Node :=
  { n with
    id := ρ.node n.id
    inputs := n.inputs.map fun p => { p with id := ρ.input n.id p.id }
    outputs := n.outputs.map fun p => { p with id := ρ.output n.id p.id } }

variable {ρ : Renaming} {n : Node}

theorem withoutShapes_rename : (n.rename ρ).withoutShapes = n.withoutShapes.rename ρ := by
  simp [withoutShapes, rename]

theorem map_id_inputs_rename :
    (n.rename ρ).inputs.map InputPort.id = (n.inputs.map InputPort.id).map (ρ.input n.id) := by
  simp [rename]

theorem map_id_outputs_rename :
    (n.rename ρ).outputs.map OutputPort.id = (n.outputs.map OutputPort.id).map (ρ.output n.id) := by
  simp [rename]

end Node

namespace Graph

variable {ρ : Renaming} {g g' k k' : Graph} {id : NodeId} {n n' : Node}

/-- The first graph is the second with the new numbers, up to inferred shapes. -/
structure Renames (ρ : Renaming) (g' g : Graph) : Prop where
  node : ∀ id, (g'.node? (ρ.node id)).map Node.withoutShapes =
    ((g.node? id).map Node.withoutShapes).map (Node.rename ρ)
  edges_eq : g'.edges = g.edges.map (Edge.rename ρ)

namespace Renames

/-- Whether a graph is another with new numbers does not depend on shapes. -/
theorem of_sameFrame (h : Renames ρ g' g) (hgk' : SameFrame g' k') (hgk : SameFrame g k) :
    Renames ρ k' k where
  node id := by rw [← hgk'.node?_map_eq, ← hgk.node?_map_eq, h.node]
  edges_eq := by rw [← hgk'.edges_eq, ← hgk.edges_eq, h.edges_eq]

/-- To each node of the graph there is the node with the new number. -/
theorem exists_renamed (h : Renames ρ g' g) (hn : g.node? id = some n) :
    ∃ n', g'.node? (ρ.node id) = some n' ∧ n'.withoutShapes = (n.rename ρ).withoutShapes := by
  have hmap := h.node id
  rw [hn, Option.map_some, Option.map_some, Option.map_eq_some_iff] at hmap
  simpa only [Node.withoutShapes_rename] using hmap

/-- A node under a new number comes from the one under the old number. -/
theorem exists_original (h : Renames ρ g' g) (hn' : g'.node? (ρ.node id) = some n') :
    ∃ n, g.node? id = some n ∧ n'.withoutShapes = (n.rename ρ).withoutShapes := by
  have hmap := h.node id
  rw [hn', Option.map_some, Option.map_map, eq_comm, Option.map_eq_some_iff] at hmap
  obtain ⟨n, hn, hframe⟩ := hmap
  exact ⟨n, hn, by rw [Node.withoutShapes_rename, ← hframe]; rfl⟩

theorem exists_node?_iff (h : Renames ρ g' g) (id : NodeId) :
    (∃ n', g'.node? (ρ.node id) = some n') ↔ ∃ n, g.node? id = some n := by
  constructor
  · rintro ⟨n', hn'⟩
    obtain ⟨n, hn, -⟩ := h.exists_original hn'
    exact ⟨n, hn⟩
  · rintro ⟨n, hn⟩
    obtain ⟨n', hn', -⟩ := h.exists_renamed hn
    exact ⟨n', hn'⟩

section WellFormed

theorem isOutput (h : Renames ρ g' g) (hg : g.WellFormed) {t : Terminal} (ht : g.IsOutput t) :
    g'.IsOutput (t.rename ρ.node ρ.output) := by
  obtain ⟨n, hn, p, hp, hport⟩ := ht
  obtain ⟨n', hn', hframe⟩ := h.exists_renamed hn
  have hmem : ρ.output t.node t.port ∈ n'.outputs.map OutputPort.id := by
    rw [Node.map_id_outputs_eq hframe, Node.map_id_outputs_rename, hg.id_eq t.node n hn, ← hport]
    exact List.mem_map_of_mem (List.mem_map_of_mem hp)
  exact ⟨n', hn', List.mem_map.1 hmem⟩

theorem isInput (h : Renames ρ g' g) (hg : g.WellFormed) {t : Terminal} (ht : g.IsInput t) :
    g'.IsInput (t.rename ρ.node ρ.input) := by
  obtain ⟨n, hn, p, hp, hport⟩ := ht
  obtain ⟨n', hn', hframe⟩ := h.exists_renamed hn
  have hinputs : n'.inputs = (n.rename ρ).inputs := (congrArg Node.inputs hframe :)
  have hmem : ρ.input t.node t.port ∈ n'.inputs.map InputPort.id := by
    rw [hinputs, Node.map_id_inputs_rename, hg.id_eq t.node n hn, ← hport]
    exact List.mem_map_of_mem (List.mem_map_of_mem hp)
  exact ⟨n', hn', List.mem_map.1 hmem⟩

/-- The graph with the new numbers is well formed, if its index is that of its edges. -/
theorem wellFormed (h : Renames ρ g' g) (hg : g.WellFormed)
    (hfeeds : g'.feeds = g'.edges.mapIdx fun i e => (e.target, i)) : g'.WellFormed := by
  -- every number is a new one, and what is stored under it comes from what had the old one
  have hstored : ∀ id' n', g'.node? id' = some n' → ∃ n, g.node? n.id = some n ∧
      id' = ρ.node n.id ∧ n'.withoutShapes = (n.rename ρ).withoutShapes := by
    intro id' n' hn'
    obtain ⟨id, rfl⟩ := ρ.node.surjective id'
    obtain ⟨n, hn, hframe⟩ := h.exists_original hn'
    obtain rfl : n.id = id := hg.id_eq id n hn
    exact ⟨n, hn, rfl, hframe⟩
  constructor
  case id_eq =>
    intro id' n' hn'
    obtain ⟨n, hn, rfl, hframe⟩ := hstored id' n' hn'
    exact (congrArg Node.id hframe :)
  case nodup_inputs =>
    intro id' n' hn'
    obtain ⟨n, hn, rfl, hframe⟩ := hstored id' n' hn'
    have hinputs : n'.inputs = (n.rename ρ).inputs := (congrArg Node.inputs hframe :)
    rw [hinputs, Node.map_id_inputs_rename]
    exact (hg.nodup_inputs _ n hn).map (ρ.input n.id).injective
  case nodup_outputs =>
    intro id' n' hn'
    obtain ⟨n, hn, rfl, hframe⟩ := hstored id' n' hn'
    rw [Node.map_id_outputs_eq hframe, Node.map_id_outputs_rename]
    exact (hg.nodup_outputs _ n hn).map (ρ.output n.id).injective
  case isOutput_source =>
    rw [h.edges_eq, List.forall_mem_map]
    exact fun e he => h.isOutput hg (hg.isOutput_source e he)
  case isInput_target =>
    rw [h.edges_eq, List.forall_mem_map]
    exact fun e he => h.isInput hg (hg.isInput_target e he)
  case nodup_targets =>
    have htargets : g'.edges.map Edge.target =
        (g.edges.map Edge.target).map (Terminal.rename ρ.node ρ.input) := by
      simp [h.edges_eq, Edge.rename, Function.comp_def]
    rw [htargets]
    exact hg.nodup_targets.map (Terminal.rename_injective ρ.node ρ.input)
  case feeds_eq => exact hfeeds

end WellFormed

section Order

/-- It has no cycle where there was none: a cycle would be one under the old numbers, too. -/
theorem not_hasCycle (h : Renames ρ g' g) (hacyclic : ¬ HasCycle g.links) :
    ¬ HasCycle g'.links := by
  have hlink : ∀ u' v', (u', v') ∈ g'.links →
      (ρ.node.symm u', ρ.node.symm v') ∈ g.links := by
    intro u' v' hlink'
    obtain ⟨e', he', rfl, rfl⟩ := mem_links_iff.1 hlink'
    rw [h.edges_eq] at he'
    obtain ⟨e, he, rfl⟩ := List.mem_map.1 he'
    exact mem_links_iff.2 ⟨e, he, by simp [Edge.rename, Terminal.rename]⟩
  exact fun hcycle => hacyclic (hcycle.map hlink)

/-- Every order of the graph with new numbers lists what an order of the other lists, renamed. -/
theorem perm_of_isOrder (h : Renames ρ g' g) {order order' : List NodeId} (horder : g.IsOrder order)
    (horder' : g'.IsOrder order') : order'.Perm (order.map ρ.node) := by
  refine (List.perm_ext_iff_of_nodup horder'.nodup (horder.nodup.map ρ.node.injective)).2 ?_
  intro id'
  obtain ⟨id, rfl⟩ := ρ.node.surjective id'
  rw [horder'.mem_iff, h.exists_node?_iff, ← horder.mem_iff,
    List.mem_map_of_injective ρ.node.injective]

end Order

section Arrival

variable (h : Renames ρ g' g) (hg' : g'.WellFormed) (hg : g.WellFormed)
include h hg' hg

/-- The edge that feeds a port under the new numbers is the one that feeds it under the old. -/
theorem producer?_eq (id : NodeId) (port : PortId) :
    g'.producer? (ρ.node id) (ρ.input id port) = (g.producer? id port).map (Edge.rename ρ) := by
  have hends : ∀ e : Edge,
      (e.rename ρ).target = ⟨ρ.node id, ρ.input id port⟩ ↔ e.target = ⟨id, port⟩ := by
    intro e
    exact (Terminal.rename_injective ρ.node ρ.input).eq_iff (b := ⟨id, port⟩)
  ext e'
  rw [hg'.producer?_eq_some_iff, Option.map_eq_some_iff, h.edges_eq, List.mem_map]
  simp only [hg.producer?_eq_some_iff]
  constructor
  · rintro ⟨⟨e, he, rfl⟩, htarget⟩
    exact ⟨e, ⟨he, (hends e).1 htarget⟩, rfl⟩
  · rintro ⟨e, ⟨he, htarget⟩, rfl⟩
    exact ⟨⟨e, he, rfl⟩, (hends e).2 htarget⟩

/-- The same arrives at an input port if the same stands at the sources of edges into the node. -/
theorem arriving?_eq (hfed : ∀ e ∈ g.edges, e.target.node = id →
      g'.shapeAt? (e.source.rename ρ.node ρ.output) = g.shapeAt? e.source) (port : PortId) :
    g'.arriving? (ρ.node id) (ρ.input id port) = g.arriving? id port := by
  simp only [arriving?, h.producer?_eq hg' hg]
  cases hproducer : g.producer? id port with
  | none => rfl
  | some e =>
    obtain ⟨he, htarget⟩ := hg.producer?_eq_some_iff.1 hproducer
    exact hfed e he (by rw [htarget])

end Arrival

end Renames

section Construction

variable {name : String} {version : UInt32} {ns : List Node} {es : List Edge}

theorem nodup_ids_rename (hids : (ns.map Node.id).Nodup) :
    ((ns.map (Node.rename ρ)).map Node.id).Nodup := by
  have hmap : (ns.map (Node.rename ρ)).map Node.id = (ns.map Node.id).map ρ.node := by
    simp [Node.rename, Function.comp_def]
  rw [hmap]
  exact hids.map ρ.node.injective

/-- The graph of nodes and edges with new numbers is the graph of these nodes and edges with new
numbers. -/
theorem renames_ofNodes (hids : (ns.map Node.id).Nodup) :
    Renames ρ (ofNodes name version (ns.map (Node.rename ρ)) (es.map (Edge.rename ρ)))
      (ofNodes name version ns es) where
  node id := by
    have hnode : (ofNodes name version (ns.map (Node.rename ρ)) (es.map (Edge.rename ρ))).node?
        (ρ.node id) = ((ofNodes name version ns es).node? id).map (Node.rename ρ) := by
      ext n'
      rw [node?_ofNodes_eq_some_iff (nodup_ids_rename hids), Option.map_eq_some_iff, List.mem_map]
      simp only [node?_ofNodes_eq_some_iff hids]
      constructor
      · rintro ⟨⟨n, hn, rfl⟩, hid⟩
        exact ⟨n, ⟨hn, ρ.node.injective hid⟩, rfl⟩
      · rintro ⟨n, ⟨hn, rfl⟩, rfl⟩
        exact ⟨⟨n, hn, rfl⟩, rfl⟩
    rw [hnode, Option.map_map, Option.map_map]
    exact Option.map_congr fun n _ => Node.withoutShapes_rename
  edges_eq := rfl

end Construction

end Graph

end OpGraph
