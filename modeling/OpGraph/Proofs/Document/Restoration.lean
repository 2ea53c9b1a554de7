import OpGraph.Proofs.Document.Acceptance
import OpGraph.Proofs.Document.Renaming
import OpGraph.Proofs.Inference.Settled
import OpGraph.Restore

/-!
# Restored documents

What is known of the graph that a document is restored to: its nodes are those that the layers
describe, and each holds the shapes that a visit finds for it in this graph.
-/

namespace OpGraph

variable {d : Document} {registry : Registry} {options : InferOptions} {h : Graph}
  {report : InferReport} {n : Node}

/-- A text is restored by decoding it and restoring the document. -/
theorem restoreGraph_eq_ok_iff {inventory : List Extender} {config : Config} {text : String} :
    restoreGraph inventory config text = .ok (h, report) ↔ ∃ d, Document.decode text = .ok d ∧
      d.Restores (config.registry inventory) config.infer h report := by
  simp only [restoreGraph, readGraph, bind_eq_ok_iff, mapError_eq_ok_iff, pure_eq_ok_iff,
    Prod.mk.injEq, Document.Restores]
  constructor
  · rintro ⟨g, ⟨d, hd, hg⟩, report', hrun, rfl, rfl⟩
    exact ⟨d, hd, g, hg, InferOutcome.ext rfl hrun⟩
  · rintro ⟨d, hd, g, hg, hrun⟩
    exact ⟨g, ⟨d, hd, hg⟩, report, by rw [hrun], by rw [hrun], rfl⟩

namespace Document

variable {l : Layer} {changes : List Amendment} {g : Graph} {id : NodeId}

/-- Nothing is found yet for the node that a layer describes. -/
theorem Layer.Describes.withoutShapes_eq (h : l.Describes changes n) : n.withoutShapes = n := by
  have houtputs : n.outputs.map (fun q => { q with shape := none }) = n.outputs.map fun q => q := by
    refine List.map_congr_left fun q hq => ?_
    obtain ⟨p, -, hpq⟩ := exists_mem_of_forall₂ h.outputs.flip q hq
    rw [← Port.DescribesOutput.shape_eq hpq]
  rw [Node.withoutShapes, houtputs, List.map_id']

/-- In a graph that a document builds each layer has its node. -/
theorem exists_node?_of_build (hg : d.build registry = .ok g) (hl : l ∈ d.layers) :
    ∃ m n, l.Describes [] m ∧ g.node? l.id = some n ∧ l.Describes (registry.amendments m) n := by
  obtain ⟨ns, hns, hids, rfl, -⟩ := buildWith_eq_ok_iff.1 hg
  obtain ⟨n, hn, hmakes⟩ := exists_mem_of_forall₂ hns l hl
  obtain ⟨m, hm, hdescribes⟩ := hmakes.exists_describes
  exact ⟨m, n, hm, (Graph.node?_ofNodes_eq_some_iff hids).2 ⟨hn, hdescribes.id_eq⟩, hdescribes⟩

/-- In a graph that a document builds each node comes from a layer. -/
theorem exists_layer_of_build (hg : d.build registry = .ok g) (hn : g.node? id = some n) :
    ∃ l ∈ d.layers, ∃ changes, l.Describes changes n := by
  obtain ⟨ns, hns, hids, rfl, -⟩ := buildWith_eq_ok_iff.1 hg
  obtain ⟨l, hl, hmakes⟩ := exists_mem_of_forall₂ hns.flip n
    ((Graph.node?_ofNodes_eq_some_iff hids).1 hn).1
  obtain ⟨m, -, hdescribes⟩ := Layer.Makes.exists_describes hmakes
  exact ⟨l, hl, registry.amendments m, hdescribes⟩

/-- The graph that is built has the nodes of the restored one, but for the shapes that are found,
and these are those that visits find in the restored graph. -/
theorem Restores.exists_settled (hd : d.Restores registry options h report) :
    ∃ g, d.build registry = .ok g ∧ Graph.SameFrame g h ∧ h.Settled options := by
  obtain ⟨g, hg, hrun⟩ := hd
  obtain ⟨-, hframe, hsettled, -⟩ := (wellFormed_of_buildWith hg).inferShapes_eq_ok_iff.1 hrun
  exact ⟨g, hg, hframe, hsettled⟩

/-- Each layer has its node in the graph, which is what the layer says up to the changes of the
extender and the shapes that were found. -/
theorem Restores.exists_node? (hd : d.Restores registry options h report) (hl : l ∈ d.layers) :
    ∃ m n, l.Describes [] m ∧ h.node? l.id = some n ∧
      l.Describes (registry.amendments m) n.withoutShapes := by
  obtain ⟨g, hg, hframe, -⟩ := hd.exists_settled
  obtain ⟨m, n₀, hm, hn₀, hdescribes⟩ := exists_node?_of_build hg hl
  obtain ⟨n, hn, hnn₀⟩ := hframe.exists_node? hn₀
  refine ⟨m, n, hm, hn, ?_⟩
  rw [hnn₀, hdescribes.withoutShapes_eq]
  exact hdescribes

/-- Each node of the graph comes from a layer. -/
theorem Restores.exists_layer (hd : d.Restores registry options h report)
    (hn : h.node? id = some n) :
    ∃ l ∈ d.layers, ∃ changes, l.Describes changes n.withoutShapes := by
  obtain ⟨g, hg, hframe, -⟩ := hd.exists_settled
  obtain ⟨n₀, hn₀, hnn₀⟩ := hframe.symm.exists_node? hn
  obtain ⟨l, hl, changes, hdescribes⟩ := exists_layer_of_build hg hn₀
  refine ⟨l, hl, changes, ?_⟩
  rw [← hnn₀, hdescribes.withoutShapes_eq]
  exact hdescribes

/-- The output ports of a node that is described but for its shapes are described but for theirs. -/
theorem Layer.Describes.outputs_of_withoutShapes (hn : l.Describes changes n.withoutShapes) :
    List.Forall₂ (fun p q => p.DescribesOutput { q with shape := none }) l.outputs n.outputs :=
  List.forall₂_map_right_iff.1 hn.outputs

/-- A shape is recorded at an output if the document has dimensions for the port that describe
it. -/
theorem Port.DescribesOutput.exists_dims {p : Port} {q : OutputPort} {s : Shape}
    (hpq : p.DescribesOutput { q with shape := none }) (hs : q.recorded = some s) :
    ∃ dims, p.dims = some dims ∧ Shape.Records dims s := by
  have hrel : Option.Rel Shape.Records p.dims q.recorded := hpq.recorded
  rwa [hs, rel_some_right_iff] at hrel

end Document

end OpGraph
