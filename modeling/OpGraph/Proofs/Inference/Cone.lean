import OpGraph.Proofs.Inference.Settled

/-!
# What the shapes of a node depend on

The shapes of a node depend on the node itself and, if its strategy reads the inputs, on the nodes
that feed it, and on what these depend on. Nothing else in the graph is of influence: on two graphs
that are the same as far as that, runs that succeed find the same shapes for the node, in whatever
orders they go through the graphs. So what lies behind a node that does not read its inputs cannot
be seen from it.

## Main definitions

- `Graph.InCone`: the nodes on which the shapes of a node depend
- `Node.SameRule`, `Graph.AgreeAt`: nodes that find their shapes in the same way, in two graphs

## Main statements

- `Node.SameRule.inferShapes_eq_ok_iff`: such nodes find the same shapes from the same inputs
- `Graph.InCone.not_mem`: what nodes that do not read their inputs keep out of a cone
- `Graph.Progress.shapeAt?_of_cone`: the shape at an output, in two graphs that agree on the cone
- `Graph.inferShapes_depends_on_cone`: runs on two graphs
-/

namespace OpGraph

namespace Node

variable {n m k : Node} {strategy : Strategy} {inputs shapes : List Shape}

/-- The nodes have the same attributes, the same strategy and the same ports with the same shapes
recorded at the outputs. -/
structure SameRule (n m : Node) : Prop where
  attributes_eq : n.attributes = m.attributes
  strategy_eq : n.strategy = m.strategy
  inputs_eq : n.inputs.map InputPort.id = m.inputs.map InputPort.id
  outputs_eq : n.outputs.map (fun p => (p.id, p.recorded)) =
    m.outputs.map fun p => (p.id, p.recorded)

namespace SameRule

theorem trans (hnm : SameRule n m) (hmk : SameRule m k) : SameRule n k :=
  ⟨hnm.attributes_eq.trans hmk.attributes_eq, hnm.strategy_eq.trans hmk.strategy_eq,
    hnm.inputs_eq.trans hmk.inputs_eq, hnm.outputs_eq.trans hmk.outputs_eq⟩

/-- A rule has no part in the shapes found before. -/
theorem of_frame (hframe : n.withoutShapes = m.withoutShapes) : SameRule n m where
  attributes_eq := (congrArg Node.attributes hframe :)
  strategy_eq := (congrArg Node.strategy hframe :)
  inputs_eq := congrArg (List.map InputPort.id) (congrArg Node.inputs hframe :)
  outputs_eq := map_recorded_outputs_eq hframe

theorem map_id_outputs_eq (h : SameRule n m) :
    n.outputs.map OutputPort.id = m.outputs.map OutputPort.id := by
  simpa [Function.comp_def] using congrArg (List.map Prod.fst) h.outputs_eq

theorem map_recorded_outputs_eq (h : SameRule n m) :
    n.outputs.map OutputPort.recorded = m.outputs.map OutputPort.recorded := by
  simpa [Function.comp_def] using congrArg (List.map Prod.snd) h.outputs_eq

theorem onAllOutputs_eq (h : SameRule n m) (s : Shape) : n.onAllOutputs s = m.onAllOutputs s := by
  have hlength : n.outputs.length = m.outputs.length := by
    simpa using congrArg List.length h.outputs_eq
  rw [onAllOutputs, onAllOutputs, hlength]

/-- Nodes that follow the same rule have recorded the same shapes, if all of them are there. -/
theorem recordedShapes_eq_ok_iff (h : SameRule n m) :
    n.recordedShapes = .ok shapes ↔ m.recordedShapes = .ok shapes := by
  have hrecorded : ∀ k : Node, k.recordedShapes = .ok shapes ↔
      List.Forall₂ (fun r s => r = some s) (k.outputs.map OutputPort.recorded) shapes := by
    intro k
    rw [Node.recordedShapes_eq_ok_iff, List.forall₂_map_left_iff]
  rw [hrecorded, hrecorded, h.map_recorded_outputs_eq]

/-- Nodes with the same rule find the same shapes if the same arrives at their inputs. -/
theorem inferShapes_eq_ok_iff (h : SameRule n m) :
    n.inferShapes strategy inputs = .ok shapes ↔ m.inferShapes strategy inputs = .ok shapes := by
  cases strategy with
  | recorded => exact h.recordedShapes_eq_ok_iff
  | identity => simp only [inferShapes, identityShapes_eq_ok_iff, h.onAllOutputs_eq]
  | broadcast => simp only [inferShapes, broadcastShapes_eq_ok_iff, h.onAllOutputs_eq]
  | fromAttribute =>
    simp only [inferShapes, attributeShapes_eq_ok_iff, h.onAllOutputs_eq, attribute?,
      h.attributes_eq]
  | unspecified => simp [inferShapes]

end SameRule

end Node

namespace Graph

variable {g g₁ g₂ h₁ h₂ : Graph} {fallback verify₁ verify₂ : Bool} {id u v : NodeId} {n m : Node}
  {inputs shapes : List Shape}

/-- The nodes on which the shapes of a node depend: itself and, with every node among them that
reads its inputs, all nodes that feed this. -/
inductive InCone (g : Graph) (fallback : Bool) (id : NodeId) : NodeId → Prop
  | self : InCone g fallback id id
  | feeds {v : NodeId} {n : Node} {e : Edge} (hv : InCone g fallback id v)
      (hn : g.node? v = some n) (hreads : (n.effectiveStrategy fallback).readsInputs)
      (he : e ∈ g.edges) (htarget : e.target.node = v) : InCone g fallback id e.source.node

/-- Under this number the graphs have nodes with the same rule, and these are fed by the same edges
if they read their inputs; or both have none. -/
structure AgreeAt (fallback : Bool) (g₁ g₂ : Graph) (v : NodeId) : Prop where
  node : Option.Rel Node.SameRule (g₁.node? v) (g₂.node? v)
  edges : ∀ n, g₁.node? v = some n → (n.effectiveStrategy fallback).readsInputs →
    ∀ e : Edge, e.target.node = v → (e ∈ g₁.edges ↔ e ∈ g₂.edges)

section Cone

/-- A node is visited with the same strategy in graphs with one frame. -/
theorem SameFrame.exists_effectiveStrategy {h : Graph} (hgh : SameFrame g h)
    (hn : g.node? id = some n) (fallback : Bool) : ∃ m, h.node? id = some m ∧
      m.effectiveStrategy fallback = n.effectiveStrategy fallback := by
  obtain ⟨m, hm, hmn⟩ := hgh.exists_node? hn
  have hstrategy : m.strategy = n.strategy := (congrArg Node.strategy hmn :)
  exact ⟨m, hm, Node.effectiveStrategy_congr hstrategy fallback⟩

/-- Whether graphs agree at a node does not depend on the shapes that they hold. -/
theorem AgreeAt.of_sameFrame (h : AgreeAt fallback g₁ g₂ v) (hframe₁ : SameFrame g₁ h₁)
    (hframe₂ : SameFrame g₂ h₂) : AgreeAt fallback h₁ h₂ v where
  node := by
    have hnode := h.node
    generalize hn : g₁.node? v = o₁ at hnode
    generalize hm : g₂.node? v = o₂ at hnode
    cases hnode with
    | none =>
      rw [hframe₁.node?_eq_none hn, hframe₂.node?_eq_none hm]
      exact .none
    | some hnm =>
      obtain ⟨n', hn', hnn'⟩ := hframe₁.exists_node? hn
      obtain ⟨m', hm', hmm'⟩ := hframe₂.exists_node? hm
      rw [hn', hm']
      exact .some ((Node.SameRule.of_frame hnn').trans
        (hnm.trans (Node.SameRule.of_frame hmm'.symm)))
  edges n hn hreads e htarget := by
    obtain ⟨n₀, hn₀, hstrategy⟩ := hframe₁.symm.exists_effectiveStrategy hn fallback
    rw [← hstrategy] at hreads
    rw [← hframe₁.edges_eq, ← hframe₂.edges_eq]
    exact h.edges n₀ hn₀ hreads e htarget

/-- The cone of a node in a cone is in it. -/
theorem InCone.trans (hu : InCone g fallback id u) (hv : InCone g fallback u v) :
    InCone g fallback id v := by
  induction hv with
  | self => exact hu
  | feeds _ hn hreads he htarget ih => exact .feeds ih hn hreads he htarget

/-- A node that reads its inputs depends on those that feed it, whatever shapes it holds. -/
theorem InCone.of_sameFrame {h : Graph} {e : Edge} (hgh : SameFrame g h) (hn : h.node? id = some n)
    (hreads : (n.effectiveStrategy fallback).readsInputs) (he : e ∈ g.edges)
    (htarget : e.target.node = id) : InCone g fallback id e.source.node := by
  obtain ⟨n₀, hn₀, hstrategy⟩ := hgh.symm.exists_effectiveStrategy hn fallback
  rw [← hstrategy] at hreads
  exact .feeds .self hn₀ hreads he htarget

/-- A set of nodes out of which edges lead only to nodes that do not read their inputs is outside
the cone of every node outside of it. -/
theorem InCone.not_mem (S : NodeId → Prop)
    (hleave : ∀ e ∈ g.edges, S e.source.node → S e.target.node ∨
      ∀ n, g.node? e.target.node = some n → ¬ (n.effectiveStrategy fallback).readsInputs)
    (hid : ¬ S id) (hv : InCone g fallback id v) : ¬ S v := by
  induction hv with
  | self => exact hid
  | feeds _ hn hreads he htarget ih =>
    subst htarget
    intro hsource
    rcases hleave _ he hsource with hmem | hblind
    · exact ih hmem
    · exact hblind _ hn hreads

end Cone

section Visit

/-- What arrives at a node arrives also in a graph in which the same edges enter the node and the
same shapes stand at their sources. -/
theorem arriving?_of_edges (hh₁ : h₁.WellFormed) (hh₂ : h₂.WellFormed) {port : PortId} {s : Shape}
    (hedges : ∀ e : Edge, e.target.node = id → e ∈ h₁.edges → e ∈ h₂.edges)
    (hfed : ∀ e ∈ h₁.edges, e.target.node = id →
      ∀ s, h₁.shapeAt? e.source = some s → h₂.shapeAt? e.source = some s)
    (hs : h₁.arriving? id port = some s) : h₂.arriving? id port = some s := by
  obtain ⟨e, hproducer, hshape⟩ := Option.bind_eq_some_iff.1 hs
  obtain ⟨he, htarget⟩ := hh₁.producer?_eq_some_iff.1 hproducer
  have hnode : e.target.node = id := by rw [htarget]
  refine Option.bind_eq_some_iff.2 ⟨e, ?_, hfed e he hnode s hshape⟩
  exact hh₂.producer?_eq_some_iff.2 ⟨hedges e hnode he, htarget⟩

/-- What is gathered for a node is gathered for a node with the same rule if the same arrives
there. -/
theorem gatherInputs_of_arriving? (hnm : Node.SameRule n m) (hid : n.id = m.id)
    (harriving : ∀ port s, h₁.arriving? n.id port = some s → h₂.arriving? n.id port = some s)
    (hinputs : h₁.gatherInputs n = .ok inputs) : h₂.gatherInputs m = .ok inputs := by
  rw [gatherInputs_eq_ok_iff] at hinputs ⊢
  have hports : List.Forall₂ (fun port s => h₂.arriving? m.id port = some s)
      (n.inputs.map InputPort.id) inputs := by
    rw [List.forall₂_map_left_iff, ← hid]
    exact hinputs.imp fun (p : InputPort) s => harriving p.id s
  rw [hnm.inputs_eq] at hports
  exact List.forall₂_map_left_iff.1 hports

/-- Visits to nodes with the same rule find the same shapes, compared with the recorded ones or not,
if what is gathered for the one is gathered for the other. -/
theorem eq_of_shapesOf (hnm : Node.SameRule n m) {shapes' : List Shape}
    (hshapes : h₁.shapesOf ⟨fallback, verify₁⟩ n = .ok shapes)
    (hshapes' : h₂.shapesOf ⟨fallback, verify₂⟩ m = .ok shapes')
    (hgather : (n.effectiveStrategy fallback).readsInputs → ∀ inputs,
      h₁.gatherInputs n = .ok inputs → h₂.gatherInputs m = .ok inputs) : shapes' = shapes := by
  obtain ⟨inputs, hinputs, -, hrule, -⟩ := shapesOf_eq_ok_iff.1 hshapes
  obtain ⟨inputs', hinputs', -, hrule', -⟩ := shapesOf_eq_ok_iff.1 hshapes'
  rw [Node.effectiveStrategy_congr hnm.strategy_eq] at hgather hinputs hrule
  have heq : inputs' = inputs := by
    by_cases hreads : (m.effectiveStrategy fallback).readsInputs
    · rw [if_pos hreads] at hinputs hinputs'
      exact Except.ok.inj (hinputs'.symm.trans (hgather hreads inputs hinputs))
    · rw [if_neg hreads] at hinputs hinputs'
      rw [hinputs, hinputs']
  rw [heq, ← hnm.inferShapes_eq_ok_iff] at hrule'
  exact Except.ok.inj (hrule'.symm.trans hrule)

/-- A node for which a visit finds shapes holds these also in a settled graph that agrees with the
visited one there, if the same shapes stand at the sources of the edges into the node. -/
theorem AgreeAt.forall₂_shapeAt? (hagree : AgreeAt fallback h₁ h₂ n.id) (hh₁ : h₁.WellFormed)
    (hh₂ : h₂.WellFormed) (hsettled : h₂.Settled ⟨fallback, verify₂⟩) (hn : h₁.node? n.id = some n)
    (hfed : (n.effectiveStrategy fallback).readsInputs → ∀ e ∈ h₁.edges, e.target.node = n.id →
      ∀ s, h₁.shapeAt? e.source = some s → h₂.shapeAt? e.source = some s)
    (hshapes : h₁.shapesOf ⟨fallback, verify₁⟩ n = .ok shapes) :
    List.Forall₂ (fun p s => h₂.shapeAt? ⟨n.id, p.id⟩ = some s) n.outputs shapes := by
  have hnode := hagree.node
  rw [hn, rel_some_left_iff] at hnode
  obtain ⟨m, hm, hnm⟩ := hnode
  obtain ⟨shapes', hshapes', houtputs⟩ := hsettled n.id m hm
  obtain rfl : shapes' = shapes := by
    refine eq_of_shapesOf hnm hshapes hshapes' fun hreads inputs => ?_
    refine gatherInputs_of_arriving? hnm (hh₂.id_eq _ m hm).symm fun port s => ?_
    exact arriving?_of_edges hh₁ hh₂ (fun e htarget => (hagree.edges n hn hreads e htarget).1)
      (hfed hreads)
  have hports : List.Forall₂ (fun port s => h₂.shapeAt? ⟨n.id, port⟩ = some s)
      (m.outputs.map OutputPort.id) shapes' :=
    List.forall₂_map_left_iff.2 (hh₂.forall₂_shapeAt? hm houtputs)
  rw [← hnm.map_id_outputs_eq] at hports
  exact List.forall₂_map_left_iff.1 hports

end Visit

section Run

variable {order : List NodeId} {report report₁ report₂ : InferReport}

/-- What a run has found at an output stands there also in a settled graph that agrees on the cone
of the output's node. -/
theorem Progress.shapeAt?_of_cone (hg₁ : g₁.WellFormed) (hg₂ : g₂.WellFormed)
    (horder : g₁.IsOrder order) (hdone : Progress ⟨fallback, verify₁⟩ g₁ order h₁ report)
    (hframe : SameFrame g₂ h₂) (hsettled : h₂.Settled ⟨fallback, verify₂⟩) {t : Terminal}
    (ht : g₁.IsOutput t)
    (hagree : ∀ v, InCone g₁ fallback t.node v → AgreeAt fallback g₁ g₂ v) :
    h₁.shapeAt? t = h₂.shapeAt? t := by
  have horder' : g₁.IsOrder (order ++ []) := by simpa using horder
  -- the claim is carried from node to node for those that have an agreeing cone
  let P : Terminal → Shape → Prop := fun t s =>
    (∀ v, InCone g₁ fallback t.node v → AgreeAt fallback g₁ g₂ v) → h₂.shapeAt? t = some s
  have hstep : ∀ n shapes, h₁.node? n.id = some n →
      (∀ e ∈ g₁.edges, e.target.node = n.id → ∃ s, h₁.shapeAt? e.source = some s ∧ P e.source s) →
      h₁.shapesOf ⟨fallback, verify₁⟩ n = .ok shapes →
      List.Forall₂ (fun p s => P ⟨n.id, p.id⟩ s) n.outputs shapes := by
    intro n shapes hn hfed hshapes
    refine List.forall₂_iff_zip.2 ⟨(length_of_shapesOf hshapes).symm, fun hps hagree => ?_⟩
    have hsources : (n.effectiveStrategy fallback).readsInputs → ∀ e ∈ h₁.edges,
        e.target.node = n.id → ∀ s, h₁.shapeAt? e.source = some s →
          h₂.shapeAt? e.source = some s := by
      intro hreads e he htarget s hs
      rw [← hdone.sameFrame.edges_eq] at he
      obtain ⟨s', hs', hP⟩ := hfed e he htarget
      have hsource : InCone g₁ fallback n.id e.source.node :=
        .of_sameFrame hdone.sameFrame hn hreads he htarget
      rw [← hs, hs', hP fun v hv => hagree v (hsource.trans hv)]
    have hports := ((hagree n.id .self).of_sameFrame hdone.sameFrame hframe).forall₂_shapeAt?
      (hg₁.of_sameFrame hdone.sameFrame) (hg₂.of_sameFrame hframe) hsettled hn hsources hshapes
    exact (List.forall₂_iff_zip.1 hports).2 hps
  have hmem : t.node ∈ order := by
    obtain ⟨n, hn, -⟩ := ht
    exact (horder.mem_iff t.node).2 ⟨n, hn⟩
  obtain ⟨s, hs, hP⟩ := hdone.induction hg₁ horder' hstep t ht hmem
  rw [hs, hP hagree]

/-- A run finds for a node what another graph holds for it that is settled and agrees on its
cone. -/
theorem outputShapes_of_cone (hg₁ : g₁.WellFormed) (hg₂ : g₂.WellFormed)
    (hrun₁ : (g₁.inferShapes ⟨fallback, verify₁⟩).result = .ok report₁)
    (hrun₂ : (g₂.inferShapes ⟨fallback, verify₂⟩).result = .ok report₂)
    (hagree : ∀ v, InCone g₁ fallback id v → AgreeAt fallback g₁ g₂ v) :
    ((g₁.inferShapes ⟨fallback, verify₁⟩).graph.node? id).map Node.outputShapes =
      ((g₂.inferShapes ⟨fallback, verify₂⟩).graph.node? id).map Node.outputShapes := by
  obtain ⟨-, order, horder, hdone⟩ := exists_progress_of_ok hg₁ hrun₁
  obtain ⟨-, hframe₂, hsettled, -⟩ := hg₂.settled_of_ok hrun₂
  generalize (g₁.inferShapes ⟨fallback, verify₁⟩).graph = h₁ at hdone
  generalize (g₂.inferShapes ⟨fallback, verify₂⟩).graph = h₂ at hframe₂ hsettled
  have hh₁ : h₁.WellFormed := hg₁.of_sameFrame hdone.sameFrame
  have hh₂ : h₂.WellFormed := hg₂.of_sameFrame hframe₂
  have hnode := ((hagree id .self).of_sameFrame hdone.sameFrame hframe₂).node
  generalize hn₁ : h₁.node? id = o₁ at hnode
  generalize hn₂ : h₂.node? id = o₂ at hnode
  cases hnode with
  | none => rfl
  | @some n₁ n₂ hrule =>
    rw [Option.map_some, Option.map_some, hh₁.outputShapes_eq hn₁, hh₂.outputShapes_eq hn₂,
      ← hrule.map_id_outputs_eq]
    -- the nodes have the same ports, and each is fed from the cone alike
    refine congrArg some (List.map_congr_left fun port hport => ?_)
    have hport' : g₁.IsOutput ⟨id, port⟩ :=
      (hdone.sameFrame.isOutput_iff _).2 ⟨n₁, hn₁, List.mem_map.1 hport⟩
    exact hdone.shapeAt?_of_cone hg₁ hg₂ horder hframe₂ hsettled hport' hagree

/-- Take runs on two graphs made by operations that both succeed, both with or both without fallback
and each comparing or not. If the graphs agree on the cone that a node has in the first, then it has
the same shapes after both runs. So if edges lead out of a set of nodes of the first graph only to
nodes that do not read their inputs, and the graphs agree at all nodes outside of the set, then all
of these have the same shapes after both runs. -/
theorem inferShapes_depends_on_cone (hg₁ : g₁.Reachable) (hg₂ : g₂.Reachable)
    (hrun₁ : (g₁.inferShapes ⟨fallback, verify₁⟩).result = .ok report₁)
    (hrun₂ : (g₂.inferShapes ⟨fallback, verify₂⟩).result = .ok report₂) :
    (∀ id, (∀ v, InCone g₁ fallback id v → AgreeAt fallback g₁ g₂ v) →
      ((g₁.inferShapes ⟨fallback, verify₁⟩).graph.node? id).map Node.outputShapes =
        ((g₂.inferShapes ⟨fallback, verify₂⟩).graph.node? id).map Node.outputShapes) ∧
    ∀ S : NodeId → Prop,
      (∀ e ∈ g₁.edges, S e.source.node → S e.target.node ∨
        ∀ n, g₁.node? e.target.node = some n → ¬ (n.effectiveStrategy fallback).readsInputs) →
      (∀ v, ¬ S v → AgreeAt fallback g₁ g₂ v) → ∀ id, ¬ S id →
      ((g₁.inferShapes ⟨fallback, verify₁⟩).graph.node? id).map Node.outputShapes =
        ((g₂.inferShapes ⟨fallback, verify₂⟩).graph.node? id).map Node.outputShapes := by
  constructor
  · intro id hagree
    exact outputShapes_of_cone hg₁.wellFormed hg₂.wellFormed hrun₁ hrun₂ hagree
  · intro S hleave hagree id hid
    refine outputShapes_of_cone hg₁.wellFormed hg₂.wellFormed hrun₁ hrun₂ fun v hv => ?_
    exact hagree v (hv.not_mem S hleave hid)

/-- A source under a number of choice, a recurrent node, and a node that copies the shape of
this. -/
def screened (source : NodeId) (s : Shape) : Graph :=
  (empty "screened" 1).performAll
    [.addNode ⟨source, "x", "Parameter", none, .empty, [], [⟨0, none, some s, none⟩], .recorded⟩,
      .addNode ⟨4, "y", "GRUSequence", none, .empty, [⟨0, none⟩],
        [⟨1, none, some ⟨[.fixed 3]⟩, none⟩], .recorded⟩,
      .addNode ⟨2, "z", "Relu", none, .empty, [⟨0, none⟩], [⟨1, none, none, none⟩], .identity⟩,
      .addEdge ⟨⟨source, 0⟩, ⟨4, 0⟩⟩, .addEdge ⟨⟨4, 1⟩, ⟨2, 0⟩⟩]

/-- Two graphs that agree on the cone of a node and on nothing else: other numbers, other shapes and
other options outside, the same shapes within. -/
theorem inferShapes_screened_depends_on_cone :
    ((screened 1 ⟨[.fixed 8]⟩).inferShapes ⟨false, true⟩).result = .ok ⟨3, 2, 1, 0⟩ ∧
    ((screened 9 .scalar).inferShapes ⟨false, false⟩).result = .ok ⟨3, 2, 1, 0⟩ ∧
    (∀ v, InCone (screened 1 ⟨[.fixed 8]⟩) false 2 v → v = 2 ∨ v = 4) ∧
    (((screened 1 ⟨[.fixed 8]⟩).inferShapes ⟨false, true⟩).graph.node? 2).map Node.outputShapes =
      (((screened 9 .scalar).inferShapes ⟨false, false⟩).graph.node? 2).map Node.outputShapes ∧
    (((screened 1 ⟨[.fixed 8]⟩).inferShapes ⟨false, true⟩).graph.node? 4).map Node.outputShapes =
      (((screened 9 .scalar).inferShapes ⟨false, false⟩).graph.node? 4).map Node.outputShapes := by
  have hreachable : ∀ source s, (screened source s).Reachable := fun source s => ⟨_, _, _, rfl⟩
  have hrun₁ : ((screened 1 ⟨[.fixed 8]⟩).inferShapes ⟨false, true⟩).result =
      .ok ⟨3, 2, 1, 0⟩ := by decide
  have hrun₂ :
      ((screened 9 .scalar).inferShapes ⟨false, false⟩).result = .ok ⟨3, 2, 1, 0⟩ := by decide
  obtain ⟨hcone, hset⟩ := inferShapes_depends_on_cone (hreachable 1 _) (hreachable 9 _) hrun₁ hrun₂
  have hedges₁ : (screened 1 ⟨[.fixed 8]⟩).edges =
      [⟨⟨1, 0⟩, ⟨4, 0⟩⟩, ⟨⟨4, 1⟩, ⟨2, 0⟩⟩] := by decide
  have hedges₂ : (screened 9 .scalar).edges = [⟨⟨9, 0⟩, ⟨4, 0⟩⟩, ⟨⟨4, 1⟩, ⟨2, 0⟩⟩] := by decide
  -- the source is the only node outside of the cone, and its edge leads to the recurrent node
  have hleave : ∀ e ∈ (screened 1 ⟨[.fixed 8]⟩).edges, ¬ (e.source.node = 2 ∨ e.source.node = 4) →
      ¬ (e.target.node = 2 ∨ e.target.node = 4) ∨
        ∀ n, (screened 1 ⟨[.fixed 8]⟩).node? e.target.node = some n →
          ¬ (n.effectiveStrategy false).readsInputs := by
    rw [hedges₁, List.forall_mem_cons, List.forall_mem_singleton]
    refine ⟨fun _ => Or.inr fun n hn => ?_, fun hsource => absurd (Or.inr rfl) hsource⟩
    obtain rfl := Option.some.inj hn
    decide
  have hagree : ∀ v, v = 2 ∨ v = 4 →
      AgreeAt false (screened 1 ⟨[.fixed 8]⟩) (screened 9 .scalar) v := by
    rintro v (rfl | rfl)
    · refine ⟨.some ⟨rfl, rfl, rfl, rfl⟩, fun n _ _ e htarget => ?_⟩
      rw [hedges₁, hedges₂]
      have hother : ∀ source : NodeId, e ≠ ⟨⟨source, 0⟩, ⟨4, 0⟩⟩ := by
        rintro source rfl
        cases htarget
      simp [hother]
    · refine ⟨.some ⟨rfl, rfl, rfl, rfl⟩, fun n hn hreads => ?_⟩
      obtain rfl := Option.some.inj hn
      cases hreads
  have hmem : ∀ v, InCone (screened 1 ⟨[.fixed 8]⟩) false 2 v → v = 2 ∨ v = 4 := fun v hv =>
    not_not.1 (hv.not_mem (fun v => ¬ (v = 2 ∨ v = 4)) hleave (not_not.2 (Or.inl rfl)))
  refine ⟨hrun₁, hrun₂, hmem, hcone 2 fun v hv => hagree v (hmem v hv), ?_⟩
  exact hset (fun v => ¬ (v = 2 ∨ v = 4)) hleave (fun v hv => hagree v (not_not.1 hv)) 4
    (not_not.2 (Or.inr rfl))

end Run

end Graph

end OpGraph
