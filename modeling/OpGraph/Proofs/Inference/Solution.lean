import OpGraph.Proofs.Inference.Progress

/-!
# The equations that inference solves

The strategy of a node relates the shapes at its outputs to those at the ports that feed it. An
assignment of shapes to ports that meets all these equations is a solution. A run without
comparisons succeeds exactly on graphs that have no cycle and a solution, and what it stores is that
solution.

## Main definitions

- `Node.Equation`: what a strategy demands of an assignment at one node
- `Graph.Solves`: assignments that meet the equations of all nodes

## Main statements

- `Graph.shapesOf_eq_ok_iff_equation`: one visit solves one equation
- `Graph.inferShapes_ok_iff_exists_solves`: a run finds the only solution if there is one
-/

namespace OpGraph

namespace Node

variable {n m : Node} {edges : List Edge} {A : Terminal → Shape}

/-- The sources of the edges into the inputs of a node, one for each input and in port order. -/
def FedBy (n : Node) (edges : List Edge) (sources : List Terminal) : Prop :=
  List.Forall₂ (fun p t => (⟨t, ⟨n.id, p.id⟩⟩ : Edge) ∈ edges) n.inputs sources

/-- What a strategy demands of the shapes that `A` assigns to the outputs of a node, in a graph with
the given edges. -/
def Equation (n : Node) (edges : List Edge) (A : Terminal → Shape) : Strategy → Prop
  | .recorded => ∀ p ∈ n.outputs, p.recorded = some (A ⟨n.id, p.id⟩)
  | .fromAttribute => ∃ text s, n.attribute? "shape" = some text ∧ Shape.parse text = .ok s ∧
      ∀ p ∈ n.outputs, A ⟨n.id, p.id⟩ = s
  | .identity => ∃ first rest, n.FedBy edges (first :: rest) ∧
      ∀ p ∈ n.outputs, A ⟨n.id, p.id⟩ = A first
  | .broadcast => ∃ first rest s, n.FedBy edges (first :: rest) ∧
      (rest.map A).foldlM Shape.broadcast? (A first) = some s ∧
      ∀ p ∈ n.outputs, A ⟨n.id, p.id⟩ = s
  | .unspecified => False

/-- A rule that gives one shape to all outputs demands this shape of each. -/
theorem forall₂_onAllOutputs_iff {s : Shape} :
    List.Forall₂ (fun p s => A ⟨n.id, p.id⟩ = s) n.outputs (n.onAllOutputs s) ↔
      ∀ p ∈ n.outputs, A ⟨n.id, p.id⟩ = s := by
  rw [forall₂_eq_iff_map_eq, onAllOutputs, List.map_eq_replicate_iff]

/-- The equation of a node does not involve the shapes found for it. -/
theorem equation_congr (hframe : n.withoutShapes = m.withoutShapes) (strategy : Strategy) :
    n.Equation edges A strategy ↔ m.Equation edges A strategy := by
  have hstored : ∀ k : Node,
      k.withoutShapes.Equation edges A strategy ↔ k.Equation edges A strategy := by
    intro k
    cases strategy <;> simp [Equation, FedBy, withoutShapes, attribute?]
  rw [← hstored n, hframe, hstored m]

end Node

namespace Graph

variable {g h : Graph} {n : Node} {fallback : Bool} {A : Terminal → Shape}

/-- An assignment that meets the equations of all nodes. -/
def Solves (g : Graph) (fallback : Bool) (A : Terminal → Shape) : Prop :=
  ∀ id n, g.node? id = some n → n.Equation g.edges A (n.effectiveStrategy fallback)

theorem Solves.of_sameFrame (hA : g.Solves fallback A) (hgh : SameFrame g h) :
    h.Solves fallback A := by
  intro id n hn
  obtain ⟨m, hm, hframe⟩ := hgh.symm.exists_node? hn
  have hstrategy : m.strategy = n.strategy := (congrArg Node.strategy hframe :)
  have heq := (Node.equation_congr hframe _).1 (hA id m hm)
  rwa [hgh.edges_eq, Node.effectiveStrategy, hstrategy] at heq

section Visit

/-- Where the producers of a node have the shapes of the solution, these arrive at its inputs. -/
theorem arriving?_eq_some_iff (hg : g.WellFormed) {id : NodeId}
    (hfed : ∀ e ∈ g.edges, e.target.node = id → g.shapeAt? e.source = some (A e.source))
    {port : PortId} {s : Shape} :
    g.arriving? id port = some s ↔ ∃ t, (⟨t, ⟨id, port⟩⟩ : Edge) ∈ g.edges ∧ s = A t := by
  rw [arriving?_eq_some_iff_exists_edge hg]
  constructor
  · rintro ⟨⟨t, target⟩, he, rfl, hs⟩
    have ht := hfed _ he rfl
    exact ⟨t, he, Option.some.inj (hs.symm.trans ht)⟩
  · rintro ⟨t, he, rfl⟩
    exact ⟨⟨t, ⟨id, port⟩⟩, he, rfl, hfed _ he rfl⟩

/-- The inputs can be gathered if an edge leads to each of them, and the shapes are then those at
the sources. -/
theorem gatherInputs_eq_ok_iff_fedBy (hg : g.WellFormed)
    (hfed : ∀ e ∈ g.edges, e.target.node = n.id → g.shapeAt? e.source = some (A e.source))
    {shapes : List Shape} : g.gatherInputs n = .ok shapes ↔
      ∃ sources, n.FedBy g.edges sources ∧ shapes = sources.map A := by
  simp only [gatherInputs_eq_ok_iff, arriving?_eq_some_iff hg hfed, Node.FedBy]
  exact forall₂_exists_iff

/-- A visit finds the shapes that an assignment gives to a node exactly if the assignment meets the
equation of the node, provided that it gives the shapes that feed the node. -/
theorem shapesOf_eq_ok_iff_equation (hg : g.WellFormed)
    (hfed : ∀ e ∈ g.edges, e.target.node = n.id → g.shapeAt? e.source = some (A e.source)) :
    (∃ shapes, g.shapesOf ⟨fallback, false⟩ n = .ok shapes ∧
        List.Forall₂ (fun p s => A ⟨n.id, p.id⟩ = s) n.outputs shapes) ↔
      n.Equation g.edges A (n.effectiveStrategy fallback) := by
  simp only [shapesOf_eq_ok_iff, gatherInputs_eq_ok_iff_fedBy hg hfed, Bool.false_eq_true,
    false_and, false_implies, true_and, and_true]
  -- one case for each rule: its equation speaks of the sources, the rule of their shapes
  cases n.effectiveStrategy fallback with
  | recorded =>
    simp only [Strategy.readsInputs, Bool.false_eq_true, if_false, exists_eq_left, Node.inferShapes,
      Node.recordedShapes_eq_ok_iff, Node.Equation, forall₂_eq_iff_map_eq, exists_eq_right']
    rw [List.forall₂_map_right_iff, List.forall₂_same]
  | identity =>
    simp only [Strategy.readsInputs, if_true, Node.inferShapes, Node.identityShapes_eq_ok_iff,
      Node.Equation, ← Node.forall₂_onAllOutputs_iff]
    constructor
    · rintro ⟨_, ⟨_, ⟨sources, hsources, rfl⟩, first, rest, hfirst, rfl⟩, hA⟩
      obtain ⟨t, ts, rfl, rfl, -⟩ := List.map_eq_cons_iff.1 hfirst
      exact ⟨t, ts, hsources, hA⟩
    · rintro ⟨t, ts, hsources, hA⟩
      exact ⟨_, ⟨_, ⟨t :: ts, hsources, rfl⟩, A t, ts.map A, rfl, rfl⟩, hA⟩
  | broadcast =>
    simp only [Strategy.readsInputs, if_true, Node.inferShapes, Node.broadcastShapes_eq_ok_iff,
      Node.Equation, ← Node.forall₂_onAllOutputs_iff]
    constructor
    · rintro ⟨_, ⟨_, ⟨sources, hsources, rfl⟩, first, rest, s, hfirst, hjoined, rfl⟩, hA⟩
      obtain ⟨t, ts, rfl, rfl, rfl⟩ := List.map_eq_cons_iff.1 hfirst
      exact ⟨t, ts, s, hsources, hjoined, hA⟩
    · rintro ⟨t, ts, s, hsources, hjoined, hA⟩
      exact ⟨_, ⟨_, ⟨t :: ts, hsources, rfl⟩, A t, ts.map A, s, rfl, hjoined, rfl⟩, hA⟩
  | fromAttribute =>
    simp only [Strategy.readsInputs, Bool.false_eq_true, if_false, exists_eq_left, Node.inferShapes,
      Node.attributeShapes_eq_ok_iff, Node.Equation, ← Node.forall₂_onAllOutputs_iff]
    constructor
    · rintro ⟨_, ⟨text, s, htext, hparse, rfl⟩, hA⟩
      exact ⟨text, s, htext, hparse, hA⟩
    · rintro ⟨text, s, htext, hparse, hA⟩
      exact ⟨_, ⟨text, s, htext, hparse, rfl⟩, hA⟩
  | unspecified => simp [Node.inferShapes, Node.Equation]

end Visit

section Run

/-- A run on a graph without a cycle finds any solution there is. -/
theorem Solves.exists_report (hg : g.WellFormed) (hacyclic : ¬ HasCycle g.links)
    (hA : g.Solves fallback A) :
    ∃ report, (g.inferShapes ⟨fallback, false⟩).result = .ok report ∧
      ∀ t, g.IsOutput t → (g.inferShapes ⟨fallback, false⟩).graph.shapeAt? t = some (A t) := by
  have hvisit : ∀ h n, SameFrame g h → h.node? n.id = some n →
      (∀ e ∈ g.edges, e.target.node = n.id →
        ∃ s, h.shapeAt? e.source = some s ∧ A e.source = s) →
      ∃ shapes, h.shapesOf ⟨fallback, false⟩ n = .ok shapes ∧
        List.Forall₂ (fun p s => A ⟨n.id, p.id⟩ = s) n.outputs shapes := by
    intro h n hgh hn hfed
    have hfed' : ∀ e ∈ h.edges, e.target.node = n.id →
        h.shapeAt? e.source = some (A e.source) := by
      intro e he htarget
      obtain ⟨s, hs, rfl⟩ := hfed e (hgh.edges_eq ▸ he) htarget
      exact hs
    exact (shapesOf_eq_ok_iff_equation (hg.of_sameFrame hgh) hfed').2
      (hA.of_sameFrame hgh n.id n hn)
  obtain ⟨report, hrun, hshape⟩ :=
    exists_report_of_forall_visit (P := fun t s => A t = s) hg hacyclic hvisit
  refine ⟨report, hrun, fun t ht => ?_⟩
  obtain ⟨s, hs, rfl⟩ := hshape t ht
  exact hs

/-- What a successful run stores is a solution. -/
theorem solves_of_ok (hg : g.WellFormed) {report : InferReport}
    (hrun : (g.inferShapes ⟨fallback, false⟩).result = .ok report) :
    ¬ HasCycle g.links ∧
      g.Solves fallback fun t =>
        ((g.inferShapes ⟨fallback, false⟩).graph.shapeAt? t).getD default := by
  obtain ⟨hacyclic, order, horder, hprogress⟩ := exists_progress_of_ok hg hrun
  refine ⟨hacyclic, ?_⟩
  generalize (g.inferShapes ⟨fallback, false⟩).graph = h at hprogress
  have hgh : SameFrame g h := hprogress.sameFrame
  have hwf : h.WellFormed := hg.of_sameFrame hgh
  suffices hsolves : h.Solves fallback fun t => (h.shapeAt? t).getD default from
    hsolves.of_sameFrame hgh.symm
  intro id n hn
  obtain rfl : n.id = id := hwf.id_eq id n hn
  -- every node was visited, so a shape stands at the source of each edge
  have hfed : ∀ e ∈ h.edges, e.target.node = n.id →
      h.shapeAt? e.source = some ((h.shapeAt? e.source).getD default) := by
    intro e he _
    obtain ⟨m, hm, -⟩ := hwf.isOutput_source e he
    obtain ⟨shapes, -, houtputs⟩ := hprogress.exists_shapesOf horder hm
    obtain ⟨s, hs⟩ := hwf.exists_shapeAt? (hwf.isOutput_source e he) hm houtputs
    rw [hs, Option.getD_some]
  obtain ⟨shapes, hshapes, houtputs⟩ := hprogress.exists_shapesOf horder hn
  refine (shapesOf_eq_ok_iff_equation hwf hfed).1 ⟨shapes, hshapes, ?_⟩
  refine (hwf.forall₂_shapeAt? hn houtputs).imp fun p s hs => ?_
  rw [hs, Option.getD_some]

/-- On every graph made by operations, a run that does not compare shapes succeeds exactly if no
node reaches itself along edges and some assignment of shapes to ports meets the equations of all
nodes. It stores the shapes of that assignment then, and no other assignment meets the equations. -/
theorem inferShapes_ok_iff_exists_solves (hg : g.Reachable) (fallback : Bool) :
    ((∃ report, (g.inferShapes ⟨fallback, false⟩).result = .ok report) ↔
        ¬ HasCycle g.links ∧ ∃ A, g.Solves fallback A) ∧
      ∀ report, (g.inferShapes ⟨fallback, false⟩).result = .ok report →
        ∃ A, g.Solves fallback A ∧
          (∀ t, g.IsOutput t → (g.inferShapes ⟨fallback, false⟩).graph.shapeAt? t = some (A t)) ∧
          ∀ B, g.Solves fallback B → ∀ t, g.IsOutput t → B t = A t := by
  have hwf : g.WellFormed := hg.wellFormed
  constructor
  · constructor
    · rintro ⟨report, hrun⟩
      obtain ⟨hacyclic, hsolves⟩ := solves_of_ok hwf hrun
      exact ⟨hacyclic, _, hsolves⟩
    · rintro ⟨hacyclic, A, hA⟩
      obtain ⟨report, hrun, -⟩ := hA.exists_report hwf hacyclic
      exact ⟨report, hrun⟩
  · intro report hrun
    obtain ⟨hacyclic, hA⟩ := solves_of_ok hwf hrun
    obtain ⟨-, -, hstored⟩ := hA.exists_report hwf hacyclic
    refine ⟨_, hA, hstored, fun B hB t ht => ?_⟩
    obtain ⟨-, -, hB'⟩ := hB.exists_report hwf hacyclic
    exact Option.some.inj ((hB' t ht).symm.trans (hstored t ht))

/-- A node that broadcasts the output of another with itself. -/
def doubled : Graph :=
  (empty "doubled" 1).performAll
    [.addNode ⟨7, "x", "Parameter", none, .empty, [],
        [⟨0, none, some ⟨[.fixed 2, .dynamic]⟩, none⟩], .recorded⟩,
      .addNode ⟨4, "y", "Add", none, .empty, [⟨0, none⟩, ⟨1, none⟩], [⟨2, none, none, none⟩],
        .broadcast⟩,
      .addEdge ⟨⟨7, 0⟩, ⟨4, 1⟩⟩, .addEdge ⟨⟨7, 0⟩, ⟨4, 0⟩⟩]

/-- A graph in which one output feeds both inputs of a node, and its solution. -/
theorem exists_solves_doubled : doubled.Reachable ∧ ¬ HasCycle doubled.links ∧
    ∃ A, doubled.Solves false A := by
  have hreachable : doubled.Reachable := ⟨_, _, _, rfl⟩
  have hrun : (doubled.inferShapes ⟨false, false⟩).result = .ok ⟨2, 1, 1, 0⟩ := by decide
  exact ⟨hreachable, (inferShapes_ok_iff_exists_solves hreachable false).1.1 ⟨_, hrun⟩⟩

end Run

end Graph

end OpGraph
