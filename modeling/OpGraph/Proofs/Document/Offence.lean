import OpGraph.Proofs.Document.Acceptance
import OpGraph.Proofs.Graph.Refusal

/-!
# What a rejected document is blamed on

A document that builds no graph is blamed on its first offence: layers come before edges, both in
their order, and within a layer or an edge the demands come in a fixed order. What an item is asked
for hangs on the items before it only, and so nothing behind the first item at fault matters.
-/

namespace OpGraph

namespace Document

variable {d : Document} {l : Layer} {p : Port} {e : Edge} {g : Graph} {registry : Registry}
  {err : BuildError} {layer : NodeId}

section Conditions

/-- The value is the first of the recorded dimensions that is too small. -/
def Port.FirstBad (p : Port) (value : Int64) : Prop :=
  ∃ before after, p.dims = some (before ++ value :: after) ∧ (∀ v ∈ before, -1 ≤ v.toInt) ∧
    value.toInt < -1

/-- What is wrong with an input port. -/
def Port.OffendsAsInput (layer : NodeId) (p : Port) (err : BuildError) : Prop :=
  ∃ value, p.FirstBad value ∧ err = .badDims layer p.id (.negativeDim value)

/-- What is wrong with an output port. -/
@[mk_iff]
inductive Port.OffendsAsOutput (layer : NodeId) (p : Port) : BuildError → Prop
  | precision {name : String} (hname : p.precision = some name)
      (hunknown : ElementType.ofName? name = none) :
      OffendsAsOutput layer p (.unknownPrecision layer p.id name)
  | dims {value : Int64} (hprecision : p.HasPrecision) (hbad : p.FirstBad value) :
      OffendsAsOutput layer p (.badDims layer p.id (.negativeDim value))

/-- What is wrong with a layer that comes after others. -/
@[mk_iff]
inductive Layer.Offends (earlier : List Layer) (l : Layer) : BuildError → Prop
  | input {err : BuildError}
      (hport : FirstOffence (fun _ => Port.OffendsAsInput l.id) l.inputs err) :
      Offends earlier l err
  | output {err : BuildError} (hinputs : ∀ p ∈ l.inputs, p.HasDims)
      (hport : FirstOffence (fun _ => Port.OffendsAsOutput l.id) l.outputs err) :
      Offends earlier l err
  | node {fault : GraphError} (hinputs : ∀ p ∈ l.inputs, p.HasDims)
      (houtputs : ∀ p ∈ l.outputs, p.HasDims ∧ p.HasPrecision)
      (hfault : NodeFault (fun id => ∃ l' ∈ earlier, l'.id = id) l.id (l.inputs.map Port.id)
        (l.outputs.map Port.id) fault) :
      Offends earlier l (.graph fault)

/-- What is wrong with an edge that comes after others. -/
def EdgeOffends (d : Document) (earlier : List Edge) (e : Edge) (err : BuildError) : Prop :=
  ∃ fault, EdgeFault (fun id => ∃ l ∈ d.layers, l.id = id) d.IsOutput d.IsInput
    (fun t => ∃ e' ∈ earlier, e'.target = t) e fault ∧ err = .graph fault

/-- What is wrong with a document: its first layer at fault, or else its first edge at fault. -/
@[mk_iff]
inductive Offends (d : Document) : BuildError → Prop
  | layer {err : BuildError} (hlayer : FirstOffence Layer.Offends d.layers err) : Offends d err
  | edge {err : BuildError} (hlayers : NoneOffends Layer.Offends d.layers)
      (hedge : FirstOffence d.EdgeOffends d.edges err) : Offends d err

end Conditions

section Reading

theorem Port.shape_eq_error_iff : p.shape layer = .error err ↔ p.OffendsAsInput layer err := by
  have hdecode : p.shape layer = .error err ↔
      ∃ dims e, p.dims = some dims ∧
        Shape.ofRecorded dims = .error e ∧ err = .badDims layer p.id e := by
    cases hdims : p.dims with
    | none => simp [shape, hdims]
    | some dims => cases hs : Shape.ofRecorded dims <;> simp [shape, hdims, hs, eq_comm]
  simp only [hdecode, Shape.ofRecorded_eq_error_iff]
  constructor
  · rintro ⟨_, _, hdims, ⟨before, value, after, rfl, hbefore, hvalue, rfl⟩, rfl⟩
    exact ⟨value, ⟨before, after, hdims, hbefore, hvalue⟩, rfl⟩
  · rintro ⟨value, ⟨before, after, hdims, hbefore, hvalue⟩, rfl⟩
    exact ⟨_, _, hdims, ⟨before, value, after, rfl, hbefore, hvalue, rfl⟩, rfl⟩

/-- An input port is refused for its dimensions only. -/
theorem Port.inputPort_eq_error_iff :
    p.inputPort layer = .error err ↔ p.OffendsAsInput layer err := by
  simp [inputPort, bind_eq_error_iff, shape_eq_error_iff, pure, Except.pure]

theorem Port.elementType_eq_error_iff : p.elementType layer = .error err ↔
    ∃ name, p.precision = some name ∧ ElementType.ofName? name = none ∧
      err = .unknownPrecision layer p.id name := by
  cases hprecision : p.precision with
  | none => simp [elementType, hprecision]
  | some name => cases ht : ElementType.ofName? name <;> simp [elementType, hprecision, ht, eq_comm]

/-- An output port is read in two steps, and the precision comes first. -/
theorem Port.outputPort_eq_error_iff :
    p.outputPort layer = .error err ↔ p.OffendsAsOutput layer err := by
  have hprecision : (∃ t, p.elementType layer = .ok t) ↔ p.HasPrecision := by
    simp only [elementType_eq_ok_iff, exists_elementType_iff]
  simp only [outputPort, bind_eq_error_iff, shape_eq_error_iff, elementType_eq_error_iff,
    offendsAsOutput_iff, OffendsAsInput, ← hprecision, pure, Except.pure]
  simp

/-- A layer is refused for the first input at fault, and if there is none for the first output at
fault. -/
theorem Layer.node_eq_error_iff : l.node = .error err ↔
    FirstOffence (fun _ => Port.OffendsAsInput l.id) l.inputs err ∨
    (∀ p ∈ l.inputs, p.HasDims) ∧
      FirstOffence (fun _ => Port.OffendsAsOutput l.id) l.outputs err := by
  have hinputs : (∃ qs, l.inputs.mapM (fun p => p.inputPort l.id) = .ok qs) ↔
      ∀ p ∈ l.inputs, p.HasDims := by
    simp only [mapM_eq_ok_iff fun _ _ => Port.inputPort_eq_ok_iff_describes, exists_forall₂_iff,
      Port.exists_describesInput_iff]
  rw [← mapM_eq_error_iff_firstOffence fun _ _ => Port.inputPort_eq_error_iff,
    ← mapM_eq_error_iff_firstOffence fun _ _ => Port.outputPort_eq_error_iff, ← hinputs]
  simp only [node, bind_eq_error_iff, pure, Except.pure, reduceCtorEq, and_false, exists_false,
    or_false, exists_and_right]

end Reading

section Built

/-- The nodes of a graph have the numbers of the layers. -/
theorem exists_node?_iff_of_build (hg : d.build registry = .ok g) {id : NodeId} :
    (∃ n, g.node? id = some n) ↔ ∃ l ∈ d.layers, l.id = id := by
  obtain ⟨ns, hns, hids, rfl, -⟩ := buildWith_eq_ok_iff.1 hg
  simp only [Graph.node?_ofNodes_eq_some_iff hids, ← List.mem_map, (describes_of_makes hns).2]

/-- The output ports of the graph are those that the document declares. -/
theorem isOutput_iff_of_build (hg : d.build registry = .ok g) (t : Terminal) :
    g.IsOutput t ↔ d.IsOutput t := by
  obtain ⟨ns, hns, hids, rfl, -⟩ := buildWith_eq_ok_iff.1 hg
  exact isOutput_ofNodes_iff (describes_of_makes hns).1 hids t

theorem isInput_iff_of_build (hg : d.build registry = .ok g) (t : Terminal) :
    g.IsInput t ↔ d.IsInput t := by
  obtain ⟨ns, hns, hids, rfl, -⟩ := buildWith_eq_ok_iff.1 hg
  exact isInput_ofNodes_iff (describes_of_makes hns).1 hids t

/-- An input port of the graph is taken if an edge of the document leads there. -/
theorem lookup_feeds_ne_none_iff_of_build (hg : d.build registry = .ok g) {t : Terminal} :
    g.feeds.lookup t ≠ none ↔ ∃ e ∈ d.edges, e.target = t := by
  have hwf : g.WellFormed := wellFormed_of_buildWith hg
  rw [Ne, hwf.lookup_feeds_eq_none_iff, edges_eq_of_buildWith hg]
  simp

end Built

section Offences

/-- A layer is refused if it cannot be read, or for its number and ports in view of the layers
before. -/
theorem Layer.addTo_eq_error_iff {earlier : List Layer}
    (hg : ({ d with layers := earlier, edges := [] } : Document).build registry = .ok g) :
    l.addTo registry.extend g = .error err ↔ l.Offends earlier err := by
  have hused : (fun id => ∃ m, g.node? id = some m) = fun id => ∃ l' ∈ earlier, l'.id = id :=
    funext fun id => propext (exists_node?_iff_of_build hg)
  -- an extender leaves the number and the ports of the node, which are those of the layer
  have hadd : ∀ n, l.node = .ok n → ∀ fault, g.addNode (registry.extend n) = .error fault ↔
      NodeFault (fun id => ∃ l' ∈ earlier, l'.id = id) l.id (l.inputs.map Port.id)
        (l.outputs.map Port.id) fault := by
    intro n hn fault
    obtain ⟨m, -, hdescribes⟩ := Layer.Makes.exists_describes ⟨n, hn, rfl⟩
    rw [Graph.addNode_eq_error_iff, hused, hdescribes.id_eq, hdescribes.map_id_inputs_eq,
      hdescribes.map_id_outputs_eq]
  rw [Layer.addTo, bind_eq_error_iff, offends_iff, node_eq_error_iff, or_assoc]
  refine or_congr_right (or_congr_right ?_)
  simp only [mapError_eq_error_iff]
  constructor
  · rintro ⟨n, hn, fault, hfault, rfl⟩
    obtain ⟨hinputs, houtputs⟩ := exists_node_iff.1 ⟨n, hn⟩
    exact ⟨fault, hinputs, houtputs, (hadd n hn fault).1 hfault, rfl⟩
  · rintro ⟨fault, hinputs, houtputs, hfault, rfl⟩
    obtain ⟨n, hn⟩ := exists_node_iff.2 ⟨hinputs, houtputs⟩
    exact ⟨n, hn, fault, (hadd n hn fault).2 hfault, rfl⟩

/-- An edge is refused for its ends or for an edge before it. -/
theorem addEdgeTo_eq_error_iff {earlier : List Edge}
    (hg : ({ d with edges := earlier } : Document).build registry = .ok g) :
    addEdgeTo g e = .error err ↔ d.EdgeOffends earlier e err := by
  have hnode : (fun id => ∃ m, g.node? id = some m) = fun id => ∃ l ∈ d.layers, l.id = id :=
    funext fun id => propext (exists_node?_iff_of_build hg)
  have houtput : g.IsOutput = d.IsOutput := funext fun t => propext (isOutput_iff_of_build hg t)
  have hinput : g.IsInput = d.IsInput := funext fun t => propext (isInput_iff_of_build hg t)
  have hfed : (fun t => g.feeds.lookup t ≠ none) = fun t => ∃ e' ∈ earlier, e'.target = t :=
    funext fun t => propext (lookup_feeds_ne_none_iff_of_build hg)
  rw [addEdgeTo, mapError_eq_error_iff, EdgeOffends]
  simp only [Graph.addEdge_eq_error_iff, hnode, houtput, hinput, hfed]

/-- Adding layers fails for the first of them at fault. -/
theorem failsBy_addTo (d : Document) (registry : Registry) :
    FailsBy (Layer.addTo registry.extend) (.empty d.name d.version) Layer.Offends := by
  intro earlier g hg l err
  -- the layers so far are a document of their own, whose graph is the one they have made
  have hbuild : ({ d with layers := earlier, edges := [] } : Document).build registry = .ok g :=
    bind_eq_ok_iff.2 ⟨g, hg, rfl⟩
  exact Layer.addTo_eq_error_iff hbuild

/-- Adding edges to the graph of all layers fails for the first of them at fault. -/
theorem failsBy_addEdgeTo
    (hlayers : d.layers.foldlM (Layer.addTo registry.extend) (.empty d.name d.version) = .ok g) :
    FailsBy addEdgeTo g d.EdgeOffends := by
  intro earlier h hh e err
  have hbuild : ({ d with edges := earlier } : Document).build registry = .ok h :=
    bind_eq_ok_iff.2 ⟨g, hlayers, hh⟩
  exact addEdgeTo_eq_error_iff hbuild

/-- A document is refused for its first offence, and for nothing else. -/
theorem build_eq_error_iff : d.build registry = .error err ↔ d.Offends err := by
  have hlayers := failsBy_addTo d registry
  rw [build, buildWith, bind_eq_error_iff, foldlM_eq_error_iff_firstOffence hlayers, offends_iff,
    ← exists_foldlM_iff_noneOffends hlayers]
  refine or_congr_right ?_
  constructor
  · rintro ⟨g, hg, hedges⟩
    exact ⟨⟨g, hg⟩, (foldlM_eq_error_iff_firstOffence (failsBy_addEdgeTo hg)).1 hedges⟩
  · rintro ⟨⟨g, hg⟩, hedges⟩
    exact ⟨g, hg, (foldlM_eq_error_iff_firstOffence (failsBy_addEdgeTo hg)).2 hedges⟩

/-- A document that is rejected is blamed on its first offence, be it a layer or, if none is at
fault, an edge. With any other layers and edges behind the layer, or any other edges behind the
edge, it is rejected for the same reason. -/
theorem build_blames_first_offence (d : Document) (registry : Registry) (err : BuildError) :
    (d.build registry = .error err ↔ d.Offends err) ∧
    (d.build registry = .error err →
      (∃ before l after, d.layers = before ++ l :: after ∧ NoneOffends Layer.Offends before ∧
        l.Offends before err ∧ ∀ layers edges,
          ({ d with layers := before ++ l :: layers, edges } : Document).build registry =
            .error err) ∨
      NoneOffends Layer.Offends d.layers ∧
        ∃ before e after, d.edges = before ++ e :: after ∧ NoneOffends d.EdgeOffends before ∧
          d.EdgeOffends before e err ∧ ∀ edges,
            ({ d with edges := before ++ e :: edges } : Document).build registry = .error err) := by
  refine ⟨build_eq_error_iff, fun herr => ?_⟩
  -- whether something offends depends on nothing that comes after it
  cases build_eq_error_iff.1 herr with
  | layer hlayer =>
    obtain ⟨before, l, after, hsplit, hnone, hl⟩ := hlayer
    refine Or.inl ⟨before, l, after, hsplit, hnone, hl, fun layers edges => ?_⟩
    exact build_eq_error_iff.2 (.layer ⟨before, l, layers, rfl, hnone, hl⟩)
  | edge hlayers hedge =>
    obtain ⟨before, e, after, hsplit, hnone, he⟩ := hedge
    refine Or.inr ⟨hlayers, before, e, after, hsplit, hnone, he, fun edges => ?_⟩
    exact build_eq_error_iff.2 (.edge hlayers ⟨before, e, edges, rfl, hnone, he⟩)

/-- A layer with a precision that is no element type, bad dimensions, a port that is named twice and
a number that is in use, and an edge that starts nowhere. -/
def misspelt : Document where
  name := "misspelt"
  layers :=
    [⟨1, "x", "Parameter", none, .empty, [], [⟨0, some "fp32", some [1, -1]⟩]⟩,
      ⟨1, "y", "ReLU", none, .empty, [⟨0, none, some [1, -1]⟩, ⟨0, none, none⟩],
        [⟨5, some "fp33", some [-3]⟩]⟩]
  edges := [⟨⟨9, 0⟩, ⟨1, 0⟩⟩]

/-- A layer with a precision that names nothing is blamed before an edge that leads nowhere,
whatever stands behind the layer. -/
theorem build_misspelt_blames_precision :
    misspelt.build .builtin = .error (.unknownPrecision 1 5 "fp33") ∧
    ∃ before l after, misspelt.layers = before ++ l :: after ∧ ∀ layers edges,
      ({ misspelt with layers := before ++ l :: layers, edges } : Document).build .builtin =
        .error (.unknownPrecision 1 5 "fp33") := by
  obtain ⟨-, hblame⟩ :=
    build_blames_first_offence misspelt .builtin (.unknownPrecision 1 5 "fp33")
  have herr : misspelt.build .builtin = .error (.unknownPrecision 1 5 "fp33") := by
    decide +kernel
  refine ⟨herr, ?_⟩
  rcases hblame herr with ⟨before, l, after, hsplit, -, -, hreplace⟩ | ⟨-, _, _, _, -, -, he, -⟩
  · exact ⟨before, l, after, hsplit, hreplace⟩
  · -- no edge is blamed on a precision
    obtain ⟨fault, -, hfault⟩ := he
    cases hfault

end Offences

end Document

end OpGraph
