import OpGraph.Proofs.Document.Build
import OpGraph.Proofs.Extender
import OpGraph.Proofs.Shape.Recorded

/-!
# Which documents build a graph

A document builds a graph exactly if it is well formed: numbers are not used twice, recorded
dimensions and precisions can be decoded, and edges join ports of layers, no two of them at the same
input. Nothing is lost then: each layer becomes one node that has all that the layer says, and the
extender of its operator type adds nothing but what it sets.

## Main definitions

- `Document.Layer.WellFormed`, `Document.WellFormed`: what is asked of a layer and of a document
- `Document.Layer.Describes`: what a node has from its layer and from the changes of an extender

## Main statements

- `Document.Layer.node_eq_ok_iff_describes`, `Document.Layer.exists_node_iff`: which layers can be
  read
- `Document.build_ok_iff_wellFormed`: which documents build a graph, and what is in the graph
-/

namespace OpGraph

namespace Document

variable {d : Document} {l : Layer} {n : Node} {registry : Registry}

section Conditions

/-- The recorded dimensions of a port are extents or `-1`. -/
def Port.HasDims (p : Port) : Prop := ∀ dims ∈ p.dims, ∀ value ∈ dims, -1 ≤ value.toInt

/-- The precision of a port, if there is one, is the name of an element type. -/
def Port.HasPrecision (p : Port) : Prop := ∀ name ∈ p.precision, (ElementType.ofName? name).isSome

/-- A layer has this output port. -/
def IsOutput (d : Document) (t : Terminal) : Prop :=
  ∃ l ∈ d.layers, l.id = t.node ∧ ∃ p ∈ l.outputs, p.id = t.port

/-- A layer has this input port. -/
def IsInput (d : Document) (t : Terminal) : Prop :=
  ∃ l ∈ d.layers, l.id = t.node ∧ ∃ p ∈ l.inputs, p.id = t.port

-- the values of the list are tested, not all integers
instance (p : Port) : Decidable p.HasDims :=
  decidable_of_iff (∀ dims ∈ p.dims, dims.all fun value => -1 ≤ value.toInt)
    (by simp [Port.HasDims])

instance (p : Port) : Decidable p.HasPrecision :=
  inferInstanceAs (Decidable (∀ name ∈ p.precision, (ElementType.ofName? name).isSome))

instance (d : Document) (t : Terminal) : Decidable (d.IsOutput t) :=
  inferInstanceAs (Decidable (∃ l ∈ d.layers, l.id = t.node ∧ ∃ p ∈ l.outputs, p.id = t.port))

instance (d : Document) (t : Terminal) : Decidable (d.IsInput t) :=
  inferInstanceAs (Decidable (∃ l ∈ d.layers, l.id = t.node ∧ ∃ p ∈ l.inputs, p.id = t.port))

/-- What can be asked of a single layer: its ports are distinct and what is recorded there can be
decoded. The precisions of inputs are of no use. -/
structure Layer.WellFormed (l : Layer) : Prop where
  nodup_inputs : (l.inputs.map Port.id).Nodup
  nodup_outputs : (l.outputs.map Port.id).Nodup
  hasDims : ∀ p ∈ l.inputs ++ l.outputs, p.HasDims
  hasPrecision : ∀ p ∈ l.outputs, p.HasPrecision

/-- The layers have distinct numbers and can be read, and the edges join their ports, no two of them
at the same input. -/
structure WellFormed (d : Document) : Prop where
  nodup_ids : (d.layers.map Layer.id).Nodup
  layers : ∀ l ∈ d.layers, l.WellFormed
  isOutput_source : ∀ e ∈ d.edges, d.IsOutput e.source
  isInput_target : ∀ e ∈ d.edges, d.IsInput e.target
  nodup_targets : (d.edges.map Edge.target).Nodup

instance (l : Layer) : Decidable l.WellFormed :=
  decidable_of_iff ((l.inputs.map Port.id).Nodup ∧ (l.outputs.map Port.id).Nodup ∧
      (∀ p ∈ l.inputs ++ l.outputs, p.HasDims) ∧ ∀ p ∈ l.outputs, p.HasPrecision)
    ⟨fun ⟨hinputs, houtputs, hdims, hprecision⟩ => ⟨hinputs, houtputs, hdims, hprecision⟩,
      fun ⟨hinputs, houtputs, hdims, hprecision⟩ => ⟨hinputs, houtputs, hdims, hprecision⟩⟩

instance (d : Document) : Decidable d.WellFormed :=
  decidable_of_iff ((d.layers.map Layer.id).Nodup ∧ (∀ l ∈ d.layers, l.WellFormed) ∧
      (∀ e ∈ d.edges, d.IsOutput e.source) ∧ (∀ e ∈ d.edges, d.IsInput e.target) ∧
      (d.edges.map Edge.target).Nodup)
    ⟨fun ⟨hids, hlayers, hsources, htargets, hnodup⟩ =>
        ⟨hids, hlayers, hsources, htargets, hnodup⟩,
      fun ⟨hids, hlayers, hsources, htargets, hnodup⟩ =>
        ⟨hids, hlayers, hsources, htargets, hnodup⟩⟩

end Conditions

section Ports

variable {p : Port} {layer : NodeId}

/-- The input port is what the document says: its number and the shape that is recorded. -/
structure Port.DescribesInput (p : Port) (q : InputPort) : Prop where
  id_eq : q.id = p.id
  recorded : Option.Rel Shape.Records p.dims q.recorded

/-- The output port is what the document says: its number, the element type of the precision and the
shape that is recorded. No shape is found for it yet. -/
structure Port.DescribesOutput (p : Port) (q : OutputPort) : Prop where
  id_eq : q.id = p.id
  elementType :
    Option.Rel (fun name t => ElementType.ofName? name = some t) p.precision q.elementType
  recorded : Option.Rel Shape.Records p.dims q.recorded
  shape_eq : q.shape = none

theorem Port.inputPort_eq_ok_iff_describes {q : InputPort} :
    p.inputPort layer = .ok q ↔ p.DescribesInput q := by
  simp only [inputPort_eq_ok_iff, Shape.ofRecorded_eq_ok_iff]
  constructor
  · rintro ⟨hid, hrecorded⟩
    exact ⟨hid, hrecorded⟩
  · rintro ⟨hid, hrecorded⟩
    exact ⟨hid, hrecorded⟩

theorem Port.outputPort_eq_ok_iff_describes {q : OutputPort} :
    p.outputPort layer = .ok q ↔ p.DescribesOutput q := by
  simp only [outputPort_eq_ok_iff, Shape.ofRecorded_eq_ok_iff]
  constructor
  · rintro ⟨hid, htype, hrecorded, hshape⟩
    exact ⟨hid, htype, hrecorded, hshape⟩
  · rintro ⟨hid, htype, hrecorded, hshape⟩
    exact ⟨hid, htype, hrecorded, hshape⟩

/-- Recorded dimensions can be decoded if none is less than `-1`. -/
theorem Port.exists_records_iff :
    (∃ recorded, Option.Rel Shape.Records p.dims recorded) ↔ p.HasDims := by
  simp only [exists_rel_iff, Shape.exists_records_iff, HasDims]

theorem Port.exists_elementType_iff : (∃ elementType,
    Option.Rel (fun name t => ElementType.ofName? name = some t) p.precision elementType) ↔
    p.HasPrecision := by
  simp only [exists_rel_iff, HasPrecision, Option.isSome_iff_exists]

/-- Of an input only the dimensions are asked for; its precision is not looked at. -/
theorem Port.exists_describesInput_iff : (∃ q, p.DescribesInput q) ↔ p.HasDims := by
  rw [← exists_records_iff]
  constructor
  · rintro ⟨q, hq⟩
    exact ⟨q.recorded, hq.recorded⟩
  · rintro ⟨recorded, hrecorded⟩
    exact ⟨⟨p.id, recorded⟩, rfl, hrecorded⟩

/-- Of an output dimensions and precision are asked for. -/
theorem Port.exists_describesOutput_iff :
    (∃ q, p.DescribesOutput q) ↔ p.HasDims ∧ p.HasPrecision := by
  rw [← exists_records_iff, ← exists_elementType_iff]
  constructor
  · rintro ⟨q, hq⟩
    exact ⟨⟨q.recorded, hq.recorded⟩, q.elementType, hq.elementType⟩
  · rintro ⟨⟨recorded, hrecorded⟩, elementType, htype⟩
    exact ⟨⟨p.id, elementType, recorded, none⟩, rfl, htype, hrecorded, rfl⟩

end Ports

section Layers

/-- The node is what the layer says, up to the changes an extender makes: an attribute has the value
last set, or else the text of the layer's datum; the strategy is that last set, or else that of the
operator type. -/
structure Layer.Describes (l : Layer) (changes : List Amendment) (n : Node) : Prop where
  id_eq : n.id = l.id
  name_eq : n.name = l.name
  opType_eq : n.opType = l.opType
  version_eq : n.version = l.version
  inputs : List.Forall₂ Port.DescribesInput l.inputs n.inputs
  outputs : List.Forall₂ Port.DescribesOutput l.outputs n.outputs
  attribute?_eq : ∀ key, n.attribute? key =
    (changes.filterMap (Amendment.value? key)).getLast?.or ((l.data.get? key).map Datum.render)
  strategy_eq : n.strategy =
    (changes.filterMap Amendment.strategy?).getLast?.getD (.ofOpType l.opType)

theorem Layer.Describes.map_id_inputs_eq {changes : List Amendment} (h : l.Describes changes n) :
    n.inputs.map InputPort.id = l.inputs.map Port.id :=
  map_eq_map_of_forall₂ (h.inputs.imp fun _ _ hpq => hpq.id_eq)

theorem Layer.Describes.map_id_outputs_eq {changes : List Amendment} (h : l.Describes changes n) :
    n.outputs.map OutputPort.id = l.outputs.map Port.id :=
  map_eq_map_of_forall₂ (h.outputs.imp fun _ _ hpq => hpq.id_eq)

/-- A layer is read as the node that it describes without changes. -/
theorem Layer.node_eq_ok_iff_describes : l.node = .ok n ↔ l.Describes [] n := by
  simp only [node_eq_ok_iff,
    Port.inputPort_eq_ok_iff_describes, Port.outputPort_eq_ok_iff_describes]
  constructor
  · rintro ⟨inputs, outputs, hinputs, houtputs, rfl⟩
    exact ⟨rfl, rfl, rfl, rfl, hinputs, houtputs, Dictionary.get?_map _ _, rfl⟩
  · intro h
    have hattributes : n.attributes = l.data.map Datum.render := by
      refine Dictionary.ext_get? fun key => ?_
      rw [Dictionary.get?_map]
      exact h.attribute?_eq key
    obtain ⟨id, name, opType, version, attributes, inputs, outputs, strategy⟩ := n
    obtain ⟨rfl, rfl, rfl, rfl, hinputs, houtputs, -, rfl⟩ := h
    obtain rfl : attributes = l.data.map Datum.render := hattributes
    exact ⟨inputs, outputs, hinputs, houtputs, rfl⟩

/-- A layer can be read if all that its ports record can be decoded. -/
theorem Layer.exists_node_iff : (∃ n, l.node = .ok n) ↔
    (∀ p ∈ l.inputs, p.HasDims) ∧ ∀ p ∈ l.outputs, p.HasDims ∧ p.HasPrecision := by
  have hinputs : (∃ qs, List.Forall₂ Port.DescribesInput l.inputs qs) ↔
      ∀ p ∈ l.inputs, p.HasDims := by
    simp only [exists_forall₂_iff, Port.exists_describesInput_iff]
  have houtputs : (∃ qs, List.Forall₂ Port.DescribesOutput l.outputs qs) ↔
      ∀ p ∈ l.outputs, p.HasDims ∧ p.HasPrecision := by
    simp only [exists_forall₂_iff, Port.exists_describesOutput_iff]
  rw [← hinputs, ← houtputs]
  simp only [node_eq_ok_iff,
    Port.inputPort_eq_ok_iff_describes, Port.outputPort_eq_ok_iff_describes]
  constructor
  · rintro ⟨n, inputs, outputs, hin, hout, -⟩
    exact ⟨⟨inputs, hin⟩, outputs, hout⟩
  · rintro ⟨⟨inputs, hin⟩, outputs, hout⟩
    exact ⟨_, inputs, outputs, hin, hout, rfl⟩

/-- Changes made to the node of a layer are those that the description speaks of. -/
theorem Layer.Describes.foldl_amend (h : l.Describes [] n) (changes : List Amendment) :
    l.Describes changes (changes.foldl Node.amend n) := by
  rw [Node.foldl_amend_eq]
  refine ⟨h.id_eq, h.name_eq, h.opType_eq, h.version_eq, h.inputs, h.outputs, fun key => ?_, ?_⟩
  · change (changes.foldl Node.amend n).attribute? key = _
    rw [Node.attribute?_foldl_amend, h.attribute?_eq]
    rfl
  · change (changes.foldl Node.amend n).strategy = _
    rw [Node.strategy_foldl_amend, h.strategy_eq]
    rfl

/-- With a registry a layer makes the node that it describes with the changes of the extender. -/
theorem Layer.Makes.exists_describes (h : l.Makes registry.extend n) :
    ∃ m, l.Describes [] m ∧ l.Describes (registry.amendments m) n := by
  obtain ⟨m, hm, rfl⟩ := h
  have hdescribes : l.Describes [] m := node_eq_ok_iff_describes.1 hm
  rw [registry.extend_eq_foldl_amend]
  exact ⟨m, hdescribes, hdescribes.foldl_amend _⟩

end Layers

section Graphs

variable {ns : List Node} {g : Graph}

/-- The graph of nodes that are described by the layers has the output ports of the layers. -/
theorem isOutput_ofNodes_iff
    (hns : List.Forall₂ (fun l n => ∃ changes, Layer.Describes l changes n) d.layers ns)
    (hids : (ns.map Node.id).Nodup) (t : Terminal) :
    (Graph.ofNodes d.name d.version ns d.edges).IsOutput t ↔ d.IsOutput t := by
  symm
  simp only [Graph.IsOutput, Graph.node?_ofNodes_eq_some_iff hids, and_assoc]
  refine exists_mem_iff_of_forall₂ ?_ hns
  rintro l n ⟨changes, h⟩
  simp only [h.id_eq, ← List.mem_map, h.map_id_outputs_eq]

/-- The graph of nodes that are described by the layers has the input ports of the layers. -/
theorem isInput_ofNodes_iff
    (hns : List.Forall₂ (fun l n => ∃ changes, Layer.Describes l changes n) d.layers ns)
    (hids : (ns.map Node.id).Nodup) (t : Terminal) :
    (Graph.ofNodes d.name d.version ns d.edges).IsInput t ↔ d.IsInput t := by
  symm
  simp only [Graph.IsInput, Graph.node?_ofNodes_eq_some_iff hids, and_assoc]
  refine exists_mem_iff_of_forall₂ ?_ hns
  rintro l n ⟨changes, h⟩
  simp only [h.id_eq, ← List.mem_map, h.map_id_inputs_eq]

/-- The nodes that are described by the layers form a well-formed graph with the edges exactly if
the ports of each layer are distinct, the edges join ports of layers, and no two enter the same. -/
theorem wellFormed_ofNodes_iff
    (hns : List.Forall₂ (fun l n => ∃ changes, Layer.Describes l changes n) d.layers ns)
    (hids : (ns.map Node.id).Nodup) :
    (Graph.ofNodes d.name d.version ns d.edges).WellFormed ↔
      (∀ l ∈ d.layers, (l.inputs.map Port.id).Nodup ∧ (l.outputs.map Port.id).Nodup) ∧
      (∀ e ∈ d.edges, d.IsOutput e.source ∧ d.IsInput e.target) ∧
      (d.edges.map Edge.target).Nodup := by
  have hstored : ∀ {id n}, (Graph.ofNodes d.name d.version ns d.edges).node? id = some n ↔
      n ∈ ns ∧ n.id = id := Graph.node?_ofNodes_eq_some_iff hids
  -- a node has the ports of its layer, whatever was changed in it
  have hports : (∀ l ∈ d.layers, (l.inputs.map Port.id).Nodup ∧ (l.outputs.map Port.id).Nodup) ↔
      ∀ n ∈ ns, (n.inputs.map InputPort.id).Nodup ∧ (n.outputs.map OutputPort.id).Nodup := by
    refine forall_mem_iff_of_forall₂ ?_ hns
    rintro l n ⟨changes, h⟩
    rw [h.map_id_inputs_eq, h.map_id_outputs_eq]
  simp only [hports, ← isOutput_ofNodes_iff hns hids, ← isInput_ofNodes_iff hns hids]
  constructor
  · intro hwf
    refine ⟨fun n hn => ?_, fun e he => ?_, hwf.nodup_targets⟩
    · have hn' := hstored.2 ⟨hn, rfl⟩
      exact ⟨hwf.nodup_inputs _ n hn', hwf.nodup_outputs _ n hn'⟩
    · exact ⟨hwf.isOutput_source e he, hwf.isInput_target e he⟩
  · rintro ⟨hnodup, hends, htargets⟩
    constructor
    case id_eq => exact fun id n hn => (hstored.1 hn).2
    case nodup_inputs => exact fun id n hn => (hnodup n (hstored.1 hn).1).1
    case nodup_outputs => exact fun id n hn => (hnodup n (hstored.1 hn).1).2
    case isOutput_source => exact fun e he => (hends e he).1
    case isInput_target => exact fun e he => (hends e he).2
    case nodup_targets => exact htargets
    case feeds_eq => rfl

/-- The nodes made by layers are described by them and have their numbers. -/
theorem describes_of_makes (hns : List.Forall₂ (Layer.Makes registry.extend) d.layers ns) :
    List.Forall₂ (fun l n => ∃ changes, Layer.Describes l changes n) d.layers ns ∧
      ns.map Node.id = d.layers.map Layer.id := by
  have hdescribes : List.Forall₂ (fun l n => ∃ changes, Layer.Describes l changes n)
      d.layers ns := by
    refine hns.imp fun l n hmakes => ?_
    obtain ⟨m, -, hn⟩ := hmakes.exists_describes
    exact ⟨_, hn⟩
  refine ⟨hdescribes, map_eq_map_of_forall₂ (hdescribes.imp ?_)⟩
  rintro l n ⟨changes, hn⟩
  exact hn.id_eq

/-- What builds a graph is well formed. -/
theorem wellFormed_of_build (hg : d.build registry = .ok g) : d.WellFormed := by
  obtain ⟨ns, hns, hids, rfl, hwf⟩ := buildWith_eq_ok_iff.1 hg
  obtain ⟨hdescribes, hmap⟩ := describes_of_makes hns
  obtain ⟨hports, hends, htargets⟩ := (wellFormed_ofNodes_iff hdescribes hids).1 hwf
  refine ⟨hmap ▸ hids, fun l hl => ?_, fun e he => (hends e he).1, fun e he => (hends e he).2,
    htargets⟩
  obtain ⟨n, -, m, hm, -⟩ := exists_mem_of_forall₂ hns l hl
  obtain ⟨hinputs, houtputs⟩ := Layer.exists_node_iff.1 ⟨m, hm⟩
  refine ⟨(hports l hl).1, (hports l hl).2, ?_, fun p hp => (houtputs p hp).2⟩
  exact List.forall_mem_append.2 ⟨hinputs, fun p hp => (houtputs p hp).1⟩

/-- A well-formed document builds a graph, whatever the registry holds. -/
theorem WellFormed.exists_build (hd : d.WellFormed) (registry : Registry) :
    ∃ g, d.build registry = .ok g := by
  have hmakes : ∀ l ∈ d.layers, ∃ n, l.Makes registry.extend n := by
    intro l hl
    obtain ⟨-, -, hdims, hprecision⟩ := hd.layers l hl
    obtain ⟨hinputs, houtputs⟩ := List.forall_mem_append.1 hdims
    obtain ⟨m, hm⟩ := Layer.exists_node_iff.2
      ⟨hinputs, fun p hp => ⟨houtputs p hp, hprecision p hp⟩⟩
    exact ⟨_, m, hm, rfl⟩
  obtain ⟨ns, hns⟩ := exists_forall₂_iff.2 hmakes
  obtain ⟨hdescribes, hmap⟩ := describes_of_makes hns
  have hids : (ns.map Node.id).Nodup := hmap ▸ hd.nodup_ids
  refine ⟨_, buildWith_eq_ok_iff.2 ⟨ns, hns, hids, rfl, ?_⟩⟩
  refine (wellFormed_ofNodes_iff hdescribes hids).2
    ⟨fun l hl => ?_, fun e he => ?_, hd.nodup_targets⟩
  · exact ⟨(hd.layers l hl).nodup_inputs, (hd.layers l hl).nodup_outputs⟩
  · exact ⟨hd.isOutput_source e he, hd.isInput_target e he⟩

/-- A document builds a graph, with any registry of extenders, exactly if it is well formed. The
graph has the name and version of the document, its edges in their order, and one node for each
layer. This node is what the layer says, up to the changes that the extender of its operator type
makes when it is shown the node that is just what the layer says. -/
theorem build_ok_iff_wellFormed (d : Document) (registry : Registry) :
    ((∃ g, d.build registry = .ok g) ↔ d.WellFormed) ∧
    ∀ g, d.build registry = .ok g →
      g.name = d.name ∧ g.version = d.version ∧ g.edges = d.edges ∧
      g.nodeIds.Perm (d.layers.map Layer.id) ∧
      ∀ l ∈ d.layers, ∃ m n, l.Describes [] m ∧ g.node? l.id = some n ∧
        l.Describes (registry.amendments m) n := by
  constructor
  · constructor
    · rintro ⟨g, hg⟩
      exact wellFormed_of_build hg
    · intro hd
      exact hd.exists_build registry
  · intro g hg
    obtain ⟨ns, hns, hids, rfl, -⟩ := buildWith_eq_ok_iff.1 hg
    refine ⟨rfl, rfl, rfl, ?_, fun l hl => ?_⟩
    · rw [← (describes_of_makes hns).2]
      exact Graph.nodeIds_ofNodes_perm hids
    · obtain ⟨n, hn, hmakes⟩ := exists_mem_of_forall₂ hns l hl
      obtain ⟨m, hm, hdescribes⟩ := hmakes.exists_describes
      refine ⟨m, n, hm, ?_, hdescribes⟩
      exact (Graph.node?_ofNodes_eq_some_iff hids).2 ⟨hn, hdescribes.id_eq⟩

/-- A graph input whose datum is kept as text, and a recurrent layer. -/
def described : Document where
  name := "described"
  layers :=
    [⟨6, "x", "Parameter", some "opset1", .ofList [("shape", .list [.int 1, .text "?"])],
        [], [⟨0, some "fp32", some [1, -1]⟩]⟩,
      ⟨2, "y", "GRUSequence", none, .ofList [("hidden_size", .int 16)],
        [⟨0, some "unknown", none⟩], [⟨7, some "F16", some [1, 16]⟩]⟩]
  edges := [⟨⟨6, 0⟩, ⟨2, 0⟩⟩]

/-- A document of two layers, and what becomes of one of them. -/
theorem exists_build_described :
    described.WellFormed ∧
    ∃ g n, described.build .builtin = .ok g ∧ g.nodeIds.Perm [6, 2] ∧ g.node? 2 = some n ∧
      n.attribute? "hidden_size" = some "16" ∧ n.strategy = .recorded ∧
      n.inputs.map InputPort.id = [0] ∧ n.outputs.map OutputPort.id = [7] := by
  obtain ⟨hiff, hbuilt⟩ := build_ok_iff_wellFormed described .builtin
  have hwf : described.WellFormed := by decide +kernel
  obtain ⟨g, hg⟩ := hiff.2 hwf
  obtain ⟨-, -, -, hids, hnodes⟩ := hbuilt g hg
  obtain ⟨m, n, hm, hn, hdescribes⟩ := hnodes _ (List.mem_cons_of_mem _ List.mem_cons_self)
  have hchanges : Registry.builtin.amendments m = [.setStrategy .recorded] := by
    rw [Registry.amendments, hm.opType_eq]
    rfl
  rw [hchanges] at hdescribes
  exact ⟨hwf, g, n, hg, hids, hn, hdescribes.attribute?_eq _, hdescribes.strategy_eq,
    hdescribes.map_id_inputs_eq, hdescribes.map_id_outputs_eq⟩

end Graphs

end Document

end OpGraph
