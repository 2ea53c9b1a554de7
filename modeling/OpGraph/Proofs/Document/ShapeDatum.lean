import OpGraph.Proofs.Document.Recurrent
import OpGraph.Proofs.Inference.Attribute
import OpGraph.Proofs.Shape.Grammar

/-!
# Shapes listed as data

The shape of a graph input or of a constant is a datum of its layer. Where that is a list of
integers, it is kept as text and read again when shapes are inferred, but the same integers at a
port are decoded as they are. Both ways give the same shape or blame the same integer. So inference
gives the layer what would be recorded at a port with these dimensions, and refuses the datum
exactly where they would be refused.
-/

namespace OpGraph

namespace Datum

theorem renderAll_eq_map (items : List Datum) : renderAll items = items.map render := by
  induction items with
  | nil => rw [renderAll, List.map_nil]
  | cons item items ih => rw [renderAll, List.map_cons, ih]

theorem toList_render_ints (xs : List Int64) : (list (xs.map int)).render.toList =
    [','].intercalate (xs.map fun x => (Int.repr x.toInt).toList) := by
  simp [render, renderAll_eq_map, Function.comp_def]

/-- A list of integers is read from its text as recorded dimensions are. -/
theorem parse_render_ints (xs : List Int64) :
    Shape.parse (list (xs.map int)).render = Shape.ofRecorded xs := by
  have hne : [] ∉ xs.map fun x => (Int.repr x.toInt).toList := by
    intro hnil
    obtain ⟨x, -, hx⟩ := List.mem_map.1 hnil
    exact (Numeral.denotes_repr x.toInt).ne_nil hx
  have hplain : ∀ item ∈ xs.map fun x => (Int.repr x.toInt).toList, ∀ c ∈ item, Text.IsPlain c := by
    intro item hitem c hc
    obtain ⟨x, -, rfl⟩ := List.mem_map.1 hitem
    exact (Numeral.denotes_repr x.toInt).isPlain hc
  have hdim : ∀ x ∈ xs, (Dim.parse ∘ fun x : Int64 => (Int.repr x.toInt).toList) x =
      Dim.ofRecorded x := by
    intro x _
    have hrepr := Numeral.denotes_repr x.toInt
    apply Dim.parse_of_denotes
    rwa [Text.trim_eq_self fun c hc => (hrepr.isPlain hc).1]
  rw [Shape.parse, toList_render_ints, (Shape.wraps_self _).parseChars_eq hne hplain, List.mapM_map,
    mapM_congr hdim]
  rfl

end Datum

/-- The operator types of layers whose shape is a datum. -/
def attributeTypes : List String := ["Parameter", "Const"]

section Extenders

variable {registry : Registry} {inventory : List Extender} {config : Config}
  {tag : String} {n : Node}

/-- The change does not set the attribute `shape`, nor a strategy other than to look there. -/
def Amendment.KeepsShape (a : Amendment) : Prop :=
  (∀ s ∈ a.strategy?, s = .fromAttribute) ∧ a.value? "shape" = none

/-- The extender leaves the shape of any node to the attribute `shape`, and that as it is. -/
def Extender.KeepsShape (x : Extender) : Prop := ∀ n, ∀ a ∈ x.amendments n, a.KeepsShape

theorem Extender.keepsShape_parameter : parameter.KeepsShape := by
  intro n a ha
  rcases List.mem_append.1 ha with helement | hstrategy
  · split at helement
    · obtain rfl := List.mem_singleton.1 helement
      exact ⟨nofun, rfl⟩
    · cases helement
  · obtain rfl := List.mem_singleton.1 hstrategy
    exact ⟨fun s hs => (Option.some.inj hs).symm, rfl⟩

/-- The builtin extenders leave the shapes of graph inputs and constants to their data, and so does
an inventory that does not know constants. -/
theorem Registry.keepsShape_of_config (hinventory : ∀ x ∈ inventory, x.opType ≠ "Const")
    (htag : tag ∈ attributeTypes) : ∀ x ∈ (config.registry inventory).get? tag, x.KeepsShape := by
  intro x hx
  simp only [attributeTypes, List.mem_cons, List.not_mem_nil, or_false] at htag
  rcases htag with rfl | rfl
  · rw [Config.get?_registry_of_builtin rfl] at hx
    obtain rfl := Option.some.inj hx
    exact Extender.keepsShape_parameter
  · have hnone : (config.registry inventory).get? "Const" = none := by
      have hbuiltin : builtin.get? "Const" = none := rfl
      rw [Config.registry]
      split
      · rw [get?_collect, hbuiltin, Option.none_or, List.find?_eq_none]
        intro y hy
        simpa using hinventory y hy
      · exact hbuiltin
    rw [hnone] at hx
    cases hx

/-- A registry whose extender for a node keeps the shape makes no change that does not. -/
theorem Registry.keepsShape_amendments (hx : ∀ x ∈ registry.get? n.opType, x.KeepsShape) :
    ∀ a ∈ registry.amendments n, a.KeepsShape := by
  rw [amendments]
  cases h : registry.get? n.opType with
  | none => exact List.forall_mem_nil _
  | some x => exact hx x h n

end Extenders

namespace Document

variable {d : Document} {l : Layer} {registry : Registry} {g : Graph} {m n : Node} {p : Port}
  {xs : List Int64} {changes : List Amendment}

section Layers

/-- A node of these types is visited by its attribute if its extender keeps the shape. -/
theorem Layer.Describes.strategy_eq_fromAttribute (h : l.Describes changes n)
    (htype : l.opType ∈ attributeTypes) (hchanges : ∀ a ∈ changes, a.KeepsShape) :
    n.strategy = .fromAttribute := by
  have htypes : ∀ t ∈ attributeTypes, Strategy.ofOpType t = .fromAttribute := by decide
  rw [h.strategy_eq, htypes _ htype]
  cases hlast : (changes.filterMap Amendment.strategy?).getLast? with
  | none => rfl
  | some s =>
    obtain ⟨a, ha, hs⟩ := List.mem_filterMap.1 (List.mem_of_getLast? hlast)
    exact (hchanges a ha).1 s hs

/-- The shape attribute is then the text of the datum of that name. -/
theorem Layer.Describes.attribute?_shape (h : l.Describes changes n)
    (hchanges : ∀ a ∈ changes, a.KeepsShape) :
    n.attribute? "shape" = (l.data.get? "shape").map Datum.render := by
  have hnone : changes.filterMap (Amendment.value? "shape") = [] :=
    List.filterMap_eq_nil_iff.2 fun a ha => (hchanges a ha).2
  rw [h.attribute?_eq, hnone]
  rfl

/-- Whether the dimensions of a port are recorded or refused is whether they can be decoded. -/
theorem Port.shape_of_dims (hp : p.dims = some xs) (layer : NodeId) :
    (∀ s, p.shape layer = .ok (some s) ↔ Shape.ofRecorded xs = .ok s) ∧
    ∀ e, p.shape layer = .error (.badDims layer p.id e) ↔ Shape.ofRecorded xs = .error e := by
  cases hs : Shape.ofRecorded xs <;> simp [shape, hp, hs]

/-- The layer is a graph input or a constant whose datum `shape` lists these integers, and its
extender, if it has one, leaves this as it is. -/
structure Layer.ListsShape (l : Layer) (registry : Registry) (xs : List Int64) : Prop where
  opType_mem : l.opType ∈ attributeTypes
  keepsShape : ∀ x ∈ registry.get? l.opType, x.KeepsShape
  datum : l.data.get? "shape" = some (.list (xs.map .int))

/-- The node of a layer with a list of integers as its shape has the text of this list in its
attribute. -/
theorem Layer.ListsShape.exists_node? (hl : l.ListsShape registry xs)
    (hg : d.build registry = .ok g) (hmem : l ∈ d.layers) :
    ∃ n, g.node? l.id = some n ∧ n.id = l.id ∧ n.strategy = .fromAttribute ∧
      n.attribute? "shape" = some (Datum.list (xs.map .int)).render := by
  obtain ⟨m, n, hm, hn, hdescribes⟩ := exists_node?_of_build hg hmem
  have hchanges : ∀ a ∈ registry.amendments m, a.KeepsShape := by
    apply Registry.keepsShape_amendments
    rw [hm.opType_eq]
    exact hl.keepsShape
  refine ⟨n, hn, hdescribes.id_eq, ?_, ?_⟩
  · exact hdescribes.strategy_eq_fromAttribute hl.opType_mem hchanges
  · rw [hdescribes.attribute?_shape hchanges, hl.datum]
    rfl

end Layers

section Runs

/-- What inference finds for the node of the layer is what would be recorded at the port, and what
it refuses would be refused there. -/
structure Layer.InferredAs (l : Layer) (g : Graph) (p : Port) : Prop where
  -- whatever the rule of the node is given, it has the shape of the port, or fails where that has
  -- none
  exists_rule : ∃ n, g.node? l.id = some n ∧ ∀ fallback inputs,
    (∀ shapes, n.inferShapes (n.effectiveStrategy fallback) inputs = .ok shapes ↔
      ∃ s, p.shape l.id = .ok (some s) ∧ shapes = n.onAllOutputs s) ∧
    ∀ err, n.inferShapes (n.effectiveStrategy fallback) inputs = .error err ↔
      ∃ e, p.shape l.id = .error (.badDims l.id p.id e) ∧
        err = .badAttribute l.id "shape" (.notAShape e)
  -- a run that succeeds leaves the shape of the port at all outputs
  exists_shape : ∀ options h report, g.inferShapes options = ⟨h, .ok report⟩ →
    ∃ n s, h.node? l.id = some n ∧ p.shape l.id = .ok (some s) ∧ ∀ q ∈ n.outputs, q.shape = some s
  -- a run refuses an attribute of the node exactly if it gets there and the port has no shape
  refused_iff : ∀ options key fault,
    (g.inferShapes options).result = .error (.badAttribute l.id key fault) ↔
      g.GetsTo options l.id ∧ ∃ e, p.shape l.id = .error (.badDims l.id p.id e) ∧
        key = "shape" ∧ fault = .notAShape e

/-- So the shape is that of the list, decoded as recorded dimensions are. -/
theorem Layer.ListsShape.inferredAs (hl : l.ListsShape registry xs) (hg : d.build registry = .ok g)
    (hmem : l ∈ d.layers) (hp : p.dims = some xs) : l.InferredAs g p := by
  obtain ⟨n, hn, hid, hstrategy, htext⟩ := hl.exists_node? hg hmem
  obtain ⟨hrecorded, hrefused⟩ := p.shape_of_dims hp l.id
  have hwf : g.WellFormed := wellFormed_of_buildWith hg
  -- the rule parses the joined text, and this refuses the same item as the dims are refused for
  have herror : ∀ err, n.attributeShapes = .error err ↔
      ∃ e, p.shape l.id = .error (.badDims l.id p.id e) ∧
        err = .badAttribute l.id "shape" (.notAShape e) := by
    intro err
    simp only [Node.attributeShapes_eq_error_iff htext, Datum.parse_render_ints, hrefused, hid]
  constructor
  case exists_rule =>
    refine ⟨n, hn, fun fallback inputs => ?_⟩
    rw [Node.effectiveStrategy_of_fromAttribute hstrategy]
    refine ⟨fun shapes => ?_, herror⟩
    show n.attributeShapes = .ok shapes ↔ _
    simp [Node.attributeShapes_eq_ok_iff, htext, Datum.parse_render_ints, hrecorded]
  case exists_shape =>
    intro options h report hrun
    obtain ⟨-, hframe, hsettled, -⟩ := hwf.inferShapes_eq_ok_iff.1 hrun
    obtain ⟨m, hm, hmn⟩ := hframe.exists_node? hn
    have hmstrategy : m.strategy = .fromAttribute := (congrArg Node.strategy hmn).trans hstrategy
    have hmtext : m.attribute? "shape" = n.attribute? "shape" :=
      (congrArg (Node.attribute? · "shape") hmn :)
    obtain ⟨text, s, htext', hs, houtputs⟩ := hsettled.shape_eq_of_attribute hm hmstrategy
    rw [hmtext, htext] at htext'
    obtain rfl := Option.some.inj htext'
    rw [Datum.parse_render_ints] at hs
    exact ⟨m, s, hm, (hrecorded s).2 hs, houtputs⟩
  case refused_iff =>
    intro options key fault
    rw [hwf.result_eq_badAttribute_iff hn hstrategy, herror]
    simp

/-- The text of a list of integers is read as these integers are decoded where they are recorded,
and the first of them that is too small is blamed. So for a graph input or a constant whose datum
`shape` is such a list, inference finds the shape that a port with these dimensions would record,
and it refuses the datum exactly where they would be refused. -/
theorem shapeDatum_inferredAs :
    (∀ xs : List Int64, Shape.parse (Datum.list (xs.map .int)).render = Shape.ofRecorded xs ∧
      ∀ err, Shape.ofRecorded xs = .error err ↔ ∃ before value after,
        xs = before ++ value :: after ∧ (∀ v ∈ before, -1 ≤ v.toInt) ∧ value.toInt < -1 ∧
          err = .negativeDim value) ∧
    ∀ (d : Document) (registry : Registry) (g : Graph) (l : Layer) (xs : List Int64) (p : Port),
      d.build registry = .ok g → l ∈ d.layers → l.ListsShape registry xs → p.dims = some xs →
        l.InferredAs g p := by
  refine ⟨fun xs => ⟨Datum.parse_render_ints xs, fun err => Shape.ofRecorded_eq_error_iff⟩, ?_⟩
  intro d registry g l xs p hg hmem hl hp
  exact hl.inferredAs hg hmem hp

/-- A graph input of which the shape is listed. -/
def listedInput : Layer :=
  ⟨6, "x", "Parameter", none,
    .ofList [("precision", .text "FP16"), ("shape", .list [.int 2, .int (-1)])],
    [], [⟨0, none, none⟩, ⟨1, none, some [3]⟩]⟩

/-- A constant with two listed integers that are too small. -/
def listedConstant : Layer :=
  ⟨9, "y", "Const", none, .ofList [("shape", .list [.int 3, .int (-7), .int (-9)])], [], []⟩

/-- Two layers with a list as their shape, of which the second has a bad one. -/
def listed : Document where
  name := "listed"
  layers := [listedConstant, listedInput]

/-- The first layer has its shape by the rule, and a run fails at the second. -/
theorem shapeDatum_inferredAs_listed :
    ∃ g, listed.build (Config.registry ⟨true, {}⟩ rivals) = .ok g ∧
      (∃ n, g.node? 6 = some n ∧ n.inferShapes (n.effectiveStrategy false) [] =
        .ok (n.onAllOutputs ⟨[.fixed 2, .dynamic]⟩)) ∧
      (g.inferShapes {}).result =
        .error (.badAttribute 9 "shape" (.notAShape (.negativeDim (-7)))) := by
  obtain ⟨-, hinferred⟩ := shapeDatum_inferredAs
  have hinventory : ∀ x ∈ rivals, x.opType ≠ "Const" := by decide
  obtain ⟨g, hg⟩ : ∃ g, listed.build (Config.registry ⟨true, {}⟩ rivals) = .ok g := ⟨_, rfl⟩
  have hinput : listedInput.InferredAs g ⟨0, none, some [2, -1]⟩ := by
    refine hinferred listed _ g listedInput [2, -1] _ hg (by simp [listed]) ⟨by decide, ?_, rfl⟩ rfl
    exact Registry.keepsShape_of_config hinventory (by decide)
  have hconstant : listedConstant.InferredAs g ⟨0, none, some [3, -7, -9]⟩ := by
    refine hinferred listed _ g listedConstant [3, -7, -9] _ hg (by simp [listed])
      ⟨by decide, ?_, rfl⟩ rfl
    exact Registry.keepsShape_of_config hinventory (by decide)
  refine ⟨g, hg, ?_, ?_⟩
  · obtain ⟨n, hn, hrule⟩ := hinput.exists_rule
    exact ⟨n, hn, ((hrule false []).1 _).2 ⟨_, by decide, rfl⟩⟩
  · refine (hconstant.refused_iff {} _ _).2 ⟨?_, .negativeDim (-7), by decide, rfl, rfl⟩
    obtain rfl := Except.ok.inj hg
    exact ⟨[6], [], _, _, by decide, rfl⟩

end Runs

end Document

end OpGraph
