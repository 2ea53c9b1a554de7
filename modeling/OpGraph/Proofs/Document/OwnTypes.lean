import OpGraph.Proofs.Document.Offence
import OpGraph.Proofs.Document.Recurrent
import OpGraph.Proofs.Inference.Fallback
import OpGraph.Proofs.Registry.Builtin

/-!
# A document sees the extenders of its own operator types

To build a document each layer looks up the extender of its operator type, and nothing else is asked
of a registry. Collecting an inventory does not change the extender of a tag that has one, so it
makes no difference to documents without the types that it adds, nor to the layers of builtin types
in any document.
-/

namespace OpGraph

namespace Registry

variable {r r' : Registry} {offers : List Offer} {tags : List String} {n : Node}

/-- The registries have the same extenders for the given tags. -/
def AgreesOn (r r' : Registry) (tags : List String) : Prop := ∀ tag ∈ tags, r.get? tag = r'.get? tag

/-- What becomes of a node depends on the extender of its type only. -/
theorem extend_congr (h : r.get? n.opType = r'.get? n.opType) : r.extend n = r'.extend n := by
  rw [extend, extend, extend?, extend?, h]

/-- Collecting an inventory changes nothing for the tags that have an extender, nor for those that
the inventory does not offer. -/
theorem agreesOn_collectOffers
    (htags : ∀ tag ∈ tags, ∀ o ∈ offers, o.tag = tag → tag ∈ r.opTypes) :
    (r.collectOffers offers).AgreesOn r tags := by
  intro tag htag
  rw [get?_collectOffers]
  cases hx : r.get? tag with
  | some x => rfl
  | none =>
    have hfree : tag ∉ r.opTypes := by
      rw [mem_opTypes_iff, hx]
      exact fun ⟨_, hx⟩ => Option.some_ne_none _ hx.symm
    rw [Option.none_or, firstOffer?, Option.map_eq_none_iff, List.find?_eq_none]
    intro o ho heq
    exact hfree (htags tag htag o ho (eq_of_beq heq))

end Registry

namespace Graph

variable {h h' : Graph} {options : InferOptions} {id : NodeId} {n n' : Node}

/-- If two settled graphs have the same node but for its shapes, and its strategy does not look at
the inputs, then its shapes are the same too. -/
theorem Settled.node_eq (hsettled : h.Settled options) (hsettled' : h'.Settled options)
    (hn : h.node? id = some n) (hn' : h'.node? id = some n')
    (hframe : n'.withoutShapes = n.withoutShapes)
    (hreads : (n.effectiveStrategy options.fallbackToRecorded).readsInputs = false) : n' = n := by
  have hstrategy : n'.strategy = n.strategy := (congrArg Node.strategy hframe :)
  obtain ⟨shapes, hshapes, houtputs⟩ := hsettled id n hn
  obtain ⟨shapes', hshapes', houtputs'⟩ := hsettled' id n' hn'
  obtain ⟨inputs, hinputs, -, hrule, -⟩ := shapesOf_eq_ok_iff.1 hshapes
  obtain ⟨inputs', hinputs', -, hrule', -⟩ := shapesOf_eq_ok_iff.1 hshapes'
  rw [Node.effectiveStrategy_congr hstrategy] at hinputs' hrule'
  simp only [hreads, Bool.false_eq_true, if_false] at hinputs hinputs'
  rw [Node.inferShapes_congr hframe, hinputs', ← hinputs, hrule] at hrule'
  obtain rfl := Except.ok.inj hrule'
  exact Node.eq_of_withoutShapes hframe (houtputs'.trans houtputs.symm)

end Graph

namespace Document

variable {d : Document} {l : Layer} {r r' : Registry} {g : Graph} {m : Node}
  {extend extend' : Node → Node}

/-- The operator types that occur in a document. -/
def opTypes (d : Document) : List String := d.layers.map Layer.opType

theorem Layer.opType_eq_of_node (hm : l.node = .ok m) : m.opType = l.opType :=
  (node_eq_ok_iff_describes.1 hm).opType_eq

/-- What a document builds depends only on what becomes of its nodes. -/
theorem buildWith_congr (h : ∀ l ∈ d.layers, ∀ m, l.node = .ok m → extend m = extend' m) :
    d.buildWith extend = d.buildWith extend' := by
  have hlayers : ∀ g, d.layers.foldlM (Layer.addTo extend) g =
      d.layers.foldlM (Layer.addTo extend') g := by
    refine foldlM_congr fun l hl g => ?_
    rw [Layer.addTo, Layer.addTo]
    cases hm : l.node with
    | error err => rfl
    | ok m =>
      show (g.addNode (extend m)).mapError _ = (g.addNode (extend' m)).mapError _
      rw [h l hl m hm]
  rw [buildWith, buildWith, hlayers]

/-- A document sees the extenders of its own operator types only. -/
theorem build_congr (h : r.AgreesOn r' d.opTypes) : d.build r = d.build r' := by
  refine buildWith_congr fun l hl m hm => Registry.extend_congr ?_
  rw [Layer.opType_eq_of_node hm]
  exact h _ (List.mem_map_of_mem hl)

/-- In the graph that is built a layer has the node that is read from it, as its extender leaves
it. -/
theorem exists_extend_of_build (hg : d.build r = .ok g) (hl : l ∈ d.layers) :
    ∃ m, l.node = .ok m ∧ g.node? l.id = some (r.extend m) := by
  obtain ⟨ns, hns, hids, rfl, -⟩ := buildWith_eq_ok_iff.1 hg
  obtain ⟨n, hn, m, hm, rfl⟩ := exists_mem_of_forall₂ hns l hl
  have hid : (r.extend m).id = l.id := by
    rw [Registry.extend_eq]
    exact (Layer.node_eq_ok_iff_describes.1 hm).id_eq
  exact ⟨m, hm, (Graph.node?_ofNodes_eq_some_iff hids).2 ⟨hn, hid⟩⟩

section Layers

variable {h h' : Graph} {g' : Graph} {report report' : InferReport} {options : InferOptions}
  {offers : List Offer}

/-- It makes no difference to the layer which of the two registries a document is built with. -/
structure Layer.TreatedAlike (l : Layer) (d : Document) (r r' : Registry) : Prop where
  -- the document is refused for the same reasons
  refused_iff : ∀ err, d.build r = .error err ↔ d.build r' = .error err
  -- the layer has the same node before inference
  built : ∀ g g', d.build r = .ok g → d.build r' = .ok g' → g'.node? l.id = g.node? l.id
  -- and after it, with the same shapes
  restored : ∀ options h report h' report', d.Restores r options h report →
    d.Restores r' options h' report' → h'.node? l.id = h.node? l.id

/-- The node of a layer whose type has the same extender in both registries is the same in both
graphs, even if other layers differ. -/
theorem Layer.node?_eq_of_build (hl : l ∈ d.layers) (hr : r.get? l.opType = r'.get? l.opType)
    (hg : d.build r = .ok g) (hg' : d.build r' = .ok g') : g'.node? l.id = g.node? l.id := by
  obtain ⟨m, hm, hn⟩ := exists_extend_of_build hg hl
  obtain ⟨m', hm', hn'⟩ := exists_extend_of_build hg' hl
  obtain rfl := Except.ok.inj (hm.symm.trans hm')
  rw [← opType_eq_of_node hm] at hr
  rw [hn, hn', Registry.extend_congr hr]

/-- The strategies that the builtin extenders set do not look at inputs, and no option changes
them. -/
theorem readsInputs_extend_builtin (hm : m.opType ∈ Registry.builtin.opTypes) (fallback : Bool) :
    ((Registry.builtin.extend m).effectiveStrategy fallback).readsInputs = false := by
  have hstrategy := Registry.strategy_extend_builtin hm
  by_cases htype : m.opType = "Parameter"
  · rw [if_pos htype] at hstrategy
    simp [Node.effectiveStrategy, hstrategy, Strategy.readsInputs]
  · rw [if_neg htype] at hstrategy
    simp [Node.effectiveStrategy, hstrategy, Strategy.readsInputs]

/-- Registries that have the builtin extender of the layer's type make no difference to the
layer. -/
theorem Layer.treatedAlike (hl : l ∈ d.layers) (htype : l.opType ∈ Registry.builtin.opTypes)
    (hr : r.get? l.opType = Registry.builtin.get? l.opType) : l.TreatedAlike d r .builtin where
  refused_iff err := by rw [build_eq_error_iff, build_eq_error_iff]
  built g g' hg hg' := node?_eq_of_build hl hr hg hg'
  restored options h report h' report' hd hd' := by
    obtain ⟨g, hg, hframe, hsettled⟩ := hd.exists_settled
    obtain ⟨g', hg', hframe', hsettled'⟩ := hd'.exists_settled
    obtain ⟨m, hm, hm'⟩ := exists_extend_of_build hg' hl
    obtain ⟨n', hn', hnm'⟩ := hframe'.exists_node? hm'
    obtain ⟨n, hn, hnm⟩ := hframe.exists_node? ((node?_eq_of_build hl hr hg hg').symm.trans hm')
    have hstrategy : n.strategy = (Registry.builtin.extend m).strategy :=
      (congrArg Node.strategy hnm :)
    have hreads : (n.effectiveStrategy options.fallbackToRecorded).readsInputs = false := by
      rw [Node.effectiveStrategy_congr hstrategy]
      exact readsInputs_extend_builtin (opType_eq_of_node hm ▸ htype) _
    rw [hn, hn', hsettled.node_eq hsettled' hn hn' (hnm'.trans hnm.symm) hreads]

end Layers

end Document

section Texts

variable {text : String}

/-- Whether the inventory is collected makes no difference to a text of a document that has no
operator type which the inventory adds. -/
theorem restoreGraph_congr {inventory : List Extender} {options : InferOptions}
    (htypes : ∀ d, Document.decode text = .ok d → ∀ tag ∈ d.opTypes, ∀ x ∈ inventory,
      x.opType = tag → tag ∈ Registry.builtin.opTypes) :
    restoreGraph inventory ⟨true, options⟩ text = restoreGraph inventory ⟨false, options⟩ text := by
  rw [restoreGraph, restoreGraph, readGraph, readGraph]
  cases hd : Document.decode text with
  | error fault => rfl
  | ok d =>
    have hbuild : d.build (Registry.builtin.collect inventory) = d.build .builtin := by
      refine Document.build_congr (Registry.agreesOn_collectOffers fun tag htag o ho heq => ?_)
      obtain ⟨x, hx, rfl⟩ := List.mem_map.1 ho
      exact htypes d hd tag htag x hx heq
    show (d.build (Registry.builtin.collect inventory)).mapError RestoreError.build >>= _ =
      (d.build .builtin).mapError RestoreError.build >>= _
    rw [hbuild]

end Texts

namespace Document

/-- A document is built alike with any two registries that have the same extenders for its operator
types. So for a document without the types that an inventory adds to the builtin ones, it makes no
difference whether the inventory is collected, neither to the graph that is built nor to what a text
is restored to, be it a graph with its report or an error. And in no document does it make a
difference to the layers of the builtin types. -/
theorem build_sees_own_types :
    (∀ (d : Document) (r r' : Registry), (∀ tag ∈ d.opTypes, r.get? tag = r'.get? tag) →
      d.build r = d.build r') ∧
    (∀ (d : Document) (offers : List Offer),
      (∀ tag ∈ d.opTypes, ∀ o ∈ offers, o.tag = tag → tag ∈ Registry.builtin.opTypes) →
      d.build (Registry.builtin.collectOffers offers) = d.build .builtin) ∧
    (∀ (inventory : List Extender) (options : InferOptions) (text : String),
      (∀ d, Document.decode text = .ok d → ∀ tag ∈ d.opTypes, ∀ x ∈ inventory, x.opType = tag →
        tag ∈ Registry.builtin.opTypes) →
      restoreGraph inventory ⟨true, options⟩ text = restoreGraph inventory ⟨false, options⟩ text) ∧
    Registry.builtin.opTypes = ["GRUSequence", "LSTMSequence", "Parameter", "RNNSequence"] ∧
    ∀ (d : Document) (offers : List Offer), ∀ l ∈ d.layers, l.opType ∈ Registry.builtin.opTypes →
      l.TreatedAlike d (Registry.builtin.collectOffers offers) .builtin := by
  refine ⟨fun d r r' h => build_congr h,
    fun d offers htypes => build_congr (Registry.agreesOn_collectOffers htypes),
    fun inventory options text => restoreGraph_congr, Registry.opTypes_builtin, ?_⟩
  intro d offers l hl htype
  refine Layer.treatedAlike hl htype ?_
  exact Registry.agreesOn_collectOffers (fun _ htag _ _ _ => htag) l.opType htype

/-- A text with a layer of a builtin type and a layer of a type that no extender is for. -/
def sequencedText : String :=
  "name: m\nlayers:\n- {id: 4, name: y, type: LSTMSequence, output: [{id: 1, dims: [2]}]}\n"
    ++ "- {id: 7, name: z, type: Relu, input: [{id: 0}]}\n"
    ++ "edges:\n- {from_layer: 4, from_port: 1, to_layer: 7, to_port: 0}\n"

/-- An inventory for another type and for a builtin one. The one layer that it changes stands before
a layer of the builtin type. -/
theorem build_sees_own_types_retained :
    restoreGraph rivals ⟨true, {}⟩ sequencedText = restoreGraph rivals ⟨false, {}⟩ sequencedText ∧
    ∃ h h' n, (retained (some [4])).Restores
        (Registry.builtin.collectOffers (rivals.map Extender.offer)) ⟨true, true⟩ h
        ⟨2, 2, 0, 0⟩ ∧
      (retained (some [4])).Restores .builtin ⟨true, true⟩ h' ⟨2, 2, 0, 1⟩ ∧
      h.node? 1 = some n ∧ h'.node? 1 = some n ∧ h'.node? 3 ≠ h.node? 3 := by
  obtain ⟨-, -, htext, -, halike⟩ := build_sees_own_types
  have hdecode : (Document.decode sequencedText).toOption.map opTypes =
      some ["LSTMSequence", "Relu"] := by decide +kernel
  constructor
  · refine htext rivals {} sequencedText fun d hd tag htag x hx hxtag => ?_
    rw [hd] at hdecode
    have htypes : d.opTypes = ["LSTMSequence", "Relu"] := Option.some.inj hdecode
    rw [htypes] at htag
    subst hxtag
    revert x
    decide
  · obtain ⟨h, hd, hn⟩ : ∃ h, (retained (some [4])).Restores
        (Registry.builtin.collectOffers (rivals.map Extender.offer)) ⟨true, true⟩ h ⟨2, 2, 0, 0⟩ ∧
        (h.node? 3).map Node.strategy = some .recorded := ⟨_, ⟨_, rfl, rfl⟩, rfl⟩
    obtain ⟨h', hd', n, hn', hn₀⟩ : ∃ h', (retained (some [4])).Restores .builtin ⟨true, true⟩ h'
        ⟨2, 2, 0, 1⟩ ∧ ∃ n, h'.node? 1 = some n ∧
        (h'.node? 3).map Node.strategy = some .unspecified :=
      ⟨_, ⟨_, rfl, rfl⟩, _, rfl, rfl⟩
    have hsame : h'.node? 1 = h.node? 1 :=
      (halike (retained (some [4])) (rivals.map Extender.offer) _
        (List.mem_cons_of_mem _ List.mem_cons_self) (by decide)).restored _ _ _ _ _ hd hd'
    refine ⟨h, h', n, hd, hd', hsame.symm.trans hn', hn', fun heq => ?_⟩
    rw [heq, hn] at hn₀
    cases hn₀

end Document

end OpGraph
