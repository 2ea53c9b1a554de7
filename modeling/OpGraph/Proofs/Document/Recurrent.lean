import OpGraph.Proofs.Document.Restoration

/-!
# Recurrent layers are restored as they were recorded

A recurrent network over a whole sequence has a builtin extender, which lets the node use its
recorded shapes. No inventory takes the place of a builtin extender, and no option changes the
strategy that the extender has set. So in every restored document the outputs of a recurrent layer
have the shapes of the recorded dimensions, and a document that lacks some of these cannot be
restored.
-/

namespace OpGraph

/-- The operator types of recurrent networks over whole sequences. -/
def recurrentTypes : List String := ["GRUSequence", "LSTMSequence", "RNNSequence"]

section Extenders

variable {inventory : List Extender} {config : Config} {tag : String} {x : Extender}

/-- Whether an inventory is collected or not, the builtin extenders are there. -/
theorem Config.get?_registry_of_builtin (hx : Registry.builtin.get? tag = some x) :
    (config.registry inventory).get? tag = some x := by
  rw [registry]
  split
  · rw [Registry.get?_collect, hx, Option.some_or]
  · exact hx

/-- Recurrent types have their builtin extender. -/
theorem Registry.get?_builtin_recurrent (htag : tag ∈ recurrentTypes) :
    builtin.get? tag = some (.sequence tag) := by
  simp only [recurrentTypes, List.mem_cons, List.not_mem_nil, or_false] at htag
  rcases htag with rfl | rfl | rfl <;> rfl

/-- The only change made to a recurrent node is that it uses its recorded shapes. -/
theorem Registry.amendments_recurrent {n : Node} (hn : n.opType ∈ recurrentTypes) :
    (config.registry inventory).amendments n = [.setStrategy .recorded] := by
  rw [amendments, Config.get?_registry_of_builtin (get?_builtin_recurrent hn)]
  rfl

end Extenders

/-- In a settled graph a node that uses its recorded shapes holds them. -/
theorem Graph.Settled.shape_eq_recorded {h : Graph} {options : InferOptions}
    {id : NodeId} {n : Node}
    (hsettled : h.Settled options) (hn : h.node? id = some n)
    (hstrategy : n.effectiveStrategy options.fallbackToRecorded = .recorded) :
    ∀ p ∈ n.outputs, ∃ s, p.recorded = some s ∧ p.shape = some s := by
  obtain ⟨shapes, hshapes, houtputs⟩ := hsettled id n hn
  obtain ⟨inputs, -, -, hrule, -⟩ := shapesOf_eq_ok_iff.1 hshapes
  rw [hstrategy] at hrule
  have hboth : List.Forall₂ (fun p s => p.recorded = some s ∧ p.shape = some s) n.outputs shapes :=
    List.Forall₂.mp (fun _ _ => And.intro) (Node.recordedShapes_eq_ok_iff.1 hrule)
      (outputShapes_eq_iff.1 houtputs)
  intro p hp
  obtain ⟨s, -, hs⟩ := exists_mem_of_forall₂ hboth p hp
  exact ⟨s, hs⟩

namespace Document

variable {d : Document} {l : Layer} {inventory : List Extender} {config : Config} {h : Graph}
  {report : InferReport}

/-- The output port has the shape that the recorded dimensions of the layer's port describe. -/
structure Port.RestoredAs (p : Port) (q : OutputPort) : Prop where
  id_eq : q.id = p.id
  shape : ∃ dims s, p.dims = some dims ∧ Shape.ofRecorded dims = .ok s ∧ q.shape = some s

/-- An output port that has its recorded shape as its shape is restored. -/
theorem Port.DescribesOutput.restoredAs {p : Port} {q : OutputPort} {s : Shape}
    (hpq : p.DescribesOutput { q with shape := none }) (hrecorded : q.recorded = some s)
    (hshape : q.shape = some s) : p.RestoredAs q := by
  obtain ⟨dims, hdims, hs⟩ := hpq.exists_dims hrecorded
  exact ⟨hpq.id_eq, dims, s, hdims, Shape.ofRecorded_eq_ok_iff.2 hs, hshape⟩

/-- In a restored document the ports of a recurrent layer are restored as they were recorded. -/
theorem Restores.recurrent
    (hd : d.Restores (config.registry inventory) config.infer h report) (hl : l ∈ d.layers)
    (htype : l.opType ∈ recurrentTypes) :
    ∃ n, h.node? l.id = some n ∧ List.Forall₂ Port.RestoredAs l.outputs n.outputs := by
  obtain ⟨m, n, hm, hn, hdescribes⟩ := hd.exists_node? hl
  rw [Registry.amendments_recurrent (hm.opType_eq ▸ htype)] at hdescribes
  have hstrategy : n.strategy = .recorded := hdescribes.strategy_eq
  obtain ⟨-, -, -, hsettled⟩ := hd.exists_settled
  have hheld := hsettled.shape_eq_recorded hn (by simp [Node.effectiveStrategy, hstrategy])
  refine ⟨n, hn, List.Forall₂.flip ?_⟩
  refine ((List.forall₂_and_left _ _).2 ⟨hheld, hdescribes.outputs_of_withoutShapes.flip⟩).imp ?_
  rintro q p ⟨⟨s, hrecorded, hshape⟩, hpq⟩
  exact Port.DescribesOutput.restoredAs hpq hrecorded hshape

/-- Let a document be restored with the builtin extenders and, if the configuration says so, those
of an inventory, and with any options of inference. Then the outputs of each recurrent layer have,
port by port, the shapes of the recorded dimensions of the layer. If an output port of a recurrent
layer has no recorded dimensions, then the document cannot be restored, whatever the inventory and
the configuration. -/
theorem restores_recurrent (d : Document) (inventory : List Extender) (config : Config) :
    (∀ h report, d.Restores (config.registry inventory) config.infer h report →
      ∀ l ∈ d.layers, l.opType ∈ recurrentTypes →
        ∃ n, h.node? l.id = some n ∧ List.Forall₂ Port.RestoredAs l.outputs n.outputs) ∧
    ((∃ l ∈ d.layers, l.opType ∈ recurrentTypes ∧ ∃ p ∈ l.outputs, p.dims = none) →
      ∀ h report, ¬ d.Restores (config.registry inventory) config.infer h report) := by
  constructor
  · intro h report hd l hl htype
    exact hd.recurrent hl htype
  · rintro ⟨l, hl, htype, p, hp, hdims⟩ h report hd
    obtain ⟨n, -, hports⟩ := hd.recurrent hl htype
    obtain ⟨q, -, hpq⟩ := exists_mem_of_forall₂ hports p hp
    obtain ⟨dims, s, hsome, -⟩ := hpq.shape
    rw [hdims] at hsome
    cases hsome

/-- A layer that only an inventory knows, and a recurrent layer with two outputs behind it. -/
def retained (dims : Option (List Int64)) : Document where
  name := "retained"
  layers :=
    [⟨3, "x", "Gelu", none, .empty, [], [⟨0, none, some [5, -1]⟩]⟩,
      ⟨1, "y", "LSTMSequence", none, .empty, [⟨0, none, some [5, 7]⟩],
        [⟨1, none, some [2, -1]⟩, ⟨0, none, dims⟩]⟩]
  edges := [⟨⟨3, 0⟩, ⟨1, 0⟩⟩]

/-- An inventory with an extender for a recurrent type. -/
def rivals : List Extender :=
  [.constant "LSTMSequence" [.setStrategy .identity], .constant "Gelu" [.setStrategy .recorded]]

/-- A recurrent layer is restored with what is recorded, although an inventory offers another
extender for its type, and is not restored if nothing is recorded. -/
theorem restores_retained_recurrent :
    (∃ h n, (retained (some [4])).Restores (Config.registry ⟨true, ⟨true, true⟩⟩ rivals)
        ⟨true, true⟩ h ⟨2, 2, 0, 0⟩ ∧ h.node? 1 = some n ∧
      List.Forall₂ Port.RestoredAs [⟨1, none, some [2, -1]⟩, ⟨0, none, some [4]⟩] n.outputs) ∧
    ∀ h report, ¬ (retained none).Restores (Config.registry ⟨true, ⟨true, true⟩⟩ rivals)
      ⟨true, true⟩ h report := by
  obtain ⟨hkept, -⟩ := restores_recurrent (retained (some [4])) rivals ⟨true, ⟨true, true⟩⟩
  obtain ⟨-, hlacking⟩ := restores_recurrent (retained none) rivals ⟨true, ⟨true, true⟩⟩
  obtain ⟨h, hd⟩ : ∃ h, (retained (some [4])).Restores
      (Config.registry ⟨true, ⟨true, true⟩⟩ rivals) ⟨true, true⟩ h ⟨2, 2, 0, 0⟩ := ⟨_, _, rfl, rfl⟩
  obtain ⟨n, hn, hports⟩ := hkept h _ hd _ (List.mem_cons_of_mem _ List.mem_cons_self) (by decide)
  refine ⟨⟨h, n, hd, hn, hports⟩, hlacking ⟨_, List.mem_cons_of_mem _ List.mem_cons_self, ?_⟩⟩
  exact ⟨by decide, _, List.mem_cons_of_mem _ List.mem_cons_self, rfl⟩

end Document

end OpGraph
