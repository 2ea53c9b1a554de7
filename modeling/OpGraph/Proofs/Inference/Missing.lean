import OpGraph.Proofs.Inference.Blame

/-!
# Missing inputs are missing edges

At the time a node is visited, every edge into it starts at a node that was visited before, and so
brings a shape. An input is missing only if no edge feeds it, and no comparison of an input that is
fed is left out for want of a shape. Shapes from earlier runs are of no influence.
-/

namespace OpGraph

/-- The port that is reported of a node that lacks an input: the first input that none of the edges
feeds, or port 0 where there is no input at all. -/
@[mk_iff]
inductive Node.Lacks (n : Node) (edges : List Edge) : PortId → Prop
  | unfed {before after : List InputPort} {p : InputPort} (hsplit : n.inputs = before ++ p :: after)
      (hfed : ∀ q ∈ before, ∃ e ∈ edges, e.target = ⟨n.id, q.id⟩)
      (hunfed : ∀ e ∈ edges, e.target ≠ ⟨n.id, p.id⟩) : Lacks n edges p.id
  | noInputs (hnone : n.inputs = []) : Lacks n edges 0

/-- The strategies that compute from arriving shapes. -/
theorem Strategy.readsInputs_iff {s : Strategy} :
    s.readsInputs = true ↔ s = .identity ∨ s = .broadcast := by
  cases s <;> simp [readsInputs]

namespace Node

variable {n : Node} {strategy : Strategy} {inputs : List Shape} {id : NodeId} {port : PortId}

/-- A rule misses an input only if it reads inputs and is given none. -/
theorem inferShapes_eq_missingInput_iff :
    n.inferShapes strategy inputs = .error (.missingInput id port) ↔
      (strategy = .identity ∨ strategy = .broadcast) ∧ n.lacksInput = .missingInput id port ∧
        inputs = [] := by
  -- one case for each rule, of which two need a first input
  cases strategy with
  | recorded =>
    refine iff_of_false (fun h => ?_) (by simp)
    obtain ⟨p, -, hfail⟩ := exists_mem_of_mapM_eq_error h
    split at hfail <;> cases hfail
  | identity => cases inputs <;> simp [inferShapes, identityShapes]
  | broadcast =>
    cases inputs with
    | nil => simp [inferShapes, broadcastShapes]
    | cons first rest =>
      cases hs : first.broadcastAll rest <;> simp [inferShapes, broadcastShapes, hs]
  | fromAttribute =>
    cases htext : n.attribute? "shape" with
    | none => simp [inferShapes, attributeShapes, htext]
    | some text => cases hs : Shape.parse text <;> simp [inferShapes, attributeShapes, htext, hs]
  | unspecified => simp [inferShapes]

end Node

namespace Graph

variable {g h : Graph} {options : InferOptions} {report : InferReport}
  {before after : List NodeId} {id : NodeId} {n : Node} {port : PortId}

section Fed

/-- Every edge into the node brings a shape. -/
def Fed (g : Graph) (id : NodeId) : Prop :=
  ∀ e ∈ g.edges, e.target.node = id → ∃ s, g.shapeAt? e.source = some s

/-- What arrives at an input has been found and agrees with the recorded shape. -/
def InputAgrees (g : Graph) (id : NodeId) (p : InputPort) : Prop :=
  ∀ r, p.recorded = some r → ∀ e ∈ g.edges, e.target = ⟨id, p.id⟩ →
    ∃ s, g.shapeAt? e.source = some s ∧ s.compatible r

/-- The first input of the node, in port order, at which the shape `s` arrives and contradicts the
recorded shape `r`. -/
def FirstDisagreement (g : Graph) (n : Node) (port : PortId) (s r : Shape) : Prop :=
  ∃ before p after, n.inputs = before ++ p :: after ∧ (∀ q ∈ before, g.InputAgrees n.id q) ∧
    p.id = port ∧ p.recorded = some r ∧
    (∃ e ∈ g.edges, e.target = ⟨n.id, p.id⟩ ∧ g.shapeAt? e.source = some s) ∧ ¬ s.compatible r

/-- Where every edge into a node brings a shape, something arrives at exactly the inputs with an
edge. -/
theorem exists_arriving?_iff (hg : g.WellFormed) (hfed : g.Fed id) :
    (∃ s, g.arriving? id port = some s) ↔ ∃ e ∈ g.edges, e.target = ⟨id, port⟩ := by
  simp only [arriving?_eq_some_iff_exists_edge hg]
  constructor
  · rintro ⟨s, e, he, htarget, -⟩
    exact ⟨e, he, htarget⟩
  · rintro ⟨e, he, htarget⟩
    obtain ⟨s, hs⟩ := hfed e he (by rw [htarget])
    exact ⟨s, e, he, htarget, hs⟩

/-- Where every edge into a node brings a shape, an input that agrees is one that is not
contradicted. -/
theorem inputAgrees_iff (hg : g.WellFormed) (hfed : g.Fed id) {p : InputPort} :
    g.InputAgrees id p ↔
      ∀ r s, p.recorded = some r → g.arriving? id p.id = some s → s.compatible r := by
  simp only [arriving?_eq_some_iff_exists_edge hg]
  constructor
  · rintro hagrees r s hr ⟨e, he, htarget, hs⟩
    obtain ⟨s', hs', hcompatible⟩ := hagrees r hr e he htarget
    obtain rfl : s = s' := Option.some.inj (hs.symm.trans hs')
    exact hcompatible
  · intro hcompatible r hr e he htarget
    obtain ⟨s, hs⟩ := hfed e he (by rw [htarget])
    exact ⟨s, hs, hcompatible r s hr ⟨e, he, htarget, hs⟩⟩

end Fed

section Visit

theorem gatherInputs_eq_nil_iff : g.gatherInputs n = .ok [] ↔ n.inputs = [] := by
  rw [gatherInputs_eq_ok_iff, List.forall₂_nil_right_iff]

/-- Where every edge into the node brings a shape, it lacks an input if gathering fails or finds
nothing. -/
theorem lacks_iff (hg : g.WellFormed) (hfed : g.Fed n.id) :
    n.Lacks g.edges port ↔
      g.gatherInputs n = .error (.missingInput n.id port) ∨
        g.gatherInputs n = .ok [] ∧ port = 0 := by
  have hnone : ∀ q, g.arriving? n.id q = none ↔ ∀ e ∈ g.edges, e.target ≠ ⟨n.id, q⟩ := by
    intro q
    rw [← Option.not_isSome_iff_eq_none, Option.isSome_iff_exists, exists_arriving?_iff hg hfed]
    simp
  simp only [Node.lacks_iff, gatherInputs_eq_error_iff, gatherInputs_eq_nil_iff, hnone,
    exists_arriving?_iff hg hfed, InferError.missingInput.injEq, true_and]
  refine or_congr_left (exists_congr fun before => ?_)
  exact exists_comm

/-- A visit finds an input missing exactly if the node reads its inputs and lacks one. -/
theorem shapesOf_eq_missingInput_iff (hg : g.WellFormed) (hfed : g.Fed n.id) :
    g.shapesOf options n = .error (.missingInput n.id port) ↔
      (n.effectiveStrategy options.fallbackToRecorded = .identity ∨
        n.effectiveStrategy options.fallbackToRecorded = .broadcast) ∧ n.Lacks g.edges port := by
  obtain ⟨fallback, verify⟩ := options
  have hplain : g.shapesOf ⟨fallback, false⟩ n = .error (.missingInput n.id port) ↔
      (n.effectiveStrategy fallback = .identity ∨ n.effectiveStrategy fallback = .broadcast) ∧
        n.Lacks g.edges port := by
    rw [shapesOf_of_not_verify, lacks_iff hg hfed, ← Strategy.readsInputs_iff]
    by_cases hreads : (n.effectiveStrategy fallback).readsInputs
    · simp only [hreads, if_true, bind_eq_error_iff, Node.inferShapes_eq_missingInput_iff,
        Strategy.readsInputs_iff.1 hreads, true_and, exists_eq_right_right]
      refine or_congr_right (and_congr_right fun hgather => ?_)
      simp [Node.lacksInput, gatherInputs_eq_nil_iff.1 hgather, eq_comm]
    · simp [hreads, Node.inferShapes_eq_missingInput_iff, ← Strategy.readsInputs_iff]
  cases verify with
  | false => exact hplain
  | true =>
    refine ⟨fun herr => hplain.1 (shapesOf_of_verify_error herr rfl), fun hlacks => ?_⟩
    -- what arrives is compared only where recorded shapes are taken, and no input is missed there
    have hcomputed : n.effectiveStrategy fallback ≠ .recorded := by
      rcases hlacks.1 with hstrategy | hstrategy <;> simp [hstrategy]
    exact (shapesOf_verify_eq_error_iff hcomputed rfl).2 (hplain.2 hlacks)

end Visit

section Comparison

variable {fallback : Bool} {r s : Shape}

/-- At a node whose inputs are fed, verification compares every input with what arrives there. -/
theorem checkInputs_eq_ok_iff_inputAgrees (hg : g.WellFormed) (hfed : g.Fed n.id) :
    g.checkInputs n = .ok () ↔ ∀ p ∈ n.inputs, g.InputAgrees n.id p := by
  simp only [checkInputs_eq_ok_iff, inputAgrees_iff hg hfed]

/-- Verification of inputs fails for the first of them that disagrees. -/
theorem checkInputs_eq_error_iff_firstDisagreement (hg : g.WellFormed) (hfed : g.Fed n.id) :
    g.checkInputs n = .error (.inputShapeMismatch n.id port s r) ↔
      g.FirstDisagreement n port s r := by
  simp only [checkInputs_eq_error_iff, FirstDisagreement, inputAgrees_iff hg hfed,
    ← arriving?_eq_some_iff_exists_edge hg]
  refine exists₃_congr fun before p after => and_congr_right fun _ => and_congr_right fun _ => ?_
  constructor
  · rintro ⟨_, _, hr, hs, hcontradicts, herr⟩
    obtain ⟨-, rfl, rfl, rfl⟩ := InferError.inputShapeMismatch.inj herr
    exact ⟨rfl, hr, hs, hcontradicts⟩
  · rintro ⟨rfl, hr, hs, hcontradicts⟩
    exact ⟨r, s, hr, hs, hcontradicts, rfl⟩

theorem shapesOf_of_recorded (hrecorded : n.effectiveStrategy fallback = .recorded) :
    g.shapesOf ⟨fallback, false⟩ n = n.recordedShapes := by
  simp [shapesOf_of_not_verify, hrecorded, Strategy.readsInputs, Node.inferShapes]

/-- Where recorded shapes are used, the visit succeeds if all inputs agree and all outputs have
recorded shapes. -/
theorem exists_visit_iff_inputAgrees (hg : g.WellFormed) (hn : g.node? id = some n)
    (hrecorded : n.effectiveStrategy fallback = .recorded) (hfed : g.Fed n.id) :
    (∃ next, g.visit ⟨fallback, true⟩ report id = .ok next) ↔
      (∀ p ∈ n.inputs, g.InputAgrees n.id p) ∧ ∀ p ∈ n.outputs, ∃ r, p.recorded = some r := by
  have houtputs : (∃ shapes, n.recordedShapes = .ok shapes) ↔
      ∀ p ∈ n.outputs, ∃ r, p.recorded = some r := by
    simp only [Node.recordedShapes_eq_ok_iff, exists_forall₂_iff]
  rw [exists_visit_iff_exists_shapesOf hn, shapesOf_verify_of_recorded hrecorded,
    shapesOf_of_recorded hrecorded, ← houtputs, ← checkInputs_eq_ok_iff_inputAgrees hg hfed]
  simp only [bind_eq_ok_iff]
  constructor
  · rintro ⟨shapes, ⟨⟩, hcheck, hshapes⟩
    exact ⟨hcheck, shapes, hshapes⟩
  · rintro ⟨hcheck, shapes, hshapes⟩
    exact ⟨shapes, (), hcheck, hshapes⟩

/-- Where recorded shapes are used, the visit blames the first input that does not agree. -/
theorem visit_eq_inputShapeMismatch_iff (hg : g.WellFormed) (hn : g.node? id = some n)
    (hrecorded : n.effectiveStrategy fallback = .recorded) (hfed : g.Fed n.id) :
    g.visit ⟨fallback, true⟩ report id = .error (.inputShapeMismatch n.id port s r) ↔
      g.FirstDisagreement n port s r := by
  rw [visit_eq_error_iff hn, shapesOf_verify_of_recorded hrecorded, bind_eq_error_iff,
    checkInputs_eq_error_iff_firstDisagreement hg hfed, or_iff_left]
  -- the outputs are looked at after the inputs, with another error
  rintro ⟨-, -, hfail⟩
  rw [shapesOf_of_recorded hrecorded] at hfail
  obtain ⟨p, -, hp⟩ := exists_mem_of_mapM_eq_error hfail
  split at hp <;> cases hp

end Comparison

section Run

/-- At every point of a run, the node that is next is as it was and the edges into it bring
shapes. -/
theorem WellFormed.fed_of_visitAll (hg : g.WellFormed)
    (hsort : g.topologicalOrder = .ok (before ++ id :: after))
    (hrun : visitAll options before g {} = ⟨h, .ok report⟩) :
    SameFrame g h ∧ h.node? id = g.node? id ∧ h.Fed id := by
  have horder : g.IsOrder (before ++ id :: after) := hg.isOrder_of_topologicalOrder hsort
  have hprogress := hg.progress_of_visitAll horder hrun
  refine ⟨hprogress.sameFrame, hprogress.untouched id (not_mem_of_nodup_split horder.nodup), ?_⟩
  intro e he htarget
  exact hprogress.exists_shapeAt?_source hg horder (hprogress.sameFrame.edges_eq ▸ he) htarget

/-- A run finds an input missing exactly if it gets to the node and the node lacks that input. -/
theorem WellFormed.result_eq_missingInput_iff (hg : g.WellFormed) :
    (g.inferShapes options).result = .error (.missingInput id port) ↔
      g.GetsTo options id ∧ ∃ n, g.node? id = some n ∧
        (n.effectiveStrategy options.fallbackToRecorded = .identity ∨
          n.effectiveStrategy options.fallbackToRecorded = .broadcast) ∧ n.Lacks g.edges port := by
  have hnode : (InferError.missingInput id port).node? = some id := rfl
  refine hg.result_eq_error_iff_getsTo hnode fun before after h report hsort hrun => ?_
  obtain ⟨hframe, hkept, hfed⟩ := hg.fed_of_visitAll hsort hrun
  obtain ⟨n, hn⟩ := ((hg.isOrder_of_topologicalOrder hsort).mem_iff id).1 (by simp)
  obtain rfl : n.id = id := hg.id_eq id n hn
  rw [hframe.edges_eq, visit_eq_error_iff (hkept.trans hn),
    shapesOf_eq_missingInput_iff (hg.of_sameFrame hframe) hfed]
  simp only [hn, Option.some.injEq, exists_eq_left']

/-- On every graph made by operations, whatever shapes it holds, and with any options: a run finds
an input missing exactly if it gets to a node that passes on or broadcasts its inputs and lacks this
input. At every point of a run each edge into the node that is next brings a shape. So where a run
compares and recorded shapes are used, every input with an edge and a recorded shape is compared:
the visit succeeds exactly if what arrives agrees at all of them and all outputs have recorded
shapes, and otherwise it blames the first input that does not agree, if there is one. -/
theorem inferShapes_missingInput_iff (hg : g.Reachable) (options : InferOptions) :
    (∀ id port, (g.inferShapes options).result = .error (.missingInput id port) ↔
      g.GetsTo options id ∧ ∃ n, g.node? id = some n ∧
        (n.effectiveStrategy options.fallbackToRecorded = .identity ∨
          n.effectiveStrategy options.fallbackToRecorded = .broadcast) ∧ n.Lacks g.edges port) ∧
    ∀ before id after h report, g.topologicalOrder = .ok (before ++ id :: after) →
      visitAll options before g {} = ⟨h, .ok report⟩ →
      SameFrame g h ∧ h.Fed id ∧ ∀ n, g.node? id = some n → options.verify = true →
        n.effectiveStrategy options.fallbackToRecorded = .recorded →
        ((∃ next, h.visit options report id = .ok next) ↔
          (∀ p ∈ n.inputs, h.InputAgrees id p) ∧ ∀ p ∈ n.outputs, ∃ r, p.recorded = some r) ∧
        ∀ port s r, h.visit options report id = .error (.inputShapeMismatch id port s r) ↔
          h.FirstDisagreement n port s r := by
  have hwf : g.WellFormed := hg.wellFormed
  refine ⟨fun id port => hwf.result_eq_missingInput_iff,
    fun before id after h report hsort hrun => ?_⟩
  obtain ⟨hframe, hkept, hfed⟩ := hwf.fed_of_visitAll hsort hrun
  refine ⟨hframe, hfed, fun n hn hverify hrecorded => ?_⟩
  obtain ⟨fallback, verify⟩ := options
  obtain rfl : verify = true := hverify
  obtain rfl : n.id = id := hwf.id_eq id n hn
  have hh : h.WellFormed := hwf.of_sameFrame hframe
  have hn' : h.node? n.id = some n := hkept.trans hn
  exact ⟨exists_visit_iff_inputAgrees hh hn' hrecorded hfed,
    fun port s r => visit_eq_inputShapeMismatch_iff hh hn' hrecorded hfed⟩

/-- A chain of three nodes: the second compares its input, and only the first of the three inputs of
the last is fed. The last two hold shapes from before. -/
def gapped : Graph :=
  (empty "gapped" 1).performAll
    [.addNode ⟨1, "x", "Parameter", none, .empty, [],
        [⟨0, none, some ⟨[.fixed 8]⟩, none⟩], .recorded⟩,
      .addNode ⟨2, "y", "GRUSequence", none, .empty, [⟨0, some ⟨[.dynamic]⟩⟩],
        [⟨1, none, some ⟨[.fixed 3]⟩, none⟩], .recorded⟩,
      .addNode ⟨3, "z", "Add", none, .empty, [⟨0, none⟩, ⟨6, none⟩, ⟨5, none⟩],
        [⟨7, none, none, none⟩], .broadcast⟩,
      .addEdge ⟨⟨1, 0⟩, ⟨2, 0⟩⟩, .addEdge ⟨⟨2, 1⟩, ⟨3, 0⟩⟩,
      .setOutputShapes 2 [⟨[.fixed 4]⟩], .setOutputShapes 3 [.scalar]]

/-- A run that stops at an input without an edge. Before that it has passed a node whose inputs were
all compared. -/
theorem inferShapes_gapped_missingInput :
    (gapped.inferShapes ⟨false, true⟩).result = .error (.missingInput 3 6) ∧
    gapped.GetsTo ⟨false, true⟩ 3 ∧
    (∃ n, gapped.node? 3 = some n ∧ n.Lacks gapped.edges 6) ∧
    ∃ h report n, visitAll ⟨false, true⟩ [1] gapped {} = ⟨h, .ok report⟩ ∧
      h.Fed 2 ∧ gapped.node? 2 = some n ∧ ∀ p ∈ n.inputs, h.InputAgrees 2 p := by
  have hreachable : gapped.Reachable := ⟨_, _, _, rfl⟩
  have hrun : (gapped.inferShapes ⟨false, true⟩).result = .error (.missingInput 3 6) := by decide
  have hsort : gapped.topologicalOrder = .ok ([1] ++ 2 :: [3]) := by decide
  obtain ⟨hmissing, hpoint⟩ := inferShapes_missingInput_iff hreachable ⟨false, true⟩
  obtain ⟨hgets, n, hn, -, hlacks⟩ := (hmissing 3 6).1 hrun
  obtain ⟨-, hfed, hcompared⟩ := hpoint [1] 2 [3] _ _ hsort rfl
  obtain ⟨hvisit, -⟩ := hcompared _ rfl rfl (by decide)
  exact ⟨hrun, hgets, ⟨n, hn, hlacks⟩, _, _, _, rfl, hfed, rfl, (hvisit.1 ⟨_, rfl⟩).1⟩

end Run

end Graph

end OpGraph
