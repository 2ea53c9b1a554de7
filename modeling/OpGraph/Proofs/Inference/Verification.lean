import OpGraph.Proofs.Inference.Failure
import OpGraph.Proofs.Inference.Settled

/-!
# Runs that compare

A run can be told to compare shapes with the recorded ones. A visit that compares does what the
visit without comparison does, or it fails with the error of a comparison, and this error names the
visited node. So both runs go alike up to the first comparison that fails, and comparing only ever
rejects. What it rejects can be read off the graph that the run without comparison leaves.

## Main definitions

- `InferError.mismatchNode?`: the node at which a comparison has failed
- `Graph.AgreesWithRecorded`: the shapes that were found agree with the recorded ones

## Main statements

- `Graph.shapesOf_verify_of_recorded`, `Graph.shapesOf_verify_of_ne`: where a visit compares
- `Graph.visitAll_verify_cases`: both runs up to the first comparison that fails
- `Graph.inferShapes_verify_only_rejects`: what comparing changes about the outcome of a run
- `Graph.inferShapes_verify_ok_iff`: which runs pass all comparisons
-/

namespace OpGraph

/-- The node that is named by the error of a comparison. -/
def InferError.mismatchNode? : InferError → Option NodeId
  | shapeMismatch n _ _ _ => some n
  | inputShapeMismatch n _ _ _ => some n
  | _ => none

theorem Node.mismatchNode?_of_checkOutputs {n : Node} {shapes : List Shape} {err : InferError}
    (h : n.checkOutputs shapes = .error err) : err.mismatchNode? = some n.id := by
  obtain ⟨⟨p, s⟩, -, hfail⟩ := exists_mem_of_forM_eq_error h
  cases hr : p.recorded with
  | none => simp [hr] at hfail
  | some r =>
    by_cases hcompatible : s.compatible r
    · simp [hr, hcompatible] at hfail
    · simp only [hr, if_neg hcompatible, Except.error.injEq] at hfail
      rw [← hfail, InferError.mismatchNode?]

namespace Graph

variable {g h : Graph} {fallback : Bool} {n : Node} {shapes : List Shape} {err : InferError}

theorem mismatchNode?_of_checkInputs (h : g.checkInputs n = .error err) :
    err.mismatchNode? = some n.id := by
  obtain ⟨p, -, hfail⟩ := exists_mem_of_forM_eq_error h
  cases hr : p.recorded with
  | none => simp [hr] at hfail
  | some r =>
    cases hs : g.arriving? n.id p.id with
    | none => simp [hr, hs] at hfail
    | some s =>
      by_cases hcompatible : s.compatible r
      · simp [hr, hs, hcompatible] at hfail
      · simp only [hr, hs, if_neg hcompatible, Except.error.injEq] at hfail
        rw [← hfail, InferError.mismatchNode?]

section Visit

/-- Where recorded shapes are used, what arrives is compared before anything else is done. -/
theorem shapesOf_verify_of_recorded (h : n.effectiveStrategy fallback = .recorded) :
    g.shapesOf ⟨fallback, true⟩ n =
      g.checkInputs n >>= fun _ => g.shapesOf ⟨fallback, false⟩ n := by
  simp [shapesOf, h, Strategy.readsInputs]

/-- Where shapes are computed, they are compared when everything else is done. -/
theorem shapesOf_verify_of_ne (h : n.effectiveStrategy fallback ≠ .recorded) :
    g.shapesOf ⟨fallback, true⟩ n =
      g.shapesOf ⟨fallback, false⟩ n >>= fun shapes =>
        n.checkOutputs shapes >>= fun _ => pure shapes := by
  cases hreads : (n.effectiveStrategy fallback).readsInputs <;> simp [shapesOf, h, hreads]

/-- A visit that compares finds what the visit without comparison finds, or a comparison fails. -/
theorem shapesOf_verify_cases (g : Graph) (fallback : Bool) (n : Node) :
    g.shapesOf ⟨fallback, true⟩ n = g.shapesOf ⟨fallback, false⟩ n ∨
      ∃ err, g.shapesOf ⟨fallback, true⟩ n = .error err ∧ err.mismatchNode? = some n.id := by
  by_cases hrecorded : n.effectiveStrategy fallback = .recorded
  · rw [shapesOf_verify_of_recorded hrecorded]
    cases hcheck : g.checkInputs n with
    | ok u => exact Or.inl rfl
    | error err => exact Or.inr ⟨err, rfl, mismatchNode?_of_checkInputs hcheck⟩
  · rw [shapesOf_verify_of_ne hrecorded]
    cases g.shapesOf ⟨fallback, false⟩ n with
    | error err => exact Or.inl rfl
    | ok shapes =>
      cases hcheck : n.checkOutputs shapes with
      | ok u => left; simp [bind, Except.bind, hcheck, pure, Except.pure]
      | error err =>
        refine Or.inr ⟨err, ?_, n.mismatchNode?_of_checkOutputs hcheck⟩
        simp [bind, Except.bind, hcheck]

/-- An error that is not that of a comparison is met without comparison too. -/
theorem shapesOf_of_verify_error (herr : g.shapesOf ⟨fallback, true⟩ n = .error err)
    (hnone : err.mismatchNode? = none) : g.shapesOf ⟨fallback, false⟩ n = .error err := by
  rcases g.shapesOf_verify_cases fallback n with hsame | ⟨err', hfail, hmismatch⟩
  · rw [← hsame, herr]
  · rw [herr] at hfail
    obtain rfl := Except.error.inj hfail
    rw [hnone] at hmismatch
    cases hmismatch

/-- Where shapes are computed, the errors that are not those of comparisons are the same. -/
theorem shapesOf_verify_eq_error_iff (hcomputed : n.effectiveStrategy fallback ≠ .recorded)
    (hnone : err.mismatchNode? = none) :
    g.shapesOf ⟨fallback, true⟩ n = .error err ↔ g.shapesOf ⟨fallback, false⟩ n = .error err := by
  refine ⟨fun herr => shapesOf_of_verify_error herr hnone, fun herr => ?_⟩
  rw [shapesOf_verify_of_ne hcomputed, herr]
  rfl

/-- Recorded shapes that are used agree with themselves. -/
theorem checkOutputs_of_shapesOf (h : n.effectiveStrategy fallback = .recorded)
    (hshapes : g.shapesOf ⟨fallback, false⟩ n = .ok shapes) : n.checkOutputs shapes = .ok () := by
  obtain ⟨inputs, -, -, hrule, -⟩ := shapesOf_eq_ok_iff.1 hshapes
  rw [h] at hrule
  obtain ⟨-, hrecorded⟩ := List.forall₂_iff_zip.1 (Node.recordedShapes_eq_ok_iff.1 hrule)
  refine Node.checkOutputs_eq_ok_iff.2 fun p s hps r hr => ?_
  obtain rfl : s = r := Option.some.inj ((hrecorded hps).symm.trans hr)
  exact s.compatible_self

/-- The comparisons of a visit: of what arrives where recorded shapes are used, and of what is
found. -/
theorem shapesOf_verify_eq_ok_iff : g.shapesOf ⟨fallback, true⟩ n = .ok shapes ↔
    g.shapesOf ⟨fallback, false⟩ n = .ok shapes ∧
      (n.effectiveStrategy fallback = .recorded → g.checkInputs n = .ok ()) ∧
      n.checkOutputs shapes = .ok () := by
  by_cases hrecorded : n.effectiveStrategy fallback = .recorded
  · rw [shapesOf_verify_of_recorded hrecorded, bind_eq_ok_iff]
    constructor
    · rintro ⟨⟨⟩, hcheck, hshapes⟩
      exact ⟨hshapes, fun _ => hcheck, checkOutputs_of_shapesOf hrecorded hshapes⟩
    · rintro ⟨hshapes, hcheck, -⟩
      exact ⟨(), hcheck hrecorded, hshapes⟩
  · simp only [shapesOf_verify_of_ne hrecorded, bind_eq_ok_iff, pure_eq_ok_iff]
    constructor
    · rintro ⟨_, hshapes, ⟨⟩, hcheck, rfl⟩
      exact ⟨hshapes, fun h => absurd h hrecorded, hcheck⟩
    · rintro ⟨hshapes, -, hcheck⟩
      exact ⟨shapes, hshapes, (), hcheck, rfl⟩

/-- A visit with verification does what it does without, or else objects to its node. -/
theorem visit_verify_cases (hg : g.WellFormed) (fallback : Bool) (report : InferReport)
    (id : NodeId) :
    g.visit ⟨fallback, true⟩ report id = g.visit ⟨fallback, false⟩ report id ∨
      ∃ err, g.visit ⟨fallback, true⟩ report id = .error err ∧ err.mismatchNode? = some id := by
  cases hn : g.node? id with
  | none => exact Or.inl (by simp [visit, hn])
  | some n =>
    rcases g.shapesOf_verify_cases fallback n with hsame | ⟨err, hfail, hmismatch⟩
    · exact Or.inl (by simp only [visit, hn, hsame])
    · rw [hg.id_eq id n hn] at hmismatch
      exact Or.inr ⟨err, (visit_eq_error_iff hn).2 hfail, hmismatch⟩

end Visit

section Run

variable {order before after : List NodeId} {id : NodeId} {report : InferReport}

/-- Visits that compare go like those without comparison, or there is a node up to which they do and
at which a comparison fails. -/
theorem visitAll_verify_cases (hg : g.WellFormed) (fallback : Bool) (order : List NodeId)
    (report : InferReport) :
    visitAll ⟨fallback, true⟩ order g report = visitAll ⟨fallback, false⟩ order g report ∨
      ∃ before id after h report' err, order = before ++ id :: after ∧
        visitAll ⟨fallback, false⟩ before g report = ⟨h, .ok report'⟩ ∧
        visitAll ⟨fallback, true⟩ order g report = ⟨h, .error err⟩ ∧
        err.mismatchNode? = some id := by
  induction order generalizing g report with
  | nil => exact Or.inl rfl
  | cons id order ih =>
    -- the first visit that a check makes fail splits the order
    rcases visit_verify_cases hg fallback report id with hsame | ⟨err, hfail, hmismatch⟩
    · cases hvisit : g.visit ⟨fallback, false⟩ report id with
      | error err => exact Or.inl (by simp only [visitAll, hsame, hvisit])
      | ok next =>
        obtain ⟨g', report'⟩ := next
        have hg' : g'.WellFormed := hg.of_sameFrame (sameFrame_visit hvisit)
        rcases ih hg' report' with
          hrest | ⟨before, v, after, h, r, err, rfl, hbefore, hfail, hmismatch⟩
        · exact Or.inl (by simp only [visitAll, hsame, hvisit, hrest])
        · refine Or.inr ⟨id :: before, v, after, h, r, err, rfl, ?_, ?_, hmismatch⟩
          · simp only [visitAll, hvisit, hbefore]
          · simp only [visitAll, hsame, hvisit, hfail]
    · refine Or.inr ⟨[], id, order, g, report, err, rfl, rfl, ?_, hmismatch⟩
      simp only [visitAll, hfail]

/-- A run with verification does what it does without, or follows it up to a node and objects there.
Which node that is follows by going through the order. -/
theorem inferShapes_verify_cases (hg : g.WellFormed) (fallback : Bool) :
    g.inferShapes ⟨fallback, true⟩ = g.inferShapes ⟨fallback, false⟩ ∨
      ∃ before id after h report err, g.topologicalOrder = .ok (before ++ id :: after) ∧
        visitAll ⟨fallback, false⟩ before g {} = ⟨h, .ok report⟩ ∧
        g.inferShapes ⟨fallback, true⟩ = ⟨h, .error err⟩ ∧ err.mismatchNode? = some id := by
  cases hsort : g.topologicalOrder with
  | error err => exact Or.inl (by rw [inferShapes_of_error hsort, inferShapes_of_error hsort])
  | ok order =>
    rw [inferShapes_of_ok hsort, inferShapes_of_ok hsort]
    rcases visitAll_verify_cases hg fallback order {} with
      hsame | ⟨before, id, after, h, report, err, rfl, hbefore, hfail, hmismatch⟩
    · exact Or.inl hsame
    · exact Or.inr ⟨before, id, after, h, report, err, rfl, hbefore, hfail, hmismatch⟩

/-- A run does not get beyond the node at which it stops. -/
theorem StopsAt.mem_of_visitAll_eq {options : InferOptions} {after' order' : List NodeId}
    {v : NodeId} (hstop : g.StopsAt options before id after err)
    (hsort : g.topologicalOrder = .ok (order' ++ v :: after'))
    (hvisited : visitAll options order' g {} = ⟨h, .ok report⟩) : v ∈ before ++ [id] := by
  obtain ⟨hsort', left, r, hbefore, hfail⟩ := hstop
  rw [hsort', Except.ok.injEq] at hsort
  rcases List.append_eq_append_iff.1 hsort with ⟨between, rfl, hrest⟩ | ⟨between, rfl, hrest⟩
  · cases between with
    | nil =>
      obtain rfl := (List.cons.inj hrest).1
      exact List.mem_append_right _ List.mem_cons_self
    | cons w between =>
      -- then the failing visit would be among those that succeeded
      obtain rfl := (List.cons.inj hrest).1
      rw [visitAll_append_of_ok hbefore, visitAll] at hvisited
      simp [hfail] at hvisited
  · cases between with
    | nil =>
      obtain rfl := (List.cons.inj hrest).1
      exact List.mem_append_right _ List.mem_cons_self
    | cons w between =>
      obtain rfl := (List.cons.inj hrest).1
      simp

/-- On every graph made by operations, and with or without fallback to the recorded shapes,
comparing only ever rejects. If the run that compares succeeds, or fails with another error than
that of a comparison, then the run without comparison has the same outcome: the same report or
error, and the same graph. If the run without comparison stops at a node, then the run that compares
fails with the same error, or with that of a comparison at this node or one before it. -/
theorem inferShapes_verify_only_rejects (hg : g.Reachable) (fallback : Bool) :
    (∀ report, (g.inferShapes ⟨fallback, true⟩).result = .ok report →
      g.inferShapes ⟨fallback, false⟩ = g.inferShapes ⟨fallback, true⟩) ∧
    (∀ err, (g.inferShapes ⟨fallback, true⟩).result = .error err → err.mismatchNode? = none →
      g.inferShapes ⟨fallback, false⟩ = g.inferShapes ⟨fallback, true⟩) ∧
    ∀ before id after err, g.StopsAt ⟨fallback, false⟩ before id after err →
      ∃ err', (g.inferShapes ⟨fallback, true⟩).result = .error err' ∧
        (err' = err ∨ ∃ v ∈ before ++ [id], err'.mismatchNode? = some v) := by
  rcases inferShapes_verify_cases hg.wellFormed fallback with
    hsame | ⟨before', v, after', h, report, err', hsort, hbefore, hfail, hmismatch⟩
  · refine ⟨fun _ _ => hsame.symm, fun _ _ _ => hsame.symm, fun before id after err hstop => ?_⟩
    obtain ⟨left, r, -, hrun⟩ := hstop.inferShapes_eq
    exact ⟨err, by rw [hsame, hrun], Or.inl rfl⟩
  · rw [hfail]
    refine ⟨fun report hrun => ?_, fun err hrun hnone => ?_, fun before id after err hstop => ?_⟩
    · cases hrun
    · obtain rfl := Except.error.inj hrun
      rw [hmismatch] at hnone
      cases hnone
    · exact ⟨err', rfl, Or.inr ⟨v, hstop.mem_of_visitAll_eq hsort hbefore, hmismatch⟩⟩

/-- A source of one dimension, a recurrent node for which shapes are recorded, and a node behind
it. -/
def sequenced (d : Dim) (last : Strategy) : Graph :=
  (empty "sequenced" 1).performAll
    [.addNode ⟨1, "x", "Parameter", none, .empty, [], [⟨0, none, some ⟨[d]⟩, none⟩], .recorded⟩,
      .addNode ⟨4, "y", "GRUSequence", none, .empty, [⟨0, some ⟨[.fixed 8]⟩⟩],
        [⟨1, none, some ⟨[.fixed 3]⟩, none⟩], .recorded⟩,
      .addNode ⟨2, "z", "TopK", none, .empty, [⟨0, none⟩],
        [⟨1, none, some ⟨[.dynamic]⟩, none⟩], last⟩,
      .addEdge ⟨⟨1, 0⟩, ⟨4, 0⟩⟩, .addEdge ⟨⟨4, 1⟩, ⟨2, 0⟩⟩]

/-- A chain of three nodes for each of the cases: nothing to object, another error in both runs, and
an objection where the run without verification fails further behind. -/
theorem inferShapes_sequenced_only_rejects :
    ((sequenced .dynamic .identity).inferShapes ⟨false, true⟩).result = .ok ⟨3, 2, 1, 0⟩ ∧
    (sequenced .dynamic .identity).inferShapes ⟨false, false⟩ =
      (sequenced .dynamic .identity).inferShapes ⟨false, true⟩ ∧
    ((sequenced .dynamic .unspecified).inferShapes ⟨false, true⟩).result =
      .error (.noStrategy 2 "TopK") ∧
    (sequenced .dynamic .unspecified).inferShapes ⟨false, false⟩ =
      (sequenced .dynamic .unspecified).inferShapes ⟨false, true⟩ ∧
    (sequenced (.fixed 5) .unspecified).StopsAt ⟨false, false⟩ [1, 4] 2 [] (.noStrategy 2 "TopK") ∧
    ∃ err, ((sequenced (.fixed 5) .unspecified).inferShapes ⟨false, true⟩).result = .error err ∧
      (err = .noStrategy 2 "TopK" ∨ ∃ v ∈ [1, 4] ++ [2], err.mismatchNode? = some v) := by
  have hreachable : ∀ d last, (sequenced d last).Reachable := fun d last => ⟨_, _, _, rfl⟩
  have hpassed : ((sequenced .dynamic .identity).inferShapes ⟨false, true⟩).result =
      .ok ⟨3, 2, 1, 0⟩ := by decide
  have hfailed : ((sequenced .dynamic .unspecified).inferShapes ⟨false, true⟩).result =
      .error (.noStrategy 2 "TopK") := by decide
  have hstop : (sequenced (.fixed 5) .unspecified).StopsAt ⟨false, false⟩ [1, 4] 2 []
      (.noStrategy 2 "TopK") := ⟨by decide, _, _, rfl, rfl⟩
  exact ⟨hpassed, (inferShapes_verify_only_rejects (hreachable _ _) false).1 _ hpassed,
    hfailed, (inferShapes_verify_only_rejects (hreachable _ _) false).2.1 _ hfailed rfl,
    hstop, (inferShapes_verify_only_rejects (hreachable _ _) false).2.2 _ _ _ _ hstop⟩

end Run

section Recorded

/-- The shapes that were found agree with the recorded ones at all outputs, and, where recorded
shapes are used, at the ports that feed the inputs. -/
structure AgreesWithRecorded (g : Graph) (fallback : Bool) : Prop where
  outputs : ∀ id n, g.node? id = some n → ∀ p ∈ n.outputs, ∀ r, p.recorded = some r →
    ∃ s, p.shape = some s ∧ s.compatible r
  inputs : ∀ id n, g.node? id = some n → n.effectiveStrategy fallback = .recorded →
    ∀ p ∈ n.inputs, ∀ r, p.recorded = some r → ∀ e ∈ g.edges, e.target = ⟨id, p.id⟩ →
      ∃ s, g.shapeAt? e.source = some s ∧ s.compatible r

/-- Verification of outputs, said of the shapes that are stored on them. -/
theorem checkOutputs_eq_ok_iff_of_outputShapes (h : n.outputShapes = shapes.map some) :
    n.checkOutputs shapes = .ok () ↔ ∀ p ∈ n.outputs, ∀ r, p.recorded = some r →
      ∃ s, p.shape = some s ∧ s.compatible r := by
  obtain ⟨hlength, hheld⟩ := List.forall₂_iff_zip.1 (outputShapes_eq_iff.1 h)
  rw [Node.checkOutputs_eq_ok_iff]
  constructor
  · intro hcheck p hp r hr
    have hboth : List.Forall₂ (fun p s => p.shape = some s ∧
        ∀ r, p.recorded = some r → s.compatible r) n.outputs shapes :=
      List.forall₂_iff_zip.2 ⟨hlength, fun hps => ⟨hheld hps, hcheck _ _ hps⟩⟩
    obtain ⟨s, -, hs, hcompatible⟩ := exists_mem_of_forall₂ hboth p hp
    exact ⟨s, hs, hcompatible r hr⟩
  · intro hagree p s hps r hr
    obtain ⟨s', hs', hcompatible⟩ := hagree p (List.of_mem_zip hps).1 r hr
    obtain rfl : s = s' := Option.some.inj ((hheld hps).symm.trans hs')
    exact hcompatible

/-- Verification of inputs, said of the edges that lead to them. -/
theorem checkInputs_eq_ok_iff_of_edges (hg : g.WellFormed) {id : NodeId}
    (hn : g.node? id = some n) :
    g.checkInputs n = .ok () ↔ ∀ p ∈ n.inputs, ∀ r, p.recorded = some r →
      ∀ e ∈ g.edges, e.target = ⟨id, p.id⟩ →
        ∀ s, g.shapeAt? e.source = some s → s.compatible r := by
  rw [checkInputs_eq_ok_iff, hg.id_eq id n hn]
  simp only [arriving?_eq_some_iff_exists_edge hg]
  constructor
  · intro hcheck p hp r hr e he htarget s hs
    exact hcheck p hp r s hr ⟨e, he, htarget, hs⟩
  · rintro hagree p hp r s hr ⟨e, he, htarget, hs⟩
    exact hagree p hp r hr e he htarget s hs

/-- Comparisons are passed in a settled graph exactly if its shapes agree with the recorded ones. -/
theorem WellFormed.settled_verify_iff (hg : g.WellFormed) : g.Settled ⟨fallback, true⟩ ↔
    g.Settled ⟨fallback, false⟩ ∧ g.AgreesWithRecorded fallback := by
  constructor
  · intro hsettled
    -- the checks only reject: the shapes are those found without them
    have hplain : g.Settled ⟨fallback, false⟩ := by
      intro id n hn
      obtain ⟨shapes, hshapes, houtputs⟩ := hsettled id n hn
      exact ⟨shapes, (shapesOf_verify_eq_ok_iff.1 hshapes).1, houtputs⟩
    refine ⟨hplain, fun id n hn => ?_, fun id n hn hrecorded p hp r hr e he htarget => ?_⟩
    · obtain ⟨shapes, hshapes, houtputs⟩ := hsettled id n hn
      exact (checkOutputs_eq_ok_iff_of_outputShapes houtputs).1
        (shapesOf_verify_eq_ok_iff.1 hshapes).2.2
    · obtain ⟨shapes, hshapes, -⟩ := hsettled id n hn
      obtain ⟨s, hs⟩ := hplain.exists_shapeAt? hg (hg.isOutput_source e he)
      have hcheck := (shapesOf_verify_eq_ok_iff.1 hshapes).2.1 hrecorded
      exact ⟨s, hs, (checkInputs_eq_ok_iff_of_edges hg hn).1 hcheck p hp r hr e he htarget s hs⟩
  · rintro ⟨hplain, hagree⟩ id n hn
    obtain ⟨shapes, hshapes, houtputs⟩ := hplain id n hn
    refine ⟨shapes, shapesOf_verify_eq_ok_iff.2 ⟨hshapes, fun hrecorded => ?_, ?_⟩, houtputs⟩
    · refine (checkInputs_eq_ok_iff_of_edges hg hn).2 fun p hp r hr e he htarget s hs => ?_
      obtain ⟨s', hs', hcompatible⟩ := hagree.inputs id n hn hrecorded p hp r hr e he htarget
      obtain rfl : s = s' := Option.some.inj (hs.symm.trans hs')
      exact hcompatible
    · exact (checkOutputs_eq_ok_iff_of_outputShapes houtputs).2 (hagree.outputs id n hn)

/-- On every graph made by operations, and with or without fallback to the recorded shapes, the run
that compares succeeds exactly if the run without comparison does and leaves shapes that agree with
the recorded ones. -/
theorem inferShapes_verify_ok_iff (hg : g.Reachable) (fallback : Bool) :
    (∃ report, (g.inferShapes ⟨fallback, true⟩).result = .ok report) ↔
      (∃ report, (g.inferShapes ⟨fallback, false⟩).result = .ok report) ∧
        (g.inferShapes ⟨fallback, false⟩).graph.AgreesWithRecorded fallback := by
  have hwf : g.WellFormed := hg.wellFormed
  constructor
  · rintro ⟨report, hrun⟩
    obtain ⟨hacyclic, hframe, hsettled, -⟩ := hwf.settled_of_ok hrun
    obtain ⟨hplain, hagree⟩ := (hwf.of_sameFrame hframe).settled_verify_iff.1 hsettled
    obtain ⟨report', hrun'⟩ := hwf.inferShapes_of_settled hacyclic hframe hplain
    rw [hrun']
    exact ⟨⟨report', rfl⟩, hagree⟩
  · rintro ⟨⟨report, hrun⟩, hagree⟩
    obtain ⟨hacyclic, hframe, hplain, -⟩ := hwf.settled_of_ok hrun
    have hsettled := (hwf.of_sameFrame hframe).settled_verify_iff.2 ⟨hplain, hagree⟩
    obtain ⟨report', hrun'⟩ := hwf.inferShapes_of_settled hacyclic hframe hsettled
    exact ⟨report', by rw [hrun']⟩

/-- The chain where nothing is to object, with shapes recorded on inputs and outputs. -/
theorem agreesWithRecorded_sequenced :
    (sequenced .dynamic .identity).Reachable ∧
    ((sequenced .dynamic .identity).inferShapes ⟨false, true⟩).result = .ok ⟨3, 2, 1, 0⟩ ∧
    (∃ report, ((sequenced .dynamic .identity).inferShapes ⟨false, false⟩).result = .ok report) ∧
    ((sequenced .dynamic .identity).inferShapes ⟨false, false⟩).graph.AgreesWithRecorded false := by
  have hreachable : (sequenced .dynamic .identity).Reachable := ⟨_, _, _, rfl⟩
  have hrun : ((sequenced .dynamic .identity).inferShapes ⟨false, true⟩).result =
      .ok ⟨3, 2, 1, 0⟩ := by decide
  exact ⟨hreachable, hrun, (inferShapes_verify_ok_iff hreachable false).1 ⟨_, hrun⟩⟩

end Recorded

end Graph

end OpGraph
