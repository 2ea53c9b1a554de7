import OpGraph.Proofs.Inference.Progress

/-!
# Properties of all shapes that are found

A run takes shapes from the records at outputs and from attributes, hands them on, and broadcasts
them. So a property of recorded shapes and of shapes read from texts that broadcasting keeps is one
of all shapes that are found.
-/

namespace OpGraph

variable {P : Shape → Prop} {n : Node} {strategy : Strategy} {inputs shapes : List Shape}
  (hparse : ∀ text s, Shape.parse text = .ok s → P s)
  (hbroadcast : ∀ a b s, P a → P b → a.broadcast? b = some s → P s)

section Rules

include hbroadcast in
/-- What holds of shapes and is kept by broadcasting holds of what several shapes broadcast to. -/
theorem Shape.foldlM_broadcast?_closed {first s : Shape} {rest : List Shape} (hfirst : P first)
    (hrest : ∀ s ∈ rest, P s) (h : rest.foldlM Shape.broadcast? first = some s) : P s := by
  induction rest generalizing first with
  | nil => exact Option.some.inj h ▸ hfirst
  | cons next rest ih =>
    rw [List.foldlM_cons, Option.bind_eq_bind, Option.bind_eq_some_iff] at h
    obtain ⟨joined, hjoined, hfold⟩ := h
    obtain ⟨hnext, hrest⟩ := List.forall_mem_cons.1 hrest
    exact ih (hbroadcast first next joined hfirst hnext hjoined) hrest hfold

theorem Node.forall_mem_onAllOutputs {s : Shape} (hs : P s) : ∀ s' ∈ n.onAllOutputs s, P s' := by
  intro s' hs'
  obtain rfl := List.eq_of_mem_replicate hs'
  exact hs

include hparse hbroadcast in
/-- The shapes that a rule finds have the property if those recorded at the node and those that
arrive there have it. -/
theorem Node.inferShapes_closed (hrecorded : ∀ p ∈ n.outputs, ∀ s, p.recorded = some s → P s)
    (hinputs : ∀ s ∈ inputs, P s) (h : n.inferShapes strategy inputs = .ok shapes) :
    ∀ s ∈ shapes, P s := by
  cases strategy with
  | recorded =>
    intro s hs
    obtain ⟨p, hp, hps⟩ := exists_mem_of_forall₂ (recordedShapes_eq_ok_iff.1 h).flip s hs
    exact hrecorded p hp s hps
  | identity =>
    obtain ⟨first, rest, rfl, rfl⟩ := identityShapes_eq_ok_iff.1 h
    exact forall_mem_onAllOutputs (hinputs first List.mem_cons_self)
  | broadcast =>
    obtain ⟨first, rest, s, rfl, hs, rfl⟩ := broadcastShapes_eq_ok_iff.1 h
    obtain ⟨hfirst, hrest⟩ := List.forall_mem_cons.1 hinputs
    exact forall_mem_onAllOutputs (Shape.foldlM_broadcast?_closed hbroadcast hfirst hrest hs)
  | fromAttribute =>
    rw [inferShapes, attributeShapes_eq_ok_iff] at h
    obtain ⟨text, s, -, hs, rfl⟩ := h
    exact forall_mem_onAllOutputs (hparse text s hs)
  | unspecified => cases h

end Rules

namespace Graph

variable {g h : Graph} {options : InferOptions} {report : InferReport}

/-- What is gathered for a node has the property if the shapes at the ports that feed it have it. -/
theorem forall_mem_of_gatherInputs (hh : h.WellFormed)
    (hfed : ∀ e ∈ h.edges, e.target.node = n.id → ∃ s, h.shapeAt? e.source = some s ∧ P s)
    (hinputs : h.gatherInputs n = .ok inputs) : ∀ s ∈ inputs, P s := by
  intro s hs
  obtain ⟨p, -, harriving⟩ := exists_mem_of_forall₂ (gatherInputs_eq_ok_iff.1 hinputs).flip s hs
  obtain ⟨e, he, htarget, hshape⟩ := (arriving?_eq_some_iff_exists_edge hh).1 harriving
  obtain ⟨s', hs', hP⟩ := hfed e he (by rw [htarget])
  obtain rfl : s' = s := Option.some.inj (hs'.symm.trans hshape)
  exact hP

include hparse hbroadcast in
/-- After a run that succeeds every output has a shape, and this has the property if all recorded
shapes have it. -/
theorem inferShapes_closed (hg : g.WellFormed) (hrun : g.inferShapes options = ⟨h, .ok report⟩)
    (hrecorded : ∀ id n, h.node? id = some n → ∀ p ∈ n.outputs, ∀ s, p.recorded = some s → P s) :
    ∀ id n, h.node? id = some n → ∀ p ∈ n.outputs, ∃ s, p.shape = some s ∧ P s := by
  obtain ⟨-, order, horder, hdone⟩ := exists_progress_of_ok hg (congrArg InferOutcome.result hrun)
  simp only [hrun] at hdone
  have hh : h.WellFormed := hg.of_sameFrame hdone.sameFrame
  have horder' : g.IsOrder (order ++ []) := by simpa using horder
  -- a rule makes its shapes of what arrives and of what is recorded, parsed or joined
  have hstep : ∀ n shapes, h.node? n.id = some n →
      (∀ e ∈ g.edges, e.target.node = n.id → ∃ s, h.shapeAt? e.source = some s ∧ P s) →
      h.shapesOf options n = .ok shapes → List.Forall₂ (fun _ s => P s) n.outputs shapes := by
    intro n shapes hn hfed hshapes
    rw [hdone.sameFrame.edges_eq] at hfed
    obtain ⟨inputs, hinputs, -, hrule, -⟩ := shapesOf_eq_ok_iff.1 hshapes
    have hall : ∀ s ∈ inputs, P s := by
      by_cases hreads : (n.effectiveStrategy options.fallbackToRecorded).readsInputs
      · rw [if_pos hreads] at hinputs
        exact forall_mem_of_gatherInputs hh hfed hinputs
      · rw [if_neg hreads] at hinputs
        simp [hinputs]
    have hfound := Node.inferShapes_closed hparse hbroadcast (hrecorded n.id n hn) hall hrule
    exact List.forall₂_iff_zip.2
      ⟨(length_of_shapesOf hshapes).symm, fun hps => hfound _ (List.of_mem_zip hps).2⟩
  intro id n hn p hp
  have hport : g.IsOutput ⟨id, p.id⟩ :=
    (hdone.sameFrame.isOutput_iff _).2 ⟨n, hn, p, hp, rfl⟩
  have hmem : id ∈ order := by
    obtain ⟨n₀, hn₀, -⟩ := hport
    exact (horder.mem_iff id).2 ⟨n₀, hn₀⟩
  obtain ⟨s, hs, hP⟩ :=
    hdone.induction (P := fun _ s => P s) hg horder' hstep ⟨id, p.id⟩ hport hmem
  rw [hh.shapeAt?_eq hn hp] at hs
  exact ⟨s, hs, hP⟩

end Graph

end OpGraph
