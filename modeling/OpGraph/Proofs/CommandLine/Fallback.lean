import OpGraph.CommandLine.Run
import OpGraph.Proofs.Document.Restoration
import OpGraph.Proofs.Inference.Fallback

/-!
# The fallback option of the program

An inspection with the option `--fallback` runs inference with fallback, whether the configuration
asks for it or not. What can be inspected without the option is printed the same with it.
-/

namespace OpGraph

variable {files : FileReader} {inventory : List Extender} {path : String} {config : Option String}

/-- The configuration with the fallback turned on. -/
def Config.withFallback (c : Config) : Config :=
  { c with infer := { c.infer with fallbackToRecorded := true } }

section Restore

variable {c : Config} {restored : Graph × InferReport}

/-- A document that can be restored is restored the same with fallback. -/
theorem Document.Restores.withFallback {d : Document} {registry : Registry} {options : InferOptions}
    {h : Graph} {report : InferReport} (hd : d.Restores registry options h report) :
    d.Restores registry { options with fallbackToRecorded := true } h report := by
  obtain ⟨g, hg, hrun⟩ := hd
  exact ⟨g, hg, (Graph.inferShapes_withFallback (congrArg InferOutcome.result hrun)).trans hrun⟩

/-- What can be restored without fallback is restored the same with it, with the same report. -/
theorem restoreGraph_withFallback {text : String}
    (hrestore : restoreGraph inventory c text = .ok restored) :
    restoreGraph inventory c.withFallback text = .ok restored := by
  obtain ⟨h, report⟩ := restored
  obtain ⟨d, hd, hrestores⟩ := restoreGraph_eq_ok_iff.1 hrestore
  exact restoreGraph_eq_ok_iff.2 ⟨d, hd, hrestores.withFallback⟩

theorem restoreGraphFile_withFallback
    (hrestore : restoreGraphFile inventory c files path = .ok restored) :
    restoreGraphFile inventory c.withFallback files path = .ok restored := by
  obtain ⟨text, htext, hrestore⟩ := bind_eq_ok_iff.1 hrestore
  exact bind_eq_ok_iff.2 ⟨text, htext, restoreGraph_withFallback hrestore⟩

end Restore

section Program

/-- The option turns the fallback of the configuration on. -/
theorem inspectConfig_true (files : FileReader) (config : Option String) :
    inspectConfig files config true =
      (inspectConfig files config false).map Config.withFallback := by
  cases config with
  | none => rfl
  | some path =>
    simp only [inspectConfig]
    cases readConfigFile files path with
    | error e => rfl
    | ok c => simp [bind, Except.bind, pure, Except.pure, Except.map, Except.mapError,
        Config.withFallback]

/-- What can be inspected is printed the same with the option. -/
theorem inspect_fallback (hcode : (inspect files inventory path config false).code = 0) :
    inspect files inventory path config true = inspect files inventory path config false := by
  simp only [inspect, inspectConfig_true] at hcode ⊢
  cases hconfig : inspectConfig files config false with
  | error output => rfl
  | ok c =>
    simp only [hconfig] at hcode
    simp only [Except.map]
    cases hrestore : restoreGraphFile inventory c files path with
    | error e =>
      rw [hrestore] at hcode
      cases hcode
    | ok restored => rw [restoreGraphFile_withFallback hrestore]

variable {arguments arguments' : List String} {log : String}

/-- Arguments that ask for an inspection, with and without the option, lead to the same output if
the inspection without it succeeds. -/
theorem runProgram_fallback
    (hplain : Request.ofArguments? arguments = some (.run log (.inspect path config false)))
    (hoption : Request.ofArguments? arguments' = some (.run log (.inspect path config true)))
    (hcode : (runProgram files inventory arguments).code = 0) :
    runProgram files inventory arguments' = runProgram files inventory arguments := by
  simp only [runProgram, hplain, hoption] at hcode ⊢
  cases hfilter : LogFilter.check log with
  | ok =>
    rw [hfilter] at hcode
    exact inspect_fallback hcode
  | error fault => cases fault <;> rfl

end Program

/-- A run with fallback and a run without it on the graph in which nodes without a strategy use
their recorded shapes give the same error or the same counts but for that of fallbacks, and they
leave every node with the same shapes, also when they fail. If the run without fallback succeeds,
then it counts no fallback, and the run with fallback has the same report and leaves the same graph.
So if the program succeeds with an inspection, then it prints the same with the option. -/
theorem fallback_marks_unspecified (g : Graph) (verify : Bool) (files : FileReader)
    (inventory : List Extender) :
    (g.markRecorded.inferShapes ⟨false, verify⟩).result =
      (g.inferShapes ⟨true, verify⟩).result.map InferReport.withoutFallbacks ∧
    (∀ id, ((g.markRecorded.inferShapes ⟨false, verify⟩).graph.node? id).map Node.outputShapes =
      ((g.inferShapes ⟨true, verify⟩).graph.node? id).map Node.outputShapes) ∧
    (∀ report, (g.inferShapes ⟨false, verify⟩).result = .ok report →
      report.fallbacks = 0 ∧ g.inferShapes ⟨true, verify⟩ = g.inferShapes ⟨false, verify⟩) ∧
    ∀ arguments arguments' log path config,
      Request.ofArguments? arguments = some (.run log (.inspect path config false)) →
      Request.ofArguments? arguments' = some (.run log (.inspect path config true)) →
      (runProgram files inventory arguments).code = 0 →
      runProgram files inventory arguments' = runProgram files inventory arguments := by
  refine ⟨?_, fun id => ?_, fun report hrun => ?_, ?_⟩
  · rw [g.inferShapes_markRecorded]
  · rw [g.inferShapes_markRecorded, Graph.markRecorded, Graph.node?_mapNodes, Option.map_map]
    rfl
  · exact (Graph.inferShapes_undisturbed hrun).symm
  · intro arguments arguments' log path config
    exact runProgram_fallback

/-- Two nodes of one strategy and a node that copies the shape of the first. -/
def staggered (strategy : Strategy) (last : Option Shape) : Graph :=
  (Graph.empty "staggered" 1).performAll
    [.addNode ⟨7, "x", "Gelu", none, .empty, [], [⟨0, none, some ⟨[.fixed 4]⟩, none⟩], strategy⟩,
      .addNode ⟨3, "y", "Relu", none, .empty, [⟨0, none⟩], [⟨1, none, none, none⟩], .identity⟩,
      .addNode ⟨9, "z", "TopK", none, .empty, [], [⟨5, none, last, none⟩], strategy⟩,
      .addEdge ⟨⟨7, 0⟩, ⟨3, 0⟩⟩]

/-- A document with one recurrent layer. -/
def recurrentText : String :=
  "name: m\nversion: 1\nlayers:\n- id: 4\n  name: y\n  type: GRUSequence\n"
    ++ "  output:\n  - id: 0\n    dims: [2]\nedges: []\n"

theorem fallback_marks_staggered :
    ((staggered .unspecified none).inferShapes ⟨true, true⟩).result =
      .error (.missingRecorded 9 5) ∧
    ((staggered .unspecified none).markRecorded.inferShapes ⟨false, true⟩).result =
      .error (.missingRecorded 9 5) ∧
    (((staggered .unspecified none).markRecorded.inferShapes ⟨false, true⟩).graph.node? 3).map
      Node.outputShapes = some [some ⟨[.fixed 4]⟩] ∧
    ((staggered .recorded (some .scalar)).inferShapes ⟨false, true⟩).result = .ok ⟨3, 2, 1, 0⟩ ∧
    (staggered .recorded (some .scalar)).inferShapes ⟨true, true⟩ =
      (staggered .recorded (some .scalar)).inferShapes ⟨false, true⟩ ∧
    (runProgram (fun _ => .ok recurrentText) [] ["inspect", "m.yaml"]).code = 0 ∧
    runProgram (fun _ => .ok recurrentText) [] ["inspect", "--fallback", "m.yaml"] =
      runProgram (fun _ => .ok recurrentText) [] ["inspect", "m.yaml"] := by
  obtain ⟨hresult, hshapes, -, hprogram⟩ := fallback_marks_unspecified
    (staggered .unspecified none) true (fun _ => .ok recurrentText) []
  obtain ⟨-, -, hsame, -⟩ := fallback_marks_unspecified
    (staggered .recorded (some .scalar)) true (fun _ => .ok recurrentText) []
  have hfailed : ((staggered .unspecified none).inferShapes ⟨true, true⟩).result =
      .error (.missingRecorded 9 5) := by decide
  have hheld : (((staggered .unspecified none).inferShapes ⟨true, true⟩).graph.node? 3).map
      Node.outputShapes = some [some ⟨[.fixed 4]⟩] := by decide
  have hrun : ((staggered .recorded (some .scalar)).inferShapes ⟨false, true⟩).result =
      .ok ⟨3, 2, 1, 0⟩ := by decide
  have hcode : (runProgram (fun _ => .ok recurrentText) [] ["inspect", "m.yaml"]).code = 0 := by
    decide +kernel
  refine ⟨hfailed, ?_, (hshapes 3).trans hheld, hrun, (hsame _ hrun).2, hcode, ?_⟩
  · rw [hresult, hfailed]
    rfl
  · exact hprogram ["inspect", "m.yaml"] ["inspect", "--fallback", "m.yaml"] "warn" "m.yaml" none
      (by decide) (by decide) hcode

end OpGraph
