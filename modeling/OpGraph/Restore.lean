import OpGraph.Document.Build
import OpGraph.Document.Config
import OpGraph.Document.Decode
import OpGraph.FileTree

/-!
# Restoring graphs from files

The whole way from a file to a graph with shapes: the text is decoded to a document, the document is
built with the builtin extenders and, if the configuration says so, those of an inventory, and
shapes are inferred.
-/

namespace OpGraph

/-- Why a graph cannot be restored. -/
inductive RestoreError where
  | file (path : String) (fault : FileFault)
  | yaml (fault : Yaml.Fault)
  | build (error : BuildError)
  | infer (error : InferError)
  deriving DecidableEq, Repr

namespace RestoreError

def yamlMessage : Yaml.Fault → String
  | .malformed => "not well formed"
  | .data e => e.message

def message : RestoreError → String
  | file path fault => s!"failed to read {path}: {fault.message}"
  | yaml fault => s!"malformed YAML: {yamlMessage fault}"
  | build e => e.message
  | infer e => e.message

/-- The text of the cause behind an error, if it has one of its own. -/
def cause? : RestoreError → Option String
  | file _ fault => some fault.message
  | yaml fault => some (yamlMessage fault)
  | build (.badDims _ _ e) => some e.message
  | _ => none

end RestoreError

/-- The graph of a YAML text, without inferred shapes. -/
def readGraph (registry : Registry) (text : String) : Except RestoreError Graph := do
  let document ← (Document.decode text).mapError RestoreError.yaml
  (document.build registry).mapError RestoreError.build

/-- The registry that a configuration asks for. -/
def Config.registry (config : Config) (inventory : List Extender) : Registry :=
  if config.collectInventory then Registry.builtin.collect inventory else .builtin

/-- Read a graph from the text of a file and infer its shapes. -/
def restoreGraph (inventory : List Extender) (config : Config) (text : String) :
    Except RestoreError (Graph × InferReport) := do
  let g ← readGraph (config.registry inventory) text
  let outcome := g.inferShapes config.infer
  let report ← outcome.result.mapError RestoreError.infer
  return (outcome.graph, report)

/-- How the texts of files are come by: from a path to the text or the fault. -/
abbrev FileReader := String → Except FileFault String

def readFile (files : FileReader) (path : String) : Except RestoreError String :=
  (files path).mapError (RestoreError.file path)

/-- The graph of a file, without inferred shapes. -/
def readGraphFile (registry : Registry) (files : FileReader) (path : String) :
    Except RestoreError Graph := do
  readGraph registry (← readFile files path)

/-- The graph of a file with inferred shapes. -/
def restoreGraphFile (inventory : List Extender) (config : Config) (files : FileReader)
    (path : String) : Except RestoreError (Graph × InferReport) := do
  restoreGraph inventory config (← readFile files path)

/-- Read a configuration from a file. -/
def readConfigFile (files : FileReader) (path : String) : Except RestoreError Config := do
  (Config.decode (← readFile files path)).mapError RestoreError.yaml

end OpGraph
