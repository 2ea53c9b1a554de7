import OpGraph.Inference.Run
import OpGraph.Yaml.Decode

/-!
# Configuration of a restoration

A configuration says whether the inventory of extenders is collected, and how shapes are inferred.
-/

namespace OpGraph

open Yaml (Fault Value)
open Yaml.Value (RecordField)

/-- How a graph is restored from a file. -/
structure Config where
  collectInventory : Bool := false
  infer : InferOptions := {}
  deriving DecidableEq, Repr, Inhabited

namespace Config

structure PartialOptions where
  fallback : Option Bool := none
  verify : Option Bool := none

def optionFields : List (RecordField PartialOptions) :=
  [.of "fallback_to_ir_shapes" PartialOptions.fallback
      (fun o value => { o with fallback := some value }) Value.bool,
    .of "verify_against_ir" PartialOptions.verify
      (fun o value => { o with verify := some value }) Value.bool]

def decodeOptions (v : Value) : Except Fault InferOptions := do
  let o ← v.record "struct InferOptions" optionFields {}
  return { fallbackToRecorded := o.fallback.getD false, verify := o.verify.getD false }

structure Partial where
  collectInventory : Option Bool := none
  infer : Option InferOptions := none

def fields : List (RecordField Partial) :=
  [.of "collect_inventory" Partial.collectInventory
      (fun c value => { c with collectInventory := some value }) Value.bool,
    .of "infer" Partial.infer (fun c value => { c with infer := some value }) decodeOptions]

/-- Decode a configuration; everything is off by default. -/
def ofValue (v : Value) : Except Fault Config := do
  let c ← v.record "struct ReaderConfig" fields {}
  return { collectInventory := c.collectInventory.getD false, infer := c.infer.getD {} }

/-- Read a configuration from a text. -/
def decode (text : String) : Except Fault Config := Yaml.decode ofValue text

end Config

end OpGraph
