import OpGraph.Document.Basic
import OpGraph.Yaml.Decode

/-!
# Reading documents from YAML

Each record of a graph file is decoded from its fields, and the data of a layer to texts, numbers,
truth values and lists of these.
-/

namespace OpGraph

open Yaml (Fault Value)
open Yaml.Value (RecordField required)

namespace Datum

/-- The datum a scalar means; a null means none. Integers that do not fit into a signed 64-bit
integer become floating-point numbers. -/
def ofMeaning : Yaml.Meaning → Except Fault (Option Datum)
  | .null => .ok none
  | .bool value => .ok (some (.bool value))
  | .unsigned value =>
    match Numeral.toInt64? value.toNat with
    | some value => .ok (some (.int value))
    | none => .ok (some (.float (Binary64.ofNat value.toNat)))
  | .negative value => .ok (some (.int value))
  | .float value => .ok (some (.float value))
  | .text value => .ok (some (.text value))
  | .wide value signed =>
    .error (.data (.invalidType (.scalar (.wide value signed)) "any value"))

/-- Whether a tag names a type of its own. -/
def isForeign (tag : Option Yaml.Tag) : Bool := (tag.bind Yaml.Tag.localName?).isSome

mutual

/-- Read a value as a datum. The whole value is read before it is judged, so a fault inside comes
before the fact that the value as a whole is none. -/
def read? : Value → Except Fault (Option Datum)
  | .unreadable => .error .malformed
  | .scalar s =>
    if isForeign s.tag then .error .malformed
    else do ofMeaning (← s.meaningOrFault)
  | .sequence tag items =>
    if isForeign tag then .error .malformed
    else do return (← readItems? items).map .list
  | .mapping tag entries =>
    if isForeign tag then .error .malformed
    else do
      readEntries entries
      return none

/-- Read the items of a list. -/
def readItems? : List Value → Except Fault (Option (List Datum))
  | [] => .ok (some [])
  | v :: vs => do
    let item ← read? v
    let items ← readItems? vs
    return item.bind fun item => items.map (item :: ·)

/-- Read the entries of a mapping only for the faults in them. -/
def readEntries : List (Value × Value) → Except Fault Unit
  | [] => .ok ()
  | (k, v) :: es => do
    let _ ← read? k
    let _ ← read? v
    readEntries es

end

/-- The value of an entry of a layer's data: a scalar, or a list of such values. -/
def decode (v : Value) : Except Fault Datum := do
  match ← read? v with
  | some d => return d
  | none => throw (.data .noDatum)

end Datum

namespace Document

structure PartialPort where
  id : Option PortId := none
  precision : Option (Option String) := none
  dims : Option (Option (List Int64)) := none

def portFields : List (RecordField PartialPort) :=
  [.of "id" PartialPort.id (fun p value => { p with id := some value }) Value.uint32,
    .of "precision" PartialPort.precision (fun p value => { p with precision := some value })
      (Value.optional Value.text),
    .of "dims" PartialPort.dims (fun p value => { p with dims := some value })
      (Value.optional (Value.list Value.int64))]

def Port.decode (v : Value) : Except Fault Port := do
  let p ← v.record "struct IrPort" portFields {}
  return {
    id := ← required "id" p.id
    precision := p.precision.join
    dims := p.dims.join }

structure PartialLayer where
  id : Option NodeId := none
  name : Option String := none
  opType : Option String := none
  version : Option (Option String) := none
  data : Option (Dictionary String Datum) := none
  inputs : Option (List Port) := none
  outputs : Option (List Port) := none

def layerFields : List (RecordField PartialLayer) :=
  [.of "id" PartialLayer.id (fun l value => { l with id := some value }) Value.uint64,
    .of "name" PartialLayer.name (fun l value => { l with name := some value }) Value.text,
    .of "type" PartialLayer.opType (fun l value => { l with opType := some value }) Value.text,
    .of "version" PartialLayer.version (fun l value => { l with version := some value })
      (Value.optional Value.text),
    .of "data" PartialLayer.data (fun l value => { l with data := some value })
      (Value.dictionary Datum.decode),
    .of "input" PartialLayer.inputs (fun l value => { l with inputs := some value })
      (Value.list Port.decode),
    .of "output" PartialLayer.outputs (fun l value => { l with outputs := some value })
      (Value.list Port.decode)]

def Layer.decode (v : Value) : Except Fault Layer := do
  let l ← v.record "struct IrLayer" layerFields {}
  return {
    id := ← required "id" l.id
    name := ← required "name" l.name
    opType := ← required "type" l.opType
    version := l.version.join
    data := l.data.getD .empty
    inputs := l.inputs.getD []
    outputs := l.outputs.getD [] }

structure PartialEdge where
  fromLayer : Option NodeId := none
  fromPort : Option PortId := none
  toLayer : Option NodeId := none
  toPort : Option PortId := none

def edgeFields : List (RecordField PartialEdge) :=
  [.of "from_layer" PartialEdge.fromLayer (fun e value => { e with fromLayer := some value })
      Value.uint64,
    .of "from_port" PartialEdge.fromPort (fun e value => { e with fromPort := some value })
      Value.uint32,
    .of "to_layer" PartialEdge.toLayer (fun e value => { e with toLayer := some value })
      Value.uint64,
    .of "to_port" PartialEdge.toPort (fun e value => { e with toPort := some value })
      Value.uint32]

def decodeEdge (v : Value) : Except Fault Edge := do
  let e ← v.record "struct IrEdge" edgeFields {}
  let fromLayer ← required "from_layer" e.fromLayer
  let fromPort ← required "from_port" e.fromPort
  let toLayer ← required "to_layer" e.toLayer
  let toPort ← required "to_port" e.toPort
  return ⟨⟨fromLayer, fromPort⟩, ⟨toLayer, toPort⟩⟩

structure Partial where
  name : Option String := none
  version : Option UInt32 := none
  layers : Option (List Layer) := none
  edges : Option (List Edge) := none

def fields : List (RecordField Partial) :=
  [.of "name" Partial.name (fun d value => { d with name := some value }) Value.text,
    .of "version" Partial.version (fun d value => { d with version := some value }) Value.uint32,
    .of "layers" Partial.layers (fun d value => { d with layers := some value })
      (Value.list Layer.decode),
    .of "edges" Partial.edges (fun d value => { d with edges := some value })
      (Value.list decodeEdge)]

def ofValue (v : Value) : Except Fault Document := do
  let d ← v.record "struct IrDocument" fields {}
  let name ← required "name" d.name
  return {
    name
    version := d.version.getD 11
    layers := d.layers.getD []
    edges := d.edges.getD [] }

/-- Decode a document from a text. -/
def decode (text : String) : Except Fault Document := Yaml.decode ofValue text

end Document

end OpGraph
