import OpGraph.Binary64.Shortest
import OpGraph.Graph.Basic

/-!
# Graph documents

What a graph file says: layers with their data and ports, and the edges between them. Nothing is
checked here; dimensions and precisions are kept as they were recorded.
-/

namespace OpGraph

/-- The value of an entry of a layer's data. -/
inductive Datum where
  | bool (value : Bool)
  | int (value : Int64)
  | float (value : Binary64)
  | text (value : String)
  | list (items : List Datum)
  deriving Repr, Inhabited

namespace Datum

mutual

/-- The attribute text of a datum; the items of a list are separated by commas. -/
def render : Datum → String
  | bool value => if value then "true" else "false"
  | int value => Int.repr value.toInt
  | float value => value.text
  | text value => value
  | list items => String.intercalate "," (renderAll items)

/-- The attribute texts of the items of a list. -/
def renderAll : List Datum → List String
  | [] => []
  | item :: items => item.render :: renderAll items

end

end Datum

/-- A port of a layer, with its recorded dimensions and precision. -/
structure Document.Port where
  id : PortId
  precision : Option String := none
  -- the dimensions, `-1` for a dynamic one
  dims : Option (List Int64) := none
  deriving DecidableEq, Repr, Inhabited

/-- A layer: its number, name and type, its data, and its ports. -/
structure Document.Layer where
  id : NodeId
  name : String
  opType : String
  version : Option String := none
  data : Dictionary String Datum := .empty
  inputs : List Document.Port := []
  outputs : List Document.Port := []

/-- What a file says about a graph. -/
structure Document where
  name : String
  version : UInt32 := 11
  layers : List Document.Layer := []
  edges : List Edge := []

end OpGraph
