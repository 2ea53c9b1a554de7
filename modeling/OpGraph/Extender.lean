import OpGraph.Node

/-!
# Extenders

An extender knows one operator type. When a node of that type is read, the extender may replace its
strategy and set attributes; it cannot touch anything else. A registry holds one extender for a tag.
Explicit registration replaces what the tag had; collecting an inventory only fills tags that are
free.

## Main definitions

- `Amendment`, `Extender`: what an extender may do, and an extender
- `Offer`: an extender in an inventory
- `Registry`, `Registry.exchange`, `Registry.register`, `Registry.collectOffers`, `Registry.extend?`
- `Registry.builtin`: the extenders that are always there
-/

namespace OpGraph

/-- One change that an extender makes to a node. By their documented contract extenders set the
strategy and attribute values and nothing else. The type of the function that an extender runs
permits more, such as another node in place of the one that was read; an extender that does so
breaks the contract and is not described here. -/
inductive Amendment where
  | setStrategy (s : Strategy)
  | setAttribute (key value : String)
  deriving DecidableEq, Repr

/-- Make one change to a node. -/
def Node.amend (n : Node) : Amendment → Node
  | .setStrategy s => { n with strategy := s }
  | .setAttribute key value => { n with attributes := n.attributes.set key value }

/-- Knowledge about one operator type: the changes that are made to a node, as a function of the
node. So an extender makes the same changes to the same node whenever it is applied; one that keeps
a state of its own between nodes, which its type alone would permit, is not described here. -/
structure Extender where
  opType : String
  amendments : Node → List Amendment

namespace Extender

/-- The node after all changes, made one after the other. -/
def extend (x : Extender) (n : Node) : Node := (x.amendments n).foldl Node.amend n

/-- An extender that makes the same changes to every node. -/
def constant (opType : String) (amendments : List Amendment) : Extender :=
  ⟨opType, fun _ => amendments⟩

/-- A recurrent network over a whole sequence: the recorded shapes are kept, since they cannot be
computed from the inputs without running the cell. -/
def sequence (opType : String) : Extender := constant opType [.setStrategy .recorded]

/-- A graph input: its shape stands in an attribute. A `precision` attribute is copied in lower case
to `element_type` unless that is set already. -/
def parameter : Extender where
  opType := "Parameter"
  amendments n :=
    let elementType :=
      match n.attribute? "element_type", n.attribute? "precision" with
      | none, some precision => [.setAttribute "element_type" precision.toLower]
      | _, _ => []
    elementType ++ [.setStrategy .fromAttribute]

end Extender

/-- An extender in an inventory, with the tag that it is offered for. -/
structure Offer where
  tag : String
  extender : Extender

/-- The offer of an extender for the operator type that it is made for. -/
def Extender.offer (x : Extender) : Offer := ⟨x.opType, x⟩

/-- Extenders by tag, the operator type they are applied to. -/
structure Registry where
  extenders : Dictionary String Extender

namespace Registry

def empty : Registry := ⟨.empty⟩

def get? (r : Registry) (tag : String) : Option Extender := r.extenders.get? tag

def contains (r : Registry) (tag : String) : Bool := r.extenders.contains tag

/-- Number of extenders. -/
def size (r : Registry) : Nat := r.extenders.size

/-- The tags, ascending. -/
def opTypes (r : Registry) : List String := r.extenders.keys

/-- Register an extender under a tag of choice, and give back the extender that it replaces. -/
def exchange (r : Registry) (tag : String) (x : Extender) : Option Extender × Registry :=
  ((r.extenders.exchange tag x).1, ⟨(r.extenders.exchange tag x).2⟩)

/-- Register an extender under a tag of choice. -/
def registerUnder (r : Registry) (tag : String) (x : Extender) : Registry := (r.exchange tag x).2

/-- Register an extender under the operator type it is made for. -/
def register (r : Registry) (x : Extender) : Registry := r.registerUnder x.opType x

/-- Register every extender that is offered for a tag that is still free. -/
def collectOffers (r : Registry) (offers : List Offer) : Registry :=
  offers.foldl (fun r o => if r.contains o.tag then r else r.registerUnder o.tag o.extender) r

/-- Register every extender of an inventory whose operator type is still free. -/
def collect (r : Registry) (inventory : List Extender) : Registry :=
  r.collectOffers (inventory.map Extender.offer)

/-- The node as its extender leaves it; nothing if its operator type has no extender. -/
def extend? (r : Registry) (n : Node) : Option Node := (r.get? n.opType).map fun x => x.extend n

/-- The node as its extender leaves it, or unchanged. -/
def extend (r : Registry) (n : Node) : Node := (r.extend? n).getD n

/-- The extenders that are always there. -/
def builtins : List Extender :=
  [.sequence "GRUSequence", .sequence "LSTMSequence", .sequence "RNNSequence", .parameter]

/-- The registry of the extenders that are always there. -/
def builtin : Registry := builtins.foldl register empty

end Registry

end OpGraph
