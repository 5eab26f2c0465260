import TypedFetch.Yaml.Node
import TypedFetch.Yaml.Scalar

/-!
# Reading of YAML

The value that a YAML text describes.  Every node is constructed once, where it is met first: a
scalar at once, and a collection when all that were met before it have been constructed.  So of two
faults the one in the collection that was met first counts.  Keys of mappings must be scalars; of
two equal keys the last one counts.  A merge key takes over the entries of other mappings, which
entries of the mapping itself replace.
-/

namespace TypedFetch.Yaml

/-- How far the construction of a document has come. -/
structure Construction where
  /-- The nodes, as merging has left them. -/
  graph : Graph
  /-- The values of the scalars that were met. -/
  values : List (Nat × Value) := []
  /-- The collections that were met. -/
  collections : List Nat := []
  /-- Those of them that are not constructed yet. -/
  waiting : List (CollectionKind × Nat) := []

namespace Construction

/-! ## Nodes that are met -/

/-- The value of a scalar. -/
def scalarValue (s : Construction) (k : ScalarKind) (n : Nat) : Except Fault Value := do
  let text ← s.graph.text Graph.textLimit n
  if k == .timestamp && s.graph.isMapping n then throw .mappingAsTimestamp
  k.read text

/-- The node was met before. -/
def isMet (s : Construction) (n : Nat) : Bool :=
  s.collections.contains n || (s.values.lookup n).isSome

/-- Meets a node. -/
def meet (s : Construction) (n : Nat) : Except Fault Construction :=
  if s.isMet n then .ok s
  else
    match (s.graph.node n).kind with
    | some (.collection k) =>
      .ok { s with collections := n :: s.collections, waiting := s.waiting ++ [(k, n)] }
    | some (.scalar k) => (s.scalarValue k n).map fun v => { s with values := (n, v) :: s.values }
    | _ => .error .malformed

/-- Meets the key and the value of an entry. -/
def meetEntry (s : Construction) (entry : Nat × Nat) : Except Fault Construction := do
  let s ← s.meet entry.1
  if s.collections.contains entry.1 then throw .malformed
  s.meet entry.2

/-- Meets the parts of an item of a list of pairs. -/
def meetPair (s : Construction) (item : Nat) : Except Fault Construction :=
  match (s.graph.node item).content with
  | .mapping [(key, value)] => do
    let s ← s.meet key
    s.meet value
  | _ => .error .malformed

/-! ## Collections -/

/-- Constructs a collection: meets what it holds, after merging. -/
def construct (s : Construction) (k : CollectionKind) (n : Nat) : Except Fault Construction :=
  match k, (s.graph.node n).content with
  | .sequence, .sequence items => items.foldlM meet s
  | .pairs, .sequence items => items.foldlM meetPair s
  | .mapping, .mapping _ | .set, .mapping _ => do
    let graph ← Graph.merge Graph.mergeLimit n s.graph
    (graph.entries n).foldlM meetEntry { s with graph }
  | _, _ => .error .malformed

/-- Constructs the collections that wait. -/
def finish : Nat → Construction → Except Fault Construction
  | 0, s => .ok s
  | fuel + 1, s =>
    match s.waiting with
    | [] => .ok s
    | (k, n) :: rest => do
      let s ← { s with waiting := rest }.construct k n
      s.finish fuel

/-- The value of a node that was constructed; a collection inside of itself is shown empty. -/
def value (s : Construction) : Nat → List Nat → Nat → Value
  | 0, _, _ => .null
  | fuel + 1, around, n =>
    match s.values.lookup n with
    | some v => v
    | none =>
      let isAround := around.contains n
      let inner := s.value fuel (n :: around)
      match (s.graph.node n).kind, (s.graph.node n).content with
      | some (.collection .sequence), .sequence items =>
        .list (if isAround then [] else items.map inner)
      | some (.collection .pairs), .sequence items =>
        let entries := if isAround then [] else items.flatMap s.graph.entries
        .list (entries.map fun (key, value) => .tuple [inner key, inner value])
      | some (.collection k), .mapping entries =>
        let entries := if isAround then [] else entries
        let found := Value.collect (entries.map fun (key, value) => (inner key, inner value))
        if k == .set then .set (found.map (·.1)) else .map found
      | _, _ => .null

end Construction

/-- What is constructed first: the root of a document. -/
def Document.start (d : Document) : Except Fault Construction :=
  ({ graph := d.graph } : Construction).meet d.root

/-- Constructs a document. -/
def Document.construct (d : Document) : Except Fault Construction := do
  let s ← d.start
  s.finish (d.graph.size + 1)

/-- The value that a text describes; a text without a document describes nothing. -/
def read (source : Source) : Except Stop Value := do
  match ← parse source with
  | none => return .null
  | some d =>
    match d.construct with
    | .ok s => return s.value (d.graph.size + 1) [] d.root
    | .error e => throw (.fault e)

end TypedFetch.Yaml
