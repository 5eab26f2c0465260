import TypedFetch.Yaml.Kind

/-!
# Graphs of YAML nodes

The nodes of a document, by their numbers.  An alias stands for the node itself, so that several
collections can hold one node, and a collection can hold itself.  Before a mapping is constructed,
the entries of other mappings are merged into it; that changes its node, and so what every alias of
it stands for.
-/

namespace TypedFetch.Yaml

/-- What a node holds; the nodes in a collection are given by their numbers. -/
inductive Content where
  | scalar (text : String)
  | sequence (items : List Nat)
  | mapping (entries : List (Nat × Nat))
deriving Repr, BEq, DecidableEq

/-- A node. -/
structure Node where
  /-- The kind that it is constructed by; none if its tag is unknown. -/
  kind : Option Kind
  /-- What it holds. -/
  content : Content
deriving Repr, BEq, DecidableEq

/-- The nodes of a document. -/
abbrev Graph := Array Node

namespace Graph

/-- The node with a number. -/
def node (g : Graph) (n : Nat) : Node :=
  (g[n]?).getD { kind := none, content := .scalar "" }

/-- The entries of a mapping. -/
def entries (g : Graph) (n : Nat) : List (Nat × Nat) :=
  match (g.node n).content with
  | .mapping entries => entries
  | _ => []

/-- The node is a mapping. -/
def isMapping (g : Graph) (n : Nat) : Bool :=
  match (g.node n).content with
  | .mapping _ => true
  | _ => false

/-- Gives a node other content. -/
def setContent (g : Graph) (n : Nat) (content : Content) : Graph :=
  g.modify n fun node => { node with content }

/-- Gives a node another kind. -/
def setKind (g : Graph) (n : Nat) (kind : Kind) : Graph :=
  g.modify n fun node => { node with kind := some kind }

/-! ## Scalars -/

/-- How many mappings may be passed on the way to the text of a scalar. -/
def textLimit : Nat := 982

/-- The text of a node that is constructed as a scalar: the first value that a mapping marks by a
key stands for it. -/
def text (g : Graph) : Nat → Nat → Except Fault String
  | 0, _ => .error .tooDeep
  | depth + 1, n =>
    match (g.node n).content with
    | .scalar s => .ok s
    | .sequence _ => .error .malformed
    | .mapping entries =>
      match entries.find? fun (key, _) => (g.node key).kind == some .value with
      | some (_, value) => g.text depth value
      | none => .error .malformed

/-! ## Merging -/

/-- How many mappings may be merged into each other. -/
def mergeLimit : Nat := 986

/-- The first entry of a mapping that takes over the entries of others. -/
def mergeEntry? (g : Graph) (n : Nat) : Option (Nat × Nat) :=
  (g.entries n).find? fun (key, _) => (g.node key).kind == some .merge

/-- Takes the first entry with such a key out of a mapping. -/
def dropMergeEntry (g : Graph) (n : Nat) : Graph :=
  g.setContent n (.mapping ((g.entries n).eraseP fun (key, _) => (g.node key).kind == some .merge))

/-- A key that marks the value of a mapping is an ordinary text among other keys. -/
def unmarkKeys (g : Graph) (n : Nat) : Graph :=
  (g.entries n).foldl
    (fun g (key, _) =>
      if (g.node key).kind == some .value then g.setKind key (.scalar .text) else g) g

/-- Some entries, and the graph after they were found. -/
abbrev Found := List (Nat × Nat) × Graph

/-- The entries of mappings, of which the first one counts most; `merge` prepares each mapping. -/
def itemEntries (merge : Nat → Graph → Except Fault Graph) :
    List Nat → Graph → Except Fault Found
  | [], g => .ok ([], g)
  | item :: rest, g => do
    if !g.isMapping item then throw .malformed
    let g ← merge item g
    let (others, g') ← itemEntries merge rest g
    return (others ++ g.entries item, g')

/-- The entries that a node gives to a mapping that takes them over. -/
def givenEntries (merge : Nat → Graph → Except Fault Graph) (n : Nat) (g : Graph) :
    Except Fault Found :=
  match (g.node n).content with
  | .mapping _ => do
    let g ← merge n g
    return (g.entries n, g)
  | .sequence items => itemEntries merge items g
  | .scalar _ => .error .malformed

/-- Takes at most so many merge keys out of a mapping, one after the other, and collects what they
take over. -/
def takenEntries (merge : Nat → Graph → Except Fault Graph) (n : Nat) :
    Nat → Graph → Except Fault Found
  | 0, g => .ok ([], g)
  | count + 1, g =>
    match g.mergeEntry? n with
    | none => .ok ([], g)
    | some (_, value) => do
      let (first, g) ← givenEntries merge value (g.dropMergeEntry n)
      let (others, g) ← takenEntries merge n count g
      return (first ++ others, g)

/-- Merges into a mapping what its merge keys take over, in front of its own entries. -/
def merge : Nat → Nat → Graph → Except Fault Graph
  | 0 => fun _ _ => .error .tooDeep
  | depth + 1 => fun n g => do
    let (taken, g) ← takenEntries (merge depth) n (g.entries n).length (g.unmarkKeys n)
    return g.setContent n (.mapping (taken ++ g.entries n))

end Graph

end TypedFetch.Yaml
