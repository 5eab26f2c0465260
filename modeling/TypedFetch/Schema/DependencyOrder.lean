import TypedFetch.Schema.Basic

/-!
# Order of messages by dependency

Messages are listed so that each one follows the messages that its fields refer to.  The walk goes
depth first through the fields; where dependencies allow, the given order stays.  An edge that would
close a cycle is left out and reported.
-/

namespace TypedFetch.Schema

/-- The message name that a type name refers to. -/
def referredName (typeName : String) : String :=
  let cs := typeName.toList
  if ['[', ']'].isSuffixOf cs then String.ofList (cs.take (cs.length - 2)) else typeName

/-- The message of a name; of several, the last one. -/
def messageNamed? (messages : List Message) (name : String) : Option Message :=
  messages.reverse.find? (·.name == name)

/-- What a walk has found so far. -/
structure Walk where
  /-- The finished messages, the last one first. -/
  finished : List Message := []
  /-- The names of messages at which a cycle was cut, the last one first. -/
  cycles : List String := []

/-- A message of this name is finished. -/
def Walk.done (w : Walk) (name : String) : Bool :=
  w.finished.any (·.name == name)

/-- Walks from a message; `path` holds the names of the messages under way.  The depth of a walk
never exceeds the number of messages, which `fuel` bounds. -/
def visit (messages : List Message) : Nat → List String → Walk → Message → Walk
  | 0, _, w, _ => w
  | fuel + 1, path, w, m =>
    if w.done m.name then w
    else if path.contains m.name then { w with cycles := m.name :: w.cycles }
    else
      let w := m.fields.foldl
        (fun w f =>
          match messageNamed? messages (referredName f.typeName) with
          | some d => if w.done d.name then w else visit messages fuel (m.name :: path) w d
          | none => w)
        w
      { w with finished := m :: w.finished }

/-- The walk from each message in turn. -/
def walk (messages : List Message) : Walk :=
  messages.foldl (fun w m => visit messages (messages.length + 2) [] w m) {}

/-- The messages, one of each name, each after those that its fields refer to. -/
def dependencyOrder (messages : List Message) : List Message :=
  (walk messages).finished.reverse

/-- The names of the messages at which a cycle was cut, in order. -/
def dependencyCycles (messages : List Message) : List String :=
  (walk messages).cycles.reverse

end TypedFetch.Schema
