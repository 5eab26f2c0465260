import Mathlib.Data.List.Basic

/-!
# Generated code by the names in it

A class in a generated module is a text.  To speak about the members of the class and about the
variables of its methods, the text is taken apart into spans: a span names a member, declares a
variable, reads a variable, repeats something that the schema gives, or is fixed code.  A list of
names that is read off the spans leaves nothing out if fixed code is quiet: all words in it that
are not properties are keywords or known names.
-/

namespace TypedFetch.TypeScript

/-- A part of the text of a class. -/
inductive Span where
  /-- Code that is the same in every class. -/
  | code (s : String)
  /-- A type, a path, a literal, a comment, or the properties that are read from a variable. -/
  | given (s : String)
  /-- The name of a member where the class defines it. -/
  | member (name : String)
  /-- The name of a variable where it is declared. -/
  | declared (name : String)
  /-- The name of a variable where it is read. -/
  | used (name : String)

namespace Span

/-- The text of a span. -/
def text : Span → String
  | code s | given s | member s | declared s | used s => s

/-- The member that a span names. -/
def members : Span → List String
  | member name => [name]
  | _ => []

/-- The variable that a span declares. -/
def declares : Span → List String
  | declared name => [name]
  | _ => []

/-- The variable that a span reads. -/
def uses : Span → List String
  | used name => [name]
  | _ => []

end Span

/-! ## Lists of spans -/

/-- The text of spans. -/
def textOf (spans : List Span) : String := String.join (spans.map Span.text)

/-- The members that spans name, in order. -/
def membersOf (spans : List Span) : List String := spans.flatMap Span.members

/-- The variables that spans declare, in order. -/
def declaredBy (spans : List Span) : List String := spans.flatMap Span.declares

/-- The variables that spans read, in order. -/
def usedBy (spans : List Span) : List String := spans.flatMap Span.uses

section Lists

variable {α : Type} (s : Span) (spans spans' : List Span) (xs : List α) (f : α → List Span)

@[simp] lemma textOf_nil : textOf [] = "" := rfl

@[simp] lemma textOf_cons : textOf (s :: spans) = s.text ++ textOf spans := by simp [textOf]

@[simp] lemma textOf_append : textOf (spans ++ spans') = textOf spans ++ textOf spans' := by
  simp [textOf]

@[simp] lemma membersOf_nil : membersOf [] = [] := rfl

@[simp] lemma membersOf_cons : membersOf (s :: spans) = s.members ++ membersOf spans := rfl

@[simp] lemma membersOf_append :
    membersOf (spans ++ spans') = membersOf spans ++ membersOf spans' :=
  List.flatMap_append

@[simp] lemma membersOf_flatMap : membersOf (xs.flatMap f) = xs.flatMap fun x => membersOf (f x) :=
  List.flatMap_assoc

@[simp] lemma declaredBy_nil : declaredBy [] = [] := rfl

@[simp] lemma declaredBy_cons : declaredBy (s :: spans) = s.declares ++ declaredBy spans := rfl

@[simp] lemma declaredBy_append :
    declaredBy (spans ++ spans') = declaredBy spans ++ declaredBy spans' :=
  List.flatMap_append

@[simp] lemma declaredBy_flatMap :
    declaredBy (xs.flatMap f) = xs.flatMap fun x => declaredBy (f x) :=
  List.flatMap_assoc

@[simp] lemma usedBy_nil : usedBy [] = [] := rfl

@[simp] lemma usedBy_cons : usedBy (s :: spans) = s.uses ++ usedBy spans := rfl

@[simp] lemma usedBy_append : usedBy (spans ++ spans') = usedBy spans ++ usedBy spans' :=
  List.flatMap_append

@[simp] lemma usedBy_flatMap : usedBy (xs.flatMap f) = xs.flatMap fun x => usedBy (f x) :=
  List.flatMap_assoc

end Lists

/-- Spans that are made for each element of a list have the texts of the elements. -/
lemma textOf_flatMap {α : Type} {xs : List α} {f : α → List Span} {text : α → String}
    (h : ∀ x, textOf (f x) = text x) :
    textOf (xs.flatMap f) = String.join (xs.map text) := by
  induction xs with
  | nil => rfl
  | cons x xs ih => simp [ih, h]

/-! ## Quiet code -/

/-- A character of a word or of the properties that are read from it. -/
def isChainChar (c : Char) : Bool := c.isAlphanum || c == '_' || c == '.'

/-- The word with which a chain of properties starts; three dots in front of it spread its
value. -/
def chainRoot : List Char → List Char
  | '.' :: '.' :: '.' :: rest => rest.takeWhile (· != '.')
  | chain => chain.takeWhile (· != '.')

/-- The words of a text that are not properties. -/
def freeWords (cs : List Char) : List (List Char) :=
  ((cs.splitOnP fun c => !isChainChar c).map chainRoot).filter fun word => !word.isEmpty

/-- The words of fixed code: keywords, the function that makes a client of the runtime, and keys of
object literals. -/
def fixedWords : List (List Char) :=
  ["async", "const", "return", "private", "this", "as", "createRuntimeClient", "baseUrl",
   "field"].map String.toList

/-- All words of a text are words of fixed code. -/
def holdsFixedWords (cs : List Char) : Bool := (freeWords cs).all fixedWords.contains

/-- Fixed code names no member and no variable. -/
def Span.isQuiet : Span → Bool
  | code s => holdsFixedWords s.toList
  | _ => true

/-- The fixed code of spans names no member and no variable. -/
def Quiet (spans : List Span) : Prop := ∀ s ∈ spans, s.isQuiet = true

section Quiet

@[simp] lemma quiet_nil : Quiet [] := by simp [Quiet]

@[simp] lemma quiet_cons {s : Span} {spans : List Span} :
    Quiet (s :: spans) ↔ s.isQuiet = true ∧ Quiet spans := by
  simp [Quiet]

@[simp] lemma quiet_append {spans spans' : List Span} :
    Quiet (spans ++ spans') ↔ Quiet spans ∧ Quiet spans' := by
  simp [Quiet, or_imp, forall_and]

@[simp] lemma quiet_flatMap {α : Type} {xs : List α} {f : α → List Span} :
    Quiet (xs.flatMap f) ↔ ∀ x ∈ xs, Quiet (f x) := by
  simp only [Quiet, List.mem_flatMap]
  constructor
  · intro h x hx s hs
    exact h s ⟨x, hx, hs⟩
  · rintro h s ⟨x, hx, hs⟩
    exact h x hx s hs

@[simp] lemma isQuiet_given (s : String) : (Span.given s).isQuiet = true := rfl

@[simp] lemma isQuiet_member (name : String) : (Span.member name).isQuiet = true := rfl

@[simp] lemma isQuiet_declared (name : String) : (Span.declared name).isQuiet = true := rfl

@[simp] lemma isQuiet_used (name : String) : (Span.used name).isQuiet = true := rfl

lemma isQuiet_ofList {cs : List Char} (h : holdsFixedWords cs = true) :
    (Span.code (String.ofList cs)).isQuiet = true := by
  simpa [Span.isQuiet] using h

end Quiet

end TypedFetch.TypeScript
