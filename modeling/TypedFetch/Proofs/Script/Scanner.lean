import Mathlib.Data.List.Basic
import TypedFetch.Text.Search

/-!
# Reading script into tokens

The part of the script language in which the bodies of client methods are written: names, marks,
single-quoted literals and template literals, whose substitutions read a property of a variable.
The scanner reads one character after the other, so that a text can be scanned in parts.

A text outside of this part has no tokens, and neither has one in which a literal is not closed.
-/

namespace TypedFetch.Script

/-- A name, by its characters. -/
abbrev Name := List Char

/-- A character with which a name can start. -/
def isNameStart (c : Char) : Bool := c.isAlpha || c == '_' || c == '$'

/-- A character of a name. -/
def isNameChar (c : Char) : Bool := c.isAlphanum || c == '_' || c == '$'

/-- The characters make a name. -/
def isName : List Char → Bool
  | [] => false
  | c :: cs => isNameStart c && cs.all isNameChar

/-- A part of a template literal. -/
inductive Part where
  /-- A character that stands for itself. -/
  | char (c : Char)
  /-- A substitution: a variable and the properties that are read from it, one after the other. -/
  | access (path : List Name)
deriving DecidableEq

/-- A mark. -/
inductive Mark where
  | braceOpen
  | braceClose
  | parenOpen
  | parenClose
  | angleOpen
  | angleClose
  | comma
  | semicolon
  | equals
  | dot
deriving DecidableEq

/-- A token. -/
inductive Token where
  | word (cs : Name)
  | mark (m : Mark)
  /-- Three dots. -/
  | spread
  /-- A single-quoted literal, by its value. -/
  | text (cs : List Char)
  | template (parts : List Part)
deriving DecidableEq

/-- Where the scanner stands. -/
inductive State where
  /-- Between tokens. -/
  | between
  /-- After the characters of a word. -/
  | word (cs : Name)
  /-- After one dot. -/
  | dot
  /-- After two dots. -/
  | dots
  /-- In a single-quoted literal. -/
  | text (cs : List Char)
  /-- After a backslash in a single-quoted literal. -/
  | textEscape (cs : List Char)
  /-- In a character code of a single-quoted literal, of which some digits are still to come. -/
  | textCode (cs : List Char) (left code : Nat)
  /-- In a template literal. -/
  | template (ps : List Part)
  /-- After a backslash in a template literal. -/
  | templateEscape (ps : List Part)
  /-- After a dollar sign in a template literal. -/
  | dollar (ps : List Part)
  /-- After a carriage return in a template literal. -/
  | carriage (ps : List Part)
  /-- In a substitution of a template literal. -/
  | hole (ps : List Part) (cs : List Char)

/-- The marks of one character.  A dot is not among them, as it can start three dots. -/
def mark? : Char → Option Mark
  | '\x7b' => some .braceOpen
  | '\x7d' => some .braceClose
  | '(' => some .parenOpen
  | ')' => some .parenClose
  | '<' => some .angleOpen
  | '>' => some .angleClose
  | ',' => some .comma
  | ';' => some .semicolon
  | '=' => some .equals
  | _ => none

/-- Reads a character between tokens. -/
def fresh (c : Char) : Option (State × List Token) :=
  if c == ' ' || c == '\n' then some (.between, [])
  else if isNameStart c then some (.word [c], [])
  else if c == '.' then some (.dot, [])
  else if c == '\'' then some (.text [], [])
  else if c == '\x60' then some (.template [], [])
  else (mark? c).map fun m => (.between, [.mark m])

/-- Reads a character that ends a token. -/
def freshAfter (t : Token) (c : Char) : Option (State × List Token) :=
  (fresh c).map fun (s, ts) => (s, t :: ts)

/-- What a character stands for after a backslash.  Character codes and octal escapes are left
out; a line end continues the literal on the next line. -/
def escapeValue? (c : Char) : Option (List Char) :=
  if c == 'n' then some ['\n']
  else if c == 'r' then some ['\r']
  else if c == 't' then some ['\t']
  else if c == 'b' then some ['\x08']
  else if c == 'f' then some ['\x0c']
  else if c == 'v' then some ['\x0b']
  else if c == '\n' || c == '\u2028' || c == '\u2029' then some []
  else if c == 'u' || c == 'x' || c == '\r' || c.isDigit then none
  else some [c]

/-- The value of a hexadecimal digit. -/
def hexValue? (c : Char) : Option Nat :=
  if c.isDigit then some (c.toNat - 48)
  else if 97 ≤ c.toNat ∧ c.toNat ≤ 102 then some (c.toNat - 87)
  else if 65 ≤ c.toNat ∧ c.toNat ≤ 70 then some (c.toNat - 55)
  else none

/-- The variable and the properties of a substitution. -/
def accessPath? (cs : List Char) : Option (List Name) :=
  let path := Text.cutAt '.' cs
  if path.all isName then some path else none

/-- Reads a character of a template literal.  Line ends are read as line feeds. -/
def inTemplate (ps : List Part) (c : Char) : State × List Token :=
  if c == '\x60' then (.between, [.template ps])
  else if c == '\\' then (.templateEscape ps, [])
  else if c == '$' then (.dollar ps, [])
  else if c == '\r' then (.carriage (ps ++ [.char '\n']), [])
  else (.template (ps ++ [.char c]), [])

/-- Reads a character. -/
def step : State → Char → Option (State × List Token)
  | .between, c => fresh c
  | .word cs, c => if isNameChar c then some (.word (cs ++ [c]), []) else freshAfter (.word cs) c
  | .dot, c => if c == '.' then some (.dots, []) else freshAfter (.mark .dot) c
  | .dots, c => if c == '.' then some (.between, [.spread]) else none
  | .text cs, c =>
    if c == '\'' then some (.between, [.text cs])
    else if c == '\\' then some (.textEscape cs, [])
    else if c == '\n' || c == '\r' then none
    else some (.text (cs ++ [c]), [])
  | .textEscape cs, c =>
    if c == 'u' then some (.textCode cs 4 0, [])
    else (escapeValue? c).map fun v => (.text (cs ++ v), [])
  | .textCode cs left code, c =>
    (hexValue? c).bind fun d =>
      let code := 16 * code + d
      if left == 1 then
        if code.isValidChar then some (.text (cs ++ [Char.ofNat code]), []) else none
      else some (.textCode cs (left - 1) code, [])
  | .template ps, c => some (inTemplate ps c)
  | .templateEscape ps, c => (escapeValue? c).map fun v => (.template (ps ++ v.map .char), [])
  | .dollar ps, c =>
    if c == '\x7b' then some (.hole ps [], []) else some (inTemplate (ps ++ [.char '$']) c)
  | .carriage ps, c => if c == '\n' then some (.template ps, []) else some (inTemplate ps c)
  | .hole ps cs, c =>
    if c == '\x7d' then (accessPath? cs).map fun path => (.template (ps ++ [.access path]), [])
    else if isNameChar c || c == '.' then some (.hole ps (cs ++ [c]), [])
    else none

/-- A result after tokens that were read before. -/
def after (ts : List Token) (r : State × List Token) : State × List Token := (r.1, ts ++ r.2)

/-- Reads a text from a state on. -/
def scan : State → List Char → Option (State × List Token)
  | s, [] => some (s, [])
  | s, c :: cs => (step s c).bind fun r => (scan r.1 cs).map (after r.2)

/-- The tokens of a text. -/
def tokens (text : List Char) : Option (List Token) :=
  match scan .between text with
  | some (.between, ts) => some ts
  | _ => none

/-! ## Scanning in parts -/

@[simp] lemma scan_nil (s : State) : scan s [] = some (s, []) := rfl

@[simp] lemma after_nil : after [] = id := rfl

lemma after_after (ts ts' : List Token) (r : State × List Token) :
    after ts (after ts' r) = after (ts ++ ts') r := by
  simp [after]

lemma scan_cons {s s₁ : State} {c : Char} {ts : List Token} (h : step s c = some (s₁, ts))
    (cs : List Char) : scan s (c :: cs) = (scan s₁ cs).map (after ts) := by
  rw [scan, h]
  rfl

/-- A character that ends no token only moves the scanner. -/
lemma scan_move {s s₁ : State} {c : Char} (h : step s c = some (s₁, [])) (cs : List Char) :
    scan s (c :: cs) = scan s₁ cs := by
  rw [scan_cons h, after_nil, Option.map_id, id]

/-- Where the first part of a text is read, the rest is read from where the scanner stands then. -/
lemma scan_append {s s₁ : State} {xs : List Char} {ts : List Token}
    (h : scan s xs = some (s₁, ts)) (ys : List Char) :
    scan s (xs ++ ys) = (scan s₁ ys).map (after ts) := by
  induction xs generalizing s ts with
  | nil =>
    obtain ⟨rfl, rfl⟩ : s = s₁ ∧ [] = ts := by simpa using h
    simp
  | cons c cs ih =>
    rcases hstep : step s c with _ | ⟨s', ts'⟩
    · simp [scan, hstep] at h
    · rw [scan_cons hstep] at h
      obtain ⟨⟨s'', ts''⟩, hscan, hafter⟩ := Option.map_eq_some_iff.1 h
      obtain ⟨rfl, rfl⟩ : s'' = s₁ ∧ ts' ++ ts'' = ts := by simpa [after] using hafter
      rw [List.cons_append, scan_cons hstep, ih hscan, Option.map_map]
      simp only [Function.comp_def, after_after]

/-- Two parts of a text, one after the other. -/
lemma scan_append_eq {s s₁ s₂ : State} {xs ys : List Char} {ts ts' : List Token}
    (h : scan s xs = some (s₁, ts)) (h' : scan s₁ ys = some (s₂, ts')) :
    scan s (xs ++ ys) = some (s₂, ts ++ ts') := by
  rw [scan_append h, h']
  rfl

/-- The characters of a name that are still to come. -/
lemma scan_word (cs : Name) {ds : List Char} (h : ds.all isNameChar = true) :
    scan (.word cs) ds = some (.word (cs ++ ds), []) := by
  induction ds generalizing cs with
  | nil => simp
  | cons d ds ih =>
    obtain ⟨hd, hds⟩ : isNameChar d = true ∧ ds.all isNameChar = true := by simpa using h
    have hstep : step (.word cs) d = some (.word (cs ++ [d]), []) := by simp [step, hd]
    rw [scan_move hstep, ih _ hds]
    simp

/-- A name between tokens. -/
lemma scan_name {x : Name} (h : isName x = true) : scan .between x = some (.word x, []) := by
  cases x with
  | nil => exact absurd h (by simp [isName])
  | cons c cs =>
    obtain ⟨hc, hcs⟩ : isNameStart c = true ∧ cs.all isNameChar = true := by
      simpa [isName] using h
    have hblank : ¬ (c = ' ' ∨ c = '\n') := by
      rintro (rfl | rfl) <;> exact absurd hc (by decide)
    have hfresh : step .between c = some (.word [c], []) := by
      simp [step, fresh, hblank, hc]
    rw [scan_move hfresh, scan_word _ hcs]
    rfl

end TypedFetch.Script
