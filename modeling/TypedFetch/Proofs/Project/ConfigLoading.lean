import TypedFetch.CommandLine.Run
import TypedFetch.Proofs.Files.Reading
import TypedFetch.Proofs.Json.Reading
import TypedFetch.Proofs.Text.Utf8
import TypedFetch.Proofs.Yaml.Construction

/-!
# Which configuration files are answered

Loading a configuration file gives its entries or an error that is meant for the user, but not for
all files.  `loadConfig_answers_iff` tells for which: the path has to be one, the bytes of a file
have to be the encoding of a text, and nothing in the text may stand for no value or be nested too
deeply.  YAML is decoded while it is read, so that a file which is not well formed is answered even
if bytes further on are no text.  A call breaks off over its configuration file in all other cases
and only there, apart from a working directory in which no file can be searched for.
-/

namespace TypedFetch.Project

open TypedFetch.Files

/-- What is written in a configuration file stands for a value, unless it is not well formed. -/
def StandsForValue (path : Path) (text : List Char) : Prop :=
  if path.suffix = ".json" then ¬ Json.TooDeep text ∧ ¬ Json.TooLong text
  else ¬ Yaml.HasValueFault (.ofText text)

/-- A YAML file is not well formed, and that shows before the bytes in it that are no text. -/
def IsMalformedBefore (path : Path) (bytes : List UInt8) : Prop :=
  path.suffix ≠ ".json" ∧ ∃ e, Text.decodeUtf8 bytes = .error e ∧
    ¬ Yaml.HasValueFault (.ofText (Text.readable bytes) (some e))

/-- A configuration file that has entries, or about which the user is told what is wrong: its path
is one, and if it can be read, it is a text in which everything that is well formed stands for a
value, or not well formed where it is a text. -/
structure IsAnswered (tree : Tree) (path : Path) : Prop where
  proper : ¬ path.IsImproper
  content : ∀ bytes, tree.read path = .ok bytes →
    (∃ cs, bytes = cs.flatMap String.utf8EncodeChar ∧ StandsForValue path (Text.unifyNewlines cs)) ∨
      IsMalformedBefore path bytes

/-- The result of loading is a mapping, or an error that is meant for the user. -/
def ConfigOutcome.IsAnswer (o : ConfigOutcome) : Prop :=
  (∃ entries, o.result = .ok entries) ∨ ∃ e, o.result = .error (.config e)

variable {tree : Tree} {path : Path} {bytes : List UInt8}

/-! ## From bytes to entries -/

lemma isAnswer_configEntries (v : Value) (events : List Event) :
    (ConfigOutcome.mk events (configEntries v)).IsAnswer := by
  unfold configEntries
  split
  · exact .inl ⟨_, rfl⟩
  · exact .inl ⟨_, rfl⟩
  · exact .inr ⟨_, rfl⟩

/-- The bytes of a file have a value, or none and the user is told. -/
def IsTold (path : Path) (bytes : List UInt8) : Prop :=
  (∃ v, configValue path bytes = .ok v) ∨ ∃ e, configValue path bytes = .error (.config e)

lemma isTold_json (hjson : path.suffix = ".json") : IsTold path bytes ↔
    ∃ cs, Text.decodeUtf8 bytes = .ok cs ∧ ¬ Json.TooDeep (Text.unifyNewlines cs) ∧
      ¬ Json.TooLong (Text.unifyNewlines cs) := by
  unfold IsTold configValue
  rw [if_pos (beq_iff_eq.2 hjson)]
  cases Text.decodeUtf8 bytes with
  | error e => simp
  | ok cs =>
    simp only [Except.ok.injEq, exists_eq_left', ← Json.read_eq_tooDeep_iff,
      ← Json.read_eq_tooManyDigits_iff]
    rcases Json.read (Text.unifyNewlines cs) with (_ | _ | _) | v <;> simp

lemma isTold_yaml (hjson : path.suffix ≠ ".json") :
    IsTold path bytes ↔ ¬ Yaml.HasValueFault (.ofBytes bytes) := by
  unfold IsTold configValue
  rw [if_neg (by simpa using hjson), Yaml.hasValueFault_iff]
  cases Yaml.read (.ofBytes bytes) with
  | ok v => simp
  | error stop =>
    cases stop with
    | fault e => cases e <;> simp
    | noText e => simp

/-- The user is told about bytes that are a text exactly if it stands for a value, and about others
exactly if they are not well formed where they are a text. -/
lemma isTold_iff : IsTold path bytes ↔
    (∃ cs, Text.decodeUtf8 bytes = .ok cs ∧ StandsForValue path (Text.unifyNewlines cs)) ∨
      IsMalformedBefore path bytes := by
  unfold StandsForValue IsMalformedBefore
  by_cases hjson : path.suffix = ".json"
  · simp [isTold_json hjson, hjson]
  · rw [isTold_yaml hjson, Yaml.Source.ofBytes]
    cases Text.decodeUtf8 bytes <;> simp [hjson]

lemma not_isAnswer_error {e : ConfigFailure} (he : ∀ e', e ≠ .config e') {events : List Event} :
    ¬ (ConfigOutcome.mk events (.error e)).IsAnswer := by
  rintro (⟨entries, h⟩ | ⟨e', h⟩)
  · cases h
  · exact he e' (Except.error.inj h)

lemma isAnswer_of_read (hread : tree.read path = .ok bytes) :
    (loadConfig tree path).IsAnswer ↔ IsTold path bytes := by
  rw [loadConfig, hread, IsTold]
  dsimp only
  cases configValue path bytes with
  | ok v => exact iff_of_true (isAnswer_configEntries v _) (.inl ⟨v, rfl⟩)
  | error e =>
    dsimp only
    cases e with
    | config e => exact iff_of_true (.inr ⟨e, rfl⟩) (.inr ⟨e, rfl⟩)
    | _ => exact iff_of_false (not_isAnswer_error fun e' => by simp) (by simp)

/-! ## Files -/

lemma isAnswer_loadConfig_iff : (loadConfig tree path).IsAnswer ↔ IsAnswered tree path := by
  cases hread : tree.read path with
  | error e =>
    rw [loadConfig, hread]
    -- a refusal of the system is reported, a path that is none stops the program
    cases hsystem : e.isOfSystem with
    | true =>
      have hproper : ¬ path.IsImproper := fun himproper => by
        rw [read_of_isImproper himproper] at hread
        rw [← Except.error.inj hread] at hsystem
        cases hsystem
      exact iff_of_true (.inr ⟨.unreadable path e, by simp [hsystem]⟩) ⟨hproper, by simp [hread]⟩
    | false =>
      refine iff_of_false ?_ fun h => h.proper (isImproper_of_read hread hsystem)
      simpa [hsystem] using not_isAnswer_error (by simp)
  | ok bytes =>
    have hproper : ¬ path.IsImproper := fun himproper => by
      rw [read_of_isImproper himproper] at hread
      cases hread
    simp only [isAnswer_of_read hread, isTold_iff, Text.decodeUtf8_eq_ok_iff]
    exact ⟨fun h => ⟨hproper, by simpa [hread] using h⟩, fun h => h.content bytes hread⟩

end TypedFetch.Project

/-! ## Calls -/

namespace TypedFetch.CommandLine

open TypedFetch.Files
open TypedFetch.Project

/-- The configuration file of a call is the one that is named, or else the first one that is found
in the working directory. -/
def Invocation.Uses (i : Invocation) (tree : Tree) (path : Path) : Prop :=
  i.config = some path ∨
    i.config = none ∧ discoverConfig tree (.absolute tree.home) = .ok (some path)

/-- In the working directory no file can be searched for, because the names would be too long. -/
def Invocation.CannotSearch (i : Invocation) (tree : Tree) : Prop :=
  i.config = none ∧ ∃ e, discoverConfig tree (.absolute tree.home) = .error e

/-- The call breaks off before its options are known. -/
def Invocation.BreaksOff (i : Invocation) (tree : Tree) (bundled : Path) : Prop :=
  ∃ c, (requestedOptions tree i).2 = .error (.crashed c) ∧
    (perform tree bundled i).ending = .crashed c

variable {tree : Tree} {i : Invocation}

lemma perform_ending_of_requestedOptions {ending : Ending} (bundled : Path)
    (h : (requestedOptions tree i).2 = .error ending) :
    (perform tree bundled i).ending = ending := by
  rcases hresult : requestedOptions tree i with ⟨events, result⟩
  obtain rfl : result = .error ending := by rwa [hresult] at h
  rw [perform, settle, hresult]

lemma exists_crashed_iff : (∃ c, (requestedOptions tree i).2 = .error (.crashed c)) ↔
    ¬ (configuration tree i).IsAnswer := by
  unfold requestedOptions ConfigOutcome.IsAnswer
  dsimp only
  generalize (configuration tree i).events = events
  cases (configuration tree i).result with
  | error e => cases e <;> simp [endingOf]
  | ok entries =>
    dsimp only
    cases configuredOptions entries i.overrides <;> simp

lemma breaksOff_iff {bundled : Path} : i.BreaksOff tree bundled ↔
    (∃ path, i.Uses tree path ∧ ¬ IsAnswered tree path) ∨ i.CannotSearch tree := by
  have hcrashed : i.BreaksOff tree bundled ↔ ¬ (configuration tree i).IsAnswer := by
    rw [← exists_crashed_iff]
    exact ⟨fun ⟨c, hc, _⟩ => ⟨c, hc⟩,
      fun ⟨c, hc⟩ => ⟨c, hc, perform_ending_of_requestedOptions bundled hc⟩⟩
  rw [hcrashed]
  unfold Invocation.CannotSearch Invocation.Uses configuration
  cases i.config with
  | some path => simp [isAnswer_loadConfig_iff]
  | none =>
    cases discoverConfig tree (.absolute tree.home) with
    | error e => simpa using not_isAnswer_error (by simp)
    | ok found =>
      cases found with
      | none => simp [ConfigOutcome.IsAnswer]
      | some path => simp [isAnswer_loadConfig_iff]

/-- A date that does not exist has the form of one, and no error for the user. -/
example :
    let tree : Tree := { entries := [(["c.yaml"], .file "since: 2001-99-99".toUTF8.toList)] }
    (match (loadConfig tree (.ofText "c.yaml")).result with
      | .error (.value .notValue) => true
      | _ => false) = true := by
  decide +kernel

end TypedFetch.CommandLine
