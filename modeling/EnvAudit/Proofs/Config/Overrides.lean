import EnvAudit.Catalogue
import EnvAudit.Proofs.Config.RoundTrip

/-!
# Options over a configuration

To lay options over a configuration, the configuration is written as a document, the values that are given replace
entries of the document, and the result is read again. Every field that is not given comes back from the document as it
was, and the rules do not go through the document at all. So options amount to a record update (`overriddenBy`), and
two updates in a row amount to one. Main statement: `merge_overrides`.
-/

namespace EnvAudit.Config
open Checked Document Json

/-! ## Options -/

def scalarNames : List String :=
  ["env_file", "schema_file", "example_file", "mode", "output_format", "strict", "verbose", "exit_on_error"]

namespace Options

def given (o : Options) : Options := o.filter fun entry => !entry.2.isNull

def value? (o : Options) (name : String) : Option Json := o.given.lookup name

def patterns (o : Options) : List Json :=
  match o.value? "ignore_patterns" with
  | some (.arr items) => items
  | _ => []

def andThen (o later : Options) : Options :=
  ("ignore_patterns", .arr (o.patterns ++ later.patterns)) ::
    scalarNames.map fun name => (name, ((later.value? name).or (o.value? name)).getD .null)

end Options

abbrev ReadAs {α : Type} (read : Document → Checked α) : Option Json → Option α → Prop :=
  Option.Rel fun v a => read v.toDocument = .ok a

namespace ReadAs
variable {α : Type} {read : Document → Checked α}

theorem or {v later : Option Json} {a laterRead : Option α} (h : ReadAs read v a)
    (hlater : ReadAs read later laterRead) : ReadAs read (later.or v) (laterRead.or a) := by
  cases hlater with
  | some value => exact .some value
  | none => exact h

theorem exists_of_mem {v : Option Json} {given : Option α} (h : ReadAs read v given) {a : α} (member : a ∈ given) :
    ∃ d, read d = .ok a := by
  cases h with
  | some value =>
      cases member
      exact ⟨_, value⟩
  | none => cases member

theorem getD {v : Option Json} {a : Option α} (h : ReadAs read v a) (current : Json) {old : α}
    (back : read current.toDocument = .ok old) : read (v.getD current).toDocument = .ok (a.getD old) := by
  cases h with
  | some value => exact value
  | none => exact back

theorem or_optional {v : Option Json} {a : Option α} (h : ReadAs read v a) (refuses : ∀ a, read .null ≠ .ok a)
    (write : α → Json) {old : Option α} (back : ∀ a ∈ old, read (write a).toDocument = .ok a) :
    asOptional read (v.getD (.orNull write old)).toDocument = .ok (a.or old) := by
  have filled {v : Json} {a : α} (value : read v.toDocument = .ok a) : asOptional read v.toDocument = .ok (some a) := by
    rw [asOptional]
    · exact map_ok value
    · exact fun null => refuses a (null ▸ value)
  cases h with
  | some value => exact filled value
  | none =>
      cases old with
      | none => rfl
      | some a => exact filled (back a rfl)

end ReadAs

namespace Options

theorem filter_eq_given (o : Options) {p : String × Json → Bool} (same : ∀ entry, p entry = !entry.2.isNull) :
    o.filter p = o.given :=
  List.filter_congr fun entry _ => same entry

theorem value?_cons (name other : String) (v : Json) (o : Options) :
    value? ((other, v) :: o) name = if other = name ∧ v.isNull = false then some v else value? o name := by
  unfold value? given
  cases null : v.isNull with
  | true => simp [null]
  | false =>
      by_cases same : other = name
      · simp [null, same]
      · simp [null, same, List.lookup_cons, beq_eq_false_iff_ne.mpr (Ne.symm same)]

theorem isNull_of_value? {o : Options} {name : String} {v : Json} (found : o.value? name = some v) :
    v.isNull = false := by
  induction o with
  | nil => cases found
  | cons entry o ih =>
      obtain ⟨other, w⟩ := entry
      rw [value?_cons] at found
      split at found
      · rename_i here
        exact Option.some.inj found ▸ here.2
      · exact ih found

theorem value?_map {f : String → Option Json} (notNull : ∀ name, ∀ v ∈ f name, v.isNull = false)
    (names : List String) (name : String) :
    value? (names.map fun name => (name, (f name).getD .null)) name = if name ∈ names then f name else none := by
  induction names with
  | nil => rfl
  | cons other names ih =>
      rw [List.map_cons, value?_cons, ih]
      by_cases same : other = name
      · subst same
        cases found : f other with
        | some v => simp [notNull other v found]
        | none => simp [isNull]
      · simp [same, Ne.symm same]

section
variable (o later : Options)

theorem value?_andThen {name : String} (scalar : name ∈ scalarNames) :
    (o.andThen later).value? name = (later.value? name).or (o.value? name) := by
  have notPatterns : "ignore_patterns" ≠ name := by
    rintro rfl
    simp [scalarNames] at scalar
  have notNull : ∀ name, ∀ v ∈ (later.value? name).or (o.value? name), v.isNull = false := fun name v found => by
    rcases Option.or_eq_some_iff.mp found with found | ⟨-, found⟩ <;> exact isNull_of_value? found
  rw [andThen, value?_cons, if_neg fun same => notPatterns same.1, value?_map notNull, if_pos scalar]

theorem patterns_andThen :
    (o.andThen later).value? "ignore_patterns" = some (.arr (o.patterns ++ later.patterns)) := by
  rw [andThen, value?_cons, if_pos ⟨rfl, rfl⟩]

theorem known_andThen : ∀ entry ∈ (o.andThen later).given, entry.1 ∈ "ignore_patterns" :: scalarNames := by
  have names : (o.andThen later).map (·.1) = "ignore_patterns" :: scalarNames := by
    rw [andThen, List.map_cons, List.map_map]
    exact congrArg _ (List.map_id _)
  intro entry member
  rw [← names]
  exact List.mem_map_of_mem (List.mem_of_mem_filter member)

end

end Options

theorem optionalField_of_field? {α : Type} {entries : List (Document × Document)} {field : Field} {name : String}
    {d : Document} (found : field? entries field = some (name, d)) {read : Document → Checked α} {a : α}
    (reads : read d = .ok a) (absent : α) : optionalField read field absent entries = .ok a := by
  rw [optionalField, found]
  exact within_eq_ok.mpr reads

theorem toDocument_mode {mode : Mode} (known : mode ∈ Mode.all) :
    asOneOf .choiceUnknown Mode.ofWord? mode.toJson.toDocument = .ok mode := by
  simp only [Mode.all, List.mem_cons, List.not_mem_nil, or_false] at known
  rcases known with rfl | rfl | rfl <;> rfl

theorem toDocument_format (format : ReportFormat) :
    asOneOf .choiceUnknown ReportFormat.ofWord? (Json.str format.word).toDocument = .ok format := by
  cases format <;> rfl

theorem asList_texts (texts : List String) : asList asText (.list (texts.map .text)) = .ok texts := by
  have stored := asTexts_stored texts
  rw [strings, stored_arr, List.map_map] at stored
  exact stored

theorem mem_fieldNames {name : String} (option : name ∈ "ignore_patterns" :: scalarNames) : name ∈ fieldNames := by
  have subset : "ignore_patterns" :: scalarNames ⊆ fieldNames := by decide
  exact subset option

section
variable [Host]

/-! ## Overrides -/

/-- Values in place of the fields of a configuration, and further patterns. -/
structure Overrides where
  envFile : Option String := none
  schemaFile : Option String := none
  exampleFile : Option String := none
  mode : Option Mode := none
  format : Option ReportFormat := none
  strict : Option Bool := none
  verbose : Option Bool := none
  exitOnError : Option Bool := none
  ignorePatterns : List Pattern := []

def Overrides.andThen (r later : Overrides) : Overrides where
  envFile := later.envFile.or r.envFile
  schemaFile := later.schemaFile.or r.schemaFile
  exampleFile := later.exampleFile.or r.exampleFile
  mode := later.mode.or r.mode
  format := later.format.or r.format
  strict := later.strict.or r.strict
  verbose := later.verbose.or r.verbose
  exitOnError := later.exitOnError.or r.exitOnError
  ignorePatterns := r.ignorePatterns ++ later.ignorePatterns

def overriddenBy (c : Config) (r : Overrides) : Config :=
  { c with
    envFile := r.envFile.getD c.envFile
    schemaFile := r.schemaFile.or c.schemaFile
    exampleFile := r.exampleFile.or c.exampleFile
    mode := r.mode.or c.mode
    format := r.format.getD c.format
    strict := r.strict.getD c.strict
    verbose := r.verbose.getD c.verbose
    exitOnError := r.exitOnError.getD c.exitOnError
    ignorePatterns := c.ignorePatterns ++ r.ignorePatterns }

theorem overriddenBy_none (c : Config) : c.overriddenBy {} = c := by
  simp only [overriddenBy, Option.getD_none, Option.none_or, List.append_nil]

theorem overriddenBy_andThen (c : Config) (r later : Overrides) :
    c.overriddenBy (r.andThen later) = (c.overriddenBy r).overriddenBy later := by
  simp only [overriddenBy, Overrides.andThen, Option.or_assoc, Option.getD_or, List.append_assoc]

/-- Options that are valid, and what they mean. -/
structure Options.Gives (o : Options) (r : Overrides) : Prop where
  known : ∀ entry ∈ o.given, entry.1 ∈ "ignore_patterns" :: scalarNames
  envFile : ReadAs asText (o.value? "env_file") r.envFile
  schemaFile : ReadAs asText (o.value? "schema_file") r.schemaFile
  exampleFile : ReadAs asText (o.value? "example_file") r.exampleFile
  mode : ReadAs (asOneOf .choiceUnknown Mode.ofWord?) (o.value? "mode") r.mode
  format : ReadAs (asOneOf .choiceUnknown ReportFormat.ofWord?) (o.value? "output_format") r.format
  strict : ReadAs asFlag (o.value? "strict") r.strict
  verbose : ReadAs asFlag (o.value? "verbose") r.verbose
  exitOnError : ReadAs asFlag (o.value? "exit_on_error") r.exitOnError
  ignorePatterns : (o.value? "ignore_patterns").getD (.arr []) = .strings (r.ignorePatterns.map (·.text))

namespace Options.Gives
variable {o later : Options} {r r' : Overrides}

theorem patterns_cases (gives : o.Gives r) :
    o.value? "ignore_patterns" = none ∧ r.ignorePatterns = [] ∨
      o.value? "ignore_patterns" = some (.arr (r.ignorePatterns.map fun p => .str p.text)) := by
  have listed := gives.ignorePatterns
  rw [Json.strings, List.map_map] at listed
  cases given : o.value? "ignore_patterns" with
  | none =>
      rw [given] at listed
      exact .inl ⟨rfl, List.map_eq_nil_iff.mp (Json.arr.inj listed).symm⟩
  | some v =>
      rw [given] at listed
      exact .inr (congrArg some listed)

theorem patterns (gives : o.Gives r) : o.patterns = r.ignorePatterns.map fun p => .str p.text := by
  unfold Options.patterns
  rcases gives.patterns_cases with ⟨given, none⟩ | given
  · rw [given, none, List.map_nil]
  · rw [given]

theorem andThen (gives : o.Gives r) (givesLater : later.Gives r') : (o.andThen later).Gives (r.andThen r') := by
  constructor
  case known => exact known_andThen o later
  case ignorePatterns =>
    rw [patterns_andThen, gives.patterns, givesLater.patterns, Option.getD_some, Overrides.andThen, Json.strings,
      List.map_append, List.map_append, List.map_map, List.map_map]
    rfl
  all_goals rw [value?_andThen o later (by simp [scalarNames])]
  case envFile => exact gives.envFile.or givesLater.envFile
  case schemaFile => exact gives.schemaFile.or givesLater.schemaFile
  case exampleFile => exact gives.exampleFile.or givesLater.exampleFile
  case mode => exact gives.mode.or givesLater.mode
  case format => exact gives.format.or givesLater.format
  case strict => exact gives.strict.or givesLater.strict
  case verbose => exact gives.verbose.or givesLater.verbose
  case exitOnError => exact gives.exitOnError.or givesLater.exitOnError

theorem of_null (allNull : ∀ entry ∈ o, entry.2 = .null) : o.Gives {} := by
  have nothing : o.given = [] := List.filter_eq_nil_iff.mpr fun entry member => by
    rw [allNull entry member]
    decide
  have noValue (name : String) : o.value? name = none := by rw [value?, nothing, List.lookup_nil]
  constructor
  case known =>
    rw [nothing]
    nofun
  case ignorePatterns => rw [noValue]; rfl
  all_goals
    rw [noValue]
    exact .none

end Options.Gives

/-! ## Laid over a configuration -/

namespace Options.Gives
variable {o : Options} {r : Overrides} (gives : o.Gives r)
include gives

theorem known_mode {c : Config} (known : ∀ mode ∈ c.mode, mode ∈ Mode.all) :
    ∀ mode ∈ (c.overriddenBy r).mode, mode ∈ Mode.all := by
  intro mode set
  rcases Option.or_eq_some_iff.mp set with given | ⟨-, set⟩
  · obtain ⟨d, read⟩ := gives.mode.exists_of_mem given
    obtain ⟨word, worded⟩ := asOneOf_eq_ok read
    exact Mode.mem_all_of_ofWord? worded
  · exact known mode set

theorem known_fields : (o.given.map (·.1)).filter (!fieldNames.contains ·) = [] := by
  rw [List.filter_eq_nil_iff, List.forall_mem_map]
  intro entry member
  simp [mem_fieldNames (gives.known entry member)]

theorem extraPatterns :
    extraPatterns ((o.value? "ignore_patterns").getD .null) = .ok (r.ignorePatterns.map fun p => .text p.text) := by
  rcases gives.patterns_cases with ⟨given, none⟩ | given
  · rw [given, none]
    rfl
  · rw [given, Option.getD_some, Config.extraPatterns, List.map_map]
    rfl

variable {c : Config} (known : ∀ mode ∈ c.mode, mode ∈ Mode.all)
include known

theorem decode_overlayDocument :
    decode (c.overlayDocument o.given (r.ignorePatterns.map fun p => .text p.text)) =
      .ok { c.overriddenBy r with customRules := [], securityRules := [] } := by
  have envFile := gives.envFile.getD (.str c.envFile) rfl
  have schemaFile := gives.schemaFile.or_optional nofun .str fun text (_ : text ∈ c.schemaFile) => rfl
  have exampleFile := gives.exampleFile.or_optional nofun .str fun text (_ : text ∈ c.exampleFile) => rfl
  have mode := gives.mode.or_optional nofun Mode.toJson fun mode (set : mode ∈ c.mode) =>
    toDocument_mode (known mode set)
  have format := gives.format.getD _ (toDocument_format c.format)
  have strict := gives.strict.getD (.bool c.strict) rfl
  have verbose := gives.verbose.getD (.bool c.verbose) rfl
  have exitOnError := gives.exitOnError.getD (.bool c.exitOnError) rfl
  rw [← optional_eq_orNull] at schemaFile exampleFile
  have ignorePatterns : Schema.decodeIgnorePatterns (.list ((c.ignorePatterns.map fun p => Document.text p.text) ++
      r.ignorePatterns.map fun p => .text p.text)) = .ok (c.ignorePatterns ++ r.ignorePatterns) := by
    have texts := asList_texts ((c.ignorePatterns ++ r.ignorePatterns).map (·.text))
    rw [List.map_map, List.map_append] at texts
    rw [Schema.decodeIgnorePatterns]
    exact andThen_eq_ok.mpr ⟨_, texts, Pattern.checkTexts_texts _ _⟩
  exact seq_ok (seq_ok (seq_ok (seq_ok (seq_ok (seq_ok (seq_ok (seq_ok (seq_ok (seq_ok
    (map_ok (optionalField_of_field? rfl envFile _))
    (optionalField_of_field? rfl schemaFile _))
    (optionalField_of_field? rfl exampleFile _))
    (optionalField_of_field? rfl mode _))
    (optionalField_of_field? rfl format _))
    (optionalField_of_field? rfl strict _))
    (optionalField_of_field? rfl verbose _))
    (optionalField_of_field? rfl exitOnError _))
    (optionalField_of_field? rfl ignorePatterns _))
    rfl) rfl

theorem merge_eq_ok : c.merge o = .ok (c.overriddenBy r) := by
  have extra : Config.extraPatterns ((o.given.lookup "ignore_patterns").getD .null) =
      .ok (r.ignorePatterns.map fun p => .text p.text) := gives.extraPatterns
  unfold Config.merge
  rw [filter_eq_given o fun (_, value) => by cases value <;> rfl]
  simp only [extra, gives.known_fields, pure_bind, gives.decode_overlayDocument known]
  rfl

end Options.Gives

/-- Options that are valid can always be laid over a configuration: the fields that are given take their values, further
patterns come behind those that are there, and everything else stays as it was, the rules included. Two overrides in a
row amount to one, and options that are not given change nothing. -/
theorem merge_overrides (c : Config) (known : ∀ mode ∈ c.mode, mode ∈ Mode.all) {o later : Options}
    {r r' : Overrides} (gives : o.Gives r) (givesLater : later.Gives r') :
    c.merge o = .ok (c.overriddenBy r) ∧
      (do (← c.merge o).merge later) = c.merge (o.andThen later) ∧
      c.merge (o.andThen later) = .ok (c.overriddenBy (r.andThen r')) ∧
      ∀ unset : Options, (∀ entry ∈ unset, entry.2 = .null) → c.merge unset = .ok c := by
  have merged := gives.merge_eq_ok known
  have both := (gives.andThen givesLater).merge_eq_ok known
  have again := givesLater.merge_eq_ok (gives.known_mode known)
  refine ⟨merged, ?_, both, fun unset allNull => ?_⟩
  · rw [both, overriddenBy_andThen, merged]
    exact again
  · rw [(Options.Gives.of_null allNull).merge_eq_ok known, overriddenBy_none]

end

attribute [local instance] Host.shipped in
theorem merge_overrides_taken_back :
    let numeric : Rule :=
      { name := "numeric", description := "is no number", severity := .error, predicate := some (.ofTest Value.isNumber) }
    let c : Config :=
      { schemaFile := some "s.yaml", mode := some .schema, ignorePatterns := [.ofText "^A"], customRules := [numeric] }
    let o : Options := [("strict", .int 1), ("mode", .null), ("ignore_patterns", .strings ["^B"])]
    let later : Options := [("ignore_patterns", .null), ("mode", .str "both"), ("strict", .bool false)]
    let r : Overrides := { strict := some true, ignorePatterns := [.ofText "^B"] }
    let r' : Overrides := { mode := some .both, strict := some false }
    (∀ mode ∈ c.mode, mode ∈ Mode.all) ∧ o.Gives r ∧ later.Gives r' ∧
      c.merge o = .ok (c.overriddenBy r) ∧
      (do (← c.merge o).merge later) = c.merge (o.andThen later) ∧
      c.merge (o.andThen later) = .ok (c.overriddenBy (r.andThen r')) ∧
      ∀ unset : Options, (∀ entry ∈ unset, entry.2 = .null) → c.merge unset = .ok c := by
  intro numeric c o later r r'
  have known : ∀ mode ∈ c.mode, mode ∈ Mode.all := by simp [c, Mode.all]
  have text : (Pattern.ofText "^B").text = "^B" := by decide +kernel
  have gives : o.Gives r := by
    constructor
    case known => simp [o, Options.given, isNull, scalarNames]
    case strict => exact .some rfl
    case ignorePatterns =>
      rw [List.map_singleton, text]
      rfl
    all_goals exact .none
  have givesLater : later.Gives r' := by
    constructor
    case known => simp [later, Options.given, isNull, scalarNames]
    case mode => exact .some rfl
    case strict => exact .some rfl
    case ignorePatterns => rfl
    all_goals exact .none
  exact ⟨known, gives, givesLater, merge_overrides c known gives givesLater⟩

end EnvAudit.Config
