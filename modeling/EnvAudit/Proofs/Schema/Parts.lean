import EnvAudit.Proofs.Document.Stored
import EnvAudit.Schema.Document

namespace EnvAudit
open Checked Document Json

variable [Host]

namespace Pattern

theorem checkText_text (purpose : String) (p : Pattern) : checkText purpose p.text = .ok p := by
  rw [checkText, compile_text]

theorem checkTexts_texts (purpose : String) (patterns : List Pattern) :
    checkTexts purpose (patterns.map (·.text)) = .ok patterns := by
  induction patterns with
  | nil => rfl
  | cons p patterns ih =>
      rw [List.map_cons, checkTexts, checkText_text, andThen, ih]
      rfl

theorem asPattern_text (p : Pattern) : asPattern (.text p.text) = .ok p := by
  rw [asPattern, compile_text]

end Pattern

namespace VariableSpec

theorem distinct_toMembers (s : VariableSpec) : (s.toMembers.map (·.1)).Nodup := by simp [toMembers]

theorem decode_stored (s : VariableSpec) : decode s.toJson.stored = .ok s := by
  have distinct := s.distinct_toMembers
  have required : Holds s.toMembers (.plain "required") (.bool s.required) := ⟨distinct, rfl, .inl rfl⟩
  have type : Holds s.toMembers (.plain "type") (.orNull (fun t => .str t.word) s.type) :=
    ⟨distinct, rfl, .inl rfl⟩
  have pattern : Holds s.toMembers (.plain "pattern") (.orNull (fun p => .str p.text) s.pattern) :=
    ⟨distinct, rfl, .inl rfl⟩
  have description : Holds s.toMembers (.plain "description") (.orNull .str s.description) :=
    optional_eq_orNull ▸ Holds.mk distinct rfl (.inl rfl)
  have sample : Holds s.toMembers (.plain "example") (.orNull .str s.sample) :=
    optional_eq_orNull ▸ Holds.mk distinct rfl (.inl rfl)
  have allowEmpty : Holds s.toMembers ⟨"allow_empty", "allowEmpty"⟩ (.bool s.allowEmpty) :=
    ⟨distinct, rfl, .inr rfl⟩
  have deprecated : Holds s.toMembers (.plain "deprecated") (.bool s.deprecated) := ⟨distinct, rfl, .inl rfl⟩
  have alternatives : Holds s.toMembers (.plain "alternatives") (.strings s.alternatives) :=
    ⟨distinct, rfl, .inl rfl⟩
  have readType (t : ValueType) : (str t.word).isNull = false ∧
      asOneOf .wordUnknown ValueType.ofWord? (str t.word).stored = .ok t := by
    simp [isNull, asOneOf]
  have readPattern (p : Pattern) : (str p.text).isNull = false ∧
      (str p.text).stored.asText.andThen (Pattern.checkText "regex") = .ok p :=
    ⟨rfl, Pattern.checkText_text "regex" p⟩
  have readText (text : String) : (str text).isNull = false ∧ asText (str text).stored = .ok text := ⟨rfl, rfl⟩
  have readSample (text : String) :
      (str text).isNull = false ∧ decodeSample (str text).stored = .ok (some text) := ⟨rfl, rfl⟩
  exact seq_ok (seq_ok (seq_ok (seq_ok (seq_ok (seq_ok (seq_ok
    (map_ok (optionalField_stored required rfl asFlag rfl false))
    (optionalField_optional type _ fun a _ => readType a))
    (optionalField_optional pattern (fun d => d.asText.andThen (Pattern.checkText "regex")) fun a _ => readPattern a))
    (optionalField_optional description _ fun a _ => readText a))
    (optionalField_orNull sample _ fun a _ => readSample a))
    (optionalField_stored allowEmpty rfl asFlag rfl false))
    (optionalField_stored deprecated rfl asFlag rfl false))
    (optionalField_stored alternatives rfl _ (asTexts_stored s.alternatives) [])

theorem textual_toJson (s : VariableSpec) : Textual s.toJson := by
  refine .obj s.distinct_toMembers ?_
  simp only [toMembers, List.forall_mem_cons]
  exact ⟨.bool _, textual_orNull (fun _ => .str _) _, textual_orNull (fun _ => .str _) _, textual_optional _,
    textual_optional _, .bool _, .bool _, textual_strings _, by simp⟩

end VariableSpec

namespace Rule

theorem distinct_toMembers (r : Rule) : (r.toMembers.map (·.1)).Nodup := by simp [toMembers]

omit [Host] in
theorem readSeverity (s : Severity) : asOneOf .wordUnknown Severity.ofWord? (.text s.word) = .ok s := by
  simp [asOneOf]

theorem decode_stored {r : Rule} (named : r.name ≠ "" ∧ r.description ≠ "") :
    decode (Json.obj r.toMembers).stored = .ok { r with predicate := none } := by
  have distinct := r.distinct_toMembers
  have name : Holds r.toMembers (.plain "name") (.str r.name) := ⟨distinct, rfl, .inl rfl⟩
  have description : Holds r.toMembers (.plain "description") (.str r.description) := ⟨distinct, rfl, .inl rfl⟩
  have severity : Holds r.toMembers (.plain "severity") (.str r.severity.word) := ⟨distinct, rfl, .inl rfl⟩
  have pattern : Holds r.toMembers (.plain "pattern") (.orNull (fun p => .str p.text) r.pattern) :=
    ⟨distinct, rfl, .inl rfl⟩
  have required : Holds r.toMembers (.plain "required") (.orNull .bool r.required) := ⟨distinct, rfl, .inl rfl⟩
  have allowEmpty : Holds r.toMembers ⟨"allow_empty", "allowEmpty"⟩ (.orNull .bool r.allowEmpty) :=
    ⟨distinct, rfl, .inr rfl⟩
  have readPattern (p : Pattern) : (str p.text).isNull = false ∧ asPattern (str p.text).stored = .ok p :=
    ⟨rfl, p.asPattern_text⟩
  have readFlag (b : Bool) : (Json.bool b).isNull = false ∧ asFlag (Json.bool b).stored = .ok b := ⟨rfl, rfl⟩
  exact seq_ok (seq_ok (seq_ok (seq_ok (seq_ok (seq_ok
    (map_ok (requiredField_stored name rfl _ (asName_text named.1)))
    (requiredField_stored description rfl _ (asName_text named.2)))
    (requiredField_stored severity rfl _ (readSeverity r.severity)))
    (optionalField_optional pattern _ fun a _ => readPattern a))
    (optionalField_absent distinct rfl rfl _ _))
    (optionalField_optional required _ fun a _ => readFlag a))
    (optionalField_optional allowEmpty _ fun a _ => readFlag a)

theorem textual_toMembers (r : Rule) : Textual (.obj r.toMembers) := by
  refine .obj r.distinct_toMembers ?_
  simp only [toMembers, List.forall_mem_cons]
  exact ⟨.str _, .str _, .str _, textual_orNull (fun _ => .str _) _, textual_orNull .bool _,
    textual_orNull .bool _, by simp⟩

theorem named_of_decode {d : Document} {r : Rule} (read : decode d = .ok r) :
    r.name ≠ "" ∧ r.description ≠ "" := by
  cases d with
  | map entries =>
      simp only [decode, asRecord, seq_eq_ok, map_eq_ok] at read
      obtain ⟨_, _, ⟨_, _, ⟨_, _, ⟨_, _, ⟨_, _, ⟨_, _, ⟨_, named, rfl⟩, described, rfl⟩, -, rfl⟩, -, rfl⟩, -,
        rfl⟩, -, rfl⟩, -, rfl⟩ := read
      obtain ⟨_, named⟩ := requiredField_eq_ok named
      obtain ⟨_, described⟩ := requiredField_eq_ok described
      exact ⟨asName_eq_ok named, asName_eq_ok described⟩
  | null | bool | int | float | list | text | bytes | set | pair | date | timestamp => cases read

end Rule

namespace SecurityRule

theorem distinct_toMembers (r : SecurityRule) : (r.toMembers.map (·.1)).Nodup := by simp [toMembers]

theorem decode_stored {r : SecurityRule} (named : r.name ≠ "" ∧ r.description ≠ "") :
    decode r.toJson.stored = .ok r := by
  have distinct := r.distinct_toMembers
  have name : Holds r.toMembers (.plain "name") (.str r.name) := ⟨distinct, rfl, .inl rfl⟩
  have description : Holds r.toMembers (.plain "description") (.str r.description) := ⟨distinct, rfl, .inl rfl⟩
  have pattern : Holds r.toMembers (.plain "pattern") (.str r.pattern.text) := ⟨distinct, rfl, .inl rfl⟩
  have severity : Holds r.toMembers (.plain "severity") (.str r.severity.word) := ⟨distinct, rfl, .inl rfl⟩
  have suggestion : Holds r.toMembers (.plain "suggestion") (.orNull .str r.suggestion) :=
    optional_eq_orNull ▸ Holds.mk distinct rfl (.inl rfl)
  have readText (text : String) : (str text).isNull = false ∧ asText (str text).stored = .ok text := ⟨rfl, rfl⟩
  exact seq_ok (seq_ok (seq_ok (seq_ok
    (map_ok (requiredField_stored name rfl _ (asName_text named.1)))
    (requiredField_stored description rfl _ (asName_text named.2)))
    (requiredField_stored pattern rfl _ r.pattern.asPattern_text))
    (requiredField_stored severity rfl _ (Rule.readSeverity r.severity)))
    (optionalField_optional suggestion _ fun a _ => readText a)

theorem textual_toJson (r : SecurityRule) : Textual r.toJson := by
  refine .obj r.distinct_toMembers ?_
  simp only [toMembers, List.forall_mem_cons]
  exact ⟨.str _, .str _, .str _, .str _, textual_optional _, by simp⟩

theorem named_of_decode {d : Document} {r : SecurityRule} (read : decode d = .ok r) :
    r.name ≠ "" ∧ r.description ≠ "" := by
  cases d with
  | map entries =>
      simp only [decode, asRecord, seq_eq_ok, map_eq_ok] at read
      obtain ⟨_, _, ⟨_, _, ⟨_, _, ⟨_, _, ⟨_, named, rfl⟩, described, rfl⟩, -, rfl⟩, -, rfl⟩, -, rfl⟩ := read
      obtain ⟨_, named⟩ := requiredField_eq_ok named
      obtain ⟨_, described⟩ := requiredField_eq_ok described
      exact ⟨asName_eq_ok named, asName_eq_ok described⟩
  | null | bool | int | float | list | text | bytes | set | pair | date | timestamp => cases read

end SecurityRule

end EnvAudit
