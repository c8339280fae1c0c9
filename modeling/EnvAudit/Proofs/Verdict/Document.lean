import EnvAudit.Proofs.Document.Stored
import EnvAudit.Verdict.Document

namespace EnvAudit
open Checked Document Json

namespace Document
variable {α : Type} {members : List (String × Json)} {field : Field} {v : Json}

theorem valueOf?_membersToEntries (members : List (String × Json)) (name : String) :
    valueOf? (membersToEntries members) name = (member? members name).map toDocument := by
  induction members with
  | nil => rfl
  | cons entry members ih =>
      obtain ⟨other, v⟩ := entry
      rw [membersToEntries, valueOf?_cons, member?_cons, ih]
      by_cases same : other = name <;> simp [same]

theorem field?_member (held : member? members field.camelName = some v) :
    field? (membersToEntries members) field = some (field.camelName, v.toDocument) := by
  rw [field?, valueOf?_membersToEntries, held]
  rfl

theorem requiredField_member (held : member? members field.camelName = some v) (read : Document → Checked α) {a : α}
    (back : read v.toDocument = .ok a) : requiredField read field (membersToEntries members) = .ok a := by
  rw [requiredField, field?_member held]
  exact within_eq_ok.mpr back

theorem optionalField_member (held : member? members field.camelName = some v) (read : Document → Checked α) {a : α}
    (back : read v.toDocument = .ok a) (absent : α) :
    optionalField read field absent (membersToEntries members) = .ok a := by
  rw [optionalField, field?_member held]
  exact within_eq_ok.mpr back

theorem asList_written {β : Type} {items : List β} {write : β → Json} {read : Document → Checked β}
    (back : ∀ item, read (write item).toDocument = .ok item) :
    asList read (Json.arr (items.map write)).toDocument = .ok items := by
  rw [toDocument, asList, items?]
  refine readItems_eq_ok.mpr ?_
  induction items with
  | nil => exact .nil
  | cons item items ih => exact .cons (back item) ih

end Document

theorem Finding.decode_toJson (f : Finding) : decode f.toJson.toDocument = .ok f := by
  have kind : asOneOf .wordUnknown FindingKind.ofWord? (.text f.kind.word) = .ok f.kind := by simp [asOneOf]
  have severity : asOneOf .wordUnknown Severity.ofWord? (.text f.severity.word) = .ok f.severity := by
    simp [asOneOf]
  have line : asOptional asWhole (lineJson f.line).toDocument = .ok f.line := by
    cases f.line <;> rfl
  have suggestion : asOptional asText (Json.optional f.suggestion).toDocument = .ok f.suggestion := by
    cases f.suggestion <;> rfl
  exact seq_ok (seq_ok (seq_ok (seq_ok (seq_ok
    (map_ok (requiredField_member (v := .str f.kind.word) rfl _ kind))
    (optionalField_member (v := .str f.variableName) rfl asText rfl _))
    (requiredField_member (v := .str f.message) rfl asText rfl))
    (optionalField_member (v := lineJson f.line) rfl _ line _))
    (optionalField_member (v := Json.optional f.suggestion) rfl _ suggestion _))
    (requiredField_member (v := .str f.severity.word) rfl _ severity)

theorem Summary.decode_toJson (s : Summary) (time : Binary64) :
    decode (s.toJson (some (.float time))).toDocument = .ok { s with elapsed := time } :=
  seq_ok (seq_ok (seq_ok (seq_ok (seq_ok
    (map_ok (optionalField_member (v := .int s.assigned) rfl asWhole rfl _))
    (optionalField_member (v := .int s.required) rfl asWhole rfl _))
    (optionalField_member (v := .int s.missing) rfl asWhole rfl _))
    (optionalField_member (v := .int s.unused) rfl asWhole rfl _))
    (optionalField_member (v := .int s.securityIssues) rfl asWhole rfl _))
    (optionalField_member (v := .float time) rfl asNumber rfl _)

theorem Verdict.decode_toMembers (v : Verdict) (time : Binary64) (others : List (String × Json)) :
    decode (Json.obj (v.toMembers (some (.float time)) ++ others)).toDocument =
      .ok { v with summary := { v.summary with elapsed := time } } := by
  have read (findings : List Finding) : asList Finding.decode (Json.arr (findings.map Finding.toJson)).toDocument =
      .ok findings := asList_written Finding.decode_toJson
  have listed : Findings.decodeFields (membersToEntries (v.toMembers (some (.float time)) ++ others)) =
      .ok v.findings :=
    seq_ok (seq_ok
      (map_ok (optionalField_member (v := .arr (v.findings.errors.map Finding.toJson)) rfl _ (read _) _))
      (optionalField_member (v := .arr (v.findings.warnings.map Finding.toJson)) rfl _ (read _) _))
      (optionalField_member (v := .arr (v.findings.info.map Finding.toJson)) rfl _ (read _) _)
  exact seq_ok (seq_ok
    (map_ok (requiredField_member (v := .bool v.isValid) rfl asFlag rfl))
    listed)
    (optionalField_member (v := v.summary.toJson (some (.float time))) rfl _ (v.summary.decode_toJson time) _)

end EnvAudit
