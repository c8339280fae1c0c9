import EnvAudit.Proofs.Json.RoundTrip
import EnvAudit.Proofs.Verdict.Document
import EnvAudit.Report.Basic

namespace EnvAudit
open Json

namespace Json

theorem itemsFit_iff {items : List Json} : itemsFit items = true ↔ ∀ item ∈ items, item.fits = true := by
  induction items with
  | nil => simp [itemsFit]
  | cons item items ih => rw [itemsFit, Bool.and_eq_true, ih, List.forall_mem_cons]

theorem membersFit_iff {members : List (String × Json)} :
    membersFit members = true ↔ ∀ entry ∈ members, entry.2.fits = true := by
  induction members with
  | nil => simp [membersFit]
  | cons entry members ih => rw [membersFit, Bool.and_eq_true, ih, List.forall_mem_cons]

theorem isWritable_optional (value : Option String) : IsWritable (Json.optional value) :=
  (textual_optional value).isWritable

end Json

namespace Finding

theorem fits_lineJson_iff {line : Option Int} :
    (lineJson line).fits = true ↔ ∀ n ∈ line, n.natAbs < Nat.pow 10 Numeral.maxDigits := by
  cases line with
  | none => simp [lineJson, fits]
  | some n => simp [lineJson, fits_int]

theorem fits_toJson_iff {f : Finding} : f.toJson.fits = true ↔ ∀ n ∈ f.line, n.natAbs < Nat.pow 10 Numeral.maxDigits := by
  have suggested : (Json.optional f.suggestion).fits = true := by cases f.suggestion <;> rfl
  rw [toJson, fits, membersFit_iff, ← fits_lineJson_iff]
  simp [fits, suggested]

theorem isWritable_toJson {f : Finding} (short : f.toJson.fits = true) : IsWritable f.toJson := by
  have line : IsWritable (lineJson f.line) := by
    have short := fits_lineJson_iff.mpr (fits_toJson_iff.mp short)
    cases given : f.line with
    | none => exact .null
    | some n =>
        rw [given] at short
        exact .int short
  refine .obj (by simp) ?_
  simp only [List.forall_mem_cons]
  exact ⟨.str _, .str _, .str _, line, isWritable_optional _, .str _, by simp⟩

theorem reread_toJson (f : Finding) : f.toJson.reread = f.toJson := by
  have line : (lineJson f.line).reread = lineJson f.line := by cases f.line <;> rfl
  have suggestion : (Json.optional f.suggestion).reread = Json.optional f.suggestion := (textual_optional _).reread_eq
  simp only [toJson, reread_obj, List.map_cons, List.map_nil, line, suggestion, reread]

end Finding

namespace Summary

def counters (s : Summary) : List Int := [s.assigned, s.required, s.missing, s.unused, s.securityIssues]

variable {s : Summary} {time : Binary64}

theorem fits_toJson_iff :
    (s.toJson (some (.float time))).fits = true ↔ ∀ n ∈ s.counters, n.natAbs < Nat.pow 10 Numeral.maxDigits := by
  rw [toJson, fits, membersFit_iff]
  simp [fits, counters]

theorem isWritable_toJson (short : (s.toJson (some (.float time))).fits = true) :
    IsWritable (s.toJson (some (.float time))) := by
  have short := fits_toJson_iff.mp short
  simp only [counters, List.forall_mem_cons, ← fits_int] at short
  obtain ⟨assigned, required, missing, unused, securityIssues, -⟩ := short
  refine .obj (by simp) ?_
  simp only [List.forall_mem_append, List.forall_mem_cons]
  exact ⟨⟨.int assigned, .int required, .int missing, .int unused, .int securityIssues, by simp⟩, .float time, by simp⟩

theorem reread_toJson (s : Summary) (time : Binary64) :
    (s.toJson (some (.float time))).reread = s.toJson (some (.float (rereadFloat time))) := by
  simp only [toJson, reread_obj, List.map_append, List.map_cons, List.map_nil, reread]

end Summary

namespace Report

variable {v : Verdict} {time : String}

theorem fits_document_iff :
    (document v time).fits = true ↔
      (∀ f ∈ v.findings.toList, ∀ n ∈ f.line, n.natAbs < Nat.pow 10 Numeral.maxDigits) ∧
        ∀ n ∈ v.summary.counters, n.natAbs < Nat.pow 10 Numeral.maxDigits := by
  have listed {findings : List Finding} : (Json.arr (findings.map Finding.toJson)).fits = true ↔
      ∀ f ∈ findings, ∀ n ∈ f.line, n.natAbs < Nat.pow 10 Numeral.maxDigits := by
    rw [fits, itemsFit_iff, List.forall_mem_map]
    exact forall₂_congr fun _ _ => Finding.fits_toJson_iff
  rw [document, fits, membersFit_iff, ← @Summary.fits_toJson_iff v.summary v.summary.elapsed]
  simp only [Verdict.toMembers, Findings.toMembers, Findings.toList, List.forall_mem_append, List.forall_mem_cons,
    listed]
  simp [fits, and_assoc]

theorem isWritable_document (short : (document v time).fits = true) : IsWritable (document v time) := by
  obtain ⟨lines, counters⟩ := fits_document_iff.mp short
  have summary : IsWritable (v.summary.toJson (some (.float v.summary.elapsed))) :=
    Summary.isWritable_toJson (Summary.fits_toJson_iff.mpr counters)
  have listed {findings : List Finding} (within : ∀ f ∈ findings, f ∈ v.findings.toList) :
      IsWritable (.arr (findings.map Finding.toJson)) := by
    refine .arr ?_
    rw [List.forall_mem_map]
    exact fun f member => Finding.isWritable_toJson (Finding.fits_toJson_iff.mpr (lines f (within f member)))
  refine .obj (by simp [Verdict.toMembers, Findings.toMembers]) ?_
  simp only [Verdict.toMembers, Findings.toMembers, Findings.toList, List.forall_mem_append, List.forall_mem_cons]
    at listed ⊢
  exact ⟨⟨⟨.bool _, listed fun f member => by simp [member], listed fun f member => by simp [member],
    listed fun f member => by simp [member], by simp⟩, summary, by simp⟩, .str _, by simp⟩

theorem reread_document (v : Verdict) (time : String) :
    (document v time).reread =
      .obj (v.toMembers (some (.float (rereadFloat v.summary.elapsed))) ++ [("timestamp", .str time)]) := by
  have listed (findings : List Finding) :
      (Json.arr (findings.map Finding.toJson)).reread = .arr (findings.map Finding.toJson) := by
    rw [reread_arr, List.map_map]
    congr 1
    exact List.map_congr_left fun f _ => f.reread_toJson
  have flag : (Json.bool v.isValid).reread = .bool v.isValid := rfl
  have stamp : (Json.str time).reread = .str time := rfl
  simp only [document, reread_obj, Verdict.toMembers, Findings.toMembers, List.map_append, List.map_cons, List.map_nil,
    listed, v.summary.reread_toJson, flag, stamp]

theorem render_json_eq_ok [Markup.Dialect] {options : Options} {report : String} :
    render v .json options time = .ok report ↔
      (document v time).fits = true ∧ Json.write (jsonLayout options.indent) (document v time) = report := by
  simp only [render, json, Json.write?]
  cases (document v time).fits <;> simp

/-- A JSON report is made exactly if no number is too long, and the verdict is read back from any that is made. -/
theorem render_json [Markup.Dialect] (v : Verdict) (options : Options) (time : String) :
    (∀ report, render v .json options time = .ok report →
      ∃ json elapsed, Json.read report = .ok json ∧
        Verdict.decode json.toDocument = .ok { v with summary := { v.summary with elapsed } }) ∧
    ((∃ report, render v .json options time = .ok report) ↔
      (∀ f ∈ v.findings.toList, ∀ n ∈ f.line, n.natAbs < Nat.pow 10 Numeral.maxDigits) ∧
        ∀ n ∈ v.summary.counters, n.natAbs < Nat.pow 10 Numeral.maxDigits) := by
  constructor
  · intro report made
    obtain ⟨short, rfl⟩ := render_json_eq_ok.mp made
    have reads := (read_write_reread (isWritable_document short) (jsonLayout options.indent)).1
    rw [reread_document] at reads
    exact ⟨_, _, reads, v.decode_toMembers _ _⟩
  · simp only [render_json_eq_ok, exists_and_left, exists_eq', and_true, fits_document_iff]

end Report

end EnvAudit
