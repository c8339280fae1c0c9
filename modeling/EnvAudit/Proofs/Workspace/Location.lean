import EnvAudit.Location
import EnvAudit.Proofs.Text.Split
import Mathlib.Tactic.IntervalCases

namespace EnvAudit

namespace Location

def IsPart (part : String) : Prop := '/' ∉ part.toList ∧ part ≠ "" ∧ part ≠ "."

theorem isPart_ofString {path part : String} (member : part ∈ (ofString path).parts) : IsPart part := by
  obtain ⟨raw, kept⟩ := List.mem_filter.mp member
  obtain ⟨chars, split, rfl⟩ := List.mem_map.mp raw
  refine ⟨?_, by simpa using kept⟩
  rw [String.toList_ofList]
  exact Text.notMem_of_mem_splitAll split

theorem anchor_ofString (path : String) :
    ∃ slashes, (ofString path).anchor = String.ofList (List.replicate slashes '/') ∧ slashes ≤ 2 := by
  simp only [ofString]
  split
  · exact ⟨0, rfl, by omega⟩
  split
  · exact ⟨2, rfl, by omega⟩
  · exact ⟨1, rfl, by omega⟩

def normalize (parts : List (List Char)) : List String :=
  (parts.map String.ofList).filter fun part => part != "" && part != "."

theorem normalize_intercalate {parts : List String} (normal : ∀ part ∈ parts, IsPart part) :
    normalize (Text.splitAll '/' (['/'].intercalate (parts.map String.toList))) = parts := by
  cases parts with
  | nil => rfl
  | cons first others =>
      have clean : ∀ chars ∈ (first :: others).map String.toList, '/' ∉ chars := by
        intro chars member
        obtain ⟨part, given, rfl⟩ := List.mem_map.mp member
        exact (normal part given).1
      have same : (first :: others).map (String.ofList ∘ String.toList) = first :: others := by simp
      rw [Text.splitAll_eq_splitOn, List.splitOn_intercalate _ clean (List.cons_ne_nil _ _), normalize,
        List.map_map, same, List.filter_eq_self]
      intro part member
      simpa using (normal part member).2

theorem normalize_slashes (slashes : Nat) (s : List Char) :
    normalize (Text.splitAll '/' (List.replicate slashes '/' ++ s)) = normalize (Text.splitAll '/' s) := by
  induction slashes with
  | zero => rfl
  | succ slashes ih =>
      rw [List.replicate_succ, List.cons_append, Text.splitAll_separator, ← ih]
      rfl

theorem takeWhile_slashes (slashes : Nat) {parts : List String} (normal : ∀ part ∈ parts, IsPart part) :
    ((List.replicate slashes '/' ++ ['/'].intercalate (parts.map String.toList)).takeWhile (· == '/')).length =
      slashes := by
  have noSlash : (['/'].intercalate (parts.map String.toList)).takeWhile (· == '/') = [] := by
    cases parts with
    | nil => rfl
    | cons first others =>
        obtain ⟨clean, nonempty, -⟩ := normal first List.mem_cons_self
        cases chars : first.toList with
        | nil => exact absurd (String.toList_eq_nil_iff.mp chars) nonempty
        | cons c rest =>
            have other : c ≠ '/' := by
              rintro rfl
              exact clean (chars ▸ List.mem_cons_self)
            cases others <;> simp [chars, List.intercalate_cons_cons, other]
  rw [List.takeWhile_append_of_pos (by simp), noSlash, List.append_nil, List.length_replicate]

theorem ofString_slashes {slashes : Nat} (few : slashes ≤ 2) {parts : List String}
    (normal : ∀ part ∈ parts, IsPart part) :
    ofString (String.ofList (List.replicate slashes '/') ++ "/".intercalate parts) =
      ⟨String.ofList (List.replicate slashes '/'), parts⟩ := by
  have chars : (String.ofList (List.replicate slashes '/') ++ "/".intercalate parts).toList =
      List.replicate slashes '/' ++ ['/'].intercalate (parts.map String.toList) := by
    rw [String.toList_append, String.toList_ofList, String.toList_intercalate]
    rfl
  have kept : normalize (Text.splitAll '/' (List.replicate slashes '/' ++
      ['/'].intercalate (parts.map String.toList))) = parts :=
    (normalize_slashes slashes _).trans (normalize_intercalate normal)
  rw [normalize] at kept
  rw [ofString, rawParts, chars, kept]
  simp only [takeWhile_slashes slashes normal]
  interval_cases slashes <;> rfl

theorem ofString_toString (path : String) : ofString (ofString path).toString = ofString path := by
  have normal (part : String) : part ∈ (ofString path).parts → IsPart part := isPart_ofString
  obtain ⟨slashes, anchor, few⟩ := anchor_ofString path
  rw [toString]
  split
  next bare =>
    simp only [Bool.and_eq_true, beq_iff_eq, List.isEmpty_iff] at bare
    have here : ofString path = ⟨"", []⟩ := by rw [← bare.1, ← bare.2]
    rw [here]
    decide +kernel
  next => rw [anchor, ofString_slashes few normal, ← anchor]

end Location

end EnvAudit
