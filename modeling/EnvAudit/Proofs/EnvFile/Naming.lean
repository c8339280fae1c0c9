import EnvAudit.Catalogue
import EnvAudit.Proofs.EnvFile.Joining
import EnvAudit.Proofs.EnvFile.Rewriting
import EnvAudit.Proofs.Schema.Loading

namespace EnvAudit
open Text

theorem VariableName.check_eq_ok_iff {name : String} : check name = .ok () ↔ isName name.toList = true := by
  rw [check]
  cases name.toList with
  | nil => simp [isName]
  | cons c rest =>
      by_cases named : isName (c :: rest) = true
      · simp [named]
      · simp only [named]
        cases Text.isLetter c || c == '_' <;> simp

namespace Assignment

theorem parse_eq_ok_iff {line : String} {number : Int} {a : Assignment} :
    parse line number = .ok a ↔ ∃ key value, splitAssignment? (trim line.toList) = some (key, value) ∧
      a = .ofRaw key (RawValue.read value) number := by
  rw [parse]
  cases splitAssignment? (trim line.toList) with
  | none => simp
  | some pair =>
      obtain ⟨key, value⟩ := pair
      simp [eq_comm]

theorem exists_parse_iff {name rest : String} (clean : '\n' ∉ rest.toList) (number : Int) :
    (∃ a, parse (name ++ "=" ++ rest) number = .ok a ∧ a.key = name) ↔ VariableName.check name = .ok () := by
  have line : (name ++ "=" ++ rest).toList = name.toList ++ '=' :: rest.toList := by simp
  simp only [parse_eq_ok_iff, VariableName.check_eq_ok_iff, line]
  constructor
  · rintro ⟨_, ⟨key, value, split, rfl⟩, same⟩
    have keys : key = name.toList := by rw [← same, ofRaw, String.toList_ofList]
    obtain ⟨-, -, -, named, -⟩ := splitAssignment?_eq_some split
    exact keys ▸ named
  · intro named
    exact ⟨_, ⟨_, _, Line.splitAssignment?_trim named clean, rfl⟩, String.ofList_toList⟩

end Assignment

theorem EnvFile.check_of_mem_parse {content : String} {a : Assignment} (member : a ∈ (parse content).assignments) :
    VariableName.check a.key = .ok () := by
  obtain ⟨key, -, -, named, -, -, rfl⟩ := Assignment.exists_read_of_mem_parse member
  rw [VariableName.check_eq_ok_iff, Assignment.ofRaw, String.toList_ofList]
  exact named

theorem EnvFile.parse_assignment {name rest : String} (clean : '\n' ∉ rest.toList)
    (named : VariableName.check name = .ok ()) :
    ∃ a, parse (name ++ "=" ++ rest) = { assignments := [a] } ∧ a.key = name := by
  have isName := VariableName.check_eq_ok_iff.mp named
  have whole : '\n' ∉ name.toList ++ '=' :: rest.toList := by
    have inName : '\n' ∉ name.toList := fun feed => absurd (isNameChar_of_mem isName feed) (by decide)
    simp [inName, clean]
  have text : name ++ "=" ++ rest = String.ofList (name.toList ++ '=' :: rest.toList) := by
    rw [← String.toList_inj]
    simp
  rw [text, parse_line whole, Line.read_assignment isName clean]
  exact ⟨_, rfl, String.ofList_toList⟩

section
variable [Host]

namespace Schema

def declaring (name : String) : Document := .map [(.text "variables", .map [(.text name, .map [])])]

theorem ofDocument_declaring (source : String) {name : String} (named : VariableName.check name = .ok ()) :
    ofDocument source (declaring name) = .ok { specs := [(name, {})] } := by
  refine ofDocument_map_eq_ok.mpr ⟨[.text name], rfl, ?_, rfl⟩
  exact List.forall_mem_singleton.mpr ⟨name, rfl, named⟩

end Schema

namespace VariableName

/-- A text is a name exactly if a line assigns to it, whatever follows; so the keys of a file can be declared, and
what a schema declares can be assigned. -/
theorem check_iff_assigned :
    (∀ name rest : String, '\n' ∉ rest.toList → ∀ number,
      (check name = .ok () ↔
        ∃ a, Assignment.parse (name ++ "=" ++ rest) number = .ok a ∧ a.key = name)) ∧
    (∀ content, ∀ a ∈ (EnvFile.parse content).assignments, check a.key = .ok () ∧
      ∀ source, ∃ s, Schema.ofDocument source (Schema.declaring a.key) = .ok s ∧ s.specs.map (·.1) = [a.key]) ∧
    (∀ source d s, Schema.ofDocument source d = .ok s → ∀ spec ∈ s.specs, ∀ rest : String, '\n' ∉ rest.toList →
      ∃ a, EnvFile.parse (spec.1 ++ "=" ++ rest) = { assignments := [a] } ∧ a.key = spec.1) := by
  refine ⟨fun name rest clean number => (Assignment.exists_parse_iff clean number).symm, ?_, ?_⟩
  · intro content a member
    have named := EnvFile.check_of_mem_parse member
    exact ⟨named, fun source => ⟨_, Schema.ofDocument_declaring source named, rfl⟩⟩
  · intro source d s accepted spec member rest clean
    exact EnvFile.parse_assignment clean (Schema.named_of_ofDocument accepted spec member)

end VariableName

end

attribute [local instance] Host.shipped in
theorem VariableName.check_iff_assigned_sign :
    (check "_A1=" = .ok () ↔ ∃ a, Assignment.parse ("_A1=" ++ "=" ++ " # x\r") 7 = .ok a ∧ a.key = "_A1=") ∧
    check "_A1" = .ok () ∧
    ∃ a, EnvFile.parse ("_A1" ++ "=" ++ "= # x\r") = { assignments := [a] } ∧ a.key = "_A1" := by
  obtain ⟨assigned, declared, written⟩ := check_iff_assigned
  have member : ⟨"_A1", "", 2, false, none⟩ ∈ (EnvFile.parse "#\n _A1\t=").assignments := by decide +kernel
  obtain ⟨named, -⟩ := declared _ _ member
  have accepted := Schema.ofDocument_declaring "schema.json" named
  exact ⟨assigned "_A1=" " # x\r" (by decide) 7, named,
    written "schema.json" _ _ accepted ("_A1", {}) (by simp) "= # x\r" (by decide)⟩

end EnvAudit
