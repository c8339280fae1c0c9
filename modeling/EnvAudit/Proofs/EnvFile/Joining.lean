import EnvAudit.EnvFile.Parser
import EnvAudit.Proofs.EnvFile.Lines

namespace EnvAudit.EnvFile

def below (k : Nat) (file : EnvFile) : EnvFile where
  assignments := file.assignments.map fun a => { a with line := a.line + k }
  comments := file.comments
  blankLines := file.blankLines.map fun n => n + k
  malformed := file.malformed.map fun m => { m with line := m.line + k }

def append (above under : EnvFile) : EnvFile where
  assignments := above.assignments ++ under.assignments
  comments := above.comments ++ under.comments
  blankLines := above.blankLines ++ under.blankLines
  malformed := above.malformed ++ under.malformed

instance : Append EnvFile := ⟨append⟩

def join (files : List EnvFile) : EnvFile := files.foldr append {}

theorem below_append (k : Nat) (above under : EnvFile) :
    (above ++ under).below k = above.below k ++ under.below k := by
  show (append above under).below k = append (above.below k) (under.below k)
  simp only [below, append, List.map_append]

theorem ofLines_append (above under : List (Line × Nat)) :
    ofLines (above ++ under) = ofLines above ++ ofLines under := by
  show _ = append _ _
  simp only [ofLines, append, List.filterMap_append]

theorem ofLines_cons (line : Line × Nat) (lines : List (Line × Nat)) :
    ofLines (line :: lines) = ofLines [line] ++ ofLines lines :=
  ofLines_append [line] lines

theorem ofLines_singleton_add (line : Line) (n k : Nat) :
    ofLines [(line, n + k)] = (ofLines [(line, n)]).below k := by
  cases line <;> rfl

theorem ofLines_zipIdx_add (lines : List Line) (start k : Nat) :
    ofLines (lines.zipIdx (start + k)) = (ofLines (lines.zipIdx start)).below k := by
  induction lines generalizing start with
  | nil => rfl
  | cons line lines ih =>
      rw [List.zipIdx_cons, List.zipIdx_cons, ofLines_cons, ofLines_cons (line, start), below_append,
        ofLines_singleton_add, Nat.add_right_comm, ih]

theorem parse_eq_ofLines (text : List Char) :
    parse (String.ofList text) = ofLines (((splitLines text).map Line.read).zipIdx 1) := by
  rw [parse, String.toList_ofList]

theorem parse_of_hasLines {text : String} {lines : List (List Char)} (has : HasLines text.toList lines) :
    parse text = ofLines ((lines.map Line.read).zipIdx 1) := by
  rw [parse, has.splitLines_eq]

theorem parse_line {line : List Char} (clean : '\n' ∉ line) :
    parse (String.ofList line) = ofLines [(Line.read line, 1)] := by
  rw [parse_eq_ofLines, splitLines_of_not_mem clean]
  rfl

theorem ofLines_zipIdx_eq_join {lines : List (List Char)} (clean : ∀ line ∈ lines, '\n' ∉ line) (above : Nat) :
    ofLines ((lines.map Line.read).zipIdx (above + 1)) =
      join ((lines.zipIdx above).map fun (line, n) => (parse (String.ofList line)).below n) := by
  induction lines generalizing above with
  | nil => rfl
  | cons line lines ih =>
      have rest := ih (fun l member => clean l (List.mem_cons_of_mem line member)) (above + 1)
      have first : ofLines [(Line.read line, above + 1)] = (parse (String.ofList line)).below above := by
        rw [parse_line (clean line List.mem_cons_self), Nat.add_comm, ofLines_singleton_add]
      rw [List.map_cons, List.zipIdx_cons, ofLines_cons, first, rest]
      rfl

/-- A text below another is read as if it stood alone, its numbers apart; and so is every line of a text. -/
theorem parse_join (a b : String) :
    parse (a ++ "\n" ++ b) = parse a ++ (parse b).below (a.toList.count '\n' + 1) ∧
      parse a = join ((splitLines a.toList).zipIdx.map fun (line, above) =>
        (parse (String.ofList line)).below above) := by
  have has := hasLines_splitLines a.toList
  constructor
  · have lines := map_splitLines_append Line.read_concat_return a.toList b.toList
    have text : (a ++ "\n" ++ b).toList = a.toList ++ '\n' :: b.toList := by simp
    rw [parse, text, lines, List.zipIdx_append, ofLines_append, List.length_map, has.length_eq,
      ofLines_zipIdx_add]
    rfl
  · exact ofLines_zipIdx_eq_join has.not_mem 0

example : (parse "A=\"open\nB=1 # b\"").assignments =
    [{ key := "A", value := "\"open", line := 1 },
      { key := "B", value := "1", line := 2, comment := some "b\"" }] := by
  decide +kernel

end EnvAudit.EnvFile
