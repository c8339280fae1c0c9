import EnvAudit.EnvFile.Basic
import EnvAudit.EnvFile.Line

namespace EnvAudit

namespace Assignment

def ofRaw (key : List Char) (raw : RawValue) (number : Int) : Assignment where
  key := String.ofList key
  value := String.ofList raw.value
  line := number
  isQuoted := raw.isQuoted
  comment := raw.comment.map String.ofList

def parse (line : String) (number : Int) : Except MalformedLine Assignment :=
  let s := Text.trim line.toList
  match splitAssignment? s with
  | some (key, value) => .ok (.ofRaw key (RawValue.read value) number)
  | none => .error ⟨number, String.ofList s⟩

end Assignment

namespace Line

def assignment? (number : Int) : Line → Option Assignment
  | assignment key raw => some (.ofRaw key raw number)
  | _ => none

def comment? : Line → Option String
  | comment text => some (String.ofList text)
  | _ => none

def blank? (number : Int) : Line → Option Int
  | blank => some number
  | _ => none

def malformed? (number : Int) : Line → Option MalformedLine
  | malformed text => some ⟨number, String.ofList text⟩
  | _ => none

end Line

namespace EnvFile

def ofLines (lines : List (Line × Nat)) : EnvFile where
  assignments := lines.filterMap fun (line, n) => line.assignment? n
  comments := lines.filterMap fun (line, _) => line.comment?
  blankLines := lines.filterMap fun (line, n) => line.blank? n
  malformed := lines.filterMap fun (line, n) => line.malformed? n

def parse (content : String) : EnvFile :=
  ofLines (((splitLines content.toList).map Line.read).zipIdx 1)

end EnvFile

end EnvAudit
