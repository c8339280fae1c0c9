import EnvAudit.Host
import EnvAudit.Pattern.Matcher
import EnvAudit.Pattern.Parser

namespace EnvAudit

structure Pattern.Reading (character? : String → Option Char) extends Pattern.Tree where
  text : String
  parse_text : Pattern.parse character? text.toList = .ok toTree

/-- A pattern that names no characters, so that it is the same for every host. -/
abbrev Pattern.Plain := Pattern.Reading fun _ => none

structure Pattern [Host] extends Pattern.Reading Host.character? where
  shallow : Host.isTooNested text = false

namespace Pattern

namespace Reading

def compile (character? : String → Option Char) (text : String) : Except Error (Reading character?) :=
  match h : parse character? text.toList with
  | .ok tree => .ok ⟨tree, text, h⟩
  | .error e => .error e

def blank (character? : String → Option Char) : Reading character? := ⟨{}, "", by rfl⟩

end Reading

def Plain.ofText (text : String) : Plain :=
  match Reading.compile (fun _ => none) text with
  | .ok pattern => pattern
  | .error _ => .blank _

section
variable [Host]

def compile (text : String) : Except Error Pattern :=
  if deep : Host.isTooNested text then .error .tooDeep
  else
    match h : parse Host.character? text.toList with
    | .ok tree => .ok ⟨⟨tree, text, h⟩, by simpa using deep⟩
    | .error e => .error e

def blank : Pattern := ⟨.blank _, Host.isTooNested_empty⟩

instance : Inhabited Pattern := ⟨blank⟩

/-- Whether one of some patterns matches somewhere in a value. Patterns are read one after the other, so
one behind the first match may be flawed. -/
def anyMatch : List String → String → Except Error Bool
  | [], _ => .ok false
  | text :: texts, value =>
    match compile text with
    | .error e => .error e
    | .ok pattern => if pattern.search value then .ok true else anyMatch texts value

def ofText (text : String) : Pattern :=
  match compile text with
  | .ok pattern => pattern
  | .error _ => blank

theorem text_of_compile {text : String} {p : Pattern} (h : compile text = .ok p) : p.text = text := by
  unfold compile at h
  split at h
  · cases h
  · split at h
    · cases h; rfl
    · cases h

theorem compile_text (p : Pattern) : compile p.text = .ok p := by
  obtain ⟨⟨tree, text, hp⟩, shallow⟩ := p
  rw [compile, dif_neg (by simp [shallow])]
  split
  · rename_i read h
    cases hp.symm.trans h
    rfl
  · rename_i e h
    rw [hp] at h
    cases h

end

end Pattern

end EnvAudit
