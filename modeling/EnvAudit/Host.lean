/-!
# What the program runs on

An audit calls on things that are not its own: names of characters, foreign modules with their functions, and the
room that there is for deep nesting. They are the fields of a `Host`, of which no more is known than that the empty
pattern can be read. A check always gives the same answer for a value, and may raise any error; importing a module
raises none of the program's own. There is no bound on how deep a JSON or YAML text may be nested.
-/

namespace EnvAudit

/-- What foreign code raises. A reader of documents takes the first two for its own refusals; the others end it. -/
inductive Raised where
  | refusal (message : String)
  | assertion (message : String)
  | exit (status : Nat)
  | other (kind message : String)
  deriving DecidableEq, Repr, Inhabited

namespace Raised

def message : Raised → String
  | refusal message | assertion message | other _ message => message
  | exit status => toString status

def status : Raised → Nat
  | exit status => status
  | _ => 1

def exhausted : Raised := .other "RecursionError" "maximum recursion depth exceeded"

end Raised

/-- What a check raises: an error with a code, as the program's own ones have, or anything else. -/
inductive Complaint where
  | coded (code message : String)
  | raised (raised : Raised)
  deriving DecidableEq, Repr, Inhabited

namespace Complaint

def code? : Complaint → Option String
  | coded code _ => some code
  | raised _ => none

def message : Complaint → String
  | coded _ message => message
  | raised r => r.message

def status : Complaint → Nat
  | coded .. => 1
  | raised r => r.status

end Complaint

abbrev Check := String → Except Complaint Bool

def Check.ofTest (test : String → Bool) : Check := fun value => .ok (test value)

inductive Member where
  | absent
  | value
  | check (check : Check)
  | raised (raised : Raised)

/-- What comes of importing a module: what its members are, by the parts of their dotted names, or why there
is no module. -/
inductive Imported where
  | loaded (member : List String → Member)
  | missing (message : String)
  | raised (raised : Raised)

class Host where
  /-- The character of a name. -/
  character? : String → Option Char
  importModule : String → Imported
  /-- Whether the text of a pattern is nested too deeply to be read. -/
  isTooNested : String → Bool
  /-- How deep inside others a value may stand to be shown. -/
  maxDepth : Nat
  isTooNested_empty : isTooNested "" = false

end EnvAudit
