import EnvAudit.Host
import EnvAudit.Pattern.Error

namespace EnvAudit

inductive Step where
  | name (name : String)
  | index (position : Int)
  deriving DecidableEq, Repr, Inhabited

inductive Misfit where
  | missing
  | textExpected
  | textNotUtf8
  | textTooShort
  | flagExpected
  | flagUnreadable
  | wholeExpected
  | wholeUnreadable
  | wholeTooLong
  | wholeNotFinite
  | wholeFromFraction
  | numberExpected
  | numberUnreadable
  | wordUnknown
  | choiceUnknown
  | listExpected
  | mapExpected
  | recordExpected
  | patternExpected
  | patternNotText
  | patternUnreadable
  | testExpected
  | pathExpected
  | refused (reason : String)
  | asserted (reason : String)
  deriving DecidableEq, Repr, Inhabited

namespace Misfit

def code : Misfit → String
  | missing => "missing"
  | textExpected => "string_type"
  | textNotUtf8 => "string_unicode"
  | textTooShort => "string_too_short"
  | flagExpected => "bool_type"
  | flagUnreadable => "bool_parsing"
  | wholeExpected => "int_type"
  | wholeUnreadable => "int_parsing"
  | wholeTooLong => "int_parsing_size"
  | wholeNotFinite => "finite_number"
  | wholeFromFraction => "int_from_float"
  | numberExpected => "float_type"
  | numberUnreadable => "float_parsing"
  | wordUnknown => "enum"
  | choiceUnknown => "literal_error"
  | listExpected => "list_type"
  | mapExpected => "dict_type"
  | recordExpected => "model_type"
  | patternExpected => "pattern_type"
  | patternNotText => "pattern_str_type"
  | patternUnreadable => "pattern_regex"
  | testExpected => "callable_type"
  | pathExpected => "path_type"
  | refused _ => "value_error"
  | asserted _ => "assertion_error"

def message? : Misfit → Option String
  | refused reason => some ("Value error, " ++ reason)
  | asserted reason => some ("Assertion failed, " ++ reason)
  | _ => none

end Misfit

structure Cause where
  place : List Step
  misfit : Misfit
  deriving DecidableEq, Repr, Inhabited

/-- What ends the reading of a document at once: a pattern that cannot be held, a module named relative to no
package, and what foreign code raises. -/
inductive Halt where
  | pattern (error : Pattern.Error)
  | relativeModule (name : String)
  | raised (raised : Raised)
  deriving Repr, Inhabited

inductive Checked (α : Type) where
  | ok (value : α)
  | refused (causes : List Cause)
  | aborted (halt : Halt)
  deriving Repr

namespace Checked

def misfit {α : Type} (kind : Misfit) : Checked α := refused [⟨[], kind⟩]

def map {α β : Type} (f : α → β) : Checked α → Checked β
  | ok value => ok (f value)
  | refused causes => refused causes
  | aborted halt => aborted halt

def both {α β : Type} : Checked α → Checked β → Checked (α × β)
  | aborted halt, _ => aborted halt
  | _, aborted halt => aborted halt
  | ok a, ok b => ok (a, b)
  | refused causes, ok _ => refused causes
  | ok _, refused causes => refused causes
  | refused first, refused second => refused (first ++ second)

instance : Functor Checked where
  map := map

instance : Applicative Checked where
  pure := ok
  seq f x := (both f (x ())).map fun (f, x) => f x

def andThen {α β : Type} (reading : Checked α) (check : α → Checked β) : Checked β :=
  match reading with
  | ok value => check value
  | refused causes => refused causes
  | aborted halt => aborted halt

def within {α : Type} (step : Step) : Checked α → Checked α
  | refused causes => refused (causes.map fun cause => { cause with place := step :: cause.place })
  | other => other

def all {α : Type} : List (Checked α) → Checked (List α)
  | [] => ok []
  | first :: others => (fun value values => value :: values) <$> first <*> all others

def value? {α : Type} : Checked α → Option α
  | ok value => some value
  | _ => none

end Checked

end EnvAudit
