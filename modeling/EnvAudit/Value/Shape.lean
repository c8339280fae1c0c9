import EnvAudit.Json.Reader
import EnvAudit.Text.Blank
import EnvAudit.Text.Case
import EnvAudit.Text.Split

namespace EnvAudit.Value

open Text

def isLetterOf (low c : Char) : Bool := lowerChar c == low || (siblings low).contains (lowerChar c)

def dropWord? : List Char → List Char → Option (List Char)
  | [], s => some s
  | _ :: _, [] => none
  | low :: word, c :: s => if isLetterOf low c then dropWord? word s else none

def isWord (word : String) (s : List Char) : Bool := dropWord? word.toList s == some []

def startsWithWord (word : String) (s : List Char) : Bool :=
  (dropWord? word.toList s).any (!·.contains '\n')

def isBetween (first last : Char) (s : List Char) : Bool :=
  2 ≤ s.length && s.head? == some first && s.getLast? == some last && !s.contains '\n'

def isCrossedOut (s : List Char) : Bool := 3 ≤ s.length && s.all (isLetterOf 'x')

def isPlaceholder (value : String) : Bool :=
  let s := trim value.toList
  isBetween '<' '>' s || isBetween '[' ']' s || isBetween '\x7b' '\x7d' s ||
    startsWithWord "your_" s || startsWithWord "example_" s || isCrossedOut s ||
    ["placeholder", "change_me", "replace_me", "todo", "fixme"].any (isWord · s)

def truthWords : List String := ["true", "false", "1", "0", "yes", "no"]

def isBoolean (value : String) : Bool := truthWords.contains (lower (strip value))

def isDotted (domain : List Char) : Bool := ((domain.drop 1).dropLast).contains '.'

def isEmail (value : String) : Bool :=
  let s := value.toList
  match cutFirst '@' s with
  | (user, some domain) => !s.any isBlank && !user.isEmpty && !domain.contains '@' && isDotted domain
  | (_, none) => false

def isJson (value : String) : Bool := (Json.read value).isOk

def weakSecrets : List String :=
  ["secret", "password", "admin", "root", "user", "test", "dev", "development", "123456", "qwerty",
    "letmein", "changeme", "default"]

def minSecretLength : Nat := 8

def isWeakSecret (value : String) : Bool :=
  weakSecrets.contains (lower value) || value.length < minSecretLength

def isBase64Secret (s : List Char) : Bool :=
  let digit := fun (c : Char) => c.isAlphanum || c == '+' || c == '/'
  let tail := s.dropWhile digit
  40 ≤ (s.takeWhile digit).length && (tail == [] || tail == ['='] || tail == ['=', '='])

def isHexSecret (s : List Char) : Bool :=
  32 ≤ s.length && s.all fun c =>
    let low := lowerChar c
    low.isDigit || ('a' ≤ low && low ≤ 'f')

def isRandomSecret (s : List Char) : Bool :=
  32 ≤ s.length && s.all fun c => c.isAlphanum || c == '_' || c == '-'

def secretShape? (value : String) : Option String :=
  let s := value.toList
  if isBase64Secret s then some "Base64 encoded secret"
  else if isHexSecret s then some "Hexadecimal secret"
  else if isRandomSecret s then some "Random string secret"
  else none

end EnvAudit.Value
