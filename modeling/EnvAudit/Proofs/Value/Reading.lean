import EnvAudit.Host
import EnvAudit.Text.Quoted
import EnvAudit.Proofs.Text.Split
import EnvAudit.Value.Number
import EnvAudit.Value.Shape
import EnvAudit.Value.Url

/-!
# Values that are read

The checks of URLs, numbers and JSON try to read a value, and the reading raises a refusal where it fails. Here are
these checks as they are carried out: each catches the refusals of what it tries, and only those. `Url.read_eq`,
`readsNumber_eq` and `readsJson_eq` say that they always answer, and what.
-/

namespace EnvAudit.Value

/-- Tries a reading. A refusal is an answer, and whatever else is raised goes on. -/
def attempt {α : Type} : Except Raised α → Except Raised (Option α)
  | .ok a => .ok (some a)
  | .error (.refusal _) => .ok none
  | .error other => .error other

/-- A reading that comes to what there is, and refuses where there is nothing. -/
inductive Reads {α : Type} : Except Raised α → Option α → Prop
  | found (a : α) : Reads (.ok a) (some a)
  | refused (message : String) : Reads (.error (.refusal message)) none

namespace Reads
variable {α β : Type} {reading : Except Raised α} {there : Option α}

theorem attempt_eq (reads : Reads reading there) : attempt reading = .ok there := by
  cases reads <;> rfl

theorem bind {next : α → Except Raised β} {after : α → Option β} (reads : Reads reading there)
    (then_ : ∀ a, Reads (next a) (after a)) : Reads (reading >>= next) (there.bind after) := by
  cases reads with
  | found a => exact then_ a
  | refused message => exact .refused message

theorem map {f : α → β} (reads : Reads reading there) : Reads (reading.map f) (there.map f) := by
  cases reads with
  | found a => exact .found (f a)
  | refused message => exact .refused message

theorem ofTest {fine : Bool} {message : String} :
    Reads (if fine then .ok () else .error (.refusal message)) (if fine then some () else none) := by
  cases fine
  · exact .refused message
  · exact .found ()

end Reads

end EnvAudit.Value

namespace EnvAudit.Url
open Text Value

/-! ## URLs -/

structure Cut where
  scheme : List Char
  authority : List Char
  path : List Char
  query : List Char
  fragment : List Char

def checkHost (host : List Char) : Except Raised Unit :=
  if host.head? == some 'v' then
    if isFutureAddress host then .ok () else .error (.refusal "IPvFuture address is invalid")
  else if isDottedQuad host then .error (.refusal "An IPv4 address cannot be in brackets")
  else if isAddress host then .ok ()
  else .error (.refusal (quoted (String.ofList host) ++ " does not appear to be an IPv4 or IPv6 address"))

def checkBrackets (authority : List Char) : Except Raised Unit :=
  if authority.contains '[' != authority.contains ']' then .error (.refusal "Invalid IPv6 URL")
  else if authority.contains '[' then checkHost (cutFirst ']' ((cutFirst '[' authority).2.getD [])).1
  else .ok ()

def checkLetters (authority : List Char) : Except Raised Unit :=
  if !authority.any (hiddenDelimiters.contains ·.toNat) then .ok ()
  else .error (.refusal ("netloc '" ++ String.ofList authority ++
    "' contains invalid characters under NFKC normalization"))

def pieces (scheme rest : List Char) : Cut :=
  let (authority, rest) := splitAuthority rest
  let (rest, fragment) := cutFirst '#' rest
  let (path, query) := cutFirst '?' rest
  ⟨scheme.map Char.toLower, authority, path, query.getD [], fragment.getD []⟩

def cut (s : List Char) : Except Raised Cut := do
  let (scheme, rest) := (splitScheme? s).getD ([], s)
  let found := pieces scheme rest
  checkBrackets found.authority
  checkLetters found.authority
  return found

def portNumber (text : List Char) : Except Raised Nat :=
  if text.isEmpty || !text.all Char.isDigit then
    .error (.refusal ("Port could not be cast to integer value as " ++ quoted (String.ofList text)))
  else if Numeral.maxDigits < text.length then .error (.refusal (Numeral.tooManyDigitsRead text.length))
  else if 65535 < Numeral.ofDigits text then .error (.refusal "Port out of range 0-65535")
  else .ok (Numeral.ofDigits text)

def readPort (authority : List Char) : Except Raised (Option Nat) :=
  match (hostAndPort authority).2 with
  | none => .ok none
  | some text => (portNumber text).map some

def Cut.url? (cut : Cut) (port : Option Nat) : Option Url :=
  let text := fun s => String.ofList s
  let (user, password) := credentials cut.authority
  let (host, _) := hostAndPort cut.authority
  if hostSchemes.contains (text cut.scheme) && host.isEmpty then none
  else
    some {
      scheme := text cut.scheme
      authority := text cut.authority
      path := text cut.path
      query := text cut.query
      fragment := text cut.fragment
      user := user.map text
      password := password.map text
      host := if host.isEmpty then none else some (text (lowerHost host))
      port }

def read (value : String) : Except Raised (Option Url) := do
  let s := trim value.toList
  if s.any isBlank || (splitScheme? s).isNone then return none
  match ← attempt (do let cut ← cut s; (readPort cut.authority).map (cut, ·)) with
  | none => return none
  | some (cut, port) => return cut.url? port

theorem isAddress_of_isDottedQuad {s : List Char} (quad : isDottedQuad s = true) : isAddress s = false := by
  simp only [isDottedQuad, Bool.and_eq_true, List.all_eq_true] at quad
  have digits : ∀ c ∈ s, c ≠ '.' → c.isDigit = true := fun c member other => by
    obtain ⟨part, among, inside⟩ := exists_mem_splitAll member other
    have octet := quad.2 part among
    simp only [isOctet, Bool.and_eq_true, List.all_eq_true] at octet
    exact octet.1.1.1.2 c inside
  have colons : ':' ∉ s := fun member => absurd (digits _ member (by decide)) (by decide)
  have percents : '%' ∉ s := fun member => absurd (digits _ member (by decide)) (by decide)
  simp [isAddress, cutFirst_of_not_mem percents, splitAll_of_notMem colons]

theorem reads_checkHost (host : List Char) : Reads (checkHost host) (if isBracketed host then some () else none) := by
  unfold checkHost isBracketed
  split
  · exact .ofTest
  · split
    next quad =>
      rw [isAddress_of_isDottedQuad quad]
      exact .refused _
    next => exact .ofTest

theorem reads_checks (authority : List Char) :
    Reads (do checkBrackets authority; checkLetters authority) (if isAuthority authority then some () else none) := by
  have letters : Reads (checkLetters authority)
      (if !authority.any (hiddenDelimiters.contains ·.toNat) then some () else none) := .ofTest
  unfold checkBrackets isAuthority
  cases opening : authority.contains '[' <;> cases closing : authority.contains ']'
  · exact letters
  · exact .refused _
  · exact .refused _
  · have hosts := (reads_checkHost (cutFirst ']' ((cutFirst '[' authority).2.getD [])).1).bind fun _ => letters
    cases fine : isBracketed (cutFirst ']' ((cutFirst '[' authority).2.getD [])).1 <;> rw [fine] at hosts <;> exact hosts

theorem reads_cut {s scheme rest : List Char} (splits : splitScheme? s = some (scheme, rest)) :
    Reads (cut s) (if isAuthority (pieces scheme rest).authority then some (pieces scheme rest) else none) := by
  have checked := (reads_checks (pieces scheme rest).authority).map (f := fun _ => pieces scheme rest)
  have carried : cut s = (do checkBrackets (pieces scheme rest).authority
                             checkLetters (pieces scheme rest).authority).map fun _ => pieces scheme rest := by
    rw [cut, splits]
    simp only [Option.getD_some, bind, Except.bind, Except.map]
    cases checkBrackets (pieces scheme rest).authority <;> rfl
  rw [carried]
  cases fine : isAuthority (pieces scheme rest).authority <;> rw [fine] at checked <;> exact checked

def port? (authority : List Char) : Option (Option Nat) :=
  match (hostAndPort authority).2 with
  | none => some none
  | some text => (portOf? text).map some

theorem reads_portNumber (text : List Char) : Reads (portNumber text) (portOf? text) := by
  unfold portNumber portOf?
  split
  next strange =>
    have refused : (!text.isEmpty && text.all Char.isDigit) = false := by
      revert strange
      cases text.isEmpty <;> cases text.all Char.isDigit <;> decide
    rw [refused]
    exact .refused _
  next numeral =>
    split
    next long =>
      rw [if_neg fun fine => by simp at fine; omega]
      exact .refused _
    next short =>
      split
      next high =>
        rw [if_neg fun fine => by simp at fine; omega]
        exact .refused _
      next low =>
        rw [if_pos (by simp_all)]
        exact .found _

theorem reads_readPort (authority : List Char) : Reads (readPort authority) (port? authority) := by
  unfold readPort port?
  cases (hostAndPort authority).2 with
  | none => exact .found none
  | some text => exact (reads_portNumber text).map

theorem parse?_eq {value : String} {scheme rest : List Char} (solid : (trim value.toList).any isBlank = false)
    (splits : splitScheme? (trim value.toList) = some (scheme, rest)) :
    parse? value = (port? (pieces scheme rest).authority).bind fun port =>
      if isAuthority (pieces scheme rest).authority then (pieces scheme rest).url? port else none := by
  unfold parse? port?
  simp only [solid, splits, Bool.false_eq_true, if_false, Option.bind_eq_bind, Option.bind_some]
  have same : (pieces scheme rest).authority = (splitAuthority rest).1 := rfl
  rw [same]
  cases (hostAndPort (splitAuthority rest).1).2 with
  | none => cases isAuthority (splitAuthority rest).1 <;> rfl
  | some text =>
      cases number : portOf? text with
      | none =>
          simp only [number]
          rfl
      | some port =>
          simp only [number]
          cases isAuthority (splitAuthority rest).1 <;> rfl

/-- Whether a value is a URL is always answered: nothing is raised on the way but refusals, which are caught. -/
theorem read_eq (value : String) : read value = .ok (parse? value) := by
  unfold read
  cases solid : (trim value.toList).any isBlank with
  | true => simp [parse?, solid, pure, Except.pure]
  | false =>
      cases splits : splitScheme? (trim value.toList) with
      | none => simp [parse?, solid, splits, pure, Except.pure]
      | some found =>
          obtain ⟨scheme, rest⟩ := found
          have tried := ((reads_cut splits).bind fun cut =>
            (reads_readPort cut.authority).map (f := fun port => (cut, port))).attempt_eq
          rw [parse?_eq solid splits]
          simp only [solid, splits, Option.isNone_some, Bool.or_false, Bool.false_eq_true, if_false]
          rw [tried]
          cases isAuthority (pieces scheme rest).authority with
          | false => cases port? (pieces scheme rest).authority <;> rfl
          | true =>
              simp only [if_true, Option.bind_some]
              cases port? (pieces scheme rest).authority <;> rfl

end EnvAudit.Url

namespace EnvAudit.Value

def readsUrl (value : String) : Except Raised Bool := return (← Url.read value).isSome

def readsCredentials (value : String) : Except Raised Bool := do
  match ← Url.read value with
  | none => return false
  | some url => return url.user.any (!·.isEmpty) || url.password.any (!·.isEmpty)

theorem readsUrl_eq (value : String) : readsUrl value = .ok (isUrl value) := by
  rw [readsUrl, Url.read_eq]
  rfl

theorem readsCredentials_eq (value : String) : readsCredentials value = .ok (holdsCredentials value) := by
  rw [readsCredentials, Url.read_eq, holdsCredentials]
  cases Url.parse? value <;> rfl

/-! ## Numbers -/

def readFloat (s : List Char) : Except Raised Binary64 :=
  match Binary64.read? s with
  | some x => .ok x
  | none => .error (.refusal ("could not convert string to float: " ++ Text.quoted (String.ofList s)))

def readBased (s : List Char) : Except Raised Unit :=
  if isBased s then .ok ()
  else .error (.refusal ("invalid literal for int() with base 0: " ++ Text.quoted (String.ofList s)))

def readsNumber (value : String) : Except Raised Bool := do
  let s := (Text.trim value.toList).map plainNumeral
  if s.contains '_' then return false
  match ← attempt (readFloat s) with
  | some x => return x.isFinite
  | none => return (← attempt (readBased s)).isSome

theorem readsNumber_eq (value : String) : readsNumber value = .ok (isNumber value) := by
  unfold readsNumber isNumber
  simp only
  split
  · rfl
  · unfold readFloat
    cases Binary64.read? ((Text.trim value.toList).map plainNumeral) with
    | some x => rfl
    | none =>
        unfold readBased
        cases isBased ((Text.trim value.toList).map plainNumeral) <;> rfl

/-! ## JSON -/

def readJson (value : String) : Except Raised Json := (Json.read value).mapError (.refusal ·.message)

def readsJson (value : String) : Except Raised Bool := return (← attempt (readJson value)).isSome

theorem readsJson_eq (value : String) : readsJson value = .ok (isJson value) := by
  unfold readsJson readJson isJson
  cases Json.read value <;> rfl

end EnvAudit.Value
