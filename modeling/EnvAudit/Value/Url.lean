import EnvAudit.Numeral
import EnvAudit.Text.Blank
import EnvAudit.Text.Case
import EnvAudit.Text.Split

/-!
# URLs

A value is a URL when it starts with a scheme and its host and port, where it has them, are well formed.
The schemes of the web and of file transfer need a host. `Url.parse?` splits a value into the parts;
they stay as they are written, apart from the case of scheme and host.
-/

namespace EnvAudit

structure Url where
  scheme : String
  authority : String
  path : String
  query : String
  fragment : String
  user : Option String
  password : Option String
  host : Option String
  port : Option Nat
  deriving DecidableEq, Repr, Inhabited

namespace Url

open Text

def isHextet (s : List Char) : Bool :=
  !s.isEmpty && s.length ≤ 4 && s.all fun c => (Numeral.hexValue? c).isSome

def isOctet (s : List Char) : Bool :=
  !s.isEmpty && s.all Char.isDigit && s.length ≤ 3 && Numeral.ofDigits s ≤ 255 &&
    (s == ['0'] || s.head? != some '0')

def isDottedQuad (s : List Char) : Bool :=
  let parts := splitAll '.' s
  parts.length == 4 && parts.all isOctet

def widenQuad? (parts : List (List Char)) : Option (List (List Char)) :=
  match parts.getLast? with
  | none => none
  | some last =>
    if last.contains '.' then
      if isDottedQuad last then some (parts.dropLast ++ [['0'], ['0']]) else none
    else some parts

/-- Groups with one gap, before and behind which they stand; a gap takes the place of at least one. -/
def isGapped (front back : List (List Char)) : Bool :=
  let front := if front == [[]] then [] else front
  let back := if back == [[]] then [] else back
  front.length + back.length ≤ 7 && front.all isHextet && back.all isHextet

def isGroups (parts : List (List Char)) : Bool :=
  let inner := (parts.drop 1).dropLast
  if parts.length < 3 || 9 < parts.length then false
  else
    match inner.count [] with
    | 0 => parts.length == 8 && parts.all isHextet
    | 1 =>
      let front := (inner.takeWhile (!·.isEmpty)).length + 1
      isGapped (parts.take front) (parts.drop (front + 1))
    | _ => false

def isAddress (s : List Char) : Bool :=
  let (address, zone) := cutFirst '%' s
  let zoneIsFine :=
    match zone with
    | none => true
    | some zone => !zone.isEmpty && !zone.contains '%'
  let parts := splitAll ':' address
  !s.contains '/' && zoneIsFine && 3 ≤ parts.length && (widenQuad? parts).any isGroups

def isFutureAddress (s : List Char) : Bool :=
  match s with
  | 'v' :: rest =>
    let (version, tail) := cutFirst '.' rest
    !version.isEmpty && version.all (fun c => (Numeral.hexValue? c).isSome) &&
      tail.any fun tail => !tail.isEmpty && !tail.contains '\n'
  | _ => false

def isBracketed (s : List Char) : Bool :=
  if s.head? == some 'v' then isFutureAddress s else isAddress s

def hiddenDelimiters : List Nat :=
  [0x2047, 0x2048, 0x2049, 0x2100, 0x2101, 0x2105, 0x2106, 0x2a74, 0xfe13, 0xfe16, 0xfe55, 0xfe56, 0xfe5f,
    0xfe6b, 0xff03, 0xff0f, 0xff1a, 0xff1f, 0xff20]

def splitAuthority (s : List Char) : List Char × List Char :=
  match s with
  | '/' :: '/' :: rest =>
    let inside := fun c => c != '/' && c != '?' && c != '#'
    (rest.takeWhile inside, rest.dropWhile inside)
  | _ => ([], s)

/-- Brackets come in pairs, what stands in them is an address, and nothing only looks like a delimiter. -/
def isAuthority (s : List Char) : Bool :=
  let bracketsAreFine :=
    if s.contains '[' || s.contains ']' then
      s.contains '[' && s.contains ']' &&
        isBracketed (cutFirst ']' ((cutFirst '[' s).2.getD [])).1
    else true
  bracketsAreFine && !s.any fun c => hiddenDelimiters.contains c.toNat

def credentials (authority : List Char) : Option (List Char) × Option (List Char) :=
  match (cutLast '@' authority).1 with
  | none => (none, none)
  | some info =>
    let (user, password) := cutFirst ':' info
    (some user, password)

def hostAndPort (authority : List Char) : List Char × Option (List Char) :=
  let info := (cutLast '@' authority).2
  let (host, port) :=
    match (cutFirst '[' info).2 with
    | some bracketed =>
      let (host, tail) := cutFirst ']' bracketed
      (host, (cutFirst ':' (tail.getD [])).2)
    | none => cutFirst ':' info
  (host, port.filter (!·.isEmpty))

def lowerHost (host : List Char) : List Char :=
  match cutFirst '%' host with
  | (host, none) => (lower (String.ofList host)).toList
  | (host, some zone) => (lower (String.ofList host)).toList ++ '%' :: zone

def portOf? (s : List Char) : Option Nat :=
  if !s.isEmpty && s.all Char.isDigit && s.length ≤ Numeral.maxDigits && Numeral.ofDigits s ≤ 65535 then
    some (Numeral.ofDigits s)
  else none

def hostSchemes : List String := ["http", "https", "ws", "wss", "ftp"]

def isSchemeChar (c : Char) : Bool := c.isAlphanum || c == '+' || c == '.' || c == '-'

def splitScheme? (s : List Char) : Option (List Char × List Char) :=
  match s with
  | c :: rest =>
    if c.isAlpha then
      match rest.dropWhile isSchemeChar with
      | ':' :: behind => some (c :: rest.takeWhile isSchemeChar, behind)
      | _ => none
    else none
  | [] => none

/-- Splits a value into the parts of a URL, if it is one. Blanks around it do not count. -/
def parse? (value : String) : Option Url := do
  let s := trim value.toList
  if s.any isBlank then none
  let (scheme, rest) ← splitScheme? s
  let (authority, rest) := splitAuthority rest
  let (rest, fragment) := cutFirst '#' rest
  let (path, query) := cutFirst '?' rest
  let (user, password) := credentials authority
  let (host, portText) := hostAndPort authority
  let port ←
    match portText with
    | none => some none
    | some text => (portOf? text).map some
  let scheme := String.ofList (scheme.map Char.toLower)
  if !isAuthority authority || (hostSchemes.contains scheme && host.isEmpty) then none
  else
    let text := fun s => String.ofList s
    some {
      scheme
      authority := text authority
      path := text path
      query := text (query.getD [])
      fragment := text (fragment.getD [])
      user := user.map text
      password := password.map text
      host := if host.isEmpty then none else some (text (lowerHost host))
      port }

end Url

namespace Value

def isUrl (value : String) : Bool := (Url.parse? value).isSome

def holdsCredentials (value : String) : Bool :=
  match Url.parse? value with
  | none => false
  | some url => url.user.any (!·.isEmpty) || url.password.any (!·.isEmpty)

end Value

end EnvAudit
