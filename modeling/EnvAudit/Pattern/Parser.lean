import EnvAudit.Pattern.Escape
import EnvAudit.Text.Blank
import EnvAudit.Text.Identifier

/-!
# Reading patterns

`parse` turns the text of a pattern into its tree and its flags, or says what is wrong with it. Flaws are
found from left to right; what can only be judged on the whole tree, such as the width of a lookbehind,
is judged after that.
-/

namespace EnvAudit.Pattern

open Reader

def maxCount : Nat := Nat.pow 2 32 - 1

def maxGroups : Nat := Nat.pow 2 30 - 1

def isPatternBlank (c : Char) : Bool :=
  c == ' ' || c == '\t' || c == '\n' || c == '\r' || c == '\x0b' || c == '\x0c'

def flagOf? : Char → Option Flags
  | 'i' => some { ignoreCase := true }
  | 'm' => some { multiLine := true }
  | 's' => some { dotAll := true }
  | 'x' => some { verbose := true }
  | 'a' => some { ascii := true }
  | 't' => some { template := true }
  | 'u' => some { unicode := true }
  | _ => none

/-! ## Flags -/

inductive FlagEnd where
  | close
  | colon
  | minus

def flagFlaw (text : List Char) (expected : Flaw) : Flaw :=
  match text with
  | [c] => if Text.isLetter c then .unknownFlag else expected
  | _ => expected

def readAdded (text : List Char) (added : Flags) : Nat → Reader (Flags × FlagEnd)
  | 0 => fail .missingFlagEnd
  | fuel + 1 => do
    if text == ['L'] then fail .localeFlag
    match text with
    | [c] =>
      match flagOf? c with
      | none => fail (flagFlaw text .missingFlagEnd) text.length
      | some flag =>
        let added := added.union flag
        if flag.hasClass && added.ascii && added.unicode then fail .incompatibleFlags
        match ← next with
        | none => fail .missingFlagEnd
        | some [')'] => return (added, .close)
        | some ['-'] => return (added, .minus)
        | some [':'] => return (added, .colon)
        | some text =>
          if text != ['L'] && (text.length != 1 || (flagOf? (text.headD ' ')).isNone) then
            fail (flagFlaw text .missingFlagEnd) text.length
          readAdded text added fuel
    | _ => fail .missingFlagEnd text.length

def readRemoved (text : List Char) (removed : Flags) : Nat → Reader Flags
  | 0 => fail .missingColon
  | fuel + 1 => do
    if text == ['L'] then fail .turnedOffClass
    match text with
    | [c] =>
      match flagOf? c with
      | none => fail (flagFlaw text .missingColon) text.length
      | some flag =>
        if flag.hasClass then fail .turnedOffClass
        let removed := removed.union flag
        match ← next with
        | none => fail .missingColon
        | some [':'] => return removed
        | some text =>
          if text != ['L'] && (text.length != 1 || (flagOf? (text.headD ' ')).isNone) then
            fail (flagFlaw text .missingColon) text.length
          readRemoved text removed fuel
    | _ => fail .missingColon text.length

/-- Reads flags that start with `text`: those of the whole pattern give nothing, those of a group
what it adds and removes. -/
def readFlags (text : List Char) : Reader (Option (Flags × Flags)) := do
  let fuel := (← get).tokens.length + 1
  let (added, stop) ← if text == ['-'] then pure (Flags.empty, FlagEnd.minus) else readAdded text {} fuel
  match stop with
  | .close =>
    modify fun s => { s with flags := s.flags.union added }
    return none
  | _ =>
    if added.template then fail .turnedOnGlobal 1
    let removed ←
      match stop with
      | .minus => do
        match ← next with
        | none => fail .missingFlag
        | some text =>
          if text != ['L'] && (text.length != 1 || (flagOf? (text.headD ' ')).isNone) then
            fail (flagFlaw text .missingFlag) text.length
          readRemoved text {} fuel
      | _ => pure {}
    if removed.template then fail .turnedOffGlobal 1
    if added.meets removed then fail .turnedOnAndOff 1
    return some (added, removed)

/-! ## Sets -/

def distinctItems (items : List SetItem) : List SetItem :=
  items.foldl (fun kept item => if item ∈ kept then kept else kept ++ [item]) []

def readMember (text : List Char) : Reader SetItem :=
  match text with
  | ['\\', c] => setEscape c
  | c :: _ => return .char c.toNat
  | [] => fail .unterminatedSet

def readMembers (here : Nat) (items : List SetItem) : Nat → Reader (List SetItem)
  | 0 => fail .unterminatedSet
  | fuel + 1 => do
    let unterminated : Reader (List SetItem) := do fail .unterminatedSet ((← tell) - here)
    match ← next with
    | none => unterminated
    | some text =>
      if text == [']'] && !items.isEmpty then return items
      let first ← readMember text
      if !(← accept '-') then readMembers here (items ++ [first]) fuel
      else
        match ← next with
        | none => unterminated
        | some [']'] => return items ++ [first, .char '-'.toNat]
        | some upper =>
          let second ← readMember upper
          let bad := Flaw.badRange (String.ofList text) (String.ofList upper)
          match first, second with
          | .char low, .char high =>
            if high < low then fail bad (text.length + 1 + upper.length)
            readMembers here (items ++ [.range low high]) fuel
          | _, _ => fail bad (text.length + 1 + upper.length)

def readSet : Reader Node := do
  let here := (← tell) - 1
  let negated ← accept '^'
  let items := distinctItems (← readMembers here [] ((← get).tokens.length + 1))
  match items with
  | [.char code] => return if negated then .notChar code else .char code
  | items => return .set negated items

/-! ## Repetitions -/

def readCounts : Reader (Option (Nat × Option Nat)) := do
  let here ← get
  let position ← tell
  if (← peek) == some ['\x7d'] then return none
  let low ← takeAll Char.isDigit
  let high ← if ← accept ',' then takeAll Char.isDigit else pure low
  if !(← accept '\x7d') then
    set here
    return none
  let least := valueIn 10 low
  if maxCount ≤ least then throw .countTooLarge
  if high.isEmpty then return some (least, none)
  let most := valueIn 10 high
  if maxCount ≤ most then throw .countTooLarge
  if most < least then fail .minOverMax ((← tell) - position)
  return some (least, some most)

def repeatLast (nodes : List Node) (start least : Nat) (most : Option Nat) : Reader (List Node) := do
  let back : Reader Nat := do return (← tell) - start
  match nodes.getLast? with
  | none => fail .nothingToRepeat (← back)
  | some (.place _) => fail .nothingToRepeat (← back)
  | some (.repetition ..) => fail .multipleRepeat (← back)
  | some node =>
    let body :=
      match node with
      | .group none added removed body =>
        if added = Flags.empty && removed = Flags.empty then body else [node]
      | _ => [node]
    let greed ←
      if ← accept '?' then pure Greed.lazy
      else do
        -- The mark for possessive repetition is looked for only where there is none for a lazy one.
        if ← accept '+' then pure Greed.possessive else pure Greed.greedy
    return nodes.dropLast ++ [.repetition greed least most body]

/-! ## Sequences and alternatives -/

def unpack (nodes : List Node) : List Node :=
  nodes.flatMap fun node =>
    match node with
    | .group none added removed body => if added = Flags.empty && removed = Flags.empty then body else [node]
    | _ => [node]

def sameLeaf : Node → Node → Bool
  | .char a, .char b => a == b
  | .notChar a, .notChar b => a == b
  | .any, .any => true
  | .set m a, .set n b => m == n && a == b
  | .place a, .place b => a == b
  | .backref a, .backref b => a == b
  | _, _ => false

def sharedHead? (alternatives : List (List Node)) : Option Node :=
  match alternatives with
  | (first :: _) :: others =>
    if others.all fun other => (other.head?.map (sameLeaf · first)).getD false then some first
    else none
  | _ => none

def splitShared (alternatives : List (List Node)) : Nat → List Node × List (List Node)
  | 0 => ([], alternatives)
  | fuel + 1 =>
    match sharedHead? alternatives with
    | none => ([], alternatives)
    | some leaf =>
      if sameLeaf leaf leaf then
        let (shared, rest) := splitShared (alternatives.map (·.drop 1)) fuel
        (leaf :: shared, rest)
      else ([], alternatives)

def alternativeItems? : List Node → Option (List SetItem)
  | [.char code] => some [.char code]
  | [.set false items] => some items
  | _ => none

def joinAlternatives (alternatives : List (List Node)) : List Node :=
  let size := (alternatives.map List.length).foldl max 0
  let (shared, rest) := splitShared alternatives size
  match rest.mapM alternativeItems? with
  | some items => shared ++ [.set false (distinctItems items.flatten)]
  | none => shared ++ [.branch rest]

def skipLine : Nat → Reader Unit
  | 0 => return ()
  | fuel + 1 => do
    match ← next with
    | none => return ()
    | some text => if text == ['\n'] then return () else skipLine fuel

def skipComment (start : Nat) : Nat → Reader Unit
  | 0 => return ()
  | fuel + 1 => do
    match ← peek with
    | none => fail .unterminatedComment ((← tell) - start)
    | some text =>
      let _ ← next
      if text == [')'] then return () else skipComment start fuel

def groupName (terminator : Char) : Reader (List Char) := do
  let name ← Reader.name terminator "group name"
  if !Text.isIdentifier name then fail (.badGroupName (String.ofList name)) (name.length + 1)
  return name

def groupNumber? (text : List Char) : Option Nat :=
  let text := (text.reverse.dropWhile Text.isBlank).reverse.dropWhile Text.isBlank
  let text :=
    match text with
    | '+' :: rest => rest
    | '-' :: rest => if rest.all (· == '0') then rest else text
    | text => text
  let parts := (String.ofList text).splitOn "_"
  if parts.all fun part => !part.isEmpty && part.toList.all fun c => (Text.digitValue? c).isSome then
    some (text.foldl (fun value c =>
      match Text.digitValue? c with
      | some digit => value * 10 + digit
      | none => value) 0)
  else none

def readCondition : Reader Nat := do
  let name ← Reader.name ')' "group name"
  let text := String.ofList name
  let index ←
    if Text.isIdentifier name then
      match (← get).names.find? (·.1 == text) with
      | some (_, index) => pure index
      | none => fail (.unknownGroup text) (name.length + 1)
    else
      match groupNumber? name with
      | none => fail (.badGroupName text) (name.length + 1)
      | some index =>
        if index == 0 then fail .badGroupNumber (name.length + 1)
        if maxGroups ≤ index then fail (.invalidGroup index) (name.length + 1)
        let position := (← tell) - name.length - 1
        modify fun s =>
          if s.asked.any (·.1 == index) then s else { s with asked := s.asked ++ [(index, position)] }
        pure index
  checkLookbehind index
  return index

def readNamedReference : Reader Node := do
  let name ← groupName ')'
  let text := String.ofList name
  match (← get).names.find? (·.1 == text) with
  | none => fail (.unknownGroup text) (name.length + 1)
  | some (_, index) =>
    if !(← isClosed index) then fail .openGroup (name.length + 1)
    checkLookbehind index
    return .backref index

def expectClose (start : Nat) : Reader Unit := do
  if !(← accept ')') then fail .unterminatedGroup ((← tell) - start)

mutual

def readAlternatives (verbose nested : Bool) : Nat → Reader (List Node)
  | 0 => fail .unexpectedEnd
  | fuel + 1 => do
    let first ← readSequence verbose nested (!nested) [] fuel
    let others ← readOthers verbose nested fuel
    if others.isEmpty then return first else return joinAlternatives (first :: others)

def readOthers (verbose nested : Bool) : Nat → Reader (List (List Node))
  | 0 => fail .unexpectedEnd
  | fuel + 1 => do
    if !(← accept '|') then return []
    let state ← get
    let verbose := if nested then verbose else state.flags.verbose
    let sequence ← readSequence verbose nested false [] fuel
    return sequence :: (← readOthers verbose nested fuel)

def readSequence (verbose nested first : Bool) (nodes : List Node) : Nat → Reader (List Node)
  | 0 => fail .unexpectedEnd
  | fuel + 1 => do
    match ← peek with
    | none => return unpack nodes
    | some ['|'] => return unpack nodes
    | some [')'] => return unpack nodes
    | some text =>
      let start ← tell
      let _ ← next
      let goOn := fun nodes => readSequence verbose nested first nodes fuel
      match text with
      | ['\\', c] => goOn (nodes ++ [← escape c])
      | [c] =>
        if verbose && isPatternBlank c then goOn nodes
        else if verbose && c == '#' then
          skipLine (← get).tokens.length
          goOn nodes
        else if c == '[' then goOn (nodes ++ [← readSet])
        else if c == '?' then goOn (← repeatLast nodes start 0 (some 1))
        else if c == '*' then goOn (← repeatLast nodes start 0 none)
        else if c == '+' then goOn (← repeatLast nodes start 1 none)
        else if c == '\x7b' then
          match ← readCounts with
          | none => goOn (nodes ++ [.char c.toNat])
          | some (least, most) => goOn (← repeatLast nodes start least most)
        else if c == '.' then goOn (nodes ++ [.any])
        else if c == '^' then goOn (nodes ++ [.place .lineStart])
        else if c == '$' then goOn (nodes ++ [.place .lineEnd])
        else if c == '(' then readGroup verbose nested first nodes start fuel
        else goOn (nodes ++ [.char c.toNat])
      | _ => goOn nodes

def readGroup (verbose nested first : Bool) (nodes : List Node) (start : Nat) :
    Nat → Reader (List Node)
  | 0 => fail .unexpectedEnd
  | fuel + 1 => do
    let goOn := fun verbose nodes => readSequence verbose nested first nodes fuel
    let capture := fun name => do
      let index ← openGroup name
      let body ← readAlternatives verbose true fuel
      expectClose start
      closeGroup index body
      goOn verbose (nodes ++ [Node.group (some index) .empty .empty body])
    if !(← accept '?') then capture none
    else
      match ← next with
      | none => fail .unexpectedEnd
      | some ['P'] =>
        if ← accept '<' then capture (some (← groupName '>'))
        else if ← accept '=' then goOn verbose (nodes ++ [← readNamedReference])
        else
          match ← next with
          | none => fail .unexpectedEnd
          | some text => fail (.unknownExtension ("?P" ++ String.ofList text)) (text.length + 2)
      | some [':'] =>
        let body ← readAlternatives verbose true fuel
        expectClose start
        goOn verbose (nodes ++ [.group none .empty .empty body])
      | some ['#'] =>
        skipComment start ((← get).tokens.length + 1)
        goOn verbose nodes
      | some ['>'] =>
        let body ← readAlternatives verbose true fuel
        expectClose start
        goOn verbose (nodes ++ [.atomic body])
      | some ['='] =>
        let body ← readAlternatives verbose true fuel
        expectClose start
        goOn verbose (nodes ++ [.ahead false body])
      | some ['!'] =>
        let body ← readAlternatives verbose true fuel
        expectClose start
        goOn verbose (nodes ++ [.ahead true body])
      | some ['<'] =>
        let negated ←
          match ← next with
          | none => fail .unexpectedEnd
          | some ['='] => pure false
          | some ['!'] => pure true
          | some text => fail (.unknownExtension ("?<" ++ String.ofList text)) (text.length + 2)
        let outer := (← get).lookbehind
        modify fun s => { s with lookbehind := some (outer.getD s.groups) }
        let body ← readAlternatives verbose true fuel
        modify fun s => { s with lookbehind := outer }
        expectClose start
        let width := sequenceWidth (← get).closed body
        goOn verbose (nodes ++ [.behind negated width body])
      | some ['('] =>
        let index ← readCondition
        let yes ← readSequence verbose true false [] fuel
        let no ←
          if ← accept '|' then
            let no ← readSequence verbose true false [] fuel
            if (← peek) == some ['|'] then fail .tooManyBranches
            pure (some no)
          else pure none
        expectClose start
        goOn verbose (nodes ++ [.conditional index yes no])
      | some text =>
        let isFlag :=
          match text with
          | [c] => c == '-' || c == 'L' || (flagOf? c).isSome
          | _ => false
        if !isFlag then fail (.unknownExtension ("?" ++ String.ofList text)) (text.length + 1)
        match ← readFlags text with
        | none =>
          if !first || !nodes.isEmpty then fail .globalFlagsInside ((← tell) - start)
          goOn (← get).flags.verbose nodes
        | some (added, removed) =>
          let inner := (verbose || added.verbose) && !removed.verbose
          let body ← readAlternatives inner true fuel
          expectClose start
          goOn verbose (nodes ++ [.group none added removed body])

end

/-! ## Whole patterns -/

def Greed.name : Greed → String
  | .greedy => "MAX_REPEAT"
  | .lazy => "MIN_REPEAT"
  | .possessive => "POSSESSIVE_REPEAT"

mutual

/-- Judges a node: repetitions under the template switch and lookbehinds of no fixed width are flaws. -/
def Node.check (flags : Flags) : Node → Except Flaw Unit
  | .repetition greed _ _ body =>
    if flags.template then .error (.templateRepeat greed.name) else checkSequence flags body
  | .behind _ width body =>
    if maxCount < width.low then .error .lookbehindTooFar
    else if width.low != width.high then .error .lookbehindWidth
    else checkSequence flags body
  | .branch alternatives => checkBranches flags alternatives
  | .group _ added removed body => checkSequence (flags.within added removed) body
  | .atomic body | .ahead _ body => checkSequence flags body
  | .conditional _ yes (some no) =>
    match checkSequence flags yes with
    | .ok _ => checkSequence flags no
    | error => error
  | .conditional _ yes none => checkSequence flags yes
  | _ => .ok ()

def checkSequence (flags : Flags) : List Node → Except Flaw Unit
  | [] => .ok ()
  | node :: rest =>
    match node.check flags with
    | .ok _ => checkSequence flags rest
    | error => error

def checkBranches (flags : Flags) : List (List Node) → Except Flaw Unit
  | [] => .ok ()
  | first :: rest =>
    match checkSequence flags first with
    | .ok _ => checkBranches flags rest
    | error => error

end

def readPattern : Reader (List Node) := do
  checkNext
  let fuel := 4 * (← get).tokens.length + 8
  let nodes ← readAlternatives false false fuel
  let s ← get
  if s.flags.ascii && s.flags.unicode then throw .classClash
  if !s.tokens.isEmpty then fail .unbalanced
  match s.asked.find? fun (index, _) => s.groups ≤ index with
  | some (index, position) => throw (.flaw (.invalidGroup index) (some position))
  | none => return nodes

def parse (character? : String → Option Char) (pattern : List Char) : Except Error Tree :=
  match readPattern.run { tokens := tokensFrom 0 pattern, size := pattern.length, character? } with
  | .error (.flaw kind position) => .error (.flaw kind (position.map (Spot.of pattern)))
  | .error .countTooLarge => .error .countTooLarge
  | .error .classClash => .error .classClash
  | .ok (nodes, s) =>
    match checkSequence s.flags nodes with
    | .error kind => .error (.flaw kind none)
    | .ok _ => .ok { flags := s.flags, nodes }

end EnvAudit.Pattern
