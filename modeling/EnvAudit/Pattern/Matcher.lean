import EnvAudit.Pattern.Node
import EnvAudit.Text.Case
import EnvAudit.Text.Letter
import EnvAudit.Text.Blank

/-!
# Matching

A backtracking matcher for pattern trees. What follows a node is a function of the cursor, so that a node
tries its ways in order of preference and the first one with which the rest succeeds wins. Lookarounds
and atomic groups commit to their first way.
-/

namespace EnvAudit.Pattern

open Text

/-! ## Characters -/

def Flags.lowerChar (f : Flags) (c : Char) : Char :=
  if f.ascii then (if 'A' ≤ c && c ≤ 'Z' then Char.ofNat (c.toNat + 32) else c) else Text.lowerChar c

def Flags.isCased (f : Flags) (c : Char) : Bool :=
  if f.ascii then ('a' ≤ c && c ≤ 'z') || ('A' ≤ c && c ≤ 'Z') else Text.isCased c

def Flags.anyCased (f : Flags) (low high : Nat) : Bool :=
  if f.ascii then (low ≤ 0x5a && 0x41 ≤ high) || (low ≤ 0x7a && 0x61 ≤ high) else Text.anyCased low high

def Flags.siblings (f : Flags) (c : Char) : List Char :=
  if f.ascii then [] else Text.siblings c

def Flags.withLower (f : Flags) (c : Char) : List Nat :=
  if f.ascii then (if 'a' ≤ c && c ≤ 'z' then [c.toNat, c.toNat - 32]
    else if 'A' ≤ c && c ≤ 'Z' then [] else [c.toNat]) else Text.withLower c

def Category.holds (ascii : Bool) (c : Char) : Category → Bool
  | .digit => if ascii then '0' ≤ c && c ≤ '9' else (digitValue? c).isSome
  | .space => if ascii then c == ' ' || ('\t' ≤ c && c ≤ '\x0d') else isBlank c
  | .word =>
    if ascii then c == '_' || ('0' ≤ c && c ≤ '9') || ('a' ≤ c && c ≤ 'z') || ('A' ≤ c && c ≤ 'Z')
    else isWordChar c

def lastBasic : Nat := 0xffff

def SetItem.isCased (f : Flags) : SetItem → Bool
  | .char code => f.isCased (Char.ofNat code) || lastBasic < (f.lowerChar (Char.ofNat code)).toNat
  | .range low high => f.anyCased low high || lastBasic < high
  | .category .. => false

def SetItem.holds (f : Flags) (c : Char) : SetItem → Bool
  | .char code => c.toNat == code
  | .range low high => low ≤ c.toNat && c.toNat ≤ high
  | .category kind negated => kind.holds f.ascii c != negated

/-- Whether a lower-case character is a member up to case. Beyond the basic plane a single member stands
for itself and a range for the two cases of its characters. -/
def SetItem.holdsLower (f : Flags) (c : Char) : SetItem → Bool
  | .char code =>
    let low := f.lowerChar (Char.ofNat code)
    if lastBasic < low.toNat then c.toNat == code else c == low || (f.siblings low).contains c
  | .range low high =>
    let within := fun n => low ≤ n && n ≤ high
    ((c :: f.siblings c).any fun s => (f.withLower s).any fun n => within n && n ≤ lastBasic) ||
      (lastBasic < high && (within c.toNat || within (upperChar c).toNat))
  | .category kind negated => kind.holds f.ascii c != negated

def setHolds (f : Flags) (items : List SetItem) (c : Char) : Bool :=
  if f.ignoreCase && items.any (·.isCased f) then items.any (·.holdsLower f (f.lowerChar c))
  else items.any (·.holds f c)

def charHolds (f : Flags) (code : Nat) (c : Char) : Bool :=
  let wanted := Char.ofNat code
  if f.ignoreCase && f.isCased wanted then
    let low := f.lowerChar wanted
    f.lowerChar c == low || (f.siblings low).contains (f.lowerChar c)
  else c.toNat == code

/-! ## Cursors -/

/-- A place in the text: what stands before it, last character first, what stands behind it, and the
texts of the groups so far. -/
structure Cursor where
  position : Nat := 0
  before : List Char := []
  after : List Char
  captures : List (Nat × List Char) := []
  deriving Repr

namespace Cursor

abbrev Rest := Cursor → Option Cursor

def capture? (cursor : Cursor) (index : Nat) : Option (List Char) := cursor.captures.lookup index

def close (cursor : Cursor) (index start : Nat) : Cursor :=
  { cursor with
    captures := (index, (cursor.before.take (cursor.position - start)).reverse) :: cursor.captures }

def advance (test : Char → Bool) (cursor : Cursor) (rest : Rest) : Option Cursor :=
  match cursor.after with
  | [] => none
  | c :: after =>
    if test c then
      rest { cursor with position := cursor.position + 1, before := c :: cursor.before, after }
    else none

def advanceOver (same : Char → Char → Bool) : List Char → Cursor → Rest → Option Cursor
  | [], cursor, rest => rest cursor
  | c :: text, cursor, rest =>
    cursor.advance (same c) fun cursor => advanceOver same text cursor rest

def back? : Nat → Cursor → Option Cursor
  | 0, cursor => some cursor
  | n + 1, cursor =>
    match cursor.before with
    | [] => none
    | c :: before =>
      back? n { cursor with position := cursor.position - 1, before, after := c :: cursor.after }

def atWordEdge (f : Flags) (cursor : Cursor) : Bool :=
  let isWord := fun (c : Option Char) => c.any fun c => Category.word.holds f.ascii c
  isWord cursor.before.head? != isWord cursor.after.head?

def isAt (f : Flags) (cursor : Cursor) : Place → Bool
  | .textStart => cursor.before.isEmpty
  | .textEnd => cursor.after.isEmpty
  | .lineStart => cursor.before.isEmpty || (f.multiLine && cursor.before.head? == some '\n')
  | .lineEnd =>
    cursor.after.isEmpty || (if f.multiLine then cursor.after.head? == some '\n'
      else cursor.after == ['\n'])
  | .wordEdge => !(cursor.before.isEmpty && cursor.after.isEmpty) && cursor.atWordEdge f
  | .noWordEdge => !(cursor.before.isEmpty && cursor.after.isEmpty) && !cursor.atWordEdge f

end Cursor

open Cursor (Rest)

/-! ## Repetition -/

def allowsMore (most : Option Nat) (count : Nat) : Bool :=
  match most with
  | some n => count < n
  | none => true

/-- Repeats as often as possible first. Past the least count a round has to start elsewhere than the one
before it. -/
def repeatGreedy (body : Cursor → Rest → Option Cursor) (least : Nat) (most : Option Nat) (rest : Rest) :
    Nat → Nat → Option Nat → Cursor → Option Cursor
  | 0, _, _, _ => none
  | fuel + 1, count, last, cursor =>
    if count < least then
      body cursor (repeatGreedy body least most rest fuel (count + 1) last)
    else if allowsMore most count && last != some cursor.position then
      match body cursor (repeatGreedy body least most rest fuel (count + 1) (some cursor.position)) with
      | some found => some found
      | none => rest cursor
    else rest cursor

def repeatLazy (body : Cursor → Rest → Option Cursor) (least : Nat) (most : Option Nat) (rest : Rest) :
    Nat → Nat → Option Nat → Cursor → Option Cursor
  | 0, _, _, _ => none
  | fuel + 1, count, last, cursor =>
    if count < least then
      body cursor (repeatLazy body least most rest fuel (count + 1) last)
    else
      match rest cursor with
      | some found => some found
      | none =>
        if allowsMore most count && last != some cursor.position then
          body cursor (repeatLazy body least most rest fuel (count + 1) (some cursor.position))
        else none

def repeatPossessive (body : Cursor → Rest → Option Cursor) (least : Nat) (most : Option Nat) :
    Nat → Nat → Option Nat → Cursor → Option Cursor
  | 0, _, _, _ => none
  | fuel + 1, count, last, cursor =>
    if count < least then
      (body cursor some).bind (repeatPossessive body least most fuel (count + 1) last)
    else if allowsMore most count && last != some cursor.position then
      match body cursor some with
      | some next => repeatPossessive body least most fuel (count + 1) (some cursor.position) next
      | none => some cursor
    else some cursor

/-! ## Nodes -/

mutual

def Node.run (f : Flags) : Node → Cursor → Rest → Option Cursor
  | .char code, cursor, rest => cursor.advance (charHolds f code) rest
  | .notChar code, cursor, rest => cursor.advance (fun c => !charHolds f code c) rest
  | .any, cursor, rest => cursor.advance (fun c => f.dotAll || c != '\n') rest
  | .set negated items, cursor, rest => cursor.advance (fun c => setHolds f items c != negated) rest
  | .place kind, cursor, rest => if cursor.isAt f kind then rest cursor else none
  | .branch alternatives, cursor, rest => runBranch f alternatives cursor rest
  | .group none added removed body, cursor, rest => runSequence (f.within added removed) body cursor rest
  | .group (some index) added removed body, cursor, rest =>
    runSequence (f.within added removed) body cursor fun inner => rest (inner.close index cursor.position)
  | .atomic body, cursor, rest => (runSequence f body cursor some).bind rest
  | .ahead false body, cursor, rest =>
    (runSequence f body cursor some).bind fun inner => rest { cursor with captures := inner.captures }
  | .ahead true body, cursor, rest => if (runSequence f body cursor some).isSome then none else rest cursor
  | .behind false width body, cursor, rest =>
    (cursor.back? width.low).bind fun start =>
      (runSequence f body start some).bind fun inner => rest { cursor with captures := inner.captures }
  | .behind true width body, cursor, rest =>
    if ((cursor.back? width.low).bind fun start => runSequence f body start some).isSome then none
    else rest cursor
  | .backref index, cursor, rest =>
    match cursor.capture? index with
    | none => none
    | some text =>
      let same := fun (c d : Char) =>
        if f.ignoreCase then f.lowerChar c == f.lowerChar d else c == d
      cursor.advanceOver same text rest
  | .conditional index yes (some no), cursor, rest =>
    if (cursor.capture? index).isSome then runSequence f yes cursor rest
    else runSequence f no cursor rest
  | .conditional index yes none, cursor, rest =>
    if (cursor.capture? index).isSome then runSequence f yes cursor rest else rest cursor
  | .repetition greed least most body, cursor, rest =>
    let fuel := least + cursor.after.length + 2
    let round := runSequence f body
    match greed with
    | .greedy => repeatGreedy round least most rest fuel 0 none cursor
    | .lazy => repeatLazy round least most rest fuel 0 none cursor
    | .possessive => (repeatPossessive round least most fuel 0 none cursor).bind rest

def runSequence (f : Flags) : List Node → Cursor → Rest → Option Cursor
  | [], cursor, rest => rest cursor
  | node :: nodes, cursor, rest => node.run f cursor fun next => runSequence f nodes next rest

def runBranch (f : Flags) : List (List Node) → Cursor → Rest → Option Cursor
  | [], _, _ => none
  | first :: others, cursor, rest =>
    match runSequence f first cursor rest with
    | some found => some found
    | none => runBranch f others cursor rest

end

/-! ## Search -/

/-- The tests of the nodes of a sequence that are single characters. Every match has a character for each. -/
def literalTests (f : Flags) : List Node → List (Char → Bool)
  | [] => []
  | .char code :: nodes => charHolds f code :: literalTests f nodes
  | _ :: nodes => literalTests f nodes

def mayMatch (f : Flags) (nodes : List Node) (text : List Char) : Bool :=
  (literalTests f nodes).all fun test => text.any test

def searchFrom (f : Flags) (nodes : List Node) (before : List Char) (position : Nat) :
    List Char → Option Cursor
  | [] => runSequence f nodes { position, before, after := [] } some
  | c :: after =>
    match runSequence f nodes { position, before, after := c :: after } some with
    | some found => some found
    | none => searchFrom f nodes (c :: before) (position + 1) after

/-- Where the first match of a pattern in a value ends. Nothing is tried in a value that lacks a character
of the pattern. -/
def Tree.find? (tree : Tree) (value : String) : Option Cursor :=
  let text := value.toList
  if mayMatch tree.flags tree.nodes text then searchFrom tree.flags tree.nodes [] 0 text else none

def Tree.search (tree : Tree) (value : String) : Bool := (tree.find? value).isSome

end EnvAudit.Pattern
