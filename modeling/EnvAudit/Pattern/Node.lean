namespace EnvAudit.Pattern

structure Flags where
  ignoreCase : Bool := false
  multiLine : Bool := false
  dotAll : Bool := false
  verbose : Bool := false
  ascii : Bool := false
  unicode : Bool := false
  template : Bool := false
  deriving DecidableEq, Repr, Inhabited

namespace Flags

def empty : Flags := {}

def hasClass (f : Flags) : Bool := f.ascii || f.unicode

def union (f g : Flags) : Flags where
  ignoreCase := f.ignoreCase || g.ignoreCase
  multiLine := f.multiLine || g.multiLine
  dotAll := f.dotAll || g.dotAll
  verbose := f.verbose || g.verbose
  ascii := f.ascii || g.ascii
  unicode := f.unicode || g.unicode
  template := f.template || g.template

def meets (f g : Flags) : Bool :=
  (f.ignoreCase && g.ignoreCase) || (f.multiLine && g.multiLine) || (f.dotAll && g.dotAll) ||
    (f.verbose && g.verbose) || (f.ascii && g.ascii) || (f.unicode && g.unicode) ||
    (f.template && g.template)

def within (f added removed : Flags) : Flags where
  ignoreCase := (f.ignoreCase || added.ignoreCase) && !removed.ignoreCase
  multiLine := (f.multiLine || added.multiLine) && !removed.multiLine
  dotAll := (f.dotAll || added.dotAll) && !removed.dotAll
  verbose := (f.verbose || added.verbose) && !removed.verbose
  ascii := if added.hasClass then added.ascii else f.ascii
  unicode := if added.hasClass then added.unicode else f.unicode
  template := f.template || added.template

end Flags

inductive Category where
  | digit
  | space
  | word
  deriving DecidableEq, Repr

inductive SetItem where
  | char (code : Nat)
  | range (low high : Nat)
  | category (kind : Category) (negated : Bool)
  deriving DecidableEq, Repr

inductive Place where
  | lineStart
  | lineEnd
  | textStart
  | textEnd
  | wordEdge
  | noWordEdge
  deriving DecidableEq, Repr

inductive Greed where
  | greedy
  | lazy
  | possessive
  deriving DecidableEq, Repr

structure Width where
  low : Nat
  high : Nat
  deriving DecidableEq, Repr, Inhabited

inductive Node where
  | char (code : Nat)
  | notChar (code : Nat)
  | any
  | set (negated : Bool) (items : List SetItem)
  | place (kind : Place)
  | branch (alternatives : List (List Node))
  | group (index : Option Nat) (added removed : Flags) (body : List Node)
  | atomic (body : List Node)
  | ahead (negated : Bool) (body : List Node)
  | behind (negated : Bool) (width : Width) (body : List Node)
  | backref (index : Nat)
  | conditional (index : Nat) (yes : List Node) (no : Option (List Node))
  | repetition (greed : Greed) (min : Nat) (max : Option Nat) (body : List Node)
  deriving Repr, Inhabited

structure Tree where
  flags : Flags := .empty
  nodes : List Node := []
  deriving Repr, Inhabited

def maxWidth : Nat := Nat.pow 2 64

def Width.append (v w : Width) : Width := ⟨min (v.low + w.low) maxWidth, min (v.high + w.high) maxWidth⟩

def Width.either (v w : Width) : Width := ⟨min v.low w.low, max v.high w.high⟩

def Width.times (w : Width) (least : Nat) (most : Option Nat) : Width where
  low := min (w.low * least) maxWidth
  high :=
    match most with
    | some n => min (w.high * n) maxWidth
    | none => if w.high == 0 then 0 else maxWidth

mutual

def Node.width (groups : List (Nat × Width)) : Node → Width
  | .char _ | .notChar _ | .any | .set .. => ⟨1, 1⟩
  | .place _ | .ahead .. | .behind .. => ⟨0, 0⟩
  | .branch alternatives => branchWidth groups alternatives
  | .group _ _ _ body => sequenceWidth groups body
  | .atomic body => sequenceWidth groups body
  | .backref index => ((groups.find? (·.1 == index)).map (·.2)).getD ⟨0, 0⟩
  | .conditional _ yes (some no) => (sequenceWidth groups yes).either (sequenceWidth groups no)
  | .conditional _ yes none => (sequenceWidth groups yes).either ⟨0, 0⟩
  | .repetition _ least most body => (sequenceWidth groups body).times least most

def sequenceWidth (groups : List (Nat × Width)) : List Node → Width
  | [] => ⟨0, 0⟩
  | node :: rest => (node.width groups).append (sequenceWidth groups rest)

def branchWidth (groups : List (Nat × Width)) : List (List Node) → Width
  | [] => ⟨0, 0⟩
  | [last] => sequenceWidth groups last
  | first :: rest => (sequenceWidth groups first).either (branchWidth groups rest)

end

end EnvAudit.Pattern
