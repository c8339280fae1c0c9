import EnvAudit.Proofs.EnvFile.LinePattern

namespace EnvAudit
open Text Pattern LinePattern
open Pattern.Cursor (between)

def RawValue.matchQuoted? (pattern : Pattern.Plain) (quote : Char) (s : List Char) :
    Option (List Char × Option (List Char)) :=
  (pattern.matchStart? s).map fun found =>
    (quote :: ((found.capture? 1).getD [] ++ [quote]), (found.capture? 2).bind closingComment)

def RawValue.matchParts (s : List Char) : List Char × Option (List Char) :=
  ((matchQuoted? doubleQuoted '"' s).or (matchQuoted? singleQuoted '\'' s)).getD
    (trim (s.takeWhile (· != '#')), nonempty? (trim ((s.dropWhile (· != '#')).drop 1)))

def RawValue.ofParts (parts : List Char × Option (List Char)) : RawValue := plain (trim parts.1) parts.2

def RawValue.matched (s : List Char) : RawValue := ofParts (matchParts s)

def Assignment.matched (line : String) (number : Int) : Except MalformedLine Assignment :=
  let s := trim line.toList
  match assignment.matchStart? s with
  | some found =>
    .ok (.ofRaw ((found.capture? 1).getD []) (RawValue.matched ((found.capture? 2).getD [])) number)
  | none => .error ⟨number, String.ofList s⟩

namespace RawValue

theorem matchQuoted?_cons {pattern : Pattern.Plain} {quote : Char} {s : List Char}
    {split? : Option (List Char × List Char)} (clean : '\n' ∉ s)
    (run : pattern.matchStart? (quote :: s) = split?.bind fun split =>
      closed quote (between (quote :: split.1) (quote :: split.2) [(1, split.1)]))
    (splits : ∀ split ∈ split?, s = split.1 ++ quote :: split.2) :
    matchQuoted? pattern quote (quote :: s) = split?.bind fun split =>
      if isClosing split.2 then some (quote :: (split.1 ++ [quote]), closingComment split.2) else none := by
  rw [matchQuoted?, run]
  cases split? with
  | none => rfl
  | some split =>
      obtain ⟨body, tail⟩ := split
      obtain rfl := splits (body, tail) rfl
      rw [Option.bind_some, closed_self quote (fun feed => clean (by simp [feed])), Option.bind_some]
      split
      · cases tail <;> rfl
      · rfl

theorem matchQuoted?_of_ne {pattern : Pattern.Plain} {quote : Char} {body : Node} {s : List Char}
    (flags : pattern.flags = .empty) (nodes : pattern.nodes = quotedValue quote body) (other : s.head? ≠ some quote) :
    matchQuoted? pattern quote s = none := by
  rw [matchQuoted?, Tree.matchStart?, flags, nodes, run_quoted_of_ne _ _ other, Option.map_none]

theorem matchQuoted?_doubleQuoted {s : List Char} (clean : '\n' ∉ s) :
    (matchQuoted? doubleQuoted '"' s).map ofParts = readDouble? s := by
  by_cases quote : s.head? = some '"'
  · obtain ⟨s, rfl⟩ := List.head?_eq_some_iff.mp quote
    rw [List.mem_cons, not_or] at clean
    rw [matchQuoted?_cons clean.2 (matchStart?_doubleQuoted clean.2) fun _ found => (closeDouble_eq_some found).1,
      readDouble?]
    cases closeDouble s with
    | none => rfl
    | some split =>
        obtain ⟨body, tail⟩ := split
        rw [Option.bind_some]
        dsimp only
        split
        · rw [Option.map_some, ofParts, trim_wrapped rfl rfl, plain_double]
        · rfl
  · have unquoted : readDouble? s = none := by
      unfold readDouble?
      split
      · simp at quote
      · rfl
    rw [matchQuoted?_of_ne rfl rfl quote, unquoted, Option.map_none]

theorem matchQuoted?_singleQuoted {s : List Char} (clean : '\n' ∉ s) :
    (matchQuoted? singleQuoted '\'' s).map ofParts = readSingle? s := by
  by_cases quote : s.head? = some '\''
  · obtain ⟨s, rfl⟩ := List.head?_eq_some_iff.mp quote
    rw [List.mem_cons, not_or] at clean
    rw [matchQuoted?_cons clean.2 (matchStart?_singleQuoted clean.2) fun _ found => (closeSingle_eq_some found).1,
      readSingle?]
    cases found : closeSingle s with
    | none => rfl
    | some split =>
        have closing : isClosing split.2 = true := (closeSingle_eq_some found).2
        rw [Option.bind_some, if_pos closing, Option.map_some, ofParts, trim_wrapped rfl rfl, plain_single,
          Option.map_some]
  · have unquoted : readSingle? s = none := by
      unfold readSingle?
      split
      · simp at quote
      · rfl
    rw [matchQuoted?_of_ne rfl rfl quote, unquoted, Option.map_none]

theorem matched_eq_read {s : List Char} (clean : '\n' ∉ s) : matched s = read s := by
  have double := matchQuoted?_doubleQuoted clean
  have single := matchQuoted?_singleQuoted clean
  rw [matched, matchParts, read, ← double, ← single]
  cases matchQuoted? doubleQuoted '"' s with
  | some parts => rfl
  | none =>
      cases matchQuoted? singleQuoted '\'' s with
      | some parts => rfl
      | none =>
          change plain (trim (trim _)) _ = readPlain s
          rw [trim_trim]
          rfl

end RawValue

namespace Assignment

theorem matched_eq_parse (line : String) (number : Int) : matched line number = parse line number := by
  have split := matchStart?_eq_splitAssignment? (trimEnd_eq_self_of_trim (trim_trim line.toList))
  unfold matched parse
  dsimp only
  cases found : assignment.matchStart? (trim line.toList) with
  | none =>
      rw [found, Option.map_none] at split
      rw [← split]
  | some cursor =>
      rw [found, Option.map_some] at split
      obtain ⟨⟨-, -, clean⟩, -⟩ := assigns_of_splitAssignment? split.symm
      simp only [← split, RawValue.matched_eq_read clean]

/-- The parser and the patterns give for a line what the line is read as from left to right. -/
theorem parse_iff_and_matched_iff {line : String} {number : Int} {result : Except MalformedLine Assignment} :
    (parse line number = result ↔ ScansLine (trim line.toList) number result) ∧
      (matched line number = result ↔ ScansLine (trim line.toList) number result) := by
  rw [matched_eq_parse]
  exact ⟨parse_iff, parse_iff⟩

end Assignment

end EnvAudit
