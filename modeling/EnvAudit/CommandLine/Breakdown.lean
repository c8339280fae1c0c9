import EnvAudit.Verdict.Basic

namespace EnvAudit.CommandLine

structure Row where
  severity : String
  kind : String
  count : Nat
  deriving DecidableEq, Repr

def rowsOf (v : Verdict) : List Row :=
  let severities := Severity.all.mergeSort fun a b => a.word ≤ b.word
  let kinds := FindingKind.all.mergeSort fun a b => a.word ≤ b.word
  (severities.flatMap fun severity => kinds.map fun kind =>
    { severity := severity.word, kind := kind.word
      count := (v.findings.toList.filter fun f => f.severity == severity && f.kind == kind).length :
        Row }).filter (0 < ·.count)

def atLeft (width : Nat) (s : String) : String := s ++ String.ofList (List.replicate (width - s.length) ' ')

def atRight (width : Nat) (s : String) : String := String.ofList (List.replicate (width - s.length) ' ') ++ s

def atCentre (width : Nat) (s : String) : String :=
  let left := (width - s.length) / 2
  atLeft width (String.ofList (List.replicate left ' ') ++ s)

def rule (line : Char) (first middle last : String) (widths : List Nat) : String :=
  first ++ middle.intercalate (widths.map fun width => String.ofList (List.replicate (width + 2) line)) ++
    last

def cells (bar : String) (texts : List String) : String :=
  bar ++ bar.intercalate (texts.map fun s => " " ++ s ++ " ") ++ bar

def tableLines (rows : List Row) : List String :=
  let widest := fun (title : String) (texts : List String) =>
    (texts.map String.length).foldl max title.length
  let first := widest "Severity" (rows.map (·.severity))
  let second := widest "Type" (rows.map (·.kind))
  let third := widest "Count" (rows.map fun row => toString row.count)
  let widths := [first, second, third]
  let row := fun bar severity kind count =>
    cells bar [atLeft first severity, atLeft second kind, atRight third count]
  [atCentre (first + second + third + 10) "Findings by type",
    rule '━' "┏" "┳" "┓" widths,
    row "┃" "Severity" "Type" "Count",
    rule '━' "┡" "╇" "┩" widths] ++
    rows.map (fun r => row "│" r.severity r.kind (toString r.count)) ++
    [rule '─' "└" "┴" "┘" widths]

def breakdown (v : Verdict) : String :=
  match rowsOf v with
  | [] => ""
  | rows => String.join ((tableLines rows).map (· ++ "\n"))

end EnvAudit.CommandLine
