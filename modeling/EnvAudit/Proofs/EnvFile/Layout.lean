import EnvAudit.Proofs.EnvFile.Joining

namespace EnvAudit
open Text

def IsMargin (s : List Char) : Prop := ∀ c ∈ s, isBlank c = true ∧ c ≠ '\n'

instance : DecidablePred IsMargin := fun s => List.decidableBAll (fun c => isBlank c = true ∧ c ≠ '\n') s

inductive LineEnd where
  | feed
  | returnFeed

def LineEnd.chars : LineEnd → List Char
  | feed => ['\n']
  | returnFeed => ['\r', '\n']

/-- The text has the lines, each between margins, and a line end of either kind between any two of them. -/
inductive LaidOut : List (List Char) → List Char → Prop where
  | empty : LaidOut [] []
  | last {before behind : List Char} (line : List Char) : IsMargin before → IsMargin behind →
      LaidOut [line] (before ++ line ++ behind)
  | cons {before behind : List Char} (line : List Char) (lineEnd : LineEnd) {next : List Char}
      {lines : List (List Char)} {rest : List Char} : IsMargin before → IsMargin behind →
      LaidOut (next :: lines) rest →
      LaidOut (line :: next :: lines) (before ++ line ++ behind ++ lineEnd.chars ++ rest)

section
variable {before line behind : List Char}

theorem feed_notMem_padded (clean : '\n' ∉ line) (left : IsMargin before) (right : IsMargin behind) :
    '\n' ∉ before ++ line ++ behind := by
  simp only [List.mem_append, not_or]
  exact ⟨⟨fun feed => (left _ feed).2 rfl, clean⟩, fun feed => (right _ feed).2 rfl⟩

theorem Line.read_of_trim_eq {s t : List Char} (same : trim s = trim t) : read s = read t := by
  unfold read
  rw [same]

theorem Line.read_padded (left : IsMargin before) (right : IsMargin behind) :
    read (before ++ line ++ behind) = read line := by
  apply read_of_trim_eq
  rw [trim_append_of_blank fun c member => (right c member).1, trim, trim,
    trimStart_append_of_blank fun c member => (left c member).1]

end

theorem map_read_splitLines_cons {line : List Char} (clean : '\n' ∉ line) (lineEnd : LineEnd) (rest : List Char) :
    (splitLines (line ++ lineEnd.chars ++ rest)).map Line.read = Line.read line :: (splitLines rest).map Line.read := by
  rw [List.append_assoc]
  cases lineEnd with
  | feed =>
      show (splitLines (line ++ '\n' :: rest)).map Line.read = _
      rw [map_splitLines_append Line.read_concat_return, splitLines_of_not_mem clean]
      rfl
  | returnFeed =>
      show (splitLines (line ++ '\r' :: '\n' :: rest)).map Line.read = _
      rw [splitLines_returnFeed clean, List.map_cons]

theorem LaidOut.map_read_splitLines {lines : List (List Char)} {text : List Char} (laidOut : LaidOut lines text)
    (nonempty : lines ≠ []) (clean : ∀ line ∈ lines, '\n' ∉ line) :
    (splitLines text).map Line.read = lines.map Line.read := by
  induction laidOut with
  | empty => exact absurd rfl nonempty
  | last line left right =>
      rw [splitLines_of_not_mem (feed_notMem_padded (clean line List.mem_cons_self) left right), List.map_singleton,
        List.map_singleton, Line.read_padded left right]
  | cons line lineEnd left right _ ih =>
      obtain ⟨first, others⟩ := List.forall_mem_cons.mp clean
      rw [map_read_splitLines_cons (feed_notMem_padded first left right), Line.read_padded left right,
        ih (List.cons_ne_nil _ _) others, ← List.map_cons]

namespace EnvFile

/-- However the lines of a text are laid out, the same is read as if they were joined by line feeds, and that is what each
line says alone under its number. -/
theorem parse_of_laidOut {lines : List (List Char)} {text : String} (clean : ∀ line ∈ lines, '\n' ∉ line)
    (laidOut : LaidOut lines text.toList) :
    parse text = parse (String.ofList (['\n'].intercalate lines)) ∧
      (lines ≠ [] → parse text =
        join (lines.zipIdx.map fun (line, above) => (parse (String.ofList line)).below above)) := by
  by_cases nonempty : lines = []
  · subst nonempty
    have empty : text.toList = [] := by
      generalize text.toList = s at laidOut
      cases laidOut
      rfl
    exact ⟨by rw [parse, parse_eq_ofLines, empty]; rfl, fun some => absurd rfl some⟩
  · have read := laidOut.map_read_splitLines nonempty clean
    constructor
    · rw [parse, parse_eq_ofLines, read, map_splitLines_intercalate Line.read_concat_return nonempty clean]
    · intro _
      rw [parse, read]
      exact ofLines_zipIdx_eq_join clean 0

theorem parse_of_laidOut_mixed :
    let lines := ["A=1", "", "oops", "B='x' # y"].map String.toList
    let text := "\u00a0A=1\r\r\n\x1c\u2028\n\x0boops\u0085\r\n\tB='x' # y \r"
    (∀ line ∈ lines, '\n' ∉ line) ∧ LaidOut lines text.toList ∧
      parse text = parse (String.ofList (['\n'].intercalate lines)) ∧
      parse text =
        { assignments := [{ key := "A", value := "1", line := 1 },
            { key := "B", value := "x", line := 4, isQuoted := true, comment := some "y" }]
          blankLines := [2], malformed := [⟨3, "oops"⟩] } := by
  intro lines text
  have clean : ∀ line ∈ lines, '\n' ∉ line := by decide
  have laidOut : LaidOut lines text.toList := by
    have shape : text.toList = "\u00a0".toList ++ "A=1".toList ++ ['\r'] ++ LineEnd.returnFeed.chars ++
        ("\x1c\u2028".toList ++ [] ++ [] ++ LineEnd.feed.chars ++
          ("\x0b".toList ++ "oops".toList ++ "\u0085".toList ++ LineEnd.returnFeed.chars ++
            ("\t".toList ++ "B='x' # y".toList ++ " \r".toList))) := by decide
    rw [shape]
    exact .cons _ _ (by decide) (by decide) <| .cons _ _ (by decide) (by decide) <|
      .cons _ _ (by decide) (by decide) <| .last _ (by decide) (by decide)
  exact ⟨clean, laidOut, (parse_of_laidOut clean laidOut).1, by decide +kernel⟩

end EnvFile

end EnvAudit
