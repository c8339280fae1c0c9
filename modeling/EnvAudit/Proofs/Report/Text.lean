import EnvAudit.Proofs.Binary64.Characters
import EnvAudit.Proofs.Report.Markup
import EnvAudit.Report.Basic
import EnvAudit.Report.Dialect

namespace EnvAudit.Report
open Markup (Reads Spells IsStyle IsOrdinary)

/-! ## What is shown -/

def isControl (c : Char) : Bool := c.toNat < 0x20 || (0x7f ≤ c.toNat && c.toNat < 0xa0)

def IsClean (s : String) : Prop := ∀ c ∈ s.toList, isControl c = false

instance (s : String) : Decidable (IsClean s) := List.decidableBAll _ _

/-- A finding whose texts have no control characters and no backslashes, but any brackets, and whose line counts from
one. -/
structure IsPlain (f : Finding) : Prop where
  variableName : IsClean f.variableName ∧ '\\' ∉ f.variableName.toList
  message : IsClean f.message ∧ '\\' ∉ f.message.toList
  suggestion : ∀ s ∈ f.suggestion, IsClean s ∧ '\\' ∉ s.toList
  line : ∀ n ∈ f.line, 0 < n

def shownPlace : Option Int → String
  | some line => ":" ++ Numeral.render line
  | none => ""

def shownAdvice : Option String → List String
  | some suggestion => if suggestion = "" then [] else ["    Suggestion: " ++ suggestion]
  | none => []

def shownFinding (f : Finding) : List String :=
  ("  " ++ f.variableName ++ shownPlace f.line ++ ": " ++ f.message) :: shownAdvice f.suggestion

def shownSection (title : String) (findings : List Finding) : List String :=
  if findings = [] then []
  else (title ++ " (" ++ toString findings.length ++ "):") :: findings.flatMap shownFinding ++ [""]

def shownCount (label : String) (n : Int) : List String :=
  if 0 < n then ["  " ++ label ++ ": " ++ Numeral.render n] else []

def shownSummary (s : Summary) : List String :=
  ["SUMMARY:", "  Total variables: " ++ Numeral.render s.assigned,
    "  Required variables: " ++ Numeral.render s.required] ++
    shownCount "Missing variables" s.missing ++ shownCount "Unused variables" s.unused ++
    shownCount "Security issues" s.securityIssues ++ ["  Validation time: " ++ s.elapsed.fixed 2 ++ "ms"]

def shown (v : Verdict) : List String :=
  [(if v.isValid then "PASSED" else "FAILED") ++ " - Environment validation completed", ""] ++
    shownSection "ERRORS" v.findings.errors ++ shownSection "WARNINGS" v.findings.warnings ++
    shownSection "INFO" v.findings.info ++ shownSummary v.summary

/-! ## Characters -/

theorem isClean_append {s t : String} : IsClean (s ++ t) ↔ IsClean s ∧ IsClean t := by
  simp [IsClean, or_imp, forall_and]

theorem isDropped_of_clean {c : Char} (clean : isControl c = false) : Markup.isDropped c = false := by
  cases dropped : Markup.isDropped c with
  | false => rfl
  | true =>
      have controls : ∀ c ∈ ['\x07', '\x08', '\x0b', '\x0c', '\x0d'], isControl c = true :=
        Text.forall_mem_of_all (by decide)
      rw [controls c (by simpa [Markup.isDropped, or_assoc] using dropped)] at clean
      cases clean

/-- A text of the frame around the findings, which has neither control characters nor any that markup knows. -/
def IsFrame (s : String) : Prop := ∀ c ∈ s.toList, isControl c = false ∧ IsOrdinary c

instance (s : String) : Decidable (IsFrame s) := List.decidableBAll _ _

namespace IsFrame
variable {s t : String}

theorem clean (h : IsFrame s) : IsClean s := fun c member => (h c member).1

theorem ordinary (h : IsFrame s) : ∀ c ∈ s.toList, IsOrdinary c := fun c member => (h c member).2

theorem append (h : IsFrame s) (g : IsFrame t) : IsFrame (s ++ t) := by
  rw [IsFrame, String.toList_append]
  exact List.forall_mem_append.mpr ⟨h, g⟩

end IsFrame

theorem isFrame_of_subset {s : String} (number : s.toList ⊆ Numeral.characters) : IsFrame s := by
  have framed : IsFrame (String.ofList Numeral.characters) := by decide
  intro c member
  exact framed c (String.toList_ofList ▸ number member)

theorem isFrame_render (n : Int) : IsFrame (Numeral.render n) := isFrame_of_subset (Numeral.render_subset n)

theorem isFrame_toString (n : Nat) : IsFrame (toString n) := isFrame_of_subset (Numeral.toString_subset n)

theorem isFrame_fixed (places : Nat) (x : Binary64) : IsFrame (x.fixed places) :=
  isFrame_of_subset (x.fixed_subset places)

theorem spells_escape [Markup.Dialect] {s : String} (plain : IsClean s ∧ '\\' ∉ s.toList) :
    Spells (Markup.escape s).toList s.toList :=
  Markup.spells_escape plain.2 fun c member => isDropped_of_clean (plain.1 c member)

/-! ## Styles -/

def styles : List String :=
  ["bold", "dim", "cyan", "red", "yellow", "blue", "bold green", "bold red", "bold yellow", "bold blue"]

theorem isStyle_of_mem {style : String} (member : style ∈ styles) : IsStyle style.toList := by
  have all : ∀ style ∈ styles,
      Markup.tag? (Markup.bracketed style.toList) = some (style.toList, []) ∧
        (style.toList.head? ≠ some '/' ∧ style.toList.head? ≠ some '@') ∧ '=' ∉ style.toList ∧
          Text.trim style.toList = style.toList := by decide +kernel
  obtain ⟨tag, opening, plain, trimmed⟩ := all style member
  exact ⟨(Markup.isTag_of_tag? tag).1, opening, plain, trimmed⟩

theorem toList_styled_append (style text : String) (rest : List Char) :
    (styled style text).toList ++ rest = Markup.bracketed style.toList ++
      (text.toList ++ (Markup.bracketed ('/' :: style.toList) ++ rest)) := by
  simp [styled, Markup.bracketed]

theorem reads_styled [Markup.Dialect] {opened : List Markup.Opened} {style text : String} {shown rest behind : List Char}
    (member : style ∈ styles) (inner : Spells text.toList shown) (h : Reads opened rest behind) :
    Reads opened ((styled style text).toList ++ rest) (shown ++ behind) := by
  rw [toList_styled_append]
  exact .styled (isStyle_of_mem member) inner h

/-! ## Printing -/

def begun (lines : List String) : List Char := lines.flatMap fun line => '\n' :: line.toList

theorem begun_append (lines others : List String) : begun (lines ++ others) = begun lines ++ begun others :=
  List.flatMap_append

theorem toList_intercalate_cons (line : String) (lines : List String) :
    ("\n".intercalate (line :: lines)).toList = line.toList ++ begun lines := by
  rw [String.toList_intercalate]
  induction lines generalizing line with
  | nil => simp [begun]
  | cons next lines ih =>
      have inner := ih next
      simp only [begun, List.flatMap_cons, List.map_cons, List.intercalate_cons_cons] at inner ⊢
      rw [inner]
      simp

theorem begun_cons (line : String) (lines : List String) :
    begun (line :: lines) = '\n' :: ("\n".intercalate (line :: lines)).toList :=
  congrArg _ (toList_intercalate_cons line lines).symm

theorem isClean_shownFinding {f : Finding} (plain : IsPlain f) : ∀ line ∈ shownFinding f, IsClean line := by
  have frame : IsClean "  " ∧ IsClean ":" ∧ IsClean ": " ∧ IsClean "    Suggestion: " ∧ IsClean "" := by decide
  obtain ⟨indent, colon, gap, hint, empty⟩ := frame
  have place : IsClean (shownPlace f.line) := by
    cases f.line with
    | none => exact empty
    | some n => exact isClean_append.mpr ⟨colon, (isFrame_render n).clean⟩
  have advice : ∀ line ∈ shownAdvice f.suggestion, IsClean line := by
    cases given : f.suggestion with
    | none => simp [shownAdvice]
    | some suggestion =>
        rw [shownAdvice]
        split
        · simp
        · exact List.forall_mem_singleton.mpr (isClean_append.mpr ⟨hint, (plain.suggestion _ given).1⟩)
  refine List.forall_mem_cons.mpr ⟨?_, advice⟩
  simp only [isClean_append]
  exact ⟨⟨⟨⟨indent, plain.variableName.1⟩, place⟩, gap⟩, plain.message.1⟩

section
variable [Markup.Dialect]

structure Prints (marked lines : List String) : Prop where
  clean : ∀ line ∈ lines, IsClean line
  printed : ∃ printed, marked.mapM (printLine false) = .ok printed ∧ begun printed = begun lines

namespace Prints
variable {marked others lines : List String}

theorem nil : Prints [] [] := ⟨by simp, [], rfl, rfl⟩

theorem append {otherLines : List String} (h : Prints marked lines) (g : Prints others otherLines) :
    Prints (marked ++ others) (lines ++ otherLines) := by
  obtain ⟨first, readFirst, shownFirst⟩ := h.printed
  obtain ⟨second, readSecond, shownSecond⟩ := g.printed
  refine ⟨List.forall_mem_append.mpr ⟨h.clean, g.clean⟩, first ++ second, ?_, ?_⟩
  · rw [List.mapM_append, readFirst, readSecond]
    rfl
  · rw [begun_append, begun_append, shownFirst, shownSecond]

theorem flatMap {α : Type} {mark : α → String} {expand : α → List String} {as : List α}
    (each : ∀ a ∈ as, Prints [mark a] (expand a)) : Prints (as.map mark) (as.flatMap expand) := by
  induction as with
  | nil => exact nil
  | cons a as ih =>
      obtain ⟨first, rest⟩ := List.forall_mem_cons.mp each
      exact first.append (ih rest)

theorem of_reads {text line : String} (clean : ∀ l ∈ line :: lines, IsClean l)
    (reads : Reads [] text.toList ("\n".intercalate (line :: lines)).toList) : Prints [text] (line :: lines) := by
  have untabbed : '\t' ∉ ("\n".intercalate (line :: lines)).toList := by
    intro tab
    have inside : '\t' ∈ begun (line :: lines) := begun_cons line lines ▸ List.mem_cons_of_mem _ tab
    obtain ⟨l, member, here⟩ := List.mem_flatMap.mp inside
    rcases List.mem_cons.mp here with same | tab
    · exact absurd same (by decide)
    · exact absurd (clean l member _ tab) (by decide)
  have printed : printLine false text = .ok ("\n".intercalate (line :: lines)) := Markup.print_render reads untabbed
  refine ⟨clean, ["\n".intercalate (line :: lines)], ?_, ?_⟩
  · rw [List.mapM_cons, printed]
    rfl
  · exact (List.append_nil _).trans (begun_cons line lines).symm

theorem line {text line : String} (clean : IsClean line) (reads : Reads [] text.toList line.toList) :
    Prints [text] [line] :=
  of_reads (by simpa using clean) (by simpa [String.intercalate_singleton] using reads)

theorem framed {style front text back : String} (member : style ∈ styles) (opens : IsFrame front) (inner : IsFrame text)
    (closes : IsFrame back) : Prints [front ++ styled style text ++ back] [front ++ text ++ back] := by
  have reads : Reads [] _ _ :=
    (reads_styled member (Markup.spells_ordinary inner.ordinary)
      (Reads.nil.ordinary closes.ordinary)).ordinary opens.ordinary
  exact .line ((opens.append inner).append closes).clean (by simpa using reads)

theorem styled {style text : String} (member : style ∈ styles) (inner : IsFrame text) :
    Prints [styled style text] [text] := by
  have empty : IsFrame "" := by decide
  simpa using framed member empty inner empty

theorem frame {text : String} (h : IsFrame text) : Prints [text] [text] :=
  .line h.clean (by simpa using Reads.nil.ordinary h.ordinary)

end Prints

/-! ## The lines of a report -/

section
variable {f : Finding} (plain : IsPlain f)
include plain

section
variable {opened : List Markup.Opened} {rest behind : List Char} (h : Reads opened rest behind)
include h

theorem reads_name : Reads opened
    ((if f.variableName == "" then "" else styled "cyan" (Markup.escape f.variableName)).toList ++ rest)
    (f.variableName.toList ++ behind) := by
  split
  next empty => rw [beq_iff_eq.mp empty]; exact h
  next => exact reads_styled (by decide) (spells_escape plain.variableName) h

theorem reads_place : Reads opened
    ((match f.line.filter (· != 0) with
      | some line => styled "dim" (":" ++ Numeral.render line)
      | none => "").toList ++ rest)
    ((shownPlace f.line).toList ++ behind) := by
  cases given : f.line with
  | none => exact h
  | some n =>
      have counted : (some n).filter (· != 0) = some n := by
        simpa [Option.filter] using Int.ne_of_gt (plain.line n given)
      have colon : IsFrame ":" := by decide
      rw [counted]
      exact reads_styled (by decide) (Markup.spells_ordinary (colon.append (isFrame_render n)).ordinary) h

end

theorem reads_advice : Reads []
    (match f.suggestion.filter (· != "") with
      | some suggestion => "\n    [dim]Suggestion: " ++ Markup.escape suggestion ++ "[/dim]"
      | none => "").toList
    (begun (shownAdvice f.suggestion)) := by
  cases given : f.suggestion with
  | none => exact .nil
  | some suggestion =>
      by_cases empty : suggestion = ""
      · subst empty
        exact .nil
      have kept : (some suggestion).filter (· != "") = some suggestion := by simpa [Option.filter] using empty
      have spells : Spells ("Suggestion: " ++ Markup.escape suggestion).toList
          ("Suggestion: ".toList ++ suggestion.toList) := by
        have hint : IsFrame "Suggestion: " := by decide
        rw [String.toList_append]
        exact (spells_escape (plain.suggestion _ given)).ordinary_append hint.ordinary
      have dimmed : Reads [] _ _ := reads_styled (by decide : "dim" ∈ styles) spells .nil
      have indent : ∀ c ∈ "\n    ".toList, IsOrdinary c := Text.forall_mem_of_all (by decide)
      rw [kept, shownAdvice, if_neg empty]
      simpa [begun, styled] using dimmed.ordinary indent

theorem prints_finding {style : String} (member : style ∈ styles) :
    Prints [findingLines style f] (shownFinding f) := by
  refine .of_reads (isClean_shownFinding plain) ?_
  have indent : IsFrame "  " := by decide
  have gap : IsFrame ": " := by decide
  have message := reads_styled member (spells_escape plain.message) (reads_advice plain)
  have whole := (reads_name plain (reads_place plain (message.ordinary gap.ordinary))).ordinary indent.ordinary
  rw [toList_intercalate_cons]
  simp only [findingLines, String.toList_append, List.append_assoc]
  exact whole

end

theorem prints_head {title style : String} (bold : "bold " ++ style ∈ styles) (frame : IsFrame title) (count : Nat) :
    Prints [styled ("bold " ++ style) (title ++ " (" ++ toString count ++ "):")]
      [title ++ " (" ++ toString count ++ "):"] := by
  have opening : IsFrame " (" := by decide
  have closing : IsFrame "):" := by decide
  exact .styled bold (((frame.append opening).append (isFrame_toString count)).append closing)

theorem prints_section {title style : String} {findings : List Finding} (plain : ∀ f ∈ findings, IsPlain f)
    (member : style ∈ styles) (bold : "bold " ++ style ∈ styles) (frame : IsFrame title) :
    Prints (sectionLines title style findings) (shownSection title findings) := by
  unfold sectionLines shownSection
  cases findings with
  | nil => exact .nil
  | cons f others =>
      rw [if_neg (by simp), if_neg (by simp)]
      generalize f :: others = findings at plain ⊢
      have empty : IsFrame "" := by decide
      have body := Prints.flatMap fun f inside => prints_finding (plain f inside) member
      exact ((prints_head bold frame findings.length).append body).append (.frame empty)

theorem prints_count {label style : String} (member : style ∈ styles) (frame : IsFrame label) (n : Int) :
    Prints (countLine label style n) (shownCount label n) := by
  unfold countLine shownCount
  split
  next =>
    have indent : IsFrame "  " := by decide
    have colon : IsFrame ": " := by decide
    have empty : IsFrame "" := by decide
    simpa [styledCount] using Prints.framed member ((indent.append frame).append colon) (isFrame_render n) empty
  next => exact .nil

theorem prints_summary (s : Summary) : Prints (summaryLines s) (shownSummary s) := by
  have empty : IsFrame "" := by decide
  have unit : IsFrame "ms" := by decide
  have head : Prints ["[bold]SUMMARY:[/bold]"] ["SUMMARY:"] :=
    Prints.styled (by decide : "bold" ∈ styles) (by decide : IsFrame "SUMMARY:")
  have number {front : String} (opens : IsFrame front) (n : Int) :
      Prints [front ++ styledCount "cyan" n] [front ++ Numeral.render n] := by
    simpa [styledCount] using Prints.framed (by decide : "cyan" ∈ styles) opens (isFrame_render n) empty
  have assigned := number (by decide : IsFrame "  Total variables: ") s.assigned
  have required := number (by decide : IsFrame "  Required variables: ") s.required
  have missing := prints_count (by decide : "red" ∈ styles) (by decide : IsFrame "Missing variables") s.missing
  have unused := prints_count (by decide : "yellow" ∈ styles) (by decide : IsFrame "Unused variables") s.unused
  have risks := prints_count (by decide : "red" ∈ styles) (by decide : IsFrame "Security issues") s.securityIssues
  have elapsed : Prints ["  Validation time: " ++ styled "dim" (s.elapsed.fixed 2 ++ "ms")]
      ["  Validation time: " ++ s.elapsed.fixed 2 ++ "ms"] := by
    have time := Prints.framed (by decide : "dim" ∈ styles) (by decide : IsFrame "  Validation time: ")
      ((isFrame_fixed 2 s.elapsed).append unit) empty
    simpa [String.append_assoc] using time
  exact ((((head.append (assigned.append required)).append missing).append unused).append risks).append elapsed

theorem prints_outcome (isValid : Bool) :
    Prints [(if isValid then styled "bold green" "PASSED" else styled "bold red" "FAILED") ++
      " - Environment validation completed"]
      [(if isValid then "PASSED" else "FAILED") ++ " - Environment validation completed"] := by
  have empty : IsFrame "" := by decide
  have close : IsFrame " - Environment validation completed" := by decide
  cases isValid with
  | true => simpa using Prints.framed (by decide : "bold green" ∈ styles) empty (by decide : IsFrame "PASSED") close
  | false => simpa using Prints.framed (by decide : "bold red" ∈ styles) empty (by decide : IsFrame "FAILED") close

theorem prints_lines {v : Verdict} (plain : ∀ f ∈ v.findings.toList, IsPlain f) : Prints (lines v) (shown v) := by
  rw [Findings.toList, List.forall_mem_append, List.forall_mem_append] at plain
  obtain ⟨⟨errors, warnings⟩, notes⟩ := plain
  have empty : IsFrame "" := by decide
  have first := (prints_outcome v.isValid).append (.frame empty)
  have second := prints_section errors (by decide : "red" ∈ styles) (by decide) (by decide : IsFrame "ERRORS")
  have third := prints_section warnings (by decide : "yellow" ∈ styles) (by decide) (by decide : IsFrame "WARNINGS")
  have fourth := prints_section notes (by decide : "blue" ∈ styles) (by decide) (by decide : IsFrame "INFO")
  exact (((first.append second).append third).append fourth).append (prints_summary v.summary)

end

/-! ## Reports -/

theorem dropFinalBreaks_eq_self {s : List Char} (solid : s.getLast? ≠ some '\n') : dropFinalBreaks s = s := by
  rw [← List.head?_reverse] at solid
  rw [dropFinalBreaks]
  cases reversed : s.reverse with
  | nil => rw [List.reverse_eq_nil_iff.mp reversed]; rfl
  | cons c rest =>
      rw [reversed] at solid
      have other : (c == '\n') = false := by simpa using solid
      rw [List.dropWhile_cons_of_neg (by simp [other]), ← reversed, List.reverse_reverse]

theorem getLast?_intercalate_shown (v : Verdict) : ("\n".intercalate (shown v)).toList.getLast? ≠ some '\n' := by
  obtain ⟨line, lines, first⟩ : ∃ line lines, shown v = line :: lines := ⟨_, _, rfl⟩
  obtain ⟨front, time, last⟩ : ∃ front time, shown v = front ++ [time ++ "ms"] := by
    unfold shown shownSummary
    exact ⟨_, _, (List.append_assoc _ _ _).symm⟩
  have ends : (begun (shown v)).getLast? = some 's' := by
    rw [last, begun_append]
    simp [begun, List.getLast?_append, List.getLast?_cons]
  rw [first, begun_cons, ← first, List.getLast?_cons] at ends
  intro feed
  rw [feed] at ends
  cases ends

theorem text_of_plain [Markup.Dialect] {v : Verdict} (plain : ∀ f ∈ v.findings.toList, IsPlain f) :
    text v false = .ok ("\n".intercalate (shown v)) := by
  obtain ⟨printed, read, same⟩ := (prints_lines plain).printed
  obtain ⟨line, lines, first⟩ : ∃ line lines, shown v = line :: lines := ⟨_, _, rfl⟩
  -- A finding with advice is printed as one text but shown as two lines; joined by line feeds they are the same.
  have joined : "\n".intercalate printed = "\n".intercalate (shown v) := by
    cases printed with
    | nil => rw [first] at same; cases same
    | cons p printed =>
        rw [first, begun_cons, begun_cons] at same
        rw [first]
        exact String.toList_inj.mp (List.cons.inj same).2
  rw [text, read, Except.map, joined, dropFinalBreaks_eq_self (getLast?_intercalate_shown v), String.ofList_toList]

/-- Without colours a report shows its findings as they are, section by section and line by line. -/
theorem render_text [Markup.Dialect] (v : Verdict) (options : Options) (time : String) (colourless : options.colour = false)
    (plain : ∀ f ∈ v.findings.toList, IsPlain f) :
    ∃ report, render v .text options time = .ok report ∧ report = "\n".intercalate (shown v) ∧
      report.toList.splitOn '\n' = (shown v).map String.toList := by
  have unbroken : ∀ line ∈ (shown v).map String.toList, '\n' ∉ line := by
    intro line member feed
    obtain ⟨line, inside, rfl⟩ := List.mem_map.mp member
    exact absurd ((prints_lines plain).clean line inside _ feed) (by decide)
  refine ⟨_, ?_, rfl, ?_⟩
  · rw [render, colourless, text_of_plain plain]
  · rw [String.toList_intercalate]
    exact List.splitOn_intercalate _ unbroken (by simp [shown])

attribute [local instance] Markup.Dialect.terminal in
theorem render_text_brackets :
    let f : Finding :=
      { kind := .custom, variableName := "[red]A[/red]", message := "[a [/] [[b]] [/x", line := some 3,
        suggestion := some "[@click=f]", severity := .error }
    render { isValid := false, findings := { errors := [f] } } .text { colour := false } "" =
      .ok ("FAILED - Environment validation completed\n\nERRORS (1):\n  [red]A[/red]:3: [a [/] [[b]] [/x\n" ++
        "    Suggestion: [@click=f]\n\nSUMMARY:\n  Total variables: 0\n  Required variables: 0\n" ++
        "  Validation time: 0.00ms") := by
  intro f
  have plain : IsPlain f := ⟨by decide, by decide, by simp [f]; decide, by simp [f]⟩
  obtain ⟨report, made, same, -⟩ := render_text { isValid := false, findings := { errors := [f] } }
    { colour := false } "" rfl (List.forall_mem_singleton.mpr plain)
  rw [made, same]
  exact congrArg _ (by decide +kernel)

end EnvAudit.Report
