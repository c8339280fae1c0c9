import EnvAudit.Proofs.Xml.Reader
import EnvAudit.Report.Xml
import Mathlib.Data.List.Basic

namespace EnvAudit.Xml

/-! ## Runs -/

theorem run_cons (state : State) (c : Char) (s : List Char) :
    run state (c :: s) = (step state c).bind (run · s) := by
  rw [run, List.foldlM_cons]
  rfl

theorem run_append (state : State) (s t : List Char) : run state (s ++ t) = (run state s).bind (run · t) := by
  rw [run, List.foldlM_append]
  rfl

/-- The reader stays where it is while it collects characters. -/
theorem run_collect (place : List Char → State) {s : List Char}
    (stays : ∀ before, ∀ c ∈ s, step (place before) c = some (place (before ++ [c]))) (before : List Char) :
    run (place before) s = some (place (before ++ s)) := by
  induction s generalizing before with
  | nil =>
      rw [List.append_nil]
      rfl
  | cons c s ih =>
      rw [run_cons, stays before c List.mem_cons_self, Option.bind_some,
        ih (fun b d member => stays b d (List.mem_cons_of_mem c member)), List.append_assoc]
      rfl

/-! ## Escapes -/

def textEscapes : List (Char × List Char) :=
  [('&', "&amp;".toList), ('<', "&lt;".toList), ('>', "&gt;".toList)]

def attributeEscapes : List (Char × List Char) :=
  [('"', "&quot;".toList), ('\r', "&#13;".toList), ('\n', "&#10;".toList), ('\t', "&#09;".toList)] ++ textEscapes

def Escapes (escape : Char → List Char) (table : List (Char × List Char)) : Prop :=
  ∀ c, (c, escape c) ∈ table ∨ escape c = [c] ∧ c ∉ table.map (·.1)

theorem escapes_textChar : Escapes textChar textEscapes := by
  intro c
  by_cases special : c ∈ ['&', '<', '>']
  · apply Or.inl
    simp only [List.mem_cons, List.not_mem_nil, or_false] at special
    rcases special with rfl | rfl | rfl <;> decide
  · refine Or.inr ⟨?_, special⟩
    simp only [List.mem_cons, List.not_mem_nil, or_false, not_or] at special
    simp [textChar, special]

theorem escapes_attributeChar : Escapes attributeChar attributeEscapes := by
  intro c
  by_cases special : c ∈ ['"', '\r', '\n', '\t']
  · apply Or.inl
    simp only [List.mem_cons, List.not_mem_nil, or_false] at special
    rcases special with rfl | rfl | rfl | rfl <;> decide
  · have same : attributeChar c = textChar c := by
      simp only [List.mem_cons, List.not_mem_nil, or_false, not_or] at special
      simp [attributeChar, special]
    rw [same, attributeEscapes, List.map_append, List.mem_append, List.mem_append]
    rcases escapes_textChar c with written | ⟨plain, other⟩
    · exact Or.inl (Or.inr written)
    · exact Or.inr ⟨plain, not_or.mpr ⟨special, other⟩⟩

namespace Escapes
variable {escape : Char → List Char} {table : List (Char × List Char)} (h : Escapes escape table)
include h

theorem notMem {d : Char} (listed : d ∈ table.map (·.1)) (outside : ∀ pair ∈ table, d ∉ pair.2) (s : List Char) :
    d ∉ s.flatMap escape := by
  intro member
  obtain ⟨c, -, found⟩ := List.mem_flatMap.mp member
  rcases h c with written | ⟨plain, other⟩
  · exact outside _ written found
  · rw [plain, List.mem_singleton] at found
    exact other (found ▸ listed)

theorem all_iff {p : Char → Bool} (chars : ∀ pair ∈ table, p pair.1 = true ∧ pair.2.all p = true)
    (s : List Char) : (s.flatMap escape).all p = s.all p := by
  induction s with
  | nil => rfl
  | cons c s ih =>
      rw [List.flatMap_cons, List.all_append, List.all_cons, ih]
      congr 1
      rcases h c with written | ⟨plain, -⟩
      · obtain ⟨own, all⟩ := chars _ written
        exact all.trans own.symm
      · rw [plain, List.all_cons, List.all_nil, Bool.and_true]

theorem expand? {plain : Char → Char} (markup : '&' ∈ table.map (·.1))
    (same : ∀ c, c ∉ table.map (·.1) → plain c = c)
    (back : ∀ pair ∈ table, ∀ rest, Xml.expand? plain none (pair.2 ++ rest) =
      (Xml.expand? plain none rest).map (pair.1 :: ·)) (s : List Char) :
    Xml.expand? plain none (s.flatMap escape) = some s := by
  induction s with
  | nil => rfl
  | cons c s ih =>
      rw [List.flatMap_cons]
      rcases h c with written | ⟨single, other⟩
      · rw [back _ written, ih, Option.map_some]
      · have isPlain : c ≠ '&' := fun isAmp => other (isAmp ▸ markup)
        rw [single, List.singleton_append, Xml.expand?]
        simp [isPlain, ih, same c other]

end Escapes

theorem expand?_escape {plain : Char → Char} {pair : Char × List Char} (h : pair ∈ attributeEscapes)
    (rest : List Char) :
    expand? plain none (pair.2 ++ rest) = (expand? plain none rest).map (pair.1 :: ·) := by
  simp only [attributeEscapes, textEscapes, List.cons_append, List.nil_append, List.mem_cons,
    List.not_mem_nil, or_false] at h
  rcases h with rfl | rfl | rfl | rfl | rfl | rfl | rfl <;> rfl

theorem text?_writeText (s : String) : text? (writeText s) = some s.toList := by
  have noClose : '>' ∉ writeText s := escapes_textChar.notMem (by decide) (by decide) s.toList
  have noEnd : ¬ [']', ']', '>'] <:+: writeText s := fun found => noClose (found.subset (by simp))
  rw [text?, if_neg noEnd]
  apply escapes_textChar.expand? (by decide) fun c _ => rfl
  intro pair member rest
  exact expand?_escape (List.mem_append_right _ member) rest

theorem value?_attributeChar (s : List Char) : value? (s.flatMap attributeChar) = some s := by
  have noTag : '<' ∉ s.flatMap attributeChar := escapes_attributeChar.notMem (by decide) (by decide) s
  rw [value?, if_neg noTag]
  apply escapes_attributeChar.expand? (by decide)
  · intro c other
    split
    · rename_i space
      simp only [isSpace, Bool.or_eq_true, beq_iff_eq] at space
      rcases space with ((rfl | rfl) | rfl) | rfl
      · rfl
      · exact absurd (by decide) other
      · exact absurd (by decide) other
      · exact absurd (by decide) other
    · rfl
  · intro pair member rest
    exact expand?_escape member rest

/-! ## Tags -/

def isName : List Char → Bool
  | [] => false
  | c :: rest => isNameStart c && rest.all isNameChar

theorem isName_cons {c : Char} {s : List Char} :
    isName (c :: s) = true ↔ isNameStart c = true ∧ ∀ d ∈ s, isNameChar d = true := by
  simp [isName]

theorem isNameChar_of_mem {name : List Char} (named : isName name = true) {c : Char} (h : c ∈ name) :
    isNameChar c = true := by
  cases name with
  | nil => cases named
  | cons first rest =>
      obtain ⟨start, inner⟩ := isName_cons.mp named
      rcases List.mem_cons.mp h with rfl | member
      · simp [isNameChar, start]
      · exact inner c member

/-- The reader stands in a start tag, behind a name or a value. -/
def InTag (f : Frame) (opened : List Frame) (state : State) : Prop :=
  ∀ c, isNameChar c = false → step state c = stepTag f opened c

theorem run_name {state : State} (place : List Char → State)
    (opens : ∀ c, isNameStart c = true → step state c = some (place [c]))
    (stays : ∀ before c, isNameChar c = true → step (place before) c = some (place (before ++ [c])))
    {name : List Char} (named : isName name = true) : run state name = some (place name) := by
  cases name with
  | nil => cases named
  | cons c rest =>
      obtain ⟨start, inner⟩ := isName_cons.mp named
      rw [run_cons, opens c start, Option.bind_some]
      exact run_collect place (fun before d member => stays before d (inner d member)) [c]

theorem run_startName {name : List Char} (named : isName name = true) (opened : List Frame) :
    run (.inside .markup opened) name = some (.inside (.startName name) opened) := by
  refine run_name (fun name => .inside (.startName name) opened) (fun c start => ?_) (fun before c inner => ?_) named
  · have slash : c ≠ '/' := by
      rintro rfl
      exact absurd start (by decide)
    simp [step, stepInside, slash, start]
  · simp [step, stepInside, inner]

theorem inTag_startName (name : String) (opened : List Frame) :
    InTag { name } opened (.inside (.startName name.toList) opened) := by
  intro c other
  simp [step, stepInside, other]

theorem inTag_behindValue (f : Frame) (opened : List Frame) : InTag f opened (.inside (.behindValue f) opened) :=
  fun _ _ => rfl

theorem run_attributeName {name : List Char} (named : isName name = true) (f : Frame) (opened : List Frame) :
    run (.inside (.tag f) opened) name = some (.inside (.attributeName f name) opened) := by
  refine run_name (fun name => .inside (.attributeName f name) opened) (fun c start => ?_)
    (fun before c inner => ?_) named
  · simp [step, stepInside, start]
  · simp [step, stepInside, inner]

theorem run_value {s : List Char} (clean : '"' ∉ s) (f : Frame) (name : List Char) (opened : List Frame) :
    run (.inside (.value f name '"' []) opened) s = some (.inside (.value f name '"' s) opened) := by
  apply run_collect fun raw => .inside (.value f name '"' raw) opened
  intro before c member
  have other : c ≠ '"' := fun isQuote => clean (isQuote ▸ member)
  simp [step, stepInside, other]

def Frame.withAttributes (f : Frame) (attributes : List (String × String)) : Frame :=
  { f with attributes := f.attributes ++ attributes }

theorem addAttribute?_written {f : Frame} {name : String} (fresh : name ∉ f.attributes.map (·.1))
    (value : String) : f.addAttribute? name.toList (value.toList.flatMap attributeChar) =
      some (f.withAttributes [(name, value)]) := by
  have new : f.attributes.any (·.1 == name) = false := by
    rw [List.any_eq_false]
    intro pair member same
    exact fresh (List.mem_map.mpr ⟨pair, member, beq_iff_eq.mp same⟩)
  simp [Frame.addAttribute?, Frame.withAttributes, value?_attributeChar, new]

theorem run_writeAttribute {f : Frame} {opened : List Frame} {state : State} (inTag : InTag f opened state)
    {name : String} (named : isName name.toList = true) (fresh : name ∉ f.attributes.map (·.1))
    (value : String) :
    run state (writeAttribute (name, value)) =
      some (.inside (.behindValue (f.withAttributes [(name, value)])) opened) := by
  have shape : writeAttribute (name, value) =
      ' ' :: (name.toList ++ '=' :: '"' :: (value.toList.flatMap attributeChar ++ ['"'])) := by
    simp [writeAttribute]
  have space : step state ' ' = some (.inside (.tag f) opened) := inTag ' ' (by decide)
  have equals : step (.inside (.attributeName f name.toList) opened) '=' =
      some (.inside (.quote f name.toList) opened) := rfl
  have opening : step (.inside (.quote f name.toList) opened) '"' =
      some (.inside (.value f name.toList '"' []) opened) := rfl
  have clean : '"' ∉ value.toList.flatMap attributeChar :=
    escapes_attributeChar.notMem (by decide) (by decide) _
  have closing : step (.inside (.value f name.toList '"' (value.toList.flatMap attributeChar)) opened) '"' =
      some (.inside (.behindValue (f.withAttributes [(name, value)])) opened) := by
    simp [step, stepInside, addAttribute?_written fresh]
  rw [shape, run_cons, space, Option.bind_some, run_append, run_attributeName named, Option.bind_some, run_cons,
    equals, Option.bind_some, run_cons, opening, Option.bind_some, run_append, run_value clean, Option.bind_some,
    run_cons, closing]
  rfl

theorem run_writeAttributes {attributes : List (String × String)} {opened : List Frame}
    (names : ∀ pair ∈ attributes, isName pair.1.toList = true) {f : Frame} {state : State}
    (inTag : InTag f opened state) (fresh : (f.attributes.map (·.1) ++ attributes.map (·.1)).Nodup) :
    ∃ state', run state (attributes.flatMap writeAttribute) = some state' ∧
      InTag (f.withAttributes attributes) opened state' := by
  induction attributes generalizing f state with
  | nil =>
      refine ⟨state, rfl, ?_⟩
      simpa [Frame.withAttributes] using inTag
  | cons pair attributes ih =>
      obtain ⟨name, value⟩ := pair
      rw [List.forall_mem_cons] at names
      have new : name ∉ f.attributes.map (·.1) := by
        intro member
        exact (List.nodup_append.mp fresh).2.2 name member name (by simp) rfl
      have first := run_writeAttribute inTag names.1 new value
      obtain ⟨state', rest, inTag'⟩ := ih names.2 (inTag_behindValue (f.withAttributes [(name, value)]) opened)
        (by simpa [Frame.withAttributes] using fresh)
      refine ⟨state', ?_, by simpa [Frame.withAttributes] using inTag'⟩
      rw [List.flatMap_cons, run_append, first, Option.bind_some, rest]

/-- The reader has read all of a text, or none, in front of a tag. -/
def Opens (opened : List Frame) (state : State) : Prop := step state '<' = some (.inside .markup opened)

theorem run_head {opened : List Frame} {state : State} (opens : Opens opened state) {name : String}
    {attributes : List (String × String)} (named : isName name.toList = true)
    (names : ∀ pair ∈ attributes, isName pair.1.toList = true) (distinct : (attributes.map (·.1)).Nodup) :
    ∃ state', run state ('<' :: name.toList ++ attributes.flatMap writeAttribute) = some state' ∧
      InTag { name, attributes } opened state' := by
  obtain ⟨state', rest, inTag⟩ :=
    run_writeAttributes names (inTag_startName name opened) (by simpa using distinct)
  refine ⟨state', ?_, by simpa [Frame.withAttributes] using inTag⟩
  rw [List.cons_append, run_cons, opens, Option.bind_some, run_append, run_startName named, Option.bind_some, rest]

theorem run_endTag {f : Frame} {above : List Frame} {state : State} (opens : Opens (f :: above) state)
    (named : isName f.name.toList = true) :
    run state ('<' :: '/' :: f.name.toList ++ ['>']) = some (close f.node above) := by
  have slash : step (.inside .markup (f :: above)) '/' = some (.inside (.endName []) (f :: above)) := rfl
  have stays : ∀ before, ∀ c ∈ f.name.toList, step (.inside (.endName before) (f :: above)) c =
      some (.inside (.endName (before ++ [c])) (f :: above)) := by
    intro before c member
    have nameChar := isNameChar_of_mem named member
    simp [step, stepInside, nameChar]
  have collected := run_collect (fun name => .inside (.endName name) (f :: above)) stays []
  have closing : step (.inside (.endName f.name.toList) (f :: above)) '>' = some (close f.node above) := by
    have noName : isNameChar '>' = false := by decide
    simp [step, stepInside, noName, stepEnd, isSpace]
  rw [List.cons_append, run_cons, opens, Option.bind_some, List.cons_append, run_cons, slash, Option.bind_some,
    run_append, collected, Option.bind_some, List.nil_append, run_cons, closing]
  rfl

/-! ## Texts -/

theorem run_text {s : List Char} (clean : '<' ∉ s) (raw : List Char) (opened : List Frame) :
    run (.inside (.content raw) opened) s = some (.inside (.content (raw ++ s)) opened) := by
  apply run_collect fun raw => .inside (.content raw) opened
  intro before c member
  have other : c ≠ '<' := fun isTag => clean (isTag ▸ member)
  simp [step, stepInside, other]

theorem opens_content {raw s : List Char} (read : text? raw = some s) (f : Frame) (above : List Frame) :
    Opens (f.push (textNodes s) :: above) (.inside (.content raw) (f :: above)) := by
  simp [Opens, step, stepInside, read]

/-! ## Elements -/

namespace Element

/-- An element whose names are names. If it has children, it has no text of its own. -/
inductive IsWritable : Element → Prop where
  | leaf {name : String} {attributes : List (String × String)} (text : String) : isName name.toList = true →
      (∀ pair ∈ attributes, isName pair.1.toList = true) → (attributes.map (·.1)).Nodup →
      IsWritable (.mk name attributes text [])
  | parent {name : String} {attributes : List (String × String)} {first : Element} {others : List Element} :
      isName name.toList = true → (∀ pair ∈ attributes, isName pair.1.toList = true) →
      (attributes.map (·.1)).Nodup → (∀ child ∈ first :: others, IsWritable child) →
      IsWritable (.mk name attributes "" (first :: others))

mutual

def node (indent : Indent) (level : Nat) : Element → Node
  | .mk name attributes text children =>
    match children with
    | [] => .element name attributes (textNodes text.toList)
    | _ :: _ =>
      .element name attributes (nodes indent (level + 1) children ++ textNodes (breakAt indent level))

def nodes (indent : Indent) (level : Nat) : List Element → List Node
  | [] => []
  | child :: children => textNodes (breakAt indent level) ++ node indent level child :: nodes indent level children

end

theorem mem_breakAt {indent : Indent} {level : Nat} {c : Char} (h : c ∈ breakAt indent level) :
    c = '\n' ∨ c = ' ' := by
  cases indent with
  | none => cases h
  | some spaces =>
      rcases List.mem_cons.mp h with feed | space
      · exact Or.inl feed
      · exact Or.inr (List.eq_of_mem_replicate space)

theorem text?_breakAt (indent : Indent) (level : Nat) :
    text? (breakAt indent level) = some (breakAt indent level) := by
  have plain : (breakAt indent level).flatMap textChar = breakAt indent level := by
    have same : ∀ c ∈ breakAt indent level, textChar c = [c] := by
      intro c member
      rcases mem_breakAt member with rfl | rfl <;> rfl
    rw [List.flatMap_congr same, List.flatMap_singleton']
  have read := text?_writeText (String.ofList (breakAt indent level))
  rwa [writeText, String.toList_ofList, plain] at read

section
variable (indent : Indent)

theorem run_break (level : Nat) (f : Frame) (above : List Frame) :
    ∃ state, run (.inside (.content []) (f :: above)) (breakAt indent level) = some state ∧
      Opens (f.push (textNodes (breakAt indent level)) :: above) state := by
  have clean : '<' ∉ breakAt indent level := by
    intro member
    rcases mem_breakAt member with same | same <;> exact absurd same (by decide)
  exact ⟨_, run_text clean [] (f :: above), opens_content (text?_breakAt indent level) f above⟩

theorem push_push (f : Frame) (first second : List Node) :
    (f.push first).push second = f.push (first ++ second) := by
  simp [Frame.push]

theorem run_writeChildren {children : List Element} (level : Nat)
    (each : ∀ child ∈ children, ∀ state opened, Opens opened state →
      run state (write indent level child) = some (close (child.node indent level) opened))
    (f : Frame) (above : List Frame) :
    run (.inside (.content []) (f :: above)) (writeChildren indent level children) =
      some (.inside (.content []) (f.push (nodes indent level children) :: above)) := by
  induction children generalizing f with
  | nil => simp [writeChildren, nodes, Frame.push, run]
  | cons child children ih =>
      rw [List.forall_mem_cons] at each
      obtain ⟨state, broken, opens⟩ := run_break indent level f above
      rw [writeChildren, run_append, run_append, broken, Option.bind_some, each.1 state _ opens, Option.bind_some,
        close, ih each.2, push_push, push_push, nodes]
      simp

theorem write_leaf_empty (level : Nat) (name : String) (attributes : List (String × String)) :
    write indent level (.mk name attributes "" []) =
      ('<' :: name.toList ++ attributes.flatMap writeAttribute) ++ [' ', '/', '>'] := by
  rw [write]
  rfl

theorem write_leaf (level : Nat) (name : String) (attributes : List (String × String)) {text : String}
    (solid : text ≠ "") :
    write indent level (.mk name attributes text []) =
      ('<' :: name.toList ++ attributes.flatMap writeAttribute) ++
        '>' :: (writeText text ++ ('<' :: '/' :: name.toList ++ ['>'])) := by
  simp [write, solid]

theorem write_parent (level : Nat) (name : String) (attributes : List (String × String)) (first : Element)
    (others : List Element) :
    write indent level (.mk name attributes "" (first :: others)) =
      ('<' :: name.toList ++ attributes.flatMap writeAttribute) ++
        '>' :: (writeChildren indent (level + 1) (first :: others) ++
          (breakAt indent level ++ ('<' :: '/' :: name.toList ++ ['>']))) := by
  simp [write, writeText]

theorem IsWritable.run_write {e : Element} (h : e.IsWritable) : ∀ level state opened, Opens opened state →
    run state (write indent level e) = some (close (e.node indent level) opened) := by
  induction h with
  | @leaf name attributes text named names distinct =>
      intro level state opened opens
      obtain ⟨tag, head, inTag⟩ := run_head opens named names distinct
      by_cases empty : text = ""
      · subst empty
        have space : step tag ' ' = some (.inside (.tag { name, attributes }) opened) := inTag ' ' (by decide)
        rw [write_leaf_empty, run_append, head, Option.bind_some, run_cons, space]
        rfl
      · have start : step tag '>' = some (.inside (.content []) ({ name, attributes } :: opened)) :=
          inTag '>' (by decide)
        have clean : '<' ∉ writeText text := escapes_textChar.notMem (by decide) (by decide) text.toList
        have last := run_endTag (opens_content (text?_writeText text) { name, attributes } opened) named
        rw [write_leaf indent level name attributes empty, run_append, head, Option.bind_some, run_cons, start,
          Option.bind_some, run_append, run_text clean, Option.bind_some, List.nil_append]
        exact last
  | @parent name attributes first others named names distinct _ ih =>
      intro level state opened opens
      obtain ⟨tag, head, inTag⟩ := run_head opens named names distinct
      have start : step tag '>' = some (.inside (.content []) ({ name, attributes } :: opened)) :=
        inTag '>' (by decide)
      have children := run_writeChildren indent (level + 1) (fun child member => ih child member (level + 1))
        { name, attributes } opened
      obtain ⟨behind, broken, ends⟩ := run_break indent level
        (Frame.push { name, attributes } (nodes indent (level + 1) (first :: others))) opened
      have last := run_endTag ends named
      rw [write_parent, run_append, head, Option.bind_some, run_cons, start, Option.bind_some, run_append, children,
        Option.bind_some, run_append, broken, Option.bind_some]
      exact last

end

end Element

end EnvAudit.Xml
