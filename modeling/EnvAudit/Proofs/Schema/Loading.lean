import EnvAudit.Proofs.Document.Reading
import EnvAudit.Proofs.Failure
import EnvAudit.Schema.Store

namespace EnvAudit

theorem Workspace.exists?_of_readText {w : Workspace} {path text : String}
    (readable : w.readText path = .ok text) :
    w.exists? path = .ok true := by
  unfold readText readRaw readBytes at readable
  unfold exists?
  cases found : w.find path with
  | ok place => rfl
  | error fault => simp [found, Except.map] at readable

variable [Host]

def Document.IsVariableName (d : Document) : Prop :=
  ∃ name, d.display = .ok name ∧ VariableName.check name = .ok ()

namespace Schema
variable {source : String}

theorem checkNames_eq_ok {items : List Document} :
    checkNames source items = .ok () ↔ ∀ item ∈ items, item.IsVariableName := by
  induction items with
  | nil => simp [checkNames]
  | cons item items ih =>
      rw [checkNames, List.forall_mem_cons, ← ih, Document.IsVariableName]
      split
      · simp_all
      · split <;> simp_all

def variablesOf (entries : List (Document × Document)) : Document :=
  (Document.valueOf? entries "variables").getD .null

theorem ofDocument_map {entries : List (Document × Document)} {names : List Document}
    (given : declaredNames (variablesOf entries) = .ok names) :
    ofDocument source (.map entries) = (checkNames source names).bind fun _ =>
      (decode (.map entries)).toExcept fun causes => .settings (.schemaRefused source causes) := by
  rw [variablesOf] at given
  simp only [ofDocument, given, bind, Except.bind]

theorem ofDocument_map_eq_ok {entries : List (Document × Document)} {s : Schema} :
    ofDocument source (.map entries) = .ok s ↔
      ∃ names, declaredNames (variablesOf entries) = .ok names ∧ (∀ item ∈ names, item.IsVariableName) ∧
        decode (.map entries) = .ok s := by
  cases given : declaredNames (variablesOf entries) with
  | error failure =>
      have failed : ofDocument source (.map entries) = .error failure := by
        rw [variablesOf] at given
        simp only [ofDocument, given, bind, Except.bind]
      simp [failed]
  | ok names =>
      rw [ofDocument_map given]
      cases checked : checkNames source names with
      | error failure =>
          have unnamed : ¬ ∀ item ∈ names, item.IsVariableName := fun named => by
            simp [checkNames_eq_ok.mpr named] at checked
          simpa [Except.bind] using fun named => absurd named unnamed
      | ok _ =>
          have named := checkNames_eq_ok.mp checked
          simpa [Except.bind, Checked.toExcept_eq_ok] using fun _ => named

theorem load_json {w : Workspace} {path text : String} {json : Json}
    (isJson : isJsonFile (Location.ofString path) = true)
    (readable : w.readText (Location.ofString path).toString = .ok text) (reads : Json.read text = .ok json) :
    load w path = ofDocument (Location.ofString path).toString json.toDocument := by
  have document : readText (Location.ofString path) true text = .ok json.toDocument := by
    simp only [readText, if_true, Json.readDocument, reads, bind, Except.bind]
    rfl
  unfold load
  simp only [Workspace.exists?_of_readText readable, isJson, readable]
  rw [document, Bool.not_true, Bool.false_and, if_neg Bool.false_ne_true]
  rfl

end Schema

namespace Document

theorem not_isVariableName_bytes (value : List UInt8) : ¬ (bytes value).IsVariableName := by
  rintro ⟨name, shown, check⟩
  obtain rfl : spellBytes value = name := Except.ok.inj shown
  -- Bytes are shown with a quote after their first letter, which no name has in it.
  have quoted (quote : Char) (rest : List Char) (mark : VariableName.isInner quote = false) :
      VariableName.check (String.ofList ('b' :: quote :: rest)) ≠ .ok () := by
    simp only [VariableName.check, VariableName.isName, String.toList_ofList, List.all_cons, mark, Bool.false_and,
      Bool.and_false, Bool.false_eq_true, if_false]
    split <;> exact nofun
  simp only [spellBytes, List.cons_append] at check
  exact quoted _ _ (by split <;> rfl) check

theorem eq_text_of_isVariableName {key : Document} {name : String} (read : key.asText = .ok name)
    (named : key.IsVariableName) : key = .text name := by
  cases key with
  | text s => exact congrArg text (Checked.ok.inj read)
  | bytes value => exact absurd named (not_isVariableName_bytes value)
  | null | bool | int | float | list | map | set | pair | date | timestamp => cases read

end Document

namespace Schema
variable {source : String} {entries : List (Document × Document)} {names : List Document}
  {specs : List (String × VariableSpec)}

theorem keys_of_readEntries (read : List.Forall₂
      (fun entry spec => entry.1.asText = .ok spec.1 ∧ VariableSpec.decode entry.2 = .ok spec.2) entries specs)
    (named : ∀ key ∈ entries.map (·.1), key.IsVariableName) :
    entries.map (·.1) = specs.map fun spec => .text spec.1 := by
  induction read with
  | nil => rfl
  | @cons entry spec entries specs first _ ih =>
      rw [List.map_cons, List.forall_mem_cons] at named
      rw [List.map_cons, List.map_cons, Document.eq_text_of_isVariableName first.1 named.1, ih named.2]

/-- What is declared under some names: nothing, or what a mapping holds that has the names as its keys. -/
inductive Declares (entries : List (Document × Document)) (names : List Document) :
    List (String × VariableSpec) → Prop where
  | none : Declares entries names []
  | map {held : List (Document × Document)} {specs : List (String × VariableSpec)} :
      Document.valueOf? entries "variables" = some (.map held) →
      held.map (·.1) = specs.map (fun spec => .text spec.1) → names = held.map (·.1) → Declares entries names specs

theorem declares_of_read (given : declaredNames (variablesOf entries) = .ok names)
    (named : ∀ item ∈ names, item.IsVariableName)
    (read : Document.optionalField (Document.asMap VariableSpec.decode) (.plain "variables") [] entries = .ok specs) :
    Declares entries names specs := by
  -- What was checked are the keys as they are shown, and what was read are the keys as texts.
  rcases Document.optionalField_eq_ok read with rfl | ⟨name, v, found, read⟩
  · exact .none
  · have here : Document.valueOf? entries "variables" = some v := by
      cases held : Document.valueOf? entries "variables" with
      | none => simp [Document.field?, Document.Field.plain, held] at found
      | some v' =>
          simp only [Document.field?, Document.Field.plain, held, Option.some.injEq, Prod.mk.injEq] at found
          rw [found.2]
    cases v with
    | map held =>
        have declares : names = held.map (·.1) := by
          rw [variablesOf, here] at given
          exact (Except.ok.inj given).symm
        subst declares
        exact .map here (keys_of_readEntries (Document.readEntries_eq_ok.mp read) named) rfl
    | null | bool | int | float | list | text | bytes | set | pair | date | timestamp => cases read

theorem Declares.named (declares : Declares entries names specs) (named : ∀ item ∈ names, item.IsVariableName) :
    ∀ spec ∈ specs, VariableName.check spec.1 = .ok () := by
  intro spec member
  cases declares with
  | none => cases member
  | map found same declared =>
      rw [declared] at named
      obtain ⟨name, shown, check⟩ := named (.text spec.1) (same ▸ List.mem_map_of_mem member)
      cases shown
      exact check

theorem named_of_ofDocument {d : Document} {s : Schema} (accepted : ofDocument source d = .ok s) :
    ∀ spec ∈ s.specs, VariableName.check spec.1 = .ok () := by
  cases d with
  | null =>
      obtain rfl : {} = s := Except.ok.inj accepted
      simp
  | map entries =>
      obtain ⟨names, given, named, read⟩ := ofDocument_map_eq_ok.mp accepted
      simp only [decode, Document.asRecord, Checked.seq_eq_ok, Checked.map_eq_ok] at read
      obtain ⟨_, _, ⟨_, _, ⟨_, _, ⟨specs, readSpecs, rfl⟩, _, rfl⟩, _, rfl⟩, -, rfl⟩ := read
      exact (declares_of_read given named readSpecs).named named
  | bool | int | float | list | text | bytes | set | pair | date | timestamp => cases accepted

theorem ofDocument_of_load {w : Workspace} {path : String} {s : Schema} (loaded : load w path = .ok s) :
    ∃ source d, ofDocument source d = .ok s := by
  unfold load at loaded
  simp only at loaded
  split at loaded
  next => cases loaded
  next => cases loaded
  split at loaded
  next => cases loaded
  split at loaded
  next => cases loaded
  next text readable =>
    obtain ⟨d, -, accepted⟩ := ok_of_bind loaded
    exact ⟨_, d, accepted⟩

end Schema

end EnvAudit
