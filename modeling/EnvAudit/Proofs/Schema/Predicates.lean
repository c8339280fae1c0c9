import EnvAudit.Proofs.Document.Reading
import EnvAudit.Proofs.Text.Split
import EnvAudit.Schema.Document

namespace EnvAudit

/-- What a reader of documents does not take for a refusal. -/
inductive Raised.Escapes : Raised → Prop where
  | exit (status : Nat) : Escapes (.exit status)
  | other (kind message : String) : Escapes (.other kind message)

namespace Predicate

structure Names (name moduleName path : String) : Prop where
  whole : name.toList = moduleName.toList ++ ':' :: path.toList
  first : ':' ∉ moduleName.toList
  moduleName_ne : moduleName ≠ ""
  path_ne : path ≠ ""

def parts (path : String) : List String := (Text.splitAll '.' path.toList).map String.ofList

inductive IsThere : Member → Prop where
  | value : IsThere .value
  | check (check : Check) : IsThere (.check check)

/-- Following some parts, what all the parts before one stand for is there, and the one raises something. -/
def RaisesBehind (member : List String → Member) (before parts : List String) (r : Raised) : Prop :=
  ∃ passed part others, parts = passed ++ part :: others ∧ member (before ++ passed ++ [part]) = .raised r ∧
    ∀ n < passed.length, IsThere (member (before ++ passed.take (n + 1)))

theorem splitName?_eq_some {name moduleName path : String} :
    splitName? name = some (moduleName, path) ↔ Names name moduleName path := by
  have same : splitName? name = some (moduleName, path) ↔
      Text.cutFirst ':' name.toList = (moduleName.toList, some path.toList) ∧ moduleName ≠ "" ∧ path ≠ "" := by
    rw [splitName?]
    split
    next front rest cut =>
      rw [cut]
      constructor
      · intro split
        split at split
        next => cases split
        next given =>
          cases split
          simpa using given
      · rintro ⟨same, given⟩
        simp only [Prod.mk.injEq, Option.some.injEq] at same
        obtain ⟨rfl, rfl⟩ := same
        simp [given]
    next front cut => simp [cut]
  rw [same, Text.cutFirst_eq_some_iff]
  exact ⟨fun ⟨⟨whole, first⟩, given, named⟩ => ⟨whole, first, given, named⟩,
    fun ⟨whole, first, given, named⟩ => ⟨⟨whole, first⟩, given, named⟩⟩

theorem raisesBehind_cons {member : List String → Member} {before parts : List String} {part : String} {r : Raised} :
    RaisesBehind member before (part :: parts) r ↔ member (before ++ [part]) = .raised r ∨
      IsThere (member (before ++ [part])) ∧ RaisesBehind member (before ++ [part]) parts r := by
  constructor
  · rintro ⟨passed, found, others, same, raises, there⟩
    cases passed with
    | nil =>
        obtain ⟨rfl, rfl⟩ := List.cons.inj same
        exact .inl (by simpa using raises)
    | cons first passed =>
        obtain ⟨rfl, rfl⟩ := List.cons.inj same
        refine .inr ⟨by simpa using there 0 (by simp), passed, found, others, rfl, by simpa using raises, ?_⟩
        intro n inside
        simpa using there (n + 1) (by simpa using inside)
  · rintro (raises | ⟨first, passed, found, others, rfl, raises, there⟩)
    · exact ⟨[], part, parts, rfl, by simpa using raises, by simp⟩
    · refine ⟨part :: passed, found, others, rfl, by simpa using raises, fun n inside => ?_⟩
      cases n with
      | zero => simpa using first
      | succ n => simpa using there n (by simpa using inside)

theorem follow_eq_raised {member : List String → Member} {before parts : List String} {r : Raised}
    (there : parts = [] → member before ≠ .raised r) :
    follow member before parts = .raised r ↔ RaisesBehind member before parts r := by
  induction parts generalizing before with
  | nil => simp [follow, there rfl, RaisesBehind]
  | cons part parts ih =>
      rw [raisesBehind_cons, follow]
      split <;> rename_i found
      · rw [found]
        exact ⟨nofun, fun | .inl same => same | .inr ⟨here, _⟩ => nomatch here⟩
      · rw [found]
        exact ⟨.inl, fun | .inl same => same | .inr ⟨here, _⟩ => nomatch here⟩
      · rw [ih (by simp [found]), found]
        exact ⟨fun raises => .inr ⟨.value, raises⟩, fun | .inl same => nomatch same | .inr ⟨_, raises⟩ => raises⟩
      · rw [ih (by simp [found]), found]
        exact ⟨fun raises => .inr ⟨.check _, raises⟩, fun | .inl same => nomatch same | .inr ⟨_, raises⟩ => raises⟩

theorem parts_ne (path : String) : parts path ≠ [] := by
  simp [parts, Text.splitAll_ne]

theorem aborts_ofRaised {α : Type} {r : Raised} : (ofRaised (α := α) r).Aborts ↔ r.Escapes := by
  cases r with
  | refusal | assertion => simpa [ofRaised] using fun escapes : Raised.Escapes _ => nomatch escapes
  | exit status => simpa [ofRaised] using .exit status
  | other kind message => simpa [ofRaised] using .other kind message

variable [Host]

/-- Finding a path in a module raises what is no refusal: the module is named relative to no package, or importing
it raises that, or else following the path does. -/
inductive EscapesFrom (moduleName path : String) : Prop where
  | relative : moduleName.toList.head? = some '.' → EscapesFrom moduleName path
  | importing {r : Raised} : moduleName.toList.head? ≠ some '.' → Host.importModule moduleName = .raised r →
      r.Escapes → EscapesFrom moduleName path
  | following {member : List String → Member} {r : Raised} : moduleName.toList.head? ≠ some '.' →
      Host.importModule moduleName = .loaded member → RaisesBehind member [] (parts path) r → r.Escapes →
        EscapesFrom moduleName path

def Escapes (name : String) : Prop := ∃ moduleName path, Names name moduleName path ∧ EscapesFrom moduleName path

theorem aborts_decode_iff {name moduleName path : String} (split : splitName? name = some (moduleName, path)) :
    (decode (.text name)).Aborts ↔ EscapesFrom moduleName path := by
  have followed (member : List String → Member) (r : Raised) :
      follow member [] (parts path) = .raised r ↔ RaisesBehind member [] (parts path) r :=
    follow_eq_raised fun none => absurd none (parts_ne path)
  rw [decode]
  unfold resolve
  rw [split]
  by_cases relative : moduleName.toList.head? = some '.'
  · simpa [relative] using .relative relative
  have absolute : (moduleName.toList.head? == some '.') = false := by simpa using relative
  simp only [absolute]
  cases imported : Host.importModule moduleName with
  | missing reason =>
      simp
      rintro (dot | ⟨-, same, -⟩ | ⟨-, same, -, -⟩)
      · exact relative dot
      · cases imported.symm.trans same
      · cases imported.symm.trans same
  | raised r =>
      simp only [Bool.false_eq_true, if_false, aborts_ofRaised]
      constructor
      · exact .importing relative imported
      · rintro (dot | ⟨-, same, escapes⟩ | ⟨-, same, -, -⟩)
        · exact absurd dot relative
        · cases imported.symm.trans same
          exact escapes
        · cases imported.symm.trans same
  | loaded member =>
      have escapes : EscapesFrom moduleName path ↔
          ∃ r, follow member [] (parts path) = .raised r ∧ r.Escapes := by
        constructor
        · rintro (dot | ⟨-, same, -⟩ | ⟨-, same, raises, escapes⟩)
          · exact absurd dot relative
          · cases imported.symm.trans same
          · cases imported.symm.trans same
            exact ⟨_, (followed member _).mpr raises, escapes⟩
        · rintro ⟨r, raises, escapes⟩
          exact .following relative imported ((followed member r).mp raises) escapes
      rw [escapes, parts]
      cases found : follow member [] ((Text.splitAll '.' path.toList).map String.ofList) <;>
        simp [found, aborts_ofRaised]

theorem aborts_decode {d : Document} : (decode d).Aborts ↔ ∃ name, d = .text name ∧ Escapes name := by
  cases d with
  | text name =>
      cases split : splitName? name with
      | none =>
          have unnamed {moduleName path : String} : ¬Names name moduleName path := fun named => by
            rw [splitName?_eq_some.mpr named] at split
            cases split
          simp [decode, resolve, split, Escapes, unnamed]
      | some pair =>
          obtain ⟨moduleName, path⟩ := pair
          rw [aborts_decode_iff split]
          constructor
          · exact fun escapes => ⟨name, rfl, moduleName, path, splitName?_eq_some.mp split, escapes⟩
          · rintro ⟨_, same, moduleName', path', named, escapes⟩
            cases same
            rw [splitName?_eq_some.mpr named] at split
            cases split
            exact escapes
  | null | bool | int | float | list | map | set | pair | bytes | date | timestamp => simp [decode]

end Predicate

end EnvAudit
