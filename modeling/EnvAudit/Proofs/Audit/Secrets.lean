import EnvAudit.Audit.Security
import EnvAudit.Proofs.Value.SecretPattern

namespace EnvAudit.Security
open Value (IsShaped IsToken IsEncoded)

theorem occursIn_iff {part s : List Char} : occursIn part s = true ↔ part <:+: s := by
  induction s with
  | nil => rw [occursIn, List.isEmpty_iff, List.infix_nil]
  | cons c s ih => rw [occursIn, Bool.or_eq_true, List.isPrefixOf_iff_prefix, ih, List.infix_cons_iff]

def SoundsSecret (key : String) : Prop :=
  ∃ part ∈ secretKeyParts, part.toList <:+: (Text.lower key).toList

theorem keyHas_secretKeyParts_iff {key : String} : keyHas secretKeyParts key = true ↔ SoundsSecret key := by
  simp only [keyHas, List.any_eq_true, occursIn_iff, SoundsSecret]

theorem checkSecret_of_not_soundsSecret {a : Assignment} (plain : ¬SoundsSecret a.key) : checkSecret a = [] := by
  rw [checkSecret, if_neg (keyHas_secretKeyParts_iff.not.mpr plain)]

def IsWeak (value : String) : Prop :=
  value.length < 8 ∨ Text.lower value ∈ Value.weakSecrets

theorem isWeakSecret_iff_isWeak {value : String} : Value.isWeakSecret value = true ↔ IsWeak value :=
  Value.isWeakSecret_iff.trans or_comm

/-- The findings are what the value of the assignment deserves. -/
structure Screens (a : Assignment) (findings : List Finding) : Prop where
  single : findings.length ≤ 1
  mem_iff : ∀ f, f ∈ findings ↔
    (∃ shape, IsShaped a.value.toList shape ∧ f = secretShapeWarning a shape) ∨ IsWeak a.value ∧ f = weakSecretError a
  warned : (∃ f ∈ findings, f.severity = .warning) ↔ IsToken a.value.toList ∨ IsEncoded a.value.toList
  refused : (∃ f ∈ findings, f.severity = .error) ↔ IsWeak a.value

section
variable {a : Assignment}

theorem mem_checkSecret_iff (sounds : SoundsSecret a.key) {f : Finding} :
    f ∈ checkSecret a ↔
      (∃ shape, IsShaped a.value.toList shape ∧ f = secretShapeWarning a shape) ∨
        IsWeak a.value ∧ f = weakSecretError a := by
  rw [checkSecret, if_pos (keyHas_secretKeyParts_iff.mpr sounds), List.mem_append, Option.mem_toList,
    Option.map_eq_some_iff, ← isWeakSecret_iff_isWeak]
  refine or_congr ?_ ?_
  · simp only [Value.secretShape?_eq_some_iff, eq_comm (a := f)]
  · split <;> simp [*]

theorem length_checkSecret : (checkSecret a).length ≤ 1 := by
  rw [checkSecret]
  split
  · split
    · rename_i weak
      rw [Value.secretShape?_of_isWeakSecret weak]
      exact Nat.le_refl 1
    · rw [List.append_nil]
      exact Option.length_toList_le
  · exact Nat.zero_le 1

theorem screens_of_soundsSecret (sounds : SoundsSecret a.key) : Screens a (checkSecret a) where
  single := length_checkSecret
  mem_iff _ := mem_checkSecret_iff sounds
  warned := by
    rw [← Value.exists_isShaped_iff]
    simp only [mem_checkSecret_iff sounds]
    constructor
    · rintro ⟨f, ⟨shape, shaped, rfl⟩ | ⟨-, rfl⟩, severity⟩
      · exact ⟨shape, shaped⟩
      · cases severity
    · rintro ⟨shape, shaped⟩
      exact ⟨_, .inl ⟨shape, shaped, rfl⟩, rfl⟩
  refused := by
    simp only [mem_checkSecret_iff sounds]
    constructor
    · rintro ⟨f, ⟨shape, -, rfl⟩ | ⟨weak, -⟩, severity⟩
      · cases severity
      · exact weak
    · exact fun weak => ⟨_, .inr ⟨weak, rfl⟩, rfl⟩

end

/-- Screening finds each secret that it should, once, and nothing else; the shapes are those of the patterns, the first of
which that matches counts. -/
theorem checkSecret_screens (a : Assignment) :
    (SoundsSecret a.key → Screens a (checkSecret a)) ∧ (¬SoundsSecret a.key → checkSecret a = []) ∧
      Value.secretShape? a.value = Value.matchedShape? a.value :=
  ⟨screens_of_soundsSecret, checkSecret_of_not_soundsSecret, Value.secretShape?_eq_matchedShape? a.value⟩

theorem checkSecret_screens_hexadecimal :
    let a : Assignment := { key := "Api_Key", value := "0123456789abcdefABCDEF0123456789", line := 1 }
    SoundsSecret a.key ∧ Screens a (checkSecret a) ∧ checkSecret a = [secretShapeWarning a "Hexadecimal secret"] := by
  intro a
  have sounds : SoundsSecret a.key := keyHas_secretKeyParts_iff.mp (by decide +kernel)
  exact ⟨sounds, (checkSecret_screens a).1 sounds, by decide +kernel⟩

end EnvAudit.Security
