import EnvAudit.CommandLine.Command
import EnvAudit.Proofs.Text.Split

namespace EnvAudit.CommandLine.Arguments
open Text

section
variable {specs : List Spec} {anywhere : Bool} {a : Arguments} {fuel : Nat} {arg : String} {rest : List String}

theorem readFrom_option (dashes : ¬(arg == "--") = true) {head : Char} {tail : List Char}
    (option : arg.toList = '-' :: head :: tail) :
    readFrom specs anywhere a (fuel + 1) (arg :: rest) =
      (readOption specs a arg.toList rest).bind fun (a, rest) => readFrom specs anywhere a fuel rest := by
  rw [readFrom, if_neg dashes, option]
  dsimp only
  cases readOption specs a ('-' :: head :: tail) rest <;> rfl

theorem readFrom_other (dashes : ¬(arg == "--") = true)
    (other : ∀ head tail, arg.toList = '-' :: head :: tail → False) :
    readFrom specs anywhere a (fuel + 1) (arg :: rest) =
      if anywhere then readFrom specs anywhere { a with left := a.left ++ [arg] } fuel rest
      else some { a with left := a.left ++ arg :: rest } := by
  rw [readFrom, if_neg dashes]
  split
  next head tail option => exact absurd option (other head tail)
  next => rfl

end

section
variable {specs : List Spec} (more : List Spec) {a : Arguments} {rest : List String}
  {result : Arguments × List String}

theorem find?_append_of_eq_some {p : Spec → Bool} {spec : Spec} (found : specs.find? p = some spec) :
    (specs ++ more).find? p = some spec := by
  rw [List.find?_append, found, Option.some_or]

theorem readLetters_append {letters : List Char} (read : readLetters specs a rest letters = some result) :
    readLetters (specs ++ more) a rest letters = some result := by
  induction letters generalizing a with
  | nil => exact read
  | cons letter letters ih =>
      rw [readLetters] at read ⊢
      cases found : specs.find? (·.short == some letter) with
      | none =>
          rw [found] at read
          cases read
      | some spec =>
          rw [find?_append_of_eq_some more found]
          rw [found] at read
          dsimp only at read ⊢
          by_cases takes : spec.takesValue = true
          · rwa [if_pos takes] at read ⊢
          · rw [if_neg takes] at read ⊢
            exact ih read

theorem exists_append_of_cutFirst {separator : Char} {s front : List Char} {behind : Option (List Char)}
    (cut : cutFirst separator s = (front, behind)) : ∃ back, s = front ++ back := by
  cases behind with
  | none =>
      obtain ⟨-, rfl⟩ := cutFirst_eq_none_iff.mp cut
      exact ⟨[], (List.append_nil _).symm⟩
  | some rest => exact ⟨_, (cutFirst_eq_some_iff.mp cut).1⟩

theorem readOption_append {arg : List Char} (read : readOption specs a arg rest = some result) :
    readOption (specs ++ more) a arg rest = some result := by
  unfold readOption at read ⊢
  rcases cut : cutFirst '=' arg with ⟨name, attached⟩
  rw [cut] at read
  dsimp only at read ⊢
  cases found : specs.find? fun spec => '-' :: '-' :: spec.long.toList == name with
  | some spec =>
      rw [find?_append_of_eq_some more found]
      rwa [found] at read
  | none =>
      rw [found] at read
      dsimp only at read
      split at read
      next => cases read
      next short =>
        -- The name of a long option has two dashes in front, so no further option is meant.
        have other : (specs ++ more).find? (fun spec => '-' :: '-' :: spec.long.toList == name) = none := by
          rw [List.find?_eq_none]
          intro spec _ same
          obtain ⟨back, rfl⟩ := exists_append_of_cutFirst cut
          rw [beq_iff_eq] at same
          subst same
          exact short _ rfl
        rw [other]
        exact readLetters_append more read

theorem readFrom_append {anywhere : Bool} {fuel : Nat} {args : List String} {b : Arguments}
    (read : readFrom specs anywhere a fuel args = some b) : readFrom (specs ++ more) anywhere a fuel args = some b := by
  fun_induction readFrom specs anywhere a fuel args with
  | case1 => rwa [readFrom]
  | case2 => cases read
  | case3 a fuel arg rest dashes => rwa [readFrom, if_pos dashes]
  | case4 => cases read
  | case5 a fuel arg rest dashes head tail option next others known ih =>
      rw [readFrom_option dashes option, readOption_append more known]
      exact ih read
  | case6 a fuel arg rest dashes anywhere other ih =>
      rw [readFrom_other dashes other, if_pos anywhere]
      exact ih read
  | case7 a fuel arg rest dashes first other =>
      rwa [readFrom_other dashes other, if_neg first]

theorem read_append {anywhere : Bool} {args : List String} (understood : Arguments.read specs anywhere args = some a) :
    Arguments.read (specs ++ more) anywhere args = some a :=
  readFrom_append more understood

end

def IsKnown (specs : List Spec) (a : Arguments) : Prop := ∀ entry ∈ a.given, ∃ spec ∈ specs, spec.long = entry.1

section
variable {specs : List Spec} {a : Arguments} {rest : List String} {result : Arguments × List String}

theorem IsKnown.give {spec : Spec} (known : IsKnown specs a) (member : spec ∈ specs) (value : String) :
    IsKnown specs (a.give spec.long value) :=
  List.forall_mem_cons.mpr ⟨⟨spec, member, rfl⟩, known⟩

theorem isKnown_of_readLetters {letters : List Char} (known : IsKnown specs a)
    (read : readLetters specs a rest letters = some result) : IsKnown specs result.1 := by
  induction letters generalizing a with
  | nil =>
      cases read
      exact known
  | cons letter letters ih =>
      rw [readLetters] at read
      split at read
      next => cases read
      next spec found =>
        have given := known.give (List.mem_of_find?_eq_some found)
        split at read
        next =>
          split at read
          next => cases read
          next => cases read; exact given _
          next => cases read; exact given _
        next => exact ih (given _) read

theorem isKnown_of_readLong {spec : Spec} {attached : Option String} (known : IsKnown specs a) (member : spec ∈ specs)
    (read : readLong spec a attached rest = some result) : IsKnown specs result.1 := by
  unfold readLong at read
  split at read <;> cases read <;> exact known.give member _

theorem isKnown_of_readOption {arg : List Char} (known : IsKnown specs a)
    (read : readOption specs a arg rest = some result) : IsKnown specs result.1 := by
  unfold readOption at read
  dsimp only at read
  split at read
  next spec found => exact isKnown_of_readLong known (List.mem_of_find?_eq_some found) read
  next =>
    split at read
    next => cases read
    next => exact isKnown_of_readLetters known read

theorem isKnown_of_readFrom {anywhere : Bool} {fuel : Nat} {args : List String} {b : Arguments} (known : IsKnown specs a)
    (read : readFrom specs anywhere a fuel args = some b) : IsKnown specs b := by
  fun_induction readFrom specs anywhere a fuel args with
  | case1 => cases read; exact known
  | case2 => cases read
  | case3 => cases read; exact known
  | case4 => cases read
  | case5 a fuel arg rest dashes head tail option next others given ih => exact ih (isKnown_of_readOption known given) read
  | case6 a fuel arg rest dashes anywhere other ih => exact ih known read
  | case7 => cases read; exact known

theorem isKnown_of_read {anywhere : Bool} {args : List String} (understood : Arguments.read specs anywhere args = some a) :
    IsKnown (helpSwitch :: specs) a := by
  have none : IsKnown (helpSwitch :: specs) {} := List.forall_mem_nil _
  exact isKnown_of_readFrom none understood

theorem IsKnown.value?_eq_none {long : String} (known : IsKnown specs a) (unknown : ∀ spec ∈ specs, spec.long ≠ long) :
    a.value? long = none := by
  rw [value?, List.lookup_eq_none_iff]
  intro entry member
  obtain ⟨spec, specified, same⟩ := known entry member
  rw [← same, bne_iff_ne]
  exact (unknown spec specified).symm

end

end EnvAudit.CommandLine.Arguments
