import EnvAudit.Proofs.Pattern.Backtracking
import EnvAudit.Proofs.Text.Split
import EnvAudit.Proofs.Value.SecretPattern

namespace EnvAudit.Value
open Text Pattern LinePattern SecretPattern
open Pattern.Cursor (Rest between)

/-- What an email address is, in the words of a user. -/
structure IsEmail (s : List Char) : Prop where
  solid : ∀ c ∈ s, isBlank c = false
  single : s.count '@' = 1
  parts : ∃ user domain, s = user ++ '@' :: domain ∧ user ≠ [] ∧
    ∃ host suffix, domain = host ++ '.' :: suffix ∧ host ≠ [] ∧ suffix ≠ []

namespace EmailPattern

def isPartChar (c : Char) : Bool := !isBlank c && c != '@'

def partChar : Node := .set true [.category .space false, .char '@'.toNat]

def email : Pattern.Plain where
  text := r"^[^\s@]+@[^\s@]+\.[^\s@]+\Z"
  flags := .empty
  nodes := [.place .lineStart, atLeast 1 partChar, character '@', atLeast 1 partChar, character '.', atLeast 1 partChar,
    .place .textEnd]
  parse_text := by decide +kernel

theorem run_partChar (cursor : Cursor) (next : Rest) :
    partChar.run .empty cursor next = cursor.advance isPartChar next := by
  rw [partChar, Node.run]
  congr 1
  funext c
  have shape : isPartChar c = !(isBlank c || c.toNat == '@'.toNat) := by
    rw [toNat_beq, Bool.not_or]
    rfl
  simp [setHolds, SetItem.holds, Category.holds, Flags.empty, shape]

def IsPart (s : List Char) : Prop := s ≠ [] ∧ ∀ c ∈ s, isPartChar c = true

section
variable {done text : List Char} {captures : List (Nat × List Char)} {rest : Rest}

theorem isSome_run_part_iff :
    ((atLeast 1 partChar).run .empty (between done text captures) rest).isSome = true ↔
      ∃ part unread, text = part ++ unread ∧ IsPart part ∧
        (rest (between (done ++ part) unread captures)).isSome = true := by
  rw [atLeast, isSome_run_atLeast_iff run_partChar]
  simp only [SucceedsBehind, IsPart, Nat.one_le_iff_ne_zero, ne_eq, List.length_eq_zero_iff, and_assoc]

theorem isSome_run_character_iff {c : Char} :
    ((character c).run .empty (between done text captures) rest).isSome = true ↔
      ∃ unread, text = c :: unread ∧ (rest (between (done ++ [c]) unread captures)).isSome = true := by
  cases text with
  | nil => simp [run_character]
  | cons d text =>
      by_cases same : d = c
      · subst same
        simp [run_character_self]
      · simp [run_character_of_ne same, same]

end

theorem isSome_matchStart?_iff {s : List Char} :
    (email.matchStart? s).isSome = true ↔
      ∃ user host suffix, s = user ++ '@' :: (host ++ '.' :: suffix) ∧ IsPart user ∧ IsPart host ∧ IsPart suffix := by
  have atEnd (done unread : List Char) : (whole .empty (between done unread [])).isSome = true ↔ unread = [] := by
    rw [whole_eq]
    split <;> simp [*]
  change (runSequence .empty (.place .lineStart :: atLeast 1 partChar :: character '@' :: atLeast 1 partChar ::
    character '.' :: atLeast 1 partChar :: [.place .textEnd]) (between [] s []) some).isSome = true ↔ _
  rw [runSequence_cons, run_lineStart]
  simp only [runSequence_cons _ (atLeast 1 partChar), runSequence_cons _ (character _), isSome_run_part_iff,
    isSome_run_character_iff]
  constructor
  · rintro ⟨user, _, rfl, isUser, _, rfl, host, _, rfl, isHost, _, rfl, suffix, unread, rfl, isSuffix, finished⟩
    obtain rfl := (atEnd _ _).mp finished
    exact ⟨user, host, suffix, by rw [List.append_nil], isUser, isHost, isSuffix⟩
  · rintro ⟨user, host, suffix, rfl, isUser, isHost, isSuffix⟩
    refine ⟨user, _, rfl, isUser, _, rfl, host, _, rfl, isHost, _, rfl, suffix, [], ?_, isSuffix, (atEnd _ _).mpr rfl⟩
    rw [List.append_nil]

end EmailPattern

open EmailPattern (IsPart isPartChar)

theorem isPartChar_iff {c : Char} : isPartChar c = true ↔ isBlank c = false ∧ c ≠ '@' := by
  simp [isPartChar]

theorem isEmail_iff_parts {s : List Char} :
    IsEmail s ↔ ∃ user host suffix, s = user ++ '@' :: (host ++ '.' :: suffix) ∧ IsPart user ∧ IsPart host ∧
      IsPart suffix := by
  constructor
  · rintro ⟨solid, single, user, _, rfl, someUser, host, suffix, rfl, someHost, someSuffix⟩
    -- The one sign is the one between user and host, so there is none in the parts.
    have none : (user ++ (host ++ '.' :: suffix)).count '@' = 0 := by
      rw [List.count_append] at single ⊢
      rw [List.count_cons_self] at single
      omega
    have passes : ∀ c ∈ user ++ (host ++ '.' :: suffix), isPartChar c = true := fun c member => by
      refine isPartChar_iff.mpr ⟨solid c ?_, fun same => List.count_eq_zero.mp none (same ▸ member)⟩
      rw [List.mem_append] at member ⊢
      exact member.imp_right (List.mem_cons_of_mem _)
    simp only [List.forall_mem_append, List.forall_mem_cons] at passes
    obtain ⟨inUser, inHost, -, inSuffix⟩ := passes
    exact ⟨user, host, suffix, rfl, ⟨someUser, inUser⟩, ⟨someHost, inHost⟩, someSuffix, inSuffix⟩
  · rintro ⟨user, host, suffix, rfl, ⟨someUser, inUser⟩, ⟨someHost, inHost⟩, someSuffix, inSuffix⟩
    have noSign {part : List Char} (inPart : ∀ c ∈ part, isPartChar c = true) : part.count '@' = 0 :=
      List.count_eq_zero.mpr fun member => (isPartChar_iff.mp (inPart _ member)).2 rfl
    constructor
    case solid =>
      simp only [List.forall_mem_append, List.forall_mem_cons]
      exact ⟨fun c member => (isPartChar_iff.mp (inUser c member)).1, rfl,
        fun c member => (isPartChar_iff.mp (inHost c member)).1, rfl,
        fun c member => (isPartChar_iff.mp (inSuffix c member)).1⟩
    case single =>
      simp [List.count_append, noSign inUser, noSign inHost, noSign inSuffix]
    case parts => exact ⟨user, _, rfl, someUser, host, suffix, rfl, someHost, someSuffix⟩

theorem isDotted_iff {domain : List Char} :
    isDotted domain = true ↔ ∃ host suffix, domain = host ++ '.' :: suffix ∧ host ≠ [] ∧ suffix ≠ [] := by
  rw [isDotted, List.contains_iff_mem]
  constructor
  · intro member
    obtain ⟨front, back, inner⟩ := List.append_of_mem member
    cases domain with
    | nil => cases member
    | cons c rest =>
        rw [List.drop_one, List.tail_cons] at inner
        have some : rest ≠ [] := by
          rintro rfl
          exact List.append_ne_nil_of_right_ne_nil front (List.cons_ne_nil _ back) inner.symm
        refine ⟨c :: front, back ++ [rest.getLast some], ?_, List.cons_ne_nil c front, by simp⟩
        calc
          c :: rest = c :: (rest.dropLast ++ [rest.getLast some]) := by rw [List.dropLast_concat_getLast]
          _ = c :: front ++ '.' :: (back ++ [rest.getLast some]) := by simp [inner]
  · rintro ⟨host, suffix, rfl, someHost, someSuffix⟩
    obtain ⟨c, host, rfl⟩ := List.exists_cons_of_ne_nil someHost
    obtain ⟨front, last, rfl⟩ := (List.eq_nil_or_concat' suffix).resolve_left someSuffix
    have shape : ((c :: host ++ '.' :: (front ++ [last])).drop 1).dropLast = host ++ '.' :: front := by
      rw [List.cons_append, List.drop_one, List.tail_cons, ← List.cons_append, ← List.append_assoc, List.dropLast_concat]
    rw [shape]
    exact List.mem_append_right _ List.mem_cons_self

theorem isEmail_iff_isEmail {value : String} : isEmail value = true ↔ IsEmail value.toList := by
  constructor
  · intro accepted
    unfold isEmail at accepted
    dsimp only at accepted
    split at accepted
    next user domain cut =>
      obtain ⟨split, inFront⟩ := cutFirst_eq_some_iff.mp cut
      simp only [Bool.and_eq_true, Bool.not_eq_true', List.any_eq_false, List.isEmpty_eq_false_iff,
        List.contains_eq_mem, decide_eq_false_iff_not] at accepted
      obtain ⟨⟨⟨solid, someUser⟩, behind⟩, dotted⟩ := accepted
      constructor
      case solid => exact fun c member => by simpa using solid c member
      case single =>
        rw [split, List.count_append, List.count_cons_self, List.count_eq_zero.mpr inFront, List.count_eq_zero.mpr behind]
      case parts => exact ⟨user, domain, split, someUser, isDotted_iff.mp dotted⟩
    next => cases accepted
  · rintro ⟨solid, single, user, domain, split, someUser, dotted⟩
    rw [split, List.count_append, List.count_cons_self] at single
    have inFront : '@' ∉ user := List.count_eq_zero.mp (by omega)
    have behind : '@' ∉ domain := List.count_eq_zero.mp (by omega)
    have unblank : value.toList.any isBlank = false := List.any_eq_false.mpr fun c member => by simp [solid c member]
    rw [isEmail, cutFirst_eq_some_iff.mpr ⟨split, inFront⟩]
    simp [unblank, someUser, behind, isDotted_iff.mpr dotted]

/-- A value is an email address exactly if it has the shape of one, and exactly if the pattern for one matches. -/
theorem isEmail_iff (value : String) :
    (isEmail value = true ↔ IsEmail value.toList) ∧
      (isEmail value = true ↔ (EmailPattern.email.matchStart? value.toList).isSome = true) :=
  ⟨isEmail_iff_isEmail, by rw [isEmail_iff_isEmail, isEmail_iff_parts, EmailPattern.isSome_matchStart?_iff]⟩

example : isEmail "a@.b.c" = true ∧ isEmail "a@b.c\n" = false := by decide

end EnvAudit.Value
