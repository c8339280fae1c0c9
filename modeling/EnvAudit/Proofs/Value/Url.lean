import EnvAudit.Proofs.Text.Case
import EnvAudit.Proofs.Text.Split
import EnvAudit.Proofs.Text.Trim
import EnvAudit.Value.Url

namespace EnvAudit

namespace Url
open Text

/-! ## Parts -/

@[ext]
structure Parts where
  scheme : List Char
  authority : List Char
  /-- What stands before the last `@` of the authority, if there is one. -/
  user : Option (List Char)
  host : List Char
  port : List Char

structure IsScheme (s : List Char) : Prop where
  first : ∃ c rest, s = c :: rest ∧ c.isAlpha = true
  chars : ∀ c ∈ s, c.isAlphanum = true ∨ c = '+' ∨ c = '.' ∨ c = '-'

def endsAuthority : List Char := ['/', '?', '#']

inductive HasAuthority (s : List Char) : List Char → Prop
  | none : ¬['/', '/'] <+: s → HasAuthority s []
  | some (authority rest : List Char) : s = '/' :: '/' :: (authority ++ rest) → (∀ c ∈ authority, c ∉ endsAuthority) →
      (∀ c ∈ rest.head?, c ∈ endsAuthority) → HasAuthority s authority

inductive HasUser (authority : List Char) : Option (List Char) → List Char → Prop
  | none : '@' ∉ authority → HasUser authority none authority
  | some (user rest : List Char) : authority = user ++ '@' :: rest → '@' ∉ rest → HasUser authority (some user) rest

inductive HasHost (s : List Char) : List Char → List Char → Prop
  | whole : ':' ∉ s → HasHost s s []
  | ported (host port : List Char) : s = host ++ ':' :: port → ':' ∉ host → HasHost s host port

/-- The parts are those of the text. -/
structure Splits (s : List Char) (p : Parts) : Prop where
  solid : ∀ c ∈ s, isBlank c = false
  isScheme : IsScheme p.scheme
  authority : ∃ rest, s = p.scheme ++ ':' :: rest ∧ HasAuthority rest p.authority
  host : ∃ rest, HasUser p.authority p.user rest ∧ HasHost rest p.host p.port

namespace Parts

structure IsSound (p : Parts) : Prop where
  port : p.port = [] ∨ (∀ c ∈ p.port, c.isDigit = true) ∧ Numeral.ofDigits p.port ≤ 65535
  host : String.ofList (p.scheme.map Char.toLower) ∈ hostSchemes → p.host ≠ []

def url (p : Parts) (behind : List Char) (port : Option Nat) : Url :=
  let (rest, fragment) := cutFirst '#' behind
  let (path, query) := cutFirst '?' rest
  { scheme := String.ofList (p.scheme.map Char.toLower)
    authority := String.ofList p.authority
    path := String.ofList path
    query := String.ofList (query.getD [])
    fragment := String.ofList (fragment.getD [])
    user := (p.user.map fun user => (cutFirst ':' user).1).map String.ofList
    password := (p.user.bind fun user => (cutFirst ':' user).2).map String.ofList
    host := if p.host.isEmpty then none else some (String.ofList (lowerHost p.host))
    port }

def HoldsCredentials (p : Parts) : Prop := ∃ user, p.user = some user ∧ user ≠ [] ∧ user ≠ [':']

end Parts

/-! ## Splitting -/

section
variable {s rest authority user host port : List Char}

theorem isSchemeChar_iff {c : Char} :
    isSchemeChar c = true ↔ c.isAlphanum = true ∨ c = '+' ∨ c = '.' ∨ c = '-' := by
  simp only [isSchemeChar, Bool.or_eq_true, beq_iff_eq, or_assoc]

theorem splitScheme?_eq_some_iff {scheme : List Char} :
    splitScheme? s = some (scheme, rest) ↔ IsScheme scheme ∧ s = scheme ++ ':' :: rest := by
  constructor
  · intro split
    unfold splitScheme? at split
    split at split
    · rename_i c tail
      split at split
      · rename_i letter
        split at split
        · rename_i behind found
          cases split
          have whole := List.takeWhile_append_dropWhile (p := isSchemeChar) (l := tail)
          rw [found] at whole
          refine ⟨⟨⟨c, _, rfl, letter⟩, fun d member => ?_⟩, ?_⟩
          · rcases List.mem_cons.mp member with rfl | member
            · exact .inl (by rw [Char.isAlphanum, letter, Bool.true_or])
            · exact isSchemeChar_iff.mp (List.mem_takeWhile_imp member)
          · rw [List.cons_append, whole]
        · cases split
      · cases split
    · cases split
  · rintro ⟨⟨⟨c, tail, rfl, letter⟩, chars⟩, rfl⟩
    have passes : ∀ d ∈ tail, isSchemeChar d = true := fun d member =>
      isSchemeChar_iff.mpr (chars d (List.mem_cons_of_mem c member))
    have stops : isSchemeChar ':' = false := rfl
    rw [List.cons_append, splitScheme?, if_pos letter, List.dropWhile_append_of_pos passes,
      List.takeWhile_append_of_pos passes]
    simp [stops]

theorem isInside_iff {c : Char} : (c != '/' && c != '?' && c != '#') = true ↔ c ∉ endsAuthority := by
  simp [endsAuthority, and_assoc]

theorem splitAuthority_eq_iff : (splitAuthority s).1 = authority ↔ HasAuthority s authority := by
  constructor
  · rintro rfl
    unfold splitAuthority
    split
    · rename_i rest
      refine .some _ (rest.dropWhile fun c => c != '/' && c != '?' && c != '#') ?_ (fun c member => ?_) fun c head => ?_
      · exact congrArg _ (congrArg _ List.takeWhile_append_dropWhile.symm)
      · exact isInside_iff.mp (List.mem_takeWhile_imp (p := fun c => c != '/' && c != '?' && c != '#') member)
      · by_contra inside
        rw [← isInside_iff, stops_dropWhile c head] at inside
        cases inside
    · rename_i other
      exact .none fun ⟨rest, whole⟩ => other rest whole.symm
  · intro h
    unfold splitAuthority
    split
    · rename_i rest
      cases h with
      | none bare => exact absurd ⟨rest, rfl⟩ bare
      | some _ rest same inside ends =>
          simp only [List.cons.injEq, true_and] at same
          rw [same]
          refine takeWhile_append_of_stop (fun c member => isInside_iff.mpr (inside c member)) fun c head => ?_
          rw [← Bool.not_eq_true, isInside_iff, not_not]
          exact ends c head
    · rename_i other
      cases h with
      | none bare => rfl
      | some _ rest same inside ends => exact absurd same (other _)

theorem cutLast_eq_iff {user : Option (List Char)} :
    cutLast '@' authority = (user, rest) ↔ HasUser authority user rest := by
  cases user with
  | none =>
      rw [cutLast_eq_none_iff]
      constructor
      · rintro ⟨bare, rfl⟩
        exact .none bare
      · rintro ⟨bare⟩
        exact ⟨bare, rfl⟩
  | some user =>
      rw [cutLast_eq_some_iff]
      constructor
      · exact fun ⟨same, last⟩ => .some user rest same last
      · rintro ⟨⟩
        exact ⟨‹_›, ‹_›⟩

theorem cutFirst_eq_iff : (cutFirst ':' s).1 = host ∧ (cutFirst ':' s).2.getD [] = port ↔ HasHost s host port := by
  constructor
  · rintro ⟨rfl, rfl⟩
    rcases cut : cutFirst ':' s with ⟨host, _ | port⟩
    · obtain ⟨bare, rfl⟩ := cutFirst_eq_none_iff.mp cut
      exact .whole bare
    · obtain ⟨same, first⟩ := cutFirst_eq_some_iff.mp cut
      exact .ported host port same first
  · rintro (bare | ⟨_, _, same, first⟩)
    · rw [cutFirst_of_not_mem bare]
      exact ⟨rfl, rfl⟩
    · rw [cutFirst_eq_some_iff.mpr ⟨same, first⟩]
      exact ⟨rfl, rfl⟩

end

theorem exists_splits {s scheme rest : List Char} (solid : ∀ c ∈ s, isBlank c = false)
    (split : splitScheme? s = some (scheme, rest)) : ∃ p, Splits s p := by
  obtain ⟨isScheme, whole⟩ := splitScheme?_eq_some_iff.mp split
  let authority := (splitAuthority rest).1
  let behind := (cutLast '@' authority).2
  refine ⟨⟨scheme, authority, (cutLast '@' authority).1, (cutFirst ':' behind).1, (cutFirst ':' behind).2.getD []⟩, ?_⟩
  exact
    { solid
      isScheme
      authority := ⟨rest, whole, splitAuthority_eq_iff.mp rfl⟩
      host := ⟨behind, cutLast_eq_iff.mp rfl, cutFirst_eq_iff.mp ⟨rfl, rfl⟩⟩ }

theorem Splits.unique {s : List Char} {p q : Parts} (hp : Splits s p) (hq : Splits s q) : p = q := by
  obtain ⟨rest, whole, authority⟩ := hp.authority
  obtain ⟨rest', whole', authority'⟩ := hq.authority
  obtain ⟨behind, user, host⟩ := hp.host
  obtain ⟨behind', user', host'⟩ := hq.host
  -- Each part is what a function finds in the part before it.
  have sameScheme : p.scheme = q.scheme ∧ rest = rest' := by
    have split := splitScheme?_eq_some_iff.mpr ⟨hp.isScheme, whole⟩
    rw [splitScheme?_eq_some_iff.mpr ⟨hq.isScheme, whole'⟩] at split
    simpa [eq_comm] using split
  obtain ⟨scheme, rfl⟩ := sameScheme
  have sameAuthority : p.authority = q.authority := by
    rw [← splitAuthority_eq_iff.mpr authority, splitAuthority_eq_iff.mpr authority']
  have sameUser : (p.user, behind) = (q.user, behind') := by
    rw [← cutLast_eq_iff.mpr user, ← cutLast_eq_iff.mpr user', sameAuthority]
  obtain ⟨user, rfl⟩ := Prod.mk.inj sameUser
  obtain ⟨hostEq, portEq⟩ := cutFirst_eq_iff.mpr host
  obtain ⟨hostEq', portEq'⟩ := cutFirst_eq_iff.mpr host'
  exact Parts.ext scheme sameAuthority user (hostEq.symm.trans hostEq') (portEq.symm.trans portEq')

/-! ## Authorities without brackets -/

section
variable {authority rest : List Char} {p : Parts}

theorem HasAuthority.subset (h : HasAuthority rest authority) : authority ⊆ rest := by
  cases h with
  | none _ => exact List.nil_subset rest
  | some _ behind same _ _ =>
      rw [same]
      exact fun c member => by simp [member]

theorem HasUser.subset {user : Option (List Char)} (h : HasUser authority user rest) : rest ⊆ authority := by
  cases h with
  | none _ => exact fun _ => id
  | some user _ same _ =>
      rw [same]
      exact fun c member => by simp [member]

theorem Splits.authority_subset {s : List Char} (h : Splits s p) : p.authority ⊆ s := by
  obtain ⟨rest, rfl, has⟩ := h.authority
  exact fun c member => by simp [has.subset member]

theorem hiddenDelimiters_beyond : ∀ n ∈ hiddenDelimiters, 0x80 ≤ n := by decide

theorem isAuthority_of_ascii (ascii : ∀ c ∈ authority, c.toNat < 0x80) (plain : '[' ∉ authority ∧ ']' ∉ authority) :
    isAuthority authority = true := by
  have shown : (authority.any fun c => hiddenDelimiters.contains c.toNat) = false := by
    rw [List.any_eq_false]
    intro c member hidden
    have := hiddenDelimiters_beyond _ (List.contains_iff_mem.mp hidden)
    have := ascii c member
    omega
  have bare (c : Char) (clean : c ∉ authority) : authority.contains c = false := by
    rw [← Bool.not_eq_true, List.contains_iff_mem]
    exact clean
  rw [isAuthority, shown, bare _ plain.1, bare _ plain.2]
  rfl

theorem hostAndPort_of_plain {user : Option (List Char)} {host port : List Char} (plain : '[' ∉ rest)
    (hasUser : HasUser authority user rest) (hasHost : HasHost rest host port) :
    hostAndPort authority = (host, if port = [] then none else some port) := by
  obtain ⟨rfl, rfl⟩ := cutFirst_eq_iff.mpr hasHost
  rw [hostAndPort, cutLast_eq_iff.mpr hasUser, cutFirst_of_not_mem plain]
  rcases cutFirst ':' rest with ⟨host, _ | _ | ⟨c, port⟩⟩ <;> rfl

theorem credentials_of_hasUser {user : Option (List Char)} (hasUser : HasUser authority user rest) :
    credentials authority =
      (user.map fun user => (cutFirst ':' user).1, user.bind fun user => (cutFirst ':' user).2) := by
  rw [credentials, cutLast_eq_iff.mpr hasUser]
  cases user <;> rfl

theorem holds_cutFirst_iff {info : List Char} :
    (!(cutFirst ':' info).1.isEmpty || (cutFirst ':' info).2.any (!·.isEmpty)) = true ↔ info ≠ [] ∧ info ≠ [':'] := by
  rcases cut : cutFirst ':' info with ⟨user, _ | password⟩
  · obtain ⟨bare, rfl⟩ := cutFirst_eq_none_iff.mp cut
    have other : user ≠ [':'] := fun same => bare (by simp [same])
    simp [other]
  · obtain ⟨rfl, -⟩ := cutFirst_eq_some_iff.mp cut
    cases user <;> simp

end

/-! ## Reading -/

theorem portOf?_isSome_iff {port : List Char} (nonempty : port ≠ []) :
    (portOf? port).isSome ↔
      ((∀ c ∈ port, c.isDigit = true) ∧ Numeral.ofDigits port ≤ 65535) ∧ port.length ≤ Numeral.maxDigits := by
  have shape : (!port.isEmpty && port.all Char.isDigit && port.length ≤ Numeral.maxDigits &&
      Numeral.ofDigits port ≤ 65535) = true ↔
      ((∀ c ∈ port, c.isDigit = true) ∧ Numeral.ofDigits port ≤ 65535) ∧ port.length ≤ Numeral.maxDigits := by
    simp [nonempty, and_assoc, and_comm (a := port.length ≤ Numeral.maxDigits)]
  rw [portOf?, ← shape]
  split <;> simp [*]

section
variable {value : String} {p : Parts} (ascii : ∀ c ∈ value.toList, c.toNat < 0x80)
  (plain : '[' ∉ value.toList ∧ ']' ∉ value.toList)

theorem exists_splits_of_parse? (parsed : (parse? value).isSome) : ∃ p, Splits (trim value.toList) p := by
  rw [parse?] at parsed
  split at parsed
  · cases parsed
  · rename_i solid
    simp only [List.any_eq_true, not_exists, not_and, Bool.not_eq_true] at solid
    obtain ⟨url, found⟩ := Option.isSome_iff_exists.mp parsed
    obtain ⟨⟨scheme, rest⟩, split, -⟩ := Option.bind_eq_some_iff.mp found
    exact exists_splits solid split

include ascii plain in
theorem parse?_of_splits (splits : Splits (trim value.toList) p) :
    ∃ behind, parse? value = (if p.port = [] then some none else (portOf? p.port).map some).bind fun port =>
      if hostSchemes.contains (String.ofList (p.scheme.map Char.toLower)) && p.host.isEmpty then none
      else some (p.url behind port) := by
  obtain ⟨rest, whole, hasAuthority⟩ := splits.authority
  obtain ⟨hostport, hasUser, hasHost⟩ := splits.host
  have inside : p.authority ⊆ value.toList := List.Subset.trans splits.authority_subset (trim_subset _)
  have fine : isAuthority p.authority = true :=
    isAuthority_of_ascii (fun c member => ascii c (inside member)) ⟨plain.1 ∘ (inside ·), plain.2 ∘ (inside ·)⟩
  have solid : (trim value.toList).any isBlank = false := by
    simpa using splits.solid
  have split := splitScheme?_eq_some_iff.mpr ⟨splits.isScheme, whole⟩
  have port := hostAndPort_of_plain (fun member => plain.1 (inside (hasUser.subset member))) hasUser hasHost
  refine ⟨(splitAuthority rest).2, ?_⟩
  -- Each part is what the reader finds, as it stands where the reader looks for it.
  unfold parse?
  simp only [solid, split, Bool.false_eq_true, ↓reduceIte, Option.bind_eq_bind, Option.bind_some,
    splitAuthority_eq_iff.mpr hasAuthority, port, fine, credentials_of_hasUser hasUser, Bool.not_true, Bool.false_or]
  by_cases bare : p.port = []
  · rw [if_pos bare, if_pos bare]
    rfl
  · rw [if_neg bare, if_neg bare]
    rfl

theorem isSound_iff :
    p.IsSound ∧ p.port.length ≤ Numeral.maxDigits ↔
      (p.port = [] ∨ (portOf? p.port).isSome) ∧
        (String.ofList (p.scheme.map Char.toLower) ∈ hostSchemes → p.host ≠ []) := by
  by_cases bare : p.port = []
  · exact ⟨fun h => ⟨.inl bare, h.1.host⟩, fun h => ⟨⟨.inl bare, h.2⟩, by simp [bare]⟩⟩
  · rw [portOf?_isSome_iff bare]
    constructor
    · rintro ⟨sound, short⟩
      exact ⟨.inr ⟨sound.port.resolve_left bare, short⟩, sound.host⟩
    · rintro ⟨port, host⟩
      have port := port.resolve_left bare
      exact ⟨⟨.inr port.1, host⟩, port.2⟩

include ascii plain in
theorem isSome_parse?_of_splits (splits : Splits (trim value.toList) p) :
    (parse? value).isSome ↔ p.IsSound ∧ p.port.length ≤ Numeral.maxDigits := by
  obtain ⟨behind, parsed⟩ := parse?_of_splits ascii plain splits
  have served : (hostSchemes.contains (String.ofList (p.scheme.map Char.toLower)) && p.host.isEmpty) = true ↔
      ¬(String.ofList (p.scheme.map Char.toLower) ∈ hostSchemes → p.host ≠ []) := by
    rw [Bool.and_eq_true, List.contains_iff_mem, List.isEmpty_iff, Classical.not_imp, not_not]
  rw [parsed, isSound_iff]
  simp only [served]
  by_cases bare : p.port = []
  · simp [bare]
  · cases portOf? p.port <;> simp [bare]

theorem holdsCredentials_url_iff {behind : List Char} {port : Option Nat} :
    ((p.url behind port).user.any (!·.isEmpty) || (p.url behind port).password.any (!·.isEmpty)) = true ↔
      p.HoldsCredentials := by
  have emptied (s : List Char) : (String.ofList s).isEmpty = s.isEmpty := by
    rw [Bool.eq_iff_iff, String.isEmpty_iff, List.isEmpty_iff, ← String.toList_eq_nil_iff, String.toList_ofList]
  unfold Parts.url Parts.HoldsCredentials
  cases p.user with
  | none => simp
  | some info =>
      simp only [Option.map_some, Option.any_some, Option.bind_some, Option.any_map, emptied, holds_cutFirst_iff]
      simp

include ascii plain in
theorem holdsCredentials_of_splits (splits : Splits (trim value.toList) p) :
    Value.holdsCredentials value = true ↔ (parse? value).isSome ∧ p.HoldsCredentials := by
  obtain ⟨behind, parsed⟩ := parse?_of_splits ascii plain splits
  rw [Value.holdsCredentials]
  cases found : parse? value with
  | none => simp
  | some url =>
      rw [found] at parsed
      obtain ⟨port, -, made⟩ := Option.bind_eq_some_iff.mp parsed.symm
      split at made
      · cases made
      · cases made
        simpa using holdsCredentials_url_iff

end

end Url

namespace Value
open Text Url

/-- A text is a URL, and holds credentials, by its parts, which are determined by the text. -/
theorem isUrl_and_holdsCredentials {value : String} (ascii : ∀ c ∈ value.toList, c.toNat < 0x80)
    (plain : '[' ∉ value.toList ∧ ']' ∉ value.toList)
    (short : ∀ p, Splits (trim value.toList) p → p.port.length ≤ 4300) :
    (isUrl value = true ↔ ∃ p, Splits (trim value.toList) p ∧ p.IsSound) ∧
      (holdsCredentials value = true ↔ ∃ p, Splits (trim value.toList) p ∧ p.IsSound ∧ p.HoldsCredentials) ∧
      ∀ p q, Splits (trim value.toList) p → Splits (trim value.toList) q → p = q := by
  have sound {p : Parts} (splits : Splits (trim value.toList) p) : (parse? value).isSome ↔ p.IsSound :=
    (isSome_parse?_of_splits ascii plain splits).trans (and_iff_left (short p splits))
  refine ⟨?_, ?_, fun p q => Splits.unique⟩
  · rw [isUrl]
    constructor
    · intro parsed
      obtain ⟨p, splits⟩ := exists_splits_of_parse? parsed
      exact ⟨p, splits, (sound splits).mp parsed⟩
    · exact fun ⟨p, splits, isSound⟩ => (sound splits).mpr isSound
  · constructor
    · intro holds
      have parsed : (parse? value).isSome := by
        by_contra none
        rw [Bool.not_eq_true, Option.isSome_eq_false_iff, Option.isNone_iff_eq_none] at none
        simp [holdsCredentials, none] at holds
      obtain ⟨p, splits⟩ := exists_splits_of_parse? parsed
      obtain ⟨-, credentials⟩ := (holdsCredentials_of_splits ascii plain splits).mp holds
      exact ⟨p, splits, (sound splits).mp parsed, credentials⟩
    · rintro ⟨p, splits, isSound, credentials⟩
      exact (holdsCredentials_of_splits ascii plain splits).mpr ⟨(sound splits).mpr isSound, credentials⟩

theorem holdsCredentials_nested :
    let value := " HTTPS://user:p@ss@example.com:8443/a?b@c:d "
    let p : Parts :=
      { scheme := "HTTPS".toList
        authority := "user:p@ss@example.com:8443".toList
        user := some "user:p@ss".toList
        host := "example.com".toList
        port := "8443".toList }
    (∀ c ∈ value.toList, c.toNat < 0x80) ∧ ('[' ∉ value.toList ∧ ']' ∉ value.toList) ∧
      (∀ q, Splits (trim value.toList) q → q.port.length ≤ 4300) ∧ Splits (trim value.toList) p ∧
      isUrl value = true ∧ holdsCredentials value = true := by
  intro value p
  have ascii : ∀ c ∈ value.toList, c.toNat < 0x80 := forall_mem_of_all (by decide +kernel)
  have plain : '[' ∉ value.toList ∧ ']' ∉ value.toList := by decide +kernel
  have splits : Splits (trim value.toList) p :=
    { solid := forall_mem_of_all (by decide +kernel)
      isScheme := ⟨⟨'H', "TTPS".toList, by decide +kernel, by decide⟩, forall_mem_of_all (by decide +kernel)⟩
      authority := ⟨"//user:p@ss@example.com:8443/a?b@c:d".toList, by decide +kernel,
        .some _ "/a?b@c:d".toList (by decide +kernel) (forall_mem_of_all (by decide +kernel)) (by rintro _ ⟨⟩; decide)⟩
      host := ⟨"example.com:8443".toList, .some _ _ (by decide +kernel) (by decide +kernel),
        .ported _ _ (by decide +kernel) (by decide +kernel)⟩ }
  have short : ∀ q, Splits (trim value.toList) q → q.port.length ≤ 4300 := fun q other => by
    rw [other.unique splits]
    decide +kernel
  have sound : p.IsSound :=
    ⟨.inr ⟨forall_mem_of_all (by decide +kernel), by decide +kernel⟩, fun _ => by decide +kernel⟩
  have credentials : p.HoldsCredentials := ⟨_, rfl, by decide +kernel, by decide +kernel⟩
  obtain ⟨url, holds, -⟩ := isUrl_and_holdsCredentials ascii plain short
  exact ⟨ascii, plain, short, splits, url.mpr ⟨p, splits, sound⟩, holds.mpr ⟨p, splits, sound, credentials⟩⟩

end Value

end EnvAudit
