import EnvAudit.Proofs.EnvFile.Value

/-!
# Between a value and its comment

An unquoted value is separated from its comment by blanks, a hash sign, and blanks again: a gap. How many blanks
there are is not kept, and it does not matter: whether a quote at the start of the value is closed by one in the
comment is the same for any gap, since no gap holds a quote or a backslash and none is empty. Main statement:
`read_gap`.
-/

namespace EnvAudit.RawValue
open Text

/-! ## Texts between double quotes -/

namespace IsQuotedBody
variable {s t : List Char}

theorem append (hs : IsQuotedBody s) (ht : IsQuotedBody t) : IsQuotedBody (s ++ t) := by
  induction hs with
  | nil => exact ht
  | plain quote back _ ih => exact .plain quote back ih
  | escape _ ih => exact .escape ih

theorem of_forall (clean : ∀ c ∈ s, c ≠ '"' ∧ c ≠ '\\') : IsQuotedBody s := by
  induction s with
  | nil => exact .nil
  | cons c s ih =>
      rw [List.forall_mem_cons] at clean
      exact .plain clean.1.1 clean.1.2 (ih clean.2)

/-- A text may be split anywhere; the character behind the split is escaped if the split is behind a backslash
that no other one escapes. -/
theorem split (h : IsQuotedBody (s ++ t)) :
    (IsQuotedBody s ∧ IsQuotedBody t) ∨
      ∃ s' c t', s = s' ++ ['\\'] ∧ t = c :: t' ∧ IsQuotedBody s' ∧ IsQuotedBody t' := by
  -- The halves are found along the body, and only an escape can be torn apart.
  generalize whole : s ++ t = u at h
  induction h generalizing s with
  | nil =>
      obtain ⟨rfl, rfl⟩ := List.append_eq_nil_iff.mp whole
      exact Or.inl ⟨.nil, .nil⟩
  | @plain c u quote back rest ih =>
      cases s with
      | nil =>
          obtain rfl : t = c :: u := whole
          exact Or.inl ⟨.nil, .plain quote back rest⟩
      | cons d s =>
          rw [List.cons_append, List.cons.injEq] at whole
          obtain ⟨rfl, whole⟩ := whole
          rcases ih whole with ⟨hs, ht⟩ | ⟨s', e, t', rfl, rfl, hs, ht⟩
          · exact Or.inl ⟨.plain quote back hs, ht⟩
          · exact Or.inr ⟨d :: s', e, t', rfl, rfl, .plain quote back hs, ht⟩
  | @escape c u rest ih =>
      match s with
      | [] =>
          obtain rfl : t = '\\' :: c :: u := whole
          exact Or.inl ⟨.nil, .escape rest⟩
      | [d] =>
          obtain ⟨rfl, rfl⟩ := List.cons.inj whole
          exact Or.inr ⟨[], c, u, rfl, rfl, .nil, rest⟩
      | d :: e :: s =>
          rw [List.cons_append, List.cons_append, List.cons.injEq, List.cons.injEq] at whole
          obtain ⟨rfl, rfl, whole⟩ := whole
          rcases ih whole with ⟨hs, ht⟩ | ⟨s', f, t', rfl, rfl, hs, ht⟩
          · exact Or.inl ⟨.escape hs, ht⟩
          · exact Or.inr ⟨'\\' :: e :: s', f, t', rfl, rfl, .escape hs, ht⟩

theorem of_append (clean : ∀ c ∈ s, c ≠ '"' ∧ c ≠ '\\') (h : IsQuotedBody (s ++ t)) : IsQuotedBody t := by
  rcases h.split with ⟨-, ht⟩ | ⟨s', c, t', rfl, -, -, -⟩
  · exact ht
  · exact absurd rfl (clean '\\' (by simp)).2

theorem replace {g h : List Char} (cleanG : ∀ c ∈ g, c ≠ '"' ∧ c ≠ '\\') (nonemptyG : g ≠ [])
    (cleanH : ∀ c ∈ h, c ≠ '"' ∧ c ≠ '\\') (nonemptyH : h ≠ []) (body : IsQuotedBody (s ++ (g ++ t))) :
    IsQuotedBody (s ++ (h ++ t)) := by
  rcases body.split with ⟨hs, rest⟩ | ⟨s', c, rest', rfl, shape, hs, rest⟩
  · exact hs.append ((of_forall cleanH).append (rest.of_append cleanG))
  · obtain ⟨c', g, rfl⟩ := List.exists_cons_of_ne_nil nonemptyG
    obtain ⟨d, h, rfl⟩ := List.exists_cons_of_ne_nil nonemptyH
    obtain ⟨rfl, rfl⟩ := List.cons.inj shape
    have behind : IsQuotedBody t := rest.of_append fun e member => cleanG e (List.mem_cons_of_mem _ member)
    have later : IsQuotedBody (h ++ t) :=
      (of_forall fun e member => cleanH e (List.mem_cons_of_mem _ member)).append behind
    simpa using hs.append (.escape later)

end IsQuotedBody

/-! ## Reading values that are not quoted -/

theorem none_of_unquoted {s : List Char} (unquoted : (read s).isQuoted = false) :
    readDouble? s = none ∧ readSingle? s = none := by
  cases double : readDouble? s with
  | some value =>
      obtain ⟨body, tail, -, -, -, rfl⟩ := readDouble?_eq_some double
      rw [read, double] at unquoted
      cases unquoted
  | none =>
      cases single : readSingle? s with
      | some value =>
          obtain ⟨body, tail, -, -, rfl⟩ := readSingle?_eq_some single
          rw [read, double, single] at unquoted
          cases unquoted
      | none => exact ⟨rfl, rfl⟩

theorem bare_of_plain {s : List Char} {comment : Option (List Char)}
    (unquoted : (plain s comment).isQuoted = false) :
    isWrapped '"' s = false ∧ isWrapped '\'' s = false := by
  unfold plain at unquoted
  split at unquoted
  · cases unquoted
  · rename_i single
    split at unquoted
    · cases unquoted
    · rename_i double
      exact ⟨by simpa using double, by simpa using single⟩

theorem readDouble?_isSome {body tail : List Char} (isBody : IsQuotedBody body)
    (closing : isClosing tail = true) : (readDouble? ('"' :: (body ++ '"' :: tail))).isSome := by
  simp [readDouble?, closeDouble_append isBody, closing]

theorem closeSingle_isSome (body : List Char) {tail : List Char} (closing : isClosing tail = true) :
    (closeSingle (body ++ '\'' :: tail)).isSome := by
  induction body with
  | nil => simp [closeSingle, closing]
  | cons c body ih =>
      rw [List.cons_append, closeSingle]
      split
      · rfl
      · rw [Option.isSome_map]
        exact ih

theorem readSingle?_isSome (body : List Char) {tail : List Char} (closing : isClosing tail = true) :
    (readSingle? ('\'' :: (body ++ '\'' :: tail))).isSome := by
  rw [readSingle?, Option.isSome_map]
  exact closeSingle_isSome body closing

/-! ## Gaps -/

/-- What may stand between an unquoted value and its comment. -/
def IsGap (g : List Char) : Prop :=
  ∃ before behind, g = before ++ '#' :: behind ∧ (∀ c ∈ before, isBlank c = true) ∧
    ∀ c ∈ behind, isBlank c = true

namespace IsGap
variable {g : List Char} (gap : IsGap g)
include gap

theorem ne_nil : g ≠ [] := by
  obtain ⟨before, behind, rfl, -, -⟩ := gap
  simp

theorem notMem {c : Char} (solid : isBlank c = false) (hash : c ≠ '#') : c ∉ g := by
  obtain ⟨before, behind, rfl, blank, blank'⟩ := gap
  intro member
  rcases List.mem_append.mp member with found | found
  · simp [blank c found] at solid
  · rcases List.mem_cons.mp found with same | found
    · exact hash same
    · simp [blank' c found] at solid

theorem clean : ∀ c ∈ g, c ≠ '"' ∧ c ≠ '\\' := by
  intro c member
  constructor
  · rintro rfl
    exact gap.notMem (by decide) (by decide) member
  · rintro rfl
    exact gap.notMem (by decide) (by decide) member

theorem readPlain_append {v : List Char} (hash : '#' ∉ v) (c : List Char) :
    readPlain (v ++ (g ++ c)) = plain (trim v) (nonempty? (trim c)) := by
  obtain ⟨before, behind, rfl, blank, blank'⟩ := gap
  have front : ∀ d ∈ v ++ before, (d != '#') = true := by
    intro d member
    rw [bne_iff_ne]
    rintro rfl
    rcases List.mem_append.mp member with inValue | inGap
    · exact hash inValue
    · exact absurd (blank _ inGap) (by decide)
  have shape : v ++ (before ++ '#' :: behind ++ c) = (v ++ before) ++ '#' :: (behind ++ c) := by simp
  have comment : trim (behind ++ c) = trim c := by rw [trim, trimStart_append_of_blank blank', trim]
  rw [readPlain, shape, List.takeWhile_append_of_pos front, List.dropWhile_append_of_pos front]
  simp [trim_append_of_blank blank, comment]

end IsGap

theorem exists_gap {s : List Char} (trimmed : trim s = s) (hash : '#' ∈ s) :
    ∃ v g c, s = v ++ (g ++ c) ∧ IsGap g ∧ '#' ∉ v ∧ trim v = v ∧ trim c = c := by
  obtain ⟨front, back, rfl, clean⟩ := List.eq_append_cons_of_mem hash
  have frontTrimmed : trimStart front = front :=
    trimStart_of_append (trimStart_eq_self_of_trim trimmed)
  have backTrimmed : trimEnd back = back := by
    have whole := trimEnd_eq_self_of_trim trimmed
    rw [trimEnd_append_cons (by decide)] at whole
    simpa using whole
  obtain ⟨before, frontShape, blank⟩ := exists_trimEnd front
  obtain ⟨behind, backShape, blank'⟩ := exists_trimStart back
  refine ⟨trimEnd front, before ++ '#' :: behind, trimStart back, ?_, ⟨before, behind, rfl, blank, blank'⟩,
    fun member => clean (trimEnd_subset front member), ?_, ?_⟩
  · conv_lhs => rw [frontShape, backShape]
    simp
  · rw [← trimStart_trimEnd, trimEnd_trimEnd, trimStart_trimEnd, trim, frontTrimmed]
  · rw [trim, trimStart_trimStart]
    exact (trimStart_trimEnd back).symm.trans (congrArg trimStart backTrimmed)

theorem isClosing_behind {t g c : List Char} (hash : '#' ∉ t) (trimmed : trimEnd t = t) (gap : IsGap g)
    (closing : isClosing (t ++ (g ++ c)) = true) : t = [] := by
  have nonempty : t ++ (g ++ c) ≠ [] := by simp [gap.ne_nil]
  rw [isClosing, Bool.or_eq_true, List.isEmpty_iff, beq_iff_eq] at closing
  have head := closing.resolve_left nonempty
  rcases blank_or_solid t with blank | ⟨blanks, d, rest, rfl, blank, solid⟩
  · rw [← trimmed]
    exact (trimEnd_eq_nil_iff t).mpr blank
  · rw [List.append_assoc, trimStart_append_of_blank blank, List.cons_append, trimStart_cons solid] at head
    exact absurd (Option.some.inj head) (fun same => hash (by simp [same]))

theorem closes_behind_gap {quote : Char} (solid : isBlank quote = false) (other : quote ≠ '#')
    {v g c body tail : List Char} (gap : IsGap g) (hash : '#' ∉ v) (trimmed : trim v = v)
    (bare : isWrapped quote v = false) (shape : v ++ (g ++ c) = quote :: (body ++ quote :: tail))
    (closing : isClosing tail = true) :
    ∃ v' x, v = quote :: v' ∧ body = v' ++ (g ++ x) ∧ c = x ++ quote :: tail := by
  have outside : quote ∉ g := gap.notMem solid other
  obtain ⟨first, g', rfl⟩ := List.exists_cons_of_ne_nil gap.ne_nil
  cases v with
  | nil =>
      obtain ⟨rfl, -⟩ := List.cons.inj shape
      exact absurd List.mem_cons_self outside
  | cons d v =>
      obtain ⟨rfl, shape⟩ := List.cons.inj shape
      -- The quote that closes stands behind the value or inside of it; the gap has none.
      rcases List.append_eq_append_iff.mp shape with ⟨a, rfl, behind⟩ | ⟨a, rfl, behind⟩
      · rcases List.append_eq_append_iff.mp behind with ⟨x, rfl, rfl⟩ | ⟨y, same, rest⟩
        · exact ⟨v, x, rfl, rfl, rfl⟩
        · cases y with
          | nil =>
              rw [List.append_nil] at same
              exact ⟨v, [], rfl, by rw [same, List.append_nil], rest.symm⟩
          | cons e y =>
              obtain ⟨rfl, -⟩ := List.cons.inj rest
              exact absurd (by simp [same]) outside
      · cases a with
        | nil =>
            obtain ⟨rfl, -⟩ := List.cons.inj behind
            exact absurd List.mem_cons_self outside
        | cons e a =>
            obtain ⟨rfl, rfl⟩ := List.cons.inj behind
            have kept : trimEnd a = a := by
              have whole := trimEnd_eq_self_of_trim trimmed
              rw [← List.cons_append, trimEnd_append_cons solid] at whole
              simpa using whole
            have hash' : '#' ∉ a := fun member => hash (by simp [member])
            obtain rfl := isClosing_behind hash' kept gap closing
            rw [isWrapped_wrapped] at bare
            cases bare

section
variable {v g h c : List Char} (gapG : IsGap g) (gapH : IsGap h) (hash : '#' ∉ v) (trimmed : trim v = v)

include gapG hash trimmed in
theorem bare_of_gap (unquoted : (read (v ++ (g ++ c))).isQuoted = false) :
    isWrapped '"' v = false ∧ isWrapped '\'' v = false := by
  rw [read_unquoted unquoted, gapG.readPlain_append hash, trimmed] at unquoted
  exact bare_of_plain unquoted

include gapH hash trimmed in
theorem readSingle?_gap (bare : isWrapped '\'' v = false) (opened : readSingle? (v ++ (g ++ c)) = none) :
    readSingle? (v ++ (h ++ c)) = none := by
  cases found : readSingle? (v ++ (h ++ c)) with
  | none => rfl
  | some value =>
      obtain ⟨body, tail, shape, closing, -⟩ := readSingle?_eq_some found
      obtain ⟨v, x, rfl, rfl, rfl⟩ := closes_behind_gap (by decide) (by decide) gapH hash trimmed bare shape closing
      have closed := readSingle?_isSome (v ++ (g ++ x)) closing
      simp only [List.append_assoc, List.cons_append] at closed opened
      simp [opened] at closed

include gapG gapH hash trimmed

theorem readDouble?_gap (bare : isWrapped '"' v = false) (opened : readDouble? (v ++ (g ++ c)) = none) :
    readDouble? (v ++ (h ++ c)) = none := by
  cases found : readDouble? (v ++ (h ++ c)) with
  | none => rfl
  | some value =>
      obtain ⟨body, tail, shape, isBody, closing, -⟩ := readDouble?_eq_some found
      obtain ⟨v, x, rfl, rfl, rfl⟩ := closes_behind_gap (by decide) (by decide) gapH hash trimmed bare shape closing
      have isBody' : IsQuotedBody (v ++ (g ++ x)) :=
        isBody.replace gapH.clean gapH.ne_nil gapG.clean gapG.ne_nil
      have closed := readDouble?_isSome isBody' closing
      simp only [List.append_assoc, List.cons_append] at closed opened
      simp [opened] at closed

/-- A value that is read without quotes across some gap is read alike, with the same comment, across any other. -/
theorem read_gap (unquoted : (read (v ++ (g ++ c))).isQuoted = false) :
    read (v ++ (h ++ c)) = ⟨v, false, nonempty? (trim c)⟩ := by
  obtain ⟨double, single⟩ := none_of_unquoted unquoted
  obtain ⟨bareDouble, bareSingle⟩ := bare_of_gap gapG hash trimmed unquoted
  have double' := readDouble?_gap gapG gapH hash trimmed bareDouble double
  have single' := readSingle?_gap gapH hash trimmed bareSingle single
  rw [read, double', single']
  simp only [gapH.readPlain_append hash, trimmed]
  exact plain_eq_unquoted_iff.mpr ⟨rfl, bareDouble, bareSingle⟩

end

end EnvAudit.RawValue
