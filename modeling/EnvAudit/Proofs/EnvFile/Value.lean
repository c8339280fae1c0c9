import EnvAudit.Proofs.EnvFile.Escape
import EnvAudit.Proofs.Text.Trim

namespace EnvAudit.RawValue
open Text

/-! ## Closing quotes -/

/-- A text in which a backslash escapes every double quote, and also another character behind it. -/
inductive IsQuotedBody : List Char → Prop where
  | nil : IsQuotedBody []
  | plain {c : Char} {s : List Char} : c ≠ '"' → c ≠ '\\' → IsQuotedBody s → IsQuotedBody (c :: s)
  | escape {c : Char} {s : List Char} : IsQuotedBody s → IsQuotedBody ('\\' :: c :: s)

theorem closeDouble_append {body : List Char} (h : IsQuotedBody body) (tail : List Char) :
    closeDouble (body ++ '"' :: tail) = some (body, tail) := by
  induction h with
  | nil => rfl
  | @plain c s quote back _ ih =>
      rw [List.cons_append, closeDouble, ih]
      · rfl
      · exact quote
      · exact fun isBack => absurd isBack back
      · exact fun _ _ isBack => absurd isBack back
  | @escape c s _ ih =>
      simp only [List.cons_append, closeDouble, ih, Option.map_some]

theorem closeDouble_eq_some {s body tail : List Char} (h : closeDouble s = some (body, tail)) :
    s = body ++ '"' :: tail ∧ IsQuotedBody body := by
  fun_induction closeDouble s generalizing body with
  | case1 => cases h
  | case2 rest =>
      obtain ⟨rfl, rfl⟩ := Prod.mk.inj (Option.some.inj h)
      exact ⟨rfl, .nil⟩
  | case3 => cases h
  | case4 c rest ih =>
      obtain ⟨⟨inside, after⟩, found, same⟩ := Option.map_eq_some_iff.mp h
      obtain ⟨rfl, rfl⟩ := Prod.mk.inj same
      obtain ⟨rfl, isBody⟩ := ih found
      exact ⟨rfl, .escape isBody⟩
  | case5 c rest quote lone back ih =>
      obtain ⟨⟨inside, after⟩, found, same⟩ := Option.map_eq_some_iff.mp h
      obtain ⟨rfl, rfl⟩ := Prod.mk.inj same
      obtain ⟨rfl, isBody⟩ := ih found
      refine ⟨rfl, .plain quote ?_ isBody⟩
      rintro rfl
      cases inside with
      | nil => exact back _ _ rfl rfl
      | cons d inside => exact back _ _ rfl rfl

theorem closeSingle_eq_some {s body tail : List Char} (h : closeSingle s = some (body, tail)) :
    s = body ++ '\'' :: tail ∧ isClosing tail = true := by
  induction s generalizing body with
  | nil => cases h
  | cons c s ih =>
      rw [closeSingle] at h
      split at h
      · rename_i closes
        rw [Bool.and_eq_true, decide_eq_true_eq] at closes
        obtain ⟨rfl, rfl⟩ := Prod.mk.inj (Option.some.inj h)
        exact ⟨by rw [closes.1]; rfl, closes.2⟩
      · obtain ⟨⟨inside, after⟩, found, same⟩ := Option.map_eq_some_iff.mp h
        obtain ⟨rfl, rfl⟩ := Prod.mk.inj same
        obtain ⟨rfl, closing⟩ := ih found
        exact ⟨rfl, closing⟩

theorem getLast?_cons_ne {c d : Char} {s : List Char} (first : c ≠ d) (rest : s.getLast? ≠ some d) :
    (c :: s).getLast? ≠ some d := by
  cases s with
  | nil => simpa using first
  | cons e s => simpa using rest

theorem IsQuotedBody.clean {s : List Char} (body : IsQuotedBody s) (quote : ¬ ['\\', '"'] <:+: s)
    (back : ¬ ['\\', '\\'] <:+: s) : '"' ∉ s ∧ s.getLast? ≠ some '\\' := by
  induction body with
  | nil => simp
  | @plain c s isQuote isBack _ ih =>
      obtain ⟨clean, last⟩ := ih (fun found => quote (List.infix_cons found))
        (fun found => back (List.infix_cons found))
      exact ⟨by simp [clean, Ne.symm isQuote], getLast?_cons_ne isBack last⟩
  | @escape c s _ ih =>
      have inside {a b : Char} {t : List Char} (found : [a, b] <:+: t) : [a, b] <:+: '\\' :: c :: t :=
        List.infix_cons (List.infix_cons found)
      obtain ⟨clean, last⟩ := ih (fun found => quote (inside found)) (fun found => back (inside found))
      have isQuote : c ≠ '"' := by
        rintro rfl
        exact quote (List.prefix_append ['\\', '"'] s).isInfix
      have isBack : c ≠ '\\' := by
        rintro rfl
        exact back (List.prefix_append ['\\', '\\'] s).isInfix
      refine ⟨by simp [clean, Ne.symm isQuote], ?_⟩
      rw [List.getLast?_cons_cons]
      exact getLast?_cons_ne isBack last

theorem isQuotedBody_of_clean {s : List Char} (clean : '"' ∉ s) (last : s.getLast? ≠ some '\\')
    (back : ¬ ['\\', '\\'] <:+: s) : IsQuotedBody s := by
  induction s with
  | nil => exact .nil
  | cons c s ih =>
      simp only [List.mem_cons, not_or] at clean
      have later : ¬ ['\\', '\\'] <:+: s := fun found => back (List.infix_cons found)
      by_cases isBack : c = '\\'
      · subst isBack
        cases s with
        | nil => exact absurd rfl last
        | cons d s =>
            have next : d ≠ '\\' := by
              rintro rfl
              exact back (List.prefix_append ['\\', '\\'] s).isInfix
            cases ih clean.2 (by simpa using last) later with
            | plain _ _ tail => exact .escape tail
            | escape _ => exact absurd rfl next
      · refine .plain (Ne.symm clean.1) isBack (ih clean.2 ?_ later)
        cases s with
        | nil => simp
        | cons d s => simpa using last

theorem isQuotedBody_iff {s : List Char} (quote : ¬ ['\\', '"'] <:+: s) (back : ¬ ['\\', '\\'] <:+: s) :
    IsQuotedBody s ↔ '"' ∉ s ∧ s.getLast? ≠ some '\\' :=
  ⟨fun body => body.clean quote back, fun h => isQuotedBody_of_clean h.1 h.2 back⟩

theorem isClosing_cases {s : List Char} (h : isClosing s = true) : s = [] ∨ '#' ∈ s := by
  rw [isClosing, Bool.or_eq_true, List.isEmpty_iff, beq_iff_eq] at h
  exact h.imp_right fun head => trimStart_subset s (List.mem_of_head? head)

theorem readDouble?_eq_some {s : List Char} {value : RawValue} (h : readDouble? s = some value) :
    ∃ body tail, s = '"' :: (body ++ '"' :: tail) ∧ IsQuotedBody body ∧ isClosing tail = true ∧
      value = ⟨unescape body, true, closingComment tail⟩ := by
  unfold readDouble? at h
  split at h
  · split at h
    · rename_i body tail found
      obtain ⟨rfl, isBody⟩ := closeDouble_eq_some found
      split at h
      · rename_i closing
        exact ⟨body, tail, rfl, isBody, closing, (Option.some.inj h).symm⟩
      · cases h
    · cases h
  · cases h

theorem readSingle?_eq_some {s : List Char} {value : RawValue} (h : readSingle? s = some value) :
    ∃ body tail, s = '\'' :: (body ++ '\'' :: tail) ∧ isClosing tail = true ∧
      value = ⟨body, true, closingComment tail⟩ := by
  unfold readSingle? at h
  split at h
  · obtain ⟨⟨body, tail⟩, found, same⟩ := Option.map_eq_some_iff.mp h
    obtain ⟨rfl, closing⟩ := closeSingle_eq_some found
    exact ⟨body, tail, rfl, closing, same.symm⟩
  · cases h

/-! ## Plain values -/

theorem inner_wrapped (quote : Char) (body : List Char) : inner (quote :: (body ++ [quote])) = body := by
  simp [inner]

theorem isWrapped_wrapped (quote : Char) (body : List Char) :
    isWrapped quote (quote :: (body ++ [quote])) = true := by
  simp [isWrapped, List.getLast?_cons]

theorem isWrapped_of_ne {quote c : Char} (h : c ≠ quote) (s : List Char) :
    isWrapped quote (c :: s) = false := by
  simp [isWrapped, h]

theorem plain_double (body : List Char) (comment : Option (List Char)) :
    plain ('"' :: (body ++ ['"'])) comment = ⟨unescape body, true, comment⟩ := by
  rw [plain, isWrapped_of_ne (by decide), isWrapped_wrapped, inner_wrapped]
  rfl

theorem plain_single (body : List Char) (comment : Option (List Char)) :
    plain ('\'' :: (body ++ ['\''])) comment = ⟨body, true, comment⟩ := by
  rw [plain, isWrapped_wrapped, inner_wrapped]
  rfl

theorem plain_eq_unquoted_iff {s v : List Char} {comment : Option (List Char)} :
    plain s comment = ⟨v, false, comment⟩ ↔
      s = v ∧ isWrapped '"' v = false ∧ isWrapped '\'' v = false := by
  unfold plain
  split
  · rename_i single
    constructor
    · exact fun h => absurd (congrArg RawValue.isQuoted h) (by simp)
    · rintro ⟨rfl, -, none⟩
      exact absurd single (by simp [none])
  · split
    · rename_i double
      constructor
      · exact fun h => absurd (congrArg RawValue.isQuoted h) (by simp)
      · rintro ⟨rfl, none, -⟩
        exact absurd double (by simp [none])
    · constructor
      · intro same
        obtain rfl := congrArg RawValue.value same
        simp_all
      · rintro ⟨rfl, -, -⟩
        rfl

theorem inner_subset (s : List Char) : inner s ⊆ s :=
  List.Subset.trans (List.dropLast_subset _) (List.drop_subset 1 s)

theorem hash_notMem_plain {s : List Char} (clean : '#' ∉ s) (comment : Option (List Char)) :
    '#' ∉ (plain s comment).value := by
  unfold plain
  split
  · exact fun h => clean (inner_subset s h)
  · split
    · exact fun h => clean (inner_subset s (hash_mem_of_mem_unescape h))
    · exact clean

theorem hash_notMem_readPlain (s : List Char) : '#' ∉ (readPlain s).value := by
  refine hash_notMem_plain (fun h => ?_) _
  have kept := List.mem_takeWhile_imp (trim_subset _ h)
  exact absurd kept (by decide)

theorem readPlain_of_clean {s : List Char} (clean : '#' ∉ s) : readPlain s = plain (trim s) none := by
  have all : ∀ c ∈ s, (c != '#') = true := fun c hc => by
    rw [bne_iff_ne]
    rintro rfl
    exact clean hc
  have front : s.takeWhile (· != '#') = s := List.takeWhile_eq_self_iff.mpr all
  have back : s.dropWhile (· != '#') = [] := List.dropWhile_eq_nil_iff.mpr all
  rw [readPlain, front, back]
  rfl

/-! ## Reading values -/

theorem read_cases (s : List Char) :
    readDouble? s = some (read s) ∨ readSingle? s = some (read s) ∨ read s = readPlain s := by
  cases double : readDouble? s with
  | some value => exact Or.inl (by rw [read, double])
  | none =>
      cases single : readSingle? s with
      | some value => exact Or.inr (Or.inl (by rw [read, double, single]))
      | none => exact Or.inr (Or.inr (by rw [read, double, single]))

theorem read_of_clean {s : List Char} (clean : '#' ∉ s) (trimmed : trim s = s) : read s = plain s none := by
  rcases read_cases s with double | single | bare
  · obtain ⟨body, tail, rfl, -, closing, same⟩ := readDouble?_eq_some double
    rcases isClosing_cases closing with rfl | hash
    · rw [same, plain_double]
      rfl
    · exact absurd (by simp [hash]) clean
  · obtain ⟨body, tail, rfl, closing, same⟩ := readSingle?_eq_some single
    rcases isClosing_cases closing with rfl | hash
    · rw [same, plain_single]
      rfl
    · exact absurd (by simp [hash]) clean
  · rw [bare, readPlain_of_clean clean, trimmed]

theorem read_unquoted {s : List Char} (h : (read s).isQuoted = false) : read s = readPlain s := by
  rcases read_cases s with double | single | bare
  · obtain ⟨body, tail, -, -, -, same⟩ := readDouble?_eq_some double
    rw [same] at h
    cases h
  · obtain ⟨body, tail, -, -, same⟩ := readSingle?_eq_some single
    rw [same] at h
    cases h
  · exact bare

theorem read_unquoted_iff {v : List Char} :
    read (trim v) = ⟨v, false, none⟩ ↔
      trim v = v ∧ '#' ∉ v ∧ isWrapped '"' v = false ∧ isWrapped '\'' v = false := by
  constructor
  · intro h
    have clean : '#' ∉ v := by
      have hash := hash_notMem_readPlain (trim v)
      rwa [← read_unquoted (by rw [h]), h] at hash
    have cleanTrim : '#' ∉ trim v := fun m => clean (trim_subset v m)
    rw [read_of_clean cleanTrim (trim_trim v), plain_eq_unquoted_iff] at h
    exact ⟨h.1, clean, h.2⟩
  · rintro ⟨trimmed, clean, bare⟩
    rw [trimmed, read_of_clean clean trimmed]
    exact plain_eq_unquoted_iff.mpr ⟨rfl, bare⟩

theorem read_quoted_of_clean {v : List Char} (clean : '#' ∉ v) :
    read ('"' :: (v ++ ['"'])) = ⟨unescape v, true, none⟩ := by
  rw [read_of_clean (by simpa using clean) (trim_wrapped rfl rfl v), plain_double]

theorem read_quoted_of_body {v : List Char} (body : IsQuotedBody v) :
    read ('"' :: (v ++ ['"'])) = ⟨unescape v, true, none⟩ := by
  simp only [read, readDouble?, closeDouble_append body]
  rfl

theorem readDouble?_eq_self {v : List Char}
    (found : readDouble? ('"' :: (v ++ ['"'])) = some ⟨v, true, none⟩) :
    unescape v = v ∧ IsQuotedBody v := by
  obtain ⟨body, tail, shape, isBody, -, same⟩ := readDouble?_eq_some found
  have value : v = unescape body := congrArg RawValue.value same
  -- Unescaping does not lengthen the body, which leaves nothing for the tail.
  have long := congrArg List.length shape
  simp only [List.length_cons, List.length_append, List.length_nil] at long
  have short := length_unescape_le body
  rw [← value] at short
  have done : tail = [] := List.length_eq_zero_iff.mp (by omega)
  subst done
  have whole : v = body := by simpa using shape
  subst whole
  exact ⟨value.symm, isBody⟩

theorem read_quoted_iff {v : List Char} :
    read ('"' :: (v ++ ['"'])) = ⟨v, true, none⟩ ↔
      unescape v = v ∧ ('#' ∉ v ∨ IsQuotedBody v) := by
  constructor
  · intro h
    by_cases hash : '#' ∈ v
    · rcases read_cases ('"' :: (v ++ ['"'])) with double | single | bare
      · obtain ⟨unescaped, body⟩ := readDouble?_eq_self (double.trans (congrArg some h))
        exact ⟨unescaped, Or.inr body⟩
      · obtain ⟨body, tail, shape, -, -⟩ := readSingle?_eq_some single
        exact absurd (List.cons.inj shape).1 (by decide)
      · have clean := hash_notMem_readPlain ('"' :: (v ++ ['"']))
        rw [← bare, h] at clean
        exact absurd hash clean
    · rw [read_quoted_of_clean hash] at h
      exact ⟨congrArg RawValue.value h, Or.inl hash⟩
  · rintro ⟨plain, clean | body⟩
    · rw [read_quoted_of_clean clean, plain]
    · rw [read_quoted_of_body body, plain]

end EnvAudit.RawValue
