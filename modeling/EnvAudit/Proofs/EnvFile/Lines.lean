import EnvAudit.EnvFile.Line
import EnvAudit.Proofs.Text.Trim

/-!
# The lines of a text

`HasLines` says which pieces are the lines of a text, without saying how they are found: a line holds no line
feed, and a carriage return right before a line feed ends the line together with it. Main statements:

* `hasLines_iff`: `splitLines` finds the lines of every text, and a text has no others.
* `map_splitLines_append`: two texts joined by a line feed are read line by line, whatever reads a line, as
  long as it does not look at a carriage return at the end.
-/

namespace EnvAudit

/-- The pieces of a text between its line ends. -/
inductive HasLines : List Char → List (List Char) → Prop where
  | last {piece : List Char} : '\n' ∉ piece → HasLines piece [piece]
  | feed {piece rest : List Char} {pieces : List (List Char)} : '\n' ∉ piece →
      piece.getLast? ≠ some '\r' → HasLines rest pieces →
      HasLines (piece ++ '\n' :: rest) (piece :: pieces)
  | returnFeed {piece rest : List Char} {pieces : List (List Char)} : '\n' ∉ piece →
      HasLines rest pieces → HasLines (piece ++ '\r' :: '\n' :: rest) (piece :: pieces)

theorem splitLines_ne_nil (s : List Char) : splitLines s ≠ [] := by
  fun_cases splitLines s <;> simp_all

theorem splitLines_cons {c : Char} {s : List Char} (feed : c ≠ '\n')
    (back : c = '\r' → s.head? ≠ some '\n') {first : List Char} {others : List (List Char)}
    (h : splitLines s = first :: others) : splitLines (c :: s) = (c :: first) :: others := by
  rw [splitLines, h]
  · exact feed
  · rintro rest rfl rfl
    exact back rfl rfl

theorem splitLines_of_not_mem {s : List Char} (h : '\n' ∉ s) : splitLines s = [s] := by
  induction s with
  | nil => rfl
  | cons c s ih =>
      simp only [List.mem_cons, not_or] at h
      refine splitLines_cons (Ne.symm h.1) (fun _ head => h.2 ?_) (ih h.2)
      exact List.mem_of_head? head

theorem splitLines_feed {piece : List Char} (h : '\n' ∉ piece) (back : piece.getLast? ≠ some '\r')
    (rest : List Char) : splitLines (piece ++ '\n' :: rest) = piece :: splitLines rest := by
  induction piece with
  | nil => rfl
  | cons c piece ih =>
      simp only [List.mem_cons, not_or] at h
      cases piece with
      | nil =>
          refine splitLines_cons (Ne.symm h.1) (fun isReturn _ => back (by simp [isReturn])) ?_
          rfl
      | cons d piece =>
          have next : d ≠ '\n' := fun e => h.2 (by simp [e])
          exact splitLines_cons (Ne.symm h.1) (fun _ head => next (by simpa using head))
            (ih h.2 (by simpa using back))

theorem splitLines_returnFeed {piece : List Char} (h : '\n' ∉ piece) (rest : List Char) :
    splitLines (piece ++ '\r' :: '\n' :: rest) = piece :: splitLines rest := by
  induction piece with
  | nil => rfl
  | cons c piece ih =>
      simp only [List.mem_cons, not_or] at h
      refine splitLines_cons (Ne.symm h.1) (fun _ head => ?_) (ih h.2)
      cases piece with
      | nil => simp at head
      | cons d piece => exact h.2 (by simp_all)

namespace HasLines

theorem splitLines_eq {s : List Char} {lines : List (List Char)} (h : HasLines s lines) :
    splitLines s = lines := by
  induction h with
  | last clean => exact splitLines_of_not_mem clean
  | feed clean back _ ih => rw [splitLines_feed clean back, ih]
  | returnFeed clean _ ih => rw [splitLines_returnFeed clean, ih]

theorem cons {c : Char} {s first : List Char} {others : List (List Char)} (feed : c ≠ '\n')
    (back : c = '\r' → s.head? ≠ some '\n') (h : HasLines s (first :: others)) :
    HasLines (c :: s) ((c :: first) :: others) := by
  cases h with
  | last clean => exact .last (by simp [clean, Ne.symm feed])
  | @feed _ rest _ clean noReturn tail =>
      show HasLines ((c :: first) ++ '\n' :: rest) _
      refine .feed (by simp [clean, Ne.symm feed]) ?_ tail
      cases first with
      | nil => simpa using fun isReturn => back isReturn rfl
      | cons d first => simpa using noReturn
  | @returnFeed _ rest _ clean tail =>
      show HasLines ((c :: first) ++ '\r' :: '\n' :: rest) _
      exact .returnFeed (by simp [clean, Ne.symm feed]) tail

end HasLines

theorem hasLines_splitLines (s : List Char) : HasLines s (splitLines s) := by
  fun_induction splitLines s with
  | case1 => exact .last (by simp)
  | case2 rest ih =>
      show HasLines ([] ++ '\n' :: rest) _
      exact .feed (by simp) (by simp) ih
  | case3 rest ih =>
      show HasLines ([] ++ '\r' :: '\n' :: rest) _
      exact .returnFeed (by simp) ih
  | case4 c rest feed back empty => exact absurd empty (splitLines_ne_nil rest)
  | case5 c rest feed back first others found ih =>
      refine HasLines.cons feed (fun isReturn head => ?_) (found ▸ ih)
      obtain ⟨tail, rfl⟩ := List.head?_eq_some_iff.mp head
      exact back tail isReturn rfl

theorem hasLines_iff {s : List Char} {lines : List (List Char)} :
    HasLines s lines ↔ lines = splitLines s :=
  ⟨fun h => h.splitLines_eq.symm, fun h => h ▸ hasLines_splitLines s⟩

namespace HasLines

theorem length_eq {s : List Char} {lines : List (List Char)} (h : HasLines s lines) :
    lines.length = s.count '\n' + 1 := by
  induction h with
  | last clean => simp [List.count_eq_zero.mpr clean]
  | feed clean _ _ ih => simp [ih, List.count_eq_zero.mpr clean]
  | returnFeed clean _ ih => simp [ih, List.count_eq_zero.mpr clean]

theorem not_mem {s : List Char} {lines : List (List Char)} (h : HasLines s lines) :
    ∀ line ∈ lines, '\n' ∉ line := by
  induction h with
  | last clean => simpa using clean
  | feed clean _ _ ih => simpa using ⟨clean, ih⟩
  | returnFeed clean _ ih => simpa using ⟨clean, ih⟩

theorem append {α : Type} {f : List Char → α} (blind : ∀ s, f (s ++ ['\r']) = f s) {s t : List Char}
    {lines others : List (List Char)} (h : HasLines s lines) (ht : HasLines t others) :
    ∃ kept, HasLines (s ++ '\n' :: t) (kept ++ others) ∧ kept.map f = lines.map f := by
  induction h with
  | @last piece clean =>
      by_cases back : piece.getLast? = some '\r'
      · obtain ⟨front, rfl⟩ := List.getLast?_eq_some_iff.mp back
        simp only [List.mem_append, not_or] at clean
        refine ⟨[front], ?_, by simp [blind]⟩
        simpa using HasLines.returnFeed clean.1 ht
      · exact ⟨[piece], HasLines.feed clean back ht, rfl⟩
  | @feed piece rest _ clean back _ ih =>
      obtain ⟨kept, has, same⟩ := ih
      refine ⟨piece :: kept, ?_, by simp [same]⟩
      simpa using HasLines.feed clean back has
  | @returnFeed piece rest _ clean _ ih =>
      obtain ⟨kept, has, same⟩ := ih
      refine ⟨piece :: kept, ?_, by simp [same]⟩
      simpa using HasLines.returnFeed clean has

end HasLines

theorem map_splitLines_append {α : Type} {f : List Char → α} (blind : ∀ s, f (s ++ ['\r']) = f s)
    (s t : List Char) :
    (splitLines (s ++ '\n' :: t)).map f = (splitLines s).map f ++ (splitLines t).map f := by
  obtain ⟨kept, has, same⟩ := (hasLines_splitLines s).append blind (hasLines_splitLines t)
  rw [has.splitLines_eq, List.map_append, same]

theorem map_splitLines_intercalate {α : Type} {f : List Char → α} (blind : ∀ s, f (s ++ ['\r']) = f s)
    {lines : List (List Char)} (nonempty : lines ≠ []) (clean : ∀ line ∈ lines, '\n' ∉ line) :
    (splitLines (['\n'].intercalate lines)).map f = lines.map f := by
  induction lines with
  | nil => exact absurd rfl nonempty
  | cons line lines ih =>
      have one : (splitLines line).map f = [f line] := by
        rw [splitLines_of_not_mem (clean line (by simp))]
        rfl
      cases lines with
      | nil => simpa using one
      | cons next lines =>
          have rest := ih (by simp) (fun l hl => clean l (List.mem_cons_of_mem _ hl))
          rw [List.intercalate_cons_cons, List.append_assoc, List.singleton_append,
            map_splitLines_append blind, one, rest]
          rfl

namespace Line

theorem read_concat_return (s : List Char) : read (s ++ ['\r']) = read s := by
  unfold read
  rw [Text.trim_concat_blank (by decide)]

end Line

end EnvAudit
