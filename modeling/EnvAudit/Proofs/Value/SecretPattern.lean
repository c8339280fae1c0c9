import EnvAudit.Proofs.Pattern.Anchoring
import EnvAudit.Proofs.Value.Secret

namespace EnvAudit.Value
open Text Pattern LinePattern
open Pattern.Cursor (Rest between)

namespace SecretPattern

def digits : SetItem := .range '0'.toNat '9'.toNat

def charOr (first second : Char) : Node := .set false (letters ++ [digits, .char first.toNat, .char second.toNat])

def hexDigit : Node := .set false [.range 'a'.toNat 'f'.toNat, digits]

def atLeast (least : Nat) (node : Node) : Node := .repetition .greedy least none [node]

def padding : Node := .repetition .greedy 0 (some 2) [character '=']

def foldCase : Flags := { ignoreCase := true }

def encoded : Pattern.Plain where
  text := "^[A-Za-z0-9+/]\x7b40,\x7d=\x7b0,2\x7d\\Z"
  flags := .empty
  nodes := [.place .lineStart, atLeast 40 (charOr '+' '/'), padding, .place .textEnd]
  parse_text := by decide +kernel

def hexadecimal : Pattern.Plain where
  text := "(?i)^[a-f0-9]\x7b32,\x7d\\Z"
  flags := foldCase
  nodes := [.place .lineStart, atLeast 32 hexDigit, .place .textEnd]
  parse_text := by decide +kernel

def random : Pattern.Plain where
  text := "^[A-Za-z0-9_-]\x7b32,\x7d\\Z"
  flags := .empty
  nodes := [.place .lineStart, atLeast 32 (charOr '_' '-'), .place .textEnd]
  parse_text := by decide +kernel

def all : List (Pattern.Plain × String) :=
  [(encoded, "Base64 encoded secret"), (hexadecimal, "Hexadecimal secret"), (random, "Random string secret")]

/-! ## Single characters -/

theorem run_charOr (first second : Char) (cursor : Cursor) (next : Rest) :
    (charOr first second).run .empty cursor next =
      cursor.advance (fun c => c.isAlphanum || c == first || c == second) next := by
  rw [charOr, Node.run]
  congr 1
  funext c
  have shape : (c.isAlphanum || c == first || c == second) = ((65 ≤ c.toNat && c.toNat ≤ 90) ||
      (97 ≤ c.toNat && c.toNat ≤ 122) || (48 ≤ c.toNat && c.toNat ≤ 57) || c.toNat == first.toNat ||
      c.toNat == second.toNat) := by
    rw [inRange_letters, inRange_digits, toNat_beq, toNat_beq]
    rfl
  simp [setHolds, SetItem.holds, Flags.empty, letters, digits, shape, Bool.or_assoc]

/-! ## Case -/

theorem lowerRuns_source : ∀ run ∈ lowerRuns, 0xc0 ≤ run.first := by
  decide +kernel

theorem caseSiblings_beyond : ∀ entry ∈ caseSiblings, ∀ n ∈ entry.2, 0x69 ≤ n := by
  decide +kernel

def IsHexRange (low high : Nat) : Prop := low = 0x30 ∧ high = 0x39 ∨ low = 0x61 ∧ high = 0x66

theorem isLowHexDigit_of_range {low high : Nat} (range : IsHexRange low high) {c : Char}
    (inside : low ≤ c.toNat ∧ c.toNat ≤ high) : IsLowHexDigit c := by
  rw [isLowHexDigit_iff_toNat]
  rcases range with ⟨rfl, rfl⟩ | ⟨rfl, rfl⟩
  · exact .inl inside
  · exact .inr inside

theorem lowerChar_of_isLowHexDigit {c : Char} (low : IsLowHexDigit c) : lowerChar c = c := by
  have ascii : c.toNat < 0x80 := by
    have := isLowHexDigit_iff_toNat.mp low
    omega
  exact forall_ascii (P := fun c => IsLowHexDigit c → lowerChar c = c) (by decide +kernel) ascii low

theorem exists_mem_withLower_iff {low high : Nat} (range : IsHexRange low high) {c : Char} :
    (∃ n ∈ withLower c, low ≤ n ∧ n ≤ high) ↔ low ≤ c.toNat ∧ c.toNat ≤ high := by
  constructor
  · rintro ⟨n, member, inside⟩
    simp only [withLower, List.mem_append, List.mem_filterMap] at member
    rcases member with (self | capital) | ⟨run, known, mapped⟩
    · split at self
      · rwa [List.mem_singleton.mp self] at inside
      · cases self
    · split at capital
      · rename_i letter
        have bounds : 97 ≤ c.toNat ∧ c.toNat ≤ 122 := by
          have shape : c.isLower = (c.val ≥ 97 && c.val ≤ 122) := rfl
          simpa [shape, UInt32.le_iff_toNat_le] using letter
        rw [List.mem_singleton] at capital
        rcases range with ⟨rfl, rfl⟩ | ⟨rfl, rfl⟩ <;> omega
      · cases capital
    · split at mapped
      · rename_i covered
        have source := lowerRuns_source run (Array.mem_toList_iff.mp known)
        simp only [CaseRun.covers, Bool.and_eq_true, decide_eq_true_eq] at covered
        cases mapped
        rcases range with ⟨rfl, rfl⟩ | ⟨rfl, rfl⟩ <;> omega
      · cases mapped
  · intro inside
    refine ⟨c.toNat, ?_, inside⟩
    simp [withLower, lowerChar_of_isLowHexDigit (isLowHexDigit_of_range range inside)]

theorem not_mem_siblings {c d : Char} (digit : IsHexDigit d) : d ∉ siblings c := by
  unfold siblings
  split
  · rename_i others found
    intro member
    obtain ⟨n, known, rfl⟩ := List.mem_map.mp member
    have beyond := caseSiblings_beyond _ (Array.mem_of_find?_eq_some found) n known
    exact not_isHexDigit_ofNat (Nat.le_trans (by decide) beyond) digit
  · exact List.not_mem_nil

theorem holdsLower_iff {low high : Nat} (range : IsHexRange low high) {c : Char} :
    (SetItem.range low high).holdsLower foldCase c = true ↔ low ≤ c.toNat ∧ c.toNat ≤ high := by
  have basic : high < lastBasic := by
    rcases range with ⟨-, rfl⟩ | ⟨-, rfl⟩ <;> decide
  have within (s : Char) : ((foldCase.withLower s).any fun n => (low ≤ n && n ≤ high) && n ≤ lastBasic) = true ↔
      low ≤ s.toNat ∧ s.toNat ≤ high := by
    rw [← exists_mem_withLower_iff range, List.any_eq_true]
    simp only [Bool.and_eq_true, decide_eq_true_eq]
    exact exists_congr fun n => and_congr_right fun _ => and_iff_left_of_imp fun inside => inside.2.trans basic.le
  have beyond : (decide (lastBasic < high) && ((decide (low ≤ c.toNat) && decide (c.toNat ≤ high)) ||
      (decide (low ≤ (upperChar c).toNat) && decide ((upperChar c).toNat ≤ high)))) = false := by
    rw [decide_eq_false basic.le.not_gt, Bool.false_and]
  rw [SetItem.holdsLower, beyond, Bool.or_false, List.any_eq_true]
  constructor
  · rintro ⟨s, member, found⟩
    have inside := (within s).mp found
    rcases List.mem_cons.mp member with rfl | sibling
    · exact inside
    · exact absurd sibling (not_mem_siblings (.inl (isLowHexDigit_of_range range inside)))
  · exact fun inside => ⟨c, List.mem_cons_self, (within c).mpr inside⟩

theorem run_hexDigit (cursor : Cursor) (next : Rest) :
    hexDigit.run foldCase cursor next = cursor.advance (fun c => decide (IsHexDigit c)) next := by
  rw [hexDigit, Node.run]
  congr 1
  funext c
  have folded : setHolds foldCase [.range 'a'.toNat 'f'.toNat, digits] c =
      ((SetItem.range 'a'.toNat 'f'.toNat).holdsLower foldCase (lowerChar c) ||
        digits.holdsLower foldCase (lowerChar c)) := by
    have cased : (foldCase.ignoreCase && [SetItem.range 'a'.toNat 'f'.toNat, digits].any (·.isCased foldCase)) = true :=
      rfl
    rw [setHolds, if_pos cased]
    simp only [List.any_cons, List.any_nil, Bool.or_false]
    rfl
  have letters := holdsLower_iff (c := lowerChar c) (.inr ⟨rfl, rfl⟩ : IsHexRange 'a'.toNat 'f'.toNat)
  have digits := holdsLower_iff (c := lowerChar c) (.inl ⟨rfl, rfl⟩ : IsHexRange '0'.toNat '9'.toNat)
  rw [folded, Bool.bne_false, Bool.eq_iff_iff, Bool.or_eq_true, decide_eq_true_eq, ← isLowHexDigit_lowerChar_iff,
    isLowHexDigit_iff_toNat, or_comm]
  exact or_congr digits letters

/-! ## Whole texts -/

def whole (f : Flags) : Rest := fun cursor => runSequence f [.place .textEnd] cursor some

theorem whole_eq (f : Flags) (done after : List Char) (captures : List (Nat × List Char)) :
    whole f (between done after captures) =
      if after = [] then some (between done after captures) else none := by
  simp [whole, runSequence, Node.run, Cursor.isAt, between]

section
variable {f : Flags} {node : Node} {test : Char → Bool}
  (reads : ∀ cursor next, node.run f cursor next = cursor.advance test next)
include reads

theorem isSome_run_whole (least : Nat) (s : List Char) :
    (runSequence f [.place .lineStart, atLeast least node, .place .textEnd] (between [] s []) some).isSome =
      (least ≤ s.length && s.all test) := by
  have run : runSequence f [.place .lineStart, atLeast least node, .place .textEnd] (between [] s []) some =
      if least ≤ (s.takeWhile test).length then
        whole f (between ([] ++ s.takeWhile test) (s.dropWhile test) [])
      else none := by
    rw [runSequence_cons, run_lineStart, runSequence_cons]
    refine run_atLeast reads (fun c _ done after => ?_) least [] s
    exact (whole_eq f done (c :: after) []).trans (if_neg (List.cons_ne_nil c after))
  rw [run, whole_eq]
  by_cases all : s.all test = true
  · have kept := List.all_eq_true.mp all
    rw [List.takeWhile_eq_self_iff.mpr kept, List.dropWhile_eq_nil_iff.mpr kept, if_pos rfl, all, Bool.and_true]
    split <;> simp [*]
  · have left : s.dropWhile test ≠ [] := fun none => all (List.all_eq_true.mpr (List.dropWhile_eq_nil_iff.mp none))
    rw [if_neg left, ite_self, Bool.not_eq_true] at *
    simp [all]

end

theorem isSome_run_padding (done s : List Char) :
    (runSequence .empty [padding, .place .textEnd] (between done s []) some).isSome =
      (s == [] || s == ['='] || s == ['=', '=']) := by
  rcases s with _ | ⟨c, _ | ⟨d, _ | ⟨e, s⟩⟩⟩
  · rfl
  · by_cases sign : c = '=' <;>
      simp [padding, runSequence, Node.run, run_character, repeatGreedy, allowsMore, Cursor.isAt, sign]
  · by_cases sign : c = '=' <;> by_cases second : d = '=' <;>
      simp [padding, runSequence, Node.run, run_character, repeatGreedy, allowsMore, Cursor.isAt, sign, second]
  · by_cases sign : c = '=' <;> by_cases second : d = '=' <;>
      simp [padding, runSequence, Node.run, run_character, repeatGreedy, allowsMore, Cursor.isAt, sign, second]

theorem isSome_run_encoded (s : List Char) : (encoded.matchStart? s).isSome = isBase64Secret s := by
  have run : encoded.matchStart? s =
      if 40 ≤ (s.takeWhile isEncodedChar).length then
        runSequence .empty [padding, .place .textEnd]
          (between ([] ++ s.takeWhile isEncodedChar) (s.dropWhile isEncodedChar) []) some
      else none := by
    change runSequence .empty (.place .lineStart :: atLeast 40 (charOr '+' '/') :: _) (between [] s []) some = _
    rw [runSequence_cons, run_lineStart, runSequence_cons]
    refine run_atLeast (run_charOr '+' '/') (fun c digit done after => ?_) 40 [] s
    -- A digit is no padding, so with fewer digits read there is more left than padding.
    have other : c ≠ '=' := fun sign => absurd digit (by rw [sign]; decide)
    have stuck := isSome_run_padding done (c :: after)
    simpa [beq_eq_false_iff_ne.mpr other] using stuck
  rw [run, isBase64Secret_eq, ← isSome_run_padding ([] ++ s.takeWhile isEncodedChar)]
  split
  · rename_i long
    rw [decide_eq_true long, Bool.true_and]
  · rename_i short
    rw [decide_eq_false short, Bool.false_and, Option.isSome_none]

theorem search_encoded (value : String) : encoded.search value = isBase64Secret value.toList := by
  rw [Tree.search_anchored rfl rfl rfl, isSome_run_encoded]

theorem search_hexadecimal (value : String) : hexadecimal.search value = isHexSecret value.toList := by
  rw [Tree.search_anchored rfl rfl rfl, Tree.matchStart?]
  refine (isSome_run_whole run_hexDigit 32 value.toList).trans ?_
  rw [Bool.eq_iff_iff, isHexSecret_iff, Bool.and_eq_true, decide_eq_true_eq, List.all_eq_true]
  simp only [decide_eq_true_eq]

theorem search_random (value : String) : random.search value = isRandomSecret value.toList := by
  rw [Tree.search_anchored rfl rfl rfl, Tree.matchStart?]
  exact isSome_run_whole (run_charOr '_' '-') 32 value.toList

end SecretPattern

def matchedShape? (value : String) : Option String :=
  (SecretPattern.all.find? (·.1.search value)).map (·.2)

theorem secretShape?_eq_matchedShape? (value : String) : secretShape? value = matchedShape? value := by
  simp only [secretShape?, matchedShape?, SecretPattern.all, List.find?_cons, SecretPattern.search_encoded,
    SecretPattern.search_hexadecimal, SecretPattern.search_random, List.find?_nil]
  cases isBase64Secret value.toList <;> cases isHexSecret value.toList <;> cases isRandomSecret value.toList <;> rfl

end EnvAudit.Value
