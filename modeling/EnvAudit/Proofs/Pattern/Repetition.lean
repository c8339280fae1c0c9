import Mathlib.Data.List.TakeWhile
import EnvAudit.Pattern.Matcher

/-!
# Repetitions that leave no choice

A repetition may stop at many places, and the matcher tries them one by one. Where what follows can succeed at one
of these places only, or nowhere without succeeding there, the matcher might as well go there at once. Main
statements: `run_greedy`, `run_repeated` and `run_lazy`.
-/

namespace EnvAudit.Pattern
open Cursor (Rest)

/-! ## Cursors in a text -/

namespace Cursor

/-- The cursor between what a match has read from its start and what it has not. -/
def between (done after : List Char) (captures : List (Nat × List Char)) : Cursor :=
  ⟨done.length, done.reverse, after, captures⟩

variable {done after : List Char} {captures : List (Nat × List Char)}

@[simp] theorem after_between : (between done after captures).after = after := rfl

@[simp] theorem position_between : (between done after captures).position = done.length := rfl

@[simp] theorem advance_nil (test : Char → Bool) (rest : Rest) :
    (between done [] captures).advance test rest = none := rfl

@[simp] theorem advance_cons (test : Char → Bool) (c : Char) (rest : Rest) :
    (between done (c :: after) captures).advance test rest =
      if test c = true then rest (between (done ++ [c]) after captures) else none := by
  simp [advance, between]

@[simp] theorem close_between (done : List Char) (index : Nat) (text : List Char) :
    (between (done ++ text) after captures).close index done.length =
      between (done ++ text) after ((index, text) :: captures) := by
  simp [close, between]

theorem isAt_lineEnd {f : Flags} (single : f.multiLine = false) :
    (between done after captures).isAt f .lineEnd = true ↔ after = [] ∨ after = ['\n'] := by
  simp [isAt, between, single]

end Cursor

open Cursor (between)

variable {captures : List (Nat × List Char)} {rest : Rest}

/-! ## Sequences and choices -/

theorem runSequence_cons (f : Flags) (node : Node) (nodes : List Node) (cursor : Cursor) (rest : Rest) :
    runSequence f (node :: nodes) cursor rest = node.run f cursor fun next => runSequence f nodes next rest := by
  rw [runSequence]

theorem runSequence_singleton (f : Flags) (node : Node) (cursor : Cursor) (rest : Rest) :
    runSequence f [node] cursor rest = node.run f cursor rest := by
  simp only [runSequence]

theorem run_lineStart (f : Flags) (text : List Char) (rest : Rest) :
    (Node.place .lineStart).run f (between [] text captures) rest = rest (between [] text captures) := by
  rw [Node.run]
  rfl

theorem run_either (f : Flags) (first second : List Node) (cursor : Cursor) (rest : Rest) :
    (Node.branch [first, second]).run f cursor rest =
      (runSequence f first cursor rest).or (runSequence f second cursor rest) := by
  simp only [Node.run, runBranch]
  cases runSequence f first cursor rest with
  | some found => rfl
  | none => cases runSequence f second cursor rest <;> rfl

theorem run_optional (f : Flags) (nodes : List Node) (cursor : Cursor) (rest : Rest) :
    (Node.repetition .greedy 0 (some 1) nodes).run f cursor rest =
      (runSequence f nodes cursor rest).or (rest cursor) := by
  have once (fuel : Nat) (last : Option Nat) :
      repeatGreedy (runSequence f nodes) 0 (some 1) rest (fuel + 1) 1 last = rest := by
    funext next
    simp [repeatGreedy, allowsMore]
  have start : (Node.repetition .greedy 0 (some 1) nodes).run f cursor rest =
      repeatGreedy (runSequence f nodes) 0 (some 1) rest (0 + cursor.after.length + 1 + 1) 0 none cursor := by
    rw [Node.run]
  rw [start, repeatGreedy, if_neg (Nat.not_lt_zero _), if_pos (by simp [allowsMore]), Nat.zero_add 1, once]
  cases runSequence f nodes cursor rest <;> rfl

/-! ## As often as possible -/

section
variable {body : Cursor → Rest → Option Cursor} {chunks : List (List Char)} {back : List Char}

/-- What follows a repetition is no better off in front of a chunk than behind it. -/
theorem none_of_none_behind
    (later : ∀ chunk ∈ chunks, ∀ done after, rest (between (done ++ chunk) after captures) = none →
      rest (between done (chunk ++ after) captures) = none) (done : List Char)
    (behind : rest (between (done ++ chunks.flatten) back captures) = none) :
    rest (between done (chunks.flatten ++ back) captures) = none := by
  induction chunks generalizing done with
  | nil => simpa using behind
  | cons chunk chunks ih =>
      rw [List.forall_mem_cons] at later
      rw [List.flatten_cons, List.append_assoc]
      refine later.1 done _ (ih later.2 _ ?_)
      rwa [List.append_assoc]

theorem repeatGreedy_flatten
    (step : ∀ chunk ∈ chunks, ∀ done after next,
      body (between done (chunk ++ after) captures) next = next (between (done ++ chunk) after captures))
    (nonempty : ∀ chunk ∈ chunks, chunk ≠ [])
    (stuck : ∀ done next, body (between done back captures) next = none)
    (later : ∀ chunk ∈ chunks, ∀ done after, rest (between (done ++ chunk) after captures) = none →
      rest (between done (chunk ++ after) captures) = none)
    {fuel : Nat} (enough : chunks.length < fuel) (count : Nat) {last : Option Nat} {done : List Char}
    (moved : last ≠ some done.length) :
    repeatGreedy body 0 none rest fuel count last (between done (chunks.flatten ++ back) captures) =
      rest (between (done ++ chunks.flatten) back captures) := by
  induction chunks generalizing fuel count last done with
  | nil =>
      obtain ⟨fuel, rfl⟩ := Nat.exists_eq_succ_of_ne_zero (Nat.ne_zero_of_lt enough)
      simp [repeatGreedy, stuck]
  | cons chunk chunks ih =>
      obtain ⟨fuel, rfl⟩ := Nat.exists_eq_succ_of_ne_zero (Nat.ne_zero_of_lt enough)
      have nowhere : rest (between (done ++ (chunk :: chunks).flatten) back captures) = none →
          rest (between done ((chunk :: chunks).flatten ++ back) captures) = none := none_of_none_behind later done
      rw [List.forall_mem_cons] at step nonempty later
      have onward : some done.length ≠ some (done ++ chunk).length := by
        simp [nonempty.1]
      have first : body (between done ((chunk :: chunks).flatten ++ back) captures)
          (repeatGreedy body 0 none rest fuel (count + 1) (some done.length)) =
            rest (between (done ++ (chunk :: chunks).flatten) back captures) := by
        rw [List.flatten_cons, List.append_assoc, step.1,
          ih step.2 nonempty.2 later.2 (Nat.lt_of_succ_lt_succ enough) (count + 1) onward, List.append_assoc]
      have position : (between done ((chunk :: chunks).flatten ++ back) captures).position = done.length := rfl
      rw [repeatGreedy, if_neg (Nat.not_lt_zero _), position, if_pos (by simpa [allowsMore] using moved), first]
      cases found : rest (between (done ++ (chunk :: chunks).flatten) back captures) with
      | some found => rfl
      | none => exact nowhere found

theorem length_le_flatten (nonempty : ∀ chunk ∈ chunks, chunk ≠ []) :
    chunks.length ≤ chunks.flatten.length := by
  induction chunks with
  | nil => exact Nat.le_refl 0
  | cons chunk chunks ih =>
      rw [List.forall_mem_cons] at nonempty
      have := List.length_pos_iff.mpr nonempty.1
      have := ih nonempty.2
      rw [List.flatten_cons, List.length_append, List.length_cons]
      omega

theorem run_greedy {f : Flags} {nodes : List Node}
    (step : ∀ chunk ∈ chunks, ∀ done after next,
      runSequence f nodes (between done (chunk ++ after) captures) next =
        next (between (done ++ chunk) after captures))
    (nonempty : ∀ chunk ∈ chunks, chunk ≠ [])
    (stuck : ∀ done next, runSequence f nodes (between done back captures) next = none)
    (later : ∀ chunk ∈ chunks, ∀ done after, rest (between (done ++ chunk) after captures) = none →
      rest (between done (chunk ++ after) captures) = none) (done : List Char) :
    (Node.repetition .greedy 0 none nodes).run f (between done (chunks.flatten ++ back) captures) rest =
      rest (between (done ++ chunks.flatten) back captures) := by
  refine repeatGreedy_flatten step nonempty stuck later ?_ 0 (by simp)
  have := length_le_flatten nonempty
  simp only [between, List.length_append]
  omega

end

/-- Past the least number of rounds it does not matter how many there had to be. -/
theorem repeatGreedy_reached {body : Cursor → Rest → Option Cursor} {least : Nat} {most : Option Nat} {fuel count : Nat}
    {last : Option Nat} (reached : least ≤ count) :
    repeatGreedy body least most rest fuel count last = repeatGreedy body 0 most rest fuel count last := by
  induction fuel generalizing count last with
  | zero => rfl
  | succ fuel ih =>
      funext cursor
      rw [repeatGreedy, repeatGreedy, if_neg (Nat.not_lt.mpr reached), if_neg (Nat.not_lt_zero _),
        ih (Nat.le_succ_of_le reached)]

/-! ## Single characters -/

def repeated (greed : Greed) (node : Node) : Node := .repetition greed 0 none [node]

section
variable {f : Flags} {node : Node} {test : Char → Bool} {front back : List Char}
  (reads : ∀ cursor next, node.run f cursor next = cursor.advance test next)
include reads

theorem repeatGreedy_takeWhile
    (later : ∀ c, test c = true → ∀ done after, rest (between (done ++ [c]) after captures) = none →
      rest (between done (c :: after) captures) = none) {text : List Char} {fuel : Nat} (enough : text.length < fuel)
    (count : Nat) {last : Option Nat} {done : List Char} (moved : last ≠ some done.length) :
    repeatGreedy (runSequence f [node]) 0 none rest fuel count last (between done text captures) =
      rest (between (done ++ text.takeWhile test) (text.dropWhile test) captures) := by
  obtain ⟨chunks, flat, single⟩ : ∃ chunks : List (List Char),
      chunks.flatten = text.takeWhile test ∧ ∀ chunk ∈ chunks, ∃ c, chunk = [c] ∧ test c = true := by
    refine ⟨(text.takeWhile test).map fun c => [c], ?_, ?_⟩
    · rw [← List.flatMap_def, List.flatMap_singleton']
    · simpa using fun c member => List.mem_takeWhile_imp member
  have nonempty : ∀ chunk ∈ chunks, chunk ≠ [] := by
    rintro chunk member rfl
    simpa using single [] member
  have run : repeatGreedy (runSequence f [node]) 0 none rest fuel count last
      (between done (chunks.flatten ++ text.dropWhile test) captures) =
        rest (between (done ++ chunks.flatten) (text.dropWhile test) captures) := by
    refine repeatGreedy_flatten ?_ nonempty ?_ ?_ ?_ count moved
    · intro chunk member done after next
      obtain ⟨c, rfl, passes⟩ := single chunk member
      rw [runSequence_singleton, reads, List.singleton_append, Cursor.advance_cons, if_pos passes]
    · intro done next
      rw [runSequence_singleton, reads]
      cases back : text.dropWhile test with
      | nil => rfl
      | cons c back =>
          have stuck := List.head_dropWhile_not (l := text) test (by simp [back])
          simp only [back, List.head_cons] at stuck
          simp [stuck]
    · intro chunk member done after
      obtain ⟨c, rfl, passes⟩ := single chunk member
      exact later c passes done after
    · have chunked := length_le_flatten nonempty
      have taken := (List.takeWhile_prefix (l := text) test).length_le
      rw [flat] at chunked
      omega
  rwa [flat, List.takeWhile_append_dropWhile] at run

theorem run_repeated
    (later : ∀ c, test c = true → ∀ done after, rest (between (done ++ [c]) after captures) = none →
      rest (between done (c :: after) captures) = none) (done text : List Char) :
    (repeated .greedy node).run f (between done text captures) rest =
      rest (between (done ++ text.takeWhile test) (text.dropWhile test) captures) := by
  refine repeatGreedy_takeWhile reads later ?_ 0 (by simp)
  simp only [between]
  omega

theorem repeatGreedy_atLeast
    (later : ∀ c, test c = true → ∀ done after, rest (between done (c :: after) captures) = none) {least need : Nat}
    {text : List Char} {fuel : Nat} (enough : text.length < fuel) {count : Nat} (missing : count + need = least)
    (done : List Char) :
    repeatGreedy (runSequence f [node]) least none rest fuel count none (between done text captures) =
      if need ≤ (text.takeWhile test).length then
        rest (between (done ++ text.takeWhile test) (text.dropWhile test) captures)
      else none := by
  induction need generalizing text fuel count done with
  | zero =>
      obtain rfl : count = least := missing
      rw [repeatGreedy_reached (Nat.le_refl count), if_pos (Nat.zero_le _),
        repeatGreedy_takeWhile reads (fun c passes done after _ => later c passes done after) enough count (by simp)]
  | succ need ih =>
      obtain ⟨fuel, rfl⟩ := Nat.exists_eq_succ_of_ne_zero (Nat.ne_zero_of_lt enough)
      rw [repeatGreedy, if_pos (by omega), runSequence_singleton, reads]
      cases text with
      | nil => rw [Cursor.advance_nil, List.takeWhile_nil, if_neg (by simp)]
      | cons c text =>
          rw [Cursor.advance_cons]
          by_cases passes : test c = true
          · rw [if_pos passes, ih (Nat.lt_of_succ_lt_succ enough) (by omega), List.takeWhile_cons_of_pos passes,
              List.dropWhile_cons_of_pos passes, List.append_assoc, List.singleton_append, List.length_cons]
            simp only [Nat.succ_le_succ_iff]
          · rw [if_neg passes, List.takeWhile_cons_of_neg passes, if_neg (by simp)]

theorem run_atLeast
    (later : ∀ c, test c = true → ∀ done after, rest (between done (c :: after) captures) = none) (least : Nat)
    (done text : List Char) :
    (Node.repetition .greedy least none [node]).run f (between done text captures) rest =
      if least ≤ (text.takeWhile test).length then
        rest (between (done ++ text.takeWhile test) (text.dropWhile test) captures)
      else none := by
  refine repeatGreedy_atLeast reads later ?_ (Nat.zero_add least) done
  simp only [between]
  omega

theorem repeatLazy_advance (all : ∀ c ∈ front, test c = true) {fuel : Nat} (enough : front.length < fuel)
    (count : Nat) {last : Option Nat} {done : List Char} (moved : last ≠ some done.length)
    (earlier : ∀ read c unread, front = read ++ c :: unread →
      rest (between (done ++ read) (c :: (unread ++ back)) captures) = none)
    (stop : back = [] ∨ rest (between (done ++ front) back captures) ≠ none) :
    repeatLazy (runSequence f [node]) 0 none rest fuel count last (between done (front ++ back) captures) =
      rest (between (done ++ front) back captures) := by
  induction front generalizing fuel count last done with
  | nil =>
      obtain ⟨fuel, rfl⟩ := Nat.exists_eq_succ_of_ne_zero (Nat.ne_zero_of_lt enough)
      rw [List.append_nil] at stop ⊢
      rw [List.nil_append, repeatLazy, if_neg (Nat.not_lt_zero _)]
      cases found : rest (between done back captures) with
      | some found => rfl
      | none =>
          obtain rfl := stop.resolve_right (not_not_intro found)
          simp [runSequence_singleton, reads]
  | cons c front ih =>
      obtain ⟨fuel, rfl⟩ := Nat.exists_eq_succ_of_ne_zero (Nat.ne_zero_of_lt enough)
      rw [List.forall_mem_cons] at all
      have here : rest (between done (c :: front ++ back) captures) = none := by
        simpa using earlier [] c front rfl
      have onward : some done.length ≠ some (done ++ [c]).length := by simp
      have shape : done ++ c :: front = done ++ [c] ++ front := by simp
      have position : (between done (c :: front ++ back) captures).position = done.length := rfl
      rw [repeatLazy, if_neg (Nat.not_lt_zero _), here, position]
      dsimp only
      rw [if_pos (by simpa [allowsMore] using moved), runSequence_singleton, reads, List.cons_append,
        Cursor.advance_cons, if_pos all.1, shape]
      refine ih all.2 (Nat.lt_of_succ_lt_succ enough) (count + 1) onward ?_ (shape ▸ stop)
      intro read d unread split
      simpa using earlier (c :: read) d unread (by rw [split, List.cons_append])

theorem run_lazy (all : ∀ c ∈ front, test c = true) {done : List Char}
    (earlier : ∀ read c unread, front = read ++ c :: unread →
      rest (between (done ++ read) (c :: (unread ++ back)) captures) = none)
    (stop : back = [] ∨ rest (between (done ++ front) back captures) ≠ none) :
    (repeated .lazy node).run f (between done (front ++ back) captures) rest =
      rest (between (done ++ front) back captures) := by
  refine repeatLazy_advance reads all ?_ 0 (by simp) earlier stop
  simp only [between, List.length_append]
  omega

end

end EnvAudit.Pattern
