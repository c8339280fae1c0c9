import EnvAudit.Proofs.Pattern.Repetition

namespace EnvAudit.Pattern
open Cursor (Rest between)

/-- What follows succeeds behind at least so many of the next characters, all of which pass a test. -/
def SucceedsBehind (test : Char → Bool) (rest : Rest) (least : Nat) (done text : List Char)
    (captures : List (Nat × List Char)) : Prop :=
  ∃ read unread, text = read ++ unread ∧ least ≤ read.length ∧ (∀ c ∈ read, test c = true) ∧
    (rest (between (done ++ read) unread captures)).isSome = true

section
variable {test : Char → Bool} {rest : Rest} {least : Nat} {done text : List Char} {captures : List (Nat × List Char)}

theorem succeedsBehind_nil :
    SucceedsBehind test rest least done [] captures ↔
      least = 0 ∧ (rest (between done [] captures)).isSome = true := by
  constructor
  · rintro ⟨read, unread, split, long, -, succeeds⟩
    obtain ⟨rfl, rfl⟩ := List.append_eq_nil_iff.mp split.symm
    rw [List.append_nil] at succeeds
    exact ⟨Nat.le_zero.mp long, succeeds⟩
  · rintro ⟨rfl, succeeds⟩
    exact ⟨[], [], rfl, Nat.le_refl 0, by simp, by rwa [List.append_nil]⟩

theorem succeedsBehind_cons {c : Char} :
    SucceedsBehind test rest least done (c :: text) captures ↔
      least = 0 ∧ (rest (between done (c :: text) captures)).isSome = true ∨
        test c = true ∧ SucceedsBehind test rest (least - 1) (done ++ [c]) text captures := by
  constructor
  · rintro ⟨read, unread, split, long, passes, succeeds⟩
    cases read with
    | nil =>
        rw [List.nil_append] at split
        subst split
        rw [List.append_nil] at succeeds
        exact .inl ⟨Nat.le_zero.mp long, succeeds⟩
    | cons d read =>
        obtain ⟨rfl, rfl⟩ := List.cons.inj split
        obtain ⟨first, others⟩ := List.forall_mem_cons.mp passes
        refine .inr ⟨first, read, unread, rfl, ?_, others, ?_⟩
        · rw [List.length_cons] at long
          omega
        · rwa [List.append_assoc, List.singleton_append]
  · rintro (⟨rfl, succeeds⟩ | ⟨first, read, unread, rfl, long, others, succeeds⟩)
    · exact ⟨[], c :: text, rfl, Nat.le_refl 0, by simp, by rwa [List.append_nil]⟩
    · refine ⟨c :: read, unread, rfl, ?_, List.forall_mem_cons.mpr ⟨first, others⟩, ?_⟩
      · rw [List.length_cons]
        omega
      · rwa [List.append_assoc, List.singleton_append] at succeeds

end

section
variable {body : Cursor → Rest → Option Cursor} {rest : Rest} {least fuel count : Nat} {last : Option Nat}
  {cursor : Cursor}

theorem repeatGreedy_of_lt (missing : count < least) :
    repeatGreedy body least none rest (fuel + 1) count last cursor =
      body cursor (repeatGreedy body least none rest fuel (count + 1) last) := by
  rw [repeatGreedy, if_pos missing]

theorem repeatGreedy_of_le (reached : least ≤ count) (moved : last ≠ some cursor.position) :
    repeatGreedy body least none rest (fuel + 1) count last cursor =
      (body cursor (repeatGreedy body least none rest fuel (count + 1) (some cursor.position))).or (rest cursor) := by
  rw [repeatGreedy, if_neg (Nat.not_lt.mpr reached), if_pos (by simpa [allowsMore] using moved)]
  cases body cursor (repeatGreedy body least none rest fuel (count + 1) (some cursor.position)) <;> rfl

end

section
variable {f : Flags} {node : Node} {test : Char → Bool} {rest : Rest} {captures : List (Nat × List Char)}
  (reads : ∀ cursor next, node.run f cursor next = cursor.advance test next)
include reads

theorem isSome_repeatGreedy_iff {least : Nat} {text : List Char} {fuel : Nat} (enough : text.length < fuel) (count : Nat)
    {last : Option Nat} {done : List Char} (moved : ∀ position ∈ last, position < done.length) :
    (repeatGreedy (runSequence f [node]) least none rest fuel count last (between done text captures)).isSome = true ↔
      SucceedsBehind test rest (least - count) done text captures := by
  -- Each round takes one character, so by induction on the text the fuel does not run out.
  induction text generalizing fuel count last done with
  | nil =>
      obtain ⟨fuel, rfl⟩ := Nat.exists_eq_succ_of_ne_zero (Nat.ne_zero_of_lt enough)
      have stuck (next : Rest) : runSequence f [node] (between done [] captures) next = none := by
        rw [runSequence_singleton, reads, Cursor.advance_nil]
      rw [succeedsBehind_nil]
      rcases Nat.lt_or_ge count least with missing | reached
      · rw [repeatGreedy_of_lt missing, stuck]
        simp [Nat.sub_ne_zero_of_lt missing]
      · rw [repeatGreedy_of_le reached fun here => Nat.lt_irrefl _ (moved _ here), stuck, Option.none_or]
        simp [Nat.sub_eq_zero_of_le reached]
  | cons c text ih =>
      obtain ⟨fuel, rfl⟩ := Nat.exists_eq_succ_of_ne_zero (Nat.ne_zero_of_lt enough)
      have short := Nat.lt_of_succ_lt_succ enough
      have round (next : Rest) : (runSequence f [node] (between done (c :: text) captures) next).isSome = true ↔
          test c = true ∧ (next (between (done ++ [c]) text captures)).isSome = true := by
        rw [runSequence_singleton, reads, Cursor.advance_cons]
        split <;> simp [*]
      have longer : (done ++ [c]).length = done.length + 1 := by rw [List.length_append, List.length_singleton]
      rw [succeedsBehind_cons]
      rcases Nat.lt_or_ge count least with missing | reached
      · -- A round that has to be made does not look at where the last one started.
        have onward : ∀ position ∈ last, position < (done ++ [c]).length := fun position started => by
          rw [longer]
          exact Nat.lt_succ_of_lt (moved position started)
        rw [repeatGreedy_of_lt missing, round, ih short (count + 1) onward, Nat.sub_add_eq]
        simp [Nat.sub_ne_zero_of_lt missing]
      · have onward : ∀ position ∈ some done.length, position < (done ++ [c]).length := fun position started => by
          rw [longer, ← Option.some.inj started]
          exact Nat.lt_succ_self _
        rw [repeatGreedy_of_le reached fun here => Nat.lt_irrefl _ (moved _ here), Option.isSome_or, Bool.or_eq_true,
          Cursor.position_between, round, ih short (count + 1) onward, Nat.sub_add_eq]
        simp [Nat.sub_eq_zero_of_le reached, or_comm]

theorem isSome_run_atLeast_iff (least : Nat) (done text : List Char) :
    ((Node.repetition .greedy least none [node]).run f (between done text captures) rest).isSome = true ↔
      SucceedsBehind test rest least done text captures := by
  refine isSome_repeatGreedy_iff reads ?_ 0 (by simp)
  simp only [between]
  omega

end

end EnvAudit.Pattern
