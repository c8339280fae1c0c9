import EnvAudit.Text.Split
import Mathlib.Data.List.TakeWhile

namespace EnvAudit.Text

section
variable {separator : Char} {s front rest : List Char} {p : Char → Bool}

theorem takeWhile_append_of_stop (passes : ∀ c ∈ front, p c = true) (stops : ∀ c ∈ rest.head?, p c = false) :
    (front ++ rest).takeWhile p = front := by
  rw [List.takeWhile_append_of_pos passes]
  cases rest with
  | nil => simp
  | cons c rest => simp [stops c rfl]

theorem dropWhile_append_of_stop (passes : ∀ c ∈ front, p c = true) (stops : ∀ c ∈ rest.head?, p c = false) :
    (front ++ rest).dropWhile p = rest := by
  rw [List.dropWhile_append_of_pos passes]
  cases rest with
  | nil => simp
  | cons c rest => simp [stops c rfl]

theorem stops_dropWhile : ∀ c ∈ (s.dropWhile p).head?, p c = false := by
  intro c head
  have stops := List.head?_dropWhile_not p s
  rwa [head] at stops

theorem cutFirst_of_not_mem (clean : separator ∉ s) : cutFirst separator s = (s, none) := by
  have passes : s.dropWhile (· != separator) = [] := List.dropWhile_eq_nil_iff.mpr fun c member => by
    simpa using fun same : c = separator => clean (same ▸ member)
  rw [cutFirst, passes]

theorem cutFirst_eq_some_iff :
    cutFirst separator s = (front, some rest) ↔ s = front ++ separator :: rest ∧ separator ∉ front := by
  constructor
  · intro cut
    unfold cutFirst at cut
    split at cut
    next => cases cut
    next c tail found =>
      cases cut
      have whole := List.takeWhile_append_dropWhile (p := (· != separator)) (l := s)
      have same : c = separator := by
        simpa using stops_dropWhile (s := s) (p := (· != separator)) c (by rw [found]; rfl)
      rw [found, same] at whole
      refine ⟨whole.symm, fun member => ?_⟩
      simpa using List.mem_takeWhile_imp member
  · rintro ⟨rfl, clean⟩
    have passes : ∀ c ∈ front, (c != separator) = true := fun c member => by
      simpa using fun same : c = separator => clean (same ▸ member)
    have stops : ∀ c ∈ (separator :: rest).head?, (c != separator) = false := by simp
    rw [cutFirst, dropWhile_append_of_stop passes stops, takeWhile_append_of_stop passes stops]

theorem cutFirst_eq_none_iff : cutFirst separator s = (front, none) ↔ separator ∉ s ∧ front = s := by
  constructor
  · intro cut
    by_cases member : separator ∈ s
    · obtain ⟨before, after, rfl, clean⟩ := List.eq_append_cons_of_mem member
      rw [cutFirst_eq_some_iff.mpr ⟨rfl, clean⟩] at cut
      cases cut
    · rw [cutFirst_of_not_mem member] at cut
      cases cut
      exact ⟨member, rfl⟩
  · rintro ⟨clean, rfl⟩
    exact cutFirst_of_not_mem clean

theorem cutLast_eq_some_iff :
    cutLast separator s = (some front, rest) ↔ s = front ++ separator :: rest ∧ separator ∉ rest := by
  have mirrored : cutLast separator s = (some front, rest) ↔
      cutFirst separator s.reverse = (rest.reverse, some front.reverse) := by
    rw [cutLast]
    rcases cutFirst separator s.reverse with ⟨tail, _ | head⟩
    · simp
    · simp [List.reverse_eq_iff, and_comm]
  rw [mirrored, cutFirst_eq_some_iff, List.mem_reverse, List.reverse_eq_iff]
  simp

theorem cutLast_eq_none_iff : cutLast separator s = (none, rest) ↔ separator ∉ s ∧ rest = s := by
  have mirrored : cutLast separator s = (none, rest) ↔ cutFirst separator s.reverse = (rest.reverse, none) := by
    rw [cutLast]
    rcases cutFirst separator s.reverse with ⟨tail, _ | head⟩
    · simp [List.reverse_eq_iff]
    · simp
  rw [mirrored, cutFirst_eq_none_iff, List.mem_reverse, List.reverse_inj]

theorem splitAll_eq_splitOn (separator : Char) (s : List Char) : splitAll separator s = s.splitOn separator := by
  induction s with
  | nil => rfl
  | cons c s ih =>
      rw [splitAll, ih, List.splitOn_cons_eq_if_modifyHead]
      cases parts : s.splitOn separator with
      | nil => exact absurd parts (List.splitOn_ne_nil _ _)
      | cons first others => rfl

theorem splitAll_separator (separator : Char) (s : List Char) :
    splitAll separator (separator :: s) = [] :: splitAll separator s := by
  rw [splitAll_eq_splitOn, List.splitOn_cons_eq_if_modifyHead, if_pos (beq_self_eq_true _), splitAll_eq_splitOn]

theorem notMem_of_mem_splitAll {part : List Char} (member : part ∈ splitAll separator s) :
    separator ∉ part := by
  induction s generalizing part with
  | nil =>
      rw [List.mem_singleton.mp member]
      exact List.not_mem_nil
  | cons c s ih =>
      rw [splitAll] at member
      cases parts : splitAll separator s with
      | nil => exact absurd (splitAll_eq_splitOn separator s ▸ parts) (List.splitOn_ne_nil _ _)
      | cons first others =>
          rw [parts] at member ih
          by_cases same : c = separator
          · simp only [same, beq_self_eq_true, if_true, List.mem_cons] at member
            rcases member with rfl | member
            · exact List.not_mem_nil
            · exact ih (List.mem_cons.mpr member)
          · simp only [beq_iff_eq, same, if_false, List.mem_cons] at member
            rcases member with rfl | member
            · exact List.not_mem_cons_of_ne_of_not_mem (Ne.symm same) (ih List.mem_cons_self)
            · exact ih (List.mem_cons_of_mem _ member)

theorem splitAll_of_notMem (clean : separator ∉ s) : splitAll separator s = [s] := by
  rw [splitAll_eq_splitOn, List.splitOn_eq_singleton clean]

theorem exists_mem_splitAll {c : Char} (member : c ∈ s) (other : c ≠ separator) :
    ∃ part ∈ splitAll separator s, c ∈ part := by
  induction s with
  | nil => cases member
  | cons d s ih =>
      rw [splitAll]
      split
      · exact absurd ‹_› (splitAll_ne separator s)
      · rename_i first others parts
        rw [parts] at ih
        rcases List.mem_cons.mp member with rfl | behind
        · simp [other]
        · obtain ⟨part, among, inside⟩ := ih behind
          by_cases same : (d == separator) = true
          · rw [if_pos same]
            exact ⟨part, .tail _ among, inside⟩
          · rw [if_neg same]
            rcases List.mem_cons.mp among with rfl | later
            · exact ⟨_, .head _, .tail _ inside⟩
            · exact ⟨part, .tail _ later, inside⟩

end

end EnvAudit.Text
