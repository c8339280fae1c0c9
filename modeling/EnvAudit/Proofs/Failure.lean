import EnvAudit.Failure

namespace EnvAudit

/-- Two runs fail alike, or both succeed with related results. -/
inductive SameOutcome {ε α : Type} (related : α → α → Prop) : Except ε α → Except ε α → Prop where
  | error (e : ε) : SameOutcome related (.error e) (.error e)
  | ok {a b : α} : related a b → SameOutcome related (.ok a) (.ok b)

theorem SameOutcome.map {ε α β : Type} {related : β → β → Prop} {run : Except ε α} {f g : α → β}
    (h : ∀ a, run = .ok a → related (f a) (g a)) : SameOutcome related (run.map f) (run.map g) := by
  cases run with
  | error e => exact .error e
  | ok a => exact .ok (h a rfl)

theorem SameOutcome.bind {ε α β : Type} {related : β → β → Prop} {run : Except ε α} {f g : α → Except ε β}
    (h : ∀ a, run = .ok a → SameOutcome related (f a) (g a)) : SameOutcome related (run.bind f) (run.bind g) := by
  cases run with
  | error e => exact .error e
  | ok a => exact h a rfl

/-- Two runs end alike: as before, or each of them in a check that raises something. -/
inductive EndsAlike {α : Type} (related : α → α → Prop) : Except Failure α → Except Failure α → Prop where
  | error (failure : Failure) : EndsAlike related (.error failure) (.error failure)
  | raised (first second : Complaint) : EndsAlike related (.error (.raised first)) (.error (.raised second))
  | ok {a b : α} : related a b → EndsAlike related (.ok a) (.ok b)

theorem EndsAlike.map {α β : Type} {same : α → α → Prop} {related : β → β → Prop} {first second : Except Failure α}
    {f g : α → β} (alike : EndsAlike same first second) (h : ∀ a b, same a b → related (f a) (g b)) :
    EndsAlike related (first.map f) (second.map g) := by
  cases alike with
  | error failure => exact .error failure
  | raised c c' => exact .raised c c'
  | ok together => exact .ok (h _ _ together)

theorem EndsAlike.bind {α β : Type} {same : α → α → Prop} {related : β → β → Prop} {first second : Except Failure α}
    {f g : α → Except Failure β} (alike : EndsAlike same first second)
    (h : ∀ a b, same a b → EndsAlike related (f a) (g b)) : EndsAlike related (first.bind f) (second.bind g) := by
  cases alike with
  | error failure => exact .error failure
  | raised c c' => exact .raised c c'
  | ok together => exact h _ _ together

theorem EndsAlike.refl {α : Type} {related : α → α → Prop} (reflexive : ∀ a, related a a) (run : Except Failure α) :
    EndsAlike related run run := by
  cases run with
  | error failure => exact .error failure
  | ok a => exact .ok (reflexive a)

theorem ok_of_bind {ε α β : Type} {run : Except ε α} {next : α → Except ε β} {b : β}
    (h : run >>= next = .ok b) : ∃ a, run = .ok a ∧ next a = .ok b := by
  cases run with
  | error e => cases h
  | ok a => exact ⟨a, rfl, h⟩

theorem ok_of_map {ε α β : Type} {run : Except ε α} {f : α → β} {b : β} (h : f <$> run = .ok b) :
    ∃ a, run = .ok a ∧ f a = b := by
  cases run with
  | error failure => cases h
  | ok a => exact ⟨a, rfl, Except.ok.inj h⟩

theorem exists_mapM_iff {ε α β : Type} {f : α → Except ε β} {as : List α} :
    (∃ bs, as.mapM f = .ok bs) ↔ ∀ a ∈ as, ∃ b, f a = .ok b := by
  induction as with
  | nil => exact ⟨fun _ => by simp, fun _ => ⟨[], rfl⟩⟩
  | cons a as ih =>
      rw [List.forall_mem_cons, ← ih, List.mapM_cons]
      constructor
      · rintro ⟨bs, run⟩
        obtain ⟨b, first, rest⟩ := ok_of_bind run
        obtain ⟨others, rest, -⟩ := ok_of_bind rest
        exact ⟨⟨b, first⟩, others, rest⟩
      · rintro ⟨⟨b, first⟩, others, rest⟩
        exact ⟨b :: others, by rw [first, rest]; rfl⟩

theorem Checked.toExcept_eq_ok {α : Type} {reading : Checked α} {refusal : List Cause → Failure} {a : α} :
    reading.toExcept refusal = .ok a ↔ reading = .ok a := by
  cases reading <;> simp [toExcept]

end EnvAudit
