import EnvAudit.Document.Basic
import EnvAudit.Json.Reader
import EnvAudit.Proofs.Failure
import Mathlib.Tactic.Tauto

namespace EnvAudit

namespace Document
variable {entries : List (Document × Document)}

mutual

def hasDistinctKeys : Document → Bool
  | list items => haveDistinctKeys items
  | set items => haveDistinctKeys items
  | map entries => distinctEntries entries
  | pair first second => first.hasDistinctKeys && second.hasDistinctKeys
  | _ => true

def haveDistinctKeys : List Document → Bool
  | [] => true
  | item :: items => item.hasDistinctKeys && haveDistinctKeys items

def distinctEntries : List (Document × Document) → Bool
  | [] => true
  | (key, value) :: entries =>
    entries.all (fun other => !key.sameKey other.1) && key.hasDistinctKeys && value.hasDistinctKeys &&
      distinctEntries entries

end

theorem distinctEntries_iff : distinctEntries entries = true ↔
    (entries.map (·.1)).Pairwise (fun a b => a.sameKey b = false) ∧
      ∀ entry ∈ entries, entry.1.hasDistinctKeys = true ∧ entry.2.hasDistinctKeys = true := by
  induction entries with
  | nil => simp [distinctEntries]
  | cons entry entries ih =>
      simp only [distinctEntries, Bool.and_eq_true, List.all_eq_true, Bool.not_eq_true', ih, List.map_cons,
        List.pairwise_cons, List.forall_mem_map, List.forall_mem_cons]
      tauto

theorem pairwise_text_iff {names : List String} :
    (names.map text).Pairwise (fun a b => a.sameKey b = false) ↔ names.Nodup := by
  rw [List.pairwise_map]
  simp [sameKey, List.Nodup]

theorem mem_of_valueOf? {key : String} {v : Document} (found : valueOf? entries key = some v) :
    ∃ entry ∈ entries, entry.2 = v := by
  obtain ⟨entry, first, rfl⟩ := Option.map_eq_some_iff.mp found
  exact ⟨entry, List.mem_of_find?_eq_some first, rfl⟩

end Document

namespace Json
open Document

theorem membersToEntries_eq_map (members : List (String × Json)) :
    membersToEntries members = members.map fun entry => (.text entry.1, entry.2.toDocument) := by
  induction members with
  | nil => rfl
  | cons entry members ih => rw [membersToEntries, ih, List.map_cons]

theorem distinctEntries_members_iff {members : List (String × Json)} :
    distinctEntries (membersToEntries members) = true ↔
      (members.map (·.1)).Nodup ∧ ∀ entry ∈ members, entry.2.toDocument.hasDistinctKeys = true := by
  rw [membersToEntries_eq_map, distinctEntries_iff, List.map_map, ← pairwise_text_iff, List.map_map,
    List.forall_mem_map]
  simp [hasDistinctKeys, Function.comp_def]

theorem distinctEntries_setMember {members : List (String × Json)} (name : String) {value : Json}
    (distinct : distinctEntries (membersToEntries members) = true)
    (lawful : value.toDocument.hasDistinctKeys = true) :
    distinctEntries (membersToEntries (setMember members name value)) = true := by
  rw [distinctEntries_members_iff] at distinct ⊢
  unfold setMember
  split
  next known =>
    have names : (members.map fun entry => if entry.1 == name then (name, value) else entry).map (·.1) =
        members.map (·.1) := by
      rw [List.map_map]
      refine List.map_congr_left fun entry _ => ?_
      by_cases same : entry.1 = name <;> simp [same]
    rw [names, List.forall_mem_map]
    refine ⟨distinct.1, fun entry member => ?_⟩
    split
    · exact lawful
    · exact distinct.2 entry member
  next fresh =>
    have absent : name ∉ members.map (·.1) := by simpa using fresh
    rw [List.map_append, List.forall_mem_append, List.map_singleton, List.forall_mem_singleton]
    have apart : ∀ other ∈ members.map (·.1), ∀ last ∈ [name], other ≠ last := by
      rintro other member last here rfl
      exact absent (List.mem_singleton.mp here ▸ member)
    exact ⟨List.nodup_append.mpr ⟨distinct.1, by simp, apart⟩, distinct.2, lawful⟩

/-! ## Texts -/

theorem hasDistinctKeys_words : ∀ entry ∈ words, entry.2.toDocument.hasDistinctKeys = true :=
  List.all_eq_true.mp rfl

theorem hasDistinctKeys_readNumber? {negative : Bool} {s rest : List Char} {v : Json}
    (read : readNumber? negative s = some (.ok (v, rest))) : v.toDocument.hasDistinctKeys = true := by
  unfold readNumber? at read
  dsimp only at read
  repeat' split at read
  all_goals cases read
  all_goals rfl

theorem hasDistinctKeys_readAtom {s rest : List Char} {v : Json} (read : readAtom s = .ok (v, rest)) :
    v.toDocument.hasDistinctKeys = true := by
  unfold readAtom at read
  split at read
  next result found =>
    cases read
    obtain ⟨entry, member, same⟩ := List.exists_of_findSome?_eq_some found
    obtain ⟨tail, -, same⟩ := Option.map_eq_some_iff.mp same
    cases same
    exact hasDistinctKeys_words entry member
  next =>
    dsimp only at read
    split at read
    next result found =>
      rw [read] at found
      split at found <;> exact hasDistinctKeys_readNumber? found
    next => cases read

variable {fuel : Nat}

def ReadsDistinct (fuel : Nat) : Prop :=
  (∀ s v rest, readValue fuel s = .ok (v, rest) → v.toDocument.hasDistinctKeys = true) ∧
  (∀ s items rest, readItems fuel s = .ok (items, rest) → haveDistinctKeys (itemsToDocuments items) = true) ∧
  ∀ before s members rest, distinctEntries (membersToEntries before) = true →
    readMembers fuel before s = .ok (members, rest) → distinctEntries (membersToEntries members) = true

theorem ReadsDistinct.value (h : ReadsDistinct fuel) {s rest : List Char} {v : Json}
    (read : readValue (fuel + 1) s = .ok (v, rest)) : v.toDocument.hasDistinctKeys = true := by
  obtain ⟨-, items, members⟩ := h
  unfold readValue at read
  split at read
  next =>
    obtain ⟨found, -, read⟩ := ok_of_bind read
    cases read
    rfl
  next =>
    split at read
    next =>
      cases read
      rfl
    next =>
      obtain ⟨found, inner, read⟩ := ok_of_bind read
      cases read
      exact items _ _ _ inner
  next =>
    split at read
    next =>
      cases read
      rfl
    next =>
      obtain ⟨found, inner, read⟩ := ok_of_bind read
      cases read
      exact members _ _ _ _ rfl inner
  next => exact hasDistinctKeys_readAtom read

theorem ReadsDistinct.items (h : ReadsDistinct fuel) {s rest : List Char} {items : List Json}
    (read : readItems (fuel + 1) s = .ok (items, rest)) : haveDistinctKeys (itemsToDocuments items) = true := by
  obtain ⟨values, others, -⟩ := h
  obtain ⟨⟨item, tail⟩, first, read⟩ := ok_of_bind (readItems.eq_2 .. ▸ read)
  have lawful := values _ _ _ first
  dsimp only at read
  split at read
  next =>
    cases read
    simp [itemsToDocuments, haveDistinctKeys, lawful]
  next =>
    obtain ⟨found, inner, read⟩ := ok_of_bind read
    cases read
    simp [itemsToDocuments, haveDistinctKeys, lawful, others _ _ _ inner]
  next => cases read

theorem ReadsDistinct.members (h : ReadsDistinct fuel) {before members : List (String × Json)}
    {s rest : List Char} (distinct : distinctEntries (membersToEntries before) = true)
    (read : readMembers (fuel + 1) before s = .ok (members, rest)) :
    distinctEntries (membersToEntries members) = true := by
  obtain ⟨values, -, others⟩ := h
  unfold readMembers at read
  split at read
  next =>
    obtain ⟨⟨name, tail⟩, -, read⟩ := ok_of_bind read
    dsimp only at read
    split at read
    next =>
      obtain ⟨⟨value, tail⟩, inner, read⟩ := ok_of_bind read
      have lawful := distinctEntries_setMember name distinct (values _ _ _ inner)
      dsimp only at read
      split at read
      next =>
        cases read
        exact lawful
      next => exact others _ _ _ _ lawful read
      next => cases read
    next => cases read
  next => cases read

theorem readsDistinct (fuel : Nat) : ReadsDistinct fuel := by
  -- The three readers call each other with less fuel, so one induction has to serve them all.
  induction fuel with
  | zero =>
      refine ⟨fun s v rest read => ?_, fun s items rest read => ?_, fun before s members rest _ read => ?_⟩
      · rw [readValue] at read
        cases read
      · rw [readItems] at read
        cases read
      · rw [readMembers] at read
        cases read
  | succ fuel ih =>
      exact ⟨fun _ _ _ => ih.value, fun _ _ _ => ih.items, fun _ _ _ _ => ih.members⟩

/-- A JSON text may repeat keys, but the document that is read from it does not. -/
theorem hasDistinctKeys_of_read {text : String} {v : Json} (reads : read text = .ok v) :
    v.toDocument.hasDistinctKeys = true := by
  unfold read at reads
  dsimp only at reads
  split at reads
  next value found =>
    cases reads
    unfold readText at found
    split at found
    next => cases found
    next =>
      obtain ⟨⟨value, tail⟩, inner, found⟩ := ok_of_bind found
      dsimp only at found
      split at found
      next =>
        cases found
        exact (readsDistinct _).1 _ _ _ inner
      next => cases found
  next => cases reads
  next => cases reads

end Json

end EnvAudit
