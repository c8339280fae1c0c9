import EnvAudit.Proofs.Json.Numbers
import EnvAudit.Proofs.Json.Strings

namespace EnvAudit.Json

/-- Values without numbers, in whose objects each name stands once. -/
inductive Textual : Json → Prop where
  | null : Textual null
  | bool (value : Bool) : Textual (bool value)
  | str (value : String) : Textual (str value)
  | arr {items : List Json} : (∀ item ∈ items, Textual item) → Textual (arr items)
  | obj {members : List (String × Json)} : (members.map (·.1)).Nodup → (∀ entry ∈ members, Textual entry.2) →
      Textual (obj members)

/-- Values without overlong whole numbers, in whose objects each name stands once. -/
inductive IsWritable : Json → Prop where
  | null : IsWritable null
  | bool (value : Bool) : IsWritable (bool value)
  | int {value : Int} : (int value).fits = true → IsWritable (int value)
  | float (value : Binary64) : IsWritable (float value)
  | str (value : String) : IsWritable (str value)
  | arr {items : List Json} : (∀ item ∈ items, IsWritable item) → IsWritable (arr items)
  | obj {members : List (String × Json)} : (members.map (·.1)).Nodup → (∀ entry ∈ members, IsWritable entry.2) →
      IsWritable (obj members)

theorem Textual.isWritable {v : Json} (h : Textual v) : IsWritable v := by
  induction h with
  | null => exact .null
  | bool value => exact .bool value
  | str value => exact .str value
  | arr _ writable => exact .arr writable
  | obj distinct _ writable => exact .obj distinct writable

mutual

/-- What is read where a value was written. -/
def reread : Json → Json
  | float x => float (rereadFloat x)
  | arr items => arr (itemsReread items)
  | obj members => obj (membersReread members)
  | null => null
  | bool value => bool value
  | int value => int value
  | str value => str value

def itemsReread : List Json → List Json
  | [] => []
  | item :: items => item.reread :: itemsReread items

def membersReread : List (String × Json) → List (String × Json)
  | [] => []
  | (name, value) :: members => (name, value.reread) :: membersReread members

end

theorem reread_arr (items : List Json) : reread (arr items) = arr (items.map reread) := by
  rw [reread]
  congr 1
  induction items with
  | nil => rfl
  | cons item items ih => rw [itemsReread, ih, List.map_cons]

theorem reread_obj (members : List (String × Json)) :
    reread (obj members) = obj (members.map fun entry => (entry.1, entry.2.reread)) := by
  rw [reread]
  congr 1
  induction members with
  | nil => rfl
  | cons entry members ih => rw [membersReread, ih, List.map_cons]

theorem Textual.reread_eq {v : Json} (h : Textual v) : v.reread = v := by
  induction h with
  | null => rfl
  | bool value => rfl
  | str value => rfl
  | arr _ same => rw [reread_arr, List.map_congr_left same, List.map_id']
  | @obj members _ _ same =>
      have kept : ∀ entry ∈ members, (entry.1, entry.2.reread) = entry := fun entry member =>
        Prod.ext rfl (same entry member)
      rw [reread_obj, List.map_congr_left kept, List.map_id']

/-! ## Gaps -/

theorem skipGap_append {gap : List Char} (blank : ∀ c ∈ gap, isGap c = true) (s : List Char) :
    skipGap (gap ++ s) = skipGap s :=
  List.dropWhile_append_of_pos blank

theorem isGap_of_mem_breakAt {layout : Layout} {level : Nat} : ∀ c ∈ layout.breakAt level, isGap c = true := by
  intro c member
  unfold Layout.breakAt at member
  split at member
  · rcases List.mem_cons.mp member with rfl | space
    · rfl
    · rw [List.eq_of_mem_replicate space]
      rfl
  · cases member

theorem separator_eq (layout : Layout) (level : Nat) :
    ∃ gap, layout.separator level = ',' :: gap ∧ ∀ c ∈ gap, isGap c = true := by
  unfold Layout.separator
  split
  · exact ⟨_, rfl, isGap_of_mem_breakAt⟩
  · exact ⟨[' '], rfl, List.all_eq_true.mp rfl⟩

theorem endsNumber_cons {c : Char} (digit : c.isDigit = false) (other : c ∉ ['.', 'e', 'E']) (s : List Char) :
    EndsNumber (c :: s) := by
  rintro _ ⟨⟩
  exact ⟨digit, other⟩

theorem endsNumber_gap {gap s : List Char} (blank : ∀ c ∈ gap, isGap c = true) (ends : EndsNumber s) :
    EndsNumber (gap ++ s) := by
  cases gap with
  | nil => exact ends
  | cons c gap =>
      have blank := blank c List.mem_cons_self
      simp only [isGap, Bool.or_eq_true, beq_iff_eq] at blank
      rcases blank with ((rfl | rfl) | rfl) | rfl <;> exact endsNumber_cons (by decide) (by decide) _

def StartsNumber (c : Char) : Prop := c.isDigit = true ∨ c ∈ ['-', 'N', 'I']

def IsOpener (c : Char) : Prop := StartsNumber c ∨ c ∈ ['n', 't', 'f', '"', '[', '\x7b']

instance (c : Char) : Decidable (StartsNumber c) := inferInstanceAs (Decidable (_ ∨ _))

instance (c : Char) : Decidable (IsOpener c) := inferInstanceAs (Decidable (_ ∨ _))

theorem StartsNumber.ne {c : Char} (starts : StartsNumber c) {other : Char} (none : ¬ StartsNumber other) :
    c ≠ other :=
  fun same => none (same ▸ starts)

theorem isGap_opener {c : Char} (opener : IsOpener c) : isGap c = false := by
  rcases opener with starts | listed
  · have ne (other : Char) (none : ¬ StartsNumber other) : c ≠ other := starts.ne none
    simp [isGap, ne ' ' (by decide), ne '\t' (by decide), ne '\n' (by decide), ne '\r' (by decide)]
  · simp only [List.mem_cons, List.not_mem_nil, or_false] at listed
    rcases listed with rfl | rfl | rfl | rfl | rfl | rfl <;> rfl

theorem skipGap_opener {c : Char} (opener : IsOpener c) (s : List Char) : skipGap (c :: s) = c :: s :=
  List.dropWhile_cons_of_neg (by simp [isGap_opener opener])

variable {layout : Layout} {level : Nat} {v : Json}

theorem start_number (negative : Bool) {whole : List Char} (h : IsWhole whole) (rest : List Char) :
    ∃ c, StartsNumber c ∧ ∃ tail, signOf negative ++ (whole ++ rest) = c :: tail := by
  obtain ⟨c, tail, rfl, digit⟩ := h.exists_cons
  cases negative with
  | false => exact ⟨c, .inl digit, _, rfl⟩
  | true => exact ⟨'-', .inr (by decide), _, rfl⟩

theorem start_render (n : Int) : ∃ c, StartsNumber c ∧ ∃ tail, (Numeral.render n).toList = c :: tail := by
  rw [render_eq, ← List.append_nil (Numeral.digits _)]
  exact start_number _ (isWhole_digits _) []

theorem start_writeFloat (x : Binary64) : ∃ c, StartsNumber c ∧ ∃ tail, writeFloat x = c :: tail := by
  cases x with
  | nan => exact ⟨'N', .inr (by decide), _, rfl⟩
  | infinite negative =>
      cases negative with
      | false => exact ⟨'I', .inr (by decide), _, rfl⟩
      | true => exact ⟨'-', .inr (by decide), _, rfl⟩
  | finite negative mantissa exponent =>
      obtain ⟨_, ⟨whole, tail, rfl, isWhole, -⟩, written⟩ := exists_writeFloat negative mantissa exponent
      rw [written]
      exact start_number negative isWhole tail

theorem IsWritable.opener (h : IsWritable v) (layout : Layout) (level : Nat) :
    ∃ c, IsOpener c ∧ ∃ tail, writeAt layout level v = c :: tail := by
  cases h with
  | null => exact ⟨'n', .inr (by decide), _, by rw [writeAt]; rfl⟩
  | bool value =>
      cases value with
      | false => exact ⟨'f', .inr (by decide), _, by rw [writeAt]; rfl⟩
      | true => exact ⟨'t', .inr (by decide), _, by rw [writeAt]; rfl⟩
  | @int value _ =>
      obtain ⟨c, starts, tail, written⟩ := start_render value
      exact ⟨c, .inl starts, tail, by rw [writeAt, written]⟩
  | float value =>
      obtain ⟨c, starts, tail, written⟩ := start_writeFloat value
      exact ⟨c, .inl starts, tail, by rw [writeAt, written]⟩
  | str value => exact ⟨'"', .inr (by decide), _, by rw [writeAt]; rfl⟩
  | @arr items _ =>
      cases items with
      | nil => exact ⟨'[', .inr (by decide), _, by rw [writeAt]⟩
      | cons => exact ⟨'[', .inr (by decide), _, by rw [writeAt]; rfl⟩
  | @obj members _ _ =>
      rcases members with _ | ⟨⟨name, value⟩, members⟩
      · exact ⟨'\x7b', .inr (by decide), _, by rw [writeAt]⟩
      · exact ⟨'\x7b', .inr (by decide), _, by rw [writeAt]; rfl⟩

theorem IsWritable.skipGap_writeAt (h : IsWritable v) (rest : List Char) :
    skipGap (writeAt layout level v ++ rest) = writeAt layout level v ++ rest := by
  obtain ⟨c, opener, tail, written⟩ := h.opener layout level
  rw [written, List.cons_append, skipGap_opener opener]

theorem IsWritable.writeAt_ne (h : IsWritable v) {mark : Char} (other : ¬ IsOpener mark) (rest tail : List Char) :
    writeAt layout level v ++ rest ≠ mark :: tail := by
  obtain ⟨c, opener, written, same⟩ := h.opener layout level
  rw [same, List.cons_append]
  rintro ⟨⟩
  exact other opener

/-! ## Values -/

/-- However deep a value stands, and whatever ends it, it is read where it was written. -/
def ReadsBack (layout : Layout) (v : Json) : Prop :=
  ∀ (level fuel : Nat) (rest : List Char), EndsNumber rest → (writeAt layout level v).length ≤ fuel →
    readValue fuel (writeAt layout level v ++ rest) = .ok (v.reread, rest)

theorem skipGap_mark {gap : List Char} (blank : ∀ c ∈ gap, isGap c = true) (mark : Char)
    (solid : isGap mark = false) (rest : List Char) : skipGap (gap ++ mark :: rest) = mark :: rest := by
  rw [skipGap_append blank]
  exact List.dropWhile_cons_of_neg (by simp [solid])

theorem skipGap_comma (s : List Char) : skipGap (',' :: s) = ',' :: s := List.dropWhile_cons_of_neg (by decide)

section items
variable {fuel : Nat} {gap rest : List Char} {item : Json} {items : List Json}

theorem readItems_last (back : ReadsBack layout item) (enough : (writeAt layout level item).length ≤ fuel)
    (blank : ∀ c ∈ gap, isGap c = true) :
    readItems (fuel + 1) (writeAt layout level item ++ (gap ++ ']' :: rest)) = .ok ([item.reread], rest) := by
  have ends : EndsNumber (gap ++ ']' :: rest) :=
    endsNumber_gap blank (endsNumber_cons (by decide) (by decide) rest)
  rw [readItems, back _ _ _ ends enough]
  simp only [bind, Except.bind, skipGap_mark blank ']' rfl]

theorem readItems_more {more : List Char} (back : ReadsBack layout item)
    (enough : (writeAt layout level item).length ≤ fuel) (blank : ∀ c ∈ gap, isGap c = true)
    (others : readItems fuel (skipGap more) = .ok (items, rest)) :
    readItems (fuel + 1) (writeAt layout level item ++ ',' :: (gap ++ more)) = .ok (item.reread :: items, rest) := by
  rw [readItems, back _ _ _ (endsNumber_cons (by decide) (by decide) _) enough]
  simp only [bind, Except.bind, skipGap_comma, skipGap_append blank, others]

theorem readItems_write (writable : ∀ other ∈ items, IsWritable other)
    (back : ∀ other ∈ item :: items, ReadsBack layout other)
    (enough : (writeAt layout (level + 1) item ++ writeItems layout level items).length ≤ fuel) :
    readItems fuel (writeAt layout (level + 1) item ++ (writeItems layout level items ++ rest)) =
      .ok ((item :: items).map reread, rest) := by
  rw [List.length_append] at enough
  induction items generalizing item fuel with
  | nil =>
      simp only [writeItems, List.length_append, List.length_singleton] at enough
      obtain ⟨fuel, rfl⟩ := Nat.exists_eq_succ_of_ne_zero (show fuel ≠ 0 by omega)
      rw [writeItems, List.append_assoc]
      exact readItems_last (back item List.mem_cons_self) (by omega) isGap_of_mem_breakAt
  | cons second items ih =>
      obtain ⟨gap, separator, blank⟩ := separator_eq layout (level + 1)
      simp only [writeItems, separator, List.length_append, List.length_cons] at enough
      obtain ⟨fuel, rfl⟩ := Nat.exists_eq_succ_of_ne_zero (show fuel ≠ 0 by omega)
      have others := ih (fun other member => writable other (List.mem_cons_of_mem _ member))
        (fun other member => back other (List.mem_cons_of_mem _ member)) (show _ ≤ fuel by omega)
      rw [← (writable second List.mem_cons_self).skipGap_writeAt] at others
      simp only [writeItems, separator, List.cons_append, List.append_assoc]
      exact readItems_more (back item List.mem_cons_self) (by omega) blank others

end items

theorem setMember_of_notMem {members : List (String × Json)} {name : String} (fresh : name ∉ members.map (·.1))
    (value : Json) : setMember members name value = members ++ [(name, value)] := by
  have absent : members.any (·.1 == name) = false := by
    rw [List.any_eq_false]
    intro entry member same
    exact fresh (beq_iff_eq.mp same ▸ List.mem_map_of_mem member)
  rw [setMember, absent]
  rfl

section members
variable {fuel : Nat} {gap rest : List Char} {before members : List (String × Json)} {name : String}
  {value : Json}

def readMore (fuel : Nat) (members : List (String × Json)) (s : List Char) :
    Except Stop (List (String × Json) × List Char) :=
  match skipGap s with
  | '}' :: rest => .ok (members, rest)
  | ',' :: rest => readMembers fuel members (skipGap rest)
  | rest => .error (.flaw .comma rest.length)

theorem readMembers_name {s : List Char} (solid : skipGap s = s) :
    readMembers (fuel + 1) before (writeString layout.ascii name ++ ':' :: ' ' :: s) = (do
      let (value, rest) ← readValue fuel s
      readMore fuel (setMember before name value) rest) := by
  have space : skipGap (' ' :: s) = s := (List.dropWhile_cons_of_pos rfl).trans solid
  have colon : skipGap (':' :: ' ' :: s) = ':' :: ' ' :: s := List.dropWhile_cons_of_neg (by decide)
  simp only [writeString, List.cons_append, List.append_assoc, List.nil_append, readMembers]
  rw [readString_writeString]
  simp only [bind, Except.bind, colon, space]
  rfl

theorem readMembers_last (writable : IsWritable value) (back : ReadsBack layout value)
    (fresh : name ∉ before.map (·.1)) (enough : (writeAt layout level value).length ≤ fuel)
    (blank : ∀ c ∈ gap, isGap c = true) :
    readMembers (fuel + 1) before
        (writeString layout.ascii name ++ ':' :: ' ' :: (writeAt layout level value ++ (gap ++ '}' :: rest))) =
      .ok (before ++ [(name, value.reread)], rest) := by
  have ends : EndsNumber (gap ++ '}' :: rest) :=
    endsNumber_gap blank (endsNumber_cons (by decide) (by decide) rest)
  rw [readMembers_name (writable.skipGap_writeAt _), back _ _ _ ends enough]
  simp only [bind, Except.bind, readMore, skipGap_mark blank '}' rfl, setMember_of_notMem fresh]

theorem readMembers_more {more : List Char} (writable : IsWritable value) (back : ReadsBack layout value)
    (fresh : name ∉ before.map (·.1)) (enough : (writeAt layout level value).length ≤ fuel)
    (blank : ∀ c ∈ gap, isGap c = true) :
    readMembers (fuel + 1) before
        (writeString layout.ascii name ++ ':' :: ' ' :: (writeAt layout level value ++ ',' :: (gap ++ more))) =
      readMembers fuel (before ++ [(name, value.reread)]) (skipGap more) := by
  rw [readMembers_name (writable.skipGap_writeAt _),
    back _ _ _ (endsNumber_cons (by decide) (by decide) _) enough]
  simp only [bind, Except.bind, readMore, skipGap_comma, skipGap_append blank, setMember_of_notMem fresh]

theorem skipGap_writeString (ascii : Bool) (s : String) (rest : List Char) :
    skipGap (writeString ascii s ++ rest) = writeString ascii s ++ rest :=
  List.dropWhile_cons_of_neg (by decide)

theorem notMem_of_nodup (distinct : ((before ++ (name, value) :: members).map (·.1)).Nodup) :
    name ∉ before.map (·.1) := by
  rw [List.map_append, List.map_cons, List.nodup_append] at distinct
  exact fun member => distinct.2.2 name member name List.mem_cons_self rfl

theorem readMembers_write (distinct : ((before ++ (name, value) :: members).map (·.1)).Nodup)
    (writable : ∀ entry ∈ (name, value) :: members, IsWritable entry.2)
    (back : ∀ entry ∈ (name, value) :: members, ReadsBack layout entry.2)
    (enough : (writeAt layout (level + 1) value ++ writeMembers layout level members).length ≤ fuel) :
    readMembers fuel before (writeString layout.ascii name ++ ':' :: ' ' ::
        (writeAt layout (level + 1) value ++ (writeMembers layout level members ++ rest))) =
      .ok (before ++ ((name, value) :: members).map (fun entry => (entry.1, entry.2.reread)), rest) := by
  simp only [List.forall_mem_cons] at writable back
  rw [List.length_append] at enough
  induction members generalizing before name value fuel with
  | nil =>
      simp only [writeMembers, List.length_append, List.length_singleton] at enough
      obtain ⟨fuel, rfl⟩ := Nat.exists_eq_succ_of_ne_zero (show fuel ≠ 0 by omega)
      rw [writeMembers, List.append_assoc]
      exact readMembers_last writable.1 back.1 (notMem_of_nodup distinct) (by omega) isGap_of_mem_breakAt
  | cons second members ih =>
      obtain ⟨name', value'⟩ := second
      obtain ⟨gap, separator, blank⟩ := separator_eq layout (level + 1)
      simp only [writeMembers, separator, List.length_append, List.length_cons] at enough
      obtain ⟨fuel, rfl⟩ := Nat.exists_eq_succ_of_ne_zero (show fuel ≠ 0 by omega)
      have shifted : ((before ++ [(name, value.reread)]) ++ (name', value') :: members).map (·.1) =
          (before ++ (name, value) :: (name', value') :: members).map (·.1) := by simp
      have left :
          (writeAt layout (level + 1) value').length + (writeMembers layout level members).length ≤ fuel := by
        omega
      have others := ih (shifted.symm ▸ distinct) left (List.forall_mem_cons.mp writable.2)
        (List.forall_mem_cons.mp back.2)
      rw [← skipGap_writeString, List.append_assoc] at others
      simp only [writeMembers, separator, List.cons_append, List.append_assoc]
      rw [readMembers_more writable.1 back.1 (notMem_of_nodup distinct) (by omega) blank, others]
      rfl

end members

theorem readValue_word {fuel : Nat} {c : Char} {word rest : List Char} {value : Json}
    (letter : c ≠ '"' ∧ c ≠ '[' ∧ c ≠ '\x7b')
    (known : words.findSome? (fun (word', value) =>
        (dropWord? word' (c :: word ++ rest)).map fun rest => (value, rest)) =
      some (value, rest)) : readValue (fuel + 1) (c :: word ++ rest) = .ok (value, rest) := by
  obtain ⟨quote, bracket, brace⟩ := letter
  rw [List.cons_append, readValue]
  · unfold readAtom
    rw [← List.cons_append, known]
  · simpa using quote
  · simpa using bracket
  · simpa using brace

theorem readValue_number {fuel : Nat} {c : Char} {s : List Char} (starts : StartsNumber c) :
    readValue (fuel + 1) (c :: s) = readAtom (c :: s) := by
  rw [readValue]
  · rintro _ ⟨⟩
    exact starts.ne (by decide) rfl
  · rintro _ ⟨⟩
    exact starts.ne (by decide) rfl
  · rintro _ ⟨⟩
    exact starts.ne (by decide) rfl

theorem readValue_items {fuel : Nat} {s rest : List Char} {items : List Json}
    (closed : ∀ tail, skipGap s ≠ ']' :: tail) (read : readItems fuel (skipGap s) = .ok (items, rest)) :
    readValue (fuel + 1) ('[' :: s) = .ok (arr items, rest) := by
  rw [readValue]
  split
  next tail same => exact absurd same (closed tail)
  next =>
    rw [read]
    rfl

theorem readValue_members {fuel : Nat} {s rest : List Char} {members : List (String × Json)}
    (closed : ∀ tail, skipGap s ≠ '}' :: tail) (read : readMembers fuel [] (skipGap s) = .ok (members, rest)) :
    readValue (fuel + 1) ('{' :: s) = .ok (obj members, rest) := by
  rw [readValue]
  split
  next tail same => exact absurd same (closed tail)
  next =>
    rw [read]
    rfl

theorem IsWritable.exists_fuel (h : IsWritable v) {fuel : Nat} (enough : (writeAt layout level v).length ≤ fuel) :
    ∃ n, fuel = n + 1 := by
  obtain ⟨c, -, tail, written⟩ := h.opener layout level
  rw [written, List.length_cons] at enough
  exact Nat.exists_eq_succ_of_ne_zero (by omega)

theorem readsBack_arr {items : List Json} (writable : ∀ item ∈ items, IsWritable item)
    (back : ∀ item ∈ items, ReadsBack layout item) : ReadsBack layout (arr items) := by
  intro level fuel rest ends enough
  obtain ⟨fuel, rfl⟩ := (IsWritable.arr writable).exists_fuel enough
  rw [reread_arr]
  cases items with
  | nil =>
      rw [writeAt]
      rfl
  | cons item items =>
      have first := writable item List.mem_cons_self
      simp only [writeAt, List.cons_append, List.append_assoc, List.length_append, List.length_cons] at enough ⊢
      have opened : skipGap (layout.breakAt (level + 1) ++ (writeAt layout (level + 1) item ++
          (writeItems layout level items ++ rest))) =
          writeAt layout (level + 1) item ++ (writeItems layout level items ++ rest) := by
        rw [skipGap_append isGap_of_mem_breakAt, first.skipGap_writeAt]
      refine readValue_items (fun tail => ?_) ?_ <;> rw [opened]
      · exact first.writeAt_ne (by decide) _ _
      · refine readItems_write (fun other member => writable other (List.mem_cons_of_mem _ member)) back ?_
        rw [List.length_append]
        omega

theorem readsBack_obj {members : List (String × Json)} (distinct : (members.map (·.1)).Nodup)
    (writable : ∀ entry ∈ members, IsWritable entry.2) (back : ∀ entry ∈ members, ReadsBack layout entry.2) :
    ReadsBack layout (obj members) := by
  intro level fuel rest ends enough
  obtain ⟨fuel, rfl⟩ := (IsWritable.obj distinct writable).exists_fuel enough
  rw [reread_obj]
  rcases members with _ | ⟨⟨name, value⟩, members⟩
  · rw [writeAt]
    rfl
  · simp only [writeAt, List.cons_append, List.append_assoc, List.length_append, List.length_cons] at enough ⊢
    have opened : skipGap (layout.breakAt (level + 1) ++ (writeString layout.ascii name ++ ':' :: ' ' ::
        (writeAt layout (level + 1) value ++ (writeMembers layout level members ++ rest)))) =
        writeString layout.ascii name ++ ':' :: ' ' ::
          (writeAt layout (level + 1) value ++ (writeMembers layout level members ++ rest)) := by
      rw [skipGap_append isGap_of_mem_breakAt, skipGap_writeString]
    refine readValue_members (fun tail => ?_) ?_ <;> rw [opened]
    · rw [writeString, List.cons_append]
      exact fun same => absurd (List.cons.inj same).1 (by decide)
    · have fresh : (([] ++ (name, value) :: members : List (String × Json)).map (·.1)).Nodup := distinct
      refine readMembers_write fresh writable back ?_
      rw [List.length_append]
      omega

theorem IsWritable.readsBack (h : IsWritable v) (layout : Layout) : ReadsBack layout v := by
  induction h with
  | null =>
      intro level fuel rest ends enough
      obtain ⟨fuel, rfl⟩ := IsWritable.null.exists_fuel enough
      rw [writeAt]
      exact readValue_word (by decide) rfl
  | bool value =>
      intro level fuel rest ends enough
      obtain ⟨fuel, rfl⟩ := (IsWritable.bool value).exists_fuel enough
      rw [writeAt]
      cases value with
      | false => exact readValue_word (by decide) rfl
      | true => exact readValue_word (by decide) rfl
  | str value =>
      intro level fuel rest ends enough
      obtain ⟨fuel, rfl⟩ := (IsWritable.str value).exists_fuel enough
      simp only [writeAt, writeString, List.cons_append, List.append_assoc, List.nil_append, readValue]
      rw [readString_writeString]
      rfl
  | @int value short =>
      intro level fuel rest ends enough
      obtain ⟨fuel, rfl⟩ := (IsWritable.int short).exists_fuel enough
      obtain ⟨c, starts, tail, written⟩ := start_render value
      have read := readAtom_int short ends
      rw [written, List.cons_append] at read
      rw [writeAt, written, List.cons_append, readValue_number starts, read, reread]
  | float value =>
      intro level fuel rest ends enough
      obtain ⟨fuel, rfl⟩ := (IsWritable.float value).exists_fuel enough
      obtain ⟨c, starts, tail, written⟩ := start_writeFloat value
      have read := readAtom_float value ends
      rw [written, List.cons_append] at read
      rw [writeAt, written, List.cons_append, readValue_number starts, read, reread]
  | arr writable back => exact readsBack_arr writable back
  | obj distinct writable back => exact readsBack_obj distinct writable back

/-! ## Texts -/

theorem readText_writeAt (h : IsWritable v) (layout : Layout) (gap : List Char)
    (blank : ∀ c ∈ gap, isGap c = true) :
    readText (writeAt layout 0 v ++ gap) = .ok v.reread := by
  have enough : (writeAt layout 0 v).length ≤ 2 * (writeAt layout 0 v ++ gap).length + 2 := by
    rw [List.length_append]
    omega
  have ended : skipGap gap = [] := by simpa [skipGap] using skipGap_append blank []
  have ends : EndsNumber gap := by simpa using endsNumber_gap blank (s := []) (by simp [EndsNumber])
  unfold readText
  split
  next tail same => exact absurd same (h.writeAt_ne (by decide) _ _)
  next =>
    rw [h.skipGap_writeAt, h.readsBack layout _ _ _ ends enough]
    simp only [bind, Except.bind, ended]

theorem read_write_reread (h : IsWritable v) (layout : Layout) :
    read (write layout v) = .ok v.reread ∧ read (write layout v ++ "\n") = .ok v.reread := by
  have bare := readText_writeAt h layout [] (by simp)
  have ended := readText_writeAt h layout ['\n'] (List.all_eq_true.mp rfl)
  rw [List.append_nil] at bare
  constructor
  · simp only [read, write, String.toList_ofList, bare]
  · have text : (write layout v ++ "\n").toList = writeAt layout 0 v ++ ['\n'] := by
      rw [String.toList_append, write, String.toList_ofList]
      rfl
    simp only [read, text, ended]

theorem read_write (h : Textual v) (layout : Layout) :
    read (write layout v) = .ok v ∧ read (write layout v ++ "\n") = .ok v := by
  simpa only [h.reread_eq] using read_write_reread h.isWritable layout

/-! ## Characters of written values -/

theorem isPrinted_breakAt : ∀ c ∈ layout.breakAt level, IsPrinted c := by
  intro c member
  unfold Layout.breakAt at member
  split at member
  · rcases List.mem_cons.mp member with rfl | space
    · exact .inl rfl
    · rw [List.eq_of_mem_replicate space]
      exact .inr (by decide)
  · cases member

theorem isPrinted_separator : ∀ c ∈ layout.separator level, IsPrinted c := by
  have mark (c : Char) (inside : 0x20 ≤ c.toNat ∧ c.toNat < 0x7f) : IsPrinted c := .inr inside
  unfold Layout.separator
  split
  · exact List.forall_mem_cons.mpr ⟨mark ',' (by decide), isPrinted_breakAt⟩
  · simp [mark]

def IsPrintedValue (layout : Layout) (v : Json) : Prop := ∀ level, ∀ c ∈ writeAt layout level v, IsPrinted c

theorem isPrinted_writeItems {items : List Json} (printed : ∀ item ∈ items, IsPrintedValue layout item) :
    ∀ c ∈ writeItems layout level items, IsPrinted c := by
  induction items with
  | nil =>
      simp only [writeItems, List.forall_mem_append, List.forall_mem_singleton]
      exact ⟨isPrinted_breakAt, .inr (by decide)⟩
  | cons item items ih =>
      obtain ⟨first, others⟩ := List.forall_mem_cons.mp printed
      simp only [writeItems, List.forall_mem_append]
      exact ⟨⟨isPrinted_separator, first _⟩, ih others⟩

theorem isPrinted_writeMembers (ascii : layout.ascii = true) {members : List (String × Json)}
    (printed : ∀ entry ∈ members, IsPrintedValue layout entry.2) :
    ∀ c ∈ writeMembers layout level members, IsPrinted c := by
  induction members with
  | nil =>
      simp only [writeMembers, List.forall_mem_append, List.forall_mem_singleton]
      exact ⟨isPrinted_breakAt, .inr (by decide)⟩
  | cons entry members ih =>
      obtain ⟨first, others⟩ := List.forall_mem_cons.mp printed
      simp only [writeMembers, ascii, List.forall_mem_append, List.forall_mem_cons]
      exact ⟨⟨⟨isPrinted_separator, isPrinted_writeString entry.1⟩, .inr (by decide), .inr (by decide), first _⟩,
        ih others⟩

theorem Textual.isPrinted_writeAt (h : Textual v) (ascii : layout.ascii = true) : IsPrintedValue layout v := by
  induction h with
  | null =>
      intro level
      rw [writeAt]
      simp [IsPrinted]
  | bool value =>
      intro level
      rw [writeAt]
      cases value <;> simp [IsPrinted]
  | str value =>
      intro level
      rw [writeAt, ascii]
      exact isPrinted_writeString value
  | @arr items textual printed =>
      intro level
      cases items with
      | nil =>
          rw [writeAt]
          simp [IsPrinted]
      | cons item items =>
          obtain ⟨first, others⟩ := List.forall_mem_cons.mp printed
          simp only [writeAt, List.cons_append, List.forall_mem_append, List.forall_mem_cons]
          exact ⟨.inr (by decide), ⟨isPrinted_breakAt, first _⟩, isPrinted_writeItems others⟩
  | @obj members distinct textual printed =>
      intro level
      rcases members with _ | ⟨⟨name, value⟩, members⟩
      · rw [writeAt]
        simp [IsPrinted]
      · obtain ⟨first, others⟩ := List.forall_mem_cons.mp printed
        simp only [writeAt, ascii, List.cons_append, List.forall_mem_append, List.forall_mem_cons]
        exact ⟨.inr (by decide),
          ⟨⟨isPrinted_breakAt, isPrinted_writeString name⟩, .inr (by decide), .inr (by decide), first _⟩,
          isPrinted_writeMembers ascii others⟩

theorem Textual.return_notMem_write (h : Textual v) (ascii : layout.ascii = true) :
    '\r' ∉ (write layout v ++ "\n").toList := by
  rw [String.toList_append, write, String.toList_ofList, List.mem_append, not_or]
  refine ⟨fun member => ?_, by decide⟩
  rcases h.isPrinted_writeAt ascii 0 _ member with feed | visible
  · exact absurd feed (by decide)
  · exact absurd visible.1 (by decide)

end EnvAudit.Json
