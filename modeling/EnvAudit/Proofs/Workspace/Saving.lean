import EnvAudit.Proofs.Text.Utf8
import EnvAudit.Workspace

namespace EnvAudit.Workspace
variable {w w' : Workspace} {place : List String} {entry : Entry}

/-! ## Entries -/

theorem not_isOutermost (free : w.entryAt? place ≠ some .directory) : isOutermost place = false := by
  unfold entryAt? at free
  split at free
  next => exact absurd rfl free
  next outside => simpa using outside

theorem find?_setEntry (w : Workspace) (place : List String) (entry : Entry) (other : List String) :
    ((w.setEntry place entry).entries.find? (·.1 == other)).map (·.2) =
      if other = place then some entry else (w.entries.find? (·.1 == other)).map (·.2) := by
  simp only [setEntry, List.find?_append, List.find?_filter]
  by_cases same : other = place
  · have none : w.entries.find? (fun a => decide ((a.1 != place) = true ∧ (a.1 == other) = true)) = none := by
      simp [same]
    rw [none, if_pos same]
    simp [same]
  · have alike : (fun a : List String × Entry => decide ((a.1 != place) = true ∧ (a.1 == other) = true)) =
        (·.1 == other) := by
      funext a
      by_cases here : a.1 = other <;> simp [here, same]
    have last : [(place, entry)].find? (·.1 == other) = none := by simpa using Ne.symm same
    rw [alike, last, Option.or_none, if_neg same]

theorem entryAt?_setEntry (free : w.entryAt? place ≠ some .directory) (entry : Entry) (other : List String) :
    (w.setEntry place entry).entryAt? other = if other = place then some entry else w.entryAt? other := by
  have outside := not_isOutermost free
  simp only [entryAt?, find?_setEntry]
  by_cases same : other = place
  · simp [same, outside]
  · simp only [if_neg same]

/-! ## Paths -/

theorem entryAt?_of_follow {start parts : List String} (found : w.follow start parts = .ok (place, entry)) :
    w.entryAt? place = some entry := by
  fun_induction follow w start parts <;> simp_all

theorem directory_of_follow {start rest : List String} {part : String} {found : List String × Entry}
    (follows : w.follow start (part :: rest) = .ok found) : w.entryAt? start = some .directory := by
  rw [follow] at follows
  split at follows <;> simp_all

def next? (start : List String) (part : String) : Option (List String) :=
  if part == "" || part == "." then some start
  else if part == ".." then some (above start)
  else if part == rootName then some [rootName]
  else if maxName < part.utf8ByteSize then none
  else some (start ++ [part])

theorem follow_cons {start : List String} (directory : w.entryAt? start = some .directory) (part : String)
    (rest : List String) : w.follow start (part :: rest) =
      match next? start part with
      | some next => w.follow next rest
      | none => .error .nameTooLong := by
  rw [follow, directory, next?]
  dsimp only
  repeat' split
  all_goals simp_all

theorem follow_setEntry (free : w.entryAt? place ≠ some .directory) (entry : Entry)
    {start parts found : List String} {old : Entry} (follows : w.follow start parts = .ok (found, old)) :
    (w.setEntry place entry).follow start parts = .ok (found, if found = place then entry else old) := by
  induction parts generalizing start with
  | nil =>
      rw [follow] at follows ⊢
      rw [entryAt?_setEntry free]
      cases here : w.entryAt? start with
      | none => simp [here] at follows
      | some old' =>
          simp only [here, Except.ok.injEq, Prod.mk.injEq] at follows
          obtain ⟨rfl, rfl⟩ := follows
          by_cases same : start = place <;> simp [same]
  | cons part rest ih =>
      -- A path goes on from directories only, and the place is none, so no step of it is touched.
      have directory := directory_of_follow follows
      have elsewhere : start ≠ place := by
        rintro rfl
        exact free directory
      have kept : (w.setEntry place entry).entryAt? start = some .directory := by
        rw [entryAt?_setEntry free, if_neg elsewhere, directory]
      rw [follow_cons directory] at follows
      rw [follow_cons kept]
      cases next : next? start part with
      | none => simp [next] at follows
      | some next' => exact ih (by simpa only [next] using follows)

theorem follow_append (start parts rest : List String) : w.follow start (parts ++ rest) =
    (w.follow start parts).bind fun found => w.follow found.1 rest := by
  induction parts generalizing start with
  | nil =>
      cases here : w.entryAt? start with
      | none => cases rest <;> simp [follow, here, Except.bind]
      | some entry => simp [follow, here, Except.bind]
  | cons part parts ih =>
      cases here : w.entryAt? start with
      | none => simp [follow, here, Except.bind]
      | some entry =>
          cases entry with
          | file bytes => simp [follow, here, Except.bind]
          | directory =>
              rw [List.cons_append, follow_cons here, follow_cons here]
              cases next? start part with
              | none => rfl
              | some next => exact ih next

theorem follow_here (start : List String) (here : w.entryAt? start = some entry) :
    w.follow start [] = .ok (start, entry) := by
  rw [follow, here]

theorem follow_nil_missing {start : List String} (missing : w.follow start [] = .error .missing) :
    w.entryAt? start = none := by
  rw [follow] at missing
  split at missing
  next => cases missing
  next nothing => exact nothing

def IsPlainName (name : String) : Prop := name ≠ "" ∧ name ≠ "." ∧ name ≠ ".." ∧ name.utf8ByteSize ≤ maxName

theorem next?_of_isPlainName {name : String} (plain : IsPlainName name) (start : List String) :
    next? start name = some (if name = rootName then [rootName] else start ++ [name]) := by
  obtain ⟨notEmpty, notHere, notAbove, short⟩ := plain
  by_cases root : name = rootName
  · subst root
    rfl
  · simp [next?, notEmpty, notHere, notAbove, root, Nat.not_lt.mpr short]

theorem follow_new {parts dir : List String} {name : String} (parent : w.follow [] parts = .ok (dir, .directory))
    (missing : w.follow [] (parts ++ [name]) = .error .missing) (plain : IsPlainName name) (entry : Entry) :
    (w.setEntry (dir ++ [name]) entry).follow [] (parts ++ [name]) = .ok (dir ++ [name], entry) := by
  have directory := entryAt?_of_follow parent
  rw [follow_append, parent] at missing
  change w.follow dir [name] = .error .missing at missing
  rw [follow_cons directory, next?_of_isPlainName plain] at missing
  by_cases root : name = rootName
  · simp only [if_pos root] at missing
    have absent : some Entry.directory = none := follow_nil_missing missing
    cases absent
  · simp only [if_neg root] at missing
    have absent := follow_nil_missing missing
    have free : w.entryAt? (dir ++ [name]) ≠ some .directory := by simp [absent]
    have elsewhere : dir ≠ dir ++ [name] := by simp
    have kept : (w.setEntry (dir ++ [name]) entry).entryAt? dir = some .directory := by
      rw [entryAt?_setEntry free, if_neg elsewhere, directory]
    have put : (w.setEntry (dir ++ [name]) entry).entryAt? (dir ++ [name]) = some entry := by
      rw [entryAt?_setEntry free, if_pos rfl]
    rw [follow_append, follow_setEntry free entry parent]
    change (w.setEntry (dir ++ [name]) entry).follow dir [name] = _
    rw [follow_cons kept, next?_of_isPlainName plain, if_neg root]
    exact follow_here _ put

/-! ## Files -/

/-- Where a path has a slot, anything can be put in place of what is no directory, and is found there. -/
theorem follow_slot {path : String} {parts : List String} {old : Option Entry}
    (given : w.partsOf path = .ok parts) (slot : w.slot path = .ok (place, old))
    (free : old ≠ some .directory) (entry : Entry) :
    (w.setEntry place entry).follow [] parts = .ok (place, entry) := by
  -- What stands at the place is replaced, or else the place is a new one in a directory that is there.
  unfold Workspace.slot at slot
  rw [given] at slot
  simp only [bind, Except.bind] at slot
  split at slot
  next place' there follows =>
    cases slot
    rw [follow_setEntry (entryAt?_of_follow follows ▸ free) entry follows, if_pos rfl]
  next missing =>
    split at slot
    next => cases slot
    next found parent =>
      obtain ⟨dir, there⟩ := found
      cases there with
      | file bytes => cases slot
      | directory =>
          simp only at slot
          split at slot
          next => cases slot
          split at slot
          next => cases slot
          next special short =>
            cases slot
            have nonempty : parts ≠ [] := by
              rintro rfl
              simp at special
            have whole : parts.dropLast ++ [parts.getLast?.getD ""] = parts := by
              rw [List.getLast?_eq_some_getLast nonempty]
              exact List.dropLast_concat_getLast nonempty
            rw [← whole] at missing
            have put := follow_new parent missing (by simp_all [IsPlainName]) entry
            rwa [whole] at put
  next => cases slot

theorem readBytes_writeBytes {path : String} {bytes : List UInt8} (written : w.writeBytes path bytes = .ok w') :
    w'.readBytes path = .ok bytes := by
  unfold writeBytes at written
  split at written
  next => cases written
  next place old free slot =>
    cases written
    cases given : w.partsOf path with
    | error fault => simp [Workspace.slot, given, bind, Except.bind] at slot
    | ok parts =>
        have follows := follow_slot given slot free (.file bytes)
        have same : (w.setEntry place (.file bytes)).partsOf path = .ok parts := given
        simp only [readBytes, find, same, bind, Except.bind, follows]
  next => cases written

/-- Whether a file can be written at a place: an empty one can, and what a file holds makes no difference. -/
def isWritable (w : Workspace) (l : Location) : Bool := (w.save l "").isOk

theorem isOk_writeBytes (w : Workspace) (path : String) (bytes bytes' : List UInt8) :
    (w.writeBytes path bytes).isOk = (w.writeBytes path bytes').isOk := by
  unfold writeBytes
  cases w.slot path with
  | error fault => rfl
  | ok found =>
      obtain ⟨place, old⟩ := found
      rcases old with _ | _ | _ <;> rfl

theorem isOk_save (w : Workspace) (l : Location) (text text' : String) :
    (w.save l text).isOk = (w.save l text').isOk := by
  unfold save
  cases w.makeDirectories l.parent (l.parts.length + 1) with
  | error error => rfl
  | ok directories => exact directories.isOk_writeBytes l.toString _ _

theorem isWritable_iff {l : Location} (text : String) : w.isWritable l = true ↔ ∃ w', w.save l text = .ok w' := by
  rw [isWritable, isOk_save w l "" text]
  cases w.save l text <;> simp [Except.isOk, Except.toBool]

theorem readRaw_of_save {l : Location} {text : String} (saved : w.save l text = .ok w') :
    w'.readRaw l.toString = .ok text := by
  unfold save at saved
  cases made : w.makeDirectories l.parent (l.parts.length + 1) with
  | error error => simp [made, bind, Except.bind] at saved
  | ok directories =>
      have written : directories.writeBytes l.toString (Text.Utf8.encode text.toList) = .ok w' := by
        simpa only [made, bind, Except.bind] using saved
      rw [readRaw, readBytes_writeBytes written]
      simp only [Text.Utf8.decode_encode, String.ofList_toList]

theorem unifyLineEnds_cons {c : Char} (h : c ≠ '\r') (s : List Char) :
    unifyLineEnds (c :: s) = c :: unifyLineEnds s := by
  rw [unifyLineEnds]
  · rintro rest rfl
    exact absurd rfl h
  · exact h

theorem unifyLineEnds_append {s : List Char} (noReturn : '\r' ∉ s) (t : List Char) :
    unifyLineEnds (s ++ t) = s ++ unifyLineEnds t := by
  induction s with
  | nil => rfl
  | cons c s ih =>
      rw [List.mem_cons, not_or] at noReturn
      rw [List.cons_append, unifyLineEnds_cons (Ne.symm noReturn.1), ih noReturn.2, List.cons_append]

theorem unifyLineEnds_eq_self {s : List Char} (noReturn : '\r' ∉ s) : unifyLineEnds s = s := by
  simpa [unifyLineEnds] using unifyLineEnds_append noReturn []

theorem unifyLineEnds_ne_nil {s : List Char} (h : s ≠ []) : unifyLineEnds s ≠ [] := by
  fun_cases unifyLineEnds s <;> simp_all

theorem return_notMem_unifyLineEnds (s : List Char) : '\r' ∉ unifyLineEnds s := by
  fun_induction unifyLineEnds s <;> simp_all [eq_comm]

theorem unifyLineEnds_eq_self_iff {s : List Char} : unifyLineEnds s = s ↔ '\r' ∉ s :=
  ⟨fun same => same ▸ return_notMem_unifyLineEnds s, unifyLineEnds_eq_self⟩

theorem readText_of_save {l : Location} {text : String} (saved : w.save l text = .ok w')
    (noReturn : '\r' ∉ text.toList) : w'.readText l.toString = .ok text := by
  rw [readText, readRaw_of_save saved, Except.map, unifyLineEnds_eq_self noReturn, String.ofList_toList]

end EnvAudit.Workspace
