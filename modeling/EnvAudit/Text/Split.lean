namespace EnvAudit.Text

def cutFirst (separator : Char) (s : List Char) : List Char × Option (List Char) :=
  match s.dropWhile (· != separator) with
  | [] => (s, none)
  | _ :: rest => (s.takeWhile (· != separator), some rest)

def cutLast (separator : Char) (s : List Char) : Option (List Char) × List Char :=
  let (tail, front) := cutFirst separator s.reverse
  (front.map List.reverse, tail.reverse)

def splitAll (separator : Char) : List Char → List (List Char)
  | [] => [[]]
  | c :: rest =>
    match splitAll separator rest with
    | [] => [[c]]
    | first :: others =>
      if c == separator then [] :: first :: others else (c :: first) :: others

theorem splitAll_ne (separator : Char) (s : List Char) : splitAll separator s ≠ [] := by
  cases s with
  | nil => exact List.cons_ne_nil _ _
  | cons c rest =>
      rw [splitAll]
      split
      · exact List.cons_ne_nil _ _
      · split <;> exact List.cons_ne_nil _ _

example : cutFirst '=' "a=b=c".toList = ("a".toList, some "b=c".toList) := by decide +kernel

example : cutLast '=' "a=b=c".toList = (some "a=b".toList, "c".toList) := by decide +kernel

example : splitAll ',' "a,,b".toList = ["a".toList, [], "b".toList] := by decide +kernel

end EnvAudit.Text
