import EnvAudit.Location
import EnvAudit.Text.Quoted
import EnvAudit.Text.Utf8

/-!
# Workspaces

The files that a run can see, as a value. Each has a place, seen from the working directory: the names on
the way to it, behind double dots for the directories above, or behind a slash that stands for the root.
Reading and writing follow the usual rules for paths, and fail with the usual errors: a part of a path that is
missing, a file where a directory is needed, and the like. A path may name the working directory by
its full name or start in it.
-/

namespace EnvAudit

inductive Entry where
  | file (bytes : List UInt8)
  | directory
  deriving DecidableEq, Repr, Inhabited

inductive PathFault where
  | missing
  | notDirectory
  | isDirectory
  | exists
  | nameTooLong
  /-- The path holds a NUL character, which no name can. -/
  | nul
  deriving DecidableEq, Repr

namespace PathFault

def number : PathFault → Nat
  | missing => 2
  | «exists» => 17
  | notDirectory => 20
  | isDirectory => 21
  | nameTooLong => 36
  | nul => 0

def reason : PathFault → String
  | missing => "No such file or directory"
  | «exists» => "File exists"
  | notDirectory => "Not a directory"
  | isDirectory => "Is a directory"
  | nameTooLong => "File name too long"
  | nul => "embedded null byte"

end PathFault

structure PathError where
  fault : PathFault
  path : String
  deriving DecidableEq, Repr

def PathError.message (e : PathError) : String :=
  match e.fault with
  | .nul => e.fault.reason
  | fault => "[Errno " ++ toString fault.number ++ "] " ++ fault.reason ++ ": " ++ Text.quoted e.path

inductive ReadFault where
  | path (error : PathError)
  | encoding (fault : Text.Utf8.Fault)
  deriving DecidableEq, Repr

def ReadFault.message : ReadFault → String
  | path error => error.message
  | encoding fault => fault.message

/-- The files of a run: the full name of the working directory, where the user's own settings are kept, and
what stands at each place. -/
structure Workspace where
  root : Location
  configHome : Option String := none
  entries : List (List String × Entry) := []
  deriving Repr, Inhabited

namespace Workspace

def rootName : String := "/"

def isOutermost (place : List String) : Bool := place.all (· == "..") || place == [rootName]

def above (place : List String) : List String :=
  if place == [rootName] then place else if isOutermost place then place ++ [".."] else place.dropLast

def entryAt? (w : Workspace) (place : List String) : Option Entry :=
  if isOutermost place then some .directory else (w.entries.find? (·.1 == place)).map (·.2)

def maxName : Nat := 255

def maxPath : Nat := 4095

def follow (w : Workspace) (place : List String) : List String → Except PathFault (List String × Entry)
  | [] =>
    match w.entryAt? place with
    | some entry => .ok (place, entry)
    | none => .error .missing
  | part :: rest =>
    match w.entryAt? place with
    | none => .error .missing
    | some (.file _) => .error .notDirectory
    | some .directory =>
      if part == "" || part == "." then follow w place rest
      else if part == ".." then follow w (above place) rest
      else if part == rootName then follow w [rootName] rest
      else if maxName < part.utf8ByteSize then .error .nameTooLong
      else follow w (place ++ [part]) rest

def partsOf (w : Workspace) (path : String) : Except PathFault (List String) :=
  let root := w.root.toString
  if path == "" then .error .missing
  else if path.toList.contains '\x00' then .error .nul
  else if maxPath < path.utf8ByteSize then .error .nameTooLong
  else if path == root then .ok []
  else if (root.toList ++ ['/']).isPrefixOf path.toList then
    .ok (Location.rawParts (String.ofList (path.toList.drop (root.length + 1))))
  else if path.toList.head? == some '/' then .ok (rootName :: Location.rawParts path)
  else .ok (Location.rawParts path)

def find (w : Workspace) (path : String) : Except PathFault (List String × Entry) := do
  w.follow [] (← w.partsOf path)

/-- Whether a path names anything. A path that is too long to ask about is an error. -/
def exists? (w : Workspace) (path : String) : Except PathError Bool :=
  match w.find path with
  | .ok _ => .ok true
  | .error .nameTooLong => .error ⟨.nameTooLong, path⟩
  | .error _ => .ok false

def readBytes (w : Workspace) (path : String) : Except PathError (List UInt8) :=
  match w.find path with
  | .ok (_, .file bytes) => .ok bytes
  | .ok (_, .directory) => .error ⟨.isDirectory, path⟩
  | .error fault => .error ⟨fault, path⟩

def readRaw (w : Workspace) (path : String) : Except ReadFault String :=
  match w.readBytes path with
  | .error error => .error (.path error)
  | .ok bytes =>
    match Text.Utf8.decode bytes with
    | .error fault => .error (.encoding fault)
    | .ok text => .ok (String.ofList text)

def unifyLineEnds : List Char → List Char
  | [] => []
  | '\r' :: '\n' :: rest => '\n' :: unifyLineEnds rest
  | '\r' :: rest => '\n' :: unifyLineEnds rest
  | c :: rest => c :: unifyLineEnds rest

def readText (w : Workspace) (path : String) : Except ReadFault String :=
  (w.readRaw path).map fun text => String.ofList (unifyLineEnds text.toList)

def setEntry (w : Workspace) (place : List String) (entry : Entry) : Workspace :=
  { w with entries := w.entries.filter (·.1 != place) ++ [(place, entry)] }

def slot (w : Workspace) (path : String) : Except PathFault (List String × Option Entry) := do
  let parts ← w.partsOf path
  match w.follow [] parts with
  | .ok (place, entry) => .ok (place, some entry)
  | .error .missing =>
    let name := parts.getLast?.getD ""
    match ← w.follow [] parts.dropLast with
    | (_, .file _) => .error .notDirectory
    | (place, .directory) =>
      if name == "" || name == "." || name == ".." then .error .missing
      else if maxName < name.utf8ByteSize then .error .nameTooLong
      else .ok (place ++ [name], none)
  | .error fault => .error fault

def writeBytes (w : Workspace) (path : String) (bytes : List UInt8) : Except PathError Workspace :=
  match w.slot path with
  | .ok (_, some .directory) => .error ⟨.isDirectory, path⟩
  | .ok (place, _) => .ok (w.setEntry place (.file bytes))
  | .error fault => .error ⟨fault, path⟩

def makeDirectory (w : Workspace) (path : String) : Except PathError Workspace :=
  match w.slot path with
  | .ok (_, some _) => .error ⟨.exists, path⟩
  | .ok (place, none) => .ok (w.setEntry place .directory)
  | .error fault => .error ⟨fault, path⟩

def isDirectory (w : Workspace) (path : String) : Bool :=
  match w.find path with
  | .ok (_, .directory) => true
  | _ => false

def makeDirectories (w : Workspace) (l : Location) : Nat → Except PathError Workspace
  | 0 => .error ⟨.missing, l.toString⟩
  | fuel + 1 =>
    let make := fun (w : Workspace) =>
      match w.makeDirectory l.toString with
      | .ok w => .ok w
      | .error error => if w.isDirectory l.toString then .ok w else .error error
    match w.makeDirectory l.toString with
    | .error ⟨.missing, path⟩ =>
      if l.parent = l then .error ⟨.missing, path⟩
      else do make (← makeDirectories w l.parent fuel)
    | _ => make w

def save (w : Workspace) (l : Location) (text : String) : Except PathError Workspace := do
  let w ← w.makeDirectories l.parent (l.parts.length + 1)
  w.writeBytes l.toString (Text.Utf8.encode text.toList)

def remove (w : Workspace) (path : String) : Except PathError Workspace :=
  match w.find path with
  | .ok (place, _) => .ok { w with entries := w.entries.filter fun entry => !place.isPrefixOf entry.1 }
  | .error fault => .error ⟨fault, path⟩

end Workspace

end EnvAudit
