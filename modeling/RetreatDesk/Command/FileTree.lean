import RetreatDesk.Web.Encoding

/-!
# Files

* `FileFault`: why a file cannot be opened.
* `Files`: what stands under each path.
* `FileTree`: a system of files that is known as a whole.
* `FileTree.find`: what stands under a path of a file tree.
* `FileTree.follow_append`: where a path leads is found one part after the other.
-/

namespace RetreatDesk

/-! ## Faults -/

/-- Why a file cannot be opened. -/
inductive FileFault where
  /-- Nothing stands under the path. -/
  | missing
  /-- The path may not be followed. -/
  | denied
  /-- The path goes on behind something that is no directory. -/
  | notDirectory
  /-- The path is too long, or a name in it. -/
  | nameTooLong
  deriving DecidableEq

namespace FileFault

def all : List FileFault := [missing, denied, notDirectory, nameTooLong]

/-- The number under which a system reports a fault. -/
def code : FileFault → Nat
  | missing => 2
  | denied => 13
  | notDirectory => 20
  | nameTooLong => 36

/-- The fault that a number stands for. -/
def ofCode? (n : Nat) : Option FileFault := all.find? (·.code = n)

theorem ofCode?_code (f : FileFault) : ofCode? f.code = some f := by
  cases f <;> rfl

/-- What a fault is called. -/
def name : FileFault → String
  | missing => "No such file or directory"
  | denied => "Permission denied"
  | notDirectory => "Not a directory"
  | nameTooLong => "File name too long"

/-- The wording of a fault. -/
def message (f : FileFault) : String := f.name ++ " (os error " ++ toString f.code ++ ")"

end FileFault

/-! ## Files -/

/-- What stands under a path. -/
inductive FileEntry where
  | directory
  /-- A file that holds no text. -/
  | binary
  | text (s : String)
  deriving DecidableEq

/-- What stands under each path. -/
abbrev Files := String → Except FileFault FileEntry

/-! ## File trees -/

/-- A system of files that is known as a whole. -/
structure FileTree where
  /-- What there is, each with the names that lead to it from the root. -/
  entries : List (List String × FileEntry)
  /-- The directory where a path without a slash at its front starts. -/
  start : List String

namespace FileTree

/-- The greatest number of bytes in a path. -/
def pathLimit : Nat := 4095

/-- The greatest number of bytes in a name. -/
def nameLimit : Nat := 255

/-- What stands where some names lead. There is a directory wherever something lies below. -/
def entry? (t : FileTree) (names : List String) : Option FileEntry :=
  match t.entries.lookup names with
  | some e => some e
  | none =>
    if (t.start :: t.entries.map (·.1)).any (names.isPrefixOf ·) then some .directory else none

/-- Where one more name leads. -/
def step (t : FileTree) (place : List String) (name : String) : Except FileFault (List String) :=
  match t.entry? place with
  | some .directory =>
    if name = "" || name = "." then .ok place
    else if name = ".." then .ok place.dropLast
    else if nameLimit < name.utf8ByteSize then .error .nameTooLong
    else
      match t.entry? (place ++ [name]) with
      | some _ => .ok (place ++ [name])
      | none => .error .missing
  | some _ => .error .notDirectory
  | none => .error .missing

/-- Where a row of names leads. The first name that leads nowhere decides. -/
def follow (t : FileTree) (place : List String) : List String → Except FileFault (List String)
  | [] => .ok place
  | name :: rest => do t.follow (← t.step place name) rest

/-- Where two rows of names lead one after the other. -/
theorem follow_append (t : FileTree) (place : List String) (names rest : List String) :
    t.follow place (names ++ rest) = (t.follow place names).bind (t.follow · rest) := by
  induction names generalizing place with
  | nil => rfl
  | cons name names ih =>
    simp only [List.cons_append, follow]
    cases t.step place name with
    | error fault => rfl
    | ok next => exact ih next

/-- Where a path starts: at the root if there is a slash at its front. -/
def origin (t : FileTree) (path : String) : List String := if path.startsWith "/" then [] else t.start

/-- What stands under a path. -/
def find (t : FileTree) : Files := fun path =>
  if path.isEmpty then .error .missing
  else if pathLimit < path.utf8ByteSize then .error .nameTooLong
  else do
    let place ← t.follow (t.origin path) (Web.parts '/' path)
    match t.entry? place with
    | some e => return e
    | none => throw .missing

end FileTree

end RetreatDesk
