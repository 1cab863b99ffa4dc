import PointInTime.Text.Parts

/-!
# Files by path

A tree of directories and files, and what a path leads to in it.  A path is followed part by part;
the first part that leads nowhere decides what is wrong with it, and a path that ends at a directory
leads to no file.
-/

namespace PointInTime
namespace CommandLine

inductive FileFault where
  | absent
  /-- Something other than a directory stands in the middle of the path. -/
  | notDirectory
  | isDirectory
  | nameTooLong
  | nulCharacter
  | other (details : String)
deriving DecidableEq, Repr

def FileFault.message : FileFault → String
  | absent => "No such file or directory (os error 2)"
  | notDirectory => "Not a directory (os error 20)"
  | isDirectory => "Is a directory (os error 21)"
  | nameTooLong => "File name too long (os error 36)"
  | nulCharacter => "file name contained an unexpected NUL byte"
  | other details => details

inductive FileEntry (α : Type) where
  | directory
  | file (content : α)
deriving DecidableEq, Repr

/-- Directories and files by place: the parts of the way from the root, the last one first. -/
structure FileTree (α : Type) where
  lookup : List String → Option (FileEntry α)
  /-- The directory where a path begins that does not begin at the root. -/
  here : List String := []

namespace FileTree

variable {α : Type}

def maxPart : Nat := 255

def maxPath : Nat := 4095

/-- What the parts of a path lead to from a place. -/
def follow (t : FileTree α) : List String → List String → Except FileFault (FileEntry α)
  | place, [] =>
      match t.lookup place with
      | some entry => .ok entry
      | none => .error .absent
  | place, part :: parts =>
      match t.lookup place with
      | none => .error .absent
      | some (.file _) => .error .notDirectory
      | some .directory =>
          if part = "" ∨ part = "." then t.follow place parts
          else if part = ".." then t.follow place.tail parts
          else if part.utf8ByteSize > maxPart then .error .nameTooLong
          else t.follow (part :: place) parts

def read (t : FileTree α) (path : String) : Except FileFault α :=
  let s := path.toList
  let start := if s.head? = some '/' then [] else t.here
  if s.contains '\x00' then .error .nulCharacter
  else if path.utf8ByteSize > maxPath then .error .nameTooLong
  else
    match t.follow start ((Text.parts '/' s).map String.ofList) with
    | .ok (.file content) => .ok content
    | .ok .directory => .error .isDirectory
    | .error fault => .error fault

end FileTree
end CommandLine
end PointInTime
