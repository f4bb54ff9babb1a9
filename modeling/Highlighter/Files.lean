import Highlighter.Text

/-!
# Files

Paths and what is found at them. A path is cut at slashes; the empty parts and those
that are a single dot mean nothing. `FileTree` is a directory given by the files
below it, and answers for every path inside.
-/

namespace Highlighter

/-! ## Paths -/

namespace FilePath

/-- The parts of a path between slashes that name something: the empty ones and those that
are `.` are left out. -/
def parts (path : Text) : List Text :=
  (Text.splitAt '/' path).filter fun p => !(p.isEmpty || p == ['.'])

/-- The last part of a path, unless it goes to the enclosing directory. -/
def fileName? (path : Text) : Option Text :=
  match (parts path).getLast? with
  | some p => if p == ['.', '.'] then none else some p
  | none => none

/-- What follows the last dot of a file name, if something precedes that dot. -/
def extension? (fileName : Text) : Option Text :=
  let after := fileName.reverse.takeWhile (· != '.')
  let before := fileName.reverse.drop (after.length + 1)
  if before.isEmpty then none else some after.reverse

/-- A path without the parts that mean nothing. -/
def normalize (path : Text) : Text :=
  (if path.head? == some '/' then ['/'] else []) ++ Text.join ['/'] (parts path)

/-- Whether a path says that it leads to a directory. -/
def endsInDirectory (path : Text) : Bool :=
  match (Text.splitAt '/' path).getLast? with
  | some last => last.isEmpty || last == ['.'] || last == ['.', '.']
  | none => false

end FilePath

/-! ## What is at a path -/

/-- What is at a path. -/
inductive Entry where
  /-- Nothing. -/
  | missing
  /-- Nothing, because the path goes through a file. -/
  | barred
  /-- A directory. -/
  | directory
  /-- Something that may not be looked at. -/
  | forbidden
  /-- A file, with its text if its bytes are a text. -/
  | file (text : Option Text)
  deriving DecidableEq, Repr

/-- The files that a program sees: what is at each path. -/
abbrev Files := Text → Entry

/-- Why no text can be read. -/
inductive ReadError where
  /-- There is no file. -/
  | missing
  /-- The path goes through a file. -/
  | barred
  /-- There is a directory. -/
  | directory
  /-- The file may not be looked at. -/
  | forbidden
  /-- The bytes are no text. -/
  | notText
  deriving DecidableEq, Repr

/-- The text that reports why no text can be read. -/
def ReadError.message : ReadError → String
  | missing => "No such file or directory (os error 2)"
  | barred => "Not a directory (os error 20)"
  | directory => "Is a directory (os error 21)"
  | forbidden => "Permission denied (os error 13)"
  | notText => "stream did not contain valid UTF-8"

/-- The text of some bytes, if they are a text. -/
def decoded : Option Text → Except ReadError Text
  | some t => .ok t
  | none => .error .notText

/-- The text at a path. -/
def Entry.read : Entry → Except ReadError Text
  | missing => .error .missing
  | barred => .error .barred
  | directory => .error .directory
  | forbidden => .error .forbidden
  | file text => decoded text

/-! ## A directory given by its files -/

/-- The files of a directory, each with the parts of its path and its text. -/
abbrev FileTree := List (List Text × Option Text)

namespace FileTree

/-- The files of a directory with their paths cut into parts. -/
def ofList (files : List (Text × Option Text)) : FileTree :=
  files.map fun (path, text) => (FilePath.parts path, text)

/-- What is at a place below the directory. -/
def entryAt (tree : FileTree) (place : List Text) : Entry :=
  match tree.lookup place with
  | some text => .file text
  | none => if tree.any fun file => place.isPrefixOf file.1 then .directory else .missing

/-- Where some parts of a path lead to from a place, which must be a directory as long as parts
are left. The directory that holds everything is left as nothing. -/
def follow (tree : FileTree) : (place parts : List Text) → Entry
  | place, [] => if place.isEmpty then .directory else entryAt tree place
  | place, part :: rest =>
    match if place.isEmpty then .directory else entryAt tree place with
    | .directory =>
      if part == ['.', '.'] then
        if place.isEmpty then .missing else follow tree place.dropLast rest
      else follow tree (place ++ [part]) rest
    | .file _ => .barred
    | other => other

/-- What is at a path. -/
def files (tree : FileTree) : Files := fun path =>
  if path.isEmpty || path.head? == some '/' then .missing
  else
    match follow tree [] (FilePath.parts path) with
    | .file text => if FilePath.endsInDirectory path then .barred else .file text
    | other => other

end FileTree

end Highlighter
