import LoxLexis.IoCause
import LoxLexis.Text.Encoding

/-!
# Reading a file by its path

A folder holds files, each named by the way to it; the directories are those that the
ways lead through. A path is followed name by name from the folder, and each step needs
to start at a directory. Nothing is known of what lies outside the folder but that its
root and the directories above the folder are directories.
-/

namespace LoxLexis

/-- A directory with the files in it and below it. -/
structure Folder where
  /-- The files, each with the names that lead to it and its content. -/
  files : List (List Text × Bytes)

namespace Folder

/-- Where following a path has led. -/
inductive Place
  /-- To what these names lead to in the folder. -/
  | inside (names : List Text)
  /-- To a directory outside the folder. -/
  | outside
  deriving DecidableEq, Repr

/-- The names of a path, between its slashes. -/
def namesOf (path : Text) : List Text := path.splitOn '/'

/-- The names that lead to where one more name of a path leads. -/
def step (names : List Text) (name : Text) : List Text :=
  if name = [] ∨ name = ['.'] then names
  else if name = ['.', '.'] then names.dropLast
  else names ++ [name]

/-- The names that lead from a folder to where a path leads. -/
def wayTo (path : Text) : List Text := (namesOf path).foldl step []

/-- A folder of files that are given by their paths, one after the other. Of two files at
the same place the later one stays. -/
def ofPaths (files : List (Text × Bytes)) : Folder :=
  ⟨files.reverse.map fun (path, content) => (wayTo path, content)⟩

/-- The content of the file that names lead to. -/
def content? (folder : Folder) (names : List Text) : Option Bytes :=
  (folder.files.find? fun file => file.1 = names).map Prod.snd

/-- Whether names lead to a directory: to the folder itself, or on the way to a file. -/
def isDirectory (folder : Folder) (names : List Text) : Bool :=
  names.isEmpty ||
    folder.files.any fun file => names.isPrefixOf file.1 && names.length < file.1.length

/-- Follow one name of a path. -/
def follow (folder : Folder) (place : Place) (name : Text) : Except IoCause Place :=
  match place with
  | .outside => if name ∈ [[], ['.'], ['.', '.']] then .ok .outside else .error .notFound
  | .inside names =>
      if !folder.isDirectory names then .error .notADirectory
      else if names = [] ∧ name = ['.', '.'] then .ok .outside
      else if folder.isDirectory (step names name) ||
          (folder.content? (step names name)).isSome then
        .ok (.inside (step names name))
      else .error .notFound

/-- Where a path starts to be followed. -/
def startOf (path : Text) : Place :=
  if path.head? = some '/' then .outside else .inside []

/-- The content of the file at a path. -/
def read (folder : Folder) (path : Text) : Except IoCause Bytes :=
  if path = [] then .error .notFound
  else
    match (namesOf path).foldlM folder.follow (startOf path) with
    | .error cause => .error cause
    | .ok .outside => .error .isADirectory
    | .ok (.inside names) =>
        match folder.content? names with
        | some content => .ok content
        | none => .error .isADirectory

end Folder

end LoxLexis
