/-!
# Files

What a program finds under a path: a file with its bytes, a directory, or a reason why nothing can
be opened there. A file tree is a directory as a value, in which paths are followed part by part.
-/

namespace BuildTriage

/-- Why a path cannot be opened or read. -/
inductive PathError where
  | notFound
  | notDirectory
  | isDirectory
  | nameTooLong
  | notUtf8
deriving DecidableEq, Repr

def PathError.message : PathError → String
  | notFound => "No such file or directory (os error 2)"
  | notDirectory => "Not a directory (os error 20)"
  | isDirectory => "Is a directory (os error 21)"
  | nameTooLong => "File name too long (os error 36)"
  | notUtf8 => "stream did not contain valid UTF-8"

/-- What stands under a path. -/
inductive Opened where
  | file (bytes : List UInt8)
  | directory
  | failed (reason : PathError)
deriving DecidableEq, Repr

/-- A directory: its files, each under the names that lead to it, and directories that may be
empty. -/
structure FileTree where
  files : List (List String × List UInt8)
  directories : List (List String) := []
deriving DecidableEq, Repr

namespace FileTree

/-- What stands under a list of names. -/
def at? (t : FileTree) (names : List String) : Option Opened :=
  match t.files.lookup names with
  | some bytes => some (.file bytes)
  | none =>
    if names.isEmpty || (t.directories ++ t.files.map Prod.fst).any names.isPrefixOf then
      some .directory
    else none

/-- Follows the parts of a path from a place in the tree. Empty parts and single points lead nowhere
else; two points lead back. What lies outside of the tree is not found, except for the directories
above it, of which `above` counts those gone up. -/
def follow (t : FileTree) (above : Nat) (place : List String) : List String → Opened
  | [] => if 0 < above then .directory else (t.at? place).getD (.failed .notFound)
  | part :: rest =>
    match if 0 < above then some .directory else t.at? place with
    | some .directory =>
      if part = "" || part = "." then follow t above place rest
      else if part = ".." then
        if place.isEmpty then follow t (above + 1) place rest
        else follow t above place.dropLast rest
      else if 255 < part.utf8ByteSize then .failed .nameTooLong
      else if 0 < above then .failed .notFound
      else follow t above (place ++ [part]) rest
    | some (.file _) => .failed .notDirectory
    | _ => .failed .notFound

/-- What stands under a path that is relative to the tree. -/
def opened (t : FileTree) (path : String) : Opened :=
  if 4096 ≤ path.utf8ByteSize then .failed .nameTooLong
  else if path.isEmpty then .failed .notFound
  else if path.toList.head? = some '/' then
    if path.toList.all (· = '/') then .directory else .failed .notFound
  else t.follow 0 [] ((path.toList.splitOn '/').map String.ofList)

end FileTree

end BuildTriage
