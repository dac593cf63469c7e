/-
  Inlay.Loader.Files
  ────────────────────────────────
  **PATHS AND FILES.**

  A path has a root, which is empty for a relative one, and parts.  Empty
  parts and single points drop out when a path is read; two points stay,
  because only the file system knows what they lead to.

  A file tree holds files by their parts, seen from the root.  One of its
  directories is the working directory, where relative paths start.
  Directories are what something lies in, and some that nothing lies in.
-/
import Inlay.Text.Search

namespace Inlay.Loader

/-! ## §1. Paths. -/

/-- A path. -/
structure Path where
  root : String
  parts : List String
  deriving Repr, DecidableEq

namespace Path

/-- The parts of a path as written. -/
def partsOf (s : String) : List String :=
  ((Text.splitOn ['/'] s.length s.toList).map String.ofList).filter (fun p => p ≠ "" && p ≠ ".")

/-- The root of a path as written: exactly two slashes in front are kept. -/
def rootOf (s : String) : String :=
  match (s.toList.takeWhile (· = '/')).length with
  | 0 => ""
  | 2 => "//"
  | _ => "/"

/-- The path that a text spells. -/
def ofString (s : String) : Path := ⟨rootOf s, partsOf s⟩

/-- The second path seen from the first one; an absolute path stays as it is. -/
def join (a b : Path) : Path := if b.root = "" then ⟨a.root, a.parts ++ b.parts⟩ else b

/-- A path as text; the empty one is a point. -/
def toString (p : Path) : String :=
  if p.root = "" && p.parts.isEmpty then "." else p.root ++ "/".intercalate p.parts

end Path

/-! ## §2. File trees. -/

/-- Can an entry of a directory be called so? -/
def isEntryName (s : String) : Bool :=
  s ≠ "" && s ≠ "." && s ≠ ".." && s.toList.all (fun c => c ≠ '/' && c ≠ '\x00')

/-- A file: its parts, and its bytes. -/
structure File where
  parts : List String
  bytes : List Nat
  named : parts.all isEntryName = true
  deriving Repr, DecidableEq

/-- Is there a directory at these parts, if the given ones lead to directories and to files?  The
root always is one. -/
def leadsToDirectory (folders files : List (List String)) (parts : List String) : Bool :=
  parts.isEmpty || folders.any (parts.isPrefixOf ·)
    || files.any (fun f => parts.isPrefixOf f && parts ≠ f)

/-- A file system without links. -/
structure FileTree where
  /-- The working directory. -/
  home : List String
  /-- Directories in which nothing has to lie. -/
  folders : List (List String)
  files : List File
  named : (home :: folders).all (·.all isEntryName) = true
  /-- No file is a directory. -/
  apart : files.all (fun f =>
    !leadsToDirectory (home :: folders) (files.map File.parts) f.parts) = true
  deriving Repr, DecidableEq

namespace FileTree

/-- Is there a directory at these parts? -/
def hasDirectory (t : FileTree) (parts : List String) : Bool :=
  leadsToDirectory (t.home :: t.folders) (t.files.map File.parts) parts

/-- Where some parts lead, starting at the given parts; nowhere, if a part that others follow is no
directory.  The root is its own parent. -/
def walk? (t : FileTree) (here : List String) : List String → Option (List String)
  | [] => some here
  | c :: rest =>
    if t.hasDirectory here then t.walk? (if c = ".." then here.dropLast else here ++ [c]) rest
    else none

/-- Where a path leads. -/
def resolve? (t : FileTree) (p : Path) : Option (List String) :=
  t.walk? (if p.root = "" then t.home else []) p.parts

/-- The file at a path. -/
def file? (t : FileTree) (p : Path) : Option File := do
  let parts ← t.resolve? p
  t.files.find? (·.parts = parts)

/-- The files below a directory, by their parts seen from it; none, if it is no directory. -/
def below (t : FileTree) (p : Path) : List (List String) :=
  match t.resolve? p with
  | none => []
  | some parts =>
    if t.hasDirectory parts then
      (t.files.filter (fun f => parts.isPrefixOf f.parts && parts ≠ f.parts)).map
        (fun f => f.parts.drop parts.length)
    else []

end FileTree

end Inlay.Loader
