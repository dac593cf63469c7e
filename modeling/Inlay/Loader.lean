/-
  Inlay.Loader
  ────────────────────────────────
  **WHERE TEMPLATES COME FROM.**

  A loader answers with the source of a template and the name of its file,
  if it has one, and lists the templates that it can name.

      table     — sources by name
      choice    — the first of several loaders that knows the name
      lookup    — a function of the host program, which cannot be listed
      directory — files below some directories, the first directory first
-/
import Inlay.Loader.Files
import Inlay.Text.Encoding
import Inlay.Text.Lines
import Inlay.Text.Similarity
import Inlay.Value

namespace Inlay

open Inlay.Text

/-! ## §1. Loaders. -/

/-- A source, and the file that it comes from. -/
structure Source where
  text : String
  filename : Option String
  deriving Repr, DecidableEq

/-- What a function of the host program answers for a name. -/
inductive Lookup where
  | bare (text : String)
  | filed (text : String) (filename : Option String)
  deriving Repr, DecidableEq

/-- Why a loader has no source. -/
inductive LoadFault where
  | notFound (message : String)
  | undecodable (fault : DecodeFault)
  | unknownEncoding (name : String)
  /-- The encoding is not about text. -/
  | binaryEncoding (name : String)
  /-- The host program failed in another way. -/
  | failed (cls : ErrorClass) (message : String) (other : cls ≠ .templateNotFound)
  deriving Repr, DecidableEq

/-- A loader. -/
inductive Loader where
  | table (sources : List (String × String))
  | choice (loaders : List Loader)
  /-- A function of the host program: it answers, knows nothing of the name, or fails. -/
  | lookup (answer : String → Except LoadFault (Option Lookup))
  | directory (paths : List Loader.Path) (encoding : String) (tree : Loader.FileTree)

instance : Inhabited Loader := ⟨.table []⟩

namespace Loader

/-! ## §2. Lists of names. -/

/-- Names in ascending order, each once. -/
def sortedNames (names : List String) : List String :=
  (names.mergeSort (fun a b => a ≤ b)).eraseDups

mutual

/-- The templates that a loader can name, in ascending order. -/
def names : Loader → List String
  | table sources => sortedNames (sources.map (·.1))
  | choice loaders => sortedNames (namesOfAll loaders)
  | lookup _ => []
  | directory paths _ tree =>
    sortedNames (paths.flatMap (fun p => (tree.below p).map ("/".intercalate ·)))

/-- The templates that some loaders can name. -/
def namesOfAll : List Loader → List String
  | [] => []
  | l :: ls => l.names ++ namesOfAll ls

end

/-! ## §3. Sources. -/

/-- How many names a message lists. -/
def listedNames : Nat := 10

/-- What is said of a name that a table does not have: the closest name, or else some names. -/
def missingMessage (name : String) (available : List String) : String :=
  "Template '" ++ name ++ "' not found" ++
    match closest? name available with
    | some m => ". Did you mean '" ++ m ++ "'?"
    | none =>
      if available.isEmpty then ""
      else ". Available: " ++ ", ".intercalate (available.take listedNames)
        ++ (if listedNames < available.length then
            " ... (" ++ toString available.length ++ " total)" else "")

/-- The source of a name in a table. -/
def tableSource (sources : List (String × String)) (name : String) : Except LoadFault Source :=
  match sources.lookup name with
  | some text => .ok ⟨text, none⟩
  | none => .error (.notFound (missingMessage name (sortedNames (sources.map (·.1)))))

/-- The source that a function of the host program answers with. -/
def lookupSource (answer : String → Except LoadFault (Option Lookup)) (name : String) :
    Except LoadFault Source :=
  match answer name with
  | .error f => .error f
  | .ok (some (.bare text)) => .ok ⟨text, some "<function>"⟩
  | .ok (some (.filed text filename)) => .ok ⟨text, filename⟩
  | .ok none => .error (.notFound ("Template '" ++ name ++ "' not found"))

/-- The text of a file, its line ends folded. -/
def fileText (encoding : String) (f : File) : Except LoadFault String :=
  match Encoding.ofName encoding with
  | .unknown => .error (.unknownEncoding encoding)
  | .binary => .error (.binaryEncoding encoding)
  | .known e =>
    match e.decode f.bytes with
    | .ok s => .ok (String.ofList (foldNewlines s))
    | .error e => .error (.undecodable e)

/-- The first file of a name below some directories, with its path. -/
def firstFile? (paths : List Path) (tree : FileTree) (name : String) : Option (Path × File) :=
  paths.findSome? (fun base =>
    let p := base.join (Path.ofString name)
    (tree.file? p).map (p, ·))

/-- The source in the first directory that has a file of the name. -/
def directorySource (paths : List Path) (encoding : String) (tree : FileTree) (name : String) :
    Except LoadFault Source :=
  match firstFile? paths tree name with
  | some (p, f) => (fileText encoding f).map (fun text => ⟨text, some p.toString⟩)
  | none =>
    .error (.notFound ("Template '" ++ name ++ "' not found in: "
      ++ ", ".intercalate (paths.map Path.toString)))

mutual

/-- The source of a template. -/
def source : Loader → String → Except LoadFault Source
  | table sources, name => tableSource sources name
  | lookup answer, name => lookupSource answer name
  | directory paths encoding tree, name => directorySource paths encoding tree name
  | choice loaders, name =>
    match firstSource loaders name with
    | some answer => answer
    | none =>
      .error (.notFound ("Template '" ++ name ++ "' not found in any of "
        ++ toString loaders.length ++ " loaders"))

/-- The answer of the first loader that knows the name. -/
def firstSource : List Loader → String → Option (Except LoadFault Source)
  | [], _ => none
  | l :: ls, name =>
    match l.source name with
    | .error (.notFound _) => firstSource ls name
    | answer => some answer

end

end Loader

end Inlay
