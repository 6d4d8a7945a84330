import BraceLint.Text.Basic

/-!
The files a command works on. A path leads to the names on the way to a file from the root, if it
leads anywhere. What is there is a text, bytes that are no text, or a directory. A file may be there
to be read only.
-/

namespace BraceLint.Command

/-- Why a path or a file cannot be used. -/
inductive FileFault where
  | notFound
  | notDirectory
  | isDirectory
  | notText
  | nameTooLong
  | denied
  /-- Anything else, in the words of the system. -/
  | system (message : String)
deriving DecidableEq, Repr

/-- The fault in words. -/
def FileFault.message : FileFault → String
  | .notFound => "No such file or directory (os error 2)"
  | .notDirectory => "Not a directory (os error 20)"
  | .isDirectory => "Is a directory (os error 21)"
  | .notText => "stream did not contain valid UTF-8"
  | .nameTooLong => "File name too long (os error 36)"
  | .denied => "Permission denied (os error 13)"
  | .system message => message

/-- What a name stands for. -/
inductive Contents where
  | text (text : Text)
  | bytes
  | directory
deriving DecidableEq, Repr

/-- The contents of a file with the given bytes, which are taken to have no byte order mark before
them. -/
def Contents.ofBytes (bytes : ByteArray) : Contents :=
  match String.fromUTF8? bytes with
  | some string => .text string.toList
  | none => .bytes

/-- Names from the root to a file or directory. -/
abbrev Names := List String

/-- Files by the names that lead to them, and where paths lead. -/
structure Store where
  resolve : String → Except FileFault Names
  files : List (Names × Contents)
  /-- Why a file cannot be written, for those that cannot. -/
  locked : Names → Option FileFault := fun _ => none

namespace Store

/-- What stands under the given names. -/
def contents? (store : Store) (names : Names) : Option Contents :=
  store.files.lookup names

/-- The text under the given names. -/
def read (store : Store) (names : Names) : Except FileFault Text :=
  match store.contents? names with
  | some (.text text) => .ok text
  | some .bytes => .error .notText
  | some .directory => .error .isDirectory
  | none => .error .notFound

/-- The store with another text under the given names. -/
def replace (store : Store) (names : Names) (text : Text) : Store :=
  { store with files := store.files.map fun entry =>
      if entry.1 = names then (entry.1, .text text) else entry }

/-- Writes the text under the given names. -/
def write (store : Store) (names : Names) (text : Text) : Except FileFault Store :=
  match store.locked names with
  | some fault => .error fault
  | none => .ok (store.replace names text)

theorem read_eq_ok_iff {store : Store} {names : Names} {text : Text} :
    store.read names = .ok text ↔ store.contents? names = some (.text text) := by
  unfold read
  split <;> simp_all

/-- Replacing a text changes what stands under its names, if anything does, and nothing else. -/
theorem contents?_replace (store : Store) (names other : Names) (text : Text) :
    (store.replace names text).contents? other =
      if other = names then (store.contents? other).map fun _ => .text text
      else store.contents? other := by
  unfold contents? replace
  induction store.files with
  | nil => simp
  | cons entry files ih =>
    obtain ⟨key, contents⟩ := entry
    simp only [List.map_cons] at ih ⊢
    by_cases hother : other = key
    · subst hother
      by_cases hnames : other = names <;> simp [hnames]
    · have hbeq : (other == key) = false := beq_eq_false_iff_ne.mpr hother
      by_cases hnames : key = names <;> simp only [hnames, if_true, if_false, List.lookup_cons]
      · rw [← hnames, hbeq]
        simpa [← hnames] using ih
      · rw [hbeq]
        exact ih

end Store

/-! ### A directory of files -/

/-- Files in one directory, which paths are relative to. -/
structure Folder where
  base : Names
  files : List (Names × Contents)

namespace Folder

/-- All files, by their names from the root. -/
def placed (folder : Folder) : List (Names × Contents) :=
  folder.files.map fun entry => (folder.base ++ entry.1, entry.2)

/-- What stands under the given names: a file, or a directory on the way to one. -/
def contents? (folder : Folder) (names : Names) : Option Contents :=
  match folder.placed.lookup names with
  | some contents => some contents
  | none =>
    if names.isPrefixOf folder.base || folder.placed.any fun entry => names.isPrefixOf entry.1 then
      some .directory
    else
      none

/-- The most bytes in the name of a file. -/
def nameLimit : Nat := 255

/-- Follows the parts of a path from a place. Every place on the way but the last is a directory. -/
def follow (folder : Folder) : (place : Names) → List String → Except FileFault Names
  | place, [] => .ok place
  | place, part :: parts =>
    match folder.contents? place with
    | none => .error .notFound
    | some .directory =>
      if part = "" || part = "." then follow folder place parts
      else if part = ".." then follow folder place.dropLast parts
      else if nameLimit < part.utf8ByteSize then .error .nameTooLong
      else if (folder.contents? (place ++ [part])).isSome then
        follow folder (place ++ [part]) parts
      else .error .notFound
    | some _ => .error .notDirectory

/-- Where a path leads. -/
def resolve (folder : Folder) (path : String) : Except FileFault Names :=
  if path.isEmpty then .error .notFound
  else if path.toList.head? = some '/' then folder.follow [] (path.splitOn "/")
  else folder.follow folder.base (path.splitOn "/")

/-- The directories that files of the folder lie in, the base and what is above it included. -/
def directories (folder : Folder) : List Names :=
  (folder.base :: folder.placed.map fun entry => entry.1.dropLast).flatMap fun names =>
    (List.range (names.length + 1)).map names.take

/-- The files and directories of a folder as a store. -/
def store (folder : Folder) : Store where
  resolve := folder.resolve
  files := folder.placed ++ folder.directories.map fun names => (names, .directory)

end Folder

end BraceLint.Command
