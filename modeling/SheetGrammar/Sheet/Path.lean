/-!
# File names

What a path says about its file: the name without directories, its stem and its
extension, and whether it stands for the standard streams.

## Main definitions

* `Path.components` — the parts of a path between slashes.
* `Path.fileName?`, `Path.stem?`, `Path.extension?` — the name of the file and its parts.
* `Path.isDash` — whether a path stands for standard input or output.
-/

namespace SheetGrammar.Path

/-- The parts of a path between its slashes. Empty parts and dots that stand for
the directory itself are left out, except a dot at the start. -/
def components (path : String) : List (List Char) :=
  let parts := path.toList.splitOn '/'
  let keep := fun p : List Char => p ≠ [] ∧ p ≠ ['.']
  match parts with
  | [] => []
  | first :: rest => if first = ['.'] then first :: rest.filter keep else parts.filter keep

/-- Whether a path stands for standard input or output. -/
def isDash (path : String) : Bool :=
  components path = [['-']] ∧ path.toList.head? ≠ some '/'

/-- The name of the file, if the path ends in one. -/
def fileName? (path : String) : Option (List Char) :=
  match (components path).getLast? with
  | some name => if name = ['.'] ∨ name = ['.', '.'] then none else some name
  | none => none

/-- Splits a name at its last dot; a dot at the start does not count. -/
def splitName (name : List Char) : List Char × Option (List Char) :=
  let suffix := (name.reverse.takeWhile (· ≠ '.')).reverse
  let rest := (name.reverse.dropWhile (· ≠ '.')).drop 1
  if rest = [] then (name, none) else (rest.reverse, some suffix)

/-- The name of the file without its extension. -/
def stem? (path : String) : Option String :=
  (fileName? path).map fun name => String.ofList (splitName name).1

/-- What follows the last dot of the name of the file. -/
def extension? (path : String) : Option String :=
  (fileName? path).bind fun name => (splitName name).2.map String.ofList

/-- Whether the extension is one of some words, in any case. -/
def hasExtension (path : String) (words : List String) : Bool :=
  match extension? path with
  | some e => words.contains e.toLower
  | none => false

end SheetGrammar.Path
