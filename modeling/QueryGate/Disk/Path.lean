/-!
# Paths

A path is kept as it was written, because messages show it that way. `Path.names` gives the way
that it describes, from the root, for a reader who stands in some directory.
-/

namespace QueryGate

/-- A path as it was written. -/
abbrev Path := List Char

/-- The name of a file or directory. -/
abbrev FileName := List Char

namespace Path

/-- Cuts a text at every slash. -/
def pieces : List Char → List FileName
  | [] => [[]]
  | c :: cs =>
    if c = '/' then [] :: pieces cs
    else
      match pieces cs with
      | [] => [[c]]
      | p :: ps => (c :: p) :: ps

/-- Starts at the root. -/
def isAbsolute (p : Path) : Bool := p.head? == some '/'

/-- One step along a way: a name leads down, two dots lead back, one dot and an empty piece lead
nowhere. -/
def follow (at? : List FileName) (piece : FileName) : List FileName :=
  if piece = [] ∨ piece = ['.'] then at?
  else if piece = ['.', '.'] then at?.dropLast
  else at? ++ [piece]

/-- The way that the path describes to a reader in the directory `base`. -/
def names (base : List FileName) (p : Path) : List FileName :=
  (pieces p).foldl follow (if isAbsolute p then [] else base)

/-- The path without slashes and single dots at its end; of slashes alone, one stays. -/
def trimmedIn : Nat → Path → Path
  | 0, p => p
  | fuel + 1, p =>
    match p.reverse with
    | '/' :: c :: r => trimmedIn fuel (c :: r).reverse
    | '.' :: '/' :: r => trimmedIn fuel ('/' :: r).reverse
    | _ => p

/-- The path without slashes and single dots at its end. -/
def trimmed (p : Path) : Path := trimmedIn p.length p

/-- The last name of the path. -/
def fileName (p : Path) : FileName := ((trimmed p).reverse.takeWhile (· ≠ '/')).reverse

/-- What stands before the last name, with the slash between. -/
def directoryPart (p : Path) : Path := ((trimmed p).reverse.dropWhile (· ≠ '/')).reverse

/-- The path of the directory that holds the file; a lone name has the empty path before it. -/
def parent? (p : Path) : Option Path :=
  if (trimmed p).isEmpty ∨ trimmed p = ['/'] then none
  else some (trimmed (directoryPart p))

/-- A name without what follows its last dot. A dot in front starts no extension. -/
def stem (name : FileName) : FileName :=
  match name.reverse.dropWhile (· ≠ '.') with
  | [] => name
  | [_] => name
  | _ :: r => r.reverse

/-- The path with another extension at its last name. -/
def withExtension (p : Path) (extension : List Char) : Path :=
  directoryPart p ++ stem (fileName p) ++ '.' :: extension

/-- A path below another. -/
def join (p : Path) (name : Path) : Path :=
  if isAbsolute name then name
  else if p.isEmpty ∨ p.getLast? = some '/' then p ++ name
  else p ++ '/' :: name

end Path

end QueryGate
