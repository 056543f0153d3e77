import QueryGate.Disk.Path

/-!
# A disk

Names lead to directories, to files, or nowhere. A file is known by its number, so that a reader
who has it open keeps it when its name changes. Operations fail as an operating system does.
-/

namespace QueryGate

/-- To what a name leads. -/
inductive Node where
  | directory
  | file (number : Nat)
  /-- A link to something that is not there. -/
  | deadLink
  deriving DecidableEq, Repr

/-- Why an operation on the disk fails. -/
inductive DiskError where
  | notFound
  | present
  | notDirectory
  | isDirectory
  | notEmpty
  deriving DecidableEq, Repr

/-- The wording of an error. -/
def DiskError.message : DiskError → String
  | .notFound => "No such file or directory (os error 2)"
  | .present => "File exists (os error 17)"
  | .notDirectory => "Not a directory (os error 20)"
  | .isDirectory => "Is a directory (os error 21)"
  | .notEmpty => "Directory not empty (os error 39)"

/-- The names on a disk and the contents of its files. The root needs no entry. -/
structure Disk (α : Type) where
  nodes : List (List FileName × Node) := []
  files : List α := []
  deriving Repr

namespace Disk

variable {α : Type}

/-- What stands at `way`, looked up on its own. -/
def stands? (d : Disk α) (way : List FileName) : Option Node :=
  if way = [] then some .directory else d.nodes.lookup way

/-- Follows the names `rest` from the directory `here`. -/
def walk (d : Disk α) (here : List FileName) : List FileName → Except DiskError Node
  | [] => (d.stands? here).elim (.error .notFound) .ok
  | name :: rest =>
    match d.stands? here with
    | some .directory => walk d (here ++ [name]) rest
    | some (.file _) => .error .notDirectory
    | some .deadLink => .error .notFound
    | none => .error .notFound

/-- To what a way leads from the root. -/
def node (d : Disk α) (way : List FileName) : Except DiskError Node := d.walk [] way

/-- The way leads to a file or directory. -/
def isPresent (d : Disk α) (way : List FileName) : Bool :=
  match d.node way with
  | .ok .directory => true
  | .ok (.file _) => true
  | .ok .deadLink => false
  | .error _ => false

def isDirectory (d : Disk α) (way : List FileName) : Bool :=
  match d.node way with
  | .ok .directory => true
  | _ => false

def isFile (d : Disk α) (way : List FileName) : Bool :=
  match d.node way with
  | .ok (.file _) => true
  | _ => false

/-- The content of the file of this number. -/
def content? (d : Disk α) (number : Nat) : Option α := d.files[number]?

/-- The content of the file that a way leads to. -/
def read (d : Disk α) (way : List FileName) : Except DiskError α :=
  match d.node way with
  | .error e => .error e
  | .ok .directory => .error .isDirectory
  | .ok .deadLink => .error .notFound
  | .ok (.file number) => (d.content? number).elim (.error .notFound) .ok

/-- Gives the file of this number a new content. -/
def write (d : Disk α) (number : Nat) (content : α) : Disk α :=
  { d with files := d.files.set number content }

/-- Takes a name away. Who has the file open keeps it. -/
def remove (d : Disk α) (way : List FileName) : Disk α :=
  { d with nodes := d.nodes.filter fun n => n.1 ≠ way }

/-- Something may be put at the end of the way: its directory is there. -/
def checkParent (d : Disk α) (way : List FileName) : Except DiskError Unit :=
  match d.node way.dropLast with
  | .error e => .error e
  | .ok .directory => .ok ()
  | .ok (.file _) => .error .notDirectory
  | .ok .deadLink => .error .notFound

/-- Makes one directory. -/
def makeDirectory (d : Disk α) (way : List FileName) : Except DiskError (Disk α) :=
  match d.checkParent way with
  | .error e => .error e
  | .ok () =>
    match d.stands? way with
    | some _ => .error .present
    | none => .ok { d with nodes := d.nodes ++ [(way, .directory)] }

/-- Makes a directory with those above it, given its way from the end; one that is there already is
left alone. -/
def makeUpward (d : Disk α) : List FileName → Except DiskError (Disk α)
  | [] => .ok d
  | name :: above =>
    let way := (name :: above).reverse
    match d.makeDirectory way with
    | .ok d' => .ok d'
    | .error .notFound =>
      match makeUpward d above with
      | .error e => .error e
      | .ok d' => d'.makeDirectory way
    | .error e => if d.isDirectory way then .ok d else .error e

/-- Makes a directory with those above it; one that is there already is left alone. -/
def makeDirectories (d : Disk α) (way : List FileName) : Except DiskError (Disk α) :=
  d.makeUpward way.reverse

/-- The number of the file that a way leads to; a missing file is made with the given content. -/
def openFile (d : Disk α) (way : List FileName) (fresh : α) : Except DiskError (Nat × Disk α) :=
  match d.node way with
  | .ok .directory => .error .isDirectory
  | .ok (.file number) => .ok (number, d)
  | .ok .deadLink => .error .notFound
  | .error .notFound =>
    match d.checkParent way with
    | .error e => .error e
    | .ok () =>
      .ok (d.files.length,
        { nodes := d.nodes ++ [(way, .file d.files.length)], files := d.files ++ [fresh] })
  | .error e => .error e

/-- The names at and below `way`. -/
def below (d : Disk α) (way : List FileName) : List (List FileName × Node) :=
  d.nodes.filter fun n => way.isPrefixOf n.1

/-- Gives what stands at `source` the way `target`. A file at the target is replaced, and its
content is lost. -/
def rename (d : Disk α) (source target : List FileName) : Except DiskError (Disk α) :=
  let moved := (d.below source).map fun n => (target ++ n.1.drop source.length, n.2)
  let others := d.nodes.filter fun n => ¬ source.isPrefixOf n.1
  let move : Except DiskError (Disk α) :=
    .ok { d with nodes := others.filter (fun n => ¬ target.isPrefixOf n.1) ++ moved }
  match d.node source, d.checkParent target with
  | .error e, _ => .error e
  | .ok _, .error e => .error e
  | .ok node, .ok () =>
    if source = target then .ok d
    else
      match node, d.stands? target with
      | .directory, some .directory =>
        if (d.below target).length = 1 then move else .error .notEmpty
      | .directory, some _ => .error .notDirectory
      | _, some .directory => .error .isDirectory
      | _, _ => move

end Disk

end QueryGate
