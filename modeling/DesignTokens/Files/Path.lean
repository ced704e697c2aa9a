/-!
Paths of files. Two paths are the same if they have the same components: repeated and final slashes
do not count, and a dot counts only at the very start.
-/

namespace DesignTokens

structure Path where
  text : String
  deriving Repr

namespace Path

/-- The pieces of a path between its slashes; a slash at the start is a piece of its own. -/
inductive Component where
  | root
  | current
  | parent
  | normal (name : String)
  deriving DecidableEq, Repr

/-- The pieces of a text between slashes, some of which may be empty. -/
def pieces : List Char → List (List Char)
  | [] => [[]]
  | character :: rest =>
      if character = '/' then [] :: pieces rest
      else
        match pieces rest with
        | [] => [[character]]
        | piece :: others => (character :: piece) :: others

def componentOf? (piece : List Char) : Option Component :=
  if piece = [] || piece = ['.'] then none
  else if piece = ['.', '.'] then some .parent
  else some (.normal (String.ofList piece))

def isAbsolute (path : Path) : Bool :=
  path.text.toList.head? == some '/'

def components (path : Path) : List Component :=
  let found := pieces path.text.toList
  let start :=
    if path.isAbsolute then [.root]
    else if found.head? == some ['.'] then [.current]
    else []
  start ++ found.filterMap componentOf?

/-- A path inside a directory, unless it is absolute and stands for itself. -/
def join (directory : Path) (name : String) : Path :=
  if (Path.mk name).isAbsolute then ⟨name⟩
  else if directory.text.isEmpty || directory.text.toList.getLast? == some '/' then
    ⟨directory.text ++ name⟩
  else ⟨directory.text ++ "/" ++ name⟩

def fileName? (path : Path) : Option String :=
  match path.components.getLast? with
  | some (.normal name) => some name
  | _ => none

/-- What follows the last dot of a text, if there is a dot and something before it. -/
def afterLastDot? (name : List Char) : Option (List Char) :=
  let reversed := name.reverse
  let fromDot := reversed.dropWhile (· != '.')
  if fromDot.length < 2 then none else some (reversed.takeWhile (· != '.')).reverse

/-- The extension of a file name. A dot at the start of the name begins none. -/
def extension? (path : Path) : Option String :=
  path.fileName?.bind fun name => (afterLastDot? name.toList).map String.ofList

end Path
end DesignTokens
