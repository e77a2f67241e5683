import FilterQuery.Text
/-!
# Paths

A path is a list of steps between slashes. Empty steps and steps to the same
place do not count, so slashes at the end of a path and dots after them change
neither the name of its file nor the extension.
-/

namespace FilterQuery.Path

def pieces (path : Text) : List Text := path.splitOn '/'

def here : Text := ['.']

def above : Text := ['.', '.']

def steps (path : Text) : List Text :=
  (pieces path).filter fun step => !step.isEmpty && step != here

/-- The name of the file that a path leads to, if it ends with a name. -/
def fileName? (path : Text) : Option Text :=
  match (steps path).getLast? with
  | some name => if name = above then none else some name
  | none => none

/-- What follows the last dot of a file name, unless the only dot is its first
character. -/
def extensionOfName? (name : Text) : Option Text :=
  let reversed := name.reverse
  match reversed.dropWhile (· != '.') with
  | [] | [_] => none
  | _ :: _ :: _ => some (reversed.takeWhile (· != '.')).reverse

/-- The extension of the file that a path leads to. -/
def extension? (path : Text) : Option Text := fileName? path >>= extensionOfName?

end FilterQuery.Path
