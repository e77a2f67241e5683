import FilterQuery.CommandLine.Run
import FilterQuery.Path
/-!
# Folders

A tree of files that sources are read from, for running commands where there is
no file system. A path is followed step by step; every step but the last one,
and the last one too if a slash follows it, has to lead to a folder. What lies
outside the tree is an empty folder.
-/

namespace FilterQuery.CommandLine

/-- A file with its bytes, or a folder with its entries by name. -/
inductive Node where
  | file (bytes : List UInt8)
  | folder (entries : List (Text × Node))

namespace Node

def empty : Node := .folder []

/-- How many bytes the name of a file may have. -/
def nameLimit : Nat := 255

def pathLimit : Nat := 4095

/-- The node that some steps lead to, `above` being the folders around, the
innermost one first. -/
def follow (node : Node) (above : List Node) : List Text → Except ReadFault Node
  | [] => .ok node
  | step :: rest =>
      match node with
      | .file _ => .error .notAFolder
      | .folder entries =>
          if step.isEmpty || step = Path.here then node.follow above rest
          else if step = Path.above then
            match above with
            | [] => Node.empty.follow [] rest
            | outer :: further => outer.follow further rest
          else if nameLimit < step.utf8Size then .error .nameTooLong
          else
            match entries.lookup step with
            | some next => next.follow (node :: above) rest
            | none => .error .notFound

/-- What reading the file at a path gives. A path that starts with a slash
starts outside. -/
def read (root : Node) (path : Text) : Content := do
  if path.contains '\x00' then .error .nulInName
  else if path.isEmpty then .error .notFound
  else if pathLimit < path.utf8Size then .error .nameTooLong
  else
    let start := if path.head? = some '/' then Node.empty else root
    match ← start.follow [] (Path.pieces path) with
    | .file bytes => .ok bytes
    | .folder _ => .error .isAFolder

/-- What reading a source gives, the standard input being some bytes. -/
def readSource (root : Node) (input : List UInt8) : Source → Content
  | .standardInput => .ok input
  | .file path => root.read path

end Node

/-- A command run on a tree of files and the bytes of the standard input. -/
def Command.runIn (settings : Terminal.Settings) (root : Node) (input : List UInt8)
    (command : Command) : Outcome :=
  let content := match command.source? with
    | some source => root.readSource input source
    | none => .ok []
  command.run settings content

end FilterQuery.CommandLine
