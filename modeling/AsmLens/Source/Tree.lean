import AsmLens.Source

/-!
# A tree of files

What paths lead to is given by a function, and here is one that can be run: a set of files in memory, with
the errors of the system in its own words. The set is given by the relative paths of its entries; the
directories on the way to an entry exist with it.

A path is walked from the root of the tree, step by step: empty steps and single dots stay where they are,
two dots go back, and every step must leave from a directory. Above the root of the tree there are
directories for these steps to pass, and nothing else. An absolute path does not begin at that root: of
what it can lead to, only the null device is known. The lengths of paths and of the names in them are
limited.
-/
namespace AsmLens

/-- An error by its number, its kind and its wording. -/
def SystemError.numbered (number : Nat) (kind words : Text) : SystemError where
  message := words ++ " (os error " ++ Text.decimal number ++ ")"
  detail :=
    "Os \x7b code: " ++ Text.decimal number ++ ", kind: " ++ kind ++ ", message: \"" ++ words ++
      "\" \x7d"

namespace Source

/-- There is nothing. -/
def missing : Source := .failing (.numbered 2 "NotFound" "No such file or directory")

/-- What should be a directory on the way is none. -/
def blocked : Source := .failing (.numbered 20 "NotADirectory" "Not a directory")

/-- A directory, which has no text. -/
def directory : Source := .failing (.numbered 21 "IsADirectory" "Is a directory")

/-- A name on the way, or the path, is longer than such may be. -/
def overlong : Source := .failing (.numbered 36 "InvalidFilename" "File name too long")

/-- Whether nothing can be read from either, and for the same reason. -/
def failsLike : Source → Source → Bool
  | .failing error, .failing other => error = other
  | _, _ => false

/-- The entries of a tree by the steps that lead to them. -/
abbrev Tree := List (List Text × Source)

namespace Tree

/-- The steps of a path. -/
def steps (path : Text) : List Text := path.splitOn '/'

/-- Whether the step stays where it is. -/
def isIdle (step : Text) : Bool := step.isEmpty || step == ".".toList

/-- The tree whose entries are given by their paths. Paths to nothing are left out. -/
def ofEntries (entries : List (Text × Source)) : Tree :=
  (entries.filter fun entry => !entry.2.failsLike missing).map fun (path, source) =>
    ((steps path).filter (!isIdle ·), source)

/-- The tree of the devices: one from which nothing can be read. -/
def devices : Tree := [(steps "dev/null", .file ByteArray.empty)]

/-- What stands at the place that the steps lead to. -/
def node (tree : Tree) (place : List Text) : Source :=
  match tree.lookup place with
  | some source => source
  | none =>
    if place.isEmpty || tree.any fun (entry, _) => place.isPrefixOf entry then directory
    else missing

/-- How many bytes a name may take. -/
def maxNameSize : Nat := 255

/-- How many bytes a path may take. -/
def maxPathSize : Nat := 4095

/-- What the steps lead to from a place in the tree. From above its root they are walked in an
empty tree. -/
def walk (tree : Tree) (place : List Text) : List Text → Source
  | [] => tree.node place
  | step :: rest =>
    let here := tree.node place
    if here.failsLike directory then
      if isIdle step then walk tree place rest
      else if step = "..".toList then
        if place.isEmpty then walk [] [] rest else walk tree place.dropLast rest
      else if maxNameSize < step.utf8Size then overlong
      else walk tree (place ++ [step]) rest
    else
      match here with
      | .file _ => blocked
      | other => other

/-- What a path leads to. The empty path leads nowhere. -/
def find (tree : Tree) (path : Text) : Source :=
  if maxPathSize < path.utf8Size then overlong
  else
    match path with
    | [] => missing
    | '/' :: rest => devices.walk [] (steps rest)
    | path => tree.walk [] (steps path)

end Tree
end Source
end AsmLens
