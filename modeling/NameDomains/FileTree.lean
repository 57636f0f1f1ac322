/-
**Files, as far as they are read and appended to.**

A file tree gives each path below its root a directory or a file with its bytes. A path is followed
step by step from the root, whether or not it starts with a slash: every step but the last must lead
through a directory, `.` stays and `..` goes back. A path and each of its steps have a greatest length, no
path holds the zero character, and the empty path leads nowhere.

This is a file system without links and without rights to its files, on which nobody else works. Files fail
in the six ways of `FileError` only: what is found can be read whole, a file that can be opened for appending
is opened, and then nothing that is appended to it fails or is lost.

* `FileTree.locate` — what a path leads to, or why it leads nowhere.
* `FileTree.readText` — the text of a file.
* `FileTree.canAppend` — whether a file can be opened for appending, creating it if need be.
-/

import Std.Data.ExtTreeMap

namespace NameDomains

/-- What stands at a path. -/
inductive FileEntry
  | directory
  | file (content : ByteArray)

/-- Why a file cannot be read. -/
inductive FileError
  | missing
  | notADirectory
  | isADirectory
  | notText
  | nameTooLong
  | zeroInName
  deriving DecidableEq, Repr

/-- The error in words. -/
def FileError.message : FileError → String
  | missing => "No such file or directory (os error 2)"
  | notADirectory => "Not a directory (os error 20)"
  | isADirectory => "Is a directory (os error 21)"
  | notText => "stream did not contain valid UTF-8"
  | nameTooLong => "File name too long (os error 36)"
  | zeroInName => "file name contained an unexpected NUL byte"

/-- Directories and files by their path below the root. -/
abbrev FileTree := Std.ExtTreeMap (List String) FileEntry

namespace FileTree

/-- What stands at a path of plain names; the root is a directory. -/
def entryAt (tree : FileTree) (path : List String) : Option FileEntry :=
  if path.isEmpty then some .directory else tree[path]?

/-- The most bytes in one step of a path. -/
def longestName : Nat := 255

/-- The most bytes in a path. -/
def longestPath : Nat := 4095

/-- Follows steps from a place inside the tree. -/
def follow (tree : FileTree) (place : List String) :
    List String → Except FileError (List String × Option FileEntry)
  | [] => .ok (place, tree.entryAt place)
  | step :: steps =>
    match tree.entryAt place with
    | none => .error .missing
    | some (.file _) => .error .notADirectory
    | some .directory =>
      if step = "" || step = "." then tree.follow place steps
      else if step = ".." then tree.follow place.dropLast steps
      else if step.utf8ByteSize > longestName then .error .nameTooLong
      else tree.follow (place ++ [step]) steps

/-- What a path leads to, if anything stands there. -/
def locate (tree : FileTree) (path : String) : Except FileError (List String × Option FileEntry) :=
  if path.toList.contains '\x00' then .error .zeroInName
  else if path = "" then .error .missing
  else if path.utf8ByteSize > longestPath then .error .nameTooLong
  else tree.follow [] (path.splitOn "/")

/-- The bytes of a file. -/
def readBytes (tree : FileTree) (path : String) : Except FileError ByteArray := do
  match ← tree.locate path with
  | (_, none) => throw .missing
  | (_, some .directory) => throw .isADirectory
  | (_, some (.file content)) => return content

/-- The text of a file. -/
def readText (tree : FileTree) (path : String) : Except FileError String := do
  match String.fromUTF8? (← tree.readBytes path) with
  | some text => return text
  | none => throw .notText

/-- Whether a file can be opened for appending: it is no directory, and its directory exists. -/
def canAppend (tree : FileTree) (path : String) : Bool :=
  match tree.locate path with
  | .ok (_, some .directory) => false
  | .ok _ => true
  | .error _ => false

end FileTree

end NameDomains
