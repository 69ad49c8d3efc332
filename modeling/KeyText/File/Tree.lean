import KeyText.File.Fault

/-!
# File trees

Directories and files as a value, and what reading a path in them gives. A path is followed name by name, so the first name
that fails settles the fault.
-/

namespace KeyText.File

/-- What a name stands for. -/
inductive Node where
  | file (content : List UInt8)
  | directory (entries : List (String × Node))

/-- The longest name, in bytes. -/
def nameLimit : Nat := 255

/-- The length from which on a path is too long, in bytes. -/
def pathLimit : Nat := 4096

/-- Follows names from a node; the directories above it are given, the nearest first. No name and a single dot stand for the
directory itself, two dots for the one above; nothing is above the first. -/
def Node.follow : Node → (above : List Node) → (names : List String) → Except Fault Node
  | node, _, [] => .ok node
  | file _, _, _ :: _ => .error .notDirectory
  | directory entries, above, name :: names =>
    if name = "" ∨ name = "." then (directory entries).follow above names
    else if name = ".." then
      match above with
      | [] => (directory entries).follow [] names
      | parent :: above => parent.follow above names
    else if nameLimit < name.utf8ByteSize then .error .nameTooLong
    else
      match entries.find? fun (entry, _) => entry == name with
      | some (_, node) => node.follow (directory entries :: above) names
      | none => .error .missing

/-- A tree, and the directory right below its root in which paths begin that do not begin at the root. -/
structure Tree where
  root : Node
  working : Node

/-- What a path stands for. -/
def Tree.find (tree : Tree) (path : String) : Except Fault Node :=
  let names := (path.toList.splitOn '/').map String.ofList
  if path.contains '\x00' then .error .zeroByte
  else if path.isEmpty then .error .missing
  else if pathLimit ≤ path.utf8ByteSize then .error .nameTooLong
  else
    match names with
    | "" :: names => tree.root.follow [] names
    | names => tree.working.follow [tree.root] names

/-- Reads the file at a path. -/
def Tree.read (tree : Tree) (path : String) : Except Fault (List UInt8) := do
  match ← tree.find path with
  | .file content => return content
  | .directory _ => .error .directory

end KeyText.File
