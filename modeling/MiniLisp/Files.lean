import MiniLisp.Path

/-! # Files

    What a program needs from the files around it: whether a path leads to a
    directory, and the text of a file. A tree of files answers both; the
    operating system is another source of answers.
-/

namespace MiniLisp

/-- A source of files. -/
structure Files (m : Type → Type) where
  isDirectory : Path → m Bool
  read? : Path → m (Option String)

/-- Files below one directory: the names that lead to each, and its text. -/
abbrev FileTree := List (List String × String)

namespace FileTree

/-- The text of the file that names lead to. -/
def textAt? (tree : FileTree) (names : List String) : Option String :=
  tree.lookup names

/-- Whether names lead to a directory: the top, or one that holds a file at
    any depth. -/
def isDirectoryAt (tree : FileTree) (names : List String) : Bool :=
  names.isEmpty || tree.any fun entry => names.isPrefixOf entry.1 && names != entry.1

/-- Follows names from a directory. Two points lead to the directory around;
    nothing is known outside of the tree. -/
def follow (tree : FileTree) (here : List String) : List String → Option (List String)
  | [] => some here
  | name :: rest =>
      if !isDirectoryAt tree here then none
      else if name = ".." then
        match here with
        | [] => none
        | _ :: _ => follow tree here.dropLast rest
      else follow tree (here ++ [name]) rest

/-- Where a path leads to, seen from the top. -/
def resolve? (tree : FileTree) (p : Path) : Option (List String) :=
  if p.slashes = 0 then follow tree [] p.names else none

/-- The files of a tree. -/
def files (tree : FileTree) : Files Id where
  isDirectory p :=
    match tree.resolve? p with
    | some names => tree.isDirectoryAt names
    | none => false
  read? p := (tree.resolve? p).bind tree.textAt?

end FileTree

/-! ## Line breaks -/

/-- Makes every line break a single line feed: a carriage return counts as
    one, with or without a line feed after it. -/
def unifyLines : List Char → List Char
  | [] => []
  | '\r' :: '\n' :: rest => '\n' :: unifyLines rest
  | '\r' :: rest => '\n' :: unifyLines rest
  | c :: rest => c :: unifyLines rest

/-- The text of a file as it is read. -/
def fileText (contents : String) : String :=
  String.ofList (unifyLines contents.toList)

/-- The lines of a text; the last one need not end with a line feed. -/
def linesOf (text : String) : List String :=
  let pieces := Text.split '\n' text.toList
  let pieces := if pieces.getLast? == some [] then pieces.dropLast else pieces
  pieces.map String.ofList

end MiniLisp
