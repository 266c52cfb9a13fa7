import ChatRules.Store.File

namespace ChatRules

/-- The names on the way from the working folder, or from the root where the first one is empty. -/
abbrev Path := List String

namespace Path

def splitAt (x : Char) : List Char → List (List Char)
  | [] => [[]]
  | c :: rest =>
    if c = x then [] :: splitAt x rest
    else
      match splitAt x rest with
      | [] => [[c]]
      | part :: more => (c :: part) :: more

def step (path : Path) (name : String) : Path :=
  if name = "" ∨ name = "." then path
  else if name = ".." then path.dropLast
  else path ++ [name]

def ofText (s : String) : Path :=
  let parts := (splitAt '/' s.toList).map String.ofList
  parts.foldl step (if s.toList.head? = some '/' then [""] else [])

end Path

abbrev Disk := List (Path × String)

namespace Disk

def text? (d : Disk) (path : Path) : Option String :=
  (d.find? fun f => f.1 == path).map Prod.snd

def isFolder (d : Disk) (path : Path) : Bool :=
  path = [] || d.any fun f => path.isPrefixOf f.1 && f.1 != path

def isBlocked (d : Disk) (path : Path) : Bool :=
  d.any fun f => f.1.isPrefixOf path && f.1 != path

def write (path : Path) (text : String) : Disk → Disk
  | [] => [(path, text)]
  | f :: rest => if f.1 = path then (path, text) :: rest else f :: write path text rest

end Disk

end ChatRules
