import RateLimit.Connection.Transport

/-!
# Paths of sockets

A server on the same machine can be reached at a socket in the file system.  The path of a socket
has to fit, with a null byte behind it, into the address that the system takes for one
(`SocketPath.capacity`); a longer path is refused before anything is looked up.  Any other path is
followed name by name (`SocketPlace.walk`), through the directories that lead to the socket, to the
working directory and to other files.

## Main definitions

* `SocketPath.tooLong?` : the refusal of a path that does not fit.
* `SocketPath.names` : the names in a path.
* `SocketPlace` : where a socket is.
* `SocketPlace.fault?` : why a path does not lead to the socket.
-/

namespace RateLimit

namespace SocketPath

/-- The bytes of an address that are left for a path and the null byte behind it. -/
def capacity : Nat := 108

/-- The refusal of a path that is too long for an address. -/
def tooLong? (path : String) : Option TransportFault :=
  if path.utf8ByteSize < capacity then none
  else some ⟨"InvalidInput", "path must be shorter than SUN_LEN"⟩

/-- The names in a path, which stand between its slashes.  Before the first slash and behind the
last one there may be an empty name. -/
def names (path : List Char) : List (List Char) :=
  path.foldr (fun c found =>
    if c = '/' then [] :: found
    else
      match found with
      | [] => [[c]]
      | name :: rest => (c :: name) :: rest) [[]]

end SocketPath

/-- Where a server puts its socket, and what else there is: the directories that lead to something
named here exist, and nothing beside. -/
structure SocketPlace where
  /-- The names of the directories that lead from the root to the socket. -/
  directory : List String
  /-- The name of the socket. -/
  name : String
  /-- The names of the directories that lead from the root to the working directory, where a path
  that does not begin with a slash begins. -/
  home : List String
  /-- The files that are no sockets, each by the names that lead to it from the root. -/
  files : List (List String) := []
  deriving DecidableEq, Repr

namespace SocketPlace

/-- The names that lead from the root to the socket. -/
def steps (place : SocketPlace) : List String :=
  place.directory ++ [place.name]

/-- The path of the socket. -/
def path (place : SocketPlace) : String :=
  String.join (place.steps.map ("/" ++ ·))

/-- Whether names lead from the root to something that exists, the socket being there or not. -/
def holds (place : SocketPlace) (present : Bool) (steps : List String) : Bool :=
  ((if present then place.steps else place.directory) :: place.home :: place.files).any
    steps.isPrefixOf

/-- Whether names lead from the root to something that is no directory. -/
def isLeaf (place : SocketPlace) (present : Bool) (steps : List String) : Bool :=
  (present && steps = place.steps) || place.files.contains steps

/-- Why names do not lead to the socket, from a place that exists.  Only a directory leads on, and
only a socket takes connections. -/
def walk (place : SocketPlace) (present : Bool) : List String → List String → Option TransportFault
  | here, [] =>
      if present && here = place.steps then none
      else some ⟨"ConnectionRefused", "Connection refused (os error 111)"⟩
  | here, name :: rest =>
      if place.isLeaf present here then
        some ⟨"NotADirectory", "Not a directory (os error 20)"⟩
      else if name = "" || name = "." then walk place present here rest
      else if name = ".." then walk place present here.dropLast rest
      else if place.holds present (here ++ [name]) then walk place present (here ++ [name]) rest
      else some ⟨"NotFound", "No such file or directory (os error 2)"⟩

/-- Why a path does not lead to the socket, which is there or not. -/
def fault? (place : SocketPlace) (present : Bool) (path : String) : Option TransportFault :=
  match SocketPath.tooLong? path with
  | some fault => some fault
  | none =>
      place.walk present (if path.toList.head? = some '/' then [] else place.home)
        ((SocketPath.names path.toList).map String.ofList)

end SocketPlace

end RateLimit
