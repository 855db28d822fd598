import Moorings.Session.Connection

/-!
# Many connections to one directory

Connections have nothing in common but the directory. A `Hub` is the directory
with all of them, each under a number; a number that has not been heard of is
a connection that holds nothing yet.

The directory takes one request at a time, so whatever the connections do side
by side is one sequence of requests, each with the number of the connection it
comes from. `Hub.run` performs such a sequence, and so every interleaving is a
list.
-/

namespace Moorings.Session

/-- **A directory and the connections to it.** -/
structure Hub where
  /-- The directory. -/
  directory : Directory := {}
  /-- The connections by their numbers. -/
  connections : Nat → Connection := fun _ => {}

namespace Hub

/-- The session that a connection holds. -/
def held (h : Hub) (number : Nat) : Option UInt64 := (h.connections number).held

/-- **The reply to a request on the connection with this number.** A
connection that has been told something for the last time is served all the
same if it goes on asking. -/
def handle (h : Hub) (number : Nat) (request : Request) : Reply × Hub :=
  let (reply, connection, directory) := (h.connections number).handle h.directory request
  (reply,
    { directory
      connections := fun other =>
        if other = number then connection else h.connections other })

/-- The requests handled one after another, with their replies. -/
def run (h : Hub) : List (Nat × Request) → List Reply × Hub
  | [] => ([], h)
  | (number, request) :: rest =>
    let (reply, h) := h.handle number request
    let (replies, h) := h.run rest
    (reply :: replies, h)

end Hub

end Moorings.Session
