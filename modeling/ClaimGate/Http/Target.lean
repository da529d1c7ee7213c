/-! Targets of HTTP requests: a path, or an address that has a scheme and an authority in
front of its path. A query or a fragment ends the path. -/

namespace ClaimGate.Http.Target

/-- Characters that end a path. -/
def endsPath (c : Char) : Bool := c == '?' || c == '#'

/-- Characters that end an authority. -/
def endsAuthority (c : Char) : Bool := c == '/' || endsPath c

def isSchemeChar (c : Char) : Bool := c.isAlphanum || "+-.~".toList.contains c

/-- The text after a scheme and two slashes. -/
def afterScheme? (cs : List Char) : Option (List Char) :=
  match cs.dropWhile isSchemeChar with
  | ':' :: '/' :: '/' :: rest => some rest
  | _ => none

/-- The path that begins with a slash; an address without one has that of the root. -/
def rooted (cs : List Char) : List Char :=
  match cs.takeWhile fun c => !endsPath c with
  | [] => ['/']
  | path => path

/-- The path of a target; none for a target that is neither a path nor an address. -/
def path? : List Char → Option (List Char)
  | '/' :: cs => some (rooted ('/' :: cs))
  | cs => (afterScheme? cs).map fun rest => rooted (rest.dropWhile fun c => !endsAuthority c)

end ClaimGate.Http.Target
