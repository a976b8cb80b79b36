/-!
Routes and the paths that they match. In a route a colon begins a parameter, which takes a path up to
its next slash, and an asterisk the remainder, which takes all that is left; any other character
matches itself. A parameter may take nothing only where a slash follows it.

Routes are matched together: those that begin alike are followed as one up to where they part. There
the character at hand is followed first, and only if that misses, a remainder or a parameter takes
the path. A path that has a slash too many or too few at its end may be refused on the way, and then
no other route is tried.
-/
namespace LiveTabs.Http

inductive PathPiece where
  | literal (c : Char)
  | parameter
  | remainder
  deriving DecidableEq

/-- The pieces of a route. The name of a parameter plays no part in matching. -/
def pathPieces (route : List Char) (inName : Bool) : List PathPiece :=
  match route with
  | [] => []
  | c :: rest =>
    if inName && c != '/' then pathPieces rest true
    else if c = ':' then .parameter :: pathPieces rest true
    else if c = '*' then [.remainder]
    else .literal c :: pathPieces rest false

/-- A route, or what is left of one, and where it leads. -/
structure Route (α : Type) where
  pieces : List PathPiece
  target : α

variable {α : Type}

def Route.of (route : String) (target : α) : Route α := ⟨pathPieces route.toList false, target⟩

def Route.drop (n : Nat) (route : Route α) : Route α := ⟨route.pieces.drop n, route.target⟩

/-- What is left of a route that begins with the piece. -/
def Route.after? (piece : PathPiece) (route : Route α) : Option (Route α) :=
  match route.pieces with
  | [] => none
  | first :: rest => if first = piece then some ⟨rest, route.target⟩ else none

def after (piece : PathPiece) (routes : List (Route α)) : List (Route α) :=
  routes.filterMap (Route.after? piece)

/-- Where the route leads of which nothing is left. -/
def ended? (routes : List (Route α)) : Option α :=
  (routes.find? fun route => route.pieces.isEmpty).map Route.target

/-- The literal characters that a route begins with. -/
def leading : List PathPiece → List Char
  | .literal c :: rest => c :: leading rest
  | _ => []

def commonFront : List Char → List Char → List Char
  | c :: cs, d :: ds => if c = d then c :: commonFront cs ds else []
  | _, _ => []

/-- The literal characters that all the routes begin with. -/
def stem : List (Route α) → List Char
  | [] => []
  | [route] => leading route.pieces
  | route :: rest => commonFront (leading route.pieces) (stem rest)

/-- The routes after the characters that they have in common. -/
def parted (routes : List (Route α)) : List (Route α) :=
  routes.map (Route.drop (stem routes).length)

/-- What a search comes to. After a miss a parameter or a remainder passed over before may still take
the path, after a refusal nothing may. -/
inductive Lookup (α : Type) where
  | found (target : α)
  | missed
  | refused

namespace Lookup

/-- A lone slash that leads nowhere is refused. -/
def nowhere (path : List Char) : Lookup α := if path = ['/'] then .refused else .missed

def orElse : Lookup α → (Unit → Lookup α) → Lookup α
  | .missed, other => other ()
  | outcome, _ => outcome

def toOption : Lookup α → Option α
  | .found target => some target
  | .missed | .refused => none

end Lookup

/-- Only a slash is left where one route has ended, and those that go on beyond it all do so alike. -/
def hasExtraSlash (here beyond : List (Route α)) (path : List Char) : Bool :=
  path == ['/'] && !(stem beyond).isEmpty && (ended? here).isSome

/-- Where a path leads that leaves the routes before they part. -/
def strayed (lead : List Char) (routes : List (Route α)) (path : List Char) : Lookup α :=
  if stem routes = path ++ ['/'] ∧ (ended? (parted routes)).isSome then .refused
  else .nowhere (lead ++ path)

/-- What is known of a path before its first character is followed, if anything is. -/
def beforeLiteral? (here onward : List (Route α)) (path : List Char) : Option (Lookup α) :=
  if onward.isEmpty then some .missed
  else if hasExtraSlash here onward path then some .refused
  else none

/-- What a parameter makes of a path, unless routes go on beyond the segment that it takes. -/
def parameter? (beyond further : List (Route α)) (path : List Char) : Option (Lookup α) :=
  let rest := path.dropWhile (· != '/')
  if rest.isEmpty then
    match ended? beyond with
    | some target => some (.found target)
    | none =>
      if further.isEmpty || (stem further).isEmpty && (ended? further).isSome then some .refused
      else some .missed
  else if further.isEmpty then some (if rest = ['/'] then .refused else .missed)
  else if hasExtraSlash beyond further rest then some .refused
  else none

/-- What a remainder or a parameter makes of a path, unless routes go on beyond a segment. -/
def wildcard? (here onward : List (Route α)) (path : List Char) : Option (Lookup α) :=
  match ended? (after .remainder here) with
  | some target => some (.found target)
  | none =>
    let beyond := after .parameter here
    if beyond.isEmpty then some (if onward.isEmpty then .nowhere path else .missed)
    else parameter? beyond (after (.literal '/') beyond) path

/-- What is left of a path after its first slash. -/
def afterSlash (path : List Char) : List Char := (path.dropWhile (· != '/')).drop 1

theorem length_afterSlash_cons (c : Char) (rest : List Char) :
    (afterSlash (c :: rest)).length ≤ rest.length := by
  have dropped := (List.dropWhile_sublist (l := c :: rest) (· != '/')).length_le
  simp only [afterSlash, List.length_drop, List.length_cons] at *
  omega

/-- What is left of a path that begins with the characters in front. -/
def strip? : List Char → List Char → Option (List Char)
  | [], path => some path
  | _ :: _, [] => none
  | c :: front, d :: path => if c = d then strip? front path else none

theorem strip?_eq_some_iff {front path rest : List Char} :
    strip? front path = some rest ↔ path = front ++ rest := by
  induction front generalizing path with
  | nil => simp [strip?]
  | cons c front ih =>
    cases path with
    | nil => simp [strip?]
    | cons d path =>
      by_cases same : c = d
      · simp [strip?, same, ih]
      · simp [strip?, same, Ne.symm same]

theorem length_lt_of_strip? {front path rest : List Char} {c : Char}
    (h : strip? front path = some (c :: rest)) : rest.length < path.length := by
  simp only [strip?_eq_some_iff.mp h, List.length_append, List.length_cons]
  omega

/-- Follows the routes along a path. The lead is what was read of it since they parted last. -/
def search (lead : List Char) (routes : List (Route α)) (path : List Char) : Lookup α :=
  match _ : strip? (stem routes) path with
  | none => strayed lead routes path
  | some [] => (ended? (parted routes)).elim (.nowhere (lead ++ path)) .found
  | some (c :: rest) =>
    let here := parted routes
    let onward := after (.literal c) here
    let straight := (beforeLiteral? here onward (c :: rest)).getD (search [c] onward rest)
    straight.orElse fun _ =>
      (wildcard? here onward (c :: rest)).getD
        (search ['/'] (after (.literal '/') (after .parameter here)) (afterSlash (c :: rest)))
termination_by path.length
decreasing_by
  · exact length_lt_of_strip? ‹_›
  · exact Nat.lt_of_le_of_lt (length_afterSlash_cons c rest) (length_lt_of_strip? ‹_›)

/-- Where a path leads. -/
def lookup (routes : List (Route α)) (path : List Char) : Option α :=
  (search [] routes path).toOption

end LiveTabs.Http
