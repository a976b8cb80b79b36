import LiveTabs.Config
import LiveTabs.Text.Lines
/-!
The session cookie, as a browser sends it and as the server sets it.
-/
namespace LiveTabs.Http

/-- What may stand in a header that is read: visible characters, spaces and tabs. -/
def isReadable (c : Char) : Bool := (0x20 ≤ c.toNat && c.toNat < 0x7f) || c == '\t'

/-- What may stand in a header that is written: anything but control characters, tabs excepted. -/
def isWritable (c : Char) : Bool := (0x20 ≤ c.toNat && c.toNat != 0x7f) || c == '\t'

/-- The text before and after the first equals sign of a piece that has one. -/
def nameAndValue? (piece : List Char) : Option (List Char × List Char) :=
  match piece.dropWhile (· != '=') with
  | [] => none
  | _ :: value => some (piece.takeWhile (· != '='), value)

/-- The named pairs in the pieces of cookie headers. -/
def cookiePairs (headers : List String) : List (List Char × List Char) :=
  (headers.filter fun header => header.toList.all isReadable).flatMap fun header =>
    (Text.splitAt ';' header.toList).filterMap fun piece =>
      nameAndValue? (Text.trimBy Text.isBlank piece)

/-- The value of the first pair with exactly this name, unless it is blank. -/
def sessionFrom (headers : List String) (name : String) : Option String :=
  (((cookiePairs headers).find? fun pair => pair.1 == name.toList).map
    fun pair => String.ofList (Text.trimBy Text.isBlank pair.2)).filter (!·.isEmpty)

def cookieFor (config : Config) (session : String) : String :=
  config.cookieName ++ "=" ++ session ++ "; Path=/; Max-Age=" ++ toString config.sessionMaxAge ++
    "; HttpOnly; SameSite=Lax"

end LiveTabs.Http
