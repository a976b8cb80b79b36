import LiveTabs.App
import LiveTabs.Http.Cookie
import LiveTabs.Http.Route
import LiveTabs.Text.Percent
/-!
The application over HTTP: pages on their routes, the push channel, actions, and closing a tab.
-/
namespace LiveTabs.Http

structure Request where
  method : String
  target : String
  headers : List (String × String)
  body : Bytes

/-- The body of an answer: text, or the events of a push channel. -/
inductive Body where
  | text (s : String)
  | events (channel : PushChannel)

/-- Only a success has a content. -/
structure Response where
  status : Nat
  setCookie : Option String
  contentType : Option String
  body : Body

def plain (status : Nat) : Response := ⟨status, none, none, .text ""⟩

/-- What a path leads to. -/
inductive Endpoint where
  | page (route : String)
  | pushChannel
  | action
  | close
  deriving DecidableEq

/-- The routes of the transport itself, which no page has, and those of the pages. -/
def routes (app : App) : List (Route Endpoint) :=
  [.of "/_sse" .pushChannel, .of "/_action/:action" .action, .of "/_session/close" .close] ++
    app.pages.keys.map fun route => .of route (.page route)

def endpoint? (app : App) (path : List Char) : Option Endpoint := lookup (routes app) path

/-- The segment of an action's path that names the action. -/
def actionSegment (path : List Char) : List Char := path.drop "/_action/".length

def isSchemeChar (c : Char) : Bool := c.isAlphanum || c == '+' || c == '-' || c == '.'

/-- A target that names a scheme and an authority, without the two; any other as it stands. -/
def withoutAuthority (target : List Char) : List Char :=
  match target.dropWhile isSchemeChar with
  | ':' :: '/' :: '/' :: rest =>
    match rest.dropWhile fun c => c != '/' && c != '?' with
    | '/' :: path => '/' :: path
    | others => '/' :: others
  | _ => target

/-- The path and the query of a request's target; a fragment belongs to neither. -/
def pathAndQuery (target : String) : List Char × List Char :=
  let bare := withoutAuthority (target.toList.takeWhile (· != '#'))
  (bare.takeWhile (· != '?'), (bare.dropWhile (· != '?')).drop 1)

/-- The parameter of a query, if it is there exactly once; a query that repeats it is refused. -/
def parameter (query : List Char) (name : String) : Except Unit (Option String) :=
  match (Text.Percent.pairs query).filter fun pair => pair.1 == name with
  | [] => .ok none
  | [pair] => .ok (some pair.2)
  | _ => .error ()

def cookieHeaders (request : Request) : List String :=
  (request.headers.filter fun header => header.1.toLower == "cookie").map Prod.snd

def servePage (app : App) (now : Instant) (route : String) (request : Request) :
    App × Response :=
  let cookie := sessionFrom (cookieHeaders request) app.config.cookieName
  match app.loadPage now route cookie with
  | (after, .ok page) =>
    let shown : Response := ⟨200, none, some "text/html; charset=utf-8", .text page.html⟩
    if page.newSession then
      let cookie := cookieFor app.config page.session
      if cookie.toList.all isWritable then (after, { shown with setCookie := some cookie })
      else (after, plain 500)
    else (after, shown)
  | (after, .error (.unknownRoute _)) => (after, plain 404)
  | (after, .error _) => (after, plain 500)

def serveEvents (app : App) (now : Instant) (query : List Char) : App × Response :=
  match parameter query "tab" with
  | .ok (some id) =>
    match app.subscribe now id with
    | (after, some channel) =>
      (after, ⟨200, none, some "text/event-stream", .events channel⟩)
    | (after, none) => (after, plain 404)
  | _ => (app, plain 400)

def serveAction (app : App) (now : Instant) (segment query : List Char) :
    App × List Note × Response :=
  match Text.Utf8.decodeExact? (Text.Percent.decode (Text.Utf8.encodeChars segment)),
      parameter query "payload" with
  | some action, .ok (some payload) =>
    match app.runRequest now action payload with
    | (after, notes, .ok _) => (after, notes, plain 200)
    | (after, notes, .error _) => (after, notes, plain 400)
  | _, _ => (app, [], plain 400)

def serveClose (app : App) (body : Bytes) : App × Response :=
  match Text.Utf8.decodeExact? body with
  | none => (app, plain 400)
  | some text => ((app.close (Text.trim text)).1, plain 200)

/-- The answer to a request for the head alone has no content, and its events are over at once. -/
def Response.headOnly (response : Response) : Response :=
  match response.body with
  | .text _ => { response with body := .text "" }
  | .events channel => { response with body := .events { channel with generation := 0 } }

/-- Everything is asked for by GET or HEAD, but closing by POST. -/
def handle (app : App) (now : Instant) (request : Request) : App × List Note × Response :=
  let (path, query) := pathAndQuery request.target
  let reads := request.method == "GET" || request.method == "HEAD"
  let served : App × List Note × Response :=
    match endpoint? app path with
    | none => (app, [], plain 404)
    | some .close =>
      if request.method == "POST" then
        let closed := serveClose app request.body
        (closed.1, [], closed.2)
      else (app, [], plain 405)
    | some (.page route) =>
      if reads then
        let served := servePage app now route request
        (served.1, [], served.2)
      else (app, [], plain 405)
    | some .pushChannel =>
      if reads then
        let served := serveEvents app now query
        (served.1, [], served.2)
      else (app, [], plain 405)
    | some .action =>
      if reads then serveAction app now (actionSegment path) query else (app, [], plain 405)
  if request.method == "HEAD" then (served.1, served.2.1, served.2.2.headOnly) else served

end LiveTabs.Http
