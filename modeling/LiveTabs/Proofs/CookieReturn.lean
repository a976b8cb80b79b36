import LiveTabs.Proofs.Building
import LiveTabs.Proofs.Logout
import LiveTabs.Proofs.Registry
import LiveTabs.Proofs.Routing
/-!
The session cookie on its way through a browser and back. A browser sends the pair that was set
among others, parted by semicolons and by blanks, on however many lines; the session is read off it
again, and the page that it asks for is rendered in that session.
-/
namespace LiveTabs

namespace Text

theorem trimBy_eq_nil {drop : Char → Bool} {cs : List Char} (none : trimBy drop cs = []) :
    ∀ c ∈ cs, drop c = true := by
  have spent : (cs.dropWhile drop).reverse.dropWhile drop = [] := List.reverse_eq_nil_iff.mp none
  have left : ∀ c ∈ cs.dropWhile drop, drop c = true := fun c member =>
    List.dropWhile_eq_nil_iff.mp spent c (List.mem_reverse.mpr member)
  refine List.dropWhile_eq_nil_iff.mp ?_
  cases kept : cs.dropWhile drop with
  | nil => rfl
  | cons c rest =>
    have blank := left c (by rw [kept]; exact List.mem_cons_self)
    have first := List.head?_dropWhile_not drop cs
    rw [kept] at first
    simp [blank] at first

end Text

namespace Config

/-- A name that needs no quotes and is not missing. -/
def IsCookieName (name : String) : Prop :=
  name.toList ≠ [] ∧ ∀ c ∈ name.toList, isCookieChar c = true

theorem cookieName_of_read {lookup : String → Option String} {name : String}
    (read : readSetting lookup .cookieName defaults.cookieName cookie = .ok name) :
    IsCookieName name := by
  unfold readSetting at read
  split at read
  · rw [← Except.ok.inj read]
    exact ⟨nofun, List.all_eq_true.mp rfl⟩
  · next raw given =>
    unfold cookie at read
    dsimp only at read
    split at read
    · next plain =>
      rw [← Except.ok.inj read]
      refine ⟨fun none => ?_, List.all_eq_true.mp plain⟩
      rw [Text.trim, String.toList_ofList] at none
      have kept := (Option.filter_eq_some_iff.mp given).2
      rw [Text.allBlank, List.all_eq_true.mpr (Text.trimBy_eq_nil none)] at kept
      nomatch kept
    · nomatch read

/-- Whatever the variables are, the name of the cookie is one where they are accepted. -/
theorem ofVariables_cookieName {lookup : String → Option String} {config : Config}
    (accepted : ofVariables lookup = .ok config) : IsCookieName config.cookieName := by
  unfold ofVariables at accepted
  obtain ⟨_, _, accepted⟩ := (bind_eq_ok_iff _ _ _).mp accepted
  obtain ⟨_, _, accepted⟩ := (bind_eq_ok_iff _ _ _).mp accepted
  obtain ⟨_, _, accepted⟩ := (bind_eq_ok_iff _ _ _).mp accepted
  obtain ⟨name, read, accepted⟩ := (bind_eq_ok_iff _ _ _).mp accepted
  obtain ⟨_, _, accepted⟩ := (bind_eq_ok_iff _ _ _).mp accepted
  rw [← Except.ok.inj accepted]
  exact cookieName_of_read read

theorem isCookieChar_ne {c : Char} (plain : isCookieChar c = true) : c ≠ '=' ∧ c ≠ ';' := by
  constructor <;> rintro rfl <;> exact absurd plain (by decide)

end Config

namespace IdSource

/-- Neither blanks nor a semicolon occur in a generated id. -/
theorem sessionId_plain (n : Nat) :
    ∀ c ∈ (sessionId n).toList, Text.isBlank c = false ∧ c ≠ ';' := by
  have text : (sessionId n).toList = "@sess".toList ++ Decimal.digits n ++ "@".toList := by
    simp [sessionId, Decimal.digits]
  have fixed : ∀ c ∈ "@sess".toList ++ "@".toList, (!Text.isBlank c && c != ';') = true :=
    List.all_eq_true.mp rfl
  intro c member
  rw [text, List.append_assoc, List.mem_append, List.mem_append] at member
  have plain (here : c ∈ "@sess".toList ++ "@".toList) : Text.isBlank c = false ∧ c ≠ ';' := by
    simpa using fixed c here
  rcases member with front | digit | back
  · exact plain (List.mem_append_left _ front)
  · have shown := List.all_eq_true.mp (Decimal.digits_all_digit n) c digit
    exact ⟨Text.isBlank_of_isDigit c shown, by rintro rfl; exact absurd shown (by decide)⟩
  · exact plain (List.mem_append_right _ back)

theorem sessionId_ne_nil (n : Nat) : (sessionId n).toList ≠ [] := by
  simp [sessionId]

end IdSource

namespace Http

/-- The pair that a header sets, ahead of its attributes. -/
def pairOf (header : String) : List Char := header.toList.takeWhile (· != ';')

/-- What stands between the semicolons of a request's cookie headers. -/
def cookiePieces (request : Request) : List (List Char) :=
  (cookieHeaders request).flatMap fun line => Text.splitAt ';' line.toList

/-- The name of a piece that has one. -/
def pieceName? (piece : List Char) : Option (List Char) :=
  (nameAndValue? (Text.trimBy Text.isBlank piece)).map Prod.fst

/-- The pair that a header set comes back with a request, ahead of any other by that name. There may
be blanks around it. -/
structure Request.Returns (request : Request) (name header : String) : Prop where
  readable : ∀ line ∈ cookieHeaders request, ∀ c ∈ line.toList, isReadable c = true
  among : ∃ before piece after, cookiePieces request = before ++ piece :: after ∧
    Text.trimBy Text.isBlank piece = pairOf header ∧
    ∀ other ∈ before, pieceName? other ≠ some name.toList

theorem pairOf_cookieFor {config : Config} {session : String}
    (named : ∀ c ∈ config.cookieName.toList, c ≠ ';') (plain : ∀ c ∈ session.toList, c ≠ ';') :
    pairOf (cookieFor config session) = config.cookieName.toList ++ '=' :: session.toList := by
  have written : (cookieFor config session).toList =
      (config.cookieName.toList ++ '=' :: session.toList) ++
        (';' :: (" Path=/; Max-Age=" ++ toString config.sessionMaxAge ++
          "; HttpOnly; SameSite=Lax").toList) := by
    simp [cookieFor]
  have whole : ∀ c ∈ config.cookieName.toList ++ '=' :: session.toList, (c != ';') = true := by
    intro c member
    rw [bne_iff_ne]
    rcases List.mem_append.mp member with name | rest
    · exact named c name
    · rcases List.mem_cons.mp rest with rfl | value
      · decide
      · exact plain c value
  rw [pairOf, written, List.takeWhile_append_of_pos whole]
  simp

theorem nameAndValue?_pair {name value : List Char} (named : ∀ c ∈ name, c ≠ '=') :
    nameAndValue? (name ++ '=' :: value) = some (name, value) := by
  have front : ∀ c ∈ name, (c != '=') = true := fun c member => bne_iff_ne.mpr (named c member)
  simp [nameAndValue?, List.dropWhile_append_of_pos front, List.takeWhile_append_of_pos front]

/-- The pairs are those of the pieces, where all lines can be read. -/
theorem cookiePairs_eq {request : Request}
    (readable : ∀ line ∈ cookieHeaders request, ∀ c ∈ line.toList, isReadable c = true) :
    cookiePairs (cookieHeaders request) =
      (cookiePieces request).filterMap fun piece =>
        nameAndValue? (Text.trimBy Text.isBlank piece) := by
  have kept : (cookieHeaders request).filter (fun line => line.toList.all isReadable) =
      cookieHeaders request :=
    List.filter_eq_self.mpr fun line member => List.all_eq_true.mpr (readable line member)
  rw [cookiePairs, kept, cookiePieces, List.filterMap_flatMap]

/-- The session that was set is read off a request that returns its cookie. -/
theorem sessionFrom_returned {request : Request} {config : Config} {session : String}
    (accepted : Config.IsCookieName config.cookieName) (named : session.toList ≠ [])
    (plain : ∀ c ∈ session.toList, Text.isBlank c = false ∧ c ≠ ';')
    (returns : request.Returns config.cookieName (cookieFor config session)) :
    sessionFrom (cookieHeaders request) config.cookieName = some session := by
  obtain ⟨before, piece, after, pieces, trimmed, others⟩ := returns.among
  rw [pairOf_cookieFor (fun c member => (Config.isCookieChar_ne (accepted.2 c member)).2)
    fun c member => (plain c member).2] at trimmed
  have pair : nameAndValue? (Text.trimBy Text.isBlank piece) =
      some (config.cookieName.toList, session.toList) := by
    rw [trimmed]
    exact nameAndValue?_pair fun c member => (Config.isCookieChar_ne (accepted.2 c member)).1
  have passed : (before.filterMap fun piece => nameAndValue? (Text.trimBy Text.isBlank piece)).find?
      (fun pair => pair.1 == config.cookieName.toList) = none := by
    refine List.find?_eq_none.mpr fun other member => ?_
    obtain ⟨earlier, listed, read⟩ := List.mem_filterMap.mp member
    have apart := others earlier listed
    rw [pieceName?, read, Option.map_some] at apart
    exact fun same => apart (congrArg some (beq_iff_eq.mp same))
  have found : (cookiePairs (cookieHeaders request)).find?
      (fun pair => pair.1 == config.cookieName.toList) =
      some (config.cookieName.toList, session.toList) := by
    rw [cookiePairs_eq returns.readable, pieces, List.filterMap_append, List.find?_append, passed,
      List.filterMap_cons, pair, Option.none_or]
    exact List.find?_cons_of_pos (beq_self_eq_true _)
  have whole : Text.trimBy Text.isBlank session.toList = session.toList :=
    Text.trimBy_unblank _ _ fun c member => (plain c member).1
  rw [sessionFrom, found, Option.map_some, whole, String.ofList_toList]
  refine Option.filter_eq_some_iff.mpr ⟨rfl, ?_⟩
  simpa [String.isEmpty_iff] using fun none : session = "" => named (by rw [none]; rfl)

end Http

/-- A page that was rendered on a route shows a connection: its own, of the session, with the page
on that route as the page's view renders it for this connection. -/
structure LoadedPage.StandsIn (page : LoadedPage) (before after : App) (route : String)
    (connection : Connection) : Prop where
  found : after.lookup page.connection = some connection
  session : connection.session = some page.session
  routed : before.pages.get? route = some connection.page
  html : ∃ root, (connection.scene after.shared .view).render connection.page.root = some root ∧
    page.html = Markup.document page.connection before.config.clientScript root

namespace App

/-- A cookie that names a session without blanks is given that session, unless it is refused. -/
theorem sessionFor_returned {app : App} {now : Instant} {session : String}
    (named : session.toList ≠ []) (plain : ∀ c ∈ session.toList, Text.isBlank c = false)
    (valid : app.shared.sessions.isRefused session = false) :
    (app.sessionFor now (some session)).2 = ⟨session, false⟩ := by
  have whole : Text.trim session = session := by
    rw [Text.trim, Text.trimBy_unblank _ _ plain, String.ofList_toList]
  have unempty : session.isEmpty = false := by
    simpa [String.isEmpty_iff] using fun none : session = "" => named (by rw [none]; rfl)
  simp [sessionFor, Sessions.resolve, whole, unempty, valid, Option.filter]

theorem loadPage_stands {app : App} {now : Instant} {route : String} {cookie : Option String}
    {page : LoadedPage} (loaded : (app.loadPage now route cookie).2 = .ok page) :
    (∃ connection, page.StandsIn app (app.loadPage now route cookie).1 route connection) ∧
    (Outbox.ofCapacity? app.config.patchQueueCapacity).isSome = true := by
  have loads := app.loadPage_loads now route cookie
  generalize app.loadPage now route cookie = outcome at loads loaded ⊢
  cases loads with
  | rendered connection opens root markup =>
    obtain rfl := Except.ok.inj loaded
    have shown := (connection.pageMarkup_enter _ .view).trans markup
    have found := lookup_register (app.numbered now cookie) connection
    exact ⟨⟨connection, found, opens.session, opens.routed, root, shown, rfl⟩,
      Option.isSome_map.symm.trans (congrArg Option.isSome opens.fresh)⟩
  | unknown | crashed | panicked => cases loaded

/-- A registered page is rendered, unless its view panics. -/
theorem loadPage_calm {app : App} {now : Instant} {route : String} {cookie : Option String}
    (registered : route ∈ app.pages.keys)
    (room : (Outbox.ofCapacity? app.config.patchQueueCapacity).isSome = true)
    (calm : (app.loadPage now route cookie).2 ≠ .error (.viewPanicked route)) :
    ∃ page, (app.loadPage now route cookie).2 = .ok page := by
  have loads := app.loadPage_loads now route cookie
  generalize app.loadPage now route cookie = outcome at loads calm ⊢
  cases loads with
  | unknown unrouted =>
    rw [KeyMap.mem_keys_iff, unrouted] at registered
    cases registered
  | crashed page routed beyond =>
    rw [beyond] at room
    cases room
  | panicked connection => exact absurd rfl calm
  | rendered connection => exact ⟨_, rfl⟩

end App

namespace Http

@[simp] theorem headOnly_setCookie (response : Response) :
    response.headOnly.setCookie = response.setCookie := by
  unfold Response.headOnly
  split <;> rfl

/-- A page as it is sent, with the cookie of a session that it begins. -/
def shown (page : LoadedPage) (setCookie : Option String) : Response :=
  ⟨200, setCookie, some "text/html; charset=utf-8", .text page.html⟩

theorem servePage_setCookie {app : App} {now : Instant} {route : String} {request : Request}
    {header : String} (set : (servePage app now route request).2.setCookie = some header) :
    ∃ page, (app.loadPage now route
        (sessionFrom (cookieHeaders request) app.config.cookieName)).2 = .ok page ∧
      page.newSession = true ∧ header = cookieFor app.config page.session ∧
      (servePage app now route request).2 = shown page (some header) := by
  unfold servePage at set ⊢
  dsimp only at set ⊢
  split at set
  · next after page loaded =>
    split at set
    · next new =>
      split at set
      · next writable =>
        obtain rfl := Option.some.inj set
        exact ⟨page, by rw [loaded], new, rfl, by simp [new, writable, shown]⟩
      · nomatch set
    · nomatch set
  · nomatch set
  · nomatch set

@[simp] theorem wanted_setCookie (request : Request) (response : Response) :
    (request.wanted response).setCookie = response.setCookie := by
  unfold Request.wanted
  split <;> simp

theorem serveEvents_setCookie (app : App) (now : Instant) (query : List Char) :
    (serveEvents app now query).2.setCookie = none := by
  unfold serveEvents
  split
  · split <;> rfl
  · rfl

theorem serveAction_setCookie (app : App) (now : Instant) (segment query : List Char) :
    (serveAction app now segment query).2.2.setCookie = none := by
  unfold serveAction
  split
  · split <;> rfl
  · rfl

theorem serveClose_setCookie (app : App) (body : Bytes) :
    (serveClose app body).2.setCookie = none := by
  unfold serveClose
  split <;> rfl

/-- Only a page sets a cookie, for a request that reads. -/
theorem page_of_setCookie {app : App} {now : Instant} {request : Request} {header : String}
    (set : (handle app now request).2.2.setCookie = some header) :
    ∃ route, request.Reads ∧
      endpoint? app (pathAndQuery request.target).1 = some (.page route) := by
  obtain ⟨served, way, handled⟩ := handle_served app now request
  rw [handled, wanted_setCookie] at set
  cases way with
  | refused status => cases set
  | page reads leads => exact ⟨_, reads, leads⟩
  | events query =>
    rw [serveEvents_setCookie] at set
    cases set
  | action segment query =>
    rw [serveAction_setCookie] at set
    cases set
  | close body =>
    rw [serveClose_setCookie] at set
    cases set

/-- A page that does not begin a session is served as it was rendered. -/
theorem servePage_known {app : App} {now : Instant} {route : String} {request : Request}
    {page : LoadedPage}
    (loaded : (app.loadPage now route
      (sessionFrom (cookieHeaders request) app.config.cookieName)).2 = .ok page)
    (known : page.newSession = false) :
    (servePage app now route request).2 = shown page none := by
  unfold servePage
  dsimp only
  split
  · next after loading same =>
    rw [same] at loaded
    obtain rfl := Except.ok.inj loaded
    simp [known, shown]
  · next same =>
    rw [same] at loaded
    nomatch loaded
  · next same =>
    rw [same] at loaded
    nomatch loaded

/-- A request for the page on a route that has no parameter. -/
structure Request.AsksFor (request : Request) (app : App) (route : String) : Prop where
  reads : request.Reads
  registered : route ∈ app.pages.keys
  literal : IsLiteral route
  path : (pathAndQuery request.target).1 = route.toList

/-- The request is answered with the page on a route, which stands in a connection of the session.
Where the page begins the session, its cookie is set. -/
def ShowsPage (scenario : Scenario) (now : Instant) (request : Request) (route session : String)
    (setCookie : Option String) : Prop :=
  ∃ page connection,
    (scenario.step now (.request request)).answer =
      .response (request.wanted (shown page setCookie)) none ∧
    page.StandsIn scenario.app (scenario.step now (.request request)).scenario.app route
      connection ∧
    page.session = session ∧ page.newSession = setCookie.isSome

theorem Request.AsksFor.of_pages {request : Request} {app after : App} {route : String}
    (asks : request.AsksFor app route) (same : after.pages = app.pages) :
    request.AsksFor after route :=
  ⟨asks.reads, same ▸ asks.registered, asks.literal, asks.path⟩

theorem step_request_text {scenario : Scenario} {now : Instant} {request : Request}
    {page : LoadedPage} {setCookie : Option String}
    (text : (handle scenario.app now request).2.2 = request.wanted (shown page setCookie)) :
    (scenario.step now (.request request)).answer =
        .response (request.wanted (shown page setCookie)) none ∧
      (scenario.step now (.request request)).scenario =
        scenario.withApp (handle scenario.app now request).1 := by
  obtain ⟨html, body⟩ : ∃ html, (request.wanted (shown page setCookie)).body = .text html := by
    unfold Request.wanted Response.headOnly
    split <;> exact ⟨_, rfl⟩
  simp [Scenario.step, Scenario.serve, text, body]

theorem response_of_answer {scenario : Scenario} {now : Instant} {request : Request}
    {response : Response} {channel : Option Nat}
    (answered : (scenario.step now (.request request)).answer = .response response channel) :
    (handle scenario.app now request).2.2 = response := by
  simp only [Scenario.step, Scenario.serve] at answered
  split at answered
  · exact (Answer.response.inj answered).1
  · exact (Answer.response.inj answered).1

/-- Served with a page, a request shows it in its session. -/
theorem showsPage_of_served {scenario : Scenario} {now : Instant} {request : Request}
    {route : String} {page : LoadedPage} {setCookie : Option String} (reads : request.Reads)
    (leads : endpoint? scenario.app (pathAndQuery request.target).1 = some (.page route))
    (loaded : (scenario.app.loadPage now route
      (sessionFrom (cookieHeaders request) scenario.app.config.cookieName)).2 = .ok page)
    (served : (servePage scenario.app now route request).2 = shown page setCookie)
    (new : page.newSession = setCookie.isSome) :
    ShowsPage scenario now request route page.session setCookie := by
  have handled := handle_page reads leads now
  have text : (handle scenario.app now request).2.2 = request.wanted (shown page setCookie) := by
    rw [handled, served]
  obtain ⟨answer, after⟩ := step_request_text text
  obtain ⟨⟨connection, stands⟩, -⟩ := App.loadPage_stands loaded
  refine ⟨page, connection, answer, ?_, rfl, new⟩
  rw [after, Scenario.withApp, handled, servePage_app]
  exact stands

/-- A request that comes with the session's cookie is shown its page in that session. -/
theorem showsPage_returned {scenario : Scenario} {now : Instant} {request : Request}
    {route session : String} (routed : scenario.app.Routed)
    (asks : request.AsksFor scenario.app route)
    (room : (Outbox.ofCapacity? scenario.app.config.patchQueueCapacity).isSome = true)
    (named : session.toList ≠ []) (plain : ∀ c ∈ session.toList, Text.isBlank c = false)
    (cookie : sessionFrom (cookieHeaders request) scenario.app.config.cookieName = some session)
    (valid : scenario.app.shared.sessions.isRefused session = false)
    (calm : (scenario.app.loadPage now route (some session)).2 ≠ .error (.viewPanicked route)) :
    ShowsPage scenario now request route session none := by
  have leads : endpoint? scenario.app (pathAndQuery request.target).1 = some (.page route) := by
    rw [asks.path]
    exact endpoint?_page routed asks.registered asks.literal
  obtain ⟨page, loaded⟩ := App.loadPage_calm asks.registered room calm
  obtain ⟨own, known⟩ := App.loadPage_session loaded
  rw [App.sessionFor_returned named plain valid] at own known
  rw [← cookie] at loaded
  rw [← show page.session = session from own]
  exact showsPage_of_served asks.reads leads loaded (servePage_known loaded known) known

end Http

theorem App.config_of_built {config : Config} {pages : List Page} {app : App}
    (built : App.build config pages = .ok app) : app.config = config := by
  obtain ⟨routes, rfl⟩ := App.build_fresh built
  rfl

/-- The cookie that a page sets names its session to every page after it. Whenever a later request
for a page comes with the cookie, among whatever others and in whatever lines, the session is read
off it, and the page is shown in that session without setting a cookie, unless its view panics or
the session is refused by then. -/
theorem session_cookie_returns {lookup : String → Option String} {settings config : Config}
    (accepted : Config.ofVariables lookup = .ok settings)
    (name : config.cookieName = settings.cookieName) {pages : List Page} {app : App}
    (built : App.build config pages = .ok app) (past : List (Instant × Step)) {now : Instant}
    {first : Http.Request} {response : Http.Response} {channel : Option Nat} {header : String}
    (answered : (((Scenario.ofApp app).reached past).step now (.request first)).answer =
      .response response channel)
    (set : response.setCookie = some header) :
    let start := (Scenario.ofApp app).reached past
    let session := IdSource.sessionId start.app.ids.sessions
    (∃ route, Http.ShowsPage start now first route session (some header)) ∧
    ∀ (between : List (Instant × Step)) (later : Instant) (request : Http.Request)
      (route : String),
      let current := (start.step now (.request first)).scenario.reached between
      request.AsksFor app route →
      request.Returns config.cookieName header →
      current.app.shared.sessions.isRefused session = false →
      (current.app.loadPage later route (some session)).2 ≠ .error (.viewPanicked route) →
      Http.sessionFrom (Http.cookieHeaders request) config.cookieName = some session ∧
      Http.ShowsPage current later request route session none := by
  intro start session
  have fixed : start.app.config = config :=
    ((Scenario.ofApp app).reached_fixed past).2.trans (App.config_of_built built)
  have handled := Http.response_of_answer answered
  rw [← handled] at set
  obtain ⟨route, reads, leads⟩ := Http.page_of_setCookie set
  have served : (Http.servePage start.app now route first).2.setCookie = some header := by
    rw [Http.handle_page reads leads] at set
    simpa using set
  obtain ⟨page, loaded, new, same, sent⟩ := Http.servePage_setCookie served
  obtain ⟨own, minted⟩ := App.loadPage_session loaded
  have begun : page.session = session :=
    own.trans (App.sessionFor_minted (minted.symm.trans new))
  constructor
  · rw [← begun]
    exact ⟨route, Http.showsPage_of_served reads leads loaded sent new⟩
  · intro between later request route current asks returns valid calm
    have plain := IdSource.sessionId_plain start.app.ids.sessions
    have read : Http.sessionFrom (Http.cookieHeaders request) config.cookieName = some session := by
      rw [same, begun, fixed] at returns
      refine Http.sessionFrom_returned ?_ (IdSource.sessionId_ne_nil _) plain returns
      rw [name]
      exact Config.ofVariables_cookieName accepted
    refine ⟨read, ?_⟩
    have run : current =
        (Scenario.ofApp app).reached (past ++ (now, .request first) :: between) := by
      simp [current, start, Scenario.reached]
    obtain ⟨samePages, sameConfig⟩ := (Scenario.ofApp app).reached_fixed
      (past ++ (now, .request first) :: between)
    rw [← run] at samePages sameConfig
    have routed : current.app.Routed := run ▸ (App.routed_of_built built).reached _
    have room : (Outbox.ofCapacity? current.app.config.patchQueueCapacity).isSome = true := by
      rw [sameConfig, ← ((Scenario.ofApp app).reached_fixed past).2]
      exact (App.loadPage_stands loaded).2
    have cookie : Http.sessionFrom (Http.cookieHeaders request) current.app.config.cookieName =
        some session := by
      rw [sameConfig, Scenario.ofApp, App.config_of_built built]
      exact read
    exact Http.showsPage_returned routed (asks.of_pages samePages) room
      (IdSource.sessionId_ne_nil _) (fun c member => (plain c member).1) cookie valid calm

-- The second request has other cookies on two lines, one of which goes on where the name ends.
def firstVisit : Http.Request := ⟨"GET", "/", [], []⟩

def secondVisit : Http.Request where
  method := "GET"
  target := "/?tab=2"
  headers := [("Cookie", "theme=dark; tabsync_session2=x;;flag"),
    ("cookie", "lang=a=b;\t tabsync_session=@sess0@ ; tabsync_session=old")]
  body := []

theorem session_cookie_returns_second_visit :
    Config.ofVariables (fun _ => none) = .ok Config.defaults ∧
    App.build Config.defaults [clubPage] = .ok clubApp ∧
    let start := Scenario.ofApp clubApp
    let current := (start.step 1 (.request firstVisit)).scenario.reached [(3, .sweepNow 0)]
    (∃ route, Http.ShowsPage start 1 firstVisit route "@sess0@"
      (some (Http.cookieFor Config.defaults "@sess0@"))) ∧
    Http.sessionFrom (Http.cookieHeaders secondVisit) "tabsync_session" = some "@sess0@" ∧
    Http.ShowsPage current 5 secondVisit "/" "@sess0@" none := by
  have accepted : Config.ofVariables (fun _ => none) = .ok Config.defaults := rfl
  have built : App.build Config.defaults [clubPage] = .ok clubApp := rfl
  have literal : Http.IsLiteral "/" := by
    intro c slash
    obtain rfl := List.mem_singleton.mp slash
    decide
  have asks : firstVisit.AsksFor clubApp "/" := ⟨.inl rfl, by decide, literal, rfl⟩
  have set : (Http.servePage clubApp 1 "/" firstVisit).2.setCookie =
      some (Http.cookieFor Config.defaults "@sess0@") := rfl
  obtain ⟨page, -, -, -, sent⟩ := Http.servePage_setCookie set
  have handled := Http.handle_page asks.reads
    (Http.endpoint?_page (App.routed_of_built built) asks.registered asks.literal) 1
  let start := (Scenario.ofApp clubApp).reached []
  have text : (Http.handle start.app 1 firstVisit).2.2 = firstVisit.wanted (Http.shown page _) :=
    (congrArg (fun served => served.2.2) handled).trans (congrArg firstVisit.wanted sent)
  obtain ⟨answered, stepped⟩ := Http.step_request_text text
  have after : (start.step 1 (.request firstVisit)).scenario =
      start.withApp (Http.servePage clubApp 1 "/" firstVisit).1 :=
    stepped.trans (congrArg (fun served => start.withApp served.1) handled)
  obtain ⟨first, later⟩ := session_cookie_returns accepted rfl built [] answered
    (Http.wanted_setCookie _ _)
  have again : secondVisit.AsksFor clubApp "/" := ⟨.inl rfl, asks.registered, asks.literal, rfl⟩
  have lines : Http.cookieHeaders secondVisit = ["theme=dark; tabsync_session2=x;;flag",
      "lang=a=b;\t tabsync_session=@sess0@ ; tabsync_session=old"] := by
    decide +kernel
  have readable : ∀ line ∈ Http.cookieHeaders secondVisit,
      line.toList.all Http.isReadable = true := by
    rw [lines]
    exact List.all_eq_true.mp rfl
  have returns : secondVisit.Returns "tabsync_session"
      (Http.cookieFor Config.defaults "@sess0@") := by
    refine ⟨fun line member => List.all_eq_true.mp (readable line member),
      ["theme=dark".toList, " tabsync_session2=x".toList, [], "flag".toList, "lang=a=b".toList],
      "\t tabsync_session=@sess0@ ".toList, [" tabsync_session=old".toList], ?_, rfl, by decide⟩
    rw [Http.cookiePieces, lines]
    rfl
  obtain ⟨read, second⟩ := later [(3, .sweepNow 0)] 5 secondVisit "/" again returns
    (by rw [after]; rfl) (by rw [after]; nofun)
  exact ⟨accepted, built, first, read, second⟩

end LiveTabs
