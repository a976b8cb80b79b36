import LiveTabs.Http.Router
import LiveTabs.Proofs.Continuity
import LiveTabs.Proofs.KeyMap
import Mathlib.Data.List.Basic
import Mathlib.Data.List.TakeWhile
import Mathlib.Tactic.SplitIfs
/-!
Which routes a path reaches. The characters that a route begins with are followed without fail,
however many other routes part from it on the way; so a page whose route has no parameter and no
remainder is found on it, and nothing but the actions is found below their path.
-/
namespace LiveTabs

namespace Http
variable {α : Type}

/-- Routes after the characters in front, where those begin with them that are left. -/
def afterAll (front : List Char) (routes : List (Route α)) : List (Route α) :=
  front.foldl (fun routes c => after (.literal c) routes) routes

@[simp] theorem afterAll_cons (c : Char) (front : List Char) (routes : List (Route α)) :
    afterAll (c :: front) routes = afterAll front (after (.literal c) routes) := rfl

theorem afterAll_append (front beyond : List Char) (routes : List (Route α)) :
    afterAll (front ++ beyond) routes = afterAll beyond (afterAll front routes) :=
  List.foldl_append

theorem after?_eq_some_iff {piece : PathPiece} {route rest : Route α} :
    route.after? piece = some rest ↔
      route.pieces = piece :: rest.pieces ∧ route.target = rest.target := by
  obtain ⟨pieces, target⟩ := route
  obtain ⟨left, goal⟩ := rest
  cases pieces with
  | nil => simp [Route.after?]
  | cons first others =>
    by_cases same : first = piece
    · simp [Route.after?, same]
    · simp [Route.after?, same]

theorem mem_afterAll {front : List Char} {routes : List (Route α)} {rest : Route α} :
    rest ∈ afterAll front routes ↔ ∃ route ∈ routes,
      route.pieces = front.map .literal ++ rest.pieces ∧ route.target = rest.target := by
  induction front generalizing routes with
  | nil =>
    constructor
    · exact fun member => ⟨rest, member, rfl, rfl⟩
    · rintro ⟨route, member, pieces, target⟩
      have same : route = rest := by cases route; cases rest; simp_all
      exact same ▸ member
  | cons c front ih =>
    rw [afterAll_cons, ih]
    constructor
    · rintro ⟨onward, member, pieces, target⟩
      obtain ⟨route, listed, begins⟩ := List.mem_filterMap.mp member
      obtain ⟨first, goal⟩ := after?_eq_some_iff.mp begins
      exact ⟨route, listed, by rw [first, pieces]; rfl, goal.trans target⟩
    · rintro ⟨route, listed, pieces, target⟩
      refine ⟨⟨front.map .literal ++ rest.pieces, route.target⟩, ?_, rfl, target⟩
      exact List.mem_filterMap.mpr ⟨route, listed, after?_eq_some_iff.mpr ⟨pieces, rfl⟩⟩

theorem commonFront_left (first second : List Char) : commonFront first second <+: first := by
  fun_induction commonFront first second with
  | case1 c cs ds ih => exact (List.cons_prefix_cons).mpr ⟨rfl, ih⟩
  | case2 => exact List.nil_prefix
  | case3 => exact List.nil_prefix

theorem commonFront_right (first second : List Char) : commonFront first second <+: second := by
  fun_induction commonFront first second with
  | case1 c cs ds ih => exact (List.cons_prefix_cons).mpr ⟨rfl, ih⟩
  | case2 => exact List.nil_prefix
  | case3 => exact List.nil_prefix

/-- Every route begins with what all have in common. -/
theorem stem_begins {routes : List (Route α)} {route : Route α} (member : route ∈ routes) :
    stem routes <+: leading route.pieces := by
  fun_induction stem routes with
  | case1 => cases member
  | case2 only =>
    obtain rfl := List.mem_singleton.mp member
    exact List.prefix_rfl
  | case3 first rest several ih =>
    rcases List.mem_cons.mp member with here | later
    · exact here ▸ commonFront_left _ _
    · exact (commonFront_right _ _).trans (ih later)

theorem leading_drop (pieces : List PathPiece) (n : Nat) (within : n ≤ (leading pieces).length) :
    leading (pieces.drop n) = (leading pieces).drop n := by
  induction n generalizing pieces with
  | zero => rfl
  | succ n ih =>
    match pieces, within with
    | .literal c :: rest, within => exact ih rest (Nat.le_of_succ_le_succ within)

theorem pieces_eq_leading (pieces : List PathPiece) {front : List Char}
    (begins : front <+: leading pieces) :
    pieces = front.map .literal ++ pieces.drop front.length := by
  induction front generalizing pieces with
  | nil => rfl
  | cons c front ih =>
    match pieces, begins with
    | .literal d :: rest, begins =>
      obtain ⟨rfl, tail⟩ := List.cons_prefix_cons.mp begins
      exact congrArg _ (ih rest tail)

/-- Following what the routes have in common drops it from each. -/
theorem afterAll_shared (front : List Char) (routes : List (Route α))
    (shared : ∀ route ∈ routes, front <+: leading route.pieces) :
    afterAll front routes = routes.map (Route.drop front.length) := by
  induction front generalizing routes with
  | nil => exact (List.map_id routes).symm
  | cons c front ih =>
    have step : after (.literal c) routes = routes.map (Route.drop 1) := by
      refine List.filterMap_eq_map_iff_forall_eq_some.mpr fun route member => ?_
      have first : [c] <+: leading route.pieces :=
        (List.prefix_append [c] front).trans (shared route member)
      exact after?_eq_some_iff.mpr ⟨pieces_eq_leading route.pieces first, rfl⟩
    have later : ∀ route ∈ routes.map (Route.drop 1), front <+: leading route.pieces := by
      intro rest member
      obtain ⟨route, listed, rfl⟩ := List.mem_map.mp member
      obtain ⟨tail, whole⟩ := shared route listed
      have within : 1 ≤ (leading route.pieces).length := by simp [← whole]
      rw [Route.drop, leading_drop _ _ within, ← whole]
      exact List.prefix_append front tail
    rw [afterAll_cons, step, ih _ later, List.map_map]
    exact List.map_congr_left fun route _ => by simp [Route.drop]

theorem afterAll_stem (routes : List (Route α)) : afterAll (stem routes) routes = parted routes :=
  afterAll_shared (stem routes) routes fun _ => stem_begins

theorem stem_of_leading_nil {routes : List (Route α)} {route : Route α} (member : route ∈ routes)
    (none : leading route.pieces = []) : stem routes = [] :=
  List.prefix_nil.mp (none ▸ stem_begins member)

theorem parted_of_stem_nil {routes : List (Route α)} (none : stem routes = []) :
    parted routes = routes := by
  rw [← afterAll_stem, none]
  rfl

theorem ended?_eq_some {routes : List (Route α)} {target : α}
    (present : ⟨[], target⟩ ∈ routes)
    (alone : ∀ route ∈ routes, route.pieces = [] → route.target = target) :
    ended? routes = some target := by
  cases found : routes.find? fun route => route.pieces.isEmpty with
  | none => exact absurd rfl (List.find?_eq_none.mp found _ present)
  | some route =>
    have last : route.pieces = [] :=
      List.isEmpty_iff.mp (by simpa using List.find?_some found)
    simp [ended?, found, alone route (List.mem_of_find?_eq_some found) last]

theorem search_nil {lead path : List Char} {routes : List (Route α)}
    (stripped : strip? (stem routes) path = some []) :
    search lead routes path =
      (ended? (parted routes)).elim (.nowhere (lead ++ path)) .found := by
  rw [search]
  split <;> simp_all

theorem search_cons {lead path rest : List Char} {c : Char} {routes : List (Route α)}
    (stripped : strip? (stem routes) path = some (c :: rest)) :
    search lead routes path =
      ((beforeLiteral? (parted routes) (after (.literal c) (parted routes)) (c :: rest)).getD
        (search [c] (after (.literal c) (parted routes)) rest)).orElse fun _ =>
        (wildcard? (parted routes) (after (.literal c) (parted routes)) (c :: rest)).getD
          (search ['/'] (after (.literal '/') (after .parameter (parted routes)))
            (afterSlash (c :: rest))) := by
  rw [search]
  split <;> simp_all

/-- What a search finds where the routes part, it finds from where they began. -/
theorem search_parted {lead later path tail : List Char} {routes : List (Route α)} {target : α}
    (stripped : strip? (stem routes) path = some tail) (none : stem (parted routes) = [])
    (found : search later (parted routes) tail = .found target) :
    search lead routes path = .found target := by
  have again : strip? (stem (parted routes)) tail = some tail := by rw [none, strip?]
  cases tail with
  | nil =>
    rw [search_nil again, parted_of_stem_nil none] at found
    rw [search_nil stripped]
    cases ended : ended? (parted routes) with
    | none =>
      simp only [ended, Option.elim_none, Lookup.nowhere] at found
      split at found <;> cases found
    | some other => simpa [ended] using found
  | cons c rest =>
    rw [search_cons again, parted_of_stem_nil none] at found
    rw [search_cons stripped]
    exact found

/-- Where a route goes on with the path, its next character is followed: were the path over with a
slash, the route would end on it. -/
theorem beforeLiteral?_of_begins {here onward : List (Route α)} {route : Route α}
    {beyond : List Char} (member : route ∈ onward) (begins : leading route.pieces = beyond)
    (c : Char) (tail : List Char) :
    beforeLiteral? here onward (c :: (beyond ++ tail)) = none := by
  have extra : hasExtraSlash here onward (c :: (beyond ++ tail)) = false := by
    cases beyond with
    | nil => simp [hasExtraSlash, stem_of_leading_nil member begins]
    | cons d beyond => simp [hasExtraSlash]
  simp [beforeLiteral?, extra, List.ne_nil_of_mem member]

/-- A search that succeeds after the literal characters that a route begins with succeeds from the
front as well: what all routes have in common is passed over, and where some part from the others,
the character at hand is followed first. -/
theorem search_reaches {front tail : List Char} {routes : List (Route α)} {route : Route α}
    {target : α} (member : route ∈ routes) (begins : leading route.pieces = front)
    (found : ∀ lead, search lead (afterAll front routes) tail = .found target) (lead : List Char) :
    search lead routes (front ++ tail) = .found target := by
  induction size : front.length using Nat.strongRecOn generalizing front routes route lead with
  | ind size ih =>
    obtain ⟨beyond, whole⟩ := begins ▸ stem_begins member
    have stripped : strip? (stem routes) (front ++ tail) = some (beyond ++ tail) := by
      rw [strip?_eq_some_iff, ← whole, List.append_assoc]
    have dropped : leading (route.drop (stem routes).length).pieces = beyond := by
      rw [Route.drop, leading_drop _ _ (stem_begins member).length_le, begins, ← whole,
        List.drop_left]
    have kept : route.drop (stem routes).length ∈ parted routes := List.mem_map_of_mem member
    cases beyond with
    | nil =>
      have there : search lead (parted routes) tail = .found target := by
        rw [← afterAll_stem, (List.append_nil _).symm.trans whole]
        exact found lead
      exact search_parted stripped (stem_of_leading_nil kept dropped) there
    | cons c beyond =>
      let onward := after (.literal c) (parted routes)
      let left : Route α := ⟨(route.drop (stem routes).length).pieces.drop 1, route.target⟩
      have first : [c] <+: leading (route.drop (stem routes).length).pieces :=
        dropped ▸ List.prefix_append [c] beyond
      have listed : left ∈ onward :=
        List.mem_filterMap.mpr ⟨_, kept, after?_eq_some_iff.mpr ⟨pieces_eq_leading _ first, rfl⟩⟩
      have next : leading left.pieces = beyond :=
        (leading_drop _ 1 first.length_le).trans (congrArg (List.drop 1) dropped)
      have shorter : beyond.length < front.length := by
        rw [← whole, List.length_append, List.length_cons]
        omega
      have found : ∀ lead, search lead (afterAll beyond onward) tail = .found target := by
        rwa [← afterAll_cons, ← afterAll_stem, ← afterAll_append, whole]
      have straight := ih beyond.length (size ▸ shorter) listed next found [c] rfl
      rw [List.cons_append] at stripped
      rw [search_cons stripped, beforeLiteral?_of_begins listed next c tail, Option.getD_none,
        straight]
      rfl

/-- What a path leads to that goes on for a while as a route begins. -/
theorem lookup_reaches {front tail : List Char} {routes : List (Route α)} {route : Route α}
    {target : α} (member : route ∈ routes) (begins : leading route.pieces = front)
    (found : ∀ lead, search lead (afterAll front routes) tail = .found target) :
    lookup routes (front ++ tail) = some target := by
  rw [lookup, search_reaches member begins found, Lookup.toOption]

/-- A route of which no character begins a parameter or a remainder. -/
def IsLiteral (route : String) : Prop := ∀ c ∈ route.toList, c ≠ ':' ∧ c ≠ '*'

theorem pathPieces_literal {cs : List Char} (literal : ∀ c ∈ cs, c ≠ ':' ∧ c ≠ '*') :
    pathPieces cs false = cs.map .literal := by
  induction cs with
  | nil => rfl
  | cons c rest ih =>
    have first := literal c List.mem_cons_self
    have others := ih fun d member => literal d (List.mem_cons_of_mem c member)
    simp [pathPieces, first.1, first.2, others]

theorem leading_map_literal (cs : List Char) : leading (cs.map .literal) = cs := by
  induction cs with
  | nil => rfl
  | cons c rest ih => exact congrArg (c :: ·) ih

/-- A route that begins with literal pieces begins with their characters. -/
theorem pathPieces_begins {cs front : List Char} {rest : List PathPiece}
    (begins : pathPieces cs false = front.map .literal ++ rest) :
    ∃ tail, cs = front ++ tail ∧ pathPieces tail false = rest := by
  induction front generalizing cs with
  | nil => exact ⟨cs, rfl, begins⟩
  | cons c front ih =>
    cases cs with
    | nil => cases begins
    | cons d cs =>
      rw [pathPieces, List.map_cons, List.cons_append] at begins
      simp only [Bool.false_and, Bool.false_eq_true, if_false] at begins
      split at begins
      · nomatch begins
      · split at begins
        · nomatch begins
        · obtain ⟨same, later⟩ := List.cons.inj begins
          obtain ⟨tail, rfl, left⟩ := ih later
          exact ⟨tail, by rw [PathPiece.literal.inj same, List.cons_append], left⟩

theorem pathPieces_eq_nil {cs : List Char} (none : pathPieces cs false = []) : cs = [] := by
  cases cs with
  | nil => rfl
  | cons c rest =>
    rw [pathPieces] at none
    simp only [Bool.false_and, Bool.false_eq_true, if_false] at none
    split_ifs at none

end Http

namespace App

/-- The pages stand on routes that pages may have. -/
def Routed (app : App) : Prop :=
  ∀ route ∈ app.pages.keys, isPageRoute route = true

theorem addPage_routes {pages added : KeyMap Page} {page : Page}
    (routed : ∀ route ∈ pages.keys, isPageRoute route = true)
    (ok : addPage pages page = .ok added) : ∀ route ∈ added.keys, isPageRoute route = true := by
  unfold addPage at ok
  split at ok
  · nomatch ok
  · rename_i given _
    split at ok
    · nomatch ok
    · rename_i valid
      split at ok
      · nomatch ok
      · intro route listed
        rw [← Except.ok.inj ok, KeyMap.mem_keys_iff, KeyMap.get?_insert] at listed
        by_cases same : route = given
        · simpa [same] using valid
        · rw [if_neg same] at listed
          exact routed route ((KeyMap.mem_keys_iff pages route).mpr listed)

theorem addPages_routes {pages added : KeyMap Page} (more : List Page)
    (routed : ∀ route ∈ pages.keys, isPageRoute route = true)
    (ok : more.foldlM addPage pages = .ok added) :
    ∀ route ∈ added.keys, isPageRoute route = true := by
  induction more generalizing pages with
  | nil => exact Except.ok.inj ok ▸ routed
  | cons page rest ih =>
    rw [List.foldlM_cons] at ok
    cases first : addPage pages page with
    | error refused => simp [first, bind, Except.bind] at ok
    | ok next =>
      rw [first] at ok
      exact ih (addPage_routes routed first) ok

theorem routed_of_built {config : Config} {pages : List Page} {app : App}
    (built : build config pages = .ok app) : app.Routed := by
  unfold build at built
  cases added : pages.foldlM addPage KeyMap.empty with
  | error refused => simp [added, Except.map] at built
  | ok routes =>
    rw [added] at built
    rw [Routed, ← Except.ok.inj built]
    exact addPages_routes pages (fun _ listed => absurd listed List.not_mem_nil) added

end App

/-- However long an application runs, its pages and its configuration stay. -/
theorem Scenario.reached_fixed (scenario : Scenario) (steps : List (Instant × Step)) :
    (scenario.reached steps).app.pages = scenario.app.pages ∧
      (scenario.reached steps).app.config = scenario.app.config :=
  reached_induction
    (motive := fun app => app.pages = scenario.app.pages ∧ app.config = scenario.app.config)
    (fun now app change same =>
      ⟨(app.apply_fixed now change).1.trans same.1, (app.apply_fixed now change).2.trans same.2⟩)
    scenario steps ⟨rfl, rfl⟩

theorem App.Routed.reached {scenario : Scenario} (routed : scenario.app.Routed)
    (steps : List (Instant × Step)) : (scenario.reached steps).app.Routed := by
  rw [Routed, (scenario.reached_fixed steps).1]
  exact routed

namespace Http

theorem of_mem_routes {app : App} {route : String} (registered : route ∈ app.pages.keys) :
    Route.of route (.page route) ∈ routes app :=
  List.mem_append_right _ (List.mem_map_of_mem registered)

theorem ne_of_isPageRoute {route : String} (valid : App.isPageRoute route = true) :
    route.toList ≠ "/_sse".toList ∧ route.toList ≠ "/_session/close".toList ∧
      ¬ "/_action/".toList <+: route.toList := by
  simp only [App.isPageRoute, Bool.and_eq_true, bne_iff_ne, Bool.not_eq_true'] at valid
  refine ⟨fun same => valid.1.2 (String.toList_injective same),
    fun same => valid.2 (String.toList_injective same), fun below => ?_⟩
  rw [List.isPrefixOf_iff_prefix.mpr below] at valid
  nomatch valid.1.1.2

/-- A page whose route is literal is what its route leads to. -/
theorem endpoint?_page {app : App} (routed : app.Routed) {route : String}
    (registered : route ∈ app.pages.keys) (literal : IsLiteral route) :
    endpoint? app route.toList = some (.page route) := by
  have pieces : pathPieces route.toList false = route.toList.map .literal :=
    pathPieces_literal literal
  have begins : leading (pathPieces route.toList false) = route.toList := by
    rw [pieces, leading_map_literal]
  have listed : ⟨[], .page route⟩ ∈ afterAll route.toList (routes app) :=
    mem_afterAll.mpr ⟨_, of_mem_routes registered, by rw [Route.of, pieces, List.append_nil], rfl⟩
  have alone : ∀ rest ∈ afterAll route.toList (routes app), rest.pieces = [] →
      rest.target = .page route := by
    intro rest member done
    obtain ⟨other, given, same, target⟩ := mem_afterAll.mp member
    rw [done, List.append_nil] at same
    have text : leading other.pieces = route.toList := by rw [same, leading_map_literal]
    have apart := ne_of_isPageRoute (routed route registered)
    rcases List.mem_append.mp given with transport | page
    · simp only [List.mem_cons, List.not_mem_nil, or_false] at transport
      obtain rfl | rfl | rfl := transport
      · exact absurd text.symm apart.1
      · exact absurd (text ▸ List.prefix_rfl) apart.2.2
      · exact absurd text.symm apart.2.1
    · obtain ⟨key, -, rfl⟩ := List.mem_map.mp page
      obtain ⟨tail, whole, none⟩ := pathPieces_begins (same.trans (List.append_nil _).symm)
      rw [pathPieces_eq_nil none, List.append_nil] at whole
      exact target.symm.trans (congrArg Endpoint.page (String.toList_injective whole))
  have none := stem_of_leading_nil listed rfl
  have found (lead : List Char) :
      search lead (afterAll route.toList (routes app)) [] = .found (.page route) := by
    rw [search_nil (by rw [none, strip?]), parted_of_stem_nil none, ended?_eq_some listed alone,
      Option.elim_some]
  have reached := lookup_reaches (of_mem_routes registered) begins found
  rwa [List.append_nil] at reached

theorem afterAll_append_routes (front : List Char) (first later : List (Route α)) :
    afterAll front (first ++ later) = afterAll front first ++ afterAll front later := by
  induction front generalizing first later with
  | nil => rfl
  | cons c front ih =>
    rw [afterAll_cons, after, List.filterMap_append]
    exact ih _ _

/-- Below the path of the actions there is nothing else. -/
theorem afterAll_actions {app : App} (routed : app.Routed) :
    afterAll "/_action/".toList (routes app) = [⟨[.parameter], .action⟩] := by
  have transport : afterAll "/_action/".toList
      [.of "/_sse" .pushChannel, .of "/_action/:action" .action, .of "/_session/close" .close] =
      [⟨[.parameter], Endpoint.action⟩] := rfl
  have pages : afterAll "/_action/".toList
      (app.pages.keys.map fun route => Route.of route (Endpoint.page route)) = [] := by
    refine List.eq_nil_iff_forall_not_mem.mpr fun rest member => ?_
    obtain ⟨route, given, begins, -⟩ := mem_afterAll.mp member
    obtain ⟨key, listed, rfl⟩ := List.mem_map.mp given
    obtain ⟨tail, whole, -⟩ := pathPieces_begins begins
    exact (ne_of_isPageRoute (routed key listed)).2.2 (whole ▸ List.prefix_append _ tail)
  rw [routes, afterAll_append_routes, transport, pages, List.append_nil]

/-- A parameter at the end of the only route takes whatever has no slash in it. -/
theorem search_parameter (target : α) {segment : List Char} (named : segment ≠ [])
    (whole : '/' ∉ segment) (lead : List Char) :
    search lead [⟨[.parameter], target⟩] segment = .found target := by
  cases segment with
  | nil => exact absurd rfl named
  | cons c rest =>
    have spent : (c :: rest).dropWhile (· != '/') = [] :=
      List.dropWhile_eq_nil_iff.mpr fun d member =>
        bne_iff_ne.mpr fun same => whole (same ▸ member)
    rw [search_cons rfl]
    simp [parted, stem, leading, Route.drop, after, Route.after?, beforeLiteral?, wildcard?,
      parameter?, spent, ended?, Lookup.orElse]

/-- An action's path leads to the actions, whatever the action is called. -/
theorem endpoint?_action {app : App} (routed : app.Routed) {segment : List Char}
    (named : segment ≠ []) (whole : '/' ∉ segment) :
    endpoint? app ("/_action/".toList ++ segment) = some .action := by
  have listed : Route.of "/_action/:action" Endpoint.action ∈ routes app :=
    List.mem_append_left _ (List.mem_cons_of_mem _ List.mem_cons_self)
  refine lookup_reaches listed rfl fun lead => ?_
  rw [afterAll_actions routed]
  exact search_parameter Endpoint.action named whole lead

/-! A request whose path leads somewhere. -/

section Served
variable {app : App} {request : Request}

/-- Asks for something by a method that reads. -/
def Request.Reads (request : Request) : Prop := request.method = "GET" ∨ request.method = "HEAD"

/-- The answer as the method has it: for the head alone there is no content. -/
def Request.wanted (request : Request) (response : Response) : Response :=
  if request.method = "HEAD" then response.headOnly else response

/-- The ways in which a request is served, with what comes of it: it is refused and nothing happens,
or what its path leads to serves it. -/
inductive Served (app : App) (now : Instant) (request : Request) :
    App × List Note × Response → Prop where
  | refused (status : Nat) : Served app now request (app, [], plain status)
  | page {route : String} (reads : request.Reads)
    (leads : endpoint? app (pathAndQuery request.target).1 = some (.page route)) :
    Served app now request
      ((servePage app now route request).1, [], (servePage app now route request).2)
  | events (query : List Char) :
    Served app now request ((serveEvents app now query).1, [], (serveEvents app now query).2)
  | action (segment query : List Char) :
    Served app now request (serveAction app now segment query)
  | close (body : Bytes) :
    Served app now request ((serveClose app body).1, [], (serveClose app body).2)

theorem handle_served (app : App) (now : Instant) (request : Request) :
    ∃ served, Served app now request served ∧
      handle app now request = (served.1, served.2.1, request.wanted served.2.2) := by
  have wanted (served : App × List Note × Response) :
      (if request.method == "HEAD" then (served.1, served.2.1, served.2.2.headOnly) else served) =
        (served.1, served.2.1, request.wanted served.2.2) := by
    by_cases head : request.method = "HEAD" <;> simp [Request.wanted, head]
  simp only [handle, wanted]
  refine ⟨_, ?_, rfl⟩
  cases leads : endpoint? app (pathAndQuery request.target).1 with
  | none => exact .refused 404
  | some endpoint =>
    cases endpoint with
    | close =>
      dsimp only
      split
      · exact .close request.body
      · exact .refused 405
    | page route =>
      dsimp only
      split
      · next reads => exact .page (by simpa [Request.Reads] using reads) leads
      · exact .refused 405
    | pushChannel =>
      dsimp only
      split
      · exact .events _
      · exact .refused 405
    | action =>
      dsimp only
      split
      · exact .action _ _
      · exact .refused 405

theorem handle_page {route : String} (reads : request.Reads)
    (leads : endpoint? app (pathAndQuery request.target).1 = some (.page route)) (now : Instant) :
    handle app now request =
      ((servePage app now route request).1, [],
        request.wanted (servePage app now route request).2) := by
  obtain get | head := reads
  · simp [handle, leads, get, Request.wanted]
  · simp [handle, leads, head, Request.wanted]

theorem handle_action (reads : request.Reads)
    (leads : endpoint? app (pathAndQuery request.target).1 = some .action) (now : Instant) :
    handle app now request =
      let served := serveAction app now (actionSegment (pathAndQuery request.target).1)
        (pathAndQuery request.target).2
      (served.1, served.2.1, request.wanted served.2.2) := by
  obtain get | head := reads
  · simp [handle, leads, get, Request.wanted]
  · simp [handle, leads, head, Request.wanted]

end Served

end Http
end LiveTabs
