import LiveTabs.Proofs.Neighbours
/-!
Where two applications have the same of a session, a step in one of its tabs comes to the same in
both, and a step in another tab leaves the session as it is in each.
-/
namespace LiveTabs
namespace App
variable {session : String}

/-- Changes to one place where there is no tab of the session. -/
def Spares (app : App) (session : String) (changes : List Change) : Prop :=
  ∃ place, app.own? session place = none ∧ ∀ change ∈ changes, change.Elsewhere session place

section
variable {app : App}

theorem Spares.alike {changes : List Change} (spares : app.Spares session changes) (now : Instant) :
    app.Alike session (app.applyAll now changes) := by
  obtain ⟨place, foreign, elsewhere⟩ := spares
  exact alike_elsewhereAll foreign now elsewhere

theorem spares_nil (app : App) : app.Spares session [] := by
  refine ⟨app.connections.length, ?_, nofun⟩
  simp [own?]

theorem spares_single {place : Nat} (foreign : app.own? session place = none) {change : Change}
    (elsewhere : change.Elsewhere session place) : app.Spares session [change] :=
  ⟨place, foreign, List.forall_mem_singleton.mpr elsewhere⟩

theorem own?_of_lead? {id : String} {place : Nat} (foreign : app.lead? session id = none)
    (placed : app.place? id = some place) : app.own? session place = none := by
  cases own : app.own? session place with
  | none => rfl
  | some connection => simp [lead?, placed, own] at foreign

theorem refreshChanges_elsewhere {id : String} {place : Nat}
    (placed : app.place? id = some place) (foreign : app.own? session place = none) :
    ∀ change ∈ app.refreshChanges id, change.Elsewhere session place := by
  intro change member
  cases found : app.lookup id with
  | none => simp [refreshChanges, placed, found] at member
  | some connection =>
    have other := own?_eq_none_iff.mp foreign connection (found_of_lookup placed found)
    simp only [refreshChanges, placed, found] at member
    rcases List.mem_cons.mp member with rfl | renewed
    · rfl
    · obtain ⟨carried, listed, rfl⟩ := List.mem_map.mp renewed
      rintro rfl
      exact other (Option.mem_toList.mp listed)

theorem spares_refresh {id : String} (foreign : app.lead? session id = none) :
    app.Spares session (app.refreshChanges id) := by
  cases placed : app.place? id with
  | none =>
    rw [refreshChanges, placed]
    exact app.spares_nil
  | some place =>
    have other := own?_of_lead? foreign placed
    exact ⟨place, other, refreshChanges_elsewhere placed other⟩

theorem spares_subscribe {id : String} (foreign : app.lead? session id = none) :
    app.Spares session (app.subscribeChanges id) := by
  cases placed : app.place? id with
  | none =>
    rw [subscribeChanges, placed]
    exact app.spares_nil
  | some place =>
    have other := own?_of_lead? foreign placed
    rw [subscribeChanges, placed]
    refine ⟨place, other, fun change member => ?_⟩
    rcases List.mem_append.mp member with refreshed | opened
    · exact refreshChanges_elsewhere placed other change refreshed
    · rw [List.mem_singleton.mp opened]
      rfl

theorem spares_action {id : String} (foreign : app.lead? session id = none) (now : Instant)
    (action : String) (signals : KeyMap Json) :
    app.Spares session (app.actionChanges now id action signals) := by
  unfold actionChanges
  dsimp only
  split
  · next place connection placed found =>
    have other := own?_of_lead? foreign placed
    refine ⟨place, other, fun change member => ?_⟩
    rcases List.mem_append.mp member with refreshed | worked
    · exact refreshChanges_elsewhere placed other change refreshed
    · cases known : connection.page.handler? action with
      | none =>
        rw [known] at worked
        cases worked
      | some handler =>
        rw [known] at worked
        rw [List.mem_singleton.mp worked]
        rfl
  · exact app.spares_nil

theorem spares_take {channel : PushChannel} (foreign : app.own? session channel.place = none)
    (limit : Nat) : app.Spares session (app.takeChanges channel limit) := by
  refine ⟨channel.place, foreign, ?_⟩
  -- What is taken are polls of the one channel.
  suffices polls : ∀ app : App, ∀ change ∈ app.takeChanges channel limit, change = .poll channel by
    intro change member
    rw [polls app change member]
    rfl
  induction limit with
  | zero => nofun
  | succ limit ih =>
    intro app change member
    rcases List.mem_cons.mp member with rfl | later
    · rfl
    · split at later
      · exact ih _ change later
      · cases later

end

theorem Exact.applyAll {app : App} (exact : app.Exact) (now : Instant) (changes : List Change) :
    (app.applyAll now changes).Exact :=
  applyAll_induction now (fun _ change before => before.apply now change) app changes exact

theorem Exact.refresh {app : App} (exact : app.Exact) (now : Instant) (id : String) :
    (app.refresh now id).1.Exact := by
  rw [refresh_changes]
  exact exact.applyAll now _

section
variable {left right : App} (agrees : left.Agrees session right)
include agrees

/-- New states of a tab of the session and of the shared values, which agree as well. -/
theorem Agrees.resumed {place : Nat} {connection : Connection}
    (own : left.own? session place = some connection) (later : Connection)
    (carries : later.session = some session) {one other : Shared}
    (shared : one.Agrees session other) :
    ({ left.setConnection place later with shared := one } : App).Agrees session
      { right.setConnection place later with shared := other } := by
  have put {app : App} (there : app.own? session place = some connection) (asked : Nat) :
      (app.setConnection place later).own? session asked =
        if place = asked then some later else app.own? session asked := by
    have inside := (List.getElem?_eq_some_iff.mp (own?_eq_some_iff.mp there).1).1
    by_cases same : place = asked
    · subst same
      simp [own?, setConnection, inside, Connection.of?, carries]
    · simp [own?, setConnection, same]
  refine ⟨⟨agrees.pages, agrees.config, ?_, fun asked => ?_, shared.sessions⟩, shared.application⟩
  · simpa [setConnection] using agrees.count
  · refine (put own asked).trans (Eq.trans ?_ (put (agrees.own place ▸ own) asked).symm)
    rw [agrees.own]

theorem Agrees.begun {place : Nat} {connection : Connection}
    (own : left.own? session place = some connection) (now : Instant) (signals : KeyMap Json) :
    (left.begun now connection signals).Twins session (right.begun now connection signals) := by
  have carries : (connection.refresh now).session = some session := (own?_eq_some_iff.mp own).2
  have shared : Shared.Agrees session
      { left.shared with sessions := left.refreshedSessions now connection }
      { right.shared with sessions := right.refreshedSessions now connection } := by
    refine ⟨agrees.application, ?_⟩
    rw [refreshedSessions, refreshedSessions, (own?_eq_some_iff.mp own).2]
    exact Sessions.refresh_agrees agrees.sessions now session
  have begun := Connection.scene_twins carries shared .action
  exact (Scene.takeOver_twins begun connection.page.knowsSignal signals).1

end

section
variable {left right : App} (agrees : left.Agrees session right) (exact : left.Exact)
  (also : right.Exact)
include agrees exact also

/-- An id that leads to a tab of the session leads to the same tab on both sides. -/
theorem Agrees.led {id : String} {place : Nat} (led : left.lead? session id = some place) :
    ∃ connection, left.own? session place = some connection ∧ connection.session = some session ∧
      (left.place? id = some place ∧ left.connections[place]? = some connection) ∧
      right.place? id = some place ∧ right.connections[place]? = some connection := by
  obtain ⟨placed, there⟩ := Option.filter_eq_some_iff.mp led
  obtain ⟨connection, own⟩ := Option.isSome_iff_exists.mp there
  obtain ⟨here, carries⟩ := own?_eq_some_iff.mp own
  exact ⟨connection, own, carries, ⟨placed, here⟩,
    (agrees.place_iff exact also own id).mp placed,
    (own?_eq_some_iff.mp (agrees.own place ▸ own)).1⟩

theorem Agrees.refresh {id : String} {place : Nat} (led : left.lead? session id = some place)
    (now : Instant) : (left.refresh now id).1.Agrees session (right.refresh now id).1 := by
  obtain ⟨connection, -, carries, ⟨placed, here⟩, there, also_here⟩ := agrees.led exact also led
  have changes {app : App} (placed : app.place? id = some place)
      (here : app.connections[place]? = some connection) :
      app.refreshChanges id = [.touch place, .refreshSession session] := by
    simp [refreshChanges, placed, lookup_placed placed here, carries]
  rw [refresh_changes, refresh_changes, changes placed here, changes there also_here]
  exact agrees.sameAll exact also now rfl

theorem Agrees.subscribe {id : String} {place : Nat} (led : left.lead? session id = some place)
    (now : Instant) :
    (left.subscribe now id).1.Agrees session (right.subscribe now id).1 ∧
      (left.subscribe now id).2 = (right.subscribe now id).2 := by
  obtain ⟨connection, -, -, ⟨placed, here⟩, there, also_here⟩ := agrees.led exact also led
  have refreshed := agrees.refresh exact also led now
  have one := refreshed.same (exact.refresh now id) (also.refresh now id) now
    (.subscribe place) rfl
  have opened {app : App} (placed : app.place? id = some place)
      (here : app.connections[place]? = some connection) :
      (app.subscribe now id).2 = some ⟨place, (connection.refresh now).subscribe.2⟩ := by
    simp [App.subscribe, placed, subscribeAt, refreshed_found placed here now]
  refine ⟨?_, (opened placed here).trans (opened there also_here).symm⟩
  simp only [App.subscribe, placed, there]
  exact one

theorem Agrees.take {channel : PushChannel} {connection : Connection}
    (own : left.own? session channel.place = some connection) (limit : Nat) :
    (left.take channel limit).1.Agrees session (right.take channel limit).1 ∧
      (left.take channel limit).2 = (right.take channel limit).2 := by
  induction limit generalizing left right connection with
  | zero => exact ⟨agrees, rfl⟩
  | succ limit ih =>
    have here := (own?_eq_some_iff.mp own).1
    have there := (own?_eq_some_iff.mp (agrees.own channel.place ▸ own)).1
    have polled := agrees.same exact also 0 (.poll channel) rfl
    have left_exact := exact.apply 0 (.poll channel)
    have right_exact := also.apply 0 (.poll channel)
    have standing : (left.apply 0 (.poll channel)).own? session channel.place = _ :=
      own?_apply_found left 0 (.poll channel) here
    have answer : (left.poll channel).2 = (right.poll channel).2 := by simp [poll, here, there]
    rw [own] at standing
    unfold App.take
    cases first : left.poll channel with
    | mk after found =>
      cases second : right.poll channel with
      | mk after' found' =>
        simp only [App.apply, first, second] at polled standing answer left_exact right_exact
        subst answer
        cases found with
        | item patch =>
          obtain ⟨apps, items⟩ := ih polled left_exact right_exact standing
          exact ⟨apps, congrArg (fun others => (patch :: others.1, others.2)) items⟩
        | pending => exact ⟨polled, rfl⟩
        | ended => exact ⟨polled, rfl⟩

theorem Agrees.runAction {id : String} {place : Nat} (led : left.lead? session id = some place)
    (now : Instant) (action : String) (signals : KeyMap Json) :
    (left.runAction now id action signals).1.Agrees session
        (right.runAction now id action signals).1 ∧
      (left.runAction now id action signals).2 = (right.runAction now id action signals).2 := by
  obtain ⟨connection, own, carries, ⟨placed, here⟩, there, also_here⟩ := agrees.led exact also led
  cases known : connection.page.handler? action with
  | none =>
    rw [runAction_unknown placed here known, runAction_unknown there also_here known]
    exact ⟨agrees.refresh exact also led now, rfl⟩
  | some handler =>
    obtain ⟨scenes, notes, completed⟩ := Scene.perform_twins
      (agrees.begun own now signals) (Page.invocation connection.page action now) handler
    rw [runAction_found placed here known, runAction_found there also_here known, notes, completed]
    refine ⟨?_, rfl⟩
    rw [leaving, leaving, (connection.refresh now).resume_twins scenes]
    exact agrees.resumed own ((connection.refresh now).resume _) carries scenes.shared

theorem Agrees.runRequest {payload : String} {request : ClientRequest} {place : Nat}
    (parsed : ClientRequest.parse payload = .ok request)
    (led : left.lead? session request.connection = some place) (now : Instant) (action : String) :
    (left.runRequest now action payload).1.Agrees session
        (right.runRequest now action payload).1 ∧
      (left.runRequest now action payload).2 = (right.runRequest now action payload).2 := by
  obtain ⟨apps, told⟩ := agrees.runAction exact also led now action request.signals
  simp only [App.runRequest, parsed]
  exact ⟨apps, congrArg (fun told : List Note × ActionOutcome => (told.1, Except.ok told.2)) told⟩

end

/-! Loading a page enters a session, or begins one, and creates a tab that carries it. -/

theorem spares_session {app : App} {now : Instant} {cookie : Option String}
    (other : (app.sessionFor now cookie).2.id ≠ session) :
    app.Spares session (app.sessionChanges now cookie) := by
  refine ⟨app.connections.length, by simp [own?], fun change member => ?_⟩
  unfold sessionChanges at member
  dsimp only at member
  rcases List.mem_cons.mp member with rfl | later
  · exact other
  · split at later
    · rw [List.mem_singleton.mp later]
      trivial
    · rw [List.mem_singleton.mp later]
      exact other

theorem sessionChanges_idle (app : App) (now : Instant) (cookie : Option String) :
    (app.sessionChanges now cookie).all (!·.works) = true := by
  unfold sessionChanges
  dsimp only
  split <;> rfl

theorem pageChanges_idle (app : App) (now : Instant) (route : String) (cookie : Option String) :
    (app.pageChanges now route cookie).all (!·.works) = true := by
  unfold pageChanges
  cases app.pages.get? route with
  | none => rfl
  | some page =>
    dsimp only
    rw [List.append_assoc, List.all_append, sessionChanges_idle]
    split <;> rfl

theorem lead?_connected {app : App} {now : Instant} {id : String} {carried : Option String}
    {page : Page} (other : carried ≠ some session)
    (made : (app.connect now id carried page).isSome = true) :
    (app.apply now (.connect id carried page)).lead? session id = none := by
  have created : (app.created now (.connect id carried page)).map (Connection.of? session) =
      (app.created now (.connect id carried page)).map fun _ => none := by
    simp only [App.created, Connection.fresh?]
    cases Outbox.ofCapacity? app.config.patchQueueCapacity with
    | none => rfl
    | some queue => simp [Connection.of?, other]
  have absent : (app.apply now (.connect id carried page)).own? session app.connections.length =
      none := by
    rw [own?_apply_beyond app now _ (by simp), created, List.getElem?_map]
    cases (app.created now (.connect id carried page))[app.connections.length -
      app.connections.length]? <;> rfl
  rw [lead?, place?, apply_registered, registeredAfter, if_pos made, KeyMap.get?_insert,
    if_pos rfl, Option.filter_some, absent]
  rfl

section
variable {left right : App} (agrees : left.Agrees session right) (exact : left.Exact)
  (also : right.Exact) (ids : left.ids = right.ids)
  (fresh : IdSource.sessionId left.ids.sessions ≠ session)

include agrees ids fresh in
/-- A cookie leads to the session on both sides or on neither. -/
theorem Agrees.sessionFor_cases (now : Instant) (cookie : Option String) :
    (left.sessionFor now cookie).2 = (right.sessionFor now cookie).2 ∧
        (left.sessionFor now cookie).2.id = session ∨
      (left.sessionFor now cookie).2.id ≠ session ∧
        (right.sessionFor now cookie).2.id ≠ session := by
  have named (app : App) : (app.sessionFor now cookie).2 =
      ((cookie.map Text.trim).filter fun id =>
        !id.isEmpty && !app.shared.sessions.isRefused id).elim
          ⟨IdSource.sessionId app.ids.sessions, true⟩ (⟨·, false⟩) := by
    cases found : (cookie.map Text.trim).filter fun id =>
        !id.isEmpty && !app.shared.sessions.isRefused id <;>
      simp only [sessionFor, Sessions.resolve, found, Option.elim]
  rw [named, named, ← ids]
  cases cookie.map Text.trim with
  | none => exact .inr ⟨fresh, fresh⟩
  | some id =>
    rw [Option.filter_some, Option.filter_some]
    by_cases own : id = session
    · subst own
      rw [agrees.sessions.isRefused]
      split
      · exact .inl ⟨rfl, rfl⟩
      · exact .inr ⟨fresh, fresh⟩
    · have apart (accepted : Bool) : ((if accepted then some id else none).elim
          (⟨IdSource.sessionId left.ids.sessions, true⟩ : CookieSession) (⟨·, false⟩)).id ≠
            session := by
        cases accepted
        · exact fresh
        · exact own
      exact .inr ⟨apart _, apart _⟩

section Own
variable {now : Instant} {cookie : Option String}
  (same : (left.sessionFor now cookie).2 = (right.sessionFor now cookie).2)
include agrees exact also ids same

theorem Agrees.sessionFor :
    (left.sessionFor now cookie).1.Agrees session (right.sessionFor now cookie).1 := by
  have changes : left.sessionChanges now cookie = right.sessionChanges now cookie := by
    simp only [sessionChanges, same, ids]
  rw [sessionFor_changes, sessionFor_changes, ← changes]
  exact agrees.sameAll exact also now (left.sessionChanges_idle now cookie)

theorem Agrees.loadPage (own : (left.sessionFor now cookie).2.id = session) (route : String) :
    (left.loadPage now route cookie).1.Agrees session (right.loadPage now route cookie).1 ∧
      (left.loadPage now route cookie).2 = (right.loadPage now route cookie).2 := by
  have resolved := agrees.sessionFor exact also ids same
  have told : (left.loadPage now route cookie).2 = (right.loadPage now route cookie).2 := by
    cases routed : left.pages.get? route with
    | none =>
      have absent : right.pages.get? route = none := agrees.pages ▸ routed
      simp only [App.loadPage, routed, absent]
    | some page =>
      have also : right.pages.get? route = some page := agrees.pages ▸ routed
      simp only [loadPage_found routed, loadPage_found also, ← same, ← ids, ← agrees.config]
      cases opened : Connection.fresh? now (IdSource.connectionId left.ids.connections)
          (some (left.sessionFor now cookie).2.id) page left.config.patchQueueCapacity with
      | none => rfl
      | some connection =>
        have carries : connection.session = some session := by
          rw [Connection.fresh?_eq opened, own]
        have rendered : connection.pageMarkup (left.numbered now cookie).shared =
            connection.pageMarkup (right.numbered now cookie).shared :=
          Connection.pageMarkup_agrees carries resolved.shared
        simp only [register_shared, rendered]
        cases connection.pageMarkup (right.numbered now cookie).shared <;> rfl
  refine ⟨?_, told⟩
  have changes : left.pageChanges now route cookie = right.pageChanges now route cookie := by
    have numbered (app : App) : (app.sessionFor now cookie).1.ids =
        if (app.sessionFor now cookie).2.minted then
          { app.ids with sessions := app.ids.sessions + 1 }
        else app.ids := rfl
    simp only [pageChanges, told, same, ids, agrees.pages, numbered, sessionChanges]
  rw [loadPage_changes, loadPage_changes, ← changes]
  exact agrees.sameAll exact also now (left.pageChanges_idle now route cookie)

end Own

end

/-- What a page load for another session does besides creating its tab leaves this one as it is. -/
theorem loadPage_passes {app : App} (exact : app.Exact) {now : Instant} {route : String}
    {cookie : Option String} {page : Page} (routed : app.pages.get? route = some page)
    (other : (app.sessionFor now cookie).2.id ≠ session) :
    ∃ entered : App, entered.Exact ∧ app.Alike session entered ∧
      (entered.apply now (.connect (IdSource.connectionId app.ids.connections)
        (some (app.sessionFor now cookie).2.id) page)).Alike session
          (app.loadPage now route cookie).1 := by
  let id := IdSource.connectionId app.ids.connections
  let numbered : Change := .number
    { (app.sessionFor now cookie).1.ids with connections := app.ids.connections + 1 }
  let entered := app.applyAll now (app.sessionChanges now cookie ++ [numbered])
  have spares : app.Spares session (app.sessionChanges now cookie ++ [numbered]) := by
    obtain ⟨place, foreign, elsewhere⟩ := spares_session other
    refine ⟨place, foreign, fun change member => ?_⟩
    rcases List.mem_append.mp member with before | last
    · exact elsewhere change before
    · rw [List.mem_singleton.mp last]
      trivial
  have alike := spares.alike now
  refine ⟨entered, exact.applyAll now _, alike, ?_⟩
  let opened := entered.apply now (.connect id (some (app.sessionFor now cookie).2.id) page)
  have loaded : (app.loadPage now route cookie).1 = opened ∨
      (∃ named, (app.loadPage now route cookie).2 = .error (.viewPanicked named)) ∧
        (app.loadPage now route cookie).1 = opened.apply now (.close id) := by
    rw [loadPage_changes]
    simp only [pageChanges, routed, applyAll_append, opened, entered]
    split
    · next named panicked => exact .inr ⟨⟨named, panicked⟩, rfl⟩
    · exact .inl rfl
  obtain still | ⟨⟨named, panicked⟩, shut⟩ := loaded
  · rw [still]
    exact Alike.refl opened
  · have made : (entered.connect now id (some (app.sessionFor now cookie).2.id) page).isSome =
        true := by
      have loads := app.loadPage_loads now route cookie
      generalize app.loadPage now route cookie = outcome at loads panicked
      cases loads with
      | panicked connection opens =>
        obtain rfl := Option.some.inj (routed.symm.trans opens.routed)
        rw [App.connect, Option.isSome_map, ← alike.config]
        exact congrArg Option.isSome opens.fresh
      | unknown | crashed | rendered => cases panicked
    rw [shut]
    exact alike_close (lead?_connected (by simpa using other) made) now

/-- A page for another session leaves this one with what it had. -/
theorem Alike.loadPage_other {left right : App} (alike : left.Alike session right)
    (exact : left.Exact) (also : right.Exact) (ids : left.ids = right.ids) {now : Instant}
    {cookie : Option String} (first : (left.sessionFor now cookie).2.id ≠ session)
    (second : (right.sessionFor now cookie).2.id ≠ session) (route : String) :
    (left.loadPage now route cookie).1.Alike session (right.loadPage now route cookie).1 := by
  cases routed : left.pages.get? route with
  | none =>
    have absent : right.pages.get? route = none := alike.pages ▸ routed
    simpa only [loadPage, routed, absent] using alike
  | some page =>
    obtain ⟨entered, entered_exact, before, after⟩ := loadPage_passes exact routed first
    obtain ⟨entered', entered_exact', before', after'⟩ :=
      loadPage_passes also (alike.pages ▸ routed) second
    have both : entered.Alike session entered' := before.symm.trans (alike.trans before')
    have connected := both.connect entered_exact entered_exact' now
      (IdSource.connectionId left.ids.connections) page
      (.inr ⟨mt Option.some.inj first, mt Option.some.inj second⟩)
    rw [← ids] at after'
    exact after.symm.trans (connected.trans after')

end App

namespace Http

section
variable {left right : App} {now : Instant}

theorem servePage_same {route : String} {request : Request} (config : left.config = right.config)
    (loaded : let cookie := sessionFrom (cookieHeaders request) left.config.cookieName
      (left.loadPage now route cookie).2 = (right.loadPage now route cookie).2) :
    (servePage left now route request).2 = (servePage right now route request).2 := by
  dsimp only at loaded
  simp only [servePage, ← config]
  generalize left.loadPage now route _ = first at loaded ⊢
  generalize right.loadPage now route _ = second at loaded ⊢
  obtain ⟨after, result⟩ := first
  obtain ⟨after', result'⟩ := second
  obtain rfl : result = result' := loaded
  cases result with
  | ok page =>
    dsimp only
    split
    · split <;> rfl
    · rfl
  | error refused => cases refused <;> rfl

theorem serveEvents_same {query : List Char}
    (opened : ∀ id, parameter query "tab" = .ok (some id) →
      (left.subscribe now id).2 = (right.subscribe now id).2) :
    (serveEvents left now query).2 = (serveEvents right now query).2 := by
  unfold serveEvents
  split
  · next id named =>
    have same := opened id named
    generalize left.subscribe now id = first at same ⊢
    generalize right.subscribe now id = second at same ⊢
    obtain ⟨after, channel⟩ := first
    obtain ⟨after', channel'⟩ := second
    obtain rfl : channel = channel' := same
    cases channel <;> rfl
  · rfl

theorem serveAction_same {segment query : List Char}
    (ran : ∀ action payload,
      Text.Utf8.decodeExact? (Text.Percent.decode (Text.Utf8.encodeChars segment)) = some action →
      parameter query "payload" = .ok (some payload) →
      (left.runRequest now action payload).2 = (right.runRequest now action payload).2) :
    (serveAction left now segment query).2 = (serveAction right now segment query).2 := by
  unfold serveAction
  split
  · next action payload named sent =>
    have same := ran action payload named sent
    generalize left.runRequest now action payload = first at same ⊢
    generalize right.runRequest now action payload = second at same ⊢
    obtain ⟨after, notes, outcome⟩ := first
    obtain ⟨after', notes', outcome'⟩ := second
    obtain ⟨rfl, rfl⟩ : notes = notes' ∧ outcome = outcome' := Prod.mk.inj same
    cases outcome <;> rfl
  · rfl

/-- What is asked for over HTTP is answered alike if it comes to the same. -/
theorem handle_same {request : Request} (pages : left.pages = right.pages)
    (config : left.config = right.config)
    (loads : ∀ route cookie, asked? left request = some (.render route cookie) →
      (left.loadPage now route cookie).2 = (right.loadPage now route cookie).2)
    (opens : ∀ id, asked? left request = some (.subscribe id) →
      (left.subscribe now id).2 = (right.subscribe now id).2)
    (runs : ∀ action payload, asked? left request = some (.runRequest action payload) →
      (left.runRequest now action payload).2 = (right.runRequest now action payload).2) :
    (handle left now request).2 = (handle right now request).2 := by
  have head (served other : App × List Note × Response) (same : served.2 = other.2) (head : Bool) :
      (if head then (served.1, served.2.1, served.2.2.headOnly) else served).2 =
        (if head then (other.1, other.2.1, other.2.2.headOnly) else other).2 := by
    cases head
    · exact same
    · exact congrArg (fun told : List Note × Response => (told.1, told.2.headOnly)) same
  have ends : endpoint? right (pathAndQuery request.target).1 =
      endpoint? left (pathAndQuery request.target).1 := by
    simp only [endpoint?, routes, pages]
  simp only [handle, ends]
  refine head _ _ ?_ _
  cases found : endpoint? left (pathAndQuery request.target).1 with
  | none => rfl
  | some endpoint =>
    cases endpoint with
    | close =>
      dsimp only
      split
      · unfold serveClose
        cases Text.Utf8.decodeExact? request.body <;> rfl
      · rfl
    | page route =>
      dsimp only
      split
      · next reads =>
        refine congrArg ([], ·) (servePage_same config (loads route _ ?_))
        simp only [asked?, found, if_pos reads]
      · rfl
    | pushChannel =>
      dsimp only
      split
      · next reads =>
        refine congrArg ([], ·) (serveEvents_same fun id named => opens id ?_)
        simp only [asked?, found, if_pos reads, named]
      · rfl
    | action =>
      dsimp only
      split
      · next reads =>
        refine serveAction_same fun action payload named sent => runs action payload ?_
        simp only [asked?, found, if_pos reads, named, sent]
      · rfl

end
end Http
end LiveTabs
