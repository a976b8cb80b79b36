import LiveTabs.Proofs.Delivery
import LiveTabs.Proofs.Reading
/-!
What a handler offers to the queue, read off its statements. The queue plays no part in that: a
patch that finds it full is missing from it in the end and makes no other difference.
-/
namespace LiveTabs

/-- A queue within its limit takes from the front of what it is offered, up to the limit. -/
theorem Outbox.Within.pushAll_take {limit : Nat} {queue : Outbox}
    (within : queue.Within limit) (patches : List Patch) :
    (queue.pushAll patches).pending = (queue.pending ++ patches).take limit := by
  induction patches generalizing queue with
  | nil =>
    rw [List.append_nil, List.take_of_length_le within.bounded]
    rfl
  | cons patch rest ih =>
    have step := ih (within.push patch)
    rw [Outbox.pushAll, List.foldl_cons, ← Outbox.pushAll, step]
    cases full : queue.isFull with
    | true =>
      have length := within.isFull_iff.mp full
      rw [push_full full, List.take_left' length, List.take_left' length]
    | false => rw [push_room full, List.append_assoc, List.singleton_append]

namespace Scene

/-! What a handler asks for, statement by statement. Nothing here looks at the queue. -/

def told (scene : Scene) : Scene :=
  { scene with tab := { scene.tab with changed := KeyMap.empty } }

structure Asked where
  scene : Scene
  offers : List Patch

/-- What one statement asks for and leaves; none is a panic. -/
def ask? (scene : Scene) (target : Component View) (now : Instant) : Statement → Option Asked
  | .sync =>
    (scene.renderParts target.view).map fun body =>
      ⟨scene.told, .elements (Markup.rootElement target.id body) :: scene.news⟩
  | .fragment value => some ⟨scene.told, .elements (scene.eval value).shown :: scene.news⟩
  | .fragmentBytes body => some ⟨scene.told, .elements (Text.Utf8.decode body) :: scene.news⟩
  | .syncSignals => some ⟨scene.told, scene.news⟩
  | .script value => some ⟨scene, [.script (scene.eval value).shown]⟩
  | .set none _ => some ⟨scene, []⟩
  | .set (some handle) value => some ⟨(scene.assign now handle (scene.eval value)).1, []⟩
  | .setSignal none _ => some ⟨scene, []⟩
  | .setSignal (some handle) value => some ⟨(scene.assignSignal handle (scene.eval value)).1, []⟩
  | .refuseSession => some ⟨scene.refuseSession now, []⟩
  | .log _ => some ⟨scene, []⟩
  | .identify => some ⟨scene, []⟩
  | .panic => none

/-- What the statements of a handler ask for in order, up to the first that panics. -/
def asked (scene : Scene) (target : Component View) (now : Instant) : Handler → Asked
  | [] => ⟨scene, []⟩
  | statement :: rest =>
    match scene.ask? target now statement with
    | none => ⟨scene, []⟩
    | some first =>
      let later := first.scene.asked target now rest
      ⟨later.scene, first.offers ++ later.offers⟩

/-- The same scene with another queue. -/
def queueing (scene : Scene) (queue : Outbox) : Scene := { scene with queue }

theorem queueing_alike (scene : Scene) (queue : Outbox) : (scene.queueing queue).Alike scene :=
  ⟨rfl, rfl, rfl, rfl⟩

@[simp] theorem mayWrite_queueing (scene : Scene) (queue : Outbox) :
    (scene.queueing queue).mayWrite = scene.mayWrite := rfl

theorem store_queueing (scene : Scene) (queue : Outbox) (now : Instant) (scope : Scope)
    (key : String) (written : Json) :
    ((scene.queueing queue).store now scope key written).1 =
      (scene.store now scope key written).1.queueing queue := by
  cases scope with
  | connection => rfl
  | application => rfl
  | session => cases session : scene.session <;> simp [store, queueing, session, withSessions]

theorem assign_queueing (scene : Scene) (queue : Outbox) (now : Instant) (handle : AnyState)
    (value : Json) :
    ((scene.queueing queue).assign now handle value).1 =
      (scene.assign now handle value).1.queueing queue := by
  unfold assign
  cases handle.1.decode value with
  | none => rfl
  | some decoded =>
    simp only [setState, mayWrite_queueing]
    by_cases acting : scene.mayWrite = true <;> cases handle.1.encode decoded <;>
      simp [acting, store_queueing]

theorem assignSignal_queueing (scene : Scene) (queue : Outbox) (handle : AnySignal)
    (value : Json) :
    ((scene.queueing queue).assignSignal handle value).1 =
      (scene.assignSignal handle value).1.queueing queue := by
  unfold assignSignal
  cases handle.1.decode value with
  | none => rfl
  | some decoded =>
    simp only [setSignal, mayWrite_queueing]
    by_cases acting : scene.mayWrite = true <;> cases handle.1.encode decoded <;>
      simp [acting, queueing]

theorem refuseSession_queueing (scene : Scene) (queue : Outbox) (now : Instant) :
    (scene.queueing queue).refuseSession now = (scene.refuseSession now).queueing queue := by
  cases session : scene.session <;> simp [refuseSession, queueing, session, withSessions]

theorem ask?_queueing (scene : Scene) (queue : Outbox) (target : Component View) (now : Instant)
    (statement : Statement) :
    (scene.queueing queue).ask? target now statement =
      (scene.ask? target now statement).map fun asked =>
        ⟨asked.scene.queueing queue, asked.offers⟩ := by
  have alike := scene.queueing_alike queue
  cases statement with
  | set handle value =>
    cases handle <;> simp [ask?, assign_queueing, eval_alike alike]
  | setSignal handle value =>
    cases handle <;> simp [ask?, assignSignal_queueing, eval_alike alike]
  | sync =>
    simp only [ask?, renderParts_alike alike, Option.map_map]
    rfl
  | fragment value =>
    simp only [ask?, eval_alike alike, Option.map_some]
    rfl
  | script value => simp [ask?, eval_alike alike]
  | refuseSession => simp [ask?, refuseSession_queueing]
  | fragmentBytes body => rfl
  | syncSignals => rfl
  | log value => rfl
  | identify => rfl
  | panic => rfl

theorem asked_queueing (scene : Scene) (queue : Outbox) (target : Component View) (now : Instant)
    (handler : Handler) :
    (scene.queueing queue).asked target now handler =
      ⟨(scene.asked target now handler).scene.queueing queue,
        (scene.asked target now handler).offers⟩ := by
  induction handler generalizing scene with
  | nil => rfl
  | cons statement rest ih =>
    rw [asked, asked, ask?_queueing]
    cases scene.ask? target now statement with
    | none => rfl
    | some first => simp [ih]

theorem told_of_isEmpty {scene : Scene} (nothing : scene.tab.changed.isEmpty = true) :
    scene.told = scene := by
  have empty : scene.tab.changed = KeyMap.empty :=
    KeyMap.ext_entries (List.isEmpty_iff.mp nothing)
  rw [told, ← empty]

theorem offerChanged_news (scene : Scene) :
    scene.offerChanged = scene.told.queueing (scene.queue.pushAll scene.news) := by
  cases nothing : scene.tab.changed.isEmpty with
  | true =>
    rw [told_of_isEmpty nothing, news, if_pos nothing, offerChanged, if_pos nothing]
    rfl
  | false =>
    have written : ¬ scene.tab.changed.isEmpty = true := by simp [nothing]
    rw [news, if_neg written, offerChanged, if_neg written]
    rfl

theorem sendElements_news {scene : Scene} (acting : scene.mayWrite = true) (html : String) :
    (scene.sendElements html).1 =
      scene.told.queueing (scene.queue.pushAll (.elements html :: scene.news)) := by
  rw [sendElements, if_pos acting, offerChanged_news]
  rfl

/-- In an action a statement does what it asks for, and offers its patches to the queue. One that
panics does nothing. -/
theorem act_asked {scene : Scene} (acting : scene.mayWrite = true) (invocation : Invocation)
    (statement : Statement) :
    (scene.act invocation statement).1 =
        ((scene.ask? invocation.target invocation.now statement).elim scene fun asked =>
          asked.scene.queueing (scene.queue.pushAll asked.offers)) ∧
      (scene.act invocation statement).2.isSome =
        (scene.ask? invocation.target invocation.now statement).isSome := by
  cases statement with
  | set handle value =>
    cases handle with
    | none => exact ⟨rfl, rfl⟩
    | some handle => exact ⟨scene.assign_queueing scene.queue invocation.now handle _, rfl⟩
  | setSignal handle value =>
    cases handle with
    | none => exact ⟨rfl, rfl⟩
    | some handle => exact ⟨scene.assignSignal_queueing scene.queue handle _, rfl⟩
  | sync =>
    simp only [act, sync, acting, if_true, ask?, render]
    cases scene.renderParts invocation.target.view with
    | none => exact ⟨rfl, rfl⟩
    | some body => exact ⟨sendElements_news acting _, rfl⟩
  | fragment value => exact ⟨sendElements_news acting _, rfl⟩
  | fragmentBytes body => exact ⟨sendElements_news acting _, rfl⟩
  | syncSignals =>
    simp [act, ask?, replied, sendSignals, acting, offerChanged_news]
  | script value =>
    simp only [act, ask?, replied, sendScript, acting, if_true]
    exact ⟨rfl, rfl⟩
  | refuseSession => exact ⟨scene.refuseSession_queueing scene.queue invocation.now, rfl⟩
  | log value => exact ⟨rfl, rfl⟩
  | identify => exact ⟨rfl, rfl⟩
  | panic => exact ⟨rfl, rfl⟩

theorem mayWrite_asked {scene : Scene} {target : Component View} {now : Instant}
    {statement : Statement} {asked : Asked} (listed : scene.ask? target now statement = some asked) :
    asked.scene.mayWrite = scene.mayWrite := by
  have kept {after : Scene} (same : after.tab.mode = scene.tab.mode) :
      after.mayWrite = scene.mayWrite := congrArg (· == Mode.action) same
  cases statement with
  | set handle value =>
    cases handle <;> obtain rfl := Option.some.inj listed
    · rfl
    · refine kept ?_
      rw [assign_deeds]
      exact (carryOutAll_frame _ _ _).2
  | setSignal handle value =>
    cases handle <;> obtain rfl := Option.some.inj listed
    · rfl
    · refine kept ?_
      rw [assignSignal_deeds _ now]
      exact (carryOutAll_frame _ _ _).2
  | sync =>
    obtain ⟨body, -, rfl⟩ := Option.map_eq_some_iff.mp listed
    rfl
  | refuseSession =>
    obtain rfl := Option.some.inj listed
    exact kept (congrArg Tab.mode (scene.refuseSession_frame now).1)
  | panic => nomatch listed
  | _ =>
    obtain rfl := Option.some.inj listed
    rfl

/-- So does a handler. -/
theorem perform_asked {scene : Scene} (acting : scene.mayWrite = true) (invocation : Invocation)
    (handler : Handler) :
    let asked := scene.asked invocation.target invocation.now handler
    (scene.perform invocation handler).scene =
      asked.scene.queueing (scene.queue.pushAll asked.offers) := by
  induction handler generalizing scene with
  | nil => rfl
  | cons statement rest ih =>
    obtain ⟨moved, went⟩ := act_asked acting invocation statement
    rcases acted : scene.act invocation statement with ⟨next, reply⟩
    rw [acted] at moved went
    cases listed : scene.ask? invocation.target invocation.now statement with
    | none =>
      rw [listed] at moved went
      obtain rfl : reply = none := Option.isNone_iff_eq_none.mp (by simpa using went)
      obtain rfl : next = scene := moved
      simp only [perform, acted, asked, listed]
      rfl
    | some first =>
      rw [listed] at moved went
      obtain ⟨answer, rfl⟩ := Option.isSome_iff_exists.mp went
      obtain rfl : next = first.scene.queueing (scene.queue.pushAll first.offers) := moved
      have still : (first.scene.queueing (scene.queue.pushAll first.offers)).mayWrite = true :=
        (mayWrite_asked listed).trans acting
      simp only [perform, acted, asked, listed, ih still, asked_queueing, Outbox.pushAll_append]
      rfl

end Scene

/-- Writes nothing and does not panic of itself. -/
def Statement.quiet : Statement → Bool
  | .sync => true
  | .fragment _ => true
  | .fragmentBytes _ => true
  | .syncSignals => true
  | .script _ => true
  | .log _ => true
  | .identify => true
  | .set _ _ => false
  | .setSignal _ _ => false
  | .refuseSession => false
  | .panic => false

namespace Scene
variable {scene : Scene} {target : Component View} {body : Bytes}

theorem news_nothing (nothing : scene.tab.changed = KeyMap.empty) : scene.news = [] := by
  rw [news, nothing]
  rfl

theorem ask?_quiet (nothing : scene.tab.changed = KeyMap.empty)
    (rendered : scene.renderParts target.view = some body) (now : Instant)
    {statement : Statement} (quiet : statement.quiet = true) :
    ∃ asked, scene.ask? target now statement = some asked ∧ asked.scene.Alike scene ∧
      asked.scene.tab.changed = KeyMap.empty := by
  have same : scene.Alike scene := ⟨rfl, rfl, rfl, rfl⟩
  have told : scene.told.Alike scene := ⟨rfl, rfl, rfl, rfl⟩
  cases statement with
  | sync =>
    rw [ask?, rendered]
    exact ⟨_, rfl, told, rfl⟩
  | fragment value => exact ⟨_, rfl, told, rfl⟩
  | fragmentBytes bytes => exact ⟨_, rfl, told, rfl⟩
  | syncSignals => exact ⟨_, rfl, told, rfl⟩
  | script value => exact ⟨_, rfl, same, nothing⟩
  | log value => exact ⟨_, rfl, same, nothing⟩
  | identify => exact ⟨_, rfl, same, nothing⟩
  | set handle value => nomatch quiet
  | setSignal handle value => nomatch quiet
  | refuseSession => nomatch quiet
  | panic => nomatch quiet

/-- Where nothing was written since, a sync offers what it would have offered before, and no
signals. -/
theorem sync_after_quiet (nothing : scene.tab.changed = KeyMap.empty)
    (rendered : scene.renderParts target.view = some body) (now : Instant)
    {between : Handler} (quiet : ∀ statement ∈ between, statement.quiet = true)
    (after : Handler) :
    let first := scene.asked target now between
    (scene.asked target now (between ++ .sync :: after)).offers =
      first.offers ++ .elements (Markup.rootElement target.id body) ::
        (first.scene.asked target now after).offers := by
  induction between generalizing scene with
  | nil =>
    have unchanged : scene.told = scene := by rw [told, ← nothing]
    simp [asked, ask?, rendered, news_nothing nothing, unchanged]
  | cons statement rest ih =>
    obtain ⟨first, listed, alike, still⟩ :=
      ask?_quiet nothing rendered now (quiet statement List.mem_cons_self)
    have again := ih still ((renderParts_alike alike _).trans rendered)
      fun other member => quiet other (List.mem_cons_of_mem statement member)
    simp only [List.cons_append, asked, listed, again, List.append_assoc]

end Scene

/-- A dispatch leaves in the queue the front of what was there and of what its handler asks for, as
much of it as there is room for; what the handler asks for and what it leaves in the tab and among
the shared values is the same for every queue. A second sync, with nothing written in between,
offers the same markup as the first and no signals. -/
theorem offers_as_asked (start : Instant) (id : String) (session : Option String) (page : Page)
    (capacity : Nat) (begun : Connection)
    (opened : Connection.fresh? start id session page capacity = some begun)
    (passages : List Passage) :
    let connection := begun.undergoAll passages
    (∀ (shared : Shared) (now : Instant) (action : String) (signals : KeyMap Json)
        (handler : Handler), connection.page.handler? action = some handler →
      let injected :=
        ((connection.scene shared .action).takeOver connection.page.knowsSignal signals).1
      let target := (connection.page.componentOf? action).getD connection.page.root
      let asked := (injected.queueing ⟨0, []⟩).asked target now handler
      let done := connection.runAction shared now action signals
      done.1.queue.pending =
          (connection.queue.pending ++ asked.offers).take (max capacity 1) ∧
        done.1.tab = { asked.scene.tab with mode := .idle } ∧
        done.2.1 = asked.scene.shared) ∧
    ∀ (scene : Scene) (target : Component View) (now : Instant) (between after : Handler)
      (html : String), (∀ statement ∈ between, statement.quiet = true) →
      scene.render target = some html →
      let first := scene.told.asked target now between
      (scene.asked target now (.sync :: between ++ .sync :: after)).offers =
        .elements html :: scene.news ++ first.offers ++ .elements html ::
          (first.scene.asked target now after).offers := by
  intro connection
  constructor
  · intro shared now action signals handler known injected target asked done
    have within : connection.queue.Within (max capacity 1) :=
      Connection.undergoAll_within (Connection.fresh?_within opened) passages
    let invocation := Page.invocation connection.page action now
    have performed : (injected.perform invocation handler).scene = _ :=
      Scene.perform_asked rfl invocation handler
    have ran : done.1 = connection.resume (injected.perform invocation handler).scene ∧
        done.2.1 = (injected.perform invocation handler).scene.shared := by
      simp only [done, Connection.runAction, known]
      exact ⟨rfl, rfl⟩
    rw [ran.1, ran.2, performed]
    simp only [asked, Scene.asked_queueing]
    exact ⟨within.pushAll_take _, rfl, rfl⟩
  · intro scene target now between after html quiet rendered first
    obtain ⟨body, drawn, rfl⟩ := Option.map_eq_some_iff.mp rendered
    have alike : scene.told.Alike scene := ⟨rfl, rfl, rfl, rfl⟩
    have again := Scene.sync_after_quiet rfl ((Scene.renderParts_alike alike _).trans drawn) now
      quiet after
    simp only [List.cons_append, Scene.asked, Scene.ask?, drawn, Option.map_some, again]
    simp [first]

-- A component's action in a tab with room for three patches; the script finds the queue full.
def teaHandler : Handler :=
  [.set (some ⟨.string, "item", .connection, "none"⟩) (.literal (.str "tea")),
    .setSignal (some ⟨.string, "note", ""⟩) (.literal (.str "added")),
    .sync, .sync, .script (.literal (.str "beep()"))]

def shopCart : Component View := ⟨"cart", [.state ⟨.string, "item", .connection, "none"⟩]⟩

def shopPage : Page := .of {
  id := "shop"
  route := some "/"
  view := [.raw []]
  states := [⟨"item", .str "none", .connection, some "cart"⟩]
  signals := [⟨"note", .str "", some "cart"⟩]
  actions := KeyMap.ofList [("add", teaHandler)]
  owners := KeyMap.ofList [("add", shopCart)]
  components := ["cart"] }

def shopTab : Connection :=
  ⟨"tab", none, shopPage, Tab.fresh shopPage.toCatalog, ⟨3, []⟩, 0, .opened 0⟩

theorem offers_as_asked_full :
    Connection.fresh? 0 "tab" none shopPage 3 = some shopTab ∧
      shopPage.handler? "add" = some teaHandler ∧
      (shopTab.runAction Shared.empty 1 "add" KeyMap.empty).1.queue.pending =
        [.elements "<div id=\"cart\">tea</div>", .signals (KeyMap.ofList [("note", .str "added")]),
          .elements "<div id=\"cart\">tea</div>"] ∧
      ((shopTab.scene Shared.empty .action).asked shopCart 1
          [.sync, .script (.literal (.str "beep()")), .sync]).offers =
        [.elements "<div id=\"cart\">none</div>", .script "beep()",
          .elements "<div id=\"cart\">none</div>"] := by
  have law := offers_as_asked 0 "tab" none shopPage 3 shopTab rfl []
  have queued := law.1 Shared.empty 1 "add" KeyMap.empty teaHandler rfl
  have again := law.2 (shopTab.scene Shared.empty .action) shopCart 1
    [.script (.literal (.str "beep()"))] [] "<div id=\"cart\">none</div>"
    (List.forall_mem_singleton.mpr rfl) rfl
  exact ⟨rfl, rfl, queued.1.trans rfl, again.trans rfl⟩

end LiveTabs
