import LiveTabs.Scenario.Direct
/-!
Whatever is done to a scene comes down to seven deeds. A statement is the list of deeds that it
amounts to where it stands, so a property of every run of every handler needs one case for each
deed and not one for each statement.
-/
namespace LiveTabs

inductive Deed where
  | takeOver (taken : KeyMap Json)
  | write (scope : Scope) (key : String) (written : Json)
  | signal (key : String) (written : Json)
  | elements (html : String)
  | script (text : String)
  | flush
  | refuse

namespace Scene

def putSignals (scene : Scene) (taken : KeyMap Json) : Scene :=
  { scene with tab := { scene.tab with signals := scene.tab.signals.insertAll taken.entries } }

def putSignal (scene : Scene) (key : String) (written : Json) : Scene :=
  { scene with
    tab := { scene.tab with
      signals := scene.tab.signals.insert key written
      changed := scene.tab.changed.insert key () } }

def carryOut (now : Instant) (scene : Scene) : Deed → Scene
  | .takeOver taken => scene.putSignals taken
  | .write scope key written => (scene.store now scope key written).1
  | .signal key written => scene.putSignal key written
  | .elements html => scene.enqueue (.elements html)
  | .script text => scene.enqueue (.script text)
  | .flush => scene.offerChanged
  | .refuse => scene.refuseSession now

def carryOutAll (now : Instant) (scene : Scene) (deeds : List Deed) : Scene :=
  deeds.foldl (carryOut now) scene

/-- What each deed gives rise to where it finds the scene. -/
def along {α : Type} (now : Instant) (events : Scene → Deed → List α) (scene : Scene) :
    List Deed → List α
  | [] => []
  | deed :: rest => events scene deed ++ (scene.carryOut now deed).along now events rest

-- A view that each deed takes along its events is taken along the whole history.
theorem carryOutAll_along {σ α : Type} (view : Scene → σ) {leaves : σ → α → σ}
    {events : Scene → Deed → List α} (now : Instant)
    (follows : ∀ scene deed,
      view (scene.carryOut now deed) = (events scene deed).foldl leaves (view scene))
    (scene : Scene) (deeds : List Deed) :
    view (scene.carryOutAll now deeds) =
      (scene.along now events deeds).foldl leaves (view scene) := by
  induction deeds generalizing scene with
  | nil => rfl
  | cons deed rest ih =>
    rw [along, List.foldl_append, ← follows]
    exact ih (scene.carryOut now deed)

def writeDeeds (handle : AnyState) (value : Json) : List Deed :=
  match handle.1.decode value with
  | none => []
  | some decoded =>
    match handle.1.encode decoded with
    | .error _ => []
    | .ok written => [.write handle.2.scope handle.2.key written]

def signalDeeds (handle : AnySignal) (value : Json) : List Deed :=
  match handle.1.decode value with
  | none => []
  | some decoded =>
    match handle.1.encode decoded with
    | .error _ => []
    | .ok written => [.signal handle.2.key written]

-- Outside an action nothing is done.
def permitted (scene : Scene) (deeds : List Deed) : List Deed :=
  if scene.mayWrite then deeds else []

/-- The deeds of one statement; none is a panic. -/
def deeds? (scene : Scene) (invocation : Invocation) : Statement → Option (List Deed)
  | .set handle value =>
    some (scene.permitted (handle.elim [] fun handle => writeDeeds handle (scene.eval value)))
  | .setSignal handle value =>
    some (scene.permitted (handle.elim [] fun handle => signalDeeds handle (scene.eval value)))
  | .sync =>
    if scene.mayWrite then
      (scene.render invocation.target).map fun html => [.elements html, .flush]
    else some []
  | .syncSignals => some (scene.permitted [.flush])
  | .fragment value => some (scene.permitted [.elements (scene.eval value).shown, .flush])
  | .fragmentBytes body => some (scene.permitted [.elements (Text.Utf8.decode body), .flush])
  | .script value => some (scene.permitted [.script (scene.eval value).shown])
  | .refuseSession => some [.refuse]
  | .log _ => some []
  | .identify => some []
  | .panic => none

/-- The deeds of statements in order, up to the first that panics. -/
def handlerDeeds (scene : Scene) (invocation : Invocation) : Handler → List Deed
  | [] => []
  | statement :: rest =>
    match scene.deeds? invocation statement with
    | none => []
    | some deeds =>
      deeds ++ (scene.carryOutAll invocation.now deeds).handlerDeeds invocation rest

-- Values are kept apart from the signals and from what is queued for the tab.
theorem store_frame (scene : Scene) (now : Instant) (scope : Scope) (key : String)
    (written : Json) :
    (scene.store now scope key written).1.tab.signals = scene.tab.signals ∧
      (scene.store now scope key written).1.tab.changed = scene.tab.changed ∧
      (scene.store now scope key written).1.queue = scene.queue := by
  cases scope with
  | connection => exact ⟨rfl, rfl, rfl⟩
  | application => exact ⟨rfl, rfl, rfl⟩
  | session => cases session : scene.session <;> simp [store, session, withSessions]

theorem refuseSession_frame (scene : Scene) (now : Instant) :
    (scene.refuseSession now).tab = scene.tab ∧ (scene.refuseSession now).queue = scene.queue := by
  cases session : scene.session <;> simp [refuseSession, session, withSessions]

/-- Whose tab it is and what it is busy with stay as they are. -/
theorem carryOut_frame (scene : Scene) (now : Instant) (deed : Deed) :
    (scene.carryOut now deed).session = scene.session ∧
      (scene.carryOut now deed).tab.mode = scene.tab.mode := by
  cases deed with
  | write scope key written =>
    cases scope with
    | connection => exact ⟨rfl, rfl⟩
    | application => exact ⟨rfl, rfl⟩
    | session => cases session : scene.session <;> simp [carryOut, store, session, withSessions]
  | refuse =>
    cases session : scene.session <;> simp [carryOut, refuseSession, session, withSessions]
  | flush =>
    cases changed : scene.tab.changed.isEmpty <;> simp [carryOut, offerChanged, changed, enqueue]
  | takeOver taken => exact ⟨rfl, rfl⟩
  | signal key written => exact ⟨rfl, rfl⟩
  | elements html => exact ⟨rfl, rfl⟩
  | script text => exact ⟨rfl, rfl⟩

theorem carryOutAll_frame (scene : Scene) (now : Instant) (deeds : List Deed) :
    (scene.carryOutAll now deeds).session = scene.session ∧
      (scene.carryOutAll now deeds).tab.mode = scene.tab.mode := by
  induction deeds generalizing scene with
  | nil => exact ⟨rfl, rfl⟩
  | cons deed rest ih =>
    have first := scene.carryOut_frame now deed
    have later := ih (scene.carryOut now deed)
    exact ⟨later.1.trans first.1, later.2.trans first.2⟩

theorem carryOutAll_append (now : Instant) (scene : Scene) (first later : List Deed) :
    scene.carryOutAll now (first ++ later) =
      (scene.carryOutAll now first).carryOutAll now later := by
  simp [carryOutAll]

theorem assign_deeds (scene : Scene) (now : Instant) (handle : AnyState) (value : Json) :
    (scene.assign now handle value).1 =
      scene.carryOutAll now (scene.permitted (writeDeeds handle value)) := by
  cases decoded : handle.1.decode value with
  | none => simp [assign, writeDeeds, decoded, permitted, carryOutAll]
  | some carried =>
    cases encoded : handle.1.encode carried <;> by_cases acting : scene.mayWrite = true <;>
      simp [assign, setState, writeDeeds, decoded, encoded, permitted, carryOutAll, carryOut,
        acting]

theorem assignSignal_deeds (scene : Scene) (now : Instant) (handle : AnySignal) (value : Json) :
    (scene.assignSignal handle value).1 =
      scene.carryOutAll now (scene.permitted (signalDeeds handle value)) := by
  cases decoded : handle.1.decode value with
  | none => simp [assignSignal, signalDeeds, decoded, permitted, carryOutAll]
  | some carried =>
    cases encoded : handle.1.encode carried <;> by_cases acting : scene.mayWrite = true <;>
      simp [assignSignal, setSignal, signalDeeds, decoded, encoded, permitted, carryOutAll,
        carryOut, putSignal, acting]

theorem sendElements_deeds (scene : Scene) (now : Instant) (html : String) :
    (scene.sendElements html).1 =
      scene.carryOutAll now (scene.permitted [.elements html, .flush]) := by
  by_cases acting : scene.mayWrite = true <;>
    simp [sendElements, permitted, carryOutAll, carryOut, acting]

/-- A statement does to the scene what its deeds do, and it panics where it has none: by then it has
done nothing, since a view is rendered before anything is sent. -/
theorem act_deeds (scene : Scene) (invocation : Invocation) (statement : Statement) :
    (scene.act invocation statement).1 =
        scene.carryOutAll invocation.now ((scene.deeds? invocation statement).getD []) ∧
      (scene.act invocation statement).2.isSome = (scene.deeds? invocation statement).isSome := by
  cases statement with
  | set handle value =>
    cases handle with
    | none => simp [act, deeds?, permitted, carryOutAll]
    | some handle => simp [act, deeds?, assign_deeds]
  | setSignal handle value =>
    cases handle with
    | none => simp [act, deeds?, permitted, carryOutAll]
    | some handle => simp [act, deeds?, assignSignal_deeds scene invocation.now]
  | sync =>
    by_cases acting : scene.mayWrite = true
    · cases rendered : scene.render invocation.target with
      | none => simp [act, sync, deeds?, acting, rendered, carryOutAll]
      | some html =>
        simp [act, sync, deeds?, acting, rendered, sendElements_deeds scene invocation.now,
          permitted]
    · simp [act, sync, deeds?, acting, carryOutAll]
  | syncSignals =>
    by_cases acting : scene.mayWrite = true <;>
      simp [act, deeds?, replied, sendSignals, permitted, carryOutAll, carryOut, acting]
  | fragment value =>
    simp [act, deeds?, replied, sendElements_deeds scene invocation.now]
  | fragmentBytes body =>
    simp [act, deeds?, replied, sendElements_deeds scene invocation.now]
  | script value =>
    by_cases acting : scene.mayWrite = true <;>
      simp [act, deeds?, replied, sendScript, permitted, carryOutAll, carryOut, acting]
  | refuseSession => simp [act, deeds?, carryOutAll, carryOut]
  | log value => simp [act, deeds?, carryOutAll]
  | identify => simp [act, deeds?, carryOutAll]
  | panic => simp [act, deeds?, carryOutAll]

/-- A statement that panics leaves the scene as it was. -/
theorem act_panicked {scene left : Scene} {invocation : Invocation} {statement : Statement}
    (panicked : scene.act invocation statement = (left, none)) :
    scene.deeds? invocation statement = none ∧ left = scene := by
  obtain ⟨moved, ended⟩ := scene.act_deeds invocation statement
  rw [panicked] at moved ended
  have none : scene.deeds? invocation statement = none :=
    Option.isNone_iff_eq_none.mp (by simpa using ended.symm)
  rw [none] at moved
  exact ⟨none, moved⟩

theorem deeds?_of_act {scene next : Scene} {invocation : Invocation} {statement : Statement}
    {reply : Reply} (acted : scene.act invocation statement = (next, some reply)) :
    ∃ deeds, scene.deeds? invocation statement = some deeds ∧
      scene.carryOutAll invocation.now deeds = next := by
  obtain ⟨moved, went⟩ := scene.act_deeds invocation statement
  rw [acted] at moved went
  obtain ⟨deeds, listed⟩ := Option.isSome_iff_exists.mp went.symm
  rw [listed] at moved
  exact ⟨deeds, listed, moved.symm⟩

theorem perform_deeds (scene : Scene) (invocation : Invocation) (handler : Handler) :
    (scene.perform invocation handler).scene =
      scene.carryOutAll invocation.now (scene.handlerDeeds invocation handler) := by
  induction handler generalizing scene with
  | nil => rfl
  | cons statement rest ih =>
    rcases acted : scene.act invocation statement with ⟨next, _ | reply⟩
    · obtain ⟨none, rfl⟩ := act_panicked acted
      simp [perform, handlerDeeds, acted, none, carryOutAll]
    · obtain ⟨deeds, listed, moved⟩ := deeds?_of_act acted
      simp [perform, handlerDeeds, acted, listed, ih, carryOutAll_append, moved]

def directStatementDeeds (scene : Scene) (declared : String → Bool) (invocation : Invocation) :
    DirectStatement → List Deed
  | .perform statement => (scene.deeds? invocation statement).getD []
  | .takeOver values =>
    [.takeOver (((scene.eval values).members?.getD KeyMap.empty).filter fun key _ => declared key)]

def directDeeds (scene : Scene) (declared : String → Bool) (invocation : Invocation) :
    List DirectStatement → List Deed
  | [] => []
  | statement :: rest =>
    let deeds := scene.directStatementDeeds declared invocation statement
    deeds ++ (scene.carryOutAll invocation.now deeds).directDeeds declared invocation rest

theorem direct_deeds (scene : Scene) (declared : String → Bool) (invocation : Invocation)
    (statement : DirectStatement) :
    (scene.direct declared invocation statement).1 =
      scene.carryOutAll invocation.now
        (scene.directStatementDeeds declared invocation statement) := by
  cases statement with
  | takeOver values => rfl
  | perform statement =>
    have moved := (scene.act_deeds invocation statement).1
    rw [directStatementDeeds, ← moved, direct]
    split
    · next acted => rw [acted]
    · next acted => rw [acted]

theorem directAll_deeds (scene : Scene) (declared : String → Bool) (invocation : Invocation)
    (body : List DirectStatement) :
    (scene.directAll declared invocation body).1 =
      scene.carryOutAll invocation.now (scene.directDeeds declared invocation body) := by
  induction body generalizing scene with
  | nil => rfl
  | cons statement rest ih =>
    rw [directAll, directDeeds, carryOutAll_append, ← direct_deeds]
    exact ih _

end Scene

namespace Connection

/-- The client's signals are taken over first; the handler then finds them there. -/
def actionDeeds (connection : Connection) (shared : Shared) (now : Instant) (action : String)
    (signals : KeyMap Json) (handler : Handler) : List Deed :=
  let taken := signals.filter fun key _ => connection.page.knowsSignal key
  .takeOver taken :: ((connection.scene shared .action).putSignals taken).handlerDeeds
    (Page.invocation connection.page action now) handler

/-- The connection and the shared values after some deeds in a mode. -/
def work (connection : Connection) (shared : Shared) (now : Instant) (mode : Mode)
    (deeds : List Deed) : Connection × Shared :=
  let done := (connection.scene shared mode).carryOutAll now deeds
  (connection.resume done, done.shared)

theorem runAction_deeds {connection : Connection} {action : String} {handler : Handler}
    (known : connection.page.handler? action = some handler) (shared : Shared) (now : Instant)
    (signals : KeyMap Json) :
    let worked := connection.work shared now .action
      (connection.actionDeeds shared now action signals handler)
    (connection.runAction shared now action signals).1 = worked.1 ∧
      (connection.runAction shared now action signals).2.1 = worked.2 := by
  have reached := ((connection.scene shared .action).takeOver connection.page.knowsSignal
    signals).1.perform_deeds (Page.invocation connection.page action now) handler
  simp only [runAction, known]
  exact ⟨congrArg connection.resume reached, congrArg Scene.shared reached⟩

theorem runAction_unknown {connection : Connection} {action : String}
    (unknown : connection.page.handler? action = none) (shared : Shared) (now : Instant)
    (signals : KeyMap Json) :
    (connection.runAction shared now action signals).1 = connection ∧
      (connection.runAction shared now action signals).2.1 = shared := by
  simp [runAction, unknown]

theorem direct_work (connection : Connection) (shared : Shared) (now : Instant) (mode : Mode)
    (action : String) (body : List DirectStatement) :
    let worked := connection.work shared now mode ((connection.scene shared mode).directDeeds
      connection.page.knowsSignal (Page.invocation connection.page action now) body)
    (connection.direct shared now mode action body).1 = worked.1 ∧
      (connection.direct shared now mode action body).2.1 = worked.2 := by
  have reached := (connection.scene shared mode).directAll_deeds connection.page.knowsSignal
    (Page.invocation connection.page action now) body
  exact ⟨congrArg connection.resume reached, congrArg Scene.shared reached⟩

end Connection
end LiveTabs
