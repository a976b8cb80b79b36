import LiveTabs.Proofs.Idleness
/-!
Who set which signal, read off the replies that the handlers of a run were given. The deeds that a
step comes down to set the same ones, and they take over declared signals only.
-/
namespace LiveTabs


/-- The signal that a statement sets, as its reply has it. -/
def Statement.signalSet : Statement → Reply → List String
  | .setSignal (some handle) _, .accepted true => [handle.2.key]
  | _, _ => []

def DirectStatement.signalSet : DirectStatement → DirectReply → List String
  | .perform statement, .replied reply => statement.signalSet reply
  | _, _ => []

namespace Scene

/-- The signals that a handler sets, up to the first statement that panics. -/
def signalsSet (scene : Scene) (invocation : Invocation) : Handler → List String
  | [] => []
  | statement :: rest =>
    match scene.act invocation statement with
    | (_, none) => []
    | (next, some reply) => statement.signalSet reply ++ next.signalsSet invocation rest

def signalsSetDirectly (scene : Scene) (declared : String → Bool) (invocation : Invocation) :
    List DirectStatement → List String
  | [] => []
  | statement :: rest =>
    let done := scene.direct declared invocation statement
    statement.signalSet done.2 ++ done.1.signalsSetDirectly declared invocation rest

end Scene

/-- The signals that the handler of an action sets, each with the place of its tab. -/
def App.signalsSet (app : App) (now : Instant) (id action : String) (signals : KeyMap Json) :
    List (Nat × String) :=
  let refreshed := (app.refresh now id).1
  match app.place? id, refreshed.lookup id with
  | some place, some connection =>
    match connection.page.handler? action with
    | none => []
    | some handler =>
      let begun := (connection.scene refreshed.shared .action).takeOver
        connection.page.knowsSignal signals
      (begun.1.signalsSet (Page.invocation connection.page action now) handler).map (place, ·)
  | _, _ => []

namespace Scenario

/-- The signals that a step sets. A request sets those of the step that it asks for. -/
def signalsSetBy (scenario : Scenario) (now : Instant) (step : Step) : List (Nat × String) :=
  match step.meant? scenario.app with
  | some (.runAction id action signals) => scenario.app.signalsSet now id action signals
  | some (.runRequest action payload) =>
    match ClientRequest.parse payload with
    | .error _ => []
    | .ok request => scenario.app.signalsSet now request.connection action request.signals
  | some (.direct target mode action body) =>
    match scenario.find? target with
    | none => []
    | some (place, connection) =>
      ((connection.scene scenario.app.shared mode).signalsSetDirectly connection.page.knowsSignal
        (Page.invocation connection.page action now) body).map (place, ·)
  | _ => []

def signalsSet (scenario : Scenario) : List (Instant × Step) → List (Nat × String)
  | [] => []
  | step :: rest =>
    scenario.signalsSetBy step.1 step.2 ++ (scenario.step step.1 step.2).scenario.signalsSet rest

theorem signalsSet_append (scenario : Scenario) (steps later : List (Instant × Step)) :
    scenario.signalsSet (steps ++ later) =
      scenario.signalsSet steps ++ (scenario.reached steps).signalsSet later := by
  induction steps generalizing scenario with
  | nil => rfl
  | cons step rest ih => rw [List.cons_append, signalsSet, ih, signalsSet, List.append_assoc]; rfl

end Scenario

/-! What sets a signal among the deeds, and what is taken over. -/

namespace Deed

def signalSet : Deed → List String
  | .signal key _ => [key]
  | _ => []

/-- Takes over declared signals only. -/
def Declared (declared : String → Bool) : Deed → Prop
  | .takeOver taken => ∀ key, taken.contains key = true → declared key = true
  | _ => True

/-- Neither sets a signal nor takes one over. -/
def sparesSignals : Deed → Bool
  | .takeOver _ => false
  | .signal _ _ => false
  | _ => true

theorem signalSet_of_spares {deed : Deed} (spares : deed.sparesSignals = true) :
    deed.signalSet = [] := by
  cases deed with
  | signal key written => nomatch spares
  | _ => rfl

theorem declared_of_spares {deed : Deed} (spares : deed.sparesSignals = true)
    (declared : String → Bool) : deed.Declared declared := by
  cases deed with
  | takeOver taken => nomatch spares
  | _ => trivial

theorem declared_filter (declared : String → Bool) (sent : KeyMap Json) :
    (Deed.takeOver (sent.filter fun key _ => declared key)).Declared declared := by
  intro key carried
  rw [KeyMap.contains_filter_key, Bool.and_eq_true] at carried
  exact carried.2

end Deed

namespace Scene

/-- What a statement is told of the signal that it sets is what its deeds do. -/
theorem assignSignal_signalSet (scene : Scene) (handle : AnySignal) (value : Expr) :
    (scene.permitted (signalDeeds handle (scene.eval value))).flatMap Deed.signalSet =
      (Statement.setSignal (some handle) value).signalSet
        (scene.assignSignal handle (scene.eval value)).2 := by
  cases decoded : handle.1.decode (scene.eval value) with
  | none => simp [permitted, signalDeeds, assignSignal, decoded, Statement.signalSet]
  | some carried =>
    cases encoded : handle.1.encode carried <;> by_cases acting : scene.mayWrite = true <;>
      simp [permitted, signalDeeds, assignSignal, setSignal, decoded, encoded, acting,
        Statement.signalSet, Deed.signalSet]

theorem signalDeeds_declared (handle : AnySignal) (value : Json) (declared : String → Bool) :
    ∀ deed ∈ signalDeeds handle value, deed.Declared declared := by
  intro deed member
  unfold signalDeeds at member
  split at member
  · nomatch member
  · split at member
    · nomatch member
    · rw [List.mem_singleton.mp member]
      trivial

theorem writeDeeds_spare (handle : AnyState) (value : Json) :
    (writeDeeds handle value).all Deed.sparesSignals = true := by
  unfold writeDeeds
  split
  · rfl
  · split <;> rfl

theorem permitted_spare (scene : Scene) {deeds : List Deed}
    (spare : deeds.all Deed.sparesSignals = true) :
    (scene.permitted deeds).all Deed.sparesSignals = true := by
  unfold permitted
  split
  · exact spare
  · rfl

/-- Only a statement that sets a signal has to do with signals. -/
theorem deeds?_spare {scene : Scene} {invocation : Invocation} {statement : Statement}
    {deeds : List Deed} (listed : scene.deeds? invocation statement = some deeds)
    (others : ∀ handle value, statement ≠ .setSignal handle value) :
    deeds.all Deed.sparesSignals = true := by
  cases statement with
  | setSignal handle value => exact absurd rfl (others handle value)
  | set handle value =>
    obtain rfl := Option.some.inj listed
    cases handle with
    | none => exact scene.permitted_spare rfl
    | some handle => exact scene.permitted_spare (writeDeeds_spare handle _)
  | sync =>
    rw [deeds?] at listed
    split at listed
    · obtain ⟨html, -, rfl⟩ := Option.map_eq_some_iff.mp listed
      rfl
    · obtain rfl := Option.some.inj listed
      rfl
  | syncSignals =>
    obtain rfl := Option.some.inj listed
    exact scene.permitted_spare rfl
  | fragment value =>
    obtain rfl := Option.some.inj listed
    exact scene.permitted_spare rfl
  | fragmentBytes body =>
    obtain rfl := Option.some.inj listed
    exact scene.permitted_spare rfl
  | script value =>
    obtain rfl := Option.some.inj listed
    exact scene.permitted_spare rfl
  | panic => cases listed
  | _ =>
    obtain rfl := Option.some.inj listed
    rfl

/-- The deeds of a statement set the signal that the statement was told it set, and they take
nothing over. -/
theorem deeds?_signalSet {scene next : Scene} {invocation : Invocation} {statement : Statement}
    {reply : Reply} {deeds : List Deed}
    (acted : scene.act invocation statement = (next, some reply))
    (listed : scene.deeds? invocation statement = some deeds) :
    deeds.flatMap Deed.signalSet = statement.signalSet reply ∧
      ∀ declared, ∀ deed ∈ deeds, deed.Declared declared := by
  by_cases setting : ∃ handle value, statement = .setSignal handle value
  · obtain ⟨handle, value, rfl⟩ := setting
    obtain rfl := Option.some.inj listed
    cases handle with
    | none =>
      have nothing : scene.permitted [] = [] := ite_self []
      exact ⟨congrArg _ nothing, fun declared deed member => by simp [nothing] at member⟩
    | some handle =>
      have told := Option.some.inj (congrArg Prod.snd acted)
      refine ⟨(scene.assignSignal_signalSet handle value).trans (congrArg _ told),
        fun declared deed member => ?_⟩
      exact signalDeeds_declared handle _ declared deed (List.mem_ite_nil_right.mp member).2
  · have others : ∀ handle value, statement ≠ .setSignal handle value :=
      fun handle value same => setting ⟨handle, value, same⟩
    have spare := List.all_eq_true.mp (deeds?_spare listed others)
    have silent : statement.signalSet reply = [] := by
      unfold Statement.signalSet
      split
      · exact absurd rfl (others _ _)
      · rfl
    rw [silent, List.flatMap_eq_nil_iff]
    exact ⟨fun deed member => Deed.signalSet_of_spares (spare deed member),
      fun declared deed member => Deed.declared_of_spares (spare deed member) declared⟩

theorem handlerDeeds_signalSet (scene : Scene) (invocation : Invocation) (handler : Handler) :
    (scene.handlerDeeds invocation handler).flatMap Deed.signalSet =
        scene.signalsSet invocation handler ∧
      ∀ declared, ∀ deed ∈ scene.handlerDeeds invocation handler, deed.Declared declared := by
  induction handler generalizing scene with
  | nil => exact ⟨rfl, fun _ => List.forall_mem_nil _⟩
  | cons statement rest ih =>
    rcases acted : scene.act invocation statement with ⟨next, _ | reply⟩
    · simp only [handlerDeeds, signalsSet, acted, (act_panicked acted).1]
      exact ⟨rfl, fun _ => List.forall_mem_nil _⟩
    · obtain ⟨deeds, listed, moved⟩ := deeds?_of_act acted
      obtain ⟨first, clean⟩ := deeds?_signalSet acted listed
      obtain ⟨later, others⟩ := ih next
      simp only [handlerDeeds, signalsSet, acted, listed, moved, List.flatMap_append, first, later,
        List.mem_append]
      exact ⟨trivial, fun declared deed member =>
        member.elim (clean declared deed) (others declared deed)⟩

theorem directDeeds_signalSet (scene : Scene) (declared : String → Bool) (invocation : Invocation)
    (body : List DirectStatement) :
    (scene.directDeeds declared invocation body).flatMap Deed.signalSet =
        scene.signalsSetDirectly declared invocation body ∧
      ∀ deed ∈ scene.directDeeds declared invocation body, deed.Declared declared := by
  induction body generalizing scene with
  | nil => exact ⟨rfl, List.forall_mem_nil _⟩
  | cons statement rest ih =>
    have first : (scene.directStatementDeeds declared invocation statement).flatMap
          Deed.signalSet =
        statement.signalSet (scene.direct declared invocation statement).2 ∧
        ∀ deed ∈ scene.directStatementDeeds declared invocation statement,
          deed.Declared declared := by
      cases statement with
      | takeOver values =>
        refine ⟨rfl, fun deed member => ?_⟩
        rw [List.mem_singleton.mp member]
        exact Deed.declared_filter declared _
      | perform statement =>
        rcases acted : scene.act invocation statement with ⟨next, _ | reply⟩
        · simp only [directStatementDeeds, direct, acted, (act_panicked acted).1]
          exact ⟨rfl, List.forall_mem_nil _⟩
        · obtain ⟨deeds, listed, -⟩ := deeds?_of_act acted
          obtain ⟨same, clean⟩ := deeds?_signalSet acted listed
          simp only [directStatementDeeds, direct, acted, listed, Option.getD_some]
          exact ⟨same, clean declared⟩
    obtain ⟨later, others⟩ := ih (scene.direct declared invocation statement).1
    simp only [directDeeds, signalsSetDirectly, List.flatMap_append, first.1, ← direct_deeds, later,
      List.mem_append]
    exact ⟨trivial, fun deed member => member.elim (first.2 deed) (others deed)⟩

end Scene

theorem Connection.actionDeeds_signalSet (connection : Connection) (shared : Shared)
    (now : Instant) (action : String) (signals : KeyMap Json) (handler : Handler) :
    let begun := (connection.scene shared .action).takeOver connection.page.knowsSignal signals
    let deeds := connection.actionDeeds shared now action signals handler
    deeds.flatMap Deed.signalSet =
        begun.1.signalsSet (Page.invocation connection.page action now) handler ∧
      ∀ deed ∈ deeds, deed.Declared connection.page.knowsSignal := by
  intro begun deeds
  obtain ⟨same, clean⟩ :=
    begun.1.handlerDeeds_signalSet (Page.invocation connection.page action now) handler
  refine ⟨same, fun deed member => ?_⟩
  rcases List.mem_cons.mp member with rfl | later
  · exact Deed.declared_filter _ signals
  · exact clean _ deed later

/-! What the handlers of a step set is what its changes set. -/

namespace Change

/-- The signals that a change sets, each with the place of its tab. -/
def signalsSet : Change → List (Nat × String)
  | .work place _ deeds => (deeds.flatMap Deed.signalSet).map (place, ·)
  | _ => []

/-- Works only in a tab that is there, and takes over only what is declared in it. -/
def Declared (app : App) : Change → Prop
  | .work place _ deeds =>
    ∃ connection, app.connections[place]? = some connection ∧
      ∀ deed ∈ deeds, deed.Declared connection.page.knowsSignal
  | _ => True

theorem signalsSet_of_idle {change : Change} (idle : change.works = false) :
    change.signalsSet = [] := by
  cases change with
  | work place mode deeds => cases idle
  | _ => rfl

theorem Declared.later {before after : App} {change : Change} (declared : change.Declared before)
    (continues : before.Continues after) : change.Declared after := by
  cases change with
  | work place mode deeds =>
    obtain ⟨connection, here, taken⟩ := declared
    obtain ⟨later, there, continued⟩ := continues place connection here
    exact ⟨later, there, continued.page ▸ taken⟩
  | _ => trivial

theorem declared_of_idle {change : Change} (idle : change.works = false) (app : App) :
    change.Declared app := by
  cases change with
  | work place mode deeds => cases idle
  | _ => trivial

/-- Together the changes set just these signals, in tabs that are there, and take over only what is
declared in them. -/
structure Tallies (app : App) (changes : List Change) (set : List (Nat × String)) : Prop where
  set : changes.flatMap signalsSet = set
  declared : ∀ change ∈ changes, change.Declared app

theorem Tallies.idle {app : App} {changes : List Change}
    (idle : changes.all (!·.works) = true) : Tallies app changes [] := by
  have each : ∀ change ∈ changes, change.works = false := by
    simpa using idle
  exact ⟨List.flatMap_eq_nil_iff.mpr fun change member => signalsSet_of_idle (each change member),
    fun change member => declared_of_idle (each change member) app⟩

theorem Tallies.append {app : App} {first later : List Change} {set others : List (Nat × String)}
    (early : Tallies app first set) (late : Tallies app later others) :
    Tallies app (first ++ later) (set ++ others) := by
  refine ⟨?_, fun change member => ?_⟩
  · rw [List.flatMap_append, early.set, late.set]
  · exact (List.mem_append.mp member).elim (early.declared change) (late.declared change)

theorem Tallies.work {app : App} {place : Nat} {connection : Connection}
    (here : app.connections[place]? = some connection) (mode : Mode) {deeds : List Deed}
    (taken : ∀ deed ∈ deeds, deed.Declared connection.page.knowsSignal) :
    Tallies app [.work place mode deeds] ((deeds.flatMap Deed.signalSet).map (place, ·)) := by
  refine ⟨List.append_nil _, fun change member => ?_⟩
  rw [List.mem_singleton.mp member]
  exact ⟨connection, here, taken⟩

end Change

namespace App

theorem actionChanges_tally (app : App) (now : Instant) (id action : String)
    (signals : KeyMap Json) :
    Change.Tallies app (app.actionChanges now id action signals)
      (app.signalsSet now id action signals) := by
  simp only [actionChanges, signalsSet]
  cases placed : app.place? id with
  | none => exact .idle rfl
  | some place =>
    cases here : app.connections[place]? with
    | none =>
      have missing : (app.refresh now id).1.lookup id = none := by
        simp [refresh, lookup, placed, here]
      simp only [missing]
      exact .idle rfl
    | some connection =>
      simp only [lookup_refresh placed here now]
      refine Change.Tallies.append (.idle (app.refreshChanges_idle id)) ?_
      cases (connection.refresh now).page.handler? action with
      | none => exact .idle rfl
      | some handler =>
        have done := (connection.refresh now).actionDeeds_signalSet
          (app.refresh now id).1.shared now action signals handler
        dsimp only
        rw [← done.1]
        exact .work here .action done.2

end App

namespace Scenario

theorem changes_tally (scenario : Scenario) (now : Instant) (step : Step) :
    Change.Tallies scenario.app (scenario.changes now step) (scenario.signalsSetBy now step) := by
  rw [changes_meant, signalsSetBy]
  cases meant : step.meant? scenario.app with
  | none => exact .idle rfl
  | some direct =>
    rw [Option.map_some, Option.getD_some]
    cases direct with
    | request made => exact absurd rfl (Step.meant?_direct meant made)
    | runAction id action signals => exact scenario.app.actionChanges_tally now id action signals
    | runRequest action payload =>
      simp only [changes, App.requestChanges]
      cases ClientRequest.parse payload with
      | error refused => exact .idle rfl
      | ok request =>
        exact scenario.app.actionChanges_tally now request.connection action request.signals
    | direct target mode action body =>
      simp only [changes, directChanges]
      cases found : scenario.find? target with
      | none => exact .idle rfl
      | some there =>
        obtain ⟨place, connection⟩ := there
        have direct := (connection.scene scenario.app.shared mode).directDeeds_signalSet
          connection.page.knowsSignal (Page.invocation connection.page action now) body
        dsimp only
        rw [← direct.1]
        exact .work (found_of_find? found) mode direct.2
    | render route cookie => exact .idle (scenario.app.pageChanges_idle now route cookie)
    | resolve cookie => exact .idle (scenario.app.sessionChanges_idle now cookie)
    | refresh id => exact .idle (scenario.app.refreshChanges_idle id)
    | subscribe id =>
      rw [changes, App.subscribeChanges]
      cases scenario.app.place? id with
      | none => exact .idle rfl
      | some place =>
        exact Change.Tallies.append (.idle (scenario.app.refreshChanges_idle id)) (.idle rfl)
    | poll number limit =>
      rw [changes, pollChanges]
      cases scenario.listeners[number]? with
      | none => exact .idle rfl
      | some listener =>
        dsimp only
        split
        · exact .idle rfl
        · exact .idle (scenario.app.takeChanges_idle _ _)
    | subscribeTo target =>
      rw [changes]
      cases scenario.place? target <;> exact .idle rfl
    | pop target =>
      rw [changes]
      cases scenario.find? target <;> exact .idle rfl
    | drain target =>
      rw [changes]
      cases scenario.find? target <;> exact .idle rfl
    | runSweeper ttl =>
      rw [changes]
      split <;> exact .idle rfl
    | _ => exact .idle rfl

end Scenario
end LiveTabs
