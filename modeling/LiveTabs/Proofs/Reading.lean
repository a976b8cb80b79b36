import LiveTabs.Handler
/-!
What a view and a handler read of a scene: whose tab it is, its signals and the values that are
stored. Scenes with the same of these give the same markup and the same values of expressions.
-/
namespace LiveTabs.Scene

/-- No view and no expression tells the two apart. -/
structure Alike (scene other : Scene) : Prop where
  connection : scene.connection = other.connection
  session : scene.session = other.session
  signals : scene.tab.signals = other.tab.signals
  stored : scene.stored? = other.stored?

theorem presentState_alike {scene other : Scene} (alike : scene.Alike other) (handle : AnyState) :
    scene.presentState handle = other.presentState handle := by
  simp only [presentState, stateValue, alike.stored]

theorem presentSignal_alike {scene other : Scene} (alike : scene.Alike other)
    (handle : AnySignal) : scene.presentSignal handle = other.presentSignal handle := by
  simp only [presentSignal, signalValue, alike.signals]

mutual

theorem eval_alike {scene other : Scene} (alike : scene.Alike other) (expr : Expr) :
    scene.eval expr = other.eval expr := by
  cases expr with
  | literal value => rfl
  | state handle => exact presentState_alike alike handle
  | signal handle => exact presentSignal_alike alike handle
  | add terms =>
    exact congrArg (fun values => Json.int (wrapInt64 (values.map addend).sum))
      (evalAll_alike alike terms)
  | concat parts =>
    exact congrArg (fun values => Json.str (String.join (values.map Json.shown)))
      (evalAll_alike alike parts)

theorem evalAll_alike {scene other : Scene} (alike : scene.Alike other) (exprs : List Expr) :
    scene.evalAll exprs = other.evalAll exprs := by
  cases exprs with
  | nil => rfl
  | cons expr rest =>
    have first := eval_alike alike expr
    have others := evalAll_alike alike rest
    exact List.cons_eq_cons.mpr ⟨first, others⟩

end

mutual

theorem renderPart_alike {scene other : Scene} (alike : scene.Alike other) (part : Part) :
    scene.renderPart part = other.renderPart part := by
  cases part with
  | raw bytes => rw [renderPart, renderPart]
  | state handle => rw [renderPart, renderPart, presentState_alike alike]
  | signal handle => rw [renderPart, renderPart, presentSignal_alike alike]
  | component id parts => rw [renderPart, renderPart, renderParts_alike alike parts]
  | panicIf handle text => rw [renderPart, renderPart, presentState_alike alike]
  | panic => rw [renderPart, renderPart]
  | signalsJson => rw [renderPart, renderPart, signalsJson, signalsJson, alike.signals]
  | connectionId => rw [renderPart, renderPart, alike.connection]
  | sessionId => rw [renderPart, renderPart, alike.session]

theorem renderParts_alike {scene other : Scene} (alike : scene.Alike other) (parts : List Part) :
    scene.renderParts parts = other.renderParts parts := by
  cases parts with
  | nil => rw [renderParts, renderParts]
  | cons part rest =>
    rw [renderParts, renderParts, renderPart_alike alike part, renderParts_alike alike rest]

end

theorem render_alike {scene other : Scene} (alike : scene.Alike other)
    (target : Component View) : scene.render target = other.render target := by
  rw [render, render, renderParts_alike alike]

end LiveTabs.Scene
