import LiveTabs.Catalog
/-!
What belongs to one tab: its values, its signals, and which of these were written since the client
was last told.
-/
namespace LiveTabs

/-- What a tab is busy with. Only an action may write. -/
inductive Mode where
  | idle
  | view
  | action
  deriving DecidableEq

structure Tab where
  values : KeyMap Json
  signals : KeyMap Json
  changed : KeySet
  mode : Mode

namespace Tab

/-- A new tab has the initial values of its page's connection states and of its signals. -/
def fresh {V H : Type} (page : Catalog V H) : Tab where
  values := KeyMap.ofList <|
    (page.states.filter fun state => state.scope == .connection).map
      fun state => (state.key, state.initial)
  signals := KeyMap.ofList <| page.signals.map fun signal => (signal.key, signal.initial)
  changed := KeyMap.empty
  mode := .idle

end Tab
end LiveTabs
