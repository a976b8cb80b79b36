import LiveTabs.Markup
import LiveTabs.Scene
/-!
Views as sequences of parts, rendered to bytes that need not be text. A view may panic; it then
renders nothing at all.
-/
namespace LiveTabs

/-- An embedded component renders its own parts under a root element with its id. -/
inductive Part where
  | raw (bytes : Bytes)
  | state (handle : AnyState)
  | signal (handle : AnySignal)
  | component (id : String) (parts : List Part)
  | panicIf (handle : AnyState) (text : String)
  | panic
  | signalsJson
  | connectionId
  | sessionId

abbrev View := List Part

namespace Scene

def presentState (scene : Scene) (handle : AnyState) : Json :=
  handle.1.presented (scene.stateValue handle.2)

def presentSignal (scene : Scene) (handle : AnySignal) : Json :=
  handle.1.presented (scene.signalValue handle.2)

/-- All signals of the tab in one object, as they are stored. -/
def signalsJson (scene : Scene) : Json := .ofMembers scene.tab.signals

mutual

/-- None is a panic. -/
def renderPart (scene : Scene) : Part → Option Bytes
  | .raw bytes => some bytes
  | .state handle => some (Text.Utf8.encode (scene.presentState handle).shown)
  | .signal handle => some (Text.Utf8.encode (scene.presentSignal handle).shown)
  | .component id parts =>
    (renderParts scene parts).map fun body => Text.Utf8.encode (Markup.rootElement id body)
  | .panicIf handle text => if (scene.presentState handle).text = text then none else some []
  | .panic => none
  | .signalsJson => some (Text.Utf8.encode scene.signalsJson.text)
  | .connectionId => some (Text.Utf8.encode scene.connection)
  | .sessionId => some (Text.Utf8.encode (scene.session.getD "-"))

def renderParts (scene : Scene) : List Part → Option Bytes
  | [] => some []
  | part :: rest =>
    (renderPart scene part).bind fun first =>
      (renderParts scene rest).map fun others => first ++ others

end

/-- The markup of a page or component under its root element. -/
def render (scene : Scene) (component : Component View) : Option String :=
  (scene.renderParts component.view).map (Markup.rootElement component.id)

end Scene
end LiveTabs
