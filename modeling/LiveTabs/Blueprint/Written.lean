import LiveTabs.App
import LiveTabs.Blueprint
/-!
Views and handlers as they are written down: with names in place of handles. Names are looked up
when everything has been declared, so a view may name what is declared after it. A name that stands
for nothing shows nothing and cannot be written to.
-/
namespace LiveTabs.Written

inductive Part where
  | raw (bytes : Bytes)
  | state (name : String)
  | signal (name : String)
  | component (name : String)
  | panicIf (name text : String)
  | signalsJson
  | connectionId
  | sessionId

inductive Expr where
  | literal (value : Json)
  | state (name : String)
  | signal (name : String)
  | add (terms : List Expr)
  | concat (parts : List Expr)

inductive Statement where
  | set (name : String) (value : Expr)
  | setSignal (name : String) (value : Expr)
  | sync
  | syncSignals
  | fragment (value : Expr)
  | fragmentBytes (body : Bytes)
  | script (value : Expr)
  | refuseSession
  | log (value : Expr)
  | identify
  | panic

abbrev View := List Part

abbrev Handler := List Statement

/-- A part other than a component stands for itself, with its handles. -/
def linkPart (handles : Handles View) (component : String → List LiveTabs.Part) :
    Part → List LiveTabs.Part
  | .raw bytes => [.raw bytes]
  | .state name => ((handles.states.get? name).map .state).toList
  | .signal name => ((handles.signals.get? name).map .signal).toList
  | .component name => component name
  | .panicIf name text => ((handles.states.get? name).map (.panicIf · text)).toList
  | .signalsJson => [.signalsJson]
  | .connectionId => [.connectionId]
  | .sessionId => [.sessionId]

/-- Embeds each component with its own view, in which it can no longer be embedded itself: a
component inside itself would never be rendered to an end, and panics. -/
def linkView (handles : Handles View) :
    Nat → KeyMap (Component View) → View → LiveTabs.View
  | 0, _, view =>
    view.flatMap (linkPart handles fun name =>
      if handles.components.contains name then [.panic] else [])
  | depth + 1, usable, view =>
    view.flatMap (linkPart handles fun name =>
      match usable.get? name with
      | some component =>
        [.component component.id (linkView handles depth (usable.erase name) component.view)]
      | none => if handles.components.contains name then [.panic] else [])

def View.link (handles : Handles View) (view : View) : LiveTabs.View :=
  linkView handles handles.components.size handles.components view

mutual

def Expr.link (handles : Handles View) : Expr → LiveTabs.Expr
  | .literal value => .literal value
  | .state name => ((handles.states.get? name).map .state).getD (.literal .null)
  | .signal name => ((handles.signals.get? name).map .signal).getD (.literal .null)
  | .add terms => .add (Expr.linkAll handles terms)
  | .concat parts => .concat (Expr.linkAll handles parts)

def Expr.linkAll (handles : Handles View) : List Expr → List LiveTabs.Expr
  | [] => []
  | expr :: rest => expr.link handles :: Expr.linkAll handles rest

end

def Statement.link (handles : Handles View) : Statement → LiveTabs.Statement
  | .set name value => .set (handles.states.get? name) (value.link handles)
  | .setSignal name value => .setSignal (handles.signals.get? name) (value.link handles)
  | .sync => .sync
  | .syncSignals => .syncSignals
  | .fragment value => .fragment (value.link handles)
  | .fragmentBytes body => .fragmentBytes body
  | .script value => .script (value.link handles)
  | .refuseSession => .refuseSession
  | .log value => .log (value.link handles)
  | .identify => .identify
  | .panic => .panic

/-- A built composition with names replaced by handles. -/
def linkPage (handles : Handles View) (page : Catalog View Handler) (indexed : page.Indexed) :
    Page :=
  ⟨page.map (View.link handles) fun handler => handler.map (Statement.link handles),
    indexed.map _ _⟩

/-- What was built of a blueprint, as a page to be opened. -/
def linkBuilt? (handles : Handles View) (built : Built View Handler) : Option Page :=
  match made : built.outcome with
  | .error _ => none
  | .ok page => some (linkPage handles page (Builder.build_indexed made))

/-- Builds pages in order, with one table of handles for all of them. -/
def buildAll (handles : Handles View) :
    List (Blueprint View Handler) → List (Built View Handler) × Handles View
  | [] => ([], handles)
  | blueprint :: rest =>
    let built := blueprint.build handles
    let others := buildAll built.handles rest
    (built :: others.1, others.2)

end LiveTabs.Written
