import LiveTabs.Catalog
import LiveTabs.Handle
import LiveTabs.StoreType.Codec
/-!
Building a catalog by declarations. Each gives the builder that it leaves, also where it is refused.
States, signals and components may be declared until the view is set, actions at any time.
-/
namespace LiveTabs

inductive DeclarationKind where
  | component
  | state
  | signal
  | action
  deriving DecidableEq

def DeclarationKind.name : DeclarationKind → String
  | .component => "component"
  | .state => "state"
  | .signal => "signal"
  | .action => "action"

inductive BuildError where
  | finalized (composition key : String)
  | viewAlreadySet (composition : String)
  | missingView (composition : String)
  | duplicate (kind : DeclarationKind) (key composition : String)
  | unencodable (key : String) (cause : EncodeError)
  | duplicateRoute (route : String)
  | invalidRoute (route : String)
  | missingRoute (composition : String)
  deriving DecidableEq

def BuildError.message : BuildError → String
  | .finalized composition key =>
    "composition '" ++ composition ++ "' is finalized: cannot declare '" ++ key ++
      "' after the view"
  | .viewAlreadySet composition => "composition '" ++ composition ++ "' already has a view function"
  | .missingView composition => "composition '" ++ composition ++ "' has no view function"
  | .duplicate kind key composition =>
    "duplicate " ++ kind.name ++ " '" ++ key ++ "' in composition '" ++ composition ++ "'"
  | .unencodable key cause =>
    "initial value for '" ++ key ++ "' could not be encoded: " ++ cause.message
  | .duplicateRoute route => "route '" ++ route ++ "' is registered more than once"
  | .invalidRoute route => "route '" ++ route ++ "' is not a valid page route"
  | .missingRoute composition => "composition '" ++ composition ++ "' has no route"

/-- A catalog under construction. Setting the view closes it. -/
structure Builder (V H : Type) where
  id : String
  route : Option String
  view : Option V
  states : List DeclaredState
  signals : List DeclaredSignal
  actions : KeyMap H
  owners : KeyMap (Component V)
  components : List String

namespace Builder
variable {V H : Type}

def new (id : String) (route : Option String) : Builder V H :=
  ⟨id, route, none, [], [], KeyMap.empty, KeyMap.empty, []⟩

def refuseClosed (builder : Builder V H) (key : String) : Except BuildError Unit :=
  if builder.view.isSome then .error (.finalized builder.id key) else .ok ()

def hasState (builder : Builder V H) (key : String) : Bool :=
  builder.states.any fun state => state.key == key

def hasSignal (builder : Builder V H) (key : String) : Bool :=
  builder.signals.any fun signal => signal.key == key

/-- An id already taken by the builder itself or by a component below it. -/
def hasComponent (builder : Builder V H) (id : String) : Bool :=
  id == builder.id || builder.components.contains id

def refuseDuplicate (builder : Builder V H) (kind : DeclarationKind) (key : String)
    (taken : Bool) : Except BuildError Unit :=
  if taken then .error (.duplicate kind key builder.id) else .ok ()

def encodeInitial (key : String) (type : StoreType) (initial : type.Carrier) :
    Except BuildError Json :=
  (type.encode initial).mapError (.unencodable key)

/-- The initial value of a state or signal as it is written. It is refused where the view is set,
where the key is taken, and where there is no way to write it. -/
def writeInitial (builder : Builder V H) (kind : DeclarationKind) (key : String) (taken : Bool)
    (type : StoreType) (initial : type.Carrier) : Except BuildError Json := do
  builder.refuseClosed key
  builder.refuseDuplicate kind key taken
  encodeInitial key type initial

def state (builder : Builder V H) (key : String) (type : StoreType) (initial : type.Carrier)
    (scope : Scope) : Builder V H × Except BuildError (State type) :=
  match builder.writeInitial .state key (builder.hasState key) type initial with
  | .error error => (builder, .error error)
  | .ok written =>
    ({ builder with states := builder.states ++ [⟨key, written, scope, none⟩] },
      .ok ⟨key, scope, initial⟩)

def signal (builder : Builder V H) (key : String) (type : StoreType) (initial : type.Carrier) :
    Builder V H × Except BuildError (Signal type) :=
  match builder.writeInitial .signal key (builder.hasSignal key) type initial with
  | .error error => (builder, .error error)
  | .ok written =>
    ({ builder with signals := builder.signals ++ [⟨key, written, none⟩] }, .ok ⟨key, initial⟩)

def action (builder : Builder V H) (id : String) (handler : H) :
    Builder V H × Except BuildError Unit :=
  match builder.refuseDuplicate .action id (builder.actions.contains id) with
  | .error error => (builder, .error error)
  | .ok () => ({ builder with actions := builder.actions.insert id handler }, .ok ())

def setView (builder : Builder V H) (view : V) : Builder V H × Except BuildError Unit :=
  if builder.view.isSome then (builder, .error (.viewAlreadySet builder.id))
  else ({ builder with view := some view }, .ok ())

def build (builder : Builder V H) : Except BuildError (Catalog V H) :=
  match builder.view with
  | none => .error (.missingView builder.id)
  | some view => .ok {
      id := builder.id
      route := builder.route
      view := view
      states := builder.states
      signals := builder.signals
      actions := builder.actions
      owners := builder.owners
      components := builder.components
      signalKeys := DeclaredSignal.keySet builder.signals }

/-- A built catalog has just the keys of its signals in its set. -/
theorem build_indexed {builder : Builder V H} {page : Catalog V H}
    (built : builder.build = .ok page) : page.Indexed := by
  unfold build at built
  split at built
  · nomatch built
  · rw [← Except.ok.inj built]
    rfl

/-- The first id in a list that is taken. -/
def refuseTaken (builder : Builder V H) (kind : DeclarationKind) (taken : String → Bool)
    (keys : List String) : Except BuildError Unit :=
  match keys.find? taken with
  | some key => .error (.duplicate kind key builder.id)
  | none => .ok ()

/-- Nothing is merged unless everything can be: ids of components are compared first, then states,
signals and actions. -/
def mountable (builder : Builder V H) (child : Catalog V H) : Except BuildError Unit := do
  builder.refuseClosed child.id
  builder.refuseTaken .component builder.hasComponent (child.id :: child.components)
  builder.refuseTaken .state builder.hasState (child.states.map DeclaredState.key)
  builder.refuseTaken .signal builder.hasSignal (child.signals.map DeclaredSignal.key)
  builder.refuseTaken .action builder.actions.contains child.actions.keys

/-- What a component declared itself becomes its own when it is mounted; what the components below
it declared stays theirs. -/
def absorb (builder : Builder V H) (child : Catalog V H) : Builder V H :=
  { builder with
    states := builder.states ++ child.states.map fun state =>
      { state with owner := state.owner.or (some child.id) }
    signals := builder.signals ++ child.signals.map fun signal =>
      { signal with owner := signal.owner.or (some child.id) }
    actions := builder.actions.insertAll child.actions.entries
    owners := builder.owners.insertAll child.ownersMounted.entries
    components := builder.components ++ child.id :: child.components }

def mount (builder : Builder V H) (child : Catalog V H) :
    Builder V H × Except BuildError (Component V) :=
  match builder.mountable child with
  | .error error => (builder, .error error)
  | .ok () => (builder.absorb child, .ok child.root)

end Builder
end LiveTabs
