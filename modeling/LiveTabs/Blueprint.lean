import LiveTabs.Catalog.Builder
/-!
Pages and components as they are written down: declarations in order, a mounted component with its
own declarations inside. Carrying one out runs every declaration, the refused ones included, and
gives the result of each. The handles that were obtained are entered by name in one table for each
kind, where a later entry of the same name takes the place of an earlier one.
-/
namespace LiveTabs

/-- A handle is entered under the name given, or under the key or id that it is for. -/
inductive Declaration (V H : Type) where
  | state (key : String) (type : StoreType) (initial : type.Carrier) (scope : Scope)
      (name : Option String)
  | signal (key : String) (type : StoreType) (initial : type.Carrier) (name : Option String)
  | action (id : String) (handler : H)
  | view (view : V)
  | mount (id : String) (route : Option String) (declarations : List (Declaration V H))
      (name : Option String)

/-- A page has a route, a component has none. -/
structure Blueprint (V H : Type) where
  id : String
  route : Option String
  declarations : List (Declaration V H)

structure Handles (V : Type) where
  states : KeyMap AnyState
  signals : KeyMap AnySignal
  components : KeyMap (Component V)

/-- What came of a declaration. -/
inductive Declared where
  | refused (error : BuildError)
  | state (key : String) (scope : Scope) (initial : Json)
  | signal (key : String) (initial : Json)
  | action (id : String)
  | view
  | mount (declared : List Declared) (mounted : Except BuildError String)

namespace Handles
variable {V : Type}

def empty : Handles V := ⟨KeyMap.empty, KeyMap.empty, KeyMap.empty⟩

def addState (handles : Handles V) (name : String) (state : AnyState) : Handles V :=
  { handles with states := handles.states.insert name state }

def addSignal (handles : Handles V) (name : String) (signal : AnySignal) : Handles V :=
  { handles with signals := handles.signals.insert name signal }

def addComponent (handles : Handles V) (name : String) (component : Component V) : Handles V :=
  { handles with components := handles.components.insert name component }

end Handles

/-- Declarations under way. -/
structure Drafting (V H : Type) where
  builder : Builder V H
  handles : Handles V

namespace Drafting
variable {V H : Type}

def declareState (draft : Drafting V H) (key : String) (type : StoreType)
    (initial : type.Carrier) (scope : Scope) (name : Option String) :
    Drafting V H × Declared :=
  match draft.builder.state key type initial scope with
  | (builder, .error error) => ({ draft with builder }, .refused error)
  | (builder, .ok handle) =>
    (⟨builder, draft.handles.addState (name.getD key) ⟨type, handle⟩⟩,
      .state key scope (type.presented initial))

def declareSignal (draft : Drafting V H) (key : String) (type : StoreType)
    (initial : type.Carrier) (name : Option String) : Drafting V H × Declared :=
  match draft.builder.signal key type initial with
  | (builder, .error error) => ({ draft with builder }, .refused error)
  | (builder, .ok handle) =>
    (⟨builder, draft.handles.addSignal (name.getD key) ⟨type, handle⟩⟩,
      .signal key (type.presented initial))

def declareAction (draft : Drafting V H) (id : String) (handler : H) :
    Drafting V H × Declared :=
  match draft.builder.action id handler with
  | (builder, .error error) => ({ draft with builder }, .refused error)
  | (builder, .ok ()) => ({ draft with builder }, .action id)

def declareView (draft : Drafting V H) (view : V) : Drafting V H × Declared :=
  match draft.builder.setView view with
  | (builder, .error error) => ({ draft with builder }, .refused error)
  | (builder, .ok ()) => ({ draft with builder }, .view)

/-- The handles of a child are kept even where the child is not mounted. -/
def mountChild (draft : Drafting V H) (child : Drafting V H) (name : Option String) :
    Drafting V H × Except BuildError String :=
  match child.builder.build with
  | .error error => ({ draft with handles := child.handles }, .error error)
  | .ok built =>
    match draft.builder.mount built with
    | (builder, .error error) => (⟨builder, child.handles⟩, .error error)
    | (builder, .ok component) =>
      (⟨builder, child.handles.addComponent (name.getD component.id) component⟩,
        .ok component.id)

mutual

def declare (draft : Drafting V H) : Declaration V H → Drafting V H × Declared
  | .state key type initial scope name => draft.declareState key type initial scope name
  | .signal key type initial name => draft.declareSignal key type initial name
  | .action id handler => draft.declareAction id handler
  | .view view => draft.declareView view
  | .mount id route declarations name =>
    let child := declareAll ⟨Builder.new id route, draft.handles⟩ declarations
    let mounted := draft.mountChild child.1 name
    (mounted.1, .mount child.2 mounted.2)

def declareAll (draft : Drafting V H) : List (Declaration V H) → Drafting V H × List Declared
  | [] => (draft, [])
  | declaration :: rest =>
    let first := declare draft declaration
    let others := declareAll first.1 rest
    (others.1, first.2 :: others.2)

end

end Drafting

variable {V H : Type}

structure Built (V H : Type) where
  declared : List Declared
  handles : Handles V
  builder : Builder V H

def Built.outcome (built : Built V H) : Except BuildError (Catalog V H) := built.builder.build

/-- Carries out a blueprint with the handles obtained before. -/
def Blueprint.build (handles : Handles V) (blueprint : Blueprint V H) : Built V H :=
  let drafted := Drafting.declareAll ⟨Builder.new blueprint.id blueprint.route, handles⟩
    blueprint.declarations
  ⟨drafted.2, drafted.1.handles, drafted.1.builder⟩

mutual

/-- Every action id that is written down, at any depth. -/
def Declaration.actionIds : Declaration V H → List String
  | .action id _ => [id]
  | .mount _ _ declarations _ => Declaration.allActionIds declarations
  | _ => []

def Declaration.allActionIds : List (Declaration V H) → List String
  | [] => []
  | declaration :: rest => declaration.actionIds ++ Declaration.allActionIds rest

end

/-- The action ids of a blueprint in increasing order, each once. -/
def Blueprint.actionIds (blueprint : Blueprint V H) : List String :=
  (KeyMap.ofList ((Declaration.allActionIds blueprint.declarations).map (·, ()))).keys

def Declared.error? : Declared → Option BuildError
  | .refused error => some error
  | _ => none

/-- The errors of a blueprint's own declarations, and then the one of building it. What came of a
mount stands with the results of the component, and is not repeated here. -/
def Built.errors (built : Built V H) : List BuildError :=
  built.declared.filterMap Declared.error? ++
    match built.outcome with
    | .error error => [error]
    | .ok _ => []

end LiveTabs
