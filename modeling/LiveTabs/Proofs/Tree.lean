import LiveTabs.Blueprint
/-!
A tree of compositions read directly. Its nodes are the root and the components mounted anywhere
below it, each with the declarations that are its own.
-/
namespace LiveTabs
variable {V H : Type}

/-- The root has no owner's id; a component owns what it declares itself. -/
structure Node (V H : Type) where
  owner : Option String
  declarations : List (Declaration V H)

def Declaration.view? : Declaration V H → Option V
  | .view shown => some shown
  | _ => none

def ownView (declarations : List (Declaration V H)) : Option V :=
  declarations.findSome? Declaration.view?

mutual

/-- The components mounted by a declaration, each before those mounted in it. -/
@[simp] def Declaration.nodes : Declaration V H → List (Node V H)
  | .mount id _ declarations _ => ⟨some id, declarations⟩ :: Declaration.allNodes declarations
  | _ => []

@[simp] def Declaration.allNodes : List (Declaration V H) → List (Node V H)
  | [] => []
  | declaration :: rest => declaration.nodes ++ Declaration.allNodes rest

end

def nodesOf (owner : Option String) (declarations : List (Declaration V H)) : List (Node V H) :=
  ⟨owner, declarations⟩ :: Declaration.allNodes declarations

def Blueprint.nodes (blueprint : Blueprint V H) : List (Node V H) :=
  nodesOf none blueprint.declarations

namespace Node

/-- A component as its own declarations have it; none for the root. -/
def component? (node : Node V H) : Option (Component V) :=
  node.owner.bind fun id => (ownView node.declarations).map fun view => ⟨id, view⟩

def DeclaresState (node : Node V H) (key : String) : Prop :=
  ∃ type initial scope name, Declaration.state key type initial scope name ∈ node.declarations

def DeclaresSignal (node : Node V H) (key : String) : Prop :=
  ∃ type initial name, Declaration.signal key type initial name ∈ node.declarations

def DeclaresAction (node : Node V H) (id : String) : Prop :=
  ∃ handler, Declaration.action id handler ∈ node.declarations

end Node

namespace Declaration
variable {X : Type}

mutual

/-- What the declarations of a tree contribute, a component's where it is mounted. -/
@[simp] def collect (own : Option String → Declaration V H → List X) (owner : Option String) :
    Declaration V H → List X
  | .mount id _ declarations _ => collectAll own (some id) declarations
  | declaration => own owner declaration

@[simp] def collectAll (own : Option String → Declaration V H → List X) (owner : Option String) :
    List (Declaration V H) → List X
  | [] => []
  | declaration :: rest => declaration.collect own owner ++ collectAll own owner rest

end

def ownStates (owner : Option String) : Declaration V H → List DeclaredState
  | .state key type initial scope _ => [⟨key, type.presented initial, scope, owner⟩]
  | _ => []

def ownSignals (owner : Option String) : Declaration V H → List DeclaredSignal
  | .signal key type initial _ => [⟨key, type.presented initial, owner⟩]
  | _ => []

mutual

theorem collect_map (own : Option String → Declaration V H → List X) (change : X → X)
    (id : String)
    (changed : ∀ owner declaration,
      (own owner declaration).map change = own (owner.or (some id)) declaration)
    (owner : Option String) :
    (declaration : Declaration V H) →
    (declaration.collect own owner).map change =
      declaration.collect own (owner.or (some id))
  | .mount inner _ declarations _ => by
      simpa [collect] using collectAll_map own change id changed (some inner) declarations
  | .state .. => changed owner _
  | .signal .. => changed owner _
  | .action .. => changed owner _
  | .view .. => changed owner _

/-- What already has an owner keeps it when an owner is put where there is none. -/
theorem collectAll_map (own : Option String → Declaration V H → List X) (change : X → X)
    (id : String)
    (changed : ∀ owner declaration,
      (own owner declaration).map change = own (owner.or (some id)) declaration)
    (owner : Option String) :
    (declarations : List (Declaration V H)) →
    (collectAll own owner declarations).map change =
      collectAll own (owner.or (some id)) declarations
  | [] => rfl
  | declaration :: rest => by
      rw [collectAll, collectAll, List.map_append,
        collect_map own change id changed owner declaration,
        collectAll_map own change id changed owner rest]

end

/-- Something contributed by a node's own declaration, at the node's owner. -/
def Contributed (own : Option String → Declaration V H → List X) (nodes : List (Node V H))
    (x : X) : Prop :=
  ∃ node ∈ nodes, ∃ inner ∈ node.declarations, x ∈ own node.owner inner

theorem contributed_cons (own : Option String → Declaration V H → List X) (node : Node V H)
    (rest : List (Node V H)) (x : X) :
    Contributed own (node :: rest) x ↔
      (∃ inner ∈ node.declarations, x ∈ own node.owner inner) ∨ Contributed own rest x := by
  simp [Contributed]

theorem contributed_append (own : Option String → Declaration V H → List X)
    (left right : List (Node V H)) (x : X) :
    Contributed own (left ++ right) x ↔ Contributed own left x ∨ Contributed own right x := by
  simp [Contributed, or_and_right, exists_or]

mutual

theorem mem_collect_iff (own : Option String → Declaration V H → List X)
    (flat : ∀ owner id route inside name, own owner (.mount id route inside name) = [])
    (owner : Option String) (x : X) :
    (declaration : Declaration V H) →
    (x ∈ declaration.collect own owner ↔
      x ∈ own owner declaration ∨ Contributed own declaration.nodes x)
  | .mount id route declarations name => by
      rw [collect, mem_collectAll_iff own flat (some id) x declarations, flat]
      simp [nodes, nodesOf]
  | .state .. => by simp [collect, nodes, Contributed]
  | .signal .. => by simp [collect, nodes, Contributed]
  | .action .. => by simp [collect, nodes, Contributed]
  | .view .. => by simp [collect, nodes, Contributed]

theorem mem_collectAll_iff (own : Option String → Declaration V H → List X)
    (flat : ∀ owner id route inside name, own owner (.mount id route inside name) = [])
    (owner : Option String) (x : X) :
    (declarations : List (Declaration V H)) →
    (x ∈ collectAll own owner declarations ↔ Contributed own (nodesOf owner declarations) x)
  | [] => by simp [collectAll, Contributed, nodesOf, allNodes]
  | declaration :: rest => by
      rw [collectAll, List.mem_append, mem_collect_iff own flat owner x declaration,
        mem_collectAll_iff own flat owner x rest, nodesOf, nodesOf, contributed_cons,
        contributed_cons, allNodes, contributed_append]
      simp only [List.mem_cons, exists_eq_or_imp]
      exact or_or_or_comm

end

end Declaration

mutual

theorem Declaration.owner_isSome_of_mem_nodes (node : Node V H) :
    (declaration : Declaration V H) → node ∈ declaration.nodes → node.owner.isSome = true
  | .mount id _ declarations _, member => by
      rcases List.mem_cons.mp member with same | below
      · rw [same]
        rfl
      · exact Declaration.owner_isSome_of_mem_allNodes node declarations below
  | .state .., member => nomatch member
  | .signal .., member => nomatch member
  | .action .., member => nomatch member
  | .view .., member => nomatch member

theorem Declaration.owner_isSome_of_mem_allNodes (node : Node V H) :
    (declarations : List (Declaration V H)) → node ∈ Declaration.allNodes declarations →
    node.owner.isSome = true
  | [], member => nomatch member
  | declaration :: rest, member => by
      rw [Declaration.allNodes] at member
      rcases List.mem_append.mp member with head | tail
      · exact Declaration.owner_isSome_of_mem_nodes node declaration head
      · exact Declaration.owner_isSome_of_mem_allNodes node rest tail

end

theorem component?_isSome (declarations : List (Declaration V H)) (node : Node V H)
    (member : node ∈ Declaration.allNodes declarations)
    (viewed : (ownView node.declarations).isSome = true) : node.component?.isSome = true := by
  have owned := Declaration.owner_isSome_of_mem_allNodes node declarations member
  obtain ⟨id, owner⟩ := Option.isSome_iff_exists.mp owned
  simpa [Node.component?, owner] using viewed

end LiveTabs
