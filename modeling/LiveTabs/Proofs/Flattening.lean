import LiveTabs.Proofs.Building
import LiveTabs.Proofs.KeyMap
import LiveTabs.Proofs.Tree
/-!
The catalog that building a tree of compositions gives. It has to say of every declaration which
node of the tree it stands in, although a component is built before anyone knows where it is
mounted.
-/
namespace LiveTabs
variable {V H : Type}

mutual

/-- Nothing was refused, and what was to be mounted was built and mounted. -/
def Declared.accepted : Declared → Bool
  | .refused _ => false
  | .mount declared mounted => Declared.allAccepted declared && mounted.isOk
  | _ => true

def Declared.allAccepted : List Declared → Bool
  | [] => true
  | declared :: rest => declared.accepted && Declared.allAccepted rest

end

structure OwnedAction (V H : Type) where
  handler : H
  owner : Option (Component V)

/-- What stands under an action's id in the two maps. -/
def ownedAction? (actions : KeyMap H) (owners : KeyMap (Component V)) (id : String) :
    Option (OwnedAction V H) :=
  (actions.get? id).map fun handler => ⟨handler, owners.get? id⟩

theorem ownedAction?_eq_some_iff {actions : KeyMap H} {owners : KeyMap (Component V)} {id : String}
    {entry : OwnedAction V H} :
    ownedAction? actions owners id = some entry ↔
      actions.get? id = some entry.handler ∧ owners.get? id = entry.owner := by
  obtain ⟨handler, owner⟩ := entry
  cases found : actions.get? id <;> simp [ownedAction?, found]

/-- An action as a node declares it, with that node as its owner. -/
def Carried (nodes : List (Node V H)) (id : String) (entry : OwnedAction V H) : Prop :=
  ∃ node ∈ nodes,
    Declaration.action id entry.handler ∈ node.declarations ∧ entry.owner = node.component?

/-- What a builder has more than before, after declarations that were all accepted. -/
structure Gained (before after : Builder V H) (declarations : List (Declaration V H)) : Prop where
  id : after.id = before.id
  route : after.route = before.route
  view : after.view = before.view.or (ownView declarations)
  states : after.states =
    before.states ++ Declaration.collectAll Declaration.ownStates none declarations
  signals : after.signals =
    before.signals ++ Declaration.collectAll Declaration.ownSignals none declarations
  actions : OwnersKnown before.actions before.owners → ∀ id entry,
    ownedAction? after.actions after.owners id = some entry ↔
      ownedAction? before.actions before.owners id = some entry ∨
        Carried (nodesOf none declarations) id entry
  ownersKnown : OwnersKnown before.actions before.owners → OwnersKnown after.actions after.owners
  components : after.components =
    before.components ++ (Declaration.allNodes declarations).filterMap Node.owner
  viewed : ∀ node ∈ Declaration.allNodes declarations,
    (ownView node.declarations).isSome = true
  stateKeys : (before.states.map DeclaredState.key).Nodup →
    (after.states.map DeclaredState.key).Nodup
  signalKeys : (before.signals.map DeclaredSignal.key).Nodup →
    (after.signals.map DeclaredSignal.key).Nodup

theorem nodup_append_key {X : Type} (key : X → String) (old : List X) (new : X)
    (fresh : (old.any fun x => key x == key new) = false) (unique : (old.map key).Nodup) :
    ((old ++ [new]).map key).Nodup := by
  have apart : ∀ x ∈ old, key x ≠ key new := by simpa using fresh
  rw [List.map_append, List.nodup_append]
  refine ⟨unique, by simp, ?_⟩
  intro left member right single
  obtain ⟨x, inside, rfl⟩ := List.mem_map.mp member
  rw [List.mem_singleton.mp single]
  exact apart x inside

theorem carried_root (declarations : List (Declaration V H)) (id : String)
    (entry : OwnedAction V H) :
    Carried (nodesOf none declarations) id entry ↔
      (Declaration.action id entry.handler ∈ declarations ∧ entry.owner = none) ∨
        Carried (Declaration.allNodes declarations) id entry := by
  simp [Carried, nodesOf, Node.component?]

theorem carried_append (left right : List (Node V H)) (id : String)
    (entry : OwnedAction V H) :
    Carried (left ++ right) id entry ↔ Carried left id entry ∨ Carried right id entry := by
  simp [Carried, or_and_right, exists_or]

theorem carried_cons (declaration : Declaration V H) (rest : List (Declaration V H))
    (id : String) (entry : OwnedAction V H) :
    Carried (nodesOf none (declaration :: rest)) id entry ↔
      Carried (nodesOf none [declaration]) id entry ∨ Carried (nodesOf none rest) id entry := by
  rw [carried_root, carried_root, carried_root, Declaration.allNodes, Declaration.allNodes,
    Declaration.allNodes, List.append_nil, carried_append]
  simp only [List.mem_cons, List.not_mem_nil, or_false, or_and_right]
  exact or_or_or_comm

theorem gained_nil (builder : Builder V H) : Gained builder builder [] where
  id := rfl
  route := rfl
  view := by simp [ownView]
  states := by simp
  signals := by simp
  actions := by simp [Carried, nodesOf]
  ownersKnown := fun known => known
  components := by simp
  viewed := by simp
  stateKeys := fun unique => unique
  signalKeys := fun unique => unique

theorem ownView_cons (declaration : Declaration V H) (rest : List (Declaration V H)) :
    ownView (declaration :: rest) = (ownView [declaration]).or (ownView rest) := by
  cases found : declaration.view? <;> simp [ownView, found]

theorem gained_cons (before middle after : Builder V H) (declaration : Declaration V H)
    (rest : List (Declaration V H)) (first : Gained before middle [declaration])
    (later : Gained middle after rest) : Gained before after (declaration :: rest) where
  id := later.id.trans first.id
  route := later.route.trans first.route
  view := by rw [later.view, first.view, ownView_cons declaration rest, Option.or_assoc]
  states := by
    rw [later.states, first.states]
    simp
  signals := by
    rw [later.signals, first.signals]
    simp
  actions := by
    intro known id entry
    rw [later.actions (first.ownersKnown known), first.actions known,
      carried_cons declaration rest, or_assoc]
  ownersKnown := fun known => later.ownersKnown (first.ownersKnown known)
  components := by
    rw [later.components, first.components]
    simp
  viewed := by
    intro node member
    rw [Declaration.allNodes] at member
    rcases List.mem_append.mp member with head | tail
    · exact first.viewed node (by simpa [Declaration.allNodes] using head)
    · exact later.viewed node tail
  stateKeys := fun unique => later.stateKeys (first.stateKeys unique)
  signalKeys := fun unique => later.signalKeys (first.signalKeys unique)

theorem presented_of_encode {type : StoreType} {initial : type.Carrier} {written : Json}
    (encoded : type.encode initial = .ok written) : type.presented initial = written := by
  simp [StoreType.presented, encoded]

namespace Drafting

theorem declareState_gained (draft : Drafting V H) (key : String) (type : StoreType)
    (initial : type.Carrier) (scope : Scope) (name : Option String)
    (accepted : (draft.declareState key type initial scope name).2.accepted = true) :
    Gained draft.builder (draft.declareState key type initial scope name).1.builder
      [.state key type initial scope name] := by
  unfold declareState at accepted ⊢
  split
  next error refused => simp [refused, Declared.accepted] at accepted
  next done =>
    obtain ⟨written, admitted, rfl⟩ := Builder.state_ok done
    obtain ⟨encoded, -, fresh⟩ := Builder.writeInitial_ok admitted
    exact {
      id := rfl
      route := rfl
      view := by simp [ownView, Declaration.view?]
      states := by
        simp [Declaration.ownStates, presented_of_encode encoded]
      signals := by simp [Declaration.ownSignals]
      actions := by simp [Carried, nodesOf]
      ownersKnown := fun known => known
      components := by simp
      viewed := by simp
      stateKeys := fun unique => nodup_append_key DeclaredState.key _ _ fresh unique
      signalKeys := fun unique => unique }

theorem declareSignal_gained (draft : Drafting V H) (key : String) (type : StoreType)
    (initial : type.Carrier) (name : Option String)
    (accepted : (draft.declareSignal key type initial name).2.accepted = true) :
    Gained draft.builder (draft.declareSignal key type initial name).1.builder
      [.signal key type initial name] := by
  unfold declareSignal at accepted ⊢
  split
  next error refused => simp [refused, Declared.accepted] at accepted
  next done =>
    obtain ⟨written, admitted, rfl⟩ := Builder.signal_ok done
    obtain ⟨encoded, -, fresh⟩ := Builder.writeInitial_ok admitted
    exact {
      id := rfl
      route := rfl
      view := by simp [ownView, Declaration.view?]
      states := by simp [Declaration.ownStates]
      signals := by
        simp [Declaration.ownSignals, presented_of_encode encoded]
      actions := by simp [Carried, nodesOf]
      ownersKnown := fun known => known
      components := by simp
      viewed := by simp
      stateKeys := fun unique => unique
      signalKeys := fun unique => nodup_append_key DeclaredSignal.key _ _ fresh unique }

theorem declareAction_gained (draft : Drafting V H) (id : String) (handler : H)
    (accepted : (draft.declareAction id handler).2.accepted = true) :
    Gained draft.builder (draft.declareAction id handler).1.builder [.action id handler] := by
  unfold declareAction at accepted ⊢
  split
  next error refused => simp [refused, Declared.accepted] at accepted
  next done =>
    obtain ⟨fresh, rfl⟩ := Builder.action_ok done
    have absent := (KeyMap.contains_eq_false_iff draft.builder.actions id).mp fresh
    exact {
      id := rfl
      route := rfl
      view := by simp [ownView, Declaration.view?]
      states := by simp [Declaration.ownStates]
      signals := by simp [Declaration.ownSignals]
      actions := by
        intro known other entry
        rw [carried_root, ownedAction?_eq_some_iff, ownedAction?_eq_some_iff, KeyMap.get?_insert]
        by_cases same : other = id
        · subst same
          simp [absent, known.unowned fresh, Carried, eq_comm]
        · simp [same, Carried]
      ownersKnown := fun known => known.insert id handler
      components := by simp
      viewed := by simp
      stateKeys := fun unique => unique
      signalKeys := fun unique => unique }

theorem declareView_gained (draft : Drafting V H) (view : V)
    (accepted : (draft.declareView view).2.accepted = true) :
    Gained draft.builder (draft.declareView view).1.builder [.view view] := by
  unfold declareView at accepted ⊢
  split
  next error refused => simp [refused, Declared.accepted] at accepted
  next done =>
    obtain ⟨opened, rfl⟩ := Builder.setView_ok done
    exact {
      id := rfl
      route := rfl
      view := by simp [ownView, Declaration.view?, opened]
      states := by simp [Declaration.ownStates]
      signals := by simp [Declaration.ownSignals]
      actions := by simp [Carried, nodesOf]
      ownersKnown := fun known => known
      components := by simp
      viewed := by simp
      stateKeys := fun unique => unique
      signalKeys := fun unique => unique }

end Drafting

def DeclaredState.adopt (id : String) (state : DeclaredState) : DeclaredState :=
  { state with owner := state.owner.or (some id) }

def DeclaredSignal.adopt (id : String) (signal : DeclaredSignal) : DeclaredSignal :=
  { signal with owner := signal.owner.or (some id) }

/-- An action becomes the component's own unless one below it owns it already. -/
def OwnedAction.adopt (component : Component V) (entry : OwnedAction V H) :
    OwnedAction V H :=
  { entry with owner := entry.owner.or (some component) }

/-- Adopting the actions of a component read as a root gives them as read below another root. -/
theorem carried_adopt (declarations : List (Declaration V H)) (own id : String) (view : V)
    (shown : ownView declarations = some view)
    (viewed : ∀ node ∈ Declaration.allNodes declarations,
      (ownView node.declarations).isSome = true) (entry : OwnedAction V H) :
    (∃ old, Carried (nodesOf none declarations) id old ∧ old.adopt ⟨own, view⟩ = entry) ↔
      Carried (nodesOf (some own) declarations) id entry := by
  have kept : ∀ (old : OwnedAction V H), ∀ node ∈ Declaration.allNodes declarations,
      old.owner = node.component? → old.adopt ⟨own, view⟩ = old := by
    intro old node member owner
    obtain ⟨component, present⟩ := Option.isSome_iff_exists.mp
      (component?_isSome declarations node member (viewed node member))
    cases old
    simp_all [OwnedAction.adopt]
  constructor
  · rintro ⟨old, ⟨node, member, inside, owner⟩, rfl⟩
    rcases List.mem_cons.mp member with same | below
    · subst same
      have adopted : (old.adopt ⟨own, view⟩).owner = some ⟨own, view⟩ := by
        simp [OwnedAction.adopt, owner, Node.component?]
      refine ⟨⟨some own, declarations⟩, List.mem_cons_self, inside, ?_⟩
      simp [adopted, Node.component?, shown]
    · rw [kept old node below owner]
      exact ⟨node, List.mem_cons_of_mem _ below, inside, owner⟩
  · rintro ⟨node, member, inside, owner⟩
    rcases List.mem_cons.mp member with same | below
    · subst same
      refine ⟨⟨entry.handler, none⟩, ⟨⟨none, declarations⟩, List.mem_cons_self, inside, rfl⟩, ?_⟩
      cases entry
      simp_all [OwnedAction.adopt, Node.component?]
    · exact ⟨entry, ⟨node, List.mem_cons_of_mem _ below, inside, owner⟩,
        kept entry node below owner⟩

theorem absorb_states (builder : Builder V H) (child : Catalog V H) :
    (builder.absorb child).states =
      builder.states ++ child.states.map (DeclaredState.adopt child.id) := rfl

theorem absorb_signals (builder : Builder V H) (child : Catalog V H) :
    (builder.absorb child).signals =
      builder.signals ++ child.signals.map (DeclaredSignal.adopt child.id) := rfl

theorem absorb_actions (builder : Builder V H) (child : Catalog V H)
    (free : builder.Mountable child) (id : String) (entry : OwnedAction V H) :
    ownedAction? (builder.absorb child).actions (builder.absorb child).owners id = some entry ↔
      ownedAction? builder.actions builder.owners id = some entry ∨
        ∃ old, ownedAction? child.actions child.owners id = some old ∧
          old.adopt child.root = entry := by
  cases known : child.actions.get? id with
  | none => simp [ownedAction?, known]
  | some handler =>
    have absent : builder.actions.get? id = none := by
      apply (KeyMap.contains_eq_false_iff builder.actions id).mp
      exact free.actions id ((KeyMap.contains_iff child.actions id).mpr ⟨handler, known⟩)
    cases owned : child.owners.get? id <;>
      simp [ownedAction?, known, absent, owned, OwnedAction.adopt]

theorem nodup_append_adopted {X : Type} (key : X → String) (change : X → X)
    (sameKey : ∀ x, key (change x) = key x) (old new : List X)
    (fresh : ∀ x ∈ new, (old.any fun other => key other == key x) = false)
    (oldUnique : (old.map key).Nodup) (newUnique : (new.map key).Nodup) :
    ((old ++ new.map change).map key).Nodup := by
  have keys : (new.map change).map key = new.map key := by
    rw [List.map_map]
    exact List.map_congr_left fun x _ => sameKey x
  rw [List.map_append, keys, List.nodup_append]
  refine ⟨oldUnique, newUnique, ?_⟩
  intro left leftMember right rightMember
  obtain ⟨x, oldInside, rfl⟩ := List.mem_map.mp leftMember
  obtain ⟨y, newInside, rfl⟩ := List.mem_map.mp rightMember
  have apart : ∀ other ∈ old, key other ≠ key y := by simpa using fresh y newInside
  exact apart x oldInside

theorem mount_gained (before child : Builder V H) (page : Catalog V H) (id : String)
    (route name : Option String) (declarations : List (Declaration V H))
    (gained : Gained (Builder.new id route) child declarations)
    (built : child.build = .ok page) (free : before.Mountable page) :
    Gained before (before.absorb page) [.mount id route declarations name] := by
  obtain ⟨view, present, rfl⟩ := Builder.build_ok built
  have shown : ownView declarations = some view := by
    rw [gained.view] at present
    simpa [Builder.new] using present
  have childId : child.id = id := gained.id
  have childActions : ∀ action entry,
      ownedAction? child.actions child.owners action = some entry ↔
        Carried (nodesOf none declarations) action entry := by
    intro action entry
    rw [gained.actions OwnersKnown.empty]
    simp [Builder.new, ownedAction?]
  exact {
    id := rfl
    route := rfl
    view := by simp [ownView, Declaration.view?, Builder.absorb]
    states := by
      have adopted := Declaration.collectAll_map Declaration.ownStates
        (DeclaredState.adopt id) id
        (fun owner declaration => by cases declaration <;> rfl) none declarations
      have own : child.states = Declaration.collectAll Declaration.ownStates none declarations :=
        gained.states
      rw [absorb_states, own, childId, adopted]
      simp
    signals := by
      have adopted := Declaration.collectAll_map Declaration.ownSignals
        (DeclaredSignal.adopt id) id
        (fun owner declaration => by cases declaration <;> rfl) none declarations
      have own : child.signals = Declaration.collectAll Declaration.ownSignals none declarations :=
        gained.signals
      rw [absorb_signals, own, childId, adopted]
      simp
    actions := by
      intro _ action entry
      rw [absorb_actions before _ free, carried_root]
      have below := carried_adopt declarations id action view shown gained.viewed entry
      simp only [childActions, Catalog.root, childId, below]
      simp [nodesOf]
    ownersKnown := fun known => Builder.absorb_ownersKnown known _
    components := by
      have own : child.components = (Declaration.allNodes declarations).filterMap Node.owner :=
        gained.components
      simp [Builder.absorb, own, childId]
    viewed := by
      intro node member
      simp only [Declaration.allNodes, Declaration.nodes, List.append_nil] at member
      rcases List.mem_cons.mp member with same | below
      · rw [same, shown]
        rfl
      · exact gained.viewed node below
    stateKeys := fun unique => nodup_append_adopted DeclaredState.key
      (DeclaredState.adopt child.id) (fun _ => rfl) _ _ free.states unique (gained.stateKeys List.nodup_nil)
    signalKeys := fun unique => nodup_append_adopted DeclaredSignal.key
      (DeclaredSignal.adopt child.id) (fun _ => rfl) _ _ free.signals unique (gained.signalKeys List.nodup_nil) }

namespace Drafting

theorem mountChild_gained (draft child : Drafting V H) (id : String)
    (route name : Option String) (declarations : List (Declaration V H))
    (gained : Gained (Builder.new id route) child.builder declarations)
    (accepted : (draft.mountChild child name).2.isOk = true) :
    Gained draft.builder (draft.mountChild child name).1.builder
      [.mount id route declarations name] := by
  unfold mountChild at accepted ⊢
  split
  next error refused => simp [refused, Except.isOk, Except.toBool] at accepted
  next page built =>
    split
    next error refused => simp [built, refused, Except.isOk, Except.toBool] at accepted
    next mounted =>
      obtain ⟨free, rfl⟩ := Builder.mount_ok mounted
      exact mount_gained draft.builder child.builder page id route name declarations gained built
        free

mutual

theorem declare_gained (draft : Drafting V H) :
    (declaration : Declaration V H) → (draft.declare declaration).2.accepted = true →
    Gained draft.builder (draft.declare declaration).1.builder [declaration]
  | .state key type initial scope name, accepted =>
      draft.declareState_gained key type initial scope name accepted
  | .signal key type initial name, accepted =>
      draft.declareSignal_gained key type initial name accepted
  | .action id handler, accepted => draft.declareAction_gained id handler accepted
  | .view view, accepted => draft.declareView_gained view accepted
  | .mount id route declarations name, accepted => by
      simp only [declare, Declared.accepted, Bool.and_eq_true] at accepted ⊢
      have gained := declareAll_gained ⟨Builder.new id route, draft.handles⟩ declarations
        accepted.1
      exact draft.mountChild_gained _ id route name declarations gained accepted.2

/-- Along accepted declarations, at whatever depth, a builder gains just what they contribute. -/
theorem declareAll_gained (draft : Drafting V H) :
    (declarations : List (Declaration V H)) →
    Declared.allAccepted (draft.declareAll declarations).2 = true →
    Gained draft.builder (draft.declareAll declarations).1.builder declarations
  | [], _ => gained_nil draft.builder
  | declaration :: rest, accepted => by
      simp only [declareAll, Declared.allAccepted, Bool.and_eq_true] at accepted ⊢
      have first := declare_gained draft declaration accepted.1
      have later := declareAll_gained (draft.declare declaration).1 rest accepted.2
      exact gained_cons _ _ _ declaration rest first later

end

end Drafting

/-- The root of a tree, which owns nothing under an id. -/
def Blueprint.root (blueprint : Blueprint V H) : Node V H := ⟨none, blueprint.declarations⟩

/-- Owners by the innermost node: whatever a node declares itself has that node's id for its owner.
Only what the root declares, and what nobody declares, has none. -/
structure Blueprint.Owners (blueprint : Blueprint V H) (Declares : Node V H → String → Prop)
    (owner? : String → Option String) : Prop where
  innermost : ∀ node ∈ blueprint.nodes, ∀ key, Declares node key → owner? key = node.owner
  unowned : ∀ key, owner? key = none ↔
    Declares blueprint.root key ∨ ∀ node ∈ blueprint.nodes, ¬Declares node key

/-- A catalog that says of a tree what the tree says itself. -/
structure Blueprint.FlatCatalog (blueprint : Blueprint V H) (page : Catalog V H) : Prop where
  id : page.id = blueprint.id
  route : page.route = blueprint.route
  view : ownView blueprint.declarations = some page.view
  states : page.states =
    Declaration.collectAll Declaration.ownStates none blueprint.declarations
  signals : page.signals =
    Declaration.collectAll Declaration.ownSignals none blueprint.declarations
  components : ∀ id, id ∈ page.components ↔ ∃ node ∈ blueprint.nodes, node.owner = some id
  known : ∀ id, page.knowsAction id = true ↔ ∃ node ∈ blueprint.nodes, node.DeclaresAction id
  handlers : ∀ id handler, page.handler? id = some handler ↔
    ∃ node ∈ blueprint.nodes, Declaration.action id handler ∈ node.declarations
  owners : blueprint.Owners Node.DeclaresAction page.ownerOfAction?
  stateOwners : blueprint.Owners Node.DeclaresState page.ownerOfState?
  signalOwners : blueprint.Owners Node.DeclaresSignal page.ownerOfSignal?
  views : ∀ node ∈ blueprint.nodes, ∀ id own, node.DeclaresAction id → node.owner = some own →
    ∃ view, ownView node.declarations = some view ∧ page.componentOf? id = some ⟨own, view⟩

/-- It is enough to know the owner of what some node declares and that nothing else has one. -/
theorem Blueprint.owners_intro (blueprint : Blueprint V H)
    (Declares : Node V H → String → Prop) (owner? : String → Option String)
    (innermost : ∀ node ∈ blueprint.nodes, ∀ key, Declares node key → owner? key = node.owner)
    (unknown : ∀ key, (∀ node ∈ blueprint.nodes, ¬Declares node key) → owner? key = none) :
    blueprint.Owners Declares owner? where
  innermost := innermost
  unowned := by
    intro key
    constructor
    · intro unowned
      by_cases declared : ∃ node ∈ blueprint.nodes, Declares node key
      · obtain ⟨node, member, declares⟩ := declared
        rcases List.mem_cons.mp member with same | below
        · subst same
          exact Or.inl declares
        · have owned := Declaration.owner_isSome_of_mem_allNodes node _ below
          rw [← innermost node member key declares, unowned] at owned
          cases owned
      · exact Or.inr fun node member declares => declared ⟨node, member, declares⟩
    · rintro (atRoot | nowhere)
      · exact innermost blueprint.root List.mem_cons_self key atRoot
      · exact unknown key nowhere

/-- In a list without a key twice, whoever is found by a key is the one that has it. -/
theorem find?_of_unique {X : Type} (key : X → String) (xs : List X) (x : X)
    (unique : (xs.map key).Nodup) (member : x ∈ xs) :
    (xs.find? fun other => key other == key x) = some x := by
  induction xs with
  | nil => cases member
  | cons head rest ih =>
    rw [List.map_cons, List.nodup_cons] at unique
    rcases List.mem_cons.mp member with same | later
    · simp [same]
    · have apart : key head ≠ key x := by
        intro same
        exact unique.1 (same ▸ List.mem_map_of_mem later)
      simpa [apart] using ih unique.2 later

theorem owners_of_list {X : Type} (blueprint : Blueprint V H)
    (own : Option String → Declaration V H → List X)
    (flat : ∀ owner id route inside name, own owner (.mount id route inside name) = [])
    (key : X → String) (owner : X → Option String)
    (owned : ∀ place declaration, ∀ x ∈ own place declaration, owner x = place)
    (xs : List X) (collected : xs = Declaration.collectAll own none blueprint.declarations)
    (unique : (xs.map key).Nodup) :
    blueprint.Owners
      (fun node name => ∃ declaration ∈ node.declarations, ∃ x ∈ own node.owner declaration,
        key x = name)
      (fun name => (xs.find? fun x => key x == name).bind owner) := by
  have listed : ∀ x, x ∈ xs ↔ Declaration.Contributed own blueprint.nodes x := by
    intro x
    rw [collected]
    exact Declaration.mem_collectAll_iff own flat none x blueprint.declarations
  apply blueprint.owners_intro
  · rintro node member name ⟨declaration, inside, x, contributed, rfl⟩
    have found := (listed x).mpr ⟨node, member, declaration, inside, contributed⟩
    simp only [find?_of_unique key xs x unique found, Option.bind_some]
    exact owned node.owner declaration x contributed
  · intro name nowhere
    have missing : ∀ x ∈ xs, key x ≠ name := by
      intro x found same
      obtain ⟨node, member, declaration, inside, contributed⟩ := (listed x).mp found
      exact nowhere node member ⟨declaration, inside, x, contributed, same⟩
    have none : (xs.find? fun x => key x == name) = none := by
      simpa [List.find?_eq_none] using missing
    simp [none]

theorem declaresState_iff (node : Node V H) (key : String) :
    node.DeclaresState key ↔ ∃ declaration ∈ node.declarations,
      ∃ state ∈ declaration.ownStates node.owner, state.key = key := by
  constructor
  · rintro ⟨type, initial, scope, name, inside⟩
    exact ⟨_, inside, ⟨key, type.presented initial, scope, node.owner⟩, by
      simp [Declaration.ownStates], rfl⟩
  · rintro ⟨declaration, inside, state, listed, rfl⟩
    cases declaration with
    | state key type initial scope name =>
      simp only [Declaration.ownStates, List.mem_singleton] at listed
      subst listed
      exact ⟨type, initial, scope, name, inside⟩
    | _ => simp [Declaration.ownStates] at listed

theorem declaresSignal_iff (node : Node V H) (key : String) :
    node.DeclaresSignal key ↔ ∃ declaration ∈ node.declarations,
      ∃ signal ∈ declaration.ownSignals node.owner, signal.key = key := by
  constructor
  · rintro ⟨type, initial, name, inside⟩
    exact ⟨_, inside, ⟨key, type.presented initial, node.owner⟩, by
      simp [Declaration.ownSignals], rfl⟩
  · rintro ⟨declaration, inside, signal, listed, rfl⟩
    cases declaration with
    | signal key type initial name =>
      simp only [Declaration.ownSignals, List.mem_singleton] at listed
      subst listed
      exact ⟨type, initial, name, inside⟩
    | _ => simp [Declaration.ownSignals] at listed

theorem Blueprint.Owners.congr {blueprint : Blueprint V H}
    {First Second : Node V H → String → Prop} {owner? : String → Option String}
    (owners : blueprint.Owners First owner?) (same : ∀ node key, Second node key ↔ First node key) :
    blueprint.Owners Second owner? := by
  have equal : Second = First := by
    funext node key
    exact propext (same node key)
  rw [equal]
  exact owners

section BuiltActions
variable (blueprint : Blueprint V H) (page : Catalog V H)
  (actions : ∀ id entry, ownedAction? page.actions page.owners id = some entry ↔
    Carried blueprint.nodes id entry)

include actions in
theorem get?_of_declared (node : Node V H) (member : node ∈ blueprint.nodes) (id : String)
    (handler : H) (inside : Declaration.action id handler ∈ node.declarations) :
    page.handler? id = some handler ∧ page.componentOf? id = node.component? :=
  ownedAction?_eq_some_iff.mp
    ((actions id ⟨handler, node.component?⟩).mpr ⟨node, member, inside, rfl⟩)

include actions in
theorem handler?_eq_some_iff (id : String) (handler : H) :
    page.handler? id = some handler ↔
      ∃ node ∈ blueprint.nodes, Declaration.action id handler ∈ node.declarations := by
  constructor
  · intro found
    have present : ownedAction? page.actions page.owners id = some ⟨handler, page.owners.get? id⟩ :=
      ownedAction?_eq_some_iff.mpr ⟨found, rfl⟩
    obtain ⟨node, member, inside, -⟩ := (actions id _).mp present
    exact ⟨node, member, inside⟩
  · rintro ⟨node, member, inside⟩
    exact (get?_of_declared blueprint page actions node member id handler inside).1

include actions in
theorem knowsAction_iff (id : String) :
    page.knowsAction id = true ↔ ∃ node ∈ blueprint.nodes, node.DeclaresAction id := by
  have lookup : page.knowsAction id = true ↔ ∃ handler, page.handler? id = some handler :=
    KeyMap.contains_iff page.actions id
  simp only [lookup, handler?_eq_some_iff blueprint page actions, Node.DeclaresAction]
  constructor
  · rintro ⟨handler, node, member, inside⟩
    exact ⟨node, member, handler, inside⟩
  · rintro ⟨node, member, handler, inside⟩
    exact ⟨handler, node, member, inside⟩

variable (viewed : ∀ node ∈ blueprint.nodes, (ownView node.declarations).isSome = true)

include actions viewed in
theorem action_owners (ownersKnown : OwnersKnown page.actions page.owners) :
    blueprint.Owners Node.DeclaresAction page.ownerOfAction? := by
  apply blueprint.owners_intro
  · rintro node member id ⟨handler, inside⟩
    obtain ⟨-, found⟩ := get?_of_declared blueprint page actions node member id handler inside
    obtain ⟨view, shown⟩ := Option.isSome_iff_exists.mp (viewed node member)
    cases owner : node.owner <;>
      simp [Catalog.ownerOfAction?, found, Node.component?, owner, shown]
  · intro id nowhere
    have missing : page.actions.contains id = false := by
      rw [← Bool.not_eq_true]
      intro known
      obtain ⟨node, member, declares⟩ := (knowsAction_iff blueprint page actions id).mp known
      exact nowhere node member declares
    simp [Catalog.ownerOfAction?, Catalog.componentOf?, ownersKnown.unowned missing]

include actions viewed in
theorem action_views (node : Node V H) (member : node ∈ blueprint.nodes) (id own : String)
    (declares : node.DeclaresAction id) (owner : node.owner = some own) :
    ∃ view, ownView node.declarations = some view ∧ page.componentOf? id = some ⟨own, view⟩ := by
  obtain ⟨handler, inside⟩ := declares
  obtain ⟨-, found⟩ := get?_of_declared blueprint page actions node member id handler inside
  obtain ⟨view, shown⟩ := Option.isSome_iff_exists.mp (viewed node member)
  exact ⟨view, shown, by simp [found, Node.component?, owner, shown]⟩

end BuiltActions

theorem Gained.flat (blueprint : Blueprint V H) (builder : Builder V H) (page : Catalog V H)
    (gained : Gained (Builder.new blueprint.id blueprint.route) builder blueprint.declarations)
    (built : builder.build = .ok page) : blueprint.FlatCatalog page := by
  obtain ⟨view, present, rfl⟩ := Builder.build_ok built
  have shown : ownView blueprint.declarations = some view := by
    rw [gained.view] at present
    simpa [Builder.new] using present
  have actions : ∀ id entry, ownedAction? builder.actions builder.owners id = some entry ↔
      Carried blueprint.nodes id entry := by
    intro id entry
    rw [gained.actions OwnersKnown.empty]
    simp [Builder.new, ownedAction?, Blueprint.nodes]
  have viewed : ∀ node ∈ blueprint.nodes, (ownView node.declarations).isSome = true := by
    intro node member
    rcases List.mem_cons.mp member with same | below
    · rw [same, shown]
      rfl
    · exact gained.viewed node below
  exact {
    id := gained.id
    route := gained.route
    view := shown
    states := gained.states
    signals := gained.signals
    components := by
      intro id
      have listed := gained.components
      simp [listed, Builder.new, Blueprint.nodes, nodesOf]
    known := knowsAction_iff blueprint _ actions
    handlers := handler?_eq_some_iff blueprint _ actions
    owners := action_owners blueprint _ actions viewed (gained.ownersKnown OwnersKnown.empty)
    stateOwners :=
      (owners_of_list blueprint Declaration.ownStates (fun _ _ _ _ _ => rfl) DeclaredState.key
        DeclaredState.owner
        (fun _ declaration _ listed => by cases declaration <;> simp_all [Declaration.ownStates])
        builder.states gained.states (gained.stateKeys List.nodup_nil)).congr declaresState_iff
    signalOwners :=
      (owners_of_list blueprint Declaration.ownSignals (fun _ _ _ _ _ => rfl) DeclaredSignal.key
        DeclaredSignal.owner
        (fun _ declaration _ listed => by cases declaration <;> simp_all [Declaration.ownSignals])
        builder.signals gained.signals (gained.signalKeys List.nodup_nil)).congr
        declaresSignal_iff
    views := action_views blueprint _ actions viewed }

/-- Building a tree of compositions in which every declaration, every component and every mount is
accepted gives the catalog that can be read off the tree. -/
theorem flattening_exact (handles : Handles V) (blueprint : Blueprint V H)
    (accepted : Declared.allAccepted (blueprint.build handles).declared = true)
    (built : (blueprint.build handles).outcome.isOk = true) :
    ∃ page, (blueprint.build handles).outcome = .ok page ∧ blueprint.FlatCatalog page := by
  have gained := Drafting.declareAll_gained
    ⟨Builder.new blueprint.id blueprint.route, handles⟩ blueprint.declarations accepted
  cases outcome : (blueprint.build handles).outcome with
  | error error => simp [outcome, Except.isOk, Except.toBool] at built
  | ok page => exact ⟨page, rfl, Gained.flat blueprint _ page gained outcome⟩

-- Every kind of declaration on each of three levels, the mounts in between.
def threeLevels : Blueprint String Nat where
  id := "page"
  route := some "/"
  declarations := [
    .state "title" .string "home" .session none,
    .mount "middle" none [
      .signal "query" .string "" none,
      .mount "inner" none [
        .state "count" .json (.int 7) .connection (some "n"), .action "inc" 1, .view "inner view",
        .action "dec" 2] none,
      .action "find" 3,
      .state "found" .bool false .application none,
      .view "middle view"] (some "m"),
    .signal "open" .bool true none,
    .action "go" 4,
    .view "page view"]

theorem flattening_exact_three_levels :
    Declared.allAccepted (threeLevels.build Handles.empty).declared = true ∧
      (threeLevels.build Handles.empty).outcome.isOk = true ∧
      ∃ page, (threeLevels.build Handles.empty).outcome = .ok page ∧
        threeLevels.FlatCatalog page :=
  ⟨by decide, by decide, flattening_exact Handles.empty threeLevels (by decide) (by decide)⟩

example : (threeLevels.build Handles.empty).outcome.toOption.map
    (fun page => [page.ownerOfAction? "inc", page.ownerOfAction? "find",
      page.ownerOfAction? "go"]) = some [some "inner", some "middle", none] := by decide

end LiveTabs
