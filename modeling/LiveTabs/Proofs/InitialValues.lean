import LiveTabs.Proofs.Atomicity
import LiveTabs.Proofs.Flattening
import LiveTabs.Tab
/-!
What a new tab begins with. The declarations that stand, the page's own and those of the components
mounted in it, have initial values that can be written, and a new tab holds each under its key.
-/
namespace LiveTabs
variable {V H : Type}

/-! What stands was accepted, and so was whatever still stands inside it. -/
mutual

theorem Declared.pruned_accepted :
    (declared : Declared) → declared.stands = true → declared.pruned.accepted = true
  | .refused _, stands => nomatch stands
  | .state .., _ => rfl
  | .signal .., _ => rfl
  | .action _, _ => rfl
  | .view, _ => rfl
  | .mount declared mounted, stands => by
      rw [pruned, accepted, Declared.standing_accepted declared, Bool.true_and]
      exact stands

theorem Declared.standing_accepted :
    (declared : List Declared) → Declared.allAccepted (Declared.standing declared) = true
  | [] => rfl
  | declared :: rest => by
      cases stands : declared.stands with
      | true =>
        have first := Declared.pruned_accepted declared stands
        have later := Declared.standing_accepted rest
        simp [standing, stands, allAccepted, first, later]
      | false =>
        have later := Declared.standing_accepted rest
        simp [standing, stands, later]

end

/-- Where an initial value is declared, it can be written. -/
def Declaration.Writable : Declaration V H → Prop
  | .state _ type initial _ _ => ∃ written, type.encode initial = .ok written
  | .signal _ type initial _ => ∃ written, type.encode initial = .ok written
  | _ => True

namespace Drafting

theorem declareState_writable (draft : Drafting V H) (key : String) (type : StoreType)
    (initial : type.Carrier) (scope : Scope) (name : Option String)
    (accepted : (draft.declareState key type initial scope name).2.accepted = true) :
    ∃ written, type.encode initial = .ok written := by
  unfold declareState at accepted
  split at accepted
  · nomatch accepted
  · next made =>
    obtain ⟨written, admitted, -⟩ := Builder.state_ok made
    exact ⟨written, (Builder.writeInitial_ok admitted).1⟩

theorem declareSignal_writable (draft : Drafting V H) (key : String) (type : StoreType)
    (initial : type.Carrier) (name : Option String)
    (accepted : (draft.declareSignal key type initial name).2.accepted = true) :
    ∃ written, type.encode initial = .ok written := by
  unfold declareSignal at accepted
  split at accepted
  · nomatch accepted
  · next made =>
    obtain ⟨written, admitted, -⟩ := Builder.signal_ok made
    exact ⟨written, (Builder.writeInitial_ok admitted).1⟩

mutual

theorem declare_writable (draft : Drafting V H) :
    (declaration : Declaration V H) → (draft.declare declaration).2.accepted = true →
    declaration.Writable ∧
      ∀ node ∈ declaration.nodes, ∀ inner ∈ node.declarations, inner.Writable
  | .state key type initial scope name, accepted => by
      constructor
      · exact draft.declareState_writable key type initial scope name accepted
      · intro node member
        nomatch member
  | .signal key type initial name, accepted => by
      constructor
      · exact draft.declareSignal_writable key type initial name accepted
      · intro node member
        nomatch member
  | .action .., _ => ⟨trivial, nofun⟩
  | .view .., _ => ⟨trivial, nofun⟩
  | .mount id route declarations name, accepted => by
      simp only [declare, Declared.accepted, Bool.and_eq_true] at accepted
      constructor
      · trivial
      · exact declareAll_writable ⟨Builder.new id route, draft.handles⟩ (some id) declarations
          accepted.1

/-- No initial value was accepted that cannot be written, at whatever depth. -/
theorem declareAll_writable (draft : Drafting V H) (owner : Option String) :
    (declarations : List (Declaration V H)) →
    Declared.allAccepted (draft.declareAll declarations).2 = true →
    ∀ node ∈ nodesOf owner declarations, ∀ inner ∈ node.declarations, inner.Writable
  | [], _ => by simp [nodesOf]
  | declaration :: rest, accepted => by
      simp only [declareAll, Declared.allAccepted, Bool.and_eq_true] at accepted
      obtain ⟨own, below⟩ := declare_writable draft declaration accepted.1
      have later := declareAll_writable (draft.declare declaration).1 owner rest accepted.2
      intro node member inner inside
      rcases List.mem_cons.mp member with same | deeper
      · subst same
        rcases List.mem_cons.mp inside with first | after
        · exact first ▸ own
        · exact later ⟨owner, rest⟩ List.mem_cons_self inner after
      · rcases List.mem_append.mp deeper with first | after
        · exact below node first inner inside
        · exact later node (List.mem_cons_of_mem _ after) inner inside

end

end Drafting

/-- The blueprint with the declarations that were not refused. -/
def Blueprint.accepted (handles : Handles V) (blueprint : Blueprint V H) : Blueprint V H :=
  blueprint.standing (blueprint.build handles).declared

/-- A page lists what is declared for it, no key twice, and all of it can be written. -/
structure Catalog.Lists (page : Catalog V H) (blueprint : Blueprint V H) : Prop where
  id : page.id = blueprint.id
  components : page.components =
    (Declaration.allNodes blueprint.declarations).filterMap Node.owner
  states : page.states = Declaration.collectAll Declaration.ownStates none blueprint.declarations
  signals : page.signals =
    Declaration.collectAll Declaration.ownSignals none blueprint.declarations
  stateKeys : (page.states.map DeclaredState.key).Nodup
  signalKeys : (page.signals.map DeclaredSignal.key).Nodup
  writable : ∀ node ∈ blueprint.nodes, ∀ declaration ∈ node.declarations, declaration.Writable

/-- A page is also built of what stands alone, and of that nothing is refused. -/
theorem lists_accepted {handles : Handles V} {blueprint : Blueprint V H} {page : Catalog V H}
    (built : (blueprint.build handles).outcome = .ok page) :
    page.Lists (blueprint.accepted handles) := by
  obtain ⟨same, results⟩ := Drafting.declareAll_standing
    ⟨Builder.new blueprint.id blueprint.route, handles⟩
    ⟨Builder.new blueprint.id blueprint.route, handles⟩ rfl blueprint.declarations
  -- Without the refused declarations the builder ends where it did, and every result is accepted.
  have every := (congrArg Declared.allAccepted results).trans (Declared.standing_accepted _)
  have gained := Drafting.declareAll_gained _ _ every
  have again := (congrArg Builder.build same).trans built
  obtain ⟨view, -, rfl⟩ := Builder.build_ok again
  exact {
    id := gained.id
    components := gained.components
    states := gained.states
    signals := gained.signals
    stateKeys := gained.stateKeys List.nodup_nil
    signalKeys := gained.signalKeys List.nodup_nil
    writable := Drafting.declareAll_writable _ none _ every }

namespace Catalog.Lists
variable {page : Catalog V H} {blueprint : Blueprint V H} (lists : page.Lists blueprint)
  {node : Node V H} (member : node ∈ blueprint.nodes) {key : String} {type : StoreType}
  {initial : type.Carrier} {name : Option String}
include lists member

theorem fresh_value
    (inside : Declaration.state key type initial .connection name ∈ node.declarations) :
    ∃ written, type.encode initial = .ok written ∧
      (Tab.fresh page).values.get? key = some written := by
  obtain ⟨written, encoded⟩ := lists.writable node member _ inside
  have listed : ⟨key, written, .connection, node.owner⟩ ∈ page.states := by
    rw [lists.states, Declaration.mem_collectAll_iff _ (fun _ _ _ _ _ => rfl)]
    exact ⟨node, member, _, inside, by
      simp [Declaration.ownStates, presented_of_encode encoded]⟩
  refine ⟨written, encoded, KeyMap.get?_insertAll_of_mem _ _ ?_ (key, written) ?_⟩
  · rw [List.map_map]
    exact lists.stateKeys.sublist (List.filter_sublist.map DeclaredState.key)
  · exact List.mem_map.mpr ⟨_, List.mem_filter.mpr ⟨listed, rfl⟩, rfl⟩

theorem fresh_signal (inside : Declaration.signal key type initial name ∈ node.declarations) :
    ∃ written, type.encode initial = .ok written ∧
      (Tab.fresh page).signals.get? key = some written := by
  obtain ⟨written, encoded⟩ := lists.writable node member _ inside
  have listed : ⟨key, written, node.owner⟩ ∈ page.signals := by
    rw [lists.signals, Declaration.mem_collectAll_iff _ (fun _ _ _ _ _ => rfl)]
    exact ⟨node, member, _, inside, by
      simp [Declaration.ownSignals, presented_of_encode encoded]⟩
  refine ⟨written, encoded, KeyMap.get?_insertAll_of_mem _ _ ?_ (key, written) ?_⟩
  · rw [List.map_map]
    exact lists.signalKeys
  · exact List.mem_map_of_mem listed

end Catalog.Lists
end LiveTabs
