import LiveTabs.Proofs.InitialValues
/-!
What holds of every catalog, built or still under construction, whatever was declared for it and
whatever was refused. No state key and no signal key comes twice in the tree, no component id does,
the root is none of its own components, whoever owns something is one of the components, and what
has an owner among the actions is an action.
-/
namespace LiveTabs

namespace KeyMap
variable {α : Type}

/-- Where no key comes twice, a map has the entries that it is made of, each once. -/
theorem ofList_perm (entries : List (String × α)) (unique : (entries.map Prod.fst).Nodup) :
    (ofList entries).entries.Perm entries := by
  have once : (ofList entries).entries.Nodup := by
    apply (ofList entries).ordered.imp
    rintro left right before rfl
    exact String.lt_irrefl _ before
  have apart : entries.Nodup :=
    List.Pairwise.of_map Prod.fst (fun _ _ differ same => differ (congrArg Prod.fst same)) unique
  rw [List.perm_ext_iff_of_nodup once apart]
  intro entry
  rw [← get?_eq_some_iff (ofList entries) entry.1 entry.2]
  constructor
  · intro found
    by_cases listed : entry.1 ∈ entries.map Prod.fst
    · obtain ⟨other, member, same⟩ := List.mem_map.mp listed
      have held := get?_insertAll_of_mem empty entries unique other member
      rw [same, ← ofList, found] at held
      exact (Prod.ext same (Option.some.inj held).symm : other = entry) ▸ member
    · rw [ofList, get?_insertAll_absent empty entries entry.1 listed] at found
      cases found
  · exact get?_insertAll_of_mem empty entries unique entry

end KeyMap

variable {V H : Type}

/-- How the parts of a catalog fit together. -/
structure Coherent (id : String) (states : List DeclaredState) (signals : List DeclaredSignal)
    (actions : KeyMap H) (owners : KeyMap (Component V)) (components : List String) : Prop where
  stateKeys : (states.map DeclaredState.key).Nodup
  signalKeys : (signals.map DeclaredSignal.key).Nodup
  ids : (id :: components).Nodup
  stateOwners : ∀ state ∈ states, ∀ owner, state.owner = some owner → owner ∈ components
  signalOwners : ∀ signal ∈ signals, ∀ owner, signal.owner = some owner → owner ∈ components
  ownersKnown : OwnersKnown actions owners
  actionOwners : ∀ action owner, owners.get? action = some owner → owner.id ∈ components

abbrev Builder.Coherent (builder : Builder V H) : Prop :=
  LiveTabs.Coherent builder.id builder.states builder.signals builder.actions builder.owners
    builder.components

abbrev Catalog.Coherent (page : Catalog V H) : Prop :=
  LiveTabs.Coherent page.id page.states page.signals page.actions page.owners page.components

section Owners
variable {X : Type} {owner : X → Option String} {old : List X} {components : List String}
  (owned : ∀ x ∈ old, ∀ id, owner x = some id → id ∈ components)
include owned

theorem owners_unowned {new : X} (unowned : owner new = none) :
    ∀ x ∈ old ++ [new], ∀ id, owner x = some id → id ∈ components := by
  intro x member id own
  rcases List.mem_append.mp member with before | last
  · exact owned x before id own
  · rw [List.mem_singleton.mp last, unowned] at own
    nomatch own

/-- Where an id is put in for the owners that there are none of, it joins the components. -/
theorem owners_adopted {adopt : X → X} {parent : String}
    (adopted : ∀ x, owner (adopt x) = (owner x).or (some parent)) {new : List X}
    {below : List String} (also : ∀ x ∈ new, ∀ id, owner x = some id → id ∈ below) :
    ∀ x ∈ old ++ new.map adopt, ∀ id, owner x = some id → id ∈ components ++ parent :: below := by
  intro x member id own
  rcases List.mem_append.mp member with before | later
  · exact List.mem_append_left _ (owned x before id own)
  · obtain ⟨inner, inside, rfl⟩ := List.mem_map.mp later
    rw [adopted] at own
    rcases Option.or_eq_some_iff.mp own with deeper | ⟨-, itself⟩
    · exact List.mem_append_right _ (.tail _ (also inner inside id deeper))
    · exact List.mem_append_right _ (Option.some.inj itself ▸ .head _)

end Owners

/-! Whatever a builder lets pass keeps it coherent. -/
namespace Builder

theorem coherent_new (id : String) (route : Option String) :
    (new (V := V) (H := H) id route).Coherent where
  stateKeys := List.nodup_nil
  signalKeys := List.nodup_nil
  ids := List.nodup_cons.mpr ⟨nofun, List.nodup_nil⟩
  stateOwners := nofun
  signalOwners := nofun
  ownersKnown := OwnersKnown.empty
  actionOwners := nofun

section
variable {builder : Builder V H} (coherent : builder.Coherent)
include coherent

theorem coherent_state {after : Builder V H} {key : String} {type : StoreType}
    {initial : type.Carrier} {scope : Scope} {handle : State type}
    (accepted : builder.state key type initial scope = (after, .ok handle)) : after.Coherent := by
  obtain ⟨written, admitted, rfl⟩ := state_ok accepted
  obtain ⟨-, -, fresh⟩ := writeInitial_ok admitted
  exact { coherent with
    stateKeys := nodup_append_key DeclaredState.key _ _ fresh coherent.stateKeys
    stateOwners := owners_unowned coherent.stateOwners rfl }

theorem coherent_signal {after : Builder V H} {key : String} {type : StoreType}
    {initial : type.Carrier} {handle : Signal type}
    (accepted : builder.signal key type initial = (after, .ok handle)) : after.Coherent := by
  obtain ⟨written, admitted, rfl⟩ := signal_ok accepted
  obtain ⟨-, -, fresh⟩ := writeInitial_ok admitted
  exact { coherent with
    signalKeys := nodup_append_key DeclaredSignal.key _ _ fresh coherent.signalKeys
    signalOwners := owners_unowned coherent.signalOwners rfl }

theorem coherent_action {after : Builder V H} {id : String} {handler : H}
    (accepted : builder.action id handler = (after, .ok ())) : after.Coherent := by
  obtain ⟨-, rfl⟩ := action_ok accepted
  exact { coherent with ownersKnown := coherent.ownersKnown.insert id handler }

theorem coherent_setView {after : Builder V H} {view : V}
    (accepted : builder.setView view = (after, .ok ())) : after.Coherent := by
  obtain ⟨-, rfl⟩ := setView_ok accepted
  exact coherent

theorem coherent_build {page : Catalog V H} (accepted : builder.build = .ok page) :
    page.Coherent := by
  obtain ⟨view, -, rfl⟩ := build_ok accepted
  exact coherent

theorem coherent_absorb {child : Catalog V H} (also : child.Coherent)
    (free : builder.Mountable child) : (builder.absorb child).Coherent where
  stateKeys := nodup_append_adopted DeclaredState.key (DeclaredState.adopt child.id)
    (fun _ => rfl) _ _ free.states coherent.stateKeys also.stateKeys
  signalKeys := nodup_append_adopted DeclaredSignal.key (DeclaredSignal.adopt child.id)
    (fun _ => rfl) _ _ free.signals coherent.signalKeys also.signalKeys
  ids := by
    have disjoint : ∀ own ∈ builder.id :: builder.components,
        ∀ other ∈ child.id :: child.components, own ≠ other := by
      rintro own member other inside rfl
      have taken : builder.hasComponent own = true := by
        simpa [hasComponent] using List.mem_cons.mp member
      exact Bool.false_ne_true ((free.components own inside).symm.trans taken)
    exact List.nodup_append.mpr ⟨coherent.ids, also.ids, disjoint⟩
  stateOwners := owners_adopted coherent.stateOwners (fun _ => rfl) also.stateOwners
  signalOwners := owners_adopted coherent.signalOwners (fun _ => rfl) also.signalOwners
  ownersKnown := absorb_ownersKnown coherent.ownersKnown child
  actionOwners := by
    intro action owner owned
    rw [absorb_owner] at owned
    rcases Option.or_eq_some_iff.mp owned with entered | ⟨-, before⟩
    · obtain ⟨-, -, rfl⟩ := Option.map_eq_some_iff.mp entered
      refine List.mem_append_right _ ?_
      cases below : child.owners.get? action with
      | some component => exact .tail _ (also.actionOwners action component below)
      | none => exact .head _
    · exact List.mem_append_left _ (coherent.actionOwners action owner before)

end
end Builder

namespace Drafting

mutual

/-- The builders of a component that is mounted, and of those mounted in it, at every stage. -/
def inside (draft : Drafting V H) : Declaration V H → List (Builder V H)
  | .mount id route declarations _ => stages ⟨Builder.new id route, draft.handles⟩ declarations
  | _ => []

/-- Every builder before, between and after some declarations, with those of the components in
them. -/
def stages (draft : Drafting V H) : List (Declaration V H) → List (Builder V H)
  | [] => [draft.builder]
  | declaration :: rest =>
    draft.builder :: inside draft declaration ++ stages (draft.declare declaration).1 rest

end

theorem last_mem_stages (draft : Drafting V H) (declarations : List (Declaration V H)) :
    (draft.declareAll declarations).1.builder ∈ draft.stages declarations := by
  induction declarations generalizing draft with
  | nil => exact List.mem_singleton_self _
  | cons declaration rest ih =>
    rw [declareAll, stages]
    exact List.mem_append_right _ (ih (draft.declare declaration).1)

theorem mountChild_coherent {draft child : Drafting V H} (coherent : draft.builder.Coherent)
    (also : child.builder.Coherent) (name : Option String) :
    (draft.mountChild child name).1.builder.Coherent := by
  unfold mountChild
  split
  · exact coherent
  · next page built =>
    split
    · next refused => exact Builder.mount_refused refused ▸ coherent
    · next mounted =>
      obtain ⟨free, rfl⟩ := Builder.mount_ok mounted
      exact Builder.coherent_absorb coherent (Builder.coherent_build also built) free

mutual

theorem declare_coherent (draft : Drafting V H) (coherent : draft.builder.Coherent) :
    (declaration : Declaration V H) →
    (draft.declare declaration).1.builder.Coherent ∧
      ∀ builder ∈ draft.inside declaration, builder.Coherent
  | .state key type initial scope name => by
      refine ⟨?_, nofun⟩
      simp only [declare, declareState]
      split
      · next refused => exact Builder.state_refused refused ▸ coherent
      · next made => exact Builder.coherent_state coherent made
  | .signal key type initial name => by
      refine ⟨?_, nofun⟩
      simp only [declare, declareSignal]
      split
      · next refused => exact Builder.signal_refused refused ▸ coherent
      · next made => exact Builder.coherent_signal coherent made
  | .action id handler => by
      refine ⟨?_, nofun⟩
      simp only [declare, declareAction]
      split
      · next refused => exact Builder.action_refused refused ▸ coherent
      · next made => exact Builder.coherent_action coherent made
  | .view view => by
      refine ⟨?_, nofun⟩
      simp only [declare, declareView]
      split
      · next refused => exact Builder.setView_refused refused ▸ coherent
      · next made => exact Builder.coherent_setView coherent made
  | .mount id route declarations name => by
      have child := stages_coherent ⟨Builder.new id route, draft.handles⟩
        (Builder.coherent_new id route) declarations
      have finished := child _ (last_mem_stages _ declarations)
      exact ⟨mountChild_coherent coherent finished name, child⟩

/-- A coherent builder stays coherent, and so are those of the components at every depth. -/
theorem stages_coherent (draft : Drafting V H) (coherent : draft.builder.Coherent) :
    (declarations : List (Declaration V H)) →
    ∀ builder ∈ draft.stages declarations, builder.Coherent
  | [], builder, member => List.mem_singleton.mp member ▸ coherent
  | declaration :: rest, builder, member => by
      obtain ⟨next, below⟩ := declare_coherent draft coherent declaration
      rcases List.mem_append.mp member with here | later
      · rcases List.mem_cons.mp here with same | deeper
        · exact same ▸ coherent
        · exact below builder deeper
      · exact stages_coherent (draft.declare declaration).1 next rest builder later

end

end Drafting

/-- What a catalog answers agrees with what it lists. -/
structure Catalog.Consistent (page : Catalog V H) : Prop where
  coherent : page.Coherent
  actionOwner : ∀ action owner, page.ownerOfAction? action = some owner →
    page.knowsAction action = true ∧ owner ∈ page.components
  stateOwner : ∀ key owner, page.ownerOfState? key = some owner → owner ∈ page.components
  signalOwner : ∀ key owner, page.ownerOfSignal? key = some owner → owner ∈ page.components
  signals : ∀ key, page.knowsSignal key = true ↔ key ∈ page.signals.map DeclaredSignal.key

/-- A new tab has one value for each state that is kept with the tab and one for each signal, and
these are the initial ones. -/
structure Catalog.SeedsOnce (page : Catalog V H) : Prop where
  values : (Tab.fresh page).values.entries.Perm <|
    (page.states.filter fun state => state.scope == .connection).map
      fun state => (state.key, state.initial)
  signals : (Tab.fresh page).signals.entries.Perm <|
    page.signals.map fun signal => (signal.key, signal.initial)

theorem Catalog.consistent_of_coherent {page : Catalog V H} (coherent : page.Coherent)
    (indexed : page.Indexed) : page.Consistent where
  coherent := coherent
  actionOwner := by
    intro action owner owned
    obtain ⟨component, found, rfl⟩ := Option.map_eq_some_iff.mp owned
    exact ⟨coherent.ownersKnown action component found,
      coherent.actionOwners action component found⟩
  stateOwner := by
    intro key owner owned
    obtain ⟨state, found, own⟩ := Option.bind_eq_some_iff.mp owned
    exact coherent.stateOwners state (List.mem_of_find?_eq_some found) owner own
  signalOwner := by
    intro key owner owned
    obtain ⟨signal, found, own⟩ := Option.bind_eq_some_iff.mp owned
    exact coherent.signalOwners signal (List.mem_of_find?_eq_some found) owner own
  signals := indexed.knowsSignal_iff

theorem Catalog.seedsOnce_of_coherent {page : Catalog V H} (coherent : page.Coherent) :
    page.SeedsOnce where
  values := by
    apply KeyMap.ofList_perm
    rw [List.map_map]
    exact coherent.stateKeys.sublist (List.filter_sublist.map DeclaredState.key)
  signals := by
    apply KeyMap.ofList_perm
    rw [List.map_map]
    exact coherent.signalKeys

/-- The ids of all components in a tree, as often as they are mounted there. -/
def Blueprint.mountedIds (blueprint : Blueprint V H) : List String :=
  (Declaration.allNodes blueprint.declarations).filterMap Node.owner

/-- Whatever is declared and whatever of it is refused, at every stage and at every depth a builder
is coherent, and whatever is built of it answers for what it lists and gives a new tab each of its
values once. In the tree of what was not refused no two roots have the same id. -/
theorem catalogs_coherent (handles : Handles V) (blueprint : Blueprint V H) :
    let begun : Drafting V H := ⟨Builder.new blueprint.id blueprint.route, handles⟩
    (∀ builder ∈ begun.stages blueprint.declarations, builder.Coherent ∧
      ∀ page, builder.build = .ok page → page.Consistent ∧ page.SeedsOnce) ∧
    ∀ page, (blueprint.build handles).outcome = .ok page → page.Consistent ∧ page.SeedsOnce ∧
      page.components = (blueprint.accepted handles).mountedIds ∧
      (page.root.id :: (blueprint.accepted handles).mountedIds).Nodup := by
  intro begun
  have stages := Drafting.stages_coherent begun
    (Builder.coherent_new blueprint.id blueprint.route) blueprint.declarations
  have built (builder : Builder V H) (stage : builder ∈ begun.stages blueprint.declarations)
      (page : Catalog V H) (made : builder.build = .ok page) : page.Consistent ∧ page.SeedsOnce := by
    have coherent := Builder.coherent_build (stages builder stage) made
    exact ⟨Catalog.consistent_of_coherent coherent (Builder.build_indexed made),
      Catalog.seedsOnce_of_coherent coherent⟩
  constructor
  · intro builder stage
    exact ⟨stages builder stage, built builder stage⟩
  · intro page made
    obtain ⟨consistent, seeds⟩ := built _ (begun.last_mem_stages blueprint.declarations) page made
    have mounted : page.components = (blueprint.accepted handles).mountedIds :=
      (lists_accepted made).components
    refine ⟨consistent, seeds, mounted, ?_⟩
    rw [← mounted]
    exact consistent.coherent.ids

-- A second label, a shelf within the shelf, and a state and a signal that a box has already.
def shelf : Blueprint String Nat where
  id := "shelf"
  route := some "/"
  declarations := [
    .mount "box" none [
      .state "count" .json (.int 7) .connection none,
      .mount "label" none [.signal "text" .string "fragile" none, .view "label view"] none,
      .action "open" 1, .view "box view"] none,
    .mount "crate" none [
      .state "size" .json (.int 3) .connection none,
      .mount "label" none [.view "second label view"] none, .view "crate view"] none,
    .mount "shelf" none [.view "inner view"] none,
    .state "count" .json (.int 0) .connection none,
    .signal "text" .string "" none,
    .state "weight" .json (.int 12) .connection none,
    .action "open" 2,
    .view "shelf view"]

theorem catalogs_coherent_shelf :
    (∃ crate ∈ Drafting.stages ⟨Builder.new "shelf" (some "/"), Handles.empty⟩ shelf.declarations,
      crate.id = "crate" ∧ crate.components = ["label"] ∧ crate.Coherent) ∧
    ∃ page, (shelf.build Handles.empty).outcome = .ok page ∧ page.components = ["box", "label"] ∧
      page.ownerOfAction? "open" = some "box" ∧ "box" ∈ page.components ∧
      (Tab.fresh page).values.entries.Perm [("count", .int 7), ("weight", .int 12)] ∧
      ["shelf", "box", "label"].Nodup := by
  obtain ⟨stages, built⟩ := catalogs_coherent Handles.empty shelf
  obtain ⟨consistent, seeds, -, distinct⟩ := built _ rfl
  constructor
  · have crate : (Drafting.stages ⟨Builder.new "shelf" (some "/"), Handles.empty⟩
        shelf.declarations)[15]? = some _ := rfl
    have stage := List.mem_of_getElem? crate
    exact ⟨_, stage, rfl, rfl, (stages _ stage).1⟩
  · exact ⟨_, rfl, rfl, rfl, (consistent.actionOwner "open" "box" rfl).2, seeds.values, distinct⟩

end LiveTabs
