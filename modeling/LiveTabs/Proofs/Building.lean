import LiveTabs.Catalog.Builder
import LiveTabs.Proofs.KeyMap
/-!
What each declaration has done once it is accepted: the conditions that were checked, and the
builder that comes of it. One that is refused has left the builder as it was.
-/
namespace LiveTabs

theorem bind_eq_ok_iff {ε α β : Type} (first : Except ε α) (next : α → Except ε β) (result : β) :
    (first >>= next) = .ok result ↔ ∃ value, first = .ok value ∧ next value = .ok result := by
  cases first with
  | error error => simp [bind, Except.bind]
  | ok value => simp [bind, Except.bind]

theorem bind_eq_error_iff {ε α β : Type} (first : Except ε α) (next : α → Except ε β) (error : ε) :
    (first >>= next) = .error error ↔
      first = .error error ∨ ∃ value, first = .ok value ∧ next value = .error error := by
  cases first with
  | error error => simp [bind, Except.bind]
  | ok value => simp [bind, Except.bind]

variable {V H : Type}

theorem Catalog.Indexed.knowsSignal_iff {page : Catalog V H} (indexed : page.Indexed)
    (key : String) : page.knowsSignal key = true ↔ key ∈ page.signals.map DeclaredSignal.key := by
  rw [Catalog.knowsSignal, indexed, DeclaredSignal.keySet, KeyMap.ofList,
    KeyMap.contains_insertAll_iff, List.map_map]
  simp

/-- Only an action has an owner. -/
def OwnersKnown (actions : KeyMap H) (owners : KeyMap (Component V)) : Prop :=
  ∀ id component, owners.get? id = some component → actions.contains id = true

/-! Actions are entered with their owners, so that no owner is entered alone. -/
namespace OwnersKnown

theorem empty : OwnersKnown (KeyMap.empty : KeyMap H) (KeyMap.empty : KeyMap (Component V)) := by
  intro id component owned
  rw [KeyMap.get?_empty] at owned
  nomatch owned

variable {actions : KeyMap H} {owners : KeyMap (Component V)} (known : OwnersKnown actions owners)
include known

theorem unowned {id : String} (absent : actions.contains id = false) : owners.get? id = none := by
  cases owned : owners.get? id with
  | none => rfl
  | some component => exact absurd (known id component owned) (absent ▸ Bool.false_ne_true)

theorem insert (id : String) (handler : H) : OwnersKnown (actions.insert id handler) owners := by
  intro other component owned
  rw [KeyMap.contains_insert, known other component owned, Bool.or_true]

end OwnersKnown

namespace Builder

theorem refuseClosed_ok (builder : Builder V H) (key : String) (u : Unit) :
    builder.refuseClosed key = .ok u ↔ builder.view = none := by
  cases view : builder.view <;> simp [refuseClosed, view]

theorem refuseDuplicate_ok (builder : Builder V H) (kind : DeclarationKind) (key : String)
    (taken : Bool) (u : Unit) :
    builder.refuseDuplicate kind key taken = .ok u ↔ taken = false := by
  cases taken <;> simp [refuseDuplicate]

theorem refuseTaken_ok (builder : Builder V H) (kind : DeclarationKind)
    (taken : String → Bool) (keys : List String) (u : Unit) :
    builder.refuseTaken kind taken keys = .ok u ↔ ∀ key ∈ keys, taken key = false := by
  cases found : keys.find? taken with
  | none =>
    have absent := List.find?_eq_none.mp found
    simpa [refuseTaken, found] using absent
  | some key =>
    have member := List.mem_of_find?_eq_some found
    have hit := List.find?_some found
    simp only [refuseTaken, found, reduceCtorEq, false_iff]
    intro free
    exact Bool.false_ne_true ((free key member).symm.trans hit)

theorem encodeInitial_ok (key : String) (type : StoreType) (initial : type.Carrier)
    (written : Json) :
    encodeInitial key type initial = .ok written ↔ type.encode initial = .ok written := by
  unfold encodeInitial
  cases type.encode initial with
  | error refused => exact ⟨nofun, nofun⟩
  | ok value =>
    constructor
    · intro same
      exact congrArg Except.ok (Except.ok.inj same)
    · intro same
      exact congrArg Except.ok (Except.ok.inj same)

theorem writeInitial_ok {builder : Builder V H} {kind : DeclarationKind} {key : String}
    {taken : Bool} {type : StoreType} {initial : type.Carrier} {written : Json}
    (accepted : builder.writeInitial kind key taken type initial = .ok written) :
    type.encode initial = .ok written ∧ builder.view = none ∧ taken = false := by
  unfold writeInitial at accepted
  obtain ⟨_, opened, accepted⟩ := (bind_eq_ok_iff _ _ _).mp accepted
  obtain ⟨_, fresh, encoded⟩ := (bind_eq_ok_iff _ _ _).mp accepted
  exact ⟨(encodeInitial_ok key type initial written).mp encoded,
    (refuseClosed_ok builder key _).mp opened,
    (refuseDuplicate_ok builder kind key taken _).mp fresh⟩

theorem state_ok {builder after : Builder V H} {key : String} {type : StoreType}
    {initial : type.Carrier} {scope : Scope} {handle : State type}
    (accepted : builder.state key type initial scope = (after, .ok handle)) :
    ∃ written, builder.writeInitial .state key (builder.hasState key) type initial = .ok written ∧
      after = { builder with states := builder.states ++ [⟨key, written, scope, none⟩] } := by
  unfold state at accepted
  split at accepted
  · nomatch accepted
  · next written admitted => exact ⟨written, admitted, (Prod.mk.inj accepted).1.symm⟩

theorem signal_ok {builder after : Builder V H} {key : String} {type : StoreType}
    {initial : type.Carrier} {handle : Signal type}
    (accepted : builder.signal key type initial = (after, .ok handle)) :
    ∃ written, builder.writeInitial .signal key (builder.hasSignal key) type initial = .ok written ∧
      after = { builder with signals := builder.signals ++ [⟨key, written, none⟩] } := by
  unfold signal at accepted
  split at accepted
  · nomatch accepted
  · next written admitted => exact ⟨written, admitted, (Prod.mk.inj accepted).1.symm⟩

theorem action_ok {builder after : Builder V H} {id : String} {handler : H}
    (accepted : builder.action id handler = (after, .ok ())) :
    builder.actions.contains id = false ∧
      after = { builder with actions := builder.actions.insert id handler } := by
  unfold action at accepted
  split at accepted
  · nomatch accepted
  · next fresh =>
    exact ⟨(refuseDuplicate_ok builder _ id _ _).mp fresh, (Prod.mk.inj accepted).1.symm⟩

theorem setView_ok {builder after : Builder V H} {view : V}
    (accepted : builder.setView view = (after, .ok ())) :
    builder.view = none ∧ after = { builder with view := some view } := by
  unfold setView at accepted
  split at accepted
  · nomatch accepted
  · next opened =>
    exact ⟨Option.not_isSome_iff_eq_none.mp opened, (Prod.mk.inj accepted).1.symm⟩

theorem build_ok {builder : Builder V H} {page : Catalog V H}
    (accepted : builder.build = .ok page) :
    ∃ view, builder.view = some view ∧
      page = ⟨builder.id, builder.route, view, builder.states, builder.signals, builder.actions,
        builder.owners, builder.components, DeclaredSignal.keySet builder.signals⟩ := by
  cases present : builder.view with
  | none => simp [build, present] at accepted
  | some view =>
    simp only [build, present] at accepted
    exact ⟨view, rfl, (Except.ok.inj accepted).symm⟩

/-- A child can be mounted on an open builder where none of its ids and keys is taken. -/
structure Mountable (builder : Builder V H) (child : Catalog V H) : Prop where
  opened : builder.view = none
  components : ∀ id ∈ child.id :: child.components, builder.hasComponent id = false
  states : ∀ state ∈ child.states, builder.hasState state.key = false
  signals : ∀ signal ∈ child.signals, builder.hasSignal signal.key = false
  actions : ∀ id, child.actions.contains id = true → builder.actions.contains id = false

theorem mountable_ok (builder : Builder V H) (child : Catalog V H) (u : Unit)
    (accepted : builder.mountable child = .ok u) : builder.Mountable child := by
  unfold mountable at accepted
  obtain ⟨_, opened, accepted⟩ := (bind_eq_ok_iff _ _ _).mp accepted
  obtain ⟨_, components, accepted⟩ := (bind_eq_ok_iff _ _ _).mp accepted
  obtain ⟨_, states, accepted⟩ := (bind_eq_ok_iff _ _ _).mp accepted
  obtain ⟨_, signals, actions⟩ := (bind_eq_ok_iff _ _ _).mp accepted
  have freeStates := (refuseTaken_ok builder _ _ _ _).mp states
  have freeSignals := (refuseTaken_ok builder _ _ _ _).mp signals
  have freeActions := (refuseTaken_ok builder _ _ _ _).mp actions
  exact {
    opened := (refuseClosed_ok builder child.id _).mp opened
    components := (refuseTaken_ok builder _ _ _ _).mp components
    states := fun state member => freeStates state.key (List.mem_map_of_mem member)
    signals := fun signal member => freeSignals signal.key (List.mem_map_of_mem member)
    actions := fun id known => freeActions id ((child.actions.mem_keys_iff id).mpr known) }

theorem mount_ok {builder after : Builder V H} {child : Catalog V H} {mounted : Component V}
    (accepted : builder.mount child = (after, .ok mounted)) :
    builder.Mountable child ∧ after = builder.absorb child := by
  unfold mount at accepted
  split at accepted
  · nomatch accepted
  · next free => exact ⟨mountable_ok builder child () free, (Prod.mk.inj accepted).1.symm⟩

@[simp] theorem absorb_action (builder : Builder V H) (child : Catalog V H) (id : String) :
    (builder.absorb child).actions.get? id =
      (child.actions.get? id).or (builder.actions.get? id) :=
  KeyMap.get?_insertAll_entries builder.actions child.actions id

@[simp] theorem absorb_owner (builder : Builder V H) (child : Catalog V H) (id : String) :
    (builder.absorb child).owners.get? id =
      ((child.actions.get? id).map fun _ => (child.owners.get? id).getD child.root).or
        (builder.owners.get? id) := by
  rw [absorb, KeyMap.get?_insertAll_entries, Catalog.ownersMounted, KeyMap.get?_mapKeyed]

theorem absorb_ownersKnown {builder : Builder V H}
    (known : OwnersKnown builder.actions builder.owners) (child : Catalog V H) :
    OwnersKnown (builder.absorb child).actions (builder.absorb child).owners := by
  intro id component owned
  rw [KeyMap.contains, absorb_action]
  rw [absorb_owner] at owned
  cases own : child.actions.get? id with
  | some handler => rfl
  | none =>
    rw [own, Option.map_none, Option.none_or] at owned
    exact known id component owned

/-! Nothing is entered before everything was checked. -/
section Refused
variable {builder after : Builder V H} {error : BuildError}

theorem state_refused {key : String} {type : StoreType} {initial : type.Carrier} {scope : Scope}
    (refused : builder.state key type initial scope = (after, .error error)) : after = builder := by
  unfold state at refused
  split at refused
  · exact (Prod.mk.inj refused).1.symm
  · nomatch refused

theorem signal_refused {key : String} {type : StoreType} {initial : type.Carrier}
    (refused : builder.signal key type initial = (after, .error error)) : after = builder := by
  unfold signal at refused
  split at refused
  · exact (Prod.mk.inj refused).1.symm
  · nomatch refused

theorem action_refused {id : String} {handler : H}
    (refused : builder.action id handler = (after, .error error)) : after = builder := by
  unfold action at refused
  split at refused
  · exact (Prod.mk.inj refused).1.symm
  · nomatch refused

theorem setView_refused {view : V} (refused : builder.setView view = (after, .error error)) :
    after = builder := by
  unfold setView at refused
  split at refused
  · exact (Prod.mk.inj refused).1.symm
  · nomatch refused

theorem mount_refused {child : Catalog V H}
    (refused : builder.mount child = (after, .error error)) : after = builder := by
  unfold mount at refused
  split at refused
  · exact (Prod.mk.inj refused).1.symm
  · nomatch refused

end Refused
end Builder
end LiveTabs
