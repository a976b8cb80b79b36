import LiveTabs.Connection
import LiveTabs.Proofs.InitialValues
import LiveTabs.Proofs.JsonWriting
import LiveTabs.Proofs.Sessions
/-!
What is written is what is read. At every type the written form of a value is read as that value and
nothing else, so a write that is done is seen through every handle with the same key and type, and a
new tab shows the initial values that its page declares.
-/
namespace LiveTabs

namespace StoreType
section
variable {α : Type} {read : Json → Option α} {write : α → Json}
  (back : ∀ value, read (write value) = some value)
include back

theorem decodeOptional_write (apart : ∀ value, write value ≠ .null) (value : Option α) :
    decodeOptional read (value.elim .null write) = some value := by
  cases value with
  | none => rfl
  | some present =>
    have own : decodeOptional read (write present) = (read (write present)).map some := by
      unfold decodeOptional
      split
      · next absent => exact absurd absent (apart present)
      · rfl
    rw [Option.elim_some, own, back, Option.map_some]

theorem decodeList_write (items : List α) :
    decodeList read (.arr (items.map write)) = some items := by
  induction items with
  | nil => rfl
  | cons item rest ih =>
    simp only [decodeList] at ih ⊢
    simp [back, ih]

theorem mapM_members (members : List (String × α)) :
    (members.map fun member => (member.1, write member.2)).mapM
      (fun member => (read member.2).map fun value => (member.1, value)) = some members := by
  induction members with
  | nil => rfl
  | cons member rest ih => simp [back, ih]

/-- The members of a map come back as they were, since they stand in key order. -/
theorem decodeMap_write (values : KeyMap α) :
    decodeMap read (.ofMembers (values.map write)) = some values := by
  have listed := mapM_members back values.entries
  rw [Json.ofMembers, decodeMap, decodeMembers, KeyMap.map, KeyMap.mapKeyed, listed, Option.map_some,
    KeyMap.ofList_ordered values.ordered]

end

theorem decodeInt_encodeInt {kind : IntKind} (n : Ranged kind) :
    decodeInt kind (encodeInt n) = some n := Ranged.ofInt?_val n

theorem decode_encode (type : StoreType) {value : type.Carrier} {written : Json}
    (encoded : type.encode value = .ok written) : type.decode written = some value := by
  cases type with
  | picky =>
    simp only [encode] at encoded
    split at encoded
    · nomatch encoded
    · rw [← Except.ok.inj encoded]
      exact decodeInt_encodeInt value
  | int kind =>
    rw [← Except.ok.inj encoded]
    exact decodeInt_encodeInt value
  | char =>
    rw [← Except.ok.inj encoded]
    simp [decode, decodeChar]
  | optionalInt =>
    rw [← Except.ok.inj encoded]
    exact decodeOptional_write decodeInt_encodeInt nofun value
  | optionalString =>
    have back : ∀ text, decodeString (.str text) = some text := fun _ => rfl
    rw [← Except.ok.inj encoded]
    exact decodeOptional_write back nofun value
  | intList =>
    rw [← Except.ok.inj encoded]
    exact decodeList_write decodeInt_encodeInt value
  | intMap =>
    rw [← Except.ok.inj encoded]
    exact decodeMap_write decodeInt_encodeInt value
  | pair =>
    rw [← Except.ok.inj encoded]
    simp [decode, decodePair, decodeInt_encodeInt, decodeString]
  | scope =>
    rw [← Except.ok.inj encoded]
    exact Scope.ofName?_name value
  | float | bool | string | todo | json =>
    rw [← Except.ok.inj encoded]
    rfl

/-- What is tried first fits, so no other form of a written value is ever tried. -/
theorem coerce_encode (type : StoreType) {value : type.Carrier} {written : Json}
    (encoded : type.encode value = .ok written) (initial : type.Carrier) :
    type.coerce written initial = value := by
  rw [coerce, List.findSome?_cons, decode_encode type encoded, Option.getD_some]

end StoreType

theorem Sessions.get?_set {sessions : Sessions} {now : Instant} {id key : String} {value : Json}
    (done : (sessions.set now id key value).2 = true) :
    (sessions.set now id key value).1.get? id key = some value := by
  cases refused : sessions.isRefused id with
  | true => simp [set, refused] at done
  | false =>
    have admitted : (sessions.set now id key value).1.isRefused id = false := by
      rw [isRefused, refused_set]
      exact refused
    have held := sessions.held?_set now id key value id key
    rw [if_pos ⟨done, rfl, rfl⟩] at held
    rw [get?, admitted]
    exact held

namespace Scene
variable {type : StoreType} {scene : Scene} {now : Instant}

/-- Read through any handle for the key and scope at the type, a state has the value, whatever
initial value the handle has. -/
def ReadsState (scene : Scene) (scope : Scope) (key : String) (type : StoreType)
    (value : type.Carrier) : Prop :=
  ∀ initial : type.Carrier, scene.stateValue ⟨key, scope, initial⟩ = value

def ReadsSignal (scene : Scene) (key : String) (type : StoreType) (value : type.Carrier) : Prop :=
  ∀ initial : type.Carrier, scene.signalValue ⟨key, initial⟩ = value

section
variable {value : type.Carrier} {written : Json} (encoded : type.encode value = .ok written)
include encoded

theorem readsState_of_stored {scope : Scope} {key : String}
    (stored : scene.stored? scope key = some written) : scene.ReadsState scope key type value := by
  intro initial
  simp only [stateValue, stored]
  exact type.coerce_encode encoded initial

theorem readsSignal_of_stored {key : String} (stored : scene.tab.signals.get? key = some written) :
    scene.ReadsSignal key type value := by
  intro initial
  simp only [signalValue, stored]
  exact type.coerce_encode encoded initial

end

theorem store_stored {scope : Scope} {key : String} {written : Json}
    (done : (scene.store now scope key written).2 = true) :
    (scene.store now scope key written).1.stored? scope key = some written := by
  cases scope with
  | connection => simp [store, stored?]
  | application => simp [store, stored?]
  | session =>
    cases session : scene.session with
    | none => simp [store, session] at done
    | some id =>
      simp only [store, session] at done ⊢
      simp only [stored?, withSessions, session, Option.bind_some]
      exact Sessions.get?_set done

theorem setState_done {state : State type} {value : type.Carrier}
    (done : (scene.setState now state value).2 = true) :
    (scene.setState now state value).1.ReadsState state.scope state.key type value := by
  unfold setState at done ⊢
  split at done
  · next acting =>
    rw [if_pos acting]
    cases encoded : type.encode value with
    | error refused => simp [encoded] at done
    | ok written =>
      simp only [encoded] at done
      exact readsState_of_stored encoded (store_stored done)
  · nomatch done

theorem setSignal_done {signal : Signal type} {value : type.Carrier}
    (done : (scene.setSignal signal value).2 = true) :
    (scene.setSignal signal value).1.ReadsSignal signal.key type value := by
  unfold setSignal at done ⊢
  split at done
  · next acting =>
    rw [if_pos acting]
    cases encoded : type.encode value with
    | error refused => simp [encoded] at done
    | ok written => exact readsSignal_of_stored encoded (by simp)
  · nomatch done

/-- Whether the tab may keep values in a scope: its own session has to be there and in force. -/
def keeps (scene : Scene) : Scope → Bool
  | .session => scene.session.any fun id => !scene.shared.sessions.isRefused id
  | _ => true

section
variable {value : type.Carrier} {written : Json} (encoded : type.encode value = .ok written)
include encoded

theorem setState_answer (state : State type) :
    (scene.setState now state value).2 = (scene.mayWrite && scene.keeps state.scope) := by
  have stored : (scene.store now state.scope state.key written).2 = scene.keeps state.scope := by
    cases state.scope with
    | connection => rfl
    | application => rfl
    | session =>
      cases session : scene.session with
      | none => simp [store, keeps, session]
      | some id =>
        cases refused : scene.shared.sessions.isRefused id <;>
          simp [store, keeps, session, Sessions.set, refused]
  rw [setState, encoded]
  split
  · next acting => rw [acting, Bool.true_and, stored]
  · next idle => simp [idle]

theorem setSignal_answer (signal : Signal type) :
    (scene.setSignal signal value).2 = scene.mayWrite := by
  rw [setSignal, encoded]
  split
  · next acting => exact acting.symm
  · next idle => simp [idle]

end

section
variable {value : type.Carrier} {refusal : EncodeError}
  (refused : type.encode value = .error refusal)
include refused

theorem setState_unencodable (state : State type) :
    scene.setState now state value = (scene, false) := by
  rw [setState, refused]
  split <;> rfl

theorem setSignal_unencodable (signal : Signal type) :
    scene.setSignal signal value = (scene, false) := by
  rw [setSignal, refused]
  split <;> rfl

end

/-- Of all that the nodes of a page declare, each state kept with the tab and each signal is read as
it was declared. -/
structure ReadsDeclared {V H : Type} (scene : Scene) (nodes : List (Node V H)) : Prop where
  states : ∀ node ∈ nodes, ∀ key type initial name,
    Declaration.state key type initial .connection name ∈ node.declarations →
      scene.ReadsState .connection key type initial
  signals : ∀ node ∈ nodes, ∀ key type initial name,
    Declaration.signal key type initial name ∈ node.declarations →
      scene.ReadsSignal key type initial

theorem readsDeclared_of_fresh {V H : Type} {page : Catalog V H} {blueprint : Blueprint V H}
    (lists : page.Lists blueprint) (values : scene.tab.values = (Tab.fresh page).values)
    (signals : scene.tab.signals = (Tab.fresh page).signals) :
    scene.ReadsDeclared blueprint.nodes where
  states := by
    intro node member key type initial name inside
    obtain ⟨written, encoded, held⟩ := lists.fresh_value member inside
    exact readsState_of_stored encoded ((congrArg (·.get? key) values).trans held)
  signals := by
    intro node member key type initial name inside
    obtain ⟨written, encoded, held⟩ := lists.fresh_signal member inside
    exact readsSignal_of_stored encoded ((congrArg (·.get? key) signals).trans held)

end Scene

/-- At every type the written form of a value is read as that value, and so is a state or signal
after a write that was done. In an action it is done for every value with a written form, unless a
session is missing or refused. A value without one is not stored and nothing changes. A tab that has
just been opened reads everything that was declared for it, in the page and in each component
mounted in it, as the initial value declared. -/
theorem written_values_read_back :
    (∀ (type : StoreType) (value : type.Carrier),
      (∀ written, type.encode value = .ok written →
        ∀ initial, type.coerce written initial = value) ∧
      ∀ (scene : Scene) (now : Instant) (state : State type) (signal : Signal type),
        ((scene.setState now state value).2 = true →
          (scene.setState now state value).1.ReadsState state.scope state.key type value) ∧
        ((scene.setSignal signal value).2 = true →
          (scene.setSignal signal value).1.ReadsSignal signal.key type value) ∧
        (∀ written, type.encode value = .ok written →
          (scene.setState now state value).2 = (scene.mayWrite && scene.keeps state.scope) ∧
            (scene.setSignal signal value).2 = scene.mayWrite) ∧
        ∀ refusal, type.encode value = .error refusal →
          scene.setState now state value = (scene, false) ∧
            scene.setSignal signal value = (scene, false)) ∧
    ∀ (V H : Type) (handles : Handles V) (blueprint : Blueprint V H) (page : Catalog V H)
      (view : V → View) (handler : H → Handler) (now : Instant) (id : String)
      (session : Option String) (capacity : Nat) (connection : Connection)
      (built : (blueprint.build handles).outcome = .ok page),
      Connection.fresh? now id session
        ⟨page.map view handler, (Builder.build_indexed built).map view handler⟩ capacity =
          some connection →
      ∀ (shared : Shared) (mode : Mode),
        (connection.scene shared mode).ReadsDeclared (blueprint.accepted handles).nodes := by
  constructor
  · intro type value
    constructor
    · intro written encoded initial
      exact type.coerce_encode encoded initial
    · intro scene now state signal
      refine ⟨Scene.setState_done, Scene.setSignal_done, ?_, ?_⟩
      · intro written encoded
        exact ⟨Scene.setState_answer encoded state, Scene.setSignal_answer encoded signal⟩
      · intro refusal refused
        exact ⟨Scene.setState_unencodable refused state, Scene.setSignal_unencodable refused signal⟩
  · intro V H handles blueprint page view handler now id session capacity connection built opened
      shared mode
    obtain ⟨queue, -, rfl⟩ := Option.map_eq_some_iff.mp opened
    exact Scene.readsDeclared_of_fresh (lists_accepted built) rfl rfl

-- The page cannot declare a picky state with a negative initial value; the others stand.
def pickyPage : Blueprint View Handler where
  id := "page"
  route := some "/"
  declarations := [
    .mount "counter" none [
      .state "low" .picky ⟨-5, by decide, by decide⟩ .connection none,
      .state "count" .picky ⟨5, by decide, by decide⟩ .connection none, .view []] none,
    .signal "letter" .char 'x' none,
    .view []]

def pickyScene : Scene :=
  ⟨"@conn0@", none, ⟨KeyMap.empty, KeyMap.empty, KeyMap.empty, .action⟩, ⟨1, []⟩, Shared.empty⟩

theorem written_values_read_back_picky :
    let high : State .picky := ⟨"count", .connection, ⟨9, by decide, by decide⟩⟩
    (pickyScene.setState 0 high ⟨5, by decide, by decide⟩).1.ReadsState .connection "count" .picky
        ⟨5, by decide, by decide⟩ ∧
      pickyScene.setState 0 high ⟨-5, by decide, by decide⟩ = (pickyScene, false) ∧
      ∃ page, (pickyPage.build Handles.empty).outcome = .ok page ∧
        ∃ opened connection, opened.toCatalog = page.map id id ∧
          Connection.fresh? 0 "@conn1@" none opened 1 = some connection ∧
          (connection.scene Shared.empty .view).ReadsState .connection "count" .picky
            ⟨5, by decide, by decide⟩ ∧
          (connection.scene Shared.empty .view).ReadsSignal "letter" .char 'x' := by
  intro high
  obtain ⟨values, tabs⟩ := written_values_read_back
  have done := (values .picky ⟨5, by decide, by decide⟩).2 pickyScene 0 high
    ⟨"letter", high.initial⟩
  have refused := (values .picky ⟨-5, by decide, by decide⟩).2 pickyScene 0 high
    ⟨"letter", high.initial⟩
  have built : (pickyPage.build Handles.empty).outcome = .ok _ := rfl
  refine ⟨done.1 rfl, (refused.2.2.2 _ rfl).1, _, built,
    ⟨_, (Builder.build_indexed built).map id id⟩, _, rfl, rfl, ?_⟩
  have reads := tabs View Handler Handles.empty pickyPage _ id id 0 "@conn1@" none 1 _ built rfl
    Shared.empty .view
  constructor
  · apply reads.states ⟨some "counter", _⟩ (List.mem_cons_of_mem _ List.mem_cons_self) "count"
    exact List.mem_cons_self
  · apply reads.signals ⟨none, _⟩ List.mem_cons_self "letter"
    exact List.mem_cons_of_mem _ List.mem_cons_self

end LiveTabs
