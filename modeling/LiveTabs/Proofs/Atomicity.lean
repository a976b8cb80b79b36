import LiveTabs.Blueprint
import LiveTabs.Proofs.Building
/-!
A declaration is carried out in full or not at all. Leaving out those that were refused, at every
depth, gives the same results for the rest and the same catalog, or the same error.
-/
namespace LiveTabs
variable {V H : Type}

/-- The call itself gave no error. What was refused inside a component that is mounted does not
count. -/
def Declared.stands : Declared → Bool
  | .refused _ => false
  | .mount _ mounted => mounted.isOk
  | _ => true

mutual

/-- A declaration without those that were refused inside it. -/
def Declaration.pruned : Declaration V H → Declared → Declaration V H
  | .mount id route declarations name, .mount declared _ =>
    .mount id route (Declaration.standing declarations declared) name
  | declaration, _ => declaration

/-- The declarations that were not refused, by their results. -/
def Declaration.standing : List (Declaration V H) → List Declared → List (Declaration V H)
  | declaration :: rest, declared :: others =>
    if declared.stands then declaration.pruned declared :: Declaration.standing rest others
    else Declaration.standing rest others
  | _, _ => []

end

mutual

def Declared.pruned : Declared → Declared
  | .mount declared mounted => .mount (Declared.standing declared) mounted
  | declared => declared

/-- The results without the errors of the calls themselves. -/
def Declared.standing : List Declared → List Declared
  | [] => []
  | declared :: rest =>
    if declared.stands then declared.pruned :: Declared.standing rest else Declared.standing rest

end

def Blueprint.standing (blueprint : Blueprint V H) (declared : List Declared) : Blueprint V H :=
  { blueprint with declarations := Declaration.standing blueprint.declarations declared }

namespace Drafting

/-- The same comes of both, but for what was refused inside a component. -/
structure Matches (pruned whole : Drafting V H × Declared) : Prop where
  builder : pruned.1.builder = whole.1.builder
  declared : pruned.2 = whole.2.pruned

/-! What comes of a call depends on the builder, and not on the handles at hand. -/
section
variable {draft other : Drafting V H} (same : other.builder = draft.builder)
include same

theorem declareState_matches (key : String) (type : StoreType) (initial : type.Carrier)
    (scope : Scope) (name : Option String) :
    Matches (other.declareState key type initial scope name)
      (draft.declareState key type initial scope name) := by
  unfold declareState
  rw [same]
  split <;> exact ⟨rfl, rfl⟩

theorem declareSignal_matches (key : String) (type : StoreType) (initial : type.Carrier)
    (name : Option String) :
    Matches (other.declareSignal key type initial name)
      (draft.declareSignal key type initial name) := by
  unfold declareSignal
  rw [same]
  split <;> exact ⟨rfl, rfl⟩

theorem declareAction_matches (id : String) (handler : H) :
    Matches (other.declareAction id handler) (draft.declareAction id handler) := by
  unfold declareAction
  rw [same]
  split <;> exact ⟨rfl, rfl⟩

theorem declareView_matches (view : V) :
    Matches (other.declareView view) (draft.declareView view) := by
  unfold declareView
  rw [same]
  split <;> exact ⟨rfl, rfl⟩

theorem mountChild_same {child second : Drafting V H} (alike : second.builder = child.builder)
    (name : Option String) :
    (other.mountChild second name).1.builder = (draft.mountChild child name).1.builder ∧
      (other.mountChild second name).2 = (draft.mountChild child name).2 := by
  unfold mountChild
  rw [same, alike]
  split
  · exact ⟨rfl, rfl⟩
  · split <;> exact ⟨rfl, rfl⟩

end

theorem mountChild_refused {draft child : Drafting V H} {name : Option String}
    (refused : (draft.mountChild child name).2.isOk = false) :
    (draft.mountChild child name).1.builder = draft.builder := by
  unfold mountChild at refused ⊢
  split
  · rfl
  · next built =>
    split
    · next clashed => exact Builder.mount_refused clashed
    · next mounted => simp [built, mounted, Except.isOk, Except.toBool] at refused

/-- A call that is refused leaves the builder as it was. -/
theorem declare_refused {draft : Drafting V H} {declaration : Declaration V H}
    (refused : (draft.declare declaration).2.stands = false) :
    (draft.declare declaration).1.builder = draft.builder := by
  cases declaration with
  | state key type initial scope name =>
    simp only [declare, declareState] at refused ⊢
    split at refused
    · next failed => exact Builder.state_refused failed
    · nomatch refused
  | signal key type initial name =>
    simp only [declare, declareSignal] at refused ⊢
    split at refused
    · next failed => exact Builder.signal_refused failed
    · nomatch refused
  | action id handler =>
    simp only [declare, declareAction] at refused ⊢
    split at refused
    · next failed => exact Builder.action_refused failed
    · nomatch refused
  | view view =>
    simp only [declare, declareView] at refused ⊢
    split at refused
    · next failed => exact Builder.setView_refused failed
    · nomatch refused
  | mount id route declarations name =>
    simp only [declare, Declared.stands] at refused ⊢
    exact mountChild_refused refused

mutual

theorem declare_pruned (draft other : Drafting V H) (same : other.builder = draft.builder) :
    (declaration : Declaration V H) →
    Matches (other.declare (declaration.pruned (draft.declare declaration).2))
      (draft.declare declaration)
  | .mount id route declarations name => by
      have inside := declareAll_standing ⟨Builder.new id route, draft.handles⟩
        ⟨Builder.new id route, other.handles⟩ rfl declarations
      obtain ⟨merged, mounted⟩ := mountChild_same same inside.1 name
      refine ⟨merged, ?_⟩
      simp only [declare, Declaration.pruned, Declared.pruned, inside.2, mounted]
  | .state key type initial scope name => declareState_matches same key type initial scope name
  | .signal key type initial name => declareSignal_matches same key type initial name
  | .action id handler => declareAction_matches same id handler
  | .view view => declareView_matches same view

/-- Without the declarations that were refused, the others fare as before. -/
theorem declareAll_standing (draft other : Drafting V H) (same : other.builder = draft.builder) :
    (declarations : List (Declaration V H)) →
    let whole := draft.declareAll declarations
    let standing := other.declareAll (Declaration.standing declarations whole.2)
    standing.1.builder = whole.1.builder ∧ standing.2 = Declared.standing whole.2
  | [] => ⟨same, rfl⟩
  | declaration :: rest => by
      simp only [declareAll, Declaration.standing, Declared.standing]
      cases stands : (draft.declare declaration).2.stands with
      | true =>
        have first := declare_pruned draft other same declaration
        have later := declareAll_standing _ _ first.builder rest
        rw [if_pos rfl, if_pos rfl]
        exact ⟨later.1, List.cons_eq_cons.mpr ⟨first.declared, later.2⟩⟩
      | false =>
        -- The builder comes to the next call as if the refused one had not been made.
        have later := declareAll_standing _ _ (same.trans (declare_refused stands).symm) rest
        rw [if_neg Bool.false_ne_true, if_neg Bool.false_ne_true]
        exact later

end

/-- A child with an id or a key that is taken is not mounted, and neither is any child once the view
is set. -/
theorem mount_unmountable {draft : Drafting V H} {id : String} {route : Option String}
    {declarations : List (Declaration V H)} {name : Option String} {child : Catalog V H}
    (built : (declareAll ⟨Builder.new id route, draft.handles⟩ declarations).1.builder.build =
      .ok child) (clashes : ¬ draft.builder.Mountable child) :
    (draft.declare (.mount id route declarations name)).2.stands = false := by
  simp only [declare, Declared.stands, mountChild, built]
  split
  · rfl
  · next mounted => exact absurd (Builder.mount_ok mounted).1 clashes

end Drafting

/-- Leaving out every declaration that was refused, in the components that are mounted too, changes
neither what comes of the others nor the catalog or the error in the end. Whatever is refused leaves
the builder as it was, and so does a component that cannot be mounted since an id, a state, a signal
or an action in it clashes or the view is already set. -/
theorem refused_leaves_no_trace (handles : Handles V) (blueprint : Blueprint V H) :
    let built := blueprint.build handles
    let again := (blueprint.standing built.declared).build handles
    again.declared = Declared.standing built.declared ∧ again.outcome = built.outcome ∧
    ∀ (draft : Drafting V H) (declaration : Declaration V H),
      ((draft.declare declaration).2.stands = false →
        (draft.declare declaration).1.builder = draft.builder) ∧
      ∀ id route declarations name child, declaration = .mount id route declarations name →
        (Drafting.declareAll ⟨Builder.new id route, draft.handles⟩ declarations).1.builder.build =
          .ok child →
        ¬ draft.builder.Mountable child →
        (draft.declare declaration).2.stands = false ∧
          (draft.declare declaration).1.builder = draft.builder := by
  intro built again
  let begun : Drafting V H := ⟨Builder.new blueprint.id blueprint.route, handles⟩
  obtain ⟨same, declared⟩ := Drafting.declareAll_standing begun begun rfl blueprint.declarations
  refine ⟨declared, congrArg Builder.build same, ?_⟩
  intro draft declaration
  constructor
  · exact Drafting.declare_refused
  · rintro id route declarations name child rfl made clashes
    have refused : (draft.declare (.mount id route declarations name)).2.stands = false :=
      Drafting.mount_unmountable made clashes
    exact ⟨refused, Drafting.declare_refused refused⟩

end LiveTabs
