import LiveTabs.Connection
import LiveTabs.Proofs.Reading
import LiveTabs.Proofs.Utf8
import Mathlib.Data.List.Forall2
/-!
How the markup of a view is put together from the fragments of its components. A component that is
embedded, however deep, is rendered to the same text as when it is sent by itself, and the bytes
around it have no part in that.
-/
namespace LiveTabs

/-- Parts in a row none of which is a component, or one component. -/
inductive Stretch where
  | plain (run : List Part)
  | component (id : String) (inner : List Part)

namespace Stretch

def parts : Stretch → List Part
  | plain run => run
  | component id inner => [.component id inner]

/-- Puts a part that is no component before what follows it. -/
def prepend (part : Part) : List Stretch → List Stretch
  | plain run :: rest => plain (part :: run) :: rest
  | rest => plain [part] :: rest

/-- A view cut before and after each of its components. -/
def cut : View → List Stretch
  | [] => []
  | .component id inner :: rest => component id inner :: cut rest
  | part :: rest => prepend part (cut rest)

def Plain (part : Part) : Prop := ∀ id inner, part ≠ .component id inner

/-- A run has at least one part and goes on up to a component or the end. -/
inductive Maximal : List Stretch → Prop
  | nil : Maximal []
  | component {id : String} {inner : List Part} {rest : List Stretch} :
    Maximal rest → Maximal (component id inner :: rest)
  | last {run : List Part} (present : run ≠ []) (plains : ∀ part ∈ run, Plain part) :
    Maximal [plain run]
  | before {run : List Part} {id : String} {inner : List Part} {rest : List Stretch}
    (present : run ≠ []) (plains : ∀ part ∈ run, Plain part) :
    Maximal (Stretch.component id inner :: rest) →
    Maximal (plain run :: Stretch.component id inner :: rest)

theorem cut_plain {part : Part} (plain : Plain part) (rest : View) :
    cut (part :: rest) = prepend part (cut rest) := by
  cases part with
  | component id inner => exact absurd rfl (plain id inner)
  | _ => rfl

theorem parts_prepend (part : Part) (stretches : List Stretch) :
    (prepend part stretches).flatMap parts = part :: stretches.flatMap parts := by
  cases stretches with
  | nil => rfl
  | cons first rest => cases first <;> rfl

theorem maximal_prepend {part : Part} (isPlain : Plain part) {stretches : List Stretch}
    (maximal : Maximal stretches) : Maximal (prepend part stretches) := by
  have single : ∀ other ∈ [part], Plain other := by simpa using isPlain
  have longer {run : List Part} (plains : ∀ other ∈ run, Plain other) :
      ∀ other ∈ part :: run, Plain other := by simpa using ⟨isPlain, plains⟩
  cases maximal with
  | nil => exact .last (List.cons_ne_nil _ _) single
  | component rest => exact .before (List.cons_ne_nil _ _) single (.component rest)
  | last present plains => exact .last (List.cons_ne_nil _ _) (longer plains)
  | before present plains rest => exact .before (List.cons_ne_nil _ _) (longer plains) rest

/-- A part is a component or it is plain. -/
theorem component_or_plain (part : Part) :
    (∃ id inner, part = .component id inner) ∨ Plain part := by
  cases part with
  | component id inner => exact .inl ⟨id, inner, rfl⟩
  | _ => exact .inr nofun

theorem parts_cut (view : View) : (cut view).flatMap parts = view := by
  induction view with
  | nil => rfl
  | cons part rest ih =>
    rcases component_or_plain part with ⟨id, inner, rfl⟩ | plain
    · exact congrArg (List.cons _) ih
    · rw [cut_plain plain, parts_prepend, ih]

theorem maximal_cut (view : View) : Maximal (cut view) := by
  induction view with
  | nil => exact .nil
  | cons part rest ih =>
    rcases component_or_plain part with ⟨id, inner, rfl⟩ | plain
    · exact .component ih
    · rw [cut_plain plain]
      exact maximal_prepend plain ih

theorem mem_prepend {part : Part} {stretches : List Stretch} {id : String} {inner : List Part}
    (member : component id inner ∈ stretches) : component id inner ∈ prepend part stretches := by
  cases stretches with
  | nil => cases member
  | cons first rest =>
    cases first with
    | plain run =>
      rcases List.mem_cons.mp member with same | later
      · cases same
      · exact List.mem_cons_of_mem _ later
    | component own below => exact List.mem_cons_of_mem _ member

theorem mem_cut {view : View} {id : String} {inner : List Part}
    (member : .component id inner ∈ view) : component id inner ∈ cut view := by
  induction view with
  | nil => cases member
  | cons part rest ih =>
    rcases component_or_plain part with ⟨own, below, rfl⟩ | plain
    · rcases List.mem_cons.mp member with same | later
      · cases same
        exact List.mem_cons_self
      · exact List.mem_cons_of_mem _ (ih later)
    · rw [cut_plain plain]
      rcases List.mem_cons.mp member with same | later
      · exact absurd same.symm (plain id inner)
      · exact mem_prepend (ih later)

end Stretch

/-- A component that stands in a view, or in a component that does. -/
inductive Embeds : View → Component View → Prop
  | here {view inner : View} {id : String} (member : Part.component id inner ∈ view) :
    Embeds view ⟨id, inner⟩
  | within {view inner : View} {id : String} {component : Component View}
    (member : Part.component id inner ∈ view) (deeper : Embeds inner component) :
    Embeds view component

namespace Scene

/-- The text of a stretch by itself: a run is decoded, a component is rendered. -/
def shown? (scene : Scene) : Stretch → Option String
  | .plain run => (scene.renderParts run).map Text.Utf8.decode
  | .component id inner => scene.render ⟨id, inner⟩

theorem render_ne_empty {scene : Scene} {target : Component View} {text : String}
    (rendered : scene.render target = some text) : text ≠ "" := by
  obtain ⟨body, -, rfl⟩ := Option.map_eq_some_iff.mp rendered
  rintro empty
  simp [Markup.rootElement] at empty

theorem renderParts_append (scene : Scene) (left right : List Part) :
    scene.renderParts (left ++ right) =
      (scene.renderParts left).bind fun bytes =>
        (scene.renderParts right).map fun others => bytes ++ others := by
  induction left with
  | nil => simp [renderParts]
  | cons part rest ih =>
    rw [List.cons_append, renderParts, renderParts, ih]
    cases scene.renderPart part <;> cases scene.renderParts rest <;>
      cases scene.renderParts right <;> simp

/-- A component comes to its own text, encoded, before whatever follows it. -/
theorem renderParts_component (scene : Scene) (id : String) (inner rest : List Part) :
    scene.renderParts (.component id inner :: rest) =
      (scene.render ⟨id, inner⟩).bind fun fragment =>
        (scene.renderParts rest).map fun others => Text.Utf8.encode fragment ++ others := by
  rw [renderParts, renderPart, render]
  cases scene.renderParts inner with
  | none => simp only [Option.map_none, Option.bind_none]
  | some body => simp only [Option.map_some, Option.bind_some]

/-- The texts of all stretches side by side. -/
def joined? (scene : Scene) (stretches : List Stretch) : Option String :=
  (stretches.mapM scene.shown?).map String.join

theorem joined?_cons (scene : Scene) (first : Stretch) (rest : List Stretch) :
    scene.joined? (first :: rest) =
      (scene.shown? first).bind fun text =>
        (scene.joined? rest).map fun later => text ++ later := by
  rw [joined?, joined?, List.mapM_cons]
  cases scene.shown? first with
  | none => rfl
  | some text => cases rest.mapM scene.shown? <;> simp

/-- The bytes of a view are decoded stretch by stretch. A run may end amid a character: where a
component follows, the character is given up there. -/
theorem decode_stretches (scene : Scene) {stretches : List Stretch}
    (maximal : Stretch.Maximal stretches) :
    (scene.renderParts (stretches.flatMap Stretch.parts)).map Text.Utf8.decode =
      scene.joined? stretches := by
  induction maximal with
  | nil => rfl
  | @component id inner rest _ ih =>
    rw [List.flatMap_cons, Stretch.parts, List.singleton_append, renderParts_component,
      joined?_cons, ← ih, shown?]
    cases scene.render ⟨id, inner⟩ with
    | none => rfl
    | some fragment =>
      simp [Function.comp_def, Text.Utf8.decode_encode_append]
  | @last run present plains =>
    rw [joined?_cons, shown?]
    cases shown : scene.renderParts run <;> simp [joined?, Stretch.parts, shown]
  | @before run id inner rest present plains _ ih =>
    rw [joined?_cons, ← ih, List.flatMap_cons, List.flatMap_cons]
    simp only [Stretch.parts, List.singleton_append, shown?]
    rw [renderParts_append, renderParts_component]
    cases scene.renderParts run with
    | none => rfl
    | some bytes =>
      cases fragment : scene.render ⟨id, inner⟩ with
      | none => rfl
      | some text =>
        have there := render_ne_empty fragment
        simp [Function.comp_def, Text.Utf8.decode_encode_append,
          Text.Utf8.decode_append_encode there]

/-! What a sync of a component sends is what the component is rendered to. -/

/-- The scene of an action of the same tab, with some queue. -/
def inAction (scene : Scene) (queue : Outbox) : Scene :=
  { scene with tab := { scene.tab with mode := .action }, queue }

theorem inAction_alike (scene : Scene) (queue : Outbox) : (scene.inAction queue).Alike scene :=
  ⟨rfl, rfl, rfl, rfl⟩

/-- The text is what a sync of the component sends in an action of this tab, whatever waits in the
queue. -/
def Syncs (scene : Scene) (target : Component View) (text : String) : Prop :=
  ∀ queue : Outbox, (scene.inAction queue).sync target =
    (((scene.inAction queue).enqueue (.elements text)).offerChanged, some true)

theorem sync_inAction (scene : Scene) (queue : Outbox) (target : Component View) :
    (scene.inAction queue).sync target = ((scene.render target).elim (scene.inAction queue, none)
      fun text => (((scene.inAction queue).enqueue (.elements text)).offerChanged, some true)) := by
  have acting : (scene.inAction queue).mayWrite = true := rfl
  rw [sync, if_pos acting, render_alike (scene.inAction_alike queue)]
  cases scene.render target <;> rfl

/-- A queue with room for one patch tells which markup was sent. -/
theorem pending_sent (scene : Scene) (text : String) :
    ((scene.inAction ⟨1, []⟩).enqueue (.elements text)).offerChanged.queue.pending =
      [.elements text] := by
  unfold offerChanged
  split <;> rfl

theorem syncs_iff (scene : Scene) (target : Component View) (text : String) :
    scene.Syncs target text ↔ scene.render target = some text := by
  constructor
  · intro syncs
    have sent := syncs ⟨1, []⟩
    rw [sync_inAction] at sent
    cases shown : scene.render target with
    | none => simp [shown] at sent
    | some rendered =>
      rw [shown, Option.elim_some] at sent
      have waiting := congrArg (fun done => done.1.queue.pending) sent
      simp only [pending_sent, List.cons.injEq, Patch.elements.injEq, and_true] at waiting
      rw [waiting]
  · intro rendered queue
    rw [sync_inAction, rendered, Option.elim_some]

/-- The text of a stretch by itself: a run is decoded, and a component is what its own sync
sends. -/
def Shows (scene : Scene) : Stretch → String → Prop
  | .plain run, text => (scene.renderParts run).map Text.Utf8.decode = some text
  | .component id inner, text => scene.Syncs ⟨id, inner⟩ text

theorem shown?_eq_some_iff (scene : Scene) (stretch : Stretch) (text : String) :
    scene.shown? stretch = some text ↔ scene.Shows stretch text := by
  cases stretch with
  | plain run => rfl
  | component id inner => exact (scene.syncs_iff ⟨id, inner⟩ text).symm

theorem mapM_shown?_eq_some_iff (scene : Scene) (stretches : List Stretch) (texts : List String) :
    stretches.mapM scene.shown? = some texts ↔ List.Forall₂ scene.Shows stretches texts := by
  induction stretches generalizing texts with
  | nil => simp [eq_comm]
  | cons first rest ih =>
    simp only [List.mapM_cons, Option.bind_eq_bind, Option.bind_eq_some_iff, Option.pure_def,
      Option.some.injEq, shown?_eq_some_iff, ih, List.forall₂_cons_left_iff]
    constructor
    · rintro ⟨text, shows, later, others, same⟩
      exact ⟨text, later, shows, others, same.symm⟩
    · rintro ⟨text, later, shows, others, same⟩
      exact ⟨text, shows, later, others, same.symm⟩

/-- The markup of a view is that of its stretches side by side, under the root element. -/
theorem render_eq_some_iff (scene : Scene) (target : Component View) (text : String) :
    scene.render target = some text ↔
      ∃ texts, List.Forall₂ scene.Shows (Stretch.cut target.view) texts ∧
        text = "<div id=\"" ++ Text.Attribute.escape target.id ++ "\">" ++ String.join texts ++
          "</div>" := by
  have decoded := scene.decode_stretches (Stretch.maximal_cut target.view)
  rw [Stretch.parts_cut, joined?] at decoded
  simp only [← mapM_shown?_eq_some_iff]
  constructor
  · intro rendered
    obtain ⟨body, bytes, rfl⟩ := Option.map_eq_some_iff.mp rendered
    rw [bytes, Option.map_some] at decoded
    obtain ⟨texts, shown, joined⟩ := Option.map_eq_some_iff.mp decoded.symm
    exact ⟨texts, shown, by rw [joined, Markup.rootElement]⟩
  · rintro ⟨texts, shown, rfl⟩
    rw [shown, Option.map_some] at decoded
    obtain ⟨body, bytes, joined⟩ := Option.map_eq_some_iff.mp decoded
    rw [render, bytes, Option.map_some, Markup.rootElement, joined]

theorem mem_of_forall₂ {α β : Type} {Related : α → β → Prop} {xs : List α} {ys : List β}
    (related : List.Forall₂ Related xs ys) {x : α} (member : x ∈ xs) :
    ∃ y ∈ ys, Related x y := by
  induction related with
  | nil => cases member
  | cons head _ ih =>
    rcases List.mem_cons.mp member with same | later
    · exact ⟨_, List.mem_cons_self, same ▸ head⟩
    · obtain ⟨y, found, holds⟩ := ih later
      exact ⟨y, List.mem_cons_of_mem _ found, holds⟩

/-- A component's own text stands in the markup of the view that it is in. -/
theorem fragment_of_member {scene : Scene} {target : Component View} {text : String}
    (rendered : scene.render target = some text) {id : String} {inner : List Part}
    (member : .component id inner ∈ target.view) :
    ∃ fragment, scene.render ⟨id, inner⟩ = some fragment ∧ fragment.toList <:+: text.toList := by
  obtain ⟨texts, shows, rfl⟩ := (scene.render_eq_some_iff target text).mp rendered
  obtain ⟨fragment, found, syncs⟩ := mem_of_forall₂ shows (Stretch.mem_cut member)
  have among : fragment.toList <:+: (String.join texts).toList := by
    rw [String.toList_join]
    exact List.infix_of_mem_flatten (List.mem_map_of_mem found)
  refine ⟨fragment, (scene.syncs_iff ⟨id, inner⟩ fragment).mp syncs, among.trans ?_⟩
  simp only [String.toList_append]
  exact List.infix_append _ _ _

theorem fragment_of_embeds {scene : Scene} {view : View} {component : Component View}
    (embeds : Embeds view component) {id text : String}
    (rendered : scene.render ⟨id, view⟩ = some text) :
    ∃ fragment, scene.render component = some fragment ∧ fragment.toList <:+: text.toList := by
  induction embeds generalizing id text with
  | here member => exact fragment_of_member rendered member
  | within member _ ih =>
    obtain ⟨outer, around, inText⟩ := fragment_of_member rendered member
    obtain ⟨fragment, own, inOuter⟩ := ih around
    exact ⟨fragment, own, inOuter.trans inText⟩

end Scene
end LiveTabs
