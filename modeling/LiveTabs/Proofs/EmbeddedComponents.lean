import LiveTabs.Blueprint.Written
import LiveTabs.Proofs.Fragments
import LiveTabs.Proofs.KeyMap
/-!
Components in views as they are written down, by name. An embedded component cannot name itself or
what it is embedded in, while a component that is sent by itself can name all; yet where the page is
rendered at all, both give the same text.
-/
namespace LiveTabs

theorem KeyMap.size_erase_lt {α : Type} {map : KeyMap α} {key : String} {value : α}
    (found : map.get? key = some value) : (map.erase key).size < map.size := by
  have inside := (get?_eq_some_iff map key value).mp found
  exact List.length_filter_lt_length_iff_exists.mpr ⟨_, inside, by simp⟩

namespace Written

/-- All that is usable here is usable there. -/
def Within (fewer more : KeyMap (Component View)) : Prop :=
  ∀ name component, fewer.get? name = some component → more.get? name = some component

theorem Within.erase {fewer more : KeyMap (Component View)} (within : Within fewer more)
    (key : String) : Within (fewer.erase key) (more.erase key) := by
  intro name component found
  rw [KeyMap.get?_erase] at found ⊢
  split at found
  · nomatch found
  · next apart =>
    rw [if_neg apart]
    exact within name component found

theorem within_of_erase {fewer more : KeyMap (Component View)} (within : Within fewer more)
    (key : String) : Within (fewer.erase key) more := by
  intro name component found
  rw [KeyMap.get?_erase] at found
  split at found
  · nomatch found
  · exact within name component found

section
variable (handles : Handles View)

/-- What stands in a linked view for the name of a component. -/
def embed : Nat → KeyMap (Component View) → String → List LiveTabs.Part
  | 0, _, name => if handles.components.contains name then [.panic] else []
  | depth + 1, usable, name =>
    match usable.get? name with
    | some component =>
      [.component component.id (linkView handles depth (usable.erase name) component.view)]
    | none => if handles.components.contains name then [.panic] else []

theorem linkView_eq (depth : Nat) (usable : KeyMap (Component View)) (view : View) :
    linkView handles depth usable view =
      view.flatMap (linkPart handles (embed handles depth usable)) := by
  cases depth <;> rfl

variable {depth : Nat} {usable : KeyMap (Component View)} {name : String}

/-- As long as the depth counts what is usable, whatever is usable is embedded. -/
theorem embed_usable (enough : usable.size ≤ depth) {component : Component View}
    (found : usable.get? name = some component) :
    ∃ less, depth = less + 1 ∧ (usable.erase name).size ≤ less ∧
      embed handles depth usable name =
        [.component component.id (linkView handles less (usable.erase name) component.view)] := by
  have smaller := KeyMap.size_erase_lt found
  cases depth with
  | zero => omega
  | succ less =>
    refine ⟨less, rfl, by omega, ?_⟩
    simp only [embed, found]

theorem embed_unusable (absent : usable.get? name = none) :
    embed handles depth usable name =
      if handles.components.contains name then [.panic] else [] := by
  cases depth with
  | zero => rfl
  | succ less => simp only [embed, absent]

end

section
variable {scene : Scene}

theorem renderParts_panic (scene : Scene) : scene.renderParts [.panic] = none := by
  rw [Scene.renderParts, Scene.renderPart, Option.bind_none]

theorem component_kept {inner other : List LiveTabs.Part} {id : String} {bytes : Bytes}
    (kept : ∀ body, scene.renderParts inner = some body → scene.renderParts other = some body)
    (rendered : scene.renderParts [.component id inner] = some bytes) :
    scene.renderParts [.component id other] = some bytes := by
  rw [Scene.renderParts_component] at rendered ⊢
  obtain ⟨fragment, own, later⟩ := Option.bind_eq_some_iff.mp rendered
  obtain ⟨body, shown, text⟩ := Option.map_eq_some_iff.mp own
  have same : scene.render ⟨id, other⟩ = some fragment :=
    Option.map_eq_some_iff.mpr ⟨body, kept body shown, text⟩
  rw [same]
  exact later

variable {handles : Handles View}

/-- A view keeps its bytes when each of its components does. -/
theorem view_kept {first second : String → List LiveTabs.Part}
    (kept : ∀ name bytes, scene.renderParts (first name) = some bytes →
      scene.renderParts (second name) = some bytes) (view : View) {bytes : Bytes}
    (rendered : scene.renderParts (view.flatMap (linkPart handles first)) = some bytes) :
    scene.renderParts (view.flatMap (linkPart handles second)) = some bytes := by
  induction view generalizing bytes with
  | nil => exact rendered
  | cons part rest ih =>
    rw [List.flatMap_cons, Scene.renderParts_append] at rendered ⊢
    obtain ⟨front, shown, later⟩ := Option.bind_eq_some_iff.mp rendered
    obtain ⟨others, below, same⟩ := Option.map_eq_some_iff.mp later
    have head : scene.renderParts (linkPart handles second part) = some front := by
      cases part with
      | component name => exact kept name front shown
      | _ => exact shown
    rw [head, Option.bind_some, ih below, Option.map_some, same]

/-- A component that is not usable panics, so it is rendered only where it is not known at all. -/
theorem unusable_kept {depth greater : Nat} {fewer more : KeyMap (Component View)} {name : String}
    {bytes : Bytes} (known : Within more handles.components) (absent : fewer.get? name = none)
    (rendered : scene.renderParts (embed handles depth fewer name) = some bytes) :
    scene.renderParts (embed handles greater more name) = some bytes := by
  rw [embed_unusable handles absent] at rendered
  split at rendered
  · rw [renderParts_panic] at rendered
    nomatch rendered
  · next unknown =>
    have nowhere : more.get? name = none := by
      rw [Option.eq_none_iff_forall_ne_some]
      intro component found
      exact unknown ((KeyMap.contains_iff _ _).mpr ⟨component, known name component found⟩)
    rw [embed_unusable handles nowhere, if_neg unknown]
    exact rendered

/-- What is embedded with fewer components at hand keeps its bytes with more. -/
theorem embed_kept (depth : Nat) {fewer more : KeyMap (Component View)}
    (within : Within fewer more) (known : Within more handles.components)
    (enough : fewer.size ≤ depth) {greater : Nat} (plenty : more.size ≤ greater) (name : String)
    {bytes : Bytes} (rendered : scene.renderParts (embed handles depth fewer name) = some bytes) :
    scene.renderParts (embed handles greater more name) = some bytes := by
  -- A step down takes the same component from both sides, so what is usable here still is there.
  induction depth generalizing fewer more greater name bytes with
  | zero =>
    have absent : fewer.get? name = none := by
      rw [Option.eq_none_iff_forall_ne_some]
      intro component found
      have smaller := KeyMap.size_erase_lt found
      omega
    exact unusable_kept known absent rendered
  | succ less ih =>
    cases found : fewer.get? name with
    | none => exact unusable_kept known found rendered
    | some component =>
      obtain ⟨_, counted, fits, own⟩ := embed_usable handles enough found
      obtain ⟨rest, _, room, other⟩ :=
        embed_usable handles plenty (within name component found)
      obtain rfl := Nat.succ.inj counted
      rw [own] at rendered
      rw [other]
      apply component_kept _ rendered
      intro body shown
      rw [linkView_eq] at shown ⊢
      apply view_kept _ component.view shown
      intro inner text below
      exact ih (within.erase name) (within_of_erase known name) fits room inner below

end

/-- A component that a view names, or that a component named in it does. -/
inductive Embeds (handles : Handles View) : View → Component View → Prop
  | here {view : View} {name : String} {component : Component View}
    (member : .component name ∈ view) (known : handles.components.get? name = some component) :
    Embeds handles view component
  | within {view : View} {name : String} {outer component : Component View}
    (member : .component name ∈ view) (known : handles.components.get? name = some outer)
    (deeper : Embeds handles outer.view component) : Embeds handles view component

/-- A component as it is rendered by itself, with every component at hand. -/
def alone (handles : Handles View) (component : Component View) : Component LiveTabs.View :=
  ⟨component.id, component.view.link handles⟩

section
variable {scene : Scene} {handles : Handles View}

theorem fragment_of_named {id text : String} {view : View}
    (rendered : scene.render ⟨id, view.link handles⟩ = some text) {name : String}
    {component : Component View} (member : .component name ∈ view)
    (known : handles.components.get? name = some component) :
    ∃ fragment, scene.render (alone handles component) = some fragment ∧
      fragment.toList <:+: text.toList := by
  obtain ⟨less, _, fits, here⟩ := embed_usable handles (Nat.le_refl _) known
  have stands : LiveTabs.Part.component component.id
      (linkView handles less (handles.components.erase name) component.view) ∈
        view.link handles := by
    rw [View.link, linkView_eq]
    apply List.mem_flatMap_of_mem member
    rw [linkPart, here]
    exact List.mem_cons_self
  obtain ⟨fragment, inside, among⟩ := Scene.fragment_of_member rendered stands
  obtain ⟨body, shown, made⟩ := Option.map_eq_some_iff.mp inside
  have same : scene.renderParts (component.view.link handles) = some body := by
    rw [View.link, linkView_eq]
    rw [linkView_eq] at shown
    apply view_kept _ component.view shown
    intro inner bytes below
    exact embed_kept less (within_of_erase (fun _ _ found => found) name) (fun _ _ found => found)
      fits (Nat.le_refl _) inner below
  exact ⟨fragment, Option.map_eq_some_iff.mpr ⟨body, same, made⟩, among⟩

theorem fragment_of_embeds {view : View} {component : Component View}
    (embeds : Embeds handles view component) {id text : String}
    (rendered : scene.render ⟨id, view.link handles⟩ = some text) :
    ∃ fragment, scene.render (alone handles component) = some fragment ∧
      fragment.toList <:+: text.toList := by
  induction embeds generalizing id text with
  | here member known => exact fragment_of_named rendered member known
  | within member known _ ih =>
    obtain ⟨outer, around, inText⟩ := fragment_of_named rendered member known
    obtain ⟨fragment, own, inOuter⟩ := ih around
    exact ⟨fragment, own, inOuter.trans inText⟩

end
end Written

/-- A sync of a page or component sends what it is rendered to. That is the texts of its stretches
side by side under the root element: each run of other parts is decoded by itself, and in the place
of each component stands just what a sync of that component sends. So whatever is embedded, however
deep, is found again in the markup of the page, whichever bytes are next to it; and this is so for
components as they are named in views too. -/
theorem page_and_component_syncs_agree (scene : Scene) :
    (∀ target text, scene.Syncs target text ↔ scene.render target = some text) ∧
    (∀ target text, scene.render target = some text ↔
      ∃ texts, List.Forall₂ scene.Shows (Stretch.cut target.view) texts ∧
        text = "<div id=\"" ++ Text.Attribute.escape target.id ++ "\">" ++ String.join texts ++
          "</div>") ∧
    (∀ view, (Stretch.cut view).flatMap Stretch.parts = view ∧
      Stretch.Maximal (Stretch.cut view)) ∧
    (∀ id view text component, scene.render ⟨id, view⟩ = some text → Embeds view component →
      ∃ fragment, scene.Syncs component fragment ∧ fragment.toList <:+: text.toList) ∧
    (∀ handles id (view : Written.View) text component,
      scene.render ⟨id, view.link handles⟩ = some text → Written.Embeds handles view component →
      ∃ fragment, scene.Syncs (Written.alone handles component) fragment ∧
        fragment.toList <:+: text.toList) ∧
    ∀ (connection : Connection) (shared : Shared) (mode : Mode),
      connection.pageMarkup shared =
        (connection.scene shared mode).render connection.page.root := by
  refine ⟨scene.syncs_iff, scene.render_eq_some_iff, ?_, ?_, ?_, ?_⟩
  · intro view
    exact ⟨Stretch.parts_cut view, Stretch.maximal_cut view⟩
  · intro id view text component rendered embeds
    obtain ⟨fragment, own, among⟩ := Scene.fragment_of_embeds embeds rendered
    exact ⟨fragment, (scene.syncs_iff component fragment).mpr own, among⟩
  · intro handles id view text component rendered embeds
    obtain ⟨fragment, own, among⟩ := Written.fragment_of_embeds embeds rendered
    exact ⟨fragment, (scene.syncs_iff _ fragment).mpr own, among⟩
  · intro connection shared mode
    have alike : (connection.scene shared connection.tab.mode).Alike (connection.scene shared mode) :=
      ⟨rfl, rfl, rfl, rfl⟩
    exact Scene.render_alike alike connection.page.root

-- A character is begun before the component and ended after it, which makes it two broken ones.
def badge : Component Written.View := ⟨"badge", [.raw [0xFF], .connectionId]⟩

def badgeHandles : Handles Written.View := Handles.empty.addComponent "badge" badge

def badgeView : Written.View := [.raw [0xE2, 0x82], .component "badge", .raw [0xAC]]

def badgeScene : Scene :=
  ⟨"@conn0@", none, ⟨KeyMap.empty, KeyMap.empty, KeyMap.empty, .idle⟩, ⟨1, []⟩, Shared.empty⟩

theorem page_and_component_syncs_agree_broken :
    let page := "<div id=\"page\">\ufffd<div id=\"badge\">\ufffd@conn0@</div>\ufffd</div>"
    badgeScene.Syncs ⟨"page", badgeView.link badgeHandles⟩ page ∧
      ∃ fragment, badgeScene.Syncs (Written.alone badgeHandles badge) fragment ∧
        fragment.toList <:+: page.toList := by
  intro page
  obtain ⟨syncs, -, -, -, named, -⟩ := page_and_component_syncs_agree badgeScene
  have rendered : badgeScene.render ⟨"page", badgeView.link badgeHandles⟩ = some page := by decide
  have embeds : Written.Embeds badgeHandles badgeView badge :=
    .here (List.mem_cons_of_mem _ List.mem_cons_self) rfl
  constructor
  · exact (syncs _ page).mpr rendered
  · exact named badgeHandles "page" badgeView page badge rendered embeds

end LiveTabs
