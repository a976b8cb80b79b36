import LiveTabs.Proofs.Building
import LiveTabs.Proofs.SignalsSet
/-!
Which signals a tab has. They are those that its page declares and those that handlers have set in
it; what a client sends takes the place of declared ones and adds none.
-/
namespace LiveTabs

/-- A tab has the declared signals and those that were set; among these are the changed ones. -/
structure Tab.Keyed (declared : String → Bool) (set : String → Prop) (tab : Tab) : Prop where
  signals : ∀ key, tab.signals.contains key = true ↔ declared key = true ∨ set key
  changed : ∀ key, tab.changed.contains key = true → tab.signals.contains key = true

namespace Tab.Keyed
variable {declared : String → Bool} {set : String → Prop} {tab : Tab}

theorem fresh {V H : Type} {page : Catalog V H} (indexed : page.Indexed) :
    (Tab.fresh page).Keyed page.knowsSignal fun _ => False := by
  refine ⟨fun key => ?_, fun key changed => nomatch changed⟩
  rw [indexed.knowsSignal_iff]
  simp [Tab.fresh, KeyMap.ofList, KeyMap.contains_insertAll_iff]

theorem congr {other : Tab} (keyed : tab.Keyed declared set)
    (signals : other.signals = tab.signals) (changed : other.changed = tab.changed) :
    other.Keyed declared set := by
  refine ⟨fun key => ?_, fun key => ?_⟩
  · rw [signals]
    exact keyed.signals key
  · rw [signals, changed]
    exact keyed.changed key

theorem same {others : String → Prop} (keyed : tab.Keyed declared set)
    (iff : ∀ key, set key ↔ others key) : tab.Keyed declared others :=
  ⟨fun key => (keyed.signals key).trans (or_congr_right (iff key)), keyed.changed⟩

end Tab.Keyed

namespace Scene
variable {declared : String → Bool} {set : String → Prop} {scene : Scene}

theorem carryOut_keyed (keyed : scene.tab.Keyed declared set) (now : Instant) {deed : Deed}
    (taken : deed.Declared declared) :
    (scene.carryOut now deed).tab.Keyed declared fun key => set key ∨ key ∈ deed.signalSet := by
  have spared (silent : deed.signalSet = []) (key : String) :
      set key ↔ set key ∨ key ∈ deed.signalSet := by
    simp [silent]
  cases deed with
  | takeOver sent =>
    refine ⟨fun key => ?_, fun key changed => ?_⟩
    · simp only [carryOut, putSignals, KeyMap.contains_insertAll_entries, Bool.or_eq_true,
        keyed.signals, ← spared rfl]
      exact ⟨fun either => either.elim (fun carried => .inl (taken key carried)) id, .inr⟩
    · simp [carryOut, putSignals, keyed.changed key changed]
  | signal other written =>
    refine ⟨fun key => ?_, fun key changed => ?_⟩
    · simp only [carryOut, putSignal, KeyMap.contains_insert, Bool.or_eq_true, decide_eq_true_eq,
        keyed.signals, Deed.signalSet, List.mem_singleton]
      tauto
    · simp only [carryOut, putSignal, KeyMap.contains_insert, Bool.or_eq_true] at changed ⊢
      exact changed.imp id (keyed.changed key)
  | write scope key written =>
    obtain ⟨signals, changed, -⟩ := scene.store_frame now scope key written
    exact (keyed.congr signals changed).same (spared rfl)
  | elements html => exact keyed.same (spared rfl)
  | script text => exact keyed.same (spared rfl)
  | refuse =>
    rw [carryOut, (scene.refuseSession_frame now).1]
    exact keyed.same (spared rfl)
  | flush =>
    cases told : scene.tab.changed.isEmpty with
    | true =>
      simp only [carryOut, offerChanged, told, if_true]
      exact keyed.same (spared rfl)
    | false =>
      simp only [carryOut, offerChanged, told, Bool.false_eq_true, if_false]
      exact ⟨(keyed.same (spared rfl)).signals,
        fun key changed => absurd changed Bool.false_ne_true⟩

theorem carryOutAll_keyed (keyed : scene.tab.Keyed declared set) (now : Instant) {deeds : List Deed}
    (taken : ∀ deed ∈ deeds, deed.Declared declared) :
    (scene.carryOutAll now deeds).tab.Keyed declared
      fun key => set key ∨ key ∈ deeds.flatMap Deed.signalSet := by
  induction deeds generalizing scene set with
  | nil => exact keyed.same fun key => by simp
  | cons deed rest ih =>
    have first := scene.carryOut_keyed keyed now (taken deed List.mem_cons_self)
    have later := ih first fun other member => taken other (List.mem_cons_of_mem deed member)
    exact later.same fun key => by simp [or_assoc]

end Scene

namespace App

/-- Every tab has what its page declares and what was set in it, wherever that is. -/
structure Keyed (set : List (Nat × String)) (app : App) : Prop where
  tabs : ∀ (place : Nat) (connection : Connection), app.connections[place]? = some connection →
    connection.tab.Keyed connection.page.knowsSignal fun key => (place, key) ∈ set
  placed : ∀ entry ∈ set, entry.1 < app.connections.length

namespace Keyed
variable {set : List (Nat × String)} {app : App}

theorem apply_idle (keyed : app.Keyed set) (now : Instant) {change : Change}
    (idle : change.works = false) : (app.apply now change).Keyed set := by
  refine ⟨fun place connection there => ?_, fun entry member =>
    (keyed.placed entry member).trans_le (app.apply_continues now change).length_le⟩
  cases here : app.connections[place]? with
  | some before =>
    obtain ⟨later, found, tab, page⟩ := apply_tab here now idle
    obtain rfl := Option.some.inj (found.symm.trans there)
    rw [tab, page]
    exact keyed.tabs place before here
  | none =>
    obtain ⟨id, session, page, -, rfl, fresh⟩ := created_of_new here there
    obtain rfl := Connection.fresh?_eq fresh
    refine (Tab.Keyed.fresh page.indexed).same fun key => ⟨False.elim, fun member => ?_⟩
    exact Nat.lt_irrefl _ (keyed.placed _ member)

theorem apply_work (keyed : app.Keyed set) (now : Instant) {place : Nat} {connection : Connection}
    (here : app.connections[place]? = some connection) (mode : Mode) {deeds : List Deed}
    (taken : ∀ deed ∈ deeds, deed.Declared connection.page.knowsSignal) :
    (app.apply now (.work place mode deeds)).Keyed
      (set ++ (Change.work place mode deeds).signalsSet) := by
  have inside := (List.getElem?_eq_some_iff.mp here).1
  refine ⟨fun other found there => ?_, fun entry member => ?_⟩
  · cases was : app.connections[other]? with
    | none =>
      obtain ⟨id, session, page, wrong, -⟩ := created_of_new was there
      cases wrong
    | some before =>
      have undergone := there.symm.trans (apply_passages was now (.work place mode deeds))
      obtain rfl := Option.some.inj undergone
      by_cases same : place = other
      · subst same
        obtain rfl := Option.some.inj (here.symm.trans was)
        have idle : (connection.scene app.shared mode).tab.Keyed connection.page.knowsSignal
            fun key => (place, key) ∈ set := (keyed.tabs place connection here).congr rfl rfl
        have done := Scene.carryOutAll_keyed idle now taken
        have left : (connection.work app.shared now mode deeds).1.tab.Keyed
            connection.page.knowsSignal
            fun key => (place, key) ∈ set ∨ key ∈ deeds.flatMap Deed.signalSet :=
          done.congr rfl rfl
        simp only [passages, if_true]
        exact left.same fun key => by simp [Change.signalsSet]
      · simp only [passages, if_neg same]
        refine (keyed.tabs other before was).same fun key => ?_
        simp [Change.signalsSet, same]
  · have grown := (app.apply_continues now (.work place mode deeds)).length_le
    rcases List.mem_append.mp member with before | new
    · exact (keyed.placed entry before).trans_le grown
    · obtain ⟨key, -, rfl⟩ := List.mem_map.mp new
      exact inside.trans_le grown

theorem apply (keyed : app.Keyed set) (now : Instant) {change : Change}
    (declared : change.Declared app) : (app.apply now change).Keyed (set ++ change.signalsSet) := by
  cases change with
  | work place mode deeds =>
    obtain ⟨connection, here, taken⟩ := declared
    exact keyed.apply_work now here mode taken
  | _ => exact (List.append_nil set).symm ▸ keyed.apply_idle now rfl

theorem applyAll (keyed : app.Keyed set) (now : Instant) {changes : List Change}
    (declared : ∀ change ∈ changes, change.Declared app) :
    (app.applyAll now changes).Keyed (set ++ changes.flatMap Change.signalsSet) := by
  induction changes generalizing app set with
  | nil => simpa [App.applyAll] using keyed
  | cons change rest ih =>
    have later := ih (keyed.apply now (declared change List.mem_cons_self)) fun other member =>
      (declared other (List.mem_cons_of_mem change member)).later (app.apply_continues now change)
    simpa [App.applyAll, List.append_assoc] using later

end Keyed
end App

namespace Scenario

theorem reached_keyed {scenario : Scenario} {set : List (Nat × String)}
    (keyed : scenario.app.Keyed set) (steps : List (Instant × Step)) :
    (scenario.reached steps).app.Keyed (set ++ scenario.signalsSet steps) := by
  induction steps generalizing scenario set with
  | nil => simpa [reached, signalsSet] using keyed
  | cons step rest ih =>
    have tally := scenario.changes_tally step.1 step.2
    have first : (scenario.step step.1 step.2).scenario.app.Keyed
        (set ++ scenario.signalsSetBy step.1 step.2) := by
      rw [step_changes, ← tally.set]
      exact keyed.applyAll step.1 tally.declared
    rw [signalsSet, ← List.append_assoc]
    exact ih first

theorem built_keyed {config : Config} {pages : List Page} {app : App}
    (built : App.build config pages = .ok app) (steps : List (Instant × Step)) :
    ((ofApp app).reached steps).app.Keyed ((ofApp app).signalsSet steps) := by
  have none : app.connections = [] := (App.build_empty built).1
  have empty : (ofApp app).app.Keyed [] :=
    ⟨fun place connection here => by simp [ofApp, none] at here, List.forall_mem_nil _⟩
  exact reached_keyed empty steps

end Scenario

/-- Of what was sent, the declared keys take the place of the old values; nothing else changes. -/
structure Scene.Replaces (scene : Scene) (declared : String → Bool) (sent : KeyMap Json)
    (taken : Scene × Nat) : Prop where
  frame : taken.1 = { scene with tab := { scene.tab with signals := taken.1.tab.signals } }
  keys : taken.1.tab.signals.keys = scene.tab.signals.keys
  values : ∀ key, taken.1.tab.signals.get? key =
    if declared key then (sent.get? key).or (scene.tab.signals.get? key)
    else scene.tab.signals.get? key
  count : taken.2 = (sent.keys.filter declared).length

theorem Scene.takeOver_replaces {scene : Scene} {declared : String → Bool} {set : String → Prop}
    (keyed : scene.tab.Keyed declared set) (sent : KeyMap Json) :
    scene.Replaces declared sent (scene.takeOver declared sent) := by
  refine ⟨rfl, ?_, fun key => ?_, ?_⟩
  · apply KeyMap.keys_eq_of_contains
    intro key
    rw [takeOver, KeyMap.contains_insertAll_entries, KeyMap.contains_filter_key]
    cases known : declared key with
    | false => simp
    | true => simp [(keyed.signals key).mpr (.inl known)]
  · rw [takeOver, KeyMap.get?_insertAll_entries, KeyMap.get?_filter]
    cases declared key <;> cases sent.get? key <;> simp
  · simp [takeOver, KeyMap.size, KeyMap.filter, KeyMap.keys, List.filter_map, Function.comp_def]

/-- In every run a tab has the signals that its page declares and those that some handler was told
it had set there, and no others, and only these count as changed. So whatever object a client sends,
it puts values in the place of those of declared signals, as they were sent, and changes no set of
keys; and whatever requests come, the tab gains the signals that their handlers set and loses
none. -/
theorem clients_add_no_signals {config : Config} {pages : List Page} {app : App}
    (built : App.build config pages = .ok app) (steps : List (Instant × Step)) :
    let scenario := (Scenario.ofApp app).reached steps
    ∀ (place : Nat) (connection : Connection),
      scenario.app.connections[place]? = some connection →
      connection.tab.Keyed connection.page.knowsSignal
        (fun key => (place, key) ∈ (Scenario.ofApp app).signalsSet steps) ∧
      (∀ (shared : Shared) (mode : Mode) (sent : KeyMap Json),
        let scene := connection.scene shared mode
        scene.Replaces connection.page.knowsSignal sent
          (scene.takeOver connection.page.knowsSignal sent)) ∧
      ∀ more : List (Instant × Step), ∃ later,
        (scenario.reached more).app.connections[place]? = some later ∧
        later.page = connection.page ∧
        (∀ key, later.tab.signals.contains key = true ↔
          connection.tab.signals.contains key = true ∨ (place, key) ∈ scenario.signalsSet more) ∧
        ((∀ key, (place, key) ∈ scenario.signalsSet more →
            connection.tab.signals.contains key = true) →
          later.tab.signals.keys = connection.tab.signals.keys) := by
  intro scenario place connection here
  have keyed := (Scenario.built_keyed built steps).tabs place connection here
  refine ⟨keyed, fun shared mode sent => ?_, fun more => ?_⟩
  · have scene : (connection.scene shared mode).tab.Keyed connection.page.knowsSignal _ :=
      keyed.congr rfl rfl
    exact Scene.takeOver_replaces scene sent
  · obtain ⟨later, there, continued⟩ := scenario.reached_continues more place connection here
    have after := Scenario.built_keyed built (steps ++ more)
    rw [Scenario.reached_append, Scenario.signalsSet_append] at after
    have further : ∀ key, later.tab.signals.contains key = true ↔
        connection.tab.signals.contains key = true ∨ (place, key) ∈ scenario.signalsSet more := by
      intro key
      rw [(after.tabs place later there).signals, keyed.signals, continued.page, List.mem_append,
        or_assoc]
    refine ⟨later, there, continued.page, further, fun only => ?_⟩
    apply KeyMap.keys_eq_of_contains
    intro key
    rw [Bool.eq_iff_iff, further]
    exact or_iff_left_of_imp (only key)

-- The handler sets a signal of another page before it panics; the client sends one of its own.
def deskPage : Page := .of {
  id := "desk"
  route := some "/"
  view := []
  states := []
  signals := [⟨"query", .str "", none⟩]
  actions := KeyMap.ofList [
    ("note", [.setSignal (some ⟨.string, "alien", ""⟩) (.literal (.str "hello")), .panic])]
  owners := KeyMap.empty
  components := [] }

def deskApp : App :=
  ⟨KeyMap.ofList [("/", deskPage)], Config.defaults, Shared.empty, [], KeyMap.empty, ⟨0, 0⟩⟩

def noting : List (Instant × Step) :=
  [(1, .create "tab" none deskPage),
    (3, .runAction "tab" "note" (KeyMap.ofList [("query", .int 42), ("evil", .str "x")]))]

theorem clients_add_no_signals_noting :
    App.build Config.defaults [deskPage] = .ok deskApp ∧
      ∃ connection,
        ((Scenario.ofApp deskApp).reached noting).app.connections[0]? = some connection ∧
        connection.tab.signals.get? "query" = some (.int 42) ∧
        connection.tab.signals.contains "alien" = true ∧
        connection.tab.signals.contains "evil" = false := by
  have built : App.build Config.defaults [deskPage] = .ok deskApp := rfl
  obtain ⟨keyed, -, -⟩ := clients_add_no_signals built noting 0 _ rfl
  refine ⟨built, _, rfl, rfl, (keyed.signals "alien").mpr (.inr ?_), ?_⟩
  · decide
  · rw [← Bool.not_eq_true, keyed.signals]
    decide

end LiveTabs
