import LiveTabs.Proofs.Stamps
/-!
What a sweep removes: just what was refreshed last, or refused last, longer ago than its window. The
connections have the window that the sweep is asked for, the sessions and their refusals the one of
the configuration.
-/
namespace LiveTabs

namespace KeyMap
variable {α : Type}

/-- The keys of a map that are not in a later one. -/
def lost (before after : KeyMap α) : List String :=
  before.keys.filter fun key => !after.contains key

theorem length_lost_filter (map : KeyMap α) (keep : String → α → Bool) :
    (map.lost (map.filter keep)).length = (map.filter fun key value => !keep key value).size := by
  have dropped : map.entries.filter (fun entry => !(map.filter keep).contains entry.1) =
      map.entries.filter fun entry => !keep entry.1 entry.2 := by
    refine List.filter_congr fun entry member => ?_
    have found := (map.get?_eq_some_iff entry.1 entry.2).mpr member
    cases kept : keep entry.1 entry.2 <;> simp [contains, found, Option.filter, kept]
  rw [lost, keys, List.filter_map, List.length_map]
  exact congrArg List.length dropped

theorem size_sub_filter (map : KeyMap α) (keep : String → α → Bool) :
    map.size - (map.filter keep).size = (map.lost (map.filter keep)).length := by
  have split := List.length_eq_length_filter_add (l := map.entries)
    fun entry => keep entry.1 entry.2
  rw [length_lost_filter]
  simp only [size, filter]
  omega

end KeyMap

theorem filter_unexpired {α : Type} (stamp : α → Instant) (value : α) (now : Instant)
    (ttl : Duration) : (some value).filter (fun found => !expired now (stamp found) ttl) =
      if ttl < now - stamp value then none else some value := by
  by_cases old : ttl < now - stamp value <;> simp [Option.filter, expired, old]

namespace App

theorem sweep_rest (app : App) (instant : Instant) (ttl : Duration) :
    let after := (app.sweep instant ttl).1
    after.shared.application = app.shared.application ∧ after.pages = app.pages ∧
      after.config = app.config ∧ after.ids = app.ids := by
  have rest := app.retired_rest
    (app.registered.filter fun _ place => app.isExpired instant ttl place).entries
  simp only [sweep, withSessions]
  rw [rest]
  exact ⟨rfl, rfl, rfl, rfl⟩

/-- The report counts what is removed. -/
theorem sweep_report (app : App) (instant : Instant) (ttl : Duration) :
    let after := (app.sweep instant ttl).1
    (app.sweep instant ttl).2 = ⟨(app.registered.lost after.registered).length,
      (app.shared.sessions.live.lost after.shared.sessions.live).length,
      (app.shared.sessions.refused.lost after.shared.sessions.refused).length⟩ := by
  have gone := app.registered.length_lost_filter fun _ place => !app.isExpired instant ttl place
  simp only [Bool.not_not] at gone
  refine SweepCount.mk.injEq .. |>.mpr ⟨gone.symm, ?_, ?_⟩
  · exact KeyMap.size_sub_filter _ _
  · exact KeyMap.size_sub_filter _ _

theorem place?_sweep (app : App) (instant : Instant) (ttl : Duration) (id : String) :
    (app.sweep instant ttl).1.place? id =
      (app.place? id).filter fun place => !app.isExpired instant ttl place :=
  KeyMap.get?_filter _ _ id

theorem live_sweep (app : App) (instant : Instant) (ttl : Duration) (id : String) :
    (app.sweep instant ttl).1.shared.sessions.live.get? id =
      (app.shared.sessions.live.get? id).filter
        fun entry => !expired instant entry.lastAccess app.sessionWindow :=
  KeyMap.get?_filter _ _ id

theorem refusedSince?_sweep (app : App) (instant : Instant) (ttl : Duration) (id : String) :
    (app.sweep instant ttl).1.refusedSince? id =
      (app.refusedSince? id).filter fun since => !expired instant since app.sessionWindow :=
  KeyMap.get?_filter _ _ id

theorem place?_sweep_found {app : App} {id : String} {place : Nat} {connection : Connection}
    (placed : app.place? id = some place) (here : app.connections[place]? = some connection)
    (instant : Instant) (ttl : Duration) :
    (app.sweep instant ttl).1.place? id =
      if ttl < instant - connection.lastAccess then none else some place := by
  rw [place?_sweep, placed, ← filter_unexpired fun _ => connection.lastAccess]
  simp [Option.filter, isExpired, here]

theorem sweep_connections {app : App} (exact : app.Exact) {place : Nat} {connection : Connection}
    (here : app.connections[place]? = some connection) (now instant : Instant) (ttl : Duration) :
    let after := (app.sweep instant ttl).1
    let removed := app.place? connection.id = some place ∧ after.place? connection.id = none
    ∃ later, after.connections[place]? = some later ∧
      (removed → later = connection.retire) ∧ (¬ removed → later = connection) := by
  intro after removed
  have only : ∀ passage ∈ app.passages place now (.sweep instant ttl), passage = .move .retire :=
    fun passage member => retires_only rfl member
  have stays : after.place? connection.id = some place ↔ app.place? connection.id = some place ∧
      .move .retire ∉ app.passages place now (.sweep instant ttl) :=
    place?_apply exact here now (.sweep instant ttl)
  refine ⟨_, apply_passages here now (.sweep instant ttl), ?_, fun kept => ?_⟩
  · rintro ⟨placed, gone⟩
    have retired : .move .retire ∈ app.passages place now (.sweep instant ttl) := by
      refine Classical.byContradiction fun spared => ?_
      rw [stays.mpr ⟨placed, spared⟩] at gone
      nomatch gone
    have closed := (connection.undergoAll_isClosed _).mpr (.inr retired)
    rcases connection.undergoAll_retires only with same | same
    · rw [same, (exact.open_iff place connection here).mpr placed] at closed
      nomatch closed
    · exact same
  · rcases connection.undergoAll_retires only with same | same
    · exact same
    cases closed : connection.isClosed with
    | true => rw [same, Connection.retire_closed closed]
    | false =>
      have placed := (exact.open_iff place connection here).mp closed
      have retired : .move .retire ∈ app.passages place now (.sweep instant ttl) := by
        have after := (connection.undergoAll_isClosed _).mp (congrArg Connection.isClosed same)
        exact after.resolve_left (by simp [closed])
      refine absurd ⟨placed, ?_⟩ kept
      cases found : after.place? connection.id with
      | none => rfl
      | some other =>
        have kept := (place?_sweep_found placed here instant ttl).symm.trans found
        have there := found.trans (Option.ite_none_left_eq_some.mp kept).2.symm
        exact absurd retired (stays.mp there).2

end App

/-- After any run that does not go back in time a sweep removes the connections that were refreshed
last more than its window ago, and the sessions and the refusals that were refreshed last or refused
last more than the session window ago. A time that is still to come has not passed at all. The
report counts what is removed, and everything else stays as it is. -/
theorem expiry_exact {config : Config} {pages : List Page} {app : App}
    (built : App.build config pages = .ok app) {steps : List (Instant × Step)}
    (ordered : steps.Pairwise fun first later => first.1 ≤ later.1)
    (now instant : Instant) (ttl : Duration) :
    let scenario := (Scenario.ofApp app).reached steps
    let swept := scenario.step now (.sweep instant ttl)
    let before := scenario.app
    let after := swept.scenario.app
    let window := seconds config.sessionMaxAge
    (∀ id,
      (before.place? id = none → after.place? id = none) ∧
      ∀ place, before.place? id = some place →
        ∃ last, (Scenario.ofApp app).LastAt (Scenario.RefreshesAt place) steps last ∧
          after.place? id = if ttl < instant - last then none else some place) ∧
    (∀ id,
      (before.shared.sessions.live.get? id = none → after.shared.sessions.live.get? id = none) ∧
      ∀ entry, before.shared.sessions.live.get? id = some entry →
        ∃ last, (Scenario.ofApp app).LastAt (Scenario.RefreshesSession id) steps last ∧
          after.shared.sessions.live.get? id =
            if window < instant - last then none else some entry) ∧
    (∀ id,
      (before.refusedSince? id = none → after.refusedSince? id = none) ∧
      ∀ since, before.refusedSince? id = some since →
        (Scenario.ofApp app).LastAt (Scenario.Refuses id) steps since ∧
          after.refusedSince? id = if window < instant - since then none else some since) ∧
    swept.answer = .swept ⟨(before.registered.lost after.registered).length,
      (before.shared.sessions.live.lost after.shared.sessions.live).length,
      (before.shared.sessions.refused.lost after.shared.sessions.refused).length⟩ ∧
    (∀ place connection, before.connections[place]? = some connection →
      let removed := before.place? connection.id = some place ∧ after.place? connection.id = none
      ∃ later, after.connections[place]? = some later ∧
        (removed → later = connection.retire) ∧ (¬ removed → later = connection)) ∧
    after.connections.length = before.connections.length ∧
    after.shared.application = before.shared.application ∧ after.pages = before.pages ∧
    after.config = before.config ∧ after.ids = before.ids ∧
    swept.scenario = scenario.withApp after := by
  intro scenario swept before after window
  obtain ⟨routes, rfl⟩ := App.build_fresh built
  have start := App.exact_of_built built
  have exact : before.Exact := Scenario.reached_exact start steps
  have configured : before.config = config :=
    Scenario.reached_induction (motive := fun app => app.config = config)
      (fun now app change same => (app.apply_fixed now change).2.trans same) _ steps rfl
  have fixed : before.sessionWindow = window := by rw [App.sessionWindow, configured]
  obtain ⟨application, pages, same, ids⟩ := before.sweep_rest instant ttl
  refine ⟨fun id => ⟨fun absent => ?_, fun place placed => ?_⟩,
    fun id => ⟨fun absent => ?_, fun entry here => ?_⟩,
    fun id => ⟨fun absent => ?_, fun since here => ⟨?_, ?_⟩⟩,
    congrArg Answer.swept (before.sweep_report instant ttl),
    fun place connection here => App.sweep_connections exact here now instant ttl,
    before.retired_length _, application, pages, same, ids, rfl⟩
  · exact (before.place?_sweep instant ttl id).trans (by rw [absent]; rfl)
  · obtain ⟨connection, here, -⟩ := exact.standing id place placed
    exact ⟨connection.lastAccess, Scenario.lastAccess_lastAt ordered start rfl here,
      App.place?_sweep_found placed here instant ttl⟩
  · exact (before.live_sweep instant ttl id).trans (by rw [absent]; rfl)
  · refine ⟨entry.lastAccess, Scenario.session_lastAt ordered start rfl here, ?_⟩
    rw [← fixed]
    exact (before.live_sweep instant ttl id).trans
      (by rw [here]; exact filter_unexpired Session.lastAccess entry instant _)
  · exact (before.refusedSince?_sweep instant ttl id).trans (by rw [absent]; rfl)
  · exact Scenario.refusal_lastAt ordered rfl here
  · rw [← fixed]
    exact (before.refusedSince?_sweep instant ttl id).trans
      (by rw [here]; exact filter_unexpired (fun since => since) since instant _)

-- An action keeps the first of two tabs, whose time is just not over yet.
theorem expiry_exact_two_tabs :
    App.build Config.defaults [clubPage] = .ok clubApp ∧
    twoTabs.Pairwise (fun first later => first.1 ≤ later.1) ∧
    let swept := ((Scenario.ofApp clubApp).reached twoTabs).step 7 (.sweep 8 3)
    (∃ last, (Scenario.ofApp clubApp).LastAt (Scenario.RefreshesAt 0) twoTabs last ∧
      ¬ 3 < 8 - last) ∧
    (∃ last, (Scenario.ofApp clubApp).LastAt (Scenario.RefreshesAt 1) twoTabs last ∧
      3 < 8 - last) ∧
    swept.answer = .swept ⟨1, 0, 0⟩ := by
  have ordered : twoTabs.Pairwise fun first later => first.1 ≤ later.1 := by decide
  have built : App.build Config.defaults [clubPage] = .ok clubApp := rfl
  refine ⟨built, ordered, ?_⟩
  obtain ⟨places, -, -, report, -⟩ := expiry_exact built ordered 7 8 3
  obtain ⟨first, latest, stays⟩ := (places "first").2 0 rfl
  obtain ⟨second, later, gone⟩ := (places "second").2 1 rfl
  refine ⟨⟨first, latest, fun old => ?_⟩, ⟨second, later, ?_⟩, report.trans rfl⟩
  · rw [if_pos old] at stays
    nomatch stays
  · refine Classical.byContradiction fun young => ?_
    rw [if_neg young] at gone
    nomatch gone

end LiveTabs
