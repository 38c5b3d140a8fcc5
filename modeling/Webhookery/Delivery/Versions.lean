import Webhookery.Delivery.ExactlyOnce

/-!
# Versions of subscriptions and routes

The service creates subscriptions and routes with version one. Whatever happens to them then, their version
rows are numbered without gaps, the active one describes the row, and no version row ever changes: the version
that a delivery recorded stays the configuration that produced it.
-/

namespace Webhookery.Delivery

open Go Relational Store

variable {env : Env} {db db' : DB} {actorID : String}

/-- One operation of the service, which creates rows with their first version. -/
abbrev ServiceStep : DB → DB → Prop := ConfigStep (· ≤ 1)

/-- The version rows are numbered. -/
structure VersionsNumbered (db : DB) : Prop where
  subscriptions : Consecutive SubscriptionVersion.subscriptionID SubscriptionVersion.version Subscription.version
    db.subscriptions db.subscriptionVersions
  routes : Consecutive RouteVersion.routeID RouteVersion.version Route.version db.routes db.routeVersions

/-- The version rows stay as they are, and new ones follow. -/
structure VersionsKept (db db' : DB) : Prop where
  subscriptions : db.subscriptionVersions.rows <+: db'.subscriptionVersions.rows
  routes : db.routeVersions.rows <+: db'.routeVersions.rows

/-- A store before the first subscription and route. -/
structure Unversioned (db : DB) : Prop extends VersionsNumbered db where
  unconfigured : Unconfigured db

/-- The active version of each row describes it, and its version rows are 1, 2, ... up to its version. -/
structure VersionsSound (db : DB) : Prop where
  subscription : ∀ s ∈ db.subscriptions, (∃ v ∈ db.subscriptionVersions, v.Describes s) ∧
    (db.subscriptionVersions.rows.filter (·.subscriptionID = s.id)).map (·.version) = List.range' 1 s.version
  route : ∀ r ∈ db.routes, (∃ v ∈ db.routeVersions, v.Describes r) ∧
    (db.routeVersions.rows.filter (·.routeID = r.id)).map (·.version) = List.range' 1 r.version

theorem numbered_of_subscriptionPublished (h : SubscriptionPublished env actorID s db db')
    (hdb : VersionsNumbered db)
    (hnext : (s.version = 1 ∧ ∀ s₀ ∈ db.subscriptions, s₀.id ≠ s.id) ∨
      ∃ s₀ ∈ db.subscriptions, s₀.id = s.id ∧ s.version = s₀.version + 1) :
    VersionsNumbered db' ∧ VersionsKept db db' := by
  refine ⟨⟨hdb.subscriptions.publish h.published rfl rfl hnext, ?_⟩, ⟨[_], h.published.versions.symm⟩, ?_⟩
  · rw [h.frame]
    exact hdb.routes
  · exact h.frame ▸ List.prefix_rfl

theorem numbered_of_routePublished (h : RoutePublished env actorID r db db') (hdb : VersionsNumbered db)
    (hnext : (r.version = 1 ∧ ∀ r₀ ∈ db.routes, r₀.id ≠ r.id) ∨
      ∃ r₀ ∈ db.routes, r₀.id = r.id ∧ r.version = r₀.version + 1) :
    VersionsNumbered db' ∧ VersionsKept db db' := by
  refine ⟨⟨?_, hdb.routes.publish h.published rfl rfl hnext⟩, ?_, ⟨[_], h.published.versions.symm⟩⟩
  · rw [h.frame]
    exact hdb.subscriptions
  · exact h.frame ▸ List.prefix_rfl

/-- The version of a new row. -/
theorem firstVersion (h : version ≤ 1) : (if version = 0 then 1 else version) = 1 := by
  split <;> omega

theorem VersionsNumbered.step (hdb : VersionsNumbered db) (h : ServiceStep db db') :
    VersionsNumbered db' ∧ VersionsKept db db' := by
  cases h with
  | createSubscription _ hversion _ _ h =>
    obtain ⟨_, hpublished, -, hfresh⟩ := createSubscription_eq_ok h
    exact numbered_of_subscriptionPublished hpublished hdb (.inl ⟨firstVersion hversion, hfresh⟩)
  | updateSubscription _ _ _ _ _ _ h
  | deleteSubscription _ _ _ _ _ h =>
    obtain ⟨current, hcurrent, _, hchanged, hpublished⟩ := updateSubscription_eq_ok h
    obtain ⟨hversion, hid, -⟩ := changedSubscription_eq_ok hchanged
    exact numbered_of_subscriptionPublished hpublished hdb (.inr ⟨current, hcurrent, hid.symm, hversion⟩)
  | createRoute _ hversion _ _ h =>
    obtain ⟨_, hpublished, -, hfresh⟩ := createRoute_eq_ok h
    exact numbered_of_routePublished hpublished hdb (.inl ⟨firstVersion hversion, hfresh⟩)
  | updateRoute _ _ _ _ _ _ h
  | deleteRoute _ _ _ _ _ h =>
    obtain ⟨current, hcurrent, _, hchanged, hpublished⟩ := updateRoute_eq_ok h
    obtain ⟨hversion, hid, -⟩ := changedRoute_eq_ok hchanged
    exact numbered_of_routePublished hpublished hdb (.inr ⟨current, hcurrent, hid.symm, hversion⟩)
  | activateRoute _ _ _ _ _ h =>
    obtain ⟨current, hcurrent, hpublished⟩ := activateRoute_eq_ok h
    exact numbered_of_routePublished hpublished hdb (.inr ⟨current, hcurrent, rfl, rfl⟩)
  | other hsubscriptions hsubscriptionVersions hroutes hrouteVersions =>
    refine ⟨⟨?_, ?_⟩, ?_, ?_⟩
    · rw [hsubscriptions, hsubscriptionVersions]
      exact hdb.subscriptions
    · rw [hroutes, hrouteVersions]
      exact hdb.routes
    · simp [hsubscriptionVersions]
    · simp [hrouteVersions]

theorem VersionsNumbered.steps (hdb : VersionsNumbered db) (h : Relation.ReflTransGen ServiceStep db db') :
    VersionsNumbered db' ∧ VersionsKept db db' := by
  induction h with
  | refl => exact ⟨hdb, List.prefix_rfl, List.prefix_rfl⟩
  | tail _ hstep ih =>
    obtain ⟨hnext, hkept⟩ := ih.1.step hstep
    exact ⟨hnext, ih.2.subscriptions.trans hkept.subscriptions, ih.2.routes.trans hkept.routes⟩

/-- In every run of the service the versions are sound, and a later state keeps the version rows of an
earlier one. -/
theorem versions_sound {db₀ : DB} (h₀ : Unversioned db₀) (hrun : Relation.ReflTransGen ServiceStep db₀ db)
    (hlater : Relation.ReflTransGen ServiceStep db db') : VersionsSound db' ∧ VersionsKept db db' := by
  have hnumbered := (h₀.toVersionsNumbered.steps hrun).1.steps hlater
  have hconfigured := h₀.unconfigured.configured_steps (hrun.trans hlater)
  refine ⟨⟨fun s hs ↦ ?_, fun r hr ↦ ?_⟩, hnumbered.2⟩
  · exact ⟨hconfigured.subscriptions s hs, hnumbered.1.subscriptions.numbers s hs⟩
  · exact ⟨hconfigured.routes r hr, hnumbered.1.routes.numbers r hr⟩

/-- The shop creates a route and activates it. -/
def shopActivated : DB := committedState (activateRoute "t" "rte_0" "usr_1" (shopEnv 1) shopConfigured)

theorem shop_versions_sound :
    shopActivated.routes.rows.map (·.version) = [2] ∧ VersionsSound shopActivated ∧
      VersionsKept shopConfigured shopActivated := by
  have hactivate : (activateRoute "t" "rte_0" "usr_1" (shopEnv 1) shopConfigured).isOk = true := by
    decide +kernel
  obtain ⟨r, hr⟩ := exists_eq_committedState hactivate
  have h₀ : Unversioned shopEventDB :=
    ⟨⟨⟨nofun, nofun⟩, ⟨nofun, nofun⟩⟩, rfl, rfl⟩
  exact ⟨by decide +kernel,
    versions_sound h₀ (steps_shopConfigured (Nat.zero_le 1)) (.single (.activateRoute _ _ _ _ r hr))⟩

end Webhookery.Delivery
