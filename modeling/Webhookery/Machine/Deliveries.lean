import Webhookery.Machine.Effects

/-!
# What delivery workers hold

A delivery worker claims deliveries with the bodies of their payloads and keeps what it read until it has
recorded the attempts. The deliveries it holds exist, whatever others do in the meantime.
-/

namespace Webhookery.Machine

open Store App Relational

variable {l : Op} {q q' : Phase} {env : Env} {db db' : DB}

/-- Deliveries stay, with what they were created with. -/
theorem exists_delivery_of_act (h : Act l q env db q' db') (hd : d ∈ db.deliveries) :
    ∃ d' ∈ db'.deliveries, SameDelivery d d' := by
  cases deliveriesStep_of_act h with
  | created taken =>
    refine ⟨d, ?_, .refl d⟩
    exact (Table.mem_append taken.deliveries).mpr (.inl hd)
  | updated f rows same =>
    refine ⟨f d, ?_, same d⟩
    exact (Table.mem_map rows).mpr ⟨_, hd, rfl⟩

/-- The item of a worker is that of the delivery. -/
structure ItemOf (d : Delivery) (item : DeliveryItem) : Prop where
  id : d.id = item.id
  tenantID : d.tenantID = item.tenantID
  eventID : d.eventID = item.eventID

/-- What a worker holds it held before, or it has just claimed it. -/
theorem deliveryItems_of_act (h : Act l q env db q' db') (hitem : item ∈ q'.deliveryItems) :
    item ∈ q.deliveryItems ∨
      ∃ d ∈ db.deliveries, ItemOf d item ∧ deliveryBody d db = .ok item.body := by
  cases deliveryMove_of_act h with
  | dispatch dispatch =>
    cases dispatch with
    | claim _ _ _ _ commits =>
      obtain ⟨d, hd, hid, htenant, hevent, hbody⟩ := delivery_of_claimDueDeliveries commits hitem
      exact .inr ⟨d, hd, ⟨hid.symm, htenant.symm, hevent.symm⟩, hbody⟩
    | send | unsent => exact .inl hitem
    | record => exact .inl (List.mem_cons_of_mem _ hitem)
    | retain | retry | cancel | release => cases hitem
  | snapshot _ _ _ after =>
    subst after
    cases hitem
  | other _ items => exact .inl (items hitem)

/-- Workers hold deliveries that exist. -/
def ItemsExist (db : DB) (q : Phase) : Prop :=
  ∀ item ∈ q.deliveryItems, ∃ d ∈ db.deliveries, ItemOf d item

theorem ItemsExist.idle : ItemsExist db .idle := nofun

theorem ItemsExist.silent (h : ItemsExist db q) (hsilent : Silent q q₀) : ItemsExist db q₀ := by
  cases hsilent <;> exact h

theorem ItemsExist.keep (h : ItemsExist db q₁) (hact : Act l q env db q' db') : ItemsExist db' q₁ := by
  intro item hitem
  obtain ⟨_, hd, hof⟩ := h item hitem
  obtain ⟨d', hd', hsame⟩ := exists_delivery_of_act hact hd
  exact ⟨d', hd', hsame.id.trans hof.id, hsame.tenantID.trans hof.tenantID,
    hsame.eventID.trans hof.eventID⟩

theorem ItemsExist.act (h : ItemsExist db q) (hact : Act l q env db q' db') : ItemsExist db' q' := by
  have hbefore : ItemsExist db q' := by
    intro item hitem
    rcases deliveryItems_of_act hact hitem with hold | ⟨d, hd, hof, -⟩
    · exact h item hold
    · exact ⟨d, hd, hof⟩
  exact hbefore.keep hact

end Webhookery.Machine
