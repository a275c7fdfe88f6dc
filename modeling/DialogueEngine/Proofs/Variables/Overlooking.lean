import DialogueEngine.Proofs.Variables.Chronicle

/-!
# Changes that reactions overlook

A change of the state of the host is overlooked by a reaction that takes no notice of it: the host
answers the same after the change, and what is done to the host may be done before the change as
well. Such a reaction does the same to the reactive variables after the change, event by event.
-/

namespace DialogueEngine

variable {σ : Type}

/-- A reaction, and those that it subscribes, take no notice of a change. -/
def Reaction.Overlooks (change : σ → σ) : Reaction σ → Prop
  | .done => True
  | .modify f next => (∀ host, f (change host) = change (f host)) ∧ next.Overlooks change
  | .consult next =>
      (∀ host, next (change host) = next host) ∧ ∀ host, (next host).Overlooks change
  | .read _ next => ∀ value, (next value).Overlooks change
  | .set _ _ next => next.Overlooks change
  | .subscribe _ callback next =>
      (∀ new old, (callback new old).Overlooks change) ∧
        ∀ subscription, (next subscription).Overlooks change
  | .unsubscribe _ next => next.Overlooks change

/-- No change is no change to anybody. -/
theorem Reaction.overlooks_id (reaction : Reaction σ) : reaction.Overlooks id := by
  induction reaction with
  | done => trivial
  | modify f next ih => exact ⟨fun _ => rfl, ih⟩
  | consult next ih => exact ⟨fun _ => rfl, ih⟩
  | read name next ih => exact ih
  | set name value next ih => exact ih
  | subscribe name callback next called ih => exact ⟨called, ih⟩
  | unsubscribe subscription next ih => exact ih

/-- The subscriber does, whatever it is called with. -/
def Callback.Overlooks (change : σ → σ) (callback : Callback σ) : Prop :=
  ∀ new old, (callback new old).Overlooks change

def ReactiveVariable.Overlooks (change : σ → σ) (cell : ReactiveVariable σ) : Prop :=
  ∀ subscriber ∈ cell.subscribers, subscriber.2.Overlooks change

namespace World

/-- All subscribers take no notice of a change. -/
def Overlooks (change : σ → σ) (w : World σ) : Prop :=
  ∀ name cell, w.reactives.find? name = some cell → cell.Overlooks change

variable {change : σ → σ} {w : World σ}

theorem overlooks_id (w : World σ) : w.Overlooks id :=
  fun _ _ _ _ _ _ _ => Reaction.overlooks_id _

theorem Overlooks.put {cell : ReactiveVariable σ} (overlooks : w.Overlooks change) (name : String)
    (calm : cell.Overlooks change) : (w.put name cell).Overlooks change := by
  intro other found bound
  simp only [World.put, NameTable.find?_insert] at bound
  split at bound
  · cases bound
    exact calm
  · exact overlooks other found bound

theorem Overlooks.declare (overlooks : w.Overlooks change) (name : String) (initial : Value) :
    (w.declare name initial).Overlooks change := by
  rw [World.declare]
  split
  · exact overlooks
  · exact overlooks.put name fun _ mem => nomatch mem

theorem Overlooks.unsubscribe (overlooks : w.Overlooks change) (subscription : Subscription) :
    (w.unsubscribe subscription).Overlooks change := by
  rw [World.unsubscribe]
  split
  · next cell found =>
    apply overlooks.put
    intro subscriber mem
    exact overlooks _ _ found subscriber (List.mem_filter.mp mem).1
  · exact overlooks

theorem Overlooks.subscribe {callback : Callback σ} (overlooks : w.Overlooks change)
    (name : String) (calm : callback.Overlooks change) :
    (w.subscribe name callback).2.Overlooks change := by
  rw [World.subscribe]
  split
  · next cell found =>
    apply overlooks.put
    intro subscriber mem
    rcases List.mem_append.mp mem with old | new
    · exact overlooks _ _ found subscriber old
    · rw [List.mem_singleton.mp new]
      exact calm
  · exact overlooks

/-! ## Reactive variables after a change of the host -/

theorem subscribe_modify (w : World σ) (change : σ → σ) (name : String) (callback : Callback σ) :
    (w.modify change).subscribe name callback =
      ((w.subscribe name callback).1, (w.subscribe name callback).2.modify change) := by
  simp only [subscribe, modify]
  split <;> rfl

theorem unsubscribe_modify (w : World σ) (change : σ → σ) (subscription : Subscription) :
    (w.modify change).unsubscribe subscription = (w.unsubscribe subscription).modify change := by
  simp only [unsubscribe, modify]
  split <;> rfl

theorem declare_modify (w : World σ) (change : σ → σ) (name : String) (initial : Value) :
    (w.modify change).declare name initial = (w.declare name initial).modify change := by
  simp only [declare, modify]
  split <;> rfl

end World

namespace Chronicle

def modify (change : σ → σ) (c : Chronicle σ) : Chronicle σ :=
  { c with world := c.world.modify change }

/-- What follows one chronicle follows another one after a change, which nobody notices later. -/
def Follows (change : σ → σ) (chronicle other : Option (Chronicle σ)) : Prop :=
  ∀ after, chronicle = some after →
    after.world.Overlooks change ∧ other = some (after.modify change)

end Chronicle

open Chronicle

variable {change : σ → σ}

mutual

theorem Reaction.Overlooks.follow : ∀ (fuel : Nat) {reaction : Reaction σ} {c : Chronicle σ},
    reaction.Overlooks change → c.world.Overlooks change →
      Follows change (reaction.follow fuel c) (reaction.follow fuel (c.modify change))
  | 0, _, _, _, _, after, followed => by simp [Reaction.follow] at followed
  | fuel + 1, reaction, c, calm, overlooks, after, followed => by
    cases reaction with
    | done =>
      cases followed
      exact ⟨overlooks, rfl⟩
    | modify f next =>
      have commutes : (c.world.modify change).modify f = (c.world.modify f).modify change := by
        simp only [World.modify, calm.1]
      rw [Reaction.follow, Chronicle.modify, commutes]
      exact calm.2.follow fuel (c := { c with world := c.world.modify f }) overlooks after followed
    | consult next =>
      rw [Reaction.follow, show next (c.modify change).world.host = next c.world.host from calm.1 _]
      exact (calm.2 _).follow fuel overlooks after followed
    | read name next => exact (calm _).follow fuel overlooks after followed
    | set name value next =>
      rw [Reaction.follow] at followed ⊢
      cases assigned : c.assign fuel name value with
      | none => simp [assigned] at followed
      | some middle =>
        obtain ⟨overlooks, assigns⟩ := Chronicle.follows_assign fuel overlooks name value _ assigned
        simp only [assigned] at followed
        simp only [assigns]
        have later : next.Overlooks change := calm
        exact later.follow fuel overlooks after followed
    | subscribe name callback next =>
      have kept := overlooks.subscribe name calm.1
      rw [Reaction.follow] at followed ⊢
      simp only [Chronicle.modify, World.subscribe_modify]
      generalize c.world.subscribe name callback = subscribed at followed kept ⊢
      obtain ⟨_ | subscription, world⟩ := subscribed
      · exact (calm.2 none).follow fuel (c := ⟨world, _⟩) kept after followed
      · exact (calm.2 _).follow fuel (c := ⟨world, _⟩) kept after followed
    | unsubscribe subscription next =>
      rw [Reaction.follow] at followed ⊢
      simp only [Chronicle.modify, World.unsubscribe_modify]
      have later : next.Overlooks change := calm
      exact later.follow fuel (c := c.add _ _) (overlooks.unsubscribe subscription) after followed

theorem Chronicle.follows_assign : ∀ (fuel : Nat) {c : Chronicle σ},
    c.world.Overlooks change → ∀ (name : String) (value : Value),
      Follows change (c.assign fuel name value) ((c.modify change).assign fuel name value)
  | 0, _, _, _, _, after, assigned => by simp [Chronicle.assign] at assigned
  | fuel + 1, c, overlooks, name, value, after, assigned => by
    rw [Chronicle.assign] at assigned ⊢
    rw [show (c.modify change).world.reactives = c.world.reactives from rfl]
    cases found : c.world.reactives.find? name with
    | none =>
      simp only [found] at assigned ⊢
      cases assigned
      exact ⟨overlooks, rfl⟩
    | some cell =>
      simp only [found] at assigned ⊢
      have calm := overlooks name cell found
      split at assigned
      · next same =>
        cases assigned
        rw [if_pos same]
        exact ⟨overlooks, rfl⟩
      · next differs =>
        rw [if_neg differs]
        have put : (c.world.put name { cell with value }).Overlooks change :=
          overlooks.put name calm
        exact Chronicle.follows_notify fuel (c := c.add _ _) put _ name calm value cell.value after
          assigned

theorem Chronicle.follows_notify : ∀ (fuel : Nat) {c : Chronicle σ},
    c.world.Overlooks change → ∀ (number : Nat) (name : String)
      {subscribers : List (Nat × Callback σ)},
      (∀ subscriber ∈ subscribers, subscriber.2.Overlooks change) → ∀ new old : Value,
        Follows change (c.notify fuel number name subscribers new old)
          ((c.modify change).notify fuel number name subscribers new old)
  | 0, _, _, _, _, _, _, _, _, after, notified => by simp [Chronicle.notify] at notified
  | fuel + 1, c, overlooks, number, name, [], _, new, old, after, notified => by
    rw [Chronicle.notify] at notified ⊢
    cases notified
    exact ⟨overlooks, rfl⟩
  | fuel + 1, c, overlooks, number, name, (id, callback) :: rest, calm, new, old, after, notified =>
    by
    rw [List.forall_mem_cons] at calm
    rw [Chronicle.notify] at notified ⊢
    cases called : (callback new old).follow fuel
        (c.add (.called number ⟨name, id⟩ callback new old) c.world) with
    | none => simp [called] at notified
    | some middle =>
      obtain ⟨overlooks, calls⟩ :=
        (calm.1 new old).follow fuel (c := c.add _ _) overlooks middle called
      simp only [called] at notified
      rw [show (c.modify change).add (.called number ⟨name, id⟩ callback new old)
        (c.modify change).world = (c.add (.called number ⟨name, id⟩ callback new old)
          c.world).modify change from rfl, calls]
      exact Chronicle.follows_notify fuel overlooks number name calm.2 new old after notified

end

/-- A reaction that overlooks a change runs the same after it. -/
theorem Reaction.Overlooks.run {fuel : Nat} {reaction : Reaction σ} {w last : World σ}
    (calm : reaction.Overlooks change) (overlooks : w.Overlooks change)
    (ran : reaction.run fuel w = some last) :
    last.Overlooks change ∧ reaction.run fuel (w.modify change) = some (last.modify change) := by
  obtain ⟨events, followed⟩ := Reaction.follow_of_run ran
  obtain ⟨overlooks, follows⟩ := calm.follow fuel (c := ⟨w, []⟩) overlooks _ followed
  refine ⟨overlooks, ?_⟩
  have runs := Reaction.map_world_follow fuel reaction (Chronicle.modify change ⟨w, []⟩)
  rw [follows] at runs
  exact runs.symm

theorem World.Overlooks.assign {fuel : Nat} {w last : World σ} {name : String} {value : Value}
    (overlooks : w.Overlooks change) (assigned : w.assign fuel name value = some last) :
    last.Overlooks change ∧
      (w.modify change).assign fuel name value = some (last.modify change) := by
  rw [← Chronicle.map_world_assign fuel ⟨w, []⟩] at assigned
  obtain ⟨c, followed, rfl⟩ := Option.map_eq_some_iff.mp assigned
  obtain ⟨overlooks, follows⟩ :=
    Chronicle.follows_assign fuel (c := ⟨w, []⟩) overlooks name value c followed
  refine ⟨overlooks, ?_⟩
  have assigns := Chronicle.map_world_assign fuel (Chronicle.modify change ⟨w, []⟩) name value
  rw [follows] at assigns
  exact assigns.symm

end DialogueEngine
