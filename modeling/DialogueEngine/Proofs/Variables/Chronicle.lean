import DialogueEngine.Variables.Notification

/-!
# Chronicles

What reactions do to the reactive variables, written down event by event. Following a reaction does
what running it does, and keeps a chronicle besides. A call in a chronicle tells which set it is
made for, so the calls for one set can be picked out from those that are made meanwhile.
-/

namespace DialogueEngine

variable {σ : Type}

/-- Something that a reaction does. The events of a chronicle are numbered from zero. -/
inductive Event (σ : Type) where
  | subscribed (subscription : Subscription) (callback : Callback σ)
  | unsubscribed (subscription : Subscription)
  /-- A variable is set. The value that it had before is `none` if it is not declared. -/
  | set (name : String) (value : Value) (found : Option Value)
  /-- A subscriber is called, with the new and the old value, for the set with a given number. -/
  | called (change : Nat) (subscription : Subscription) (callback : Callback σ) (new old : Value)

/-! ## What an event does to the variables -/

namespace Event

/-- What an event does to a variable. -/
def act (name : String) (cell : ReactiveVariable σ) : Event σ → ReactiveVariable σ
  | .subscribed subscription callback =>
      if subscription.name = name then cell.subscribe callback else cell
  | .unsubscribed subscription =>
      if subscription.name = name then cell.unsubscribe subscription.id else cell
  | .set other value _ => if other = name then { cell with value } else cell
  | .called .. => cell

/-- An event takes the variables from one world to another. A new subscription gets the id that is
next. -/
structure Acts (event : Event σ) (w world : World σ) : Prop where
  cells (name : String) : world.reactives.find? name =
    (w.reactives.find? name).map fun cell => event.act name cell
  issued {subscription : Subscription} {callback : Callback σ} :
    event = .subscribed subscription callback →
      ∃ cell, w.reactives.find? subscription.name = some cell ∧ subscription.id = cell.nextId

variable {w : World σ} {name : String} {cell : ReactiveVariable σ} {value : Value}

theorem find?_put (event : Event σ) (found : w.reactives.find? name = some cell)
    (others : ∀ other cell, name ≠ other → event.act other cell = cell) (other : String) :
    (w.put name (event.act name cell)).reactives.find? other =
      (w.reactives.find? other).map fun cell => event.act other cell := by
  simp only [World.put, NameTable.find?_insert]
  by_cases same : name = other
  · subst other
    simp [found]
  · rw [if_neg same]
    cases w.reactives.find? other with
    | none => rfl
    | some cell => rw [Option.map_some, others other cell same]

theorem find?_of_idle {event : Event σ}
    (idle : ∀ name cell, w.reactives.find? name = some cell → event.act name cell = cell)
    (name : String) :
    w.reactives.find? name = (w.reactives.find? name).map fun cell => event.act name cell := by
  cases found : w.reactives.find? name with
  | none => rfl
  | some cell => rw [Option.map_some, idle name cell found]

theorem acts_subscribed {callback : Callback σ} {subscription : Subscription} {world : World σ}
    (made : w.subscribe name callback = (some subscription, world)) :
    (subscribed subscription callback).Acts w world := by
  rw [World.subscribe] at made
  cases found : w.reactives.find? name with
  | none => simp [found] at made
  | some cell =>
    simp only [found, Prod.mk.injEq, Option.some.injEq] at made
    obtain ⟨rfl, rfl⟩ := made
    have cells := find?_put (subscribed ⟨name, cell.nextId⟩ callback) found
      fun _ _ differ => if_neg differ
    rw [act, if_pos rfl] at cells
    refine ⟨cells, fun same => ?_⟩
    cases same
    exact ⟨cell, found, rfl⟩

theorem acts_unsubscribed (w : World σ) (subscription : Subscription) :
    (unsubscribed subscription).Acts w (w.unsubscribe subscription) := by
  refine ⟨?_, by simp⟩
  rw [World.unsubscribe]
  cases found : w.reactives.find? subscription.name with
  | none =>
    refine find?_of_idle fun name cell declared => if_neg fun same => ?_
    rw [← same, found] at declared
    cases declared
  | some cell =>
    have cells := find?_put (unsubscribed subscription) found fun _ _ differ => if_neg differ
    rwa [act, if_pos rfl] at cells

theorem acts_changed (old : Option Value) (found : w.reactives.find? name = some cell) :
    (set name value old).Acts w (w.put name { cell with value }) := by
  refine ⟨?_, by simp⟩
  have cells := find?_put (set name value old) found fun _ _ differ => if_neg differ
  rwa [act, if_pos rfl] at cells

theorem acts_kept (old : Option Value)
    (same : ∀ cell, w.reactives.find? name = some cell → cell.value = value) :
    (set name value old).Acts w w := by
  refine ⟨find?_of_idle fun other cell found => ?_, by simp⟩
  rw [act]
  split
  · next here =>
    subst here
    rw [← same cell found]
  · rfl

theorem acts_called (w : World σ) (change : Nat) (subscription : Subscription)
    (callback : Callback σ) (new old : Value) :
    (called change subscription callback new old).Acts w w :=
  ⟨find?_of_idle fun _ _ _ => rfl, by simp⟩

end Event

/-! ## Following a reaction -/

structure Chronicle (σ : Type) where
  world : World σ
  events : List (Event σ) := []

def Chronicle.add (c : Chronicle σ) (event : Event σ) (world : World σ) : Chronicle σ :=
  ⟨world, c.events ++ [event]⟩

mutual

/-- Runs a reaction and writes down what it does. -/
def Reaction.follow : Nat → Reaction σ → Chronicle σ → Option (Chronicle σ)
  | 0, _, _ => none
  | fuel + 1, reaction, c =>
      match reaction with
      | .done => some c
      | .modify f next => next.follow fuel { c with world := c.world.modify f }
      | .consult next => (next c.world.host).follow fuel c
      | .read name next => (next (c.world.value? name)).follow fuel c
      | .set name value next =>
          match c.assign fuel name value with
          | none => none
          | some c => next.follow fuel c
      | .subscribe name callback next =>
          match c.world.subscribe name callback with
          | (none, world) => (next none).follow fuel { c with world }
          | (some subscription, world) =>
              (next (some subscription)).follow fuel
                (c.add (.subscribed subscription callback) world)
      | .unsubscribe subscription next =>
          next.follow fuel (c.add (.unsubscribed subscription) (c.world.unsubscribe subscription))

/-- Sets a variable. Its subscribers are called for this event, which gets the next number. -/
def Chronicle.assign : Nat → Chronicle σ → String → Value → Option (Chronicle σ)
  | 0, _, _, _ => none
  | fuel + 1, c, name, value =>
      match c.world.reactives.find? name with
      | none => some (c.add (.set name value none) c.world)
      | some cell =>
          if cell.value = value then some (c.add (.set name value (some cell.value)) c.world)
          else
            (c.add (.set name value (some cell.value))
              (c.world.put name { cell with value })).notify
              fuel c.events.length name cell.subscribers value cell.value

def Chronicle.notify : Nat → Chronicle σ → Nat → String → List (Nat × Callback σ) → Value → Value →
    Option (Chronicle σ)
  | 0, _, _, _, _, _, _ => none
  | _ + 1, c, _, _, [], _, _ => some c
  | fuel + 1, c, change, name, (id, callback) :: rest, new, old =>
      match (callback new old).follow fuel
          (c.add (.called change ⟨name, id⟩ callback new old) c.world) with
      | none => none
      | some c => c.notify fuel change name rest new old

end

/-- A set keeps the value that a variable has, or changes it and goes on to notify. -/
theorem Chronicle.assign_cases {fuel : Nat} {c after : Chronicle σ} {name : String} {value : Value}
    (assigned : c.assign (fuel + 1) name value = some after) :
    ((∀ cell, c.world.reactives.find? name = some cell → cell.value = value) ∧
      after = c.add (.set name value (c.world.value? name)) c.world) ∨
    ∃ cell, c.world.reactives.find? name = some cell ∧ cell.value ≠ value ∧
      (c.add (.set name value (some cell.value)) (c.world.put name { cell with value })).notify
        fuel c.events.length name cell.subscribers value cell.value = some after := by
  rw [assign] at assigned
  cases found : c.world.reactives.find? name with
  | none =>
    simp only [found, Option.some.injEq] at assigned
    refine .inl ⟨by simp, ?_⟩
    rw [← assigned, World.value?, found, Option.map_none]
  | some cell =>
    simp only [found] at assigned
    split at assigned
    · next same =>
      refine .inl ⟨by simp [same], ?_⟩
      rw [← Option.some.inj assigned, World.value?, found, Option.map_some]
    · next changes => exact .inr ⟨cell, rfl, changes, assigned⟩

/-! ## Following is running -/

mutual

theorem Reaction.map_world_follow : ∀ (fuel : Nat) (reaction : Reaction σ) (c : Chronicle σ),
    (reaction.follow fuel c).map Chronicle.world = reaction.run fuel c.world
  | 0, _, _ => by simp [Reaction.follow, Reaction.run]
  | fuel + 1, reaction, c => by
    cases reaction with
    | done => rfl
    | modify f next | consult next | read name next | unsubscribe subscription next =>
      rw [Reaction.follow, Reaction.run]
      exact Reaction.map_world_follow fuel _ _
    | set name value next =>
      rw [Reaction.follow, Reaction.run, ← Chronicle.map_world_assign fuel c name value]
      cases c.assign fuel name value with
      | none => rfl
      | some c => exact Reaction.map_world_follow fuel next c
    | subscribe name callback next =>
      rw [Reaction.follow, Reaction.run]
      rcases c.world.subscribe name callback with ⟨_ | subscription, world⟩
      · exact Reaction.map_world_follow fuel _ _
      · exact Reaction.map_world_follow fuel _ _

theorem Chronicle.map_world_assign : ∀ (fuel : Nat) (c : Chronicle σ) (name : String)
    (value : Value),
    (c.assign fuel name value).map Chronicle.world = c.world.assign fuel name value
  | 0, _, _, _ => by simp [Chronicle.assign, World.assign]
  | fuel + 1, c, name, value => by
    rw [Chronicle.assign, World.assign]
    cases c.world.reactives.find? name with
    | none => rfl
    | some cell =>
      simp only
      split
      · rfl
      · exact Chronicle.map_world_notify fuel _ _ name cell.subscribers value cell.value

theorem Chronicle.map_world_notify : ∀ (fuel : Nat) (c : Chronicle σ) (change : Nat)
    (name : String) (subscribers : List (Nat × Callback σ)) (new old : Value),
    (c.notify fuel change name subscribers new old).map Chronicle.world =
      c.world.notify fuel (subscribers.map Prod.snd) new old
  | 0, _, _, _, _, _, _ => by simp [Chronicle.notify, World.notify]
  | _ + 1, _, _, _, [], _, _ => by simp [Chronicle.notify, World.notify]
  | fuel + 1, c, change, name, (id, callback) :: rest, new, old => by
    let called := c.add (.called change ⟨name, id⟩ callback new old) c.world
    have followed : ((callback new old).follow fuel called).map Chronicle.world =
      (callback new old).run fuel c.world := Reaction.map_world_follow fuel _ called
    rw [Chronicle.notify, List.map_cons, World.notify, ← followed]
    cases (callback new old).follow fuel called with
    | none => rfl
    | some c => exact Chronicle.map_world_notify fuel c change name rest new old

end

/-- Whatever runs can be followed. -/
theorem Reaction.follow_of_run {fuel : Nat} {reaction : Reaction σ} {w after : World σ}
    (ran : reaction.run fuel w = some after) :
    ∃ events, reaction.follow fuel ⟨w, []⟩ = some ⟨after, events⟩ := by
  rw [← Reaction.map_world_follow fuel reaction ⟨w, []⟩] at ran
  obtain ⟨⟨world, events⟩, followed, rfl⟩ := Option.map_eq_some_iff.mp ran
  exact ⟨events, followed⟩

end DialogueEngine
