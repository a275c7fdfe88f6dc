import DialogueEngine.Proofs.Variables.Chronicle
import Mathlib.Logic.Function.Basic

/-!
# Every change is notified once

Whatever subscribers do while they are notified: for each change of a variable those that were
subscribed to it at that moment are called once each, in the order of their subscriptions, with the
value that was set and the one that was set before. While notifications are under way, some of these
calls are still owed; the account that is kept of them is what a reaction leaves as it is.
-/

namespace DialogueEngine

variable {σ : Type}

namespace World

/-- The subscribers of a variable; there are none if it is not declared. -/
def subscribers (w : World σ) (name : String) : List (Nat × Callback σ) :=
  ((w.reactives.find? name).map ReactiveVariable.subscribers).getD []

variable (w : World σ) (name other : String)

theorem value?_of_find? {w : World σ} {name : String} {cell : ReactiveVariable σ}
    (found : w.reactives.find? name = some cell) : w.value? name = some cell.value := by
  rw [value?, found]
  rfl

theorem subscribers_of_find? {w : World σ} {name : String} {cell : ReactiveVariable σ}
    (found : w.reactives.find? name = some cell) : w.subscribers name = cell.subscribers := by
  rw [subscribers, found]
  rfl

theorem reactives_of_subscribe_none {w world : World σ} {name : String} {callback : Callback σ}
    (refused : w.subscribe name callback = (none, world)) : world.reactives = w.reactives := by
  rw [subscribe] at refused
  split at refused
  · cases refused
  · cases refused
    rfl

@[simp]
theorem value?_put (cell : ReactiveVariable σ) :
    (w.put name cell).value? other = if name = other then some cell.value else w.value? other := by
  simp only [value?, put, NameTable.find?_insert]
  split <;> rfl

@[simp]
theorem subscribers_put (cell : ReactiveVariable σ) :
    (w.put name cell).subscribers other =
      if name = other then cell.subscribers else w.subscribers other := by
  simp only [subscribers, put, NameTable.find?_insert]
  split <;> rfl

/-- Without subscribers, setting a variable does no more than that. -/
theorem assign_of_unsubscribed {w world : World σ} {fuel : Nat} {name : String} {value : Value}
    (unsubscribed : w.subscribers name = [])
    (assigned : w.assign fuel name value = some world) :
    world = w ∨ ∃ cell, w.reactives.find? name = some cell ∧
      world = w.put name { cell with value } := by
  cases fuel with
  | zero => simp [assign] at assigned
  | succ fuel =>
    rw [assign] at assigned
    cases found : w.reactives.find? name with
    | none =>
      simp only [found] at assigned
      cases assigned
      exact .inl rfl
    | some cell =>
      simp only [found] at assigned
      split at assigned
      · cases assigned
        exact .inl rfl
      · rw [subscribers_of_find? found] at unsubscribed
        rw [ReactiveVariable.callbacks, unsubscribed] at assigned
        cases fuel with
        | zero => simp [notify] at assigned
        | succ fuel =>
          cases assigned
          exact .inr ⟨cell, rfl, by rw [unsubscribed]⟩

end World

namespace Event

/-- The value of a variable after an event. -/
def valueAfter (name : String) (value? : Option Value) : Event σ → Option Value
  | .set other value _ => if other = name then value?.map fun _ => value else value?
  | _ => value?

/-- The subscribers of a variable after an event, in the order of their subscriptions. -/
def subscribersAfter (name : String) (subscribers : List (Nat × Callback σ)) :
    Event σ → List (Nat × Callback σ)
  | .subscribed subscription callback =>
      if subscription.name = name then subscribers ++ [(subscription.id, callback)]
      else subscribers
  | .unsubscribed subscription =>
      if subscription.name = name then
        subscribers.filter fun subscriber => subscriber.1 ≠ subscription.id
      else subscribers
  | _ => subscribers

theorem Acts.value?_eq {event : Event σ} {w world : World σ} (acts : event.Acts w world)
    (name : String) : world.value? name = event.valueAfter name (w.value? name) := by
  rw [World.value?, World.value?, acts.cells name]
  cases w.reactives.find? name with
  | none =>
    cases event with
    | set other value old => simp [valueAfter]
    | _ => rfl
  | some cell =>
    cases event with
    | subscribed | unsubscribed | set =>
      simp only [Option.map_some, act, valueAfter]
      split <;> rfl
    | called => rfl

theorem Acts.subscribers_eq {event : Event σ} {w world : World σ} (acts : event.Acts w world)
    (name : String) :
    world.subscribers name = event.subscribersAfter name (w.subscribers name) := by
  rw [World.subscribers, World.subscribers, acts.cells name]
  cases event with
  | subscribed subscription callback =>
    obtain ⟨cell, declared, id⟩ := acts.issued rfl
    by_cases same : subscription.name = name
    · subst same
      simp [declared, act, subscribersAfter, ReactiveVariable.subscribe, id]
    · simp [act, subscribersAfter, same]
  | unsubscribed subscription =>
    cases w.reactives.find? name <;> by_cases same : subscription.name = name <;>
      simp [act, subscribersAfter, ReactiveVariable.unsubscribe, same]
  | set other value old =>
    cases w.reactives.find? name <;> by_cases same : other = name <;>
      simp [act, subscribersAfter, same]
  | called => cases w.reactives.find? name <;> rfl

def isCallFor (change : Nat) : Event σ → Bool
  | .called other .. => other = change
  | _ => false

end Event

/-- The value of a variable after some events: the one that was set last, if any was. -/
def valueAfter (start : World σ) (name : String) (events : List (Event σ)) : Option Value :=
  events.foldl (Event.valueAfter name) (start.value? name)

/-- Those that are subscribed to a variable after some events: who has subscribed and has not been
unsubscribed since. -/
def subscribersAfter (start : World σ) (name : String) (events : List (Event σ)) :
    List (Nat × Callback σ) :=
  events.foldl (Event.subscribersAfter name) (start.subscribers name)

/-- The calls for a set, in the order in which they are made. -/
def callsFor (change : Nat) (events : List (Event σ)) : List (Event σ) :=
  events.filter (Event.isCallFor change)

/-- The calls that there have to be for a set: none unless it changes the value. -/
def callsDue (number : Nat) (name : String) (value : Value)
    (subscribers : List (Nat × Callback σ)) : Option Value → List (Event σ)
  | none => []
  | some old =>
      if old = value then []
      else subscribers.map fun (id, callback) => .called number ⟨name, id⟩ callback value old

section

variable (start : World σ) (name : String) (events : List (Event σ)) (event : Event σ)

@[simp]
theorem valueAfter_concat :
    valueAfter start name (events ++ [event]) =
      event.valueAfter name (valueAfter start name events) := by
  simp [valueAfter]

@[simp]
theorem subscribersAfter_concat :
    subscribersAfter start name (events ++ [event]) =
      event.subscribersAfter name (subscribersAfter start name events) := by
  simp [subscribersAfter]

@[simp]
theorem callsFor_append (change : Nat) (more : List (Event σ)) :
    callsFor change (events ++ more) = callsFor change events ++ callsFor change more :=
  List.filter_append ..

end

namespace Chronicle

/-- The chronicle tells how things stand, and for each set the calls that were made and those that
are still owed are the ones that there have to be. -/
structure Accounts (start : World σ) (owed : Nat → List (Event σ)) (c : Chronicle σ) : Prop where
  value (name : String) : c.world.value? name = valueAfter start name c.events
  subscribers (name : String) : c.world.subscribers name = subscribersAfter start name c.events
  sets {number : Nat} {name : String} {value : Value} {found : Option Value} :
    c.events[number]? = some (.set name value found) →
      found = valueAfter start name (c.events.take number) ∧
      callsFor number c.events ++ owed number =
        callsDue number name value (subscribersAfter start name (c.events.take number)) found
  calls {number change : Nat} {subscription : Subscription} {callback : Callback σ}
      {new old : Value} :
    c.events[number]? = some (.called change subscription callback new old) →
      change < number ∧ c.events[change]? = some (.set subscription.name new (some old)) ∧ new ≠ old
  nothingAhead {number : Nat} : c.events.length ≤ number → owed number = []

variable {start : World σ} {owed owedNow : Nat → List (Event σ)} {c after : Chronicle σ}
  {event : Event σ} {world : World σ}

/-- There are no calls for a set that is yet to come. -/
theorem Accounts.callsFor_length (accounts : c.Accounts start owed) :
    callsFor c.events.length c.events = [] := by
  refine List.filter_eq_nil_iff.mpr fun event mem isCall => ?_
  cases event with
  | called change subscription callback new old =>
    obtain ⟨number, found⟩ := List.mem_iff_getElem?.mp mem
    obtain ⟨earlier, -, -⟩ := accounts.calls found
    have inside := (List.getElem?_eq_some_iff.mp found).1
    have same : change = c.events.length := by simpa [Event.isCallFor] using isCall
    omega
  | _ => simp [Event.isCallFor] at isCall

/-- One more event is accounted for. What was owed has either been called now or is owed still, and
a set brings about what is owed for it. -/
theorem Accounts.add (accounts : c.Accounts start owed) (acts : event.Acts c.world world)
    (balance : ∀ number < c.events.length, owed number = callsFor number [event] ++ owedNow number)
    (set : ∀ name value found, event = .set name value found →
      found = c.world.value? name ∧ owedNow c.events.length =
        callsDue c.events.length name value (c.world.subscribers name) found)
    (call : ∀ change subscription callback new old,
      event = .called change subscription callback new old →
      c.events[change]? = some (.set subscription.name new (some old)) ∧ new ≠ old)
    (nothingAhead : ∀ number, c.events.length < number → owedNow number = []) :
    (c.add event world).Accounts start owedNow where
  value name := by
    rw [Chronicle.add, valueAfter_concat, ← accounts.value]
    exact acts.value?_eq name
  subscribers name := by
    rw [Chronicle.add, subscribersAfter_concat, ← accounts.subscribers]
    exact acts.subscribers_eq name
  sets {number name value found} at? := by
    rw [Chronicle.add] at at? ⊢
    rcases Nat.lt_trichotomy number c.events.length with inside | rfl | beyond
    · rw [List.getElem?_append_left inside] at at?
      obtain ⟨was, settled⟩ := accounts.sets at?
      rw [List.take_append_of_le_length (Nat.le_of_lt inside), callsFor_append, List.append_assoc,
        ← balance number inside]
      exact ⟨was, settled⟩
    · obtain rfl : event = .set name value found := by simpa using at?
      obtain ⟨was, owes⟩ := set name value found rfl
      rw [List.take_left, ← accounts.value, ← accounts.subscribers, callsFor_append,
        accounts.callsFor_length, owes]
      exact ⟨was, rfl⟩
    · rw [List.getElem?_eq_none (by simp; omega)] at at?
      cases at?
  calls {number change subscription callback new old} at? := by
    rw [Chronicle.add] at at? ⊢
    rcases Nat.lt_trichotomy number c.events.length with inside | rfl | beyond
    · rw [List.getElem?_append_left inside] at at?
      obtain ⟨earlier, made, changes⟩ := accounts.calls at?
      exact ⟨earlier, by rwa [List.getElem?_append_left (Nat.lt_trans earlier inside)], changes⟩
    · obtain rfl : event = .called change subscription callback new old := by simpa using at?
      obtain ⟨made, changes⟩ := call _ _ _ _ _ rfl
      have earlier := (List.getElem?_eq_some_iff.mp made).1
      exact ⟨earlier, by rwa [List.getElem?_append_left earlier], changes⟩
    · rw [List.getElem?_eq_none (by simp; omega)] at at?
      cases at?
  nothingAhead {number} ahead := by
    rw [Chronicle.add, List.length_append, List.length_singleton] at ahead
    exact nothingAhead number ahead

/-- Nothing but the variables and their subscribers counts. -/
theorem Accounts.of_reactives (accounts : c.Accounts start owed)
    (same : world.reactives = c.world.reactives) :
    Accounts start owed { c with world } where
  value name := by
    rw [← accounts.value, World.value?, same]
    rfl
  subscribers name := by
    rw [← accounts.subscribers, World.subscribers, same]
    rfl
  sets := accounts.sets
  calls := accounts.calls
  nothingAhead := accounts.nothingAhead

/-- An event that is neither a set nor a call changes nothing of what is owed. -/
theorem Accounts.note (accounts : c.Accounts start owed) (acts : event.Acts c.world world)
    (noSet : ∀ name value found, event ≠ .set name value found)
    (noCall : ∀ change subscription callback new old,
      event ≠ .called change subscription callback new old) :
    (c.add event world).Accounts start owed := by
  refine accounts.add acts ?_ ?_ ?_ ?_
  · intro number _
    cases event with
    | called => exact absurd rfl (noCall _ _ _ _ _)
    | _ => rfl
  · intro name value found same
    exact absurd same (noSet name value found)
  · intro change subscription callback new old same
    exact absurd same (noCall change subscription callback new old)
  · intro number ahead
    exact accounts.nothingAhead (Nat.le_of_lt ahead)

theorem Accounts.subscribed (accounts : c.Accounts start owed) {name : String}
    {callback : Callback σ} {subscription : Subscription}
    (made : c.world.subscribe name callback = (some subscription, world)) :
    (c.add (.subscribed subscription callback) world).Accounts start owed :=
  accounts.note (Event.acts_subscribed made) nofun nofun

theorem Accounts.unsubscribed (accounts : c.Accounts start owed) (subscription : Subscription) :
    (c.add (.unsubscribed subscription) (c.world.unsubscribe subscription)).Accounts start
      owed :=
  accounts.note (Event.acts_unsubscribed c.world subscription) nofun nofun

/-- A set that changes nothing brings about no call. -/
theorem Accounts.kept (accounts : c.Accounts start owed) {name : String} {value : Value}
    (same : ∀ cell, c.world.reactives.find? name = some cell → cell.value = value) :
    (c.add (.set name value (c.world.value? name)) c.world).Accounts start owed := by
  refine accounts.add (Event.acts_kept _ same) (fun _ _ => rfl) ?_ nofun ?_
  · rintro _ _ _ ⟨⟩
    rw [accounts.nothingAhead (Nat.le_refl _)]
    refine ⟨rfl, ?_⟩
    cases found : c.world.reactives.find? name with
    | none => simp [World.value?, found, callsDue]
    | some cell => simp [World.value?, found, callsDue, same cell found]
  · intro number ahead
    exact accounts.nothingAhead (Nat.le_of_lt ahead)

/-- After a change all its calls are owed. -/
theorem Accounts.changed (accounts : c.Accounts start owed) {name : String} {value : Value}
    {cell : ReactiveVariable σ} (found : c.world.reactives.find? name = some cell)
    (changes : cell.value ≠ value) :
    (c.add (.set name value (some cell.value))
      (c.world.put name { cell with value })).Accounts start
      (Function.update owed c.events.length
        (cell.subscribers.map fun (id, callback) =>
          .called c.events.length ⟨name, id⟩ callback value cell.value)) := by
  refine accounts.add (Event.acts_changed _ found) ?_ ?_ nofun ?_
  · intro number inside
    rw [Function.update_of_ne (Nat.ne_of_lt inside)]
    rfl
  · rintro _ _ _ ⟨⟩
    simp [World.value?_of_find? found, World.subscribers_of_find? found, callsDue, changes]
  · intro number ahead
    rw [Function.update_of_ne (Nat.ne_of_gt ahead)]
    exact accounts.nothingAhead (Nat.le_of_lt ahead)

/-- A call that is made is owed no longer. -/
theorem Accounts.called (accounts : c.Accounts start owed) {change : Nat}
    {subscription : Subscription} {callback : Callback σ} {new old : Value}
    {rest : List (Event σ)}
    (owes : owed change = .called change subscription callback new old :: rest)
    (made : c.events[change]? = some (.set subscription.name new (some old)))
    (changes : new ≠ old) :
    (c.add (.called change subscription callback new old) c.world).Accounts start
      (Function.update owed change rest) := by
  refine accounts.add (Event.acts_called c.world ..) ?_ nofun ?_ ?_
  · intro number _
    by_cases same : number = change
    · subst same
      rw [owes, Function.update_self]
      simp [callsFor, Event.isCallFor]
    · rw [Function.update_of_ne same]
      simp [callsFor, Event.isCallFor, Ne.symm same]
  · rintro _ _ _ _ _ ⟨⟩
    exact ⟨made, changes⟩
  · intro number ahead
    have inside := (List.getElem?_eq_some_iff.mp made).1
    rw [Function.update_of_ne (Nat.ne_of_gt (Nat.lt_trans inside ahead))]
    exact accounts.nothingAhead (Nat.le_of_lt ahead)

end Chronicle

open Chronicle

variable {start : World σ}

mutual

/-- What a reaction does leaves as it is what others still owe. -/
theorem Reaction.accounts_of_follow : ∀ {fuel : Nat} {reaction : Reaction σ}
    {owed : Nat → List (Event σ)} {c after : Chronicle σ},
    reaction.follow fuel c = some after → c.Accounts start owed →
      after.Accounts start owed ∧ c.events <+: after.events
  | 0, _, _, _, _, h, _ => by simp [Reaction.follow] at h
  | fuel + 1, reaction, owed, c, after, h, accounts => by
    cases reaction with
    | done =>
      rw [Reaction.follow] at h
      cases h
      exact ⟨accounts, List.prefix_rfl⟩
    | modify f next =>
      rw [Reaction.follow] at h
      have followed := Reaction.accounts_of_follow h (accounts.of_reactives rfl)
      exact followed
    | consult next | read name next =>
      rw [Reaction.follow] at h
      exact Reaction.accounts_of_follow h accounts
    | set name value next =>
      rw [Reaction.follow] at h
      cases assigned : c.assign fuel name value with
      | none => simp [assigned] at h
      | some middle =>
        simp only [assigned] at h
        obtain ⟨accounts, first⟩ := Chronicle.accounts_of_assign assigned accounts
        obtain ⟨accounts, rest⟩ := Reaction.accounts_of_follow h accounts
        exact ⟨accounts, first.trans rest⟩
    | subscribe name callback next =>
      rw [Reaction.follow] at h
      rcases made : c.world.subscribe name callback with ⟨_ | subscription, world⟩
      · simp only [made] at h
        have followed := Reaction.accounts_of_follow h
          (accounts.of_reactives (World.reactives_of_subscribe_none made))
        exact followed
      · simp only [made] at h
        obtain ⟨accounts, rest⟩ := Reaction.accounts_of_follow h (accounts.subscribed made)
        exact ⟨accounts, (List.prefix_append _ _).trans rest⟩
    | unsubscribe subscription next =>
      rw [Reaction.follow] at h
      obtain ⟨accounts, rest⟩ := Reaction.accounts_of_follow h (accounts.unsubscribed subscription)
      exact ⟨accounts, (List.prefix_append _ _).trans rest⟩

theorem Chronicle.accounts_of_assign : ∀ {fuel : Nat} {owed : Nat → List (Event σ)}
    {c after : Chronicle σ} {name : String} {value : Value},
    c.assign fuel name value = some after → c.Accounts start owed →
      after.Accounts start owed ∧ c.events <+: after.events
  | 0, _, _, _, _, _, h, _ => by simp [Chronicle.assign] at h
  | fuel + 1, owed, c, after, name, value, h, accounts => by
    rcases Chronicle.assign_cases h with ⟨same, rfl⟩ | ⟨cell, found, changes, notified⟩
    · exact ⟨accounts.kept same, List.prefix_append _ _⟩
    · obtain ⟨accounts', rest⟩ := Chronicle.accounts_of_notify notified
        (accounts.changed found changes) (Function.update_self ..) (by simp [Chronicle.add])
        (Ne.symm changes)
      rw [Function.update_idem, ← accounts.nothingAhead (Nat.le_refl _),
        Function.update_eq_self] at accounts'
      exact ⟨accounts', (List.prefix_append _ _).trans rest⟩

theorem Chronicle.accounts_of_notify : ∀ {fuel : Nat} {owed : Nat → List (Event σ)}
    {c after : Chronicle σ} {change : Nat} {name : String}
    {subscribers : List (Nat × Callback σ)} {new old : Value},
    c.notify fuel change name subscribers new old = some after → c.Accounts start owed →
    owed change = (subscribers.map fun (id, callback) =>
      .called change ⟨name, id⟩ callback new old) →
    c.events[change]? = some (.set name new (some old)) → new ≠ old →
      after.Accounts start (Function.update owed change []) ∧ c.events <+: after.events
  | 0, _, _, _, _, _, _, _, _, h, _, _, _, _ => by simp [Chronicle.notify] at h
  | _ + 1, owed, c, after, change, name, [], new, old, h, accounts, owes, _, _ => by
    rw [Chronicle.notify] at h
    cases h
    rw [← show owed change = [] from owes, Function.update_eq_self]
    exact ⟨accounts, List.prefix_rfl⟩
  | fuel + 1, owed, c, after, change, name, (id, callback) :: rest, new, old, h, accounts, owes,
      made, changes => by
    rw [Chronicle.notify] at h
    cases followed : (callback new old).follow fuel
        (c.add (.called change ⟨name, id⟩ callback new old) c.world) with
    | none => simp [followed] at h
    | some middle =>
      simp only [followed] at h
      obtain ⟨accounts, first⟩ := Reaction.accounts_of_follow followed
        (accounts.called owes made changes)
      have first : c.events <+: middle.events := (List.prefix_append _ _).trans first
      have made : middle.events[change]? = some (.set name new (some old)) := by
        obtain ⟨more, same⟩ := first
        rw [← same, List.getElem?_append_left (List.getElem?_eq_some_iff.mp made).1]
        exact made
      obtain ⟨accounts, last⟩ := Chronicle.accounts_of_notify h accounts (Function.update_self ..)
        made changes
      rw [Function.update_idem] at accounts
      exact ⟨accounts, first.trans last⟩

end

theorem Chronicle.accounts_start (w : World σ) : Accounts w (fun _ => []) ⟨w, []⟩ where
  value _ := rfl
  subscribers _ := rfl
  sets at? := by simp at at?
  calls at? := by simp at at?
  nothingAhead _ := rfl

/-- Notification neither loses nor duplicates anything, whatever subscribers do in between. -/
theorem notified_exactly_once {fuel : Nat} {history : Reaction σ} {w after : World σ}
    (ran : history.run fuel w = some after) :
    ∃ events : List (Event σ), history.follow fuel ⟨w, []⟩ = some ⟨after, events⟩ ∧
      (∀ number name value found, events[number]? = some (.set name value found) →
        found = valueAfter w name (events.take number) ∧
        callsFor number events =
          match found with
          | none => []
          | some old =>
              if old = value then []
              else (subscribersAfter w name (events.take number)).map fun (id, callback) =>
                .called number ⟨name, id⟩ callback value old) ∧
      (∀ (number change : Nat) subscription callback new old,
        events[number]? = some (.called change subscription callback new old) →
        change < number ∧ events[change]? = some (.set subscription.name new (some old)) ∧
          new ≠ old) ∧
      ∀ name, after.value? name = valueAfter w name events ∧
        after.subscribers name = subscribersAfter w name events := by
  obtain ⟨events, followed⟩ := Reaction.follow_of_run ran
  obtain ⟨accounts, -⟩ := Reaction.accounts_of_follow followed (Chronicle.accounts_start w)
  refine ⟨events, followed, ?_, ?_, ?_⟩
  · intro number name value found made
    obtain ⟨was, settled⟩ := accounts.sets made
    rw [List.append_nil] at settled
    refine ⟨was, settled.trans ?_⟩
    cases found <;> rfl
  · intro number change subscription callback new old made
    exact accounts.calls made
  · intro name
    exact ⟨accounts.value name, accounts.subscribers name⟩

/-- Unsubscribes the one behind it and takes the change back halfway. -/
def fickle : Callback Unit
  | .bool true, _ => .unsubscribe ⟨"mood", 1⟩ (.set "mood" (.bool false) .done)
  | _, _ => .done

def steady : Callback Unit := fun _ _ => .done

/-- A variable without a value gets two subscribers and is set. -/
def moodSwing : Reaction Unit :=
  .subscribe "mood" fickle fun _ => .subscribe "mood" steady fun _ =>
    .set "mood" (.bool true) .done

def calmWorld : World Unit := (World.mk .empty ()).declare "mood" .nil

theorem notified_exactly_once_moodSwing :
    ∃ after events, moodSwing.run 16 calmWorld = some after ∧
      moodSwing.follow 16 ⟨calmWorld, []⟩ = some ⟨after, events⟩ ∧
      events[2]? = some (.set "mood" (.bool true) (some .nil)) ∧
      callsFor 2 events = [.called 2 ⟨"mood", 0⟩ fickle (.bool true) .nil,
        .called 2 ⟨"mood", 1⟩ steady (.bool true) .nil] ∧
      after.value? "mood" = some (.bool false) := by
  have ran : moodSwing.run 16 calmWorld = some _ := rfl
  obtain ⟨events, followed, sets, -, final⟩ := notified_exactly_once ran
  obtain ⟨-, same⟩ := Chronicle.mk.inj (Option.some.inj followed)
  subst same
  exact ⟨_, _, ran, followed, rfl, (sets 2 "mood" (.bool true) (some .nil) rfl).2,
    (final "mood").1⟩

end DialogueEngine
