import DialogueEngine.Proofs.Variables.Notification
import Mathlib.Data.Nat.SuccPred

/-!
# Changes overtake each other

A subscriber that sets a variable it is called for gets ahead of those behind it: they are called
for the later change first, and for the earlier one afterwards. Calls nest, so a subscriber is
called last for the earliest of the changes that it was still to be called for when the variable
got its final value.
-/

namespace DialogueEngine

variable {σ : Type}

/-! ## Calls nest -/

/-- The set that an event is a call for. -/
def Event.change? : Event σ → Option Nat
  | .called change .. => some change
  | _ => none

/-- The set that the event with a number is a call for. -/
def callAt? (events : List (Event σ)) (number : Nat) : Option Nat :=
  events[number]?.bind Event.change?

/-- Since an event there have only been calls for it and for later ones. -/
def CallsFrom (start : Nat) (events : List (Event σ)) : Prop :=
  ∀ ⦃number change⦄, start < number → callAt? events number = some change → start ≤ change

/-- Between a set and a call for it there are only calls for it and for later ones. -/
def Nested (events : List (Event σ)) : Prop :=
  ∀ ⦃number change⦄, callAt? events number = some change → CallsFrom change (events.take number)

section

variable {events : List (Event σ)} {event : Event σ} {start number change : Nat}

theorem lt_length_of_callAt? (called : callAt? events number = some change) :
    number < events.length := by
  obtain ⟨event, at?, -⟩ := Option.bind_eq_some_iff.mp called
  exact (List.getElem?_eq_some_iff.mp at?).1

theorem callAt?_concat_of_lt (inside : number < events.length) :
    callAt? (events ++ [event]) number = callAt? events number := by
  rw [callAt?, List.getElem?_append_left inside, callAt?]

theorem callAt?_concat_length : callAt? (events ++ [event]) events.length = event.change? := by
  simp [callAt?]

/-- A call in a longer chronicle is there already, or it is the one that was added. -/
theorem callAt?_concat (called : callAt? (events ++ [event]) number = some change) :
    number < events.length ∧ callAt? events number = some change ∨
      number = events.length ∧ event.change? = some change := by
  have inside := lt_length_of_callAt? called
  rw [List.length_append, List.length_singleton] at inside
  rcases Nat.lt_succ_iff_lt_or_eq.mp inside with before | rfl
  · exact .inl ⟨before, by rwa [callAt?_concat_of_lt before] at called⟩
  · exact .inr ⟨rfl, by rwa [callAt?_concat_length] at called⟩

theorem callsFrom_of_length_le (short : events.length ≤ start + 1) : CallsFrom start events := by
  intro number change later called
  have inside := lt_length_of_callAt? called
  omega

theorem CallsFrom.concat (calls : CallsFrom start events)
    (last : ∀ change, event.change? = some change → start ≤ change) :
    CallsFrom start (events ++ [event]) := by
  intro number change later called
  rcases callAt?_concat called with ⟨-, before⟩ | ⟨-, now⟩
  · exact calls later before
  · exact last change now

theorem Nested.concat (nested : Nested events)
    (last : ∀ change, event.change? = some change → CallsFrom change events) :
    Nested (events ++ [event]) := by
  intro number change called
  rcases callAt?_concat called with ⟨inside, before⟩ | ⟨rfl, now⟩
  · rw [List.take_append_of_le_length (Nat.le_of_lt inside)]
    exact nested before
  · rw [List.take_left]
    exact last change now

end

/-- How a chronicle goes on: calls keep nesting, and none are for sets before `first`. -/
structure Extends (first : Nat) (events after : List (Event σ)) : Prop where
  length_le : events.length ≤ after.length
  nested : Nested events → Nested after
  callsFrom {start : Nat} : start ≤ first → CallsFrom start events → CallsFrom start after

namespace Extends

variable {first second : Nat} {events middle after : List (Event σ)} {event : Event σ}

theorem refl : Extends first events events := ⟨Nat.le_refl _, id, fun _ => id⟩

theorem trans (before : Extends first events middle) (rest : Extends second middle after)
    (le : first ≤ second) : Extends first events after where
  length_le := before.length_le.trans rest.length_le
  nested := rest.nested ∘ before.nested
  callsFrom inside calls := rest.callsFrom (inside.trans le) (before.callsFrom inside calls)

theorem note (noCall : event.change? = none) : Extends first events (events ++ [event]) where
  length_le := by simp
  nested nested := nested.concat (by simp [noCall])
  callsFrom _ calls := calls.concat (by simp [noCall])

theorem call (same : event.change? = some first) (calls : CallsFrom first events) :
    Extends first events (events ++ [event]) where
  length_le := by simp
  nested nested := nested.concat (by simpa [same] using calls)
  callsFrom inside calls := calls.concat (by simpa [same] using inside)

end Extends

open Extends

mutual

theorem Reaction.extends_of_follow : ∀ {fuel : Nat} {reaction : Reaction σ}
    {c after : Chronicle σ},
    reaction.follow fuel c = some after → Extends c.events.length c.events after.events
  | 0, _, _, _, h => by simp [Reaction.follow] at h
  | fuel + 1, reaction, c, after, h => by
    cases reaction with
    | done =>
      rw [Reaction.follow] at h
      cases h
      exact .refl
    | modify f next | consult next | read name next =>
      rw [Reaction.follow] at h
      have followed := Reaction.extends_of_follow h
      exact followed
    | set name value next =>
      rw [Reaction.follow] at h
      cases assigned : c.assign fuel name value with
      | none => simp [assigned] at h
      | some middle =>
        simp only [assigned] at h
        have first := Chronicle.extends_of_assign assigned
        exact first.trans (Reaction.extends_of_follow h) first.length_le
    | subscribe name callback next =>
      rw [Reaction.follow] at h
      rcases made : c.world.subscribe name callback with ⟨_ | subscription, world⟩
      · simp only [made] at h
        have followed := Reaction.extends_of_follow h
        exact followed
      · simp only [made] at h
        exact (note rfl).trans (Reaction.extends_of_follow h) (by simp [Chronicle.add])
    | unsubscribe subscription next =>
      rw [Reaction.follow] at h
      exact (note rfl).trans (Reaction.extends_of_follow h) (by simp [Chronicle.add])

theorem Chronicle.extends_of_assign : ∀ {fuel : Nat} {c after : Chronicle σ} {name : String}
    {value : Value},
    c.assign fuel name value = some after → Extends c.events.length c.events after.events
  | 0, _, _, _, _, h => by simp [Chronicle.assign] at h
  | fuel + 1, c, after, name, value, h => by
    rcases Chronicle.assign_cases h with ⟨-, rfl⟩ | ⟨cell, -, -, notified⟩
    · exact note rfl
    · have rest := Chronicle.extends_of_notify notified
        (callsFrom_of_length_le (by simp [Chronicle.add])) (by simp [Chronicle.add])
      exact (note rfl).trans rest (Nat.le_refl _)

theorem Chronicle.extends_of_notify : ∀ {fuel : Nat} {c after : Chronicle σ} {change : Nat}
    {name : String} {subscribers : List (Nat × Callback σ)} {new old : Value},
    c.notify fuel change name subscribers new old = some after → CallsFrom change c.events →
    change ≤ c.events.length → Extends change c.events after.events
  | 0, _, _, _, _, _, _, _, h, _, _ => by simp [Chronicle.notify] at h
  | _ + 1, c, after, change, name, [], new, old, h, _, _ => by
    rw [Chronicle.notify] at h
    cases h
    exact .refl
  | fuel + 1, c, after, change, name, (id, callback) :: rest, new, old, h, calls, made => by
    rw [Chronicle.notify] at h
    cases followed : (callback new old).follow fuel
        (c.add (.called change ⟨name, id⟩ callback new old) c.world) with
    | none => simp [followed] at h
    | some middle =>
      simp only [followed] at h
      -- What the callback does comes after the call, so it is all for later sets than this one.
      have first : Extends change c.events middle.events :=
        (call rfl calls).trans (Reaction.extends_of_follow followed)
          (by simp [Chronicle.add]; omega)
      have rest := Chronicle.extends_of_notify h (first.callsFrom (Nat.le_refl _) calls)
        (made.trans first.length_le)
      exact first.trans rest (Nat.le_refl _)

end

theorem Chronicle.nested_of_assign {fuel : Nat} {w : World σ} {after : Chronicle σ} {name : String}
    {value : Value} (assigned : Chronicle.assign fuel ⟨w, []⟩ name value = some after) :
    Nested after.events :=
  (Chronicle.extends_of_assign assigned).nested (by intro _ _ called; cases called)

/-! ## The last change of a variable -/

/-- The set with a number changes the variable. -/
def Changes (events : List (Event σ)) (name : String) (number : Nat) : Prop :=
  ∃ value old, events[number]? = some (.set name value (some old)) ∧ old ≠ value

/-- The event with a number calls a subscriber for a set, with the new value. -/
def Notifies (events : List (Event σ)) (subscription : Subscription) (callback : Callback σ)
    (number change : Nat) (new : Value) : Prop :=
  ∃ old, events[number]? = some (.called change subscription callback new old)

theorem Notifies.callAt? {events : List (Event σ)} {subscription : Subscription}
    {callback : Callback σ} {number change : Nat} {new : Value}
    (notified : Notifies events subscription callback number change new) :
    callAt? events number = some change := by
  obtain ⟨old, at?⟩ := notified
  rw [DialogueEngine.callAt?, at?]
  rfl

namespace Chronicle.Accounts

variable {start : World σ} {owed : Nat → List (Event σ)} {c : Chronicle σ} {name : String}
  {latest number : Nat}

theorem valueAfter_take_succ (accounts : c.Accounts start owed)
    (unchanged : ¬Changes c.events name number) :
    valueAfter start name (c.events.take (number + 1)) =
      valueAfter start name (c.events.take number) := by
  rw [List.take_add_one]
  cases at? : c.events[number]? with
  | none => simp
  | some event =>
    rw [Option.toList_some, valueAfter_concat]
    cases event with
    | set other value found =>
      by_cases same : other = name
      · subst other
        rw [← (accounts.sets at?).1]
        cases found with
        | none => simp [Event.valueAfter]
        | some old =>
          by_cases kept : old = value
          · simp [Event.valueAfter, kept]
          · exact absurd ⟨value, old, at?, kept⟩ unchanged
      · simp [Event.valueAfter, same]
    | _ => rfl

theorem valueAfter_take_of_le (accounts : c.Accounts start owed) {first : Nat}
    (unchanged : ∀ number, Changes c.events name number → number < first) (le : first ≤ number) :
    valueAfter start name (c.events.take number) =
      valueAfter start name (c.events.take first) := by
  induction number, le using Nat.le_induction with
  | base => rfl
  | succ number le same =>
    rw [← same]
    refine accounts.valueAfter_take_succ fun changes => ?_
    exact Nat.not_lt_of_le le (unchanged number changes)

/-- A variable has the value that its last change gave it. -/
theorem value_of_last_change (accounts : c.Accounts start owed) {value old : Value}
    (made : c.events[latest]? = some (.set name value (some old)))
    (last : ∀ number, Changes c.events name number → number ≤ latest) :
    c.world.value? name = some value := by
  have inside := (List.getElem?_eq_some_iff.mp made).1
  calc c.world.value? name
      = valueAfter start name c.events := accounts.value name
    _ = valueAfter start name (c.events.take c.events.length) := by rw [List.take_length]
    _ = valueAfter start name (c.events.take (latest + 1)) :=
      accounts.valueAfter_take_of_le (fun number changes => Nat.lt_succ_of_le (last number changes))
        inside
    _ = (valueAfter start name (c.events.take latest)).map fun _ => value := by
      rw [List.take_add_one, made, Option.toList_some, valueAfter_concat]
      simp [Event.valueAfter]
    _ = some value := by rw [← (accounts.sets made).1, Option.map_some]

/-- Once nothing is owed, whoever was subscribed when a variable changed has been called for it. -/
theorem notifies_of_changes (accounts : c.Accounts start fun _ => []) {value old : Value}
    {subscription : Subscription} {callback : Callback σ}
    (made : c.events[number]? = some (.set subscription.name value (some old)))
    (changes : old ≠ value)
    (subscribed : (subscription.id, callback) ∈
      subscribersAfter start subscription.name (c.events.take number)) :
    ∃ later > number, Notifies c.events subscription callback later number value := by
  have calls := (accounts.sets made).2
  rw [List.append_nil, callsDue, if_neg changes] at calls
  have mem : .called number subscription callback value old ∈ callsFor number c.events := by
    rw [calls]
    exact List.mem_map.mpr ⟨_, subscribed, rfl⟩
  obtain ⟨later, at?⟩ := List.mem_iff_getElem?.mp (List.mem_filter.mp mem).1
  exact ⟨later, (accounts.calls at?).1, old, at?⟩

end Chronicle.Accounts

/-! ## The last call of a subscriber -/

section

variable (start : World σ) (events : List (Event σ)) (subscription : Subscription)
  (callback : Callback σ)

/-- At no time is the subscription not in force. -/
def StaysSubscribed : Prop :=
  ∀ number ≤ events.length,
    (subscription.id, callback) ∈ subscribersAfter start subscription.name (events.take number)

/-- The event with a number is the last one that calls a subscriber. -/
def NotifiesLast (number change : Nat) (new : Value) : Prop :=
  Notifies events subscription callback number change new ∧
    ∀ later change new, Notifies events subscription callback later change new → later ≤ number

/-- At some time a set has been made that a subscriber is still to be called for. -/
def Awaits (time change : Nat) : Prop :=
  change ≤ time ∧ ∃ number > time, ∃ new, Notifies events subscription callback number change new

end

variable {events : List (Event σ)} {subscription : Subscription} {callback : Callback σ}
  {number change latest : Nat} {new : Value}

/-- Since calls nest, the last call of a subscriber is for the earliest set that it still awaits. -/
theorem Nested.isLeast_awaits (nested : Nested events)
    (last : NotifiesLast events subscription callback number change new)
    (made : change ≤ latest) (pending : latest < number) :
    IsLeast {change | Awaits events subscription callback latest change} change := by
  refine ⟨⟨made, number, pending, new, last.1⟩, ?_⟩
  rintro awaited ⟨-, earlier, later, value, notified⟩
  rcases Nat.lt_or_eq_of_le (last.2 earlier awaited value notified) with before | rfl
  · refine nested last.1.callAt? (Nat.lt_of_le_of_lt made later) ?_
    rw [callAt?, List.getElem?_take_of_lt before]
    exact notified.callAt?
  · exact Nat.le_of_eq (Option.some.inj (last.1.callAt?.symm.trans notified.callAt?))

theorem exists_isGreatest_changes {name : String} (changes : Changes events name number) :
    ∃ latest, IsGreatest {number | Changes events name number} latest := by
  refine BddAbove.exists_isGreatest_of_nonempty ⟨events.length, ?_⟩ ⟨number, changes⟩
  rintro number ⟨value, old, at?, -⟩
  exact Nat.le_of_lt (List.getElem?_eq_some_iff.mp at?).1

/-- Whoever is subscribed while a variable is set is called last for the earliest change that it was
still to be called for when the variable changed last. If there was none but that last change, the
value it is called with is the one that the variable has in the end. -/
theorem notified_last_of_earliest_awaited {fuel : Nat} {w after : World σ} {name : String}
    {value : Value} (returned : w.assign fuel name value = some after) :
    ∃ events : List (Event σ),
      Chronicle.assign fuel ⟨w, []⟩ name value = some ⟨after, events⟩ ∧
      ∀ subscription callback number change new,
        StaysSubscribed w events subscription callback →
        NotifiesLast events subscription callback number change new →
        ∃ latest, IsGreatest {number | Changes events subscription.name number} latest ∧
          IsLeast {change | Awaits events subscription callback latest change} change ∧
          (∃ old, events[change]? = some (.set subscription.name new (some old))) ∧
          ((∀ earlier < latest, ¬Awaits events subscription callback latest earlier) →
            after.value? subscription.name = some new) := by
  rw [← Chronicle.map_world_assign fuel ⟨w, []⟩ name value] at returned
  obtain ⟨⟨world, events⟩, assigned, rfl⟩ := Option.map_eq_some_iff.mp returned
  obtain ⟨accounts, -⟩ := Chronicle.accounts_of_assign assigned (Chronicle.accounts_start w)
  refine ⟨events, assigned, ?_⟩
  intro subscription callback number change new stays last
  obtain ⟨old, at?⟩ := last.1
  obtain ⟨-, made, changes⟩ := accounts.calls at?
  obtain ⟨latest, greatest⟩ := exists_isGreatest_changes ⟨new, old, made, changes.symm⟩
  obtain ⟨final, before, madeLast, changesLast⟩ := greatest.1
  have inside := (List.getElem?_eq_some_iff.mp madeLast).1
  obtain ⟨call, later, notified⟩ :=
    accounts.notifies_of_changes madeLast changesLast (stays latest (Nat.le_of_lt inside))
  have least := (Chronicle.nested_of_assign assigned).isLeast_awaits last
    (greatest.2 ⟨new, old, made, changes.symm⟩)
    (Nat.lt_of_lt_of_le later (last.2 call latest final notified))
  refine ⟨latest, greatest, least, ⟨old, made⟩, ?_⟩
  intro none
  have same : change = latest := by
    rcases Nat.lt_or_eq_of_le least.1.1 with earlier | same
    · exact absurd least.1 (none change earlier)
    · exact same
  subst same
  obtain ⟨rfl, -⟩ : new = final ∧ old = before := by simpa [made] using madeLast
  exact accounts.value_of_last_change made fun number changes => greatest.2 changes

/-- Takes the change back. -/
def contrary : Callback Unit
  | .bool true, _ => .set "mood" (.bool false) .done
  | _, _ => .done

/-- One subscriber takes the change back before the one behind it is called. -/
def contraryWorld : World Unit :=
  ((calmWorld.subscribe "mood" contrary).2.subscribe "mood" steady).2

/-- What happens when the mood is set: the change that is taken back reaches the one behind last. -/
def moodEvents : List (Event Unit) :=
  [.set "mood" (.bool true) (some .nil),
    .called 0 ⟨"mood", 0⟩ contrary (.bool true) .nil,
    .set "mood" (.bool false) (some (.bool true)),
    .called 2 ⟨"mood", 0⟩ contrary (.bool false) (.bool true),
    .called 2 ⟨"mood", 1⟩ steady (.bool false) (.bool true),
    .called 0 ⟨"mood", 1⟩ steady (.bool true) .nil]

theorem staysSubscribed_contraryWorld :
    StaysSubscribed contraryWorld moodEvents ⟨"mood", 1⟩ steady := by
  intro number inside
  have same : subscribersAfter contraryWorld "mood" (moodEvents.take number) =
      [(0, contrary), (1, steady)] := by
    match number, inside with
    | 0, _ | 1, _ | 2, _ | 3, _ | 4, _ | 5, _ | 6, _ => rfl
  simp [same]

theorem notifiesLast_moodEvents :
    NotifiesLast moodEvents ⟨"mood", 1⟩ steady 5 0 (.bool true) := by
  refine ⟨⟨.nil, rfl⟩, ?_⟩
  rintro later change new ⟨old, at?⟩
  exact Nat.le_of_lt_succ (List.getElem?_eq_some_iff.mp at?).1

theorem notified_last_of_earliest_awaited_contraryWorld :
    ∃ after events latest, contraryWorld.assign 16 "mood" (.bool true) = some after ∧
      Chronicle.assign 16 ⟨contraryWorld, []⟩ "mood" (.bool true) = some ⟨after, events⟩ ∧
      IsGreatest {number | Changes events "mood" number} latest ∧
      IsLeast {change | Awaits events ⟨"mood", 1⟩ steady latest change} 0 ∧
      after.value? "mood" = some (.bool false) := by
  have returned : contraryWorld.assign 16 "mood" (.bool true) = some _ := rfl
  obtain ⟨events, assigned, all⟩ := notified_last_of_earliest_awaited returned
  obtain rfl : moodEvents = events := (Chronicle.mk.inj (Option.some.inj assigned)).2
  obtain ⟨latest, greatest, least, -⟩ :=
    all _ _ _ _ _ staysSubscribed_contraryWorld notifiesLast_moodEvents
  exact ⟨_, _, latest, returned, assigned, greatest, least, rfl⟩

/-- The last call of a subscriber need not tell it the value that the variable has in the end. -/
theorem not_notified_last_of_value :
    ¬∀ (fuel : Nat) (w after : World Unit) (name : String) (value : Value)
        (events : List (Event Unit)) (subscription : Subscription) (callback : Callback Unit)
        (number change : Nat) (new : Value),
      w.assign fuel name value = some after →
      Chronicle.assign fuel ⟨w, []⟩ name value = some ⟨after, events⟩ →
      StaysSubscribed w events subscription callback →
      NotifiesLast events subscription callback number change new →
        after.value? subscription.name = some new := by
  intro current
  have returned : contraryWorld.assign 16 "mood" (.bool true) = some _ := rfl
  have assigned : Chronicle.assign 16 ⟨contraryWorld, []⟩ "mood" (.bool true) =
      some ⟨_, moodEvents⟩ := rfl
  have same := current _ _ _ _ _ _ _ _ _ _ _ returned assigned staysSubscribed_contraryWorld
    notifiesLast_moodEvents
  cases same

end DialogueEngine
