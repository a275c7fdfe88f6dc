import DialogueEngine.Proofs.Variables.Notification
import Mathlib.Data.Set.Card
import Mathlib.Logic.Relation

/-!
# A subscription ends by its own handle

The ids of a variable are counted up and never given out again. So a handle stands for the one
subscriber that it was made for, whatever is subscribed, unsubscribed and set meanwhile, by
subscribers as well: unsubscribing removes that subscriber, once, and no other.
-/

namespace DialogueEngine

variable {σ : Type}

/-! ## What a reaction does, one thing after the other -/

namespace Chronicle

/-- One thing that is done. It is written down unless it leaves the reactive variables alone. -/
inductive Step (c : Chronicle σ) : Chronicle σ → Prop where
  | unnoted {world : World σ} (same : world.reactives = c.world.reactives) : Step c { c with world }
  | noted {event : Event σ} {world : World σ} (acts : event.Acts c.world world) :
      Step c (c.add event world)

abbrev Steps : Chronicle σ → Chronicle σ → Prop := Relation.ReflTransGen Step

end Chronicle

open Chronicle

mutual

theorem Reaction.steps_of_follow : ∀ {fuel : Nat} {reaction : Reaction σ} {c after : Chronicle σ},
    reaction.follow fuel c = some after → Steps c after
  | 0, _, _, _, h => by simp [Reaction.follow] at h
  | fuel + 1, reaction, c, after, h => by
    cases reaction with
    | done =>
      rw [Reaction.follow] at h
      cases h
      exact .refl
    | modify f next =>
      rw [Reaction.follow] at h
      have modified : Step c { c with world := c.world.modify f } := .unnoted rfl
      exact .head modified (Reaction.steps_of_follow h)
    | consult next | read name next =>
      rw [Reaction.follow] at h
      exact Reaction.steps_of_follow h
    | set name value next =>
      rw [Reaction.follow] at h
      cases assigned : c.assign fuel name value with
      | none => simp [assigned] at h
      | some middle =>
        simp only [assigned] at h
        exact (Chronicle.steps_of_assign assigned).trans (Reaction.steps_of_follow h)
    | subscribe name callback next =>
      rw [Reaction.follow] at h
      rcases made : c.world.subscribe name callback with ⟨_ | subscription, world⟩
      · simp only [made] at h
        exact .head (.unnoted (World.reactives_of_subscribe_none made)) (Reaction.steps_of_follow h)
      · simp only [made] at h
        exact .head (.noted (Event.acts_subscribed made)) (Reaction.steps_of_follow h)
    | unsubscribe subscription next =>
      rw [Reaction.follow] at h
      have acts := Event.acts_unsubscribed c.world subscription
      exact .head (.noted acts) (Reaction.steps_of_follow h)

theorem Chronicle.steps_of_assign : ∀ {fuel : Nat} {c after : Chronicle σ} {name : String}
    {value : Value}, c.assign fuel name value = some after → Steps c after
  | 0, _, _, _, _, h => by simp [Chronicle.assign] at h
  | fuel + 1, c, after, name, value, h => by
    rcases Chronicle.assign_cases h with ⟨same, rfl⟩ | ⟨cell, found, -, notified⟩
    · exact .single (.noted (Event.acts_kept _ same))
    · exact .head (.noted (Event.acts_changed _ found)) (Chronicle.steps_of_notify notified)

theorem Chronicle.steps_of_notify : ∀ {fuel : Nat} {c after : Chronicle σ} {change : Nat}
    {name : String} {subscribers : List (Nat × Callback σ)} {new old : Value},
    c.notify fuel change name subscribers new old = some after → Steps c after
  | 0, _, _, _, _, _, _, _, h => by simp [Chronicle.notify] at h
  | _ + 1, c, after, change, name, [], new, old, h => by
    rw [Chronicle.notify] at h
    cases h
    exact .refl
  | fuel + 1, c, after, change, name, (id, callback) :: rest, new, old, h => by
    rw [Chronicle.notify] at h
    cases followed : (callback new old).follow fuel
        (c.add (.called change ⟨name, id⟩ callback new old) c.world) with
    | none => simp [followed] at h
    | some middle =>
      simp only [followed] at h
      have acts := Event.acts_called c.world change ⟨name, id⟩ callback new old
      exact .head (.noted acts)
        ((Reaction.steps_of_follow followed).trans (Chronicle.steps_of_notify h))

end

/-! ## A variable after some events -/

def variableAfter (start : World σ) (name : String) (events : List (Event σ)) :
    Option (ReactiveVariable σ) :=
  (start.reactives.find? name).map fun cell => events.foldl (Event.act name) cell

@[simp]
theorem variableAfter_concat (start : World σ) (name : String) (events : List (Event σ))
    (event : Event σ) :
    variableAfter start name (events ++ [event]) =
      (variableAfter start name events).map fun cell => event.act name cell := by
  simp [variableAfter, Function.comp_def]

/-- Every subscription that has been made has the id that was next. -/
inductive Issued (start : World σ) : List (Event σ) → Prop where
  | nil : Issued start []
  | concat {events : List (Event σ)} {event : Event σ} (before : Issued start events)
      (next : ∀ subscription callback, event = .subscribed subscription callback →
        ∃ cell, variableAfter start subscription.name events = some cell ∧
          subscription.id = cell.nextId) :
      Issued start (events ++ [event])

theorem Issued.take {start : World σ} {events : List (Event σ)} (issued : Issued start events)
    (number : Nat) : Issued start (events.take number) := by
  induction issued with
  | nil =>
    rw [List.take_nil]
    exact .nil
  | @concat events event before next ih =>
    rcases Nat.lt_or_ge events.length number with beyond | inside
    · rw [List.take_of_length_le (by simpa using beyond)]
      exact .concat before next
    · rwa [List.take_append_of_le_length inside]

namespace Chronicle

/-- The events tell how the variables stand, and which ids have been given out. -/
structure Tells (start : World σ) (c : Chronicle σ) : Prop where
  cells (name : String) : c.world.reactives.find? name = variableAfter start name c.events
  issued : Issued start c.events

variable {start : World σ} {c after : Chronicle σ}

theorem tells_start (w : World σ) : Tells w ⟨w, []⟩ where
  cells name := by simp [variableAfter]
  issued := .nil

theorem Tells.step (tells : c.Tells start) (step : Step c after) : after.Tells start := by
  cases step with
  | unnoted same => exact ⟨fun name => same ▸ tells.cells name, tells.issued⟩
  | noted acts =>
    refine ⟨fun name => ?_, .concat tells.issued fun subscription callback same => ?_⟩
    · rw [Chronicle.add, variableAfter_concat, ← tells.cells]
      exact acts.cells name
    · rw [← tells.cells]
      exact acts.issued same

theorem Tells.steps (tells : c.Tells start) (steps : Steps c after) : after.Tells start := by
  induction steps with
  | refl => exact tells
  | tail _ step ih => exact ih.step step

end Chronicle

/-! ## Subscriptions that are made, and those that have ended -/

/-- The ids stand in ascending order, below the next one. -/
structure ReactiveVariable.Numbered (cell : ReactiveVariable σ) : Prop where
  ascending : (cell.subscribers.map Prod.fst).Pairwise (· < ·)
  below : ∀ id ∈ cell.subscribers.map Prod.fst, id < cell.nextId

def World.Numbered (w : World σ) : Prop :=
  ∀ name cell, w.reactives.find? name = some cell → cell.Numbered

theorem World.Numbered.declare {w : World σ} (numbered : w.Numbered) (name : String)
    (initial : Value) : (w.declare name initial).Numbered := by
  rw [World.declare]
  split
  · exact numbered
  · intro other cell found
    simp only [World.put, NameTable.find?_insert] at found
    split at found
    · cases found
      exact ⟨.nil, List.forall_mem_nil _⟩
    · exact numbered other cell found

/-- The one that an event subscribes to a variable, with its id. -/
def Event.subscriber? (name : String) : Event σ → Option (Nat × Callback σ)
  | .subscribed subscription callback =>
      if subscription.name = name then some (subscription.id, callback) else none
  | _ => none

/-- Everyone who has been subscribed to a variable, in the order of their subscriptions. -/
def everSubscribed (start : World σ) (name : String) (events : List (Event σ)) :
    List (Nat × Callback σ) :=
  start.subscribers name ++ events.filterMap (Event.subscriber? name)

/-- A handle has been unsubscribed, once at least. An id that nobody had at that time was not a
handle, so it does not count. -/
def Unsubscribed (start : World σ) (name : String) (events : List (Event σ)) (id : Nat) : Prop :=
  ∃ before after, events = before ++ .unsubscribed ⟨name, id⟩ :: after ∧
    id ∈ (everSubscribed start name before).map Prod.fst

section

variable {start : World σ} {name : String} {events : List (Event σ)} {event : Event σ} {id : Nat}

@[simp]
theorem everSubscribed_concat :
    everSubscribed start name (events ++ [event]) =
      everSubscribed start name events ++ (event.subscriber? name).toList := by
  cases subscriber : event.subscriber? name <;> simp [everSubscribed, subscriber]

theorem not_unsubscribed_nil : ¬Unsubscribed start name [] id := by
  rintro ⟨before, after, same, -⟩
  simp at same

theorem Unsubscribed.made (unsubscribed : Unsubscribed start name events id) :
    id ∈ (everSubscribed start name events).map Prod.fst := by
  obtain ⟨before, after, rfl, made⟩ := unsubscribed
  rw [everSubscribed] at made ⊢
  rw [List.filterMap_append, ← List.append_assoc, List.map_append]
  exact List.mem_append_left _ made

theorem unsubscribed_concat :
    Unsubscribed start name (events ++ [event]) id ↔
      Unsubscribed start name events id ∨ event = .unsubscribed ⟨name, id⟩ ∧
        id ∈ (everSubscribed start name events).map Prod.fst := by
  constructor
  · rintro ⟨before, after, same, made⟩
    rcases List.eq_nil_or_concat' after with rfl | ⟨more, last, rfl⟩
    · obtain ⟨rfl, last⟩ := List.append_inj' same rfl
      exact .inr ⟨List.singleton_inj.mp last, made⟩
    · rw [← List.cons_append, ← List.append_assoc] at same
      exact .inl ⟨before, more, (List.append_inj' same rfl).1, made⟩
  · rintro (⟨before, after, rfl, made⟩ | ⟨rfl, made⟩)
    · exact ⟨before, after ++ [event], by simp, made⟩
    · exact ⟨events, [], rfl, made⟩

/-- How a variable stands to those who have ever been subscribed to it. -/
structure Roster (start : World σ) (name : String) (events : List (Event σ))
    (cell : ReactiveVariable σ) : Prop where
  ascending : ((everSubscribed start name events).map Prod.fst).Pairwise (· < ·)
  below : ∀ id ∈ (everSubscribed start name events).map Prod.fst, id < cell.nextId
  kept : cell.subscribers.Sublist (everSubscribed start name events)
  subscribed {entry : Nat × Callback σ} : entry ∈ cell.subscribers ↔
    entry ∈ everSubscribed start name events ∧ ¬Unsubscribed start name events entry.1

variable {cell : ReactiveVariable σ}

theorem roster_start (numbered : start.Numbered)
    (found : start.reactives.find? name = some cell) : Roster start name [] cell := by
  have ever : everSubscribed start name [] = cell.subscribers := by
    simp [everSubscribed, World.subscribers_of_find? found]
  refine ⟨?_, ?_, ?_, fun {entry} => ?_⟩ <;> rw [ever]
  · exact (numbered name cell found).ascending
  · exact (numbered name cell found).below
  · exact (and_iff_left not_unsubscribed_nil).symm

/-- An event that is not about the subscribers of a variable leaves them as they are. -/
theorem Roster.pass (roster : Roster start name events cell) {later : ReactiveVariable σ}
    (subscribes : event.subscriber? name = none) (ends : ∀ id, event ≠ .unsubscribed ⟨name, id⟩)
    (subscribers : later.subscribers = cell.subscribers) (nextId : later.nextId = cell.nextId) :
    Roster start name (events ++ [event]) later := by
  have ever : everSubscribed start name (events ++ [event]) = everSubscribed start name events := by
    simp [subscribes]
  have ended (id : Nat) : Unsubscribed start name (events ++ [event]) id ↔
      Unsubscribed start name events id := by
    simp [unsubscribed_concat, ends]
  refine ⟨?_, ?_, ?_, fun {entry} => ?_⟩ <;> rw [ever]
  · exact roster.ascending
  · exact nextId ▸ roster.below
  · exact subscribers ▸ roster.kept
  · rw [subscribers, ended]
    exact roster.subscribed

/-- A new subscriber gets an id that nobody has had. -/
theorem Roster.subscribe (roster : Roster start name events cell) (callback : Callback σ) :
    Roster start name (events ++ [.subscribed ⟨name, cell.nextId⟩ callback])
      (cell.subscribe callback) := by
  have ever : everSubscribed start name (events ++ [.subscribed ⟨name, cell.nextId⟩ callback]) =
      everSubscribed start name events ++ [(cell.nextId, callback)] := by
    simp [Event.subscriber?]
  have ended (id : Nat) : Unsubscribed start name
      (events ++ [.subscribed ⟨name, cell.nextId⟩ callback]) id ↔
        Unsubscribed start name events id := by
    simp [unsubscribed_concat]
  -- nobody can have unsubscribed an id that was not given out yet
  have fresh : ¬Unsubscribed start name events cell.nextId := fun unsubscribed =>
    absurd (roster.below _ unsubscribed.made) (Nat.lt_irrefl _)
  refine ⟨?_, ?_, ?_, fun {entry} => ?_⟩ <;> rw [ever]
  · rw [List.map_append, List.pairwise_append]
    exact ⟨roster.ascending, List.pairwise_singleton _ _, by simpa using roster.below⟩
  · rw [List.map_append, List.forall_mem_append]
    exact ⟨fun id mem => Nat.lt_succ_of_lt (roster.below id mem),
      by simp [ReactiveVariable.subscribe]⟩
  · exact roster.kept.append (.refl _)
  · rw [ended, ReactiveVariable.subscribe, List.mem_append, List.mem_append, roster.subscribed,
      or_and_right]
    refine or_congr_right (and_iff_left_of_imp fun mem => ?_).symm
    rwa [List.mem_singleton.mp mem]

/-- Whoever is left has not been unsubscribed, neither before nor now. -/
theorem Roster.unsubscribe (roster : Roster start name events cell) (id : Nat) :
    Roster start name (events ++ [.unsubscribed ⟨name, id⟩]) (cell.unsubscribe id) := by
  have ever : everSubscribed start name (events ++ [.unsubscribed ⟨name, id⟩]) =
      everSubscribed start name events := by
    simp [Event.subscriber?]
  refine ⟨?_, ?_, ?_, fun {entry} => ?_⟩ <;> rw [ever]
  · exact roster.ascending
  · exact roster.below
  · exact List.filter_sublist.trans roster.kept
  · rw [unsubscribed_concat, ReactiveVariable.unsubscribe, List.mem_filter, roster.subscribed,
      and_assoc, not_or]
    refine and_congr_right fun made => and_congr_right fun _ => ?_
    have known : entry.1 ∈ (everSubscribed start name events).map Prod.fst :=
      List.mem_map_of_mem made
    rw [decide_eq_true_iff, ne_comm]
    simp [known]

end

/-- The roster is right at any time, by induction on the events. -/
theorem Issued.roster {start : World σ} {events : List (Event σ)} {name : String}
    {cell : ReactiveVariable σ} (issued : Issued start events) (numbered : start.Numbered)
    (found : variableAfter start name events = some cell) : Roster start name events cell := by
  induction issued generalizing cell with
  | nil =>
    rw [variableAfter] at found
    exact roster_start numbered (by simpa using found)
  | @concat events event before next ih =>
    rw [variableAfter_concat] at found
    obtain ⟨earlier, before', rfl⟩ := Option.map_eq_some_iff.mp found
    have roster := ih before'
    cases event with
    | subscribed subscription callback =>
      by_cases same : subscription.name = name
      · subst same
        obtain ⟨other, known, id⟩ := next subscription callback rfl
        obtain rfl : earlier = other := Option.some.inj (before'.symm.trans known)
        obtain ⟨name, id⟩ := subscription
        cases id
        simpa [Event.act] using roster.subscribe callback
      · refine roster.pass ?_ (by simp) ?_ ?_ <;> simp [Event.subscriber?, Event.act, same]
    | unsubscribed subscription =>
      by_cases same : subscription.name = name
      · subst same
        simpa [Event.act] using roster.unsubscribe subscription.id
      · refine roster.pass rfl ?_ ?_ ?_
        · rintro id ⟨⟩
          exact same rfl
        all_goals simp [Event.act, same]
    | set other value old =>
      refine roster.pass rfl (by simp) ?_ ?_ <;> rw [Event.act] <;> split <;> rfl
    | called => exact roster.pass rfl (by simp) rfl rfl

/-! ## What a handle stands for -/

namespace Roster

variable {start : World σ} {events : List (Event σ)} {name : String} {cell : ReactiveVariable σ}
  {entry : Nat × Callback σ}

theorem numbered (roster : Roster start name events cell) : cell.Numbered where
  ascending := roster.ascending.sublist (roster.kept.map Prod.fst)
  below id mem := roster.below id ((roster.kept.map Prod.fst).subset mem)

/-- Unsubscribing removes the one subscriber that a handle was made for. -/
theorem unsubscribe_of_mem (roster : Roster start name events cell)
    (mem : entry ∈ cell.subscribers) :
    ∃ before after, cell.subscribers = before ++ entry :: after ∧
      cell.unsubscribe entry.1 = { cell with subscribers := before ++ after } := by
  obtain ⟨before, after, split⟩ := List.append_of_mem mem
  refine ⟨before, after, split, ?_⟩
  have ascending := roster.numbered.ascending
  rw [split, List.map_append, List.map_cons, List.pairwise_append, List.pairwise_cons] at ascending
  obtain ⟨-, ⟨above, -⟩, below⟩ := ascending
  have others : ∀ other ∈ before ++ after, other.1 ≠ entry.1 := by
    intro other mem
    rcases List.mem_append.mp mem with mem | mem
    · exact Nat.ne_of_lt (below _ (List.mem_map_of_mem mem) _ List.mem_cons_self)
    · exact Nat.ne_of_gt (above _ (List.mem_map_of_mem mem))
  rw [ReactiveVariable.unsubscribe, split, List.filter_append, List.filter_cons_of_neg (by simp),
    ← List.filter_append,
    List.filter_eq_self.mpr fun other mem => decide_eq_true (others other mem)]

theorem unsubscribe_of_unsubscribed (roster : Roster start name events cell) {id : Nat}
    (unsubscribed : Unsubscribed start name events id) : cell.unsubscribe id = cell := by
  have others : ∀ other ∈ cell.subscribers, other.1 ≠ id := by
    rintro other mem rfl
    exact (roster.subscribed.mp mem).2 unsubscribed
  rw [ReactiveVariable.unsubscribe,
    List.filter_eq_self.mpr fun other mem => decide_eq_true (others other mem)]

open Classical in
/-- Everyone who has ever been subscribed still is, or has been unsubscribed. -/
theorem subscriberCount_add (roster : Roster start name events cell) :
    cell.subscriberCount + {id | Unsubscribed start name events id}.ncard =
      (everSubscribed start name events).length := by
  have distinct : ((everSubscribed start name events).map Prod.fst).Nodup :=
    roster.ascending.imp Nat.ne_of_lt
  let ended := (everSubscribed start name events).filter fun entry =>
    Unsubscribed start name events entry.1
  let remaining := (everSubscribed start name events).filter fun entry =>
    ¬Unsubscribed start name events entry.1
  have first : cell.subscribers.Perm remaining := by
    have nodup := List.Nodup.of_map Prod.fst distinct
    refine (List.perm_ext_iff_of_nodup (nodup.sublist roster.kept) (nodup.filter _)).mpr ?_
    intro entry
    rw [roster.subscribed, List.mem_filter, decide_eq_true_iff]
  have second : {id | Unsubscribed start name events id} = ↑(ended.map Prod.fst).toFinset := by
    ext id
    rw [Set.mem_ofPred_eq, List.coe_toFinset, Set.mem_ofPred_eq, List.mem_map]
    constructor
    · intro unsubscribed
      obtain ⟨entry, made, rfl⟩ := List.mem_map.mp unsubscribed.made
      exact ⟨entry, List.mem_filter.mpr ⟨made, decide_eq_true unsubscribed⟩, rfl⟩
    · rintro ⟨entry, mem, rfl⟩
      exact of_decide_eq_true (List.mem_filter.mp mem).2
  have split := List.length_eq_length_filter_add (l := everSubscribed start name events)
    fun entry => decide (Unsubscribed start name events entry.1)
  rw [second, Set.ncard_coe_finset,
    List.toFinset_card_of_nodup (distinct.sublist (List.filter_sublist.map Prod.fst)),
    List.length_map, ReactiveVariable.subscriberCount, first.length_eq, split, Nat.add_comm]
  simp only [remaining, decide_not]

end Roster

theorem Event.nextId_act (name : String) (cell : ReactiveVariable σ) (event : Event σ) :
    (event.act name cell).nextId = cell.nextId + (event.subscriber? name).toList.length := by
  cases event with
  | subscribed | unsubscribed | set =>
    simp only [act, subscriber?]
    split <;> rfl
  | called => rfl

/-- Ids count the subscriptions. -/
theorem nextId_variableAfter {start : World σ} {events : List (Event σ)} {name : String}
    {first cell : ReactiveVariable σ} (declared : start.reactives.find? name = some first)
    (found : variableAfter start name events = some cell) :
    cell.nextId + first.subscribers.length =
      first.nextId + (everSubscribed start name events).length := by
  induction events using List.reverseRecOn generalizing cell with
  | nil =>
    rw [variableAfter, declared] at found
    obtain rfl := Option.some.inj found
    simp [everSubscribed, World.subscribers_of_find? declared]
  | append_singleton events event ih =>
    rw [variableAfter_concat] at found
    obtain ⟨earlier, before, rfl⟩ := Option.map_eq_some_iff.mp found
    rw [everSubscribed_concat, List.length_append, Event.nextId_act, ← Nat.add_assoc, ← ih before,
      Nat.add_right_comm]

/-- Whatever is subscribed, unsubscribed and set, by subscribers as well: at any time a handle
stands for the subscriber that it was made for, until it is unsubscribed, and for nobody
afterwards. -/
theorem unsubscribe_ends_own {fuel : Nat} {history : Reaction σ} {w after : World σ}
    (numbered : w.Numbered) (ran : history.run fuel w = some after) :
    ∃ events : List (Event σ), history.follow fuel ⟨w, []⟩ = some ⟨after, events⟩ ∧
      after.Numbered ∧ (∀ name, after.reactives.find? name = variableAfter w name events) ∧
      ∀ name number first cell, w.reactives.find? name = some first →
        variableAfter w name (events.take number) = some cell →
        let ever := everSubscribed w name (events.take number)
        let ended := Unsubscribed w name (events.take number)
        cell.Numbered ∧ (ever.map Prod.fst).Pairwise (· < ·) ∧
          cell.nextId + first.subscribers.length = first.nextId + ever.length ∧
          (∀ entry ∈ ever,
            (¬ended entry.1 → ∃ before rest, cell.subscribers = before ++ entry :: rest ∧
              cell.unsubscribe entry.1 = { cell with subscribers := before ++ rest }) ∧
            (ended entry.1 → cell.unsubscribe entry.1 = cell)) ∧
          cell.subscriberCount + {id | ended id}.ncard = ever.length := by
  obtain ⟨events, followed⟩ := Reaction.follow_of_run ran
  have tells := (tells_start w).steps (Reaction.steps_of_follow followed)
  refine ⟨events, followed, fun name cell found => ?_, tells.cells, ?_⟩
  · rw [tells.cells] at found
    exact (tells.issued.roster numbered found).numbered
  · intro name number first cell declared found ever ended
    have roster := (tells.issued.take number).roster numbered found
    refine ⟨roster.numbered, roster.ascending, nextId_variableAfter declared found, ?_,
      roster.subscriberCount_add⟩
    intro entry made
    exact ⟨fun remains => roster.unsubscribe_of_mem (roster.subscribed.mpr ⟨made, remains⟩),
      roster.unsubscribe_of_unsubscribed⟩

/-- Has one subscriber subscribed twice, and unsubscribes the first subscription twice. -/
def secondThoughts : Reaction Unit :=
  .subscribe "mood" steady fun first => .subscribe "mood" steady fun _ =>
    match first with
    | some subscription => .unsubscribe subscription (.unsubscribe subscription .done)
    | none => .done

theorem numbered_calmWorld : calmWorld.Numbered := by
  have numbered : (World.mk .empty () : World Unit).Numbered := by
    intro name cell found
    cases found
  exact numbered.declare "mood" .nil

theorem unsubscribe_ends_own_secondThoughts :
    ∃ after events, secondThoughts.run 8 calmWorld = some after ∧
      secondThoughts.follow 8 ⟨calmWorld, []⟩ = some ⟨after, events⟩ ∧
      after.subscribers "mood" = [(1, steady)] ∧
      everSubscribed calmWorld "mood" events = [(0, steady), (1, steady)] ∧
      {id | Unsubscribed calmWorld "mood" events id}.ncard = 1 := by
  have ran : secondThoughts.run 8 calmWorld = some _ := rfl
  obtain ⟨events, followed, -, cells, all⟩ := unsubscribe_ends_own numbered_calmWorld ran
  obtain ⟨-, same⟩ := Chronicle.mk.inj (Option.some.inj followed)
  subst same
  obtain ⟨-, -, -, -, count⟩ := all "mood" 4 _ _ rfl rfl
  exact ⟨_, _, ran, followed, rfl, rfl, Nat.add_left_cancel count⟩

end DialogueEngine
