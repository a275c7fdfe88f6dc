import DialogueEngine.Variables.Scope
import DialogueEngine.Value.Order
import DialogueEngine.Value.Text

/-!
# Reactive variables

A reactive variable has a value and subscribers, which are called with the new and the old value
when it changes. What a subscriber does is a `Reaction`: it may change the state of the host, and
read, set, subscribe to and unsubscribe from reactive variables.
-/

namespace DialogueEngine

/-- Names one subscription: ids are counted for each variable. -/
structure Subscription where
  name : String
  id : Nat
deriving DecidableEq

/-- What a subscriber does, for a host with states in `σ`. -/
inductive Reaction (σ : Type) where
  | done
  | modify (f : σ → σ) (next : Reaction σ)
  | consult (next : σ → Reaction σ)
  | read (name : String) (next : Option Value → Reaction σ)
  | set (name : String) (value : Value) (next : Reaction σ)
  | subscribe (name : String) (callback : Value → Value → Reaction σ)
      (next : Option Subscription → Reaction σ)
  | unsubscribe (subscription : Subscription) (next : Reaction σ)

instance {σ : Type} : Inhabited (Reaction σ) := ⟨.done⟩

/-- A subscriber, called with the new and the old value. -/
abbrev Callback (σ : Type) := Value → Value → Reaction σ

structure ReactiveVariable (σ : Type) where
  value : Value
  /-- In the order of their subscriptions. -/
  subscribers : List (Nat × Callback σ) := []
  nextId : Nat := 0

namespace ReactiveVariable

variable {σ : Type}

def subscribe (cell : ReactiveVariable σ) (callback : Callback σ) : ReactiveVariable σ :=
  { cell with
    subscribers := cell.subscribers ++ [(cell.nextId, callback)]
    nextId := cell.nextId + 1 }

/-- Nothing happens if the subscription is not there any more. -/
def unsubscribe (cell : ReactiveVariable σ) (id : Nat) : ReactiveVariable σ :=
  { cell with subscribers := cell.subscribers.filter fun subscriber => subscriber.1 ≠ id }

def callbacks (cell : ReactiveVariable σ) : List (Callback σ) := cell.subscribers.map Prod.snd

def subscriberCount (cell : ReactiveVariable σ) : Nat := cell.subscribers.length

end ReactiveVariable

/-- What reactions act on: the reactive variables and the state of the host. -/
structure World (σ : Type) where
  reactives : NameTable (ReactiveVariable σ) := .empty
  host : σ

namespace World

variable {σ : Type}

def modify (w : World σ) (f : σ → σ) : World σ := { w with host := f w.host }

def put (w : World σ) (name : String) (cell : ReactiveVariable σ) : World σ :=
  { w with reactives := w.reactives.insert name cell }

def value? (w : World σ) (name : String) : Option Value :=
  (w.reactives.find? name).map ReactiveVariable.value

/-- Declares a variable; one that is there is left alone. -/
def declare (w : World σ) (name : String) (initial : Value) : World σ :=
  match w.reactives.find? name with
  | some _ => w
  | none => w.put name { value := initial }

def subscribe (w : World σ) (name : String) (callback : Callback σ) :
    Option Subscription × World σ :=
  match w.reactives.find? name with
  | some cell => (some ⟨name, cell.nextId⟩, w.put name (cell.subscribe callback))
  | none => (none, w)

def unsubscribe (w : World σ) (subscription : Subscription) : World σ :=
  match w.reactives.find? subscription.name with
  | some cell => w.put subscription.name (cell.unsubscribe subscription.id)
  | none => w

end World

end DialogueEngine
