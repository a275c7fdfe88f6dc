import DialogueEngine.Variables.Reactive

/-!
# Notification

Setting a reactive variable to another value calls those that are subscribed at that moment, in the
order of their subscriptions; what they do to the subscriptions meanwhile does not matter. A
subscriber may set variables itself, so the functions recurse by fuel, and are `none` when it runs
out.
-/

namespace DialogueEngine

variable {σ : Type}

mutual

def Reaction.run : Nat → Reaction σ → World σ → Option (World σ)
  | 0, _, _ => none
  | fuel + 1, reaction, w =>
      match reaction with
      | .done => some w
      | .modify f next => next.run fuel (w.modify f)
      | .consult next => (next w.host).run fuel w
      | .read name next => (next (w.value? name)).run fuel w
      | .set name value next =>
          match w.assign fuel name value with
          | none => none
          | some w => next.run fuel w
      | .subscribe name callback next =>
          let (subscription, w) := w.subscribe name callback
          (next subscription).run fuel w
      | .unsubscribe subscription next => next.run fuel (w.unsubscribe subscription)

/-- Sets a variable and notifies its subscribers, unless it has that value already. A name that is
not declared is passed over. -/
def World.assign : Nat → World σ → String → Value → Option (World σ)
  | 0, _, _, _ => none
  | fuel + 1, w, name, value =>
      match w.reactives.find? name with
      | none => some w
      | some cell =>
          if cell.value = value then some w
          else (w.put name { cell with value }).notify fuel cell.callbacks value cell.value

def World.notify : Nat → World σ → List (Callback σ) → Value → Value → Option (World σ)
  | 0, _, _, _, _ => none
  | _ + 1, w, [], _, _ => some w
  | fuel + 1, w, callback :: rest, new, old =>
      match (callback new old).run fuel w with
      | none => none
      | some w => w.notify fuel rest new old

end

end DialogueEngine
