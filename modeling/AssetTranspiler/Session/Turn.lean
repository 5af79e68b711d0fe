import AssetTranspiler.Session.Step

namespace AssetTranspiler

structure Turn where
  outcome : Except Fault Answer
  events : List Event
  log : List LogRecord
  manager : Manager

namespace Session

/-- What has been added to a list that grows at its head, the earliest addition first. -/
def added {α : Type} (before after : List α) : List α :=
  (after.take (after.length - before.length)).reverse

def turn (setup : Setup) (s : Service) (step : Step) : Turn × Service :=
  let (outcome, t) := step.run.exec setup s
  ({ outcome := outcome.bind id
     events := added s.history t.history
     log := added s.log t.log
     manager := t.manager }, t)

def turns (setup : Setup) : Service → List Step → List Turn
  | _, [] => []
  | s, step :: steps =>
      let (t, s) := turn setup s step
      t :: turns setup s steps

def final (setup : Setup) (s : Service) (steps : List Step) : Service :=
  steps.foldl (fun s step => (turn setup s step).2) s

@[simp] theorem added_append {α : Type} (new before : List α) :
    added before (new ++ before) = new.reverse := by
  simp [added]

@[simp] theorem length_turns (setup : Setup) (s : Service) (steps : List Step) :
    (turns setup s steps).length = steps.length := by
  induction steps generalizing s with
  | nil => rfl
  | cons step steps ih => simp [turns, ih]

theorem turns_append (setup : Setup) (s : Service) (as bs : List Step) :
    turns setup s (as ++ bs) = turns setup s as ++ turns setup (final setup s as) bs := by
  induction as generalizing s with
  | nil => rfl
  | cons step steps ih => simp [turns, final, ih]

theorem final_append (setup : Setup) (s : Service) (as bs : List Step) :
    final setup s (as ++ bs) = final setup (final setup s as) bs := by
  simp [final]

end Session
end AssetTranspiler
