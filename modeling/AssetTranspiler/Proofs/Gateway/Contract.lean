import AssetTranspiler.Gateway
import AssetTranspiler.Proofs.Context.Request
import AssetTranspiler.Proofs.Service.Contract

namespace AssetTranspiler

namespace Gateway

def answer (i : Nat) (function : String) (arguments : List Value) (fetch : Option String) :
    Job Value := do
  match ← Job.attempt (invoke i function arguments fetch) with
  | .ok result => return result
  | .error fault => translate function fault

def serve (i : Nat) (function : String) (arguments : List Value) (fetch : Option String) :
    Job Value := do
  let outcome ← Job.attempt (answer i function arguments fetch)
  forwardConsole i
  Context.notifyIdle
  Job.ofExcept outcome

theorem call_eq (function : String) (arguments : List Value) (fetch : Option String) :
    call function arguments fetch =
      Context.withLock (Context.getOrCreate >>= fun i => serve i function arguments fetch) := rfl

theorem exec_forward (setup : Setup) (s : Service) (records : Value) :
    (forward records).exec setup s =
      match Console.entries? records with
      | none => (.error .mismatch, s)
      | some entries =>
          (.ok entries.length,
            { s with log := (entries.map consoleRecord).reverse ++ s.log }) := by
  rw [forward]
  cases Console.entries? records with
  | none => rfl
  | some entries => rfl

end Gateway

/-- A property that the calls of some functions of an engine keep, whatever they come to, and that
does not look at what the service itself logs. -/
structure Served (setup : Setup) (P : Service → Prop) (i : Nat) (calls : String → Prop) : Prop where
  call : ∀ function arguments, calls function →
    Job.Keeps setup P (Engine.call i function arguments)
  log : ∀ {s : Service} (r : LogRecord), r.source ≠ .console → P s →
    P { s with log := r :: s.log }

namespace Served

variable {setup : Setup} {P : Service → Prop} {i : Nat} {calls : String → Prop} {function : String}
  {fetch : Option String}

theorem keeps_log (h : Served setup P i calls) {source : LogSource} (hs : source ≠ .console)
    (level : LogLevel) (message : String) : Job.Keeps setup P (Job.log source level message) :=
  fun _ hp => h.log _ hs hp

theorem keeps_invoke (h : Served setup P i calls) (hf : calls function)
    (hg : ∀ g, fetch = some g → calls g) (arguments : List Value) :
    Job.Keeps setup P (Gateway.invoke i function arguments fetch) := by
  refine (h.call function arguments hf).bind fun result => ?_
  cases fetch with
  | none => exact Job.keeps_pure result
  | some g =>
      dsimp only
      split
      · exact Job.keeps_pure result
      · exact h.call g [] (hg g rfl)

theorem keeps_announce (h : Served setup P i calls) (function : String)
    (translated : Option TranspileError) :
    Job.Keeps setup P (Gateway.announce function translated) := by
  cases translated with
  | none => exact Job.keeps_throw _
  | some error => exact (h.keeps_log (by decide) _ _).bind fun _ => Job.keeps_throw _

theorem keeps_translate (h : Served setup P i calls) (function : String) (fault : Fault) :
    Job.Keeps setup P (Gateway.translate function fault) := by
  cases fault with
  | raised f =>
      simp only [Gateway.translate]
      split
      · exact Job.keeps_read.bind fun _ => h.keeps_announce function _
      · exact Job.keeps_throw _
  | _ => exact Job.keeps_throw _

theorem keeps_answer (h : Served setup P i calls) (hf : calls function)
    (hg : ∀ g, fetch = some g → calls g) (arguments : List Value) :
    Job.Keeps setup P (Gateway.answer i function arguments fetch) := by
  refine (h.keeps_invoke hf hg arguments).attempt.bind fun result => ?_
  cases result with
  | ok v => exact Job.keeps_pure v
  | error fault => exact h.keeps_translate function fault

theorem keeps_serve (h : Served setup P i calls)
    (hd : Job.Keeps setup P (Gateway.forwardConsole i))
    (hi : Job.Keeps setup P Context.notifyIdle) (hf : calls function)
    (hg : ∀ g, fetch = some g → calls g) (arguments : List Value) :
    Job.Keeps setup P (Gateway.serve i function arguments fetch) :=
  (h.keeps_answer hf hg arguments).attempt.bind fun outcome =>
    hd.bind fun _ => hi.bind fun _ => Job.keeps_ofExcept outcome

theorem keeps_collect (h : Served setup P i calls) (hc : Job.Keeps setup P (Engine.collect i)) :
    Job.Keeps setup P (Context.collect i) := by
  refine hc.attempt.bind fun outcome => ?_
  cases outcome with
  | ok u => exact h.keeps_log (by decide) _ _
  | error fault =>
      cases fault with
      | raised f =>
          cases hf : f.isInterrupt with
          | true =>
              simpa [hf] using (Job.keeps_throw (.raised f)).bind fun _ : Unit =>
                h.keeps_log (by decide) _ _
          | false => simpa [hf] using h.keeps_log (by decide) _ _
      | _ => exact Job.keeps_throw _

end Served

structure Usable (setup : Setup) (P : Service → Prop) (i : Nat) : Prop where
  call : ∀ function arguments, Job.Keeps setup P (Engine.call i function arguments)
  drain : Job.Keeps setup P (Engine.drain i)
  collect : Job.Keeps setup P (Engine.collect i)
  log : ∀ {s : Service} (log : List LogRecord), P s → P { s with log := log }

namespace Usable

variable {setup : Setup} {P : Service → Prop} {i : Nat}

theorem served (h : Usable setup P i) : Served setup P i fun _ => True where
  call function arguments _ := h.call function arguments
  log _ _ hs := h.log _ hs

theorem keeps_forward (h : Usable setup P i) (records : Value) :
    Job.Keeps setup P (Gateway.forward records) := by
  intro s hs
  rw [Gateway.exec_forward]
  cases Console.entries? records with
  | none => exact hs
  | some entries => exact h.log _ hs

theorem keeps_forwardConsole (h : Usable setup P i) :
    Job.Keeps setup P (Gateway.forwardConsole i) := by
  refine h.drain.attempt.bind fun outcome => ?_
  cases outcome with
  | ok records => exact (h.keeps_forward records).map _
  | error fault =>
      cases fault with
      | raised f =>
          dsimp only
          split
          · exact h.served.keeps_log (by decide) _ _
          · exact Job.keeps_throw _
      | _ => exact Job.keeps_throw _

theorem keeps_serve (h : Usable setup P i) (hi : Job.Keeps setup P Context.notifyIdle)
    (function : String) (arguments : List Value) (fetch : Option String) :
    Job.Keeps setup P (Gateway.serve i function arguments fetch) :=
  h.served.keeps_serve h.keeps_forwardConsole hi trivial (fun _ _ => trivial) arguments

theorem keeps_collect (h : Usable setup P i) : Job.Keeps setup P (Context.collect i) :=
  h.served.keeps_collect h.collect

end Usable
end AssetTranspiler
