import AssetTranspiler.Proofs.Console.Making
import AssetTranspiler.Proofs.Context.Clock
import AssetTranspiler.Proofs.Gateway.Outcome

namespace AssetTranspiler

open Trace

namespace Engine

theorem log_call (setup : Setup) (s : Service) (i : Nat) (function : String)
    (arguments : List Value) : ((call i function arguments).exec setup s).2.log = s.log := by
  by_cases h : function = Console.drainFunction
  · subst h
    rw [call_drainFunction]
    simp only [exec_drain]
    rcases (setup.host.drain s.history).result with f | _ | v <;> rfl
  · rw [exec_call_of_ne setup s i h]
    rfl

end Engine

namespace Balance

variable {setup : Setup} {guarded : Bool} {s : Service} {i : Nat}

theorem drain (h : Balance setup.host guarded (some i) s) {arguments : List Value}
    (hp : Proper setup.host s.history (.drain i arguments setup.options.timeout))
    (hi : i < s.engines.length) (hg : guarded = false) :
    Balance setup.host guarded (some i) ((Engine.drain i arguments).exec setup s).2 := by
  have hd := Engine.drained hp
  generalize (Engine.drain i arguments).exec setup s = x at hd ⊢
  cases hd with
  | handed hh => exact h.handOut hp rfl hh rfl rfl (.inr ⟨hg, rfl⟩)
  | failed f _ hh => exact h.request hi rfl hh

theorem forwardConsole (h : Balance setup.host guarded (some i) s)
    (hp : Proper setup.host s.history (.drain i [] setup.options.timeout))
    (hi : i < s.engines.length) :
    Balance setup.host guarded (some i) ((Gateway.forwardConsole i).exec setup s).2 ∧
      ((Gateway.forwardConsole i).exec setup s).2.consoleLog = s.consoleLog ++
        if (setup.host.drain s.history).result.isOk then
          (buffered setup.host i s.history).map Console.shown
        else [] := by
  have hd := Engine.drained hp
  simp only [Gateway.forwardConsole, Job.exec_bind, Job.exec_attempt]
  generalize (Engine.drain i).exec setup s = x at hd ⊢
  cases hd with
  | handed hh =>
      have hok : (setup.host.drain s.history).result.isOk = true := hh
      simp only [Job.discard_eq_map, Job.exec_map, Gateway.exec_forward, Console.entries?_list]
      have hlog := Service.consoleLog_forward
        ((s.ask (.drain i [] setup.options.timeout)).emptied i) ((s.pendingOf i).map Console.entry)
      rw [List.map_map] at hlog
      rw [List.map_map, if_pos hok, ← h.pending]
      exact ⟨h.handOut hp rfl hh rfl rfl (.inl hlog), hlog⟩
  | failed f hf hh =>
      have hok : (setup.host.drain s.history).result.isOk = false := hh
      simp only [hf, if_true, Job.exec_log, hok, Bool.false_eq_true, if_false, List.append_nil]
      have hlog := ((s.ask (.drain i [] setup.options.timeout)).buffer i
        (setup.host.logged s.history (.drain i [] setup.options.timeout))).consoleLog_cons
        (r := ⟨.gateway, .debug, "Could not drain JS processor log: " ++ f.text, false⟩) (by simp)
      exact ⟨(h.request hi rfl hh).congr rfl (fun j => rfl) hlog, hlog⟩

end Balance

namespace Books

variable {setup : Setup} {guarded : Bool} {s : Service} {i : Nat}

theorem callOrDrain (h : Books setup.host guarded (some i) s) {function : String}
    (hg : guarded = true → function ≠ Console.drainFunction) (arguments : List Value) :
    Books setup.host guarded (some i) ((Engine.call i function arguments).exec setup s).2 := by
  by_cases hf : function = Console.drainFunction
  · rw [hf, Engine.call_drainFunction]
    refine h.asked (Engine.asked_drain setup s i arguments) fun hp hb =>
      hb.drain hp (h.bounded i rfl) ?_
    cases guarded with
    | true => exact absurd hf (hg rfl)
    | false => rfl
  · exact h.call hf arguments

theorem forwardConsole (h : Books setup.host guarded (some i) s) :
    Books setup.host guarded (some i) ((Gateway.forwardConsole i).exec setup s).2 :=
  h.asked (Gateway.asked_forwardConsole setup i s) fun hp hb =>
    (hb.forwardConsole hp (h.bounded i rfl)).1

end Books

def Legible (v : Value) : Prop :=
  ∃ level message, v = .list [.str level, .str message] ∧
    Console.shown v = ⟨.console, Console.level level, message, false⟩

theorem Trace.legible_of_produced {host : Host} {past : History} (h : Regular host past) :
    ∀ r ∈ produced host past, Legible r.2 := by
  induction past with
  | nil => simp [produced]
  | cons e past ih =>
      intro r hr
      cases he : e.engine? with
      | none =>
          rw [produced_cons_none he] at hr
          exact ih h.2 r hr
      | some i =>
          rw [produced_cons_some he, List.mem_append, List.mem_map] at hr
          rcases hr with hr | ⟨v, hv, rfl⟩
          · exact ih h.2 r hr
          · obtain ⟨level, message, rfl⟩ := h.1.pairs v hv
            exact ⟨level, message, rfl, rfl⟩

theorem Trace.legible_of_buffered {host : Host} {past : History} (h : Regular host past) (i : Nat) :
    ∀ v ∈ buffered host i past, Legible v := by
  intro v hv
  have hp : v ∈ ofEngine i (produced host past) := by
    rw [← handed_append_buffered h i]
    exact List.mem_append_right _ hv
  obtain ⟨⟨j, w⟩, hr, hj⟩ := List.mem_filterMap.mp hp
  by_cases hi : j = i
  · rw [if_pos hi, Option.some.injEq] at hj
    exact hj ▸ legible_of_produced h _ hr
  · rw [if_neg hi] at hj
    cases hj

structure Accounted (host : Host) (guarded : Bool) (s : Service) : Prop where
  ready : s.manager.ready = s.manager.context.isSome
  books : Books host guarded s.manager.context s

/-- The course of a call that got engine `i` in state `start` and has not drained its console yet. -/
structure Answering (host : Host) (guarded : Bool) (start : Service) (i : Nat) (s : Service) :
    Prop where
  books : Books host guarded (some i) s
  manager : s.manager = start.manager
  log : s.consoleLog = start.consoleLog
  continues : start.history <:+ s.history

structure Forwarded (setup : Setup) (s : Service) (i : Nat) (past : History) (t : Service) :
    Prop where
  context : t.manager.context = some i
  history : t.history = .drain i [] setup.options.timeout :: past
  continues : s.history <:+ past
  legible : Regular setup.host t.history → ∀ v ∈ buffered setup.host i past, Legible v
  delivered : Regular setup.host t.history → (setup.host.drain past).result.isOk = true →
    t.consoleLog = s.consoleLog ++ (buffered setup.host i past).map Console.shown
  undelivered : Regular setup.host t.history → (setup.host.drain past).result.isOk = false →
    t.consoleLog = s.consoleLog

structure Unforwarded (s t : Service) : Prop where
  requests : ∃ new, t.history = new ++ s.history ∧ ∀ e ∈ new, e.isUse = false
  log : t.consoleLog = s.consoleLog

def Delivery (setup : Setup) (s t : Service) : Prop :=
  (∃ i past, Forwarded setup s i past t) ∨ Unforwarded s t

theorem Forwarded.since {setup : Setup} {s t u : Service} {i : Nat} {past : History}
    (h : Forwarded setup t i past u) (hl : t.consoleLog = s.consoleLog)
    (hs : s.history <:+ t.history) : Forwarded setup s i past u where
  context := h.context
  history := h.history
  continues := hs.trans h.continues
  legible := h.legible
  delivered hr hok := hl ▸ h.delivered hr hok
  undelivered hr hok := hl ▸ h.undelivered hr hok

namespace Answering

variable {setup : Setup} {guarded : Bool} {start s : Service} {i : Nat}

theorem served :
    Served setup (Answering setup.host guarded start i) i
      fun function => guarded = true → function ≠ Console.drainFunction where
  call function arguments hf := by
    intro s h
    have ha := Engine.asked_call setup s i function arguments
    refine ⟨h.books.callOrDrain hf arguments, ha.manager.trans h.manager, ?_, ?_⟩
    · rw [Service.consoleLog, Engine.log_call, ← Service.consoleLog, h.log]
    · rw [ha.history]
      exact h.continues.trans (List.suffix_cons _ _)
  log {s} r hr h :=
    ⟨h.books.congr rfl rfl (s.consoleLog_cons hr), h.manager, (s.consoleLog_cons hr).trans h.log,
      h.continues⟩

theorem keeps_collect :
    Job.Keeps setup (Answering setup.host guarded start i) (Context.collect i) := by
  refine served.keeps_collect ?_
  intro s h
  have ha := Engine.asked_collect setup s i
  refine ⟨h.books.collect, ha.manager.trans h.manager, ?_, ?_⟩
  · rw [Engine.exec_collect]
    exact h.log
  · rw [ha.history]
    exact h.continues.trans (List.suffix_cons _ _)

end Answering

namespace Accounted

variable {setup : Setup} {guarded : Bool} {s t : Service} {i : Nat}

theorem initial (host : Host) (guarded : Bool) (o : Origin) :
    Accounted host guarded o.service where
  ready := rfl
  books := {
    bounded := by simp [Origin.service]
    closed := by simp [Origin.service, Service.life?]
    balance := fun _ => {
      pending := fun _ => rfl
      order := by simp [Origin.service]
      handed := .slnil
      shown := .slnil
      exact := fun _ => rfl
      tidy := fun _ _ hne => absurd rfl hne } }

theorem untimed (host : Host) (guarded : Bool) : Untimed (Accounted host guarded) where
  manager m _ hc hr _ h := ⟨by rw [hr, hc, h.ready], by rw [hc]; exact h.books.congr rfl rfl rfl⟩

theorem answering (h : Accounted setup.host guarded s) (hc : s.manager.context = some i) :
    Answering setup.host guarded s i s where
  books := hc ▸ h.books
  manager := rfl
  log := rfl
  continues := List.suffix_rfl

theorem meets_getOrCreate :
    Job.Meets setup (Accounted setup.host guarded) Context.getOrCreate fun r t =>
      Accounted setup.host guarded t ∧ ∀ i, r = .ok i → t.manager.context = some i := by
  intro s h
  cases hc : s.manager.context with
  | some i =>
      rw [Context.exec_getOrCreate_of_usable _ _ ((Manager.usable?_eq h.ready).trans hc)]
      exact ⟨h, by simp [hc]⟩
  | none =>
      have hbooks := h.books
      rw [hc] at hbooks
      have hconstruct := Books.meets_construct (s.enter .initializing)
        (hbooks.congr rfl rfl rfl)
      have hmanager : Job.Keeps setup _ Context.construct :=
        (Quiet.ofManager (s.enter .initializing).manager).keeps_construct
      have hm := hmanager (s.enter .initializing) rfl
      rw [Context.exec_getOrCreate _ _ ((Manager.usable?_eq h.ready).trans hc)]
      rcases hr : Context.construct.exec setup (s.enter .initializing) with ⟨fault | n, t⟩ <;>
        rw [hr] at hconstruct hm
      · refine ⟨?_, by simp⟩
        have hcontext : t.manager.context = none := by
          rw [hm]
          exact hc
        have hready : t.manager.ready = t.manager.context.isSome := by
          rw [hm]
          exact h.ready
        have ht : Accounted setup.host guarded t := ⟨hready, hcontext ▸ hconstruct⟩
        simp only [Service.renounce]
        split
        · exact ht
        · exact ⟨hready, ht.books.congr rfl rfl (t.consoleLog_cons (by simp))⟩
      · refine ⟨⟨rfl, ?_⟩, ?_⟩
        · exact hconstruct.congr rfl rfl (t.consoleLog_cons (by simp))
        · rintro i ⟨⟩
          rfl

theorem consoleLog_getOrCreate (setup : Setup) (s : Service) :
    (Context.getOrCreate.exec setup s).2.consoleLog = s.consoleLog := by
  have hquiet : Quiet fun t : Service => t.consoleLog = s.consoleLog :=
    { request := fun _ _ _ h => h, engines := fun _ h => h, files := fun _ h => h
      log := fun {t} _ hr h => (t.consoleLog_cons hr).trans h, close := fun _ h => h }
  have hkeeps : Job.Keeps setup _ Context.getOrCreate :=
    hquiet.keeps_getOrCreate fun _ _ _ _ h => h
  exact hkeeps s rfl

theorem untimed_forwarded (setup : Setup) (guarded : Bool) (s : Service) (i : Nat)
    (past : History) :
    Untimed fun t => Accounted setup.host guarded t ∧ Forwarded setup s i past t where
  manager m hs hc hr hb h := by
    refine ⟨(untimed setup.host guarded).manager m hs hc hr hb h.1, ?_⟩
    exact ⟨hc.trans h.2.context, h.2.history, h.2.continues, h.2.legible, h.2.delivered,
      h.2.undelivered⟩

theorem serve (h : Accounted setup.host guarded s) (hc : s.manager.context = some i)
    {function : String} {fetch : Option String}
    (hg : guarded = true → Gateway.drains function fetch = false) (arguments : List Value) :
    ∃ past, Accounted setup.host guarded
        ((Gateway.serve i function arguments fetch).exec setup s).2 ∧
      Forwarded setup s i past ((Gateway.serve i function arguments fetch).exec setup s).2 := by
  -- neither the function nor the one that fetches its result is the drain
  have hcalls : guarded = true → function ≠ Console.drainFunction ∧
      ∀ g, fetch = some g → g ≠ Console.drainFunction := by
    intro hguarded
    have hd := hg hguarded
    simp only [Gateway.drains, Bool.or_eq_false_iff, beq_eq_false_iff_ne] at hd
    exact ⟨hd.1, fun g hf hg => hd.2 (by rw [hf, hg])⟩
  have hanswer := Answering.served.keeps_answer (fun hguarded => (hcalls hguarded).1)
    (fun g hf hguarded => (hcalls hguarded).2 g hf) arguments s (h.answering hc)
  rw [Gateway.serve, Job.exec_bind, Job.exec_attempt]
  generalize (Gateway.answer i function arguments fetch).exec setup s = x at hanswer ⊢
  obtain ⟨result, t⟩ := x
  have hasked := Gateway.asked_forwardConsole setup i t
  have hbooks := hanswer.books.forwardConsole
  have hlog : Regular setup.host (.drain i [] setup.options.timeout :: t.history) → _ := fun hr =>
    ((hanswer.books.balance hr.2).forwardConsole hr.1 (hanswer.books.bounded i rfl)).2
  simp only [Job.exec_bind _ _ (Gateway.forwardConsole i)]
  generalize (Gateway.forwardConsole i).exec setup t = y at hasked hbooks hlog ⊢
  obtain ⟨drained, u⟩ := y
  have hcontext : u.manager.context = some i := by rw [hasked.manager, hanswer.manager, hc]
  have hdone : Accounted setup.host guarded u ∧ Forwarded setup s i t.history u := by
    refine ⟨⟨by rw [hasked.manager, hanswer.manager, h.ready], hcontext ▸ hbooks⟩, hcontext,
      hasked.history, hanswer.continues, ?_, ?_, ?_⟩
    · intro hr
      rw [hasked.history] at hr
      exact legible_of_buffered hr.2 i
    · intro hr hok
      rw [hlog (hasked.history ▸ hr), if_pos hok, hanswer.log]
    · intro hr hok
      rw [hlog (hasked.history ▸ hr), if_neg (by simp [hok]), List.append_nil, hanswer.log]
  cases drained with
  | error fault => exact ⟨t.history, hdone⟩
  | ok _ =>
      have hrest : Job.Keeps setup _ (do Context.notifyIdle; Job.ofExcept result) :=
        (untimed_forwarded setup guarded s i t.history).keeps_notifyIdle.bind fun _ =>
          Job.keeps_ofExcept result
      exact ⟨t.history, hrest u hdone⟩

theorem attend (h : Accounted setup.host guarded s) {function : String} {fetch : Option String}
    (hg : guarded = true → Gateway.drains function fetch = false) (arguments : List Value) :
    Accounted setup.host guarded ((Context.getOrCreate >>= fun i =>
        Gateway.serve i function arguments fetch).exec setup s).2 ∧
      Delivery setup s ((Context.getOrCreate >>= fun i =>
        Gateway.serve i function arguments fetch).exec setup s).2 := by
  have hmade := meets_getOrCreate s h
  have hframe := (Gateway.getOrCreate_frame setup s).1
  have hlog := consoleLog_getOrCreate setup s
  rw [Job.exec_bind]
  generalize Context.getOrCreate.exec setup s = x at hmade hframe hlog ⊢
  obtain ⟨fault | i, t⟩ := x
  · exact ⟨hmade.1, .inr ⟨hframe, hlog⟩⟩
  · obtain ⟨past, ht, hf⟩ := serve hmade.1 (hmade.2 i rfl) hg arguments
    obtain ⟨new, hn, -⟩ := hframe
    exact ⟨ht, .inl ⟨i, past, hf.since hlog ⟨new, hn.symm⟩⟩⟩

/-- A call keeps the books in order. It logs what the engine of its context has buffered since the
last successful drain, if its own drain succeeds, and otherwise nothing. -/
theorem call (h : Accounted setup.host guarded s) {function : String} {fetch : Option String}
    (hg : guarded = true → Gateway.drains function fetch = false) (arguments : List Value) :
    Accounted setup.host guarded ((Gateway.call function arguments fetch).exec setup s).2 ∧
      Delivery setup s ((Gateway.call function arguments fetch).exec setup s).2 := by
  have hlocked := (untimed setup.host guarded).manager { s.manager with locked := true } rfl rfl rfl
    rfl h
  obtain ⟨ht, hd⟩ := attend hlocked hg arguments
  rw [Gateway.call_eq, Context.exec_withLock]
  refine ⟨(untimed setup.host guarded).manager _ rfl rfl rfl rfl ht, ?_⟩
  rcases hd with ⟨i, past, hf⟩ | hn
  · exact .inl ⟨i, past, hf.context, hf.history, hf.continues, hf.legible, hf.delivered,
      hf.undelivered⟩
  · exact .inr ⟨hn.requests, hn.log⟩

end Accounted
end AssetTranspiler
