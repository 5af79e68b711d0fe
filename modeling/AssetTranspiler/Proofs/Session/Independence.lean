import AssetTranspiler.Proofs.Gateway.Outcome
import AssetTranspiler.Proofs.Session.Aside
import AssetTranspiler.Proofs.Session.Operation
import AssetTranspiler.Proofs.Session.Turn
import AssetTranspiler.Proofs.Transpiler

namespace AssetTranspiler

abbrev Table := String → List Value → Except Failure Value

structure Tabled (o : Origin) (table : Table) : Prop where
  call : ∀ past function arguments,
    (o.setup.host.call past function arguments).result = table function arguments
  drains : DrainsReadably o.setup.host
  constructs : ∀ s : Service, s.settings = o.settings → s.files = o.filesAfter s.history →
    (Context.construct.exec o.setup s).1.isOk = true

namespace Table

variable (table : Table)

def exchange (function : String) (arguments : List Value) (fetch : Option String) :
    Except Fault Value :=
  match table function arguments, Gateway.fetcher? fetch with
  | .error f, _ => .error (.raised f)
  | .ok v, none => .ok v
  | .ok _, some g => (table g []).mapError .raised

end Table

namespace Tabled

variable {o : Origin} {table : Table} {start s : Service} {b : Bool}

theorem result_call (h : Tabled o table) {function : String}
    (hne : function ≠ Console.drainFunction) (i : Nat) (arguments : List Value) (s : Service) :
    ((Engine.call i function arguments).exec o.setup s).1 =
      (table function arguments).mapError .raised := by
  rw [Engine.exec_call_of_ne o.setup s i hne]
  simp only [h.call]

theorem result_exchange (h : Tabled o table) {i : Nat} {function : String}
    {arguments : List Value} {fetch : Option String} {calls : List Event}
    {result : Except Fault Value} (hne : function ≠ Console.drainFunction)
    (hfetch : ∀ g, fetch = some g → g ≠ Console.drainFunction)
    (hx : Gateway.Exchange o.setup i function arguments fetch s calls result) :
    result = table.exchange function arguments fetch := by
  have hcall := h.result_call hne i arguments s
  cases hx with
  | failed he =>
      rw [he] at hcall
      cases ht : table function arguments with
      | error f =>
          rw [ht] at hcall
          simpa [Table.exchange, ht] using hcall
      | ok v => simp [ht] at hcall
  | returned hf he =>
      rw [he] at hcall
      cases ht : table function arguments with
      | error f => simp [ht] at hcall
      | ok v =>
          rw [ht] at hcall
          simpa [Table.exchange, ht, hf] using hcall
  | @fetched v g r t u hf he hu =>
      rw [he] at hcall
      have hg : g ≠ Console.drainFunction := by
        cases fetch with
        | none => simp [Gateway.fetcher?] at hf
        | some f =>
            simp only [Gateway.fetcher?, Option.filter_eq_some_iff] at hf
            exact hfetch g hf.1
      have hfetched := h.result_call hg i [] t
      rw [hu] at hfetched
      cases ht : table function arguments with
      | error f => simp [ht] at hcall
      | ok w => simpa [Table.exchange, ht, hf] using hfetched

theorem getOrCreate_ok (h : Tabled o table) (hs : Coherent o start b s) :
    ∃ i t, Context.getOrCreate.exec o.setup s = (.ok i, t) := by
  cases hc : s.manager.context with
  | some i =>
      exact ⟨i, s, Context.exec_getOrCreate_of_usable _ _ (hs.usable?_eq.trans hc)⟩
  | none =>
      have hok := h.constructs (s.enter .initializing) hs.sound.settings hs.sound.files
      rw [Context.exec_getOrCreate _ _ (hs.usable?_eq.trans hc)]
      rcases hr : Context.construct.exec o.setup (s.enter .initializing) with ⟨fault | i, t⟩
      · rw [hr] at hok
        cases hok
      · exact ⟨i, _, rfl⟩

theorem outcome_call (h : Tabled o table) (hs : Coherent o start false s) {function : String}
    {arguments : List Value} {fetch : Option String} (hne : function ≠ Console.drainFunction)
    (hfetch : ∀ g, fetch = some g → g ≠ Console.drainFunction) :
    ((Gateway.call function arguments fetch).exec o.setup s).1 =
      Gateway.outcome o.setup.host.stack (table.exchange function arguments fetch) := by
  have hlocked : Coherent o start true { s with manager := { s.manager with locked := true } } :=
    hs.congr rfl rfl rfl rfl rfl rfl rfl rfl rfl
  obtain ⟨i, t, ht⟩ := h.getOrCreate_ok hlocked
  obtain ⟨calls, result, hx, hr⟩ := Gateway.exec_serve h.drains i function arguments fetch t
  rw [Gateway.call_eq, Context.exec_withLock]
  simp only [Job.exec_bind, ht, hr, h.result_exchange hne hfetch hx]

theorem meets_call (h : Tabled o table) {function : String} {arguments : List Value}
    {fetch : Option String} (hne : function ≠ Console.drainFunction)
    (hfetch : ∀ g, fetch = some g → g ≠ Console.drainFunction) :
    Job.Meets o.setup (Coherent o start false) (Gateway.call function arguments fetch) fun r t =>
      r = Gateway.outcome o.setup.host.stack (table.exchange function arguments fetch) ∧
        Coherent o start false t ∧ t.manager.context.isSome = true := by
  intro s hs
  refine ⟨h.outcome_call hs hne hfetch, Coherent.keeps_gatewayCall _ _ _ s hs, ?_⟩
  have hlocked : Coherent o start true { s with manager := { s.manager with locked := true } } :=
    hs.congr rfl rfl rfl rfl rfl rfl rfl rfl rfl
  obtain ⟨i, t, ht⟩ := h.getOrCreate_ok hlocked
  obtain ⟨hcoherent, hcontext⟩ := Coherent.meets_getOrCreate _ hlocked
  rw [ht] at hcoherent hcontext
  obtain ⟨-, hheld⟩ := Coherent.Held.usable.keeps_serve Coherent.Held.keeps_notifyIdle function
    arguments fetch t ⟨hcoherent, hcontext i rfl⟩
  simp only [Gateway.call_eq, Context.exec_withLock, Job.exec_bind, ht, hheld]
  rfl

end Tabled

structure Open (o : Origin) (paths : PathRegistry) (plugins : PluginRegistry) (s : Service) :
    Prop where
  coherent : Coherent o s false s
  paths : s.paths = paths
  plugins : s.plugins = plugins

def Origin.opened (o : Origin) (paths : PathRegistry) (plugins : PluginRegistry) : Service :=
  { o.service with paths := paths, plugins := plugins }

def Decided (o : Origin) (paths : PathRegistry) (plugins : PluginRegistry) {α : Type}
    (job : Job α) : Prop :=
  ∃ r, ∀ s, Open o paths plugins s → (job.exec o.setup s).1 = r

theorem Decided.map {o : Origin} {paths : PathRegistry} {plugins : PluginRegistry} {α β : Type}
    {job : Job α} (g : α → β) (h : Decided o paths plugins job) :
    Decided o paths plugins (g <$> job) := by
  obtain ⟨r, hr⟩ := h
  refine ⟨r.map g, ?_⟩
  intro s hs
  rw [Job.exec_map, hr s hs]

namespace Step

def isTranspiling : Step → Bool
  | .transpile _ _ _ _ => true
  | .compileTemplate _ _ => true
  | .minify _ _ => true
  | .process _ => true
  | .reset => true
  | .advance _ _ => true
  | _ => false

theorem isOperation_of_isTranspiling {step : Step} (h : step.isTranspiling = true) :
    step.isOperation = true := by
  cases step <;> simp [isTranspiling] at h <;> rfl

end Step

namespace Open

variable {o : Origin} {paths : PathRegistry} {plugins : PluginRegistry} {s : Service}

theorem opened (o : Origin) (paths : PathRegistry) (plugins : PluginRegistry) :
    Open o paths plugins (o.opened paths plugins) where
  coherent :=
    ((Coherent.initial o).congr (t := o.opened paths plugins) rfl rfl rfl rfl rfl rfl rfl rfl
      rfl).restart
  paths := rfl
  plugins := rfl

theorem logged (h : Open o paths plugins s) (log : List LogRecord) :
    Open o paths plugins { s with log := log } where
  coherent := (h.coherent.congr (t := { s with log := log }) rfl rfl rfl rfl h.coherent.locked rfl
    rfl rfl rfl).restart
  paths := h.paths
  plugins := h.plugins

theorem registered (paths : PathRegistry) (plugins : PluginRegistry) :
    Aside fun s => s.paths = paths ∧ s.plugins = plugins where
  change _ _ _ _ _ _ h := h

theorem keeps_registries {P : Service → Prop} (h : Aside P) {setup : Setup} {step : Step}
    (hstep : step.isTranspiling = true) : Job.Keeps setup P step.perform := by
  cases step <;> simp [Step.isTranspiling] at hstep
  case transpile source rootPath logicalPath themeId => exact (h.keeps_transpile _ _ _ _).map _
  case compileTemplate source themeId => exact (h.keeps_call _ _ _).map _
  case minify tree options => exact (h.keeps_call _ _ _).map _
  case process asset => exact (h.keeps_process asset).map _
  case reset => exact (h.untimed.keeps_withLock h.keeps_reset).bind fun _ => Job.keeps_pure _
  case advance milliseconds held =>
    refine Job.Keeps.bind (Job.keeps_update fun s hs => ?_) fun _ => ?_
    · exact h.change s.manager s.engines s.files _ s.history s.log hs
    · exact (h.untimed.keeps_whileHeld h.keeps_settle held).bind fun _ => Job.keeps_pure _

theorem turn (h : Open o paths plugins s) {step : Step} (hstep : step.isTranspiling = true) :
    Open o paths plugins (Session.turn o.setup s step).2 := by
  have hcoherent := Operation.coherent_after ⟨step, step.isOperation_of_isTranspiling hstep⟩
    h.coherent
  have hkept : Job.Keeps o.setup (fun s => s.paths = paths ∧ s.plugins = plugins) step.perform :=
    keeps_registries (registered paths plugins) hstep
  have hsettle : Job.Keeps o.setup (fun s => s.paths = paths ∧ s.plugins = plugins)
      Context.settle := (registered paths plugins).keeps_settle
  have hsettled := hsettle _ (hkept s ⟨h.paths, h.plugins⟩)
  rw [Session.state_turn]
  exact ⟨(Coherent.keeps_settle _ hcoherent).restart, hsettled.1, hsettled.2⟩

theorem final (h : Open o paths plugins s) {steps : List Step}
    (hsteps : ∀ step ∈ steps, step.isTranspiling = true) :
    Open o paths plugins (Session.final o.setup s steps) := by
  induction steps generalizing s with
  | nil => exact h
  | cons step steps ih =>
      simp only [List.mem_cons, forall_eq_or_imp] at hsteps
      exact ih (h.turn hsteps.1) hsteps.2

end Open

namespace Tabled

variable {o : Origin} {table : Table} {paths : PathRegistry} {plugins : PluginRegistry}

theorem decided_call (h : Tabled o table) {function : String} (arguments : List Value)
    {fetch : Option String} (hne : function ≠ Console.drainFunction)
    (hfetch : ∀ g, fetch = some g → g ≠ Console.drainFunction) :
    Decided o paths plugins (Gateway.call function arguments fetch) :=
  ⟨_, fun _ hs => h.outcome_call hs.coherent hne hfetch⟩

theorem decided_transpile (h : Tabled o table) (source : Value)
    (rootPath logicalPath : Option String) (themeId : Value) :
    Decided o paths plugins (Transpiler.transpile source rootPath logicalPath themeId) := by
  cases hb : Transpiler.buildRequest plugins o.settings.appRoot source rootPath logicalPath
      themeId with
  | error fault =>
      refine ⟨.error fault, ?_⟩
      intro s hs
      simp only [Transpiler.transpile, Job.exec_bind, Job.exec_get, Job.exec_ofExcept, hs.plugins,
        hs.coherent.sound.settings, hb]
  | ok r =>
      obtain ⟨result, hresult⟩ : Decided o paths plugins
          (Gateway.call "transpile" [.str r.source, r.options] none) :=
        h.decided_call _ (by decide) (by simp)
      refine ⟨result, ?_⟩
      intro s hs
      have hrequest : Transpiler.buildRequest s.plugins s.settings.appRoot source rootPath
          logicalPath themeId = .ok r := by
        rw [hs.plugins, hs.coherent.sound.settings, hb]
      rw [Transpiler.exec_transpile hrequest]
      exact hresult _ (hs.logged _)

theorem decided_process (h : Tabled o table) (a : Asset) :
    Decided o paths plugins a.process := by
  obtain ⟨result, hresult⟩ : Decided o paths plugins
      (Transpiler.transpile a.content (some a.loadPath) (some a.logicalPath) .null) :=
    h.decided_transpile a.content (some a.loadPath) (some a.logicalPath) .null
  cases hp : Path.shouldTranspile o.settings.appRoot paths a.filename with
  | true =>
      refine ⟨result.map (a.wrap o.settings), ?_⟩
      intro s hs
      have hexec := hresult s hs
      simp only [Asset.process, Job.exec_bind, Job.exec_get, hs.paths, hs.coherent.sound.settings,
        hp, if_true]
      rcases hr : (Transpiler.transpile a.content (some a.loadPath) (some a.logicalPath)
        .null).exec o.setup s with ⟨r, t⟩
      rw [hr] at hexec
      subst hexec
      cases r <;> rfl
  | false =>
      refine ⟨.ok (a.wrap o.settings a.content), ?_⟩
      intro s hs
      simp only [Asset.process, Job.exec_bind, Job.exec_get, hs.paths, hs.coherent.sound.settings,
        hp, Bool.false_eq_true, if_false, Job.exec_pure]

theorem decided_step (h : Tabled o table) {step : Step} (hstep : step.isTranspiling = true)
    (hreset : step.resets = false) : Decided o paths plugins step.perform := by
  cases step <;> simp [Step.isTranspiling, Step.resets] at hstep hreset
  case transpile source rootPath logicalPath themeId =>
    exact (h.decided_transpile source rootPath logicalPath themeId).map _
  case compileTemplate source themeId =>
    exact (h.decided_call _ (by decide) (by simp)).map _
  case minify tree options =>
    refine (h.decided_call _ (by decide) ?_).map _
    rintro g ⟨⟩
    decide
  case process asset => exact (h.decided_process asset).map _
  case advance milliseconds held =>
    -- The collector may run meanwhile, but it keeps what it raises to itself.
    refine ⟨.ok .nothing, ?_⟩
    intro s _
    have hsettle : ∀ t, ((Step.whileHeld held Context.settle).exec o.setup t).1 = .ok () := by
      intro t
      cases held with
      | true =>
          simp only [Step.whileHeld, if_true, Context.exec_withLock]
          exact Context.settle_ok _ _
      | false => exact Context.settle_ok _ _
    simp only [Step.perform, Context.advance, Job.exec_bind, Job.exec_update]
    rcases hr : (Step.whileHeld held Context.settle).exec o.setup
      { s with now := s.now + milliseconds } with ⟨r, t⟩
    have hok := hsettle { s with now := s.now + milliseconds }
    rw [hr] at hok
    cases hok
    rfl

def alone (o : Origin) (start : Service) (step : Step) : Except Fault Answer :=
  (Session.turn o.setup start step).1.outcome

def answers (o : Origin) (start : Service) (steps : List Step) : List (Except Fault Answer) :=
  (Session.turns o.setup start steps).map Turn.outcome

def answered (o : Origin) (start : Service) (steps : List Step) :
    List (Step × Except Fault Answer) :=
  (steps.zip (answers o start steps)).filter fun p => !p.1.resets

structure ReportsClose (o : Origin) (s : Service) (step : Step) (t : Turn) : Prop where
  step : step = .reset
  report : ∃ i f, t.events = [.close i] ∧ (o.setup.host.close s.history).result = .error f ∧
    t.outcome = .error (.raised f)

theorem exec_reset (setup : Setup) (s : Service) :
    (Gateway.reset.exec setup s).2.manager.pending = false ∧
      ((Gateway.reset.exec setup s).1 = .ok () ∨
        ∃ i f, (Gateway.reset.exec setup s).2.history = .close i :: s.history ∧
          (setup.host.close s.history).result = .error f ∧
          (Gateway.reset.exec setup s).1 = .error (.raised f)) := by
  rw [Gateway.reset, Context.exec_withLock, Context.exec_reset]
  cases s.manager.context with
  | none => exact ⟨rfl, .inl rfl⟩
  | some n =>
      by_cases hl : ({ s with manager := { s.manager with locked := true } } : Service).vacate.life?
          n = some .disposed
      · simp only [Engine.exec_dispose_of_disposed _ _ _ hl]
        exact ⟨rfl, .inl trivial⟩
      · simp only [Engine.exec_dispose _ _ _ hl, Engine.exec_close]
        show _ ∧ (_ ∨ ∃ i f, _ ∧ (setup.host.close s.history).result = .error f ∧ _)
        have hhistory : ((({ s with manager := { s.manager with locked := true } } :
            Service).vacate).setLife n .disposed).history = s.history := rfl
        rw [hhistory]
        cases hc : (setup.host.close s.history).result with
        | ok u => exact ⟨rfl, .inl rfl⟩
        | error f => exact ⟨rfl, .inr ⟨n, f, rfl, rfl, rfl⟩⟩

theorem turn_reset (o : Origin) (s : Service) :
    (Session.turn o.setup s .reset).1.outcome = .ok .nothing ∨
      ReportsClose o s .reset (Session.turn o.setup s .reset).1 := by
  obtain ⟨hpending, hreset⟩ := exec_reset o.setup s
  have hperform : (Step.perform .reset).exec o.setup s =
      (((Gateway.reset.exec o.setup s).1.map fun _ => Answer.nothing),
        (Gateway.reset.exec o.setup s).2) := by
    simp only [Step.perform, Job.exec_bind]
    rcases Gateway.reset.exec o.setup s with ⟨fault | u, t⟩ <;> rfl
  rw [Session.outcome_turn, hperform]
  rcases hreset with hok | ⟨i, f, hhistory, hclose, herror⟩
  · left
    rw [hok]
    rfl
  · right
    refine ⟨rfl, i, f, ?_, hclose, ?_⟩
    · rw [Session.events_turn, Session.state_turn, hperform,
        Context.exec_settle_of_not_pending _ _ hpending, hhistory, ← List.singleton_append,
        Session.added_append]
      rfl
    · rw [Session.outcome_turn, hperform, herror]
      rfl

theorem alone_reset (o : Origin) (paths : PathRegistry) (plugins : PluginRegistry) :
    alone o (o.opened paths plugins) .reset = .ok .nothing := by
  rw [alone, Session.outcome_turn]
  rfl

theorem turn_after (h : Tabled o table) {s : Service} (hs : Open o paths plugins s) {step : Step}
    (hstep : step.isTranspiling = true) :
    (Session.turn o.setup s step).1.outcome = alone o (o.opened paths plugins) step ∨
      ReportsClose o s step (Session.turn o.setup s step).1 := by
  cases hr : step.resets with
  | false =>
      obtain ⟨r, hdecided⟩ : Decided o paths plugins step.perform := h.decided_step hstep hr
      left
      rw [alone, Session.outcome_turn, Session.outcome_turn, hdecided s hs,
        hdecided _ (Open.opened o paths plugins)]
  | true =>
      cases step <;> simp [Step.isTranspiling, Step.resets] at hstep hr
      rw [alone_reset]
      exact turn_reset o s

theorem answered_cons (o : Origin) (s : Service) (step : Step) (steps : List Step) :
    answered o s (step :: steps) =
      (if step.resets then [] else [(step, (Session.turn o.setup s step).1.outcome)]) ++
        answered o (Session.turn o.setup s step).2 steps := by
  cases hr : step.resets <;> simp [answered, answers, Session.turns, hr]

theorem answered_eq (h : Tabled o table) {s : Service} (hs : Open o paths plugins s)
    {steps : List Step} (hsteps : ∀ step ∈ steps, step.isTranspiling = true) :
    answered o s steps =
      (steps.filter fun step => !step.resets).map fun step =>
        (step, alone o (o.opened paths plugins) step) := by
  induction steps generalizing s with
  | nil => rfl
  | cons step steps ih =>
      simp only [List.mem_cons, forall_eq_or_imp] at hsteps
      rw [answered_cons, ih (hs.turn hsteps.1) hsteps.2]
      cases hr : step.resets with
      | true => simp [hr]
      | false =>
          rcases h.turn_after hs hsteps.1 with ha | ha
          · simp [hr, ha]
          · rw [ha.step] at hr
            cases hr

theorem answers_eq (h : Tabled o table) (hclose : ∀ past, (o.setup.host.close past).result = .ok ())
    {s : Service} (hs : Open o paths plugins s) {steps : List Step}
    (hsteps : ∀ step ∈ steps, step.isTranspiling = true) :
    answers o s steps = steps.map (alone o (o.opened paths plugins)) := by
  induction steps generalizing s with
  | nil => rfl
  | cons step steps ih =>
      simp only [List.mem_cons, forall_eq_or_imp] at hsteps
      have hrest := ih (hs.turn hsteps.1) hsteps.2
      rcases h.turn_after hs hsteps.1 with ha | ha
      · simp only [answers, Session.turns, List.map_cons, ha] at hrest ⊢
        rw [hrest]
      · -- No close fails, so no reset has anything to report.
        obtain ⟨-, i, f, -, he, -⟩ := ha
        rw [hclose] at he
        cases he

/-- The answers of a session do not depend on what came before: each operation answers what it would
answer alone, except that a reset whose engine cannot be closed reports that. Another order of the
same operations gives the same answers in that order. -/
theorem history_independent (h : Tabled o table) (paths : PathRegistry) (plugins : PluginRegistry)
    {steps : List Step} (hsteps : ∀ step ∈ steps, step.isTranspiling = true) :
    (∀ before step after, steps = before ++ step :: after →
      ∃ ts t us, Session.turns o.setup (o.opened paths plugins) steps = ts ++ t :: us ∧
        ts.length = before.length ∧
        (t.outcome = alone o (o.opened paths plugins) step ∨
          ReportsClose o (Session.final o.setup (o.opened paths plugins) before) step t)) ∧
    (∀ steps' : List Step, steps'.Perm steps →
      (answered o (o.opened paths plugins) steps').Perm
        (answered o (o.opened paths plugins) steps)) ∧
    ((∀ past, (o.setup.host.close past).result = .ok ()) →
      answers o (o.opened paths plugins) steps =
        steps.map (alone o (o.opened paths plugins))) := by
  have hstart := Open.opened o paths plugins
  refine ⟨?_, ?_, fun hclose => h.answers_eq hclose hstart hsteps⟩
  · rintro before step after rfl
    have hbefore := hstart.final fun step hm => hsteps step (List.mem_append_left _ hm)
    refine ⟨_, _, _, Session.turns_append .., Session.length_turns .., ?_⟩
    exact h.turn_after hbefore (hsteps step (by simp))
  · intro steps' hperm
    rw [h.answered_eq hstart hsteps,
      h.answered_eq hstart fun step hm => hsteps step (hperm.mem_iff.mp hm)]
    exact (hperm.filter _).map _

def deskTable : Table := fun function _ =>
  if function = "transpile" then .error (.ofMessage (.engine .evaluation) "boom")
  else .ok (.str function)

def desk (close : Except Failure Unit) : Origin where
  setup :=
    { options := ⟨false, none, 15000, 0⟩
      host := { Host.quiet with
        call := fun _ function arguments => { result := deskTable function arguments }
        close := fun _ => { result := close }
        load := some fun _ _ => .ok (.str "") } }
  settings := { appRoot := "/" }
  files := []

theorem tabled_desk (close : Except Failure Unit) : Tabled (desk close) deskTable where
  call _ _ _ := rfl
  drains := ⟨by rintro past f ⟨⟩, by rintro past v ⟨⟩⟩
  constructs _ _ _ := rfl

def visits : List Step :=
  [.compileTemplate (.str "a") .null, .transpile (.str "b") none (some "app/b") .null, .reset,
    .compileTemplate (.str "a") .null]

theorem history_independent_visits :
    (∀ step ∈ visits, step.isTranspiling = true) ∧
      answers (desk (.ok ())) ((desk (.ok ())).opened .empty .empty) visits =
        [.ok (.value (.str "compileRawTemplate")),
          .error (.transpile ⟨"boom", some "py_mini_racer._exc.JSEvalException: boom\n",
            some (.ofMessage (.engine .evaluation) "boom")⟩),
          .ok .nothing, .ok (.value (.str "compileRawTemplate"))] := by
  have hsteps : ∀ step ∈ visits, step.isTranspiling = true := by
    simp [visits, Step.isTranspiling]
  obtain ⟨-, -, hanswers⟩ := (tabled_desk (.ok ())).history_independent .empty .empty hsteps
  refine ⟨hsteps, ?_⟩
  rw [hanswers fun _ => rfl]
  rfl

def unclosed : Failure := .ofMessage (.host .runtime) "close failed"

theorem reset_depends :
    Tabled (desk (.error unclosed)) deskTable ∧
      answers (desk (.error unclosed)) ((desk (.error unclosed)).opened .empty .empty)
          [.compileTemplate (.str "a") .null, .reset] =
        [.ok (.value (.str "compileRawTemplate")), .error (.raised unclosed)] ∧
      alone (desk (.error unclosed)) ((desk (.error unclosed)).opened .empty .empty) .reset =
        .ok .nothing :=
  ⟨tabled_desk _, rfl, rfl⟩

end Tabled
end AssetTranspiler
