import AssetTranspiler.Proofs.Context.Breakdown
import AssetTranspiler.Proofs.Context.Construction

/-!
Attempts to make a context with the service's own builder and loader. The bundle is built first, if the
manager rebuilds it; then an engine is created, its console is evaluated, and one file is read, the
one that the build tool was told to write.
-/

namespace AssetTranspiler

open Trace

namespace Bundle

def output (setup : Setup) (settings : Settings) : String :=
  orElse setup.options.processorPath settings.bundlePath

def file (settings : Settings) (path : String) : String :=
  if path.toList.head? = some '/' then path else Files.join settings.appRoot path

theorem join_appRoot (settings : Settings) (path : String) :
    Files.join settings.appRoot path = file settings path := by
  rw [file]
  split
  next h => simp [Files.join, h]
  next => rfl

theorem orElse_orElse (path : Option String) (other : String) :
    orElse (some (orElse path other)) other = orElse path other := by
  cases path with
  | none => simp [orElse]
  | some p => cases hp : p.isEmpty <;> simp [orElse, hp]

theorem getLast?_command {settings : Settings} {path : String} {words : List String}
    (h : command settings path = .ok words) : words.getLast? = some ("--outfile=" ++ path) := by
  rw [command] at h
  cases hw : Command.words settings.buildCommand with
  | error p => simp [hw, Except.map] at h
  | ok ws =>
      simp only [hw, Except.map, Except.ok.injEq] at h
      simp [← h]

theorem read_write_self (fs : Files) (path : String) (written : File) :
    (fs.write path written).read path = Files.read [(path, written)] path := by
  simp [Files.read, Files.write, Files.find?]

end Bundle

/-- What becomes of the bundle before there is an engine: whether there is one to be read, the files,
and the requests so far. -/
inductive Building (setup : Setup) (settings : Settings) (fs : Files) (past : History) :
    Bool → Files → History → Prop
  | kept : setup.options.rebuild = false → Building setup settings fs past true fs past
  | built {words : List String} {written : File} {notes : String} :
      setup.options.rebuild = true →
      Bundle.command settings (Bundle.output setup settings) = .ok words →
      words.getLast? = some ("--outfile=" ++ Bundle.output setup settings) →
      setup.host.run past words = .ok (.succeeded written notes) →
      Building setup settings fs past true
        (fs.write (Bundle.file settings (Bundle.output setup settings)) written)
        (.run words settings.appRoot :: past)
  | unparsable {problem : Command.Problem} :
      setup.options.rebuild = true →
      Bundle.command settings (Bundle.output setup settings) = .error problem →
      Building setup settings fs past false fs past
  | failed {words : List String} :
      setup.options.rebuild = true →
      Bundle.command settings (Bundle.output setup settings) = .ok words →
      words.getLast? = some ("--outfile=" ++ Bundle.output setup settings) →
      (∀ written notes, setup.host.run past words ≠ .ok (.succeeded written notes)) →
      Building setup settings fs past false fs (.run words settings.appRoot :: past)

def Setup.consoleEvent (setup : Setup) (n : Nat) : Event :=
  .evaluate n Console.shim setup.options.timeout

def Setup.bundleEvent (setup : Setup) (n : Nat) (text : String) : Event :=
  .evaluate n (bundleScript text) setup.options.timeout

inductive Discarded (n : Nat) (past : History) : History → Prop
  | left : Discarded n past past
  | closed : Discarded n past (.close n :: past)

/-- What becomes of an engine into which the bundle is loaded from a file: whether all has succeeded,
and the requests so far. No request is made unless those before it have succeeded. -/
inductive Loading (setup : Setup) (n : Nat) (file : String) (fs : Files) (past : History) :
    Bool → History → Prop
  | uncreated : setup.host.returns past (.create n) = false →
      Loading setup n file fs past false (.create n :: past)
  | mute {h : History} : setup.host.returns past (.create n) = true →
      setup.host.returns (.create n :: past) (setup.consoleEvent n) = false →
      Discarded n (setup.consoleEvent n :: .create n :: past) h →
      Loading setup n file fs past false h
  | unread {problem : FileProblem} {h : History} :
      setup.host.returns past (.create n) = true →
      setup.host.returns (.create n :: past) (setup.consoleEvent n) = true →
      fs.read file = .error problem →
      Discarded n (.openFile file :: setup.consoleEvent n :: .create n :: past) h →
      Loading setup n file fs past false h
  | broken {text : String} {h : History} :
      setup.host.returns past (.create n) = true →
      setup.host.returns (.create n :: past) (setup.consoleEvent n) = true →
      fs.read file = .ok text →
      setup.host.returns (.openFile file :: setup.consoleEvent n :: .create n :: past)
        (setup.bundleEvent n text) = false →
      Discarded n (setup.bundleEvent n text :: .openFile file :: setup.consoleEvent n ::
        .create n :: past) h →
      Loading setup n file fs past false h
  | loaded {text : String} :
      setup.host.returns past (.create n) = true →
      setup.host.returns (.create n :: past) (setup.consoleEvent n) = true →
      fs.read file = .ok text →
      setup.host.returns (.openFile file :: setup.consoleEvent n :: .create n :: past)
        (setup.bundleEvent n text) = true →
      Loading setup n file fs past true
        (setup.bundleEvent n text :: .openFile file :: setup.consoleEvent n :: .create n :: past)

/-- A whole attempt: the bundle, and then the engine `n`, which is created only if there is a bundle to
be read. -/
inductive Attempt (setup : Setup) (settings : Settings) (n : Nat) (fs : Files) (past : History) :
    Bool → Files → History → Prop
  | unbuilt {gs : Files} {h : History} : Building setup settings fs past false gs h →
      Attempt setup settings n fs past false gs h
  | equipped {gs : Files} {g h : History} {made : Bool} : Building setup settings fs past true gs g →
      Loading setup n (Bundle.file settings (Bundle.output setup settings)) gs g made h →
      Attempt setup settings n fs past made gs h

theorem Attempt.rebuilt {setup : Setup} {settings : Settings} {n : Nat} {fs gs : Files}
    {past h : History} (ha : Attempt setup settings n fs past true gs h)
    (hr : setup.options.rebuild = true) :
    ∃ words written notes text,
      setup.host.run past words = .ok (.succeeded written notes) ∧
      Files.read [(Bundle.file settings (Bundle.output setup settings), written)]
        (Bundle.file settings (Bundle.output setup settings)) = .ok text ∧
      h = setup.bundleEvent n text ::
        .openFile (Bundle.file settings (Bundle.output setup settings)) ::
        setup.consoleEvent n :: .create n :: .run words settings.appRoot :: past := by
  cases ha with
  | equipped hb hl =>
      cases hb with
      | kept hk => simp [hk] at hr
      | built _ _ _ hrun =>
          cases hl with
          | loaded _ _ hread _ =>
              rw [Bundle.read_write_self] at hread
              exact ⟨_, _, _, _, hrun, hread, rfl⟩

theorem Context.exec_loadBundle {setup : Setup} (hl : setup.host.load = none) (path : String)
    (s : Service) :
    (loadBundle (.str path)).exec setup s =
      ((s.files.read (Bundle.file s.settings path)).mapError .file,
        s.ask (.openFile (Bundle.file s.settings path))) := by
  rw [← Bundle.join_appRoot]
  simp only [loadBundle, hl, Bundle.read, Bundle.orElse, Job.exec_bind, Job.exec_read,
    Job.exec_get, Job.exec_request, Job.exec_ofExcept, Service.ask]

/-- The state after a request which has succeeded or failed. The settings and the files are those that
were there before it, after the requests in `past`. -/
structure Requested (setup : Setup) (settings : Settings) (fs : Files) (past : History) (e : Event)
    (ok : Bool) (t : Service) : Prop where
  returns : setup.host.returns past e = ok
  history : t.history = e :: past
  files : t.files = fs
  settings : t.settings = settings

namespace Requested

variable {setup : Setup} {settings : Settings} {fs : Files} {past : History} {e : Event} {ok : Bool}
  {s t : Service} {n : Nat}

theorem create {r : Except Fault Nat} (h : Engine.create.exec setup s = (r, t)) :
    Requested setup s.settings s.files s.history (.create s.engines.length) r.isOk t ∧
      ∀ i, r = .ok i → i = s.engines.length := by
  have ha := Engine.added_create setup s
  have ho := Engine.outcome_create setup s
  rw [h] at ha ho
  refine ⟨⟨?_, ha.history, ha.files, ha.settings⟩, ?_⟩
  · rw [Engine.returns_create, h]
  · rintro i rfl
    cases hr : (setup.host.create s.history).result with
    | error f => simp [hr, Except.map] at ho
    | ok u => simpa [hr, Except.map] using ho

theorem evaluate (hs : Requested setup settings fs past e ok s) {code : String}
    {r : Except Fault Value} (h : (Engine.evaluate n code).exec setup s = (r, t)) :
    Requested setup settings fs (e :: past) (.evaluate n code setup.options.timeout) r.isOk t := by
  have ha := Engine.asked_evaluate setup s n code
  rw [h] at ha
  refine ⟨?_, by rw [ha.history, hs.history], ha.files.trans hs.files,
    ha.settings.trans hs.settings⟩
  rw [← hs.history, Engine.returns_evaluate, h]

theorem load (hs : Requested setup settings fs past e ok s) (hl : setup.host.load = none)
    {path : String} {r : Except Fault String}
    (h : (Context.loadBundle (.str path)).exec setup s = (r, t)) :
    Requested setup settings fs (e :: past) (.openFile (Bundle.file settings path)) true t ∧
      (∀ text, r = .ok text → fs.read (Bundle.file settings path) = .ok text) ∧
      ∀ fault, r = .error fault →
        ∃ problem, fs.read (Bundle.file settings path) = .error problem := by
  rw [Context.exec_loadBundle hl, hs.files, hs.settings] at h
  obtain ⟨rfl, rfl⟩ := Prod.mk.inj h
  refine ⟨⟨rfl, congrArg _ hs.history, hs.files, hs.settings⟩, ?_⟩
  cases fs.read (Bundle.file settings path) <;> simp

end Requested

namespace Context

variable {setup : Setup} {s t : Service}

structure Prepared (setup : Setup) (s : Service) (r : Except Fault Value) (t : Service) : Prop where
  building : Building setup s.settings s.files s.history r.isOk t.files t.history
  path : ∀ v, r = .ok v → v = .str (Bundle.output setup s.settings)
  settings : t.settings = s.settings
  engines : t.engines = s.engines

theorem prepared_of_rebuild (hb : setup.host.build = none) (hr : setup.options.rebuild = true)
    (s : Service) : Prepared setup s (prepare.exec setup s).1 (prepare.exec setup s).2 := by
  -- the build falls back on the path that the manager has already fallen back on
  have hout : Bundle.orElse (some (Bundle.output setup s.settings)) s.settings.bundlePath =
      Bundle.output setup s.settings := Bundle.orElse_orElse _ _
  have hprepare : prepare.exec setup s =
      ((Value.str <$> Bundle.build (some (Bundle.output setup s.settings)) none).exec setup s) := by
    simp only [prepare, bundlePath, buildBundle, Job.exec_bind, Job.exec_map, Job.exec_read,
      Job.exec_get, Job.exec_pure, hr, hb, if_true, Bundle.output]
    generalize (Bundle.build _ _).exec setup s = x
    rcases x with ⟨f | p, t⟩ <;> rfl
  rw [hprepare]
  simp only [Bundle.build, Job.exec_bind, Job.exec_map, Job.exec_get, Job.exec_ofExcept, hout]
  cases hc : Bundle.command s.settings (Bundle.output setup s.settings) with
  | error problem => exact ⟨.unparsable hr hc, by simp [Except.map], rfl, rfl⟩
  | ok words =>
      have hlast := Bundle.getLast?_command hc
      simp only [Job.mapError_ok, Job.exec_log, Job.exec_request]
      rcases hrun : setup.host.run s.history words with f | ⟨written, notes⟩ | ⟨exit, notes⟩
      · exact ⟨.failed hr hc hlast (by simp [hrun]), by simp [Except.map], rfl, rfl⟩
      · have hbuilt : Building setup s.settings s.files s.history true _ _ :=
          .built hr hc hlast hrun
        rw [← Bundle.join_appRoot] at hbuilt
        simp only [Job.exec_bind, Job.exec_update]
        cases notes.isEmpty with
        | true => exact ⟨hbuilt, by simp [Except.map], rfl, rfl⟩
        | false => exact ⟨hbuilt, by simp [Job.exec_map, Except.map], rfl, rfl⟩
      · exact ⟨.failed hr hc hlast (by simp [hrun]), by simp [Job.exec_bind, Except.map], rfl, rfl⟩

theorem prepared (hb : setup.host.build = none) (s : Service) :
    Prepared setup s (prepare.exec setup s).1 (prepare.exec setup s).2 := by
  cases hr : setup.options.rebuild with
  | true => exact prepared_of_rebuild hb hr s
  | false =>
      have hprepare : prepare.exec setup s = (.ok (.str (Bundle.output setup s.settings)), s) := by
        simp [prepare, bundlePath, Job.exec_bind, hr, Bundle.output]
      rw [hprepare]
      exact ⟨.kept hr, by simp, rfl, rfl⟩

theorem discarded_dispose (setup : Setup) (i : Nat) (s : Service) :
    Discarded i s.history ((Engine.dispose i).exec setup s).2.history ∧
      ((Engine.dispose i).exec setup s).2.files = s.files ∧
      ((Engine.dispose i).exec setup s).2.settings = s.settings := by
  by_cases h : s.life? i = some .disposed
  · rw [Engine.exec_dispose_of_disposed setup s i h]
    exact ⟨.left, rfl, rfl⟩
  · rw [Engine.exec_dispose setup s i h, Engine.exec_close]
    exact ⟨.closed, rfl, rfl⟩

theorem discarded_cleanUp (setup : Setup) (fault : Fault) (i : Nat) (s : Service) :
    Discarded i s.history (cleanUp setup fault s (some i)).2.history ∧
      (cleanUp setup fault s (some i)).2.files = s.files := by
  obtain ⟨hclosed, hfiles, -⟩ := discarded_dispose setup i s
  rw [cleanUp]
  split
  · exact ⟨.left, rfl⟩
  · rcases hd : (Engine.dispose i).exec setup s with ⟨masking | u, t⟩ <;>
      rw [hd] at hclosed hfiles <;> exact ⟨hclosed, hfiles⟩

theorem building_of_create (hb : setup.host.build = none) {path : Value} {r : Except Fault Nat}
    {u : Service} (hp : prepare.exec setup s = (.ok path, t))
    (hc : Engine.create.exec setup t = (r, u)) :
    Building setup s.settings s.files s.history true t.files t.history ∧
      path = .str (Bundle.output setup s.settings) ∧
      Requested setup s.settings t.files t.history (.create s.engines.length) r.isOk u ∧
      ∀ i, r = .ok i → i = s.engines.length := by
  have hprepared := prepared hb s
  rw [hp] at hprepared
  have hcreated := Requested.create hc
  rw [hprepared.settings, hprepared.engines] at hcreated
  exact ⟨hprepared.building, hprepared.path path rfl, hcreated⟩

theorem attempt_of_breakdown (hb : setup.host.build = none) (hl : setup.host.load = none)
    {engine : Option Nat} {fault : Fault} (h : Breakdown setup s engine fault t) :
    Attempt setup s.settings s.engines.length s.files s.history false
      (cleanUp setup fault t engine).2.files (cleanUp setup fault t engine).2.history := by
  -- a case for each stage at which it may break down: those before it have succeeded
  cases h with
  | build hp =>
      have hprepared := prepared hb s
      rw [hp] at hprepared
      exact .unbuilt hprepared.building
  | create hp hc =>
      obtain ⟨hbuilding, -, hcreated, -⟩ := building_of_create hb hp hc
      rw [cleanUp, hcreated.files, hcreated.history]
      exact .equipped hbuilding (.uncreated hcreated.returns)
  | console hp hc he =>
      obtain ⟨hbuilding, -, hcreated, hi⟩ := building_of_create hb hp hc
      obtain rfl := hi _ rfl
      have hconsole := hcreated.evaluate he
      obtain ⟨ha, hf⟩ := discarded_cleanUp setup fault s.engines.length t
      rw [hf, hconsole.files]
      rw [hconsole.history] at ha
      exact .equipped hbuilding (.mute hcreated.returns hconsole.returns ha)
  | load hp hc he hload =>
      obtain ⟨hbuilding, rfl, hcreated, hi⟩ := building_of_create hb hp hc
      obtain rfl := hi _ rfl
      have hconsole := hcreated.evaluate he
      obtain ⟨hopened, -, hunread⟩ := hconsole.load hl hload
      obtain ⟨problem, hread⟩ := hunread _ rfl
      obtain ⟨ha, hf⟩ := discarded_cleanUp setup fault s.engines.length t
      rw [hf, hopened.files]
      rw [hopened.history] at ha
      exact .equipped hbuilding (.unread hcreated.returns hconsole.returns hread ha)
  | bundle hp hc he hload hbundle =>
      obtain ⟨hbuilding, rfl, hcreated, hi⟩ := building_of_create hb hp hc
      obtain rfl := hi _ rfl
      have hconsole := hcreated.evaluate he
      obtain ⟨hopened, hread, -⟩ := hconsole.load hl hload
      have hloaded := hopened.evaluate hbundle
      rw [Sound.named_bundleName] at hloaded
      obtain ⟨ha, hf⟩ := discarded_cleanUp setup fault s.engines.length t
      rw [hf, hloaded.files]
      rw [hloaded.history] at ha
      exact .equipped hbuilding
        (.broken hcreated.returns hconsole.returns (hread _ rfl) hloaded.returns ha)

theorem exists_stages {n : Nat} (h : construct.exec setup s = (.ok n, t)) :
    ∃ path value code value' u v w x y, prepare.exec setup s = (.ok path, u) ∧
      Engine.create.exec setup u = (.ok n, v) ∧
      (Engine.evaluate n Console.shim).exec setup v = (.ok value, w) ∧
      (loadBundle path).exec setup w = (.ok code, x) ∧
      (Engine.evaluate n (Engine.named code (some bundleName))).exec setup x = (.ok value', y) ∧
      t = y.setLife n .ready := by
  rw [exec_construct] at h
  rcases hp : prepare.exec setup s with ⟨fault | path, u⟩ <;> simp only [hp] at h
  · cases h
  rcases hc : Engine.create.exec setup u with ⟨fault | i, v⟩ <;> simp only [hc] at h
  · cases h
  have hequip := exec_equip setup v i path
  rcases hx : (equip i path).exec setup v with ⟨fault | done, y⟩ <;> rw [hx] at hequip <;>
    simp only [hx] at h
  · split at h
    · cases h
    · generalize (Engine.dispose i).exec setup y = z at h
      rcases z with ⟨masking | done, z⟩ <;> cases h
  obtain ⟨rfl, rfl⟩ := by simpa using h
  rcases he : (Engine.evaluate i Console.shim).exec setup v with ⟨fault | value, w⟩ <;>
    simp only [he] at hequip
  · cases hequip
  rcases hl : (loadBundle path).exec setup w with ⟨fault | code, x⟩ <;> simp only [hl] at hequip
  · cases hequip
  rcases hb : (Engine.evaluate i (Engine.named code (some bundleName))).exec setup x with
    ⟨fault | value', y'⟩ <;> simp only [hb] at hequip
  · cases hequip
  obtain ⟨-, rfl⟩ := by simpa using hequip
  exact ⟨path, value, code, value', u, v, w, x, y, rfl, hc, he, hl, hb, rfl⟩

theorem attempt_of_made (hb : setup.host.build = none) (hl : setup.host.load = none) {n : Nat}
    (h : construct.exec setup s = (.ok n, t)) :
    Attempt setup s.settings s.engines.length s.files s.history true t.files t.history := by
  obtain ⟨_, _, _, _, _, _, _, _, y, hp, hc, he, hload, hbundle, rfl⟩ := exists_stages h
  obtain ⟨hbuilding, rfl, hcreated, hi⟩ := building_of_create hb hp hc
  obtain rfl := hi _ rfl
  have hconsole := hcreated.evaluate he
  obtain ⟨hopened, hread, -⟩ := hconsole.load hl hload
  have hloaded := hopened.evaluate hbundle
  rw [Sound.named_bundleName] at hloaded
  rw [Service.history_setLife, hloaded.history]
  have hfiles : (y.setLife s.engines.length .ready).files = _ := hloaded.files
  rw [hfiles]
  exact .equipped hbuilding
    (.loaded hcreated.returns hconsole.returns (hread _ rfl) hloaded.returns)

theorem attempt_construct (hb : setup.host.build = none) (hl : setup.host.load = none)
    (s : Service) :
    Attempt setup s.settings s.engines.length s.files s.history (construct.exec setup s).1.isOk
      (construct.exec setup s).2.files (construct.exec setup s).2.history := by
  rcases h : construct.exec setup s with ⟨fault | n, t⟩
  · obtain ⟨engine, cause, u, hbreakdown⟩ := exists_breakdown h
    obtain ⟨-, rfl⟩ := Prod.mk.inj (h.symm.trans (exec_construct_of_breakdown hbreakdown))
    exact attempt_of_breakdown hb hl hbreakdown
  · exact attempt_of_made hb hl h

theorem attempt_getOrCreate (hb : setup.host.build = none) (hl : setup.host.load = none)
    (hu : s.manager.usable? = none) :
    Attempt setup s.settings s.engines.length s.files s.history (getOrCreate.exec setup s).1.isOk
      (getOrCreate.exec setup s).2.files (getOrCreate.exec setup s).2.history := by
  have ha := attempt_construct hb hl (s.enter .initializing)
  rw [exec_getOrCreate setup s hu]
  -- what is published or logged after the attempt is no request
  rcases h : construct.exec setup (s.enter .initializing) with ⟨fault | n, t⟩ <;> rw [h] at ha
  · have hfiles : (t.renounce fault).files = t.files := by
      rw [Service.renounce]
      split <;> rfl
    simp only [Service.history_renounce, hfiles]
    exact ha
  · exact ha

end Context

end AssetTranspiler
