import AssetTranspiler.Asset
import AssetTranspiler.Proofs.Gateway.Outcome
import AssetTranspiler.Proofs.Path.Logical
import AssetTranspiler.Proofs.Plugin.ModuleName
import AssetTranspiler.Proofs.Transpiler

namespace AssetTranspiler

open Text

structure PluginScript where
  parent : String
  base : String
  directory : String
  path : String
  extension : String
  base_ne : base.toList ≠ []
  base_component : '/' ∉ base.toList
  root_line : '\n' ∉ (parent ++ "/" ++ base).toList
  root_outside : ¬ "/plugins/".toList <:+: (parent ++ "/" ++ base ++ "/").toList
  directory_ne : directory.toList ≠ []
  directory_name : ∀ c ∈ directory.toList, Path.isNameChar c = true
  path_js : ¬ ".js".toList <:+: path.toList
  path_es6 : ¬ ".es6".toList <:+: path.toList
  extension_mem : extension ∈ Path.extensions

namespace PluginScript

variable (p : PluginScript)

def appRoot : String :=
  p.parent ++ "/" ++ p.base

def plugin : String :=
  p.appRoot ++ "/plugins/" ++ p.directory

def manifest : String :=
  p.plugin ++ "/plugin.rb"

def root : String :=
  p.plugin ++ "/assets/javascripts"

def filename : String :=
  p.root ++ "/" ++ p.path ++ p.extension

def asset (data : Value) : Asset :=
  ⟨p.filename, p.root, data⟩

def moduleId (name : String) : String :=
  "discourse/plugins/" ++ name ++ "/" ++
    String.ofList (removeFirst "javascripts/".toList p.path.toList)

def url : String :=
  "plugins/" ++ p.directory ++ "/assets/javascripts/" ++ p.path

def request (name source : String) : Request where
  source := source
  skipModule := skipsModule source
  moduleId := some (p.moduleId name)
  filename := if p.path = "" then "unknown" else p.path

structure ServedBy (name : String) (s : Service) : Prop where
  appRoot : s.settings.appRoot = p.appRoot
  registered : ∃ before after, s.plugins.plugins = before ++ ⟨name, p.manifest⟩ :: after ∧
    ∀ q ∈ before, q.path ≠ p.manifest
  selected : Path.shouldTranspile p.appRoot s.paths p.filename = true

theorem slash_not_mem : '/' ∉ p.directory.toList := by
  intro h
  exact absurd (p.directory_name _ h) (by decide)

theorem newline_not_mem : '\n' ∉ p.directory.toList := by
  intro h
  exact absurd (p.directory_name _ h) (by decide)

theorem base_ne_plugins : p.base.toList ≠ "plugins".toList := by
  intro h
  refine p.root_outside ⟨p.parent.toList, [], ?_⟩
  simp [h]

theorem owner? {plugins : PluginRegistry} {name : String}
    (h : ∃ before after, plugins.plugins = before ++ ⟨name, p.manifest⟩ :: after ∧
      ∀ q ∈ before, q.path ≠ p.manifest) :
    ModuleName.owner? plugins p.appRoot p.root = some ⟨name, p.manifest⟩ := by
  have hline := p.root_line
  simp only [String.toList_append, List.mem_append, not_or] at hline
  have hdirectory := ModuleName.directory?_assets p.base_ne p.base_component hline.2
    p.base_ne_plugins p.directory_ne p.slash_not_mem p.newline_not_mem hline.1.1
  have happ : p.appRoot.toList = p.parent.toList ++ '/' :: p.base.toList := by
    simp [appRoot]
  have hroot : p.root.toList = p.parent.toList ++ ('/' :: p.base.toList ++ "/plugins/".toList) ++
      (p.directory.toList ++ "/assets/javascripts".toList) := by
    simp [root, plugin, appRoot]
  have hplugin : String.ofList (p.parent.toList ++
      ('/' :: p.base.toList ++ "/plugins/".toList) ++ p.directory.toList) = p.plugin := by
    rw [← String.toList_inj]
    simp [plugin, appRoot]
  have hmanifest : p.plugin ++ "/" ++ ModuleName.manifest = p.manifest := by
    rw [manifest, ModuleName.manifest, String.append_assoc]
    rfl
  obtain ⟨before, after, hplugins, hfirst⟩ := h
  rw [ModuleName.owner?, happ, hroot, hdirectory, Option.bind_some, hplugin, hmanifest,
    PluginRegistry.findByPath?, hplugins, List.find?_append,
    List.find?_eq_none.mpr (by simpa using hfirst), Option.none_or]
  simp

theorem logicalPath (data : Value) : (p.asset data).logicalPath = p.path := by
  have hne : p.root.toList ≠ [] := by
    simp [root]
  have hfile : p.filename.toList = p.root.toList ++ '/' :: p.path.toList ++ p.extension.toList := by
    simp [filename]
  have hlogical := Path.logicalChars_append hne p.extension_mem p.path_js p.path_es6
  rw [Asset.logicalPath, Path.logical, asset, hfile, hlogical, String.ofList_toList]

theorem sourceUrl : Path.sourceUrl p.root p.path = p.url := by
  have hname := Path.pluginAssetsAt?_name (r := "/javascripts".toList) p.directory_ne
    p.directory_name
  have hroot : p.root.toList = p.appRoot.toList ++ '/' :: ("plugins/".toList ++
      (p.directory.toList ++ "/assets".toList ++ "/javascripts".toList)) := by
    simp [root, plugin]
  have hplugin : Path.pluginAssets? p.root.toList = some p.directory.toList := by
    rw [hroot, Path.pluginAssets?_append (by simpa [appRoot] using p.root_outside)]
    show (Path.pluginAssetsAt? ("/plugins/".toList ++ _)).or _ = _
    rw [hname, Option.some_or]
  simp only [Path.sourceUrl, hplugin, String.ofList_toList]
  rfl

theorem resolve {plugins : PluginRegistry} {name : String}
    (h : ∃ before after, plugins.plugins = before ++ ⟨name, p.manifest⟩ :: after ∧
      ∀ q ∈ before, q.path ≠ p.manifest) :
    ModuleName.resolve plugins p.appRoot (some p.root) (some p.path) =
      some (p.moduleId name) := by
  rw [ModuleName.resolve, Option.map_some, Option.bind_some, p.owner? h]
  rfl

theorem buildRequest {name : String} {s : Service} (h : p.ServedBy name s) (source : String) :
    Transpiler.buildRequest s.plugins s.settings.appRoot (.str source) (some p.root)
      (some p.path) .null = .ok (p.request name source) := by
  have hname : Bundle.orElse (some p.path) "unknown" =
      if p.path = "" then "unknown" else p.path := by
    simp [Bundle.orElse]
  rw [Transpiler.buildRequest_text, h.appRoot, p.resolve h.registered, hname]
  rfl

theorem isWrapped {name : String} {s : Service} (h : p.ServedBy name s) (data : Value) :
    (p.asset data).isWrapped s.settings = !s.settings.isProduction := by
  have hember : Path.isEmberCli p.filename = false := by
    cases he : Path.isEmberCli p.filename with
    | false => rfl
    | true =>
        have hs := h.selected
        rw [Path.shouldTranspile_of_isEmberCli he] at hs
        cases hs
  rw [Asset.isWrapped, asset, hember, Bool.not_false, Bool.and_true]

theorem exec_process {setup : Setup} {name source : String} {s : Service} {data : Value}
    (h : p.ServedBy name s) (hdata : (p.asset data).content = .str source) :
    (p.asset data).process.exec setup s =
      ((p.asset data).wrap s.settings <$>
        Gateway.call "transpile" [.str source, (p.request name source).options]).exec setup
        { s with log := Transpiler.announcement (p.request name source) :: s.log } := by
  have hselected :
      Path.shouldTranspile s.settings.appRoot s.paths (p.asset data).filename = true := by
    rw [h.appRoot]
    exact h.selected
  have hcall : (Transpiler.transpile (.str source) (some (p.asset data).loadPath)
      (some p.path) .null).exec setup s =
      (Gateway.call "transpile" [.str source, (p.request name source).options]).exec setup
        { s with log := Transpiler.announcement (p.request name source) :: s.log } :=
    Transpiler.exec_transpile (r := p.request name source) (p.buildRequest h source)
  simp only [Asset.process, Job.exec_bind, Job.exec_get, hselected, if_true, hdata, p.logicalPath,
    hcall, Job.exec_map]
  rcases (Gateway.call "transpile" [.str source, (p.request name source).options]).exec setup
    { s with log := Transpiler.announcement (p.request name source) :: s.log } with ⟨fault | v, t⟩
    <;> rfl

theorem options_request (name source : String) :
    ∃ options, (p.request name source).options = .dict options ∧
      options.lookup "filename" = some (.str (if p.path = "" then "unknown" else p.path)) ∧
      options.lookup "moduleId" = some (.str (p.moduleId name)) :=
  ⟨_, rfl, rfl, rfl⟩

def emoji : PluginScript where
  parent := "/srv"
  base := "app"
  directory := "d-chat"
  path := "javascripts/lib/emoji"
  extension := ".es6.erb"
  base_ne := by decide
  base_component := by decide
  root_line := by decide +kernel
  root_outside := by decide +kernel
  directory_ne := by decide
  directory_name := List.all_eq_true.mp (by decide +kernel)
  path_js := by decide +kernel
  path_es6 := by decide +kernel
  extension_mem := by decide

def defining : Setup where
  options := ⟨false, none, 15000, 0⟩
  host := { Host.quiet with
    call := fun _ _ _ => { result := .ok (.str "define();") }
    load := some fun _ _ => .ok (.str "") }

def chatting : Service where
  settings := { appRoot := "/srv/app" }
  plugins := ⟨[⟨"poll", "/srv/app/plugins/poll/plugin.rb"⟩,
    ⟨"chat", "/srv/app/plugins/d-chat/plugin.rb"⟩]⟩

theorem servedBy_chatting : emoji.ServedBy "chat" chatting where
  appRoot := by decide +kernel
  registered := ⟨[⟨"poll", "/srv/app/plugins/poll/plugin.rb"⟩], [], by decide +kernel,
    by decide +kernel⟩
  selected := by decide +kernel

end PluginScript
end AssetTranspiler
