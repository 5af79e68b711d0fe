import AssetTranspiler.Proofs.Plugin.Registry
import AssetTranspiler.Proofs.Plugin.Site

namespace AssetTranspiler.ModuleName

open Text PluginRegistry

variable {base : List Char} {cs : List Change} {appRoot root name path : String}
  {rootPath : Option String}

def Belongs (cs : List Change) (base : List Char) (rootPath : Option String) (name : String) :
    Prop :=
  ∃ root ∈ rootPath, ∃ w : Site ('/' :: base ++ "/plugins/".toList) root.toList,
    w.IsInnermost ∧
      IsOwner (registrations cs) (String.ofList w.directory ++ "/plugin.rb") name

theorem belongs_iff (h : '\n' ∉ root.toList) :
    Belongs cs base (some root) name ↔
      ∃ d ∈ directory? ('/' :: base ++ "/plugins/".toList) root.toList,
        IsOwner (registrations cs) (String.ofList d ++ "/plugin.rb") name := by
  have hfinds : Finds ('/' :: base ++ "/plugins/".toList) root.toList _ := directory?_finds h
  constructor
  · rintro ⟨other, hroot, w, hw, howner⟩
    obtain rfl : root = other := Option.some.inj hroot
    exact ⟨_, hfinds.eq_some hw, howner⟩
  · rintro ⟨d, hd, howner⟩
    rw [Option.mem_def.mp hd] at hfinds
    obtain ⟨w, hw, rfl⟩ := hfinds.exists_innermost
    exact ⟨root, rfl, w, hw, howner⟩

theorem pluginsMarker_eq (h : IsLastComponent base path.toList) :
    pluginsMarker path.toList = '/' :: base ++ "/plugins/".toList := by
  obtain ⟨hne, hslash, outer, slashes, hpath, hslashes⟩ := h.position
  have hbase : baseName path.toList = base := by
    rw [← baseName_cons_slash, hpath, ← List.cons_append, ← List.append_assoc,
      baseName_append_slashes hslashes, baseName_append hne hslash]
  rw [pluginsMarker, hbase]

theorem manifest_path (directory : String) :
    directory ++ "/" ++ manifest = directory ++ "/plugin.rb" :=
  String.append_assoc

theorem owner?_of_belongs (happ : IsLastComponent base appRoot.toList)
    (hline : ∀ root ∈ rootPath, '\n' ∉ root.toList) (h : Belongs cs base rootPath name) :
    ∃ p, rootPath.bind (owner? (run cs) appRoot) = some p ∧ p.name = name := by
  obtain ⟨root, rfl, -⟩ := id h
  obtain ⟨d, hd, howner⟩ := (belongs_iff (hline root rfl)).mp h
  refine ⟨⟨name, String.ofList d ++ "/plugin.rb"⟩, ?_, rfl⟩
  rw [Option.bind_some, owner?, pluginsMarker_eq happ, Option.mem_def.mp hd, Option.bind_some,
    manifest_path, (holds_run cs).findByPath?_eq_some howner]

theorem owner?_of_not_belongs (happ : IsLastComponent base appRoot.toList)
    (hline : ∀ root ∈ rootPath, '\n' ∉ root.toList) (h : ∀ name, ¬ Belongs cs base rootPath name) :
    rootPath.bind (owner? (run cs) appRoot) = none := by
  cases rootPath with
  | none => rfl
  | some root =>
      rw [Option.bind_some, owner?, pluginsMarker_eq happ]
      cases hd : directory? ('/' :: base ++ "/plugins/".toList) root.toList with
      | none => rfl
      | some d =>
          rw [Option.bind_some, manifest_path]
          refine (holds_run cs).findByPath?_eq_none ?_
          intro name howner
          exact h name ((belongs_iff (hline root rfl)).mpr ⟨d, hd, howner⟩)

/-- Whatever was registered, a module below the innermost plugin directory of its root path is named
after the name whose latest registration has that directory's manifest, the first such name, and any
other module as ember-cli names it. The plugins are those of the registry that the caller brings, even
if it is empty, and without one those of the service. -/
theorem resolveFor_run (configured : String) (appRoot : Option String)
    (happ : IsLastComponent base (appRoot.getD configured).toList)
    (hline : ∀ root ∈ rootPath, '\n' ∉ root.toList) (shared : List Change)
    (injected : Option (List Change)) (path : String) :
    (∀ name, Belongs (injected.getD shared) base rootPath name →
      ∃ rest, WithoutFirst "javascripts/".toList path.toList rest ∧
        resolveFor (run shared) configured (injected.map run) appRoot rootPath (some path) =
          some ("discourse/plugins/" ++ name ++ "/" ++ String.ofList rest)) ∧
    ((∀ name, ¬ Belongs (injected.getD shared) base rootPath name) →
      resolveFor (run shared) configured (injected.map run) appRoot rootPath (some path) =
        some (emberCli path)) ∧
    (∀ cs, injected = some cs → registrations cs = [] →
      resolveFor (run shared) configured (injected.map run) appRoot rootPath (some path) =
        some (emberCli path)) := by
  have hplugins : (injected.map run).getD (run shared) = run (injected.getD shared) :=
    Option.getD_map _ _ _
  have hother : (∀ name, ¬ Belongs (injected.getD shared) base rootPath name) →
      resolveFor (run shared) configured (injected.map run) appRoot rootPath (some path) =
        some (emberCli path) := by
    intro h
    rw [resolveFor, resolve, hplugins, owner?_of_not_belongs happ hline h]
    rfl
  refine ⟨?_, hother, ?_⟩
  · intro name h
    obtain ⟨p, howner, rfl⟩ := owner?_of_belongs happ hline h
    refine ⟨_, withoutFirst_removeFirst (by decide) path.toList, ?_⟩
    rw [resolveFor, resolve, hplugins, howner]
    rfl
  · rintro cs rfl hempty
    apply hother
    rintro name ⟨root, -, w, -, howner⟩
    have hmem := howner.latest.mem
    rw [Option.getD_some, hempty] at hmem
    exact absurd hmem List.not_mem_nil

/-- Two plugins whose latest manifests are the same, and the first of them was moved there. -/
def moved : List Change :=
  [.register "poll" "/plugins/poll/plugin.rb", .clear, .register "chat" "/plugins/chat/plugin.rb",
    .register "talk" "/srv/forum/plugins/chat/plugin.rb",
    .register "chat" "/srv/forum/plugins/chat/plugin.rb"]

theorem isOwner_moved :
    IsOwner (registrations moved) "/srv/forum/plugins/chat/plugin.rb" "chat" where
  latest := ⟨[⟨"chat", "/plugins/chat/plugin.rb"⟩, ⟨"talk", "/srv/forum/plugins/chat/plugin.rb"⟩],
    [], rfl, by simp⟩
  first other _ := by
    have hplace : place (registrations moved) "chat" = 0 := by decide +kernel
    rw [hplace]
    exact Nat.zero_le _

theorem resolveFor_run_moved :
    (∃ rest, WithoutFirst "javascripts/".toList "javascripts/room".toList rest ∧
      resolveFor (run []) "/" (some (run moved)) (some "/srv/forum//")
        (some "/srv/forum/plugins/chat/assets") (some "javascripts/room") =
          some ("discourse/plugins/" ++ "chat" ++ "/" ++ String.ofList rest)) ∧
    resolveFor (run moved) "/srv/forum" none none
      (some "/srv/forum/plugins/chat/forum/plugins/a.b/assets") (some "app/room") =
        some (emberCli "app/room") ∧
    resolveFor (run moved) "/srv/forum" (some (run [.clear])) none
      (some "/srv/forum/plugins/chat/assets") (some "app/room") = some (emberCli "app/room") := by
  have hforum : IsLastComponent "forum".toList "/srv/forum".toList := by decide +kernel
  have hslashes : IsLastComponent "forum".toList "/srv/forum//".toList := by decide +kernel
  have hchat : '\n' ∉ "/srv/forum/plugins/chat/assets".toList := by decide
  have hinner : '\n' ∉ "/srv/forum/plugins/chat/forum/plugins/a.b/assets".toList := by decide
  have hbelongs : Belongs moved "forum".toList (some "/srv/forum/plugins/chat/assets") "chat" :=
    (belongs_iff hchat).mpr ⟨"/srv/forum/plugins/chat".toList, by decide +kernel, isOwner_moved⟩
  have hnot : ∀ name, ¬ Belongs moved "forum".toList
      (some "/srv/forum/plugins/chat/forum/plugins/a.b/assets") name := by
    intro name h
    obtain ⟨d, hd, howner⟩ := (belongs_iff hinner).mp h
    have hfound : directory? ('/' :: "forum".toList ++ "/plugins/".toList)
        "/srv/forum/plugins/chat/forum/plugins/a.b/assets".toList =
          some "/srv/forum/plugins/chat/forum/plugins/a.b".toList := by
      decide +kernel
    obtain rfl := Option.some.inj (hfound.symm.trans hd)
    have hmem : "/srv/forum/plugins/chat/forum/plugins/a.b/plugin.rb" ∈
        (registrations moved).map Plugin.path :=
      List.mem_map_of_mem howner.latest.mem
    exact absurd hmem (by decide)
  exact ⟨(resolveFor_run "/" (some "/srv/forum//") hslashes (by simp) [] (some moved)
      "javascripts/room").1 "chat" hbelongs,
    (resolveFor_run "/srv/forum" none hforum (by simp) moved none "app/room").2.1 hnot,
    (resolveFor_run "/srv/forum" none hforum (by simp) moved (some [.clear]) "app/room").2.2 _ rfl rfl⟩

end AssetTranspiler.ModuleName
