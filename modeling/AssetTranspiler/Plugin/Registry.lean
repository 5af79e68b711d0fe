namespace AssetTranspiler

structure Plugin where
  name : String
  path : String
  deriving DecidableEq, Repr

structure PluginRegistry where
  plugins : List Plugin
  deriving DecidableEq, Repr

namespace PluginRegistry

def empty : PluginRegistry := ⟨[]⟩

def insert (p : Plugin) : List Plugin → List Plugin
  | [] => [p]
  | q :: qs => if q.name = p.name then p :: qs else q :: insert p qs

def register (r : PluginRegistry) (name path : String) : PluginRegistry :=
  ⟨insert ⟨name, path⟩ r.plugins⟩

def findByPath? (r : PluginRegistry) (path : String) : Option Plugin :=
  r.plugins.find? fun p => p.path == path

def size (r : PluginRegistry) : Nat :=
  r.plugins.length

def ofList (ps : List (String × String)) : PluginRegistry :=
  ps.foldl (fun r p => r.register p.1 p.2) empty

theorem names_insert_of_mem {p : Plugin} {ps : List Plugin} (h : p.name ∈ ps.map Plugin.name) :
    (insert p ps).map Plugin.name = ps.map Plugin.name := by
  induction ps with
  | nil => simp at h
  | cons q qs ih =>
      simp only [insert]
      split
      next hq => simp [hq]
      next hq =>
        have : p.name ∈ qs.map Plugin.name := by
          rcases List.mem_cons.mp h with h | h
          · exact absurd h.symm hq
          · exact h
        simp [ih this]

end PluginRegistry
end AssetTranspiler
