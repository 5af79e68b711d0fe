import AssetTranspiler.Path.Registry
import Mathlib.Data.List.Dedup
import Mathlib.Data.List.Basic

namespace AssetTranspiler.PathRegistry

variable {r : PathRegistry} {p q : String} {initial : List String}

theorem contains_iff : r.contains p = true ↔ p ∈ r.prefixes := by
  simp [contains]

theorem nodup_register (h : r.prefixes.Nodup) : (r.register p).prefixes.Nodup := by
  unfold register
  split
  next => exact h
  next hp =>
    rw [contains_iff] at hp
    exact List.nodup_append.mpr ⟨h, List.nodup_singleton p, by
      rintro a ha b hb rfl
      exact hp (List.mem_singleton.mp hb ▸ ha)⟩

theorem nodup_foldl_register (h : r.prefixes.Nodup) (ps : List String) :
    (ps.foldl register r).prefixes.Nodup := by
  induction ps generalizing r with
  | nil => exact h
  | cons p ps ih => exact ih (nodup_register h)

theorem mem_foldl_register (ps : List String) :
    q ∈ (ps.foldl register r).prefixes ↔ q ∈ r.prefixes ∨ q ∈ ps := by
  induction ps generalizing r with
  | nil => simp
  | cons p ps ih => rw [List.foldl_cons, ih, mem_register, List.mem_cons, or_assoc]

inductive Action where
  | register (path : String)
  | snapshot
  deriving DecidableEq, Repr

def registered : List Action → List String
  | [] => []
  | .register p :: as => p :: registered as
  | .snapshot :: as => registered as

def snapshots : List Action → Nat
  | [] => 0
  | .register _ :: as => snapshots as
  | .snapshot :: as => snapshots as + 1

theorem registered_append (as bs : List Action) :
    registered (as ++ bs) = registered as ++ registered bs := by
  induction as with
  | nil => rfl
  | cons a as ih => cases a <;> simp [registered, ih]

structure Journal where
  registry : PathRegistry
  taken : List (List String)

namespace Journal

def perform (j : Journal) : Action → Journal
  | .register p => { j with registry := j.registry.register p }
  | .snapshot => { j with taken := j.taken ++ [j.registry.sorted] }

def run (initial : List String) (as : List Action) : Journal :=
  as.foldl perform ⟨ofList initial, []⟩

variable {j : Journal} {as later : List Action}

theorem taken_perform (j : Journal) (a : Action) : j.taken <+: (j.perform a).taken := by
  cases a with
  | register p => exact List.prefix_rfl
  | snapshot => exact List.prefix_append _ _

theorem taken_foldl (j : Journal) (as : List Action) :
    j.taken <+: (as.foldl perform j).taken := by
  induction as generalizing j with
  | nil => exact List.prefix_rfl
  | cons a as ih => exact (taken_perform j a).trans (ih (j.perform a))

theorem registry_foldl (j : Journal) (as : List Action) :
    (as.foldl perform j).registry = (registered as).foldl register j.registry := by
  induction as generalizing j with
  | nil => rfl
  | cons a as ih => cases a <;> exact ih _

theorem length_taken_foldl (j : Journal) (as : List Action) :
    (as.foldl perform j).taken.length = j.taken.length + snapshots as := by
  induction as generalizing j with
  | nil => rfl
  | cons a as ih =>
      rw [List.foldl_cons, ih]
      cases a with
      | register p => rfl
      | snapshot =>
          simp only [perform, snapshots, List.length_append, List.length_singleton]
          omega

theorem run_append (initial : List String) (as later : List Action) :
    run initial (as ++ later) = later.foldl perform (run initial as) := by
  rw [run, List.foldl_append, run]

theorem nodup_run (initial : List String) (as : List Action) :
    (run initial as).registry.prefixes.Nodup := by
  rw [run, registry_foldl]
  exact nodup_foldl_register (nodup_foldl_register List.nodup_nil initial) _

theorem mem_run : p ∈ (run initial as).registry.prefixes ↔ p ∈ initial ∨ p ∈ registered as := by
  rw [run, registry_foldl, mem_foldl_register, ofList, mem_foldl_register]
  simp [empty]

theorem size_run (initial : List String) (as : List Action) :
    (run initial as).registry.size = (initial ++ registered as).dedup.length := by
  refine List.Perm.length_eq ((List.perm_ext_iff_of_nodup (nodup_run initial as)
    (List.nodup_dedup _)).mpr ?_)
  intro p
  rw [mem_run, List.mem_dedup, List.mem_append]

/-- Whatever is done later, a snapshot holds what the registry held when it was taken. -/
theorem taken_run (initial : List String) (as later : List Action) :
    (run initial (as ++ .snapshot :: later)).taken[snapshots as]? =
      some (run initial as).registry.sorted := by
  have hlength : (run initial as).taken.length = snapshots as := by
    rw [run, length_taken_foldl]
    exact Nat.zero_add _
  have hgrown := taken_foldl ((run initial as).perform .snapshot) later
  obtain ⟨rest, hrest⟩ := hgrown
  rw [run_append, List.foldl_cons, ← hrest]
  simp [perform, ← hlength]

theorem mem_sorted : p ∈ r.sorted ↔ p ∈ r.prefixes :=
  List.mem_mergeSort

end Journal
end AssetTranspiler.PathRegistry
