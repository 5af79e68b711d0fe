import AssetTranspiler.Plugin.Registry
import Mathlib.Data.List.Basic
import Mathlib.Data.List.Induction

namespace AssetTranspiler.PluginRegistry

variable {r : PluginRegistry} {p q : Plugin} {ps qs : List Plugin} {name path : String}

inductive Change where
  | register (name path : String)
  | clear
  deriving DecidableEq, Repr

def perform (r : PluginRegistry) : Change → PluginRegistry
  | .register name path => r.register name path
  | .clear => .empty

def run (cs : List Change) : PluginRegistry :=
  cs.foldl perform .empty

/-- The registrations since the registry was last empty. -/
def record (ps : List Plugin) : Change → List Plugin
  | .register name path => ps ++ [⟨name, path⟩]
  | .clear => []

def registrations (cs : List Change) : List Plugin :=
  cs.foldl record []

def IsLatest (ps : List Plugin) (p : Plugin) : Prop :=
  ∃ before after, ps = before ++ p :: after ∧ ∀ q ∈ after, q.name ≠ p.name

def place (ps : List Plugin) (name : String) : Nat :=
  ps.findIdx (·.name = name)

theorem IsLatest.mem (h : IsLatest ps p) : p ∈ ps := by
  obtain ⟨before, after, rfl, -⟩ := h
  simp

theorem isLatest_concat : IsLatest (ps ++ [p]) q ↔ q = p ∨ IsLatest ps q ∧ q.name ≠ p.name := by
  constructor
  · rintro ⟨before, after, heq, hafter⟩
    rcases List.eq_nil_or_concat' after with rfl | ⟨after, d, rfl⟩
    · left
      exact (List.cons.inj (List.append_inj' heq rfl).2).1.symm
    · right
      rw [← List.cons_append, ← List.append_assoc] at heq
      obtain ⟨rfl, hd⟩ := List.append_inj' heq rfl
      obtain rfl : p = d := by simpa using hd
      exact ⟨⟨before, after, rfl, fun q hq => hafter q (by simp [hq])⟩,
        (hafter p (by simp)).symm⟩
  · rintro (rfl | ⟨⟨before, after, rfl, hafter⟩, hne⟩)
    · exact ⟨ps, [], rfl, by simp⟩
    · refine ⟨before, after ++ [p], by simp, ?_⟩
      intro d hd
      rcases List.mem_append.mp hd with hd | hd
      · exact hafter d hd
      · obtain rfl := List.mem_singleton.mp hd
        exact hne.symm

theorem place_lt (h : p ∈ ps) : place ps p.name < ps.length := by
  rw [place, List.findIdx_lt_length]
  exact ⟨p, h, by simp⟩

theorem place_append_of_mem (h : p ∈ ps) : place (ps ++ qs) p.name = place ps p.name := by
  have hlt := place_lt h
  rw [place] at hlt ⊢
  rw [List.findIdx_append, if_pos hlt, place]

theorem getElem?_place (h : p ∈ ps) : ∃ q, ps[place ps p.name]? = some q ∧ q.name = p.name := by
  refine ⟨_, List.getElem?_eq_getElem (place_lt h), ?_⟩
  have hfound := List.findIdx_getElem (p := fun q : Plugin => decide (q.name = p.name))
    (w := place_lt h)
  exact of_decide_eq_true hfound

theorem name_eq_of_place (hp : p ∈ ps) (hq : q ∈ ps) (h : place ps p.name = place ps q.name) :
    p.name = q.name := by
  obtain ⟨d, hd, hdp⟩ := getElem?_place hp
  obtain ⟨e, he, heq⟩ := getElem?_place hq
  rw [h, he] at hd
  rw [← hdp, ← heq, Option.some.inj hd]

theorem place_new (h : ∀ q ∈ ps, q.name ≠ p.name) : place (ps ++ [p]) p.name = ps.length := by
  have hall : place ps p.name = ps.length := by
    rw [place, List.findIdx_eq_length]
    simpa using h
  rw [place] at hall ⊢
  rw [List.findIdx_append, hall]
  simp

theorem mem_insert (h : (qs.map Plugin.name).Nodup) :
    q ∈ insert p qs ↔ q = p ∨ q ∈ qs ∧ q.name ≠ p.name := by
  induction qs with
  | nil => simp [insert]
  | cons d qs ih =>
      rw [List.map_cons, List.nodup_cons] at h
      rw [insert]
      split
      next hd =>
        -- the name is not there a second time
        have hrest : q ∈ qs → q.name ≠ p.name := by
          rintro hq hname
          exact h.1 (List.mem_map.mpr ⟨q, hq, hname.trans hd.symm⟩)
        rw [List.mem_cons, List.mem_cons]
        constructor
        · rintro (rfl | hq)
          · exact .inl rfl
          · exact .inr ⟨.inr hq, hrest hq⟩
        · rintro (rfl | ⟨rfl | hq, hne⟩)
          · exact .inl rfl
          · exact absurd hd hne
          · exact .inr hq
      next hd =>
        rw [List.mem_cons, List.mem_cons, ih h.2]
        constructor
        · rintro (rfl | rfl | ⟨hq, hne⟩)
          · exact .inr ⟨.inl rfl, hd⟩
          · exact .inl rfl
          · exact .inr ⟨.inr hq, hne⟩
        · rintro (rfl | ⟨rfl | hq, hne⟩)
          · exact .inr (.inl rfl)
          · exact .inl rfl
          · exact .inr (.inr ⟨hq, hne⟩)

theorem names_insert_of_not_mem (h : p.name ∉ qs.map Plugin.name) :
    (insert p qs).map Plugin.name = qs.map Plugin.name ++ [p.name] := by
  induction qs with
  | nil => rfl
  | cons d qs ih =>
      rw [List.map_cons, List.mem_cons, not_or] at h
      rw [insert, if_neg (Ne.symm h.1), List.map_cons, ih h.2, List.map_cons, List.cons_append]

structure Holds (ps : List Plugin) (r : PluginRegistry) : Prop where
  mem : ∀ p, p ∈ r.plugins ↔ IsLatest ps p
  ordered : (r.plugins.map Plugin.name).Pairwise fun a b => place ps a < place ps b

theorem Holds.nodup (h : Holds ps r) : (r.plugins.map Plugin.name).Nodup :=
  h.ordered.imp fun hlt heq => absurd hlt (by rw [heq]; exact Nat.lt_irrefl _)

theorem holds_empty : Holds [] .empty where
  mem p := by simp [empty, IsLatest]
  ordered := .nil

theorem exists_latest (h : name ∈ ps.map Plugin.name) : ∃ path, IsLatest ps ⟨name, path⟩ := by
  induction ps using List.reverseRecOn with
  | nil => simp at h
  | append_singleton ps p ih =>
      by_cases hp : p.name = name
      · exact ⟨p.path, isLatest_concat.mpr (.inl (by rw [← hp]))⟩
      · obtain ⟨path, hpath⟩ := ih (by simpa [Ne.symm hp] using h)
        exact ⟨path, isLatest_concat.mpr (.inr ⟨hpath, Ne.symm hp⟩)⟩

theorem Holds.register (h : Holds ps r) (name path : String) :
    Holds (ps ++ [⟨name, path⟩]) (r.register name path) := by
  have hplace : ∀ a ∈ r.plugins.map Plugin.name, place (ps ++ [⟨name, path⟩]) a = place ps a := by
    intro a ha
    obtain ⟨q, hq, rfl⟩ := List.mem_map.mp ha
    exact place_append_of_mem ((h.mem q).mp hq).mem
  have hordered : (r.plugins.map Plugin.name).Pairwise fun a b =>
      place (ps ++ [⟨name, path⟩]) a < place (ps ++ [⟨name, path⟩]) b := by
    refine h.ordered.imp_of_mem ?_
    intro a b ha hb hlt
    rwa [hplace a ha, hplace b hb]
  constructor
  · intro q
    rw [PluginRegistry.register, mem_insert h.nodup, h.mem, isLatest_concat]
  · rw [PluginRegistry.register]
    by_cases hname : name ∈ r.plugins.map Plugin.name
    · rwa [names_insert_of_mem (p := ⟨name, path⟩) hname]
    · rw [names_insert_of_not_mem (p := ⟨name, path⟩) hname, List.pairwise_append]
      refine ⟨hordered, List.pairwise_singleton _ _, ?_⟩
      -- a new name comes after all others
      have hnew : ∀ q ∈ ps, q.name ≠ name := by
        intro q hq heq
        obtain ⟨path, hlatest⟩ := exists_latest (List.mem_map_of_mem (f := Plugin.name) hq)
        exact hname (List.mem_map.mpr ⟨_, (h.mem _).mpr hlatest, heq⟩)
      intro a ha b hb
      rw [List.mem_singleton.mp hb, hplace a ha, place_new (p := ⟨name, path⟩) hnew]
      obtain ⟨q, hq, rfl⟩ := List.mem_map.mp ha
      exact place_lt ((h.mem q).mp hq).mem

theorem Holds.perform (h : Holds ps r) (c : Change) : Holds (record ps c) (r.perform c) := by
  cases c with
  | register name path => exact h.register name path
  | clear => exact holds_empty

theorem Holds.foldl (h : Holds ps r) (cs : List Change) :
    Holds (cs.foldl record ps) (cs.foldl PluginRegistry.perform r) := by
  induction cs generalizing ps r with
  | nil => exact h
  | cons c cs ih => exact ih (h.perform c)

theorem holds_run (cs : List Change) : Holds (registrations cs) (run cs) :=
  holds_empty.foldl cs

/-- A name whose last registration has the given path, and of these the one that came first. -/
structure IsOwner (ps : List Plugin) (path name : String) : Prop where
  latest : IsLatest ps ⟨name, path⟩
  first : ∀ other, IsLatest ps ⟨other, path⟩ → place ps name ≤ place ps other

theorem Holds.isOwner (h : Holds ps r) (hfind : r.findByPath? path = some p) :
    p.path = path ∧ IsOwner ps path p.name := by
  obtain ⟨hpath, before, after, hplugins, hbefore⟩ := List.find?_eq_some_iff_append.mp hfind
  obtain rfl : p.path = path := by simpa using hpath
  have hordered := h.ordered
  rw [hplugins, List.map_append, List.map_cons, List.pairwise_append, List.pairwise_cons] at hordered
  refine ⟨rfl, (h.mem p).mp (by simp [hplugins]), ?_⟩
  intro other hother
  have hmem := (h.mem _).mpr hother
  rw [hplugins, List.mem_append, List.mem_cons] at hmem
  rcases hmem with hmem | hmem | hmem
  · exact absurd (hbefore _ hmem) (by simp)
  · exact Nat.le_of_eq (by rw [← hmem])
  · exact Nat.le_of_lt (hordered.2.1.1 other (List.mem_map.mpr ⟨_, hmem, rfl⟩))

theorem Holds.findByPath?_eq_some (h : Holds ps r) (ho : IsOwner ps path name) :
    r.findByPath? path = some ⟨name, path⟩ := by
  cases hfind : r.findByPath? path with
  | none =>
      have hnone := List.find?_eq_none.mp hfind _ ((h.mem _).mpr ho.latest)
      simp at hnone
  | some p =>
      obtain ⟨rfl, hp⟩ := h.isOwner hfind
      have hplace : place ps p.name = place ps name :=
        Nat.le_antisymm (hp.first name ho.latest) (ho.first p.name hp.latest)
      have hname : p.name = name := name_eq_of_place hp.latest.mem ho.latest.mem hplace
      rw [← hname]

theorem Holds.findByPath?_eq_none (h : Holds ps r) (hno : ∀ n, ¬ IsOwner ps path n) :
    r.findByPath? path = none := by
  cases hfind : r.findByPath? path with
  | none => rfl
  | some p => exact absurd (h.isOwner hfind).2 (hno p.name)

end AssetTranspiler.PluginRegistry
