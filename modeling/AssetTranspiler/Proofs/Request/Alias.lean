import AssetTranspiler.Request

namespace AssetTranspiler

namespace Checked

variable {α β : Type} (g : Complaint → Complaint)

def mapComplaints : Checked α → Checked α
  | .accepted a => .accepted a
  | .refused cs => .refused (cs.map g)

theorem mapComplaints_map (f : α → β) (x : Checked α) :
    (f <$> x).mapComplaints g = f <$> x.mapComplaints g := by
  cases x <;> rfl

theorem mapComplaints_seq (f : Checked (α → β)) (x : Checked α) :
    (f <*> x).mapComplaints g = f.mapComplaints g <*> x.mapComplaints g := by
  cases f with
  | accepted f => exact mapComplaints_map g f x
  | refused cs =>
      cases x with
      | accepted a => rfl
      | refused ds => exact congrArg Checked.refused List.map_append

theorem eq_accepted_of_mapComplaints {x : Checked α} {a : α}
    (h : x.mapComplaints g = .accepted a) : x = .accepted a := by
  cases x with
  | accepted b => exact h
  | refused cs => cases h

end Checked

namespace Request

def aliases : List (String × String) :=
  [("skip_module", "skipModule"), ("module_id", "moduleId"), ("theme_id", "themeId"),
    ("common_plugins", "commonPlugins")]

def toAlias (name : String) : String :=
  (aliases.lookup name).getD name

def toName (second : String) : String :=
  ((aliases.map Prod.swap).lookup second).getD second

/-- The fields under their second names. A field that is given by both names keeps what is given
under the second one. -/
def underAliases (fields : List (String × Value)) : List (String × Value) :=
  (fields.filter fun f => toAlias f.1 == f.1 || (fields.lookup (toAlias f.1)).isNone).map
    fun f => (toAlias f.1, f.2)

end Request

def Complaint.underAlias (c : Complaint) : Complaint :=
  match c.place with
  | .field name :: rest => { c with place := .field (Request.toAlias name) :: rest }
  | _ => c

namespace Request

variable {a b k n : String} {fields : List (String × Value)}

theorem toAlias_cases (n : String) :
    (n, toAlias n) ∈ aliases ∨ (∀ p ∈ aliases, p.1 ≠ n) ∧ toAlias n = n := by
  cases h : aliases.lookup n with
  | none =>
      refine .inr ⟨fun p hp he => ?_, by rw [toAlias, h, Option.getD_none]⟩
      simpa [he] using List.lookup_eq_none_iff.mp h p hp
  | some b =>
      obtain ⟨l, r, hl, -⟩ := List.lookup_eq_some_iff.mp h
      rw [toAlias, h, Option.getD_some, hl]
      exact .inl (by simp)

theorem toAlias_of_mem (h : (a, b) ∈ aliases) : toAlias a = b := by
  have hall : ∀ p ∈ aliases, toAlias p.1 = p.2 := by decide
  exact hall _ h

theorem toAlias_of_alias (h : (a, b) ∈ aliases) : toAlias b = b := by
  have hall : ∀ p ∈ aliases, toAlias p.2 = p.2 := by decide
  exact hall _ h

theorem toAlias_eq_iff (h : (a, b) ∈ aliases) : toAlias n = b ↔ n = a ∨ n = b := by
  have hinj : ∀ p ∈ aliases, ∀ q ∈ aliases, p.2 = q.2 → p.1 = q.1 := by decide
  constructor
  · intro hn
    rcases toAlias_cases n with hmem | ⟨-, hself⟩
    · exact .inl (hinj _ hmem _ h hn)
    · exact .inr (hself ▸ hn)
  · rintro (rfl | rfl)
    · exact toAlias_of_mem h
    · exact toAlias_of_alias h

theorem toAlias_ne (h : (a, b) ∈ aliases) : toAlias n ≠ a := by
  have hdisjoint : ∀ p ∈ aliases, ∀ q ∈ aliases, p.2 ≠ q.1 := by decide
  rcases toAlias_cases n with hmem | ⟨hnone, hself⟩
  · exact hdisjoint _ hmem _ h
  · rw [hself]
    exact (hnone _ h).symm

theorem toAlias_eq_iff_of_plain (h : ∀ p ∈ aliases, p.1 ≠ k ∧ p.2 ≠ k) : toAlias n = k ↔ n = k := by
  rcases toAlias_cases n with hmem | ⟨-, hself⟩
  · exact iff_of_false (h _ hmem).2 (h _ hmem).1
  · rw [hself]

/-- Entries may be dropped and renamed as long as those that come to the name `k` are the ones that
had the name `a`. -/
theorem lookup_renamed {keep : String × Value → Bool} {f : String → String}
    (h : ∀ e ∈ fields, keep e = true ∧ f e.1 = k ↔ e.1 = a) :
    ((fields.filter keep).map fun e => (f e.1, e.2)).lookup k = fields.lookup a := by
  induction fields with
  | nil => rfl
  | cons e es ih =>
      obtain ⟨he, hes⟩ := List.forall_mem_cons.mp h
      obtain ⟨name, v⟩ := e
      by_cases hname : name = a
      · obtain ⟨hkeep, hk⟩ := he.mpr hname
        rw [List.filter_cons_of_pos hkeep, List.map_cons, hk, hname]
        simp
      · have hrest : (a == name) = false := by simpa using Ne.symm hname
        rw [List.lookup_cons, hrest, ← ih hes]
        by_cases hkeep : keep (name, v) = true
        · have hk : (k == f name) = false := by
            simpa using fun hk => hname (he.mp ⟨hkeep, hk.symm⟩)
          rw [List.filter_cons_of_pos hkeep, List.map_cons, List.lookup_cons, hk]
        · rw [List.filter_cons_of_neg hkeep]

theorem lookup_underAliases (h : (a, b) ∈ aliases) :
    (underAliases fields).lookup b = (fields.lookup b).or (fields.lookup a) := by
  have hb := toAlias_of_alias h
  cases hl : fields.lookup b with
  | some v =>
      rw [Option.some_or, ← hl]
      refine lookup_renamed fun e _ => ⟨?_, ?_⟩
      · rintro ⟨hkeep, hk⟩
        rcases (toAlias_eq_iff h).mp hk with ha | hb'
        · -- the entry under the second name is there, so this one was dropped
          rw [hk, ha, hl] at hkeep
          have hba : b = a := by simpa using hkeep
          exact absurd (hk.trans hba) (toAlias_ne h)
        · exact hb'
      · intro he
        simp [he, hb]
  | none =>
      rw [Option.none_or]
      refine lookup_renamed fun e he => ⟨?_, ?_⟩
      · rintro ⟨-, hk⟩
        refine ((toAlias_eq_iff h).mp hk).resolve_right fun hname => ?_
        simpa [hname] using List.lookup_eq_none_iff.mp hl e he
      · intro ha
        simp [ha, toAlias_of_mem h, hl]

theorem lookup_underAliases_of_plain (h : ∀ p ∈ aliases, p.1 ≠ k ∧ p.2 ≠ k) :
    (underAliases fields).lookup k = fields.lookup k := by
  refine lookup_renamed fun e _ => ?_
  rw [toAlias_eq_iff_of_plain h]
  refine and_iff_right_of_imp fun he => ?_
  rw [he, (toAlias_eq_iff_of_plain h).mpr rfl, beq_self_eq_true, Bool.true_or]

theorem lookup_underAliases_name (h : (a, b) ∈ aliases) :
    (underAliases fields).lookup a = none := by
  rw [List.lookup_eq_none_iff]
  intro e he
  obtain ⟨f, -, rfl⟩ := List.mem_map.mp he
  simpa using (toAlias_ne h).symm

/-- The names of a field: the first of them is the one that counts if both are used. -/
inductive IsField : List String → Prop
  | plain {k : String} : (∀ p ∈ aliases, p.1 ≠ k ∧ p.2 ≠ k) → IsField [k]
  | paired {a b : String} : (a, b) ∈ aliases → IsField [b, a]

theorem given?_underAliases {names : List String} (h : IsField names) :
    given? (underAliases fields) names =
      (given? fields names).map fun g => (toAlias g.1, g.2) := by
  cases h with
  | plain h =>
      simp only [given?, lookup_underAliases_of_plain h]
      cases fields.lookup _ <;> simp [(toAlias_eq_iff_of_plain h).mpr rfl]
  | paired h =>
      simp only [given?, lookup_underAliases h, lookup_underAliases_name h]
      cases fields.lookup _ with
      | some v => simp [toAlias_of_alias h]
      | none => cases fields.lookup _ <;> simp [toAlias_of_mem h]

theorem field_underAliases {α : Type} {names : List String} {read : Value → Checked α}
    {default : Checked α} (h : IsField names)
    (hd : default.mapComplaints Complaint.underAlias = default) :
    field (underAliases fields) names read default =
      (field fields names read default).mapComplaints Complaint.underAlias := by
  rw [field, field, given?_underAliases h]
  cases given? fields names with
  | none => exact hd.symm
  | some g =>
      simp only [Option.map_some]
      cases read g.2 with
      | accepted v => rfl
      | refused cs =>
          simp [Checked.within, Checked.mapComplaints, Function.comp_def, Complaint.within,
            Complaint.underAlias]

theorem read_underAliases (fields : List (String × Value)) :
    read (underAliases fields) = (read fields).mapComplaints Complaint.underAlias := by
  simp only [read, Checked.mapComplaints_seq, Checked.mapComplaints_map]
  rw [field_underAliases (.plain (by decide)) rfl, field_underAliases (.paired (by decide)) rfl,
    field_underAliases (.paired (by decide)) rfl, field_underAliases (.plain (by decide)) rfl,
    field_underAliases (.paired (by decide)) rfl, field_underAliases (.paired (by decide)) rfl]

end Request
end AssetTranspiler
