import AssetTranspiler.Proofs.Request.Alias

namespace AssetTranspiler

namespace BabelPlugin

theorem traverse_value (start : Nat) (ps : List BabelPlugin) :
    Checked.traverse (fun i v => (read v).within [.item i]) start (ps.map value) =
      .accepted ps := by
  induction ps generalizing start with
  | nil => rfl
  | cons p ps ih =>
      rw [List.map_cons, Checked.traverse, read_value, ih]
      rfl

theorem readAll_value (ps : List BabelPlugin) : readAll (.list (ps.map value)) = .accepted ps :=
  traverse_value 0 ps

end BabelPlugin

namespace Request

def toFields (r : Request) : List (String × Value) :=
  [("source", .str r.source), ("skipModule", .bool r.skipModule), ("moduleId", .ofText? r.moduleId),
    ("filename", .str r.filename), ("themeId", .ofOption .int r.themeId),
    ("commonPlugins", .list (r.plugins.map BabelPlugin.value))]

theorem read_toFields (r : Request) : read r.toFields = .accepted r := by
  have hmodule : single Scalar.text? (.ofText? r.moduleId) = .accepted r.moduleId := by
    rw [single, Scalar.text?_ofText?]
    rfl
  have htheme : single Scalar.integer? (.ofOption .int r.themeId) = .accepted r.themeId := by
    rw [single, Scalar.integer?_ofOption]
    rfl
  simp only [toFields, read, field, given?, List.lookup_cons, String.reduceBEq, hmodule, htheme,
    BabelPlugin.readAll_value]
  rfl

theorem underAliases_toName (r : Request) :
    underAliases (r.toFields.map fun o => (toName o.1, o.2)) = r.toFields := by
  simp [underAliases, toFields, toName, toAlias, aliases, List.lookup_cons]

theorem read_toName (r : Request) :
    read (r.toFields.map fun o => (toName o.1, o.2)) = .accepted r := by
  apply Checked.eq_accepted_of_mapComplaints Complaint.underAlias
  rw [← read_underAliases, underAliases_toName, read_toFields]

/-- A request that was read is read again from its source and its options, whichever names these are
given under; and whatever was read from the given fields is read from them under their second names,
where complaints differ in the names of the fields only. -/
theorem read_again (fields : List (String × Value)) :
    match read fields with
    | .accepted r =>
        (∃ options, r.options = .dict options ∧
          read (("source", .str r.source) :: options) = .accepted r ∧
          read (("source", .str r.source) :: options.map fun o => (toName o.1, o.2)) =
            .accepted r) ∧
          read (underAliases fields) = .accepted r
    | .refused cs => read (underAliases fields) = .refused (cs.map Complaint.underAlias) := by
  have halias := read_underAliases fields
  cases hf : read fields with
  | accepted r =>
      rw [hf] at halias
      exact ⟨⟨_, rfl, read_toFields r, read_toName r⟩, halias⟩
  | refused cs =>
      rw [hf] at halias
      exact halias

/-- Names of both kinds, a truth value and a number that are spelled out, and a plugin of each form. -/
def mixed : List (String × Value) :=
  [("skip_module", .str "Yes"), ("source", .str "let a"), ("moduleId", .str "m"),
    ("theme_id", .str " 1_2.0"),
    ("common_plugins", .list [.str "p", .list [.str "q", .dict [("loose", .bool true)]]])]

def mixedRequest : Request where
  source := "let a"
  skipModule := true
  moduleId := some "m"
  themeId := some 12
  plugins := [.named "p", .configured "q" [("loose", .bool true)]]

theorem read_again_mixed :
    read mixed = .accepted mixedRequest ∧
      (∃ options, mixedRequest.options = .dict options ∧
        read (("source", .str "let a") :: options) = .accepted mixedRequest ∧
        read (("source", .str "let a") :: options.map fun o => (toName o.1, o.2)) =
          .accepted mixedRequest) ∧
      read (underAliases mixed) = .accepted mixedRequest := by
  have hmixed : read mixed = .accepted mixedRequest := by
    have hskip : Scalar.flag (.str "Yes") = .ok true := by
      have hword : Scalar.ofWord? "Yes" = some true := by decide +kernel
      rw [Scalar.flag, hword]
    have htheme : Scalar.integer? (.str " 1_2.0") = .ok (some 12) := by
      have hnumeral : Numeral.read Text.asciiDigit?
          (Scalar.withoutZeroFraction (Text.trim Text.isSpace " 1_2.0".toList)) = .ok 12 := by
        rfl
      show (Scalar.ofNumeral " 1_2.0").map some = .ok (some 12)
      rw [Scalar.ofNumeral, hnumeral]
      rfl
    simp only [mixed, read, field, given?, List.lookup_cons, List.lookup_nil, String.reduceBEq,
      single, hskip, htheme]
    rfl
  have hagain := read_again mixed
  rw [hmixed] at hagain
  exact ⟨hmixed, hagain⟩

end Request
end AssetTranspiler
