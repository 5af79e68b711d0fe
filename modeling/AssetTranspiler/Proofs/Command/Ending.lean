import AssetTranspiler.Command.Words

/-!
How a text ends that is to be split into words. It is no command exactly if it ends inside quotes or
behind a backslash. The scan is followed from mode to mode: after each character a piece of the text
is complete, or what is open of it is known.
-/

namespace AssetTranspiler.Command

variable {c : Char} {s t q r u : List Char} {m : Mode} {p : Option Problem}

inductive Inner : List Char → Prop
  | nil : Inner []
  | plain {c : Char} {s : List Char} : c ≠ '"' → c ≠ '\\' → Inner s → Inner (c :: s)
  | escaped (c : Char) {s : List Char} : Inner s → Inner ('\\' :: c :: s)

inductive Complete : List Char → Prop
  | nil : Complete []
  | plain {c : Char} {s : List Char} : c ≠ '\'' → c ≠ '"' → c ≠ '\\' → Complete s →
      Complete (c :: s)
  | escaped (c : Char) {s : List Char} : Complete s → Complete ('\\' :: c :: s)
  | single {q s : List Char} : '\'' ∉ q → Complete s → Complete ('\'' :: (q ++ '\'' :: s))
  | double {q s : List Char} : Inner q → Complete s → Complete ('"' :: (q ++ '"' :: s))

inductive EndsEscaping : List Char → Prop
  | bare {s : List Char} : Complete s → EndsEscaping (s ++ ['\\'])
  | quoted {s q : List Char} : Complete s → Inner q → EndsEscaping (s ++ '"' :: (q ++ ['\\']))

inductive EndsQuoted : List Char → Prop
  | single {s q : List Char} : Complete s → '\'' ∉ q → EndsQuoted (s ++ '\'' :: q)
  | double {s q : List Char} : Complete s → Inner q → EndsQuoted (s ++ '"' :: q)

inductive Ends : List Char → Option Problem → Prop
  | complete {s : List Char} : Complete s → Ends s none
  | escaping {s : List Char} : EndsEscaping s → Ends s (some .noEscapedCharacter)
  | quoted {s : List Char} : EndsQuoted s → Ends s (some .noClosingQuote)

theorem Inner.append (hs : Inner s) (ht : Inner t) : Inner (s ++ t) := by
  induction hs with
  | nil => exact ht
  | plain hd hb _ ih => exact .plain hd hb ih
  | escaped c _ ih => exact .escaped c ih

theorem Complete.append (hs : Complete s) (ht : Complete t) : Complete (s ++ t) := by
  induction hs with
  | nil => exact ht
  | plain hs hd hb _ ih => exact .plain hs hd hb ih
  | escaped c _ ih => exact .escaped c ih
  | single hq _ ih =>
      rw [List.cons_append, List.append_assoc]
      exact .single hq ih
  | double hq _ ih =>
      rw [List.cons_append, List.append_assoc]
      exact .double hq ih

theorem ends_escaping_iff : Ends s (some .noEscapedCharacter) ↔ EndsEscaping s := by
  constructor
  · intro h
    cases h with
    | escaping h => exact h
  · exact .escaping

theorem ends_quoted_iff : Ends s (some .noClosingQuote) ↔ EndsQuoted s := by
  constructor
  · intro h
    cases h with
    | quoted h => exact h
  · exact .quoted

theorem Ends.prepend (hs : Complete s) (h : Ends t p) : Ends (s ++ t) p := by
  cases h with
  | complete ht => exact .complete (hs.append ht)
  | escaping ht =>
      cases ht with
      | bare ht =>
          rw [← List.append_assoc]
          exact .escaping (.bare (hs.append ht))
      | quoted ht hq =>
          rw [← List.append_assoc]
          exact .escaping (.quoted (hs.append ht) hq)
  | quoted ht =>
      cases ht with
      | single ht hq =>
          rw [← List.append_assoc]
          exact .quoted (.single (hs.append ht) hq)
      | double ht hq =>
          rw [← List.append_assoc]
          exact .quoted (.double (hs.append ht) hq)

namespace Mode

/-- Where the scan stands after one more character. -/
def next : Mode → Char → Mode
  | .gap, c => if isSeparator c then .gap else (enter c).1
  | .word, c => if isSeparator c then .gap else (enter c).1
  | .single, c => if c = '\'' then .word else .single
  | .double, c => if c = '"' then .word else if c = '\\' then .doubleEscape else .double
  | .escape, _ => .word
  | .doubleEscape, _ => .double

def problem? : Mode → Option Problem
  | .gap => none
  | .word => none
  | .single => some .noClosingQuote
  | .double => some .noClosingQuote
  | .escape => some .noEscapedCharacter
  | .doubleEscape => some .noEscapedCharacter

def isOuter (m : Mode) : Bool :=
  m.problem?.isNone

/-- What has been read of a piece that is not complete yet. -/
inductive Open : Mode → List Char → Prop
  | gap : Open .gap []
  | word : Open .word []
  | escape : Open .escape ['\\']
  | single {q : List Char} : '\'' ∉ q → Open .single ('\'' :: q)
  | double {q : List Char} : Inner q → Open .double ('"' :: q)
  | doubleEscape {q : List Char} : Inner q → Open .doubleEscape ('"' :: (q ++ ['\\']))

theorem Open.ends (h : Open m u) : Ends u m.problem? := by
  cases h with
  | gap => exact .complete .nil
  | word => exact .complete .nil
  | escape => exact .escaping (.bare .nil)
  | single hq => exact .quoted (.single .nil hq)
  | double hq => exact .quoted (.double .nil hq)
  | doubleEscape hq => exact .escaping (.quoted .nil hq)

theorem open_enter (c : Char) :
    Open (enter c).1 [c] ∨ Complete [c] ∧ Open (enter c).1 [] := by
  rw [enter]
  split
  next h => exact .inl (h ▸ .single (by simp))
  next hs =>
    split
    next h => exact .inl (h ▸ .double .nil)
    next hd =>
      split
      next h => exact .inl (h ▸ .escape)
      next hb => exact .inr ⟨.plain hs hd hb .nil, .word⟩

theorem complete_separator (h : isSeparator c = true) : Complete [c] := by
  simp only [isSeparator, Bool.or_eq_true, beq_iff_eq] at h
  rcases h with ((rfl | rfl) | rfl) | rfl <;> exact .plain (by decide) (by decide) (by decide) .nil

theorem Open.next (h : Open m u) (c : Char) :
    Open (m.next c) (u ++ [c]) ∨ Complete (u ++ [c]) ∧ Open (m.next c) [] := by
  cases h with
  | gap =>
      rw [Mode.next]
      split
      next hc => exact .inr ⟨complete_separator hc, .gap⟩
      next => exact open_enter c
  | word =>
      rw [Mode.next]
      split
      next hc => exact .inr ⟨complete_separator hc, .gap⟩
      next => exact open_enter c
  | escape => exact .inr ⟨.escaped c .nil, .word⟩
  | single hq =>
      rw [Mode.next]
      split
      next hc => exact .inr ⟨hc ▸ .single hq .nil, .word⟩
      next hc => exact .inl (.single (by simp [hq, Ne.symm hc]))
  | double hq =>
      rw [Mode.next]
      split
      next hc => exact .inr ⟨hc ▸ .double hq .nil, .word⟩
      next hd =>
        split
        next hc => exact .inl (hc ▸ .doubleEscape hq)
        next hb => exact .inl (.double (hq.append (.plain hd hb .nil)))
  | doubleEscape hq =>
      rw [List.cons_append, List.append_assoc]
      exact .inl (.double (hq.append (.escaped c .nil)))

theorem Open.ends_foldl (h : Open m u) (s : List Char) :
    Ends (u ++ s) (s.foldl Mode.next m).problem? := by
  induction s generalizing m u with
  | nil =>
      rw [List.append_nil]
      exact h.ends
  | cons c s ih =>
      rw [List.append_cons]
      rcases h.next c with ho | ⟨hs, ho⟩
      · exact ih ho
      · exact (ih ho).prepend hs

theorem next_of_isOuter (h : m.isOuter = true) (c : Char) :
    m.next c = if isSeparator c then .gap else (enter c).1 := by
  cases m <;> first | rfl | cases h

theorem foldl_single (h : '\'' ∉ q) : q.foldl next .single = .single := by
  induction q with
  | nil => rfl
  | cons c q ih =>
      rw [List.mem_cons, not_or] at h
      rw [List.foldl_cons, next, if_neg (Ne.symm h.1)]
      exact ih h.2

theorem foldl_inner (h : Inner q) : q.foldl next .double = .double := by
  induction h with
  | nil => rfl
  | plain hd hb _ ih =>
      rw [List.foldl_cons, next, if_neg hd, if_neg hb]
      exact ih
  | escaped c _ ih => exact ih

theorem isOuter_foldl (h : Complete s) (hm : m.isOuter = true) :
    (s.foldl next m).isOuter = true := by
  induction h generalizing m with
  | nil => exact hm
  | @plain c s hs hd hb _ ih =>
      rw [List.foldl_cons]
      refine ih ?_
      rw [next_of_isOuter hm, enter, if_neg hs, if_neg hd, if_neg hb]
      split <;> rfl
  | escaped c _ ih =>
      rw [List.foldl_cons, next_of_isOuter hm]
      exact ih rfl
  | single hq _ ih =>
      rw [List.foldl_cons, next_of_isOuter hm, List.foldl_append]
      show (List.foldl next (List.foldl next .single _) _).isOuter = true
      rw [foldl_single hq]
      exact ih rfl
  | double hq _ ih =>
      rw [List.foldl_cons, next_of_isOuter hm, List.foldl_append]
      show (List.foldl next (List.foldl next .double _) _).isOuter = true
      rw [foldl_inner hq]
      exact ih rfl

theorem foldl_opening (h : Complete s) (hc : isSeparator c = false) (r : List Char) :
    (s ++ c :: r).foldl next .gap = r.foldl next (enter c).1 := by
  have ho := isOuter_foldl (m := .gap) h rfl
  rw [List.foldl_append, List.foldl_cons, next_of_isOuter ho, hc]
  rfl

theorem problem?_foldl (h : Ends s p) : (s.foldl next .gap).problem? = p := by
  cases h with
  | complete hs => exact Option.isNone_iff_eq_none.mp (isOuter_foldl hs rfl)
  | escaping hs =>
      cases hs with
      | bare hs =>
          rw [foldl_opening hs (by decide)]
          rfl
      | quoted hs hq =>
          rw [foldl_opening hs (by decide), List.foldl_append]
          show (List.foldl next (List.foldl next .double _) _).problem? = _
          rw [foldl_inner hq]
          rfl
  | quoted hs =>
      cases hs with
      | single hs hq =>
          rw [foldl_opening hs (by decide)]
          exact congrArg problem? (foldl_single hq)
      | double hs hq =>
          rw [foldl_opening hs (by decide)]
          exact congrArg problem? (foldl_inner hq)

end Mode

theorem map_eq_error_iff {α β : Type} {f : α → β} {x : Except Problem α} {e : Problem} :
    x.map f = .error e ↔ x = .error e := by
  cases x <;> simp [Except.map]

theorem scan_eq_error_iff {e : Problem} :
    scan m s = .error e ↔ (s.foldl Mode.next m).problem? = some e := by
  induction s generalizing m with
  | nil => cases m <;> simp [scan, Mode.problem?]
  | cons c s ih =>
      rw [List.foldl_cons, ← ih]
      cases m with
      | gap =>
          rw [scan, Mode.next]
          split
          · exact Iff.rfl
          · exact map_eq_error_iff
      | word =>
          rw [scan, Mode.next]
          split <;> exact map_eq_error_iff
      | single =>
          rw [scan, Mode.next]
          split
          · exact Iff.rfl
          · exact map_eq_error_iff
      | double =>
          rw [scan, Mode.next]
          split
          · exact Iff.rfl
          · split
            · exact Iff.rfl
            · exact map_eq_error_iff
      | escape => exact map_eq_error_iff
      | doubleEscape => exact map_eq_error_iff

theorem words_eq_error_iff {command : String} {e : Problem} :
    words command = .error e ↔ Ends command.toList (some e) := by
  rw [words, map_eq_error_iff, scan_eq_error_iff]
  constructor
  · intro h
    rw [← h]
    exact Mode.Open.gap.ends_foldl command.toList
  · exact Mode.problem?_foldl

end AssetTranspiler.Command
