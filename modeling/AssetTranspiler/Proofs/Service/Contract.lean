import AssetTranspiler.Service.Job

namespace AssetTranspiler.Job

variable {α β : Type} {setup : Setup} {P P' : Service → Prop}

@[simp] theorem mapError_ok {ε ε' : Type} (f : ε → ε') (a : α) :
    (Except.ok a : Except ε α).mapError f = .ok a := rfl

@[simp] theorem mapError_error {ε ε' : Type} (f : ε → ε') (e : ε) :
    (Except.error e : Except ε α).mapError f = .error (f e) := rfl

def Meets (setup : Setup) (P : Service → Prop) (job : Job α)
    (Q : Except Fault α → Service → Prop) : Prop :=
  ∀ s, P s → Q (job.exec setup s).1 (job.exec setup s).2

def Keeps (setup : Setup) (P : Service → Prop) (job : Job α) : Prop :=
  Meets setup P job fun _ t => P t

theorem exec_answer (job : Job α) (f : α → β) (s : Service) :
    ((job >>= fun a => pure (f a)).exec setup s).2 = (job.exec setup s).2 := by
  rw [exec_bind]
  rcases job.exec setup s with ⟨fault | a, t⟩ <;> rfl

theorem Meets.mono {job : Job α} {Q Q' : Except Fault α → Service → Prop}
    (h : Meets setup P job Q) (hP : ∀ s, P' s → P s) (hQ : ∀ r t, Q r t → Q' r t) :
    Meets setup P' job Q' := by
  intro s hs
  exact hQ _ _ (h s (hP s hs))

theorem Meets.bind {m : Job α} {k : α → Job β} {R : Except Fault α → Service → Prop}
    {Q : Except Fault β → Service → Prop} (hm : Meets setup P m R)
    (hk : ∀ a, Meets setup (R (.ok a)) (k a) Q)
    (hf : ∀ f t, R (.error f) t → Q (.error f) t) : Meets setup P (m >>= k) Q := by
  intro s hs
  have h := hm s hs
  rw [exec_bind]
  rcases hr : m.exec setup s with ⟨r, t⟩
  rw [hr] at h
  cases r with
  | ok a => exact hk a t h
  | error f => exact hf f t h

theorem Meets.attempt {job : Job α} {Q : Except Fault α → Service → Prop}
    (h : Meets setup P job Q) :
    Meets setup P (attempt job) fun r t => ∃ o, r = .ok o ∧ Q o t := by
  intro s hs
  rw [exec_attempt]
  exact ⟨_, rfl, h s hs⟩

theorem Meets.map {job : Job α} {Q : Except Fault β → Service → Prop} (g : α → β)
    (h : Meets setup P job fun r t => Q (r.map g) t) : Meets setup P (g <$> job) Q := by
  intro s hs
  rw [exec_map]
  exact h s hs

theorem discard_eq_map (job : Job α) : discard job = (fun _ => ()) <$> job := rfl

theorem Keeps.after {job : Job α} {s t : Service} {r : Except Fault α} (h : Keeps setup P job)
    (hs : P s) (he : job.exec setup s = (r, t)) : P t := by
  have ht := h s hs
  rw [he] at ht
  exact ht

theorem keeps_pure (a : α) : Keeps setup P (pure a) := by
  intro s hs
  exact hs

theorem keeps_throw (f : Fault) : Keeps setup P (throw f : Job α) := by
  intro s hs
  exact hs

theorem keeps_get : Keeps setup P get := by
  intro s hs
  exact hs

theorem keeps_read : Keeps setup P read := by
  intro s hs
  exact hs

theorem keeps_ofExcept (r : Except Fault α) : Keeps setup P (ofExcept r) := by
  intro s hs
  rw [exec_ofExcept]
  exact hs

theorem keeps_update {f : Service → Service} (h : ∀ s, P s → P (f s)) :
    Keeps setup P (update f) := by
  intro s hs
  exact h s hs

theorem keeps_updateManager {f : Manager → Manager}
    (h : ∀ s, P s → P { s with manager := f s.manager }) : Keeps setup P (updateManager f) := by
  intro s hs
  exact h s hs

theorem Keeps.bind {m : Job α} {k : α → Job β} (hm : Keeps setup P m)
    (hk : ∀ a, Keeps setup P (k a)) : Keeps setup P (m >>= k) :=
  Meets.bind hm hk fun _ _ h => h

theorem Keeps.map {m : Job α} (g : α → β) (hm : Keeps setup P m) : Keeps setup P (g <$> m) :=
  Meets.map g hm

theorem Keeps.attempt {job : Job α} (h : Keeps setup P job) : Keeps setup P (attempt job) := by
  intro s hs
  rw [exec_attempt]
  exact h s hs

theorem keeps_mapM {f : α → Job β} (h : ∀ a, Keeps setup P (f a)) (as : List α) :
    Keeps setup P (as.mapM f) := by
  induction as with
  | nil =>
      rw [List.mapM_nil]
      exact keeps_pure []
  | cons a as ih =>
      rw [List.mapM_cons]
      exact (h a).bind fun b => ih.bind fun bs => keeps_pure (b :: bs)

end AssetTranspiler.Job
