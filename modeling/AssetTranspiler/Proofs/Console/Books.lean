import AssetTranspiler.Proofs.Console.Trace
import AssetTranspiler.Proofs.Context.Stages
import AssetTranspiler.Proofs.Gateway.Contract

/-!
Books on the engines' consoles. As long as consoles work properly, each engine holds just what the
history says it has buffered, and the log shows just what drains have handed out. Requests, one by
one, keep the books.
-/

namespace AssetTranspiler

open Trace

namespace Service

def pendingOf (s : Service) (i : Nat) : List Value :=
  (s.engines[i]?.map Engine.pending).getD []

def consoleLog (s : Service) : List LogRecord :=
  s.log.reverse.filter (·.source == .console)

variable (s : Service) (e : Event) (i : Nat) (rs : List Value) (st : Lifecycle)

@[simp] theorem pendingOf_ask (j : Nat) : (s.ask e).pendingOf j = s.pendingOf j := rfl

theorem pendingOf_buffer_self (h : i < s.engines.length) :
    (s.buffer i rs).pendingOf i = s.pendingOf i ++ rs := by
  simp [pendingOf, buffer, h]

theorem pendingOf_buffer_other {j : Nat} (h : j ≠ i) :
    (s.buffer i rs).pendingOf j = s.pendingOf j := by
  simp [pendingOf, buffer, Ne.symm h]

theorem buffer_nil : s.buffer i [] = s := by
  have hid : (fun e : Engine => { e with pending := e.pending ++ [] }) = id := by
    funext e
    rw [List.append_nil, id]
  rw [buffer, hid, List.modify_id]

@[simp] theorem pendingOf_setLife (j : Nat) : (s.setLife i st).pendingOf j = s.pendingOf j := by
  rw [pendingOf, pendingOf, setLife, List.getElem?_modify]
  cases s.engines[j]? with
  | none => rfl
  | some e => by_cases h : i = j <;> simp [h]

theorem pendingOf_of_le (h : s.engines.length ≤ i) : s.pendingOf i = [] := by
  simp [pendingOf, List.getElem?_eq_none h]

theorem pendingOf_addEngine (j : Nat) : s.addEngine.pendingOf j = s.pendingOf j := by
  rw [pendingOf, pendingOf, addEngine, List.getElem?_append]
  split
  · rfl
  · next h =>
      rw [List.getElem?_eq_none (Nat.le_of_not_lt h)]
      cases hj : j - s.engines.length with
      | zero => rfl
      | succ k => rfl

def emptied : Service :=
  { s with engines := s.engines.modify i fun e => { e with pending := [] } }

theorem pendingOf_emptied_self : (s.emptied i).pendingOf i = [] := by
  rw [pendingOf, emptied, List.getElem?_modify]
  cases s.engines[i]? <;> simp

theorem pendingOf_emptied_other {j : Nat} (h : j ≠ i) :
    (s.emptied i).pendingOf j = s.pendingOf j := by
  simp [pendingOf, emptied, Ne.symm h]

theorem consoleLog_cons {r : LogRecord} (h : r.source ≠ .console) :
    ({ s with log := r :: s.log } : Service).consoleLog = s.consoleLog := by
  simp [consoleLog, h]

theorem consoleLog_forward (entries : List (LogLevel × String)) :
    ({ s with log := (entries.map Gateway.consoleRecord).reverse ++ s.log } : Service).consoleLog =
      s.consoleLog ++ entries.map Gateway.consoleRecord := by
  have hall : (entries.map Gateway.consoleRecord).filter (·.source == .console) =
      entries.map Gateway.consoleRecord := by
    rw [List.filter_eq_self]
    intro r hr
    obtain ⟨entry, -, rfl⟩ := List.mem_map.mp hr
    rfl
  simp only [consoleLog, List.reverse_append, List.reverse_reverse, List.filter_append, hall]

end Service

def Console.shown (v : Value) : LogRecord :=
  Gateway.consoleRecord (Console.entry v)

/-- How the books balance while engine `busy` is in use, or while none is. If they are guarded,
consoles are not drained by hand. -/
structure Balance (host : Host) (guarded : Bool) (busy : Option Nat) (s : Service) : Prop where
  pending : ∀ i, s.pendingOf i = buffered host i s.history
  order : ∀ i, busy = some i → Ordered host i s.history
  handed : (handed host s.history).Sublist (produced host s.history)
  shown : s.consoleLog.Sublist ((Trace.handed host s.history).map fun r => Console.shown r.2)
  exact : guarded = true →
    s.consoleLog = (Trace.handed host s.history).map fun r => Console.shown r.2
  tidy : ∀ i, busy ≠ some i → buffered host i s.history ≠ [] → Gone host i s.history

structure Books (host : Host) (guarded : Bool) (busy : Option Nat) (s : Service) : Prop where
  bounded : ∀ i, busy = some i → i < s.engines.length
  closed : ∀ i, s.life? i = some .disposed → 0 < closings i s.history
  balance : Regular host s.history → Balance host guarded busy s

namespace Balance

variable {host : Host} {guarded : Bool} {busy : Option Nat} {s t : Service} {e : Event} {i : Nat}

theorem congr (h : Balance host guarded busy s) (hh : t.history = s.history)
    (hp : ∀ i, t.pendingOf i = s.pendingOf i) (hl : t.consoleLog = s.consoleLog) :
    Balance host guarded busy t where
  pending i := by rw [hp, hh, h.pending]
  order := by rw [hh]; exact h.order
  handed := by rw [hh]; exact h.handed
  shown := by rw [hl, hh]; exact h.shown
  exact := by rw [hl, hh]; exact h.exact
  tidy := by rw [hh]; exact h.tidy

theorem tidy_cons (h : Balance host guarded busy s)
    (he : ∀ j, e.engine? = some j → busy = some j) (hi : busy ≠ some i)
    (hne : buffered host i (e :: s.history) ≠ []) : Gone host i (e :: s.history) := by
  rw [buffered_cons_other fun hj => hi (he i hj)] at hne
  exact (h.tidy i hi hne).cons e

theorem outside (h : Balance host guarded busy s) (he : e.engine? = none) :
    Balance host guarded busy (s.ask e) where
  pending i := by
    rw [Service.pendingOf_ask, h.pending i]
    exact (buffered_cons_other (by simp [he])).symm
  order i hi := (h.order i hi).outside he
  handed := by
    rw [Service.history_ask, handed_cons_of_not (handsOut_of_outside he), produced_cons_none he]
    exact h.handed
  shown := by
    rw [Service.history_ask, handed_cons_of_not (handsOut_of_outside he)]
    exact h.shown
  exact := by
    rw [Service.history_ask, handed_cons_of_not (handsOut_of_outside he)]
    exact h.exact
  tidy j hj hne := h.tidy_cons (by simp [he]) hj hne

theorem request (h : Balance host guarded (some i) s) (hi : i < s.engines.length)
    (he : e.engine? = some i) (hd : host.handsOut s.history e = false) :
    Balance host guarded (some i) ((s.ask e).buffer i (host.logged s.history e)) where
  pending j := by
    rw [Service.history_buffer, Service.history_ask]
    by_cases hj : j = i
    · subst hj
      rw [(s.ask e).pendingOf_buffer_self j _ hi, s.pendingOf_ask, h.pending,
        buffered_cons_self he hd]
    · rw [(s.ask e).pendingOf_buffer_other i _ hj, s.pendingOf_ask, h.pending,
        buffered_cons_other (by simp [he, Ne.symm hj])]
  order j hj := by
    obtain rfl := Option.some.inj hj
    exact (h.order i rfl).request he hd
  handed := by
    rw [Service.history_buffer, Service.history_ask, handed_cons_of_not hd, produced_cons_some he]
    exact h.handed.trans (List.sublist_append_left _ _)
  shown := by
    rw [Service.history_buffer, Service.history_ask, handed_cons_of_not hd]
    exact h.shown
  exact := by
    rw [Service.history_buffer, Service.history_ask, handed_cons_of_not hd]
    exact h.exact
  tidy j hj hne := h.tidy_cons (fun k hk => he.symm.trans hk) hj hne

theorem handOut (h : Balance host guarded (some i) s) (hp : Proper host s.history e)
    (he : e.engine? = some i) (hd : host.handsOut s.history e = true)
    (hh : t.history = e :: s.history) (hg : t.engines = (s.emptied i).engines)
    (hl : t.consoleLog = s.consoleLog ++ (s.pendingOf i).map Console.shown ∨
      guarded = false ∧ t.consoleLog = s.consoleLog) : Balance host guarded (some i) t where
  pending j := by
    have hj : t.pendingOf j = (s.emptied i).pendingOf j := by
      rw [Service.pendingOf, hg, ← Service.pendingOf]
    rw [hj, hh]
    by_cases hj : j = i
    · rw [hj, s.pendingOf_emptied_self, buffered_cons_drained he hd]
    · rw [s.pendingOf_emptied_other i hj, buffered_cons_other (by simp [he, Ne.symm hj]),
        h.pending]
  order j hj := by
    obtain rfl := Option.some.inj hj
    rw [hh]
    exact (h.order i rfl).drain hp he hd
  handed := by
    rw [hh]
    exact ((h.order i rfl).drain hp he hd).sublist
  shown := by
    rw [hh, handed_cons_drained he hd, List.map_append, List.map_map, ← h.pending]
    -- records drained by hand are handed out but not logged
    rcases hl with hl | ⟨-, hl⟩
    · rw [hl]
      exact h.shown.append (List.Sublist.refl _)
    · rw [hl]
      exact h.shown.trans (List.sublist_append_left _ _)
  exact hguarded := by
    rw [hh, handed_cons_drained he hd, List.map_append, List.map_map, ← h.pending]
    rcases hl with hl | ⟨hn, -⟩
    · rw [hl, h.exact hguarded]
      rfl
    · rw [hn] at hguarded
      cases hguarded
  tidy j hj hne := by
    rw [hh] at hne ⊢
    exact h.tidy_cons (fun k hk => he.symm.trans hk) hj hne

end Balance

namespace Books

variable {host : Host} {setup : Setup} {guarded : Bool} {busy : Option Nat} {s t : Service}
  {e : Event} {i : Nat}

theorem congr (h : Books host guarded busy s) (hh : t.history = s.history)
    (he : t.engines = s.engines) (hl : t.consoleLog = s.consoleLog) :
    Books host guarded busy t where
  bounded := by rw [he]; exact h.bounded
  closed i := by
    rw [Service.life?, he, hh]
    exact h.closed i
  balance hr := by
    rw [hh] at hr
    exact (h.balance hr).congr hh (fun i => by rw [Service.pendingOf, he, ← Service.pendingOf]) hl

theorem closed_cons (h : Books host guarded busy s) (e : Event)
    (hi : s.life? i = some .disposed) : 0 < closings i (e :: s.history) :=
  Nat.lt_of_lt_of_le (h.closed i hi) (closings_le_cons i e s.history)

theorem take (h : Books host guarded none s) (hi : i < s.engines.length)
    (he : Regular host s.history → buffered host i s.history = []) :
    Books host guarded (some i) s where
  bounded j hj := Option.some.inj hj ▸ hi
  closed := h.closed
  balance hr := {
    h.balance hr with
    order := fun j hj => Option.some.inj hj ▸ .start (h.balance hr).handed (he hr)
    tidy := fun j _ hne => (h.balance hr).tidy j (by simp) hne }

theorem giveUp (h : Books host guarded (some i) s)
    (hg : Regular host s.history → buffered host i s.history ≠ [] → Gone host i s.history) :
    Books host guarded none s where
  bounded := by simp
  closed := h.closed
  balance hr := {
    h.balance hr with
    order := by simp
    tidy := by
      -- the engine itself is no longer exempt from being tidy
      intro j _ hne
      by_cases hj : j = i
      · rw [hj] at hne ⊢
        exact hg hr hne
      · exact (h.balance hr).tidy j (by simpa using Ne.symm hj) hne }

theorem outside (h : Books host guarded busy s) (he : e.engine? = none) :
    Books host guarded busy (s.ask e) where
  bounded := h.bounded
  closed _ hi := h.closed_cons e hi
  balance hr := (h.balance hr.2).outside he

theorem asked (h : Books host guarded (some i) s) (ha : s.Asked e t)
    (ht : Proper host s.history e → Balance host guarded (some i) s →
      Balance host guarded (some i) t) : Books host guarded (some i) t where
  bounded := by rw [ha.length]; exact h.bounded
  closed j hj := by
    rw [ha.life] at hj
    rw [ha.history]
    exact h.closed_cons e hj
  balance hr := by
    rw [ha.history] at hr
    exact ht hr.1 (h.balance hr.2)

theorem request (h : Books host guarded (some i) s) (he : e.engine? = some i)
    (hd : host.handsOut s.history e = false) :
    Books host guarded (some i) ((s.ask e).buffer i (host.logged s.history e)) :=
  h.asked (s.asked_buffer e i _) fun _ hb => hb.request (h.bounded i rfl) he hd

theorem evaluate (h : Books setup.host guarded (some i) s) (code : String) :
    Books setup.host guarded (some i) ((Engine.evaluate i code).exec setup s).2 := by
  rw [Engine.exec_evaluate]
  exact h.request (e := .evaluate i code setup.options.timeout) rfl rfl

theorem call (h : Books setup.host guarded (some i) s) {function : String}
    (hne : function ≠ Console.drainFunction) (arguments : List Value) :
    Books setup.host guarded (some i) ((Engine.call i function arguments).exec setup s).2 := by
  rw [Engine.exec_call_of_ne setup s i hne]
  exact h.request (e := .call i function arguments setup.options.timeout) rfl rfl

theorem collect (h : Books setup.host guarded (some i) s) :
    Books setup.host guarded (some i) ((Engine.collect i).exec setup s).2 := by
  rw [Engine.exec_collect]
  exact h.request (e := .collect i) rfl rfl

end Books

namespace Engine

variable {setup : Setup} {s : Service} {i : Nat}

inductive Drained (setup : Setup) (i : Nat) (arguments : List Value) (s : Service) :
    Except Fault Value × Service → Prop
  | handed : setup.host.handsOut s.history (.drain i arguments setup.options.timeout) = true →
      Drained setup i arguments s
        (.ok (.list (s.pendingOf i)), (s.ask (.drain i arguments setup.options.timeout)).emptied i)
  | failed (f : Failure) : f.isEngine = true →
      setup.host.handsOut s.history (.drain i arguments setup.options.timeout) = false →
      Drained setup i arguments s (.error (.raised f),
        (s.ask (.drain i arguments setup.options.timeout)).buffer i
          (setup.host.logged s.history (.drain i arguments setup.options.timeout)))

theorem drained {arguments : List Value}
    (hp : Proper setup.host s.history (.drain i arguments setup.options.timeout)) :
    Drained setup i arguments s ((drain i arguments).exec setup s) := by
  simp only [exec_drain]
  rcases hp.drained rfl with hr | ⟨f, hf, hr⟩
  · simp only [hr, hp.silent rfl, Service.buffer_nil, exec_takePending]
    exact .handed (by simp [Host.handsOut, hr, Except.isOk, Except.toBool])
  · simp only [hr]
    exact .failed f hf (by simp [Host.handsOut, hr, Except.isOk, Except.toBool])

end Engine
end AssetTranspiler
