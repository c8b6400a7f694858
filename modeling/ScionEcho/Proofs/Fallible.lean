import Mathlib.Tactic.Lemma

/-!
# Computations that may fail

A chain of computations that may fail succeeds when each of them does. Where they also act on a
state, what they do is followed step by step.
-/

namespace ScionEcho

@[simp] lemma ok_bind {ε α β : Type} (a : α) (f : α → Except ε β) : Except.ok a >>= f = f a := rfl

@[simp] lemma error_bind {ε α β : Type} (e : ε) (f : α → Except ε β) :
    Except.error e >>= f = .error e := rfl

@[simp] lemma mapError_ok {ε ε' α : Type} (g : ε → ε') (a : α) :
    (Except.ok a : Except ε α).mapError g = .ok a := rfl

@[simp] lemma mapError_error {ε ε' α : Type} (g : ε → ε') (e : ε) :
    (Except.error e : Except ε α).mapError g = .error (g e) := rfl

lemma eq_ok_of_toOption {ε α : Type} {x : Except ε α} {a : α} (h : x.toOption = some a) :
    x = .ok a := by
  cases x with
  | error e => cases h
  | ok b => rw [Option.some.inj h]

/-- A chain succeeds exactly when its first part does and the rest does on its value. -/
lemma bind_eq_ok_iff {ε α β : Type} {x : Except ε α} {f : α → Except ε β} {b : β} :
    x >>= f = .ok b ↔ ∃ a, x = .ok a ∧ f a = .ok b := by
  cases x with
  | error e => simp
  | ok a => simp

/-- Whether a computation succeeds does not depend on what is made of its value. -/
lemma map_unit_eq_ok_iff {ε α : Type} {x : Except ε α} :
    x.map (fun _ => ()) = .ok () ↔ ∃ a, x = .ok a := by
  cases x <;> simp [Except.map]

lemma map_eq_error_iff {ε α β : Type} {f : α → β} {x : Except ε α} {e : ε} :
    x.map f = .error e ↔ x = .error e := by
  cases x <;> simp [Except.map]

/-- Failures of a chain are renamed part by part. -/
lemma mapError_bind {ε ε' α β : Type} (g : ε → ε') (x : Except ε α) (f : α → Except ε β) :
    (x >>= f).mapError g = x.mapError g >>= fun a => (f a).mapError g := by
  cases x <;> rfl

/-! ### Computations in a row -/

/-- Computations in a row succeed if each of them does. -/
lemma forM_eq_ok_iff {ε α : Type} {f : α → Except ε Unit} {as : List α} :
    forM as f = .ok () ↔ ∀ a ∈ as, f a = .ok () := by
  induction as with
  | nil => simp [pure, Except.pure]
  | cons a as ih =>
    rw [List.forM_cons, List.forall_mem_cons, ← ih]
    cases f a with
    | error e => simp
    | ok value => simp

/-- Computations in a row fail as the first one does that fails. -/
lemma forM_eq_error_iff {ε α : Type} {f : α → Except ε Unit} {as : List α} {e : ε} :
    forM as f = .error e ↔
      ∃ before a after, as = before ++ a :: after ∧ (∀ b ∈ before, f b = .ok ()) ∧
        f a = .error e := by
  induction as with
  | nil => simp [pure, Except.pure]
  | cons a as ih =>
    rw [List.forM_cons]
    cases ha : f a with
    | error e' =>
      rw [error_bind]
      constructor
      · intro h
        cases h
        exact ⟨[], a, as, rfl, by simp, ha⟩
      · rintro ⟨_ | ⟨b, before⟩, c, after, heq, hbefore, hc⟩
        · cases heq
          rw [← ha, hc]
        · cases heq
          have hok := hbefore a (by simp)
          rw [ha] at hok
          cases hok
    | ok value =>
      rw [ok_bind, ih]
      constructor
      · rintro ⟨before, c, after, rfl, hbefore, hc⟩
        exact ⟨a :: before, c, after, rfl, by simpa using ⟨ha, hbefore⟩, hc⟩
      · rintro ⟨_ | ⟨b, before⟩, c, after, heq, hbefore, hc⟩
        · cases heq
          rw [ha] at hc
          cases hc
        · cases heq
          exact ⟨before, c, after, rfl, fun b hb => hbefore b (by simp [hb]), hc⟩

/-! ### Computations that act on a state -/

section

variable {ε σ α β : Type}

/-- What a computation that acts on a state yields from a given state, and the state it leaves. -/
def execute (x : ExceptT ε (StateM σ) α) (st : σ) : Except ε α × σ := x.run.run st

@[simp] lemma execute_pure (a : α) (st : σ) :
    execute (pure a : ExceptT ε (StateM σ) α) st = (.ok a, st) := rfl

@[simp] lemma execute_throw (e : ε) (st : σ) :
    execute (throw e : ExceptT ε (StateM σ) α) st = (.error e, st) := rfl

@[simp] lemma execute_mk_pure (r : Except ε α) (st : σ) :
    execute (ExceptT.mk (pure r) : ExceptT ε (StateM σ) α) st = (r, st) := rfl

@[simp] lemma execute_lift (x : StateM σ α) (st : σ) :
    execute (ExceptT.lift x : ExceptT ε (StateM σ) α) st = (.ok (x.run st).1, (x.run st).2) := rfl

/-- Trying a computation yields its result, whichever it is. -/
@[simp] lemma execute_lift_run {ε' : Type} (x : ExceptT ε' (StateM σ) α) (st : σ) :
    execute (ExceptT.lift x.run : ExceptT ε (StateM σ) (Except ε' α)) st =
      (.ok (execute x st).1, (execute x st).2) := rfl

/-- Renaming its failures changes nothing of what a computation does. -/
@[simp] lemma execute_adapt {ε' : Type} (g : ε → ε') (x : ExceptT ε (StateM σ) α) (st : σ) :
    execute (ExceptT.adapt g x) st = ((execute x st).1.mapError g, (execute x st).2) := rfl

lemma execute_bind (x : ExceptT ε (StateM σ) α) (f : α → ExceptT ε (StateM σ) β) (st : σ) :
    execute (x >>= f) st =
      match execute x st with
      | (.ok a, st') => execute (f a) st'
      | (.error e, st') => (.error e, st') := by
  change (match x.run.run st with
    | (r, st') => (ExceptT.bindCont f r).run st') = _
  unfold execute
  rcases x.run.run st with ⟨r, st'⟩
  cases r <;> rfl

@[simp] lemma execute_map (f : α → β) (x : ExceptT ε (StateM σ) α) (st : σ) :
    execute (f <$> x) st = ((execute x st).1.map f, (execute x st).2) := by
  rw [map_eq_pure_bind, execute_bind]
  rcases execute x st with ⟨r, st'⟩
  cases r <;> rfl

/-- The first computation of a chain succeeds. -/
lemma execute_bind_of_ok {x : ExceptT ε (StateM σ) α} {f : α → ExceptT ε (StateM σ) β}
    {st st' : σ} {a : α} (h : execute x st = (.ok a, st')) :
    execute (x >>= f) st = execute (f a) st' := by
  rw [execute_bind, h]

/-- The first of two computations that cannot fail is known. -/
lemma run_bind_of_eq {x : StateM σ α} {f : α → StateM σ β} {st st' : σ} {a : α}
    (h : x.run st = (a, st')) : (x >>= f).run st = (f a).run st' := by
  rw [StateT.run_bind, h]
  rfl

/-- The first computation of a chain fails. -/
lemma execute_bind_of_error {x : ExceptT ε (StateM σ) α} {f : α → ExceptT ε (StateM σ) β}
    {st st' : σ} {e : ε} (h : execute x st = (.error e, st')) :
    execute (x >>= f) st = (.error e, st') := by
  rw [execute_bind, h]

/-! ### Keeping a list -/

/-- A computation that also adds to a list what it yields. -/
def recording {ι : Type} (note : Except ε α → ι) (x : ExceptT ε (StateM σ) α) :
    ExceptT ε (StateM (σ × List ι)) α :=
  ExceptT.mk fun (st, notes) =>
    ((execute x st).1, (execute x st).2, notes ++ [note (execute x st).1])

lemma execute_recording {ι : Type} {note : Except ε α → ι} {x : ExceptT ε (StateM σ) α}
    {st st' : σ} {r : Except ε α} (h : execute x st = (r, st')) (notes : List ι) :
    execute (recording note x) (st, notes) = (r, st', notes ++ [note r]) := by
  change ((execute x st).1, (execute x st).2, notes ++ [note (execute x st).1]) = _
  rw [h]

end

end ScionEcho
