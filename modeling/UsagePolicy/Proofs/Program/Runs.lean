import Mathlib.Data.List.Forall2
import UsagePolicy.Store.Program

/-!
# Runs of programs

How a run that returns came about: a sequence returns what its second part returns after the first
one has returned, and each construct below comes with the condition under which it returns.
-/
namespace UsagePolicy.Program

variable {α β : Type} {env : Environment} {s t : Session}

theorem id_map (p : Program α) : id <$> p = p := by
  induction p with
  | finished a => rfl
  | failed failure => rfl
  | perform op next ih => exact congrArg (perform op) (funext ih)

theorem seq_assoc {γ : Type} (p : Program α) (f : α → Program β) (g : β → Program γ) :
    (p >>= f) >>= g = p >>= fun a => f a >>= g := by
  induction p with
  | finished a => rfl
  | failed failure => rfl
  | perform op next ih => exact congrArg (perform op) (funext ih)

instance : LawfulMonad Program :=
  LawfulMonad.mk' Program id_map (fun _ _ => rfl) seq_assoc

@[simp] theorem run_pure (a : α) : (pure a : Program α).run env s = (.ok a, s) := rfl

@[simp] theorem run_finished (a : α) : (finished a).run env s = (.ok a, s) := rfl

@[simp] theorem run_failed (failure : Failure) :
    (failed failure : Program α).run env s = (.error failure, s) := rfl

@[simp] theorem run_operation (op : Operation) :
    (operation op).run env s = (.ok (op.perform env s).1, (op.perform env s).2) := rfl

theorem run_operation_eq_ok {op : Operation} {reply : op.Reply} :
    (operation op).run env s = (.ok reply, t) ↔ op.perform env s = (reply, t) := by
  rw [run_operation, Prod.mk.injEq, Except.ok.injEq, ← Prod.mk.injEq]

theorem run_seq (p : Program α) (f : α → Program β) (s : Session) :
    (p >>= f).run env s =
      match p.run env s with
      | (.ok a, t) => (f a).run env t
      | (.error failure, t) => (.error failure, t) :=
  run_bind env p f s

theorem run_seq_of_ok {p : Program α} {a : α} (h : p.run env s = (.ok a, t)) (f : α → Program β) :
    (p >>= f).run env s = (f a).run env t := by
  rw [run_seq, h]

theorem run_seq_of_error {p : Program α} {failure : Failure} (h : p.run env s = (.error failure, t))
    (f : α → Program β) : (p >>= f).run env s = (.error failure, t) := by
  rw [run_seq, h]

theorem run_seq_eq_ok {p : Program α} {f : α → Program β} {b : β} :
    (p >>= f).run env s = (.ok b, t) ↔
      ∃ a u, p.run env s = (.ok a, u) ∧ (f a).run env u = (.ok b, t) := by
  rw [run_seq]
  obtain ⟨result, u⟩ := p.run env s
  cases result with
  | ok a =>
    constructor
    · intro h
      exact ⟨a, u, rfl, h⟩
    · rintro ⟨_, _, heq, h⟩
      cases heq
      exact h
  | error failure => simp

theorem run_seq_eq_error {p : Program α} {f : α → Program β} {failure : Failure} :
    (p >>= f).run env s = (.error failure, t) ↔
      p.run env s = (.error failure, t) ∨
        ∃ a u, p.run env s = (.ok a, u) ∧ (f a).run env u = (.error failure, t) := by
  rw [run_seq]
  obtain ⟨result, u⟩ := p.run env s
  cases result with
  | ok a =>
    constructor
    · intro h
      exact Or.inr ⟨a, u, rfl, h⟩
    · rintro (h | ⟨_, _, heq, h⟩)
      · cases h
      · cases heq
        exact h
  | error other => simp

/-- What holds of the session after the first part, and after the second one wherever the first one
has returned, holds after the sequence, however it ends. -/
theorem session_run_seq {P : Session → Prop} {p : Program α} {f : α → Program β}
    (hp : P (p.run env s).2)
    (hf : ∀ a t, p.run env s = (.ok a, t) → P t → P ((f a).run env t).2) :
    P ((p >>= f).run env s).2 := by
  rw [run_seq]
  cases h : p.run env s with
  | mk result t =>
    rw [h] at hp
    cases result with
    | ok a => exact hf a t h hp
    | error failure => exact hp

theorem session_run {R : Session → Session → Prop} (hrefl : ∀ s, R s s)
    (htrans : ∀ s t u, R s t → R t u → R s u) (hop : ∀ (op : Operation) s, R s (op.perform env s).2)
    (p : Program α) (s : Session) : R s (p.run env s).2 := by
  induction p generalizing s with
  | finished a => exact hrefl s
  | failed failure => exact hrefl s
  | perform op next ih => exact htrans s _ _ (hop op s) (ih _ _)

theorem run_ofExcept_eq_ok {ε : Type} {failure : ε → Failure} {r : Except ε α} {a : α} :
    (ofExcept failure r).run env s = (.ok a, t) ↔ r = .ok a ∧ s = t := by
  cases r <;> simp [ofExcept]

theorem run_ofChecked_eq_ok {model : String} {checked : Checked α} {a : α} :
    (ofChecked model checked).run env s = (.ok a, t) ↔ checked = .accepted a ∧ s = t := by
  cases checked <;> simp [ofChecked]

theorem run_recover (p : Program α) (handler : Failure → Program α) (s : Session) :
    (p.recover handler).run env s =
      match p.run env s with
      | (.ok a, t) => (.ok a, t)
      | (.error failure, t) => (handler failure).run env t := by
  induction p generalizing s with
  | finished a => rfl
  | failed failure => rfl
  | perform op next ih => exact ih _ _

theorem run_forEach_of_results {f : α → Program β} {members : List α} {bs : List β}
    (h : List.Forall₂ (fun a b => (f a).run env s = (.ok b, s)) members bs) :
    (forEach f members).run env s = (.ok bs, s) := by
  induction h with
  | nil => rfl
  | cons ha _ ih => simp [forEach, run_bind, ha, ih]

theorem run_forEach_of_forall {R : α → β → Prop} {f : α → Program β} {members : List α}
    (h : ∀ a ∈ members, ∃ b, R a b ∧ (f a).run env s = (.ok b, s)) :
    ∃ bs, List.Forall₂ R members bs ∧ (forEach f members).run env s = (.ok bs, s) := by
  have hresults : ∃ bs, List.Forall₂ (fun a b => R a b ∧ (f a).run env s = (.ok b, s))
      members bs := by
    induction members with
    | nil => exact ⟨[], List.Forall₂.nil⟩
    | cons a rest ih =>
      obtain ⟨b, hb⟩ := h a (by simp)
      obtain ⟨bs, hbs⟩ := ih fun a' ha' => h a' (by simp [ha'])
      exact ⟨b :: bs, List.Forall₂.cons hb hbs⟩
  obtain ⟨bs, hbs⟩ := hresults
  exact ⟨bs, hbs.imp fun _ _ h => h.1, run_forEach_of_results (hbs.imp fun _ _ h => h.2)⟩

/-- A program applied to each member of a list returns if it does so for each, wherever it keeps up
what it needs. -/
theorem run_forEach_of_invariant {P : Session → Prop} {f : α → Program β} {members : List α}
    (h : ∀ a ∈ members, ∀ s, P s → ∃ b t, (f a).run env s = (.ok b, t) ∧ P t) (hs : P s) :
    ∃ bs t, (forEach f members).run env s = (.ok bs, t) ∧ P t := by
  induction members generalizing s with
  | nil => exact ⟨[], s, rfl, hs⟩
  | cons a rest ih =>
    obtain ⟨b, t, ha, ht⟩ := h a (by simp) s hs
    obtain ⟨bs, u, hrest, hu⟩ := ih (fun a' ha' => h a' (by simp [ha'])) ht
    exact ⟨b :: bs, u, by simp [forEach, run_bind, ha, hrest], hu⟩

theorem run_forEach_eq_ok {f : α → Program β} {members : List α} {bs : List β}
    (h : (forEach f members).run env s = (.ok bs, t)) :
    List.Forall₂ (fun a b => ∃ u v, (f a).run env u = (.ok b, v)) members bs := by
  induction members generalizing s bs with
  | nil =>
    cases h
    exact List.Forall₂.nil
  | cons a rest ih =>
    obtain ⟨b, u, ha, h⟩ := run_seq_eq_ok.mp h
    obtain ⟨rest', v, hrest, h⟩ := run_seq_eq_ok.mp h
    cases h
    exact List.Forall₂.cons ⟨s, u, ha⟩ (ih hrest)

end UsagePolicy.Program
