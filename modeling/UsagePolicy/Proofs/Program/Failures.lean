import UsagePolicy.Proofs.Program.Interference
import UsagePolicy.Proofs.Program.Runs

/-!
# Programs that fail

Which failures a program can end with, read off from its parts, and which operations it has
performed by then. Both are about programs that run alone.
-/
namespace UsagePolicy.Program

variable {α β : Type} {env : Environment} {s t : Session}

/-- Wherever the program is started, it fails with such failures only. -/
def FailsWith (env : Environment) (allowed : Failure → Prop) (p : Program α) : Prop :=
  ∀ s failure t, p.run env s = (.error failure, t) → allowed failure

section FailsWith

variable {allowed : Failure → Prop} {p : Program α}

theorem failsWith_pure (a : α) : (pure a : Program α).FailsWith env allowed := by
  intro s failure t h
  cases h

theorem failsWith_failed {failure : Failure} (hfailure : allowed failure) :
    (failed failure : Program α).FailsWith env allowed := by
  intro s other t h
  cases h
  exact hfailure

theorem failsWith_operation (op : Operation) : (operation op).FailsWith env allowed := by
  intro s failure t h
  cases h

theorem failsWith_ofExcept {ε : Type} {failure : ε → Failure} (hfailure : ∀ e, allowed (failure e))
    (r : Except ε α) : (ofExcept failure r).FailsWith env allowed := by
  cases r with
  | ok a => exact failsWith_pure a
  | error e => exact failsWith_failed (hfailure e)

theorem FailsWith.bind {f : α → Program β} (h : p.FailsWith env allowed)
    (hf : ∀ a, (f a).FailsWith env allowed) : (p >>= f).FailsWith env allowed := by
  intro s failure t hrun
  rcases run_seq_eq_error.mp hrun with hrun | ⟨a, u, -, hrun⟩
  · exact h s failure t hrun
  · exact hf a u failure t hrun

theorem failsWith_forEach {f : α → Program β} (h : ∀ a, (f a).FailsWith env allowed)
    (members : List α) : (forEach f members).FailsWith env allowed := by
  induction members with
  | nil => exact failsWith_pure []
  | cons a rest ih => exact (h a).bind fun b => ih.bind fun bs => failsWith_pure (b :: bs)

end FailsWith

/-- The operations that a program performs, each with the session in which it does. -/
def performed (env : Environment) : Program α → Session → List (Operation × Session)
  | finished _, _ => []
  | failed _, _ => []
  | perform op next, s => (op, s) :: (next (op.perform env s).1).performed env (op.perform env s).2

theorem mem_performed_seq {p : Program α} {f : α → Program β} {performance : Operation × Session} :
    performance ∈ (p >>= f).performed env s ↔ performance ∈ p.performed env s ∨
      ∃ a t, p.run env s = (.ok a, t) ∧ performance ∈ (f a).performed env t := by
  induction p generalizing s with
  | finished a =>
    change performance ∈ (f a).performed env s ↔ _
    constructor
    · intro h
      exact Or.inr ⟨a, s, rfl, h⟩
    · rintro (h | ⟨_, _, heq, h⟩)
      · cases h
      · cases heq
        exact h
  | failed failure =>
    change performance ∈ [] ↔ _
    simp [performed, run]
  | perform op next ih =>
    change performance ∈ (op, s) :: ((next (op.perform env s).1) >>= f).performed env
      (op.perform env s).2 ↔ _
    rw [List.mem_cons, ih, performed, List.mem_cons, or_assoc]
    rfl

theorem Performs.of_mem_performed {allowed : Operation → Prop} {p : Program α} {op : Operation}
    {u : Session} (h : p.Performs env allowed) (hmem : (op, u) ∈ p.performed env s) :
    allowed op := by
  induction p generalizing s with
  | finished a => cases hmem
  | failed failure => cases hmem
  | perform other next ih =>
    obtain ⟨hallowed, hnext⟩ := h.next s
    rcases List.mem_cons.mp hmem with heq | hmem
    · cases heq
      exact hallowed
    · exact ih _ hnext hmem

end UsagePolicy.Program
