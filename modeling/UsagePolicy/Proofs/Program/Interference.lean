import Mathlib.Data.List.Forall2
import UsagePolicy.Store.Program

/-!
# Programs among other programs

Between two operations of a program other parties may act on the session. What a program does is
therefore stated under an interference, which says what those others may do: each operation of the
program is one that is allowed where it is performed, and what the program ends with satisfies a
postcondition, however the others act in between. A program that runs alone is the case in which
nobody acts.
-/
namespace UsagePolicy

/-- What others may do to a session between two operations of a program. -/
structure Interference where
  moves : Session → Session → Prop
  refl : ∀ s, moves s s
  trans : ∀ {s t u}, moves s t → moves t u → moves s u

namespace Interference

/-- Others may do anything at all. -/
def any : Interference where
  moves _ _ := True
  refl _ := trivial
  trans _ _ := trivial

end Interference

namespace Program

variable {α β : Type} {env : Environment} {others : Interference}
  {allowed : Operation → Session → Prop}

/-- Started in a session, the program performs allowed operations only and ends as the
postcondition says. -/
def Ensures (env : Environment) (others : Interference) (allowed : Operation → Session → Prop)
    (post : Except Failure α → Session → Prop) : Program α → Session → Prop
  | finished a, s => ∀ t, others.moves s t → post (.ok a) t
  | failed failure, s => ∀ t, others.moves s t → post (.error failure) t
  | perform op next, s => ∀ t, others.moves s t → allowed op t ∧
      Ensures env others allowed post (next (op.perform env t).1) (op.perform env t).2

/-- A postcondition on what is returned, which leaves failures alone. -/
def returning (post : α → Session → Prop) : Except Failure α → Session → Prop :=
  fun result t => ∀ a, result = .ok a → post a t

theorem Ensures.moved {post : Except Failure α → Session → Prop} {p : Program α} {s t : Session}
    (h : p.Ensures env others allowed post s) (hm : others.moves s t) :
    p.Ensures env others allowed post t := by
  cases p with
  | finished a => exact fun u hu => h u (others.trans hm hu)
  | failed failure => exact fun u hu => h u (others.trans hm hu)
  | perform op next => exact fun u hu => h u (others.trans hm hu)

theorem Ensures.weaken {post weaker : Except Failure α → Session → Prop} {p : Program α}
    {s : Session} (h : p.Ensures env others allowed post s)
    (himp : ∀ result t, post result t → weaker result t) :
    p.Ensures env others allowed weaker s := by
  induction p generalizing s with
  | finished a => exact fun t ht => himp _ t (h t ht)
  | failed failure => exact fun t ht => himp _ t (h t ht)
  | perform op next ih => exact fun t ht => ⟨(h t ht).1, ih _ (h t ht).2⟩

theorem Ensures.fewer {fewer : Interference} {post : Except Failure α → Session → Prop}
    {p : Program α} {s : Session} (h : p.Ensures env others allowed post s)
    (himp : ∀ s t, fewer.moves s t → others.moves s t) :
    p.Ensures env fewer allowed post s := by
  induction p generalizing s with
  | finished a => exact fun t ht => h t (himp s t ht)
  | failed failure => exact fun t ht => h t (himp s t ht)
  | perform op next ih =>
    intro t ht
    obtain ⟨hallowed, hnext⟩ := h t (himp s t ht)
    exact ⟨hallowed, ih _ hnext⟩

theorem Ensures.allow {wider : Operation → Session → Prop}
    {post : Except Failure α → Session → Prop}
    {p : Program α} {s : Session} (h : p.Ensures env others allowed post s)
    (himp : ∀ op t, allowed op t → wider op t) : p.Ensures env others wider post s := by
  induction p generalizing s with
  | finished a => exact h
  | failed failure => exact h
  | perform op next ih => exact fun t ht => ⟨himp op t (h t ht).1, ih _ (h t ht).2⟩

/-- If the allowed operations are themselves moves, the program ends in a session that moves have
led to from the one it started in. -/
theorem Ensures.reached {post : Except Failure α → Session → Prop} {p : Program α} {s : Session}
    (hmoves : ∀ op t, allowed op t → others.moves t (op.perform env t).2)
    (h : p.Ensures env others allowed post s) :
    p.Ensures env others allowed (fun result t => post result t ∧ others.moves s t) s := by
  induction p generalizing s with
  | finished a => exact fun t ht => ⟨h t ht, ht⟩
  | failed failure => exact fun t ht => ⟨h t ht, ht⟩
  | perform op next ih =>
    intro t ht
    obtain ⟨hallowed, hnext⟩ := h t ht
    refine ⟨hallowed, (ih _ hnext).weaken ?_⟩
    intro result u hu
    exact ⟨hu.1, others.trans (others.trans ht (hmoves op t hallowed)) hu.2⟩

/-- The rule of sequence: what the first program returns is handed to the second one. -/
theorem Ensures.bind {post : Except Failure β → Session → Prop} {p : Program α}
    {f : α → Program β} {s : Session}
    (h : p.Ensures env others allowed (fun result t => match result with
      | .ok a => (f a).Ensures env others allowed post t
      | .error failure => post (.error failure) t) s) :
    (p >>= f).Ensures env others allowed post s := by
  induction p generalizing s with
  | finished a => exact h s (others.refl s)
  | failed failure => exact h
  | perform op next ih => exact fun t ht => ⟨(h t ht).1, ih _ (h t ht).2⟩

theorem Ensures.bind_returning {post : β → Session → Prop} {p : Program α} {f : α → Program β}
    {s : Session}
    (h : p.Ensures env others allowed
      (returning fun a t => (f a).Ensures env others allowed (returning post) t) s) :
    (p >>= f).Ensures env others allowed (returning post) s := by
  apply Ensures.bind
  apply h.weaken
  intro result t hr
  cases result with
  | ok a => exact hr a rfl
  | error failure => intro b hb; cases hb

theorem ensures_pure {post : α → Session → Prop} {a : α} {s : Session}
    (h : ∀ t, others.moves s t → post a t) :
    (pure a : Program α).Ensures env others allowed (returning post) s := by
  intro t ht b hb
  cases hb
  exact h t ht

theorem ensures_failed {post : α → Session → Prop} {failure : Failure} {s : Session} :
    (failed failure : Program α).Ensures env others allowed (returning post) s := by
  intro t _ a ha
  cases ha

theorem ensures_operation {op : Operation} {post : op.Reply → Session → Prop} {s : Session}
    (h : ∀ t, others.moves s t → allowed op t ∧
      ∀ u, others.moves (op.perform env t).2 u → post (op.perform env t).1 u) :
    (operation op).Ensures env others allowed (returning post) s := by
  intro t ht
  refine ⟨(h t ht).1, ?_⟩
  intro u hu reply hr
  cases hr
  exact (h t ht).2 u hu

theorem ensures_ofExcept {ε : Type} {post : α → Session → Prop} {failure : ε → Failure}
    {r : Except ε α} {s : Session} (h : ∀ a, r = .ok a → ∀ t, others.moves s t → post a t) :
    (ofExcept failure r).Ensures env others allowed (returning post) s := by
  cases r with
  | ok a => exact ensures_pure (h a rfl)
  | error e => exact ensures_failed

theorem ensures_ofChecked {post : α → Session → Prop} {model : String} {checked : Checked α}
    {s : Session} (h : ∀ a, checked = .accepted a → ∀ t, others.moves s t → post a t) :
    (ofChecked model checked).Ensures env others allowed (returning post) s := by
  cases checked with
  | accepted a => exact ensures_pure (h a rfl)
  | refused issues => exact ensures_failed

/-- The rule of repetition: each member is treated in a session that the others and the members
before it have led to, and what is known of a result has to survive what comes after. -/
theorem Ensures.forEach {R : α → β → Session → Prop} {f : α → Program β} {members : List α}
    {s : Session}
    (hstable : ∀ a b t u, R a b t → others.moves t u → R a b u)
    (hmoves : ∀ op t, allowed op t → others.moves t (op.perform env t).2)
    (h : ∀ a ∈ members, ∀ t, others.moves s t →
      (f a).Ensures env others allowed (returning fun b u => R a b u) t) :
    (forEach f members).Ensures env others allowed
      (returning fun bs t => List.Forall₂ (fun a b => R a b t) members bs) s := by
  induction members generalizing s with
  | nil =>
    apply ensures_pure
    intro t _
    exact List.Forall₂.nil
  | cons a rest ih =>
    refine Ensures.bind_returning (((h a (by simp) s (others.refl s)).reached hmoves).weaken ?_)
    intro result t hr b hb
    obtain ⟨hR, hst⟩ := hr
    have hrest := ih (s := t) fun a' ha' u hu => h a' (by simp [ha']) u (others.trans hst hu)
    refine Ensures.bind_returning ((hrest.reached hmoves).weaken ?_)
    intro result u hr bs hbs
    apply ensures_pure
    intro v hv
    have hb' : R a b v := hstable a b t v (hR b hb) (others.trans hr.2 hv)
    refine List.Forall₂.cons hb' ((hr.1 bs hbs).imp ?_)
    intro a' b' hab
    exact hstable a' b' u v hab hv

theorem Ensures.run {post : Except Failure α → Session → Prop} {p : Program α} {s : Session}
    (h : p.Ensures env others allowed post s) : post (p.run env s).1 (p.run env s).2 := by
  induction p generalizing s with
  | finished a => exact h s (others.refl s)
  | failed failure => exact h s (others.refl s)
  | perform op next ih => exact ih _ (h s (others.refl s)).2

/-- Wherever the program is started and whatever others do, it performs such operations only. -/
def Performs (env : Environment) (allowed : Operation → Prop) (p : Program α) : Prop :=
  ∀ s, p.Ensures env .any (fun op _ => allowed op) (fun _ _ => True) s

section Performs

variable {allowed : Operation → Prop} {p : Program α} {s : Session}

theorem performs_of_ensures
    (h : ∀ s, p.Ensures env .any (fun op _ => allowed op) (returning fun _ _ => True) s) :
    p.Performs env allowed :=
  fun s => (h s).weaken fun _ _ _ => trivial

theorem Performs.ensures (h : p.Performs env allowed) (others : Interference) (s : Session) :
    p.Ensures env others (fun op _ => allowed op) (returning fun _ _ => True) s :=
  ((h s).fewer fun _ _ _ => trivial).weaken fun _ _ _ _ _ => trivial

theorem Performs.allow {wider : Operation → Prop} (h : p.Performs env allowed)
    (himp : ∀ op, allowed op → wider op) : p.Performs env wider :=
  fun s => (h s).allow fun op _ hop => himp op hop

theorem Performs.next {op : Operation} {next : op.Reply → Program α}
    (h : (perform op next).Performs env allowed) (s : Session) :
    allowed op ∧ (next (op.perform env s).1).Performs env allowed :=
  ⟨(h s s trivial).1, fun _ => (h s s trivial).2.moved trivial⟩

theorem performs_pure (a : α) : (pure a : Program α).Performs env allowed :=
  fun _ _ _ => trivial

theorem performs_failed (failure : Failure) :
    (failed failure : Program α).Performs env allowed :=
  fun _ _ _ => trivial

theorem performs_operation {op : Operation} (h : allowed op) :
    (operation op).Performs env allowed :=
  fun _ _ _ => ⟨h, fun _ _ => trivial⟩

theorem performs_ofExcept {ε : Type} (failure : ε → Failure) (r : Except ε α) :
    (ofExcept failure r).Performs env allowed := by
  cases r with
  | ok a => exact performs_pure a
  | error e => exact performs_failed _

theorem performs_ofChecked (model : String) (checked : Checked α) :
    (ofChecked model checked).Performs env allowed := by
  cases checked with
  | accepted a => exact performs_pure a
  | refused issues => exact performs_failed _

theorem Performs.bind {f : α → Program β} (h : p.Performs env allowed)
    (hf : ∀ a, (f a).Performs env allowed) : (p >>= f).Performs env allowed := by
  intro s
  refine Ensures.bind ((h s).weaken fun result t _ => ?_)
  cases result with
  | ok a => exact hf a t
  | error failure => trivial

theorem performs_forEach {f : α → Program β} (h : ∀ a, (f a).Performs env allowed)
    (members : List α) : (forEach f members).Performs env allowed := by
  induction members with
  | nil => exact performs_pure []
  | cons a rest ih => exact (h a).bind fun b => ih.bind fun bs => performs_pure (b :: bs)

/-- A relation that such operations keep up leads from the start of a run to its end. -/
theorem Performs.run_related {R : Session → Session → Prop} (h : p.Performs env allowed)
    (hrefl : ∀ s, R s s) (htrans : ∀ s t u, R s t → R t u → R s u)
    (hop : ∀ op t, allowed op → R t (op.perform env t).2) (s : Session) :
    R s (p.run env s).2 := by
  have hall := h s
  clear h
  induction p generalizing s with
  | finished a => exact hrefl s
  | failed failure => exact hrefl s
  | perform op next ih =>
    obtain ⟨hallowed, hnext⟩ := hall s trivial
    exact htrans s _ _ (hop op s hallowed) (ih _ _ hnext)

end Performs

end Program
end UsagePolicy
