import Mathlib.Logic.Basic
import Mathlib.Order.Defs.Unbundled

/-!
# Running C statements

A block of C statements either falls through with a value or leaves early by
`return`, by `goto`, or through undefined behaviour; in every case the state
it has built so far survives, since the C code has already changed memory and
delivered callbacks.  `Exec σ ε` is that state-passing semantics, with `ε` the
ways of leaving.  `bind_eq_next_iff` is the one inversion lemma later proofs
use to take a straight-line run apart.
-/

namespace LwsClient

/-- The end of a run: fell through with a value, or left by `e`. -/
inductive Res (σ ε α : Type) where
  | next (a : α) (s : σ)
  | exit (e : ε) (s : σ)

/-- The state a run ends in, however it left. -/
def Res.state {σ ε α : Type} : Res σ ε α → σ
  | .next _ s => s
  | .exit _ s => s

@[simp] theorem Res.state_next {σ ε α : Type} (a : α) (s : σ) :
    (Res.next a s : Res σ ε α).state = s := rfl

@[simp] theorem Res.state_exit {σ ε α : Type} (e : ε) (s : σ) :
    (Res.exit e s : Res σ ε α).state = s := rfl

/-- A block of statements over the state `σ`, leaving early through `ε`. -/
def Exec (σ ε α : Type) := σ → Res σ ε α

namespace Exec

variable {σ ε α β : Type}

@[inline] protected def pure (a : α) : Exec σ ε α := fun s => .next a s

@[inline] protected def bind (x : Exec σ ε α) (f : α → Exec σ ε β) : Exec σ ε β :=
  fun s =>
    match x s with
    | .next a s' => f a s'
    | .exit e s' => .exit e s'

instance : Monad (Exec σ ε) where
  pure := Exec.pure
  bind := Exec.bind

/-- The whole state. -/
def get : Exec σ ε σ := fun s => .next s s

/-- Replace the state. -/
def modify (f : σ → σ) : Exec σ ε Unit := fun s => .next () (f s)

/-- Leave the block. -/
def leave (e : ε) : Exec σ ε α := fun s => .exit e s

@[simp] theorem pure_apply (a : α) (s : σ) : (pure a : Exec σ ε α) s = .next a s := rfl

theorem pure_bind (a : α) (f : α → Exec σ ε β) : (pure a >>= f) = f a := rfl

@[simp] theorem get_apply (s : σ) : (get : Exec σ ε σ) s = .next s s := rfl

@[simp] theorem modify_apply (f : σ → σ) (s : σ) :
    (modify f : Exec σ ε Unit) s = .next () (f s) := rfl

@[simp] theorem leave_apply (e : ε) (s : σ) : (leave e : Exec σ ε α) s = .exit e s := rfl

@[simp] theorem bind_apply (x : Exec σ ε α) (f : α → Exec σ ε β) (s : σ) :
    (x >>= f) s = match x s with
      | .next a s' => f a s'
      | .exit e s' => .exit e s' := rfl

@[simp] theorem ite_apply (c : Prop) [Decidable c] (x y : Exec σ ε α) (s : σ) :
    (if c then x else y) s = if c then x s else y s := by
  split <;> rfl

/-- A block followed by nothing is the block. -/
@[simp] theorem bind_pure_unit (x : Exec σ ε Unit) : (x >>= fun _ => pure ()) = x := by
  funext s
  simp only [bind_apply, pure_apply]
  cases x s <;> rfl

theorem bind_of_next {x : Exec σ ε α} {f : α → Exec σ ε β} {s s' : σ} {a : α}
    (first : x s = .next a s') : (x >>= f) s = f a s' := by
  simp [first]

theorem bind_of_exit {x : Exec σ ε α} {f : α → Exec σ ε β} {s s' : σ} {e : ε}
    (first : x s = .exit e s') : (x >>= f) s = .exit e s' := by
  simp [first]

/-- A sequence falls through exactly when both parts do. -/
theorem bind_eq_next_iff {x : Exec σ ε α} {f : α → Exec σ ε β} {s s'' : σ} {b : β} :
    (x >>= f) s = .next b s'' ↔ ∃ a s', x s = .next a s' ∧ f a s' = .next b s'' := by
  simp only [bind_apply]
  constructor
  · intro run
    split at run
    · exact ⟨_, _, ‹_›, run⟩
    · cases run
  · rintro ⟨a, s', first, second⟩
    simp [first, second]

/-- A sequence leaves by `e` when its first part does, or when the first part
falls through and the second leaves by `e`. -/
theorem bind_eq_exit_iff {x : Exec σ ε α} {f : α → Exec σ ε β} {s s'' : σ} {e : ε} :
    (x >>= f) s = .exit e s'' ↔
      x s = .exit e s'' ∨ ∃ a s', x s = .next a s' ∧ f a s' = .exit e s'' := by
  simp only [bind_apply]
  constructor
  · intro run
    split at run
    · exact .inr ⟨_, _, ‹_›, run⟩
    · cases run
      exact .inl ‹_›
  · rintro (first | ⟨a, s', first, second⟩) <;> simp [*]

/-! ## Relations a block keeps -/

/-- `x` ends, whether it falls through or leaves, in a state that `R` relates
to the one it started in.  For a preorder `R` sequencing keeps it, so a
function keeps `R` when each of its statements does. -/
def Keeps (R : σ → σ → Prop) (x : Exec σ ε α) : Prop :=
  ∀ s, R s (x s).state

section Keeps

variable {R : σ → σ → Prop}

theorem Keeps.mono {R' : σ → σ → Prop} (weaker : ∀ s s', R s s' → R' s s')
    {x : Exec σ ε α} (kept : Keeps R x) : Keeps R' x :=
  fun s => weaker _ _ (kept s)

/-- What a block keeps, read off a run that falls through. -/
theorem Keeps.of_next {x : Exec σ ε α} (kept : Keeps R x) {s s' : σ} {a : α}
    (run : x s = .next a s') : R s s' := by
  simpa only [run, Res.state_next] using kept s

/-- What a block keeps, read off a run that leaves. -/
theorem Keeps.of_exit {x : Exec σ ε α} (kept : Keeps R x) {s s' : σ} {e : ε}
    (run : x s = .exit e s') : R s s' := by
  simpa only [run, Res.state_exit] using kept s

theorem Keeps.ite {c : Prop} [Decidable c] {x y : Exec σ ε α} (yes : Keeps R x)
    (no : Keeps R y) : Keeps R (if c then x else y) := by
  split <;> assumption

theorem keeps_modify {f : σ → σ} (step : ∀ s, R s (f s)) :
    Keeps R (modify f : Exec σ ε Unit) :=
  step

/-- Sequencing, where the first part keeps `R`, the rest keeps `S`, and a step
of `R` followed by one of `S` is one of `S`. -/
theorem Keeps.bind_of {S : σ → σ → Prop} {x : Exec σ ε α} {f : α → Exec σ ε β}
    (first : Keeps R x) (rest : ∀ a, Keeps S (f a)) (stop : ∀ s s', R s s' → S s s')
    (compose : ∀ s₁ s₂ s₃, R s₁ s₂ → S s₂ s₃ → S s₁ s₃) : Keeps S (x >>= f) :=
    fun s => by
  have kept := first s
  cases run : x s with
  | next a s' =>
      rw [run] at kept
      rw [bind_of_next run]
      exact compose _ _ _ kept (rest a s')
  | exit e s' =>
      rw [run] at kept
      rw [bind_of_exit run]
      exact stop _ _ kept

theorem Keeps.bind [IsTrans σ R] {x : Exec σ ε α} {f : α → Exec σ ε β} (first : Keeps R x)
    (rest : ∀ a, Keeps R (f a)) : Keeps R (x >>= f) :=
  first.bind_of rest (fun _ _ kept => kept) fun _ _ _ => trans_of R

variable [IsRefl σ R]

theorem keeps_pure (a : α) : Keeps R (pure a : Exec σ ε α) := fun s => refl_of R s

theorem keeps_get : Keeps R (get : Exec σ ε σ) := fun s => refl_of R s

theorem keeps_leave (e : ε) : Keeps R (leave e : Exec σ ε α) := fun s => refl_of R s

/-- What follows a statement that leaves is never run. -/
theorem keeps_leave_bind (e : ε) (f : α → Exec σ ε β) : Keeps R (leave e >>= f) :=
  fun s => refl_of R s

end Keeps

/-! ## What a block ensures, by how it ends -/

/-- `x` relates the state it ends in to the one it started in by `N` when it
falls through, and by `E e` when it leaves by `e`: one postcondition for the
normal end and one for each way of leaving early. -/
structure Ensures (N : σ → σ → Prop) (E : ε → σ → σ → Prop) (x : Exec σ ε α) : Prop where
  next : ∀ {s a s'}, x s = .next a s' → N s s'
  exit : ∀ {s e s'}, x s = .exit e s' → E e s s'

section Ensures

variable {N N' : σ → σ → Prop} {E : ε → σ → σ → Prop}

theorem Ensures.of_keeps {x : Exec σ ε α} (kept : Keeps N x)
    (left : ∀ e s s', N s s' → E e s s') : Ensures N E x :=
  ⟨kept.of_next, fun run => left _ _ _ (kept.of_exit run)⟩

theorem Ensures.ite {c : Prop} [Decidable c] {x y : Exec σ ε α} (yes : Ensures N E x)
    (no : Ensures N E y) : Ensures N E (if c then x else y) := by
  split <;> assumption

/-- Sequencing, where the rest's normal end absorbs the first part's, and so
does every way of leaving. -/
theorem Ensures.bind_of {x : Exec σ ε α} {f : α → Exec σ ε β} (first : Ensures N E x)
    (rest : ∀ a, Ensures N' E (f a)) (compose : ∀ s₁ s₂ s₃, N s₁ s₂ → N' s₂ s₃ → N' s₁ s₃)
    (absorb : ∀ e s₁ s₂ s₃, N s₁ s₂ → E e s₂ s₃ → E e s₁ s₃) : Ensures N' E (x >>= f) where
  next run := by
    obtain ⟨a, s₁, first₁, rest₁⟩ := bind_eq_next_iff.mp run
    exact compose _ _ _ (first.next first₁) ((rest a).next rest₁)
  exit run := by
    rcases bind_eq_exit_iff.mp run with left | ⟨a, s₁, first₁, rest₁⟩
    · exact first.exit left
    · exact absorb _ _ _ _ (first.next first₁) ((rest a).exit rest₁)

theorem Ensures.bind [IsTrans σ N] {x : Exec σ ε α} {f : α → Exec σ ε β}
    (absorb : ∀ e s₁ s₂ s₃, N s₁ s₂ → E e s₂ s₃ → E e s₁ s₃) (first : Ensures N E x)
    (rest : ∀ a, Ensures N E (f a)) : Ensures N E (x >>= f) :=
  first.bind_of rest (fun _ _ _ => trans_of N) absorb

/-- What follows a statement that leaves is never run. -/
theorem ensures_leave_bind (e : ε) (f : α → Exec σ ε β) (stays : ∀ s, E e s s) :
    Ensures N E (leave e >>= f) where
  next run := nomatch run
  exit run := by
    cases run
    exact stays _

end Ensures

end Exec

end LwsClient
