import Mathlib.Logic.Basic

/-!
# `SparkGateway.Lib.Prog`: programs that perform commands

A `Prog S α` is a finite tree of atomic commands: it either returns a value, or performs
one command of the signature `S` and continues with the reply. An `async` function whose
only shared-state accesses are single atomic operations is such a tree, one command per
operation. The tree carries no meaning of its own, so one program can be run alone
(`Prog.exec` below) or step by step among others (`Lib/Interleave.lean`).

`Prog.exec` runs a program alone against a handler that answers every command. It keeps
the list of the commands with their replies, which is what later modules read off to say
what a program did. `exec_bind` is the rule that lets a caller's proof use a callee's
equation without unfolding the callee.

`Sig.sum` puts two signatures side by side. A program of one of them is a program of the
sum (`Prog.inl`, `Prog.inr`), with the same commands under their names there.

Nothing in this file mentions a particular system.
-/

set_option autoImplicit false

namespace SparkGateway.Lib

/-- A signature: the commands, and the type of the reply to each command. -/
structure Sig where
  Cmd : Type
  Reply : Cmd → Type

/-- Two signatures side by side. -/
abbrev Sig.sum (S T : Sig) : Sig where
  Cmd := S.Cmd ⊕ T.Cmd
  Reply
    | .inl c => S.Reply c
    | .inr c => T.Reply c

/-- One performed command with the reply it got. -/
abbrev Event (S : Sig) : Type := (c : S.Cmd) × S.Reply c

/-- An event of the first signature, in the sum. -/
def Event.inl {S T : Sig} (e : Event S) : Event (S.sum T) := ⟨.inl e.1, e.2⟩

/-- An event of the second signature, in the sum. -/
def Event.inr {S T : Sig} (e : Event T) : Event (S.sum T) := ⟨.inr e.1, e.2⟩

/-- A program over the signature `S` that returns an `α`. -/
inductive Prog (S : Sig) (α : Type) : Type where
  | ret (a : α)
  | step (c : S.Cmd) (k : S.Reply c → Prog S α)

/-- The answer of a run: the returned value, the state after it, and the performed
commands in order. -/
structure Outcome (S : Sig) (σ α : Type) where
  value : α
  state : σ
  trace : List (Event S)

/-- Answers for every command of `S` over the state `σ`. -/
abbrev Handler (S : Sig) (σ : Type) : Type := (c : S.Cmd) → σ → S.Reply c × σ

/-- Answers for both signatures of a sum, over one state. -/
def Handler.sum {S T : Sig} {σ : Type} (h₁ : Handler S σ) (h₂ : Handler T σ) :
    Handler (S.sum T) σ
  | .inl c, s => h₁ c s
  | .inr c, s => h₂ c s

namespace Prog

variable {S T : Sig} {α β σ : Type}

/-- Sequencing: the continuation is grafted onto every returned value. -/
def bind : Prog S α → (α → Prog S β) → Prog S β
  | .ret a, f => f a
  | .step c k, f => .step c fun r => (k r).bind f

/-- Programs are sequenced by running the second from where the first returns. -/
instance : Monad (Prog S) where
  pure := .ret
  bind := .bind

/-- Perform one command and return its reply. -/
def perform (c : S.Cmd) : Prog S (S.Reply c) := .step c .ret

@[simp] theorem pure_def (a : α) : (pure a : Prog S α) = .ret a := rfl

/-- Sequencing after a return continues with the value. -/
@[simp] theorem ret_bind (a : α) (f : α → Prog S β) : (Prog.ret a : Prog S α) >>= f = f a := rfl

/-- Sequencing after a step continues under the step. -/
@[simp] theorem step_bind (c : S.Cmd) (k : S.Reply c → Prog S α) (f : α → Prog S β) :
    Prog.step c k >>= f = .step c fun r => k r >>= f := rfl

/-! ### Running alone -/

/-- Run a program alone: `h` answers each command from the current state. -/
def exec (h : Handler S σ) : Prog S α → σ → Outcome S σ α
  | .ret a, s => ⟨a, s, []⟩
  | .step c k, s =>
      let o := (k (h c s).1).exec h (h c s).2
      { o with trace := ⟨c, (h c s).1⟩ :: o.trace }

/-- A returned program leaves the state and has an empty trace. -/
@[simp] theorem exec_ret (h : Handler S σ) (a : α) (s : σ) :
    exec h (.ret a : Prog S α) s = ⟨a, s, []⟩ := rfl

/-- A step is handled, recorded, and followed by its continuation. -/
@[simp] theorem exec_step (h : Handler S σ) (c : S.Cmd) (k : S.Reply c → Prog S α) (s : σ) :
    exec h (.step c k) s =
      ⟨(exec h (k (h c s).1) (h c s).2).value, (exec h (k (h c s).1) (h c s).2).state,
        ⟨c, (h c s).1⟩ :: (exec h (k (h c s).1) (h c s).2).trace⟩ := rfl

/-- Running a sequence is running the first part and then the second from where the first
ended. The two traces are appended. -/
theorem exec_bind (h : Handler S σ) (p : Prog S α) (f : α → Prog S β) (s : σ) :
    exec h (p >>= f) s =
      let o := exec h p s
      let q := exec h (f o.value) o.state
      ⟨q.value, q.state, o.trace ++ q.trace⟩ := by
  induction p generalizing s with
  | ret a => simp
  | step c k ih => simp [ih]

/-! ### The commands of a program -/

/-- Every command that the program can perform satisfies `P`, whatever the replies. -/
def Uses (P : S.Cmd → Prop) : Prog S α → Prop
  | .ret _ => True
  | .step c k => P c ∧ ∀ r, (k r).Uses P

/-- A sequence uses only what both of its parts use. -/
theorem Uses.bind {P : S.Cmd → Prop} {p : Prog S α} {f : α → Prog S β} (hp : p.Uses P)
    (hf : ∀ a, (f a).Uses P) : (p >>= f).Uses P := by
  induction p with
  | ret a => exact hf a
  | step c k ih => exact ⟨hp.1, fun r => ih r (hp.2 r)⟩

/-- The commands of a run are commands of the program, and the handler gave their replies. -/
theorem Uses.exec {P : S.Cmd → Prop} {p : Prog S α} (hp : p.Uses P) (h : Handler S σ) (s : σ) :
    ∀ e ∈ (p.exec h s).trace, P e.1 ∧ ∃ s', e.2 = (h e.1 s').1 := by
  induction p generalizing s with
  | ret a => simp
  | step c k ih =>
    intro e he
    rcases List.mem_cons.mp he with rfl | he
    · exact ⟨hp.1, s, rfl⟩
    · exact ih _ (hp.2 _) _ e he

/-! ### Programs of a sum -/

/-- A program of the first signature, in the sum. -/
def inl : Prog S α → Prog (S.sum T) α
  | .ret a => .ret a
  | .step c k => .step (.inl c) fun r => (k r).inl

/-- A program of the second signature, in the sum. -/
def inr : Prog T α → Prog (S.sum T) α
  | .ret a => .ret a
  | .step c k => .step (.inr c) fun r => (k r).inr

/-- Sequencing is associative. -/
theorem bind_assoc {γ : Type} (p : Prog S α) (f : α → Prog S β) (g : β → Prog S γ) :
    p >>= f >>= g = p >>= fun a => f a >>= g := by
  induction p with
  | ret a => rfl
  | step c k ih =>
    simp only [step_bind]
    congr 1
    funext r
    exact ih r

/-- Embedding on the left commutes with sequencing. -/
theorem inl_bind (p : Prog S α) (f : α → Prog S β) :
    ((p >>= f).inl : Prog (S.sum T) β) = p.inl >>= fun a => (f a).inl := by
  induction p with
  | ret a => rfl
  | step c k ih =>
    simp only [step_bind, inl]
    congr 1
    funext r
    exact ih r

/-- What holds of every command holds of those a program uses. -/
theorem Uses.of_forall {P : S.Cmd → Prop} (hP : ∀ c, P c) (p : Prog S α) : p.Uses P := by
  induction p with
  | ret a => trivial
  | step c k ih => exact ⟨hP c, ih⟩

/-- A left-embedded program uses the left commands that it used before. -/
theorem Uses.inl {P : (S.sum T).Cmd → Prop} {p : Prog S α} (hp : p.Uses fun c => P (.inl c)) :
    (p.inl : Prog (S.sum T) α).Uses P := by
  induction p with
  | ret a => trivial
  | step c k ih => exact ⟨hp.1, fun r => ih r (hp.2 r)⟩

/-- A right-embedded program uses the right commands that it used before. -/
theorem Uses.inr {P : (S.sum T).Cmd → Prop} {p : Prog T α} (hp : p.Uses fun c => P (.inr c)) :
    (p.inr : Prog (S.sum T) α).Uses P := by
  induction p with
  | ret a => trivial
  | step c k ih => exact ⟨hp.1, fun r => ih r (hp.2 r)⟩

end Prog

end SparkGateway.Lib
