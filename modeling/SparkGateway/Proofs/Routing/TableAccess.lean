import SparkGateway.Lib.Interleave
import SparkGateway.Spec.Affinity

/-!
# `SparkGateway.Proofs.Routing.TableAccess`: what an access of a `MemoryStore` does to its tables

The programs of this development use a `MemoryStore` inside larger states and signatures: the router
alone, a handler, a whole process. What one access does to an entry does not depend on that. It is
stated here for `MemoryStore.apply`, with the reply of the access, and for the steps of any run
(`Accesses`): a step leaves the tables alone, or it is one access.
-/

set_option autoImplicit false

namespace SparkGateway.Proofs.Routing

open SparkGateway.Lib
open SparkGateway.Spec

/-! ### One access -/

/-- What a command of a `MemoryStore` does to the binding of a key: nothing, an insertion by a
bind on the key, or a removal. -/
theorem apply_session_cases (cmd : MemoryCmd) (s : MemoryStore.State) (key : SessionKey) :
    (MemoryStore.apply cmd s).2.sessions key = s.sessions key ∨
    (∃ b, cmd = .bindSessionIfAbsent key b ∧ s.sessions key = none ∧
      (MemoryStore.apply cmd s).2.sessions key = some b) ∨
    (cmd = .forgetSession key ∧ s.sessions key ≠ none ∧
      (MemoryStore.apply cmd s).2.sessions key = none) := by
  cases cmd with
  | lookupSession k => exact .inl rfl
  | lookupOp op => exact .inl rfl
  | bindOp op b => exact .inl rfl
  | forgetOp op => exact .inl rfl
  | bindSessionIfAbsent k b =>
    cases hold : s.sessions k with
    | some a =>
      rw [MemoryStore.apply_bind_of_some hold]
      exact .inl rfl
    | none =>
      rw [MemoryStore.apply_bind_of_none hold]
      by_cases hk : key = k
      · subst hk
        exact .inr (.inl ⟨b, rfl, hold, Function.update_self _ _ _⟩)
      · exact .inl (Function.update_of_ne hk _ _)
  | forgetSession k =>
    by_cases hk : key = k
    · subst hk
      -- Forgetting a key that is not bound is no removal.
      by_cases hold : s.sessions key = none
      · exact .inl ((Function.update_self _ _ _).trans hold.symm)
      · exact .inr (.inr ⟨rfl, hold, Function.update_self _ _ _⟩)
    · exact .inl (Function.update_of_ne hk _ _)

/-- What a command of a `MemoryStore` does to an entry of the operation index: nothing, a write
by a `bind_op`, or a removal. -/
theorem apply_op_cases (cmd : MemoryCmd) (s : MemoryStore.State) (opId : String) :
    (MemoryStore.apply cmd s).2.ops opId = s.ops opId ∨
    (∃ b, cmd = .bindOp opId b ∧ (MemoryStore.apply cmd s).2.ops opId = some b) ∨
    (cmd = .forgetOp opId ∧ (MemoryStore.apply cmd s).2.ops opId = none) := by
  -- Only the two commands that name an operation write the index.
  cases cmd with
  | lookupSession k => exact .inl rfl
  | lookupOp op => exact .inl rfl
  | forgetSession k => exact .inl rfl
  | bindSessionIfAbsent k b =>
    cases hold : s.sessions k with
    | some a => rw [MemoryStore.apply_bind_of_some hold]; exact .inl rfl
    | none => rw [MemoryStore.apply_bind_of_none hold]; exact .inl rfl
  | bindOp op b =>
    by_cases hop : opId = op
    · subst hop
      exact .inr (.inl ⟨b, rfl, Function.update_self _ _ _⟩)
    · exact .inl (Function.update_of_ne hop _ _)
  | forgetOp op =>
    by_cases hop : opId = op
    · subst hop
      exact .inr (.inr ⟨rfl, Function.update_self _ _ _⟩)
    · exact .inl (Function.update_of_ne hop _ _)

section
variable {key : SessionKey} {m m' : MemoryStore.State}

/-- A lookup answers with the binding, and changes nothing. -/
theorem lookup_reply {found : Option String}
    (h : MemoryStore.apply (.lookupSession key) m = (found, m')) :
    m.sessions key = found ∧ m' = m := by
  obtain ⟨hfound, hm⟩ := Prod.mk.inj h
  exact ⟨hfound, hm.symm⟩

/-- A bind answers with the binding that it leaves: the one that it found, or its own pick. -/
theorem bind_reply {chosen winner : String}
    (h : MemoryStore.apply (.bindSessionIfAbsent key chosen) m = (winner, m')) :
    m'.sessions key = some winner ∧
      (m.sessions key = some winner ∨ m.sessions key = none ∧ winner = chosen) := by
  cases hold : m.sessions key with
  | some existing =>
    rw [MemoryStore.apply_bind_of_some hold] at h
    obtain ⟨rfl, rfl⟩ := Prod.mk.inj h
    exact ⟨hold, .inl rfl⟩
  | none =>
    rw [MemoryStore.apply_bind_of_none hold] at h
    obtain ⟨rfl, rfl⟩ := Prod.mk.inj h
    exact ⟨Function.update_self _ _ _, .inr ⟨rfl, rfl⟩⟩

/-- A release leaves no binding. -/
theorem forget_reply (h : MemoryStore.apply (.forgetSession key) m = ((), m')) :
    m'.sessions key = none := by
  obtain ⟨-, rfl⟩ := Prod.mk.inj h
  exact Function.update_self _ _ _

end

/-! ### One step of a run -/

section
variable {S : Sig} {σ ι : Type} {ev : (cmd : MemoryCmd) → MemoryCmd.Reply cmd → Event S}
  {table : σ → MemoryStore.State} {rec : Record S σ ι}

/-- The step leaves the tables alone, or it is an access of the store. `ev` is the event of an
access among those of the programs, and `table` finds the tables in the state. -/
def Accesses (ev : (cmd : MemoryCmd) → MemoryCmd.Reply cmd → Event S)
    (table : σ → MemoryStore.State) (rec : Record S σ ι) : Prop :=
  table rec.post = table rec.pre ∨
    ∃ i cmd reply, rec.actor = some (i, ev cmd reply) ∧
      MemoryStore.apply cmd (table rec.pre) = (reply, table rec.post)

/-- What a step does to the binding of a key. -/
theorem Accesses.session_cases (h : Accesses ev table rec) (key : SessionKey) :
    (table rec.post).sessions key = (table rec.pre).sessions key ∨
    (∃ i addr reply, rec.actor = some (i, ev (.bindSessionIfAbsent key addr) reply) ∧
      (table rec.pre).sessions key = none ∧ (table rec.post).sessions key = some addr) ∨
    (∃ i, rec.actor = some (i, ev (.forgetSession key) ()) ∧
      (table rec.pre).sessions key ≠ none ∧ (table rec.post).sessions key = none) := by
  rcases h with hsame | ⟨i, cmd, reply, hact, happly⟩
  · exact .inl (congrArg (·.sessions key) hsame)
  · have hpost : (MemoryStore.apply cmd (table rec.pre)).2 = table rec.post :=
      congrArg Prod.snd happly
    rcases apply_session_cases cmd (table rec.pre) key with
      hsame | ⟨addr, rfl, hold, hnew⟩ | ⟨rfl, hold, hnew⟩
    · exact .inl (hpost ▸ hsame)
    · exact .inr (.inl ⟨i, addr, reply, hact, hold, hpost ▸ hnew⟩)
    · exact .inr (.inr ⟨i, hact, hold, hpost ▸ hnew⟩)

/-- What a step does to an entry of the operation index. -/
theorem Accesses.op_cases (h : Accesses ev table rec) (opId : String) :
    (table rec.post).ops opId = (table rec.pre).ops opId ∨
    (∃ i addr, rec.actor = some (i, ev (.bindOp opId addr) ()) ∧
      (table rec.post).ops opId = some addr) ∨
    (∃ i, rec.actor = some (i, ev (.forgetOp opId) ()) ∧ (table rec.post).ops opId = none) := by
  rcases h with hsame | ⟨i, cmd, reply, hact, happly⟩
  · exact .inl (congrArg (·.ops opId) hsame)
  · have hpost : (MemoryStore.apply cmd (table rec.pre)).2 = table rec.post :=
      congrArg Prod.snd happly
    rcases apply_op_cases cmd (table rec.pre) opId with hsame | ⟨addr, rfl, hnew⟩ | ⟨rfl, hnew⟩
    · exact .inl (hpost ▸ hsame)
    · exact .inr (.inl ⟨i, addr, hact, hpost ▸ hnew⟩)
    · exact .inr (.inr ⟨i, hact, hpost ▸ hnew⟩)

end

end SparkGateway.Proofs.Routing
