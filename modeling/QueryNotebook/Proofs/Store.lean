import QueryNotebook.Proofs.Dictionary
import QueryNotebook.Store.File

/-!
# Stores that remember

What the program relies on when it keeps something in a store: a text that was put under a name is
the text under that name afterwards, and a put that succeeds changes no other name.  The laws are
equations between programs, so they speak of stores whose writes have effects too.  They do not say
that the text outlives the program, nor that putting it succeeds: the store in a file remembers a
text that it could not write.
-/

namespace QueryNotebook

instance : LawfulMonad Disk :=
  LawfulMonad.mk' Disk Disk.bind_done_right (fun _ _ => rfl) Disk.bind_assoc

/-- A store that gives a text back once it was put. -/
class Store.Remembers (σ : Type) {m : outParam (Type → Type)} [Store σ m] [Monad m] : Prop where
  get?_put (store : σ) (name text : String) :
    (do
      let outcome ← Store.put store name text
      pure (outcome, Store.get? outcome.store name)) =
    (do
      let outcome ← Store.put store name text
      pure (outcome, some text))

/-- What follows a program may rely on what is always seen of its result. -/
theorem bind_congr_of_seen {m : Type → Type} [Monad m] [LawfulMonad m] {α β γ : Type}
    {program : m α} {seen expected : α → β}
    (same : (do let result ← program; pure (result, seen result)) =
      (do let result ← program; pure (result, expected result)))
    {next other : α → m γ} (agree : ∀ result, seen result = expected result →
      next result = other result) : program >>= next = program >>= other := by
  classical
  -- Looking first tells the two apart only where something else is seen.
  let choose (looked : α × β) : m γ :=
    if looked.2 = expected looked.1 then next looked.1 else other looked.1
  have bound := congrArg (· >>= choose) same
  simp only [bind_assoc, pure_bind] at bound
  have chosen : ∀ result, choose (result, seen result) = other result := by
    intro result
    dsimp only [choose]
    split
    · next there => exact agree result there
    · rfl
  have taken : ∀ result, choose (result, expected result) = next result := fun _ => if_pos rfl
  simpa only [chosen, taken] using bound.symm

/-- What follows a write may rely on the text being there. -/
theorem Store.bind_put_congr {σ α : Type} {m : Type → Type} [Store σ m] [Monad m] [LawfulMonad m]
    [Store.Remembers σ] {store : σ} {name text : String} {next other : Stored σ → m α}
    (agree : ∀ outcome, Store.get? outcome.store name = some text → next outcome = other outcome) :
    Store.put store name text >>= next = Store.put store name text >>= other :=
  bind_congr_of_seen (Store.Remembers.get?_put store name text) agree

instance : Store.Remembers MemoryStore where
  get?_put store name text := by
    have there : (store.values.insert name text).get? name = some text :=
      store.values.get?_insert_self name text
    exact congrArg (fun found => (_, found)) there

instance : Store.Remembers FileStore where
  get?_put store name text := by
    have there : (store.values.insert name text).get? name = some text :=
      store.values.get?_insert_self name text
    simp only [Store.put, Store.get?, bind_assoc]
    refine bind_congr fun written => ?_
    cases written <;> simp only [pure_bind, there]

/-! ## Names apart -/

/-- What a put leaves under every name when it succeeds, and nothing in particular when it fails. -/
def Stored.expected {σ : Type} {m : Type → Type} [Store σ m] (store : σ) (name text : String)
    (outcome : Stored σ) : String → Option String :=
  if outcome.fault?.isNone then Function.update (Store.get? store) name (some text)
  else Store.get? outcome.store

/-- A store in which a put that succeeds changes its own name and no other. -/
class Store.Separates (σ : Type) {m : outParam (Type → Type)} [Store σ m] [Monad m] : Prop where
  get?_put (store : σ) (name text : String) :
    (do
      let outcome ← Store.put store name text
      pure (outcome, Store.get? outcome.store)) =
    (do
      let outcome ← Store.put store name text
      pure (outcome, outcome.expected store name text))

instance : Store.Separates MemoryStore where
  get?_put store name text :=
    congrArg (Prod.mk _) (store.values.get?_insert name text)

instance : Store.Separates RefusingStore where
  get?_put store name text := by
    have there := store.values.get?_insert name text
    simp only [Store.put, Stored.expected]
    split
    · rfl
    · exact congrArg (Prod.mk _) there

instance : Store.Separates FileStore where
  get?_put store name text := by
    have there : (store.values.insert name text).get? = Function.update (Store.get? store) name
        (some text) := store.values.get?_insert name text
    simp only [Store.put, bind_assoc]
    refine bind_congr fun written => ?_
    cases written with
    | ok => simp only [pure_bind, Stored.expected, Option.isNone_none, if_true, Store.get?, there]
    | error fault => simp only [pure_bind, Stored.expected, Option.isNone_some]; rfl

end QueryNotebook
