import QueryNotebook.Dictionary
import QueryNotebook.Disk.Fault

/-!
# Stores

A store keeps texts under names from one run of the program to the next.  The program asks little of
it: the text under a name, and to keep a text at once.  Keeping may fail, and may need effects; the
class leaves both open.  Two stores in memory stand here, one that always keeps and one that
sometimes refuses.
-/

namespace QueryNotebook

/-- What storing a text leaves: the store, and why the text was not kept. -/
structure Stored (σ : Type) where
  store : σ
  fault? : Option ConfigFault

/-- A store whose writes have effects in `m`. -/
class Store (σ : Type) (m : outParam (Type → Type)) where
  /-- The text under a name. -/
  get? : σ → String → Option String
  /-- Keep a text under a name. -/
  put : σ → String → String → m (Stored σ)

/-- The text under a name, or another one when there is none. -/
def Store.getD {σ : Type} {m : Type → Type} [Store σ m] (store : σ) (name default : String) : String :=
  (Store.get? store name).getD default

/-- A store in memory. -/
structure MemoryStore where
  values : Dictionary String
deriving DecidableEq, Repr

/-- A store in memory without any text. -/
def MemoryStore.empty : MemoryStore := ⟨.empty⟩

instance : Store MemoryStore Id where
  get? store name := store.values.get? name
  put store name text := ⟨⟨store.values.insert name text⟩, none⟩

/-- A store in memory that refuses some of the texts that it is asked to keep: the one with number
`n` when `refuses n`. -/
structure RefusingStore where
  values : Dictionary String
  asked : Nat
  refuses : Nat → Bool

/-- Why a refusing store refuses. -/
def RefusingStore.refusal : ConfigFault :=
  .notSerialized "refused"

instance : Store RefusingStore Id where
  get? store name := store.values.get? name
  put store name text :=
    let next := { store with asked := store.asked + 1 }
    if store.refuses store.asked then ⟨next, some RefusingStore.refusal⟩
    else ⟨{ next with values := store.values.insert name text }, none⟩

end QueryNotebook
