import Overlay.JsonRpc.ErrorObject
import Overlay.Text.Keyed

namespace Overlay.JsonRpc

inductive Completion
  | result (v : Json)
  | failure (e : ErrorObject)
  | aborted

abbrev Handler (σ : Type) := (id params : Json) → StateM σ Completion

structure Methods (σ : Type) where
  entries : List (String × Handler σ) := []

namespace Methods

def register (name : String) (h : Handler σ) (ms : Methods σ) : Methods σ :=
  ⟨Text.insertKey name h ms.entries⟩

def find? (ms : Methods σ) (name : String) : Option (Handler σ) := ms.entries.lookup name

def contains (ms : Methods σ) (name : String) : Bool := (ms.find? name).isSome

def names (ms : Methods σ) : List String := ms.entries.map (·.1)

def size (ms : Methods σ) : Nat := ms.entries.length

def isEmpty (ms : Methods σ) : Bool := ms.entries.isEmpty

@[simp] theorem find?_register_self (name : String) (h : Handler σ) (ms : Methods σ) :
    (ms.register name h).find? name = some h :=
  Text.lookup_insertKey_self name h ms.entries

theorem find?_register_of_ne {name other : String} (hne : other ≠ name) (h : Handler σ)
    (ms : Methods σ) : (ms.register name h).find? other = ms.find? other :=
  Text.lookup_insertKey_of_ne hne h ms.entries

end Methods
end Overlay.JsonRpc
