import Mathlib.Data.Nat.Notation

/-! # Caches with tagged entries

A cache of the values of several functions. Every entry has the tag under which it was put there, and a lookup goes by
tag and key; nothing says which function an entry came from.

* `Faithful`: under this tag the cache holds values of this function only.
* `Faithful.lookup`: a hit is what the function gives.
-/

namespace Rhyve.TagCache
set_option autoImplicit false

/-- A cached value, under a key and for a tag. -/
structure Entry (τ κ ν : Type) where
  tag : τ
  key : κ
  value : ν
  deriving DecidableEq

variable {τ κ ν : Type}

def Faithful (cache : List (Entry τ κ ν)) (tag : τ) (f : κ → Option ν) : Prop :=
  ∀ e ∈ cache, e.tag = tag → f e.key = some e.value

section Faithful
variable {cache cache' : List (Entry τ κ ν)} {tag : τ} {f : κ → Option ν}

theorem faithful_nil : Faithful ([] : List (Entry τ κ ν)) tag f := nofun

theorem faithful_of_ne (h : ∀ e ∈ cache, e.tag ≠ tag) : Faithful cache tag f :=
  fun e he htag => absurd htag (h e he)

theorem Faithful.subset (h : Faithful cache tag f) (hsub : cache' ⊆ cache) : Faithful cache' tag f :=
  fun e he => h e (hsub he)

/-- A new entry under this tag has a value of the function. -/
theorem Faithful.cons (h : Faithful cache tag f) {e : Entry τ κ ν} (he : e.tag = tag → f e.key = some e.value) :
    Faithful (e :: cache) tag f :=
  List.forall_mem_cons.mpr ⟨he, h⟩

theorem Faithful.lookup (h : Faithful cache tag f) {k : κ} {v : ν} (hin : ⟨tag, k, v⟩ ∈ cache) : f k = some v :=
  h _ hin rfl

end Faithful

end Rhyve.TagCache
