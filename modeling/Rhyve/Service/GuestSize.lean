import Rhyve.Service.NoPanic

/-! # The size of a guest (`run_guest` of `main.rs`)

The handler documents the size as the requested MiB, at least the minimum, rounded up to large pages. The
shift that turns MiB into bytes and the rounding are those of `usize`.

* `Documented`: the sizes that meet the description. There is at most one for a request.
* `sizePassedOn`: the size with which the handler calls `init_hypervisor`.
* `guest_size_documented_iff`: for which requests the two agree.
-/

namespace Rhyve.Service
open Paging
set_option autoImplicit false

def clampedMib (memMib : Option (BitVec 64)) : ℕ :=
  max (memMib.getD defaultGuestMib).toNat minGuestMib.toNat

/-- The requested size, rounded up to large pages. -/
structure Documented (memMib : Option (BitVec 64)) (size : BitVec 64) : Prop where
  largePages : size.toNat % 2 ^ 21 = 0
  minimum : 128 * 2 ^ 20 ≤ size.toNat
  enough : 2 ^ 20 * clampedMib memMib ≤ size.toNat
  least : size.toNat < 2 ^ 20 * clampedMib memMib + 2 ^ 21

def sizePassedOn (name : String) (memMib : Option (BitVec 64)) : Option (BitVec 64) :=
  if invalidName name then none else some (guestSize memMib)

section Requests
variable {κ ι τ : Type} (lib : Libraries κ ι τ) (host : RunHost)

/-- What the handler makes of the result. The text of an error goes to the stream, a panic ends the task. -/
def outcomeOf : Except Abort Guest → Except Panic Outcome
  | .ok guest => .ok (.guest guest)
  | .error (.error e) => .ok (.failed ("\n[run failed: " ++ debug e ++ "]\n"))
  | .error (.panic p) => .error p

theorem runGuest_eq (files : String → ImageFile) (name : String) (memMib : Option (BitVec 64)) :
    runGuest lib host files name memMib =
      (sizePassedOn name memMib).elim (.ok (.badRequest "invalid file name\n")) fun size =>
        outcomeOf (initHypervisor lib host (files ("/image/" ++ name)) size) := by
  unfold runGuest sizePassedOn
  by_cases hname : invalidName name = true
  · rw [if_pos hname, if_pos hname]
    rfl
  · rw [if_neg hname, if_neg hname]
    simp only [Option.elim_some]
    cases initHypervisor lib host (files ("/image/" ++ name)) (guestSize memMib) with
    | ok guest => rfl
    | error a => cases a <;> rfl

theorem clampedMib_ge (memMib : Option (BitVec 64)) : 128 ≤ clampedMib memMib :=
  Nat.le_max_right _ _

/-- Up to here the shift loses no bit and the rounding does not overflow. -/
theorem guestSize_documented {memMib : Option (BitVec 64)} (h : clampedMib memMib ≤ 2 ^ 44 - 2) :
    Documented memMib (guestSize memMib) := by
  have hmin := clampedMib_ge memMib
  have hsize := guestSize_toNat memMib
  have hmib : requestedMib memMib = clampedMib memMib := Nat.mod_eq_of_lt (by
    change clampedMib memMib < 2 ^ 44
    omega)
  rw [hmib, largePageBytes] at hsize
  exact ⟨by omega, by omega, by omega, by omega⟩

theorem Documented.bound {memMib : Option (BitVec 64)} {size : BitVec 64} (h : Documented memMib size) :
    clampedMib memMib ≤ 2 ^ 44 - 2 := by
  have hlt := size.isLt
  have hpages := h.largePages
  have henough := h.enough
  omega

/-- A request is run with the documented size if and only if the size is one of `usize`. The handler
never refuses a request for its size. -/
theorem guest_size_documented_iff (files : String → ImageFile) (name : String)
    (memMib : Option (BitVec 64)) :
    (runGuest lib host files name memMib =
        (sizePassedOn name memMib).elim (.ok (.badRequest "invalid file name\n")) fun size =>
          outcomeOf (initHypervisor lib host (files ("/image/" ++ name)) size)) ∧
      ((∃ size, Documented memMib size) ↔ clampedMib memMib ≤ 2 ^ 44 - 2) ∧
      ((∀ size, sizePassedOn name memMib = some size → Documented memMib size) ↔
        invalidName name = true ∨ clampedMib memMib ≤ 2 ^ 44 - 2) := by
  refine ⟨runGuest_eq lib host files name memMib, ⟨fun ⟨_, h⟩ => h.bound, fun h =>
    ⟨_, guestSize_documented h⟩⟩, ?_⟩
  unfold sizePassedOn
  by_cases hname : invalidName name = true
  · rw [if_pos hname]
    refine ⟨fun _ => .inl hname, fun _ size h => ?_⟩
    cases h
  · rw [if_neg hname]
    constructor
    · intro h
      exact .inr (h _ rfl).bound
    · intro h size hsize
      rw [← Option.some.inj hsize]
      exact guestSize_documented (h.resolve_left hname)

end Requests

/-- A request for 16 EiB and 512 MiB is one for 512 MiB, and the largest requests are for no memory. -/
theorem oversized_request_shrinks :
    sizePassedOn "hello" (some 0x100000000200#64) = some 0x20000000#64 ∧
      ¬ Documented (some 0x100000000200#64) 0x20000000#64 ∧
      runGuest (kernelOf 0x1000#64) readyHost storedImage "hello" (some 0x100000000200#64) =
        runGuest (kernelOf 0x1000#64) readyHost storedImage "hello" (some 512#64) ∧
      sizePassedOn "hello" (some 0xFFFFFFFFFFF#64) = some 0#64 := by
  have hsize : guestSize (some 0x100000000200#64) = guestSize (some 512#64) := by decide
  refine ⟨by decide, fun h => absurd h.bound (by decide), ?_, by decide⟩
  unfold runGuest
  rw [hsize]

end Rhyve.Service
