import Rhyve.Lib.Machine
import Rhyve.Service.Boots

/-! # The guest buffer of a run request

`init_hypervisor` allocates the guest's memory and frees it after the run. In between it can return early with
an error, which the question mark operator passes on past the deallocation.

* `initHypervisorRun`: the whole function, with its allocations as events.
* `Booted`: what has to succeed for the guest to be run at all.
* `guest_memory_released_iff`: in every sequence of requests, every call that returned has freed its buffer
  exactly if all of them booted their guest.
* `failed_run_leaks`: a request for a file that does not exist.
-/

namespace Rhyve.Service
open ByteMem Errors Machine Paging
set_option autoImplicit false

/-- A guest buffer. -/
structure Buffer where
  base : BitVec 64
  size : BitVec 64
  deriving DecidableEq, Repr

/-- The buffer is allocated, or given back. -/
inductive MemEvent where
  | allocated (b : Buffer)
  | deallocated (b : Buffer)
  deriving DecidableEq, Repr

/-- A computation that can fail, and that keeps its events when it does. -/
abbrev Traced (α : Type) := ExceptT Abort (StateM (List MemEvent)) α

def emit (e : MemEvent) : Traced Unit := modify fun events => events ++ [e]

/-- A step that allocates no guest memory. -/
def step {α : Type} (x : Except Abort α) : Traced α := ExceptT.mk (pure x)

/-- How the vCPU is created and how its run ends. `Cpu::new` unwraps the backend it creates. -/
structure VcpuEnd where
  newCpu : BitVec 64 → Option Panic
  run : Except Panic (Except HypervisorError Unit)

def orPanic : Option Panic → Except Abort Unit
  | none => .ok ()
  | some p => .error (.panic p)

/-- A panic, among other ways not to return. -/
def panicOr {α : Type} : Except Panic α → Except Abort α
  | .ok a => .ok a
  | .error p => .error (.panic p)

/-- The `Result` of `Cpu::run`, passed on by `?`. -/
def returned : Except HypervisorError Unit → Except Abort Unit
  | .ok () => .ok ()
  | .error e => .error (.error e)

/-- The environment of one call of `init_hypervisor`. -/
structure RunRequest where
  host : RunHost
  image : ImageFile
  guestSize : BitVec 64
  vcpu : VcpuEnd

def RunRequest.buffer (r : RunRequest) : Buffer := ⟨r.host.allocate r.guestSize, r.guestSize⟩

section Run
variable {κ ι τ : Type} (lib : Libraries κ ι τ)

/-- `Vm::create_cpu`. The constructors of the vCPUs panic where the processor lacks something. -/
def createCpu (r : RunRequest) (vm : Vm) : Except Abort Unit := do
  let pointer ← r.host.scheme.pointer r.host.tables vm.paging
  orPanic (r.vcpu.newCpu pointer)

/-- `init_hypervisor` to its end. The buffer is a plain allocation, so `?` and panics do not give it back. -/
def initHypervisorRun (r : RunRequest) : Traced Unit := do
  emit (.allocated r.buffer)
  let guest ← step (initHypervisor lib r.host r.image r.guestSize)
  step (createCpu r guest.vm)
  let result ← step (panicOr r.vcpu.run)
  emit (.deallocated r.buffer)
  step (returned result)

/-! ## Sequences of requests -/

/-- A run request, with what it did to the memory. -/
structure Call where
  request : RunRequest
  events : List MemEvent

def Buffer.after (live : List Buffer) : MemEvent → List Buffer
  | .allocated b => b :: live
  | .deallocated b => live.erase b

/-- One request. A panic ends the service. -/
def serveRun (live : List Buffer) (r : RunRequest) : Option (List Buffer) × List Call :=
  match (initHypervisorRun lib r).run [] with
  | (.error (.panic _), _) => (none, [])
  | (_, events) => (some (events.foldl Buffer.after live), [⟨r, events⟩])

/-- The call has freed the buffer that it allocated, once. -/
def Call.Released (call : Call) : Prop :=
  call.events = [.allocated call.request.buffer, .deallocated call.request.buffer]

/-- Every call has released its buffer, and between two calls nothing is live. -/
structure Releases (calls : List Call) (live : Option (List Buffer)) : Prop where
  once : ∀ call ∈ calls, call.Released
  none_live : ∀ bs, live = some bs → bs = []

/-- The image is read and parsed, the VM is built, and its nested-paging pointer can be formed. -/
structure Booted (r : RunRequest) : Prop where
  image : ∃ kernel, Parses lib r.image kernel
  vm : ∃ vm, Vm.new r.host (r.host.allocate r.guestSize) r.guestSize = .ok vm ∧
    ∃ pointer, r.host.scheme.pointer r.host.tables vm.paging = .ok pointer

/-! ## One call -/

section Call
variable {lib} {r : RunRequest}

theorem initHypervisor_vm {guest : Guest} (h : initHypervisor lib r.host r.image r.guestSize = .ok guest) :
    (∃ kernel, Parses lib r.image kernel) ∧
      Vm.new r.host (r.host.allocate r.guestSize) r.guestSize = .ok guest.vm := by
  obtain ⟨kernel, -, -, hparses, -, -, -, -, -, hvm⟩ := initHypervisor_ok h
  exact ⟨⟨kernel, hparses⟩, hvm⟩

/-- How a request can end, and with which events. -/
inductive Ends (lib : Libraries κ ι τ) (r : RunRequest) : Except Abort Unit → List MemEvent → Prop
  | image {e : Abort} : initHypervisor lib r.host r.image r.guestSize = .error e →
      Ends lib r (.error e) [.allocated r.buffer]
  | vcpu {guest : Guest} {e : Abort} : initHypervisor lib r.host r.image r.guestSize = .ok guest →
      createCpu r guest.vm = .error e → Ends lib r (.error e) [.allocated r.buffer]
  | crash {guest : Guest} {p : Panic} : initHypervisor lib r.host r.image r.guestSize = .ok guest →
      Ends lib r (.error (.panic p)) [.allocated r.buffer]
  | run {guest : Guest} {result : Except HypervisorError Unit} :
      initHypervisor lib r.host r.image r.guestSize = .ok guest → createCpu r guest.vm = .ok () →
      Ends lib r (returned result) [.allocated r.buffer, .deallocated r.buffer]

theorem run_ends (lib : Libraries κ ι τ) (r : RunRequest) :
    Ends lib r ((initHypervisorRun lib r).run []).1 ((initHypervisorRun lib r).run []).2 := by
  cases hinit : initHypervisor lib r.host r.image r.guestSize with
  | error e =>
    have hrun : (initHypervisorRun lib r).run [] = (.error e, [.allocated r.buffer]) := by
      unfold initHypervisorRun
      rw [hinit]
      rfl
    rw [hrun]
    exact .image hinit
  | ok guest =>
    cases hcreate : createCpu r guest.vm with
    | error e =>
      have hrun : (initHypervisorRun lib r).run [] = (.error e, [.allocated r.buffer]) := by
        unfold initHypervisorRun
        rw [hinit]
        show (step (createCpu r guest.vm) >>= _ : Traced Unit).run _ = _
        rw [hcreate]
        rfl
      rw [hrun]
      exact .vcpu hinit hcreate
    | ok u =>
      cases hend : r.vcpu.run with
      | error p =>
        have hrun : (initHypervisorRun lib r).run [] = (.error (.panic p), [.allocated r.buffer]) := by
          unfold initHypervisorRun
          rw [hinit, hend]
          show (step (createCpu r guest.vm) >>= _ : Traced Unit).run _ = _
          rw [hcreate]
          rfl
        rw [hrun]
        exact .crash hinit
      | ok result =>
        have hrun : (initHypervisorRun lib r).run [] =
            (returned result, [.allocated r.buffer, .deallocated r.buffer]) := by
          unfold initHypervisorRun
          rw [hinit, hend]
          show (step (createCpu r guest.vm) >>= _ : Traced Unit).run _ = _
          rw [hcreate]
          rfl
        rw [hrun]
        exact .run hinit hcreate

theorem createCpu_pointer {vm : Vm} (h : createCpu r vm = .ok ()) :
    ∃ pointer, r.host.scheme.pointer r.host.tables vm.paging = .ok pointer := by
  obtain ⟨pointer, hpointer, -⟩ := bind_ok h
  exact ⟨pointer, hpointer⟩

theorem createCpu_error {vm : Vm} {e : HypervisorError} (h : createCpu r vm = .error (.error e))
    (pointer : BitVec 64) : r.host.scheme.pointer r.host.tables vm.paging ≠ .ok pointer := by
  intro hpointer
  unfold createCpu at h
  rw [hpointer] at h
  change orPanic (r.vcpu.newCpu pointer) = _ at h
  cases hnew : r.vcpu.newCpu pointer with
  | none =>
    rw [hnew] at h
    cases h
  | some p =>
    rw [hnew] at h
    cases h

/-- A call that returns has freed its buffer if it booted the guest, and otherwise not. -/
theorem ends_released {result : Except Abort Unit} {events : List MemEvent} (h : Ends lib r result events)
    (hfree : Avoids isPanic result) :
    (Booted lib r ∧ events = [.allocated r.buffer, .deallocated r.buffer]) ∨
      (¬ Booted lib r ∧ events = [.allocated r.buffer]) := by
  cases h with
  | image hinit =>
    refine .inr ⟨?_, rfl⟩
    rintro ⟨⟨kernel, hparses⟩, vm, hvm, -⟩
    have hinitFree : Avoids isPanic (initHypervisor lib r.host r.image r.guestSize) := by
      rw [hinit]
      exact hfree
    obtain ⟨guest, hguest⟩ := initHypervisor_boots hinitFree hparses hvm
    rw [hinit] at hguest
    cases hguest
  | @vcpu guest e hinit hcreate =>
    refine .inr ⟨?_, rfl⟩
    rintro ⟨-, vm, hvm, pointer, hpointer⟩
    have hsame : vm = guest.vm := Except.ok.inj (hvm.symm.trans (initHypervisor_vm hinit).2)
    rw [hsame] at hpointer
    cases e with
    | panic p => exact absurd trivial hfree
    | error err => exact createCpu_error hcreate pointer hpointer
  | crash hinit => exact absurd trivial hfree
  | run hinit hcreate =>
    obtain ⟨himage, hvm⟩ := initHypervisor_vm hinit
    exact .inl ⟨⟨himage, _, hvm, createCpu_pointer hcreate⟩, rfl⟩

/-! ## Sequences -/

theorem serveRun_cases (lib : Libraries κ ι τ) (live : List Buffer) (r : RunRequest) :
    serveRun lib live r = (none, []) ∨
      ∃ events, serveRun lib live r = (some (events.foldl Buffer.after live), [⟨r, events⟩]) ∧
        ((Booted lib r ∧ events = [.allocated r.buffer, .deallocated r.buffer]) ∨
          (¬ Booted lib r ∧ events = [.allocated r.buffer])) := by
  have hends := run_ends lib r
  unfold serveRun
  generalize (initHypervisorRun lib r).run [] = out at hends ⊢
  obtain ⟨result, events⟩ := out
  cases result with
  | ok u => exact .inr ⟨events, rfl, ends_released hends trivial⟩
  | error e =>
    cases e with
    | panic p => exact .inl rfl
    | error err => exact .inr ⟨events, rfl, ends_released hends (fun h => h)⟩

theorem released_live (live : List Buffer) (b : Buffer) :
    [MemEvent.allocated b, .deallocated b].foldl Buffer.after live = live := by
  show (b :: live).erase b = live
  exact List.erase_cons_head b live

end Call

/-- Every call has released its buffer if and only if it booted its guest; if all did, nothing is live. -/
structure Accounted (live : List Buffer) (calls : List Call) : Prop where
  released : ∀ call ∈ calls, call.Released ↔ Booted lib call.request
  idle : (∀ call ∈ calls, Booted lib call.request) → live = []

theorem Accounted.call {live : List Buffer} {calls : List Call} (h : Accounted lib live calls)
    {r : RunRequest} {events : List MemEvent}
    (hcall : (Booted lib r ∧ events = [.allocated r.buffer, .deallocated r.buffer]) ∨
      (¬ Booted lib r ∧ events = [.allocated r.buffer])) :
    Accounted lib (events.foldl Buffer.after live) (calls ++ [⟨r, events⟩]) := by
  refine ⟨?_, ?_⟩
  · intro call hmem
    rcases List.mem_append.mp hmem with hold | hnew
    · exact h.released call hold
    · rw [List.mem_singleton.mp hnew]
      rcases hcall with ⟨hbooted, hevents⟩ | ⟨hfailed, hevents⟩
      · exact ⟨fun _ => hbooted, fun _ => hevents⟩
      · refine ⟨fun hreleased => ?_, fun hbooted => absurd hbooted hfailed⟩
        have hlength := congrArg List.length (hevents.symm.trans hreleased)
        cases hlength
  · intro hall
    have hr := hall ⟨r, events⟩ (List.mem_append_right calls (List.mem_singleton_self _))
    rcases hcall with ⟨-, hevents⟩ | ⟨hfailed, -⟩
    · rw [hevents, released_live]
      exact h.idle fun call hmem => hall call (List.mem_append_left _ hmem)
    · exact absurd hr hfailed

theorem run_accounted (rs : List RunRequest) :
    (∀ call ∈ (Machine.run (serveRun lib) [] rs).2, call.Released ↔ Booted lib call.request) ∧
      ∀ live, (Machine.run (serveRun lib) [] rs).1 = some live →
        Accounted lib live (Machine.run (serveRun lib) [] rs).2 := by
  have hstep : ∀ (live : List Buffer) (calls : List Call) (r : RunRequest), Accounted lib live calls → True →
      (∀ call ∈ calls ++ (serveRun lib live r).2, call.Released ↔ Booted lib call.request) ∧
        ∀ live', (serveRun lib live r).1 = some live' →
          Accounted lib live' (calls ++ (serveRun lib live r).2) := by
    intro live calls r hI _
    rcases serveRun_cases lib live r with h | ⟨events, h, hcall⟩
    · rw [h, List.append_nil]
      refine ⟨hI.released, ?_⟩
      intro live' hlive
      cases hlive
    · rw [h]
      refine ⟨(hI.call lib hcall).released, ?_⟩
      intro live' hlive
      rw [← Option.some.inj hlive]
      exact hI.call lib hcall
  have hstart : Accounted lib [] [] := by
    refine ⟨?_, fun _ => rfl⟩
    intro call hmem
    cases hmem
  exact run_log (Accounted lib) (fun calls => ∀ call ∈ calls, call.Released ↔ Booted lib call.request) hstep
    [] hstart hstart.released (along_true [] rs)

theorem guest_memory_released_iff (rs : List RunRequest) :
    Releases (Machine.run (serveRun lib) [] rs).2 (Machine.run (serveRun lib) [] rs).1 ↔
      ∀ call ∈ (Machine.run (serveRun lib) [] rs).2, Booted lib call.request := by
  obtain ⟨hcalls, hlive⟩ := run_accounted lib rs
  refine ⟨?_, ?_⟩
  · intro h call hmem
    exact (hcalls call hmem).mp (h.once call hmem)
  · intro hall
    refine ⟨fun call hmem => (hcalls call hmem).mpr (hall call hmem), ?_⟩
    intro live hend
    exact (hlive live hend).idle hall

end Run

/-- A request for an image that does not exist. -/
def missingRequest : RunRequest where
  host := readyHost
  image := ⟨none, false, none⟩
  guestSize := guestSize none
  vcpu := ⟨fun _ => none, .ok (.ok ())⟩

/-- The call returns an error, and its 512 MiB stay allocated. -/
theorem failed_run_leaks :
    ((initHypervisorRun (kernelOf 0x1000#64) missingRequest).run []).2 = [.allocated missingRequest.buffer] ∧
    missingRequest.buffer.size = 0x20000000#64 ∧
    ¬ Releases (Machine.run (serveRun (kernelOf 0x1000#64)) [] [missingRequest]).2
      (Machine.run (serveRun (kernelOf 0x1000#64)) [] [missingRequest]).1 := by
  refine ⟨rfl, by decide, ?_⟩
  intro h
  have hlive := h.none_live [missingRequest.buffer] rfl
  cases hlive

end Rhyve.Service
