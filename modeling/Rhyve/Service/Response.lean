import Rhyve.Service.Boots
import Rhyve.Service.Vcpus
import Rhyve.Vcpu.Stream

/-! # The response to a run request (`main.rs`)

`POST /run/{name}` answers at once, with a body that is a channel. The blocking task sends into it: the serial output of
the guest while it runs, and a text if the run fails. The body ends when the task does.

* `respond`: the body after the backend has returned any number of times.
* `Grows`: what has been sent is not taken back. `grows_run`: a whole loop.
* `response_streams`: what the client has received at any time, and how it goes on.
-/

namespace Rhyve.Service
open Device Errors Paging
set_option autoImplicit false

def bootStackTop : BitVec 64 := 0x70000#64

/-- The guest's memory in the address space of the host. An allocation does not wrap and has at most `isize::MAX` bytes;
the code takes only the address from it. -/
def Vm.layout (vm : Vm) : Vcpu.VmMemoryLayout where
  startAddr := vm.guestBase
  len := min vm.guestSize.toNat (min (2 ^ 64 - vm.guestBase.toNat) (2 ^ 63 - 1))
  fits := by
    have hlt := vm.guestBase.isLt
    omega
  alloc := by omega

/-- The answer to a run request. -/
inductive Response where
  | badRequest (body : String)
  /-- The chunks sent so far; the body has ended if the task has. -/
  | stream (chunks : List (List (BitVec 8))) (ended : Bool)
  deriving DecidableEq, Repr

def utf8 (text : String) : List (BitVec 8) := text.toUTF8.toList.map UInt8.toBitVec

def runFailed (e : HypervisorError) : String := "\n[run failed: " ++ debug e ++ "]\n"

section Respond
variable {κ ι τ : Type} (lib : Libraries κ ι τ) (host : RunHost) (cpu : CpuHost) (I : Vcpu.Interface)

/-- The vCPU of the guest runs until the trace of the backend ends, or the loop does. -/
def runVcpu (guest : Guest) (exits : List Vcpu.Exit) : Except Panic Response :=
  match Vcpu.run I guest.vm.layout Uart.new.setSink exits with
  | (uart, .running) => .ok (.stream (uart.sink.getD []) false)
  | (uart, .returned) => .ok (.stream (uart.sink.getD []) true)
  | (uart, .failed e) => .ok (.stream (uart.sink.getD [] ++ [utf8 (runFailed e)]) true)
  | (_, .panicked p) => .error p

/-- The answer to a run request, once the vCPU has had these exits. What fails behind the check of the name is
text in the stream. -/
def respond (files : String → ImageFile) (name : String) (memMib : Option (BitVec 64)) (exits : List Vcpu.Exit) :
    Except Panic Response :=
  match runGuest lib host files name memMib with
  | .error p => .error p
  | .ok (.badRequest body) => .ok (.badRequest body)
  | .ok (.failed text) => .ok (.stream [utf8 text] true)
  | .ok (.guest guest) =>
    match guest.vm.createCpu host [] ⟨cpu, guest.entryPoint, bootStackTop⟩ with
    | .error (.panic p) => .error p
    | .error (.error e) => .ok (.stream [utf8 (runFailed e)] true)
    | .ok _ => runVcpu I guest exits

end Respond

/-! ## Sending -/

/-- The chunks of one UART are the first chunks of the other. -/
def Grows (u u' : Uart) : Prop := u.sink.getD [] <+: u'.sink.getD []

section Grows
variable {I : Vcpu.Interface} {L : Vcpu.VmMemoryLayout} {u : Uart}

theorem Grows.refl (u : Uart) : Grows u u := List.prefix_refl _

theorem grows_send (u : Uart) (chunk : List (BitVec 8)) : Grows u (u.send chunk) := by
  unfold Grows Uart.send
  cases u.sink with
  | none => exact List.prefix_refl _
  | some chunks => exact List.prefix_append _ _

theorem grows_writeBuffer (u : Uart) (buf : List (BitVec 8)) : Grows u (u.writeBuffer buf) := by
  unfold Uart.writeBuffer
  rw [Uart.filterBuffer_eq]
  exact grows_send { u with ansi := _ } _

theorem grows_write (u : Uart) (offset : BitVec 16) (value : BitVec 8) : Grows u (u.write offset value).2 := by
  unfold Uart.write Uart.ansiFilter
  split
  · dsimp only
    split
    · exact grows_send { u with ansi := _ } _
    · exact Grows.refl u
  · split
    · exact Grows.refl u
    · split
      · exact Grows.refl u
      · exact Grows.refl u

theorem grows_serveHypercall (hypercall : Vcpu.HypercallAddress) (data : BitVec 64) (h : Vcpu.HostState) :
    Grows u (Vcpu.serveHypercall I L hypercall data u h).uart := by
  cases hypercall with
  | serialWriteByte => exact grows_writeBuffer u _
  | serialWriteBuffer =>
    unfold Vcpu.serveHypercall
    dsimp only
    split
    · exact Grows.refl u
    · exact grows_writeBuffer u _
  | fileWrite =>
    unfold Vcpu.serveHypercall
    dsimp only
    split
    · split
      · exact Grows.refl u
      · exact grows_writeBuffer u _
    · exact Grows.refl u
  | exit | fileRead | fileOpen | fileClose | fileLseek | fileUnlink | other => exact Grows.refl u

theorem grows_serve (reason : ExitReason) (c : Vcpu.Cpu) : Grows c.uart (Vcpu.serve I L reason c).2.uart := by
  cases reason with
  | success | shutdown => exact Grows.refl _
  | ioInstruction q =>
    unfold Vcpu.serve Vcpu.serveIo
    dsimp only
    split
    · exact Grows.refl _
    · split
      · exact grows_serveHypercall _ _ _
      · split
        · exact Grows.refl _
        · split
          · exact grows_write _ _ _
          · exact Grows.refl _

/-- Whatever the loop is handed, it sends more and takes nothing back. -/
theorem grows_run (u : Uart) (xs : List Vcpu.Exit) : Grows u (Vcpu.run I L u xs).1 := by
  induction xs generalizing u with
  | nil => exact Grows.refl u
  | cons x xs ih =>
    unfold Vcpu.run
    split
    · exact Grows.refl u
    · rename_i reason hr
      have hserve := grows_serve (I := I) (L := L) reason ⟨u, x.regs, ⟨x.mem, []⟩⟩
      split
      · rename_i c hnext
        rw [hnext] at hserve
        exact List.IsPrefix.trans hserve (ih c.uart)
      · rename_i c hdone
        rw [hdone] at hserve
        exact hserve
      · rename_i p c hpanic
        rw [hpanic] at hserve
        exact hserve

end Grows

/-! ## More returns of the backend -/

/-- A loop that has not ended goes on where it stands. -/
def goOn (I : Vcpu.Interface) (L : Vcpu.VmMemoryLayout) (xs : List Vcpu.Exit) : Uart × Vcpu.Outcome → Uart × Vcpu.Outcome
  | (u, .running) => Vcpu.run I L u xs
  | r => r

theorem run_more (I : Vcpu.Interface) (L : Vcpu.VmMemoryLayout) (u : Uart) (xs ys : List Vcpu.Exit) :
    Vcpu.run I L u (xs ++ ys) = goOn I L ys (Vcpu.run I L u xs) := by
  induction xs generalizing u with
  | nil => rfl
  | cons x xs ih =>
    rw [List.cons_append, Vcpu.run, Vcpu.run]
    cases x.result with
    | error e => rfl
    | ok reason =>
      dsimp only
      cases Vcpu.serve I L reason ⟨u, x.regs, ⟨x.mem, []⟩⟩ with
      | mk flow c =>
        cases flow with
        | next => exact ih c.uart
        | done => rfl
        | panicked p => rfl

/-- The text that a loop that has ended sends. -/
def failureOf : Option Vcpu.Outcome → List (BitVec 8)
  | some (.failed e) => utf8 (runFailed e)
  | _ => []

theorem stops_ne_running (I : Vcpu.Interface) (x : Vcpu.Exit) : Vcpu.stops I x ≠ some .running := by
  unfold Vcpu.stops
  split
  · simp
  · simp
  · simp
  · split
    · simp
    · simp

section Vcpu
variable {I : Vcpu.Interface} {guest : Guest} {exits : List Vcpu.Exit} {chunks : List (List (BitVec 8))} {ended : Bool}

theorem runVcpu_stream {response : Response} (h : runVcpu I guest exits = .ok response) :
    ∃ chunks ended, response = .stream chunks ended := by
  unfold runVcpu at h
  split at h
  · exact ⟨_, _, (Except.ok.inj h).symm⟩
  · exact ⟨_, _, (Except.ok.inj h).symm⟩
  · exact ⟨_, _, (Except.ok.inj h).symm⟩
  · cases h

theorem runVcpu_body (hin : ∀ x ∈ exits, Vcpu.InRam I guest.vm.layout x)
    (h : runVcpu I guest exits = .ok (.stream chunks ended)) :
    chunks.flatten = ansi ((Vcpu.served I exits).flatMap (Vcpu.transmitted I guest.vm.layout)) ++
        failureOf (exits.findSome? (Vcpu.stops I)) ∧
      ended = (exits.findSome? (Vcpu.stops I)).isSome := by
  have hstart : Uart.new.setSink.Streamed [] := ⟨rfl, rfl, rfl⟩
  obtain ⟨hout, hend⟩ := Vcpu.run_streamed hin hstart
  have hbytes := hout.out
  rw [List.nil_append] at hbytes
  unfold Uart.output at hbytes
  unfold runVcpu at h
  cases hrun : Vcpu.run I guest.vm.layout Uart.new.setSink exits with
  | mk uart o =>
    rw [hrun] at h hbytes hend
    dsimp only at h hbytes hend
    rw [← hbytes]
    cases hstop : exits.findSome? (Vcpu.stops I) with
    | none =>
      rw [hstop] at hend
      obtain rfl : o = .running := hend
      obtain ⟨rfl, rfl⟩ := Response.stream.inj (Except.ok.inj h)
      exact ⟨(List.append_nil _).symm, rfl⟩
    | some o' =>
      rw [hstop] at hend
      obtain rfl : o = o' := hend
      cases o with
      | running =>
        obtain ⟨x, -, hx⟩ := List.exists_of_findSome?_eq_some hstop
        exact absurd hx (stops_ne_running I x)
      | returned =>
        obtain ⟨rfl, rfl⟩ := Response.stream.inj (Except.ok.inj h)
        exact ⟨(List.append_nil _).symm, rfl⟩
      | failed e =>
        obtain ⟨rfl, rfl⟩ := Response.stream.inj (Except.ok.inj h)
        refine ⟨?_, rfl⟩
        rw [List.flatten_append, List.flatten_singleton]
        rfl
      | panicked p => cases h

/-- The body goes on where it stands, and does not change any more once it has ended. -/
theorem runVcpu_more (h : runVcpu I guest exits = .ok (.stream chunks ended)) (more : List Vcpu.Exit) :
    (ended = true → runVcpu I guest (exits ++ more) = .ok (.stream chunks true)) ∧
      ∀ chunks' ended', runVcpu I guest (exits ++ more) = .ok (.stream chunks' ended') → chunks <+: chunks' := by
  have hmore := run_more I guest.vm.layout Uart.new.setSink exits more
  unfold runVcpu at h
  cases hrun : Vcpu.run I guest.vm.layout Uart.new.setSink exits with
  | mk uart o =>
    rw [hrun] at h hmore
    -- A loop that has ended stays as it is.
    have hended : ended = true → goOn I guest.vm.layout more (uart, o) = (uart, o) →
        runVcpu I guest (exits ++ more) = .ok (.stream chunks true) := by
      rintro rfl hgoOn
      unfold runVcpu
      rw [hmore, hgoOn]
      exact h
    have hsame : runVcpu I guest (exits ++ more) = .ok (.stream chunks true) →
        ∀ chunks' ended', runVcpu I guest (exits ++ more) = .ok (.stream chunks' ended') → chunks <+: chunks' := by
      intro hfinal chunks' ended' hthen
      obtain ⟨rfl, -⟩ := Response.stream.inj (Except.ok.inj (hfinal.symm.trans hthen))
      exact List.prefix_refl _
    cases o with
    | running =>
      obtain ⟨rfl, rfl⟩ := Response.stream.inj (Except.ok.inj h)
      refine ⟨nofun, ?_⟩
      intro chunks' ended' hthen
      have hgoOn : goOn I guest.vm.layout more (uart, .running) = Vcpu.run I guest.vm.layout uart more := rfl
      have hgrows := grows_run (I := I) (L := guest.vm.layout) uart more
      unfold runVcpu at hthen
      rw [hmore, hgoOn] at hthen
      cases hrest : Vcpu.run I guest.vm.layout uart more with
      | mk uart' o' =>
        rw [hrest] at hthen hgrows
        cases o' with
        | running | returned =>
          obtain ⟨rfl, -⟩ := Response.stream.inj (Except.ok.inj hthen)
          exact hgrows
        | failed e =>
          obtain ⟨rfl, -⟩ := Response.stream.inj (Except.ok.inj hthen)
          exact List.IsPrefix.trans hgrows (List.prefix_append _ _)
        | panicked p => cases hthen
    | returned | failed e =>
      have htrue : ended = true := (Response.stream.inj (Except.ok.inj h)).2.symm
      have hfinal := hended htrue rfl
      exact ⟨fun _ => hfinal, hsame hfinal⟩
    | panicked p => cases h

end Vcpu

/-! ## The request -/

section Request
variable {κ ι τ : Type} (lib : Libraries κ ι τ) (host : RunHost) (cpu : CpuHost) (I : Vcpu.Interface)

/-- Everything before the loop of the vCPU. -/
def startGuest (files : String → ImageFile) (name : String) (memMib : Option (BitVec 64)) : Except Abort Guest := do
  let guest ← initHypervisor lib host (files ("/image/" ++ name)) (guestSize memMib)
  let _ ← guest.vm.createCpu host [] ⟨cpu, guest.entryPoint, bootStackTop⟩
  return guest

theorem respond_eq (files : String → ImageFile) (name : String) (memMib : Option (BitVec 64)) (exits : List Vcpu.Exit) :
    respond lib host cpu I files name memMib exits =
      if invalidName name then .ok (.badRequest "invalid file name\n")
      else
        match startGuest lib host cpu files name memMib with
        | .error (.panic p) => .error p
        | .error (.error e) => .ok (.stream [utf8 (runFailed e)] true)
        | .ok guest => runVcpu I guest exits := by
  unfold respond runGuest startGuest
  cases invalidName name with
  | true => rfl
  | false =>
    simp only [Bool.false_eq_true, if_false]
    cases initHypervisor lib host (files ("/image/" ++ name)) (guestSize memMib) with
    | error a => cases a <;> rfl
    | ok guest =>
      dsimp only [ok_bind]
      cases guest.vm.createCpu host [] ⟨cpu, guest.entryPoint, bootStackTop⟩ with
      | error a => cases a <;> rfl
      | ok cpus => rfl

end Request

/-- A request is refused for its name, or streams: the filtered output of the guest, in order and whole, and after it a
text if and only if the run failed. What has been sent stays, and nothing follows the end. -/
theorem response_streams {κ ι τ : Type} (lib : Libraries κ ι τ) (host : RunHost) (cpu : CpuHost) (I : Vcpu.Interface)
    (files : String → ImageFile) (name : String) (memMib : Option (BitVec 64)) (exits more : List Vcpu.Exit)
    (hin : ∀ guest, startGuest lib host cpu files name memMib = .ok guest →
      ∀ x ∈ exits, Vcpu.InRam I guest.vm.layout x) (response : Response)
    (h : respond lib host cpu I files name memMib exits = .ok response) :
    (invalidName name = true ∧ response = .badRequest "invalid file name\n") ∨
    (invalidName name = false ∧ ∃ chunks ended, response = .stream chunks ended ∧
      ((∃ e, startGuest lib host cpu files name memMib = .error (.error e) ∧
          chunks.flatten = utf8 (runFailed e) ∧ ended = true) ∨
        ∃ guest, startGuest lib host cpu files name memMib = .ok guest ∧
          chunks.flatten = ansi ((Vcpu.served I exits).flatMap (Vcpu.transmitted I guest.vm.layout)) ++
            failureOf (exits.findSome? (Vcpu.stops I)) ∧
          ended = (exits.findSome? (Vcpu.stops I)).isSome) ∧
      (ended = true → respond lib host cpu I files name memMib (exits ++ more) = .ok response) ∧
      ∀ chunks' ended', respond lib host cpu I files name memMib (exits ++ more) = .ok (.stream chunks' ended') →
        chunks <+: chunks') := by
  rw [respond_eq] at h
  simp only [respond_eq lib host cpu I files name memMib (exits ++ more)]
  cases hname : invalidName name with
  | true =>
    rw [hname] at h
    exact .inl ⟨rfl, (Except.ok.inj h).symm⟩
  | false =>
    rw [hname] at h
    refine .inr ⟨rfl, ?_⟩
    simp only [Bool.false_eq_true, if_false] at h ⊢
    cases hstart : startGuest lib host cpu files name memMib with
    | error a =>
      cases a with
      | panic p =>
        rw [hstart] at h
        cases h
      | error e =>
        rw [hstart] at h
        obtain rfl := Except.ok.inj h
        refine ⟨_, _, rfl, .inl ⟨e, rfl, List.flatten_singleton, rfl⟩, fun _ => rfl, ?_⟩
        intro chunks' ended' hthen
        obtain ⟨rfl, -⟩ := Response.stream.inj (Except.ok.inj hthen)
        exact List.prefix_refl _
    | ok guest =>
      rw [hstart] at h
      dsimp only at h ⊢
      obtain ⟨chunks, ended, rfl⟩ := runVcpu_stream h
      obtain ⟨hbytes, hended⟩ := runVcpu_body (hin guest hstart) h
      obtain ⟨hfinal, hgrows⟩ := runVcpu_more h more
      refine ⟨chunks, ended, rfl, .inr ⟨guest, rfl, hbytes, hended⟩, ?_, hgrows⟩
      intro htrue
      rw [hfinal htrue, htrue]

/-! ## A guest of 512 MiB -/

def halfGiB : Vcpu.VmMemoryLayout := ⟨0x200000#64, 0x20000000, by decide, by decide⟩

theorem haltKernel_parses : Parses haltKernel (storedImage "/image/halt") () :=
  ⟨rfl, 122#64, elfImage, rfl, by decide, rfl, by decide +kernel⟩

theorem haltKernel_safe : Safe haltKernel readyHost (storedImage "/image/halt") none := by
  refine ⟨?_, ?_⟩
  · rintro len ⟨⟩ -
    decide
  · intro kernel _
    refine ⟨by decide, (by decide : kernelOffset + 2 ≤ largePageBytes (requestedMib none)), ⟨0, rfl, (), rfl⟩, by decide,
      sampleFdt, rfl, ?_⟩
    rw [sampleFdt_length]
    decide

theorem haltKernel_starts : ∃ guest,
    startGuest haltKernel readyHost idleCpuHost storedImage "halt" none = .ok guest ∧ guest.vm.layout = halfGiB := by
  have hsupplies : readyHost.tables.Supplies 519 := directHost_supplies.mono (by decide)
  obtain ⟨guest, hguest⟩ := request_boots readyHost_pages hsupplies rfl rfl haltKernel_safe haltKernel_parses
  obtain ⟨kernel, -, -, -, -, -, -, hentry, -, hvm⟩ := initHypervisor_ok hguest
  obtain ⟨hbase, hsize, -⟩ := vm_new_built readyHost_pages hvm
  obtain ⟨cpus, hcpus⟩ := haltCall_creates guest.vm []
  refine ⟨guest, ?_, ?_⟩
  · have hcall : (⟨idleCpuHost, guest.entryPoint, bootStackTop⟩ : CpuCall) = haltCall := by
      rw [hentry]
      rfl
    have himage : storedImage ("/image/" ++ "halt") = storedImage "/image/halt" := rfl
    rw [startGuest, himage, hguest, ok_bind, hcall, hcpus]
    rfl
  · have hstart : guest.vm.guestBase = 0x200000#64 := hbase
    have hlen : guest.vm.guestSize = 0x20000000#64 := hsize.trans (by decide)
    unfold Vm.layout halfGiB
    simp [hstart, hlen]

/-- A letter through the UART and two from a buffer in guest memory, then the guest shuts down: the body has ended, and
what a backend might return later would not change it. -/
theorem response_streams_letters : ∃ chunks,
    respond haltKernel readyHost idleCpuHost Vcpu.uhyveInterface storedImage "halt" none Vcpu.colouredLetters =
        .ok (.stream chunks true) ∧
      chunks.flatten = [0x41#8, 0x42#8, 0x43#8] ∧
      respond haltKernel readyHost idleCpuHost Vcpu.uhyveInterface storedImage "halt" none
        (Vcpu.colouredLetters ++ [Vcpu.outByte 0x44#64]) = .ok (.stream chunks true) := by
  have hname : invalidName "halt" = false := by decide
  obtain ⟨guest, hstart, hlayout⟩ := haltKernel_starts
  have hin : ∀ g, startGuest haltKernel readyHost idleCpuHost storedImage "halt" none = .ok g →
      ∀ x ∈ Vcpu.colouredLetters, Vcpu.InRam Vcpu.uhyveInterface g.vm.layout x := by
    intro g hg
    obtain rfl := Except.ok.inj (hstart.symm.trans hg)
    rw [hlayout]
    exact fun x hx => (Vcpu.colouredLetters_inRam x hx).mono rfl (by decide)
  have hresponds : ∃ response, respond haltKernel readyHost idleCpuHost Vcpu.uhyveInterface storedImage "halt" none
      Vcpu.colouredLetters = .ok response := by
    rw [respond_eq, hname, hstart]
    dsimp only
    unfold runVcpu
    rw [hlayout]
    exact ⟨.stream [[0x41#8], [0x42#8, 0x43#8]] true, by decide +kernel⟩
  obtain ⟨response, hresponds⟩ := hresponds
  rcases response_streams haltKernel readyHost idleCpuHost Vcpu.uhyveInterface storedImage "halt" none
    Vcpu.colouredLetters [Vcpu.outByte 0x44#64] hin response hresponds with
    ⟨hinvalid, -⟩ | ⟨-, chunks, ended, rfl, hbody, hfinal, -⟩
  · rw [hname] at hinvalid
    cases hinvalid
  · rcases hbody with ⟨e, hfailed, -⟩ | ⟨g, hg, hbytes, hended⟩
    · rw [hstart] at hfailed
      cases hfailed
    · obtain rfl := Except.ok.inj (hstart.symm.trans hg)
      rw [hlayout] at hbytes
      obtain rfl : ended = true := hended.trans (by decide +kernel)
      exact ⟨chunks, hresponds, hbytes.trans (by decide +kernel), hfinal rfl⟩

end Rhyve.Service
