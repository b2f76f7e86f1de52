import Rhyve.Vcpu.Confinement

/-! # The loop of `Cpu::run` and the serial output of the guest

The guest can transmit bytes on four paths: the UART's data register, `SerialWriteByte`,
`SerialWriteBuffer`, and `FileWrite` to stdout or stderr. `run` is the loop over a trace of what the
backend hands over at its returns.

* `transmitted`: the bytes that one exit asks to transmit.
* `stops`: the exits that end the run, and how.
* `serve_streamed`: one exit; `run_streamed`: a whole trace.
-/

namespace Rhyve.Vcpu
open ByteMem Device
set_option autoImplicit false

/-- One return of the backend: its result, and the registers and memory of the guest at that time. -/
structure Exit where
  result : Except HypervisorError ExitReason
  regs : GuestRegisters
  mem : HostMem

/-- How `Cpu::run` ends, or that it has not ended. -/
inductive Outcome where
  | running
  | returned
  | failed (e : HypervisorError)
  | panicked (p : Panic)
  deriving DecidableEq, Repr

/-- The loop of `Cpu::run`, on the exits that the backend returns. -/
def run (I : Interface) (L : VmMemoryLayout) : Uart → List Exit → Uart × Outcome
  | u, [] => (u, .running)
  | u, x :: xs =>
    match x.result with
    | .error e => (u, .failed e)
    | .ok reason =>
      match serve I L reason ⟨u, x.regs, ⟨x.mem, []⟩⟩ with
      | (.next, c) => run I L c.uart xs
      | (.done, c) => (c.uart, .returned)
      | (.panicked p, c) => (c.uart, .panicked p)

/-! ## What a trace asks for -/

def bufferAt (L : VmMemoryLayout) (mem : HostMem) (gpa : BitVec 64) (len : ℕ) : List (BitVec 8) :=
  (List.range len).map (view mem (guestPtr L gpa))

/-- The bytes that a hypercall transmits. -/
def transmittedBy (I : Interface) (L : VmMemoryLayout) (mem : HostMem) (data : BitVec 64) :
    HypercallAddress → List (BitVec 8)
  | .serialWriteByte => [data.setWidth 8]
  | .serialWriteBuffer =>
    bufferAt L mem (BitVec.ofNat 64 (fieldValue L mem data I.serialWriteBuffer.buf))
      (fieldValue L mem data I.serialWriteBuffer.len)
  | .fileWrite =>
    if fieldValue L mem data I.write.fd = 1 ∨ fieldValue L mem data I.write.fd = 2 then
      bufferAt L mem (BitVec.ofNat 64 (fieldValue L mem data I.write.buf))
        (fieldValue L mem data I.write.len)
    else []
  | _ => []

/-- The bytes that an exit transmits, through the port or by a hypercall. -/
def transmitted (I : Interface) (L : VmMemoryLayout) (x : Exit) : List (BitVec 8) :=
  match x.result with
  | .ok (.ioInstruction q) =>
    if isIn q then []
    else if portOf q = serialBase then [x.regs.rax.setWidth 8]
    else (I.tryFrom ((portOf q).setWidth 64)).elim [] (transmittedBy I L x.mem x.regs.rdi)
  | _ => []

def stops (I : Interface) (x : Exit) : Option Outcome :=
  match x.result with
  | .error e => some (.failed e)
  | .ok .shutdown => some .returned
  | .ok .success => none
  | .ok (.ioInstruction q) =>
    if isIn q = false ∧ (exitPorts.contains (portOf q) ∨ I.tryFrom ((portOf q).setWidth 64) = some .exit) then
      some .returned
    else none

/-- The exits served before the run ends. -/
def served (I : Interface) (xs : List Exit) : List Exit := xs.takeWhile fun x => (stops I x).isNone

/-- The hypercall's operands lie in guest memory. -/
def InRam (I : Interface) (L : VmMemoryLayout) (x : Exit) : Prop :=
  ∀ q, x.result = .ok (.ioInstruction q) → ∀ r ∈ named I L q x.regs x.mem, r.Inside L

/-- More memory behind the same start does not matter. -/
theorem InRam.mono {I : Interface} {L L' : VmMemoryLayout} {x : Exit} (h : InRam I L x)
    (hstart : L'.startAddr = L.startAddr) (hlen : L.len ≤ L'.len) : InRam I L' x := by
  obtain ⟨start, len, fits, alloc⟩ := L
  obtain ⟨start', len', fits', alloc'⟩ := L'
  obtain rfl : start' = start := hstart
  intro q hq r hr
  -- the regions depend on the start alone
  rcases h q hq r hr with hempty | hle
  · exact .inl hempty
  · exact .inr (hle.trans hlen)

/-! ## One exit -/

section Exit
variable {I : Interface} {L : VmMemoryLayout} {u : Uart} {bytes : List (BitVec 8)} {x : Exit}

theorem Region.Inside.len_lt {gpa : BitVec 64} {len : ℕ} (h : Region.Inside L ⟨gpa, len⟩) :
    ¬ 2 ^ 63 ≤ len := by
  have halloc := L.alloc
  rcases h with h | h
  · change len = 0 at h
    omega
  · change gpa.toNat + len ≤ L.len at h
    omega

theorem serveHypercall_streamed (h : u.Streamed bytes) {hypercall : HypercallAddress}
    {data : BitVec 64} {mem : HostMem} (hne : hypercall ≠ .exit)
    (hin : ∀ r ∈ namedBy I L mem data hypercall, r.Inside L) :
    (serveHypercall I L hypercall data u ⟨mem, []⟩).flow = .next ∧
      (serveHypercall I L hypercall data u ⟨mem, []⟩).uart.Streamed
        (bytes ++ transmittedBy I L mem data hypercall) := by
  have hsame : u.Streamed (bytes ++ []) := by
    rw [List.append_nil]
    exact h
  cases hypercall with
  | exit => exact absurd rfl hne
  | serialWriteByte => exact ⟨rfl, h.writeBuffer [data.setWidth 8]⟩
  | serialWriteBuffer =>
    have hlen := (hin _ (List.mem_cons_of_mem _ List.mem_cons_self)).len_lt
    unfold fieldValue at hlen
    simp only [serveHypercall, HostState.readField, hlen, if_false]
    exact ⟨trivial, h.writeBuffer _⟩
  | fileWrite =>
    unfold namedBy at hin
    unfold transmittedBy
    by_cases hfd : fieldValue L mem data I.write.fd = 1 ∨ fieldValue L mem data I.write.fd = 2
    · rw [if_pos hfd] at hin ⊢
      have hlen := (hin _ (List.mem_cons_of_mem _ List.mem_cons_self)).len_lt
      unfold fieldValue at hlen hfd
      simp only [serveHypercall, HostState.readField, hfd, hlen, if_true, if_false]
      exact ⟨trivial, h.writeBuffer _⟩
    · rw [if_neg hfd]
      unfold fieldValue at hfd
      simp only [serveHypercall, HostState.readField, hfd, if_false]
      exact ⟨trivial, hsame⟩
  | fileRead | fileOpen | fileClose | fileLseek | fileUnlink | other => exact ⟨rfl, hsame⟩

/-- `OUT` to a port that is neither an exit port nor a hypercall. -/
theorem serveIo_out_streamed (h : u.Streamed bytes) {q : BitVec 64} {regs : GuestRegisters}
    {host : HostState} (hout : isIn q = false) (hexit : ¬ exitPorts.contains (portOf q))
    (hcall : I.tryFrom ((portOf q).setWidth 64) = none) :
    (serveIo I L q ⟨u, regs, host⟩).1 = .next ∧
      (serveIo I L q ⟨u, regs, host⟩).2.uart.Streamed
        (bytes ++ if portOf q = serialBase then [regs.rax.setWidth 8] else []) := by
  have hnone : hypercallOf I q = none := by
    rw [hypercallOf, hout]
    exact hcall
  unfold serveIo
  rw [if_neg (fun hc => hexit hc.2), hnone]
  simp only [hout, Bool.false_eq_true, if_false]
  by_cases hport : portOf q = serialBase
  · have hserial : isSerial serialBase = true := by decide
    have hoff : serialBase - serialBase = regData := by decide
    rw [hport]
    simp only [hserial, hoff, if_true]
    exact ⟨trivial, h.write _⟩
  · rw [if_neg hport, List.append_nil]
    split
    · refine ⟨rfl, h.write_other (fun hz => hport ?_) _⟩
      have hsum : portOf q - serialBase + serialBase = 0#16 + serialBase := congrArg (· + serialBase) hz
      rw [BitVec.sub_add_cancel, BitVec.zero_add] at hsum
      exact hsum
    · exact ⟨rfl, h⟩

theorem serve_streamed (h : u.Streamed bytes) (hin : InRam I L x) (hgo : stops I x = none)
    {reason : ExitReason} (hr : x.result = .ok reason) :
    (serve I L reason ⟨u, x.regs, ⟨x.mem, []⟩⟩).1 = .next ∧
      (serve I L reason ⟨u, x.regs, ⟨x.mem, []⟩⟩).2.uart.Streamed (bytes ++ transmitted I L x) := by
  unfold stops at hgo
  unfold transmitted
  rw [hr] at hgo ⊢
  cases reason with
  | success =>
    refine ⟨rfl, ?_⟩
    rw [List.append_nil]
    exact h
  | shutdown => cases hgo
  | ioInstruction q =>
    simp only [ite_eq_right_iff, reduceCtorEq, imp_false, not_and, not_or] at hgo
    simp only [serve]
    by_cases hdir : isIn q = true
    · -- an `IN` changes RAX only
      have hnone : hypercallOf I q = none := by rw [hypercallOf, if_pos hdir]
      rw [if_pos hdir, List.append_nil]
      unfold serveIo
      rw [if_neg (by rw [hdir]; simp), hnone]
      simp only [hdir, if_true]
      exact ⟨trivial, h⟩
    · have hout : isIn q = false := by simpa using hdir
      obtain ⟨hexit, hnoexit⟩ := hgo hout
      rw [if_neg hdir]
      cases hcall : I.tryFrom ((portOf q).setWidth 64) with
      | none => exact serveIo_out_streamed h hout hexit hcall
      | some hypercall =>
        have hport : portOf q ≠ serialBase := by
          intro hp
          rw [hp, I.serial_free] at hcall
          cases hcall
        have hsome : hypercallOf I q = some hypercall := by
          rw [hypercallOf, if_neg hdir]
          exact hcall
        have hnamed := hin q hr
        rw [named, if_neg (fun hc => hexit hc.2), hsome] at hnamed
        rw [if_neg hport]
        unfold serveIo
        rw [if_neg (fun hc => hexit hc.2), hsome]
        exact serveHypercall_streamed h (fun he => hnoexit (by rw [hcall, he])) hnamed

theorem serve_stops {o : Outcome} (hstop : stops I x = some o) {reason : ExitReason}
    (hr : x.result = .ok reason) (c : Cpu) :
    o = .returned ∧ serve I L reason c = (.done, c) := by
  unfold stops at hstop
  rw [hr] at hstop
  cases reason with
  | success => cases hstop
  | shutdown => exact ⟨(Option.some.inj hstop).symm, rfl⟩
  | ioInstruction q =>
    simp only [Option.ite_none_right_eq_some, Option.some.injEq] at hstop
    obtain ⟨⟨hout, hport⟩, ho⟩ := hstop
    refine ⟨ho.symm, ?_⟩
    show serveIo I L q c = _
    unfold serveIo
    by_cases hexit : exitPorts.contains (portOf q)
    · simp only [hout, hexit, true_and, if_true]
    · have hcall := hport.resolve_left hexit
      have hsome : hypercallOf I q = some .exit := by
        rw [hypercallOf, hout]
        exact hcall
      rw [if_neg (fun hc => hexit hc.2), hsome]
      rfl

end Exit

/-! ## A whole trace -/

theorem run_streamed {I : Interface} {L : VmMemoryLayout} {xs : List Exit}
    (hin : ∀ x ∈ xs, InRam I L x) {u : Uart} {bytes : List (BitVec 8)} (h : u.Streamed bytes) :
    (run I L u xs).1.Streamed (bytes ++ (served I xs).flatMap (transmitted I L)) ∧
      (run I L u xs).2 = (xs.findSome? (stops I)).getD .running := by
  induction xs generalizing u bytes with
  | nil =>
    refine ⟨?_, rfl⟩
    change u.Streamed (bytes ++ [])
    rw [List.append_nil]
    exact h
  | cons x xs ih =>
    have hx := hin x List.mem_cons_self
    have hxs := fun y hy => hin y (List.mem_cons_of_mem x hy)
    rw [run, List.findSome?_cons]
    unfold served
    rw [List.takeWhile_cons]
    cases hstop : stops I x with
    | none =>
      cases hr : x.result with
      | error e =>
        rw [stops, hr] at hstop
        cases hstop
      | ok reason =>
        obtain ⟨hflow, hnext⟩ := serve_streamed h hx hstop hr
        have hih := ih hxs hnext
        simp only [Option.isNone_none, if_true, List.flatMap_cons]
        rw [← List.append_assoc]
        cases hserve : serve I L reason ⟨u, x.regs, ⟨x.mem, []⟩⟩ with
        | mk flow c =>
          rw [hserve] at hflow hih
          subst hflow
          exact hih
    | some o =>
      simp only [Option.isNone_some, Bool.false_eq_true, if_false, List.flatMap_nil, List.append_nil,
        Option.getD_some]
      cases hr : x.result with
      | error e =>
        rw [stops, hr] at hstop
        exact ⟨h, Option.some.inj hstop⟩
      | ok reason =>
        obtain ⟨ho, hserve⟩ := serve_stops (L := L) hstop hr ⟨u, x.regs, ⟨x.mem, []⟩⟩
        simp only [hserve]
        exact ⟨h, ho.symm⟩

/-- Nothing happens after the run has ended. -/
theorem run_append_stopped {I : Interface} {L : VmMemoryLayout} {xs : List Exit} {u : Uart}
    (hend : (xs.findSome? (stops I)).isSome = true) (rest : List Exit) :
    run I L u (xs ++ rest) = run I L u xs := by
  induction xs generalizing u with
  | nil => cases hend
  | cons x xs ih =>
    rw [List.findSome?_cons] at hend
    rw [List.cons_append, run, run]
    cases hr : x.result with
    | error e => rfl
    | ok reason =>
      cases hstop : stops I x with
      | none =>
        rw [hstop] at hend
        cases hserve : serve I L reason ⟨u, x.regs, ⟨x.mem, []⟩⟩ with
        | mk flow c =>
          simp only [hserve]
          cases flow with
          | next => exact ih hend
          | done | panicked p => rfl
      | some o =>
        obtain ⟨-, hserve⟩ := serve_stops (L := L) hstop hr ⟨u, x.regs, ⟨x.mem, []⟩⟩
        simp only [hserve]

/-- Serial output is the ANSI filter over the transmitted bytes, in trace order. -/
theorem serial_output_exact (I : Interface) (L : VmMemoryLayout) (mcr scr : BitVec 8) (xs : List Exit)
    (hin : ∀ x ∈ xs, InRam I L x) :
    (run I L ⟨mcr, scr, some [], .normal⟩ xs).1.output =
        ansi ((served I xs).flatMap (transmitted I L)) ∧
      (run I L ⟨mcr, scr, some [], .normal⟩ xs).2 = (xs.findSome? (stops I)).getD .running ∧
      ((xs.findSome? (stops I)).isSome = true → ∀ rest,
        run I L ⟨mcr, scr, some [], .normal⟩ (xs ++ rest) =
          run I L ⟨mcr, scr, some [], .normal⟩ xs) ∧
      ∀ ys, (∀ y ∈ ys, InRam I L y) →
        (served I ys).flatMap (transmitted I L) = (served I xs).flatMap (transmitted I L) →
        (run I L ⟨mcr, scr, some [], .normal⟩ ys).1.output =
          (run I L ⟨mcr, scr, some [], .normal⟩ xs).1.output := by
  have hstart : Uart.Streamed ⟨mcr, scr, some [], .normal⟩ [] := ⟨rfl, rfl, rfl⟩
  obtain ⟨hout, hend⟩ := run_streamed hin hstart
  refine ⟨hout.out, hend, fun hstop rest => run_append_stopped hstop rest, fun ys hys hsame => ?_⟩
  obtain ⟨hout', -⟩ := run_streamed hys hstart
  rw [hout'.out, hout.out, hsame]

/-- `OUT` of a byte to the UART's data register. -/
def outByte (b : BitVec 64) : Exit :=
  ⟨.ok (.ioInstruction 0x08000000#64), { GuestRegisters.zero with rax := b }, fun _ => 0⟩

/-- Guest memory in `onePage`: at 0x100 the parameters of a `SerialWriteBuffer`, at 0x200 its two bytes. -/
def letterBuffer : HostMem := fun v =>
  if v = 0x200101#64 then 2 else if v = 0x200108#64 then 2
  else if v = 0x200200#64 then 0x42 else if v = 0x200201#64 then 0x43 else 0

/-- `SerialWriteBuffer` of them. -/
def outBuffer : Exit :=
  ⟨.ok (.ioInstruction 0x10300000#64), { GuestRegisters.zero with rdi := 0x100#64 }, letterBuffer⟩

theorem outByte_inRam (b : BitVec 64) : InRam uhyveInterface onePage (outByte b) := by
  intro q hq r hr
  obtain rfl := ExitReason.ioInstruction.inj (Except.ok.inj hq)
  exact absurd hr List.not_mem_nil

theorem outBuffer_inRam : InRam uhyveInterface onePage outBuffer := by
  intro q hq
  obtain rfl := ExitReason.ioInstruction.inj (Except.ok.inj hq)
  decide +kernel

/-- An escape sequence, a letter, a buffer of two, and a shutdown. -/
def colouredLetters : List Exit :=
  [outByte 0x1b#64, outByte 0x5b#64, outByte 0x6d#64, outByte 0x41#64, outBuffer,
    ⟨.ok .shutdown, GuestRegisters.zero, fun _ => 0⟩]

theorem colouredLetters_inRam : ∀ x ∈ colouredLetters, InRam uhyveInterface onePage x := by
  intro x hx
  simp only [colouredLetters, List.mem_cons, List.not_mem_nil, or_false] at hx
  rcases hx with rfl | rfl | rfl | rfl | rfl | rfl
  · exact outByte_inRam _
  · exact outByte_inRam _
  · exact outByte_inRam _
  · exact outByte_inRam _
  · exact outBuffer_inRam
  · intro q hq
    cases hq

theorem serial_output_exact_sample :
    (run uhyveInterface onePage ⟨0, 0, some [], .normal⟩ colouredLetters).1.output = [0x41#8, 0x42#8, 0x43#8] := by
  rw [(serial_output_exact uhyveInterface onePage 0 0 colouredLetters colouredLetters_inRam).1]
  decide +kernel

end Rhyve.Vcpu
