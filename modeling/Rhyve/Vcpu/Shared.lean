import Mathlib.Logic.Function.Basic
import Rhyve.Lib.Machine
import Rhyve.Vcpu.Stream

/-! # The console that the vCPUs of a VM share (`vcpu.rs`, `vm.rs`)

The UART belongs to the VM. Every vCPU runs its own loop and takes the lock of the UART once for an exit that needs it,
so the exits of all vCPUs are served one after the other, in some order.

* `Console.step`: the next exit of one of the vCPUs. One whose loop has ended gets no more.
* `portValue`: what a port reads as, after the exits that were served before.
* `console_shared`: the output is the filter over the bytes of all vCPUs in that order, the registers keep what any of
  them wrote last, and every loop ends by its own exits.
-/

namespace Rhyve.Vcpu
open ByteMem Device Machine
set_option autoImplicit false

variable {ι : Type}

/-- The console that the vCPUs of a VM share, and how their loops have ended. -/
structure Console (ι : Type) where
  uart : Uart
  ended : ι → Option Outcome

/-- An exit that was served, and RAX afterwards. -/
structure ServedExit (ι : Type) where
  vcpu : ι
  exit : Exit
  rax : BitVec 64

/-- The exits of one vCPU. -/
def exitsOf [DecidableEq ι] (i : ι) (es : List (ι × Exit)) : List Exit := (es.filter fun e => e.1 = i).map Prod.snd

def Console.finish [DecidableEq ι] (s : Console ι) (i : ι) (o : Outcome) (uart : Uart) : Console ι :=
  ⟨uart, Function.update s.ended i (some o)⟩

/-- An exit of one of the vCPUs. The lock on the UART is held while it is served. -/
def Console.step [DecidableEq ι] (I : Interface) (L : VmMemoryLayout) (s : Console ι) (e : ι × Exit) :
    Option (Console ι) × List (ServedExit ι) :=
  if (s.ended e.1).isSome then (some s, [])
  else
    match e.2.result with
    | .error err => (some (s.finish e.1 (.failed err) s.uart), [])
    | .ok reason =>
      match serve I L reason ⟨s.uart, e.2.regs, ⟨e.2.mem, []⟩⟩ with
      | (.next, c) => (some { s with uart := c.uart }, [⟨e.1, e.2, c.regs.rax⟩])
      | (.done, c) => (some (s.finish e.1 .returned c.uart), [])
      | (.panicked p, c) => (some (s.finish e.1 (.panicked p) c.uart), [])

/-! ## The registers of the UART -/

/-- `OUT` of a byte to a port that is neither an exit port nor a hypercall. -/
def portOut (I : Interface) (x : Exit) : Option (BitVec 16 × BitVec 8) :=
  match x.result with
  | .ok (.ioInstruction q) =>
    if isIn q = false ∧ ¬ exitPorts.contains (portOf q) ∧ I.tryFrom ((portOf q).setWidth 64) = none then
      some (portOf q, x.regs.rax.setWidth 8)
    else none
  | _ => none

/-- What is in the register behind a port after an exit. -/
def latch (I : Interface) (port : BitVec 16) (value : BitVec 8) (x : Exit) : BitVec 8 :=
  match portOut I x with
  | some (p, b) => if p = port then b else value
  | none => value

def mcrPort : BitVec 16 := serialBase + regMcr
def scrPort : BitVec 16 := serialBase + regScr

/-- What a read of a port returns: the two control registers keep what was written to them last. -/
def portValue (I : Interface) (mcr scr : BitVec 8) (log : List Exit) (port : BitVec 16) : BitVec 8 :=
  if port = serialBase + regLsr then lsrTxReady
  else if port = serialBase + regMsr then msrReady
  else if port = mcrPort then log.foldl (latch I mcrPort) mcr
  else if port = scrPort then log.foldl (latch I scrPort) scr
  else 0

/-- An `IN` replaces AL by what the port reads as, and nothing else touches RAX. -/
def ReadsPorts (I : Interface) (mcr scr : BitVec 8) (log : List (ServedExit ι)) (x : ServedExit ι) : Prop :=
  x.rax = match x.exit.result with
    | .ok (.ioInstruction q) =>
      if isIn q then
        (x.exit.regs.rax &&& ~~~0xff#64) ||| (portValue I mcr scr (log.map (·.exit)) (portOf q)).setWidth 64
      else x.exit.regs.rax
    | _ => x.exit.regs.rax

section Registers
variable {I : Interface} {L : VmMemoryLayout} {u : Uart} {x : Exit}

/-- A port of the UART by its offset. -/
theorem offset_iff (port offset : BitVec 16) : port - serialBase = offset ↔ port = serialBase + offset := by
  constructor
  · rintro rfl
    rw [BitVec.add_comm, BitVec.sub_add_cancel]
  · rintro rfl
    rw [BitVec.add_comm, BitVec.add_sub_cancel]

theorem read_offset (port : BitVec 16) :
    (if isSerial port then u.read (port - serialBase) else 0) = portValue I u.mcr u.scr [] port := by
  unfold Uart.read portValue
  simp only [offset_iff, List.foldl_nil]
  by_cases hserial : isSerial port = true
  · rw [if_pos hserial]
    rfl
  · -- The four registers have serial ports.
    have hne : ∀ offset, isSerial (serialBase + offset) = true → port ≠ serialBase + offset := by
      rintro offset hoff rfl
      exact hserial hoff
    have hmcr : port ≠ mcrPort := hne regMcr (by decide)
    have hscr : port ≠ scrPort := hne regScr (by decide)
    rw [if_neg hserial, if_neg (hne regLsr (by decide)), if_neg (hne regMsr (by decide)), if_neg hmcr, if_neg hscr]

theorem writeBuffer_registers (u : Uart) (buf : List (BitVec 8)) :
    (u.writeBuffer buf).mcr = u.mcr ∧ (u.writeBuffer buf).scr = u.scr := by
  unfold Uart.writeBuffer
  rw [Uart.filterBuffer_eq]
  exact ⟨rfl, rfl⟩

theorem serveHypercall_registers (hypercall : HypercallAddress) (data : BitVec 64) (host : HostState) :
    (serveHypercall I L hypercall data u host).uart.mcr = u.mcr ∧
      (serveHypercall I L hypercall data u host).uart.scr = u.scr := by
  cases hypercall with
  | serialWriteByte => exact writeBuffer_registers u _
  | serialWriteBuffer =>
    unfold serveHypercall
    dsimp only
    split
    · exact ⟨rfl, rfl⟩
    · exact writeBuffer_registers u _
  | fileWrite =>
    unfold serveHypercall
    dsimp only
    split
    · split
      · exact ⟨rfl, rfl⟩
      · exact writeBuffer_registers u _
    · exact ⟨rfl, rfl⟩
  | exit | fileRead | fileOpen | fileClose | fileLseek | fileUnlink | other => exact ⟨rfl, rfl⟩

theorem write_registers (u : Uart) (offset : BitVec 16) (value : BitVec 8) :
    (u.write offset value).2.mcr = (if offset = regMcr then value else u.mcr) ∧
      (u.write offset value).2.scr = if offset = regScr then value else u.scr := by
  unfold Uart.write Uart.ansiFilter
  by_cases hdata : offset = regData
  · subst hdata
    rw [if_pos rfl, if_neg (by decide), if_neg (by decide)]
    dsimp only
    split
    · exact ⟨rfl, rfl⟩
    · exact ⟨rfl, rfl⟩
  · rw [if_neg hdata]
    by_cases hmcr : offset = regMcr
    · subst hmcr
      rw [if_pos rfl, if_pos rfl, if_neg (by decide)]
      exact ⟨rfl, rfl⟩
    · rw [if_neg hmcr, if_neg hmcr]
      by_cases hscr : offset = regScr
      · rw [if_pos hscr, if_pos hscr]
        exact ⟨rfl, rfl⟩
      · rw [if_neg hscr, if_neg hscr]
        exact ⟨rfl, rfl⟩

/-- An exit latches what it writes to the two registers. -/
structure Latches (I : Interface) (u u' : Uart) (x : Exit) : Prop where
  mcr : u'.mcr = latch I mcrPort u.mcr x
  scr : u'.scr = latch I scrPort u.scr x

theorem latches_none (h : portOut I x = none) {u' : Uart} (hmcr : u'.mcr = u.mcr) (hscr : u'.scr = u.scr) :
    Latches I u u' x := by
  refine ⟨?_, ?_⟩
  · rw [latch, h]
    exact hmcr
  · rw [latch, h]
    exact hscr

theorem latches_out {port : BitVec 16} {value : BitVec 8} (h : portOut I x = some (port, value)) :
    Latches I u (if isSerial port then (u.write (port - serialBase) value).2 else u) x := by
  have hlatch : ∀ reg v, latch I reg v x = if port = reg then value else v := by
    intro reg v
    rw [latch, h]
  by_cases hserial : isSerial port = true
  · obtain ⟨hmcr, hscr⟩ := write_registers u (port - serialBase) value
    simp only [offset_iff] at hmcr hscr
    rw [if_pos hserial]
    exact ⟨hmcr.trans (hlatch mcrPort u.mcr).symm, hscr.trans (hlatch scrPort u.scr).symm⟩
  · have hne : ∀ reg, isSerial reg = true → port ≠ reg := by
      rintro reg hreg rfl
      exact hserial hreg
    rw [if_neg hserial]
    refine ⟨?_, ?_⟩
    · rw [hlatch, if_neg (hne mcrPort (by decide))]
    · rw [hlatch, if_neg (hne scrPort (by decide))]

/-- What serving an exit does to the registers of the UART, and to RAX. -/
theorem serve_registers {reason : ExitReason} (hr : x.result = .ok reason) (vcpu : ι) :
    Latches I u (serve I L reason ⟨u, x.regs, ⟨x.mem, []⟩⟩).2.uart x ∧
      ReadsPorts I u.mcr u.scr [] ⟨vcpu, x, (serve I L reason ⟨u, x.regs, ⟨x.mem, []⟩⟩).2.regs.rax⟩ := by
  unfold ReadsPorts
  dsimp only
  rw [hr]
  cases reason with
  | success =>
    refine ⟨latches_none ?_ rfl rfl, rfl⟩
    rw [portOut, hr]
  | shutdown =>
    refine ⟨latches_none ?_ rfl rfl, rfl⟩
    rw [portOut, hr]
  | ioInstruction q =>
    have hout : portOut I x =
        if isIn q = false ∧ ¬ exitPorts.contains (portOf q) ∧ I.tryFrom ((portOf q).setWidth 64) = none then
          some (portOf q, x.regs.rax.setWidth 8)
        else none := by
      rw [portOut, hr]
    show Latches I u (serveIo I L q ⟨u, x.regs, ⟨x.mem, []⟩⟩).2.uart x ∧
      (serveIo I L q ⟨u, x.regs, ⟨x.mem, []⟩⟩).2.regs.rax =
        if isIn q then (x.regs.rax &&& ~~~0xff#64) ||| (portValue I u.mcr u.scr [] (portOf q)).setWidth 64
        else x.regs.rax
    unfold serveIo
    by_cases hexit : isIn q = false ∧ exitPorts.contains (portOf q)
    · rw [if_neg fun hc => hc.2.1 hexit.2] at hout
      rw [if_pos hexit, if_neg fun hin => Bool.false_ne_true (hexit.1.symm.trans hin)]
      exact ⟨latches_none hout rfl rfl, rfl⟩
    · rw [if_neg hexit]
      cases hin : isIn q with
      | true =>
        have hnone : hypercallOf I q = none := by rw [hypercallOf, hin, if_pos rfl]
        rw [if_neg fun hc => Bool.false_ne_true (hc.1.symm.trans hin)] at hout
        rw [hnone]
        simp only [if_true]
        refine ⟨latches_none hout rfl rfl, ?_⟩
        rw [read_offset (I := I)]
      | false =>
        have hcall : hypercallOf I q = I.tryFrom ((portOf q).setWidth 64) := by
          rw [hypercallOf, hin]
          rfl
        rw [hcall]
        cases hport : I.tryFrom ((portOf q).setWidth 64) with
        | some hypercall =>
          obtain ⟨hmcr, hscr⟩ := serveHypercall_registers (I := I) (L := L) (u := u) hypercall x.regs.rdi ⟨x.mem, []⟩
          rw [hport, if_neg fun hc => Option.some_ne_none _ hc.2.2] at hout
          exact ⟨latches_none hout hmcr hscr, rfl⟩
        | none =>
          rw [if_pos ⟨hin, fun hmem => hexit ⟨hin, hmem⟩, hport⟩] at hout
          have hlatches := latches_out (u := u) hout
          simp only [Bool.false_eq_true, if_false]
          split
          · rename_i hserial
            rw [if_pos hserial] at hlatches
            exact ⟨hlatches, rfl⟩
          · rename_i hserial
            rw [if_neg hserial] at hlatches
            exact ⟨hlatches, rfl⟩

end Registers

/-! ## Many vCPUs -/

section Shared
variable [DecidableEq ι] {I : Interface} {L : VmMemoryLayout} {s : Console ι} {bytes : List (BitVec 8)}

/-- A vCPU whose loop goes on: the exit ends it, or is served. -/
theorem step_running {e : ι × Exit} (hin : InRam I L e.2) (h : s.uart.Streamed bytes) (hgoes : s.ended e.1 = none) :
    (∃ o, stops I e.2 = some o ∧ s.step I L e = (some (s.finish e.1 o s.uart), [])) ∨
    stops I e.2 = none ∧ ∃ uart rax, s.step I L e = (some { s with uart := uart }, [⟨e.1, e.2, rax⟩]) ∧
      uart.Streamed (bytes ++ transmitted I L e.2) ∧ Latches I s.uart uart e.2 ∧
      ReadsPorts I s.uart.mcr s.uart.scr [] ⟨e.1, e.2, rax⟩ := by
  unfold Console.step
  rw [hgoes]
  cases hr : e.2.result with
  | error err =>
    refine .inl ⟨.failed err, ?_, rfl⟩
    rw [stops, hr]
  | ok reason =>
    cases hstop : stops I e.2 with
    | some o =>
      obtain ⟨rfl, hserve⟩ := serve_stops (L := L) hstop hr ⟨s.uart, e.2.regs, ⟨e.2.mem, []⟩⟩
      refine .inl ⟨.returned, rfl, ?_⟩
      simp only [hserve]
      rfl
    | none =>
      obtain ⟨hflow, hstreamed⟩ := serve_streamed h hin hstop hr
      obtain ⟨hlatches, hreads⟩ := serve_registers (I := I) (L := L) (u := s.uart) hr e.1
      refine .inr ⟨rfl, ?_⟩
      cases hserve : serve I L reason ⟨s.uart, e.2.regs, ⟨e.2.mem, []⟩⟩ with
      | mk flow c =>
        rw [hserve] at hflow hstreamed hlatches hreads
        obtain rfl : flow = .next := hflow
        refine ⟨c.uart, c.regs.rax, ?_, hstreamed, hlatches, hreads⟩
        simp only [hserve]
        rfl

theorem exitsOf_self (e : ι × Exit) (es : List (ι × Exit)) : exitsOf e.1 (e :: es) = e.2 :: exitsOf e.1 es := by
  unfold exitsOf
  rw [List.filter_cons_of_pos (by simp), List.map_cons]

theorem exitsOf_other {i : ι} {e : ι × Exit} (h : i ≠ e.1) (es : List (ι × Exit)) :
    exitsOf i (e :: es) = exitsOf i es := by
  unfold exitsOf
  rw [List.filter_cons_of_neg (by simpa using Ne.symm h)]

/-- From a console that has transmitted these bytes. -/
structure SharedRun (I : Interface) (L : VmMemoryLayout) (bytes : List (BitVec 8)) (s : Console ι) (es : List (ι × Exit))
    (s' : Console ι) (log : List (ServedExit ι)) : Prop where
  streamed : s'.uart.Streamed (bytes ++ log.flatMap fun x => transmitted I L x.exit)
  reads : AtEach (ReadsPorts I s.uart.mcr s.uart.scr) log
  ends : ∀ i, s'.ended i = (s.ended i).or ((exitsOf i es).findSome? (stops I))
  order : ∀ i, exitsOf i (log.map fun x => (x.vcpu, x.exit)) =
    if (s.ended i).isSome then [] else served I (exitsOf i es)

/-- The exit comes first in the log. -/
theorem SharedRun.served_cons {e : ι × Exit} {es : List (ι × Exit)} {s' : Console ι} {log : List (ServedExit ι)}
    {uart : Uart} {rax : BitVec 64}
    (h : SharedRun I L (bytes ++ transmitted I L e.2) { s with uart := uart } es s' log) (hgoes : s.ended e.1 = none)
    (hstop : stops I e.2 = none) (hlatches : Latches I s.uart uart e.2)
    (hreads : ReadsPorts I s.uart.mcr s.uart.scr [] ⟨e.1, e.2, rax⟩) :
    SharedRun I L bytes s (e :: es) s' (⟨e.1, e.2, rax⟩ :: log) := by
  refine ⟨?_, ?_, ?_, ?_⟩
  · have hstreamed := h.streamed
    rw [List.append_assoc] at hstreamed
    exact hstreamed
  · refine AtEach.cons hreads ?_
    have hrest := h.reads
    change AtEach (ReadsPorts I uart.mcr uart.scr) log at hrest
    rw [hlatches.mcr, hlatches.scr] at hrest
    exact hrest
  · intro i
    rw [h.ends i]
    by_cases hi : i = e.1
    · subst hi
      rw [exitsOf_self, List.findSome?_cons, hstop]
    · rw [exitsOf_other hi]
  · intro i
    have horder := h.order i
    by_cases hi : i = e.1
    · subst hi
      rw [List.map_cons, exitsOf_self, horder, exitsOf_self]
      change s.ended e.1 = none at hgoes
      simp only [hgoes, Option.isSome_none, Bool.false_eq_true, if_false]
      unfold served
      rw [List.takeWhile_cons_of_pos (by rw [hstop]; rfl)]
    · rw [List.map_cons, exitsOf_other hi, horder, exitsOf_other hi]

/-- The exit ends the loop of its vCPU. -/
theorem SharedRun.finish_cons {e : ι × Exit} {es : List (ι × Exit)} {s' : Console ι} {log : List (ServedExit ι)}
    {o : Outcome} (h : SharedRun I L bytes (s.finish e.1 o s.uart) es s' log) (hgoes : s.ended e.1 = none)
    (hstop : stops I e.2 = some o) : SharedRun I L bytes s (e :: es) s' log := by
  have hself : (s.finish e.1 o s.uart).ended e.1 = some o := Function.update_self _ _ _
  have hother : ∀ i, i ≠ e.1 → (s.finish e.1 o s.uart).ended i = s.ended i := fun i hi => Function.update_of_ne hi _ _
  refine ⟨h.streamed, h.reads, ?_, ?_⟩
  · intro i
    rw [h.ends i]
    by_cases hi : i = e.1
    · subst hi
      rw [hself, hgoes, exitsOf_self, List.findSome?_cons, hstop]
      rfl
    · rw [hother i hi, exitsOf_other hi]
  · intro i
    rw [h.order i]
    by_cases hi : i = e.1
    · subst hi
      have hnil : served I (exitsOf e.1 (e :: es)) = [] := by
        unfold served
        rw [exitsOf_self, List.takeWhile_cons_of_neg (by rw [hstop]; exact Bool.false_ne_true)]
      rw [hself, hgoes, hnil]
      rfl
    · rw [hother i hi, exitsOf_other hi]

/-- An exit of a vCPU whose loop has ended is not taken. -/
theorem SharedRun.skip_cons {e : ι × Exit} {es : List (ι × Exit)} {s' : Console ι} {log : List (ServedExit ι)}
    (h : SharedRun I L bytes s es s' log) {o : Outcome} (hended : s.ended e.1 = some o) :
    SharedRun I L bytes s (e :: es) s' log := by
  refine ⟨h.streamed, h.reads, ?_, ?_⟩
  · intro i
    rw [h.ends i]
    by_cases hi : i = e.1
    · subst hi
      rw [hended]
      rfl
    · rw [exitsOf_other hi]
  · intro i
    rw [h.order i]
    by_cases hi : i = e.1
    · subst hi
      rw [hended]
      rfl
    · rw [exitsOf_other hi]

/-- By induction on the exits, from any console. -/
theorem run_shared {es : List (ι × Exit)} (hin : ∀ e ∈ es, InRam I L e.2) (h : s.uart.Streamed bytes) :
    ∃ s' log, Machine.run (Console.step I L) s es = (some s', log) ∧ SharedRun I L bytes s es s' log := by
  induction es generalizing s bytes with
  | nil =>
    refine ⟨s, [], rfl, ?_, atEach_nil, fun i => ?_, fun i => ?_⟩
    · rw [List.flatMap_nil, List.append_nil]
      exact h
    · exact (Option.or_none).symm
    · split
      · rfl
      · rfl
  | cons e es ih =>
    have hrest := fun e' he => hin e' (List.mem_cons_of_mem e he)
    cases hended : s.ended e.1 with
    | some o =>
      obtain ⟨s', log, hrun, hshared⟩ := ih hrest h
      refine ⟨s', log, ?_, hshared.skip_cons hended⟩
      have hstep : Console.step I L s e = (some s, []) := by
        unfold Console.step
        rw [hended]
        rfl
      simp only [Machine.run, hstep, hrun, List.nil_append]
    | none =>
      rcases step_running (hin e List.mem_cons_self) h hended with
        ⟨o, hstop, hstep⟩ | ⟨hstop, uart, rax, hstep, hstreamed, hlatches, hreads⟩
      · obtain ⟨s', log, hrun, hshared⟩ := ih (s := s.finish e.1 o s.uart) hrest h
        refine ⟨s', log, ?_, hshared.finish_cons hended hstop⟩
        simp only [Machine.run, hstep, hrun, List.nil_append]
      · obtain ⟨s', log, hrun, hshared⟩ := ih (s := { s with uart := uart }) hrest hstreamed
        refine ⟨s', ⟨e.1, e.2, rax⟩ :: log, ?_, hshared.served_cons hended hstop hlatches hreads⟩
        simp only [Machine.run, hstep, hrun, List.singleton_append]

end Shared

/-- One UART for all vCPUs of a VM. -/
theorem console_shared [DecidableEq ι] (I : Interface) (L : VmMemoryLayout) (mcr scr : BitVec 8) (es : List (ι × Exit))
    (hin : ∀ e ∈ es, InRam I L e.2) :
    ∃ s log, Machine.run (Console.step I L) ⟨⟨mcr, scr, some [], .normal⟩, fun _ => none⟩ es = (some s, log) ∧
      s.uart.output = ansi (log.flatMap fun x => transmitted I L x.exit) ∧
      AtEach (ReadsPorts I mcr scr) log ∧
      ∀ i, s.ended i = (exitsOf i es).findSome? (stops I) ∧
        exitsOf i (log.map fun x => (x.vcpu, x.exit)) = served I (exitsOf i es) := by
  have hstart : Uart.Streamed ⟨mcr, scr, some [], .normal⟩ [] := ⟨rfl, rfl, rfl⟩
  obtain ⟨s, log, hrun, h⟩ := run_shared (s := ⟨⟨mcr, scr, some [], .normal⟩, fun _ => none⟩) hin hstart
  exact ⟨s, log, hrun, h.streamed.out, h.reads, fun i => ⟨h.ends i, h.order i⟩⟩

/-- A byte to a register of the UART, or from it. -/
def registerAccess (offset : BitVec 16) (isIn : Bool) (b : BitVec 64) : Exit :=
  ⟨.ok (.ioInstruction (((serialBase + offset).setWidth 64 <<< 16) ||| if isIn then 8 else 0)),
    { GuestRegisters.zero with rax := b }, fun _ => 0⟩

/-- One vCPU starts an escape sequence, the other one's letter ends up in it and its next one does not. A buffer of the
first follows, and then the second reads what the first left in the scratch register. -/
def twoWriters : List (Bool × Exit) :=
  [(false, registerAccess regData false 0x1b#64), (false, registerAccess regData false 0x5b#64),
    (true, registerAccess regData false 0x41#64), (true, registerAccess regData false 0x44#64), (false, outBuffer),
    (false, registerAccess regScr false 0x5a#64), (true, registerAccess regScr true 0x100#64)]

theorem twoWriters_inRam : ∀ e ∈ twoWriters, InRam uhyveInterface onePage e.2 := by
  intro e he
  simp only [twoWriters, List.mem_cons, List.not_mem_nil, or_false] at he
  rcases he with rfl | rfl | rfl | rfl | rfl | rfl | rfl
  on_goal 5 => exact outBuffer_inRam
  all_goals
    intro q hq r hr
    obtain rfl := ExitReason.ioInstruction.inj (Except.ok.inj hq)
    exact absurd hr List.not_mem_nil

theorem console_shared_two_writers :
    ∃ s log, Machine.run (Console.step uhyveInterface onePage) ⟨⟨0, 0, some [], .normal⟩, fun _ => none⟩ twoWriters =
        (some s, log) ∧
      s.uart.output = [0x44#8, 0x42#8, 0x43#8] ∧ log.getLast?.map (·.rax) = some 0x15a#64 := by
  obtain ⟨s, log, hrun, hout, -⟩ := console_shared uhyveInterface onePage 0 0 twoWriters twoWriters_inRam
  have hlog : log = (Machine.run (Console.step uhyveInterface onePage) ⟨⟨0, 0, some [], .normal⟩, fun _ => none⟩
      twoWriters).2 := (congrArg Prod.snd hrun).symm
  refine ⟨s, log, hrun, ?_, ?_⟩
  · rw [hout, hlog]
    decide +kernel
  · rw [hlog]
    decide +kernel

end Rhyve.Vcpu
