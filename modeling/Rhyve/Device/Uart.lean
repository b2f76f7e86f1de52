import Rhyve.Lib.Transducer

/-! # The 16550 UART of the guest (`uart.rs`)

The sink is modelled by the chunks sent into it so far, `none` until one is attached. The ANSI filter is
a transducer over the transmitted bytes, so what matters about a UART is `Streamed`: which bytes have
been transmitted since the filter was in its initial state.
-/

namespace Rhyve.Device
open Transducer
set_option autoImplicit false

def regData : BitVec 16 := 0#16
def regMcr : BitVec 16 := 4#16
def regLsr : BitVec 16 := 5#16
def regMsr : BitVec 16 := 6#16
def regScr : BitVec 16 := 7#16

def lsrTxReady : BitVec 8 := (1#8 <<< 5) ||| (1#8 <<< 6)
def msrReady : BitVec 8 := (1#8 <<< 7) ||| (1#8 <<< 5) ||| (1#8 <<< 4)

/-- `AnsiState`. -/
inductive AnsiState where
  | normal
  | esc
  | csi
  deriving DecidableEq, Repr

/-- One byte through the escape stripper: the next state, and the byte to forward if any. -/
def ansiStep : AnsiState → BitVec 8 → AnsiState × Option (BitVec 8)
  | .normal, byte =>
    if byte = 0x1b#8 then (.esc, none)
    -- newline, carriage return and tab pass, the other C0 controls are dropped
    else if byte = 0x0a#8 ∨ byte = 0x0d#8 ∨ byte = 0x09#8 then (.normal, some byte)
    else if byte ≤ 0x1f#8 then (.normal, none)
    else (.normal, some byte)
  | .esc, byte => (if byte = 0x5b#8 then .csi else .normal, none)
  | .csi, byte => (if 0x40#8 ≤ byte ∧ byte ≤ 0x7e#8 then .normal else .csi, none)

/-- The filter, started outside any escape sequence. -/
def ansi (bytes : List (BitVec 8)) : List (BitVec 8) := (run ansiStep .normal bytes).2

/-- `Uart`. The sink is the channel to the HTTP response, as the chunks that have been sent on it. -/
structure Uart where
  mcr : BitVec 8
  scr : BitVec 8
  sink : Option (List (List (BitVec 8)))
  ansi : AnsiState
  deriving DecidableEq, Repr

namespace Uart

def new : Uart := ⟨0, 0, none, .normal⟩

def ansiFilter (u : Uart) (byte : BitVec 8) : Option (BitVec 8) × Uart :=
  ((ansiStep u.ansi byte).2, { u with ansi := (ansiStep u.ansi byte).1 })

/-- Attaches a fresh channel. -/
def setSink (u : Uart) : Uart := { u with sink := some [] }

def send (u : Uart) (chunk : List (BitVec 8)) : Uart :=
  { u with sink := u.sink.map (· ++ [chunk]) }

/-- A read of a register: always ready to transmit, and never anything received. -/
def read (u : Uart) (offset : BitVec 16) : BitVec 8 :=
  if offset = regLsr then lsrTxReady
  else if offset = regMsr then msrReady
  else if offset = regMcr then u.mcr
  else if offset = regScr then u.scr
  else 0

/-- A write to a register: the byte for the host's console, and the state. The channel gets the filtered byte.
-/
def write (u : Uart) (offset : BitVec 16) (value : BitVec 8) : Option (BitVec 8) × Uart :=
  if offset = regData then
    let (filtered, u) := u.ansiFilter value
    match filtered with
    | some out => (some value, u.send [out])
    | none => (some value, u)
  else if offset = regMcr then (none, { u with mcr := value })
  else if offset = regScr then (none, { u with scr := value })
  else (none, u)

/-- The loop of `write_buffer`: filters the remaining bytes into `data`. -/
def filterBuffer : Uart → List (BitVec 8) → List (BitVec 8) → List (BitVec 8) × Uart
  | u, data, [] => (data, u)
  | u, data, value :: buf =>
    let (filtered, u) := u.ansiFilter value
    match filtered with
    | some out => filterBuffer u (data ++ [out]) buf
    | none => filterBuffer u data buf

/-- `write_buffer`: one chunk with what the filter leaves of the bytes. -/
def writeBuffer (u : Uart) (buf : List (BitVec 8)) : Uart :=
  let (data, u) := filterBuffer u [] buf
  u.send data

/-! ## What has been streamed -/

/-- Everything sent to the sink, whatever the chunks were. -/
def output (u : Uart) : List (BitVec 8) := (u.sink.getD []).flatten

/-- The UART has a sink and has transmitted exactly `bytes` into it. -/
structure Streamed (u : Uart) (bytes : List (BitVec 8)) : Prop where
  attached : u.sink.isSome = true
  state : u.ansi = (run ansiStep .normal bytes).1
  out : u.output = Device.ansi bytes

theorem send_output {u : Uart} (h : u.sink.isSome = true) (chunk : List (BitVec 8)) :
    (u.send chunk).output = u.output ++ chunk := by
  obtain ⟨chunks, hc⟩ := Option.isSome_iff_exists.mp h
  simp [output, send, hc]

theorem filterBuffer_eq (u : Uart) (data buf : List (BitVec 8)) :
    filterBuffer u data buf =
      (data ++ (run ansiStep u.ansi buf).2, { u with ansi := (run ansiStep u.ansi buf).1 }) := by
  induction buf generalizing u data with
  | nil => simp only [filterBuffer, run, List.append_nil]
  | cons value buf ih =>
    unfold filterBuffer ansiFilter
    cases hf : (ansiStep u.ansi value).2 with
    | none =>
      simp only
      rw [ih]
      simp only [run, hf, Option.toList_none, List.nil_append]
    | some out =>
      simp only
      rw [ih]
      simp only [run, hf, Option.toList_some, List.append_assoc]

variable {u : Uart} {bytes : List (BitVec 8)}

/-- A chunk that the filter produces from the bytes transmitted next. -/
theorem Streamed.extend (h : Streamed u bytes) (buf : List (BitVec 8)) {chunk : List (BitVec 8)}
    (hchunk : chunk = (run ansiStep u.ansi buf).2) {u' : Uart}
    (hsink : u'.sink.isSome = true) (hstate : u'.ansi = (run ansiStep u.ansi buf).1)
    (hout : u'.output = u.output ++ chunk) : Streamed u' (bytes ++ buf) := by
  have hrun := run_append ansiStep .normal bytes buf
  rw [← h.state] at hrun
  refine ⟨hsink, ?_, ?_⟩
  · rw [hstate, hrun]
  · rw [hout, hchunk, h.out, Device.ansi, Device.ansi, hrun]

theorem Streamed.writeBuffer (h : Streamed u bytes) (buf : List (BitVec 8)) :
    Streamed (u.writeBuffer buf) (bytes ++ buf) := by
  have hattached := h.attached
  have hsent : u.writeBuffer buf =
      ({ u with ansi := (run ansiStep u.ansi buf).1 } : Uart).send (run ansiStep u.ansi buf).2 := by
    unfold Uart.writeBuffer
    rw [filterBuffer_eq]
    rfl
  rw [hsent]
  refine h.extend buf rfl ?_ rfl (send_output hattached _)
  simpa only [send, Option.isSome_map] using hattached

theorem Streamed.write (h : Streamed u bytes) (value : BitVec 8) :
    Streamed (u.write regData value).2 (bytes ++ [value]) := by
  have hattached := h.attached
  have hrun := run_singleton ansiStep u.ansi value
  unfold Uart.write ansiFilter
  rw [if_pos rfl]
  cases hf : (ansiStep u.ansi value).2 with
  | none =>
    refine h.extend [value] rfl hattached ?_ ?_
    · rw [hrun]
    · rw [hrun, hf]
      exact (List.append_nil _).symm
  | some out =>
    refine h.extend [value] rfl ?_ ?_ ?_
    · simpa only [send, Option.isSome_map] using hattached
    · rw [hrun]
      rfl
    · rw [hrun, hf]
      exact send_output hattached [out]

theorem Streamed.write_other (h : Streamed u bytes) {offset : BitVec 16} (ho : offset ≠ regData)
    (value : BitVec 8) : Streamed (u.write offset value).2 bytes := by
  unfold Uart.write
  rw [if_neg ho]
  split
  · exact ⟨h.attached, h.state, h.out⟩
  · split
    · exact ⟨h.attached, h.state, h.out⟩
    · exact h

end Uart

end Rhyve.Device
