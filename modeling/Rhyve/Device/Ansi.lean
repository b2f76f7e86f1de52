import Mathlib.Logic.ExistsUnique
import Rhyve.Device.Uart

/-! # The language of the ANSI filter (`ansi_filter` of `uart.rs`)

What the filter's three states stand for is a cut of the transmitted bytes into tokens.

* `Token`, `Tail`: the tokens, and the escape sequence that the bytes may break off in.
* `tokenize`: a transducer that emits tokens; its states are the tails, and the filter is its image.
* `cut_unique`: there is one way only to cut a byte string.
* `ansi_tokens`: the loop of `write_buffer` forwards the plain tokens.
* `csi_forwarded_iff`: when a complete CSI sequence is dropped as a whole.
-/

namespace Rhyve.Device
open Transducer
set_option autoImplicit false

abbrev escByte : BitVec 8 := 0x1b#8
abbrev bracket : BitVec 8 := 0x5b#8

def isFinal (b : BitVec 8) : Bool := decide (0x40#8 ≤ b ∧ b ≤ 0x7e#8)

def isBlank (b : BitVec 8) : Bool := decide (b = 0x0a#8 ∨ b = 0x0d#8 ∨ b = 0x09#8)

/-- The bytes that the filter forwards outside of escape sequences. -/
abbrev Printable (b : BitVec 8) : Prop := isBlank b = true ∨ 0x20#8 ≤ b

/-! ## Tokens -/

/-- What the filter sees in the stream: a control sequence, an escape of two bytes, a control byte that it
drops, or a byte that it forwards. -/
inductive Token where
  | csi (params : List (BitVec 8)) (final : BitVec 8) (inside : ∀ b ∈ params, isFinal b = false)
    (ends : isFinal final = true)
  | escape (byte : BitVec 8) (other : byte ≠ bracket)
  | control (byte : BitVec 8) (c0 : byte < 0x20#8) (dropped : byte ≠ escByte ∧ isBlank byte = false)
  | plain (byte : BitVec 8) (kept : Printable byte)

/-- An escape sequence that is not complete, or nothing. -/
inductive Tail where
  | none
  | esc
  | csi (params : List (BitVec 8)) (inside : ∀ b ∈ params, isFinal b = false)

namespace Token

def bytes : Token → List (BitVec 8)
  | .csi params final _ _ => escByte :: bracket :: (params ++ [final])
  | .escape byte _ => [escByte, byte]
  | .control byte _ _ => [byte]
  | .plain byte _ => [byte]

/-- What the filter forwards of a token. -/
def text : Token → Option (BitVec 8)
  | .plain byte _ => some byte
  | _ => Option.none

end Token

namespace Tail

def bytes : Tail → List (BitVec 8)
  | .none => []
  | .esc => [escByte]
  | .csi params _ => escByte :: bracket :: params

/-- The state of the filter behind an unfinished token. -/
def state : Tail → AnsiState
  | .none => .normal
  | .esc => .esc
  | .csi _ _ => .csi

end Tail

/-- The tokens and the tail spell out the bytes. -/
def Cut (bytes : List (BitVec 8)) (d : List Token × Tail) : Prop :=
  d.1.flatMap Token.bytes ++ d.2.bytes = bytes

/-! ## The tokenizer -/

/-- One byte more: it starts, continues or ends a token. -/
def tokenStep : Tail → BitVec 8 → Tail × Option Token
  | .none, b =>
    if hesc : b = escByte then (.esc, none)
    else if hplain : Printable b then (.none, some (.plain b hplain))
    else
      (.none, some (.control b (BitVec.not_le.mp fun h => hplain (.inr h))
        ⟨hesc, Bool.eq_false_iff.mpr fun h => hplain (.inl h)⟩))
  | .esc, b =>
    if hb : b = bracket then (.csi [] (fun _ h => absurd h List.not_mem_nil), none)
    else (.none, some (.escape b hb))
  | .csi params inside, b =>
    if hb : isFinal b = true then (.none, some (.csi params b inside hb))
    else
      (.csi (params ++ [b]) (List.forall_mem_append.mpr
        ⟨inside, List.forall_mem_singleton.mpr (Bool.eq_false_iff.mpr hb)⟩), none)

def tokenize (bytes : List (BitVec 8)) : List Token × Tail :=
  ((run tokenStep .none bytes).2, (run tokenStep .none bytes).1)

theorem tokenStep_spells (t : Tail) (b : BitVec 8) :
    (tokenStep t b).2.toList.flatMap Token.bytes ++ (tokenStep t b).1.bytes = t.bytes ++ [b] := by
  cases t with
  | none =>
    simp only [tokenStep]
    by_cases hesc : b = escByte
    · rw [dif_pos hesc, hesc]
      rfl
    · rw [dif_neg hesc]
      split <;> rfl
  | esc =>
    simp only [tokenStep]
    by_cases hb : b = bracket
    · rw [dif_pos hb, hb]
      rfl
    · rw [dif_neg hb]
      rfl
  | csi params inside =>
    simp only [tokenStep]
    by_cases hb : isFinal b = true
    · rw [dif_pos hb]
      simp [Token.bytes, Tail.bytes]
    · rw [dif_neg hb]
      rfl

theorem tokenize_cut (bytes : List (BitVec 8)) : Cut bytes (tokenize bytes) :=
  run_spells tokenStep_spells .none bytes

/-- The filter is the tokenizer with the parameters of a sequence forgotten. -/
theorem ansiStep_state (t : Tail) (b : BitVec 8) :
    ansiStep t.state b = ((tokenStep t b).1.state, (tokenStep t b).2.bind Token.text) := by
  cases t with
  | none =>
    simp only [tokenStep, Tail.state, ansiStep]
    by_cases hesc : b = escByte
    · rw [dif_pos hesc, if_pos hesc]
      rfl
    · rw [dif_neg hesc, if_neg hesc]
      by_cases hblank : b = 0x0a#8 ∨ b = 0x0d#8 ∨ b = 0x09#8
      · rw [if_pos hblank, dif_pos (.inl (decide_eq_true hblank))]
        rfl
      · rw [if_neg hblank]
        by_cases hlow : b ≤ 0x1f#8
        · have hplain : ¬ Printable b := by
            rintro (h | h)
            · exact hblank (of_decide_eq_true h)
            · bv_omega
          rw [if_pos hlow, dif_neg hplain]
          rfl
        · rw [if_neg hlow, dif_pos (.inr (by bv_omega))]
          rfl
  | esc =>
    simp only [tokenStep, Tail.state, ansiStep]
    by_cases hb : b = bracket
    · rw [dif_pos hb, if_pos hb]
      rfl
    · rw [dif_neg hb, if_neg hb]
      rfl
  | csi params inside =>
    simp only [tokenStep, Tail.state, ansiStep]
    by_cases hb : 0x40#8 ≤ b ∧ b ≤ 0x7e#8
    · have hfinal : isFinal b = true := decide_eq_true hb
      rw [if_pos hb, dif_pos hfinal]
      rfl
    · have hfinal : ¬ isFinal b = true := fun h => hb (of_decide_eq_true h)
      rw [if_neg hb, dif_neg hfinal]
      rfl

/-- From any tail on, not only from the beginning. -/
theorem run_ansi (t : Tail) (bytes : List (BitVec 8)) :
    run ansiStep t.state bytes =
      ((run tokenStep t bytes).1.state, (run tokenStep t bytes).2.filterMap Token.text) :=
  run_image ansiStep_state t bytes

/-! ## One way to cut -/

theorem run_params {params rest : List (BitVec 8)} (inside : ∀ b ∈ params, isFinal b = false)
    (h : ∀ b ∈ params ++ rest, isFinal b = false) :
    run tokenStep (.csi params inside) rest = (.csi (params ++ rest) h, []) := by
  induction rest generalizing params with
  | nil => simp only [run, List.append_nil]
  | cons b rest ih =>
    have hb : ¬ isFinal b = true := by
      rw [h b (List.mem_append_right params List.mem_cons_self)]
      decide
    have hsplit : params ++ b :: rest = (params ++ [b]) ++ rest := by
      rw [List.append_assoc, List.singleton_append]
    simp only [run, tokenStep, dif_neg hb]
    rw [ih _ (by rwa [← hsplit])]
    simp only [hsplit, Option.toList_none, List.nil_append]

theorem run_tail (t : Tail) : run tokenStep .none t.bytes = (t, []) := by
  cases t with
  | none => rfl
  | esc => rfl
  | csi params inside => exact run_params (fun _ h => absurd h List.not_mem_nil) inside

theorem run_token (t : Token) : run tokenStep .none t.bytes = (.none, [t]) := by
  cases t with
  | csi params final inside ends =>
    have hbytes : (Token.csi params final inside ends).bytes = (Tail.csi params inside).bytes ++ [final] :=
      rfl
    rw [hbytes, run_append, run_tail, run_singleton]
    simp only [tokenStep, dif_pos ends]
    rfl
  | escape byte other =>
    simp only [Token.bytes, run, tokenStep, dif_pos, dif_neg other]
    rfl
  | control byte c0 dropped =>
    have hplain : ¬ Printable byte := by
      rintro (h | h)
      · rw [dropped.2] at h
        cases h
      · exact BitVec.not_le.mpr c0 h
    simp only [Token.bytes, run, tokenStep, dif_neg dropped.1, dif_neg hplain]
    rfl
  | plain byte kept =>
    have hesc : ¬ byte = escByte := by
      rintro rfl
      revert kept
      decide
    simp only [Token.bytes, run, tokenStep, dif_neg hesc, dif_pos kept]
    rfl

theorem tokenize_of_cut {bytes : List (BitVec 8)} {d : List Token × Tail} (h : Cut bytes d) :
    tokenize bytes = d := by
  unfold tokenize
  rw [← h, run_append, run_words run_token, run_tail]
  simp only [List.append_nil]

theorem cut_unique (bytes : List (BitVec 8)) : ∃! d, Cut bytes d :=
  ⟨tokenize bytes, tokenize_cut bytes, fun _ h => (tokenize_of_cut h).symm⟩

theorem run_ansi_of_cut {bytes : List (BitVec 8)} {d : List Token × Tail} (h : Cut bytes d) :
    run ansiStep .normal bytes = (d.2.state, d.1.filterMap Token.text) := by
  rw [← tokenize_of_cut h]
  exact run_ansi .none bytes

/-- The filter is between tokens if and only if the bytes so far are whole tokens. -/
theorem normal_iff_cut (bytes : List (BitVec 8)) :
    (run ansiStep .normal bytes).1 = .normal ↔ ∃ tokens, Cut bytes (tokens, .none) := by
  refine ⟨?_, ?_⟩
  · intro hnormal
    rw [run_ansi_of_cut (tokenize_cut bytes)] at hnormal
    cases htail : (tokenize bytes).2 with
    | none =>
      refine ⟨(tokenize bytes).1, ?_⟩
      rw [← htail]
      exact tokenize_cut bytes
    | esc | csi params inside =>
      rw [htail] at hnormal
      cases hnormal
  · rintro ⟨tokens, hcut⟩
    rw [run_ansi_of_cut hcut]
    rfl

/-! ## The output -/

theorem text_printable {ts : List Token} {b : BitVec 8} (h : b ∈ ts.filterMap Token.text) :
    Printable b := by
  obtain ⟨t, -, ht⟩ := List.mem_filterMap.mp h
  cases t with
  | plain byte kept =>
    rw [← Option.some.inj ht]
    exact kept
  | csi | escape | control => cases ht

/-- Bytes that are tokens of their own pass unchanged. -/
theorem run_printable {bytes : List (BitVec 8)} (h : ∀ b ∈ bytes, Printable b) :
    run ansiStep .normal bytes = (.normal, bytes) := by
  have hcut : Cut bytes (bytes.attach.map fun b => .plain b.1 (h b.1 b.2), .none) := by
    unfold Cut
    simp [List.flatMap_map, Token.bytes, Tail.bytes]
  rw [run_ansi_of_cut hcut]
  simp [List.filterMap_map, Token.text, Tail.state]

/-- The filter removes exactly the tokens that are not plain bytes, and its output is a fixed point. -/
theorem ansi_tokens (u : Uart) (hu : u.ansi = .normal) (bytes : List (BitVec 8)) :
    (∃! d, Cut bytes d) ∧
      (∀ d, Cut bytes d →
        (u.filterBuffer [] bytes).1 = d.1.filterMap Token.text ∧
          (u.filterBuffer [] bytes).2.ansi = d.2.state) ∧
      (∀ b ∈ (u.filterBuffer [] bytes).1, b < 0x20#8 → b = 0x0a#8 ∨ b = 0x0d#8 ∨ b = 0x09#8) ∧
      (u.filterBuffer [] (u.filterBuffer [] bytes).1).1 = (u.filterBuffer [] bytes).1 := by
  have hfilter : ∀ buf, u.filterBuffer [] buf =
      ((run ansiStep .normal buf).2, { u with ansi := (run ansiStep .normal buf).1 }) := by
    intro buf
    rw [Uart.filterBuffer_eq, hu, List.nil_append]
  have hout : (run ansiStep .normal bytes).2 = (tokenize bytes).1.filterMap Token.text :=
    congrArg Prod.snd (run_ansi_of_cut (tokenize_cut bytes))
  have hprint : ∀ b ∈ (run ansiStep .normal bytes).2, Printable b := by
    intro b hb
    rw [hout] at hb
    exact text_printable hb
  refine ⟨cut_unique bytes, ?_, ?_, ?_⟩
  · intro d hd
    simp only [hfilter, run_ansi_of_cut hd]
    exact ⟨trivial, trivial⟩
  · intro b hb hlow
    rw [hfilter] at hb
    rcases hprint b hb with h | h
    · exact of_decide_eq_true h
    · exact absurd h (BitVec.not_le.mpr hlow)
  · simp only [hfilter, run_printable hprint]

def colouredBell : List (BitVec 8) := [0x1b#8, 0x5b#8, 0x6d#8, 0x41#8, 0x07#8, 0x1b#8, 0x5b#8, 0x31#8]

theorem ansi_tokens_sample :
    (∃ d, Cut colouredBell d) ∧ (Uart.new.filterBuffer [] colouredBell).1 = [0x41#8] ∧
      (Uart.new.filterBuffer [] [0x41#8]).1 = [0x41#8] := by
  have hout : (Uart.new.filterBuffer [] colouredBell).1 = [0x41#8] := by decide
  obtain ⟨hcut, -, -, hagain⟩ := ansi_tokens Uart.new rfl colouredBell
  rw [hout] at hagain
  exact ⟨hcut.exists, hout, hagain⟩

/-! ## Transmitting -/

/-- How the UART is written: a register, or a buffer at once. -/
inductive Transmission where
  | write (offset : BitVec 16) (value : BitVec 8)
  | writeBuffer (buf : List (BitVec 8))

namespace Transmission

/-- The bytes it transmits. -/
def bytes : Transmission → List (BitVec 8)
  | .write offset value => if offset = regData then [value] else []
  | .writeBuffer buf => buf

def apply (u : Uart) : Transmission → Uart
  | .write offset value => (u.write offset value).2
  | .writeBuffer buf => u.writeBuffer buf

end Transmission

theorem Uart.Streamed.transmissions {u : Uart} {bytes : List (BitVec 8)} (h : u.Streamed bytes)
    (calls : List Transmission) :
    (calls.foldl Transmission.apply u).Streamed (bytes ++ calls.flatMap Transmission.bytes) := by
  induction calls generalizing u bytes with
  | nil =>
    rw [List.flatMap_nil, List.append_nil]
    exact h
  | cons call calls ih =>
    have hcall : (call.apply u).Streamed (bytes ++ call.bytes) := by
      cases call with
      | writeBuffer buf => exact h.writeBuffer buf
      | write offset value =>
        simp only [Transmission.bytes]
        by_cases ho : offset = regData
        · rw [if_pos ho, ho]
          exact h.write value
        · rw [if_neg ho, List.append_nil]
          exact h.write_other ho value
    rw [List.foldl_cons, List.flatMap_cons, ← List.append_assoc]
    exact ih hcall

/-- What is forwarded while `part` is transmitted, after `before`. -/
def forwarded (before part : List (BitVec 8)) : List (BitVec 8) :=
  (run ansiStep (run ansiStep .normal before).1 part).2

theorem ansi_append (before part : List (BitVec 8)) :
    ansi (before ++ part) = ansi before ++ forwarded before part := by
  unfold ansi forwarded
  rw [run_append]

/-! ## Complete CSI sequences -/

/-- The parameters and intermediate bytes of a CSI sequence. -/
def isParam (b : BitVec 8) : Bool := decide (0x20#8 ≤ b ∧ b ≤ 0x3f#8)

/-- A complete colour or cursor sequence. -/
structure CsiSequence where
  params : List (BitVec 8)
  final : BitVec 8
  inside : ∀ b ∈ params, isParam b = true
  ends : isFinal final = true

namespace CsiSequence

def bytes (c : CsiSequence) : List (BitVec 8) := escByte :: bracket :: (c.params ++ [c.final])

/-- The token of a control sequence. Parameter and intermediate bytes are below 0x40, so none of them is final.
-/
def token (c : CsiSequence) : Token :=
  .csi c.params c.final (fun b hb => by
    have hp := of_decide_eq_true (c.inside b hb)
    refine decide_eq_false fun hf => ?_
    bv_omega) c.ends

theorem printable (c : CsiSequence) : ∀ b ∈ c.params ++ [c.final], Printable b := by
  intro b hb
  refine .inr ?_
  rcases List.mem_append.mp hb with h | h
  · exact (of_decide_eq_true (c.inside b h)).1
  · have hf := (of_decide_eq_true c.ends).1
    rw [← List.mem_singleton.mp h] at hf
    bv_omega

/-- Dropped from `normal`. An escape sequence that has begun before swallows the `ESC`, or the `[` as its
final byte, and the rest is text. -/
theorem run_bytes (c : CsiSequence) (s : AnsiState) :
    (run ansiStep s c.bytes).2 =
      match s with
      | .normal => []
      | .esc => bracket :: (c.params ++ [c.final])
      | .csi => c.params ++ [c.final] := by
  cases s with
  | normal =>
    have hcut : Cut c.bytes ([c.token], .none) := by
      simp only [Cut, List.flatMap_singleton, Tail.bytes, List.append_nil]
      rfl
    exact congrArg Prod.snd (run_ansi_of_cut hcut)
  | esc =>
    have hprintable : ∀ b ∈ bracket :: (c.params ++ [c.final]), Printable b :=
      List.forall_mem_cons.mpr ⟨.inr (by decide), c.printable⟩
    exact congrArg Prod.snd (run_printable hprintable)
  | csi =>
    have hplain := run_printable c.printable
    exact congrArg Prod.snd hplain

end CsiSequence

/-- A complete sequence in the transmitted bytes is dropped if and only if the bytes before it are whole tokens and do not
break off in an escape sequence. -/
theorem csi_forwarded_iff (mcr scr : BitVec 8) (calls : List Transmission) (c : CsiSequence)
    (before after : List (BitVec 8))
    (hstream : calls.flatMap Transmission.bytes = before ++ c.bytes ++ after) :
    (calls.foldl Transmission.apply ⟨mcr, scr, some [], .normal⟩).output =
        ansi before ++ forwarded before c.bytes ++ forwarded (before ++ c.bytes) after ∧
      (forwarded before c.bytes = [] ↔ ∃ tokens, Cut before (tokens, .none)) := by
  have hstart : Uart.Streamed ⟨mcr, scr, some [], .normal⟩ [] := ⟨rfl, rfl, rfl⟩
  refine ⟨?_, ?_⟩
  · rw [(hstart.transmissions calls).out, List.nil_append, hstream, ansi_append, ansi_append]
  · unfold forwarded
    rw [c.run_bytes, ← normal_iff_cut]
    cases (run ansiStep .normal before).1 <;> simp

def red : CsiSequence := ⟨[0x33#8, 0x31#8], 0x6d#8, by decide, by decide⟩

/-- A letter and then the sequence: dropped. -/
theorem red_dropped :
    ([.writeBuffer (0x41#8 :: red.bytes)].foldl Transmission.apply ⟨0, 0, some [], .normal⟩).output =
        [0x41#8] ∧
      forwarded [0x41#8] red.bytes = [] := by
  obtain ⟨hout, hiff⟩ := csi_forwarded_iff 0 0 [.writeBuffer (0x41#8 :: red.bytes)] red [0x41#8] []
    (by decide)
  have hnone := hiff.mpr ⟨[.plain 0x41#8 (.inr (by decide))], rfl⟩
  rw [hnone] at hout
  exact ⟨hout, hnone⟩

/-- After a lone `ESC` all of it but its own `ESC` is forwarded. -/
theorem red_after_escape_leaks :
    forwarded [escByte] red.bytes = [0x5b#8, 0x33#8, 0x31#8, 0x6d#8] ∧
      ([.write regData escByte, .writeBuffer red.bytes].foldl Transmission.apply
        ⟨0, 0, some [], .normal⟩).output = [0x5b#8, 0x33#8, 0x31#8, 0x6d#8] := by
  decide

end Rhyve.Device
