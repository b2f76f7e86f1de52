import Mathlib.Logic.Function.Basic
import Rhyve.Lib.Machine
import Rhyve.Service.RunGuest

/-! # Uploading an image while it is run (`main.rs`)

`store_image` truncates the file and then writes the body in pieces; `load_guest_image` asks for the length of
the file, opens it and reads it with a single call whose count it ignores. The requests on one name are
numbered, and a schedule says whose step is next. What a step returns is part of the schedule.

* `act`: one step of one request, on the file.
* `Whole`: a buffer that is parsed is the body of an upload that had completed.
* `Undisturbed`: the steps that the design relies on.
* `run_boots_whole_upload`: schedules of such steps only parse whole uploads.
* `run_boots_fragment`: a short read, and an upload during the load.
-/

namespace Rhyve.Service
open Machine
set_option autoImplicit false

abbrev Bytes := List (BitVec 8)

/-- How far an upload is. -/
inductive PutPhase where
  | waiting
  /-- The file is open, and this much of the body is written. -/
  | writing (offset : ℕ)
  | stored
  | failed
  deriving DecidableEq, Repr

/-- How far the loading of an image is. -/
inductive RunPhase where
  | waiting
  | statted (len : ℕ)
  | opened (len : ℕ)
  | parsed
  | failed
  deriving DecidableEq, Repr

/-- One image file, the uploads to it and the runs of it. -/
structure Uploads where
  file : Option Bytes
  puts : ℕ → PutPhase
  runs : ℕ → RunPhase
  /-- The upload that truncated the file last. -/
  last : Option ℕ

def Uploads.new : Uploads := ⟨none, fun _ => .waiting, fun _ => .waiting, none⟩

/-- What an upload or a run does next, with the answer of the host. -/
inductive Action where
  | create (i : ℕ) (ok : Bool)
  /-- One write of at most `n` bytes. -/
  | write (i n : ℕ)
  | writeFails (i : ℕ)
  | metadata (j : ℕ) (ok : Bool)
  | openFile (j : ℕ) (ok : Bool)
  /-- The read: the number of bytes that it may return, or an error. -/
  | read (j : ℕ) (n : Option ℕ)
  deriving DecidableEq, Repr

def Action.request : Action → ℕ
  | .create i _ | .write i _ | .writeFails i | .metadata i _ | .openFile i _ | .read i _ => i

/-- What can be seen of them. -/
inductive UploadEvent where
  /-- The upload has answered that the image is stored. -/
  | stored (i : ℕ)
  /-- The run has handed this buffer to the parser. -/
  | parses (j : ℕ) (buffer : Bytes)
  deriving DecidableEq, Repr

/-- A write at a position; a gap reads as zero. -/
def writeAt (content : Bytes) (offset : ℕ) (chunk : Bytes) : Bytes :=
  content.take offset ++ List.replicate (offset - content.length) 0#8 ++ chunk ++
    content.drop (offset + chunk.length)

namespace Uploads

def setPut (s : Uploads) (i : ℕ) (p : PutPhase) : Uploads := { s with puts := Function.update s.puts i p }

def setRun (s : Uploads) (j : ℕ) (p : RunPhase) : Uploads := { s with runs := Function.update s.runs j p }

/-- `File::create` empties the file at once, whatever others do with it. -/
def create (s : Uploads) (i : ℕ) (ok : Bool) : Uploads :=
  if s.puts i = .waiting then
    if ok then { s with file := some [], last := some i }.setPut i (.writing 0) else s.setPut i .failed
  else s

/-- One round of `write_all`. -/
def write (s : Uploads) (body : Bytes) (i n : ℕ) : Uploads × List UploadEvent :=
  match s.puts i with
  | .writing offset =>
    let chunk := (body.drop offset).take n
    if chunk = [] then
      -- nothing is left, or a write has returned zero
      if offset = body.length then (s.setPut i .stored, [.stored i]) else (s.setPut i .failed, [])
    else
      let s := { s with file := some (writeAt (s.file.getD []) offset chunk) }
      if offset + chunk.length = body.length then (s.setPut i .stored, [.stored i])
      else (s.setPut i (.writing (offset + chunk.length)), [])
  | _ => (s, [])

/-- A write fails. What has been written stays. -/
def writeFails (s : Uploads) (i : ℕ) : Uploads :=
  match s.puts i with
  | .writing _ => s.setPut i .failed
  | _ => s

def metadata (s : Uploads) (j : ℕ) (ok : Bool) : Uploads :=
  if s.runs j = .waiting then
    match s.file with
    | some content => s.setRun j (if ok then .statted content.length else .failed)
    | none => s.setRun j .failed
  else s

def openFile (s : Uploads) (j : ℕ) (ok : Bool) : Uploads :=
  match s.runs j with
  | .statted len => s.setRun j (if ok then .opened len else .failed)
  | _ => s

/-- The one `read`, which may return less than the buffer holds. -/
def read (s : Uploads) (j : ℕ) (n : Option ℕ) : Uploads × List UploadEvent :=
  match s.runs j with
  | .opened len =>
    match n with
    | some n =>
      let data := ((s.file.getD []).take len).take n
      (s.setRun j .parsed, [.parses j (imageBuffer len data)])
    | none => (s.setRun j .failed, [])
  | _ => (s, [])

/-- One step of one request; `bodies` are those of the uploads. -/
def act (bodies : ℕ → Bytes) (s : Uploads) : Action → Uploads × List UploadEvent
  | .create i ok => (s.create i ok, [])
  | .write i n => s.write (bodies i) i n
  | .writeFails i => (s.writeFails i, [])
  | .metadata j ok => (s.metadata j ok, [])
  | .openFile j ok => (s.openFile j ok, [])
  | .read j n => s.read j n

/-- The service goes on whatever a request does. -/
def turn (bodies : ℕ → Bytes) (s : Uploads) (a : Action) : Option Uploads × List UploadEvent :=
  (some (s.act bodies a).1, (s.act bodies a).2)

end Uploads

/-- What is parsed is the body of an upload that was stored before. -/
def Whole (bodies : ℕ → Bytes) (log : List UploadEvent) : UploadEvent → Prop
  | .parses _ buffer => ∃ i, UploadEvent.stored i ∈ log ∧ buffer = bodies i
  | .stored _ => True

/-! ## Undisturbed steps -/

namespace Uploads

/-- No upload is between its create and its last write. -/
def NoneWriting (s : Uploads) : Prop := ∀ i offset, s.puts i ≠ .writing offset

/-- No run is between its metadata and its read. -/
def NoneLoading (s : Uploads) : Prop := ∀ j len, s.runs j ≠ .statted len ∧ s.runs j ≠ .opened len

/-- An upload starts when no other upload and no load is under way; a load starts when the upload that
truncated the file last was stored; the read returns the whole length. -/
def Undisturbed (s : Uploads) : Action → Prop
  | .create _ _ => s.NoneWriting ∧ s.NoneLoading
  | .metadata _ _ => ∀ i, s.last = some i → s.puts i = .stored
  | .read j n => ∀ len k, s.runs j = .opened len → n = some k → len ≤ k
  | _ => True

end Uploads

/-- The invariant of undisturbed schedules. -/
structure Settled (bodies : ℕ → Bytes) (s : Uploads) (log : List UploadEvent) : Prop where
  fresh : s.last = none → s.file = none
  writing : ∀ i offset, s.puts i = .writing offset →
    s.last = some i ∧ s.file = some ((bodies i).take offset) ∧ offset ≤ (bodies i).length
  stored : ∀ i, s.last = some i → s.puts i = .stored →
    s.file = some (bodies i) ∧ UploadEvent.stored i ∈ log
  loading : ∀ j len, s.runs j = .statted len ∨ s.runs j = .opened len →
    ∃ i, s.last = some i ∧ s.puts i = .stored ∧ len = (bodies i).length

section Steps
variable {bodies : ℕ → Bytes} {s : Uploads} {log : List UploadEvent}

theorem Settled.extend (h : Settled bodies s log) (more : List UploadEvent) : Settled bodies s (log ++ more) := by
  refine ⟨h.fresh, h.writing, ?_, h.loading⟩
  intro i hlast hput
  obtain ⟨hfile, hmem⟩ := h.stored i hlast hput
  exact ⟨hfile, List.mem_append_left more hmem⟩

theorem Settled.noneLoading (h : Settled bodies s log) {i offset : ℕ} (hput : s.puts i = .writing offset) :
    s.NoneLoading := by
  intro j len
  have hno : ¬ (s.runs j = .statted len ∨ s.runs j = .opened len) := by
    intro hload
    obtain ⟨k, hlast, hstored, -⟩ := h.loading j len hload
    have hsame : i = k := Option.some.inj ((h.writing i offset hput).1.symm.trans hlast)
    rw [← hsame, hput] at hstored
    cases hstored
  exact not_or.mp hno

theorem Settled.fails (h : Settled bodies s log) {i : ℕ} (hput : s.puts i ≠ .stored) :
    Settled bodies (s.setPut i .failed) log := by
  have hother : ∀ k, (s.setPut i .failed).puts k ≠ .failed → (s.setPut i .failed).puts k = s.puts k := by
    intro k hk
    apply Function.update_of_ne
    rintro rfl
    exact hk (Function.update_self _ _ _)
  refine ⟨h.fresh, ?_, ?_, ?_⟩
  · intro k offset hk
    rw [hother k (by rw [hk]; nofun)] at hk
    exact h.writing k offset hk
  · intro k hlast hk
    rw [hother k (by rw [hk]; nofun)] at hk
    exact h.stored k hlast hk
  · intro j len hload
    obtain ⟨k, hlast, hstored, hlen⟩ := h.loading j len hload
    refine ⟨k, hlast, ?_, hlen⟩
    rw [← hstored]
    apply Function.update_of_ne
    rintro rfl
    exact hput hstored

theorem Settled.create (h : Settled bodies s log) (hw : s.NoneWriting) (hl : s.NoneLoading) (i : ℕ) (ok : Bool) :
    Settled bodies (s.create i ok) log := by
  unfold Uploads.create
  split
  · rename_i hwaiting
    split
    · have hi : Function.update s.puts i (.writing 0) i = .writing 0 := Function.update_self _ _ _
      refine ⟨nofun, ?_, ?_, ?_⟩
      · intro k offset hk
        by_cases hki : k = i
        · subst hki
          have hzero := hi.symm.trans hk
          injection hzero with hzero
          rw [← hzero]
          exact ⟨rfl, rfl, Nat.zero_le _⟩
        · exact absurd ((Function.update_of_ne hki _ _).symm.trans hk) (hw k offset)
      · intro k hlast hk
        rw [← Option.some.inj hlast] at hk
        have hcontra := hi.symm.trans hk
        cases hcontra
      · intro j len hload
        exact absurd hload (not_or.mpr (hl j len))
    · exact h.fails (by rw [hwaiting]; nofun)
  · exact h

/-- Writing on at the end of what is written. -/
theorem writeAt_take (body : Bytes) {offset : ℕ} (hle : offset ≤ body.length) (n : ℕ) :
    writeAt (body.take offset) offset ((body.drop offset).take n) =
      body.take (offset + ((body.drop offset).take n).length) := by
  have hlen : (body.take offset).length = offset := List.length_take_of_le hle
  have hchunk : (body.drop offset).take ((body.drop offset).take n).length = (body.drop offset).take n := by
    rw [List.length_take, List.take_eq_take_min, List.take_eq_take_min (i := n)]
    simp
  have hrest : (body.take offset).drop (offset + ((body.drop offset).take n).length) = [] := by
    apply List.drop_of_length_le
    rw [hlen]
    exact Nat.le_add_right _ _
  rw [writeAt, List.take_take, Nat.min_self, hlen, Nat.sub_self, hrest, List.take_add, hchunk,
    List.replicate_zero, List.append_nil, List.append_nil]

theorem Settled.finish (h : Settled bodies s log) {i offset : ℕ} (hput : s.puts i = .writing offset)
    {file : Option Bytes} (hfile : file = some (bodies i)) :
    Settled bodies ({ s with file := file }.setPut i .stored) (log ++ [.stored i]) := by
  obtain ⟨hlast, -, -⟩ := h.writing i offset hput
  have hnone := h.noneLoading hput
  have hi : Function.update s.puts i .stored i = .stored := Function.update_self _ _ _
  refine ⟨?_, ?_, ?_, ?_⟩
  · intro hno
    rw [show s.last = none from hno] at hlast
    cases hlast
  · intro k offset' hk
    by_cases hki : k = i
    · subst hki
      have hcontra := hi.symm.trans hk
      cases hcontra
    · -- Another upload would have truncated the file last, too.
      have hk' : s.puts k = .writing offset' := (Function.update_of_ne hki _ _).symm.trans hk
      exact absurd (Option.some.inj ((h.writing k offset' hk').1.symm.trans hlast)) hki
  · intro k hlast' _
    have hsame : i = k := Option.some.inj (hlast.symm.trans hlast')
    rw [← hsame]
    exact ⟨hfile, List.mem_append_right log (List.mem_singleton_self _)⟩
  · intro j len hload
    exact absurd hload (not_or.mpr (hnone j len))

theorem Settled.advance (h : Settled bodies s log) {i offset next : ℕ} (hput : s.puts i = .writing offset)
    (hle : next ≤ (bodies i).length) :
    Settled bodies ({ s with file := some ((bodies i).take next) }.setPut i (.writing next)) log := by
  obtain ⟨hlast, -, -⟩ := h.writing i offset hput
  have hi : Function.update s.puts i (.writing next) i = .writing next := Function.update_self _ _ _
  refine ⟨?_, ?_, ?_, ?_⟩
  · intro hno
    rw [show s.last = none from hno] at hlast
    cases hlast
  · intro k offset' hk
    by_cases hki : k = i
    · subst hki
      have hnext := hi.symm.trans hk
      injection hnext with hnext
      rw [← hnext]
      exact ⟨hlast, rfl, hle⟩
    · have hk' : s.puts k = .writing offset' := (Function.update_of_ne hki _ _).symm.trans hk
      exact absurd (Option.some.inj ((h.writing k offset' hk').1.symm.trans hlast)) hki
  · intro k hlast' hk
    rw [← Option.some.inj (hlast.symm.trans hlast')] at hk
    have hcontra := hi.symm.trans hk
    cases hcontra
  · intro j len hload
    exact absurd hload (not_or.mpr (h.noneLoading hput j len))

theorem Settled.write (h : Settled bodies s log) (i n : ℕ) :
    Settled bodies (s.write (bodies i) i n).1 (log ++ (s.write (bodies i) i n).2) := by
  unfold Uploads.write
  split
  · rename_i offset hput
    obtain ⟨-, hfile, hle⟩ := h.writing i offset hput
    dsimp only
    split
    · split
      · rename_i hall
        have hwhole : s.file = some (bodies i) := by rw [hfile, hall, List.take_length]
        exact h.finish hput hwhole
      · rw [List.append_nil]
        exact h.fails (by rw [hput]; nofun)
    · rw [hfile, Option.getD_some, writeAt_take (bodies i) hle n]
      split
      · rename_i hall
        refine h.finish hput ?_
        rw [hall, List.take_length]
      · rw [List.append_nil]
        refine h.advance hput ?_
        rw [List.length_take, List.length_drop]
        omega
  · rw [List.append_nil]
    exact h

theorem Settled.writeFails (h : Settled bodies s log) (i : ℕ) : Settled bodies (s.writeFails i) log := by
  unfold Uploads.writeFails
  split
  · rename_i offset hput
    exact h.fails (by rw [hput]; nofun)
  · exact h

theorem Settled.setRun (h : Settled bodies s log) (j : ℕ) {p : RunPhase}
    (hp : ∀ len, p = .statted len ∨ p = .opened len →
      ∃ i, s.last = some i ∧ s.puts i = .stored ∧ len = (bodies i).length) :
    Settled bodies (s.setRun j p) log := by
  refine ⟨h.fresh, h.writing, h.stored, ?_⟩
  intro k len hload
  by_cases hkj : k = j
  · subst hkj
    rw [show (s.setRun k p).runs k = p from Function.update_self _ _ _] at hload
    exact hp len hload
  · rw [show (s.setRun j p).runs k = s.runs k from Function.update_of_ne hkj _ _] at hload
    exact h.loading k len hload

theorem Settled.metadata (h : Settled bodies s log) (hlast : ∀ i, s.last = some i → s.puts i = .stored)
    (j : ℕ) (ok : Bool) : Settled bodies (s.metadata j ok) log := by
  unfold Uploads.metadata
  split
  · split
    · rename_i content hfile
      refine h.setRun j ?_
      intro len hload
      cases ok with
      | false => rcases hload with hload | hload <;> cases hload
      | true =>
        rcases hload with hload | hload
        · injection hload with hload
          cases hown : s.last with
          | none =>
            rw [h.fresh hown] at hfile
            cases hfile
          | some i =>
            have hstored := hlast i hown
            have hsame := (h.stored i hown hstored).1
            rw [hfile] at hsame
            exact ⟨i, rfl, hstored, by rw [← hload, Option.some.inj hsame]⟩
        · cases hload
    · refine h.setRun j ?_
      intro len hload
      rcases hload with hload | hload <;> cases hload
  · exact h

theorem Settled.openFile (h : Settled bodies s log) (j : ℕ) (ok : Bool) :
    Settled bodies (s.openFile j ok) log := by
  unfold Uploads.openFile
  split
  · rename_i len hrun
    refine h.setRun j ?_
    intro len' hload
    cases ok with
    | false => rcases hload with hload | hload <;> cases hload
    | true =>
      rcases hload with hload | hload
      · cases hload
      · injection hload with hload
        rw [← hload]
        exact h.loading j len (.inl hrun)
  · exact h

theorem imageBuffer_whole (body : Bytes) : imageBuffer body.length body = body := by
  rw [imageBuffer, List.take_length, Nat.sub_self, List.replicate_zero, List.append_nil]

theorem Settled.read (h : Settled bodies s log) (j : ℕ) {n : Option ℕ}
    (hn : ∀ len k, s.runs j = .opened len → n = some k → len ≤ k) :
    Settled bodies (s.read j n).1 log ∧ ∀ e ∈ (s.read j n).2, Whole bodies log e := by
  unfold Uploads.read
  split
  · rename_i len hrun
    have hdone : ∀ p : RunPhase, p = .parsed ∨ p = .failed → Settled bodies (s.setRun j p) log := by
      rintro p hp
      refine h.setRun j ?_
      rintro len' (rfl | rfl) <;> rcases hp with hp | hp <;> cases hp
    split
    · rename_i k
      obtain ⟨i, hlast, hstored, hlen⟩ := h.loading j len (.inr hrun)
      obtain ⟨hfile, hmem⟩ := h.stored i hlast hstored
      refine ⟨hdone .parsed (.inl rfl), ?_⟩
      intro e he
      rw [List.mem_singleton.mp he]
      refine ⟨i, hmem, ?_⟩
      have hk := hn len k hrun rfl
      rw [hfile, Option.getD_some, hlen, List.take_length, List.take_of_length_le (by omega),
        imageBuffer_whole]
    · refine ⟨hdone .failed (.inr rfl), ?_⟩
      intro e he
      cases he
  · refine ⟨h, ?_⟩
    intro e he
    cases he

theorem act_events (bodies : ℕ → Bytes) (s : Uploads) (a : Action) :
    (s.act bodies a).2 = [] ∨ ∃ e, (s.act bodies a).2 = [e] := by
  cases a with
  | create i ok => exact .inl rfl
  | write i n =>
    show (s.write (bodies i) i n).2 = [] ∨ ∃ e, (s.write (bodies i) i n).2 = [e]
    unfold Uploads.write
    dsimp only
    repeat' split
    all_goals first
      | exact .inl rfl
      | exact .inr ⟨_, rfl⟩
  | writeFails i => exact .inl rfl
  | metadata j ok => exact .inl rfl
  | openFile j ok => exact .inl rfl
  | read j n =>
    show (s.read j n).2 = [] ∨ ∃ e, (s.read j n).2 = [e]
    unfold Uploads.read
    repeat' split
    all_goals first
      | exact .inl rfl
      | exact .inr ⟨_, rfl⟩

theorem write_whole (log : List UploadEvent) (s : Uploads) (i n : ℕ) :
    ∀ e ∈ (s.write (bodies i) i n).2, Whole bodies log e := by
  unfold Uploads.write
  dsimp only
  intro e he
  repeat' split at he
  all_goals first
    | cases he; done
    | (rw [List.mem_singleton.mp he]; trivial)

theorem act_settled (h : Settled bodies s log) {a : Action} (ha : s.Undisturbed a) :
    Settled bodies (s.act bodies a).1 (log ++ (s.act bodies a).2) ∧
      ∀ e ∈ (s.act bodies a).2, Whole bodies log e := by
  have hnone : ∀ e ∈ ([] : List UploadEvent), Whole bodies log e := fun e he => by cases he
  cases a with
  | create i ok => exact ⟨(h.create ha.1 ha.2 i ok).extend [], hnone⟩
  | write i n => exact ⟨h.write i n, write_whole log s i n⟩
  | writeFails i => exact ⟨(h.writeFails i).extend [], hnone⟩
  | metadata j ok => exact ⟨(h.metadata ha j ok).extend [], hnone⟩
  | openFile j ok => exact ⟨(h.openFile j ok).extend [], hnone⟩
  | read j n =>
    obtain ⟨hsettled, hwhole⟩ := h.read j ha
    exact ⟨hsettled.extend _, hwhole⟩

end Steps

/-- In every schedule of undisturbed steps, a run boots exactly one complete upload, or fails. -/
theorem run_boots_whole_upload (bodies : ℕ → Bytes) (actions : List Action)
    (hC : Along (Uploads.turn bodies) Uploads.Undisturbed Uploads.new actions) :
    AtEach (Whole bodies) (Machine.run (Uploads.turn bodies) Uploads.new actions).2 := by
  have hstart : Settled bodies Uploads.new [] :=
    ⟨fun _ => rfl, nofun, nofun, fun j len h => by rcases h with h | h <;> cases h⟩
  have hstep : ∀ (s : Uploads) (log : List UploadEvent) (a : Action),
      Settled bodies s log ∧ AtEach (Whole bodies) log → s.Undisturbed a →
      AtEach (Whole bodies) (log ++ (s.turn bodies a).2) ∧ ∀ s', (s.turn bodies a).1 = some s' →
        Settled bodies s' (log ++ (s.turn bodies a).2) ∧ AtEach (Whole bodies) (log ++ (s.turn bodies a).2) := by
    intro s log a hI ha
    obtain ⟨hsettled, hwhole⟩ := act_settled hI.1 ha
    have hlog : AtEach (Whole bodies) (log ++ (s.turn bodies a).2) := by
      rcases act_events bodies s a with hnil | ⟨e, he⟩
      · rw [show (s.turn bodies a).2 = [] from hnil, List.append_nil]
        exact hI.2
      · rw [show (s.turn bodies a).2 = [e] from he]
        exact hI.2.concat (hwhole e (by rw [he]; exact List.mem_singleton_self e))
    refine ⟨hlog, ?_⟩
    intro s' hs
    rw [← Option.some.inj hs]
    exact ⟨hsettled, hlog⟩
  exact (run_log (fun s log => Settled bodies s log ∧ AtEach (Whole bodies) log) (AtEach (Whole bodies))
    hstep [] ⟨hstart, atEach_nil⟩ atEach_nil hC).1

/-- An upload in two writes, then a run. -/
def quietSchedule : List Action :=
  [.create 0 true, .write 0 2, .write 0 2, .metadata 0 true, .openFile 0 true, .read 0 (some 3)]

def threeBytes : ℕ → Bytes := fun _ => [1#8, 2#8, 3#8]

theorem run_boots_whole_upload_quiet :
    AtEach (Whole threeBytes) (Machine.run (Uploads.turn threeBytes) Uploads.new quietSchedule).2 ∧
      (Machine.run (Uploads.turn threeBytes) Uploads.new quietSchedule).2 =
        [.stored 0, .parses 0 [1#8, 2#8, 3#8]] := by
  refine ⟨run_boots_whole_upload threeBytes quietSchedule ?_, by decide⟩
  refine ⟨⟨nofun, fun j len => ⟨nofun, nofun⟩⟩, ?_⟩
  intro s1 h1
  refine ⟨trivial, ?_⟩
  intro s2 h2
  refine ⟨trivial, ?_⟩
  intro s3 h3
  obtain rfl := Option.some.inj h1
  obtain rfl := Option.some.inj h2
  obtain rfl := Option.some.inj h3
  refine ⟨?_, ?_⟩
  · intro i hlast
    rw [← Option.some.inj hlast]
    rfl
  intro s4 h4
  refine ⟨trivial, ?_⟩
  intro s5 h5
  obtain rfl := Option.some.inj h4
  obtain rfl := Option.some.inj h5
  refine ⟨?_, fun _ _ => trivial⟩
  intro len k hrun hk
  injection hk with hk
  have hlen : RunPhase.opened 3 = .opened len := hrun
  injection hlen with hlen
  omega

/-- The read returns one byte of three; an upload truncates the file between the metadata and the read. -/
theorem run_boots_fragment :
    ¬ AtEach (Whole threeBytes) (Machine.run (Uploads.turn threeBytes) Uploads.new
      [.create 0 true, .write 0 3, .metadata 0 true, .openFile 0 true, .read 0 (some 1)]).2 ∧
    ¬ AtEach (Whole threeBytes) (Machine.run (Uploads.turn threeBytes) Uploads.new
      [.create 0 true, .write 0 3, .metadata 0 true, .openFile 0 true, .create 1 true, .read 0 (some 3)]).2 := by
  refine ⟨?_, ?_⟩
  · intro h
    obtain ⟨i, -, hbuffer⟩ := h [.stored 0] (.parses 0 [1#8, 0#8, 0#8]) [] (by decide)
    cases hbuffer
  · intro h
    obtain ⟨i, -, hbuffer⟩ := h [.stored 0] (.parses 0 [0#8, 0#8, 0#8]) [] (by decide)
    cases hbuffer

end Rhyve.Service
