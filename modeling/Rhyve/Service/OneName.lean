import Rhyve.Service.Requests

/-! # The uploads and runs of one name

Among the requests of the service, those for one name act on one file. `Uploads` is the model of that file alone.

* `Shows`: the state of the service, as far as the requests of one name see it.
* `step_matched`: a step of the service is some steps of these requests on their file, or none.
-/

namespace Rhyve.Service
open Machine
set_option autoImplicit false

def bodies (reqs : ℕ → Request) (i : ℕ) : Bytes :=
  match reqs i with
  | .put _ body => body
  | .run _ => []

/-- What an event says about the uploads and runs of one name. -/
def eventOf (reqs : ℕ → Request) (name : String) (e : ServiceEvent) : Option UploadEvent :=
  if (reqs e.request).name = name then
    match e with
    | .stored i _ => some (.stored i)
    | .parses i buffer => some (.parses i buffer)
    | _ => none
  else none

/-- The phase of an upload that this stage shows. After its end the phase is of no interest. -/
def PutShows : Stage → PutPhase → Prop
  | .waiting, phase => phase = .waiting
  | .accepted, phase => phase = .waiting
  | .ready, phase => phase = .waiting
  | .writing offset, phase => phase = .writing offset
  | _, _ => True

/-- A directory can be opened, but nothing is parsed. -/
def RunShows (directory : Prop) : Stage → RunPhase → Prop
  | .waiting, phase => phase = .waiting
  | .accepted, phase => phase = .waiting
  | .statted len, phase => directory ∨ phase = .statted len
  | .opened len, phase => directory ∨ phase = .opened len
  | _, _ => True

/-- The uploads and runs of one name, as they would be alone. -/
structure Shows (reqs : ℕ → Request) (name : String) (s : Requests) (u : Uploads) : Prop where
  file : u.file = s.fs.content (fileOf name)
  puts : ∀ i body, reqs i = .put name body → PutShows (s.stage i) (u.puts i)
  runs : ∀ i, reqs i = .run name → RunShows (s.fs (fileOf name) = some .directory) (s.stage i) (u.runs i)

theorem RunShows.mono {d d' : Prop} (hd : d → d') {stage : Stage} {phase : RunPhase} (h : RunShows d stage phase) :
    RunShows d' stage phase := by
  cases stage with
  | waiting => exact h
  | accepted => exact h
  | ready => trivial
  | writing offset => trivial
  | statted len => exact h.imp_left hd
  | opened len => exact h.imp_left hd
  | done => trivial

section Shows
open Requests
variable {reqs : ℕ → Request} {name : String} {s s' : Requests} {u u' : Uploads} {i : ℕ}

/-- The requests other than the one that acts wait on. -/
theorem Shows.act (h : Shows reqs name s u) (hacts : Acts s i (reqs i).name s')
    (hfile : u'.file = s'.fs.content (fileOf name)) (hputs : ∀ j, j ≠ i → u'.puts j = u.puts j)
    (hruns : ∀ j, j ≠ i → u'.runs j = u.runs j)
    (hput : ∀ body, reqs i = .put name body → PutShows (s'.stage i) (u'.puts i))
    (hrun : reqs i = .run name → RunShows (s'.fs (fileOf name) = some .directory) (s'.stage i) (u'.runs i)) :
    Shows reqs name s' u' := by
  refine ⟨hfile, ?_, ?_⟩
  · intro j body hj
    by_cases hji : j = i
    · subst hji
      exact hput body hj
    · rw [hacts.stage_other hji, hputs j hji]
      exact h.puts j body hj
  · intro j hj
    by_cases hji : j = i
    · subst hji
      exact hrun hj
    · rw [hacts.stage_other hji, hruns j hji]
      exact (h.runs j hj).mono hacts.keeps_directory

/-- A request for another name. -/
theorem Shows.other (h : Shows reqs name s u) (hname : invalidName name = false) (hacts : Acts s i (reqs i).name s')
    (hother : (reqs i).name ≠ name) : Shows reqs name s' u := by
  refine h.act hacts ?_ (fun _ _ => rfl) (fun _ _ => rfl) ?_ ?_
  · rw [h.file]
    exact (hacts.content fun hvalid heq => hother (fileOf_injective hname hvalid heq).symm).symm
  · intro body hi
    exact absurd (congrArg Request.name hi) hother
  · intro hi
    exact absurd (congrArg Request.name hi) hother

/-- A step that is not seen in the file. -/
theorem Shows.goto (h : Shows reqs name s u) {stage : Stage} (hstage : stage = .done ∨ invalidName (reqs i).name = false)
    (hnot : ∀ offset, stage ≠ .writing offset) (hdir : stage = .ready → s.fs imageDir ≠ none)
    (hput : ∀ body, reqs i = .put name body → PutShows stage (u.puts i))
    (hrun : reqs i = .run name → RunShows (s.fs (fileOf name) = some .directory) stage (u.runs i)) :
    Shows reqs name (s.goto i stage) u := by
  refine h.act (.moves hstage hnot hdir) h.file (fun _ _ => rfl) (fun _ _ => rfl) ?_ ?_
  · rw [stage_goto_self]
    exact hput
  · rw [stage_goto_self]
    exact hrun

theorem Shows.ends (h : Shows reqs name s u) : Shows reqs name (s.goto i .done) u :=
  h.goto (.inl rfl) nofun nofun (fun _ _ => trivial) fun _ => trivial

theorem eventOf_refused (status : ℕ) (text : String) : eventOf reqs name (.refused i status text) = none := by
  unfold eventOf
  split
  · rfl
  · rfl

theorem eventOf_failed : eventOf reqs name (.failed i) = none := by
  unfold eventOf
  split
  · rfl
  · rfl

theorem eventOf_stored (h : (reqs i).name = name) (text : String) :
    eventOf reqs name (.stored i text) = some (.stored i) := if_pos h

theorem eventOf_parses (h : (reqs i).name = name) (buffer : Bytes) :
    eventOf reqs name (.parses i buffer) = some (.parses i buffer) := if_pos h

theorem filterMap_stored (h : (reqs i).name = name) (text : String) :
    [ServiceEvent.stored i text].filterMap (eventOf reqs name) = [.stored i] := by
  rw [List.filterMap_cons_some (eventOf_stored h text)]
  rfl

/-- Some steps of the requests for one name, with these events. -/
def Matched (reqs : ℕ → Request) (name : String) (u : Uploads) (s' : Requests) (events : List ServiceEvent) : Prop :=
  ∃ actions u', Machine.run (Uploads.turn (bodies reqs)) u actions = (some u', events.filterMap (eventOf reqs name)) ∧
    (∀ a ∈ actions, (reqs a.request).name = name) ∧ Shows reqs name s' u'

theorem Shows.unmatched (h : Shows reqs name s' u) {events : List ServiceEvent}
    (hevents : events.filterMap (eventOf reqs name) = []) : Matched reqs name u s' events := by
  refine ⟨[], u, ?_, nofun, h⟩
  rw [hevents]
  rfl

theorem Shows.matched (h : Shows reqs name s' u') {a : Action} {seen : List UploadEvent} {events : List ServiceEvent}
    (hact : u.act (bodies reqs) a = (u', seen)) (ha : (reqs a.request).name = name)
    (hseen : seen = events.filterMap (eventOf reqs name)) : Matched reqs name u s' events := by
  refine ⟨[a], u', ?_, ?_, h⟩
  · simp only [Machine.run, Uploads.turn, List.append_nil, hact, hseen]
  · intro b hb
    rw [List.mem_singleton.mp hb]
    exact ha

theorem Shows.refused (h : Shows reqs name s u) (status : ℕ) (text : String) :
    Matched reqs name u (s.goto i .done) [.refused i status text] := by
  refine h.ends.unmatched ?_
  rw [List.filterMap_cons_none (eventOf_refused status text)]
  rfl

theorem Shows.failed (h : Shows reqs name s u) : Matched reqs name u (s.goto i .done) [.failed i] := by
  refine h.ends.unmatched ?_
  rw [List.filterMap_cons_none eventOf_failed]
  rfl

/-! ### An upload -/

theorem check_matched (h : Shows reqs name s u) (hname : invalidName name = false) (hi : (reqs i).name = name)
    (hstage : s.stage i = .waiting) : Matched reqs name u (s.check i name).1 (s.check i name).2 := by
  have hcheck : s.check i name = (s.goto i .accepted, []) := by
    unfold Requests.check
    rw [hname]
    rfl
  have hnext : Shows reqs name (s.goto i .accepted) u := by
    refine h.goto (.inr (hi ▸ hname)) nofun nofun ?_ ?_
    · intro body hput
      have hwaiting := h.puts i body hput
      rw [hstage] at hwaiting
      exact hwaiting
    · intro hrun
      have hwaiting := h.runs i hrun
      rw [hstage] at hwaiting
      exact hwaiting
  rw [hcheck]
  exact hnext.unmatched rfl

section Put
variable {body : Bytes} (h : Shows reqs name s u) (hname : invalidName name = false) (hi : reqs i = .put name body)
include h hname hi

theorem createDir_matched (hstage : s.stage i = .accepted) (ok : Bool) (error : String) :
    Matched reqs name u (s.createDir i ok error).1 (s.createDir i ok error).2 := by
  have hwaiting : u.puts i = .waiting := by
    have hshows := h.puts i body hi
    rw [hstage] at hshows
    exact hshows
  have hvalid : invalidName (reqs i).name = false := by
    rw [hi]
    exact hname
  have hnotRun : reqs i ≠ .run name := by
    rw [hi]
    nofun
  unfold Requests.createDir
  split
  · exact h.refused _ _
  · split
    · rename_i hnone
      refine Shows.unmatched ?_ rfl
      refine h.act (.makesDir hvalid hnone) ?_ (fun _ _ => rfl) (fun _ _ => rfl) ?_ fun hrun => absurd hrun hnotRun
      · rw [content_makesDir hnone]
        exact h.file
      · intro _ _
        rw [stage_goto_self]
        exact hwaiting
    · rename_i hsome
      have hnext : Shows reqs name (s.goto i .ready) u :=
        h.goto (.inr hvalid) nofun (fun _ => hsome) (fun _ _ => hwaiting) fun hrun => absurd hrun hnotRun
      exact hnext.unmatched rfl

/-- The upload writes its file, and the uploads of the name write it, too. -/
theorem writes_shows (hnot : s.fs (fileOf name) ≠ some .directory) (hdir : s.fs imageDir ≠ none) (content : Bytes)
    (last : Option ℕ) {stage : Stage} {phase : PutPhase} (hphase : PutShows stage phase) :
    Shows reqs name ((s.write (fileOf name) (.file content)).goto i stage)
      ({ u with file := some content, last := last }.setPut i phase) := by
  refine h.act ?_ ?_ (fun j hj => Function.update_of_ne hj _ _) (fun _ _ => rfl) ?_ ?_
  · rw [hi]
    exact .writes _ _ hname hnot hdir
  · rw [content_writes]
    rfl
  · intro _ _
    have hself : Function.update u.puts i phase i = phase := Function.update_self _ _ _
    show PutShows _ (Function.update u.puts i phase i)
    rw [stage_goto_self, hself]
    exact hphase
  · rw [hi]
    nofun

omit hname in
theorem stored_shows : Shows reqs name (s.goto i .done) (u.setPut i .stored) := by
  refine h.act (.moves (.inl rfl) nofun nofun) h.file (fun j hj => Function.update_of_ne hj _ _) (fun _ _ => rfl) ?_ ?_
  · intro _ _
    rw [stage_goto_self]
    trivial
  · rw [hi]
    nofun

theorem create_matched (hstage : s.stage i = .ready) (hdir : s.fs imageDir ≠ none) (ok : Bool) (error : String) :
    Matched reqs name u (s.create i name ok error).1 (s.create i name ok error).2 := by
  have hwaiting : u.puts i = .waiting := by
    have hshows := h.puts i body hi
    rw [hstage] at hshows
    exact hshows
  unfold Requests.create
  split
  · rename_i hcan
    have hnot := creatable_not_directory (Bool.and_eq_true_iff.mp hcan).2
    have hact : u.act (bodies reqs) (.create i true) =
        ({ u with file := some [], last := some i }.setPut i (.writing 0), []) := by
      simp only [Uploads.act, Uploads.create, hwaiting, if_true]
    refine Shows.matched (writes_shows h hname hi hnot hdir _ _ ?_) hact (congrArg Request.name hi) rfl
    rfl
  · exact h.refused _ _

omit h hname in
/-- One round of `write_all` for the uploads of the name. -/
theorem act_write {offset : ℕ} (hwriting : u.puts i = .writing offset) (n : ℕ) :
    u.act (bodies reqs) (.write i n) =
      if (body.drop offset).take n = [] then
        if offset = body.length then (u.setPut i .stored, [.stored i]) else (u.setPut i .failed, [])
      else
        let u := { u with file := some (writeAt (u.file.getD []) offset ((body.drop offset).take n)) }
        if offset + ((body.drop offset).take n).length = body.length then (u.setPut i .stored, [.stored i])
        else (u.setPut i (.writing (offset + ((body.drop offset).take n).length)), []) := by
  have hbody : bodies reqs i = body := by
    unfold bodies
    rw [hi]
  simp only [Uploads.act, Uploads.write, hwriting, hbody]

/-- One round of `write_all` is one round for the uploads of the name. -/
theorem writeAll_matched {offset : ℕ} (hstage : s.stage i = .writing offset)
    (hfile : ∃ content, s.fs (fileOf name) = some (.file content)) (hdir : s.fs imageDir ≠ none) (n : ℕ)
    (error : String) :
    Matched reqs name u (s.writeAll i name body offset n error).1 (s.writeAll i name body offset n error).2 := by
  have hwriting : u.puts i = .writing offset := by
    have hshows := h.puts i body hi
    rw [hstage] at hshows
    exact hshows
  have hname' : (reqs i).name = name := congrArg Request.name hi
  have hnot : s.fs (fileOf name) ≠ some .directory := by
    obtain ⟨content, hfile⟩ := hfile
    rw [hfile]
    nofun
  have hact := act_write hi hwriting n
  rw [h.file] at hact
  unfold Requests.writeAll
  dsimp only at hact ⊢
  generalize (body.drop offset).take n = chunk at hact ⊢
  split
  · rename_i hnil
    rw [if_pos hnil] at hact
    split
    · rename_i hall
      rw [if_pos hall] at hact
      exact (stored_shows h hi).matched hact hname' (filterMap_stored hname' _).symm
    · exact h.refused _ _
  · rename_i hchunk
    rw [if_neg hchunk] at hact
    split
    · rename_i hall
      rw [if_pos hall] at hact
      refine Shows.matched (writes_shows h hname hi hnot hdir _ _ ?_) hact hname' (filterMap_stored hname' _).symm
      trivial
    · rename_i hmore
      rw [if_neg hmore] at hact
      refine Shows.matched (writes_shows h hname hi hnot hdir _ _ ?_) hact hname' rfl
      rfl

end Put

theorem storeImage_matched (hsane : Sane reqs s) (h : Shows reqs name s u) (hname : invalidName name = false)
    {body : Bytes} (hi : reqs i = .put name body) (turn : Turn) :
    Matched reqs name u (s.storeImage i name body turn).1 (s.storeImage i name body turn).2 := by
  unfold Requests.storeImage
  split
  · rename_i hstage
    exact check_matched h hname (congrArg Request.name hi) hstage
  · rename_i hstage
    exact createDir_matched h hname hi hstage _ _
  · rename_i hstage
    exact create_matched h hname hi hstage (hsane.dir i (by rw [hstage]; trivial)) _ _
  · rename_i offset n error hstage
    have hfile := hsane.writing i offset hstage
    rw [hi] at hfile
    exact writeAll_matched h hname hi hstage hfile (hsane.dir i (by rw [hstage]; trivial)) n error
  · exact h.refused _ _
  · exact h.unmatched rfl

/-! ### A run -/

section Run
variable (h : Shows reqs name s u) (hname : invalidName name = false) (hi : reqs i = .run name)
include h hname hi

/-- A step of the run that the uploads and runs of the name take, too. -/
theorem runs_matched {stage : Stage} {phase : RunPhase} {a : Action} (hnot : ∀ offset, stage ≠ .writing offset)
    (hready : stage ≠ .ready) (hact : u.act (bodies reqs) a = (u.setRun i phase, [])) (ha : (reqs a.request).name = name)
    (hshows : RunShows (s.fs (fileOf name) = some .directory) stage phase) :
    Matched reqs name u (s.goto i stage) [] := by
  have hvalid : invalidName (reqs i).name = false := by
    rw [hi]
    exact hname
  refine Shows.matched ?_ hact ha rfl
  refine h.act (.moves (.inr hvalid) hnot fun h => absurd h hready) h.file (fun _ _ => rfl)
    (fun j hj => Function.update_of_ne hj _ _) ?_ ?_
  · rw [hi]
    nofun
  · intro _
    have hself : Function.update u.runs i phase i = phase := Function.update_self _ _ _
    show RunShows _ _ (Function.update u.runs i phase i)
    rw [stage_goto_self, hself]
    exact hshows

/-- A step of a run on a directory. -/
theorem runs_unmatched {stage : Stage} (hnot : ∀ offset, stage ≠ .writing offset) (hready : stage ≠ .ready)
    (hshows : RunShows (s.fs (fileOf name) = some .directory) stage (u.runs i)) :
    Matched reqs name u (s.goto i stage) [] := by
  have hvalid : invalidName (reqs i).name = false := by
    rw [hi]
    exact hname
  refine Shows.unmatched (h.goto (.inr hvalid) hnot (fun h => absurd h hready) ?_ fun _ => hshows) rfl
  rw [hi]
  nofun

theorem metadata_matched (hstage : s.stage i = .accepted) (ok : Bool) (dirLen : ℕ) :
    Matched reqs name u (s.metadata i name ok dirLen).1 (s.metadata i name ok dirLen).2 := by
  have hwaiting : u.runs i = .waiting := by
    have hshows := h.runs i hi
    rw [hstage] at hshows
    exact hshows
  have hfile := h.file
  unfold FileSystem.content at hfile
  unfold Requests.metadata
  cases hnode : s.fs (fileOf name) with
  | none => exact h.failed
  | some node =>
    rw [hnode] at hfile
    cases ok with
    | false => exact h.failed
    | true =>
      cases node with
      | directory => exact runs_unmatched h hname hi nofun nofun (.inl hnode)
      | file content =>
        have hact : u.act (bodies reqs) (.metadata i true) = (u.setRun i (.statted content.length), []) := by
          simp only [Uploads.act, Uploads.metadata, hwaiting, hfile, if_true]
        exact runs_matched h hname hi nofun nofun hact (congrArg Request.name hi) (.inr rfl)

theorem openFile_matched {len : ℕ} (hstage : s.stage i = .statted len) :
    Matched reqs name u (s.goto i (.opened len)) [] := by
  have hshows := h.runs i hi
  rw [hstage] at hshows
  rcases hshows with hdir | hstatted
  · exact runs_unmatched h hname hi nofun nofun (.inl hdir)
  · have hact : u.act (bodies reqs) (.openFile i true) = (u.setRun i (.opened len), []) := by
      simp only [Uploads.act, Uploads.openFile, hstatted, if_true]
    exact runs_matched h hname hi nofun nofun hact (congrArg Request.name hi) (.inr rfl)

omit hname in
theorem read_matched {len : ℕ} (hstage : s.stage i = .opened len) (n : Option ℕ) :
    Matched reqs name u (s.read i name len n).1 (s.read i name len n).2 := by
  have hname' : (reqs i).name = name := congrArg Request.name hi
  have hfile := h.file
  unfold FileSystem.content at hfile
  unfold Requests.read
  split
  · rename_i content n hnode
    rw [hnode] at hfile
    have hopened : u.runs i = .opened len := by
      have hshows := h.runs i hi
      rw [hstage, hnode] at hshows
      rcases hshows with hdir | hopened
      · cases hdir
      · exact hopened
    have hact : u.act (bodies reqs) (.read i (some n)) =
        (u.setRun i .parsed, [.parses i (imageBuffer len ((content.take len).take n))]) := by
      simp only [Uploads.act, Uploads.read, hopened, hfile, Option.getD_some]
    refine Shows.matched ?_ hact hname' ?_
    · refine h.act (.moves (.inl rfl) nofun nofun) h.file (fun _ _ => rfl)
        (fun j hj => Function.update_of_ne hj _ _) ?_ ?_
      · rw [hi]
        nofun
      · intro _
        rw [stage_goto_self]
        trivial
    · rw [List.filterMap_cons_some (eventOf_parses hname' _)]
      rfl
  · exact h.failed

theorem runGuest_matched (turn : Turn) :
    Matched reqs name u (s.runGuest i name turn).1 (s.runGuest i name turn).2 := by
  unfold Requests.runGuest
  split
  · rename_i hstage
    exact check_matched h hname (congrArg Request.name hi) hstage
  · rename_i hstage
    exact metadata_matched h hname hi hstage _ _
  · rename_i hstage
    split
    · exact openFile_matched h hname hi hstage
    · exact h.failed
  · rename_i hstage
    exact read_matched h hi hstage _
  · exact h.unmatched rfl

end Run

/-! ### Any request -/

theorem step_matched (hname : invalidName name = false) (hsane : Sane reqs s) (h : Shows reqs name s u) (m : ℕ × Turn) :
    ∃ s', (s.step reqs m).1 = some s' ∧ Sane reqs s' ∧ Matched reqs name u s' (s.step reqs m).2 := by
  obtain ⟨s', hs, hacts⟩ := step_acts hsane m
  refine ⟨s', hs, hacts.sane hsane, ?_⟩
  by_cases hother : (reqs m.1).name = name
  · cases hreq : reqs m.1 with
    | put name' body =>
      obtain rfl : name' = name := by
        rw [hreq] at hother
        exact hother
      have hmatched := storeImage_matched hsane h hname hreq m.2
      simp only [Requests.step, hreq, Option.some.injEq] at hs ⊢
      rw [← hs]
      exact hmatched
    | run name' =>
      obtain rfl : name' = name := by
        rw [hreq] at hother
        exact hother
      have hmatched := runGuest_matched h hname hreq m.2
      simp only [Requests.step, hreq, Option.some.injEq] at hs ⊢
      rw [← hs]
      exact hmatched
  · refine (h.other hname hacts hother).unmatched ?_
    rw [List.filterMap_eq_nil_iff]
    intro e he
    refine if_neg ?_
    rw [step_request reqs s m e he]
    exact hother

end Shows

end Rhyve.Service
