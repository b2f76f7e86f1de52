import Rhyve.Service.OneName

/-! # Requests for different names

The handlers share the file system, and `/image` is created by whichever comes first. Apart from that, the requests for
one name go on as if the others had never been made.

* `Beside`: the service, and the service with only the requests for one name.
* `own_step`, `other_step`: a step of a request for the name, which both take, and one of any other request.
* `names_independent`: the same answers, the same guests, the same file.
-/

namespace Rhyve.Service
open Machine Requests
set_option autoImplicit false

/-- What is at `/image` among all requests, and among those for one name: another request may have created the
directory. -/
def DirAs : Option Node → Option Node → Prop
  | some .directory, some .directory => True
  | some (.file _), some (.file _) => True
  | none, none => True
  | some .directory, none => True
  | _, _ => False

/-- Two states in which the requests for one name cannot be told apart. -/
structure Beside (reqs : ℕ → Request) (name : String) (s t : Requests) : Prop where
  file : s.fs (fileOf name) = t.fs (fileOf name)
  stage : ∀ i, (reqs i).name = name → s.stage i = t.stage i
  dir : DirAs (s.fs imageDir) (t.fs imageDir)
  itself : fileOf name = imageDir → t.fs imageDir ≠ none

/-- The same answer, and states that go on beside each other. -/
def Agree (reqs : ℕ → Request) (name : String) (x y : Requests × List ServiceEvent) : Prop :=
  y.2 = x.2 ∧ Beside reqs name x.1 y.1

theorem DirAs.refl (node : Option Node) : DirAs node node := by
  cases node with
  | none => trivial
  | some node => cases node <;> trivial

theorem DirAs.none_left {y : Option Node} (h : DirAs none y) : y = none := by
  cases y with
  | none => rfl
  | some node => cases node <;> exact h.elim

/-- Where the directory is there for the requests of the name, it is the same for all. -/
theorem DirAs.directory_iff {x y : Option Node} (h : DirAs x y) (hy : y ≠ none) :
    x = some .directory ↔ y = some .directory := by
  cases y with
  | none => exact absurd rfl hy
  | some node =>
    cases x with
    | none => exact h.elim
    | some node' =>
      cases node <;> cases node'
      · exact Iff.rfl
      · exact h.elim
      · exact h.elim
      · exact iff_of_false nofun nofun

/-- A file takes the place of a file. -/
theorem DirAs.written {x y : Option Node} (h : DirAs x y) (hnone : x ≠ none) (hnot : x ≠ some .directory)
    (content : Bytes) : DirAs (some (.file content)) y := by
  cases x with
  | none => exact absurd rfl hnone
  | some node =>
    cases node with
    | directory => exact absurd rfl hnot
    | file old =>
      cases y with
      | none => exact h.elim
      | some node' =>
        cases node' with
        | directory => exact h.elim
        | file new => trivial

theorem fileOf_eq_imageDir {name : String} (hname : invalidName name = false) (h : fileOf name = imageDir) :
    name = "." := by
  rw [fileOf_valid hname] at h
  split at h
  · rename_i hdot
    exact String.toList_inj.mp hdot
  · have hlength := congrArg List.length h
    simp [imageDir] at hlength

section Step
variable {reqs : ℕ → Request} {name : String} {s t s' t' : Requests} {i : ℕ}

/-- Of the stages, only that of the request that acts changes. -/
theorem Beside.act (h : Beside reqs name s t) (hfile : s'.fs (fileOf name) = t'.fs (fileOf name))
    (hs : ∀ j, j ≠ i → s'.stage j = s.stage j) (ht : ∀ j, j ≠ i → t'.stage j = t.stage j) (hi : s'.stage i = t'.stage i)
    (hdir : DirAs (s'.fs imageDir) (t'.fs imageDir)) (hitself : fileOf name = imageDir → t'.fs imageDir ≠ none) :
    Beside reqs name s' t' := by
  refine ⟨hfile, ?_, hdir, hitself⟩
  intro j hj
  by_cases hji : j = i
  · rw [hji]
    exact hi
  · rw [hs j hji, ht j hji]
    exact h.stage j hj

theorem Beside.goto (h : Beside reqs name s t) (i : ℕ) (stage : Stage) :
    Beside reqs name (s.goto i stage) (t.goto i stage) := by
  refine h.act h.file (fun j hj => stage_goto_other _ _ _ hj) (fun j hj => stage_goto_other _ _ _ hj) ?_ h.dir h.itself
  rw [stage_goto_self, stage_goto_self]

theorem Beside.ends (h : Beside reqs name s t) (i : ℕ) (events : List ServiceEvent) :
    Agree reqs name (s.goto i .done, events) (t.goto i .done, events) := ⟨rfl, h.goto i .done⟩

theorem Beside.idle (h : Beside reqs name s t) : Agree reqs name (s, []) (t, []) := ⟨rfl, h⟩

/-- Both write to the file of the name. -/
theorem Beside.writes (h : Beside reqs name s t) (i : ℕ) (content : Bytes) (stage : Stage) :
    Beside reqs name ((s.write (fileOf name) (.file content)).goto i stage)
      ((t.write (fileOf name) (.file content)).goto i stage) := by
  refine h.act ?_ (fun j hj => stage_goto_other _ _ _ hj) (fun j hj => stage_goto_other _ _ _ hj) ?_ ?_ ?_
  · rw [fs_write_self, fs_write_self]
  · rw [stage_goto_self, stage_goto_self]
  · by_cases hdir : imageDir = fileOf name
    · rw [hdir, fs_write_self, fs_write_self]
      trivial
    · rw [fs_write_other _ _ _ _ hdir, fs_write_other _ _ _ _ hdir]
      exact h.dir
  · intro hfile
    rw [← hfile, fs_write_self]
    nofun

/-! ## The requests for the name -/

theorem check_beside (h : Beside reqs name s t) (i : ℕ) : Agree reqs name (s.check i name) (t.check i name) := by
  unfold Requests.check
  split
  · exact h.ends i _
  · exact ⟨rfl, h.goto i _⟩

/-- After `create_dir` the directory is there, whoever has created it. -/
theorem createDir_made (s : Requests) (i : ℕ) (error : String) :
    ∃ s', s.createDir i true error = (s', []) ∧ (∀ q, q ≠ imageDir → s'.fs q = s.fs q) ∧
      s'.fs imageDir = some ((s.fs imageDir).getD .directory) ∧ s'.stage i = .ready ∧
      ∀ j, j ≠ i → s'.stage j = s.stage j := by
  unfold Requests.createDir
  rw [if_neg (by nofun : ¬ true = false)]
  cases hnode : s.fs imageDir with
  | none =>
    rw [if_pos rfl]
    exact ⟨_, rfl, fun q hq => fs_write_other _ _ _ _ hq, fs_write_self _ _ _ _, stage_goto_self _ _ _,
      fun j hj => stage_goto_other _ _ _ hj⟩
  | some node =>
    rw [if_neg nofun]
    exact ⟨_, rfl, fun _ _ => rfl, hnode, stage_goto_self _ _ _, fun j hj => stage_goto_other _ _ _ hj⟩

theorem DirAs.made {x y : Option Node} (h : DirAs x y) : DirAs (some (x.getD .directory)) (some (y.getD .directory)) := by
  cases y with
  | none =>
    cases x with
    | none => trivial
    | some node => cases node <;> exact h
  | some node =>
    cases x with
    | none => cases node <;> exact h.elim
    | some node' => exact h

theorem createDir_beside (h : Beside reqs name s t) (i : ℕ) (ok : Bool) (error : String) :
    Agree reqs name (s.createDir i ok error) (t.createDir i ok error) := by
  cases ok with
  | false => exact h.ends i _
  | true =>
    obtain ⟨s', hs, hsOther, hsDir, hsReady, hsStage⟩ := createDir_made s i error
    obtain ⟨t', ht, htOther, htDir, htReady, htStage⟩ := createDir_made t i error
    rw [hs, ht]
    refine ⟨rfl, h.act ?_ hsStage htStage (hsReady.trans htReady.symm) ?_ ?_⟩
    · have hfile := h.file
      by_cases himage : fileOf name = imageDir
      · rw [himage] at hfile ⊢
        rw [hsDir, htDir, hfile]
      · rw [hsOther _ himage, htOther _ himage]
        exact hfile
    · rw [hsDir, htDir]
      exact h.dir.made
    · intro _
      rw [htDir]
      nofun

theorem Beside.creatable (h : Beside reqs name s t) (hname : invalidName name = false) (hdir : t.fs imageDir ≠ none) :
    s.fs.creatable (fileOf name) = t.fs.creatable (fileOf name) := by
  unfold FileSystem.creatable
  rw [h.file]
  cases hnode : t.fs (fileOf name) with
  | some node => cases node <;> rfl
  | none =>
    have hparent : (fileOf name).dropLast = imageDir := by
      rw [fileOf_valid hname] at hnode ⊢
      split at hnode
      · exact absurd hnode hdir
      · rename_i hdot
        rw [if_neg hdot, List.dropLast_concat]
    dsimp only
    rw [hparent, Bool.eq_iff_iff, beq_iff_eq, beq_iff_eq]
    exact h.dir.directory_iff hdir

theorem create_beside (h : Beside reqs name s t) (hname : invalidName name = false) (hdir : t.fs imageDir ≠ none) (i : ℕ)
    (ok : Bool) (error : String) : Agree reqs name (s.create i name ok error) (t.create i name ok error) := by
  unfold Requests.create
  rw [h.creatable hname hdir]
  split
  · exact ⟨rfl, h.writes i _ _⟩
  · exact h.ends i _

theorem writeAll_beside (h : Beside reqs name s t) (i : ℕ) (body : Bytes) (offset n : ℕ) (error : String) :
    Agree reqs name (s.writeAll i name body offset n error) (t.writeAll i name body offset n error) := by
  unfold Requests.writeAll FileSystem.content
  rw [h.file]
  dsimp only
  split
  · split
    · exact h.ends i _
    · exact h.ends i _
  · split
    · exact ⟨rfl, h.writes i _ _⟩
    · exact ⟨rfl, h.writes i _ _⟩

theorem storeImage_beside (h : Beside reqs name s t) (hsane : Sane reqs t) (hname : invalidName name = false)
    (hi : (reqs i).name = name) (body : Bytes) (turn : Turn) :
    Agree reqs name (s.storeImage i name body turn) (t.storeImage i name body turn) := by
  have hdir := hsane.dir i
  unfold Requests.storeImage
  rw [h.stage i hi]
  cases hstage : t.stage i with
  | waiting =>
    cases turn with
    | check => exact check_beside h i
    | _ => exact h.idle
  | accepted =>
    cases turn with
    | createDir ok error => exact createDir_beside h i ok error
    | _ => exact h.idle
  | ready =>
    cases turn with
    | create ok error => exact create_beside h hname (hdir (by rw [hstage]; trivial)) i ok error
    | _ => exact h.idle
  | writing offset =>
    cases turn with
    | write n error => exact writeAll_beside h i body offset n error
    | writeFails error => exact h.ends i _
    | _ => exact h.idle
  | statted len | opened len | done => exact h.idle

theorem metadata_beside (h : Beside reqs name s t) (i : ℕ) (ok : Bool) (dirLen : ℕ) :
    Agree reqs name (s.metadata i name ok dirLen) (t.metadata i name ok dirLen) := by
  unfold Requests.metadata
  rw [h.file]
  split
  · split
    · exact ⟨rfl, h.goto i _⟩
    · exact h.ends i _
  · exact h.ends i _

theorem read_beside (h : Beside reqs name s t) (i len : ℕ) (n : Option ℕ) :
    Agree reqs name (s.read i name len n) (t.read i name len n) := by
  unfold Requests.read
  rw [h.file]
  split
  · exact h.ends i _
  · exact h.ends i _

theorem runGuest_beside (h : Beside reqs name s t) (hi : (reqs i).name = name) (turn : Turn) :
    Agree reqs name (s.runGuest i name turn) (t.runGuest i name turn) := by
  unfold Requests.runGuest
  rw [h.stage i hi]
  cases t.stage i with
  | waiting =>
    cases turn with
    | check => exact check_beside h i
    | _ => exact h.idle
  | accepted =>
    cases turn with
    | metadata ok dirLen => exact metadata_beside h i ok dirLen
    | _ => exact h.idle
  | statted len =>
    cases turn with
    | openFile ok =>
      cases ok with
      | true => exact ⟨rfl, h.goto i _⟩
      | false => exact h.ends i _
    | _ => exact h.idle
  | opened len =>
    cases turn with
    | read n => exact read_beside h i len n
    | _ => exact h.idle
  | ready | writing offset | done => exact h.idle

/-- A step of a request for the name. -/
theorem own_step (h : Beside reqs name s t) (hsane : Sane reqs t) (hname : invalidName name = false) {m : ℕ × Turn}
    (hm : (reqs m.1).name = name) :
    ∃ s' t', (s.step reqs m).1 = some s' ∧ (t.step reqs m).1 = some t' ∧ (t.step reqs m).2 = (s.step reqs m).2 ∧
      Beside reqs name s' t' := by
  unfold Requests.step
  cases hreq : reqs m.1 with
  | put name' body =>
    obtain rfl : name' = name := by
      rw [hreq] at hm
      exact hm
    obtain ⟨hevents, hnext⟩ := storeImage_beside h hsane hname (congrArg Request.name hreq) body m.2
    exact ⟨_, _, rfl, rfl, hevents, hnext⟩
  | run name' =>
    obtain rfl : name' = name := by
      rw [hreq] at hm
      exact hm
    obtain ⟨hevents, hnext⟩ := runGuest_beside h (congrArg Request.name hreq) m.2
    exact ⟨_, _, rfl, rfl, hevents, hnext⟩

/-! ## The other requests -/

/-- A step of a request for another name. -/
theorem other_step (h : Beside reqs name s t) (hname : invalidName name = false) (hacts : Acts s i (reqs i).name s')
    (hother : (reqs i).name ≠ name) : Beside reqs name s' t := by
  have hstage : ∀ j, (reqs j).name = name → s'.stage j = t.stage j := by
    intro j hj
    have hji : j ≠ i := by
      rintro rfl
      exact hother hj
    rw [hacts.stage_other hji]
    exact h.stage j hj
  cases hacts with
  | idle => exact h
  | moves _ _ _ => exact ⟨h.file, hstage, h.dir, h.itself⟩
  | makesDir _ hnone =>
    have ht : t.fs imageDir = none := by
      have hdir := h.dir
      rw [hnone] at hdir
      exact hdir.none_left
    refine ⟨?_, hstage, ?_, h.itself⟩
    · exact (fs_write_other _ _ _ _ fun heq => h.itself heq ht).trans h.file
    · rw [fs_write_self, ht]
      trivial
  | writes content stage hvalid hnot hdir =>
    have hne : fileOf name ≠ fileOf (reqs i).name := fun heq => hother (fileOf_injective hname hvalid heq).symm
    refine ⟨(fs_write_other _ _ _ _ hne).trans h.file, hstage, ?_, h.itself⟩
    by_cases himage : imageDir = fileOf (reqs i).name
    · -- the name `.` where `/image` is a file
      rw [← himage] at hnot
      rw [himage, fs_write_self, ← himage]
      exact h.dir.written hdir hnot content
    · rw [fs_write_other _ _ _ _ himage]
      exact h.dir

end Step

/-! ## All requests -/

def ofName (reqs : ℕ → Request) (name : String) (i : ℕ) : Bool := (reqs i).name == name

section Run
variable {reqs : ℕ → Request} {name : String} {s t : Requests} {m : ℕ × Turn}

/-- The requests for the name take their steps in both. -/
theorem own_alone (hname : invalidName name = false) (hs : Sane reqs s) (ht : Sane reqs t) (h : Beside reqs name s t)
    (hm : ofName reqs name m.1 = true) :
    ∃ s' t', (s.step reqs m).1 = some s' ∧ (t.step reqs m).1 = some t' ∧
      (t.step reqs m).2 = (s.step reqs m).2.filter (fun e => ofName reqs name e.request) ∧
      Sane reqs s' ∧ Sane reqs t' ∧ Beside reqs name s' t' := by
  obtain ⟨s', t', hs', ht', hevents, hnext⟩ := own_step h ht hname (beq_iff_eq.mp hm)
  obtain ⟨_, hs₁, hacts⟩ := step_acts hs m
  obtain ⟨_, ht₁, hacts'⟩ := step_acts ht m
  obtain rfl := Option.some.inj (hs'.symm.trans hs₁)
  obtain rfl := Option.some.inj (ht'.symm.trans ht₁)
  refine ⟨_, _, hs', ht', ?_, hacts.sane hs, hacts'.sane ht, hnext⟩
  rw [hevents, List.filter_eq_self.mpr]
  intro e he
  rw [step_request reqs s m e he]
  exact hm

/-- The other requests are not seen. -/
theorem other_alone (hname : invalidName name = false) (hs : Sane reqs s) (ht : Sane reqs t) (h : Beside reqs name s t)
    (hm : ofName reqs name m.1 = false) :
    ∃ s', (s.step reqs m).1 = some s' ∧ (s.step reqs m).2.filter (fun e => ofName reqs name e.request) = [] ∧
      Sane reqs s' ∧ Sane reqs t ∧ Beside reqs name s' t := by
  obtain ⟨s', hs', hacts⟩ := step_acts hs m
  refine ⟨s', hs', ?_, hacts.sane hs, ht, other_step h hname hacts (beq_eq_false_iff_ne.mp hm)⟩
  rw [List.filter_eq_nil_iff]
  intro e he
  rw [step_request reqs s m e he, hm]
  nofun

end Run

/-- Any number of requests with any names, in any order. For the requests of one name everything is as if they were the
only ones: their answers with their texts, what their runs parse, how far they have come, and the file. And on their
file, they do what the uploads and runs of one name do. The name `.` is `/image` itself, which others may create. -/
theorem names_independent (reqs : ℕ → Request) (fs : FileSystem) {name : String} (hname : invalidName name = false)
    (moves : List (ℕ × Turn)) :
    ∃ s, (Machine.run (Requests.step reqs) (Requests.new fs) moves).1 = some s ∧
      ((name = "." → fs imageDir ≠ none) →
        ∃ t, Machine.run (Requests.step reqs) (Requests.new fs) (moves.filter fun m => ofName reqs name m.1) =
            (some t, (Machine.run (Requests.step reqs) (Requests.new fs) moves).2.filter fun e =>
              ofName reqs name e.request) ∧
          s.fs (fileOf name) = t.fs (fileOf name) ∧ ∀ i, (reqs i).name = name → s.stage i = t.stage i) ∧
      ∃ actions u, Machine.run (Uploads.turn (bodies reqs)) { Uploads.new with file := fs.content (fileOf name) } actions =
          (some u, (Machine.run (Requests.step reqs) (Requests.new fs) moves).2.filterMap (eventOf reqs name)) ∧
        (∀ a ∈ actions, (reqs a.request).name = name) ∧ u.file = s.fs.content (fileOf name) := by
  have hstart : Shows reqs name (Requests.new fs) { Uploads.new with file := fs.content (fileOf name) } :=
    ⟨rfl, fun _ _ _ => rfl, fun _ _ => rfl⟩
  obtain ⟨s, actions, u, hs, hrun, hactions, -, hshows⟩ := run_refines (eventOf reqs name)
    (fun a : Action => (reqs a.request).name = name) (fun s u => Sane reqs s ∧ Shows reqs name s u)
    (by
      rintro s u m ⟨hsane, hshows⟩
      obtain ⟨s', hs, hsane', actions, u', hrun, hactions, hshows'⟩ := step_matched hname hsane hshows m
      exact ⟨s', actions, u', hs, hrun, hactions, hsane', hshows'⟩)
    ⟨sane_new fs, hstart⟩ moves
  refine ⟨s, hs, ?_, actions, u, hrun, hactions, hshows.file⟩
  intro hdot
  have hbeside : Beside reqs name (Requests.new fs) (Requests.new fs) :=
    ⟨rfl, fun _ _ => rfl, DirAs.refl _, fun heq => hdot (fileOf_eq_imageDir hname heq)⟩
  obtain ⟨s₁, t, hs₁, ht, -, -, hend⟩ := run_alone (fun m => ofName reqs name m.1)
    (fun e : ServiceEvent => ofName reqs name e.request)
    (fun s t => Sane reqs s ∧ Sane reqs t ∧ Beside reqs name s t)
    (fun _ _ _ h => own_alone hname h.1 h.2.1 h.2.2) (fun _ _ _ h => other_alone hname h.1 h.2.1 h.2.2)
    ⟨sane_new fs, sane_new fs, hbeside⟩ moves
  obtain rfl := Option.some.inj (hs.symm.trans hs₁)
  exact ⟨t, ht, hend.file, hend.stage⟩

/-- Two uploads and a run of the first, with a name that is refused. -/
def mixedRequests : ℕ → Request
  | 0 => .put "a" [1#8, 2#8]
  | 1 => .put "b" [9#8]
  | 2 => .run "a"
  | _ => .put "../b" [7#8]

/-- The second upload runs between the two writes of the first. -/
def mixedMoves : List (ℕ × Turn) :=
  [(0, .check), (3, .check), (1, .check), (1, .createDir true ""), (0, .createDir true ""), (0, .create true ""),
    (0, .write 1 ""), (1, .create true ""), (1, .write 5 ""), (0, .write 1 ""), (2, .check), (2, .metadata true 0),
    (2, .openFile true), (2, .read (some 2))]

def rootOnly : FileSystem := fun p => if p = [] then some .directory else none

/-- The other upload creates the directory, and among the requests for the first name its own upload does. -/
theorem names_independent_mixed :
    (Machine.run (Requests.step mixedRequests) (Requests.new rootOnly) mixedMoves).2 =
      [.refused 3 400 "invalid file name\n", .stored 1 "stored 1 bytes at /image/b\n",
        .stored 0 "stored 2 bytes at /image/a\n", .parses 2 [1#8, 2#8]] ∧
    ∃ s t, (Machine.run (Requests.step mixedRequests) (Requests.new rootOnly) mixedMoves).1 = some s ∧
      Machine.run (Requests.step mixedRequests) (Requests.new rootOnly)
          (mixedMoves.filter fun m => ofName mixedRequests "a" m.1) =
        (some t, [.stored 0 "stored 2 bytes at /image/a\n", .parses 2 [1#8, 2#8]]) ∧
      s.fs (fileOf "a") = t.fs (fileOf "a") := by
  have hlog : (Machine.run (Requests.step mixedRequests) (Requests.new rootOnly) mixedMoves).2 =
      [.refused 3 400 "invalid file name\n", .stored 1 "stored 1 bytes at /image/b\n",
        .stored 0 "stored 2 bytes at /image/a\n", .parses 2 [1#8, 2#8]] := by decide +kernel
  obtain ⟨s, hs, halone, -⟩ := names_independent mixedRequests rootOnly (by decide : invalidName "a" = false) mixedMoves
  obtain ⟨t, ht, hfile, -⟩ := halone (by decide)
  rw [hlog] at ht
  exact ⟨hlog, s, t, hs, ht.trans rfl, hfile⟩

end Rhyve.Service
