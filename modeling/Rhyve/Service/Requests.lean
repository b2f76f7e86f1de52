import Rhyve.Service.Files

/-! # What the requests of the service touch

* `Acts`: what one step of a handler can do to the files. `Sane`: what all of them keep.
* `requests_confined`: whatever names are asked for, nothing but `/image` and what is directly in it is touched.
-/

namespace Rhyve.Service
open Machine
set_option autoImplicit false

/-! ## What a step can do -/

/-- The steps of the handler of one request. It goes on only with a name that has passed the check. -/
inductive Acts (s : Requests) (i : ℕ) (name : String) : Requests → Prop
  | idle : Acts s i name s
  | moves {stage : Stage} (hvalid : stage = .done ∨ invalidName name = false) (hnot : ∀ offset, stage ≠ .writing offset)
      (hdir : stage = .ready → s.fs imageDir ≠ none) : Acts s i name (s.goto i stage)
  | makesDir (hvalid : invalidName name = false) (hnone : s.fs imageDir = none) :
      Acts s i name ((s.write imageDir .directory).goto i .ready)
  | writes (content : Bytes) (stage : Stage) (hvalid : invalidName name = false)
      (hnot : s.fs (fileOf name) ≠ some .directory) (hdir : s.fs imageDir ≠ none) :
      Acts s i name ((s.write (fileOf name) (.file content)).goto i stage)

/-- `create_dir` has returned without an error. -/
def Stage.hasDir : Stage → Prop
  | .ready | .writing _ => True
  | _ => False

/-- Only requests whose name has passed the check get anywhere, what is being written is a file, and `/image` is there
once a handler has seen to it. -/
structure Sane (reqs : ℕ → Request) (s : Requests) : Prop where
  valid : ∀ i, s.stage i ≠ .waiting → s.stage i ≠ .done → invalidName (reqs i).name = false
  writing : ∀ i offset, s.stage i = .writing offset → ∃ content, s.fs (fileOf (reqs i).name) = some (.file content)
  dir : ∀ i, (s.stage i).hasDir → s.fs imageDir ≠ none

section Acts
open Requests
variable {reqs : ℕ → Request} {s s' : Requests} {i : ℕ} {name : String}

theorem check_acts : Acts s i name (s.check i name).1 := by
  unfold Requests.check
  split
  · exact .moves (.inl rfl) nofun nofun
  · rename_i hvalid
    exact .moves (.inr (Bool.not_eq_true _ ▸ hvalid)) nofun nofun

theorem creatable_not_directory {fs : FileSystem} {p : Path} (h : fs.creatable p = true) : fs p ≠ some .directory := by
  intro hdir
  unfold FileSystem.creatable at h
  rw [hdir] at h
  cases h

/-- A handler that has neither started nor ended has a valid name. -/
theorem Sane.accepted (h : Sane reqs s) (hname : (reqs i).name = name) {stage : Stage} (hstage : s.stage i = stage)
    (hwaiting : stage ≠ .waiting) (hdone : stage ≠ .done) : invalidName name = false := by
  rw [← hname]
  exact h.valid i (hstage ▸ hwaiting) (hstage ▸ hdone)

theorem createDir_acts (hvalid : invalidName name = false) (ok : Bool) (error : String) :
    Acts s i name (s.createDir i ok error).1 := by
  unfold Requests.createDir
  split
  · exact .moves (.inl rfl) nofun nofun
  · split
    · rename_i hnone
      exact .makesDir hvalid hnone
    · rename_i hsome
      exact .moves (.inr hvalid) nofun fun _ => hsome

theorem create_acts (hvalid : invalidName name = false) (hdir : s.fs imageDir ≠ none) (ok : Bool) (error : String) :
    Acts s i name (s.create i name ok error).1 := by
  unfold Requests.create
  split
  · rename_i hcan
    exact .writes _ _ hvalid (creatable_not_directory (Bool.and_eq_true_iff.mp hcan).2) hdir
  · exact .moves (.inl rfl) nofun nofun

theorem writeAll_acts (hvalid : invalidName name = false) (hnot : s.fs (fileOf name) ≠ some .directory)
    (hdir : s.fs imageDir ≠ none) (body : Bytes) (offset n : ℕ) (error : String) :
    Acts s i name (s.writeAll i name body offset n error).1 := by
  unfold Requests.writeAll
  dsimp only
  split
  · split
    · exact .moves (.inl rfl) nofun nofun
    · exact .moves (.inl rfl) nofun nofun
  · split
    · exact .writes _ _ hvalid hnot hdir
    · exact .writes _ _ hvalid hnot hdir

theorem storeImage_acts (h : Sane reqs s) (hname : (reqs i).name = name) (body : Bytes) (turn : Turn) :
    Acts s i name (s.storeImage i name body turn).1 := by
  unfold Requests.storeImage
  split
  · exact check_acts
  · rename_i hstage
    exact createDir_acts (h.accepted hname hstage nofun nofun) _ _
  · rename_i hstage
    exact create_acts (h.accepted hname hstage nofun nofun) (h.dir i (by rw [hstage]; trivial)) _ _
  · rename_i offset n error hstage
    obtain ⟨content, hfile⟩ := h.writing i offset hstage
    rw [hname] at hfile
    have hnot : s.fs (fileOf name) ≠ some .directory := by
      rw [hfile]
      nofun
    exact writeAll_acts (h.accepted hname hstage nofun nofun) hnot (h.dir i (by rw [hstage]; trivial)) _ _ _ _
  · exact .moves (.inl rfl) nofun nofun
  · exact .idle

theorem metadata_acts (hvalid : invalidName name = false) (ok : Bool) (dirLen : ℕ) :
    Acts s i name (s.metadata i name ok dirLen).1 := by
  unfold Requests.metadata
  split
  · split
    · exact .moves (.inr hvalid) nofun nofun
    · exact .moves (.inl rfl) nofun nofun
  · exact .moves (.inl rfl) nofun nofun

theorem runGuest_acts (h : Sane reqs s) (hname : (reqs i).name = name) (turn : Turn) :
    Acts s i name (s.runGuest i name turn).1 := by
  unfold Requests.runGuest
  split
  · exact check_acts
  · rename_i hstage
    exact metadata_acts (h.accepted hname hstage nofun nofun) _ _
  · rename_i hstage
    split
    · exact .moves (.inr (h.accepted hname hstage nofun nofun)) nofun nofun
    · exact .moves (.inl rfl) nofun nofun
  · unfold Requests.read
    split
    · exact .moves (.inl rfl) nofun nofun
    · exact .moves (.inl rfl) nofun nofun
  · exact .idle

theorem step_acts (h : Sane reqs s) (m : ℕ × Turn) :
    ∃ s', (s.step reqs m).1 = some s' ∧ Acts s m.1 (reqs m.1).name s' := by
  unfold Requests.step
  split
  · rename_i name body hreq
    rw [hreq]
    exact ⟨_, rfl, storeImage_acts h (congrArg Request.name hreq) body m.2⟩
  · rename_i name hreq
    rw [hreq]
    exact ⟨_, rfl, runGuest_acts h (congrArg Request.name hreq) m.2⟩

theorem Acts.stage_other (h : Acts s i name s') {j : ℕ} (hj : j ≠ i) : s'.stage j = s.stage j := by
  cases h with
  | idle => rfl
  | moves _ _ _ => exact stage_goto_other _ _ _ hj
  | makesDir _ _ => exact stage_goto_other _ _ _ hj
  | writes content stage _ _ _ => exact stage_goto_other _ _ _ hj

/-- A file stays a file. -/
theorem Acts.keeps_file (h : Acts s i name s') {q : Path} {content : Bytes} (hq : s.fs q = some (.file content)) :
    ∃ content', s'.fs q = some (.file content') := by
  cases h with
  | idle => exact ⟨content, hq⟩
  | moves _ _ _ => exact ⟨content, hq⟩
  | makesDir _ hnone =>
    have hne : q ≠ imageDir := by
      rintro rfl
      rw [hnone] at hq
      cases hq
    exact ⟨content, (fs_write_other _ _ _ _ hne).trans hq⟩
  | writes written stage _ _ _ =>
    by_cases hp : q = fileOf name
    · subst hp
      exact ⟨written, fs_write_self _ _ _ _⟩
    · exact ⟨content, (fs_write_other _ _ _ _ hp).trans hq⟩

/-- Nothing is deleted. -/
theorem Acts.keeps_node (h : Acts s i name s') {q : Path} (hq : s.fs q ≠ none) : s'.fs q ≠ none := by
  cases h with
  | idle => exact hq
  | moves _ _ _ => exact hq
  | makesDir _ _ =>
    by_cases hp : q = imageDir
    · rw [hp, fs_write_self]
      nofun
    · rw [fs_write_other _ _ _ _ hp]
      exact hq
  | writes content stage _ _ _ =>
    by_cases hp : q = fileOf name
    · rw [hp, fs_write_self]
      nofun
    · rw [fs_write_other _ _ _ _ hp]
      exact hq

theorem Acts.valid (h : Sane reqs s) (hacts : Acts s i (reqs i).name s') (j : ℕ) (hwaiting : s'.stage j ≠ .waiting)
    (hdone : s'.stage j ≠ .done) : invalidName (reqs j).name = false := by
  by_cases hj : j = i
  · subst hj
    cases hacts with
    | idle => exact h.valid j hwaiting hdone
    | @moves stage hvalid hnot hdir =>
      rcases hvalid with rfl | hvalid
      · exact absurd (stage_goto_self _ _ _) hdone
      · exact hvalid
    | makesDir hvalid _ => exact hvalid
    | writes content stage hvalid _ _ => exact hvalid
  · rw [hacts.stage_other hj] at hwaiting hdone
    exact h.valid j hwaiting hdone

theorem Acts.writing (h : Sane reqs s) (hacts : Acts s i (reqs i).name s') (j offset : ℕ)
    (hstage : s'.stage j = .writing offset) : ∃ content, s'.fs (fileOf (reqs j).name) = some (.file content) := by
  by_cases hj : j = i
  · subst hj
    cases hacts with
    | idle => exact h.writing j offset hstage
    | @moves stage hvalid hnot hdir => exact absurd ((stage_goto_self _ _ _).symm.trans hstage) (hnot offset)
    | makesDir hvalid _ => cases (stage_goto_self _ _ _).symm.trans hstage
    | writes content stage hvalid _ _ => exact ⟨content, fs_write_self _ _ _ _⟩
  · rw [hacts.stage_other hj] at hstage
    obtain ⟨content, hfile⟩ := h.writing j offset hstage
    exact hacts.keeps_file hfile

theorem Acts.dir (h : Sane reqs s) (hacts : Acts s i (reqs i).name s') (j : ℕ) (hstage : (s'.stage j).hasDir) :
    s'.fs imageDir ≠ none := by
  by_cases hj : j = i
  · subst hj
    cases hacts with
    | idle => exact h.dir j hstage
    | @moves stage hvalid hnot hdir =>
      rw [stage_goto_self] at hstage
      cases stage with
      | ready => exact hdir rfl
      | writing offset => exact absurd rfl (hnot offset)
      | waiting | accepted | statted len | opened len | done => exact hstage.elim
    | makesDir hvalid _ =>
      rw [fs_write_self]
      nofun
    | writes content stage hvalid hnot hdir => exact (Acts.writes content stage hvalid hnot hdir).keeps_node hdir
  · rw [hacts.stage_other hj] at hstage
    exact hacts.keeps_node (h.dir j hstage)

theorem Acts.sane (h : Sane reqs s) (hacts : Acts s i (reqs i).name s') : Sane reqs s' :=
  ⟨hacts.valid h, hacts.writing h, hacts.dir h⟩

theorem sane_new (fs : FileSystem) : Sane reqs (Requests.new fs) :=
  ⟨fun _ h => absurd rfl h, nofun, nofun⟩

end Acts

/-- Any number of requests with any names, in any order: every path but `/image` and those directly in it leads to
what was there before. -/
theorem requests_confined (reqs : ℕ → Request) (fs : FileSystem) (moves : List (ℕ × Turn)) :
    ∃ s', (Machine.run (Requests.step reqs) (Requests.new fs) moves).1 = some s' ∧
      ∀ q, q ≠ imageDir → (∀ name, q ≠ imageDir ++ [name]) → s'.fs q = fs q := by
  have hstep : ∀ s m, (Sane reqs s ∧ ∀ q, q ≠ imageDir → (∀ name, q ≠ imageDir ++ [name]) → s.fs q = fs q) → True →
      ∃ s', (Requests.step reqs s m).1 = some s' ∧
        (Sane reqs s' ∧ ∀ q, q ≠ imageDir → (∀ name, q ≠ imageDir ++ [name]) → s'.fs q = fs q) := by
    rintro s m ⟨hsane, hfs⟩ -
    obtain ⟨s', hs, hacts⟩ := step_acts hsane m
    refine ⟨s', hs, hacts.sane hsane, ?_⟩
    intro q hdir hname
    rw [← hfs q hdir hname]
    cases hacts with
    | idle => rfl
    | moves _ _ _ => rfl
    | makesDir _ _ => exact Requests.fs_write_other _ _ _ _ hdir
    | writes content stage hvalid _ _ =>
      refine Requests.fs_write_other _ _ _ _ ?_
      rw [fileOf_valid hvalid]
      split
      · exact hdir
      · exact hname _
  have hstart : Sane reqs (Requests.new fs) ∧
      ∀ q, q ≠ imageDir → (∀ name, q ≠ imageDir ++ [name]) → (Requests.new fs).fs q = fs q :=
    ⟨sane_new fs, fun _ _ _ => rfl⟩
  obtain ⟨s', hs, -, hfs⟩ := run_reaches _ (fun _ => True) hstep hstart fun i (_ : i ∈ moves) => trivial
  exact ⟨s', hs, hfs⟩

/-- Names that would lead out of `/image`, and one that leads to `/image` itself. -/
def dottedRequests : ℕ → Request
  | 0 => .put "../etc" [1#8]
  | 1 => .put ".." [1#8]
  | _ => .put "." [1#8]

/-- The root, and a file that is none of the service's. -/
def otherFile : FileSystem := fun p =>
  if p = ["etc".toList] then some (.file [5#8]) else if p = [] then some .directory else none

theorem requests_confined_dots :
    ∃ s', (Machine.run (Requests.step dottedRequests) (Requests.new otherFile)
        [(0, .check), (1, .check), (2, .check), (2, .createDir true ""), (2, .create true "")]).1 = some s' ∧
      s'.fs ["etc".toList] = some (.file [5#8]) := by
  obtain ⟨s', hs, hfs⟩ := requests_confined dottedRequests otherFile
    [(0, .check), (1, .check), (2, .check), (2, .createDir true ""), (2, .create true "")]
  exact ⟨s', hs, hfs _ (by decide) fun name h => by cases h⟩

/-! ## One file -/

section Acts
open Requests
variable {s s' : Requests} {i : ℕ} {name : String} {q : Path}

theorem content_makesDir (hnone : s.fs imageDir = none) (stage : Stage) :
    ((s.write imageDir .directory).goto i stage).fs.content q = s.fs.content q := by
  unfold FileSystem.content
  by_cases hdir : q = imageDir
  · subst hdir
    rw [fs_write_self, hnone]
  · rw [fs_write_other _ _ _ _ hdir]

theorem content_writes (content : Bytes) (stage : Stage) :
    ((s.write q (.file content)).goto i stage).fs.content q = some content := by
  unfold FileSystem.content
  rw [fs_write_self]

/-- Nothing but its own handlers changes a file. -/
theorem Acts.content (h : Acts s i name s') (hq : invalidName name = false → q ≠ fileOf name) :
    s'.fs.content q = s.fs.content q := by
  cases h with
  | idle => rfl
  | moves _ _ _ => rfl
  | makesDir _ hnone => exact content_makesDir hnone _
  | writes content stage hvalid _ _ =>
    unfold FileSystem.content
    rw [fs_write_other _ _ _ _ (hq hvalid)]

theorem Acts.keeps_directory (h : Acts s i name s') (hq : s.fs q = some .directory) : s'.fs q = some .directory := by
  cases h with
  | idle => exact hq
  | moves _ _ _ => exact hq
  | makesDir _ hnone =>
    refine (fs_write_other _ _ _ _ ?_).trans hq
    rintro rfl
    rw [hnone] at hq
    cases hq
  | writes content stage _ hnot _ =>
    refine (fs_write_other _ _ _ _ ?_).trans hq
    rintro rfl
    exact hnot hq

end Acts

def ServiceEvent.request : ServiceEvent → ℕ
  | .stored i _ => i
  | .refused i _ _ => i
  | .parses i _ => i
  | .failed i => i

/-- A step tells of its own request only. -/
theorem step_request (reqs : ℕ → Request) (s : Requests) (m : ℕ × Turn) : ∀ e ∈ (s.step reqs m).2, e.request = m.1 := by
  unfold Requests.step Requests.storeImage Requests.runGuest Requests.check Requests.createDir Requests.create
    Requests.writeAll Requests.metadata Requests.read
  intro e he
  dsimp only at he
  repeat' split at he
  all_goals first
    | cases he; done
    | (rw [List.mem_singleton.mp he]; rfl)

end Rhyve.Service
