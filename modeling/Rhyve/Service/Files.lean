import Rhyve.Service.Upload

/-! # Requests and the files they name (`main.rs`)

`PUT /image/{name}` and `POST /run/{name}` for any number of names at once. A handler checks the name, and works on the
file that the operating system finds at `/image/{name}`; between two of its steps the other handlers take theirs.

* `resolvePath`: the file that a path leads to. There are no links: the service does not create any.
* `fileOf_valid`, `fileOf_injective`: the file of a name that passes the check, and two such names have two files.
* `Requests.step`: one step of one handler, on the file system.
-/

namespace Rhyve.Service
open Machine
set_option autoImplicit false

/-! ## Paths -/

/-- The names of the directories from the root on. -/
abbrev Path := List (List Char)

/-- The parts of a path between its slashes. -/
def segments : List Char → List (List Char)
  | [] => [[]]
  | c :: cs =>
    if c = '/' then [] :: segments cs
    else
      match segments cs with
      | [] => [[c]]
      | segment :: rest => (c :: segment) :: rest

/-- One component of a path, from a directory on. -/
def descend (dir : Path) (segment : List Char) : Path :=
  if segment = [] ∨ segment = ['.'] then dir
  else if segment = ['.', '.'] then dir.dropLast
  else dir ++ [segment]

def resolvePath (path : List Char) : Path := (segments path).foldl descend []

def imagePath (name : String) : String := "/image/" ++ name

def imageDir : Path := ["image".toList]

/-- The file of a request. -/
def fileOf (name : String) : Path := resolvePath (imagePath name).toList

theorem segments_of_noSlash {cs : List Char} (h : '/' ∉ cs) : segments cs = [cs] := by
  induction cs with
  | nil => rfl
  | cons c cs ih =>
    rw [List.mem_cons, not_or] at h
    rw [segments, if_neg (Ne.symm h.1), ih h.2]

theorem not_dotDot {name : String} (h : invalidName name = false) : name.toList ≠ ['.', '.'] := by
  intro hdots
  unfold invalidName at h
  rw [hdots, Bool.or_eq_false_iff] at h
  exact absurd h.2 (by decide)

theorem not_empty {name : String} (h : invalidName name = false) : name.toList ≠ [] := by
  intro hnil
  have hempty : name = "" := String.toList_eq_nil_iff.mp hnil
  rw [hempty] at h
  exact absurd h (by decide)

theorem noSlash {name : String} (h : invalidName name = false) : '/' ∉ name.toList := by
  unfold invalidName at h
  rw [Bool.or_eq_false_iff, Bool.or_eq_false_iff] at h
  intro hmem
  rw [List.contains_iff_mem.mpr hmem] at h
  cases h.1.2

/-- A name that passes the check leads to a file in `/image`, or to `/image` itself. -/
theorem fileOf_valid {name : String} (h : invalidName name = false) :
    fileOf name = if name.toList = ['.'] then imageDir else imageDir ++ [name.toList] := by
  have hsegments : segments (imagePath name).toList = [[], "image".toList, name.toList] := by
    have hpath : (imagePath name).toList = "/image/".toList ++ name.toList := String.toList_append
    have hsplit : segments ("/image/".toList ++ name.toList) = [] :: "image".toList :: segments name.toList := rfl
    rw [hpath, hsplit, segments_of_noSlash (noSlash h)]
  have hdescend : fileOf name = descend imageDir name.toList := by
    unfold fileOf resolvePath
    rw [hsegments]
    rfl
  rw [hdescend, descend]
  by_cases hdot : name.toList = ['.']
  · rw [if_pos (.inr hdot), if_pos hdot]
  · rw [if_neg (not_or.mpr ⟨not_empty h, hdot⟩), if_neg (not_dotDot h), if_neg hdot]

theorem fileOf_injective {a b : String} (ha : invalidName a = false) (hb : invalidName b = false)
    (h : fileOf a = fileOf b) : a = b := by
  rw [fileOf_valid ha, fileOf_valid hb] at h
  apply String.toList_inj.mp
  split at h
  · rename_i hda
    split at h
    · rename_i hdb
      rw [hda, hdb]
    · cases h
  · split at h
    · cases h
    · exact List.singleton_inj.mp (List.append_cancel_left h)

/-! ## Handlers -/

/-- A file or a directory. Links are not modelled. -/
inductive Node where
  | directory
  | file (content : Bytes)
  deriving DecidableEq, Repr

abbrev FileSystem := Path → Option Node

/-- What is in the file, if there is one. -/
def FileSystem.content (fs : FileSystem) (p : Path) : Option Bytes :=
  match fs p with
  | some (.file content) => some content
  | _ => none

/-- `File::create` truncates a file, or creates one in a directory that exists. -/
def FileSystem.creatable (fs : FileSystem) (p : Path) : Bool :=
  match fs p with
  | some (.file _) => true
  | some .directory => false
  | none => fs p.dropLast == some .directory

/-- A request, with what `upload_image` and `run_guest` get of it. -/
inductive Request where
  | put (name : String) (body : Bytes)
  | run (name : String)
  deriving DecidableEq, Repr

def Request.name : Request → String
  | .put name _ => name
  | .run name => name

/-- How far the handler of a request is. -/
inductive Stage where
  | waiting
  /-- The name has passed the check. -/
  | accepted
  /-- `create_dir` has returned. -/
  | ready
  | writing (offset : ℕ)
  | statted (len : ℕ)
  | opened (len : ℕ)
  | done
  deriving DecidableEq, Repr

/-- The files, and all requests on them. -/
structure Requests where
  fs : FileSystem
  stage : ℕ → Stage

/-- The next step of a handler, and what the operating system answers: whether it fails, with this text. -/
inductive Turn where
  | check
  | createDir (ok : Bool) (error : String)
  | create (ok : Bool) (error : String)
  /-- A write of at most `n` bytes. -/
  | write (n : ℕ) (error : String)
  | writeFails (error : String)
  /-- A directory has some length, too. -/
  | metadata (ok : Bool) (dirLen : ℕ)
  | openFile (ok : Bool)
  | read (n : Option ℕ)
  deriving DecidableEq, Repr

/-- What a client sees, or the parser: the answer to an upload, a refusal, the buffer of a run. -/
inductive ServiceEvent where
  | stored (i : ℕ) (text : String)
  | refused (i : ℕ) (status : ℕ) (text : String)
  | parses (i : ℕ) (buffer : Bytes)
  /-- The run ends with an I/O error. -/
  | failed (i : ℕ)
  deriving DecidableEq, Repr

namespace Requests

def goto (s : Requests) (i : ℕ) (stage : Stage) : Requests := { s with stage := Function.update s.stage i stage }

def write (s : Requests) (p : Path) (node : Node) : Requests := { s with fs := Function.update s.fs p (some node) }

/-- Both handlers begin with it. -/
def check (s : Requests) (i : ℕ) (name : String) : Requests × List ServiceEvent :=
  if invalidName name then (s.goto i .done, [.refused i 400 "invalid file name\n"]) else (s.goto i .accepted, [])

/-- An error other than that the directory exists ends the request. -/
def createDir (s : Requests) (i : ℕ) (ok : Bool) (error : String) : Requests × List ServiceEvent :=
  if ok = false then (s.goto i .done, [.refused i 500 error])
  else if s.fs imageDir = none then ((s.write imageDir .directory).goto i .ready, [])
  else (s.goto i .ready, [])

/-- `File::create`, which empties an existing file. Its failure is reported to the client. -/
def create (s : Requests) (i : ℕ) (name : String) (ok : Bool) (error : String) : Requests × List ServiceEvent :=
  if ok && s.fs.creatable (fileOf name) then ((s.write (fileOf name) (.file [])).goto i (.writing 0), [])
  else (s.goto i .done, [.refused i 500 error])

def storedText (name : String) (body : Bytes) : String :=
  "stored " ++ toString body.length ++ " bytes at " ++ imagePath name ++ "\n"

/-- One round of `write_all`. -/
def writeAll (s : Requests) (i : ℕ) (name : String) (body : Bytes) (offset n : ℕ) (error : String) :
    Requests × List ServiceEvent :=
  let chunk := (body.drop offset).take n
  if chunk = [] then
    if offset = body.length then (s.goto i .done, [.stored i (storedText name body)])
    else (s.goto i .done, [.refused i 500 error])
  else
    let s := s.write (fileOf name) (.file (writeAt ((s.fs.content (fileOf name)).getD []) offset chunk))
    if offset + chunk.length = body.length then (s.goto i .done, [.stored i (storedText name body)])
    else (s.goto i (.writing (offset + chunk.length)), [])

/-- `store_image`. -/
def storeImage (s : Requests) (i : ℕ) (name : String) (body : Bytes) (turn : Turn) : Requests × List ServiceEvent :=
  match s.stage i, turn with
  | .waiting, .check => s.check i name
  | .accepted, .createDir ok error => s.createDir i ok error
  | .ready, .create ok error => s.create i name ok error
  | .writing offset, .write n error => s.writeAll i name body offset n error
  | .writing _, .writeFails error => (s.goto i .done, [.refused i 500 error])
  | _, _ => (s, [])

/-- `metadata`, whose length is the buffer's. The host chooses the one of a directory. -/
def metadata (s : Requests) (i : ℕ) (name : String) (ok : Bool) (dirLen : ℕ) : Requests × List ServiceEvent :=
  match s.fs (fileOf name) with
  | some node =>
    if ok then (s.goto i (.statted (match node with | .file content => content.length | .directory => dirLen)), [])
    else (s.goto i .done, [.failed i])
  | none => (s.goto i .done, [.failed i])

/-- A directory cannot be read. -/
def read (s : Requests) (i : ℕ) (name : String) (len : ℕ) (n : Option ℕ) : Requests × List ServiceEvent :=
  match s.fs (fileOf name), n with
  | some (.file content), some n => (s.goto i .done, [.parses i (imageBuffer len ((content.take len).take n))])
  | _, _ => (s.goto i .done, [.failed i])

/-- `run_guest`, and `load_guest_image` up to the parser. -/
def runGuest (s : Requests) (i : ℕ) (name : String) (turn : Turn) : Requests × List ServiceEvent :=
  match s.stage i, turn with
  | .waiting, .check => s.check i name
  | .accepted, .metadata ok dirLen => s.metadata i name ok dirLen
  | .statted len, .openFile ok =>
    if ok then (s.goto i (.opened len), []) else (s.goto i .done, [.failed i])
  | .opened len, .read n => s.read i name len n
  | _, _ => (s, [])

/-- A step of the handler of a request. -/
def step (reqs : ℕ → Request) (s : Requests) (m : ℕ × Turn) : Option Requests × List ServiceEvent :=
  match reqs m.1 with
  | .put name body => (some (s.storeImage m.1 name body m.2).1, (s.storeImage m.1 name body m.2).2)
  | .run name => (some (s.runGuest m.1 name m.2).1, (s.runGuest m.1 name m.2).2)

def new (fs : FileSystem) : Requests := ⟨fs, fun _ => .waiting⟩

section
variable (s : Requests) (i : ℕ) (stage : Stage) (node : Node) {p q : Path}

theorem fs_write_self : ((s.write p node).goto i stage).fs p = some node := Function.update_self _ _ _

theorem fs_write_other (h : q ≠ p) : ((s.write p node).goto i stage).fs q = s.fs q := Function.update_of_ne h _ _

theorem stage_goto_self : (s.goto i stage).stage i = stage := Function.update_self _ _ _

theorem stage_goto_other {j : ℕ} (h : j ≠ i) : (s.goto i stage).stage j = s.stage j := Function.update_of_ne h _ _

end

end Requests

end Rhyve.Service
