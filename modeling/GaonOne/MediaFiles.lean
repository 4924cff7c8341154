import GaonOne.Library.Files
import GaonOne.Library.Transitions
import GaonOne.Models

/-! The local object storage: objects are files under two roots, written beside their place and
moved into it. However the calls of several workers interleave, and wherever they crash, a read
gives what the in-memory storage gives that was told of the moves and the deletions only. -/
namespace GaonOne.LocalObjectStorage
open Files Transitions

abbrev Bytes := List UInt8

/-- `quarantine_root` and `public_root`. -/
inductive Area where
  | quarantine | derivatives
  deriving DecidableEq, Repr

def Area.root : Area → Path
  | .quarantine => ["data", "media", "quarantine"]
  | .derivatives => ["data", "media", "public"]

/-- `key.split("/")`. -/
def splitKey (key : String) : List String := (key.toList.splitOn '/').map String.ofList

/-- `_safe_path`. Where no directory under the root is a link, nothing resolves elsewhere. -/
def safePath (root : Path) (key : String) : Except String Path :=
  if key = "" ∨ key.toList.head? = some '/' ∨ '\\' ∈ key.toList ∨
      (splitKey key).any (· ∈ ["", ".", ".."]) ∨ ['?', '#', '%', ':'].any (· ∈ key.toList) then
    .error "Object keys must be relative opaque paths"
  else if root ≠ root ++ splitKey key ∧ ¬root <+: root ++ splitKey key then
    .error "Object key escapes its configured storage root"
  else .ok (root ++ splitKey key)

/-- What names of temporary files begin with. -/
def temporaryName (suffix : String) : String := ".media-" ++ suffix

/-- Where one call of `_put` stands. -/
inductive Phase where
  /-- The directory is there. -/
  | prepared
  /-- The temporary file is open. -/
  | writing (suffix : String)
  /-- Its content is flushed and synced. -/
  | written (suffix : String)
  /-- Moved into place, or an exception on the way; `finally` is left. -/
  | ending (suffix : String)
  | over_
  deriving DecidableEq, Repr

/-- The temporary file a call answers for. -/
def Phase.suffix? : Phase → Option String
  | .writing suffix | .written suffix | .ending suffix => some suffix
  | .prepared | .over_ => none

structure Writer where
  area : Area
  key : String
  content : Bytes
  parent : Path
  name : String
  phase : Phase

structure Storage where
  tree : FileTree Bytes
  writers : List Writer := []
  /-- Every temporary name that was ever drawn. -/
  drawn : List String := []

def Storage.empty : Storage := { tree := .empty }

inductive Action where
  | put (area : Area) (key : String) (content : Bytes)
  | openTemporary (index : Nat) (suffix : String)
  /-- Some of the content reaches the file. -/
  | write (index count : Nat)
  | flush (index : Nat)
  /-- An exception while the file is written. -/
  | fail (index : Nat)
  | replace (index : Nat)
  | clean (index : Nat)
  | crash (index : Nat)
  | delete (area : Area) (key : String)

namespace Storage

def setPhase (storage : Storage) (index : Nat) (writer : Writer) (phase : Phase) : Storage :=
  { storage with writers := storage.writers.set index { writer with phase } }

/-- `_put` up to its temporary file. -/
def put (storage : Storage) (area : Area) (key : String) (content : Bytes) : Storage :=
  match safePath area.root key with
  | .error _ => storage
  | .ok destination =>
    match storage.tree.mkdir destination.dropLast with
    | .error _ => storage
    | .ok tree =>
      { storage with
        tree
        writers := storage.writers ++
          [⟨area, key, content, destination.dropLast, destination.getLastD "", .prepared⟩] }

/-- `NamedTemporaryFile`; where the name is taken another is drawn. -/
def openTemporary (storage : Storage) (index : Nat) (suffix : String) : Storage :=
  match storage.writers[index]? with
  | some writer =>
    if writer.phase = .prepared then
      match storage.tree.create writer.parent (temporaryName suffix) [] with
      | .error _ => storage
      | .ok tree =>
        { storage.setPhase index writer (.writing suffix) with tree, drawn := suffix :: storage.drawn }
    else storage
  | none => storage

/-- The open file holds the first bytes of the content. -/
def writeUpTo (storage : Storage) (index : Nat) (count : Option Nat) : Storage :=
  match storage.writers[index]? with
  | some writer =>
    match writer.phase with
    | .writing suffix =>
      match storage.tree.overwrite writer.parent (temporaryName suffix)
          (writer.content.take (count.getD writer.content.length)) with
      | .error _ => storage
      | .ok tree =>
        { storage.setPhase index writer (if count = none then .written suffix else .writing suffix) with
          tree }
    | _ => storage
  | none => storage

def fail (storage : Storage) (index : Nat) : Storage :=
  match storage.writers[index]? with
  | some writer =>
    match writer.phase with
    | .writing suffix => storage.setPhase index writer (.ending suffix)
    | _ => storage
  | none => storage

/-- `os.replace`; an exception goes on to `finally` all the same. -/
def replace (storage : Storage) (index : Nat) : Storage :=
  match storage.writers[index]? with
  | some writer =>
    match writer.phase with
    | .written suffix =>
      match storage.tree.replace (writer.parent ++ [temporaryName suffix]) writer.parent writer.name with
      | .error _ => storage.setPhase index writer (.ending suffix)
      | .ok tree => { storage.setPhase index writer (.ending suffix) with tree }
    | _ => storage
  | none => storage

/-- `temporary.unlink(missing_ok=True)`. -/
def clean (storage : Storage) (index : Nat) : Storage :=
  match storage.writers[index]? with
  | some writer =>
    match writer.phase with
    | .ending suffix =>
      match storage.tree.unlink (writer.parent ++ [temporaryName suffix]) with
      | .error _ => storage.setPhase index writer .over_
      | .ok tree => { storage.setPhase index writer .over_ with tree }
    | _ => storage
  | none => storage

/-- The process is gone; what it wrote stays. -/
def crash (storage : Storage) (index : Nat) : Storage :=
  match storage.writers[index]? with
  | some writer => storage.setPhase index writer .over_
  | none => storage

/-- `unlink(missing_ok=True)` of the object's file. -/
def delete (storage : Storage) (area : Area) (key : String) : Storage :=
  match safePath area.root key with
  | .error _ => storage
  | .ok destination =>
    match storage.tree.unlink destination with
    | .error _ => storage
    | .ok tree => { storage with tree }

def step (storage : Storage) : Action → Storage
  | .put area key content => storage.put area key content
  | .openTemporary index suffix => storage.openTemporary index suffix
  | .write index count => storage.writeUpTo index (some count)
  | .flush index => storage.writeUpTo index none
  | .fail index => storage.fail index
  | .replace index => storage.replace index
  | .clean index => storage.clean index
  | .crash index => storage.crash index
  | .delete area key => storage.delete area key

/-- `read_quarantine`, of either root. -/
def read (storage : Storage) (area : Area) (key : String) : Option Bytes :=
  match safePath area.root key with
  | .error _ => none
  | .ok destination => (storage.tree.read destination).toOption

end Storage

def system : System Storage Action where
  initial := Storage.empty
  step := Storage.step

/-! ## The in-memory storage -/

/-- `FakeObjectStorage`: its two dictionaries. -/
def FakeObjectStorage := Area → String → Option Bytes

namespace FakeObjectStorage

def empty : FakeObjectStorage := fun _ _ => none

def put (objects : FakeObjectStorage) (area : Area) (key : String) (content : Bytes) :
    FakeObjectStorage :=
  fun other name => if other = area ∧ name = key then some content else objects other name

/-- `pop(key, None)`. -/
def delete (objects : FakeObjectStorage) (area : Area) (key : String) : FakeObjectStorage :=
  fun other name => if other = area ∧ name = key then none else objects other name

end FakeObjectStorage

/-- What an action is to the in-memory storage: a file that moves into place is put, an unlinked
one deleted. -/
def told (storage : Storage) (objects : FakeObjectStorage) : Action → FakeObjectStorage
  | .replace index =>
    match storage.writers[index]? with
    | some writer =>
      match writer.phase with
      | .written suffix =>
        match storage.tree.replace (writer.parent ++ [temporaryName suffix]) writer.parent writer.name with
        | .ok _ => objects.put writer.area writer.key writer.content
        | .error _ => objects
      | _ => objects
    | none => objects
  | .delete area key => objects.delete area key
  | _ => objects

/-- The in-memory storage along a run of the local one. -/
def objectsAfter : Storage → FakeObjectStorage → List Action → FakeObjectStorage
  | _, objects, [] => objects
  | storage, objects, action :: rest =>
    objectsAfter (storage.step action) (told storage objects action) rest

/-! ## Keys and paths -/

/-- No part of the key begins like the name of a temporary file. -/
def Plain (key : String) : Prop := ∀ part ∈ splitKey key, ¬".media-".toList <+: part.toList

instance (key : String) : Decidable (Plain key) := inferInstanceAs (Decidable (∀ part ∈ _, _))

theorem splitKey_injective (same : splitKey left = splitKey right) : left = right := by
  have parts : left.toList.splitOn '/' = right.toList.splitOn '/' :=
    List.map_injective_iff.mpr (fun _ _ equal => String.ofList_inj.mp equal) same
  have texts := congrArg (List.intercalate ['/']) parts
  rw [List.intercalate_splitOn, List.intercalate_splitOn] at texts
  exact String.toList_inj.mp texts

theorem splitKey_ne_nil (key : String) : splitKey key ≠ [] := by
  unfold splitKey
  simp [List.splitOn_ne_nil]

theorem temporaryName_injective (same : temporaryName left = temporaryName right) : left = right := by
  have texts := congrArg String.toList same
  simp only [temporaryName, String.toList_append] at texts
  exact String.toList_inj.mp (List.append_cancel_left texts)

theorem safePath_ok (accepted : safePath root key = .ok path) : path = root ++ splitKey key := by
  unfold safePath at accepted
  split at accepted
  · cases accepted
  · split at accepted
    · cases accepted
    · cases accepted
      rfl

/-- Two objects have one place only if they are one. -/
theorem place_injective {area other : Area} (first : safePath area.root key = .ok path)
    (second : safePath other.root name = .ok path) : area = other ∧ key = name := by
  have same := (safePath_ok first).symm.trans (safePath_ok second)
  have long : area.root.length = other.root.length := by cases area <;> cases other <;> rfl
  obtain ⟨roots, parts⟩ := List.append_inj same long
  refine ⟨?_, splitKey_injective parts⟩
  cases area <;> cases other <;> simp_all [Area.root]

/-- A temporary file is no object. -/
theorem place_ne_temporary (accepted : safePath root key = .ok path) (plain : Plain key) (parent : Path)
    (suffix : String) : path ≠ parent ++ [temporaryName suffix] := by
  rw [safePath_ok accepted]
  intro same
  have last := congrArg List.getLast? same
  rw [List.getLast?_append_of_ne_nil _ (splitKey_ne_nil key),
    List.getLast?_append_of_ne_nil _ (by simp)] at last
  have inside : temporaryName suffix ∈ splitKey key := List.mem_of_getLast? last
  apply plain _ inside
  simp [temporaryName, String.toList_append]

theorem temporaries_apart (apart : suffix ≠ other) (parent elsewhere : Path) :
    parent ++ [temporaryName suffix] ≠ elsewhere ++ [temporaryName other] := by
  intro same
  obtain ⟨-, last⟩ := List.append_inj' same rfl
  exact apart (temporaryName_injective (List.cons.inj last).1)

/-- The directory of an object and its name there. -/
theorem place_split (accepted : safePath root key = .ok path) :
    path.dropLast ++ [path.getLastD ""] = path := by
  have filled : path ≠ [] := by
    rw [safePath_ok accepted]
    simp [splitKey_ne_nil]
  rw [List.getLastD_eq_getLast?, List.getLast?_eq_some_getLast filled, Option.getD_some,
    List.dropLast_append_getLast filled]

theorem read_eq (storage : Storage) (area : Area) (key : String) :
    storage.read area key = (safePath area.root key).toOption.bind storage.tree.content? := by
  unfold Storage.read
  cases safePath area.root key with
  | error => rfl
  | ok path => exact FileTree.read_toOption

/-- Reads see no more of the tree than the files of objects. -/
theorem read_congr {storage after : Storage}
    (same : ∀ path, safePath area.root key = .ok path →
      after.tree.content? path = storage.tree.content? path) :
    after.read area key = storage.read area key := by
  rw [read_eq, read_eq]
  cases accepted : safePath area.root key with
  | error => rfl
  | ok path => exact same path accepted

/-! ## What holds of the calls under way -/

structure Sound (storage : Storage) : Prop where
  placed : ∀ writer ∈ storage.writers,
    safePath writer.area.root writer.key = .ok (writer.parent ++ [writer.name]) ∧ Plain writer.key
  names : ∀ writer ∈ storage.writers, ∀ suffix, writer.phase.suffix? = some suffix →
    suffix ∈ storage.drawn
  /-- No two calls share a temporary file. -/
  apart : ∀ (i j : Nat) (first second : Writer) suffix, storage.writers[i]? = some first →
    storage.writers[j]? = some second → first.phase.suffix? = some suffix →
    second.phase.suffix? = some suffix → i = j
  /-- What was flushed is all there. -/
  whole : ∀ writer ∈ storage.writers, ∀ suffix, writer.phase = .written suffix →
    storage.tree.content? (writer.parent ++ [temporaryName suffix]) = some writer.content

theorem sound_empty : Sound .empty where
  placed _ member := nomatch member
  names _ member := nomatch member
  apart _ _ _ _ _ there := nomatch there
  whole _ member := nomatch member

theorem writers_setPhase {storage : Storage} (own : storage.writers[index]? = some writer)
    (phase : Phase) (j : Nat) :
    (storage.setPhase index writer phase).writers[j]? =
      if j = index then some { writer with phase } else storage.writers[j]? := by
  obtain ⟨inside, -⟩ := List.getElem?_eq_some_iff.mp own
  by_cases mine : j = index
  · subst mine
    simp [Storage.setPhase, inside]
  · rw [if_neg mine]
    exact List.getElem?_set_ne (Ne.symm mine)

/-- A call moves on: the temporary file it now answers for is its own or a fresh one, and those of
the others stay. -/
theorem Sound.turn {drawn : List String} (sound : Sound storage)
    (own : storage.writers[index]? = some writer)
    (grows : ∀ suffix ∈ storage.drawn, suffix ∈ drawn)
    (suffixes : ∀ suffix, Phase.suffix? phase = some suffix →
      writer.phase.suffix? = some suffix ∨ suffix ∈ drawn ∧ suffix ∉ storage.drawn)
    (whole : ∀ suffix, phase = .written suffix →
      tree.content? (writer.parent ++ [temporaryName suffix]) = some writer.content)
    (kept : ∀ other ∈ storage.writers, ∀ suffix, other.phase = .written suffix →
      writer.phase.suffix? ≠ some suffix →
      tree.content? (other.parent ++ [temporaryName suffix]) =
        storage.tree.content? (other.parent ++ [temporaryName suffix])) :
    Sound { storage.setPhase index writer phase with tree, drawn } := by
  have member : writer ∈ storage.writers := List.mem_of_getElem? own
  have cases_of : ∀ other ∈ (storage.setPhase index writer phase).writers,
      other = { writer with phase } ∨
        ∃ j : Nat, j ≠ index ∧ storage.writers[j]? = some other := by
    intro other there
    obtain ⟨j, there⟩ := List.mem_iff_getElem?.mp there
    rw [writers_setPhase own] at there
    by_cases mine : j = index
    · rw [if_pos mine] at there
      exact .inl (Option.some.inj there).symm
    · rw [if_neg mine] at there
      exact .inr ⟨j, mine, there⟩
  -- a call that is not this one answers for another file
  have others : ∀ (j : Nat) (other : Writer) suffix, j ≠ index → storage.writers[j]? = some other →
      other.phase.suffix? = some suffix → Phase.suffix? phase ≠ some suffix := by
    intro j other suffix apart there held answered
    rcases suffixes suffix answered with mine | ⟨-, fresh⟩
    · exact apart (sound.apart j index other writer suffix there own held mine)
    · exact fresh (sound.names other (List.mem_of_getElem? there) suffix held)
  constructor
  · intro other there
    rcases cases_of other there with rfl | ⟨j, -, old⟩
    · exact sound.placed writer member
    · exact sound.placed other (List.mem_of_getElem? old)
  · intro other there suffix held
    rcases cases_of other there with rfl | ⟨j, -, old⟩
    · rcases suffixes suffix held with mine | ⟨new, -⟩
      · exact grows suffix (sound.names writer member suffix mine)
      · exact new
    · exact grows suffix (sound.names other (List.mem_of_getElem? old) suffix held)
  · intro i j first second suffix here there held answered
    replace here := (writers_setPhase own phase i).symm.trans here
    replace there := (writers_setPhase own phase j).symm.trans there
    by_cases mine : i = index <;> by_cases yours : j = index
    · exact mine.trans yours.symm
    · rw [if_pos mine] at here
      rw [if_neg yours] at there
      cases here
      exact absurd held (others j second suffix yours there answered)
    · rw [if_neg mine] at here
      rw [if_pos yours] at there
      cases there
      exact absurd answered (others i first suffix mine here held)
    · rw [if_neg mine] at here
      rw [if_neg yours] at there
      exact sound.apart i j first second suffix here there held answered
  · intro other there suffix flushed
    rcases cases_of other there with rfl | ⟨j, apart, old⟩
    · exact whole suffix flushed
    · have inside := List.mem_of_getElem? old
      have foreign : writer.phase.suffix? ≠ some suffix := fun mine =>
        apart (sound.apart j index other writer suffix old own (by rw [flushed]; rfl) mine)
      exact (kept other inside suffix flushed foreign).trans (sound.whole other inside suffix flushed)

/-! ## One step -/

/-- Keys of objects do not look like temporary files, and temporary names are drawn once. -/
def Admitted (storage : Storage) : Action → Prop
  | .put _ key _ | .delete _ key => Plain key
  | .openTemporary _ suffix => suffix ∉ storage.drawn
  | _ => True

instance (storage : Storage) : DecidablePred (Admitted storage)
  | .put _ key _ => inferInstanceAs (Decidable (Plain key))
  | .delete _ key => inferInstanceAs (Decidable (Plain key))
  | .openTemporary _ suffix => inferInstanceAs (Decidable (suffix ∉ storage.drawn))
  | .write .. | .flush _ | .fail _ | .replace _ | .clean _ | .crash _ => .isTrue trivial

/-- The local storage and the in-memory one hold the same objects. -/
structure Mirrors (storage : Storage) (objects : FakeObjectStorage) : Prop where
  sound : Sound storage
  reads : ∀ area key, Plain key → storage.read area key = objects area key

theorem Sound.keep (sound : Sound storage)
    (kept : ∀ parent suffix, tree.content? (parent ++ [temporaryName suffix]) =
      storage.tree.content? (parent ++ [temporaryName suffix])) : Sound { storage with tree } where
  placed := sound.placed
  names := sound.names
  apart := sound.apart
  whole writer there suffix flushed :=
    (kept writer.parent suffix).trans (sound.whole writer there suffix flushed)

theorem Sound.put (sound : Sound storage) (made : storage.tree.mkdir elsewhere = .ok tree)
    (placed : safePath writer.area.root writer.key = .ok (writer.parent ++ [writer.name]))
    (plain : Plain writer.key) (idle : writer.phase = .prepared) :
    Sound { storage with tree, writers := storage.writers ++ [writer] } := by
  have silent : writer.phase.suffix? = none := by rw [idle]; rfl
  -- only the calls that stood before answer for a file
  have old : ∀ (i : Nat) (other : Writer) suffix, (storage.writers ++ [writer])[i]? = some other →
      other.phase.suffix? = some suffix → storage.writers[i]? = some other := by
    intro i other suffix there held
    rw [List.getElem?_append] at there
    split at there
    · exact there
    · have inside := List.mem_of_getElem? there
      rw [List.mem_singleton.mp inside, silent] at held
      cases held
  constructor
  · intro other there
    rcases List.mem_append.mp there with before | new
    · exact sound.placed other before
    · rw [List.mem_singleton.mp new]
      exact ⟨placed, plain⟩
  · intro other there suffix held
    obtain ⟨i, there⟩ := List.mem_iff_getElem?.mp there
    exact sound.names other (List.mem_of_getElem? (old i other suffix there held)) suffix held
  · intro i j first second suffix here there held answered
    exact sound.apart i j first second suffix (old i first suffix here held)
      (old j second suffix there answered) held answered
  · intro other there suffix flushed
    obtain ⟨i, there⟩ := List.mem_iff_getElem?.mp there
    have before := old i other suffix there (by rw [flushed]; rfl)
    exact (FileTree.mkdir_content made _).trans
      (sound.whole other (List.mem_of_getElem? before) suffix flushed)

theorem Mirrors.put (mirrors : Mirrors storage objects) (plain : Plain key) :
    Mirrors (storage.put area key content) objects := by
  unfold Storage.put
  split
  · exact mirrors
  · next destination accepted =>
    split
    · exact mirrors
    · next tree made =>
      constructor
      · apply mirrors.sound.put made _ plain rfl
        rw [place_split accepted]
        exact accepted
      · intro area key plain
        have kept := FileTree.mkdir_content made
        exact (read_congr fun path _ => kept path).trans (mirrors.reads area key plain)

/-- A step that touches one temporary file, the call's own or a fresh one: no object and no other
call's file is that one. -/
theorem Mirrors.temporary {drawn : List String} {found : Option Bytes}
    (mirrors : Mirrors storage objects) (own : storage.writers[index]? = some writer)
    (grows : ∀ suffix ∈ storage.drawn, suffix ∈ drawn)
    (suffixes : ∀ suffix, Phase.suffix? phase = some suffix →
      writer.phase.suffix? = some suffix ∨ suffix ∈ drawn ∧ suffix ∉ storage.drawn)
    (mine : writer.phase.suffix? = some suffix ∨ suffix ∉ storage.drawn)
    (files : ∀ other, tree.content? other =
      if other = writer.parent ++ [temporaryName suffix] then found else storage.tree.content? other)
    (whole : ∀ suffix, phase = .written suffix →
      tree.content? (writer.parent ++ [temporaryName suffix]) = some writer.content) :
    Mirrors { storage.setPhase index writer phase with tree, drawn } objects where
  sound := by
    apply mirrors.sound.turn own grows suffixes whole
    intro other there name flushed foreign
    have apart : name ≠ suffix := by
      rintro rfl
      rcases mine with held | fresh
      · exact foreign held
      · exact fresh (mirrors.sound.names other there name (by rw [flushed]; rfl))
    rw [files, if_neg]
    exact temporaries_apart apart other.parent writer.parent
  reads area key plain := by
    refine (read_congr fun path accepted => ?_).trans (mirrors.reads area key plain)
    have object := place_ne_temporary accepted plain writer.parent suffix
    rw [files, if_neg object]

theorem Mirrors.openTemporary (mirrors : Mirrors storage objects) (fresh : suffix ∉ storage.drawn) :
    Mirrors (storage.openTemporary index suffix) objects := by
  unfold Storage.openTemporary
  split
  · next writer own =>
    split
    · split
      · exact mirrors
      · next tree made =>
        obtain ⟨-, -, nodes⟩ := FileTree.create_ok made
        apply mirrors.temporary own _ _ (.inr fresh) (FileTree.content?_of_nodes nodes)
        · exact fun other flushed => nomatch flushed
        · exact fun other there => List.mem_cons_of_mem _ there
        · intro other answered
          cases answered
          exact .inr ⟨List.mem_cons_self, fresh⟩
    · exact mirrors
  · exact mirrors

theorem Mirrors.writeUpTo (mirrors : Mirrors storage objects) :
    Mirrors (storage.writeUpTo index count) objects := by
  unfold Storage.writeUpTo
  split
  · next writer own =>
    split
    · next suffix writing =>
      split
      · exact mirrors
      · next tree made =>
        obtain ⟨-, -, nodes⟩ := FileTree.overwrite_ok made
        have files := FileTree.content?_of_nodes nodes
        have held : writer.phase.suffix? = some suffix := by rw [writing]; rfl
        apply mirrors.temporary own (fun _ there => there) _ (.inl held) files
        · intro other flushed
          cases count with
          | none =>
            cases flushed
            rw [files, if_pos rfl]
            simp
          | some count => cases flushed
        · intro other answered
          left
          rw [held]
          cases count <;> exact answered
    · exact mirrors
  · exact mirrors

/-- A call that ends, or is about to, and leaves the files alone. -/
theorem Mirrors.setPhase (mirrors : Mirrors storage objects)
    (own : storage.writers[index]? = some writer)
    (suffixes : ∀ suffix, phase.suffix? = some suffix → writer.phase.suffix? = some suffix)
    (unfinished : ∀ suffix, phase ≠ .written suffix) :
    Mirrors (storage.setPhase index writer phase) objects where
  sound := mirrors.sound.turn own (fun _ there => there)
    (fun suffix answered => .inl (suffixes suffix answered))
    (fun suffix flushed => absurd flushed (unfinished suffix)) fun _ _ _ _ _ => rfl
  reads := mirrors.reads

theorem Mirrors.fail (mirrors : Mirrors storage objects) : Mirrors (storage.fail index) objects := by
  unfold Storage.fail
  split
  · next writer own =>
    split
    · next suffix writing =>
      apply mirrors.setPhase own
      · exact fun other answered => by rw [writing]; exact answered
      · exact fun other flushed => nomatch flushed
    · exact mirrors
  · exact mirrors

theorem Mirrors.crash (mirrors : Mirrors storage objects) : Mirrors (storage.crash index) objects := by
  unfold Storage.crash
  split
  · next writer own =>
    apply mirrors.setPhase own
    · exact fun other answered => nomatch answered
    · exact fun other flushed => nomatch flushed
  · exact mirrors

theorem Mirrors.clean (mirrors : Mirrors storage objects) : Mirrors (storage.clean index) objects := by
  unfold Storage.clean
  split
  · next writer own =>
    split
    · next suffix ending =>
      split
      · apply mirrors.setPhase own
        · exact fun other answered => nomatch answered
        · exact fun other flushed => nomatch flushed
      · next tree made =>
        have held : writer.phase.suffix? = some suffix := by rw [ending]; rfl
        apply mirrors.temporary own (fun _ there => there) _ (.inl held) (FileTree.unlink_content made)
        · exact fun other flushed => nomatch flushed
        · exact fun other answered => nomatch answered
    · exact mirrors
  · exact mirrors

/-- The step at which an object changes: what moved into its place is the whole content. -/
theorem Mirrors.replace (mirrors : Mirrors storage objects) :
    Mirrors (storage.replace index) (told storage objects (.replace index)) := by
  simp only [Storage.replace, told]
  cases own : storage.writers[index]? with
  | none => exact mirrors
  | some writer =>
    cases flushed : writer.phase with
    | written suffix =>
      have member : writer ∈ storage.writers := List.mem_of_getElem? own
      obtain ⟨placed, plain⟩ := mirrors.sound.placed writer member
      have whole := mirrors.sound.whole writer member suffix flushed
      have ending : ∀ other, Phase.suffix? (.ending suffix) = some other →
          writer.phase.suffix? = some other :=
        fun other answered => by rw [flushed]; exact answered
      cases moving : storage.tree.replace (writer.parent ++ [temporaryName suffix]) writer.parent
          writer.name with
      | error raised =>
        simp only [flushed, moving]
        exact mirrors.setPhase own ending fun other written => nomatch written
      | ok tree =>
        simp only [flushed, moving]
        have object := place_ne_temporary placed plain writer.parent suffix
        obtain ⟨content, held, files⟩ := FileTree.replace_content (Ne.symm object) moving
        cases whole.symm.trans held
        constructor
        · apply mirrors.sound.turn own
          · exact fun _ there => there
          · exact fun other answered => .inl (ending other answered)
          · exact fun other written => nomatch written
          · intro other there name written foreign
            have apart : name ≠ suffix := fun same => foreign (by rw [flushed, same]; rfl)
            have between := temporaries_apart apart other.parent writer.parent
            have target := place_ne_temporary placed plain other.parent name
            rw [files, if_neg between, if_neg target.symm]
        · intro area key named
          by_cases mine : area = writer.area ∧ key = writer.key
          · obtain ⟨rfl, rfl⟩ := mine
            rw [read_eq, placed]
            simp only [Except.toOption, Option.bind_some, files, if_neg object,
              FakeObjectStorage.put, and_self, if_true]
          · rw [FakeObjectStorage.put, if_neg mine, ← mirrors.reads area key named]
            apply read_congr
            intro path accepted
            have elsewhere : path ≠ writer.parent ++ [writer.name] := by
              rintro rfl
              exact mine (place_injective accepted placed)
            rw [files, if_neg (place_ne_temporary accepted named writer.parent suffix), if_neg elsewhere]
    | _ =>
      simp only [flushed]
      exact mirrors

theorem Mirrors.delete (mirrors : Mirrors storage objects) (plain : Plain key) :
    Mirrors (storage.delete area key) (objects.delete area key) := by
  -- the other objects are told apart by their places
  unfold Storage.delete
  split
  · next raised refused =>
    refine ⟨mirrors.sound, fun other name named => ?_⟩
    by_cases mine : other = area ∧ name = key
    · obtain ⟨rfl, rfl⟩ := mine
      rw [read_eq, refused]
      simp [FakeObjectStorage.delete, Except.toOption]
    · rw [FakeObjectStorage.delete, if_neg mine]
      exact mirrors.reads other name named
  · next destination accepted =>
    split
    · next raised refused =>
      refine ⟨mirrors.sound, fun other name named => ?_⟩
      by_cases mine : other = area ∧ name = key
      · obtain ⟨rfl, rfl⟩ := mine
        rw [read_eq, accepted]
        simp [FakeObjectStorage.delete, Except.toOption, FileTree.unlink_error refused]
      · rw [FakeObjectStorage.delete, if_neg mine]
        exact mirrors.reads other name named
    · next tree made =>
      have files := FileTree.unlink_content made
      constructor
      · apply mirrors.sound.keep
        intro parent suffix
        rw [files, if_neg]
        exact (place_ne_temporary accepted plain parent suffix).symm
      · intro other name named
        by_cases mine : other = area ∧ name = key
        · obtain ⟨rfl, rfl⟩ := mine
          rw [read_eq, accepted]
          simp [FakeObjectStorage.delete, Except.toOption, files]
        · rw [FakeObjectStorage.delete, if_neg mine, ← mirrors.reads other name named]
          apply read_congr
          intro path found
          rw [files, if_neg]
          rintro rfl
          exact mine (place_injective found accepted)

theorem Mirrors.step (mirrors : Mirrors storage objects) (admitted : Admitted storage action) :
    Mirrors (storage.step action) (told storage objects action) := by
  cases action with
  | put area key content => exact mirrors.put admitted
  | openTemporary index suffix => exact mirrors.openTemporary admitted
  | write index count => exact mirrors.writeUpTo
  | flush index => exact mirrors.writeUpTo
  | fail index => exact mirrors.fail
  | replace index => exact mirrors.replace
  | clean index => exact mirrors.clean
  | crash index => exact mirrors.crash
  | delete area key => exact mirrors.delete admitted

theorem Mirrors.run (mirrors : Mirrors storage objects) (actions : List Action)
    (admitted : system.RunWhile Admitted storage actions) :
    Mirrors (system.run storage actions) (objectsAfter storage objects actions) := by
  induction actions generalizing storage objects with
  | nil => exact mirrors
  | cons action rest ih => exact ih (mirrors.step admitted.1) admitted.2

theorem mirrors_empty : Mirrors .empty .empty where
  sound := sound_empty
  reads area key _ := by
    rw [read_eq]
    cases accepted : safePath area.root key with
    | error => rfl
    | ok path =>
      have filled : path ≠ [] := by
        rw [safePath_ok accepted]
        simp [splitKey_ne_nil]
      simp [Except.toOption, Storage.empty, FileTree.empty, FileTree.content?, filled,
        FakeObjectStorage.empty]

/-! ## Where contents come from -/

/-- The call a writer carries out. -/
def Writer.call (writer : Writer) : Action := .put writer.area writer.key writer.content

theorem call_setPhase {storage : Storage} (own : storage.writers[index]? = some writer)
    (there : other ∈ (storage.setPhase index writer phase).writers) :
    ∃ old ∈ storage.writers, other.call = old.call := by
  rcases List.mem_or_eq_of_mem_set there with old | rfl
  · exact ⟨other, old, rfl⟩
  · exact ⟨writer, List.mem_of_getElem? own, rfl⟩

/-- Every writer carries out a call that was made. -/
theorem call_step {storage : Storage} (there : writer ∈ (storage.step action).writers) :
    (∃ old ∈ storage.writers, writer.call = old.call) ∨ writer.call = action := by
  have stays : writer ∈ storage.writers → ∃ old ∈ storage.writers, writer.call = old.call :=
    fun old => ⟨writer, old, rfl⟩
  cases action with
  | put area key content =>
    simp only [Storage.step, Storage.put] at there
    split at there
    · exact .inl (stays there)
    · split at there
      · exact .inl (stays there)
      · rcases List.mem_append.mp there with old | new
        · exact .inl (stays old)
        · rw [List.mem_singleton.mp new]
          exact .inr rfl
  | openTemporary index suffix =>
    left
    simp only [Storage.step, Storage.openTemporary] at there
    split at there
    · next own =>
      split at there
      · split at there
        · exact stays there
        · exact call_setPhase own there
      · exact stays there
    · exact stays there
  | write index | flush index =>
    left
    simp only [Storage.step, Storage.writeUpTo] at there
    split at there
    · next own =>
      split at there
      · split at there
        · exact stays there
        · exact call_setPhase own there
      · exact stays there
    · exact stays there
  | fail index =>
    left
    simp only [Storage.step, Storage.fail] at there
    split at there
    · next own =>
      split at there
      · exact call_setPhase own there
      · exact stays there
    · exact stays there
  | replace index =>
    left
    simp only [Storage.step, Storage.replace] at there
    split at there
    · next own =>
      split at there
      · split at there <;> exact call_setPhase own there
      · exact stays there
    · exact stays there
  | clean index =>
    left
    simp only [Storage.step, Storage.clean] at there
    split at there
    · next own =>
      split at there
      · split at there <;> exact call_setPhase own there
      · exact stays there
    · exact stays there
  | crash index =>
    left
    simp only [Storage.step, Storage.crash] at there
    split at there
    · next own => exact call_setPhase own there
    · exact stays there
  | delete area key =>
    left
    simp only [Storage.step, Storage.delete] at there
    split at there
    · exact stays there
    · split at there <;> exact stays there

theorem told_replace (storage : Storage) (objects : FakeObjectStorage) (index : Nat) :
    told storage objects (.replace index) = objects ∨ ∃ writer ∈ storage.writers,
      told storage objects (.replace index) = objects.put writer.area writer.key writer.content := by
  simp only [told]
  split
  · next writer own =>
    split
    · split
      · exact .inr ⟨writer, List.mem_of_getElem? own, rfl⟩
      · exact .inl rfl
    · exact .inl rfl
  · exact .inl rfl

/-- Every object is the content of a call. -/
theorem told_call {storage : Storage} (held : told storage objects action area key = some content) :
    objects area key = some content ∨
      ∃ writer ∈ storage.writers, writer.call = .put area key content := by
  cases action with
  | replace index =>
    rcases told_replace storage objects index with same | ⟨writer, inside, put⟩
    · rw [same] at held
      exact .inl held
    · rw [put, FakeObjectStorage.put] at held
      split at held
      · next mine =>
        obtain ⟨rfl, rfl⟩ := mine
        cases held
        exact .inr ⟨writer, inside, rfl⟩
      · exact .inl held
  | delete other name =>
    simp only [told, FakeObjectStorage.delete] at held
    split at held
    · cases held
    · exact .inl held
  | _ => exact .inl held

/-- A property of the calls made is one of the objects. -/
theorem objects_are_calls (P : Action → Prop) {storage : Storage} {objects : FakeObjectStorage}
    (writers : ∀ writer ∈ storage.writers, P writer.call)
    (known : ∀ area key content, objects area key = some content → P (.put area key content))
    (actions : List Action) (made : ∀ action ∈ actions, P action)
    (held : objectsAfter storage objects actions area key = some content) :
    P (.put area key content) := by
  induction actions generalizing storage objects with
  | nil => exact known area key content held
  | cons action rest ih =>
    apply ih _ _ (fun other there => made other (List.mem_cons_of_mem _ there)) held
    · intro writer there
      rcases call_step there with ⟨old, inside, same⟩ | new
      · rw [same]
        exact writers old inside
      · rw [new]
        exact made action List.mem_cons_self
    · intro area key content told
      rcases told_call told with old | ⟨writer, inside, same⟩
      · exact known area key content old
      · exact same ▸ writers writer inside

/-- However the calls interleave, fail and crash, the local storage reads as the in-memory one, and
whoever reads an object gets the whole content of one call that put it. -/
theorem local_storage_is_the_fake_one (actions : List Action)
    (admitted : system.RunWhile Admitted Storage.empty actions) (area : Area) (key : String)
    (plain : Plain key) :
    (system.run Storage.empty actions).read area key =
        objectsAfter Storage.empty FakeObjectStorage.empty actions area key ∧
      ∀ content, (system.run Storage.empty actions).read area key = some content →
        .put area key content ∈ actions := by
  have mirrors := mirrors_empty.run actions admitted
  have same := mirrors.reads area key plain
  refine ⟨same, fun content held => ?_⟩
  rw [same] at held
  exact objects_are_calls (· ∈ actions) (fun _ there => absurd there List.not_mem_nil)
    (fun _ _ _ there => nomatch (there : none = some _)) actions (fun _ there => there) held

/-- Two calls for one object: the one that moves its file first is read, the other dies with half of
its content written. -/
def overlappingPuts : List Action :=
  [.put .derivatives "public/rice.webp" [1, 2], .openTemporary 0 "x", .write 0 1,
    .put .derivatives "public/rice.webp" [3], .openTemporary 1 "y", .flush 1, .replace 1, .crash 0]

theorem local_storage_is_the_fake_one_overlapping :
    (system.run Storage.empty overlappingPuts).read .derivatives "public/rice.webp" =
        objectsAfter Storage.empty FakeObjectStorage.empty overlappingPuts .derivatives
          "public/rice.webp" ∧
      ∀ content,
        (system.run Storage.empty overlappingPuts).read .derivatives "public/rice.webp" = some content →
        .put .derivatives "public/rice.webp" content ∈ overlappingPuts :=
  local_storage_is_the_fake_one overlappingPuts (by decide) .derivatives "public/rice.webp" (by decide)

example :
    (system.run Storage.empty overlappingPuts).read .derivatives "public/rice.webp" = some [3] := by
  decide

end GaonOne.LocalObjectStorage
