import Mathlib.Data.List.Infix

/-! A tree of files as a program sees it: paths from the root, directories, and files that are
read and written whole. The tree carries that whatever exists stands in a directory; every
operation either does what it says or raises and changes nothing. -/
namespace Files

/-- The names on the way from the root. -/
abbrev Path := List String

inductive Node (β : Type) where
  | directory
  | file (content : β)
  deriving DecidableEq

structure FileTree (β : Type) where
  node : Path → Option (Node β)
  root : node [] = some .directory
  stands : ∀ path name, node (path ++ [name]) ≠ none → node path = some .directory

inductive FileError where
  | notFound | alreadyThere | notADirectory | isADirectory
  deriving DecidableEq, Repr

variable {β : Type}

namespace FileTree

def empty : FileTree β where
  node path := if path = [] then some .directory else none
  root := rfl
  stands path name there := absurd (if_neg (by simp)) there

/-- A file takes the place of nothing, or of a file. -/
def putFile (tree : FileTree β) (parent : Path) (name : String) (content : β)
    (held : tree.node parent = some .directory)
    (free : tree.node (parent ++ [name]) ≠ some .directory) : FileTree β where
  node path := if path = parent ++ [name] then some (.file content) else tree.node path
  root := by simp [tree.root]
  stands path child there := by
    by_cases own : path = parent ++ [name]
    · -- nothing stands below the new file
      subst own
      simp only [List.append_assoc, List.append_cancel_left_eq, reduceCtorEq, List.cons_append,
        List.nil_append, List.cons.injEq, and_false, if_false] at there
      exact absurd (tree.stands _ child (by simpa using there)) free
    · rw [if_neg own]
      by_cases here : path ++ [child] = parent ++ [name]
      · obtain ⟨rfl, -⟩ := List.append_inj' here rfl
        exact held
      · rw [if_neg here] at there
        exact tree.stands path child there

def removeFile (tree : FileTree β) (path : Path) (held : tree.node path = some (.file content)) :
    FileTree β where
  node other := if other = path then none else tree.node other
  root := by
    have apart : [] ≠ path := by
      rintro rfl
      cases tree.root.symm.trans held
    rw [if_neg apart, tree.root]
  stands parent name there := by
    by_cases own : parent ++ [name] = path
    · exact absurd (if_pos own) there
    · rw [if_neg own] at there
      have above := tree.stands parent name there
      rw [if_neg, above]
      rintro rfl
      cases above.symm.trans held

def makeDirectories (tree : FileTree β) (path : Path) : FileTree β where
  node other := if other <+: path then some .directory else tree.node other
  root := if_pos List.nil_prefix
  stands parent name there := by
    by_cases above : parent <+: path
    · exact if_pos above
    · have apart : ¬parent ++ [name] <+: path := fun inside =>
        above ((List.prefix_append parent [name]).trans inside)
      rw [if_neg apart] at there
      rw [if_neg above]
      exact tree.stands parent name there

/-- What a path's file holds. -/
def content? (tree : FileTree β) (path : Path) : Option β :=
  match tree.node path with
  | some (.file content) => some content
  | _ => none

/-- `path.read_bytes()`. -/
def read (tree : FileTree β) (path : Path) : Except FileError β :=
  match tree.node path with
  | some (.file content) => .ok content
  | some .directory => .error .isADirectory
  | none => .error .notFound

section
variable [DecidableEq β]

/-- `path.mkdir(parents=True, exist_ok=True)`. -/
def mkdir (tree : FileTree β) (path : Path) : Except FileError (FileTree β) :=
  if ∀ front ∈ path.inits, tree.node front = none ∨ tree.node front = some .directory then
    .ok (tree.makeDirectories path)
  else .error .notADirectory

/-- A file is opened for a name nothing has yet. -/
def create (tree : FileTree β) (parent : Path) (name : String) (content : β) :
    Except FileError (FileTree β) :=
  if held : tree.node parent = some .directory then
    if free : tree.node (parent ++ [name]) = none then
      .ok (tree.putFile parent name content held (by simp [free]))
    else .error .alreadyThere
  else .error .notFound

/-- A file that is open is written. -/
def overwrite (tree : FileTree β) (parent : Path) (name : String) (content : β) :
    Except FileError (FileTree β) :=
  if held : tree.node parent = some .directory then
    if free : tree.node (parent ++ [name]) = some .directory then .error .isADirectory
    else .ok (tree.putFile parent name content held free)
  else .error .notFound

/-- `path.unlink()`. -/
def unlink (tree : FileTree β) (path : Path) : Except FileError (FileTree β) :=
  match held : tree.node path with
  | some (.file _) => .ok (tree.removeFile path held)
  | some .directory => .error .isADirectory
  | none => .error .notFound

/-- `os.replace(source, target)`: the file moves in one step, over whatever file was there. -/
def replace (tree : FileTree β) (source parent : Path) (name : String) :
    Except FileError (FileTree β) := do
  let content ← tree.read source
  if source = parent ++ [name] then pure tree
  else do
    let tree ← tree.overwrite parent name content
    tree.unlink source

end

/-! ## What an operation does to the files -/

variable {tree after : FileTree β} {path source parent : Path} {name : String} {content : β}

theorem content?_eq_some :
    tree.content? path = some content ↔ tree.node path = some (.file content) := by
  unfold content?
  split <;> simp_all

theorem read_ok : tree.read path = .ok content ↔ tree.content? path = some content := by
  rw [content?_eq_some]
  unfold read
  split <;> simp_all

theorem read_toOption : (tree.read path).toOption = tree.content? path := by
  unfold read content?
  split <;> simp_all [Except.toOption]

theorem content?_of_directory (there : tree.node path = some .directory) :
    tree.content? path = none := by
  simp [content?, there]

theorem content?_of_none (gone : tree.node path = none) : tree.content? path = none := by
  simp [content?, gone]

/-- Where one path's node became a file, one path's content did. -/
theorem content?_of_nodes (nodes : ∀ other, after.node other =
      if other = path then some (.file content) else tree.node other) (other : Path) :
    after.content? other = if other = path then some content else tree.content? other := by
  unfold content?
  rw [nodes]
  by_cases own : other = path <;> simp [own]

theorem content?_putFile (held : tree.node parent = some .directory)
    (free : tree.node (parent ++ [name]) ≠ some .directory) (other : Path) :
    (tree.putFile parent name content held free).content? other =
      if other = parent ++ [name] then some content else tree.content? other := by
  unfold content? putFile
  by_cases own : other = parent ++ [name] <;> simp [own]

section
variable [DecidableEq β]

theorem mkdir_ok (made : tree.mkdir path = .ok after) :
    (∀ other, after.node other = if other <+: path then some .directory else tree.node other) ∧
      ∀ front, front <+: path → tree.node front = none ∨ tree.node front = some .directory := by
  unfold mkdir at made
  split at made
  · next clear =>
    cases made
    exact ⟨fun _ => rfl, fun front above => clear front ((List.mem_inits ..).mpr above)⟩
  · cases made

/-- Making directories makes and loses no file. -/
theorem mkdir_content (made : tree.mkdir path = .ok after) (other : Path) :
    after.content? other = tree.content? other := by
  obtain ⟨nodes, clear⟩ := mkdir_ok made
  by_cases above : other <+: path
  · have now : after.node other = some .directory := by rw [nodes, if_pos above]
    rw [content?_of_directory now]
    rcases clear other above with absent | there
    · exact (content?_of_none absent).symm
    · exact (content?_of_directory there).symm
  · simp only [content?, nodes, if_neg above]

theorem create_ok (made : tree.create parent name content = .ok after) :
    tree.node parent = some .directory ∧ tree.node (parent ++ [name]) = none ∧
      ∀ other, after.node other =
        if other = parent ++ [name] then some (.file content) else tree.node other := by
  unfold create at made
  split at made
  · next held =>
    split at made
    · next free =>
      cases made
      exact ⟨held, free, fun _ => rfl⟩
    · cases made
  · cases made

theorem overwrite_ok (made : tree.overwrite parent name content = .ok after) :
    tree.node parent = some .directory ∧ tree.node (parent ++ [name]) ≠ some .directory ∧
      ∀ other, after.node other =
        if other = parent ++ [name] then some (.file content) else tree.node other := by
  unfold overwrite at made
  split at made
  · next held =>
    split at made
    · cases made
    · next free =>
      cases made
      exact ⟨held, free, fun _ => rfl⟩
  · cases made

omit [DecidableEq β] in
theorem unlink_ok (made : tree.unlink path = .ok after) :
    (∃ content, tree.content? path = some content) ∧
      ∀ other, after.node other = if other = path then none else tree.node other := by
  unfold unlink at made
  split at made
  · next content held =>
    cases made
    exact ⟨⟨content, content?_eq_some.mpr held⟩, fun _ => rfl⟩
  · cases made
  · cases made

omit [DecidableEq β] in
theorem unlink_content (made : tree.unlink path = .ok after) (other : Path) :
    after.content? other = if other = path then none else tree.content? other := by
  obtain ⟨-, nodes⟩ := unlink_ok made
  by_cases own : other = path <;> simp [content?, nodes, own]

omit [DecidableEq β] in
theorem unlink_error (refused : tree.unlink path = .error raised) : tree.content? path = none := by
  unfold unlink at refused
  split at refused
  · cases refused
  · next there => exact content?_of_directory there
  · next gone => exact content?_of_none gone

theorem replace_ok (apart : source ≠ parent ++ [name])
    (made : tree.replace source parent name = .ok after) :
    ∃ content, tree.content? source = some content ∧ tree.node parent = some .directory ∧
      ∀ other, after.node other = if other = source then none
        else if other = parent ++ [name] then some (.file content) else tree.node other := by
  unfold replace at made
  cases reading : tree.read source with
  | error raised =>
    rw [reading] at made
    cases made
  | ok content =>
    rw [reading] at made
    change (if source = parent ++ [name] then pure tree
      else tree.overwrite parent name content >>= fun tree => tree.unlink source) = .ok after at made
    rw [if_neg apart] at made
    cases writing : tree.overwrite parent name content with
    | error raised =>
      rw [writing] at made
      cases made
    | ok between =>
      rw [writing] at made
      obtain ⟨held, -, written⟩ := overwrite_ok writing
      obtain ⟨-, unlinked⟩ := unlink_ok made
      refine ⟨content, read_ok.mp reading, held, fun other => ?_⟩
      rw [unlinked other, written other]

theorem replace_content (apart : source ≠ parent ++ [name])
    (made : tree.replace source parent name = .ok after) :
    ∃ content, tree.content? source = some content ∧
      ∀ other, after.content? other = if other = source then none
        else if other = parent ++ [name] then some content else tree.content? other := by
  obtain ⟨content, held, -, nodes⟩ := replace_ok apart made
  refine ⟨content, held, fun other => ?_⟩
  by_cases moved : other = source
  · simp [content?, nodes, moved]
  · by_cases target : other = parent ++ [name]
    · simp [content?, nodes, target, apart.symm]
    · simp [content?, nodes, moved, target]

/-- Directories can be made where no file is in the way. -/
theorem mkdir_isOk
    (clear : ∀ front, front <+: path → tree.node front = none ∨ tree.node front = some .directory) :
    ∃ after, tree.mkdir path = .ok after := by
  unfold mkdir
  rw [if_pos fun front above => clear front ((List.mem_inits ..).mp above)]
  exact ⟨_, rfl⟩

theorem create_isOk (there : tree.node parent = some .directory)
    (free : tree.node (parent ++ [name]) = none)
    (content : β) : ∃ after, tree.create parent name content = .ok after := by
  unfold create
  rw [dif_pos there, dif_pos free]
  exact ⟨_, rfl⟩

theorem overwrite_isOk (there : tree.node parent = some .directory)
    (free : tree.node (parent ++ [name]) ≠ some .directory) (content : β) :
    ∃ after, tree.overwrite parent name content = .ok after := by
  unfold overwrite
  rw [dif_pos there, dif_neg free]
  exact ⟨_, rfl⟩

/-- Moving a file over a file, or to a free name of a directory, succeeds. -/
theorem replace_isOk (held : tree.content? source = some content)
    (there : tree.node parent = some .directory)
    (free : tree.node (parent ++ [name]) ≠ some .directory) :
    ∃ after, tree.replace source parent name = .ok after := by
  unfold replace
  rw [read_ok.mpr held]
  change ∃ after, (if source = parent ++ [name] then pure tree
    else tree.overwrite parent name content >>= fun tree => tree.unlink source) = .ok after
  by_cases same : source = parent ++ [name]
  · exact ⟨tree, if_pos same⟩
  · rw [if_neg same]
    unfold overwrite
    rw [dif_pos there, dif_neg free]
    have kept : (tree.putFile parent name content there free).node source = some (.file content) := by
      rw [← content?_eq_some, content?_putFile, if_neg same, held]
    change ∃ after, (tree.putFile parent name content there free).unlink source = .ok after
    unfold unlink
    split
    · exact ⟨_, rfl⟩
    · next other => cases kept.symm.trans other
    · next other => cases kept.symm.trans other

end

end FileTree
end Files
