import GaonOne.ListingImages
import GaonOne.MediaFiles

/-! Uploads under the program's own keys. Every key has four parts, so objects stand at one depth and
no directory is ever in an object's way: a call that runs to its end without an exception has put its
object, and has left no temporary file. -/
namespace GaonOne.LocalObjectStorage
open Files Transitions

/-! ## The keys of the program -/

/-- A part of a key that neither splits nor looks like anything but a name. -/
structure Clean (part : String) : Prop where
  filled : part ≠ ""
  front : part.toList.head? ≠ some '.'
  letters : ∀ char ∈ part.toList, char ∉ ['/', '\\', '?', '#', '%', ':']

theorem splitKey_four (a b c d : String) (apart : ∀ part ∈ [a, b, c, d], '/' ∉ part.toList) :
    splitKey (a ++ "/" ++ b ++ "/" ++ c ++ "/" ++ d) = [a, b, c, d] := by
  have joined : (a ++ "/" ++ b ++ "/" ++ c ++ "/" ++ d).toList =
      ['/'].intercalate ([a, b, c, d].map String.toList) := by
    simp [List.intercalate]
  unfold splitKey
  rw [joined, List.splitOn_intercalate]
  · simp
  · intro text member
    obtain ⟨part, inside, rfl⟩ := List.mem_map.mp member
    exact apart part inside
  · simp

theorem Clean.plain (clean : Clean part) : ¬".media-".toList <+: part.toList := by
  rintro ⟨rest, same⟩
  apply clean.front
  rw [← same]
  rfl

theorem Clean.ordinary (clean : Clean part) : part ∉ ["", ".", ".."] := by
  intro member
  rcases List.mem_cons.mp member with rfl | member
  · exact clean.filled rfl
  · rcases List.mem_cons.mp member with rfl | member
    · exact clean.front rfl
    · rw [List.mem_singleton.mp member] at clean
      exact clean.front rfl

/-- What the program's keys have in common. -/
structure Routine (key : String) : Prop where
  parts : (splitKey key).length = 4
  plain : Plain key
  accepted : ∀ root, safePath root key = .ok (root ++ splitKey key)

theorem routine_of_clean (a b c d : String) (clean : ∀ part ∈ [a, b, c, d], Clean part) :
    Routine (a ++ "/" ++ b ++ "/" ++ c ++ "/" ++ d) := by
  have parts := splitKey_four a b c d fun part member slash =>
    (clean part member).letters '/' slash (by decide)
  constructor
  · rw [parts]
    rfl
  · intro part member
    rw [parts] at member
    exact (clean part member).plain
  · intro root
    -- no part has a forbidden letter, and what joins them is none
    have letters : ∀ char ∈ (a ++ "/" ++ b ++ "/" ++ c ++ "/" ++ d).toList,
        char ∉ ['\\', '?', '#', '%', ':'] := by
      intro char member
      have inside : (∃ part ∈ [a, b, c, d], char ∈ part.toList) ∨ char = '/' := by
        simp only [String.toList_append, List.mem_append] at member
        have slash : "/".toList = ['/'] := rfl
        simp only [slash, List.mem_singleton] at member
        simp only [List.mem_cons, List.not_mem_nil, or_false, exists_eq_or_imp, exists_eq_left]
        tauto
      rcases inside with ⟨part, there, held⟩ | rfl
      · intro bad
        exact (clean part there).letters char held (List.mem_cons_of_mem _ bad)
      · decide
    have opening : ∃ first rest, a.toList = first :: rest ∧ first ≠ '/' := by
      cases text : a.toList with
      | nil => exact absurd (String.toList_inj.mp text) (clean a (by simp)).filled
      | cons first rest =>
        refine ⟨first, rest, rfl, ?_⟩
        rintro rfl
        exact (clean a (by simp)).letters '/' (by rw [text]; exact List.mem_cons_self) (by decide)
    obtain ⟨first, rest, text, apart⟩ := opening
    unfold safePath
    rw [if_neg, if_neg]
    · rintro ⟨-, outside⟩
      exact outside (List.prefix_append ..)
    · rintro (empty | slash | back | dots | marks)
      · have shape := congrArg String.toList empty
        simp [text] at shape
      · simp [text] at slash
        exact apart slash
      · exact letters '\\' back (by decide)
      · obtain ⟨part, member, dotted⟩ := List.any_eq_true.mp dots
        rw [parts] at member
        exact (clean part member).ordinary (of_decide_eq_true dotted)
      · obtain ⟨char, mark, member⟩ := List.any_eq_true.mp marks
        exact letters char (of_decide_eq_true member) (List.mem_cons_of_mem _ mark)

/-- The text has none of the letters that would not pass. -/
def lettersPass (text : String) : Bool :=
  text.toList.all fun char => decide (char ∉ ['/', '\\', '?', '#', '%', ':'])

theorem letters_of_pass (pass : lettersPass text = true) :
    ∀ char ∈ text.toList, char ∉ ['/', '\\', '?', '#', '%', ':'] :=
  fun char member => of_decide_eq_true (List.all_eq_true.mp pass char member)

theorem clean_of_absent (filled : part ≠ "")
    (absent : ∀ char ∈ ['/', '\\', '?', '#', '%', ':', '.'], char ∉ part.toList) : Clean part where
  filled := filled
  front there := absent '.' (by decide) (List.mem_of_head? there)
  letters char held bad := absent char (List.mem_append_left ['.'] bad) held

theorem punctuation_outside :
    ∀ char ∈ ['/', '\\', '?', '#', '%', ':', '.'], char ≠ '-' ∧ ∀ n < 16, Text.hexDigit n ≠ char := by
  intro char bad
  have all : ['/', '\\', '?', '#', '%', ':', '.'].all
      (fun char : Char => decide (char ≠ '-' ∧ ∀ n : Nat, n < 16 → Text.hexDigit n ≠ char)) = true := by
    decide
  exact of_decide_eq_true (List.all_eq_true.mp all char bad)

theorem clean_hexDigits (n : Nat) : Clean (String.ofList (Text.hexDigits 32 n)) := by
  apply clean_of_absent
  · intro empty
    have long := congrArg String.length empty
    rw [String.length_ofList, Text.length_hexDigits] at long
    cases long
  · intro char bad
    rw [String.toList_ofList]
    exact Text.hexDigit_ne char (punctuation_outside char bad).2

theorem clean_uuidText (id : UUID) : Clean (uuidText id) := by
  apply clean_of_absent
  · intro empty
    have long := length_uuidText id
    rw [empty] at long
    cases long
  · intro char bad
    unfold uuidText
    rw [String.toList_ofList]
    obtain ⟨hyphen, digits⟩ := punctuation_outside char bad
    exact Text.not_mem_grouped _ hyphen (Text.hexDigit_ne char digits)

theorem Clean.append (clean : Clean part)
    (pass : lettersPass ending = true) : Clean (part ++ ending) := by
  have opening : part.toList ≠ [] := fun empty => clean.filled (String.toList_inj.mp empty)
  constructor
  · intro empty
    have shape := congrArg String.toList empty
    rw [String.toList_append] at shape
    exact opening (List.append_eq_nil_iff.mp shape).1
  · rw [String.toList_append, List.head?_append_of_ne_nil _ opening]
    exact clean.front
  · intro char member
    rw [String.toList_append] at member
    rcases List.mem_append.mp member with old | new
    · exact clean.letters char old
    · exact letters_of_pass pass char new

theorem routine_quarantineKey (listingId assetId : UUID) :
    Routine (quarantineKey listingId assetId) := by
  have shape : quarantineKey listingId assetId = "quarantine" ++ "/" ++ "listings" ++ "/" ++
      uuidText listingId ++ "/" ++ String.ofList (Text.hexDigits 32 assetId.toNat) := rfl
  rw [shape]
  apply routine_of_clean
  simp only [List.forall_mem_cons, List.not_mem_nil, false_implies, implies_true, and_true]
  exact ⟨⟨by decide, by decide, letters_of_pass (by decide)⟩,
    ⟨by decide, by decide, letters_of_pass (by decide)⟩, clean_uuidText _,
    clean_hexDigits _⟩

theorem routine_derivativeKey (asset : ProductMediaAsset) : Routine (derivativeKey asset) := by
  have shape : derivativeKey asset = "public" ++ "/" ++ "listings" ++ "/" ++
      uuidText asset.storeProductId ++ "/" ++ (uuidText asset.id ++ ".webp") := by
    unfold derivativeKey
    rw [← String.append_assoc]
    rfl
  rw [shape]
  apply routine_of_clean
  simp only [List.forall_mem_cons, List.not_mem_nil, false_implies, implies_true, and_true]
  exact ⟨⟨by decide, by decide, letters_of_pass (by decide)⟩,
    ⟨by decide, by decide, letters_of_pass (by decide)⟩, clean_uuidText _,
    (clean_uuidText _).append (by decide)⟩

/-! ## Where files and directories stand -/

/-- Files are seven names deep, directories above them, and temporary names were drawn. -/
structure Tidy (tree : FileTree Bytes) (drawn : List String) : Prop where
  files : ∀ path content, tree.node path = some (.file content) → path.length = 7
  directories : ∀ path, tree.node path = some .directory → path.length ≤ 6
  temporaries : ∀ parent suffix, parent.length = 6 →
    tree.node (parent ++ [temporaryName suffix]) ≠ none → suffix ∈ drawn

theorem tidy_empty : Tidy .empty [] where
  files path content there := by
    simp only [FileTree.empty] at there
    split at there <;> cases there
  directories path there := by
    simp only [FileTree.empty] at there
    split at there
    · next root =>
      rw [root]
      decide
    · cases there
  temporaries parent suffix _ there := absurd (by simp [FileTree.empty]) there

/-- What a step may make of a path. -/
theorem Tidy.grow (tidy : Tidy tree drawn) (grows : ∀ suffix ∈ drawn, suffix ∈ later)
    (paths : ∀ path, after.node path = none ∨ after.node path = tree.node path ∨
      ((∃ content, after.node path = some (.file content)) ∧ path.length = 7 ∧
        ∀ parent suffix, path = parent ++ [temporaryName suffix] → suffix ∈ later) ∨
      (after.node path = some .directory ∧ path.length ≤ 6)) : Tidy after later := by
  constructor
  · intro path content there
    rcases paths path with gone | same | ⟨-, long, -⟩ | ⟨made, -⟩
    · cases gone.symm.trans there
    · exact tidy.files path content (same ▸ there)
    · exact long
    · cases made.symm.trans there
  · intro path there
    rcases paths path with gone | same | ⟨⟨content, put⟩, -⟩ | ⟨-, short⟩
    · cases gone.symm.trans there
    · exact tidy.directories path (same ▸ there)
    · cases put.symm.trans there
    · exact short
  · intro parent suffix deep there
    rcases paths (parent ++ [temporaryName suffix]) with gone | same | ⟨-, -, known⟩ | ⟨-, short⟩
    · exact absurd gone there
    · rw [same] at there
      exact grows suffix (tidy.temporaries parent suffix deep there)
    · exact known parent suffix rfl
    · simp [deep] at short

/-- The names of a call's temporary file are its own. -/
theorem temporary_known {drawn : List String} (there : suffix ∈ drawn) (parent : Path) :
    ∀ elsewhere other, parent ++ [temporaryName suffix] = elsewhere ++ [temporaryName other] →
      other ∈ drawn := by
  intro elsewhere other same
  by_cases apart : suffix = other
  · exact apart ▸ there
  · exact absurd same (temporaries_apart apart parent elsewhere)

/-! ## Runs under the program's keys -/

def ProgramKey : Area → String → Prop
  | .quarantine, key => ∃ listingId assetId, key = quarantineKey listingId assetId
  | .derivatives, key => ∃ asset, key = derivativeKey asset

theorem ProgramKey.routine (key : ProgramKey area text) : Routine text := by
  cases area with
  | quarantine =>
    obtain ⟨listingId, assetId, rfl⟩ := key
    exact routine_quarantineKey listingId assetId
  | derivatives =>
    obtain ⟨asset, rfl⟩ := key
    exact routine_derivativeKey asset

/-- The program puts and deletes under its own keys, and temporary names are drawn once. -/
def Programmed (storage : Storage) : Action → Prop
  | .put area key _ | .delete area key => ProgramKey area key
  | .openTemporary _ suffix => suffix ∉ storage.drawn
  | _ => True

theorem Programmed.admitted (programmed : Programmed storage action) : Admitted storage action := by
  cases action with
  | put area key content => exact programmed.routine.plain
  | delete area key => exact programmed.routine.plain
  | openTemporary index suffix => exact programmed
  | _ => exact trivial

structure Kept (storage : Storage) (objects : FakeObjectStorage) : Prop where
  mirrors : Mirrors storage objects
  tidy : Tidy storage.tree storage.drawn
  parts : ∀ writer ∈ storage.writers, (splitKey writer.key).length = 4
  stands : ∀ writer ∈ storage.writers, storage.tree.node writer.parent = some .directory

theorem Kept.deep {storage : Storage} {index : Nat} {writer : Writer} (kept : Kept storage objects)
    (own : storage.writers[index]? = some writer) : writer.parent.length = 6 := by
  have member : writer ∈ storage.writers := List.mem_of_getElem? own
  have place := congrArg List.length (safePath_ok (kept.mirrors.sound.placed writer member).1)
  have four := kept.parts writer member
  have three : writer.area.root.length = 3 := by cases writer.area <;> rfl
  simp only [List.length_append, List.length_singleton] at place
  omega

/-- The directory of an object of four parts is six deep. -/
theorem place_deep (area : Area) (accepted : safePath area.root key = .ok path)
    (parts : (splitKey key).length = 4) : path.length = 7 ∧ path.dropLast.length = 6 := by
  have three : area.root.length = 3 := by cases area <;> rfl
  have whole := congrArg List.length (safePath_ok accepted)
  rw [List.length_append, three, parts] at whole
  exact ⟨whole, by rw [List.length_dropLast, whole]⟩

/-- What one step may make of a path. -/
inductive NodeChange (storage : Storage) (action : Action) (path : Path) : Prop where
  | same (kept : (storage.step action).tree.node path = storage.tree.node path)
  | removed (held : storage.tree.content? path ≠ none)
      (gone : (storage.step action).tree.node path = none)
  | temporary (index : Nat) (writer : Writer) (suffix : String) (content : Bytes)
      (own : storage.writers[index]? = some writer)
      (place : path = writer.parent ++ [temporaryName suffix])
      (drawn : suffix ∈ (storage.step action).drawn)
      (put : (storage.step action).tree.node path = some (.file content))
  | object (index : Nat) (writer : Writer) (content : Bytes)
      (own : storage.writers[index]? = some writer)
      (place : path = writer.parent ++ [writer.name])
      (put : (storage.step action).tree.node path = some (.file content))
  | directory (area : Area) (key : String) (content : Bytes) (destination : Path)
      (asked : action = .put area key content) (accepted : safePath area.root key = .ok destination)
      (above : path <+: destination.dropLast)
      (made : (storage.step action).tree.node path = some .directory)

theorem NodeChange.of_unlink {storage : Storage} (made : storage.tree.unlink gone = .ok after)
    (becomes : (storage.step action).tree = after) (path : Path) : NodeChange storage action path := by
  obtain ⟨⟨content, held⟩, nodes⟩ := FileTree.unlink_ok made
  by_cases own : path = gone
  · exact .removed (by simp [own, held]) (by rw [becomes, nodes, if_pos own])
  · exact .same (by rw [becomes, nodes, if_neg own])

theorem node_writeUpTo {storage : Storage} (sound : Sound storage)
    (acts : storage.step action = storage.writeUpTo index count) (path : Path) :
    NodeChange storage action path := by
  have changes := acts
  unfold Storage.writeUpTo at changes
  split at changes
  · next writer own =>
    split at changes
    · next suffix writing =>
      split at changes
      · exact .same (by rw [changes])
      · next tree made =>
        obtain ⟨-, -, nodes⟩ := FileTree.overwrite_ok made
        have drawn := sound.names writer (List.mem_of_getElem? own) suffix (by rw [writing]; rfl)
        by_cases target : path = writer.parent ++ [temporaryName suffix]
        · exact .temporary index writer suffix _ own target (by rw [changes]; exact drawn)
            (by rw [changes]; exact (nodes path).trans (if_pos target))
        · exact .same (by rw [changes]; exact (nodes path).trans (if_neg target))
    · exact .same (by rw [changes])
  · exact .same (by rw [changes])

theorem node_replace {storage : Storage} (sound : Sound storage) (index : Nat) (path : Path) :
    NodeChange storage (.replace index) path := by
  have changes : storage.step (.replace index) = storage.replace index := rfl
  unfold Storage.replace at changes
  split at changes
  · next writer own =>
    split at changes
    · next suffix written =>
      split at changes
      · exact .same (by rw [changes]; rfl)
      · next tree made =>
        obtain ⟨placed, plain⟩ := sound.placed writer (List.mem_of_getElem? own)
        have apart := place_ne_temporary placed plain writer.parent suffix
        obtain ⟨content, held, -, nodes⟩ := FileTree.replace_ok apart.symm made
        have becomes : (storage.step (.replace index)).tree.node path = _ :=
          (by rw [changes] : _ = tree.node path).trans (nodes path)
        by_cases moved : path = writer.parent ++ [temporaryName suffix]
        · exact .removed (by simp [moved, held]) (becomes.trans (if_pos moved))
        · by_cases target : path = writer.parent ++ [writer.name]
          · exact .object index writer content own target
              (becomes.trans ((if_neg moved).trans (if_pos target)))
          · exact .same (becomes.trans ((if_neg moved).trans (if_neg target)))
    · exact .same (by rw [changes])
  · exact .same (by rw [changes])

theorem node_step {storage : Storage} (sound : Sound storage) (action : Action) (path : Path) :
    NodeChange storage action path := by
  cases action with
  | put area key content =>
    have changes : storage.step (.put area key content) = storage.put area key content := rfl
    unfold Storage.put at changes
    split at changes
    · exact .same (by rw [changes])
    · next destination accepted =>
      split at changes
      · exact .same (by rw [changes])
      · next tree made =>
        obtain ⟨nodes, -⟩ := FileTree.mkdir_ok made
        by_cases above : path <+: destination.dropLast
        · exact .directory area key content destination rfl accepted above
            (by rw [changes]; exact (nodes path).trans (if_pos above))
        · exact .same (by rw [changes]; exact (nodes path).trans (if_neg above))
  | openTemporary index suffix =>
    have changes : storage.step (.openTemporary index suffix) =
      storage.openTemporary index suffix := rfl
    unfold Storage.openTemporary at changes
    split at changes
    · next writer own =>
      split at changes
      · split at changes
        · exact .same (by rw [changes])
        · next tree made =>
          obtain ⟨-, -, nodes⟩ := FileTree.create_ok made
          by_cases target : path = writer.parent ++ [temporaryName suffix]
          · exact .temporary index writer suffix [] own target
              (by rw [changes]; exact List.mem_cons_self)
              (by rw [changes]; exact (nodes path).trans (if_pos target))
          · exact .same (by rw [changes]; exact (nodes path).trans (if_neg target))
      · exact .same (by rw [changes])
    · exact .same (by rw [changes])
  | write index count => exact node_writeUpTo sound rfl path
  | flush index => exact node_writeUpTo sound rfl path
  | fail index =>
    apply NodeChange.same
    simp only [Storage.step, Storage.fail]
    split
    · split <;> rfl
    · rfl
  | replace index => exact node_replace sound index path
  | clean index =>
    have changes : storage.step (.clean index) = storage.clean index := rfl
    unfold Storage.clean at changes
    split at changes
    · split at changes
      · split at changes
        · exact .same (by rw [changes]; rfl)
        · next tree made => exact .of_unlink made (by rw [changes]) path
      · exact .same (by rw [changes])
    · exact .same (by rw [changes])
  | crash index =>
    apply NodeChange.same
    simp only [Storage.step, Storage.crash]
    split <;> rfl
  | delete area key =>
    have changes : storage.step (.delete area key) = storage.delete area key := rfl
    unfold Storage.delete at changes
    split at changes
    · exact .same (by rw [changes])
    · split at changes
      · exact .same (by rw [changes])
      · next tree made => exact .of_unlink made (by rw [changes]) path

/-- Names that were drawn stay drawn. -/
theorem drawn_step {storage : Storage} (action : Action) (there : suffix ∈ storage.drawn) :
    suffix ∈ (storage.step action).drawn := by
  cases action <;>
    simp only [Storage.step, Storage.put, Storage.openTemporary, Storage.writeUpTo, Storage.fail,
      Storage.replace, Storage.clean, Storage.crash, Storage.delete] <;>
    (repeat' split) <;> first | exact there | exact List.mem_cons_of_mem _ there

theorem Kept.tidy_step {storage : Storage} (kept : Kept storage objects)
    (programmed : Programmed storage action) :
    Tidy (storage.step action).tree (storage.step action).drawn := by
  apply kept.tidy.grow fun _ there => drawn_step action there
  intro path
  cases node_step kept.mirrors.sound action path with
  | same unchanged => exact .inr (.inl unchanged)
  | removed _ gone => exact .inl gone
  | temporary index writer suffix content own place drawn put =>
    refine .inr (.inr (.inl ⟨⟨content, put⟩, ?_, ?_⟩))
    · simp [place, kept.deep own]
    · rw [place]
      exact temporary_known drawn writer.parent
  | object index writer content own place put =>
    obtain ⟨placed, plain⟩ := kept.mirrors.sound.placed writer (List.mem_of_getElem? own)
    refine .inr (.inr (.inl ⟨⟨content, put⟩, ?_, ?_⟩))
    · simp [place, kept.deep own]
    · intro parent suffix same
      exact absurd (place.symm.trans same) (place_ne_temporary placed plain parent suffix)
  | directory area key content destination asked accepted above made =>
    subst asked
    have deep := (place_deep area accepted (ProgramKey.routine programmed).parts).2
    exact .inr (.inr (.inr ⟨made, above.length_le.trans deep.le⟩))

/-- Directories stay: what a step writes or removes is deeper than any of them. -/
theorem Kept.directory_step {storage : Storage} (kept : Kept storage objects)
    (there : storage.tree.node path = some .directory) :
    (storage.step action).tree.node path = some .directory := by
  have short := kept.tidy.directories path there
  cases node_step kept.mirrors.sound action path with
  | same unchanged => exact unchanged.trans there
  | removed held => exact absurd (FileTree.content?_of_directory there) held
  | temporary index writer suffix content own place =>
    have deep := kept.deep own
    simp only [place, List.length_append, List.length_singleton] at short
    omega
  | object index writer content own place =>
    have deep := kept.deep own
    simp only [place, List.length_append, List.length_singleton] at short
    omega
  | directory area key content destination asked accepted above made => exact made

/-- The directory of a call depends on nothing but the call. -/
theorem parent_of_call {before after : Storage} (sound : Sound before) (later : Sound after)
    (old : first ∈ before.writers) (new : second ∈ after.writers) (same : second.call = first.call) :
    second.parent = first.parent := by
  obtain ⟨area, key, -⟩ := Action.put.inj same
  have place := (later.placed second new).1
  rw [area, key, (sound.placed first old).1] at place
  exact (List.append_inj' (Except.ok.inj place) rfl).1.symm

theorem Kept.stands_step {storage : Storage} (kept : Kept storage objects)
    (later : Sound (storage.step action)) (there : writer ∈ (storage.step action).writers) :
    (storage.step action).tree.node writer.parent = some .directory := by
  rcases call_step there with ⟨old, inside, same⟩ | new
  · rw [parent_of_call kept.mirrors.sound later inside there same]
    exact kept.directory_step (kept.stands old inside)
  · subst new
    have standing : ∀ other ∈ storage.writers,
        (storage.step writer.call).tree.node other.parent = some .directory :=
      fun other inside => kept.directory_step (kept.stands other inside)
    simp only [Writer.call, Storage.step, Storage.put] at there standing ⊢
    split at there
    · next refused => simpa only [refused] using standing writer there
    · next destination accepted =>
      simp only [accepted] at standing ⊢
      split at there
      · next refused => simpa only [refused] using standing writer there
      · next tree made =>
        simp only [made] at standing ⊢
        rcases List.mem_append.mp there with old | new
        · exact standing writer old
        · obtain ⟨nodes, -⟩ := FileTree.mkdir_ok made
          have parent := congrArg Writer.parent (List.mem_singleton.mp new)
          rw [parent, nodes, if_pos List.prefix_rfl]

theorem Kept.step {storage : Storage} (kept : Kept storage objects)
    (programmed : Programmed storage action) :
    Kept (storage.step action) (told storage objects action) where
  mirrors := kept.mirrors.step programmed.admitted
  tidy := kept.tidy_step programmed
  parts writer there := by
    rcases call_step there with ⟨old, inside, same⟩ | new
    · have key := (Action.put.inj same).2.1
      rw [key]
      exact kept.parts old inside
    · subst new
      exact (ProgramKey.routine programmed).parts
  stands _ there := kept.stands_step (kept.mirrors.step programmed.admitted).sound there

theorem Kept.run {storage : Storage} (kept : Kept storage objects) (actions : List Action)
    (programmed : system.RunWhile Programmed storage actions) :
    Kept (system.run storage actions) (objectsAfter storage objects actions) := by
  induction actions generalizing storage objects with
  | nil => exact kept
  | cons action rest ih => exact ih (kept.step programmed.1) programmed.2

theorem kept_empty : Kept .empty .empty where
  mirrors := mirrors_empty
  tidy := tidy_empty
  parts _ there := absurd there List.not_mem_nil
  stands _ there := absurd there List.not_mem_nil

/-! ## No step of a call can fail -/

theorem Kept.put_starts {storage : Storage} (kept : Kept storage objects) (key : ProgramKey area text)
    (content : Bytes) :
    ∃ writer, (storage.put area text content).writers = storage.writers ++ [writer] ∧
      writer.call = .put area text content ∧ writer.phase = .prepared := by
  have accepted := key.routine.accepted area.root
  have deep := (place_deep area accepted key.routine.parts).2
  -- the files are deeper than any directory of an object
  have clear : ∀ front, front <+: (area.root ++ splitKey text).dropLast →
      storage.tree.node front = none ∨ storage.tree.node front = some .directory := by
    intro front above
    have short := above.length_le
    cases there : storage.tree.node front with
    | none => exact .inl rfl
    | some node =>
      cases node with
      | directory => exact .inr rfl
      | file content =>
        have long := kept.tidy.files front content there
        omega
  obtain ⟨tree, made⟩ := FileTree.mkdir_isOk clear
  simp only [Storage.put, accepted, made]
  exact ⟨_, rfl, rfl, rfl⟩

section
variable {storage : Storage} {objects : FakeObjectStorage} {index : Nat} {writer : Writer}
  {suffix : String}

theorem Kept.temporary_free (kept : Kept storage objects) (own : storage.writers[index]? = some writer)
    (name : String) : storage.tree.node (writer.parent ++ [name]) ≠ some .directory := by
  intro there
  have short := kept.tidy.directories _ there
  have deep := kept.deep own
  simp only [List.length_append, List.length_singleton] at short
  omega

theorem Kept.opens (kept : Kept storage objects) (own : storage.writers[index]? = some writer)
    (prepared : writer.phase = .prepared) (fresh : suffix ∉ storage.drawn) :
    (storage.openTemporary index suffix).writers[index]? =
      some { writer with phase := .writing suffix } := by
  have there := kept.stands writer (List.mem_of_getElem? own)
  have free : storage.tree.node (writer.parent ++ [temporaryName suffix]) = none := by
    by_contra taken
    exact fresh (kept.tidy.temporaries writer.parent suffix (kept.deep own) taken)
  obtain ⟨tree, made⟩ := FileTree.create_isOk there free []
  simp only [Storage.openTemporary, own, prepared, made, if_true]
  rw [writers_setPhase own, if_pos rfl]

theorem Kept.flushes (kept : Kept storage objects) (own : storage.writers[index]? = some writer)
    (writing : writer.phase = .writing suffix) :
    (storage.writeUpTo index none).writers[index]? = some { writer with phase := .written suffix } := by
  have there := kept.stands writer (List.mem_of_getElem? own)
  obtain ⟨tree, made⟩ := FileTree.overwrite_isOk there (kept.temporary_free own (temporaryName suffix))
    (writer.content.take ((none : Option Nat).getD writer.content.length))
  simp only [Storage.writeUpTo, own, writing, made, if_true]
  rw [writers_setPhase own, if_pos rfl]

theorem Kept.moves (kept : Kept storage objects) (own : storage.writers[index]? = some writer)
    (written : writer.phase = .written suffix) :
    told storage objects (.replace index) = objects.put writer.area writer.key writer.content ∧
      (storage.replace index).tree.node (writer.parent ++ [temporaryName suffix]) = none := by
  have member : writer ∈ storage.writers := List.mem_of_getElem? own
  obtain ⟨placed, plain⟩ := kept.mirrors.sound.placed writer member
  have whole := kept.mirrors.sound.whole writer member suffix written
  have object := place_ne_temporary placed plain writer.parent suffix
  obtain ⟨tree, moved⟩ := FileTree.replace_isOk whole (kept.stands writer member)
    (kept.temporary_free own writer.name)
  obtain ⟨content, -, -, nodes⟩ := FileTree.replace_ok object.symm moved
  constructor
  · simp only [told, own, written, moved]
  · simp only [Storage.replace, own, written, moved]
    rw [nodes, if_pos rfl]

end

/-- Whatever other calls, crashes and deletions did before, a call under one of the program's keys
starts, opens its temporary file under a fresh name and flushes it; its move then puts its object,
changes no other, and takes the temporary file away. -/
theorem uploads_arrive (actions : List Action)
    (programmed : system.RunWhile Programmed Storage.empty actions) :
    (∀ area key content, ProgramKey area key → ∃ writer,
      (system.run Storage.empty (actions ++ [.put area key content])).writers =
          (system.run Storage.empty actions).writers ++ [writer] ∧
        writer.call = .put area key content ∧ writer.phase = .prepared) ∧
      ∀ index writer, (system.run Storage.empty actions).writers[index]? = some writer → ∀ suffix,
        (writer.phase = .prepared → suffix ∉ (system.run Storage.empty actions).drawn →
          (system.run Storage.empty (actions ++ [.openTemporary index suffix])).writers[index]? =
            some { writer with phase := .writing suffix }) ∧
        (writer.phase = .writing suffix →
          (system.run Storage.empty (actions ++ [.flush index])).writers[index]? =
            some { writer with phase := .written suffix }) ∧
        (writer.phase = .written suffix →
          (system.run Storage.empty (actions ++ [.replace index])).read writer.area writer.key =
              some writer.content ∧
            (∀ area key, Plain key → ¬(area = writer.area ∧ key = writer.key) →
              (system.run Storage.empty (actions ++ [.replace index])).read area key =
                (system.run Storage.empty actions).read area key) ∧
            (system.run Storage.empty (actions ++ [.replace index])).tree.node
              (writer.parent ++ [temporaryName suffix]) = none) := by
  have kept := kept_empty.run actions programmed
  have next : ∀ action, system.run Storage.empty (actions ++ [action]) =
      (system.run Storage.empty actions).step action := fun action => by rw [System.run_append]; rfl
  refine ⟨fun area key content own => ?_, fun index writer own suffix => ⟨?_, ?_, ?_⟩⟩
  · rw [next]
    exact kept.put_starts own content
  · intro prepared fresh
    rw [next]
    exact kept.opens own prepared fresh
  · intro writing
    rw [next]
    exact kept.flushes own writing
  · intro written
    obtain ⟨put, gone⟩ := kept.moves own written
    have moves : Programmed (system.run Storage.empty actions) (.replace index) := trivial
    have after := (kept.step moves).mirrors.reads
    have plain := (kept.mirrors.sound.placed writer (List.mem_of_getElem? own)).2
    rw [next]
    refine ⟨?_, fun area key named apart => ?_, gone⟩
    · rw [after _ _ plain, put, FakeObjectStorage.put, if_pos ⟨rfl, rfl⟩]
    · rw [after _ _ named, put, FakeObjectStorage.put, if_neg apart]
      exact (kept.mirrors.reads area key named).symm

/-- A call that crashed over its temporary file, and a second one for the same image. -/
def crashedUpload : List Action :=
  [.put .quarantine (quarantineKey 7 8) [1, 2], .openTemporary 0 "x", .write 0 1, .crash 0,
    .put .quarantine (quarantineKey 7 8) [1, 2], .openTemporary 1 "y", .flush 1]

example : (system.run Storage.empty crashedUpload).writers.map (·.phase) = [.over_, .written "y"] := by
  decide

theorem uploads_arrive_crashed :
    ∃ writer, (system.run Storage.empty crashedUpload).writers[1]? = some writer ∧
      (system.run Storage.empty (crashedUpload ++ [.replace 1])).read writer.area writer.key =
        some writer.content :=
  ⟨_, rfl, (((uploads_arrive crashedUpload
    ⟨⟨7, 8, rfl⟩, by simp only [Programmed]; decide, trivial, trivial, ⟨7, 8, rfl⟩,
      by simp only [Programmed]; decide, trivial, trivial⟩).2 1 _ rfl "y").2.2 rfl).1⟩

end GaonOne.LocalObjectStorage
