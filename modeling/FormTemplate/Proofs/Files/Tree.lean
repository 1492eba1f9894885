import FormTemplate.Files.Tree
import FormTemplate.Proofs.Files.Folder

/-!
# A directory of a tree as a map

The directories of a tree act as maps from names to bytes, as long as names and paths keep the limits of a disk. A path
leads through directories only; writing and removing a file changes one entry of one directory and turns no directory
into anything else. So the path to the directory leads there as before.

* `FileTree.at?_append` : addresses are followed step by step;
* `FileTree.setAt_concat` : what a change of one entry does to the directories of a tree;
* `FileTree.follow_append`, `FileTree.follow_of_directories` : paths through directories;
* `FileTree.Fits`, `FileTree.find_join` : the names within the limits, and what their paths lead to;
* `FileTree.ShowsAt`, `FileTree.showsAt_setAt` : the map of a directory, and what a change of one file does to it;
* `FileTree.isFolder_files` : a directory of a tree acts as a map on these names.
-/

set_option autoImplicit false

namespace FormTemplate.FileTree

variable {t t' : FileTree} {entries entries' : List (String × FileTree)} {address target : List String}
variable {name other : String}

/-! ## Entries -/

theorem child?_putEntry (name other : String) (tree : FileTree) (entries : List (String × FileTree)) :
    child? other (putEntry name tree entries) = if name = other then some tree else child? other entries := by
  induction entries with
  | nil => simp [putEntry, child?]
  | cons e rest ih =>
    simp only [putEntry, beq_iff_eq]
    split
    · rename_i he
      simp only [child?, beq_iff_eq, he]
      split <;> rfl
    · rename_i he
      simp only [child?, beq_iff_eq, ih]
      split
      · rename_i hother
        rw [if_neg fun hname => he (hother.trans hname.symm)]
      · rfl

theorem child?_filter_ne (name other : String) (entries : List (String × FileTree)) :
    child? other (entries.filter (·.1 != name)) = if name = other then none else child? other entries := by
  induction entries with
  | nil => simp [child?]
  | cons e rest ih =>
    by_cases he : e.1 = name
    · have hrest : (e :: rest).filter (·.1 != name) = rest.filter (·.1 != name) := by simp [he]
      rw [hrest, ih, child?, he]
      split
      · rfl
      · rename_i hne
        rw [if_neg (by simpa using hne)]
    · have hrest : (e :: rest).filter (·.1 != name) = e :: rest.filter (·.1 != name) := by simp [he]
      rw [hrest, child?, child?, ih]
      simp only [beq_iff_eq]
      split
      · rename_i hother
        rw [if_neg fun hname => he (hother.trans hname.symm)]
      · rfl

/-! ## Addresses -/

/-- An address is followed step by step. -/
theorem at?_append (t : FileTree) (front rest : List String) :
    t.at? (front ++ rest) = (t.at? front).bind (at? rest) := by
  induction front generalizing t with
  | nil => rfl
  | cons name front ih =>
    cases t with
    | file bytes => rfl
    | directory entries =>
      rw [List.cons_append, at?, at?]
      cases child? name entries with
      | none => rfl
      | some s => exact ih s

theorem at?_concat (h : t.at? address = some (.directory entries)) :
    t.at? (address ++ [name]) = child? name entries := by
  rw [at?_append, h]
  show (child? name entries).bind (at? []) = child? name entries
  cases child? name entries <;> rfl

/-- Whether an address is one of a directory. -/
def IsDirectoryAt (t : FileTree) (address : List String) : Prop :=
  ∃ entries, t.at? address = some (.directory entries)

theorem setAt_singleton (name : String) (new? : Option FileTree) (entries : List (String × FileTree)) :
    ∃ entries', setAt [name] new? (.directory entries) = .directory entries' ∧
      ∀ other, child? other entries' = if name = other then new? else child? other entries := by
  cases new? with
  | none => exact ⟨_, by rw [setAt], fun other => child?_filter_ne name other entries⟩
  | some tree => exact ⟨_, by rw [setAt], fun other => child?_putEntry name other tree entries⟩

theorem setAt_cons {s : FileTree} (hs : child? name entries = some s) (hne : address ≠ []) (new? : Option FileTree) :
    setAt (name :: address) new? (.directory entries) = .directory (putEntry name (setAt address new? s) entries) := by
  cases address with
  | nil => exact absurd rfl hne
  | cons next rest => rw [setAt, hs]

/-- **Changing an entry that is no directory changes that entry of its directory, and every directory stays one.** -/
theorem setAt_concat (h : t.at? address = some (.directory entries))
    (hfile : ∀ d, child? name entries ≠ some (.directory d)) (new? : Option FileTree) :
    ∃ entries', (t.setAt (address ++ [name]) new?).at? address = some (.directory entries') ∧
      (∀ other, child? other entries' = if name = other then new? else child? other entries) ∧
      ∀ a, t.IsDirectoryAt a → (t.setAt (address ++ [name]) new?).IsDirectoryAt a := by
  induction address generalizing t with
  | nil =>
    obtain rfl := Option.some.inj h
    obtain ⟨entries', hset, hentries⟩ := setAt_singleton name new? entries
    rw [List.nil_append, hset]
    refine ⟨entries', rfl, hentries, ?_⟩
    rintro a ⟨d, ha⟩
    cases a with
    | nil => exact ⟨entries', rfl⟩
    | cons x rest =>
      refine ⟨d, ?_⟩
      obtain ⟨s, hs, hrest⟩ := Option.bind_eq_some_iff.mp ha
      -- the changed entry was no directory, so no directory lies behind it
      have hne : name ≠ x := by
        rintro rfl
        cases s with
        | file bytes => cases rest <;> cases hrest
        | directory d => exact hfile d hs
      rw [at?, hentries, if_neg hne]
      exact ha
  | cons m address ih =>
    cases t with
    | file bytes => cases h
    | directory outer =>
      obtain ⟨s, hs, haddress⟩ := Option.bind_eq_some_iff.mp h
      obtain ⟨entries', hat, hentries, hdirectories⟩ := ih haddress
      rw [List.cons_append, setAt_cons hs (by simp) new?]
      refine ⟨entries', ?_, hentries, ?_⟩
      · rw [at?, child?_putEntry, if_pos rfl]
        exact hat
      · rintro a ⟨d, ha⟩
        cases a with
        | nil => exact ⟨_, rfl⟩
        | cons x rest =>
          obtain ⟨s', hs', hrest⟩ := Option.bind_eq_some_iff.mp ha
          unfold IsDirectoryAt
          rw [at?, child?_putEntry]
          by_cases hx : m = x
          · subst hx
            obtain rfl := Option.some.inj (hs.symm.trans hs')
            rw [if_pos rfl]
            exact hdirectories rest ⟨d, hrest⟩
          · rw [if_neg hx]
            exact ⟨d, ha⟩

/-! ## Paths -/

theorem follow_nil_eq_found {s : FileTree} (h : follow t address [] = .ok (.found target s)) :
    target = address ∧ t.at? address = some s := by
  rw [follow] at h
  split at h
  · rename_i s' hs
    cases h
    exact ⟨rfl, hs⟩
  · cases h

/-- A path that leads somewhere starts in a directory. Its first part leads from there to an address that is the same
in every tree in which it starts in a directory. -/
theorem follow_cons_eq_found {part : List Char} {parts : List (List Char)} {s : FileTree}
    (h : follow t address (part :: parts) = .ok (.found target s)) :
    t.IsDirectoryAt address ∧ ∃ next, follow t next parts = .ok (.found target s) ∧
      ∀ (t' : FileTree) rest, t'.IsDirectoryAt address → follow t' address (part :: rest) = follow t' next rest := by
  -- where a step leads depends on the part and on the address alone
  have hstep : ∀ (t' : FileTree) rest, t'.IsDirectoryAt address → follow t' address (part :: rest) =
      if !Path.isStep part then follow t' address rest
      else if part == Path.upward then follow t' address.dropLast rest
      else if maxName < (String.ofList part).utf8ByteSize then .error .nameTooLong
      else follow t' (address ++ [String.ofList part]) rest := by
    rintro t' rest ⟨d, hd⟩
    rw [follow, hd]
  have hdirectory : t.IsDirectoryAt address := by
    rw [follow] at h
    split at h
    · cases h
    · cases h
    · exact ⟨_, ‹_›⟩
  refine ⟨hdirectory, ?_⟩
  rw [hstep t parts hdirectory] at h
  split at h
  · rename_i hskip
    exact ⟨address, h, fun t' rest hd => by rw [hstep t' rest hd, if_pos hskip]⟩
  · rename_i hname
    split at h
    · rename_i hup
      exact ⟨address.dropLast, h, fun t' rest hd => by rw [hstep t' rest hd, if_neg hname, if_pos hup]⟩
    · rename_i hdown
      split at h
      · cases h
      · rename_i hshort
        exact ⟨_, h, fun t' rest hd => by rw [hstep t' rest hd, if_neg hname, if_neg hdown, if_neg hshort]⟩

/-- A path that leads to a directory can be gone on with. An empty part at its end is no step. -/
theorem follow_append {front blank : List (List Char)} (hblank : blank = [] ∨ blank = [[]])
    (h : follow t address (front ++ blank) = .ok (.found target (.directory entries))) (rest : List (List Char)) :
    t.at? target = some (.directory entries) ∧ follow t address (front ++ rest) = follow t target rest := by
  induction front generalizing address with
  | nil =>
    have hend : follow t address [] = .ok (.found target (.directory entries)) := by
      rcases hblank with rfl | rfl
      · exact h
      · obtain ⟨hdirectory, -⟩ := follow_cons_eq_found h
        obtain ⟨d, hd⟩ := hdirectory
        rw [List.nil_append, follow, hd] at h
        exact h
    obtain ⟨rfl, hat⟩ := follow_nil_eq_found hend
    exact ⟨hat, rfl⟩
  | cons part front ih =>
    obtain ⟨hdirectory, next, hnext, hsame⟩ := follow_cons_eq_found h
    obtain ⟨hat, hrest⟩ := ih hnext
    exact ⟨hat, (hsame t _ hdirectory).trans hrest⟩

/-- A path that leads to a directory leads there in every tree that has the directories of the first one. -/
theorem follow_of_directories (hdirectories : ∀ a, t.IsDirectoryAt a → t'.IsDirectoryAt a) {parts : List (List Char)}
    (h : follow t address parts = .ok (.found target (.directory entries)))
    (htarget : t'.at? target = some (.directory entries')) :
    follow t' address parts = .ok (.found target (.directory entries')) := by
  induction parts generalizing address with
  | nil =>
    obtain ⟨rfl, -⟩ := follow_nil_eq_found h
    rw [follow, htarget]
  | cons part parts ih =>
    obtain ⟨hdirectory, next, hnext, hsame⟩ := follow_cons_eq_found h
    rw [hsame t' parts (hdirectories address hdirectory)]
    exact ih hnext

/-! ## Names in a directory -/

/-- A file name that keeps the limits of names and, in a directory, of paths. -/
structure Fits (root : Path) (name : String) : Prop extends Path.IsFileName name where
  name_le : name.utf8ByteSize ≤ maxName
  path_le : (root.join name).text.utf8ByteSize ≤ maxPath

/-- What an entry of a directory is as the target of a path. -/
def Target.ofEntry (address : List String) : Option FileTree → Target
  | some s => .found address s
  | none => .missing address

/-- The path of a name within the limits is followed. -/
theorem find_eq_follow {root : Path} (hnull : '\x00' ∉ root.text.toList) (hname : Fits root name) (t : FileTree) :
    t.find (root.join name) = follow t [] (Path.parts (root.join name).text.toList) := by
  obtain ⟨before, hbefore, hchars⟩ := Path.toList_join root name
  have hnull' : (root.join name).text.toList.contains '\x00' = false := by
    rw [Bool.eq_false_iff, Ne, List.contains_iff_mem, hbefore, List.mem_append, not_or]
    exact ⟨fun hmem => (hchars _ hmem).elim hnull (by decide), hname.no_null⟩
  have hempty : (root.join name).text.isEmpty = false := by
    rw [Bool.eq_false_iff]
    intro hempty
    rw [String.isEmpty_iff.mp hempty] at hbefore
    exact hname.ne_empty (String.toList_eq_nil_iff.mp (List.append_eq_nil_iff.mp hbefore.symm).2)
  rw [find, hnull', hempty, if_neg (by simp), if_neg (by simp), if_neg (Nat.not_lt.mpr hname.path_le)]

theorem follow_name (hat : t.at? address = some (.directory entries)) (hname : Path.IsFileName name)
    (hle : name.utf8ByteSize ≤ maxName) :
    follow t address [name.toList] = .ok (.ofEntry (address ++ [name]) (child? name entries)) := by
  rw [follow, hat]
  simp only [hname.isStep, String.ofList_toList, if_neg (Nat.not_lt.mpr hle)]
  rw [if_neg (by simp), if_neg (by simpa using hname.ne_upward), follow, at?_concat hat]
  cases child? name entries <;> rfl

/-- **The path of a name within the limits leads to the entry of that name.** -/
theorem find_join {root : Path} (hnull : '\x00' ∉ root.text.toList) (hname : Fits root name)
    (hroot : follow t [] (Path.parts root.text.toList) = .ok (.found address (.directory entries))) :
    t.at? address = some (.directory entries) ∧
      t.find (root.join name) = .ok (.ofEntry (address ++ [name]) (child? name entries)) := by
  obtain ⟨front, blank, hblank, hdirectory, hjoin⟩ := Path.parts_join root hname.no_slash
  rw [hdirectory] at hroot
  obtain ⟨hat, hfollow⟩ := follow_append hblank hroot [name.toList]
  refine ⟨hat, ?_⟩
  rw [find_eq_follow hnull hname, hjoin, hfollow, follow_name hat hname.toIsFileName hname.name_le]

/-! ## The operations -/

/-- A path leads to a directory whose files are those of a map, as far as their names keep the limits. -/
def ShowsAt (root : Path) (t : FileTree) (contents : Dict ByteArray) : Prop :=
  ∃ address entries, follow t [] (Path.parts root.text.toList) = .ok (.found address (.directory entries)) ∧
    ∀ name, Fits root name → child? name entries = (contents.get? name).map FileTree.file

/-- Putting a file into a directory, or taking it out, does so to the map. -/
theorem showsAt_setAt {root : Path} {contents contents' : Dict ByteArray} (hname : Fits root name)
    (hroot : follow t [] (Path.parts root.text.toList) = .ok (.found address (.directory entries)))
    (hat : t.at? address = some (.directory entries))
    (hcontents : ∀ name, Fits root name → child? name entries = (contents.get? name).map FileTree.file)
    (bytes? : Option ByteArray)
    (hchanged : ∀ other, contents'.get? other = if name = other then bytes? else contents.get? other) :
    ShowsAt root (t.setAt (address ++ [name]) (bytes?.map FileTree.file)) contents' := by
  have hfile : ∀ d, child? name entries ≠ some (.directory d) := by
    intro d
    rw [hcontents name hname]
    cases contents.get? name <;> simp
  obtain ⟨entries', hat', hentries, hdirectories⟩ := setAt_concat hat hfile (bytes?.map FileTree.file)
  refine ⟨address, entries', follow_of_directories hdirectories hroot hat', fun other hother => ?_⟩
  rw [hentries, hchanged, hcontents other hother]
  split <;> rfl

/-- **A directory of a tree acts as a map on the names within the limits.** -/
theorem isFolder_files {root : Path} (hnull : '\x00' ∉ root.text.toList) :
    files.IsFolder root (Fits root) (ShowsAt root) := by
  constructor
  case read =>
    rintro t contents name ⟨address, entries, hroot, hcontents⟩ hname
    refine ⟨t, ?_, address, entries, hroot, hcontents⟩
    obtain ⟨-, hfind⟩ := find_join hnull hname hroot
    have hread : t.read (root.join name) = FileAccess.orNotFound (contents.get? name) := by
      rw [read, hfind, hcontents name hname]
      cases contents.get? name <;> rfl
    exact congrArg (·, t) hread
  case write =>
    rintro t contents name ⟨address, entries, hroot, hcontents⟩ hname text
    obtain ⟨hat, hfind⟩ := find_join hnull hname hroot
    have hwrite : t.write (root.join name) text.toUTF8 =
        .ok (t.setAt (address ++ [name]) (some (.file text.toUTF8))) := by
      rw [write, hfind, hcontents name hname]
      cases contents.get? name <;> rfl
    refine ⟨t.setAt (address ++ [name]) (some (.file text.toUTF8)), ?_, ?_⟩
    · show (commit (t.write (root.join name) text.toUTF8)).run t = _
      rw [hwrite]
      rfl
    · exact showsAt_setAt hname hroot hat hcontents (some text.toUTF8) fun other => Dict.get?_insert ..
  case remove =>
    rintro t contents name ⟨address, entries, hroot, hcontents⟩ hname
    obtain ⟨hat, hfind⟩ := find_join hnull hname hroot
    have herase : ShowsAt root (t.setAt (address ++ [name]) none) (contents.erase name) :=
      showsAt_setAt hname hroot hat hcontents none fun other => Dict.get?_erase ..
    show ∃ next, (commit (t.remove (root.join name))).run t = (_, next) ∧ _
    rw [remove, hfind, hcontents name hname]
    cases hget : contents.get? name with
    | some bytes => exact ⟨_, rfl, herase⟩
    | none =>
      refine ⟨t, rfl, address, entries, hroot, fun other hother => ?_⟩
      rw [hcontents other hother, Dict.get?_erase]
      split
      · rename_i hsame
        rw [← hsame, hget]
      · rfl

end FormTemplate.FileTree
