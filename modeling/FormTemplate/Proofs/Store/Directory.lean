import FormTemplate.Proofs.Files.Tree
import FormTemplate.Proofs.Store.Calls
import FormTemplate.Proofs.Text.Bytes

/-!
# Texts in files

A store that keeps one file for each key answers as one that keeps its texts in memory. The file name of a key is read
off it byte by byte, and can be read back: a byte stands for itself or is written with two digits behind a percent sign,
which never stands for itself. So no two keys share a file, and as neither slashes nor dots stand for themselves,
no key leads out of the directory.

* `Backend.nameChars_append_inj` : the bytes of a key are read off its file name one by one;
* `Backend.fileName_inj` : different keys have different file names;
* `Backend.isFileName_fileName` : the file name of a key is one step of a path, which does not lead upward;
* `Backend.Call`, `Backend.runCalls` : calls on a backend, one after another;
* `Backend.HoldsTexts`, `Backend.directory_perform` : files that hold the texts of keys, and a call on both;
* `Backend.directory_runCalls_tree` : a directory of a tree answers as texts in memory, within the limits of a disk;
* `Backend.directory_actsAsMemory` : over all calls, files answer as texts in memory do.
-/

set_option autoImplicit false

namespace FormTemplate.Backend

/-! ## File names -/

section

variable {b c : UInt8} {x y : List Char}

/-- A check that all bytes below 256 pass holds of every byte. -/
theorem forall_byte {p : UInt8 → Bool} (h : ((List.range 256).all fun n => p (UInt8.ofNat n)) = true) (b : UInt8) :
    p b = true := by
  have hb := List.all_eq_true.mp h b.toNat (List.mem_range.mpr b.toNat_lt)
  rwa [UInt8.ofNat_toNat] at hb

/-- A byte that stands for itself is read off its character, which is no percent sign. -/
theorem ofNat_of_isNameByte (h : isNameByte b = true) :
    Char.ofNat b.toNat ≠ '%' ∧ (Char.ofNat b.toNat).toNat = b.toNat := by
  let check (b : UInt8) : Bool :=
    !isNameByte b || (Char.ofNat b.toNat != '%' && (Char.ofNat b.toNat).toNat == b.toNat)
  have hall : ∀ b, check b = true := forall_byte (by decide +kernel)
  simpa [check, h] using hall b

theorem hexUpper_inj {m n : Nat} (hm : m < 16) (hn : n < 16) (h : Text.hexUpper m = Text.hexUpper n) : m = n := by
  have hdigit := Text.hexDigit?_hexUpper m hm
  rw [h, Text.hexDigit?_hexUpper n hn] at hdigit
  exact (Option.some.inj hdigit).symm

/-- **The bytes of a key are read off its file name one by one.** -/
theorem nameChars_append_inj (h : nameChars b ++ x = nameChars c ++ y) : b = c ∧ x = y := by
  unfold nameChars at h
  split at h
  · rename_i hb
    split at h
    · rename_i hc
      obtain ⟨hchar, hrest⟩ := List.cons.inj h
      have hnat := congrArg Char.toNat hchar
      rw [(ofNat_of_isNameByte hb).2, (ofNat_of_isNameByte hc).2] at hnat
      exact ⟨UInt8.toNat_inj.mp hnat, hrest⟩
    · exact absurd (List.cons.inj h).1 (ofNat_of_isNameByte hb).1
  · split at h
    · rename_i hc
      exact absurd (List.cons.inj h).1.symm (ofNat_of_isNameByte hc).1
    · obtain ⟨hhigh, h⟩ := List.cons.inj (List.cons.inj h).2
      obtain ⟨hlow, hrest⟩ := List.cons.inj h
      have hb := b.toNat_lt
      have hc := c.toNat_lt
      have hhigh := hexUpper_inj (by omega) (by omega) hhigh
      have hlow := hexUpper_inj (by omega) (by omega) hlow
      exact ⟨UInt8.toNat_inj.mp (by omega), hrest⟩

theorem flatMap_nameChars_inj {k l : List UInt8} (h : k.flatMap nameChars = l.flatMap nameChars) : k = l := by
  have hne : ∀ b, nameChars b ≠ [] := by
    intro b
    unfold nameChars
    split <;> simp
  induction k generalizing l with
  | nil =>
    cases l with
    | nil => rfl
    | cons c l => exact absurd (List.append_eq_nil_iff.mp h.symm).1 (hne c)
  | cons b k ih =>
    cases l with
    | nil => exact absurd (List.append_eq_nil_iff.mp h).1 (hne b)
    | cons c l =>
      obtain ⟨rfl, hrest⟩ := nameChars_append_inj h
      rw [ih hrest]

end

/-- **Different keys have different file names.** -/
theorem fileName_inj {key other : String} : fileName key = fileName other ↔ key = other := by
  constructor
  · intro h
    have hchars := String.ofList_inj.mp ((String.append_left_inj _).mp h)
    rw [Text.toList_toUTF8, Text.toList_toUTF8] at hchars
    exact Text.bytes_inj.mp (flatMap_nameChars_inj hchars)
  · rintro rfl
    rfl

theorem toList_fileName (key : String) :
    (fileName key).toList = key.toUTF8.toList.flatMap nameChars ++ ".json".toList := by
  rw [fileName, String.toList_append, String.toList_ofList]

/-- A character of a file name is neither a slash nor the null character. -/
theorem of_mem_fileName {key : String} {c : Char} (hc : c ∈ (fileName key).toList) : c ≠ '/' ∧ c ≠ '\x00' := by
  let check (c : Char) : Bool := c != '/' && c != '\x00'
  have hbytes : ∀ b, (nameChars b).all check = true := forall_byte (by decide +kernel)
  have hend : ".json".toList.all check = true := by decide +kernel
  have hcheck : check c = true := by
    rw [toList_fileName, List.mem_append, List.mem_flatMap] at hc
    rcases hc with ⟨b, _, hc⟩ | hc
    · exact List.all_eq_true.mp (hbytes b) c hc
    · exact List.all_eq_true.mp hend c hc
  simpa [check] using hcheck

/-- **The file name of a key is one step of a path, which does not lead upward.** -/
theorem isFileName_fileName (key : String) : Path.IsFileName (fileName key) := by
  have hlong : ∀ short : String, short.toList.length < 5 → fileName key ≠ short := by
    rintro short hshort rfl
    rw [toList_fileName, List.length_append] at hshort
    exact absurd hshort (Nat.not_lt.mpr (Nat.le_add_left 5 _))
  constructor
  case ne_empty => exact hlong "" (by decide)
  case no_slash => exact fun hmem => (of_mem_fileName hmem).1 rfl
  case no_null => exact fun hmem => (of_mem_fileName hmem).2 rfl
  case ne_dot => exact hlong "." (by decide)
  case ne_dots => exact hlong ".." (by decide)

/-! ## Calls on a backend -/

/-- A call on a backend. -/
inductive Call where
  | read (key : String)
  | write (key text : String)
  | remove (key : String)
  deriving DecidableEq, Repr

/-- The key that a call is about. -/
def Call.key : Call → String
  | .read key => key
  | .write key _ => key
  | .remove key => key

/-- What a call that does not fail answers. -/
inductive Answer where
  | text (text? : Option String)
  | done
  deriving DecidableEq, Repr

/-- A call with its answer. -/
def perform {m : Type → Type} [Monad m] (b : Backend m) : Call → ExceptT StoreError m Answer
  | .read key => do
    let text? ← b.read key
    return .text text?
  | .write key text => do
    b.write key text
    return .done
  | .remove key => do
    b.remove key
    return .done

/-- Calls one after another, each from the state that the one before leaves: what comes of them, and the last state. -/
def runCalls {σ : Type} (b : Backend (StateM σ)) (state : σ) : List Call → List (Except StoreError Answer) × σ
  | [] => ([], state)
  | c :: rest =>
    let (outcome, next) := Store.runFrom (b.perform c) state
    let (outcomes, final) := runCalls b next rest
    (outcome :: outcomes, final)

/-! ## Files that hold texts -/

section

open Store

/-- The file of each key holds the text of the key, and there is none if the key has no text. -/
def HoldsTexts (contents : Dict ByteArray) (d : Dict String) : Prop :=
  ∀ key, contents.get? (fileName key) = (d.get? key).map String.toUTF8

namespace HoldsTexts

variable {contents : Dict ByteArray} {d : Dict String}

theorem insert (h : HoldsTexts contents d) (key text : String) :
    HoldsTexts (contents.insert (fileName key) text.toUTF8) (d.insert key text) := by
  intro other
  rw [Dict.get?_insert, Dict.get?_insert, h other]
  simp only [fileName_inj]
  split <;> rfl

theorem erase (h : HoldsTexts contents d) (key : String) :
    HoldsTexts (contents.erase (fileName key)) (d.erase key) := by
  intro other
  rw [Dict.get?_erase, Dict.get?_erase, h other]
  simp only [fileName_inj]
  split <;> rfl

end HoldsTexts

variable {σ : Type} {files : FileAccess (StateM σ)} {root : Path} {names : String → Prop}
  {shows : σ → Dict ByteArray → Prop} {st : σ} {contents : Dict ByteArray} {d : Dict String}

/-- An operation on files gives its result to what follows it. -/
theorem runFrom_liftM_bind {α β : Type} {x : StateM σ α} {f : α → ExceptT StoreError (StateM σ) β} {a : α} {next : σ}
    (h : x.run st = (a, next)) : runFrom (liftM x >>= f) st = runFrom (f a) next := by
  have hlift : runFrom (liftM x : ExceptT StoreError (StateM σ) α) st = (.ok a, next) := by
    rw [runFrom, ExceptT.run_liftM, StateT.run_map, h]
    rfl
  rw [runFrom_bind, hlift]

theorem directory_read (hfiles : files.IsFolder root names shows) (hst : shows st contents)
    (htexts : HoldsTexts contents d) (key : String) (hkey : names (fileName key)) :
    ∃ next, runFrom ((directory files root).read key) st = (.ok (d.get? key), next) ∧ shows next contents := by
  obtain ⟨next, hread, hnext⟩ := hfiles.readText hst hkey (htexts key)
  refine ⟨next, ?_, hnext⟩
  rw [directory]
  dsimp only
  rw [runFrom_liftM_bind hread]
  cases d.get? key <;> rfl

theorem directory_write (hfiles : files.IsFolder root names shows) (hst : shows st contents) (key text : String)
    (hkey : names (fileName key)) :
    ∃ next, runFrom ((directory files root).write key text) st = (.ok (), next) ∧
      shows next (contents.insert (fileName key) text.toUTF8) := by
  obtain ⟨next, hwrite, hnext⟩ := hfiles.write hst hkey text
  refine ⟨next, ?_, hnext⟩
  rw [directory]
  dsimp only
  rw [runFrom_liftM_bind hwrite]
  rfl

/-- Removing a file that is not there is no error. -/
theorem directory_remove (hfiles : files.IsFolder root names shows) (hst : shows st contents) (key : String)
    (hkey : names (fileName key)) :
    ∃ next, runFrom ((directory files root).remove key) st = (.ok (), next) ∧
      shows next (contents.erase (fileName key)) := by
  obtain ⟨next, hremove, hnext⟩ := hfiles.remove hst hkey
  refine ⟨next, ?_, hnext⟩
  rw [directory]
  dsimp only
  rw [runFrom_liftM_bind hremove]
  cases contents.get? (fileName key) <;> rfl

/-- **A call on files that hold the texts of keys answers as on the texts in memory, and leaves such files.** -/
theorem directory_perform (hfiles : files.IsFolder root names shows) (hst : shows st contents)
    (htexts : HoldsTexts contents d) {c : Call} (hc : names (fileName c.key)) :
    (runFrom ((directory files root).perform c) st).1 = (runFrom (memory.perform c) d).1 ∧
      ∃ contents', shows (runFrom ((directory files root).perform c) st).2 contents' ∧
        HoldsTexts contents' (runFrom (memory.perform c) d).2 := by
  cases c with
  | read key =>
    obtain ⟨next, hread, hnext⟩ := directory_read hfiles hst htexts key hc
    rw [perform, runFrom_bind, hread]
    exact ⟨rfl, contents, hnext, htexts⟩
  | write key text =>
    obtain ⟨next, hwrite, hnext⟩ := directory_write hfiles hst key text hc
    rw [perform, runFrom_bind, hwrite]
    exact ⟨rfl, _, hnext, htexts.insert key text⟩
  | remove key =>
    obtain ⟨next, hremove, hnext⟩ := directory_remove hfiles hst key hc
    rw [perform, runFrom_bind, hremove]
    exact ⟨rfl, _, hnext, htexts.erase key⟩

/-! ## Sequences of calls -/

theorem directory_runCalls (hfiles : files.IsFolder root names shows) (hst : shows st contents)
    (htexts : HoldsTexts contents d) {calls : List Call} (hcalls : ∀ c ∈ calls, names (fileName c.key)) :
    ((directory files root).runCalls st calls).1 = (memory.runCalls d calls).1 := by
  induction calls generalizing st contents d with
  | nil => rfl
  | cons c rest ih =>
    obtain ⟨hsame, contents', hnext, htexts'⟩ := directory_perform hfiles hst htexts (hcalls c List.mem_cons_self)
    have hrest := ih hnext htexts' fun x hx => hcalls x (List.mem_cons_of_mem _ hx)
    simp only [runCalls, hsame, hrest]

/-- **In a tree, a directory that is empty at first acts as texts in memory** for all keys whose file names keep the
limits of a disk. -/
theorem directory_runCalls_tree {t : FileTree} {address : List String} (hnull : '\x00' ∉ root.text.toList)
    (hempty : t.follow [] (Path.parts root.text.toList) = .ok (.found address (.directory []))) {calls : List Call}
    (hcalls : ∀ c ∈ calls, FileTree.Fits root (fileName c.key)) :
    ((directory FileTree.files root).runCalls t calls).1 = (memory.runCalls .empty calls).1 := by
  have hshows : FileTree.ShowsAt root t .empty := ⟨address, [], hempty, fun _ _ => rfl⟩
  exact directory_runCalls (FileTree.isFolder_files hnull) hshows (fun _ => rfl) hcalls

/-- The path to the directory may be roundabout. -/
example : FileTree.follow (.directory [("stores", .directory [("main", .empty)])]) []
    (Path.parts "./stores/../stores//main/".toList) = .ok (.found ["stores", "main"] (.directory [])) := by
  rfl

/-- **A directory of files acts as texts in memory.** Where files act as a map on file names, all calls with any keys
and texts on a directory that is empty at first are answered as on texts in memory. Different keys have different
paths, and the path of a key goes on from the directory by one name, which does not lead upward. -/
theorem directory_actsAsMemory (hfiles : files.IsFolder root Path.IsFileName shows) (hempty : shows st .empty)
    (calls : List Call) :
    ((directory files root).runCalls st calls).1 = (memory.runCalls .empty calls).1 ∧
      (∀ key other, root.join (fileName key) = root.join (fileName other) → key = other) ∧
      ∀ key, Path.IsFileName (fileName key) ∧
        (root.join (fileName key)).steps = root.steps ++ [(fileName key).toList] := by
  refine ⟨directory_runCalls hfiles hempty (fun _ => rfl) fun c _ => isFileName_fileName c.key, ?_, fun key => ?_⟩
  · intro key other h
    exact fileName_inj.mp (Path.join_inj.mp h)
  · exact ⟨isFileName_fileName key, Path.steps_join root (isFileName_fileName key)⟩

/-- Calls with keys that would lead out of the directory, or that differ in one escape. -/
def escapingCalls : List Call :=
  [.write "../a" "1", .write "%2E%2E%2Fa" "é", .read "../a", .write "" "3", .remove "..", .read "..%2Fa",
    .remove "../a", .read "../a", .read "%2E%2E%2Fa", .read ""]

theorem directory_actsAsMemory_escaping :
    (FileAccess.flat.IsFolder ⟨"store"⟩ Path.IsFileName fun st contents =>
        ∀ name, st.get? ((⟨"store"⟩ : Path).join name).text = contents.get? name) ∧
      (∀ name, Dict.empty.get? ((⟨"store"⟩ : Path).join name).text = (Dict.empty : Dict ByteArray).get? name) ∧
      ((directory FileAccess.flat ⟨"store"⟩).runCalls .empty escapingCalls).1 =
        [.ok .done, .ok .done, .ok (.text (some "1")), .ok .done, .ok .done, .ok (.text none), .ok .done,
          .ok (.text none), .ok (.text (some "é")), .ok (.text (some "3"))] ∧
      fileName "../a" = "%2E%2E%2Fa.json" := by
  have hfolder := FileAccess.isFolder_flat ⟨"store"⟩
  have hempty : ∀ name, Dict.empty.get? ((⟨"store"⟩ : Path).join name).text =
      (Dict.empty : Dict ByteArray).get? name := fun _ => rfl
  refine ⟨hfolder, hempty, ?_, ?_⟩
  · rw [(directory_actsAsMemory hfolder hempty escapingCalls).1]
    rfl
  · decide +kernel

end

end FormTemplate.Backend
