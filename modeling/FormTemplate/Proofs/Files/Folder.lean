import FormTemplate.Files.Access
import FormTemplate.Proofs.Dict
import FormTemplate.Proofs.Files.Path

/-!
# Files as a map from names to contents

Seen from outside, a directory is a map from file names to bytes: writing puts a name into the map, removing takes it
out, and the one thing that can go wrong with reading and removing is that the name is not there.

* `FileAccess.IsFolder` : files that act as a map on the names in a directory;
* `FileAccess.IsFolder.readText` : the text of a file in such a directory;
* `FileAccess.flat`, `FileAccess.isFolder_flat` : files kept by their paths, without directories.
-/

set_option autoImplicit false

namespace FormTemplate.FileAccess

/-- What comes of looking for something that may not be there. -/
def orNotFound {α : Type} : Option α → Except FileError α
  | some a => .ok a
  | none => .error .notFound

/-- Files act as a map on the names in a directory, as far as these are names of the given kind. A state shows the map,
and may hold whatever else. -/
structure IsFolder {σ : Type} (files : FileAccess (StateM σ)) (directory : Path) (names : String → Prop)
    (shows : σ → Dict ByteArray → Prop) : Prop where
  read : ∀ {st contents name}, shows st contents → names name → ∃ next,
    (files.read (directory.join name)).run st = (orNotFound (contents.get? name), next) ∧ shows next contents
  write : ∀ {st contents name}, shows st contents → names name → ∀ text, ∃ next,
    (files.write (directory.join name) text).run st = (.ok (), next) ∧ shows next (contents.insert name text.toUTF8)
  remove : ∀ {st contents name}, shows st contents → names name → ∃ next,
    (files.remove (directory.join name)).run st = ((orNotFound (contents.get? name)).map fun _ => (), next) ∧
      shows next (contents.erase name)

theorem textOf_toUTF8 (text : String) : textOf text.toUTF8 = .ok text := by
  have hvalid : text.toUTF8.IsValidUTF8 := text.isValidUTF8
  simp only [textOf, String.fromUTF8?, dif_pos hvalid]
  rfl

/-- A text that was written is read. -/
theorem IsFolder.readText {σ : Type} {files : FileAccess (StateM σ)} {directory : Path} {names : String → Prop}
    {shows : σ → Dict ByteArray → Prop} (h : files.IsFolder directory names shows) {st : σ}
    {contents : Dict ByteArray} (hst : shows st contents) {name : String} (hname : names name) {text? : Option String}
    (htext : contents.get? name = text?.map String.toUTF8) :
    ∃ next, (files.readText (directory.join name)).run st = (orNotFound text?, next) ∧ shows next contents := by
  obtain ⟨next, hread, hnext⟩ := h.read hst hname
  refine ⟨next, ?_, hnext⟩
  rw [FileAccess.readText, StateT.run_bind, hread, htext]
  cases text? with
  | none => rfl
  | some text => exact congrArg (·, next) (textOf_toUTF8 text)

/-- Files that are kept by their paths. Every path leads to a directory. -/
def flat : FileAccess (StateM (Dict ByteArray)) where
  read p := return orNotFound ((← get).get? p.text)
  write p text := do
    modify fun d => d.insert p.text text.toUTF8
    return .ok ()
  remove p := do
    let d ← get
    set (d.erase p.text)
    return (orNotFound (d.get? p.text)).map fun _ => ()
  makeDirectory _ := return .ok ()
  isDirectory _ := return true

/-- Files that are kept by their paths show each directory as the map of the names that are joined to it. -/
theorem isFolder_flat (directory : Path) :
    flat.IsFolder directory Path.IsFileName fun st contents =>
      ∀ name, st.get? (directory.join name).text = contents.get? name := by
  have hsame : ∀ name other, (directory.join name).text = (directory.join other).text ↔ name = other :=
    fun _ _ => Iff.trans ⟨congrArg Path.mk, congrArg Path.text⟩ Path.join_inj
  constructor
  case read =>
    intro st contents name hst _
    exact ⟨st, congrArg (fun bytes => (orNotFound bytes, st)) (hst name), hst⟩
  case write =>
    intro st contents name hst _ text
    refine ⟨_, rfl, fun other => ?_⟩
    rw [Dict.get?_insert, Dict.get?_insert, hst other]
    simp only [hsame]
  case remove =>
    intro st contents name hst _
    refine ⟨_, congrArg (fun bytes => ((orNotFound bytes).map fun _ => (), st.erase _)) (hst name), fun other => ?_⟩
    rw [Dict.get?_erase, Dict.get?_erase, hst other]
    simp only [hsame]

end FormTemplate.FileAccess
