import FormTemplate.Files.Access
import FormTemplate.Schema.OfMarkers

/-!
# Template files

A template is an office document, known by the extension of its file name and by the signature that starts every
archive. Its text, with the brackets of the markers, comes from an extractor, which can fail for reasons of its own.
Two extractors are at hand: the text is given, or another file holds it.

* `ParseFailure` : why a template gives no schema, with a text for the log and one for the reader.
* `TextExtractor`, `TextSource.extractor` : what gives the text of a template, and the two that are at hand.
* `Template.typeOf` : the format of a template file.
* `Template.parse` : the schema of a template file by any extractor.
* `Template.schema` : the schema of a template file by one of the two.
-/

set_option autoImplicit false

namespace FormTemplate

/-- Why a template gives no schema. -/
inductive ParseFailure where
  | unreadable (path : Path) (error : FileError)
  | unsupportedFormat (extension : String)
  | notAContainer (path : Path)
  /-- The extractor gives no text, for a reason in its own words. -/
  | extraction (reason : String)
  deriving DecidableEq, Repr

namespace ParseFailure

/-- The text of a failure. -/
def message : ParseFailure → String
  | .unreadable path e => "Template unreadable: " ++ path.text ++ ": " ++ e.message
  | .unsupportedFormat ext => "Unsupported template format: '" ++ ext ++ "' (expected docx or odt)"
  | .notAContainer path => "Not a recognized document container: " ++ path.text
  | .extraction reason => "Text extraction failed: " ++ reason

/-- What an operator is told of a failure. -/
def userMessage : ParseFailure → String
  | .unreadable path _ => "The template file " ++ path.text ++ " could not be read."
  | .unsupportedFormat ext =>
    if ext.isEmpty then "The template has no file extension; use a .docx or .odt file."
    else "Templates of type ." ++ ext ++ " are not supported; use .docx or .odt."
  | .notAContainer path =>
    (path.fileName?.map String.ofList).getD path.text ++ " is not a valid office document."
  | .extraction reason => "Could not read template text: " ++ reason

end ParseFailure

/-- The format that the extension of a path names. -/
def TemplateType.ofPath (p : Path) : TemplateType := .ofExtension (p.extension?.getD "")

/-- What gives the text of a template, from its path and its format. -/
structure TextExtractor (m : Type → Type) where
  extract : Path → TemplateType → ExceptT ParseFailure m String

/-- Where the text of a template comes from, if not from the template. -/
inductive TextSource where
  | given (text : String)
  | file (path : Path)
  deriving DecidableEq, Repr

/-- The extractor that gives the text of a source, whatever the template. -/
def TextSource.extractor {m : Type → Type} [Monad m] (files : FileAccess m) : TextSource → TextExtractor m
  | .given text => ⟨fun _ _ => return text⟩
  | .file textPath => ⟨fun _ _ => do
      match ← files.readText textPath with
      | .error e => throw (.extraction (textPath.text ++ ": " ++ e.message))
      | .ok text => return text⟩

namespace Template

variable {m : Type → Type} [Monad m]

/-- The bytes that start every archive. -/
def signature : List UInt8 := [0x50, 0x4B, 0x03, 0x04]

/-- Whether bytes start as an archive does. -/
def isContainer (bytes : ByteArray) : Bool := (bytes.extract 0 signature.length).toList == signature

/-- The format of a template file that can be read and starts as an archive does. -/
def typeOf (files : FileAccess m) (path : Path) : ExceptT ParseFailure m TemplateType := do
  match TemplateType.ofPath path with
  | .unknown => throw (.unsupportedFormat (path.extension?.getD ""))
  | type =>
    match ← files.read path with
    | .error e => throw (.unreadable path e)
    | .ok bytes => if isContainer bytes then return type else throw (.notAContainer path)

/-- The schema of a template file, under an identifier and the time of its making. -/
def parse (files : FileAccess m) (extractor : TextExtractor m) (path : Path) (id : String)
    (now : Calendar.Timestamp) : ExceptT ParseFailure m Schema := do
  let type ← typeOf files path
  let text ← extractor.extract path type
  return Schema.ofText ⟨type, id, now⟩ text

/-- The schema of a template file whose text comes from a source. -/
def schema (files : FileAccess m) (path : Path) (source : TextSource) (id : String) (now : Calendar.Timestamp) :
    ExceptT ParseFailure m Schema :=
  parse files (source.extractor files) path id now

end Template

end FormTemplate
