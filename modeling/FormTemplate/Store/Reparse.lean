import FormTemplate.Store
import FormTemplate.Template

/-!
# Parsing a stored template again

When the template of a schema changes, it is parsed again and the schema that is kept is replaced. A template
that gives no schema clears what is kept, so that no outdated schema stays; that is an outcome and no error.

* `ReparseEvent` : the template to parse again, and why.
* `ReparseOutcome` : what has become of the schema that was kept.
* `Store.settle` : the step that keeps the new schema or clears the old one.
* `Store.reparseWith` : parsing the template of an event by any extractor, and the step that follows from it.
* `Store.reparse` : the same where the text of the template comes from a source.
-/

set_option autoImplicit false

namespace FormTemplate

/-- Why a template is parsed again. -/
inductive ReparseTrigger where
  /-- A template was attached or replaced. -/
  | templateAttached
  /-- An operator asked for it. -/
  | requested
  deriving DecidableEq, Repr

/-- The name of a trigger. -/
def ReparseTrigger.name : ReparseTrigger → String
  | .templateAttached => "template-attached"
  | .requested => "requested"

/-- The trigger with a name, spelled exactly. -/
def ReparseTrigger.ofName? (name : String) : Option ReparseTrigger :=
  if name == "template-attached" then some .templateAttached
  else if name == "requested" then some .requested
  else none

/-- A template to parse again. -/
structure ReparseEvent where
  /-- The identifier under which the schema is kept. -/
  id : String
  path : Path
  trigger : ReparseTrigger
  deriving DecidableEq, Repr

/-- What has become of the schema that was kept. -/
inductive ReparseOutcome where
  | replaced (summary : SchemaSummary)
  | cleared (message : String)
  deriving DecidableEq, Repr

/-- The value of an outcome. -/
def ReparseOutcome.toJson : ReparseOutcome → Json
  | .replaced summary => .obj [("outcome", .str "replaced"), ("summary", summary.toJson)]
  | .cleared message => .obj [("outcome", .str "cleared"), ("message", .str message)]

namespace Store

variable {m : Type → Type} [Monad m]

/-- Keeps a new schema, or clears the one that is kept where there is no new one. -/
def settle (b : Backend m) (id : String) : Except ParseFailure Schema → ExceptT StoreError m ReparseOutcome
  | .ok s => do
    save b id s
    return .replaced s.summary
  | .error failure => do
    delete b id
    return .cleared failure.userMessage

/-- Parses the template of an event and settles what is kept. The trigger makes no difference to that. -/
def reparseWith (files : FileAccess m) (extractor : TextExtractor m) (b : Backend m) (event : ReparseEvent)
    (now : Calendar.Timestamp) : ExceptT StoreError m ReparseOutcome := do
  settle b event.id (← (Template.parse files extractor event.path event.id now).run)

/-- Parses the template of an event, whose text comes from a source, and settles what is kept. -/
def reparse (files : FileAccess m) (b : Backend m) (event : ReparseEvent) (source : TextSource)
    (now : Calendar.Timestamp) : ExceptT StoreError m ReparseOutcome :=
  reparseWith files (source.extractor files) b event now

end Store

end FormTemplate
