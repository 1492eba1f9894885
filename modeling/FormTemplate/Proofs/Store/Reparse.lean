import FormTemplate.Files.Tree
import FormTemplate.Proofs.Schema.Built
import FormTemplate.Proofs.Store.Versions
import FormTemplate.Store.Reparse

/-!
# Parsing again leaves no outdated schema

Parsing reads the files of a template beside the texts that are kept, and what follows from it is a save or a delete,
the same beside any files. Nothing is known of the extractor: it may give any text, fail in any way and keep a state of
its own. The schemas that a parse gives can be kept and read back, so a get answers the new schema, or that there is
none; a text with a greater version stays, and then nothing is changed.

* `Lifts`, `Template.lifts_parse` : a parse beside the texts is the parse without them;
* `TextSource.extractor_withState` : so are the two extractors that are at hand;
* `Store.RunsAs`, `Store.runsAs_settle` : what follows from a parse is the same beside any files;
* `Store.reparseWith_run` : parsing again is a parse and what follows from its outcome;
* `Store.storable_of_parse` : the schemas of a parse can be kept and read back as they are;
* `Store.Settled`, `Store.settled_settle` : what has to come of an outcome, and that it does;
* `Store.reparse_settled` : for all texts, files, extractors and events.
-/

set_option autoImplicit false

namespace FormTemplate

section

variable {m : Type → Type} [Monad m] [LawfulMonad m]

/-! ## Parsing next to a state -/

/-- An operation next to a state that does what another one does without it. -/
def Lifts {σ ε α : Type} (x : ExceptT ε (StateT σ m) α) (y : ExceptT ε m α) : Prop := x.run = liftM y.run

section

variable {σ ε α β : Type}

theorem Lifts.bind {x : ExceptT ε (StateT σ m) α} {y : ExceptT ε m α} {f : α → ExceptT ε (StateT σ m) β}
    {g : α → ExceptT ε m β} (h : Lifts x y) (hnext : ∀ a, Lifts (f a) (g a)) : Lifts (x >>= f) (y >>= g) := by
  have hrun : ∀ a s, (f a).run.run s = (fun r => (r, s)) <$> (g a).run := by
    intro a s
    rw [hnext a]
    simp
  -- Both sides run the first operation; what follows is compared for each of its outcomes.
  refine StateT.ext fun s => ?_
  rw [ExceptT.run_bind, StateT.run_bind, h]
  simp only [StateT.run_monadLift, monadLift_self, ExceptT.run_bind, bind_pure_comp, bind_map_left, map_bind]
  congr 1
  funext r
  cases r with
  | error e => simp
  | ok a => exact hrun a s

theorem lifts_pure (a : α) : Lifts (pure a : ExceptT ε (StateT σ m) α) (pure a) := by
  simp [Lifts]

theorem lifts_throw (e : ε) : Lifts (throw e : ExceptT ε (StateT σ m) α) (throw e) := by
  simp [Lifts]

theorem lifts_liftM (x : m α) : Lifts (liftM (liftM x : StateT σ m α) : ExceptT ε (StateT σ m) α) (liftM x) := by
  simp [Lifts]

end

theorem FileAccess.readText_withState {σ : Type} (files : FileAccess m) (p : Path) :
    (files.withState σ).readText p = liftM (files.readText p) := by
  simp [FileAccess.readText, FileAccess.withState]

/-- An extractor next to a state of another kind. -/
def TextExtractor.withState (σ : Type) (extractor : TextExtractor m) : TextExtractor (StateT σ m) where
  extract path type := ExceptT.mk (liftM (extractor.extract path type).run)

/-- The text of a source comes next to a state as it does without it. -/
theorem TextSource.extractor_withState {σ : Type} (files : FileAccess m) (source : TextSource) :
    source.extractor (files.withState σ) = (source.extractor files).withState σ := by
  cases source with
  | given text =>
    rw [extractor, extractor, TextExtractor.withState]
    congr
    funext path type
    exact lifts_pure text
  | file textPath =>
    rw [extractor, extractor, TextExtractor.withState]
    congr
    funext path type
    rw [FileAccess.readText_withState]
    refine (lifts_liftM (files.readText textPath)).bind fun r => ?_
    cases r with
    | error e => exact lifts_throw _
    | ok text => exact lifts_pure text

namespace Template

variable {σ : Type} (files : FileAccess m)

theorem lifts_typeOf (path : Path) : Lifts (typeOf (files.withState σ) path) (typeOf files path) := by
  unfold typeOf
  cases TemplateType.ofPath path with
  | unknown => exact lifts_throw _
  | docx | odt =>
    refine (lifts_liftM _).bind fun r => ?_
    cases r with
    | error e => exact lifts_throw _
    | ok bytes =>
      dsimp only
      split
      · exact lifts_pure _
      · exact lifts_throw _

/-- **A template is parsed next to a state as without it.** -/
theorem lifts_parse (extractor : TextExtractor m) (path : Path) (id : String) (now : Calendar.Timestamp) :
    Lifts (parse (files.withState σ) (extractor.withState σ) path id now) (parse files extractor path id now) := by
  refine (lifts_typeOf files path).bind fun type => ?_
  have htext : Lifts ((extractor.withState σ).extract path type) (extractor.extract path type) := rfl
  exact htext.bind fun _ => lifts_pure _

end Template

namespace Store

/-! ## Settling beside another state -/

/-- An operation on texts in memory that gives and leaves the same in another monad. -/
def RunsAs {α : Type} (x : ExceptT StoreError (StateT (Dict String) m) α)
    (y : ExceptT StoreError (StateT (Dict String) Id) α) : Prop :=
  ∀ d, x.run.run d = pure (onMemory y d)

section

variable {α β : Type}

theorem RunsAs.bind {x : ExceptT StoreError (StateT (Dict String) m) α}
    {y : ExceptT StoreError (StateT (Dict String) Id) α} {f : α → ExceptT StoreError (StateT (Dict String) m) β}
    {g : α → ExceptT StoreError (StateT (Dict String) Id) β} (h : RunsAs x y) (hnext : ∀ a, RunsAs (f a) (g a)) :
    RunsAs (x >>= f) (y >>= g) := by
  intro d
  rw [ExceptT.run_bind, StateT.run_bind, h d, pure_bind, onMemory_bind]
  generalize onMemory y d = r
  obtain ⟨outcome, e⟩ := r
  cases outcome with
  | error error => simp
  | ok a => exact hnext a e

omit [LawfulMonad m] in
theorem runsAs_pure (a : α) : RunsAs (pure a : ExceptT StoreError (StateT (Dict String) m) α) (pure a) := by
  intro d
  simp

omit [LawfulMonad m] in
theorem runsAs_throw (e : StoreError) :
    RunsAs (throw e : ExceptT StoreError (StateT (Dict String) m) α) (throw e) := by
  intro d
  simp

theorem runsAs_state (f : Dict String → α × Dict String) :
    RunsAs (modifyGet f : ExceptT StoreError (StateT (Dict String) m) α) (modifyGet f) := by
  intro d
  show StateT.run (Except.ok <$> (modifyGet f : StateT (Dict String) m α)) d = pure (.ok (f d).1, (f d).2)
  simp

end

theorem runsAs_read (k : String) : RunsAs (m := m) (Backend.memory.read k) (Backend.memory.read k) :=
  (runsAs_state fun d => (d, d)).bind fun d => runsAs_pure (d.get? k)

theorem runsAs_write (k text : String) : RunsAs (m := m) (Backend.memory.write k text) (Backend.memory.write k text) :=
  runsAs_state fun d => ((), d.insert k text)

theorem runsAs_remove (k : String) : RunsAs (m := m) (Backend.memory.remove k) (Backend.memory.remove k) :=
  runsAs_state fun d => ((), d.erase k)

theorem runsAs_save (id : String) (s : Schema) :
    RunsAs (m := m) (save Backend.memory id s) (save Backend.memory id s) := by
  refine (runsAs_read (key id)).bind fun text => ?_
  split
  · split
    · exact runsAs_throw _
    · exact runsAs_write (key id) s.text
  · exact runsAs_write (key id) s.text

theorem runsAs_removeAll (keys : List String) :
    RunsAs (m := m) (removeAll Backend.memory keys) (removeAll Backend.memory keys) := by
  induction keys with
  | nil => exact runsAs_pure ()
  | cons k rest ih => exact (runsAs_remove k).bind fun _ => ih

/-- **What is kept is settled in the same way beside any other state.** -/
theorem runsAs_settle (id : String) (parse : Except ParseFailure Schema) :
    RunsAs (m := m) (settle Backend.memory id parse) (settle Backend.memory id parse) := by
  cases parse with
  | ok s => exact (runsAs_save id s).bind fun _ => runsAs_pure _
  | error failure => exact (runsAs_removeAll (key id :: mirrorKeys id)).bind fun _ => runsAs_pure _

/-- **Parsing again is a parse, whose outcome settles what is kept.** -/
theorem reparseWith_run (files : FileAccess m) (extractor : TextExtractor m) (event : ReparseEvent)
    (now : Calendar.Timestamp) (d : Dict String) :
    (reparseWith (files.withState (Dict String)) (extractor.withState (Dict String)) Backend.memory event now).run.run d =
      (fun parse => onMemory (settle Backend.memory event.id parse) d) <$>
        (Template.parse files extractor event.path event.id now).run := by
  have hparse := Template.lifts_parse (σ := Dict String) files extractor event.path event.id now
  unfold Lifts at hparse
  unfold reparseWith
  rw [hparse]
  rw [map_eq_pure_bind]
  simp only [ExceptT.run_bind, ExceptT.run_liftM, bind_map_left, StateT.run_bind, StateT.run_monadLift,
    monadLift_self, bind_assoc, pure_bind]
  exact bind_congr fun parse => runsAs_settle event.id parse d

end Store

end

/-! ## The schemas of a parse -/

section

variable {σ : Type} {files : FileAccess (StateM σ)} {extractor : TextExtractor (StateM σ)} {path : Path} {id : String}
  {now : Calendar.Timestamp} {state : σ} {s : Schema}

namespace Store

/-- The schema of a parse is built from a text. -/
theorem exists_text_of_parse (h : (runFrom (Template.parse files extractor path id now) state).1 = .ok s) :
    ∃ type text, s = Schema.ofText ⟨type, id, now⟩ text := by
  obtain ⟨type, _, h⟩ := exists_of_runFrom_bind h
  obtain ⟨text, _, h⟩ := exists_of_runFrom_bind h
  exact ⟨type, text, (Except.ok.inj h).symm⟩

/-- **The schemas of a parse can be kept and read back as they are.** -/
theorem storable_of_parse (hdate : now.date.isValid = true) (hnow : now.EndsMinute)
    (h : (runFrom (Template.parse files extractor path id now) state).1 = .ok s) : Storable s ∧ s.asRead = s := by
  obtain ⟨type, text, rfl⟩ := exists_text_of_parse h
  have hsource : (Schema.ofText ⟨type, id, now⟩ text).source.parsedAt = now := by
    rw [Schema.ofText, Schema.ofMarkers_eq_declared]
  refine ⟨⟨Schema.check_eq_ok_iff.mpr (Schema.wellFormed_ofMarkers _ _), ?_⟩, Schema.asRead_eq_self_iff.mpr ?_⟩
  · rw [hsource]
    exact hdate
  · rw [hsource]
    exact hnow

/-! ## Settling -/

/-- What has to come of a parse for texts under an identifier, and the texts that it has to leave. -/
structure Settled (d : Dict String) (id : String) (parse : Except ParseFailure Schema)
    (outcome : Except StoreError ReparseOutcome) (d' : Dict String) : Prop where
  /-- A schema is got from then on, unless a greater version is kept. -/
  replaced : ∀ s, parse = .ok s → (∀ stored, versionOf? d id = some stored → stored ≤ s.version) →
    outcome = .ok (.replaced s.summary) ∧ (step d' (.get id)).1 = .ok (.schema (some s))
  /-- A greater version stays, and so does everything else. -/
  refused : ∀ s stored, parse = .ok s → versionOf? d id = some stored → s.version < stored →
    outcome = .error (.versionRegression id stored s.version) ∧ d' = d
  /-- A failure leaves no schema and nothing of what earlier releases kept of it. -/
  cleared : ∀ failure, parse = .error failure →
    outcome = .ok (.cleared failure.userMessage) ∧ (step d' (.get id)).1 = .ok (.schema none) ∧
      ∀ k ∈ mirrorKeys id, d'.get? k = none
  /-- Other keys, such as those of other identifiers, keep their texts. -/
  other : ∀ k, k ∉ key id :: mirrorKeys id → d'.get? k = d.get? k

/-- A new schema is settled by a save. -/
theorem onMemory_settle_ok (d : Dict String) (id : String) (s : Schema) :
    onMemory (settle Backend.memory id (.ok s)) d =
      ((step d (.save id s)).1.map fun _ => .replaced s.summary, (step d (.save id s)).2) := by
  simp only [step, perform, settle, onMemory_bind]
  generalize onMemory (save Backend.memory id s) d = r
  obtain ⟨outcome, e⟩ := r
  cases outcome <;> rfl

/-- A failure is settled by a delete. -/
theorem onMemory_settle_error (d : Dict String) (id : String) (failure : ParseFailure) :
    onMemory (settle Backend.memory id (.error failure)) d =
      (.ok (.cleared failure.userMessage), (step d (.delete id)).2) := by
  rw [step_delete, settle, delete, onMemory_bind, onMemory_removeAll]
  rfl

/-- **A parse is settled whose schema is storable and read back as it is.** -/
theorem settled_settle (d : Dict String) (id : String) (parse : Except ParseFailure Schema)
    (h : ∀ s, parse = .ok s → Storable s ∧ s.asRead = s) :
    Settled d id parse (onMemory (settle Backend.memory id parse) d).1
      (onMemory (settle Backend.memory id parse) d).2 := by
  cases parse with
  | ok s =>
    rw [onMemory_settle_ok]
    refine ⟨?replaced, ?refused, nofun, ?other⟩
    case replaced =>
      -- The guard lets the save pass, and the text that it writes reads back as the schema.
      rintro t ⟨⟩ hnone
      rcases step_save_cases d id s with ⟨stored, hstored, hlt, -⟩ | ⟨-, hsave⟩
      · exact absurd (UInt32.lt_of_lt_of_le hlt (hnone stored hstored)) (UInt32.lt_irrefl _)
      · rw [hsave]
        have htext : (d.insert (key id) s.text).get? (key id) = some s.text := by
          rw [Dict.get?_insert, if_pos rfl]
        obtain ⟨hstorable, hsame⟩ := h s rfl
        have hdecode := hstorable.decode_text id
        rw [hsame] at hdecode
        exact ⟨rfl, step_get_eq_some_iff.mpr ⟨s.text, htext, decode_eq_ok_iff.mp hdecode⟩⟩
    case refused =>
      rintro t stored ⟨⟩ hstored hlt
      rcases step_save_cases d id s with ⟨kept, hkept, -, hsave⟩ | ⟨hguard, -⟩
      · cases hstored.symm.trans hkept
        rw [hsave]
        exact ⟨rfl, rfl⟩
      · exact absurd (UInt32.lt_of_lt_of_le hlt (hguard stored hstored)) (UInt32.lt_irrefl _)
    case other =>
      intro k hk
      exact get?_step_of_not_mem (c := .save id s) hk d
  | error failure =>
    rw [onMemory_settle_error]
    have hremoved : ∀ k ∈ key id :: mirrorKeys id, (step d (.delete id)).2.get? k = none := by
      intro k hk
      rw [step_delete, get?_foldl_erase, if_pos hk]
    refine ⟨nofun, nofun, ?cleared, ?other⟩
    case cleared =>
      rintro f ⟨⟩
      refine ⟨rfl, ?_, fun k hk => hremoved k (List.mem_cons_of_mem _ hk)⟩
      rw [step_get, hremoved (key id) List.mem_cons_self]
    case other =>
      intro k hk
      exact get?_step_of_not_mem (c := .delete id) hk d

/-- What parsing again gives and leaves for texts in memory, beside the state of the files and of the extractor. -/
def reparseFrom (files : FileAccess (StateM σ)) (extractor : TextExtractor (StateM σ)) (event : ReparseEvent)
    (now : Calendar.Timestamp) (d : Dict String) (state : σ) : (Except StoreError ReparseOutcome × Dict String) × σ :=
  Id.run (((reparseWith (files.withState (Dict String)) (extractor.withState (Dict String)) Backend.memory event
    now).run.run d).run state)

/-- A source is one of the extractors. -/
theorem reparseFrom_source (files : FileAccess (StateM σ)) (source : TextSource) (event : ReparseEvent)
    (now : Calendar.Timestamp) (d : Dict String) (state : σ) :
    reparseFrom files (source.extractor files) event now d state =
      Id.run (((reparse (files.withState (Dict String)) Backend.memory event source now).run.run d).run state) := by
  rw [reparseFrom, reparse, TextSource.extractor_withState]

theorem reparseFrom_eq (files : FileAccess (StateM σ)) (extractor : TextExtractor (StateM σ)) (event : ReparseEvent)
    (now : Calendar.Timestamp) (d : Dict String) (state : σ) :
    reparseFrom files extractor event now d state =
      (onMemory (settle Backend.memory event.id
        (runFrom (Template.parse files extractor event.path event.id now) state).1) d,
        (runFrom (Template.parse files extractor event.path event.id now) state).2) := by
  rw [reparseFrom, reparseWith_run, StateT.run_map]
  rfl

/-- **Parsing again leaves no outdated schema,** for all texts that are kept and whatever comes of the parse: a get
answers the new schema, or that there is none, or the save was refused and nothing is changed. The keys of other
identifiers keep their texts. Nothing is assumed of the files and of the extractor, and of the time of the parse only what
holds of a clock: it is on a day of the calendar and in no leap second inside a minute. -/
theorem reparse_settled (files : FileAccess (StateM σ)) (extractor : TextExtractor (StateM σ)) (event : ReparseEvent)
    {now : Calendar.Timestamp} (hdate : now.date.isValid = true) (hnow : now.EndsMinute) (d : Dict String) (state : σ) :
    Settled d event.id (runFrom (Template.parse files extractor event.path event.id now) state).1
        (reparseFrom files extractor event now d state).1.1 (reparseFrom files extractor event now d state).1.2 ∧
      ∀ i k, i ≠ event.id → k ∈ key i :: mirrorKeys i →
        (reparseFrom files extractor event now d state).1.2.get? k = d.get? k := by
  rw [reparseFrom_eq]
  have hsettled := settled_settle d event.id
    (runFrom (Template.parse files extractor event.path event.id now) state).1
    fun s hparse => storable_of_parse hdate hnow hparse
  exact ⟨hsettled, fun i k hne hk => hsettled.other k (not_mem_keys_of_ne hne hk)⟩

end Store

end

namespace Store

/-- The files of one template. -/
def letterTree : FileTree :=
  .directory [("letter.docx", .file ⟨#[0x50, 0x4B, 0x03, 0x04]⟩), ("letter.odt", .file ⟨#[0x50, 0x4B, 0x03, 0x04]⟩)]

/-- A converter that gives a text, and crashes on templates of another format. -/
def converter : TextExtractor (StateM FileTree) where
  extract _ type := match type with
    | .docx => return "[name;type=text]"
    | _ => throw (.extraction "converter crashed")

/-- A parse of the template at a path. -/
def parseLetter (path : String) : Except ParseFailure Schema :=
  (runFrom (Template.parse FileTree.files converter ⟨path⟩ "a" (letter 1).source.parsedAt) letterTree).1

/-- Why the template at a path gives no schema, if it gives none. -/
def letterFailure? (path : String) : Option ParseFailure :=
  match parseLetter path with
  | .ok _ => none
  | .error failure => some failure

/-- Parsing the template at a path again where only the given text is kept. -/
def reparseLetter (path kept : String) : Except StoreError ReparseOutcome × Dict String :=
  (reparseFrom FileTree.files converter ⟨"a", ⟨path⟩, .requested⟩ (letter 1).source.parsedAt (holding kept)
    letterTree).1

/-- An unreadable text is replaced, a greater version stays, and a converter that crashes clears it. -/
theorem reparse_settled_letter :
    (letter 1).source.parsedAt.date.isValid = true ∧ (letter 1).source.parsedAt.EndsMinute ∧
      (reparseLetter "letter.docx" "[").1 = .ok (.replaced ⟨1, []⟩) ∧
      reparseLetter "letter.docx" (letter 9).text =
        (.error (.versionRegression "a" 9 2), holding (letter 9).text) ∧
      (reparseLetter "letter.odt" (letter 9).text).1 =
        .ok (.cleared "Could not read template text: converter crashed") ∧
      (step (reparseLetter "letter.odt" (letter 9).text).2 (.get "a")).1 = .ok (.schema none) := by
  have hdate : (letter 1).source.parsedAt.date.isValid = true := by decide
  have hnow : (letter 1).source.parsedAt.EndsMinute := by decide
  have hsettled : ∀ path kept,
      Settled (holding kept) "a" (parseLetter path) (reparseLetter path kept).1 (reparseLetter path kept).2 := by
    intro path kept
    unfold parseLetter reparseLetter
    exact (reparse_settled FileTree.files converter ⟨"a", ⟨path⟩, .requested⟩ hdate hnow (holding kept) letterTree).1
  have hparse : (parseLetter "letter.docx").toOption.map (fun s => (s.version, s.summary)) = some (2, ⟨1, []⟩) := by
    decide +kernel
  have hfailure : parseLetter "letter.odt" = .error (.extraction "converter crashed") := by
    have hreason : letterFailure? "letter.odt" = some (.extraction "converter crashed") := by decide +kernel
    unfold letterFailure? at hreason
    split at hreason
    · cases hreason
    · rename_i failure hs
      rw [hs, Option.some.inj hreason]
  have hmessage : (ParseFailure.extraction "converter crashed").userMessage =
      "Could not read template text: converter crashed" := by decide +kernel
  have hunreadable : versionOf? (holding "[") "a" = none := by decide +kernel
  have hnewer : versionOf? (holding (letter 9).text) "a" = some 9 := by
    rw [versionOf?, get?_holding, Option.bind_some, Schema.readVersion?_text]
    rfl
  obtain ⟨hcleared, hgone, -⟩ := (hsettled "letter.odt" (letter 9).text).cleared _ hfailure
  rw [hmessage] at hcleared
  cases hs : parseLetter "letter.docx" with
  | error failure => simp [hs, Except.toOption] at hparse
  | ok s =>
    simp only [hs, Except.toOption, Option.map_some, Option.some.injEq, Prod.mk.injEq] at hparse
    obtain ⟨hversion, hsummary⟩ := hparse
    obtain ⟨hreplaced, -⟩ := (hsettled "letter.docx" "[").replaced s hs (by simp [hunreadable])
    obtain ⟨hrefused, hkept⟩ := (hsettled "letter.docx" (letter 9).text).refused s 9 hs hnewer
      (by rw [hversion]; decide)
    rw [hsummary] at hreplaced
    rw [hversion] at hrefused
    exact ⟨hdate, hnow, hreplaced, Prod.ext hrefused hkept, hcleared, hgone⟩

end Store

end FormTemplate
