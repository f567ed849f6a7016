import MacroLoader.TextReplacement
import MacroLoader.IngestionRecords

/-!
# Secrets in logs, events and stored errors

Three texts leave the program that secrets must not be in: the lines of the debug log,
the operational events, and the error texts in the manifest of runs. In all three every
secret is replaced by asterisks, one after the other. A secret that has no asterisk in it
is not left by that, however the secrets overlap (`freeOf_redact`).

A line of the debug log has more than its message, though. The filter redacts the message
of a record and nothing else, and the formatter appends the text of an attached exception
and of the stack as it is. So a secret reaches the file if, and only if, one of these has
it (`leavesNoSecret_iff`).
-/

/-! ## Redacting a text -/

/-- Whether a secret occurs in a text. -/
def Contains (text secret : String) : Prop := secret.toList <:+: text.toList

instance (text secret : String) : Decidable (Contains text secret) :=
  inferInstanceAs (Decidable (_ <:+: _))

/-- What a secret is replaced by. -/
def stars : String := "***"

/-- A text with every secret replaced, one after the other. -/
def redact (secrets : List String) (text : String) : String :=
  secrets.foldl (fun text secret => replaceText secret stars text) text

/-- Secrets that are not empty and have no asterisk. -/
def StarFree (secrets : List String) : Prop := ∀ secret ∈ secrets, secret ≠ "" ∧ '*' ∉ secret.toList

theorem replaceChars_eq (pattern replacement : List Char) (skip : ℕ) (text : List Char) :
    replaceChars pattern replacement skip text
      = TextReplacement.replaceFrom pattern replacement skip text := by
  induction text generalizing skip with
  | nil => cases skip <;> rfl
  | cons c rest ih =>
    cases skip with
    | succ skip => exact ih skip
    | zero => rw [replaceChars, TextReplacement.replaceFrom, ih, ih]

theorem toList_redact (secrets : List String) (text : String) :
    (redact secrets text).toList
      = TextReplacement.replaceEach stars.toList (secrets.map String.toList) text.toList := by
  induction secrets generalizing text with
  | nil => rfl
  | cons secret rest ih =>
    have hstep : (replaceText secret stars text).toList
        = TextReplacement.replace secret.toList stars.toList text.toList := by
      rw [replaceText, String.toList_ofList, replaceChars_eq, TextReplacement.replace]
    rw [redact, List.foldl_cons, ← redact, ih, hstep]
    rfl

/-- A text without any of the secrets. -/
def FreeOf (secrets : List String) (text : String) : Prop :=
  ∀ secret ∈ secrets, ¬ Contains text secret

instance (secrets : List String) (text : String) : Decidable (FreeOf secrets text) :=
  inferInstanceAs (Decidable (∀ _ ∈ _, _))

/-- **No secret is left in a redacted text.** -/
theorem freeOf_redact {secrets : List String} (hsecrets : StarFree secrets) (text : String) :
    FreeOf secrets (redact secrets text) := by
  intro secret hsecret
  rw [Contains, toList_redact]
  refine TextReplacement.not_infix_replaceEach (by decide) (fun word hword => ?_) _
    (List.mem_map_of_mem hsecret)
  obtain ⟨other, hother, rfl⟩ := List.mem_map.mp hword
  obtain ⟨hempty, hstar⟩ := hsecrets other hother
  refine ⟨fun hnil => hempty (String.toList_eq_nil_iff.mp hnil), ?_⟩
  -- the replacement has no letter but the asterisk
  refine List.disjoint_left.mpr (fun c hc hcstar => hstar ?_)
  have hc' : c = '*' := by simpa [stars] using hcstar
  rwa [hc'] at hc

/-- The secrets that are replaced: the empty ones are left out. -/
def configuredSecrets (secrets : List String) : List String := secrets.filter (fun s => s ≠ "")

theorem configuredSecrets_of_starFree {secrets : List String} (h : StarFree secrets) :
    configuredSecrets secrets = secrets :=
  List.filter_eq_self.mpr (fun secret hsecret => decide_eq_true (h secret hsecret).1)

/-! ## Operational events -/

/-- A key of a dictionary: a string, or something else with its text. -/
inductive EventKey
  | text (s : String)
  | other (str : String)

/-- `str(key)`. -/
def EventKey.str : EventKey → String
  | .text s => s
  | .other s => s

/-- **A value of an event.** Lists and tuples are sequences, and whatever is neither a
string nor a container is a scalar. -/
inductive EventValue (Scalar : Type)
  | text (s : String)
  | scalar (value : Scalar)
  | dict (entries : List (EventKey × EventValue Scalar))
  | sequence (items : List (EventValue Scalar))

namespace EventValue

variable {Scalar : Type}

/-- The entries of a dictionary after one more has been written to it. -/
def setEntry (entries : List (EventKey × EventValue Scalar)) (key : String)
    (value : EventValue Scalar) : List (EventKey × EventValue Scalar) :=
  if entries.any (fun e => e.1.str = key) then
    entries.map (fun e => if e.1.str = key then (e.1, value) else e)
  else entries ++ [(.text key, value)]

/-- A dictionary comprehension: of entries with the same key the last value remains. -/
def dictOf (entries : List (String × EventValue Scalar)) : EventValue Scalar :=
  .dict (entries.foldl (fun written e => setEntry written e.1 e.2) [])

mutual

/-- `JsonEventSink._sanitize`. -/
def sanitize (secrets : List String) : EventValue Scalar → EventValue Scalar
  | .text s => .text (redact (configuredSecrets secrets) s)
  | .scalar value => .scalar value
  | .dict entries => dictOf (sanitizeEntries secrets entries)
  | .sequence items => .sequence (sanitizeItems secrets items)

/-- The entries of a dictionary, sanitized. -/
def sanitizeEntries (secrets : List String) :
    List (EventKey × EventValue Scalar) → List (String × EventValue Scalar)
  | [] => []
  | (key, value) :: rest => (key.str, sanitize secrets value) :: sanitizeEntries secrets rest

/-- The items of a sequence, sanitized. -/
def sanitizeItems (secrets : List String) : List (EventValue Scalar) → List (EventValue Scalar)
  | [] => []
  | item :: rest => sanitize secrets item :: sanitizeItems secrets rest

end

mutual

/-- **The string leaves of a value.** -/
def leaves : EventValue Scalar → List String
  | .text s => [s]
  | .scalar _ => []
  | .dict entries => entryLeaves entries
  | .sequence items => itemLeaves items

/-- The string leaves of the entries of a dictionary. -/
def entryLeaves : List (EventKey × EventValue Scalar) → List String
  | [] => []
  | (_, value) :: rest => leaves value ++ entryLeaves rest

/-- The string leaves of the items of a sequence. -/
def itemLeaves : List (EventValue Scalar) → List String
  | [] => []
  | item :: rest => leaves item ++ itemLeaves rest

end

theorem mem_entryLeaves {entries : List (EventKey × EventValue Scalar)} {text : String} :
    text ∈ entryLeaves entries ↔ ∃ e ∈ entries, text ∈ leaves e.2 := by
  induction entries with
  | nil => simp [entryLeaves]
  | cons e rest ih =>
    rw [entryLeaves, List.mem_append, ih, List.exists_mem_cons_iff]

theorem mem_leaves_setEntry {entries : List (EventKey × EventValue Scalar)} {key : String}
    {value : EventValue Scalar} {text : String}
    (h : text ∈ entryLeaves (setEntry entries key value)) :
    text ∈ entryLeaves entries ∨ text ∈ leaves value := by
  rw [mem_entryLeaves] at h ⊢
  obtain ⟨e, he, htext⟩ := h
  rw [setEntry] at he
  split_ifs at he
  · obtain ⟨e', he', rfl⟩ := List.mem_map.mp he
    split_ifs at htext
    · exact .inr htext
    · exact .inl ⟨e', he', htext⟩
  · rcases List.mem_append.mp he with he | he
    · exact .inl ⟨e, he, htext⟩
    · obtain rfl := List.mem_singleton.mp he
      exact .inr htext

/-- **The leaves of a dictionary** are those of the values it was made of. -/
theorem mem_leaves_dictOf {entries : List (String × EventValue Scalar)} {text : String}
    (h : text ∈ leaves (dictOf entries)) : ∃ e ∈ entries, text ∈ leaves e.2 := by
  have hfold : ∀ (l : List (String × EventValue Scalar))
      (written : List (EventKey × EventValue Scalar)),
      text ∈ entryLeaves (l.foldl (fun written e => setEntry written e.1 e.2) written) →
        text ∈ entryLeaves written ∨ ∃ e ∈ l, text ∈ leaves e.2 := by
    intro l
    induction l with
    | nil => exact fun written hwritten => .inl hwritten
    | cons e rest ih =>
      intro written hwritten
      rcases ih _ hwritten with hset | ⟨e', he', htext⟩
      · rcases mem_leaves_setEntry hset with hold | hnew
        · exact .inl hold
        · exact .inr ⟨e, List.mem_cons_self, hnew⟩
      · exact .inr ⟨e', List.mem_cons_of_mem e he', htext⟩
  rcases hfold entries [] h with hnil | hentry
  · cases hnil
  · exact hentry

variable {secrets : List String}

mutual

/-- **No string leaf of a sanitized value has a secret in it.** -/
theorem freeOf_sanitize (hsecrets : StarFree secrets) :
    ∀ value : EventValue Scalar, ∀ leaf ∈ leaves (sanitize secrets value), FreeOf secrets leaf
  | .text s, leaf, hleaf => by
    obtain rfl : leaf = redact (configuredSecrets secrets) s := List.mem_singleton.mp hleaf
    rw [configuredSecrets_of_starFree hsecrets]
    exact freeOf_redact hsecrets s
  | .scalar _, _, hleaf => by cases hleaf
  | .dict entries, leaf, hleaf => by
    obtain ⟨e, he, hvalue⟩ := mem_leaves_dictOf hleaf
    exact freeOf_sanitizeEntries hsecrets entries e he leaf hvalue
  | .sequence items, leaf, hleaf => freeOf_sanitizeItems hsecrets items leaf hleaf

theorem freeOf_sanitizeEntries (hsecrets : StarFree secrets) :
    ∀ entries : List (EventKey × EventValue Scalar), ∀ e ∈ sanitizeEntries secrets entries,
      ∀ leaf ∈ leaves e.2, FreeOf secrets leaf
  | [], _, he => by cases he
  | (_, value) :: rest, e, he => by
    rcases List.mem_cons.mp he with rfl | he
    · exact freeOf_sanitize hsecrets value
    · exact freeOf_sanitizeEntries hsecrets rest e he

theorem freeOf_sanitizeItems (hsecrets : StarFree secrets) :
    ∀ items : List (EventValue Scalar), ∀ leaf ∈ itemLeaves (sanitizeItems secrets items),
      FreeOf secrets leaf
  | [], _, hleaf => by cases hleaf
  | item :: rest, leaf, hleaf => by
    rcases List.mem_append.mp hleaf with hleaf | hleaf
    · exact freeOf_sanitize hsecrets item leaf hleaf
    · exact freeOf_sanitizeItems hsecrets rest leaf hleaf

end

end EventValue

/-! ## The debug log -/

/-- **A log record.** The text of an attached exception is the one the formatter makes of
it; another handler may have left one, too. -/
structure LogRecord (Arg : Type) where
  msg : String
  args : List Arg
  excInfo : Option String
  excText : Option String
  stackInfo : Option String

/-- What the formatter makes of a record, apart from its header. -/
structure DebugEntry where
  message : String
  exception : Option String
  stack : Option String

/-- The texts of an entry. -/
def DebugEntry.texts (entry : DebugEntry) : List String :=
  entry.message :: (entry.exception.toList ++ entry.stack.toList)

/-- A text that is there and not empty. -/
def presentText (text : Option String) : Option String := text.filter (fun s => s ≠ "")

section DebugLog

variable {Arg : Type} (percent : String → List Arg → Option String)

/-- `LogRecord.getMessage`. Without arguments it is the message as it is. -/
def LogRecord.getMessage (record : LogRecord Arg) : Option String :=
  if record.args.isEmpty then some record.msg else percent record.msg record.args

/-- `SecretRedactionFilter.filter`: a record whose message cannot be formatted is dropped. -/
def SecretRedactionFilter.filter (secrets : List String) (record : LogRecord Arg) :
    Option (LogRecord Arg) := do
  let message ← record.getMessage percent
  return { record with msg := redact (configuredSecrets secrets) message, args := [] }

/-- The texts of an attached exception and of the stack. -/
def LogRecord.exception (record : LogRecord Arg) : Option String :=
  presentText ((presentText record.excText).or record.excInfo)

/-- `Formatter.format`. -/
def LogRecord.format (record : LogRecord Arg) : Option DebugEntry := do
  let message ← record.getMessage percent
  return ⟨message, record.exception, presentText record.stackInfo⟩

/-- **What the debug file handler writes** of a record, if it does. -/
def debugEntry (secrets : List String) (record : LogRecord Arg) : Option DebugEntry := do
  let redacted ← SecretRedactionFilter.filter percent secrets record
  redacted.format percent

/-- What is attached to a record. -/
def LogRecord.attached (record : LogRecord Arg) : List String :=
  record.exception.toList ++ (presentText record.stackInfo).toList

/-- The entry of a record has the redacted message, and what is attached as it is. -/
theorem debugEntry_eq (secrets : List String) (record : LogRecord Arg) :
    debugEntry percent secrets record = (record.getMessage percent).map (fun message =>
      ⟨redact (configuredSecrets secrets) message, record.exception,
        presentText record.stackInfo⟩) := by
  rw [debugEntry, SecretRedactionFilter.filter]
  cases record.getMessage percent <;> rfl

/-- **An entry is free of the secrets** if and only if what is attached to its record is. -/
theorem debugEntry_freeOf_iff {secrets : List String} (hsecrets : StarFree secrets)
    (record : LogRecord Arg) :
    (∀ entry, debugEntry percent secrets record = some entry →
        ∀ text ∈ entry.texts, FreeOf secrets text)
      ↔ record.getMessage percent = none ∨ ∀ text ∈ record.attached, FreeOf secrets text := by
  rw [debugEntry_eq, configuredSecrets_of_starFree hsecrets]
  cases record.getMessage percent with
  | none => simp
  | some message =>
    simp only [Option.map_some, Option.some.injEq, forall_eq', reduceCtorEq, false_or]
    constructor
    · exact fun h text htext => h text (List.mem_cons_of_mem _ htext)
    · intro h text htext
      rcases List.mem_cons.mp htext with rfl | htext
      · exact freeOf_redact hsecrets message
      · exact h text htext

end DebugLog

/-! ## Stored errors -/

theorem sanitize_eq {secrets : List String} (hsecrets : StarFree secrets) (text : Option String) :
    sanitize secrets text = text.map (redact secrets) := by
  rw [sanitize]
  congr 1
  funext text
  refine List.foldl_ext _ _ _ (fun text secret hsecret => ?_)
  exact if_neg (hsecrets secret hsecret).1

/-- The error texts of a run record. -/
def IngestionRunRecord.errorTexts (record : IngestionRunRecord) : List String :=
  record.errorCategory.toList ++ record.errorMessage.toList

/-- **The manifest of runs** has no secret in an error text, old or new. -/
theorem freeOf_errorTexts {secrets : List String} (hsecrets : StarFree secrets)
    {format : FileFormat (List IngestionRunRecord)} {file : Option Bytes}
    {run : IngestionRunRecord} {bytes : Bytes} {rows : List IngestionRunRecord}
    (h : upsertRun format secrets file run = .ok bytes)
    (hread : readRuns format (some bytes) = .ok rows) :
    ∀ row ∈ rows, ∀ text ∈ row.errorTexts, FreeOf secrets text := by
  have hsanitized : ∀ record : IngestionRunRecord, ∀ text ∈ (sanitizeRecord secrets record).errorTexts,
      FreeOf secrets text := by
    intro record text htext
    have hfield : ∀ field : Option String, text ∈ (sanitize secrets field).toList →
        FreeOf secrets text := by
      intro field hfield
      rw [sanitize_eq hsecrets, Option.mem_toList, Option.map_eq_some_iff] at hfield
      obtain ⟨original, -, rfl⟩ := hfield
      exact freeOf_redact hsecrets original
    rcases List.mem_append.mp htext with hcategory | hmessage
    · exact hfield _ hcategory
    · exact hfield _ hmessage
  obtain ⟨existing, rows', -, hread', -, hmem⟩ := upsertRun_spec h
  obtain rfl : rows = rows' := Except.ok.inj (hread.symm.trans hread')
  intro row hrow
  rcases (hmem row).mp hrow with rfl | ⟨old, -, -, rfl⟩
  · exact hsanitized run
  · exact hsanitized old

/-! ## What leaves the program -/

section Leaves

variable {Arg Scalar : Type}

/-- **No secret leaves the program**, in an entry of the debug log, in a string leaf of an
event, or in an error text of the manifest that a run is written to. -/
structure LeavesNoSecret (secrets : List String) (percent : String → List Arg → Option String)
    (record : LogRecord Arg) (event : EventValue Scalar)
    (format : FileFormat (List IngestionRunRecord)) (file : Option Bytes)
    (run : IngestionRunRecord) : Prop where
  log : ∀ entry, debugEntry percent secrets record = some entry →
    ∀ text ∈ entry.texts, FreeOf secrets text
  event : ∀ leaf ∈ (event.sanitize secrets).leaves, FreeOf secrets leaf
  manifest : ∀ bytes rows, upsertRun format secrets file run = .ok bytes →
    readRuns format (some bytes) = .ok rows →
      ∀ row ∈ rows, ∀ text ∈ row.errorTexts, FreeOf secrets text

/-- **Exactly the attached texts leak.** No secret leaves the program if and only if the log
record is dropped or neither the exception nor the stack attached to it has one. -/
theorem leavesNoSecret_iff {secrets : List String} (hsecrets : StarFree secrets)
    (percent : String → List Arg → Option String) (record : LogRecord Arg)
    (event : EventValue Scalar) (format : FileFormat (List IngestionRunRecord))
    (file : Option Bytes) (run : IngestionRunRecord) :
    LeavesNoSecret secrets percent record event format file run
      ↔ record.getMessage percent = none ∨ ∀ text ∈ record.attached, FreeOf secrets text := by
  constructor
  · exact fun h => (debugEntry_freeOf_iff percent hsecrets record).mp h.log
  · exact fun h =>
      { log := (debugEntry_freeOf_iff percent hsecrets record).mpr h
        event := EventValue.freeOf_sanitize hsecrets event
        manifest := fun _ _ hupsert hread => freeOf_errorTexts hsecrets hupsert hread }

/-- Two secrets that overlap, in a message and in an event, and a record without anything
attached to it. -/
theorem leavesNoSecret_iff_overlapping : ∃ (format : FileFormat (List IngestionRunRecord))
    (run : IngestionRunRecord),
    LeavesNoSecret ["keykey", "ykeyb"] (fun _ (_ : List String) => none)
        ⟨"the keykeykeyb", [], none, none, none⟩
        (.dict [(.text "url", .sequence [.text "keykeykeyb", .scalar (1 : ℤ)])]) format none run
      ↔ (⟨"the keykeykeyb", [], none, none, none⟩ : LogRecord String).getMessage (fun _ _ => none)
          = none
        ∨ ∀ text ∈ (⟨"the keykeykeyb", [], none, none, none⟩ : LogRecord String).attached,
            FreeOf ["keykey", "ykeyb"] text := by
  obtain ⟨format⟩ := FileFormat.nonempty (List IngestionRunRecord)
  let fields : RunFields :=
    { runId := "run", provider := .fred, seriesId := "us_2y", mode := .update,
      requestedStart := none, requestedEnd := none, fetchedRows := 0, acceptedRows := 0,
      insertedRows := 0, revisedRows := 0, writtenPartitions := 0, status := .failed,
      startedAtUtc := 0, completedAtUtc := 0, errorCategory := none,
      errorMessage := some "no route to keykeykeyb" }
  obtain ⟨run, -⟩ : ∃ run, ingestionRunRecord fields = .ok run :=
    ingestionRunRecord_isOk (by decide +kernel) (by decide) le_rfl (fun _ => by decide)
  exact ⟨format, run, leavesNoSecret_iff (by unfold StarFree; decide +kernel) _ _ _ _ _ _⟩

/-- **The text of an exception is written as it is**, with a password in it. -/
theorem exception_text_leaks :
    StarFree ["hunter2"]
      ∧ ¬ ∀ entry, debugEntry (fun _ (_ : List String) => none) ["hunter2"]
            ⟨"login failed", [], some "Traceback: password=hunter2", none, none⟩ = some entry →
          ∀ text ∈ entry.texts, FreeOf ["hunter2"] text := by
  refine ⟨by unfold StarFree; decide +kernel, fun h => ?_⟩
  have hleak := h _ rfl "Traceback: password=hunter2" (by decide +kernel) "hunter2" (by decide)
  exact hleak (by decide +kernel)

end Leaves
