import BoundQuery.Proofs.ExchangeCourse
import BoundQuery.Session

/-!
# Precedence of options

Keyword options are laid over a mapping name by name, and only then are the fields
looked up, the long name of a field before its short one. A keyword under a short name
therefore does not win over a mapping that uses the long name of the same field.

The main statement says with which values a session opens its connection: those of the
keywords where they name a field, unless they are shadowed in this way, and else those of
the mapping, and else those of the settings.
-/

namespace BoundQuery

namespace OptionTable

/-! ## Looking up a field in merged tables -/

/-- A keyword names a field by its short name, and a mapping by its long one. -/
def Shadowed (table keywords : OptionTable) (field : OptionField) : Prop :=
  ∃ long short, field.names = [long, short] ∧
    keywords.find? long = none ∧ keywords.find? short ≠ none ∧ table.find? long ≠ none

theorem findFirst?_cons (table : OptionTable) (name : String) (rest : List String) :
    table.findFirst? (name :: rest) =
      ((table.find? name).map fun value => (name, value)).or (table.findFirst? rest) := by
  rw [findFirst?]
  cases table.find? name with
  | some value => rfl
  | none => rw [Option.map_none, Option.none_or]

section Merging

variable {table keywords : OptionTable} {field : OptionField}

theorem field?_merge_of_shadowed (shadowed : Shadowed table keywords field) :
    (table.merge keywords).field? field = table.field? field := by
  obtain ⟨long, short, names, absent, _, present⟩ := shadowed
  obtain ⟨value, found⟩ := Option.ne_none_iff_exists'.mp present
  unfold field?
  rw [names]
  simp only [findFirst?_cons, find?_merge, absent, found]
  rfl

theorem names_cases (field : OptionField) :
    (∃ only, field.names = [only]) ∨ ∃ long short, field.names = [long, short] := by
  cases field with
  | hostname => exact Or.inr ⟨"hostname", "host", rfl⟩
  | username => exact Or.inr ⟨"username", "user", rfl⟩
  | password => exact Or.inr ⟨"password", "pass", rfl⟩
  | database => exact Or.inr ⟨"database", "db", rfl⟩
  | port => exact Or.inl ⟨"port", rfl⟩
  | socket => exact Or.inl ⟨"socket", rfl⟩
  | charset => exact Or.inl ⟨"charset", rfl⟩

theorem field?_merge_of_not_shadowed (plain : ¬ Shadowed table keywords field) :
    (table.merge keywords).field? field =
      (keywords.field? field).or (table.field? field) := by
  unfold field?
  rcases names_cases field with ⟨only, names⟩ | ⟨long, short, names⟩
  · rw [names, findFirst?_cons, findFirst?_cons, findFirst?_cons, find?_merge]
    cases keywords.find? only <;> rfl
  · rw [names]
    simp only [findFirst?_cons, find?_merge]
    -- Only a long name that the keywords lack lets the table come first.
    cases keywordLong : keywords.find? long with
    | some value => rfl
    | none =>
        cases tableLong : table.find? long with
        | none => cases keywords.find? short <;> rfl
        | some value =>
            have keywordShort : keywords.find? short = none :=
              Classical.byContradiction fun present =>
                plain ⟨long, short, names, keywordLong, present, by simp [tableLong]⟩
            rw [keywordShort]
            rfl

end Merging

end OptionTable

/-! ## Values with which a connection is opened -/

namespace Session

open Exchange

/-- The checked value of a field that was looked up. -/
def checkedOr {result : Type} (found : Option (String × Value)) (fallback : result)
    (check : String → Value → Checked result) : Checked result :=
  match found with
  | some (name, value) => check name value
  | none => .valid fallback

/-- A connection is opened with the value of a field that was looked up, or with that of
the settings when nothing was found. -/
def OpensWith (settings : Settings) (arguments : ConnectArguments)
    (found : Option (String × Value)) : OptionField → Prop
  | .hostname => checkedOr found settings.hostname checkText = .valid arguments.host
  | .username => checkedOr found settings.username checkText = .valid arguments.user
  | .password => checkedOr found settings.password checkText = .valid arguments.password
  | .database =>
      (checkedOr found settings.database checkText).map
        (fun name => if name = [] then none else some name) = .valid arguments.database
  | .port => checkedOr found settings.port checkInteger = .valid arguments.port
  | .socket => checkedOr found settings.socket checkOptionalText = .valid arguments.socket
  | .charset => checkedOr found settings.charset checkText = .valid arguments.charset

theorem opensWith_of_resolve
    {settings : Settings} {table : OptionTable} {options : ConnectionOptions}
    (valid : ConnectionOptions.resolve settings table = .valid options)
    (field : OptionField) :
    OpensWith settings (Opening.arguments settings options) (table.field? field) field := by
  simp only [ConnectionOptions.resolve, Checked.apply_eq_valid_iff] at valid
  obtain ⟨_, _, ⟨_, _, ⟨_, _, ⟨_, _, ⟨_, _, ⟨_, _, ⟨_, _, build, hostname, rfl⟩,
    username, rfl⟩, password, rfl⟩, database, rfl⟩, port, rfl⟩, socket, rfl⟩,
    charset, rfl⟩ := valid
  cases build
  cases field with
  | hostname => exact hostname
  | username => exact username
  | password => exact password
  | database =>
      have named : checkedOr (table.field? .database) settings.database checkText =
          .valid _ := database
      unfold OpensWith
      rw [named]
      rfl
  | port => exact port
  | socket => exact socket
  | charset => exact charset

/-! ## Opening a session -/

section Opening

variable {connection : Connection} {script : Script} {settings : Settings}

theorem refusal_of_interruption (fault : Fault) (interrupts : fault.isInterruption = true) :
    Opening.refusal fault = fault := by
  obtain ⟨arguments, rfl⟩ := (Fault.isInterruption_iff fault).mp interrupts
  rfl

theorem connect_takes
    (scripted : connection.backend = .scripted script) {options : ConnectionOptions}
    (known : isKnownCharset options.charset = true) :
    (Opening.connect settings options).Takes connection
      ⟨(raising script.connectError).mapError Opening.refusal,
        [.connect (Opening.arguments settings options)]⟩ := by
  have announces := takes_notify (Opening.announcement options) connection
  have scriptedThen := announces.backend.trans scripted
  have asks : (Opening.request (Opening.arguments settings options)).Takes
      ((Exchange.notify (Opening.announcement options)).after connection)
      ⟨raising script.connectError,
        [.connect (Opening.arguments settings options)]⟩ := by
    apply (takes_request scriptedThen (.connect (Opening.arguments settings options))
      script.connectError).of_eq
    rw [Opening.request, Opening.refusal?, scriptedThen]
  unfold Opening.connect
  rw [if_pos known]
  exact takes_bind_of_ok announces (takes_rewording asks refusal_of_interruption)

theorem connectTable_takes
    (scripted : connection.backend = .scripted script)
    {table : OptionTable} {options : ConnectionOptions}
    (valid : ConnectionOptions.resolve settings table = .valid options)
    (known : isKnownCharset options.charset = true) :
    (Opening.connectTable settings table).Takes connection
      ⟨(raising script.connectError).mapError Opening.refusal,
        [.connect (Opening.arguments settings options)]⟩ := by
  have settled : Opening.settle settings table = .ok options := by
    rw [Opening.settle, valid]
  have settles := takes_ofExcept (Opening.settle settings table) connection
  unfold Opening.connectTable
  rw [settled] at settles ⊢
  exact takes_bind_of_ok settles (connect_takes (settles.backend.trans scripted) known)

theorem start_takes
    (scripted : connection.backend = .scripted script)
    {source : Value} {table keywords : OptionTable} {options : ConnectionOptions}
    (mapping : OptionTable.ofValue source = .ok table)
    (valid : ConnectionOptions.resolve settings (table.merge keywords) = .valid options)
    (known : isKnownCharset options.charset = true) :
    (start settings (.mapping source) keywords).Takes connection
      ⟨((raising script.connectError).mapError Opening.refusal).map fun _ =>
          ⟨settings, false⟩,
        [.connect (Opening.arguments settings options)]⟩ := by
  have reads : (Exchange.ofExcept (OptionTable.ofValue source)).Takes connection
      ⟨.ok table, []⟩ := by
    rw [mapping]
    exact takes_ofExcept (.ok table) connection
  unfold start
  have opens := connectTable_takes (reads.backend.trans scripted) valid known
  exact takes_bind_of_ok reads (takes_bind_pure opens (Session.mk settings false))

end Opening

/-- A session opens its connection with the options of the keywords laid over those of
the mapping, except for keywords that are shadowed. -/
theorem start_lays_keywords_over_mapping
    {connection : Connection} {script : Script}
    (scripted : connection.backend = .scripted script)
    {settings : Settings} {source : Value} {table keywords : OptionTable}
    {options : ConnectionOptions}
    (mapping : OptionTable.ofValue source = .ok table)
    (valid : ConnectionOptions.resolve settings (table.merge keywords) = .valid options)
    (known : isKnownCharset options.charset = true) :
    ∃ arguments,
      (start settings (.mapping source) keywords).asked connection =
          [.connect arguments] ∧
        (script.connectError = none →
          (start settings (.mapping source) keywords).answer connection =
            .ok ⟨settings, false⟩) ∧
        ∀ field,
          (OptionTable.Shadowed table keywords field →
            OpensWith settings arguments (table.field? field) field) ∧
          (¬ OptionTable.Shadowed table keywords field →
            OpensWith settings arguments
              ((keywords.field? field).or (table.field? field)) field) := by
  have starts := start_takes scripted mapping valid known
  refine ⟨Opening.arguments settings options, starts.asked_eq, ?_, ?_⟩
  · intro accepted
    rw [starts.answer, accepted]
    rfl
  · intro field
    have opens := opensWith_of_resolve valid field
    constructor
    · intro shadowed
      rwa [OptionTable.field?_merge_of_shadowed shadowed] at opens
    · intro plain
      rwa [OptionTable.field?_merge_of_not_shadowed plain] at opens

def replicaMapping : Value :=
  .mapping .dictionary
    [(.text (Text.ofString "hostname"), .text (Text.ofString "replica"))]

def replicaTable : OptionTable :=
  [(Text.ofString "hostname", .text (Text.ofString "replica"))]

/-- The keyword of the primary host, under one of the names of the field. -/
def primaryKeyword (name : String) : OptionTable :=
  [(Text.ofString name, .text (Text.ofString "primary"))]

/-- The options of the settings, but for the host. -/
def optionsOn (host : String) : ConnectionOptions where
  hostname := Text.ofString host
  username := Settings.default.username
  password := Settings.default.password
  database := Settings.default.database
  port := Settings.default.port
  socket := Settings.default.socket
  charset := Settings.default.charset

theorem start_lays_keywords_over_mapping_primary :
    ∃ arguments,
      (start Settings.default (.mapping replicaMapping) (primaryKeyword "hostname")).asked
        (.following []) = [.connect arguments] ∧
      arguments.host = Text.ofString "primary" := by
  have scripted : (Connection.following []).backend = .scripted ⟨none, [], none⟩ := rfl
  have mapping : OptionTable.ofValue replicaMapping = .ok replicaTable := rfl
  have valid : ConnectionOptions.resolve Settings.default
      (replicaTable.merge (primaryKeyword "hostname")) = .valid (optionsOn "primary") := rfl
  have plain : ¬ OptionTable.Shadowed replicaTable (primaryKeyword "hostname")
      .hostname := by
    rintro ⟨long, short, names, absent, _⟩
    cases names
    cases absent
  obtain ⟨arguments, asked, _, fields⟩ :=
    start_lays_keywords_over_mapping scripted mapping valid rfl
  have opens : .valid (Text.ofString "primary") = Checked.valid arguments.host :=
    (fields .hostname).2 plain
  exact ⟨arguments, asked, (Checked.valid.inj opens).symm⟩

/-- A keyword under the short name of a field does not win over the long name. -/
theorem shadowed_keyword_is_ignored :
    (start Settings.default (.mapping replicaMapping) (primaryKeyword "host")).asked
      (.following []) =
      [.connect (Opening.arguments Settings.default (optionsOn "replica"))] :=
  rfl

end Session

end BoundQuery
