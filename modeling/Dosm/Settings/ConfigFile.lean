import Dosm.Base.Transition
import Dosm.Python.Value
import Dosm.Python.Yaml

namespace Dosm.Settings

open Python Transition

/-! The settings pages, which rewrite sections of `config.yaml`.

The file is what loading it gives. The application holds a configuration that it read
at some time; a page rebuilds its section from that and from its form, puts it into the
file as it is now, and brings the configuration up to date. Anyone may edit the file in
between. A page that refuses its form writes nothing.
-/

structure GuacamoleConfig where
  enabled : Bool := false
  baseUrl : String := "http://127.0.0.1:8080/guacamole"
  publicUrl : Option String := none
  secretKeyFile : String := "config/guacamole.key"
  sessionTtlSeconds : Int := 1800
  recordingsDir : String := "data/guacamole_recordings"
  recordSessions : Bool := true
  dosmReachableHost : String := "host.docker.internal"
  tunnelBindHost : String := "0.0.0.0"

def GuacamoleConfig.modelDump (config : GuacamoleConfig) : Entries :=
  [(.str "enabled", .bool config.enabled), (.str "base_url", .str config.baseUrl),
    (.str "public_url", .optional .str config.publicUrl), (.str "secret_key_file", .str config.secretKeyFile),
    (.str "session_ttl_seconds", .int config.sessionTtlSeconds),
    (.str "recordings_dir", .str config.recordingsDir), (.str "record_sessions", .bool config.recordSessions),
    (.str "dosm_reachable_host", .str config.dosmReachableHost),
    (.str "tunnel_bind_host", .str config.tunnelBindHost)]

/-- A float, and whether it is zero. -/
structure Seconds where
  text : String
  zero : Bool := false
  deriving DecidableEq

def Seconds.yaml (seconds : Seconds) : Yaml := .scalar (.float seconds.text)

structure SmbDocsConfig where
  server : String := ""
  share : String := ""
  basePath : String := ""
  port : Int := 445
  encrypt : Bool := true
  credentialId : Option Int := none
  pollIntervalSeconds : Seconds := ⟨"60.0", false⟩

def SmbDocsConfig.modelDump (config : SmbDocsConfig) : Entries :=
  [(.str "server", .str config.server), (.str "share", .str config.share),
    (.str "base_path", .str config.basePath), (.str "port", .int config.port),
    (.str "encrypt", .bool config.encrypt), (.str "credential_id", .optional .int config.credentialId),
    (.str "poll_interval_seconds", config.pollIntervalSeconds.yaml)]

def strings (items : List String) : Yaml := .sequence (items.map Yaml.str)

structure DocsIndexConfig where
  chunkSizeChars : Int := 1800
  chunkOverlapChars : Int := 200
  includeGlobs : List String := ["**/*.md", "**/*.markdown", "**/*.txt", "**/*.pdf"]
  excludeGlobs : List String := ["drafts/**"]
  embedder : String := "fastembed"
  embedderModel : String := "BAAI/bge-small-en-v1.5"
  embeddingDim : Int := 384
  autoIndexOnStartup : Bool := true
  source : String := "local"
  smb : SmbDocsConfig := {}

def DocsIndexConfig.modelDump (config : DocsIndexConfig) : Entries :=
  [(.str "chunk_size_chars", .int config.chunkSizeChars), (.str "chunk_overlap_chars", .int config.chunkOverlapChars),
    (.str "include_globs", strings config.includeGlobs), (.str "exclude_globs", strings config.excludeGlobs),
    (.str "embedder", .str config.embedder), (.str "embedder_model", .str config.embedderModel),
    (.str "embedding_dim", .int config.embeddingDim), (.str "auto_index_on_startup", .bool config.autoIndexOnStartup),
    (.str "source", .str config.source), (.str "smb", .mapping config.smb.modelDump)]

structure DirectoryConfig where
  adJumpboxHostId : Option Int := none
  adapter : String := "winrm_jumpbox"
  powershellTimeoutSeconds : Seconds := ⟨"30.0", false⟩

def DirectoryConfig.modelDump (config : DirectoryConfig) : Entries :=
  [(.str "ad_jumpbox_host_id", .optional .int config.adJumpboxHostId), (.str "adapter", .str config.adapter),
    (.str "powershell_timeout_seconds", config.powershellTimeoutSeconds.yaml)]

structure RbacConfig where
  groupRoleMap : List (String × String) := []
  defaultRole : String := "none"

structure Config where
  guacamole : GuacamoleConfig := {}
  docsIndex : DocsIndexConfig := {}
  directory : DirectoryConfig := {}
  rbac : RbacConfig := {}
  cliTools : List (String × Bool) := []

def catalog : List String :=
  ["pwsh", "powershell", "cmd", "bash", "az", "aws", "gcloud", "git", "gh", "terraform", "ansible", "kubectl",
    "helm", "docker", "sfctl"]

inductive File where
  | missing
  | malformed (text : String)
  | document (root : Yaml)

namespace File

/-- The top-level keys; a document that is no mapping counts as empty. -/
def entries : File → Entries
  | .missing | .malformed _ => []
  | .document root => root.entries

def get (file : File) (path : List Scalar) : Option Yaml := (Yaml.mapping file.entries).get path

def below (file : File) (path : List Scalar) : Entries := ((file.get path).map Yaml.entries).getD []

end File

/-- A file that does not parse raises. -/
def updateConfigYaml (updates : Entries) (file : File) : Option File :=
  match file with
  | .malformed _ => none
  | file => some (.document (.mapping (file.entries.update updates)))

/-- A section about to be written: what it is rebuilt from and what the form sets in
it, and the configuration afterwards. -/
structure Update where
  block : Scalar
  kept : Entries
  values : Entries
  config : Config

def Update.written (update : Update) : Yaml := .mapping (update.kept.update update.values)

def settingsSave (config : Config) (submitted : List String) : Update where
  block := .str "cli_tools"
  kept := []
  values := catalog.map fun tool => (.str tool, .bool (decide (tool ∈ submitted)))
  config := { config with cliTools := catalog.map fun tool => (tool, decide (tool ∈ submitted)) }

def integrationsSave (config : Config) (guacamoleEnabled : Option String) (guacamoleBaseUrl : String) : Update :=
  let enabled := guacamoleEnabled.isSome
  let baseUrl := if strip guacamoleBaseUrl = "" then config.guacamole.baseUrl else strip guacamoleBaseUrl
  { block := .str "guacamole"
    kept := config.guacamole.modelDump
    values := [(.str "enabled", .bool enabled), (.str "base_url", .str baseUrl)]
    config := { config with guacamole := { config.guacamole with enabled, baseUrl } } }

structure DocsForm where
  source : String := "local"
  server : String := ""
  share : String := ""
  basePath : String := ""
  port : Int := 445
  encrypt : Option String := none
  credentialId : String := ""
  pollIntervalSeconds : Seconds := ⟨"60.0", false⟩

/-- An id from a form, if it gives one; what is no number raises. -/
def idFromForm (text : String) : Option (Option Int) :=
  if strip text = "" then some none else (parseInt text).map some

def smbFromForm (form : DocsForm) : Option SmbDocsConfig := do
  let credentialId ← idFromForm form.credentialId
  return {
    server := strip form.server
    share := strip form.share
    basePath := strip form.basePath
    port := if form.port = 0 then 445 else form.port
    encrypt := form.encrypt.isSome
    credentialId
    pollIntervalSeconds := if form.pollIntervalSeconds.zero then ⟨"60.0", false⟩ else form.pollIntervalSeconds }

def docsSourceSave (config : Config) (form : DocsForm) : Option Update :=
  (smbFromForm form).map fun smb =>
    let source := if form.source = "smb" then "smb" else "local"
    { block := .str "docs_index"
      kept := config.docsIndex.modelDump
      values := [(.str "source", .str source), (.str "smb", .mapping smb.modelDump)]
      config := { config with docsIndex := { config.docsIndex with source, smb } } }

/-- `_save_rbac` with a default role. -/
def saveRbac (config : Config) (defaultRole : String) : Update where
  block := .str "rbac"
  kept := [(.str "group_role_map",
    .mapping (config.rbac.groupRoleMap.map fun entry => (.str entry.1, .str entry.2)))]
  values := [(.str "default_role", .str defaultRole)]
  config := { config with rbac := { config.rbac with defaultRole } }

def rbacDefaultSave (config : Config) (defaultRole : String) : Option Update :=
  if defaultRole ∈ ["none", "viewer"] then some (saveRbac config defaultRole) else none

/-- `usable` tells of a host whether it is in reach of the caller and has a credential. -/
def orgConfigureSave (config : Config) (hostId : String) (useMock : Option String) (usable : Int → Bool) :
    Option Update := do
  let mockOn := useMock.getD "" ≠ ""
  let newId ← idFromForm (if mockOn then "" else hostId)
  let adapter := if mockOn then "mock" else "winrm_jumpbox"
  if (newId.map usable).getD true then
    some
      { block := .str "directory"
        kept := config.directory.modelDump
        values := [(.str "adapter", .str adapter), (.str "ad_jumpbox_host_id", .optional .int newId)]
        config := { config with directory := { config.directory with adapter, adJumpboxHostId := newId } } }
  else none

inductive Save where
  | cliTools (submitted : List String)
  | integrations (guacamoleEnabled : Option String) (guacamoleBaseUrl : String)
  | docsSource (form : DocsForm)
  | defaultRole (role : String)
  | orgConfigure (hostId : String) (useMock : Option String) (usable : Int → Bool)

def Save.update (config : Config) : Save → Option Update
  | .cliTools submitted => some (settingsSave config submitted)
  | .integrations guacamoleEnabled guacamoleBaseUrl => some (integrationsSave config guacamoleEnabled guacamoleBaseUrl)
  | .docsSource form => docsSourceSave config form
  | .defaultRole role => rbacDefaultSave config role
  | .orgConfigure hostId useMock usable => orgConfigureSave config hostId useMock usable

structure State where
  file : File
  config : Config

def State.save (state : State) (page : Save) : State :=
  match page.update state.config with
  | none => state
  | some update =>
      match updateConfigYaml [(update.block, update.written)] state.file with
      | none => state
      | some file => ⟨file, update.config⟩

inductive Label where
  | edit (file : File)
  | save (page : Save)

def settings : Machine State Label where
  initial _ := True
  step state
    | .edit file => some { state with file }
    | .save page => some (state.save page)

/-! What a save leaves alone. -/

def Apart (key path : List Scalar) : Prop := ¬ key <+: path ∧ ¬ path <+: key

/-- Every key but the edited ones has the value that it had, or has none still. -/
def Frame (edited : List (List Scalar)) (before after : File) : Prop :=
  ∀ path, (∀ key ∈ edited, Apart key path) → after.get path = before.get path

def smbFields : List Scalar := (SmbDocsConfig.modelDump {}).map Prod.fst

def Save.edited : Save → List (List Scalar)
  | .cliTools _ => catalog.map fun tool => [.str "cli_tools", .str tool]
  | .integrations .. => [[.str "guacamole", .str "enabled"], [.str "guacamole", .str "base_url"]]
  | .docsSource _ =>
      [.str "docs_index", .str "source"] :: smbFields.map fun field => [.str "docs_index", .str "smb", field]
  | .defaultRole _ => [[.str "rbac", .str "default_role"]]
  | .orgConfigure .. => [[.str "directory", .str "adapter"], [.str "directory", .str "ad_jumpbox_host_id"]]

def Framed (state : State) : Label → Prop
  | .edit _ => True
  | .save page => Frame page.edited state.file (state.save page).file

/-- Apart from what its form sets, the section to be written is the one in the file. -/
def Update.Current (update : Update) (file : File) : Prop :=
  ∀ key ∉ update.values.map Prod.fst, update.kept.lookup key = (file.below [update.block]).lookup key

/-- The file has no keys of the network drive beside those of the form. -/
def PlainSmb (file : File) : Prop :=
  ∀ key ∉ smbFields, (file.below [.str "docs_index", .str "smb"]).lookup key = none

/-- The page writes nothing, or its section in memory is up to date. -/
def UpToDate (state : State) : Label → Prop
  | .edit _ => True
  | .save page =>
      (∃ text, state.file = .malformed text) ∨ ∀ update, page.update state.config = some update →
        update.Current state.file ∧ ((∃ form, page = .docsSource form) → PlainSmb state.file)

section Frames

variable {file after : File} {update : Update} {key : Scalar} {rest path : List Scalar}

theorem get_append (node : Yaml) (above rest : List Scalar) :
    node.get (above ++ rest) = (node.get above).bind fun child => child.get rest := by
  induction above generalizing node with
  | nil => rfl
  | cons first others inductive_step =>
      rw [List.cons_append, Yaml.get_cons, Yaml.get_cons, Option.bind_assoc]
      exact congrArg _ (funext fun child => inductive_step child)

theorem get_below (file : File) (above : List Scalar) (key : Scalar) (rest : List Scalar) :
    file.get (above ++ key :: rest) = ((file.below above).lookup key).bind fun child => child.get rest := by
  unfold File.below File.get
  rw [get_append]
  cases (Yaml.mapping file.entries).get above <;> rfl

theorem updateConfigYaml_get (written : updateConfigYaml [(update.block, update.written)] file = some after) :
    (∀ other rest, other ≠ update.block → after.get (other :: rest) = file.get (other :: rest)) ∧
      after.below [update.block] = update.kept.update update.values := by
  have entries : after.entries = file.entries.put update.block update.written := by
    unfold updateConfigYaml at written
    split at written
    · cases written
    · cases written
      rfl
  constructor
  · intro other rest different
    simp only [File.get, Yaml.get_cons, Yaml.entries, entries, Entries.lookup_put_other different]
  · simp only [File.below, File.get, Yaml.get_cons, Yaml.get_nil, Yaml.entries, entries, Entries.lookup_put_same]
    rfl

theorem current_iff (written : updateConfigYaml [(update.block, update.written)] file = some after) :
    update.Current file ↔ ∀ key ∉ update.values.map Prod.fst, ∀ rest,
      after.get (update.block :: key :: rest) = file.get (update.block :: key :: rest) := by
  have section_written := (updateConfigYaml_get written).2
  have rebuilt : ∀ key ∉ update.values.map Prod.fst,
      (after.below [update.block]).lookup key = update.kept.lookup key := by
    intro key unset
    rw [section_written]
    exact Entries.lookup_update_other unset
  constructor
  · intro current key unset rest
    have before := get_below file [update.block] key rest
    have later := get_below after [update.block] key rest
    rw [rebuilt key unset, current key unset] at later
    exact later.trans before.symm
  · intro same key unset
    have before := get_below file [update.block] key []
    have later := get_below after [update.block] key []
    rw [rebuilt key unset] at later
    simpa using later.symm.trans ((same key unset []).trans before)

theorem apart_cons {block : Scalar} {within : List Scalar} :
    Apart (block :: within) (block :: path) ↔ Apart within path := by
  simp [Apart]

theorem apart_other {block other : Scalar} {within : List Scalar} (different : other ≠ block) :
    Apart (block :: within) (other :: rest) := by
  constructor
  · intro above
    exact different (List.cons_prefix_cons.mp above).1.symm
  · intro above
    exact different (List.cons_prefix_cons.mp above).1

theorem not_apart_above {edited : List Scalar} (above : path <+: edited) : ¬ Apart edited path :=
  fun apart => apart.2 above

theorem not_apart_below {edited : List Scalar} (within : edited <+: path) : ¬ Apart edited path :=
  fun apart => apart.1 within

theorem frame_iff_current (written : updateConfigYaml [(update.block, update.written)] file = some after)
    {sets : List Scalar} (fields : update.values.map Prod.fst = sets) (some_field : sets ≠ []) :
    Frame (sets.map fun set => [update.block, set]) file after ↔ update.Current file := by
  subst fields
  rw [current_iff written]
  obtain ⟨first, member⟩ := List.exists_mem_of_ne_nil _ some_field
  constructor
  · intro frame key unset rest
    refine frame _ fun edited isEdited => ?_
    obtain ⟨set, isSet, rfl⟩ := List.mem_map.mp isEdited
    exact apart_cons.mpr (apart_other fun same => unset (same ▸ isSet))
  · intro same path apart
    have fromFirst := apart _ (List.mem_map_of_mem member)
    match path with
    | [] => exact absurd fromFirst (not_apart_above List.nil_prefix)
    | [only] =>
        by_cases inBlock : only = update.block
        · exact absurd fromFirst (not_apart_above (by simp [inBlock]))
        · exact (updateConfigYaml_get written).1 only [] inBlock
    | other :: key :: rest =>
        by_cases inBlock : other = update.block
        · subst inBlock
          refine same key (fun isSet => ?_) rest
          exact not_apart_below (by simp) (apart _ (List.mem_map_of_mem isSet))
        · exact (updateConfigYaml_get written).1 other (key :: rest) inBlock

theorem below_written (written : updateConfigYaml [(update.block, update.written)] file = some after)
    {block field : Scalar} {entries : Entries} (inBlock : update.block = block)
    (set : (update.kept.update update.values).lookup field = some (.mapping entries)) :
    after.below [block, field] = entries := by
  subst inBlock
  have whole := get_below after [update.block] field []
  rw [(updateConfigYaml_get written).2, set] at whole
  have value : after.get [update.block, field] = some (.mapping entries) := whole
  rw [File.below, value]
  rfl

theorem modelDump_fields (smb : SmbDocsConfig) : smb.modelDump.map Prod.fst = smbFields := rfl

/-- The docs page sets one of its keys whole, and the fields below the other. -/
theorem docs_frame_iff (written : updateConfigYaml [(update.block, update.written)] file = some after)
    {source : Yaml} {smb : SmbDocsConfig} {form : DocsForm} (inBlock : update.block = .str "docs_index")
    (values : update.values = [(.str "source", source), (.str "smb", .mapping smb.modelDump)]) :
    Frame (Save.docsSource form).edited file after ↔ update.Current file ∧ PlainSmb file := by
  have smbAfter : after.below [.str "docs_index", .str "smb"] = smb.modelDump := by
    refine below_written written inBlock ?_
    rw [values]
    simp [Entries.update]
  have inSmb : ∀ (key : Scalar) (rest : List Scalar), key ∉ smbFields →
      after.get (.str "docs_index" :: .str "smb" :: key :: rest) = none := by
    intro key rest unlisted
    refine (get_below after [.str "docs_index", .str "smb"] key rest).trans ?_
    rw [smbAfter, Entries.lookup_absent (modelDump_fields smb ▸ unlisted)]
    rfl
  have unset : ∀ key : Scalar, key ∉ update.values.map Prod.fst ↔ key ≠ .str "source" ∧ key ≠ .str "smb" := by
    intro key
    simp [values]
  rw [current_iff written, inBlock]
  simp only [Save.edited]
  constructor
  · intro frame
    constructor
    · intro key keyUnset rest
      obtain ⟨notSource, notSmb⟩ := (unset key).mp keyUnset
      refine frame _ fun edited isEdited => ?_
      rcases List.mem_cons.mp isEdited with rfl | isField
      · exact apart_cons.mpr (apart_other notSource)
      · obtain ⟨field, _, rfl⟩ := List.mem_map.mp isField
        exact apart_cons.mpr (apart_other notSmb)
    · intro key unlisted
      have same := frame [.str "docs_index", .str "smb", key] fun edited isEdited => by
        rcases List.mem_cons.mp isEdited with rfl | isField
        · exact apart_cons.mpr (apart_other (by decide))
        · obtain ⟨field, member, rfl⟩ := List.mem_map.mp isField
          exact apart_cons.mpr (apart_cons.mpr (apart_other fun same => unlisted (same ▸ member)))
      rw [inSmb key [] unlisted] at same
      have before := get_below file [.str "docs_index", .str "smb"] key []
      simpa using before.symm.trans same.symm
  · rintro ⟨current, plain⟩ path apart
    have fromSource := apart _ (List.mem_cons_self ..)
    have fromField : ∀ field ∈ smbFields, Apart [.str "docs_index", .str "smb", field] path :=
      fun field member => apart _ (List.mem_cons_of_mem _ (List.mem_map_of_mem member))
    have fromServer := fromField (.str "server") (by decide)
    match path with
    | [] => exact absurd fromSource (not_apart_above List.nil_prefix)
    | block :: others =>
        by_cases inDocs : block = .str "docs_index"
        swap
        · exact (updateConfigYaml_get written).1 block others (inBlock ▸ inDocs)
        subst inDocs
        match others with
        | [] => exact absurd fromSource (not_apart_above (by simp))
        | key :: rest =>
            by_cases isSource : key = .str "source"
            · exact absurd fromSource (not_apart_below (by simp [isSource]))
            by_cases isSmb : key = .str "smb"
            swap
            · exact current key ((unset key).mpr ⟨isSource, isSmb⟩) rest
            subst isSmb
            match rest with
            | [] => exact absurd fromServer (not_apart_above (by simp))
            | field :: more =>
                have unlisted : field ∉ smbFields :=
                  fun member => not_apart_below (by simp) (fromField field member)
                refine (inSmb field more unlisted).trans ?_
                refine Eq.symm ((get_below file [.str "docs_index", .str "smb"] field more).trans ?_)
                rw [plain field unlisted]
                rfl

theorem update_frame_iff {config : Config} {page : Save} (built : page.update config = some update)
    (written : updateConfigYaml [(update.block, update.written)] file = some after) :
    Frame page.edited file after ↔
      update.Current file ∧ ((∃ form, page = .docsSource form) → PlainSmb file) := by
  have flat : ∀ sets : List Scalar, update.values.map Prod.fst = sets → sets ≠ [] →
      page.edited = sets.map (fun set => [update.block, set]) → (¬ ∃ form, page = .docsSource form) →
      (Frame page.edited file after ↔
        update.Current file ∧ ((∃ form, page = .docsSource form) → PlainSmb file)) := by
    intro sets fields some_field edits others
    rw [edits, frame_iff_current written fields some_field]
    exact ⟨fun current => ⟨current, fun docs => absurd docs others⟩, And.left⟩
  cases page with
  | cliTools submitted =>
      obtain rfl := Option.some.inj built
      exact flat (catalog.map Scalar.str) (by simp [settingsSave]) (by decide) (by simp [Save.edited, settingsSave])
        (by simp)
  | integrations guacamoleEnabled guacamoleBaseUrl =>
      obtain rfl := Option.some.inj built
      exact flat [.str "enabled", .str "base_url"] rfl (by simp) rfl (by simp)
  | docsSource form =>
      obtain ⟨smb, _, rfl⟩ := Option.map_eq_some_iff.mp built
      rw [docs_frame_iff written rfl rfl]
      simp
  | defaultRole role =>
      simp only [Save.update, rbacDefaultSave, Option.ite_none_right_eq_some] at built
      obtain rfl := Option.some.inj built.2
      exact flat [.str "default_role"] rfl (by simp) rfl (by simp)
  | orgConfigure hostId useMock usable =>
      simp only [Save.update, orgConfigureSave, Option.bind_eq_bind, Option.bind_eq_some_iff,
        Option.ite_none_right_eq_some] at built
      obtain ⟨newId, _, _, set⟩ := built
      obtain rfl := Option.some.inj set
      exact flat [.str "adapter", .str "ad_jumpbox_host_id"] rfl (by simp) rfl (by simp)

end Frames

theorem updateConfigYaml_none {updates : Entries} {file : File} :
    updateConfigYaml updates file = none ↔ ∃ text, file = .malformed text := by
  cases file <;> simp [updateConfigYaml]

theorem framed_iff (state : State) (label : Label) : Framed state label ↔ UpToDate state label := by
  cases label with
  | edit file => exact Iff.rfl
  | save page =>
      cases built : page.update state.config with
      | none => simp [Framed, UpToDate, State.save, Frame, built]
      | some update =>
          cases written : updateConfigYaml [(update.block, update.written)] state.file with
          | none =>
              have malformed := updateConfigYaml_none.mp written
              simp [Framed, UpToDate, State.save, Frame, built, written, malformed]
          | some after =>
              have wellFormed : ¬ ∃ text, state.file = .malformed text :=
                fun malformed => by simp [updateConfigYaml_none.mpr malformed] at written
              simp only [Framed, UpToDate, State.save, built, written, wellFormed, false_or, Option.some.injEq,
                forall_eq']
              exact update_frame_iff built written

/-- Over every run of edits and saves: each save changes the keys of its page only just
when each finds its section in memory up to date. -/
theorem saves_framed_iff (state : State) (labels : List Label) :
    settings.Meets Framed state labels ↔ settings.Meets UpToDate state labels := by
  have same : Framed = UpToDate := funext fun state => funext fun label => propext (framed_iff state label)
  rw [same]

def recordingOff : File :=
  .document (.mapping [(.str "guacamole", .mapping [(.str "record_sessions", .bool false)])])

/-- Someone turns recording off in the file of a running application; then a save of
the integrations page turns it on again. -/
theorem recording_turned_on :
    ¬ settings.Meets Framed ⟨.document (.mapping []), {}⟩ [.edit recordingOff, .save (.integrations (some "on") "")] ∧
      recordingOff.get [.str "guacamole", .str "record_sessions"] = some (.bool false) ∧
      (State.save ⟨recordingOff, {}⟩ (.integrations (some "on") "")).file.get
        [.str "guacamole", .str "record_sessions"] = some (.bool true) := by
  have before : recordingOff.get [.str "guacamole", .str "record_sessions"] = some (.bool false) := rfl
  have later : (State.save ⟨recordingOff, {}⟩ (.integrations (some "on") "")).file.get
      [.str "guacamole", .str "record_sessions"] = some (.bool true) := rfl
  refine ⟨fun meets => ?_, before, later⟩
  have framed : Frame _ recordingOff _ := (meets.2 ⟨recordingOff, {}⟩ rfl).1
  have same := framed [.str "guacamole", .str "record_sessions"] (by simp [Save.edited, Apart])
  rw [before] at same
  exact absurd (later.symm.trans same) (by simp [Yaml.bool])

end Dosm.Settings
