import EngineClient.Command.Resolve
import EngineClient.Proofs.Settings.VersionText
import EngineClient.Proofs.Text.Cutting
import Mathlib.Tactic.SplitIfs
/-!
# Settings in layers

Each source of settings is a layer that says something of some fields. What is resolved is the layer of the command
line over the one of the variables over the one of the file, with the usual values below
(`resolve_eq_ok_iff`), so that a value which is covered does not count. No layer but the file says anything of the
pools or of the credential store.
-/

namespace EngineClient

/-! ## Layers -/

/-- What one source says of settings: nothing of a field it does not name. -/
structure Layer where
  baseUrl : Option String := none
  version : Option ApiVersion := none
  timeoutSeconds : Option Nat := none
  poolConnections : Option Nat := none
  maxPoolSize : Option Nat := none
  poolBlock : Option Bool := none
  tls : Option TlsSettings := none
  credentialsStore : Option String := none
deriving Repr, DecidableEq

namespace Layer

/-- Two layers as one: what the upper one says covers what the lower one says. -/
def covering (upper lower : Layer) : Layer where
  baseUrl := upper.baseUrl.or lower.baseUrl
  version := upper.version.or lower.version
  timeoutSeconds := upper.timeoutSeconds.or lower.timeoutSeconds
  poolConnections := upper.poolConnections.or lower.poolConnections
  maxPoolSize := upper.maxPoolSize.or lower.maxPoolSize
  poolBlock := upper.poolBlock.or lower.poolBlock
  tls := upper.tls.or lower.tls
  credentialsStore := upper.credentialsStore.or lower.credentialsStore

/-- Settings with what a layer says in place of their own values. -/
def onto (l : Layer) (s : Settings) : Settings where
  baseUrl := l.baseUrl.getD s.baseUrl
  version := l.version.getD s.version
  timeoutSeconds := l.timeoutSeconds.getD s.timeoutSeconds
  poolConnections := l.poolConnections.getD s.poolConnections
  maxPoolSize := l.maxPoolSize.getD s.maxPoolSize
  poolBlock := l.poolBlock.getD s.poolBlock
  tls := l.tls.or s.tls
  credentialsStore := l.credentialsStore.or s.credentialsStore

/-- Two layers that say the same of every field of which the upper layer says nothing. -/
structure AlikeBelow (upper a b : Layer) : Prop where
  baseUrl : upper.baseUrl = none → a.baseUrl = b.baseUrl
  version : upper.version = none → a.version = b.version
  timeoutSeconds : upper.timeoutSeconds = none → a.timeoutSeconds = b.timeoutSeconds
  poolConnections : upper.poolConnections = none → a.poolConnections = b.poolConnections
  maxPoolSize : upper.maxPoolSize = none → a.maxPoolSize = b.maxPoolSize
  poolBlock : upper.poolBlock = none → a.poolBlock = b.poolBlock
  tls : upper.tls = none → a.tls = b.tls
  credentialsStore : upper.credentialsStore = none → a.credentialsStore = b.credentialsStore

theorem covering_onto (upper lower : Layer) (s : Settings) : (upper.covering lower).onto s = upper.onto (lower.onto s) := by
  simp only [covering, onto, Option.getD_or, Option.or_assoc]

theorem covering_assoc (a b c : Layer) : (a.covering b).covering c = a.covering (b.covering c) := by
  simp only [covering, Option.or_assoc]

@[simp] theorem onto_onto (l : Layer) (s : Settings) : l.onto (l.onto s) = l.onto s := by
  rw [← covering_onto]
  simp only [covering, Option.or_self]

private theorem or_alike {α : Type} {upper a b : Option α} (alike : upper = none → a = b) : upper.or a = upper.or b := by
  cases upper with
  | none => simpa using alike rfl
  | some value => rfl

theorem AlikeBelow.covering_eq {upper a b : Layer} (alike : AlikeBelow upper a b) : upper.covering a = upper.covering b := by
  simp only [covering, or_alike alike.baseUrl, or_alike alike.version, or_alike alike.timeoutSeconds,
    or_alike alike.poolConnections, or_alike alike.maxPoolSize, or_alike alike.poolBlock, or_alike alike.tls,
    or_alike alike.credentialsStore]

end Layer

/-! ## Settings that can be used -/

/-- The version is 1.24 or a later one, and there is room for a pool and for a connection in it. -/
structure Settings.Valid (s : Settings) : Prop where
  version : 1 < s.version.major ∨ s.version.major = 1 ∧ 24 ≤ s.version.minor
  poolConnections : 1 ≤ s.poolConnections
  maxPoolSize : 1 ≤ s.maxPoolSize

theorem ApiVersion.isBefore_oldest_iff (v : ApiVersion) :
    v.isBefore .oldest = false ↔ 1 < v.major ∨ v.major = 1 ∧ 24 ≤ v.minor := by
  rw [← Bool.not_eq_true, isBefore_iff, Before]
  simp only [oldest]
  omega

namespace Settings

theorem validate_eq_ok_iff (s : Settings) : s.validate = .ok () ↔ s.Valid := by
  have oldest := s.version.isBefore_oldest_iff
  unfold validate
  constructor
  · intro passed
    split_ifs at passed with old none narrow
    rw [Bool.not_eq_true] at old
    exact ⟨oldest.mp old, by omega, by omega⟩
  · rintro ⟨version, pools, connections⟩
    rw [oldest.mpr version, if_neg (by simp), if_neg (by omega), if_neg (by omega)]

end Settings

/-! ## The layer of a file -/

/-- The certificates are those of a record: three paths, and whether they are checked, which is so unless it says
otherwise. -/
structure TlsSettings.WrittenIn (t : TlsSettings) (record : Toml.Value) : Prop where
  isRecord : Settings.canBeRecord record = true
  caCert : Settings.fieldOf record 0 "ca_cert" = t.caCert.map .text
  clientCert : Settings.fieldOf record 1 "client_cert" = t.clientCert.map .text
  clientKey : Settings.fieldOf record 2 "client_key" = t.clientKey.map .text
  verify : ∃ said : Option Bool, Settings.fieldOf record 3 "verify" = said.map .boolean ∧ t.verify = said.getD true

/-- The values of a document are those of the layer, each of the type and range of its field. -/
structure Layer.WrittenIn (l : Layer) (entries : Toml.Entries) : Prop where
  baseUrl : entries.lookup "base_url" = l.baseUrl.map .text
  version : ∃ source : Option String,
    entries.lookup "version" = source.map .text ∧ source.mapM ApiVersion.parse = some l.version
  timeoutSeconds : entries.lookup "timeout_secs" = l.timeoutSeconds.map (.integer ·) ∧
    ∀ n ∈ l.timeoutSeconds, n < Text.limit64
  poolConnections : entries.lookup "pool_connections" = l.poolConnections.map (.integer ·) ∧
    ∀ n ∈ l.poolConnections, n < Text.limit64
  maxPoolSize : entries.lookup "max_pool_size" = l.maxPoolSize.map (.integer ·) ∧
    ∀ n ∈ l.maxPoolSize, n < Text.limit64
  poolBlock : entries.lookup "pool_block" = l.poolBlock.map .boolean
  tls : (l.tls = none ∧ entries.lookup "tls" = none) ∨
    ∃ t record, l.tls = some t ∧ entries.lookup "tls" = some record ∧ t.WrittenIn record
  credentialsStore : entries.lookup "credentials_store" = l.credentialsStore.map .text

namespace Settings

theorem asText_eq_some_iff (value : Option Toml.Value) (read : Option String) :
    asText value = some read ↔ value = read.map .text := by
  unfold asText
  constructor
  · intro found
    split at found
    · rw [← Option.some.inj found]
      rfl
    · rw [← Option.some.inj found]
      rfl
    · simp at found
  · rintro rfl
    cases read <;> rfl

theorem asBoolean_eq_some_iff (value : Option Toml.Value) (read : Option Bool) :
    asBoolean value = some read ↔ value = read.map .boolean := by
  unfold asBoolean
  constructor
  · intro found
    split at found
    · rw [← Option.some.inj found]
      rfl
    · rw [← Option.some.inj found]
      rfl
    · simp at found
  · rintro rfl
    cases read <;> rfl

theorem asNumber_eq_some_iff (value : Option Toml.Value) (read : Option Nat) :
    asNumber value = some read ↔ value = read.map (.integer ·) ∧ ∀ n ∈ read, n < Text.limit64 := by
  unfold asNumber
  constructor
  · intro found
    split at found
    · rw [← Option.some.inj found]
      simp
    · rename_i value
      split_ifs at found with range
      obtain rfl := Option.some.inj found
      refine ⟨?_, ?_⟩
      · simp [Int.toNat_of_nonneg range.1]
      · intro n same
        obtain rfl := Option.some.inj same
        omega
    · simp at found
  · rintro ⟨rfl, range⟩
    cases read with
    | none => rfl
    | some n =>
      have small := range n rfl
      simp
      omega

theorem asVersion_eq_some_iff (value : Option Toml.Value) (read : Option ApiVersion) :
    asVersion value = some read ↔
      ∃ source : Option String, value = source.map .text ∧ source.mapM ApiVersion.parse = some read := by
  simp only [← asText_eq_some_iff]
  unfold asVersion
  cases asText value with
  | none => simp
  | some source => cases source <;> simp

theorem asTls_eq_some_iff (value : Option Toml.Value) (read : Option TlsSettings) :
    asTls value = some read ↔
      (read = none ∧ value = none) ∨ ∃ t record, read = some t ∧ value = some record ∧ t.WrittenIn record := by
  cases value with
  | none => simp [asTls, @eq_comm _ none]
  | some record =>
    have fields : asTls (some record) = some read ↔ ∃ t, read = some t ∧ t.WrittenIn record := by
      simp only [asTls]
      constructor
      · intro found
        split_ifs at found with isRecord
        simp only [Option.bind_eq_bind, Option.bind_eq_some_iff, Option.some.injEq, asText_eq_some_iff,
          asBoolean_eq_some_iff] at found
        obtain ⟨caCert, a, clientCert, b, clientKey, c, said, d, rfl⟩ := found
        exact ⟨_, rfl, isRecord, a, b, c, said, d, rfl⟩
      · rintro ⟨⟨caCert, clientCert, clientKey, verify⟩, rfl, isRecord, a, b, c, said, d, rfl⟩
        rw [← asText_eq_some_iff] at a b c
        rw [← asBoolean_eq_some_iff] at d
        simp [isRecord, a, b, c, d]
    simp [fields]

/-- A document writes a layer exactly when each of its values is read as the field of the layer. -/
theorem writtenIn_iff (l : Layer) (entries : Toml.Entries) :
    l.WrittenIn entries ↔
      asText (entries.lookup "base_url") = some l.baseUrl ∧ asVersion (entries.lookup "version") = some l.version ∧
      asNumber (entries.lookup "timeout_secs") = some l.timeoutSeconds ∧
      asNumber (entries.lookup "pool_connections") = some l.poolConnections ∧
      asNumber (entries.lookup "max_pool_size") = some l.maxPoolSize ∧
      asBoolean (entries.lookup "pool_block") = some l.poolBlock ∧ asTls (entries.lookup "tls") = some l.tls ∧
      asText (entries.lookup "credentials_store") = some l.credentialsStore := by
  simp only [asText_eq_some_iff, asVersion_eq_some_iff, asNumber_eq_some_iff, asBoolean_eq_some_iff, asTls_eq_some_iff]
  constructor
  · intro written
    exact ⟨written.baseUrl, written.version, written.timeoutSeconds, written.poolConnections, written.maxPoolSize,
      written.poolBlock, written.tls, written.credentialsStore⟩
  · rintro ⟨baseUrl, version, timeoutSeconds, poolConnections, maxPoolSize, poolBlock, tls, credentialsStore⟩
    exact ⟨baseUrl, version, timeoutSeconds, poolConnections, maxPoolSize, poolBlock, tls, credentialsStore⟩

theorem ofDocument_eq_some_iff (entries : Toml.Entries) (s : Settings) :
    ofDocument entries = some s ↔ ∃ l : Layer, l.WrittenIn entries ∧ s = l.onto standard := by
  simp only [writtenIn_iff]
  constructor
  · intro given
    simp only [ofDocument, Option.bind_eq_bind, Option.bind_eq_some_iff, Option.some.injEq] at given
    obtain ⟨baseUrl, a, version, b, timeoutSeconds, c, poolConnections, d, maxPoolSize, e, poolBlock, f, tls, g,
      credentialsStore, h, rfl⟩ := given
    refine ⟨⟨baseUrl, version, timeoutSeconds, poolConnections, maxPoolSize, poolBlock, tls, credentialsStore⟩,
      ⟨a, b, c, d, e, f, g, h⟩, ?_⟩
    simp [Layer.onto, standard]
  · rintro ⟨l, ⟨a, b, c, d, e, f, g, h⟩, rfl⟩
    simp [ofDocument, a, b, c, d, e, f, g, h, Layer.onto, standard]

theorem ofToml_eq_ok_iff (text : String) (s : Settings) :
    ofToml text = .ok s ↔ ∃ entries, Toml.parse text = some entries ∧ ofDocument entries = some s ∧ s.Valid := by
  unfold ofToml
  cases parsed : Toml.parse text with
  | none => simp
  | some entries =>
    rw [Option.bind_some]
    cases given : ofDocument entries with
    | none => simp [given]
    | some found =>
      simp only [Option.some.injEq, exists_eq_left', given]
      rw [← validate_eq_ok_iff]
      constructor
      · intro checked
        cases passed : found.validate with
        | error error => simp [passed, Except.map] at checked
        | ok =>
          simp only [passed, Except.map, Except.ok.injEq] at checked
          exact ⟨checked, checked ▸ passed⟩
      · rintro ⟨rfl, passed⟩
        simp [passed, Except.map]

theorem ofToml_empty : ofToml "" = .ok standard := by rfl

/-- The text of the named file of settings, or of the usual one, which counts as empty when it is not there. -/
def fileText (files : Files) (process : Environment) (home : String) (path : Option String) : Option String :=
  match path with
  | some path => (files.readText path).toOption
  | none =>
    let usual := standardPath process home
    if files.isFile usual then (files.readText usual).toOption else some ""

theorem ofFile_eq_ok_iff (files : Files) (path : String) (s : Settings) :
    ofFile files path = .ok s ↔ ∃ text, (files.readText path).toOption = some text ∧ ofToml text = .ok s := by
  unfold ofFile
  cases files.readText path with
  | error cause => simp [Except.toOption]
  | ok text =>
    simp only [Except.toOption, Option.some.injEq, exists_eq_left']
    cases ofToml text <;> simp [Except.mapError]

theorem load_eq_ok_iff (files : Files) (process : Environment) (home : String) (path : Option String) (s : Settings) :
    load files process home path = .ok s ↔
      ∃ text, fileText files process home path = some text ∧ ofToml text = .ok s := by
  unfold load fileText
  cases path with
  | some path => exact ofFile_eq_ok_iff files path s
  | none =>
    simp only
    by_cases there : files.isFile (standardPath process home) = true
    · rw [if_pos there, if_pos there]
      exact ofFile_eq_ok_iff files _ s
    · rw [if_neg there, if_neg there]
      simp [ofToml_empty]

end Settings

theorem Layer.WrittenIn.unique {a b : Layer} {entries : Toml.Entries} (one : a.WrittenIn entries)
    (other : b.WrittenIn entries) : a = b := by
  rw [Settings.writtenIn_iff] at one other
  simp only [one, Option.some.injEq] at other
  cases a
  cases b
  simp_all

/-! ## Certificates of the variables -/

/-- A variable is set, and not to blanks alone. -/
def Environment.Tells (env : Environment) (name : String) : Prop :=
  ∃ value, env.lookup name = some value ∧ ∃ c ∈ value.toList, Text.isBlank c = false

theorem Environment.trimmed_eq_none_iff {env : Environment} {name : String} :
    env.trimmed name = none ↔ ¬ env.Tells name := by
  unfold trimmed value Tells
  cases env.lookup name with
  | none => simp
  | some value =>
    have blank : Text.trim value = "" ↔ ∀ c ∈ value.toList, Text.isBlank c = true := by
      rw [← Text.strip_eq_nil_iff, Text.trim, String.ofList_eq_empty_iff]
    simp [Option.filter, blank]

/-- The certificates are the three files of a directory. -/
structure TlsSettings.HeldIn (t : TlsSettings) (directory : String) : Prop where
  caCert : t.caCert = some (Files.join directory "ca.pem")
  clientCert : t.clientCert = some (Files.join directory "cert.pem")
  clientKey : t.clientKey = some (Files.join directory "key.pem")

/-- Which certificates are used, where a file has these ones: its own unless one of two variables is more than blanks,
and then those in the directory that the one names, or else in the one below the home directory. They are checked
exactly when the other is more than blanks. -/
inductive Certified (env : Environment) (home : String) (file : Option TlsSettings) : Option TlsSettings → Prop
  | ofFile (unnamed : ¬ env.Tells "DOCKER_CERT_PATH") (unchecked : ¬ env.Tells "DOCKER_TLS_VERIFY") :
      Certified env home file file
  | named {directory : String} {t : TlsSettings} (named : env.trimmed "DOCKER_CERT_PATH" = some directory)
      (held : t.HeldIn directory) (checked : t.verify = true ↔ env.Tells "DOCKER_TLS_VERIFY") :
      Certified env home file (some t)
  | usual {t : TlsSettings} (unnamed : ¬ env.Tells "DOCKER_CERT_PATH") (asked : env.Tells "DOCKER_TLS_VERIFY")
      (held : t.HeldIn (Files.join (env.home home) ".docker")) (checked : t.verify = true) :
      Certified env home file (some t)

/-! ## The layer of the variables -/

namespace Layer

/-- The certificates the variables ask for: those in the directory they name, or else in the one below the home
directory. -/
def certificates (env : Environment) (home : String) : Option TlsSettings :=
  let verify := (env.trimmed Settings.verifyVariable).isSome
  let named := env.trimmed Settings.certificatesVariable
  if verify ∨ named.isSome then
    let directory := named.getD (Files.join (env.home home) ".docker")
    some {
      caCert := some (Files.join directory "ca.pem")
      clientCert := some (Files.join directory "cert.pem")
      clientKey := some (Files.join directory "key.pem")
      verify }
  else none

theorem certificates_certified (env : Environment) (home : String) (file : Option TlsSettings) :
    Certified env home file ((certificates env home).or file) := by
  have checked : (env.trimmed Settings.verifyVariable).isSome = true ↔ env.Tells "DOCKER_TLS_VERIFY" := by
    rw [← Option.ne_none_iff_isSome, Ne, Environment.trimmed_eq_none_iff, Classical.not_not]
    rfl
  unfold certificates
  cases named : env.trimmed Settings.certificatesVariable with
  | some directory =>
    simp only [Option.isSome_some, or_true, ↓reduceIte, Option.some_or, Option.getD_some]
    exact .named named ⟨rfl, rfl, rfl⟩ checked
  | none =>
    have unnamed := Environment.trimmed_eq_none_iff.mp named
    by_cases asked : (env.trimmed Settings.verifyVariable).isSome = true
    · simp only [asked, true_or, ↓reduceIte, Option.some_or, Option.getD_none]
      exact .usual unnamed (checked.mp asked) ⟨rfl, rfl, rfl⟩ rfl
    · simp only [asked, Option.isSome_none, or_self, Bool.false_eq_true, ↓reduceIte, Option.none_or]
      exact .ofFile unnamed (asked ∘ checked.mpr)

/-- The layer of the variables; none when one of them cannot be read. -/
def ofVariables (env : Environment) (home : String) : Option Layer := do
  let version ← (env.trimmed Settings.versionVariable).mapM ApiVersion.parse
  let timeoutSeconds ← (env.trimmed timeoutVariable).mapM (Text.decimal Text.limit64)
  some { baseUrl := env.trimmed Settings.hostVariable, version, timeoutSeconds, tls := certificates env home }

theorem ofVariables_tls {env : Environment} {home : String} {l : Layer} (read : ofVariables env home = some l) :
    l.tls = certificates env home := by
  simp only [ofVariables, Option.bind_eq_bind, Option.bind_eq_some_iff, Option.some.injEq] at read
  obtain ⟨version, -, seconds, -, rfl⟩ := read
  rfl

end Layer

namespace Settings

variable (env : Environment) (home : String)

theorem applyHost_onto (s : Settings) :
    s.applyHost env = ({ baseUrl := env.trimmed hostVariable } : Layer).onto s := by
  unfold applyHost
  cases env.trimmed hostVariable <;> rfl

theorem applyVersion_onto : ∃ version : Except ConfigError (Option ApiVersion),
    version.toOption = (env.trimmed versionVariable).mapM ApiVersion.parse ∧
      ∀ s, applyVersion s env = version.map fun version => ({ version } : Layer).onto s := by
  unfold applyVersion
  cases env.trimmed versionVariable with
  | none => exact ⟨.ok none, rfl, fun s => rfl⟩
  | some source =>
    simp only [ApiVersion.ofSetting]
    cases parsed : ApiVersion.parse source with
    | none => exact ⟨.error (.invalid (.version source)), by simp [Except.toOption, parsed], fun s => rfl⟩
    | some version => exact ⟨.ok (some version), by simp [Except.toOption, parsed], fun s => rfl⟩

theorem applyTimeout_onto : ∃ seconds : Except ConfigError (Option Nat),
    seconds.toOption = (env.trimmed timeoutVariable).mapM (Text.decimal Text.limit64) ∧
      ∀ s, applyTimeout s env = seconds.map fun timeoutSeconds => ({ timeoutSeconds } : Layer).onto s := by
  unfold applyTimeout
  cases env.trimmed timeoutVariable with
  | none => exact ⟨.ok none, rfl, fun s => rfl⟩
  | some source =>
    cases read : Text.decimal Text.limit64 source with
    | none =>
      exact ⟨.error (.invalid (.timeout source)), by simp [Except.toOption, read],
        fun s => by simp [read, Except.map]⟩
    | some seconds => exact ⟨.ok (some seconds), by simp [Except.toOption, read], fun s => by simp [read]; rfl⟩

theorem applyTls_onto (s : Settings) :
    s.applyTls env home = ({ tls := Layer.certificates env home } : Layer).onto s := by
  unfold applyTls Layer.certificates
  cases env.trimmed certificatesVariable with
  | some directory => simp [Layer.onto, TlsSettings.inDirectory]
  | none => cases env.trimmed verifyVariable <;> rfl

/-- The variables lay one layer onto all settings alike: the whole of theirs, and then it is checked, or, when one of
them cannot be read, what comes before that one. -/
theorem applyEnvironment_onto :
    (∃ l, Layer.ofVariables env home = some l ∧ ∀ s, applyEnvironment s env home = ((l.onto s).validate, l.onto s)) ∨
    Layer.ofVariables env home = none ∧
      ∃ (l : Layer) (error : ConfigError), ∀ s, applyEnvironment s env home = (.error error, l.onto s) := by
  obtain ⟨version, parsed, versioned⟩ := applyVersion_onto env
  obtain ⟨seconds, read, timed⟩ := applyTimeout_onto env
  unfold Layer.ofVariables applyEnvironment
  simp only [← parsed, ← read, applyHost_onto, applyTls_onto, versioned, timed]
  cases version with
  | error error => exact .inr ⟨rfl, { baseUrl := env.trimmed hostVariable }, error, fun s => rfl⟩
  | ok version =>
    cases seconds with
    | error error => exact .inr ⟨rfl, { baseUrl := env.trimmed hostVariable, version }, error, fun s => rfl⟩
    | ok seconds => exact .inl ⟨_, rfl, fun s => rfl⟩

/-- What the variables say once they say again. -/
theorem applyEnvironment_twice (s : Settings) :
    applyEnvironment (applyEnvironment s env home).2 env home = applyEnvironment s env home := by
  rcases applyEnvironment_onto env home with ⟨l, -, applied⟩ | ⟨-, l, error, applied⟩
  · simp only [applied, Layer.onto_onto]
  · simp only [applied, Layer.onto_onto]

theorem applyEnvironment_eq_ok_iff (s found : Settings) :
    applyEnvironment s env home = (.ok (), found) ↔
      ∃ l, Layer.ofVariables env home = some l ∧ found = l.onto s ∧ found.Valid := by
  rcases applyEnvironment_onto env home with ⟨l, given, applied⟩ | ⟨none, l, error, applied⟩
  · rw [applied, given, Prod.mk.injEq, validate_eq_ok_iff]
    simp only [Option.some.injEq, exists_eq_left']
    constructor
    · rintro ⟨valid, rfl⟩
      exact ⟨rfl, valid⟩
    · rintro ⟨rfl, valid⟩
      exact ⟨valid, rfl⟩
  · simp [applied, none]

end Settings

/-! ## The layer of the command line -/

namespace Command

/-- The layer of the command line; none when the version it gives cannot be read. -/
def Overrides.layer (o : Overrides) : Option Layer := do
  let version ← o.apiVersion.mapM ApiVersion.parse
  some { baseUrl := o.host, version, timeoutSeconds := o.timeoutSeconds }

theorem Overrides.layer_eq_some_iff {o : Overrides} {l : Layer} :
    o.layer = some l ↔ ∃ version, o.apiVersion.mapM ApiVersion.parse = some version ∧
      l = { baseUrl := o.host, version, timeoutSeconds := o.timeoutSeconds } := by
  simp only [layer, Option.bind_eq_bind, Option.bind_eq_some_iff, Option.some.injEq, @eq_comm Layer l]

theorem overrideVersion_onto (source : Option String) : ∃ version : Except Chain (Option ApiVersion),
    version.toOption = source.mapM ApiVersion.parse ∧
      ∀ s, overrideVersion s source = version.map fun version => ({ version } : Layer).onto s := by
  unfold overrideVersion
  cases source with
  | none => exact ⟨.ok none, rfl, fun s => rfl⟩
  | some source =>
    simp only [ApiVersion.ofSetting]
    cases parsed : ApiVersion.parse source with
    | none => exact ⟨.error _, by simp [Except.toOption, parsed], fun s => rfl⟩
    | some version => exact ⟨.ok (some version), by simp [Except.toOption, parsed], fun s => rfl⟩

theorem override_eq_ok_iff (s found : Settings) (o : Overrides) :
    override s o = .ok found ↔ ∃ l, o.layer = some l ∧ found = l.onto s ∧ found.Valid := by
  obtain ⟨version, parsed, versioned⟩ := overrideVersion_onto o.apiVersion
  unfold override Overrides.layer
  simp only [← parsed, versioned]
  cases version with
  | error chain => simp [Except.map, Except.toOption]
  | ok version =>
    simp only [Except.map, Except.toOption, Option.bind_eq_bind, Option.bind_some, Option.some.injEq, exists_eq_left']
    rw [← Settings.validate_eq_ok_iff]
    constructor
    · intro passed
      split at passed
      · rename_i valid
        rw [← Except.ok.inj passed]
        exact ⟨rfl, valid⟩
      · simp at passed
    · rintro ⟨rfl, valid⟩
      split
      · rfl
      · rename_i refused
        have same := valid.symm.trans refused
        simp at same

/-! ## All layers -/

/-- What is said on the command line, by the variables and in the file. -/
structure Layers where
  flags : Layer
  environment : Layer
  file : Layer
deriving Repr, DecidableEq

namespace Layers

/-- All layers as one, the file the lowest. -/
def joined (l : Layers) : Layer := l.flags.covering (l.environment.covering l.file)

/-- The layers are those of a command line, of variables and of a file with this text. -/
structure ReadFrom (l : Layers) (text : String) (env : Environment) (home : String) (o : Overrides) : Prop where
  file : ∃ entries, Toml.parse text = some entries ∧ l.file.WrittenIn entries
  environment : Layer.ofVariables env home = some l.environment
  flags : o.layer = some l.flags

/-- The sources say one thing of each field. -/
theorem ReadFrom.unique {a b : Layers} {text : String} {env : Environment} {home : String} {o : Overrides}
    (one : a.ReadFrom text env home o) (other : b.ReadFrom text env home o) : a = b := by
  obtain ⟨⟨entries, document, written⟩, environment, flags⟩ := one
  obtain ⟨⟨entries', document', written'⟩, environment', flags'⟩ := other
  obtain rfl := Option.some.inj (document.symm.trans document')
  have lowest := written.unique written'
  have middle := Option.some.inj (environment.symm.trans environment')
  have highest := Option.some.inj (flags.symm.trans flags')
  cases a
  cases b
  rw [Layers.mk.injEq]
  exact ⟨highest, middle, lowest⟩

/-- The certificates of all layers are those of the variables, or else of the file. -/
theorem ReadFrom.certified {l : Layers} {text : String} {env : Environment} {home : String} {o : Overrides}
    (read : l.ReadFrom text env home o) : Certified env home l.file.tls (l.joined.onto .standard).tls := by
  obtain ⟨-, environment, flags⟩ := read
  obtain ⟨version, -, said⟩ := Overrides.layer_eq_some_iff.mp flags
  have asked := Layer.ofVariables_tls environment
  have joined : (l.joined.onto .standard).tls = (Layer.certificates env home).or l.file.tls := by
    simp [Layer.onto, joined, Layer.covering, said, asked, Settings.standard]
  exact joined ▸ Layer.certificates_certified env home l.file.tls

/-- Layers that differ only in what a higher layer covers. -/
structure AlikeShown (a b : Layers) : Prop where
  flags : a.flags = b.flags
  environment : a.flags.AlikeBelow a.environment b.environment
  file : (a.flags.covering a.environment).AlikeBelow a.file b.file

theorem AlikeShown.joined_eq {a b : Layers} (alike : AlikeShown a b) : a.joined = b.joined := by
  have above : a.flags.covering a.environment = b.flags.covering b.environment := by
    rw [← alike.flags]
    exact alike.environment.covering_eq
  calc a.joined = (a.flags.covering a.environment).covering a.file := (Layer.covering_assoc ..).symm
    _ = (a.flags.covering a.environment).covering b.file := alike.file.covering_eq
    _ = (b.flags.covering b.environment).covering b.file := by rw [above]
    _ = b.joined := Layer.covering_assoc ..

end Layers

variable {files : Files} {process env : Environment} {home : String} {path : Option String} {o : Overrides}

/-- Settings are resolved when all layers can be read and can be used, each with those below it. -/
theorem resolve_eq_ok_iff (s : Settings) :
    resolve files process env home path o = .ok s ↔
      ∃ (text : String) (l : Layers), Settings.fileText files process home path = some text ∧
        l.ReadFrom text env home o ∧ (l.file.onto .standard).Valid ∧
        ((l.environment.covering l.file).onto .standard).Valid ∧ s = l.joined.onto .standard ∧ s.Valid := by
  unfold resolve
  constructor
  · intro resolved
    split at resolved
    · simp at resolved
    · rename_i base loaded
      obtain ⟨text, stands, parsed⟩ := (Settings.load_eq_ok_iff ..).mp loaded
      obtain ⟨entries, document, given, valid⟩ := (Settings.ofToml_eq_ok_iff ..).mp parsed
      obtain ⟨file, written, rfl⟩ := (Settings.ofDocument_eq_some_iff ..).mp given
      split at resolved
      · simp at resolved
      · rename_i middle applied
        obtain ⟨environment, read, rfl, valid'⟩ := (Settings.applyEnvironment_eq_ok_iff ..).mp applied
        obtain ⟨flags, said, rfl, valid''⟩ := (override_eq_ok_iff ..).mp resolved
        have sources : Layers.ReadFrom ⟨flags, environment, file⟩ text env home o :=
          ⟨⟨entries, document, written⟩, read, said⟩
        refine ⟨text, _, stands, sources, valid, ?_, ?_, valid''⟩
        · rwa [Layer.covering_onto]
        · rw [Layers.joined, Layer.covering_onto, Layer.covering_onto]
  · rintro ⟨text, ⟨flags, environment, file⟩, stands, sources, valid, valid', rfl, valid''⟩
    obtain ⟨⟨entries, document, written⟩, read, said⟩ := sources
    have given := (Settings.ofDocument_eq_some_iff entries _).mpr ⟨file, written, rfl⟩
    have parsed := (Settings.ofToml_eq_ok_iff text _).mpr ⟨entries, document, given, valid⟩
    have loaded := (Settings.load_eq_ok_iff files process home path _).mpr ⟨text, stands, parsed⟩
    rw [Layer.covering_onto] at valid'
    have applied := (Settings.applyEnvironment_eq_ok_iff env home _ _).mpr ⟨environment, read, rfl, valid'⟩
    rw [loaded]
    simp only [applied]
    refine (override_eq_ok_iff ..).mpr ⟨flags, said, ?_, valid''⟩
    rw [Layers.joined, Layer.covering_onto, Layer.covering_onto]

/-- Resolved settings can be used, and come from the layers: each field from the command line if that gives it, else
from the variables, else from the file, else as usual. The certificates are those in the directory of the variables,
where these ask for any. Other sources that differ from these only in what is covered resolve to the same settings, if
they resolve at all. Reading the variables a second time changes nothing, also where one of them is refused. -/
theorem resolve_layers {s : Settings} (resolved : resolve files process env home path o = .ok s) :
    s.Valid ∧
    (∃ (text : String) (l : Layers), Settings.fileText files process home path = some text ∧
      l.ReadFrom text env home o ∧ s = l.joined.onto .standard ∧ Certified env home l.file.tls s.tls ∧
      ∀ (files' : Files) (process' env' : Environment) (home' : String) (path' : Option String) (o' : Overrides)
        (text' : String) (l' : Layers) (s' : Settings),
        Settings.fileText files' process' home' path' = some text' → l'.ReadFrom text' env' home' o' →
        l.AlikeShown l' → resolve files' process' env' home' path' o' = .ok s' → s' = s) ∧
    ∀ base : Settings, (base.applyEnvironment env home).2.applyEnvironment env home = base.applyEnvironment env home := by
  obtain ⟨text, l, stands, read, -, -, same, valid⟩ := (resolve_eq_ok_iff s).mp resolved
  refine ⟨valid, ⟨text, l, stands, read, same, same ▸ read.certified, ?_⟩, Settings.applyEnvironment_twice env home⟩
  intro files' process' env' home' path' o' text' l' s' stands' read' alike resolved'
  obtain ⟨text'', l'', stands'', read'', -, -, same', -⟩ := (resolve_eq_ok_iff s').mp resolved'
  obtain rfl := Option.some.inj (stands'.symm.trans stands'')
  obtain rfl := read'.unique read''
  rw [same', ← alike.joined_eq, same]

private def sampleFiles (content : String) : Files := (Files.mk []).add "c.toml" (.file (Text.encode content) false)

private def sampleText : String := "base_url='/a.sock'\nversion='1.40'\ntimeout_secs=7"

private def otherText : String := "base_url='/a.sock'\ntls=[]"

private def sampleVariables : Environment :=
  [("DOCKER_TLS_VERIFY", "1"), ("DOCKER_HOST", " \t"), ("DOCKWIRE_TIMEOUT", " +30\n"), ("HOME", "")]

private def sampleFlags : Overrides := ⟨none, some "v1.30 ", none⟩

private def sampleTls : TlsSettings :=
  ⟨some "/root/.docker/ca.pem", some "/root/.docker/cert.pem", some "/root/.docker/key.pem", true⟩

private def sampleSettings : Settings := ⟨"/a.sock", ⟨1, 30⟩, 30, 25, 10, true, some sampleTls, none⟩

private def sampleLayers (file : Layer) : Layers :=
  ⟨{ version := some ⟨1, 30⟩ }, { timeoutSeconds := some 30, tls := some sampleTls }, file⟩

private def sampleLayer : Layer := { baseUrl := some "/a.sock", version := some ⟨1, 40⟩, timeoutSeconds := some 7 }

private def otherLayer : Layer := { baseUrl := some "/a.sock", tls := some ⟨none, none, none, true⟩ }

private theorem sampleLayers_readFrom {text : String} {file : Layer} (parses : (Toml.parse text).isSome = true)
    (written : ∀ entries ∈ Toml.parse text, file.WrittenIn entries) :
    (sampleLayers file).ReadFrom text sampleVariables "/root" sampleFlags := by
  obtain ⟨entries, document⟩ := Option.isSome_iff_exists.mp parses
  have environment : Layer.ofVariables sampleVariables "/root" =
      some { timeoutSeconds := some 30, tls := some sampleTls } := by decide +kernel
  have flags : sampleFlags.layer = some { version := some ⟨1, 30⟩ } := by decide +kernel
  exact ⟨⟨entries, document, written entries document⟩, environment, flags⟩

/-- A file below variables and a flag: where they cover its version and its timeout, another file may have none and
certificates of its own. The blank address of the variables covers nothing. -/
theorem resolve_layers_covered :
    resolve (sampleFiles sampleText) [] sampleVariables "/root" (some "c.toml") sampleFlags = .ok sampleSettings ∧
    sampleSettings.Valid ∧
    ∀ s, resolve (sampleFiles otherText) [] sampleVariables "/root" (some "c.toml") sampleFlags = .ok s →
      s = sampleSettings := by
  have resolved : resolve (sampleFiles sampleText) [] sampleVariables "/root" (some "c.toml") sampleFlags =
      .ok sampleSettings := by decide +kernel
  have parses : (Toml.parse sampleText).isSome = true ∧ (Toml.parse otherText).isSome = true := by decide +kernel
  have written : ∀ entries ∈ Toml.parse sampleText, sampleLayer.WrittenIn entries := by
    simp only [Settings.writtenIn_iff]
    decide +kernel
  have written' : ∀ entries ∈ Toml.parse otherText, otherLayer.WrittenIn entries := by
    simp only [Settings.writtenIn_iff]
    decide +kernel
  have stands : Settings.fileText (sampleFiles sampleText) [] "/root" (some "c.toml") = some sampleText := by
    decide +kernel
  have stands' : Settings.fileText (sampleFiles otherText) [] "/root" (some "c.toml") = some otherText := by
    decide +kernel
  obtain ⟨valid, ⟨text, l, found, read, -, -, covered⟩, -⟩ := resolve_layers resolved
  obtain rfl := Option.some.inj (stands.symm.trans found)
  obtain rfl := (sampleLayers_readFrom parses.1 written).unique read
  have alike : (sampleLayers sampleLayer).AlikeShown (sampleLayers otherLayer) :=
    ⟨rfl, by constructor <;> decide +kernel, by constructor <;> decide +kernel⟩
  refine ⟨resolved, valid, fun s resolved' => ?_⟩
  exact covered _ _ _ _ _ _ _ _ s stands' (sampleLayers_readFrom parses.2 written') alike resolved'

end Command

end EngineClient
