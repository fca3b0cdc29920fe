import ChatClient.Proofs.ConfiguredOrigins

/-!
What the environment says instead of the file. A variable that is set stands for its field: the configuration is the
one that the file makes alone once the variables have been written into it, and the error is the same if there is
none. The order in which the parts are checked does not show in this, since it is the same order on both sides.
-/
namespace ChatClient

namespace Environment

variable {env : Environment} {name other : String}

/-- The environment without its blank variables. -/
def withoutBlank (env : Environment) : Environment := fun name => (env name).filter (!Text.isBlank ·)

/-- The environment in which some variables are not set. -/
def without (names : List String) (env : Environment) : Environment :=
  fun name => if name ∈ names then none else env name

@[simp] theorem without_nil (env : Environment) : env.without [] = env := by
  funext name
  simp [without]

theorem without_cons (name : String) (names : List String) (env : Environment) :
    env.without (name :: names) = (env.without [name]).without names := by
  funext other
  by_cases h : other = name <;> simp [without, h]

theorem without_self (env : Environment) (name : String) : env.without [name] name = none := by
  simp [without]

theorem without_of_ne (h : other ≠ name) (env : Environment) : env.without [name] other = env other := by
  simp [without, h]

end Environment

namespace Config

variable {raw raw' : Raw} {env env' : Environment}

/-- The parts of a configuration that a variable can give. -/
inductive Field
  | protocol
  | hostname
  | port
  | tokenFile
deriving DecidableEq

namespace Field

def all : List Field := [.protocol, .hostname, .port, .tokenFile]

def name : Field → String
  | .protocol => protocolVariable
  | .hostname => hostnameVariable
  | .port => portVariable
  | .tokenFile => tokenFileVariable

/-- The file with a field that says `value`. A port has to be a number of sixteen bits. -/
def put? (value : String) (raw : Raw) : Field → Option Raw
  | .protocol => some { raw with api := some { raw.api.getD .empty with protocol := some value } }
  | .hostname => some { raw with api := some { raw.api.getD .empty with hostname := some value } }
  | .port => do
    let port ← Text.number? Text.limit16 value
    some { raw with api := some { raw.api.getD .empty with port := some port } }
  | .tokenFile => some { raw with tokenFile := some value }

/-- The file with a field as its variable says, without the white space around it. A field whose variable is unset
or blank stays as it is. -/
def edit? (env : Environment) (raw : Raw) (field : Field) : Option Raw :=
  match env.withoutBlank field.name with
  | none => some raw
  | some value => field.put? (Text.trim value) raw

theorem mem_all (field : Field) : field ∈ all := by
  cases field <;> decide

theorem name_injective : Function.Injective name := by
  intro field other h
  cases field <;> cases other <;> first | rfl | exact absurd h (by decide)

end Field

/-- The file with every field that a variable gives in place of what it said. -/
def Raw.edited? (raw : Raw) (env : Environment) : Option Raw :=
  Field.all.foldlM (fun raw field => field.edit? env raw) raw

/-- The variable for the port is unset, blank, or a number of sixteen bits with white space around it. -/
def PortReads (env : Environment) : Prop :=
  ∀ value, env.withoutBlank portVariable = some value →
    ∃ port, Text.number? Text.limit16 (Text.trim value) = some port

/-! ### What is read of the environment -/

theorem setting?_eq (env : Environment) (name : String) :
    setting? env name = (env.withoutBlank name).map Text.trim := by
  unfold setting? Environment.withoutBlank
  cases env name with
  | none => rfl
  | some value =>
    rw [Option.filter_some]
    cases hb : Text.isBlank value with
    | true => simp [Text.trim_eq_empty_iff.mpr hb]
    | false =>
      have hne : Text.trim value ≠ "" := fun h => by simp [Text.trim_eq_empty_iff.mp h] at hb
      simp [hne]

/-- The port by what its variable and the file say. -/
def portFrom (said : Option String) (port : Option Nat) : Except Fault Nat :=
  match said with
  | none => .ok (port.getD Origin.default.port)
  | some value =>
    match Text.number? Text.limit16 value with
    | some port => .ok port
    | none => .error (.port portVariable value)

/-- A file and an environment say the same as others, field by field. A port is the same however it is written. -/
structure SaysAlike (raw : Raw) (env : Environment) (raw' : Raw) (env' : Environment) : Prop where
  protocol : (setting? env Field.protocol.name <|> (raw.api.getD .empty).protocol) =
    (setting? env' Field.protocol.name <|> (raw'.api.getD .empty).protocol)
  hostname : (setting? env Field.hostname.name <|> (raw.api.getD .empty).hostname) =
    (setting? env' Field.hostname.name <|> (raw'.api.getD .empty).hostname)
  port : portFrom (setting? env Field.port.name) (raw.api.getD .empty).port =
    portFrom (setting? env' Field.port.name) (raw'.api.getD .empty).port
  tokenFile : (setting? env Field.tokenFile.name <|> raw.tokenFile) =
    (setting? env' Field.tokenFile.name <|> raw'.tokenFile)

theorem SaysAlike.resolve_eq (h : SaysAlike raw env raw' env') : resolve raw env = resolve raw' env' := by
  obtain ⟨hprotocol, hhostname, hport, htokenFile⟩ := h
  simp only [Field.name] at hprotocol hhostname hport htokenFile
  have hp : resolveProtocol (raw.api.getD .empty) env = resolveProtocol (raw'.api.getD .empty) env' := by
    rw [resolveProtocol, hprotocol, resolveProtocol]
  have hh : resolveHostname (raw.api.getD .empty) env = resolveHostname (raw'.api.getD .empty) env' := by
    rw [resolveHostname, hhostname, resolveHostname]
  have hn : resolvePort (raw.api.getD .empty) env = resolvePort (raw'.api.getD .empty) env' := hport
  unfold resolve
  simp only [hp, hh, hn, htokenFile]

/-- No other variables are read. -/
theorem resolve_reads (h : ∀ field : Field, setting? env field.name = setting? env' field.name) (raw : Raw) :
    resolve raw env = resolve raw env' := by
  apply SaysAlike.resolve_eq
  constructor <;> rw [h]

theorem resolve_withoutBlank (raw : Raw) (env : Environment) : resolve raw env.withoutBlank = resolve raw env := by
  apply resolve_reads
  intro field
  have htwice : env.withoutBlank.withoutBlank = env.withoutBlank := by
    funext name
    simp [Environment.withoutBlank, Option.filter_filter]
  rw [setting?_eq, setting?_eq, htwice]

/-! ### One field -/

theorem setting?_without (env : Environment) (field other : Field) :
    setting? (env.without [field.name]) other.name = if other = field then none else setting? env other.name := by
  split
  · rename_i h
    rw [setting?, h, Environment.without_self]
    rfl
  · rename_i h
    rw [setting?, Environment.without_of_ne fun hname => h (Field.name_injective hname), setting?]

/-- The file says of a field what its variable said. -/
theorem put?_alike {field : Field} (hs : setting? env field.name = some value)
    (h : field.put? value raw = some raw') : SaysAlike raw env raw' (env.without [field.name]) := by
  cases field with
  | protocol | hostname | tokenFile =>
    obtain rfl := Option.some.inj h
    constructor <;> simp [setting?_without, hs]
  | port =>
    obtain ⟨port, hport, h⟩ := Option.bind_eq_some_iff.mp h
    obtain rfl := Option.some.inj h
    constructor <;> simp [setting?_without, hs, portFrom, hport]

theorem edit?_resolve {field : Field} (h : field.edit? env raw = some raw') :
    resolve raw env = resolve raw' (env.without [field.name]) := by
  have hs := setting?_eq env field.name
  unfold Field.edit? at h
  cases hv : env.withoutBlank field.name with
  | none =>
    rw [hv] at h hs
    obtain rfl := Option.some.inj h
    apply resolve_reads
    intro other
    rw [setting?_without]
    split
    · rename_i ho
      rw [ho, hs]
      rfl
    · rfl
  | some value =>
    rw [hv] at h hs
    exact (put?_alike hs h).resolve_eq

/-! ### All of them -/

theorem edit?_without {field other : Field} (h : other ≠ field) (env : Environment) (raw : Raw) :
    other.edit? (env.without [field.name]) raw = other.edit? env raw := by
  have hkept := Environment.without_of_ne (fun hname => h (Field.name_injective hname)) env
  rw [Field.edit?, Environment.withoutBlank, hkept]
  rfl

theorem edits_without {field : Field} {fields : List Field} (hnew : field ∉ fields) (env : Environment) (raw : Raw) :
    fields.foldlM (fun raw other => other.edit? (env.without [field.name]) raw) raw =
      fields.foldlM (fun raw other => other.edit? env raw) raw := by
  induction fields generalizing raw with
  | nil => rfl
  | cons other fields ih =>
    obtain ⟨hother, hnew⟩ : field ≠ other ∧ field ∉ fields := by simpa using hnew
    simp only [List.foldlM_cons, edit?_without (Ne.symm hother), ih hnew]

/-- Field by field, what the environment says goes over into the file. -/
theorem edits_resolve {fields : List Field} (hd : fields.Nodup)
    (h : fields.foldlM (fun raw field => field.edit? env raw) raw = some raw') :
    resolve raw env = resolve raw' (env.without (fields.map Field.name)) := by
  induction fields generalizing raw env with
  | nil =>
    obtain rfl := Option.some.inj h
    rw [List.map_nil, Environment.without_nil]
  | cons field fields ih =>
    obtain ⟨hnew, hd⟩ := List.nodup_cons.mp hd
    rw [List.foldlM_cons] at h
    obtain ⟨next, hfirst, hrest⟩ := Option.bind_eq_some_iff.mp h
    rw [← edits_without hnew] at hrest
    calc resolve raw env
      _ = resolve next (env.without [field.name]) := edit?_resolve hfirst
      _ = resolve raw' ((env.without [field.name]).without (fields.map Field.name)) := ih hd hrest
      _ = _ := by rw [List.map_cons, ← Environment.without_cons]

theorem edited?_resolve (h : raw.edited? env = some raw') : resolve raw env = resolve raw' fun _ => none := by
  rw [edits_resolve (by decide) h]
  apply resolve_reads
  intro field
  have hset : field.name ∈ Field.all.map Field.name := List.mem_map_of_mem field.mem_all
  rw [setting?, Environment.without, if_pos hset]
  rfl

theorem exists_put?_iff {field : Field} : (∃ raw', field.put? value raw = some raw') ↔
    (field = .port → ∃ port, Text.number? Text.limit16 value = some port) := by
  cases field with
  | protocol | hostname | tokenFile => exact iff_of_true ⟨_, rfl⟩ nofun
  | port => simp [Field.put?, Option.bind_eq_some_iff]

theorem exists_edit?_iff {field : Field} (raw : Raw) :
    (∃ raw', field.edit? env raw = some raw') ↔ (field = .port → PortReads env) := by
  unfold Field.edit?
  cases hv : env.withoutBlank field.name with
  | none =>
    refine iff_of_true ⟨raw, rfl⟩ ?_
    rintro rfl value hvalue
    exact absurd (hv.symm.trans hvalue) nofun
  | some value =>
    rw [exists_put?_iff]
    refine forall_congr' ?_
    rintro rfl
    constructor
    · intro hread other hother
      obtain rfl := Option.some.inj (hv.symm.trans hother)
      exact hread
    · exact fun h => h value hv

theorem exists_edits_iff {fields : List Field} (raw : Raw) :
    (∃ raw', fields.foldlM (fun raw field => field.edit? env raw) raw = some raw') ↔
      (.port ∈ fields → PortReads env) := by
  induction fields generalizing raw with
  | nil => exact iff_of_true ⟨raw, rfl⟩ nofun
  | cons field fields ih =>
    simp only [List.foldlM_cons, Option.bind_eq_bind, Option.bind_eq_some_iff, List.mem_cons, or_imp]
    constructor
    · rintro ⟨raw', next, hfirst, hrest⟩
      exact ⟨fun h => (exists_edit?_iff raw).mp ⟨next, hfirst⟩ h.symm, (ih next).mp ⟨raw', hrest⟩⟩
    · rintro ⟨hfirst, hrest⟩
      obtain ⟨next, hnext⟩ := (exists_edit?_iff raw).mpr fun h => hfirst h.symm
      obtain ⟨raw', hraw⟩ := (ih next).mpr hrest
      exact ⟨raw', next, hnext, hraw⟩

/-- The file can be edited exactly if the variable for the port can be read. -/
theorem exists_edited?_iff : (∃ raw', raw.edited? env = some raw') ↔ PortReads env := by
  have hport : Field.port ∈ Field.all := Field.port.mem_all
  rw [Raw.edited?, exists_edits_iff]
  exact forall_prop_of_true hport

/-- A variable of the environment is as good as an edit of the file. If the one for the port is unset, blank or a
number of sixteen bits, then the file can be edited as the variables say, and alone it comes to the same
configuration or the same error. A blank variable is as good as none. And a configuration that is accepted has one
of the two protocols of the web, in small letters, and a host name that is not empty and has no white space around
it. -/
theorem resolve_edited (raw : Raw) (env : Environment) :
    (PortReads env → ∃ raw', raw.edited? env = some raw' ∧ resolve raw env = resolve raw' fun _ => none) ∧
      resolve raw env.withoutBlank = resolve raw env ∧
      ∀ c, resolve raw env = .ok c → (c.api.protocol = "http" ∨ c.api.protocol = "https") ∧
        c.api.hostname ≠ "" ∧ Text.trim c.api.hostname = c.api.hostname := by
  refine ⟨?_, resolve_withoutBlank raw env, ?_⟩
  · intro hport
    obtain ⟨raw', h⟩ := exists_edited?_iff.mpr hport
    exact ⟨raw', h, edited?_resolve h⟩
  · intro c h
    have haccepted := resolve_accepted h
    exact ⟨haccepted.protocol, haccepted.hostname⟩

/-- A protocol in capitals, a host name that is nothing but a line feed, and a port with a plus sign. -/
theorem file_with_all_variables :
    let raw : Raw := ⟨some ⟨some "ftp", some " api.example.com ", some 8443⟩, some "/tmp/t"⟩
    let env : Environment := fun name =>
      if name = protocolVariable then some "HTTPS\t" else if name = hostnameVariable then some "\n"
      else if name = portVariable then some " +443 " else none
    let c : Config := ⟨⟨"https", "api.example.com", 443⟩, some "/tmp/t"⟩
    resolve raw env = .ok c ∧
      (∃ raw', raw.edited? env = some raw' ∧ raw'.api = some ⟨some "HTTPS", some " api.example.com ", some 443⟩ ∧
        resolve raw' (fun _ => none) = .ok c) ∧
      resolve raw env.withoutBlank = .ok c ∧ Text.trim c.api.hostname = c.api.hostname := by
  intro raw env c
  have hc : resolve raw env = .ok c := by decide +kernel
  have hport : PortReads env := by
    intro value hvalue
    have hset : env.withoutBlank portVariable = some " +443 " := by decide +kernel
    obtain rfl : " +443 " = value := Option.some.inj (hset.symm.trans hvalue)
    exact ⟨443, by decide +kernel⟩
  obtain ⟨hedit, hblank, haccepted⟩ := resolve_edited raw env
  obtain ⟨raw', h, hsame⟩ := hedit hport
  have hapi : raw.edited? env = some ⟨some ⟨some "HTTPS", some " api.example.com ", some 443⟩, some "/tmp/t"⟩ := by
    decide +kernel
  obtain rfl := Option.some.inj (hapi.symm.trans h)
  exact ⟨hc, ⟨_, h, rfl, hsame.symm.trans hc⟩, hblank.trans hc, (haccepted c hc).2.2⟩

end Config

end ChatClient
