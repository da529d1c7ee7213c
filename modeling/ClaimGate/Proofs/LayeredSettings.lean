import ClaimGate.Proofs.Layering
import ClaimGate.Proofs.UnknownMember
import ClaimGate.Settings.Server
import Mathlib.Data.List.Infix

/-! The settings of the server by their layers. A setting is a field of a record, or of a record
inside one, and is read from what stands at its path; where nothing does it has a value that is
built in, as its section has where that is missing. The layers act on each path by itself, so each
setting comes from one of them. Proved: settings that load have passed their check and hold no
member that is not declared; a variable goes before the document, and the document before what is
built in; and one more variable changes the setting that it names and no other. The one exception is
the format of the log, which may be written as an object: of two objects the names are merged. -/

namespace ClaimGate

namespace Json

/-! ### Settings in a shape -/

/-- Along the path a value has objects, as far as it goes. -/
def Objects : List String → Json → Prop
  | [], _ => True
  | name :: path, j => (∃ ms, j = .obj ms) ∧ ∀ c, j.lastMember? name = some c → Objects path c

/-- A field of the record with a value of its own for when it is absent, and how the record gives
it. -/
inductive Fields.Has {γ : Type} (name : String) (absent : γ) (s : Shape γ) :
    {α : Type} → Fields α → (α → γ) → Prop
  | first {β : Type} {short : Option γ} {omitted : Bool} {rest : Fields β} :
      Has name absent s (.cons name (some absent) short omitted s rest) Prod.fst
  | later {α β : Type} {k : String} {other short : Option α} {omitted : Bool} {t : Shape α}
      {rest : Fields β} {get : β → γ} (h : Has name absent s rest get) :
      Has name absent s (.cons k other short omitted t rest) fun a => get a.2

/-- What is read of a value that may be missing. -/
def Shape.Reads {γ : Type} (s : Shape γ) (manner : Manner) (absent : γ) (value : Option Json)
    (a : γ) : Prop :=
  match value with
  | some j => s.read manner j = .ok a
  | none => a = absent

theorem Shape.Reads.unique {γ : Type} {s : Shape γ} {manner : Manner} {absent a a' : γ}
    {value : Option Json} (h : s.Reads manner absent value a)
    (h' : s.Reads manner absent value a') : a = a' := by
  cases value with
  | none => exact Eq.trans h (Eq.symm h')
  | some j => exact Except.ok.inj (Eq.trans (Eq.symm h) h')

/-- The values of a shape have a setting at the path, in records that refuse other members. -/
inductive Shape.Declares {γ : Type} (s : Shape γ) (absent : γ) :
    {α : Type} → Shape α → List String → (α → γ) → Prop
  | field {α β : Type} {name : String} {fs : Fields α} {into : α → β} {back : β → α} {get : α → γ}
      {get' : β → γ} (distinct : fs.names.Nodup) (has : fs.Has name absent s get)
      (same : ∀ a, get' (into a) = get a) :
      Declares s absent (.via (.record .refused fs) into back) [name] get'
  | within {α β δ : Type} {name : String} {path : List String} {fs : Fields α} {into : α → β}
      {back : β → α} {t : Shape δ} {other : δ} {get : α → δ} {inner : δ → γ} {get' : β → γ}
      (distinct : fs.names.Nodup) (has : fs.Has name other t get)
      (declares : Declares s absent t path inner) (missing : inner other = absent)
      (same : ∀ a, get' (into a) = inner (get a)) :
      Declares s absent (.via (.record .refused fs) into back) (name :: path) get'

variable {γ : Type} {manner : Manner} {s : Shape γ} {absent : γ}

theorem Fields.Has.reads {α : Type} {name : String} {fs : Fields α} {get : α → γ}
    (has : fs.Has name absent s get) {ms : List (String × Json)} {a : α}
    (given : fs.Given manner ms a) : s.Reads manner absent (ms.lookup name) (get a) := by
  induction has with
  | first =>
    obtain ⟨first, _⟩ := given
    revert first
    cases ms.lookup name <;> simp [Shape.Reads, eq_comm]
  | later _ ih => exact ih given.2

/-- A record that refuses other members reads its field from the member of that name. -/
theorem Fields.Has.reads_of_read {α β : Type} {name : String} {fs : Fields α} {into : α → β}
    {back : β → α} {get : α → γ} (distinct : fs.names.Nodup) (has : fs.Has name absent s get)
    {ms : List (String × Json)} {b : β}
    (read : (Shape.via (.record .refused fs) into back).read manner (.obj ms) = .ok b) :
    ∃ a, into a = b ∧ s.Reads manner absent ((Json.obj ms).lastMember? name) (get a) := by
  obtain ⟨a, record, rfl⟩ := Shape.read_via.1 read
  obtain ⟨apart, _, given⟩ := (read_refused_iff distinct).1 record
  refine ⟨a, rfl, ?_⟩
  have last : (Json.obj ms).lastMember? name = ms.lookup name := by
    refine Option.ext fun j => ?_
    rw [Dict.lookup_eq_some_iff apart]
    exact Dict.get?_ofList_eq_some apart
  rw [last]
  exact has.reads given

/-- A setting is read from what stands at its path, where there are objects on the way. -/
theorem Shape.Declares.reads {α : Type} {t : Shape α} {path : List String} {get : α → γ}
    (declares : Declares s absent t path get) {j : Json} {a : α} (read : t.read manner j = .ok a)
    (objects : Objects path j) : s.Reads manner absent (j.valueAt path) (get a) := by
  induction declares generalizing j with
  | field distinct has same =>
    obtain ⟨⟨ms, rfl⟩, _⟩ := objects
    obtain ⟨b, rfl, reads⟩ := has.reads_of_read distinct read
    rw [same, valueAt]
    revert reads
    cases (Json.obj ms).lastMember? _ <;> exact id
  | within distinct has _ missing same ih =>
    obtain ⟨⟨ms, rfl⟩, below⟩ := objects
    obtain ⟨b, rfl, reads⟩ := has.reads_of_read distinct read
    rw [same, valueAt]
    cases found : (Json.obj ms).lastMember? _ with
    | none =>
      rw [found] at reads
      exact (congrArg _ reads).trans missing
    | some c =>
      rw [found] at reads
      exact ih reads (below c found)

theorem Branches.objects {path : List String} {j : Json} (h : Branches path j) :
    Objects path j := by
  induction path generalizing j with
  | nil => trivial
  | cons name path ih =>
    obtain ⟨d, rfl, below⟩ := h
    refine ⟨⟨_, rfl⟩, fun c found => ih (below c ?_)⟩
    rwa [lastMember?_entries] at found

/-- Laying a layer over a value that has objects along the path keeps them. -/
theorem objects_merge {path : List String} {earlier later : Json}
    (h : ∀ name rest c, path = name :: rest → earlier.lastMember? name = some c → Objects rest c)
    (branches : Branches path later) : Objects path (merge earlier later) := by
  induction path generalizing earlier later with
  | nil => trivial
  | cons name path ih =>
    obtain ⟨d, rfl, below⟩ := branches
    refine ⟨by cases earlier <;> exact ⟨_, rfl⟩, fun c found => ?_⟩
    rw [lastMember?_merge] at found
    cases second : d.get? name with
    | none =>
      rw [second, overlay_none] at found
      exact h name path c rfl found
    | some l =>
      cases first : earlier.lastMember? name with
      | none =>
        rw [first, second] at found
        obtain rfl := Option.some.inj found
        exact (below l second).objects
      | some e =>
        rw [first, second] at found
        obtain rfl := Option.some.inj found
        refine ih (fun name' rest c same found => ?_) (below l second)
        have objects := h name path e rfl first
        rw [same] at objects
        exact objects.2 c found

theorem objects_of_valueAt {path : List String} {j : Json}
    (h : ∀ front, front <+: path → front ≠ path → ∀ c, j.valueAt front = some c →
      ∃ ms, c = .obj ms) : Objects path j := by
  induction path generalizing j with
  | nil => trivial
  | cons name path ih =>
    refine ⟨h [] List.nil_prefix (List.cons_ne_nil _ _).symm j rfl, fun c found => ih ?_⟩
    intro front before more x standing
    refine h (name :: front) (List.cons_prefix_cons.2 ⟨rfl, before⟩) (by simpa using more) x ?_
    rw [valueAt, found, Option.bind_some, standing]

theorem merge_of_not_obj {earlier later : Json}
    (h : ∀ ms ms', earlier = .obj ms → later ≠ .obj ms') : merge earlier later = later := by
  rw [merge]
  exact h

end Json

open Json

/-! ### The settings of the server -/

/-- A setting: the path at which it stands, its written form, its value where nothing tells it, and
how the settings give it. -/
structure Setting (σ : Type) where
  {α : Type}
  path : List String
  shape : Shape α
  builtIn : α
  get : σ → α

namespace ServerSettings

/-- The settings that can be told one by one. -/
def leaves : List (Setting ServerSettings) :=
  [⟨["bind_addr"], .text, "127.0.0.1:8087", (·.bindAddress)⟩,
    ⟨["log_level"], .text, "info", (·.logLevel)⟩,
    ⟨["log_format"], LogFormat.shape, .text, (·.logFormat)⟩,
    ⟨["authorizer", "region"], .text, "us-east-1", (·.pools.region)⟩,
    ⟨["authorizer", "user_pool", "pool_id"], .text, "", (·.pools.userPool.id)⟩,
    ⟨["authorizer", "user_pool", "client_id"], .text, "", (·.pools.userPool.client)⟩,
    ⟨["authorizer", "token_pool", "pool_id"], .text, "", (·.pools.tokenPool.id)⟩,
    ⟨["authorizer", "token_pool", "client_id"], .text, "", (·.pools.tokenPool.client)⟩,
    ⟨["authorizer", "manifest_table"], .text, "manifests", (·.pools.manifestTable)⟩,
    ⟨["authorizer", "cognito_endpoint"], .option .text, none, (·.pools.endpoint)⟩,
    ⟨["authorizer", "legacy_claims"], .bool, false, (·.pools.legacyClaims)⟩,
    ⟨["authorizer", "super_admin_bypass"], .bool, false, (·.pools.superAdminBypass)⟩,
    ⟨["static_claims", "users"], .list UserFixture.shape, [], (·.fixtures.users)⟩,
    ⟨["static_claims", "organizations"], .list OrganizationFixture.shape, [],
      (·.fixtures.organizations)⟩,
    ⟨["static_claims", "manifests"], .list Manifest.shape, [], (·.fixtures.manifests)⟩,
    ⟨["static_claims", "unavailable"], .list Family.shape, [], (·.fixtures.unavailable)⟩]

/-- The paths at which settings stand together. -/
def sections : List (List String) :=
  [["authorizer"], ["authorizer", "user_pool"], ["authorizer", "token_pool"], ["static_claims"]]

theorem leaves_apart : ∀ l ∈ leaves, ∀ l' ∈ leaves,
    l.path = l'.path ∨ ¬ l.path <+: l'.path ∧ ¬ l'.path <+: l.path := by
  decide +kernel

theorem leaves_sections : ∀ l ∈ leaves, l.path ≠ [] ∧
    ∀ front ∈ l.path.inits, front ≠ [] → front ≠ l.path → front ∈ sections := by
  decide +kernel

section Declared

variable {γ : Type} {s : Shape γ} {absent : γ} {path : List String}

theorem declares_pools (get : PoolSettings → γ)
    (h : Shape.Declares s (get {}) PoolSettings.shape path get) :
    Shape.Declares s (get {}) shape ("authorizer" :: path) fun t => get t.pools :=
  .within (by decide) (.later (.later (.later .first))) h rfl fun _ => rfl

theorem declares_userPool (get : Pool → γ) (h : Shape.Declares s (get {}) Pool.shape path get) :
    Shape.Declares s (get {}) shape ("authorizer" :: "user_pool" :: path) fun t =>
      get t.pools.userPool :=
  declares_pools (fun t => get t.userPool)
    (.within (by decide) (.later .first) h rfl fun _ => rfl)

theorem declares_tokenPool (get : Pool → γ) (h : Shape.Declares s (get {}) Pool.shape path get) :
    Shape.Declares s (get {}) shape ("authorizer" :: "token_pool" :: path) fun t =>
      get t.pools.tokenPool :=
  declares_pools (fun t => get t.tokenPool)
    (.within (by decide) (.later (.later .first)) h rfl fun _ => rfl)

theorem declares_fixtures (get : Fixtures → γ)
    (h : Shape.Declares s (get {}) Fixtures.shape path get) :
    Shape.Declares s (get {}) shape ("static_claims" :: path) fun t => get t.fixtures :=
  .within (by decide) (.later (.later (.later (.later .first)))) h rfl fun _ => rfl

end Declared

/-- Each of the settings stands in the written form of the settings at its path. -/
theorem leaves_declared :
    ∀ l ∈ leaves, Shape.Declares l.shape l.builtIn shape l.path l.get := by
  simp only [leaves, List.forall_mem_cons]
  refine ⟨?_, ?_, ?_, ?_, ?_, ?_, ?_, ?_, ?_, ?_, ?_, ?_, ?_, ?_, ?_, ?_, nofun⟩
  · exact .field (by decide) .first fun _ => rfl
  · exact .field (by decide) (.later .first) fun _ => rfl
  · exact .field (by decide) (.later (.later .first)) fun _ => rfl
  · exact declares_pools (·.region) (.field (by decide) .first fun _ => rfl)
  · exact declares_userPool (·.id) (.field (by decide) .first fun _ => rfl)
  · exact declares_userPool (·.client) (.field (by decide) (.later .first) fun _ => rfl)
  · exact declares_tokenPool (·.id) (.field (by decide) .first fun _ => rfl)
  · exact declares_tokenPool (·.client) (.field (by decide) (.later .first) fun _ => rfl)
  · exact declares_pools (·.manifestTable)
      (.field (by decide) (.later (.later (.later .first))) fun _ => rfl)
  · exact declares_pools (·.endpoint)
      (.field (by decide) (.later (.later (.later (.later .first)))) fun _ => rfl)
  · exact declares_pools (·.legacyClaims)
      (.field (by decide) (.later (.later (.later (.later (.later .first))))) fun _ => rfl)
  · exact declares_pools (·.superAdminBypass)
      (.field (by decide) (.later (.later (.later (.later (.later (.later .first)))))) fun _ => rfl)
  · exact declares_fixtures (·.users) (.field (by decide) .first fun _ => rfl)
  · exact declares_fixtures (·.organizations) (.field (by decide) (.later .first) fun _ => rfl)
  · exact declares_fixtures (·.manifests) (.field (by decide) (.later (.later .first)) fun _ => rfl)
  · exact declares_fixtures (·.unavailable)
      (.field (by decide) (.later (.later (.later .first))) fun _ => rfl)

theorem not_obj_of_read : ∀ l ∈ leaves, l.path ≠ ["log_format"] → ∀ ms a,
    l.shape.read .lenient (.obj ms) ≠ .ok a := by
  simp only [leaves, List.forall_mem_cons]
  refine ⟨nofun, nofun, fun other => absurd rfl other, nofun, nofun, nofun, nofun, nofun, nofun,
    nofun, nofun, nofun, nofun, nofun, nofun, nofun, nofun⟩

/-- The settings are made up of those that are told one by one. -/
theorem ext_leaves {s t : ServerSettings} (h : ∀ l ∈ leaves, l.get s = l.get t) : s = t := by
  simp only [leaves, List.forall_mem_cons] at h
  obtain ⟨bindAddress, logLevel, logFormat, region, userId, userClient, tokenId, tokenClient, table,
    endpoint, legacy, bypass, users, organizations, manifests, unavailable, _⟩ := h
  obtain ⟨_, _, _, ⟨_, ⟨_, _⟩, ⟨_, _⟩, _, _, _, _⟩, ⟨_, _, _, _⟩⟩ := s
  obtain ⟨_, _, _, ⟨_, ⟨_, _⟩, ⟨_, _⟩, _, _, _, _⟩, ⟨_, _, _, _⟩⟩ := t
  simp_all

/-! ### Loading -/

/-- What a document holds at a path, as it is read. -/
def documentAt (document : Option Json) (path : List String) : Option Json :=
  document.bind fun d => (documentLayer d).toOption.bind (valueAt path)

/-- The sections of a document are objects where they are present. -/
def Sectioned (document : Option Json) : Prop :=
  ∀ path ∈ sections, ∀ j, documentAt document path = some j → ∃ ms, j = .obj ms

/-- The value is an object. -/
def isObject : Json → Bool
  | .obj _ => true
  | _ => false

theorem isObject_iff {j : Json} : isObject j = true ↔ ∃ ms, j = .obj ms := by
  cases j <;> simp [isObject]

instance {document : Option Json} : Decidable (Sectioned document) :=
  decidable_of_iff (∀ path ∈ sections, (documentAt document path).all isObject = true) <| by
    simp only [Sectioned, Option.all_eq_true, isObject_iff]

/-- Each of the variables names a setting, and no two of them the same. -/
structure Separate (given : List Variable) : Prop where
  settings : ∀ v ∈ given, ∀ path, v.Names path → ∃ l ∈ leaves, l.path = path
  different : given.Pairwise fun v w => ∀ path, v.Names path → ¬ w.Names path

/-- How a setting comes by its value: from the variable that names it, else from the document, else
it has the built-in one. The format of the log is read of both where both have objects for it. -/
inductive Supplied (document : Option Json) (given : List Variable) (s : ServerSettings)
    (l : Setting ServerSettings) : Prop
  | variable {v : Variable} (mem : v ∈ given) (names : v.Names l.path)
      (read : l.shape.read .lenient (VariableValue.ofText v.value) = .ok (l.get s))
  | both {v : Variable} {ms ms' : List (String × Json)} (format : l.path = ["log_format"])
      (mem : v ∈ given) (names : v.Names l.path)
      (earlier : documentAt document l.path = some (.obj ms))
      (later : VariableValue.ofText v.value = .obj ms')
      (read : l.shape.read .lenient (merge (.obj ms) (.obj ms')) = .ok (l.get s))
  | document {j : Json} (unnamed : ∀ v ∈ given, ¬ v.Names l.path)
      (holds : documentAt document l.path = some j)
      (read : l.shape.read .lenient j = .ok (l.get s))
  | builtIn (unnamed : ∀ v ∈ given, ¬ v.Names l.path)
      (absent : documentAt document l.path = none) (same : l.get s = l.builtIn)

/-- The records of the settings, by the names of their fields. -/
def strictRecords : List (List String) :=
  ["bind_addr", "log_level", "log_format", "authorizer", "static_claims"] ::
    PoolSettings.strictRecords ++ Fixtures.strictRecords

variable {document : Option Json} {given : List Variable} {settings settings' : ServerSettings}
  {layers : Json} {path : List String} {l : Setting ServerSettings}

theorem load_eq_ok : load document given = .ok settings ↔
    ∃ layers, layered document given = .ok layers ∧
      shape.read .lenient layers = .ok settings ∧ settings.pools.check = .ok () := by
  simp only [load, bind_eq_ok, mapError_eq_ok]
  constructor
  · rintro ⟨layers, laid, read, shaped, _, checked, same⟩
    obtain rfl := Except.ok.inj same
    exact ⟨layers, laid, shaped, checked⟩
  · rintro ⟨layers, laid, shaped, checked⟩
    exact ⟨layers, laid, settings, shaped, (), checked, rfl⟩

theorem valueAt_layered (h : layered document given = .ok layers)
    (branches : Branches path (Variable.layers given)) :
    layers.valueAt path =
      overlay (documentAt document path) ((Variable.layers given).valueAt path) := by
  cases document with
  | none =>
    obtain rfl := Except.ok.inj h
    exact (none_overlay _).symm
  | some d =>
    obtain ⟨j, read, merged⟩ := bind_eq_ok.1 h
    obtain rfl := Except.ok.inj merged
    rw [valueAt_merge branches, documentAt, Option.bind_some, read]
    rfl

theorem objects_layered (h : layered document given = .ok layers) (sectioned : Sectioned document)
    (hl : l ∈ leaves) (branches : Branches l.path (Variable.layers given)) :
    Objects l.path layers := by
  cases document with
  | none =>
    obtain rfl := Except.ok.inj h
    exact branches.objects
  | some d =>
    obtain ⟨j, read, merged⟩ := bind_eq_ok.1 h
    obtain rfl := Except.ok.inj merged
    refine objects_merge (fun name rest c split found => objects_of_valueAt ?_) branches
    intro front before more x standing
    have held : documentAt (some d) (name :: front) = some x := by
      rw [documentAt, Option.bind_some, read]
      exact (congrArg (Option.bind · (valueAt front)) found).trans standing
    -- Before its end, the path of a setting is that of a section.
    refine sectioned (name :: front) ?_ x held
    refine (leaves_sections l hl).2 _ ?_ (List.cons_ne_nil _ _) ?_
    · rw [split, List.mem_inits]
      exact List.cons_prefix_cons.2 ⟨rfl, before⟩
    · rw [split]
      simpa using more

/-- No other variable names what one of them names. -/
theorem Separate.alone {before after : List Variable} {v : Variable}
    (h : Separate (before ++ v :: after)) (names : v.Names path) :
    ∀ w ∈ before ++ after, ¬ w.Names path := by
  have symmetric {v w : Variable} (h : ∀ path, v.Names path → ¬ w.Names path) :
      ∀ path, w.Names path → ¬ v.Names path := fun path names names' => h path names' names
  have different := (List.perm_middle.pairwise_iff symmetric).1 h.different
  exact fun w hw => (List.pairwise_cons.1 different).1 w hw path names

theorem Separate.spares (h : Separate given) (hl : l ∈ leaves) : ∀ v ∈ given, v.Spares l.path := by
  intro v hv path names
  obtain ⟨l', hl', rfl⟩ := h.settings v hv path names
  exact leaves_apart l hl l' hl'

/-- Each setting is read from what stands at its path in the layers. -/
theorem reads_of_layered (h : layered document given = .ok layers) (sectioned : Sectioned document)
    (spares : ∀ v ∈ given, v.Spares l.path) (hl : l ∈ leaves)
    (read : shape.read .lenient layers = .ok settings) :
    l.shape.Reads .lenient l.builtIn
      (overlay (documentAt document l.path) ((Variable.layers given).valueAt l.path))
      (l.get settings) := by
  have branches := Variable.branches_layers spares
  rw [← valueAt_layered h branches]
  exact (leaves_declared l hl).reads read (objects_layered h sectioned hl branches)

/-- What is read of a variable over the document is that of the variable, but for two objects. -/
theorem supplied_of_overlay {v : Variable} (hl : l ∈ leaves) (hv : v ∈ given)
    (names : v.Names l.path)
    (reads : l.shape.Reads .lenient l.builtIn
      (overlay (documentAt document l.path) (some (VariableValue.ofText v.value)))
      (l.get settings)) : Supplied document given settings l := by
  cases earlier : documentAt document l.path with
  | none =>
    rw [earlier, none_overlay] at reads
    exact .variable hv names reads
  | some j =>
    have read : l.shape.read .lenient (merge j (VariableValue.ofText v.value)) =
        .ok (l.get settings) := by
      rw [earlier] at reads
      exact reads
    by_cases objects : ∃ ms ms', j = .obj ms ∧ VariableValue.ofText v.value = .obj ms'
    · obtain ⟨ms, ms', rfl, later⟩ := objects
      rw [later] at read
      by_cases format : l.path = ["log_format"]
      · exact .both format hv names earlier later read
      · -- The merge of two objects is one again, and no other setting is read from an object.
        exact absurd read (not_obj_of_read l hl format _ _)
    · rw [merge_of_not_obj fun ms ms' e l => objects ⟨ms, ms', e, l⟩] at read
      exact .variable hv names read

theorem supplied_of_reads (separate : Separate given) (hl : l ∈ leaves)
    (reads : l.shape.Reads .lenient l.builtIn
      (overlay (documentAt document l.path) ((Variable.layers given).valueAt l.path))
      (l.get settings)) : Supplied document given settings l := by
  obtain ⟨proper, _⟩ := leaves_sections l hl
  have spares := separate.spares hl
  by_cases named : ∃ v ∈ given, v.Names l.path
  · obtain ⟨v, hv, names⟩ := named
    obtain ⟨before, after, rfl⟩ := List.append_of_mem hv
    rw [Variable.valueAt_layers_of_names proper names spares (separate.alone names)] at reads
    exact supplied_of_overlay hl hv names reads
  · have unnamed : ∀ v ∈ given, ¬ v.Names l.path := fun v hv names => named ⟨v, hv, names⟩
    rw [Variable.valueAt_layers_of_not_names proper spares unnamed, overlay_none] at reads
    cases earlier : documentAt document l.path with
    | none =>
      rw [earlier] at reads
      exact .builtIn unnamed earlier reads
    | some j =>
      rw [earlier] at reads
      exact .document unnamed earlier reads

/-- One more variable changes no setting but the one that it names. -/
theorem get_eq_of_load {before after : List Variable} {v : Variable}
    (sectioned : Sectioned document) (separate : Separate (before ++ after)) (hl : l ∈ leaves)
    (setting : ∃ l' ∈ leaves, l'.path = path) (names : v.Names path) (other : l.path ≠ path)
    (loaded : load document (before ++ after) = .ok settings)
    (loaded' : load document (before ++ v :: after) = .ok settings') :
    l.get settings' = l.get settings := by
  obtain ⟨layers, layered, read, _⟩ := load_eq_ok.1 loaded
  obtain ⟨layers', layered', read', _⟩ := load_eq_ok.1 loaded'
  have spares := separate.spares hl
  have spared : v.Spares l.path := by
    obtain ⟨l', hl', rfl⟩ := setting
    intro path' names'
    obtain rfl := names.unique names'
    exact leaves_apart l hl l' hl'
  have spares' : ∀ w ∈ before ++ v :: after, w.Spares l.path := by
    intro w hw
    rcases List.mem_cons.1 (List.perm_middle.mem_iff.1 hw) with rfl | hw
    · exact spared
    · exact spares w hw
  have unnamed : ¬ v.Names l.path := fun names' => other (names'.unique names)
  have reads := reads_of_layered layered sectioned spares hl read
  have reads' := reads_of_layered layered' sectioned spares' hl read'
  rw [Variable.valueAt_layers_of_other spared (List.forall_mem_append.1 spares).2 unnamed] at reads'
  exact reads'.unique reads

/-- A record in the layers has no member that it does not declare, except for the two records that
other stores share. -/
theorem declared_of_meets (read : shape.read .lenient layers = .ok settings) {ρ : Type}
    {others : Others} {fs : Fields ρ} {ms : List (String × Json)}
    (met : Meets others fs ms ms shape layers layers) :
    fs.names ∈ strictRecords ∧ (∀ m ∈ ms, m.1 ∈ fs.names) ∨ fs.names ∈ Fixtures.sharedRecords := by
  have told : ∀ r ∈ (shape : Shape ServerSettings).records,
      r.1 = .refused ∧ r.2 ∈ strictRecords ∨ r.2 ∈ Fixtures.sharedRecords := by decide
  rcases told _ met.mem_records with ⟨refused, listed⟩ | listed
  · obtain rfl : others = .refused := refused
    obtain ⟨_, record⟩ := met.exists_read read
    exact .inl ⟨listed, Fields.mem_names_of_read record⟩
  · exact .inr listed

/-- Settings that load have passed their check, and hold no member that no field declares, except in
the records that other stores share. Where the sections of the document are objects, and the
variables name one setting each, every setting is that of the variable which names it, else that of
the document, else the built-in one; the format of the log alone is read of both where both are
objects. So one more variable changes no other setting. -/
theorem load_layered (loaded : load document given = .ok settings) :
    settings.pools.check = .ok () ∧
    (∃ layers, layered document given = .ok layers ∧ shape.read .lenient layers = .ok settings ∧
      ∀ {ρ : Type} {others : Others} {fs : Fields ρ} {ms : List (String × Json)},
        Meets others fs ms ms shape layers layers →
          fs.names ∈ strictRecords ∧ (∀ m ∈ ms, m.1 ∈ fs.names) ∨
            fs.names ∈ Fixtures.sharedRecords) ∧
    (Sectioned document → Separate given →
      (∀ l ∈ leaves, Supplied document given settings l) ∧
      ∀ (before after : List Variable) (v : Variable) (path : List String)
        (settings' : ServerSettings), given = before ++ after → v.Names path →
        (∃ l ∈ leaves, l.path = path) → load document (before ++ v :: after) = .ok settings' →
        ∀ l ∈ leaves, l.path ≠ path → l.get settings' = l.get settings) := by
  obtain ⟨layers, laid, read, checked⟩ := load_eq_ok.1 loaded
  refine ⟨checked, ⟨layers, laid, read, declared_of_meets read⟩, fun sectioned separate => ⟨?_, ?_⟩⟩
  · intro l hl
    exact supplied_of_reads separate hl
      (reads_of_layered laid sectioned (separate.spares hl) hl read)
  · rintro before after v path settings' rfl names setting loaded' l hl other
    exact get_eq_of_load sectioned separate hl setting names other loaded loaded'

theorem separate_singleton {v : Variable} (names : v.Names path)
    (setting : ∃ l ∈ leaves, l.path = path) : Separate [v] where
  settings := by
    intro w hw path' names'
    obtain rfl := List.mem_singleton.1 hw
    exact names'.unique names ▸ setting
  different := List.pairwise_singleton _ v

/-- A document that tells the two pools, and the format of the log by an object. -/
def pooled : Json :=
  .obj [("authorizer", .obj [
      ("user_pool", .obj [("pool_id", .str "a"), ("client_id", .str "u")]),
      ("token_pool", .obj [("pool_id", .str "b"), ("client_id", .str "t")])]),
    ("log_format", .obj [("json", .null)])]

theorem sectioned_pooled : Sectioned (some pooled) := by decide +kernel

/-- A variable over a document. -/
theorem load_layered_level :
    Supplied (some pooled) [⟨"AUTHORIZER_LOG_LEVEL", "debug"⟩]
      { logLevel := "debug", logFormat := .json,
        pools := { userPool := ⟨"a", "u"⟩, tokenPool := ⟨"b", "t"⟩ } }
      ⟨["log_level"], .text, "info", (·.logLevel)⟩ := by
  have names : Variable.Names ⟨"AUTHORIZER_LOG_LEVEL", "debug"⟩ ["log_level"] :=
    ⟨["log_level".toList], by decide +kernel, by decide⟩
  have listed : ⟨["log_level"], .text, "info", (·.logLevel)⟩ ∈ leaves := .tail _ (.head _)
  have loaded : load (some pooled) [⟨"AUTHORIZER_LOG_LEVEL", "debug"⟩] =
      .ok { logLevel := "debug", logFormat := .json,
            pools := { userPool := ⟨"a", "u"⟩, tokenPool := ⟨"b", "t"⟩ } } := by decide +kernel
  obtain ⟨_, _, told⟩ := load_layered loaded
  exact (told sectioned_pooled (separate_singleton names ⟨_, listed, rfl⟩)).1 _ listed

/-- A variable that names the format of the log and holds an object, whose name is no format. It is
laid over the object of the document, whose name comes first and is all that is read. -/
theorem load_of_both :
    ¬ ∀ (document : Option Json) (given : List Variable) (settings : ServerSettings),
      Sectioned document → Separate given → load document given = .ok settings →
      ∀ l ∈ leaves, ∀ v ∈ given, v.Names l.path →
        l.shape.read .lenient (VariableValue.ofText v.value) = .ok (l.get settings) := by
  intro claim
  have names : Variable.Names ⟨"AUTHORIZER_LOG_FORMAT", "\x7bzzz=1\x7d"⟩ ["log_format"] :=
    ⟨["log_format".toList], by decide +kernel, by decide⟩
  have listed : ⟨["log_format"], LogFormat.shape, .text, (·.logFormat)⟩ ∈ leaves :=
    .tail _ (.tail _ (.head _))
  have loaded : load (some pooled) [⟨"AUTHORIZER_LOG_FORMAT", "\x7bzzz=1\x7d"⟩] =
      .ok { logFormat := .json, pools := { userPool := ⟨"a", "u"⟩, tokenPool := ⟨"b", "t"⟩ } } := by
    decide +kernel
  have read := claim _ _ _ sectioned_pooled (separate_singleton names ⟨_, listed, rfl⟩) loaded
    _ listed _ List.mem_cons_self names
  exact absurd read (by decide +kernel)

end ServerSettings
end ClaimGate
