import Mathlib.Logic.Relation
import SecretConfig.Backend.Descriptor
import SecretConfig.Proofs.Tree.Members

set_option autoImplicit false

/-! # Descriptors that are read back

A descriptor is read back from what it is written as, whatever it holds (`Descriptor.encodes`). Read
from an object it is given by the members under its names, and so are its settings, whose names
depend on their kind; of what else the object has, of the order and of nulls the descriptor shows
nothing (`Descriptor.Respells`, `Descriptor.reads_back`). -/

namespace SecretConfig

open SecretConfig.Tree (Encodes Agree member? optional?)

/-! ## Settings from members -/

namespace BackendKind

/-- The fields besides the kind that settings of a kind must have. -/
def requiredNames : BackendKind → List String
  | keyValue => ["version"]
  | database => ["static_role"]
  | rabbitMq | consul | aws => []

/-- The fields that settings of a kind may leave out. -/
def optionalNames : BackendKind → List String
  | keyValue => ["context"]
  | database | rabbitMq => ["username_property", "password_property"]
  | consul => ["token_property"]
  | aws => ["access_key_property", "secret_key_property", "session_token_property"]

theorem not_mem_optionalNames (k : BackendKind) :
    ∀ n ∈ "kind" :: k.requiredNames, n ∉ k.optionalNames := by
  cases k <;> decide

/-- Read the name of a kind. -/
def ofTree? (t : Tree) : Option BackendKind := t.asText?.bind ofName?

theorem encodes (n : Nat) (k : BackendKind) : Encodes n ofTree? (.str k.name) k :=
  ⟨.str n k.name, k.ofName?_name⟩

end BackendKind

namespace BackendSettings

variable {fields fields' : List (String × Tree)} {c : BackendSettings} {k : BackendKind}

/-- Settings of a kind from the members of a map. -/
def ofMembers? (fields : List (String × Tree)) : BackendKind → Option BackendSettings
  | .keyValue => do
    return keyValue (← optional? "context" Tree.asText? fields)
      (← member? "version" (Tree.asChoice? KvVersion.ofName?) fields)
  | .database => do
    return database (← member? "static_role" Tree.asBool? fields)
      (← optional? "username_property" Tree.asText? fields)
      (← optional? "password_property" Tree.asText? fields)
  | .rabbitMq => do
    return rabbitMq (← optional? "username_property" Tree.asText? fields)
      (← optional? "password_property" Tree.asText? fields)
  | .consul => do
    return consul (← optional? "token_property" Tree.asText? fields)
  | .aws => do
    return aws (← optional? "access_key_property" Tree.asText? fields)
      (← optional? "secret_key_property" Tree.asText? fields)
      (← optional? "session_token_property" Tree.asText? fields)

theorem kind_of_ofMembers? (h : ofMembers? fields k = some c) : c.kind = k := by
  cases k with
  | keyValue | rabbitMq =>
    simp only [ofMembers?, Option.bind_eq_bind, Option.bind_eq_some_iff, Option.pure_def,
      Option.some.injEq] at h
    obtain ⟨_, -, _, -, rfl⟩ := h
    rfl
  | database | aws =>
    simp only [ofMembers?, Option.bind_eq_bind, Option.bind_eq_some_iff, Option.pure_def,
      Option.some.injEq] at h
    obtain ⟨_, -, _, -, _, -, rfl⟩ := h
    rfl
  | consul =>
    simp only [ofMembers?, Option.bind_eq_bind, Option.bind_eq_some_iff, Option.pure_def,
      Option.some.injEq] at h
    obtain ⟨_, -, rfl⟩ := h
    rfl

theorem ofFields?_map (fields : List (String × Tree)) (k : BackendKind) :
    ofFields? k (.map fields) = ofMembers? fields k := by
  cases k with
  | keyValue =>
    refine Tree.fields?_map_bind ?_ ?_
    · simp +contextual [ofMembers?, member?, optional?]
    · intro values hvalues
      rw [Tree.nullable_eq _ hvalues (by decide), Tree.required_eq _ hvalues (by decide)]
      rfl
  | database =>
    refine Tree.fields?_map_bind ?_ ?_
    · simp +contextual [ofMembers?, member?, optional?]
    · intro values hvalues
      rw [Tree.required_eq _ hvalues (by decide), Tree.nullable_eq _ hvalues (by decide),
        Tree.nullable_eq _ hvalues (by decide)]
      rfl
  | rabbitMq =>
    refine Tree.fields?_map_bind ?_ ?_
    · simp +contextual [ofMembers?, optional?]
    · intro values hvalues
      rw [Tree.nullable_eq _ hvalues (by decide), Tree.nullable_eq _ hvalues (by decide)]
      rfl
  | consul =>
    refine Tree.fields?_map_bind ?_ ?_
    · simp +contextual [ofMembers?, optional?]
    · intro values hvalues
      rw [Tree.nullable_eq _ hvalues (by decide)]
      rfl
  | aws =>
    refine Tree.fields?_map_bind ?_ ?_
    · simp +contextual [ofMembers?, optional?]
    · intro values hvalues
      rw [Tree.nullable_eq _ hvalues (by decide), Tree.nullable_eq _ hvalues (by decide),
        Tree.nullable_eq _ hvalues (by decide)]
      rfl

theorem ofMembers?_congr (agree : Agree k.requiredNames k.optionalNames fields fields') :
    ofMembers? fields k = ofMembers? fields' k := by
  obtain ⟨hrequired, hoptional⟩ := agree
  cases k with
  | keyValue =>
    rw [ofMembers?, ofMembers?, Tree.optional?_congr _ (hoptional "context" (by decide)),
      Tree.member?_congr _ (hrequired "version" (by decide))]
  | database =>
    rw [ofMembers?, ofMembers?, Tree.member?_congr _ (hrequired "static_role" (by decide)),
      Tree.optional?_congr _ (hoptional "username_property" (by decide)),
      Tree.optional?_congr _ (hoptional "password_property" (by decide))]
  | rabbitMq =>
    rw [ofMembers?, ofMembers?,
      Tree.optional?_congr _ (hoptional "username_property" (by decide)),
      Tree.optional?_congr _ (hoptional "password_property" (by decide))]
  | consul =>
    rw [ofMembers?, ofMembers?, Tree.optional?_congr _ (hoptional "token_property" (by decide))]
  | aws =>
    rw [ofMembers?, ofMembers?,
      Tree.optional?_congr _ (hoptional "access_key_property" (by decide)),
      Tree.optional?_congr _ (hoptional "secret_key_property" (by decide)),
      Tree.optional?_congr _ (hoptional "session_token_property" (by decide))]

/-- The kind decides which other members are read. -/
theorem ofTree?_map (fields : List (String × Tree)) :
    ofTree? (.map fields) =
      (member? "kind" BackendKind.ofTree? fields).bind (ofMembers? fields) := by
  -- no other field is called like the kind, so none is lost when the kind is taken out
  have hfilter (k : BackendKind) :
      ofMembers? (fields.filter fun f => f.1 ≠ "kind") k = ofMembers? fields k := by
    refine ofMembers?_congr (Tree.agree_of_filter ?_)
    have hnot : "kind" ∉ k.requiredNames ++ k.optionalNames := by cases k <;> decide
    intro f _ hname
    refine decide_eq_true fun hkind => hnot ?_
    rwa [← hkind]
  rw [ofTree?, member?]
  cases Tree.single? "kind" fields with
  | none => rfl
  | some tag =>
    cases tag with
    | none => rfl
    | some t =>
      simp only [Option.bind_eq_bind, Option.bind_some, ofFields?_map, hfilter]
      rfl

/-- Settings are read alike from members that agree on the names of their kind. -/
theorem ofTree?_of_agree (h : ofTree? (.map fields) = some c)
    (agree : Agree ("kind" :: c.kind.requiredNames) c.kind.optionalNames fields fields') :
    ofTree? (.map fields') = some c := by
  rw [ofTree?_map] at h ⊢
  obtain ⟨k, hkind, hmembers⟩ := Option.bind_eq_some_iff.1 h
  have hk : c.kind = k := kind_of_ofMembers? hmembers
  subst hk
  have hsame : Agree c.kind.requiredNames c.kind.optionalNames fields fields' :=
    ⟨fun n hn => agree.1 n (List.mem_cons_of_mem _ hn), agree.2⟩
  rw [← Tree.member?_congr _ (agree.1 "kind" List.mem_cons_self), hkind, Option.bind_some,
    ← ofMembers?_congr hsame, hmembers]

/-- An object encodes what the members that it is made of are read as. -/
theorem encodes_object {n : Nat} {members : List (String × Json)} (names : List String)
    (keys : members.map Prod.fst = names) (nodup : names.Nodup)
    (writable : ∀ m ∈ members, m.2.Writable n)
    (reads : (member? "kind" BackendKind.ofTree? (Tree.ofJsonFields members)).bind
      (ofMembers? (Tree.ofJsonFields members)) = some c) :
    Encodes (n + 1) ofTree? (Json.object members) c := by
  subst keys
  have hperm := Tree.perm_ofPairs nodup
  have hkind := Tree.member?_congr BackendKind.ofTree? (Tree.single?_perm hperm "kind")
  have hmembers : ofMembers? (Tree.ofJsonFields (Entries.ofPairs members)) =
      ofMembers? (Tree.ofJsonFields members) :=
    funext fun k => ofMembers?_congr (Tree.agree_of_perm hperm)
  constructor
  · exact .object writable
  · rw [Json.object, Tree.ofJson, ofTree?_map, hkind, hmembers, reads]

theorem encodes (n : Nat) (c : BackendSettings) : Encodes (n + 1) ofTree? c.toJson c := by
  cases c with
  | keyValue context version =>
    have hkind := BackendKind.encodes n .keyValue
    have hcontext := Encodes.optionalText n context
    have hversion := Encodes.choice n version.ofName?_name
    refine encodes_object ["kind", "context", "version"] rfl (by decide) ?_ ?_
    · simp [optionalText, hkind.writable, hcontext.writable, hversion.writable]
    · simp [Tree.ofJsonFields_eq, member?, optional?, Tree.single?, Tree.readOptional?,
        ofMembers?, optionalText, hkind.reads, hcontext.reads, hversion.reads]
  | database staticRole username password =>
    have hkind := BackendKind.encodes n .database
    have hstatic := Encodes.bool n staticRole
    have husername := Encodes.optionalText n username
    have hpassword := Encodes.optionalText n password
    refine encodes_object ["kind", "static_role", "username_property", "password_property"] rfl
      (by decide) ?_ ?_
    · simp [optionalText, hkind.writable, hstatic.writable, husername.writable,
        hpassword.writable]
    · simp [Tree.ofJsonFields_eq, member?, optional?, Tree.single?, Tree.readOptional?,
        ofMembers?, optionalText, hkind.reads, hstatic.reads, husername.reads, hpassword.reads]
  | rabbitMq username password =>
    have hkind := BackendKind.encodes n .rabbitMq
    have husername := Encodes.optionalText n username
    have hpassword := Encodes.optionalText n password
    refine encodes_object ["kind", "username_property", "password_property"] rfl (by decide) ?_ ?_
    · simp [optionalText, hkind.writable, husername.writable, hpassword.writable]
    · simp [Tree.ofJsonFields_eq, member?, optional?, Tree.single?, Tree.readOptional?,
        ofMembers?, optionalText, hkind.reads, husername.reads, hpassword.reads]
  | consul token =>
    have hkind := BackendKind.encodes n .consul
    have htoken := Encodes.optionalText n token
    refine encodes_object ["kind", "token_property"] rfl (by decide) ?_ ?_
    · simp [optionalText, hkind.writable, htoken.writable]
    · simp [Tree.ofJsonFields_eq, member?, optional?, Tree.single?, Tree.readOptional?,
        ofMembers?, optionalText, hkind.reads, htoken.reads]
  | aws accessKey secretKey sessionToken =>
    have hkind := BackendKind.encodes n .aws
    have haccess := Encodes.optionalText n accessKey
    have hsecret := Encodes.optionalText n secretKey
    have hsession := Encodes.optionalText n sessionToken
    refine encodes_object
      ["kind", "access_key_property", "secret_key_property", "session_token_property"] rfl
      (by decide) ?_ ?_
    · simp [optionalText, hkind.writable, haccess.writable, hsecret.writable, hsession.writable]
    · simp [Tree.ofJsonFields_eq, member?, optional?, Tree.single?, Tree.readOptional?,
        ofMembers?, optionalText, hkind.reads, haccess.reads, hsecret.reads, hsession.reads]

end BackendSettings

/-! ## Descriptors from members -/

namespace Descriptor

variable {fields fields' : List (String × Tree)} {d : Descriptor}

/-- The fields that a descriptor must have. -/
def requiredNames : List String := ["name", "enabled", "fail_fast", "order", "settings"]

/-- The fields that a descriptor may leave out. -/
def optionalNames : List String := ["mount", "role"]

/-- A descriptor is what the members under its names are read as. -/
theorem ofTree?_map_eq_some_iff : ofTree? (.map fields) = some d ↔
    member? "name" Tree.asText? fields = some d.name ∧
    member? "enabled" Tree.asBool? fields = some d.enabled ∧
    member? "fail_fast" Tree.asBool? fields = some d.failFast ∧
    member? "order" Tree.asInt32? fields = some d.order ∧
    optional? "mount" Tree.asText? fields = some d.mount ∧
    optional? "role" Tree.asText? fields = some d.role ∧
    member? "settings" BackendSettings.ofTree? fields = some d.settings := by
  have hmembers : ofTree? (.map fields) = do
      return {
        name := ← member? "name" Tree.asText? fields
        enabled := ← member? "enabled" Tree.asBool? fields
        failFast := ← member? "fail_fast" Tree.asBool? fields
        order := ← member? "order" Tree.asInt32? fields
        mount := ← optional? "mount" Tree.asText? fields
        role := ← optional? "role" Tree.asText? fields
        settings := ← member? "settings" BackendSettings.ofTree? fields } := by
    refine Tree.fields?_map_bind ?_ ?_
    · simp +contextual [member?, optional?]
    · intro values hvalues
      rw [Tree.required_eq _ hvalues (by decide), Tree.required_eq _ hvalues (by decide),
        Tree.required_eq _ hvalues (by decide), Tree.required_eq _ hvalues (by decide),
        Tree.nullable_eq _ hvalues (by decide), Tree.nullable_eq _ hvalues (by decide),
        Tree.required_eq _ hvalues (by decide)]
  simp only [hmembers, Option.bind_eq_bind, Option.bind_eq_some_iff, Option.pure_def,
    Option.some.injEq]
  constructor
  · rintro ⟨_, hname, _, henabled, _, hfailFast, _, horder, _, hmount, _, hrole, _, hsettings, rfl⟩
    exact ⟨hname, henabled, hfailFast, horder, hmount, hrole, hsettings⟩
  · rintro ⟨hname, henabled, hfailFast, horder, hmount, hrole, hsettings⟩
    exact ⟨_, hname, _, henabled, _, hfailFast, _, horder, _, hmount, _, hrole, _, hsettings, rfl⟩

/-- A descriptor in a list is what the items at the places of its fields are read as. -/
theorem ofTree?_list_eq_some_iff {name enabled failFast order mount role settings : Tree} :
    ofTree? (.seq [name, enabled, failFast, order, mount, role, settings] true) = some d ↔
      name.asText? = some d.name ∧ enabled.asBool? = some d.enabled ∧
      failFast.asBool? = some d.failFast ∧ order.asInt32? = some d.order ∧
      mount.asOption? Tree.asText? = some d.mount ∧ role.asOption? Tree.asText? = some d.role ∧
      BackendSettings.ofTree? settings = some d.settings := by
  have hitems : ofTree? (.seq [name, enabled, failFast, order, mount, role, settings] true) = do
      return {
        name := ← name.asText?
        enabled := ← enabled.asBool?
        failFast := ← failFast.asBool?
        order := ← order.asInt32?
        mount := ← mount.asOption? Tree.asText?
        role := ← role.asOption? Tree.asText?
        settings := ← BackendSettings.ofTree? settings } := by
    rfl
  simp only [hitems, Option.bind_eq_bind, Option.bind_eq_some_iff, Option.pure_def,
    Option.some.injEq]
  constructor
  · rintro ⟨_, hname, _, henabled, _, hfailFast, _, horder, _, hmount, _, hrole, _, hsettings, rfl⟩
    exact ⟨hname, henabled, hfailFast, horder, hmount, hrole, hsettings⟩
  · rintro ⟨hname, henabled, hfailFast, horder, hmount, hrole, hsettings⟩
    exact ⟨_, hname, _, henabled, _, hfailFast, _, horder, _, hmount, _, hrole, _, hsettings, rfl⟩

/-- A descriptor is written as an object of two levels. -/
theorem encodes (d : Descriptor) : Encodes 2 ofTree? d.toJson d := by
  have hname := Encodes.text 1 d.name
  have henabled := Encodes.bool 1 d.enabled
  have hfailFast := Encodes.bool 1 d.failFast
  have horder := Encodes.int32 1 d.order
  have hmount := Encodes.optionalText 1 d.mount
  have hrole := Encodes.optionalText 1 d.role
  have hsettings := d.settings.encodes 0
  refine .record rfl (by decide) ?_ ?_
  · simp [BackendSettings.optionalText, hname.writable, henabled.writable, hfailFast.writable,
      horder.writable, hmount.writable, hrole.writable, hsettings.writable]
  · simp [BackendSettings.optionalText, Tree.Fields.required, Tree.Fields.nullable, hname.reads,
      henabled.reads, hfailFast.reads, horder.reads, hmount.reads, hrole.reads, hsettings.reads]

/-! ## Respelled descriptors -/

/-- A descriptor in another spelling, for a kind of settings: with its own members respelled, or
those of its settings. In a list of its fields only the settings may have members. -/
inductive Respells (k : BackendKind) : Json → Json → Prop where
  | members {fields fields' : List (String × Json)}
      (respells : Json.Respells requiredNames optionalNames fields fields') :
    Respells k (.obj fields) (.obj fields')
  | settings (before after : List (String × Json)) {fields fields' : List (String × Json)}
      (respells : Json.Respells ("kind" :: k.requiredNames) k.optionalNames fields fields') :
    Respells k (.obj (before ++ ("settings", .obj fields) :: after))
      (.obj (before ++ ("settings", .obj fields') :: after))
  | listed (name enabled failFast order mount role : Json) {fields fields' : List (String × Json)}
      (respells : Json.Respells ("kind" :: k.requiredNames) k.optionalNames fields fields') :
    Respells k (.arr [name, enabled, failFast, order, mount, role, .obj fields])
      (.arr [name, enabled, failFast, order, mount, role, .obj fields'])

theorem ofTree?_iff_of_agree (agree : Agree requiredNames optionalNames fields fields') :
    ofTree? (.map fields) = some d ↔ ofTree? (.map fields') = some d := by
  obtain ⟨hrequired, hoptional⟩ := agree
  rw [ofTree?_map_eq_some_iff, ofTree?_map_eq_some_iff,
    Tree.member?_congr _ (hrequired "name" (by decide)),
    Tree.member?_congr _ (hrequired "enabled" (by decide)),
    Tree.member?_congr _ (hrequired "fail_fast" (by decide)),
    Tree.member?_congr _ (hrequired "order" (by decide)),
    Tree.optional?_congr _ (hoptional "mount" (by decide)),
    Tree.optional?_congr _ (hoptional "role" (by decide)),
    Tree.member?_congr _ (hrequired "settings" (by decide))]

/-- Only what the settings are read as counts. -/
theorem ofTree?_of_settings {before after : List (String × Tree)} {t t' : Tree}
    (h : ofTree? (.map (before ++ ("settings", t) :: after)) = some d)
    (same : BackendSettings.ofTree? t = some d.settings →
      BackendSettings.ofTree? t' = some d.settings) :
    ofTree? (.map (before ++ ("settings", t') :: after)) = some d := by
  have hother (n : String) (hn : n ≠ "settings") :
      Tree.single? n (before ++ ("settings", t') :: after) =
        Tree.single? n (before ++ ("settings", t) :: after) := by
    rw [Tree.single?_perm List.perm_middle, Tree.single?_perm List.perm_middle,
      Tree.single?_cons_of_ne _ hn.symm, Tree.single?_cons_of_ne _ hn.symm]
  rw [ofTree?_map_eq_some_iff] at h ⊢
  obtain ⟨hname, henabled, hfailFast, horder, hmount, hrole, hsettings⟩ := h
  refine ⟨?_, ?_, ?_, ?_, ?_, ?_, ?_⟩
  -- the other members stand as they stood, and the settings only where nothing repeats them
  · rwa [Tree.member?_congr _ (hother "name" (by decide))]
  · rwa [Tree.member?_congr _ (hother "enabled" (by decide))]
  · rwa [Tree.member?_congr _ (hother "fail_fast" (by decide))]
  · rwa [Tree.member?_congr _ (hother "order" (by decide))]
  · rwa [optional?, hother "mount" (by decide)]
  · rwa [optional?, hother "role" (by decide)]
  · rw [Tree.member?_middle] at hsettings ⊢
    split at hsettings
    · cases hsettings
    · rename_i habsent
      rw [if_neg habsent]
      exact same hsettings

/-- A respelling of settings is read as the same settings. -/
theorem settings_iff_of_respells {members members' : List (String × Json)} {c : BackendSettings}
    (respells : Json.Respells ("kind" :: c.kind.requiredNames) c.kind.optionalNames
      members members') :
    BackendSettings.ofTree? (Tree.ofJson (.obj members)) = some c ↔
      BackendSettings.ofTree? (Tree.ofJson (.obj members')) = some c := by
  have hagree := Tree.agree_of_respells c.kind.not_mem_optionalNames respells
  constructor
  · intro h
    exact BackendSettings.ofTree?_of_agree h hagree
  · intro h
    exact BackendSettings.ofTree?_of_agree h hagree.symm

/-- A respelling is read as the same descriptor. -/
theorem ofJson?_iff_of_respells {v v' : Json} (respells : Respells d.kind v v') :
    ofJson? v = some d ↔ ofJson? v' = some d := by
  cases respells with
  | members respells =>
    exact ofTree?_iff_of_agree (Tree.agree_of_respells (by decide) respells)
  | settings before after respells =>
    have hsettings := settings_iff_of_respells (c := d.settings) respells
    rw [ofJson?, ofJson?, Tree.ofJson, Tree.ofJson, Tree.ofJsonFields_eq, Tree.ofJsonFields_eq,
      List.map_append, List.map_append, List.map_cons, List.map_cons]
    constructor
    · intro h
      exact ofTree?_of_settings h hsettings.1
    · intro h
      exact ofTree?_of_settings h hsettings.2
  | listed name enabled failFast order mount role respells =>
    have hsettings := settings_iff_of_respells (c := d.settings) respells
    simp only [ofJson?, Tree.ofJson, Tree.ofJsonItems, ofTree?_list_eq_some_iff] at hsettings ⊢
    rw [hsettings]

/-- Every descriptor is read back from what it is written as, and from its text. Whatever a
descriptor has been read from, any respelling of that is read as the same descriptor and so is
written in the same way. -/
theorem reads_back (d : Descriptor) :
    ofJson? d.toJson = some d ∧ (Json.parse? d.toJson.compact).bind ofJson? = some d ∧
    ∀ v v', ofJson? v = some d → Relation.EqvGen (Respells d.kind) v v' →
      ofJson? v' = some d ∧ (ofJson? v').map toJson = some d.toJson := by
  have hencodes := d.encodes
  have hreads : ofJson? d.toJson = some d := hencodes.reads
  have hshallow : 2 ≤ Json.maxDepth := by decide
  have hsame {v v' : Json} (respelled : Relation.EqvGen (Respells d.kind) v v') :
      ofJson? v = some d ↔ ofJson? v' = some d := by
    induction respelled with
    | rel v v' respells => exact ofJson?_iff_of_respells respells
    | refl v => exact Iff.rfl
    | symm v v' _ ih => exact ih.symm
    | trans v w v' _ _ ih ih' => exact ih.trans ih'
  refine ⟨hreads, ?_, ?_⟩
  · rw [Json.parse?_compact hencodes.writable hshallow, Option.bind_some, hreads]
  · intro v v' hv respelled
    have hv' : ofJson? v' = some d := (hsame respelled).1 hv
    refine ⟨hv', ?_⟩
    rw [hv', Option.map_some]

/-- A registry backend with nothing in its settings. -/
def registryDescriptor : Descriptor :=
  { name := "registry", order := 7, mount := some "consul", settings := .consul none }

/-- A document of the descriptor that leaves out what it can. -/
def terseDocument : Json :=
  .obj [("name", .str "registry"), ("enabled", .bool true), ("fail_fast", .bool false),
    ("order", Json.int 7), ("mount", .str "consul"), ("settings", .obj [("kind", .str "consul")])]

/-- A document of the descriptor in another order, with nulls and with members that are not its
own. -/
def wordyDocument : Json :=
  .obj [("owner", .str "platform"), ("role", .null),
    ("settings",
      .obj [("context", Json.int 1), ("token_property", .null), ("kind", .str "consul")]),
    ("mount", .str "consul"), ("order", Json.int 7), ("fail_fast", .bool false),
    ("enabled", .bool true), ("name", .str "registry")]

theorem respells_terseDocument :
    Relation.EqvGen (Respells .consul) terseDocument wordyDocument := by
  refine .symm _ _ (.trans _ _ _ (.rel _ _ (.members (.unknown _ _ (by decide)))) ?_)
  refine .trans _ _ _ (.rel _ _ (.members (.omitNull (by decide) (by decide)))) ?_
  refine .trans _ _ _ (.rel _ _ (.settings [] _ (.unknown _ _ (by decide)))) ?_
  refine .trans _ _ _ (.rel _ _ (.settings [] _ (.omitNull (by decide) (by decide)))) ?_
  exact .rel _ _ (.members (.reorder (List.reverse_perm _).symm))

theorem reads_back_wordyDocument : ofJson? terseDocument = some registryDescriptor ∧
    Relation.EqvGen (Respells .consul) terseDocument wordyDocument ∧
    ofJson? wordyDocument = some registryDescriptor := by
  have hterse : ofJson? terseDocument = some registryDescriptor := by decide
  have hwordy := registryDescriptor.reads_back.2.2 terseDocument wordyDocument hterse
    respells_terseDocument
  exact ⟨hterse, respells_terseDocument, hwordy.1⟩

end Descriptor

end SecretConfig
