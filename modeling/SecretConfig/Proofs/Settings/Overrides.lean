import Mathlib.Data.List.Nodup
import SecretConfig.Proofs.Text.Trimming
import SecretConfig.Settings.Environment

set_option autoImplicit false

/-! # What the environment takes over

A setting that the environment can take over has a place of its own in the settings
(`Override.get`, `Override.put`), and what is in none of these places is left alone
(`Settings.beyond`). What a variable says is the text `Environment.Says`, and what a text means for
a setting is said without reading it digit by digit or word by word (`Override.Means`,
`Override.Refuses`). With these, `Settings.applyEnvironment_exact` says which settings are taken
over, with which values, and what a text without meaning leaves undone. -/

namespace SecretConfig

/-! ## What variables say -/

namespace Environment

variable {env : Environment} {names : List String} {t t' : String}

/-- The first of the variables whose value is not blank has this value, trimmed. -/
def Says (env : Environment) (names : List String) (t : String) : Prop :=
  ∃ before name after s, names = before ++ name :: after ∧ env name = some s ∧
    Text.isAllBlank s = false ∧ t = Text.trim s ∧
    ∀ n ∈ before, ∀ s, env n = some s → Text.isAllBlank s = true

theorem first?_eq_some_iff : env.first? names = some t ↔ env.Says names t := by
  rw [first?, List.findSome?_eq_some_iff]
  simp only [Says, Option.bind_eq_some_iff, Option.bind_eq_none_iff, Text.nonBlank?_eq_some_iff,
    Text.nonBlank?_eq_none_iff]
  constructor
  · rintro ⟨before, name, after, hnames, ⟨s, hs, hblank, rfl⟩, hbefore⟩
    exact ⟨before, name, after, s, hnames, hs, hblank, rfl, hbefore⟩
  · rintro ⟨before, name, after, s, hnames, hs, hblank, rfl, hbefore⟩
    exact ⟨before, name, after, hnames, ⟨s, hs, hblank, rfl⟩, hbefore⟩

theorem Says.unique (h : env.Says names t) (h' : env.Says names t') : t = t' := by
  rw [← first?_eq_some_iff] at h h'
  exact Option.some.inj (h.symm.trans h')

/-- What is said is never the empty text. -/
theorem Says.ne_empty (h : env.Says names t) : t ≠ "" := by
  obtain ⟨_, _, _, s, _, _, hblank, rfl, _⟩ := h
  intro hempty
  rw [← Text.isEmpty_trim, hempty] at hblank
  exact nomatch hblank

end Environment

/-! ## The places of the settings -/

namespace Override

/-- What a setting holds. -/
abbrev Value : Override → Type
  | address => String
  | scope => Option String
  | token => Option Secret
  | method => AuthMethod
  | roleId => Option String
  | secretId => Option Secret
  | kubernetesRole => Option String
  | applicationName => String
  | profiles => List String
  | failFast => Bool
  | logLevel => String
  | jsonLogging => Bool
  | enableMetrics => Bool
  | metricsPort => UInt16

/-- The value of a setting. -/
def get (c : Settings) : (o : Override) → o.Value
  | address => c.connection.address
  | scope => c.connection.scope
  | token => c.authentication.token
  | method => c.authentication.method
  | roleId => c.authentication.appRole.roleId
  | secretId => c.authentication.appRole.secretId
  | kubernetesRole => c.authentication.kubernetes.role
  | applicationName => c.backends.applicationName
  | profiles => c.backends.profiles
  | failFast => c.backends.failFast
  | logLevel => c.observability.logLevel
  | jsonLogging => c.observability.jsonLogging
  | enableMetrics => c.observability.enableMetrics
  | metricsPort => c.observability.metricsPort

/-- The settings with another value of one of them. -/
def put (c : Settings) : (o : Override) → o.Value → Settings
  | address, v => { c with connection.address := v }
  | scope, v => { c with connection.scope := v }
  | token, v => { c with authentication.token := v }
  | method, v => { c with authentication.method := v }
  | roleId, v => { c with authentication.appRole.roleId := v }
  | secretId, v => { c with authentication.appRole.secretId := v }
  | kubernetesRole, v => { c with authentication.kubernetes.role := v }
  | applicationName, v => { c with backends.applicationName := v }
  | profiles, v => { c with backends.profiles := v }
  | failFast, v => { c with backends.failFast := v }
  | logLevel, v => { c with observability.logLevel := v }
  | jsonLogging, v => { c with observability.jsonLogging := v }
  | enableMetrics, v => { c with observability.enableMetrics := v }
  | metricsPort, v => { c with observability.metricsPort := v }

theorem mem_all (o : Override) : o ∈ all := by cases o <;> decide

theorem nodup_all : all.Nodup := by decide

@[simp] theorem get_put (c : Settings) (o : Override) (v : o.Value) : o.get (o.put c v) = v := by
  cases o <;> rfl

/-- Putting a value in one place changes no other. -/
theorem get_put_of_ne {o p : Override} (h : p ≠ o) (c : Settings) (v : o.Value) :
    p.get (o.put c v) = p.get c := by
  cases o <;> cases p <;> first | rfl | exact absurd rfl h

end Override

/-- The settings with nothing in the places that the environment can take over. -/
def Settings.beyond (c : Settings) : Settings :=
  { c with
    connection := { c.connection with address := "", scope := none }
    authentication := { c.authentication with
      token := none
      method := .token
      appRole := { c.authentication.appRole with roleId := none, secretId := none }
      kubernetes := { c.authentication.kubernetes with role := none } }
    backends := { c.backends with applicationName := "", profiles := [], failFast := false }
    observability := { c.observability with
      logLevel := "", jsonLogging := false, enableMetrics := false, metricsPort := 0 } }

@[simp] theorem Settings.beyond_put (c : Settings) (o : Override) (v : o.Value) :
    (o.put c v).beyond = c.beyond := by
  cases o <;> rfl

/-- Settings are what is in those places, and what is beyond. -/
theorem Settings.eq_of_get {c c' : Settings} (hget : ∀ o : Override, o.get c = o.get c')
    (hbeyond : c.beyond = c'.beyond) : c = c' := by
  have hrebuild (c : Settings) :
      Override.all.foldl (fun d o => o.put d (o.get c)) c.beyond = c := by
    obtain ⟨⟨_, _, _, _, _, _⟩, ⟨_, _, ⟨_, _, _⟩, ⟨_, _, _⟩, _, _⟩, _,
      ⟨_, _, _, _, _, _, _, _, _⟩, ⟨_, _, _, _, _, _⟩⟩ := c
    rfl
  rw [← hrebuild c, ← hrebuild c', hbeyond]
  simp only [hget]

/-! ## What texts mean -/

namespace Override

variable {t : String}

/-- The words for a truth value. -/
def words : Bool → List String
  | true => ["1", "true", "yes", "on"]
  | false => ["0", "false", "no", "off"]

/-- The characters behind a plus sign, or all of them if there is none in front. -/
def unsigned : List Char → List Char
  | '+' :: cs => cs
  | cs => cs

/-- The number that digits write. -/
def number (ds : List Char) : Nat := ds.foldl (fun n d => n * 10 + (d.toNat - '0'.toNat)) 0

/-- The text is the value that it writes. -/
def Means (t : String) : (o : Override) → o.Value → Prop
  | address, v => v = t
  | scope, v => v = some t
  | token, v => v = some ⟨t⟩
  | method, v => v.name = AuthMethod.normalize t
  | roleId, v => v = some t
  | secretId, v => v = some ⟨t⟩
  | kubernetesRole, v => v = some t
  | applicationName, v => v = t
  | profiles, v =>
    ∃ pieces, pieces ≠ [] ∧ t = ",".intercalate pieces ∧ (∀ p ∈ pieces, ',' ∉ p.toList) ∧
      v = (pieces.map Text.trim).filter (· ≠ "")
  | failFast, v => Text.asciiLower t ∈ words v
  | logLevel, v => v = t
  | jsonLogging, v => Text.asciiLower t ∈ words v
  | enableMetrics, v => Text.asciiLower t ∈ words v
  | metricsPort, v =>
    let ds := unsigned t.toList
    ds ≠ [] ∧ (∀ d ∈ ds, d.isDigit = true) ∧ number ds = v.toNat

/-- What is wrong with the digits of a port, the first fault from the left. -/
inductive PortFault : List Char → String → Prop
  | noDigit : PortFault [] "invalid digit found in string"
  | notDigit {front rest : List Char} {c : Char} (digits : ∀ d ∈ front, d.isDigit = true)
      (fits : number front < UInt16.size) (stop : c.isDigit = false) :
      PortFault (front ++ c :: rest) "invalid digit found in string"
  | tooGreat {front rest : List Char} (digits : ∀ d ∈ front, d.isDigit = true)
      (exceeds : UInt16.size ≤ number front) :
      PortFault (front ++ rest) "number too large to fit in target type"

/-- The text means nothing for the setting, and this is the error that says so. -/
def Refuses (t : String) : Override → Error → Prop
  | method, e =>
    (∀ m : AuthMethod, m.name ≠ AuthMethod.normalize t) ∧
      e = .validation (.unknownMethod (AuthMethod.normalize t))
  | failFast, e => NoWord "VAULTLINE_FAIL_FAST" e
  | jsonLogging, e => NoWord "VAULTLINE_JSON_LOGGING" e
  | enableMetrics, e => NoWord "VAULTLINE_ENABLE_METRICS" e
  | metricsPort, e =>
    ∃ reason, PortFault (unsigned t.toList) reason ∧
      e = .configuration (.notPort "VAULTLINE_METRICS_PORT" t reason)
  | _, _ => False
where
  NoWord (key : String) (e : Error) : Prop :=
    (∀ b, Text.asciiLower t ∉ words b) ∧ e = .configuration (.notBoolean key t)

/-! ### Ports -/

theorem number_append (front ds : List Char) :
    number (front ++ ds) = ds.foldl (fun n d => n * 10 + (d.toNat - '0'.toNat)) (number front) := by
  rw [number, List.foldl_append, number]

/-- More digits write no smaller number. -/
theorem number_le_append (front ds : List Char) : number front ≤ number (front ++ ds) := by
  rw [number_append]
  generalize number front = n
  induction ds generalizing n with
  | nil => exact le_refl n
  | cons d ds ih => exact le_trans (by omega) (ih (n * 10 + (d.toNat - '0'.toNat)))

/-- Digits behind other digits are read up to the first fault. -/
theorem readPortDigits_cases {front : List Char} (digits : ∀ d ∈ front, d.isDigit = true)
    (fits : number front < UInt16.size) (ds : List Char) :
    (∀ d ∈ front ++ ds, d.isDigit = true) ∧ number (front ++ ds) < UInt16.size ∧
        readPortDigits ds (number front) = .ok (UInt16.ofNat (number (front ++ ds))) ∨
      ∃ reason, PortFault (front ++ ds) reason ∧
        readPortDigits ds (number front) = .error reason := by
  induction ds generalizing front with
  | nil => exact .inl (by simpa using ⟨digits, fits, rfl⟩)
  | cons c ds ih =>
      have hsplit : front ++ c :: ds = front ++ [c] ++ ds := by simp
      have hnext : number (front ++ [c]) = number front * 10 + (c.toNat - '0'.toNat) :=
        number_append front [c]
      rw [readPortDigits, ← hnext]
      by_cases hdigit : c.isDigit = false
      · rw [if_pos hdigit]
        exact .inr ⟨_, .notDigit digits fits hdigit, rfl⟩
      have hdigits : ∀ d ∈ front ++ [c], d.isDigit = true := by
        simpa [or_imp, forall_and] using And.intro digits hdigit
      rw [if_neg hdigit, hsplit]
      by_cases hexceeds : UInt16.size ≤ number (front ++ [c])
      · rw [if_pos hexceeds]
        exact .inr ⟨_, .tooGreat hdigits hexceeds, rfl⟩
      · rw [if_neg hexceeds]
        exact ih hdigits (Nat.lt_of_not_le hexceeds)

/-- What stands behind a plus sign is read, as long as there is something. -/
theorem readPort_eq (ht : t ≠ "") :
    readPort t =
      if unsigned t.toList = [] then .error "invalid digit found in string"
      else readPortDigits (unsigned t.toList) 0 := by
  have hsome : t.toList ≠ [] := by simpa using ht
  rw [readPort]
  split
  · next hlone =>
      rw [hlone]
      rfl
  · next ds hlone hplus =>
      have hds : ds ≠ [] := by
        rintro rfl
        exact hlone rfl
      rw [hplus]
      exact (if_neg hds).symm
  · next _ hplus =>
      have hself : unsigned t.toList = t.toList := by
        unfold unsigned
        split
        · next ds hds => exact absurd hds (hplus ds)
        · rfl
      rw [hself, if_neg hsome]

theorem readPort_cases (ht : t ≠ "") :
    (∃ port, metricsPort.Means t port ∧ readPort t = .ok port) ∨
      ∃ reason, PortFault (unsigned t.toList) reason ∧ readPort t = .error reason := by
  rw [readPort_eq ht]
  by_cases hnone : unsigned t.toList = []
  · rw [if_pos hnone, hnone]
    exact .inr ⟨_, .noDigit, rfl⟩
  · rw [if_neg hnone]
    have hnil : ∀ d ∈ ([] : List Char), d.isDigit = true := nofun
    obtain ⟨hdigits, hfits, hread⟩ | ⟨reason, hfault, hread⟩ :=
      readPortDigits_cases hnil (by decide) (unsigned t.toList)
    · exact .inl ⟨_, ⟨hnone, hdigits, (UInt16.toNat_ofNat_of_lt' hfits).symm⟩, hread⟩
    · exact .inr ⟨reason, hfault, hread⟩

/-- Faulty digits write no port. -/
theorem PortFault.not_means {reason : String} (h : PortFault (unsigned t.toList) reason)
    (port : UInt16) : ¬metricsPort.Means t port := by
  rintro ⟨hsome, hdigits, hnumber⟩
  generalize unsigned t.toList = ds at h hsome hdigits hnumber
  cases h with
  | noDigit => exact hsome rfl
  | notDigit digits fits stop =>
      have hdigit := hdigits _ (List.mem_append_right _ List.mem_cons_self)
      exact nomatch stop.symm.trans hdigit
  | @tooGreat front rest digits exceeds =>
      have hfits : port.toNat < UInt16.size := port.toNat_lt
      have hmore := number_le_append front rest
      omega

/-! ### Truth values -/

theorem readBool_cases (key t : String) :
    (∃ b, Text.asciiLower t ∈ words b ∧ readBool key t = .ok b) ∨
      Refuses.NoWord t key (.configuration (.notBoolean key t)) ∧
        readBool key t = .error (.configuration (.notBoolean key t)) := by
  by_cases htrue : Text.asciiLower t ∈ words true
  · exact .inl ⟨true, htrue, if_pos htrue⟩
  by_cases hfalse : Text.asciiLower t ∈ words false
  · exact .inl ⟨false, hfalse, (if_neg htrue).trans (if_pos hfalse)⟩
  · refine .inr ⟨⟨?_, rfl⟩, (if_neg htrue).trans (if_neg hfalse)⟩
    intro b
    cases b with
    | true => exact htrue
    | false => exact hfalse

/-- No word is for both truth values. -/
theorem words_unique {word : String} {b b' : Bool} (h : word ∈ words b) (h' : word ∈ words b') :
    b = b' := by
  have hdisjoint : ∀ w ∈ words true, w ∉ words false := by decide
  cases b <;> cases b'
  · rfl
  · exact absurd h (hdisjoint _ h')
  · exact absurd h' (hdisjoint _ h)
  · rfl

/-! ### Profiles -/

/-- The separator is in none of the pieces between separators. -/
theorem not_mem_of_mem_splitOn {sep : Char} {cs p : List Char} (hp : p ∈ cs.splitOn sep) :
    sep ∉ p := by
  induction cs generalizing p with
  | nil =>
      obtain rfl : p = [] := by simpa using hp
      exact List.not_mem_nil
  | cons c cs ih =>
      rw [List.splitOn_cons_eq_if_modifyHead] at hp
      split at hp
      · obtain rfl | hp := List.mem_cons.1 hp
        · exact List.not_mem_nil
        · exact ih hp
      · next hc =>
          -- the first piece gets the character in front, the others are as before
          obtain ⟨first, others, hpieces⟩ := List.exists_cons_of_ne_nil (cs.splitOn_ne_nil sep)
          rw [hpieces, List.modifyHead_cons, List.mem_cons] at hp
          obtain rfl | hp := hp
          · have hfirst : sep ∉ first := ih (by simp [hpieces])
            simpa [hfirst] using fun h : sep = c => hc (by simp [h])
          · exact ih (by simp [hpieces, hp])

/-- A text is the pieces between its commas, in one way. -/
theorem splitOn_intercalate_comma {pieces : List String} (hsome : pieces ≠ [])
    (hcomma : ∀ p ∈ pieces, ',' ∉ p.toList) :
    ((",".intercalate pieces).toList.splitOn ',').map String.ofList = pieces := by
  rw [String.toList_intercalate]
  have hsplit : ([','].intercalate (pieces.map String.toList)).splitOn ',' =
      pieces.map String.toList :=
    List.splitOn_intercalate ',' (by simpa using hcomma) (by simpa using hsome)
  exact (congrArg (List.map String.ofList) hsplit).trans (by simp)

theorem filterMap_nonBlank (pieces : List String) :
    pieces.filterMap Text.nonBlank? = (pieces.map Text.trim).filter (· ≠ "") := by
  have hpiece : Text.nonBlank? = Option.guard (· ≠ "") ∘ Text.trim := by
    funext p
    by_cases hempty : Text.trim p = ""
    · simp [Text.nonBlank?, Option.guard, hempty]
    · simp [Text.nonBlank?, Option.guard, hempty]
  rw [← List.filterMap_eq_filter, List.filterMap_map, hpiece]

theorem means_readProfiles (t : String) : profiles.Means t (readProfiles t) := by
  refine ⟨(t.toList.splitOn ',').map String.ofList, by simp [List.splitOn_ne_nil], ?_, ?_,
    filterMap_nonBlank _⟩
  · rw [← String.toList_inj, String.toList_intercalate, List.map_map]
    simp [Function.comp_def, List.intercalate_splitOn]
  · simp only [List.mem_map, forall_exists_index, and_imp]
    rintro _ p hp rfl
    simpa using not_mem_of_mem_splitOn hp

/-- The profiles that a text means are those that are read. -/
theorem Means.profiles_eq {v : List String} (h : profiles.Means t v) : v = readProfiles t := by
  obtain ⟨pieces, hsome, rfl, hcomma, rfl⟩ := h
  rw [readProfiles, splitOn_intercalate_comma hsome hcomma, filterMap_nonBlank]

/-! ### All settings -/

/-- A text means one value at most. -/
theorem Means.unique {o : Override} {v v' : o.Value} (h : o.Means t v) (h' : o.Means t v') :
    v = v' := by
  cases o with
  | method =>
      have hname : AuthMethod.ofName? v.name = AuthMethod.ofName? v'.name := by rw [h, h']
      rw [v.ofName?_name, v'.ofName?_name] at hname
      exact Option.some.inj hname
  | failFast | jsonLogging | enableMetrics => exact words_unique h h'
  | metricsPort => exact UInt16.toNat_inj.1 (h.2.2.symm.trans h'.2.2)
  | profiles => exact h.profiles_eq.trans h'.profiles_eq.symm
  | _ => exact h.trans h'.symm

/-- A text that is refused means nothing. -/
theorem Refuses.not_means {o : Override} {e : Error} (h : o.Refuses t e) (v : o.Value) :
    ¬o.Means t v := by
  cases o with
  | method => exact h.1 v
  | failFast | jsonLogging | enableMetrics => exact h.1 v
  | metricsPort =>
      obtain ⟨reason, hfault, -⟩ := h
      exact hfault.not_means v
  | _ => exact h.elim

/-- A fault of the configuration is about the variable of the setting, and quotes its text. -/
theorem Refuses.names_eq {o : Override} {fault : ConfigurationFault}
    (h : o.Refuses t (.configuration fault)) :
    ∃ key, o.names = [key] ∧
      (fault = .notBoolean key t ∨ ∃ reason, fault = .notPort key t reason) := by
  cases o with
  | failFast | jsonLogging | enableMetrics =>
      obtain ⟨-, hfault⟩ := h
      exact ⟨_, rfl, .inl (Error.configuration.inj hfault)⟩
  | metricsPort =>
      obtain ⟨reason, -, hfault⟩ := h
      exact ⟨_, rfl, .inr ⟨reason, Error.configuration.inj hfault⟩⟩
  | method => cases h.2
  | _ => exact h.elim

/-- The profiles that a text means are not blank, and are not trimmed any further. -/
theorem Means.trim_of_mem {v : List String} (h : profiles.Means t v) {p : String} (hp : p ∈ v) :
    Text.isAllBlank p = false ∧ Text.trim p = p := by
  rw [h.profiles_eq] at hp
  obtain ⟨piece, -, hpiece⟩ := List.mem_filterMap.1 hp
  obtain ⟨hblank, rfl⟩ := Text.nonBlank?_eq_some_iff.1 hpiece
  rw [← Text.isEmpty_trim, Text.trim_trim, Text.isEmpty_trim]
  exact ⟨hblank, rfl⟩

/-- A text is put in its place as what it means, or refused. -/
theorem assign_cases (c : Settings) (o : Override) (ht : t ≠ "") :
    (∃ v, o.Means t v ∧ o.assign c t = .ok (o.put c v)) ∨
      ∃ e, o.Refuses t e ∧ o.assign c t = .error e := by
  cases o with
  | method =>
      rw [assign, AuthMethod.read]
      cases hm : AuthMethod.parse? t with
      | some m =>
          have hname : m.name = AuthMethod.normalize t := by simpa using List.find?_some hm
          exact .inl ⟨m, hname, rfl⟩
      | none =>
          refine .inr ⟨_, ⟨fun m hname => ?_, rfl⟩, rfl⟩
          simpa [hname] using List.find?_eq_none.1 hm m m.mem_all
  | failFast | jsonLogging | enableMetrics =>
      obtain ⟨b, hword, hread⟩ | ⟨hnone, hread⟩ := readBool_cases _ t
      · exact .inl ⟨b, hword, by rw [assign, hread]; rfl⟩
      · exact .inr ⟨_, hnone, by rw [assign, hread]; rfl⟩
  | metricsPort =>
      obtain ⟨port, hport, hread⟩ | ⟨reason, hfault, hread⟩ := readPort_cases ht
      · exact .inl ⟨port, hport, by rw [assign, hread]; rfl⟩
      · exact .inr ⟨_, ⟨reason, hfault, rfl⟩, by rw [assign, hread]⟩
  | profiles => exact .inl ⟨readProfiles t, means_readProfiles t, rfl⟩
  | _ => exact .inl ⟨_, rfl, rfl⟩

end Override

/-! ## Taking over -/

namespace Settings

variable {env : Environment} {os : List Override} {o : Override} {t : String} {c c' d : Settings}

/-- Some settings are taken over from the environment: each of them is what its variables say, or
as before where they say nothing. All other settings, and what is beyond, are as before. -/
structure TakesOver (env : Environment) (os : List Override) (c c' : Settings) : Prop where
  said : ∀ o ∈ os, ∀ t, env.Says o.names t → o.Means t (o.get c')
  unsaid : ∀ o ∈ os, (∀ t, ¬env.Says o.names t) → o.get c' = o.get c
  others : ∀ o ∉ os, o.get c' = o.get c
  beyond : c'.beyond = c.beyond

namespace TakesOver

theorem nil : TakesOver env [] c c := ⟨nofun, nofun, fun _ _ => rfl, rfl⟩

/-- A setting of which nothing is said is passed over. -/
theorem skip (hnew : o ∉ os) (hnone : ∀ t, ¬env.Says o.names t) (h : TakesOver env os c c') :
    TakesOver env (o :: os) c c' where
  said := List.forall_mem_cons.2 ⟨fun t ht => absurd ht (hnone t), h.said⟩
  unsaid := List.forall_mem_cons.2 ⟨fun _ => h.others o hnew, h.unsaid⟩
  others p hp := h.others p (List.not_mem_of_not_mem_cons hp)
  beyond := h.beyond

/-- What is said of a setting is put in its place, and stays there. -/
theorem put (hnew : o ∉ os) (hsaid : env.Says o.names t) {v : o.Value} (hmeans : o.Means t v)
    (h : TakesOver env os (o.put c v) c') : TakesOver env (o :: os) c c' where
  said := by
    refine List.forall_mem_cons.2 ⟨fun t' ht' => ?_, h.said⟩
    rw [h.others o hnew, Override.get_put, ht'.unique hsaid]
    exact hmeans
  unsaid := by
    refine List.forall_mem_cons.2 ⟨fun hnone => absurd hsaid (hnone t), fun p hp hnone => ?_⟩
    have hne : p ≠ o := by
      rintro rfl
      exact hnew hp
    rw [h.unsaid p hp hnone, Override.get_put_of_ne hne]
  others p hp := by
    obtain ⟨hne, hp⟩ : p ≠ o ∧ p ∉ os := by simpa using hp
    rw [h.others p hp, Override.get_put_of_ne hne]
  beyond := h.beyond.trans (beyond_put c o v)

/-- There is one way to take over everything. -/
theorem unique (h : TakesOver env Override.all c c') (h' : TakesOver env Override.all c d) :
    c' = d := by
  refine eq_of_get (fun o => ?_) (h.beyond.trans h'.beyond.symm)
  by_cases hsome : ∃ t, env.Says o.names t
  · obtain ⟨t, ht⟩ := hsome
    exact (h.said o o.mem_all t ht).unique (h'.said o o.mem_all t ht)
  · have hnone : ∀ t, ¬env.Says o.names t := fun t ht => hsome ⟨t, ht⟩
    rw [h.unsaid o o.mem_all hnone, h'.unsaid o o.mem_all hnone]

end TakesOver

/-- Overrides are applied as long as what is said can be read: all of them, or those in front of
the first that is refused. -/
theorem overrideAll_cases (env : Environment) (hos : os.Nodup) (c : Settings) :
    (∃ c', overrideAll env os c = (c', none) ∧ TakesOver env os c c') ∨
      ∃ c' e before o after t, overrideAll env os c = (c', some e) ∧
        os = before ++ o :: after ∧ env.Says o.names t ∧ o.Refuses t e ∧
        TakesOver env before c c' := by
  induction os generalizing c with
  | nil => exact .inl ⟨c, rfl, .nil⟩
  | cons o os ih =>
      obtain ⟨hnew, hos⟩ := List.nodup_cons.1 hos
      cases hfirst : env.first? o.names with
      | none =>
          have hnone : ∀ t, ¬env.Says o.names t := by
            intro t ht
            exact nomatch hfirst.symm.trans (Environment.first?_eq_some_iff.2 ht)
          simp only [overrideAll, hfirst]
          obtain ⟨c', hrun, htakes⟩ |
            ⟨c', e, before, p, after, t, hrun, rfl, hp, hrefuses, htakes⟩ := ih hos c
          · exact .inl ⟨c', hrun, htakes.skip hnew hnone⟩
          · have hnew : o ∉ before := fun ho => hnew (List.mem_append_left _ ho)
            exact .inr ⟨c', e, o :: before, p, after, t, hrun, rfl, hp, hrefuses,
              htakes.skip hnew hnone⟩
      | some t =>
          have hsaid := Environment.first?_eq_some_iff.1 hfirst
          obtain ⟨v, hmeans, hassign⟩ | ⟨e, hrefuses, hassign⟩ :=
            o.assign_cases c hsaid.ne_empty
          · simp only [overrideAll, hfirst, hassign]
            obtain ⟨c', hrun, htakes⟩ |
              ⟨c', e, before, p, after, t, hrun, rfl, hp, hrefuses, htakes⟩ := ih hos (o.put c v)
            · exact .inl ⟨c', hrun, htakes.put hnew hsaid hmeans⟩
            · have hnew : o ∉ before := fun ho => hnew (List.mem_append_left _ ho)
              exact .inr ⟨c', e, o :: before, p, after, t, hrun, rfl, hp, hrefuses,
                htakes.put hnew hsaid hmeans⟩
          · simp only [overrideAll, hfirst, hassign]
            exact .inr ⟨c, e, [], o, os, t, rfl, rfl, hsaid, hrefuses, .nil⟩

/-- Settings that are taken over already stay as they are. -/
theorem applyEnvironment_eq_self (h : TakesOver env Override.all c c') :
    c'.applyEnvironment env = (c', none) := by
  obtain ⟨d, hrun, htakes⟩ | ⟨d, e, before, o, after, t, _, _, hsaid, hrefuses, _⟩ :=
    overrideAll_cases env Override.nodup_all c'
  · have hself : TakesOver env Override.all c' c' := ⟨h.said, fun _ _ _ => rfl, fun _ _ => rfl, rfl⟩
    rw [hself.unique htakes] at hrun ⊢
    exact hrun
  · exact absurd (h.said o o.mem_all t hsaid) (hrefuses.not_means _)

/-- The environment takes over all settings or those in front of the first text that means nothing.

There are fourteen settings, each with its variables, and they are applied in this order. Either
every text that is said means something. Then every setting is what is said of it, or as before,
all else is as before, profiles that are said are neither blank nor surrounded by blanks, and the
environment changes nothing when it is applied again. Or some setting is the first in the order of
which something is said that means nothing. Then the error is about this text, the settings in
front of it are taken over, and it and all behind it are as before. -/
theorem applyEnvironment_exact (env : Environment) (c : Settings) :
    Override.all.map (fun o => (o, o.names)) =
        [(.address, ["VAULTLINE_ADDR", "VAULT_ADDR"]),
         (.scope, ["VAULTLINE_NAMESPACE", "VAULT_NAMESPACE"]),
         (.token, ["VAULTLINE_TOKEN", "VAULT_TOKEN"]),
         (.method, ["VAULTLINE_AUTH_METHOD"]),
         (.roleId, ["VAULTLINE_ROLE_ID"]),
         (.secretId, ["VAULTLINE_SECRET_ID"]),
         (.kubernetesRole, ["VAULTLINE_KUBERNETES_ROLE"]),
         (.applicationName, ["VAULTLINE_APPLICATION_NAME"]),
         (.profiles, ["VAULTLINE_PROFILES"]),
         (.failFast, ["VAULTLINE_FAIL_FAST"]),
         (.logLevel, ["VAULTLINE_LOG_LEVEL"]),
         (.jsonLogging, ["VAULTLINE_JSON_LOGGING"]),
         (.enableMetrics, ["VAULTLINE_ENABLE_METRICS"]),
         (.metricsPort, ["VAULTLINE_METRICS_PORT"])] ∧
      ((∃ c', c.applyEnvironment env = (c', none) ∧ TakesOver env Override.all c c' ∧
          (∀ t, env.Says Override.profiles.names t → ∀ p ∈ c'.backends.profiles,
            Text.isAllBlank p = false ∧ Text.trim p = p) ∧
          c'.applyEnvironment env = (c', none)) ∨
        ∃ c' e before o after t, c.applyEnvironment env = (c', some e) ∧
          Override.all = before ++ o :: after ∧ env.Says o.names t ∧
          (∀ v, ¬o.Means t v) ∧ o.Refuses t e ∧ TakesOver env before c c' ∧
          ∀ p ∈ o :: after, p.get c' = p.get c) := by
  refine ⟨rfl, ?_⟩
  obtain ⟨c', hrun, htakes⟩ | ⟨c', e, before, o, after, t, hrun, hall, hsaid, hrefuses, htakes⟩ :=
    overrideAll_cases env Override.nodup_all c
  · refine .inl ⟨c', hrun, htakes, fun t ht p hp => ?_, applyEnvironment_eq_self htakes⟩
    exact (htakes.said .profiles (Override.mem_all _) t ht).trim_of_mem hp
  · refine .inr ⟨c', e, before, o, after, t, hrun, hall, hsaid, hrefuses.not_means, hrefuses,
      htakes, fun p hp => htakes.others p fun hbefore => ?_⟩
    have hnodup := Override.nodup_all
    rw [hall, List.nodup_append] at hnodup
    exact hnodup.2.2 p hbefore p hp rfl

/-- Variables of both names, with blank values and a list; `json` is a word for a truth value or
not. -/
def mixedEnvironment (json : String) : Environment
  | "VAULTLINE_ADDR" => some " \t"
  | "VAULT_ADDR" => some " https://vault.internal:8200 "
  | "VAULTLINE_TOKEN" => some "s.own"
  | "VAULT_TOKEN" => some "s.shared"
  | "VAULTLINE_AUTH_METHOD" => some "AppRole"
  | "VAULTLINE_ROLE_ID" => some " "
  | "VAULTLINE_PROFILES" => some "cloud, eu ,"
  | "VAULTLINE_FAIL_FAST" => some "YES"
  | "VAULTLINE_JSON_LOGGING" => some json
  | "VAULTLINE_METRICS_PORT" => some "+9100"
  | _ => none

/-- The default settings with what is said in front of the logging of JSON. -/
def mixedSettings : Settings where
  connection := { address := "https://vault.internal:8200" }
  authentication := { token := some ⟨"s.own"⟩, method := .appRole }
  backends := { profiles := ["cloud", "eu"], failFast := true }

/-- The same settings with what is said from the logging of JSON on. -/
def completeSettings : Settings :=
  { mixedSettings with observability := { jsonLogging := true, metricsPort := 9100 } }

/-- A text that means nothing for the logging of JSON leaves it and the port as before. With a word
in its place both are taken over, once and for all. -/
theorem applyEnvironment_exact_mixedEnvironment :
    ({} : Settings).applyEnvironment (mixedEnvironment "maybe") =
        (mixedSettings,
          some (.configuration (.notBoolean "VAULTLINE_JSON_LOGGING" "maybe"))) ∧
      (∃ before after, Override.all = before ++ .jsonLogging :: after ∧
        TakesOver (mixedEnvironment "maybe") before {} mixedSettings ∧
        ∀ p ∈ .jsonLogging :: after, p.get mixedSettings = p.get {}) ∧
      ({} : Settings).applyEnvironment (mixedEnvironment " on ") = (completeSettings, none) ∧
      completeSettings.applyEnvironment (mixedEnvironment " on ") = (completeSettings, none) := by
  have hstops : ({} : Settings).applyEnvironment (mixedEnvironment "maybe") =
      (mixedSettings,
        some (.configuration (.notBoolean "VAULTLINE_JSON_LOGGING" "maybe"))) := by
    decide +kernel
  have hpasses : ({} : Settings).applyEnvironment (mixedEnvironment " on ") =
      (completeSettings, none) := by
    decide +kernel
  refine ⟨hstops, ?_, hpasses, ?_⟩
  · obtain ⟨-, ⟨c', hrun, -⟩ |
      ⟨c', e, before, o, after, t, hrun, hall, -, -, hrefuses, htakes, hrest⟩⟩ :=
      applyEnvironment_exact (mixedEnvironment "maybe") {}
    · simp [hstops] at hrun
    · obtain ⟨rfl, rfl⟩ : mixedSettings = c' ∧
          .configuration (.notBoolean "VAULTLINE_JSON_LOGGING" "maybe") = e := by
        simpa [hstops] using hrun
      obtain ⟨key, hnames, hfault⟩ := hrefuses.names_eq
      obtain ⟨rfl, -⟩ : "VAULTLINE_JSON_LOGGING" = key ∧ "maybe" = t := by simpa using hfault
      obtain rfl : o = .jsonLogging := by
        cases o <;> simp [Override.names] at hnames ⊢
      exact ⟨before, after, hall, htakes, hrest⟩
  · obtain ⟨-, ⟨c', hrun, -, -, hagain⟩ | ⟨c', e, _, _, _, _, hrun, -⟩⟩ :=
      applyEnvironment_exact (mixedEnvironment " on ") {}
    · obtain rfl : completeSettings = c' := by simpa [hpasses] using hrun
      exact hagain
    · simp [hpasses] at hrun

end Settings

end SecretConfig
