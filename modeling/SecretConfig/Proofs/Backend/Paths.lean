import Mathlib.Data.List.Basic
import SecretConfig.Proofs.Backend.Faults

set_option autoImplicit false

/-! # The paths that descriptors resolve to

A path is put together from the core of the mount and the core of the role or the context, with the
segment of the kind between them. The core of a text is what is left of it without the blanks around
it and then without the slashes around that.

Each of the two passes is made once and in this order. So a core neither begins nor ends with a
slash, but it may begin or end with a blank, or be blank altogether, where a slash stood outside of
that blank (`slashedDescriptor_blank_mount`). -/

namespace SecretConfig

namespace Text

variable {s part : String}

/-- The core of a text, and how it stands in it: inside of slashes, and these inside of blanks. -/
structure IsCore (s part : String) : Prop where
  ne_empty : part ≠ ""
  head_ne : part.toList.head? ≠ some '/'
  last_ne : part.toList.getLast? ≠ some '/'
  /-- A blank at an end of the core has a slash before or behind it. -/
  stands : ∃ (before after : List Char) (m n : Nat),
    s.toList = before ++ (List.replicate m '/' ++ part.toList ++ List.replicate n '/') ++ after ∧
      (∀ c ∈ before, isBlank c = true) ∧ (∀ c ∈ after, isBlank c = true) ∧
      (m = 0 → ∀ c ∈ part.toList.head?, isBlank c = false) ∧
      (n = 0 → ∀ c ∈ part.toList.getLast?, isBlank c = false)

theorem isBlank_slash : isBlank '/' = false := by decide

/-- A text has one core at most, which is what is left when it is stripped twice. -/
theorem IsCore.strip_eq (h : IsCore s part) : strip (· = '/') (trim s) = part := by
  obtain ⟨before, after, m, n, hs, hbefore, hafter, hhead, hlast⟩ := h.stands
  have hne : part.toList ≠ [] := fun hnil => h.ne_empty (String.toList_eq_nil_iff.1 hnil)
  have htrim : trim s =
      String.ofList (List.replicate m '/' ++ part.toList ++ List.replicate n '/') := by
    rw [trim, strip, hs, stripChars_append hbefore hafter]
    · intro c hc
      cases m with
      | zero =>
          rw [List.replicate_zero, List.nil_append, List.head?_append_of_ne_nil _ hne] at hc
          exact hhead rfl c hc
      | succ m =>
          obtain rfl : '/' = c := by simpa [List.replicate_succ] using hc
          exact isBlank_slash
    · intro c hc
      cases n with
      | zero =>
          rw [List.replicate_zero, List.append_nil, List.getLast?_append_of_ne_nil _ hne] at hc
          exact hlast rfl c hc
      | succ n =>
          obtain rfl : '/' = c := by simpa [List.replicate_succ'] using hc
          exact isBlank_slash
  rw [htrim, strip, String.toList_ofList, stripChars_append, String.ofList_toList]
  · intro c hc
    simpa using List.eq_of_mem_replicate hc
  · intro c hc
    simpa using List.eq_of_mem_replicate hc
  · intro c hc
    simpa using fun hslash : c = '/' => h.head_ne (hslash ▸ hc)
  · intro c hc
    simpa using fun hslash : c = '/' => h.last_ne (hslash ▸ hc)

theorem isCore_strip (h : strip (· = '/') (trim s) ≠ "") :
    IsCore s (strip (· = '/') (trim s)) := by
  obtain ⟨before, after, houter, hbefore, hafter⟩ := exists_eq_append_stripChars isBlank s.toList
  obtain ⟨front, back, hinner, hfront, hback⟩ :=
    exists_eq_append_stripChars (fun c => decide (c = '/')) (trim s).toList
  have slashes {l : List Char} (hl : ∀ c ∈ l, decide (c = '/') = true) :
      l = List.replicate l.length '/' :=
    List.eq_replicate_iff.2 ⟨rfl, fun c hc => of_decide_eq_true (hl c hc)⟩
  have hpart : (strip (· = '/') (trim s)).toList =
      stripChars (fun c => decide (c = '/')) (trim s).toList := by
    rw [strip, String.toList_ofList]
  have htrim : (trim s).toList = stripChars isBlank s.toList := by
    rw [trim, strip, String.toList_ofList]
  refine ⟨h, ?_, ?_, before, after, front.length, back.length, ?_, hbefore, hafter, ?_, ?_⟩
  · intro hhead
    rw [hpart] at hhead
    simpa using head?_stripChars hhead
  · intro hlast
    rw [hpart] at hlast
    simpa using getLast?_stripChars hlast
  · rw [← slashes hfront, ← slashes hback, hpart, ← hinner, htrim]
    exact houter
  · -- without slashes in front the core begins where the trimmed text does
    intro hnone c hc
    obtain rfl : front = [] := List.length_eq_zero_iff.1 hnone
    have hfirst : (stripChars isBlank s.toList).head? = some c := by
      rw [← htrim, hinner, List.nil_append, ← hpart, List.head?_append, Option.mem_def.1 hc]
      rfl
    exact head?_stripChars hfirst
  · intro hnone c hc
    obtain rfl : back = [] := List.length_eq_zero_iff.1 hnone
    have hlast : (stripChars isBlank s.toList).getLast? = some c := by
      rw [← htrim, hinner, List.append_nil, ← hpart, List.getLast?_append, Option.mem_def.1 hc]
      rfl
    exact getLast?_stripChars hlast

end Text

/-- The segment of a path between the mount and what is read below it. -/
def BackendSettings.segment? : BackendSettings → Option String
  | keyValue _ .v1 => none
  | keyValue _ .v2 => some "data"
  | database true _ _ => some "static-creds"
  | database false _ _ | rabbitMq _ _ | consul _ | aws _ _ _ => some "creds"

/-- The path below a mount. -/
def BackendSettings.pathTo (c : BackendSettings) (mount tail : String) : String :=
  match c.segment? with
  | none => mount ++ "/" ++ tail
  | some segment => mount ++ "/" ++ segment ++ "/" ++ tail

namespace Descriptor

variable {d : Descriptor}

/-- A needed input is the core of what is configured. -/
theorem require_eq_ok_iff {field part : String} {value : Option String} :
    d.require field value = .ok part ↔ ∃ s, value = some s ∧ Text.IsCore s part := by
  cases value with
  | none => exact ⟨nofun, nofun⟩
  | some s =>
      simp only [require, Option.map_some, Option.some.injEq, exists_eq_left']
      constructor
      · intro h
        split at h
        · exact nomatch h
        · rename_i hleft
          obtain rfl := Except.ok.inj h
          exact Text.isCore_strip fun hnil => hleft (String.isEmpty_iff.2 hnil)
      · intro hcore
        rw [hcore.strip_eq, if_neg fun hnil => hcore.ne_empty (String.isEmpty_iff.1 hnil)]

theorem path_of_credentials {segment : String} {keys : List Resolver.CredentialKey}
    {plan : ReadPlan} (h : Resolver.credentials d segment keys = .ok plan) :
    ∃ mount role, d.require "mount" d.mount = .ok mount ∧ d.require "role" d.role = .ok role ∧
      plan.path = mount ++ "/" ++ segment ++ "/" ++ role := by
  obtain ⟨path, hpath, h⟩ := Except.eq_ok_of_bind h
  obtain ⟨names, -, h⟩ := Except.eq_ok_of_bind h
  obtain rfl := Except.ok.inj h
  obtain ⟨mount, hmount, hpath⟩ := Except.eq_ok_of_bind hpath
  obtain ⟨role, hrole, hpath⟩ := Except.eq_ok_of_bind hpath
  exact ⟨mount, role, hmount, hrole, (Except.ok.inj hpath).symm⟩

/-- The path of a resolved descriptor is put together from its two needed inputs. -/
theorem path_of_resolve {plan : ReadPlan} (h : Registry.standard.resolve d = .ok plan) :
    ∃ mount tail, d.require "mount" d.mount = .ok mount ∧
      d.require d.target.1 d.target.2 = .ok tail ∧ plan.path = d.settings.pathTo mount tail := by
  have hresolve : Resolver.ofKind d.settings.kind d = .ok plan := h
  unfold target BackendSettings.pathTo
  cases hsettings : d.settings with
  | keyValue context version =>
      rw [hsettings] at hresolve
      simp only [BackendSettings.kind, Resolver.ofKind, Resolver.keyValue, hsettings] at hresolve
      obtain ⟨mount, hmount, hresolve⟩ := Except.eq_ok_of_bind hresolve
      obtain ⟨tail, htail, hresolve⟩ := Except.eq_ok_of_bind hresolve
      refine ⟨mount, tail, hmount, htail, ?_⟩
      cases version with
      | v1 =>
          obtain rfl := Except.ok.inj hresolve
          rfl
      | v2 =>
          obtain rfl := Except.ok.inj hresolve
          show mount ++ "/data/" ++ tail = mount ++ "/" ++ "data" ++ "/" ++ tail
          simp only [String.append_assoc]
          rfl
  | database staticRole username password =>
      rw [hsettings] at hresolve
      simp only [BackendSettings.kind, Resolver.ofKind, Resolver.database, hsettings] at hresolve
      cases staticRole with
      | false => exact path_of_credentials hresolve
      | true => exact path_of_credentials hresolve
  | rabbitMq username password =>
      rw [hsettings] at hresolve
      simp only [BackendSettings.kind, Resolver.ofKind, Resolver.rabbitMq, hsettings] at hresolve
      exact path_of_credentials hresolve
  | consul token =>
      rw [hsettings] at hresolve
      simp only [BackendSettings.kind, Resolver.ofKind, Resolver.consul, hsettings] at hresolve
      exact path_of_credentials hresolve
  | aws accessKey secretKey sessionToken =>
      rw [hsettings] at hresolve
      simp only [BackendSettings.kind, Resolver.ofKind, Resolver.aws, hsettings] at hresolve
      exact path_of_credentials hresolve

/-- **What a path is made of.** With the resolvers of the library, the path of a descriptor that
resolves is the core of its mount, the segment of its kind and the core of its role or context, with
a slash between each. A descriptor of which nothing is left of the mount, the role or the context
fails, as it lacks a needed input. -/
theorem resolves_to_path (d : Descriptor) :
    (∀ plan, Registry.standard.resolve d = .ok plan →
      ∃ m mount s tail, d.mount = some m ∧ Text.IsCore m mount ∧
        d.target.2 = some s ∧ Text.IsCore s tail ∧ plan.path = d.settings.pathTo mount tail) ∧
    (d.mount.all Text.isOnlySlashes = true ∨ d.target.2.all Text.isOnlySlashes = true →
      ∃ field, Registry.standard.resolve d = .error (d.fault field .missing)) := by
  constructor
  · intro plan h
    obtain ⟨mount, tail, hmount, htail, hpath⟩ := path_of_resolve h
    obtain ⟨m, hm, hmcore⟩ := require_eq_ok_iff.1 hmount
    obtain ⟨s, hs, hscore⟩ := require_eq_ok_iff.1 htail
    exact ⟨m, mount, s, tail, hm, hmcore, hs, hscore, hpath⟩
  · intro hnothing
    have hchecks := d.resolve_standard
    unfold faults unmet at hchecks
    by_cases hmount : d.mount.all Text.isOnlySlashes = true
    · rw [if_pos hmount] at hchecks
      exact ⟨"mount", hchecks⟩
    · rw [if_neg hmount, if_pos (hnothing.resolve_left hmount)] at hchecks
      exact ⟨d.target.1, hchecks⟩

/-- A key-value descriptor with slashes around the mount and inside of the context. -/
def slashed : Descriptor := .keyValue "kv" " /secret/ " "myapp/dev/" .v2

theorem resolves_to_path_slashed :
    Registry.standard.resolve slashed =
        .ok { path := "secret/data/myapp/dev", order := 0, source := "kv", layout := .versioned } ∧
      (∃ m mount s tail, slashed.mount = some m ∧ Text.IsCore m mount ∧
        slashed.target.2 = some s ∧ Text.IsCore s tail ∧
        "secret/data/myapp/dev" = slashed.settings.pathTo mount tail) ∧
      (∃ field, Registry.standard.resolve (.keyValue "kv" "secret" " // " .v1) =
        .error (.configuration (.backend "kv" field .missing))) :=
  have hresolve : Registry.standard.resolve slashed = .ok
      { path := "secret/data/myapp/dev", order := 0, source := "kv", layout := .versioned } := by
    decide +kernel
  ⟨hresolve, slashed.resolves_to_path.1 _ hresolve,
    (resolves_to_path (.keyValue "kv" "secret" " // " .v1)).2 (.inr (by decide +kernel))⟩

/-- A mount of nothing but slashes and blanks resolves, and to a blank one, if a blank stands
between two slashes. -/
theorem slashedDescriptor_blank_mount :
    ("/ /".toList.all fun c => Text.isBlank c || c = '/') = true ∧
      Registry.standard.resolve (.keyValue "kv" "/ /" "app" .v1) =
        .ok { path := " /app", order := 0, source := "kv" } ∧
      Text.isAllBlank " " = true := by
  decide +kernel

end Descriptor

end SecretConfig
