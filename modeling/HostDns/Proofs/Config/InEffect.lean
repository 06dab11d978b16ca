import HostDns.Proofs.Config.Words

/-!
Which values of a command line and a document are in effect, and reading them in order.

A value that the running command gives is in effect instead of the value of the document. The values in
effect that are written as texts are read one after the other, and the first one that is invalid is the
error. `Checks` says this of a reading, together with what a reading that succeeds comes to; it holds of
several readings in a row if it holds of each.
-/

namespace HostDns.Config

/-! ### Values in effect -/

section InEffect

variable (line : CommandLine) (document? : Option Document)

/-- The version that a listing of adapters is asked for. -/
def versionGiven? : Option IpVersion :=
  match line.command with
  | .adapters options => options.ipVersion
  | _ => none

/-- The preference that a listing of name servers is asked for. -/
def preferenceGiven? : Option Preference :=
  match line.command with
  | .nameServers options => options.prefer
  | _ => none

/-- Whether the command line turns on a switch of a listing of adapters. -/
def SwitchGiven (given : AdapterOptions → Bool) : Prop :=
  ∃ options, line.command = .adapters options ∧ given options = true

/-- Whether a switch of a listing of adapters is on, on the command line or in the document. -/
def SwitchedOn (given : AdapterOptions → Bool) (written : Document → Bool) : Prop :=
  SwitchGiven line given ∨ ∃ document, document? = some document ∧ written document = true

/-- A list of a listing of adapters, empty for any other command. -/
def adapterList (given : AdapterOptions → List String) : List String :=
  match line.command with
  | .adapters options => given options
  | _ => []

/-- A list of a listing of name servers, empty for any other command. -/
def serverList (given : NameServerOptions → List String) : List String :=
  match line.command with
  | .nameServers options => given options
  | _ => []

/-- The list in effect: the one that is given unless it is empty, or else the one that is written, be it
empty or not. -/
def listInEffect? (given : List String) (written? : Option (List String)) : Option (List String) :=
  if given = [] then written? else some given

/-- The patterns in effect, none if there are none on the command line and no document. -/
def patternsInEffect (given : AdapterOptions → List String) (written : Document → List String) :
    List String :=
  (listInEffect? (adapterList line given) (document?.map written)).getD []

/-- The patterns of names to include. -/
def includesInEffect : List String :=
  patternsInEffect line document? (·.includeAdapters) (·.filter.includes)

/-- The patterns of names to exclude. -/
def excludesInEffect : List String :=
  patternsInEffect line document? (·.excludeAdapters) (·.filter.excludes)

/-- The candidate paths. -/
def pathsInEffect? : Option (List String) :=
  listInEffect? (serverList line (·.resolvConf)) (document?.bind (·.dns.resolvConf))

/-- The texts of the fallbacks. -/
def fallbacksInEffect? : Option (List String) :=
  listInEffect? (serverList line (·.fallbacks)) (document?.bind (·.dns.fallbacks))

/-- The text that the document names the version by, unless the command line gives the version. -/
def versionText? : Option String :=
  if (versionGiven? line).isSome then none else document?.bind (·.query.ipVersion)

/-- The text that the document names the preference by, unless the command line gives it. -/
def preferenceText? : Option String :=
  if (preferenceGiven? line).isSome then none else document?.bind (·.dns.prefer)

end InEffect

/-- A value that is written as a text and can be invalid. -/
inductive WrittenValue where
  | version (text : String)
  | pattern (text : String)
  | preference (text : String)
  | server (text : String)
  deriving DecidableEq, Repr

/-- The error of an invalid value, which holds its text as it is written. -/
def WrittenValue.fault? (compile : PatternCompiler) : WrittenValue → Option ConfigError
  | .version text => if IsOneOf versionWords text then none else some (.invalidVersion text)
  | .pattern text =>
    match compile text with
    | .ok _ => none
    | .error cause => some (.invalidPattern text cause)
  | .preference text =>
    if IsOneOf preferenceWords text then none else some (.invalidPreference text)
  | .server text => if server? text = none then some (.invalidServer text) else none

/-- The values in effect that can be invalid, in the order in which they are read. -/
def valuesInEffect (line : CommandLine) (document? : Option Document) : List WrittenValue :=
  (versionText? line document?).toList.map .version ++
    (includesInEffect line document?).map .pattern ++
    (excludesInEffect line document?).map .pattern ++
    (preferenceText? line document?).toList.map .preference ++
    ((fallbacksInEffect? line document?).getD []).map .server

/-! ### Reading values in order -/

/-- A reading of values in order: it comes to something with a property if all values are valid, and
fails with the error of the first invalid value otherwise. -/
def Checks {α : Type} (compile : PatternCompiler) (values : List WrittenValue)
    (x : Except ConfigError α) (P : α → Prop) : Prop :=
  (∃ a, x = .ok a ∧ P a ∧ values.findSome? (·.fault? compile) = none) ∨
    ∃ e, x = .error e ∧ values.findSome? (·.fault? compile) = some e

section Checks

variable {α β : Type} {compile : PatternCompiler} {values rest : List WrittenValue}
  {x : Except ConfigError α} {P : α → Prop} {Q : β → Prop}

theorem Checks.ok {a : α} (h : P a) : Checks compile [] (.ok a) P := Or.inl ⟨a, rfl, h, rfl⟩

/-- Further values are read only behind valid ones. -/
theorem Checks.bind {f : α → Except ConfigError β} (hx : Checks compile values x P)
    (hf : ∀ a, P a → Checks compile rest (f a) Q) : Checks compile (values ++ rest) (x >>= f) Q := by
  rw [Checks, List.findSome?_append]
  rcases hx with ⟨a, rfl, ha, hvalid⟩ | ⟨e, rfl, hfault⟩
  · rw [hvalid, Option.none_or]
    exact hf a ha
  · rw [hfault, Option.some_or]
    exact Or.inr ⟨e, rfl, rfl⟩

theorem Checks.mono {P' : α → Prop} (hx : Checks compile values x P) (h : ∀ a, P a → P' a) :
    Checks compile values x P' :=
  hx.imp_left fun ⟨a, hok, ha, hvalid⟩ => ⟨a, hok, h a ha, hvalid⟩

/-- A reading fails with the error of the first invalid value. -/
theorem Checks.eq_error_iff (hx : Checks compile values x P) {e : ConfigError} :
    x = .error e ↔ values.findSome? (·.fault? compile) = some e := by
  rcases hx with ⟨a, rfl, -, hvalid⟩ | ⟨e', rfl, hfault⟩
  · rw [hvalid]
    exact ⟨nofun, nofun⟩
  · rw [hfault, Except.error.injEq, Option.some.injEq]

theorem Checks.of_eq_ok (hx : Checks compile values x P) {a : α} (h : x = .ok a) : P a := by
  rcases hx with ⟨b, rfl, hb, -⟩ | ⟨e, rfl, -⟩
  · cases h
    exact hb
  · cases h

/-- A reader of one text checks that text. -/
theorem checks_required {read : String → Option α} {error : String → ConfigError} {text : String}
    {v : WrittenValue} (hv : v.fault? compile = if read text = none then some (error text) else none) :
    Checks compile [v] (required read error text) (fun a => read text = some a) := by
  rw [Checks, List.findSome?_singleton, hv, required]
  rcases read text with _ | a
  · exact Or.inr ⟨error text, rfl, rfl⟩
  · exact Or.inl ⟨a, rfl, rfl, rfl⟩

/-- Reading texts one after the other checks all of them. -/
theorem checks_mapM {wrap : String → WrittenValue} {f : String → Except ConfigError α}
    {R : String → α → Prop} (hf : ∀ text, Checks compile [wrap text] (f text) (R text)) :
    ∀ texts : List String, Checks compile (texts.map wrap) (texts.mapM f) (List.Forall₂ R texts)
  | [] => .ok .nil
  | text :: texts => by
    rw [List.map_cons, List.mapM_cons]
    refine (hf text).bind fun a ha => ?_
    rw [← List.append_nil (texts.map wrap)]
    exact (checks_mapM hf texts).bind fun as has => .ok (.cons ha has)

end Checks

end HostDns.Config
