import HostDns.Proofs.Adapter.Filter
import HostDns.Proofs.Config.InEffect

/-!
What a command line and a document come to together.

A value of the running command counts more than one of the document, and that one more than the
default; switches can be turned on in either place; lists are replaced as a whole, each for itself. The
filter shows only in what it accepts, so this is what is said of it.
-/

namespace HostDns.Config

/-! ### Settings that accord with a command line and a document -/

/-- Which value a setting has: the given one, or else the one that a written text names by a word, or else
the usual one. -/
inductive Chosen {α : Type} (words : List (String × α)) (usual : α) :
    Option α → Option String → α → Prop
  | given (a : α) (written? : Option String) : Chosen words usual (some a) written? a
  | written {text : String} {a : α} (h : Names words text a) : Chosen words usual none (some text) a
  | usual : Chosen words usual none none usual

/-- A pattern is compiled and matches a name. -/
def Matches (compile : PatternCompiler) (name pattern : String) : Prop :=
  ∃ compiled, compile pattern = .ok compiled ∧ compiled.matchesName name = true

/-- A filter accepts what the command line and the document ask for. -/
def FilterAccords (compile : PatternCompiler) (line : CommandLine) (document? : Option Document)
    (includeDown : Bool) (filter : FilterChain) : Prop :=
  ∀ a, filter.accepts a = true ↔
    (includeDown = true ∨ a.operStatus = .up) ∧
    ¬ (SwitchedOn line document? (·.excludeVirtual) (·.filter.excludeVirtual) ∧ a.kind = .virtual) ∧
    ¬ (SwitchedOn line document? (·.excludeLoopback) (·.filter.excludeLoopback) ∧
      a.kind = .loopback) ∧
    (∀ pattern ∈ excludesInEffect line document?, ¬ Matches compile a.friendlyName pattern) ∧
    (includesInEffect line document? = [] ∨
      ∃ pattern ∈ includesInEffect line document?, Matches compile a.friendlyName pattern)

/-- Fallbacks are what their texts in effect name, or the usual ones where no list is in effect. -/
inductive FallbacksAccord : Option (List String) → List Socket → Prop
  | written {texts : List String} {servers : List Socket}
    (h : List.Forall₂ (fun text server => server? text = some server) texts servers) :
    FallbacksAccord (some texts) servers
  | usual : FallbacksAccord none [.v4 ⟨1, 1, 1, 1⟩ 53, .v4 ⟨8, 8, 8, 8⟩ 53]

/-- Settings are what a command line and a document ask for. -/
structure Accords (compile : PatternCompiler) (line : CommandLine) (document? : Option Document)
    (s : Settings) : Prop where
  ipVersion : Chosen versionWords .both (versionGiven? line) (document?.bind (·.query.ipVersion))
    s.ipVersion
  includeDown : s.includeDown = true ↔
    SwitchedOn line document? (·.includeDown) (·.query.includeDown)
  includeWins : s.includeWins = true ↔
    SwitchedOn line document? (·.includeWins) (·.query.includeWins)
  filter : FilterAccords compile line document? s.includeDown s.filter
  prefer : Chosen preferenceWords .asListed (preferenceGiven? line) (document?.bind (·.dns.prefer))
    s.prefer
  resolvConf : s.discovery.resolvConf =
    (pathsInEffect? line document?).getD ["/etc/resolv.conf", "sys:/etc/resolv.cfg"]
  fallbacks : FallbacksAccord (fallbacksInEffect? line document?) s.discovery.fallbacks
  json : s.json = true ↔
    (∃ options, line.command = .adapters options ∧ options.json = true) ∨
      ∃ options, line.command = .nameServers options ∧ options.json = true
  verbose : s.verbose = line.verbose

namespace Settings

/-! ### What the running command gives -/

section Given

variable (line : CommandLine) (document? : Option Document)

theorem versionGiven?_eq : versionGiven? line = line.command.adapters?.bind (·.ipVersion) := by
  rw [versionGiven?]
  cases line.command <;> rfl

theorem preferenceGiven?_eq :
    preferenceGiven? line = line.command.nameServers?.bind (·.prefer) := by
  rw [preferenceGiven?]
  cases line.command <;> rfl

variable {line document?}

theorem adapterList_eq (given : AdapterOptions → List String) :
    adapterList line given = line.command.adapters?.elim [] given := by
  rw [adapterList]
  cases line.command <;> rfl

theorem serverList_eq (given : NameServerOptions → List String) :
    serverList line given = line.command.nameServers?.elim [] given := by
  rw [serverList]
  cases line.command <;> rfl

theorem switchGiven_iff {given : AdapterOptions → Bool} :
    SwitchGiven line given ↔ line.command.adapters?.any given = true := by
  rw [SwitchGiven]
  cases line.command <;> simp [Command.adapters?]

theorem switchedOn_iff {given : AdapterOptions → Bool} {written : Document → Bool} :
    SwitchedOn line document? given written ↔ turnedOn line document? given written = true := by
  rw [SwitchedOn, switchGiven_iff, turnedOn, Bool.or_eq_true]
  cases document? <;> simp

theorem listInEffect?_getD (given : List String) (written? : Option (List String))
    (other : List String) :
    (listInEffect? given written?).getD other = givenOr given (written?.getD other) := by
  cases given <;> rfl

theorem patternsInEffect_eq (given : AdapterOptions → List String)
    (written : Document → List String) :
    patternsInEffect line document? given written = patterns line document? given written := by
  rw [patternsInEffect, adapterList_eq, listInEffect?_getD, patterns]
  cases document? <;> rfl

theorem pathsInEffect?_getD :
    (pathsInEffect? line document?).getD ["/etc/resolv.conf", "sys:/etc/resolv.cfg"] =
      resolvConfPaths line document? := by
  rw [pathsInEffect?, serverList_eq, listInEffect?_getD, resolvConfPaths]
  rfl

theorem fallbacksInEffect?_eq :
    fallbacksInEffect? line document? = fallbackTexts? line document? := by
  simp only [fallbacksInEffect?, serverList_eq, fallbackTexts?, listInEffect?, List.isEmpty_iff]

end Given

/-! ### Reading the values in effect -/

section Read

variable {compile : PatternCompiler}

/-- A setting is given, or a text for it is read by its words. -/
theorem checks_chosen {α : Type} {words : List (String × α)} {read : String → Option α}
    {error : String → ConfigError} {wrap : String → WrittenValue}
    (hread : ∀ {text a}, read text = some a ↔ Names words text a)
    (hwrap : ∀ text, (wrap text).fault? compile =
      if IsOneOf words text then none else some (error text))
    (usual : α) (given : Option α) (written? : Option String) :
    Checks compile ((if given.isSome then none else written?).toList.map wrap)
      (chosen read error usual given written?) (Chosen words usual given written?) := by
  rcases given with _ | a
  · rcases written? with _ | text
    · exact .ok .usual
    · have hfault : (wrap text).fault? compile =
          if read text = none then some (error text) else none := by
        simp only [hwrap, eq_none_iff_of_names hread, ite_not]
      exact (checks_required hfault).mono fun a h => .written (hread.mp h)
  · exact .ok (.given a written?)

variable (line : CommandLine) (document? : Option Document)

theorem checks_resolveVersion :
    Checks compile ((versionText? line document?).toList.map .version)
      (resolveVersion line document?)
      (Chosen versionWords .both (versionGiven? line) (document?.bind (·.query.ipVersion))) := by
  rw [versionText?, resolveVersion, ← versionGiven?_eq]
  exact checks_chosen version?_eq_some_iff (fun _ => rfl) ..

theorem checks_resolvePreference :
    Checks compile ((preferenceText? line document?).toList.map .preference)
      (resolvePreference line document?)
      (Chosen preferenceWords .asListed (preferenceGiven? line)
        (document?.bind (·.dns.prefer))) := by
  rw [preferenceText?, resolvePreference, ← preferenceGiven?_eq]
  exact checks_chosen preference?_eq_some_iff (fun _ => rfl) ..

/-- A filter is what a pattern becomes. -/
def FilterOf (compile : PatternCompiler) (pattern : String) (filter : AdapterFilter) : Prop :=
  ∃ compiled, compile pattern = .ok compiled ∧ filter = .name compiled

theorem checks_nameFilters (patterns : List String) :
    Checks compile (patterns.map .pattern) (nameFilters compile patterns)
      (List.Forall₂ (FilterOf compile) patterns) := by
  refine checks_mapM (fun pattern => ?_) patterns
  rw [Checks, List.findSome?_singleton, WrittenValue.fault?]
  rcases hcompiled : compile pattern with cause | c
  · exact Or.inr ⟨_, rfl, rfl⟩
  · exact Or.inl ⟨_, rfl, ⟨c, hcompiled, rfl⟩, rfl⟩

/-- Some filter of names accepts an adapter if its pattern matches the name. -/
theorem exists_accepts_iff {patterns : List String} {filters : List AdapterFilter} {a : Adapter}
    (h : List.Forall₂ (FilterOf compile) patterns filters) :
    (∃ f ∈ filters, f.accepts a = true) ↔
      ∃ pattern ∈ patterns, Matches compile a.friendlyName pattern := by
  induction h with
  | nil => simp
  | @cons pattern filter patterns filters hfilter _ ih =>
    obtain ⟨c, hc, rfl⟩ := hfilter
    have hmatches : Matches compile a.friendlyName pattern ↔ c.matchesName a.friendlyName = true := by
      simp [Matches, hc]
    rw [List.exists_mem_cons_iff, List.exists_mem_cons_iff, ih, hmatches, AdapterFilter.accepts]

theorem mem_excludedKinds {kind : AdapterKind} : kind ∈ excludedKinds line document? ↔
    SwitchedOn line document? (·.excludeVirtual) (·.filter.excludeVirtual) ∧ kind = .virtual ∨
      SwitchedOn line document? (·.excludeLoopback) (·.filter.excludeLoopback) ∧
        kind = .loopback := by
  rw [excludedKinds, switchedOn_iff, switchedOn_iff, List.mem_append]
  split <;> split <;> simp_all

/-- No filter that comes from the switches or from a pattern to exclude accepts an adapter. -/
theorem forall_excludes_iff {a : Adapter} {excludes : List AdapterFilter}
    (h : List.Forall₂ (FilterOf compile) (excludesInEffect line document?) excludes) :
    (∀ f ∈ (excludedKinds line document?).map (fun kind => .ofKinds [kind]) ++ excludes,
        ¬ f.accepts a = true) ↔
      ¬ (SwitchedOn line document? (·.excludeVirtual) (·.filter.excludeVirtual) ∧
        a.kind = .virtual) ∧
      ¬ (SwitchedOn line document? (·.excludeLoopback) (·.filter.excludeLoopback) ∧
        a.kind = .loopback) ∧
      ∀ pattern ∈ excludesInEffect line document?, ¬ Matches compile a.friendlyName pattern := by
  have hkinds : (∀ f ∈ (excludedKinds line document?).map
      (fun kind => AdapterFilter.ofKinds [kind]), ¬ f.accepts a = true) ↔
        a.kind ∉ excludedKinds line document? := by
    simp only [List.forall_mem_map, AdapterFilter.accepts_ofKinds, List.mem_singleton]
    exact ⟨fun hall hmem => hall _ hmem rfl, fun hnot kind hkind heq => hnot (heq ▸ hkind)⟩
  have hpatterns := not_congr (exists_accepts_iff (a := a) h)
  push Not at hpatterns
  rw [List.forall_mem_append, hkinds, mem_excludedKinds, not_or, and_assoc]
  exact and_congr_right' (and_congr_right' hpatterns)

theorem checks_resolveFilter (includeDown : Bool) :
    Checks compile ((includesInEffect line document?).map .pattern ++
        (excludesInEffect line document?).map .pattern)
      (resolveFilter compile line document? includeDown)
      (FilterAccords compile line document? includeDown) := by
  rw [resolveFilter, ← patternsInEffect_eq, ← patternsInEffect_eq]
  refine (checks_nameFilters _).bind fun includes hincludes => ?_
  rw [← List.append_nil (List.map _ (excludesInEffect line document?))]
  refine (checks_nameFilters _).bind fun excludes hexcludes => .ok fun a => ?_
  have hrequires : (∀ f ∈ if includeDown then [] else [.up], AdapterFilter.accepts f a = true) ↔
      includeDown = true ∨ a.operStatus = .up := by
    cases includeDown <;> simp [AdapterFilter.accepts, OperStatus.isUp]
  have hnone : includes = [] ↔ includesInEffect line document? = [] := by
    rw [← List.length_eq_zero_iff, ← hincludes.length_eq, List.length_eq_zero_iff]
  rw [FilterChain.accepts_iff, forall_excludes_iff line document? hexcludes, hrequires, hnone,
    exists_accepts_iff hincludes, and_left_comm, and_assoc, and_assoc]

/-- Each text of a fallback becomes a server. -/
theorem checks_resolveFallbacks :
    Checks compile (((fallbacksInEffect? line document?).getD []).map .server)
      (resolveFallbacks line document?)
      (FallbacksAccord (fallbacksInEffect? line document?)) := by
  have hwrap : ∀ text, (WrittenValue.server text).fault? compile =
      if server? text = none then some (.invalidServer text) else none := fun _ => rfl
  rw [resolveFallbacks, ← fallbacksInEffect?_eq]
  rcases fallbacksInEffect? line document? with _ | texts
  · exact .ok .usual
  · exact (checks_mapM (fun text => checks_required (hwrap text)) texts).mono fun _ => .written

/-- The values in effect are read in order, and the settings accord with them. -/
theorem checks_resolve : Checks compile (valuesInEffect line document?)
    (resolve compile line document?) (Accords compile line document?) := by
  have hvalues : valuesInEffect line document? =
      (versionText? line document?).toList.map .version ++
        (((includesInEffect line document?).map .pattern ++
          (excludesInEffect line document?).map .pattern) ++
            ((preferenceText? line document?).toList.map .preference ++
              (((fallbacksInEffect? line document?).getD []).map .server ++ []))) := by
    simp only [valuesInEffect, List.append_assoc, List.append_nil]
  rw [resolve, hvalues]
  refine (checks_resolveVersion line document?).bind fun ipVersion hversion => ?_
  refine (checks_resolveFilter line document? _).bind fun filter hfilter => ?_
  refine (checks_resolvePreference line document?).bind fun prefer hprefer => ?_
  refine (checks_resolveFallbacks line document?).bind fun fallbacks hfallbacks => .ok ?_
  exact {
    ipVersion := hversion
    includeDown := switchedOn_iff.symm
    includeWins := switchedOn_iff.symm
    filter := hfilter
    prefer := hprefer
    resolvConf := pathsInEffect?_getD.symm
    fallbacks := hfallbacks
    json := by cases line.command <;> simp [Command.json]
    verbose := rfl }

end Read

/-- The query of settings asks for the version in effect. Its flags are those of a usual listing, but
for the bit of WINS servers, which is set if they are included. -/
theorem adapterQuery_spec (s : Settings) : s.adapterQuery.version = s.ipVersion ∧
    s.adapterQuery.flags.contains QueryOption.includeWinsInfo.bit = s.includeWins ∧
    s.adapterQuery.flags.bits ^^^ AdapterQuery.listing.flags.bits =
      if s.includeWins then QueryOption.includeWinsInfo.bit else 0 := by
  have hversion : s.adapterQuery.version = s.ipVersion := by
    rw [adapterQuery]
    cases s.includeWins <;> rfl
  have hflags : s.adapterQuery.flags =
      if s.includeWins then AdapterQuery.listing.withWins.flags else AdapterQuery.listing.flags := by
    rw [adapterQuery]
    cases s.includeWins <;> rfl
  refine ⟨hversion, ?_⟩
  rw [hflags]
  cases s.includeWins <;> decide

/-- Settings that come of a command line and a document accord with them, and so does their query. -/
theorem accords_of_resolve {compile : PatternCompiler} {line : CommandLine}
    {document? : Option Document} {s : Settings} (h : resolve compile line document? = .ok s) :
    Accords compile line document? s ∧ s.adapterQuery.version = s.ipVersion ∧
      s.adapterQuery.flags.contains QueryOption.includeWinsInfo.bit = s.includeWins ∧
      s.adapterQuery.flags.bits ^^^ AdapterQuery.listing.flags.bits =
        if s.includeWins then QueryOption.includeWinsInfo.bit else 0 :=
  ⟨(checks_resolve line document?).of_eq_ok h, s.adapterQuery_spec⟩

/-- A listing whose pattern to include replaces an invalid one of the document, which names a version and
a preference, excludes adapters, leaves no path to look at and writes a fallback between blanks. -/
theorem accords_of_resolve_replacing :
    let compile : PatternCompiler := fun p =>
      if p = "(" then .error .unclosedGroup else .ok ⟨p, (p == ·)⟩
    let line : CommandLine := ⟨.adapters { includeAdapters := ["eth0"], excludeVirtual := true }, none,
      false⟩
    let document : Document := ⟨⟨some "V6", false, true⟩, ⟨["("], ["lo"], false, true⟩,
      ⟨some "IPv4_Only", some [], some [" 9.9.9.9 "]⟩⟩
    let s : Settings := ⟨.v6, false, true,
      ⟨[.name ⟨"eth0", ("eth0" == ·)⟩],
        [.ofKinds [.virtual], .ofKinds [.loopback], .name ⟨"lo", ("lo" == ·)⟩], [.up]⟩,
      .ipv4Only, ⟨[], [.v4 ⟨9, 9, 9, 9⟩ 53]⟩, false, false⟩
    resolve compile line (some document) = .ok s ∧ Accords compile line (some document) s ∧
      s.adapterQuery.version = .v6 ∧
      s.adapterQuery.flags.contains QueryOption.includeWinsInfo.bit = true ∧
      s.adapterQuery.flags.bits ^^^ AdapterQuery.listing.flags.bits =
        QueryOption.includeWinsInfo.bit := by
  intro compile line document s
  have hversion : resolveVersion line (some document) = .ok .v6 := by
    change required version? .invalidVersion "V6" = .ok .v6
    rw [required, version?_eq_some_iff.mpr (by decide : Names versionWords "V6" .v6)]
  have hpreference : resolvePreference line (some document) = .ok .ipv4Only := by
    change required preference? .invalidPreference "IPv4_Only" = .ok .ipv4Only
    rw [required,
      preference?_eq_some_iff.mpr (by decide : Names preferenceWords "IPv4_Only" .ipv4Only)]
  have h : resolve compile line (some document) = .ok s := by
    rw [resolve, hversion, hpreference]
    rfl
  exact ⟨h, accords_of_resolve h⟩

end Settings

end HostDns.Config
