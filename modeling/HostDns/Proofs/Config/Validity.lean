import HostDns.Proofs.Config.Resolution

/-!
When a command line and a document fail to come to settings, and with which error.

The first invalid value in effect is the error. A value of the document that the command line overrides
has no influence at all, while a value of a section that the running command does not use is in effect.
-/

namespace HostDns.Config

/-- Two documents, either of which may be missing, say the same wherever a command line leaves it to
them. -/
structure SameInEffect (line : CommandLine) (d d' : Option Document) : Prop where
  ipVersion : (versionGiven? line).isSome ∨
    d.bind (·.query.ipVersion) = d'.bind (·.query.ipVersion)
  includeDown : SwitchGiven line (·.includeDown) ∨
    d.any (·.query.includeDown) = d'.any (·.query.includeDown)
  includeWins : SwitchGiven line (·.includeWins) ∨
    d.any (·.query.includeWins) = d'.any (·.query.includeWins)
  includes : adapterList line (·.includeAdapters) ≠ [] ∨
    d.elim [] (·.filter.includes) = d'.elim [] (·.filter.includes)
  excludes : adapterList line (·.excludeAdapters) ≠ [] ∨
    d.elim [] (·.filter.excludes) = d'.elim [] (·.filter.excludes)
  excludeVirtual : SwitchGiven line (·.excludeVirtual) ∨
    d.any (·.filter.excludeVirtual) = d'.any (·.filter.excludeVirtual)
  excludeLoopback : SwitchGiven line (·.excludeLoopback) ∨
    d.any (·.filter.excludeLoopback) = d'.any (·.filter.excludeLoopback)
  prefer : (preferenceGiven? line).isSome ∨ d.bind (·.dns.prefer) = d'.bind (·.dns.prefer)
  resolvConf : serverList line (·.resolvConf) ≠ [] ∨
    d.bind (·.dns.resolvConf) = d'.bind (·.dns.resolvConf)
  fallbacks : serverList line (·.fallbacks) ≠ [] ∨
    d.bind (·.dns.fallbacks) = d'.bind (·.dns.fallbacks)

/-- The values of the sections for listings of adapters that can be invalid. -/
def Document.listingValues (d : Document) : List WrittenValue :=
  d.query.ipVersion.toList.map .version ++ d.filter.includes.map .pattern ++
    d.filter.excludes.map .pattern

/-- The values of the section for name servers that can be invalid. -/
def Document.discoveryValues (d : Document) : List WrittenValue :=
  d.dns.prefer.toList.map .preference ++ (d.dns.fallbacks.getD []).map .server

namespace Settings

/-! ### Values of sections that the command does not use -/

section Unused

variable {line : CommandLine} {d : Document}

theorem adapters?_eq_none (h : ∀ options, line.command ≠ .adapters options) :
    line.command.adapters? = none := by
  cases hcommand : line.command with
  | adapters options => exact absurd hcommand (h options)
  | nameServers options => rfl
  | init output => rfl

theorem nameServers?_eq_none (h : ∀ options, line.command ≠ .nameServers options) :
    line.command.nameServers? = none := by
  cases hcommand : line.command with
  | adapters options => rfl
  | nameServers options => exact absurd hcommand (h options)
  | init output => rfl

/-- A command that lists no adapters leaves the sections for such listings in effect. -/
theorem listingValues_subset (h : ∀ options, line.command ≠ .adapters options) :
    d.listingValues ⊆ valuesInEffect line (some d) := by
  have hnone := adapters?_eq_none h
  have hversion : versionText? line (some d) = d.query.ipVersion := by
    rw [versionText?, versionGiven?_eq, hnone]
    rfl
  have hpatterns : ∀ given written, patternsInEffect line (some d) given written = written d := by
    intro given written
    rw [patternsInEffect_eq, patterns, hnone]
    rfl
  intro v hv
  rw [valuesInEffect, hversion, includesInEffect, excludesInEffect, hpatterns, hpatterns]
  exact List.mem_append_left _ (List.mem_append_left _ hv)

/-- A command that lists no name servers leaves the section for them in effect. -/
theorem discoveryValues_subset (h : ∀ options, line.command ≠ .nameServers options) :
    d.discoveryValues ⊆ valuesInEffect line (some d) := by
  have hnone := nameServers?_eq_none h
  have hpreference : preferenceText? line (some d) = d.dns.prefer := by
    rw [preferenceText?, preferenceGiven?_eq, hnone]
    rfl
  have hfallbacks : fallbacksInEffect? line (some d) = d.dns.fallbacks := by
    rw [fallbacksInEffect?_eq, fallbackTexts?, hnone]
    rfl
  intro v hv
  rw [valuesInEffect, hpreference, hfallbacks, List.append_assoc]
  exact List.mem_append_right _ hv

end Unused

/-! ### Values that are not in effect -/

section Overridden

variable {line : CommandLine} {d d' : Option Document}

theorem givenOr_congr {given other other' : List String} (h : given ≠ [] ∨ other = other') :
    givenOr given other = givenOr given other' := by
  rcases given with _ | ⟨text, texts⟩
  · exact h.resolve_left (absurd rfl)
  · rfl

theorem chosen_congr {α : Type} {read : String → Option α} {error : String → ConfigError} {usual : α}
    {given : Option α} {written written' : Option String} (h : given.isSome ∨ written = written') :
    chosen read error usual given written = chosen read error usual given written' := by
  rcases given with _ | a
  · rw [h.resolve_left Bool.false_ne_true]
  · rfl

/-- A switch that the command line turns on is on whatever a document says. -/
theorem turnedOn_congr {given : AdapterOptions → Bool} {written : Document → Bool}
    (h : SwitchGiven line given ∨ d.any written = d'.any written) :
    turnedOn line d given written = turnedOn line d' given written := by
  rw [turnedOn, turnedOn]
  rcases h with hon | hsame
  · rw [switchGiven_iff.mp hon, Bool.true_or, Bool.true_or]
  · rw [hsame]

theorem patterns_congr {given : AdapterOptions → List String} {written : Document → List String}
    (h : adapterList line given ≠ [] ∨ d.elim [] written = d'.elim [] written) :
    patterns line d given written = patterns line d' given written := by
  rw [adapterList_eq] at h
  exact givenOr_congr h

theorem resolveVersion_congr (h : SameInEffect line d d') :
    resolveVersion line d = resolveVersion line d' := by
  have hversion := h.ipVersion
  rw [versionGiven?_eq] at hversion
  exact chosen_congr hversion

theorem resolvePreference_congr (h : SameInEffect line d d') :
    resolvePreference line d = resolvePreference line d' := by
  have hpreference := h.prefer
  rw [preferenceGiven?_eq] at hpreference
  exact chosen_congr hpreference

theorem resolveFilter_congr (compile : PatternCompiler) (h : SameInEffect line d d')
    (includeDown : Bool) :
    resolveFilter compile line d includeDown = resolveFilter compile line d' includeDown := by
  have hkinds : excludedKinds line d = excludedKinds line d' := by
    rw [excludedKinds, excludedKinds, turnedOn_congr h.excludeVirtual,
      turnedOn_congr h.excludeLoopback]
  rw [resolveFilter, resolveFilter, patterns_congr h.includes, patterns_congr h.excludes, hkinds]

theorem resolvConfPaths_congr (h : SameInEffect line d d') :
    resolvConfPaths line d = resolvConfPaths line d' := by
  have hlist := h.resolvConf
  rw [serverList_eq] at hlist
  exact givenOr_congr (hlist.imp_right (congrArg (Option.getD · _)))

theorem resolveFallbacks_congr (h : SameInEffect line d d') :
    resolveFallbacks line d = resolveFallbacks line d' := by
  have htexts : fallbackTexts? line d = fallbackTexts? line d' := by
    have hlist := h.fallbacks
    rw [serverList_eq, ne_eq, ← List.isEmpty_iff] at hlist
    rw [fallbackTexts?, fallbackTexts?]
    rcases hlist with hgiven | hsame
    · rw [if_neg hgiven, if_neg hgiven]
    · rw [hsame]
  rw [resolveFallbacks, resolveFallbacks, htexts]

/-- Documents that say the same wherever it is left to them come to the same settings or error. -/
theorem resolve_congr (compile : PatternCompiler) (h : SameInEffect line d d') :
    resolve compile line d = resolve compile line d' := by
  rw [resolve, resolve]
  simp only [turnedOn_congr h.includeDown, turnedOn_congr h.includeWins, resolveVersion_congr h,
    resolveFilter_congr compile h, resolvePreference_congr h, resolvConfPaths_congr h,
    resolveFallbacks_congr h]

end Overridden

/-- Settings fail to come about if and only if some value in effect is invalid, and the error is that of
the first such value, with its text as it is written. Values that the command line overrides play no
part, while those of a section that the command does not use do. -/
theorem resolve_reports_first_fault (compile : PatternCompiler) (line : CommandLine) :
    (∀ document? e, resolve compile line document? = .error e ↔
      ∃ before v after, valuesInEffect line document? = before ++ v :: after ∧
        v.fault? compile = some e ∧ ∀ w ∈ before, w.fault? compile = none) ∧
    (∀ document?, (∃ e, resolve compile line document? = .error e) ↔
      ∃ v ∈ valuesInEffect line document?, v.fault? compile ≠ none) ∧
    (∀ d d' : Option Document, SameInEffect line d d' →
      resolve compile line d = resolve compile line d') ∧
    (∀ d : Document, (∀ options, line.command ≠ .adapters options) →
      (∃ v ∈ d.listingValues, v.fault? compile ≠ none) →
        ∃ e, resolve compile line (some d) = .error e) ∧
    (∀ d : Document, (∀ options, line.command ≠ .nameServers options) →
      (∃ v ∈ d.discoveryValues, v.fault? compile ≠ none) →
        ∃ e, resolve compile line (some d) = .error e) := by
  have hfails : ∀ document?, (∃ e, resolve compile line document? = .error e) ↔
      ∃ v ∈ valuesInEffect line document?, v.fault? compile ≠ none := fun document? => by
    simp only [(checks_resolve line document?).eq_error_iff, ← Option.isSome_iff_exists]
    simp only [List.findSome?_isSome_iff, ← Option.isSome_iff_ne_none]
  refine ⟨fun document? e => ?_, hfails, fun d d' => resolve_congr compile, ?_, ?_⟩
  · rw [(checks_resolve line document?).eq_error_iff, List.findSome?_eq_some_iff]
  · rintro d hcommand ⟨v, hv, hfault⟩
    exact (hfails (some d)).mpr ⟨v, listingValues_subset hcommand hv, hfault⟩
  · rintro d hcommand ⟨v, hv, hfault⟩
    exact (hfails (some d)).mpr ⟨v, discoveryValues_subset hcommand hv, hfault⟩

-- A pattern of the document is read even if no adapters are listed, and before the preference.
example : resolve (fun _ => .error .unclosedGroup) ⟨.nameServers {}, none, false⟩
    (some ⟨{}, { includes := ["(a"] }, { prefer := some "fast" }⟩) =
      .error (.invalidPattern "(a" .unclosedGroup) := by
  rfl

end Settings

end HostDns.Config
