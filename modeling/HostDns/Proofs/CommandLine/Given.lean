import HostDns.CommandLine.Switch
import Mathlib.Data.List.Nodup

/-!
A command line as the switches that set it, in any order.

What a list of switches comes to depends on the values of each switch alone, in their order. So the
switches that a command line is made of may be given in another order, as long as that of the values
of each repeatable switch is kept.
-/

namespace HostDns

/-- The word for a version. -/
def IpVersion.word : IpVersion → String
  | .v4 => "ipv4"
  | .v6 => "ipv6"
  | .both => "both"

namespace Given

/-- The values of a switch that takes none: one empty value if the switch is on. -/
def flag (on : Bool) : List String := if on then [""] else []

/-- Switches, each once for every value that stands beside it. -/
def ofEntries (entries : List (Switch × List String)) : List Given :=
  entries.flatMap fun (s, values) => values.map fun value => ⟨s, value⟩

/-- Each switch that is not repeatable is given at most once. -/
def OnceEach (gs : List Given) : Prop := ∀ s, s.isRepeatable = false → (values gs s).length ≤ 1

/-- The same switches in an order that keeps the values of each repeatable switch in order. -/
def Reorders (gs hs : List Given) : Prop :=
  gs.Perm hs ∧ ∀ s, s.isRepeatable = true → values gs s = values hs s

theorem values_append (gs hs : List Given) (s : Switch) :
    values (gs ++ hs) s = values gs s ++ values hs s := by
  rw [values, List.filter_append, List.map_append, values, values]

theorem values_eq_nil {gs : List Given} {s : Switch} (h : ∀ g ∈ gs, g.switch ≠ s) :
    values gs s = [] := by
  rw [values, List.map_eq_nil_iff, List.filter_eq_nil_iff]
  exact fun g hg => by simpa using h g hg

theorem values_map_mk (s t : Switch) (vs : List String) :
    values (vs.map fun value => ⟨s, value⟩) t = if s = t then vs else [] := by
  split
  · next h => simp [values, List.filter_map, Function.comp_def, h]
  · next h => simp [values, List.filter_map, Function.comp_def, h]

theorem has_eq (gs : List Given) (s : Switch) : has gs s = !(values gs s).isEmpty := by
  rw [Bool.eq_iff_iff, has, List.any_eq_true, Bool.not_eq_true', ← Bool.not_eq_true,
    List.isEmpty_iff, values, List.map_eq_nil_iff, List.filter_eq_nil_iff]
  simp

theorem values_ofEntries_of_not_mem {entries : List (Switch × List String)} {s : Switch}
    (h : s ∉ entries.map Prod.fst) : values (ofEntries entries) s = [] := by
  induction entries with
  | nil => rfl
  | cons entry entries ih =>
    rw [List.map_cons, List.mem_cons, not_or] at h
    rw [ofEntries, List.flatMap_cons, ← ofEntries, values_append, values_map_mk, ih h.2,
      if_neg (Ne.symm h.1), List.append_nil]

/-- A switch has the values that stand beside it. -/
theorem values_ofEntries {entries : List (Switch × List String)}
    (h : (entries.map Prod.fst).Nodup) :
    ∀ entry ∈ entries, values (ofEntries entries) entry.1 = entry.2 := by
  induction entries with
  | nil => exact List.forall_mem_nil _
  | cons first entries ih =>
    obtain ⟨habsent, hrest⟩ := List.nodup_cons.mp h
    intro entry hentry
    rw [ofEntries, List.flatMap_cons, ← ofEntries, values_append, values_map_mk]
    rcases List.mem_cons.mp hentry with rfl | hentry
    · rw [if_pos rfl, values_ofEntries_of_not_mem habsent, List.append_nil]
    · have hne : first.1 ≠ entry.1 := (ne_of_mem_of_not_mem (List.mem_map_of_mem hentry) habsent).symm
      rw [if_neg hne, List.nil_append, ih hrest entry hentry]

theorem exists_of_mem_ofEntries {entries : List (Switch × List String)} {g : Given}
    (h : g ∈ ofEntries entries) : ∃ entry ∈ entries, g.switch = entry.1 ∧ g.value ∈ entry.2 := by
  obtain ⟨⟨s, vs⟩, hentry, hg⟩ := List.mem_flatMap.mp h
  obtain ⟨value, hvalue, rfl⟩ := List.mem_map.mp hg
  exact ⟨(s, vs), hentry, rfl, hvalue⟩

/-- Entries give each switch once that is not repeatable if they have at most one value for it. -/
theorem onceEach_ofEntries {entries : List (Switch × List String)}
    (h : (entries.map Prod.fst).Nodup)
    (honce : ∀ entry ∈ entries, entry.1.isRepeatable = false → entry.2.length ≤ 1) :
    OnceEach (ofEntries entries) := by
  intro s hs
  by_cases hmem : s ∈ entries.map Prod.fst
  · obtain ⟨entry, hentry, rfl⟩ := List.mem_map.mp hmem
    rw [values_ofEntries h entry hentry]
    exact honce entry hentry hs
  · rw [values_ofEntries_of_not_mem hmem]
    exact Nat.zero_le 1

/-- A switch has not been given in front of it, unless it is repeatable. -/
theorem OnceEach.fresh {gs hs : List Given} {g : Given} (h : OnceEach (gs ++ g :: hs)) :
    g.switch.isRepeatable = true ∨ has gs g.switch = false := by
  cases hg : g.switch.isRepeatable with
  | true => exact .inl rfl
  | false =>
    right
    have hself : values (g :: hs) g.switch = g.value :: values hs g.switch := by simp [values]
    have hlen := h g.switch hg
    rw [values_append, hself, List.length_append, List.length_cons] at hlen
    have hnil : values gs g.switch = [] := List.length_eq_zero_iff.mp (by omega)
    rw [has_eq, hnil]
    rfl

theorem OnceEach.parts {gs hs : List Given} (h : OnceEach (gs ++ hs)) :
    OnceEach gs ∧ OnceEach hs := by
  have hlen : ∀ s, s.isRepeatable = false → (values gs s).length + (values hs s).length ≤ 1 := by
    intro s hs
    rw [← List.length_append, ← values_append]
    exact h s hs
  exact ⟨fun s hs => Nat.le_trans (Nat.le_add_right ..) (hlen s hs),
    fun s hs => Nat.le_trans (Nat.le_add_left ..) (hlen s hs)⟩

/-- In another order each switch has the same values. -/
theorem Reorders.values_eq {gs hs : List Given} (h : Reorders gs hs) (honce : OnceEach hs)
    (s : Switch) : values gs s = values hs s := by
  cases hrepeatable : s.isRepeatable with
  | true => exact h.2 s hrepeatable
  | false =>
    have hperm : (values gs s).Perm (values hs s) := (h.1.filter _).map _
    have hlen := honce s hrepeatable
    match hvs : values hs s with
    | [] => exact List.perm_nil.mp (hvs ▸ hperm)
    | [v] => exact List.perm_singleton.mp (hvs ▸ hperm)
    | _ :: _ :: _ =>
      rw [hvs, List.length_cons, List.length_cons] at hlen
      omega

theorem Reorders.onceEach {gs hs : List Given} (h : Reorders gs hs) (honce : OnceEach hs) :
    OnceEach gs := by
  intro s hs
  rw [h.values_eq honce]
  exact honce s hs

end Given

/-! ### What command lines are made of -/

/-- The values of the switches of a listing of adapters. -/
def AdapterOptions.entries (o : AdapterOptions) : List (Switch × List String) :=
  [(.json, Given.flag o.json), (.ipVersion, (o.ipVersion.map IpVersion.word).toList),
    (.includeDown, Given.flag o.includeDown), (.includeWins, Given.flag o.includeWins),
    (.includeAdapter, o.includeAdapters), (.excludeAdapter, o.excludeAdapters),
    (.excludeVirtual, Given.flag o.excludeVirtual), (.excludeLoopback, Given.flag o.excludeLoopback)]

/-- The values of the switches of a listing of name servers. -/
def NameServerOptions.entries (o : NameServerOptions) : List (Switch × List String) :=
  [(.json, Given.flag o.json), (.prefer, (o.prefer.map Preference.name).toList),
    (.resolvConf, o.resolvConf), (.fallback, o.fallbacks)]

/-- A switch accepts every one of some values. -/
def Switch.AcceptsAll (s : Switch) (vs : List String) : Prop :=
  ∀ value ∈ vs, s.argument.accepts value = true

namespace Switch.AcceptsAll

variable {s : Switch} {vs : List String}

theorem flag (h : s.argument = .nothing) (on : Bool) : s.AcceptsAll (Given.flag on) := by
  intro value hvalue
  rw [h]
  cases on with
  | false => cases hvalue
  | true =>
    rw [List.mem_singleton.mp hvalue]
    rfl

theorem text (h : s.argument = .text) : s.AcceptsAll vs := by
  intro value _
  rw [h]
  rfl

theorem path (h : s.argument = .path) (hvs : "" ∉ vs) : s.AcceptsAll vs := by
  intro value hvalue
  rw [h, Argument.accepts, decide_eq_true_eq]
  exact ne_of_mem_of_not_mem hvalue hvs

theorem oneOf {words : List String} (h : s.argument = .oneOf words) {value? : Option String}
    (hvalue : ∀ value ∈ value?, value ∈ words) : s.AcceptsAll value?.toList := by
  intro value hmem
  rw [h, Argument.accepts, List.contains_iff_mem]
  exact hvalue value (Option.mem_toList.mp hmem)

end Switch.AcceptsAll

/-- The switches of a listing of adapters accept their values. -/
theorem AdapterOptions.acceptsAll_of_mem_entries (o : AdapterOptions) :
    ∀ entry ∈ o.entries, entry.1.AcceptsAll entry.2 := by
  have hversion : ∀ word ∈ o.ipVersion.map IpVersion.word, word ∈ IpVersion.words.map (·.1) := by
    rintro word hword
    obtain ⟨version, -, rfl⟩ := Option.map_eq_some_iff.mp hword
    cases version <;> decide
  simp only [entries, List.forall_mem_cons]
  exact ⟨.flag rfl _, .oneOf rfl hversion, .flag rfl _, .flag rfl _, .text rfl, .text rfl,
    .flag rfl _, .flag rfl _, List.forall_mem_nil _⟩

/-- The switches of a listing of name servers accept their values, unless a path is empty. -/
theorem NameServerOptions.acceptsAll_of_mem_entries (o : NameServerOptions)
    (h : "" ∉ o.resolvConf) : ∀ entry ∈ o.entries, entry.1.AcceptsAll entry.2 := by
  have hpreference : ∀ word ∈ o.prefer.map Preference.name,
      word ∈ Preference.words.map (·.1) := by
    rintro word hword
    obtain ⟨preference, -, rfl⟩ := Option.map_eq_some_iff.mp hword
    cases preference <;> decide
  simp only [entries, List.forall_mem_cons]
  exact ⟨.flag rfl _, .oneOf rfl hpreference, .path rfl h, .text rfl, List.forall_mem_nil _⟩

namespace Command

/-- The name of a command. -/
def name : Command → CommandName
  | .adapters _ => .adapters
  | .nameServers _ => .nameServers
  | .init _ => .init

/-- The values of the switches of a command. -/
def entries : Command → List (Switch × List String)
  | .adapters options => options.entries
  | .nameServers options => options.entries
  | .init output => [(.output, [output])]

/-- No path of a command is empty. -/
def HasPaths : Command → Prop
  | .adapters _ => True
  | .nameServers options => "" ∉ options.resolvConf
  | .init output => output ≠ ""

end Command

namespace CommandLine

/-- The values of the switches of a command line. -/
def entries (line : CommandLine) : List (Switch × List String) :=
  (.config, line.config.toList) :: (.verbose, Given.flag line.verbose) :: line.command.entries

/-- The switches that a command line is made of. -/
def given (line : CommandLine) : List Given := Given.ofEntries line.entries

/-- No path of a command line is empty. -/
def HasPaths (line : CommandLine) : Prop := line.config ≠ some "" ∧ line.command.HasPaths

/-- Every switch that may stand behind the command has its values, but for the call for help. -/
theorem map_fst_entries (line : CommandLine) :
    line.entries.map Prod.fst = (Scope.command line.command.name).switches.filter (· ≠ .help) := by
  rcases line with ⟨_ | _ | _, config, verbose⟩ <;> rfl

/-- Each switch has its values in one place. -/
theorem nodup_entries (line : CommandLine) : (line.entries.map Prod.fst).Nodup := by
  have hswitches : (Scope.command line.command.name).switches.Nodup := by
    cases line.command.name <;> decide
  rw [map_fst_entries]
  exact hswitches.filter _

theorem length_le_of_mem_entries {line : CommandLine} :
    ∀ entry ∈ line.entries, entry.1.isRepeatable = false → entry.2.length ≤ 1 := by
  have hflag : ∀ on, (Given.flag on).length ≤ 1 := by decide
  have hoption : ∀ value? : Option String, value?.toList.length ≤ 1 := fun value? => by
    cases value? <;> simp
  rcases line with ⟨o | o | output, config, verbose⟩ <;>
    simp [entries, Command.entries, AdapterOptions.entries, NameServerOptions.entries,
      Switch.isRepeatable, hflag, hoption]

/-- The switches of a command line accept their values. -/
theorem acceptsAll_of_mem_entries {line : CommandLine} (h : line.HasPaths) :
    ∀ entry ∈ line.entries, entry.1.AcceptsAll entry.2 := by
  obtain ⟨hconfig, hcommand⟩ := h
  have hglobal : ∀ entry ∈ line.command.entries, entry.1.AcceptsAll entry.2 := by
    rcases hline : line.command with o | o | output <;> rw [hline] at hcommand
    · exact o.acceptsAll_of_mem_entries
    · exact o.acceptsAll_of_mem_entries hcommand
    · exact List.forall_mem_singleton.mpr (.path rfl (by simpa using Ne.symm hcommand))
  exact List.forall_mem_cons.mpr ⟨.path rfl (by simpa using hconfig),
    List.forall_mem_cons.mpr ⟨.flag rfl _, hglobal⟩⟩

theorem onceEach_given (line : CommandLine) : Given.OnceEach line.given :=
  Given.onceEach_ofEntries line.nodup_entries length_le_of_mem_entries

end CommandLine

/-! ### What the switches of a command line come to -/

namespace Given

theorem has_flag {gs : List Given} {s : Switch} {on : Bool} (h : values gs s = flag on) :
    has gs s = on := by
  rw [has_eq, h]
  cases on <;> rfl

theorem value?_toList {gs : List Given} {s : Switch} {value? : Option String}
    (h : values gs s = value?.toList) : Given.value? gs s = value? := by
  rw [Given.value?, h]
  cases value? <;> rfl

/-- The one value that a switch has at most is found in either of two parts. -/
theorem value?_or {before behind : List Given} {s : Switch} {value? : Option String}
    (h : values before s ++ values behind s = value?.toList) :
    (Given.value? behind s).or (Given.value? before s) = value? := by
  rw [Given.value?, Given.value?]
  rcases value? with _ | value
  · obtain ⟨hbefore, hbehind⟩ := List.append_eq_nil_iff.mp h
    rw [hbefore, hbehind]
    rfl
  · rcases List.append_eq_singleton_iff.mp h with ⟨hbefore, hbehind⟩ | ⟨hbefore, hbehind⟩
    · rw [hbefore, hbehind]
      rfl
    · rw [hbefore, hbehind]
      rfl

end Given

theorem IpVersion.lookup_word (version? : Option IpVersion) :
    (version?.map word).bind (List.lookup · words) = version? := by
  rcases version? with _ | version
  · rfl
  · cases version <;> rfl

theorem Preference.lookup_name (preference? : Option Preference) :
    (preference?.map name).bind (List.lookup · words) = preference? := by
  rcases preference? with _ | preference
  · rfl
  · cases preference <;> rfl

/-- Switches with the values of options come to these options. -/
theorem AdapterOptions.ofGiven_eq {gs : List Given} {o : AdapterOptions}
    (h : ∀ entry ∈ o.entries, Given.values gs entry.1 = entry.2) : ofGiven gs = o := by
  simp only [entries, List.forall_mem_cons] at h
  obtain ⟨hjson, hversion, hdown, hwins, hinclude, hexclude, hvirtual, hloopback, -⟩ := h
  rw [ofGiven, Given.has_flag hjson, Given.value?_toList hversion, IpVersion.lookup_word,
    Given.has_flag hdown, Given.has_flag hwins, hinclude, hexclude, Given.has_flag hvirtual,
    Given.has_flag hloopback]

theorem NameServerOptions.ofGiven_eq {gs : List Given} {o : NameServerOptions}
    (h : ∀ entry ∈ o.entries, Given.values gs entry.1 = entry.2) : ofGiven gs = o := by
  simp only [entries, List.forall_mem_cons] at h
  obtain ⟨hjson, hprefer, hpaths, hfallbacks, -⟩ := h
  rw [ofGiven, Given.has_flag hjson, Given.value?_toList hprefer, Preference.lookup_name, hpaths,
    hfallbacks]

/-- Switches with the values of a command come to this command. -/
theorem Command.ofGiven_eq {gs : List Given} {command : Command}
    (h : ∀ entry ∈ command.entries, Given.values gs entry.1 = entry.2) :
    ofGiven gs command.name = command := by
  rcases command with o | o | output
  · exact congrArg _ (AdapterOptions.ofGiven_eq h)
  · exact congrArg _ (NameServerOptions.ofGiven_eq h)
  · have houtput : Given.values gs .output = (some output).toList :=
      h (.output, [output]) (List.mem_singleton.mpr rfl)
    rw [name, ofGiven, Given.value?_toList houtput, Option.getD_some]

namespace CommandLine

/-- The switches of a command line come to this command line, in any order that keeps the values of
repeatable switches in order, if only those of the program itself stand before its command. -/
theorem ofGiven_eq {line : CommandLine} {before behind : List Given}
    (hbefore : ∀ g ∈ before, g.switch = .config ∨ g.switch = .verbose)
    (horder : Given.Reorders (before ++ behind) line.given) :
    ofGiven before line.command.name behind = line := by
  have hvalues : ∀ entry ∈ line.entries,
      Given.values before entry.1 ++ Given.values behind entry.1 = entry.2 := by
    intro entry hentry
    rw [← Given.values_append, horder.values_eq line.onceEach_given]
    exact Given.values_ofEntries line.nodup_entries entry hentry
  obtain ⟨hconfig, hrest⟩ := List.forall_mem_cons.mp hvalues
  obtain ⟨hverbose, hcommand⟩ := List.forall_mem_cons.mp hrest
  obtain ⟨hnoConfig, hnodup⟩ := List.nodup_cons.mp line.nodup_entries
  have hnoVerbose := (List.nodup_cons.mp hnodup).1
  have hbehind : ∀ entry ∈ line.command.entries, Given.values behind entry.1 = entry.2 := by
    intro entry hentry
    have hkey := List.mem_map_of_mem (f := Prod.fst) hentry
    have hnone : Given.values before entry.1 = [] := Given.values_eq_nil fun g hg => by
      rcases hbefore g hg with hg | hg <;> rw [hg]
      · exact fun h => hnoConfig (List.mem_cons_of_mem _ (h ▸ hkey))
      · exact fun h => hnoVerbose (h ▸ hkey)
    rw [← hcommand entry hentry, hnone, List.nil_append]
  have hon : (Given.has before .verbose || Given.has behind .verbose) = line.verbose := by
    rw [← Given.values_append] at hverbose
    rw [← Given.has_flag hverbose]
    exact List.any_append.symm
  rw [ofGiven, Command.ofGiven_eq hbehind, Given.value?_or hconfig, hon]

end CommandLine

end HostDns
