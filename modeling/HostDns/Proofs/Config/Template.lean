import HostDns.Program
import HostDns.Proofs.Config.Validity
import HostDns.Proofs.File.Tree
import HostDns.Proofs.Toml.Outline

/-!
The template sets nothing.

It is an outline of the three sections, so the document that it spells is the one without any setting,
and the settings that a command line comes to with it are those without a document. A run that is given
the template just written therefore goes as a run without a document.
-/

namespace HostDns

open Config Toml

namespace Config

/-! ### The document -/

/-- Sections without any key set nothing. -/
theorem Document.ofEntries_emptyTables {names : List String}
    (h : ∀ name ∈ names, name ∈ ["query", "filter", "dns"]) :
    Document.ofEntries (names.map emptyTable) = .ok {} := by
  have hquery : Entries.orElse (names.map emptyTable) "query" QuerySection.ofValue {} = .ok {} :=
    Entries.orElse_emptyTables (by rfl) names "query"
  have hfilter : Entries.orElse (names.map emptyTable) "filter" FilterSection.ofValue {} = .ok {} :=
    Entries.orElse_emptyTables (by rfl) names "filter"
  have hdns : Entries.orElse (names.map emptyTable) "dns" DnsSection.ofValue {} = .ok {} :=
    Entries.orElse_emptyTables (by rfl) names "dns"
  rw [Document.ofEntries, Entries.withKeys_emptyTables h]
  simp only [bind, Except.bind, hquery, hfilter, hdns]
  rfl

/-- The document that the template spells sets nothing. -/
theorem Document.ofString_template : Document.ofString template = .ok {} := by
  have hlines : IsOutline templateLines ∧ headings templateLines = ["query", "filter", "dns"] := by
    decide +kernel
  obtain ⟨houtline, hheadings⟩ := hlines
  have hentries := ofString_outline houtline (by rw [hheadings]; decide)
  rw [Document.ofString, template, hentries, hheadings]
  exact Document.ofEntries_emptyTables fun _ => id

end Config

/-! ### Settings and runs -/

/-- A document that sets nothing says what no document says. -/
theorem Config.sameInEffect_none (line : CommandLine) : SameInEffect line (some {}) none := by
  constructor <;> exact .inr rfl

variable {t t' : FileTree} {path : String}

/-- A command line that names a file comes to the settings with the document that the file spells. -/
theorem Config.Settings.observe_load {text : String} {document : Document}
    (hread : t.read path = .ok text) (hdocument : Document.ofString text = .ok document)
    (compile : PatternCompiler) (line : CommandLine) :
    t.observe (Settings.load compile { line with config := some path }) =
      (Settings.resolve compile line (some document), t) := by
  rw [Settings.load]
  simp only [FileTree.observe_bind, FileTree.observe_read, hread, hdocument]
  rfl

namespace Program

variable {compile : PatternCompiler} {source : AdapterSource (StateM FileTree)}
  {environment : Environment}

/-- A run that has written the template leaves a tree in which the template is read. -/
theorem read_of_templateWritten {config? : Option String} {verbose : Bool} {written : String}
    (h : t.observe (execute compile source environment ⟨.init path, config?, verbose⟩) =
      (.templateWritten written, t')) : t'.read path = .ok template := by
  rw [execute] at h
  simp only [writeTemplate, FileTree.observe_bind, FileTree.observe_write] at h
  cases hwrite : t.write path template with
  | error cause =>
    rw [hwrite] at h
    cases h
  | ok after =>
    rw [hwrite] at h
    cases h
    exact FileTree.read_of_write hwrite

/-- Two command lines with one command that come to the same settings run alike. -/
theorem observe_execute_congr {line line' : CommandLine} (hcommand : line.command = line'.command)
    (h : t.observe (Settings.load compile line) = t.observe (Settings.load compile line')) :
    t.observe (execute compile source environment line) =
      t.observe (execute compile source environment line') := by
  rw [execute, execute, hcommand]
  cases line'.command with
  | init output => rfl
  | adapters options => simp only [FileTree.observe_bind, h]
  | nameServers options => simp only [FileTree.observe_bind, h]

/-- The template is neutral. The document that it spells comes to the same settings as no document, or
fails with the same error, for every command line. After a run that has written it, the file holds the
template, and a command line that names such a file comes to the settings without a document and runs
alike. -/
theorem template_is_neutral :
    (∃ document, Document.ofString template = .ok document ∧
      ∀ (compile : PatternCompiler) (line : CommandLine),
        Settings.resolve compile line (some document) = Settings.resolve compile line none) ∧
    ∀ (compile : PatternCompiler) (source : AdapterSource (StateM FileTree)) (environment : Environment)
      (t t' : FileTree) (path : String) (config? : Option String) (verbose : Bool),
      t.observe (execute compile source environment ⟨.init path, config?, verbose⟩) =
        (.templateWritten path, t') →
      t'.read path = .ok template ∧
      ∀ (source : AdapterSource (StateM FileTree)) (environment : Environment) (named : String)
        (line : CommandLine), t'.read named = .ok template →
        t'.observe (Settings.load compile { line with config := some named }) =
          t'.observe (Settings.load compile { line with config := none }) ∧
        t'.observe (execute compile source environment { line with config := some named }) =
          t'.observe (execute compile source environment { line with config := none }) := by
  have hresolve : ∀ compile line,
      Settings.resolve compile line (some {}) = Settings.resolve compile line none :=
    fun compile line => Settings.resolve_congr compile (sameInEffect_none line)
  refine ⟨⟨{}, Document.ofString_template, hresolve⟩, ?_⟩
  intro compile source environment t t' path config? verbose hwritten
  refine ⟨read_of_templateWritten hwritten, ?_⟩
  intro source environment named line hread
  have hload : t'.observe (Settings.load compile { line with config := some named }) =
      t'.observe (Settings.load compile { line with config := none }) := by
    rw [Settings.observe_load hread Document.ofString_template, hresolve]
    rfl
  exact ⟨hload, observe_execute_congr rfl hload⟩

/-- In a directory without any file the template is written, and a listing of adapters that names it
runs as one that names no file. -/
theorem template_is_neutral_new_file :
    ∃ t', FileTree.empty.observe (execute NamePattern.compile (fun _ => return .ok []) {}
        ⟨.init "adapter-dns.toml", none, false⟩) = (.templateWritten "adapter-dns.toml", t') ∧
      t'.read "adapter-dns.toml" = .ok template ∧
      t'.observe (execute NamePattern.compile (fun _ => return .ok []) {}
          ⟨.adapters { includeAdapters := ["^eth"] }, some "adapter-dns.toml", true⟩) =
        t'.observe (execute NamePattern.compile (fun _ => return .ok []) {}
          ⟨.adapters { includeAdapters := ["^eth"] }, none, true⟩) := by
  have hwritten : FileTree.empty.observe (execute NamePattern.compile (fun _ => return .ok []) {}
      ⟨.init "adapter-dns.toml", none, false⟩) = (.templateWritten "adapter-dns.toml",
        FileTree.empty.put ["adapter-dns.toml"] (.file template.toUTF8.data.toList)) := rfl
  obtain ⟨hread, hneutral⟩ := template_is_neutral.2 _ _ _ _ _ _ _ _ hwritten
  exact ⟨_, hwritten, hread,
    (hneutral _ {} "adapter-dns.toml" ⟨.adapters { includeAdapters := ["^eth"] }, none, true⟩ hread).2⟩

end Program

end HostDns
