import HostDns.Proofs.NameServers.Calls
import HostDns.Proofs.Session

/-!
What discovery comes to on each platform.

Off Windows the first candidate with a file decides: its error is the error of discovery, and its
servers are what discovery starts from. On Windows the source of adapters decides in the same way. From
there on both follow one rule: the default domain gets the fallbacks if it has no server, and nothing
else changes.
-/

namespace HostDns

open ResolvConf

namespace Discovery

/-! ### Fallbacks -/

/-- What `result` makes of the servers `base` that were found. They stay as they are if the default
domain has a server. Otherwise its servers are the first occurrences of the fallbacks, and every other
domain keeps its servers and its place. -/
structure Completes (fallbacks : List Socket) (base result : NameServers) : Prop where
  kept : base.serversOf defaultDomain ≠ [] → result = base
  filled : base.serversOf defaultDomain = [] →
    result.forDomain? defaultDomain = some fallbacks.eraseDups
  others : result.domains.filter (·.1 ≠ defaultDomain) = base.domains.filter (·.1 ≠ defaultDomain)
  places : base.domains.map Prod.fst <+: result.domains.map Prod.fst

/-- Fallbacks are given to a default domain without servers only. -/
theorem completes_withFallbacks (d : Discovery) (base : NameServers) :
    Completes d.fallbacks base (d.withFallbacks base) := by
  rcases hservers : base.serversOf defaultDomain with _ | ⟨server, servers⟩
  · have hresult : d.withFallbacks base = base.extend defaultDomain d.fallbacks :=
      if_neg (by rw [NameServers.hasDefaultServers, hservers]; decide)
    have hnone : (base.domains.lookup defaultDomain).getD [] = [] := hservers
    have hfallbacks : d.fallbacks.foldl NameServers.addServer [] = d.fallbacks.eraseDups :=
      NameServers.foldl_addServer_eraseDups d.fallbacks []
    have hfilled : (base.extend defaultDomain d.fallbacks).forDomain? defaultDomain =
        some d.fallbacks.eraseDups := by
      rw [NameServers.forDomain?, NameServers.extend, NameServers.lookup_modifyDomain_self, hnone,
        hfallbacks]
    rw [hresult]
    exact ⟨fun h => absurd hservers h, fun _ => hfilled, NameServers.filter_modifyDomain _ _ _,
      NameServers.names_prefix_modifyDomain _ _ _⟩
  · have hresult : d.withFallbacks base = base :=
      if_pos (by rw [NameServers.hasDefaultServers, hservers]; rfl)
    rw [hresult]
    refine ⟨fun _ => rfl, fun h => ?_, rfl, List.prefix_rfl⟩
    rw [hservers] at h
    cases h

/-! ### A walk over candidates -/

theorem ofSearch_of_text (d : Discovery) (before : List String) (path text : String) :
    d.ofSearch ⟨before, some (path, .ok text)⟩ = ((ResolvConf.nameServers text).map
      d.withFallbacks).mapError (.resolvConf <| .malformed path ·) := by
  have htext : Search.text? ⟨before, some (path, .ok text)⟩ = pure (some (path, text)) := rfl
  rw [ofSearch, Search.nameServers?, htext, pure_bind]
  dsimp only
  cases ResolvConf.nameServers text <;> rfl

/-- Off Windows discovery takes one walk over the candidates. -/
theorem comes_discover (d : Discovery) (source : AdapterSource Session) (files : Files) :
    files.Comes (d.discover .other source) (d.ofSearch (files.search d.resolvConf))
      (files.search d.resolvConf).tried :=
  (files.comes_search d.resolvConf).bind_pure rfl

/-- The first candidate with a file is all that discovery off Windows learns of, whatever comes behind
it. -/
theorem observe_discover_of_first (fallbacks : List Socket) (source : AdapterSource Session)
    {files : Files} {before : List String} {path : String}
    (hbefore : ∀ p ∈ before, files.text p = .error .notFound)
    (hpath : files.text path ≠ .error .notFound) (after : List String) :
    files.observe (discover ⟨before ++ path :: after, fallbacks⟩ .other source) =
      (ofSearch ⟨before ++ path :: after, fallbacks⟩ ⟨before, some (path, files.text path)⟩,
        before ++ [path]) := by
  rw [(comes_discover _ source files).observe_eq, Files.search_of_first hbefore hpath]
  rfl

/-- What discovery makes of the answer of a source. -/
def ofAnswer (d : Discovery) : Except FetchError (List Adapter) → Except DiscoveryError NameServers
  | .error cause => .error (.fetch cause)
  | .ok adapters => .ok (d.withFallbacks (.ofAdapters adapters))

theorem adapterNameServers_eq {m : Type → Type} [Monad m] [LawfulMonad m] (d : Discovery)
    (source : AdapterSource m) :
    d.adapterNameServers source = d.ofAnswer <$> source .nameServers := by
  rw [adapterNameServers, map_eq_pure_bind]
  congr 1
  funext answer
  cases answer <;> rfl

/-- Off Windows no source plays a part. Where no candidate has a file, discovery starts from no server
at all. Otherwise the first candidate with a file decides, and nothing behind it is read: that it cannot
be read, or is malformed, is the error of discovery, and else its servers are what discovery starts from.
A source is asked once, for name servers; its error is the error of discovery, and else discovery starts
from the servers of its adapters. Fallbacks are added where discovery succeeds, by one rule. -/
theorem discover_outcome (d : Discovery) :
    (∀ {m : Type → Type} [Monad m] [FileAccess m] (source source' : AdapterSource m),
      d.discover .other source = d.discover .other source') ∧
    (∀ (files : Files) (source : AdapterSource Session),
      ((∀ p ∈ d.resolvConf, files.text p = .error .notFound) →
        ∃ result, files.observe (d.discover .other source) = (.ok result, d.resolvConf) ∧
          Completes d.fallbacks .empty result) ∧
      ∀ before path after, d.resolvConf = before ++ path :: after →
        (∀ p ∈ before, files.text p = .error .notFound) → files.text path ≠ .error .notFound →
        (∀ cause, files.text path = .error cause →
          files.observe (d.discover .other source) =
            (.error (.resolvConf (.unreadable path cause)), before ++ [path])) ∧
        (∀ text, files.text path = .ok text →
          (∀ e, ResolvConf.nameServers text = .error e →
            files.observe (d.discover .other source) =
              (.error (.resolvConf (.malformed path e)), before ++ [path])) ∧
          ∀ base, ResolvConf.nameServers text = .ok base →
            ∃ result, files.observe (d.discover .other source) = (.ok result, before ++ [path]) ∧
              Completes d.fallbacks base result) ∧
        ∀ (files' : Files) (after' : List String),
          (∀ p ∈ before ++ [path], files'.text p = files.text p) →
            files'.observe (discover ⟨before ++ path :: after', d.fallbacks⟩ .other source) =
              files.observe (d.discover .other source)) ∧
    ∃ conclude : Except FetchError (List Adapter) → Except DiscoveryError NameServers,
      (∀ {m : Type → Type} [Monad m] [LawfulMonad m] (source : AdapterSource m),
        d.adapterNameServers source = conclude <$> source .nameServers) ∧
      (∀ cause, conclude (.error cause) = .error (.fetch cause)) ∧
      ∀ adapters, ∃ result, conclude (.ok adapters) = .ok result ∧
        Completes d.fallbacks (.ofAdapters adapters) result := by
  refine ⟨fun _ _ => rfl, fun files source => ⟨fun hmissing => ?_, ?_⟩, d.ofAnswer,
    d.adapterNameServers_eq, fun _ => rfl, fun adapters => ⟨_, rfl, d.completes_withFallbacks _⟩⟩
  · rw [(d.comes_discover source files).observe_eq, Files.search_of_missing hmissing]
    exact ⟨_, by rw [Search.tried, Option.map_none, Option.toList_none, List.append_nil]; rfl,
      d.completes_withFallbacks _⟩
  obtain ⟨_, fallbacks⟩ := d
  rintro before path after rfl hbefore hpath
  rw [observe_discover_of_first fallbacks source hbefore hpath]
  refine ⟨fun cause hcause => ?_, fun text htext => ?_, fun files' after' hsame => ?_⟩
  · rw [hcause]
    rfl
  · rw [htext, ofSearch_of_text]
    refine ⟨fun e he => ?_, fun base hbase => ?_⟩
    · rw [he]
      rfl
    · rw [hbase]
      exact ⟨_, rfl, completes_withFallbacks _ base⟩
  · rw [List.forall_mem_append, List.forall_mem_singleton] at hsame
    obtain ⟨hsame, hsamePath⟩ := hsame
    have hbefore' : ∀ p ∈ before, files'.text p = .error .notFound := fun p hp =>
      (hsame p hp).trans (hbefore p hp)
    rw [observe_discover_of_first fallbacks source hbefore' (hsamePath ▸ hpath), hsamePath]
    rfl

-- A file for another domain only leaves the default one to the fallbacks, and ends the walk.
example : Files.observe
    ⟨fun path => if path = "b" then .ok "domain x\nnameserver 10.0.0.1" else .error .notFound⟩
    (discover ⟨["a", "b", "c"], [.v4 ⟨9, 9, 9, 9⟩ 53, .v4 ⟨9, 9, 9, 9⟩ 53]⟩ .other
      AdapterSource.unsupported) =
    (.ok ⟨[("x", [.v4 ⟨10, 0, 0, 1⟩ 53]), ("", [.v4 ⟨9, 9, 9, 9⟩ 53])]⟩, ["a", "b"]) := by
  rfl

end Discovery

end HostDns
