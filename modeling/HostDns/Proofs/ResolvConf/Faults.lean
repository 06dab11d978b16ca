import HostDns.Proofs.ResolvConf.Search
import HostDns.Proofs.ResolvConf.Servers
import HostDns.Proofs.Text.Blank

/-!
Which line of a resolver configuration is reported as malformed.

Only a line that starts with a keyword can have a fault, and whether it has one shows on the line
alone: the port that holds there changes the server that a value names, but not whether it names one.
Reading stops at the first line with a fault, so lines behind it play no part, and the error of a text
is the error of the file that it was read from.
-/

namespace HostDns.ResolvConf

/-- The socket that a value names where `current` is the port of servers that give none. -/
def socketOf? (current : UInt16) (value : List Char) : Option Socket :=
  (Listed.ofValue? value).map (·.socket current)

/-- What is wrong with a line where `port` is the port of servers that give none. -/
inductive HasFault (port : UInt16) (line : List Char) : Fault → Prop
  | missingValue (k : Keyword) (hline : Text.tokens line = [k.token.toList]) :
    HasFault port line (.missingValue k)
  | invalidAddress (value : List Char) (hvalue : valueOf .nameServer line = some value)
      (hnone : socketOf? port value = none) :
    HasFault port line (.invalidAddress (String.ofList value))
  | invalidPort (value : List Char) (hvalue : valueOf .port line = some value)
      (hnone : Text.natural? 65536 value = none) :
    HasFault port line (.invalidPort (String.ofList value))

/-- Whether something is wrong with a line. -/
def Faulty (port : UInt16) (line : List Char) : Prop := ∃ fault, HasFault port line fault

/-! ### One line -/

/-- A fault does not depend on the port that holds where the line stands. -/
theorem HasFault.of_port {port : UInt16} {line : List Char} {fault : Fault}
    (h : HasFault port line fault) (port' : UInt16) : HasFault port' line fault := by
  rcases h with ⟨k, hline⟩ | ⟨value, hvalue, hnone⟩ | ⟨value, hvalue, hnone⟩
  · exact .missingValue k hline
  · rw [socketOf?, Option.map_eq_none_iff] at hnone
    exact .invalidAddress value hvalue (by rw [socketOf?, hnone]; rfl)
  · exact .invalidPort value hvalue hnone

/-- Only a line that starts with a keyword has a fault. -/
theorem HasFault.head {port : UInt16} {line : List Char} {fault : Fault}
    (h : HasFault port line fault) :
    ∃ k : Keyword, (Text.tokens line).head? = some k.token.toList := by
  cases h with
  | missingValue k hline => exact ⟨k, by rw [hline]; rfl⟩
  | invalidAddress value hvalue _ =>
    obtain ⟨rest, htokens⟩ := valueOf_eq_some_iff.mp hvalue
    exact ⟨.nameServer, by rw [htokens]; rfl⟩
  | invalidPort value hvalue _ =>
    obtain ⟨rest, htokens⟩ := valueOf_eq_some_iff.mp hvalue
    exact ⟨.port, by rw [htokens]; rfl⟩

/-- A value that is refused is a fault of the line that gives it. -/
theorem hasFault_of_ofValue (port : UInt16) {line : List Char} {k : Keyword} {value : List Char}
    {fault : Fault} (hvalue : valueOf k line = some value)
    (h : Directive.ofValue k value = .error fault) : HasFault port line fault := by
  cases k with
  | nameServer =>
    rw [Directive.ofValue] at h
    rcases hl : Listed.ofValue? value with _ | l <;> rw [hl] at h <;> cases h
    exact .invalidAddress value hvalue (by rw [socketOf?, hl]; rfl)
  | port =>
    rw [Directive.ofValue] at h
    rcases hn : Text.natural? 65536 value with _ | n <;> rw [hn] at h <;> cases h
    exact .invalidPort value hvalue hn
  | domain => cases h

/-- A line is refused for the fault that it has. -/
theorem ofLine_eq_error_iff {port : UInt16} {line : List Char} {fault : Fault} :
    Directive.ofLine line = .error fault ↔ HasFault port line fault := by
  rw [Directive.ofLine]
  constructor
  · intro h
    rcases htokens : Text.tokens line with _ | ⟨first, rest⟩
    · rw [htokens] at h; cases h
    rcases hk : Keyword.ofToken? first with _ | k
    · rw [htokens, Directive.ofTokens, hk, ite_self] at h; cases h
    · obtain rfl := Keyword.ofToken?_eq_some_iff.mp hk
      rw [htokens, ofTokens_keyword] at h
      rcases rest with _ | ⟨value, rest⟩
      · cases h; exact .missingValue k htokens
      · exact hasFault_of_ofValue port (valueOf_eq_some_iff.mpr ⟨rest, htokens⟩) h
  · rintro (⟨k, hline⟩ | ⟨value, hvalue, hnone⟩ | ⟨value, hvalue, hnone⟩)
    · rw [hline, ofTokens_keyword]
    · obtain ⟨rest, htokens⟩ := valueOf_eq_some_iff.mp hvalue
      rw [socketOf?, Option.map_eq_none_iff] at hnone
      rw [htokens, ofTokens_keyword]
      simp only [Directive.ofValue, hnone]
    · obtain ⟨rest, htokens⟩ := valueOf_eq_some_iff.mp hvalue
      rw [htokens, ofTokens_keyword]
      simp only [Directive.ofValue, hnone]

theorem exists_ofLine_eq_ok_iff {port : UInt16} {line : List Char} :
    (∃ d, Directive.ofLine line = .ok d) ↔ ¬ Faulty port line := by
  rw [Faulty]
  simp only [← ofLine_eq_error_iff]
  cases Directive.ofLine line <;> simp

/-! ### Reading line after line -/

/-- Reading fails at a line with a fault where the lines before have none. -/
theorem readLines_of_fault {port : UInt16} {before : List (List Char)} {line : List Char}
    {fault : Fault} (after : List (List Char)) (hbefore : ∀ l ∈ before, ¬ Faulty port l)
    (hline : HasFault port line fault) : ∀ (r : Reading) (n : Nat),
      readLines r n (before ++ line :: after) = .error ⟨n + before.length, fault⟩ := by
  induction before with
  | nil =>
    intro r n
    rw [List.nil_append, readLines, ofLine_eq_error_iff.mpr hline]
    rfl
  | cons l before ih =>
    intro r n
    obtain ⟨hl, hbefore⟩ := List.forall_mem_cons.mp hbefore
    obtain ⟨d, hd⟩ := exists_ofLine_eq_ok_iff.mpr hl
    rw [List.cons_append, readLines, hd, List.length_cons, Nat.add_comm before.length,
      ← Nat.add_assoc]
    exact ih hbefore _ _

/-- Where reading fails, there is a first line with a fault. -/
theorem exists_first_fault (port : UInt16) {ls : List (List Char)} {e : Malformed} :
    ∀ {r : Reading} {n : Nat}, readLines r n ls = .error e → ∃ before line after,
      ls = before ++ line :: after ∧ (∀ l ∈ before, ¬ Faulty port l) ∧
        HasFault port line e.fault ∧ e.line = n + before.length := by
  induction ls with
  | nil => exact fun h => by cases h
  | cons l ls ih =>
    intro r n h
    rw [readLines] at h
    rcases hline : Directive.ofLine l with fault | d
    · rw [hline] at h
      cases h
      exact ⟨[], l, ls, rfl, List.forall_mem_nil _, ofLine_eq_error_iff.mp hline, rfl⟩
    · rw [hline] at h
      obtain ⟨before, line, after, rfl, hbefore, hfault, hnumber⟩ := ih h
      have hl : ¬ Faulty port l := exists_ofLine_eq_ok_iff.mp ⟨d, hline⟩
      refine ⟨l :: before, line, after, rfl, List.forall_mem_cons.mpr ⟨hl, hbefore⟩, hfault, ?_⟩
      rw [hnumber, List.length_cons, Nat.add_assoc, Nat.add_comm 1]

/-- Reading fails exactly at the first line with a fault. -/
theorem readLines_eq_error_iff (port : UInt16) {ls : List (List Char)} {e : Malformed}
    {r : Reading} {n : Nat} : readLines r n ls = .error e ↔ ∃ before line after,
      ls = before ++ line :: after ∧ (∀ l ∈ before, ¬ Faulty port l) ∧
        HasFault port line e.fault ∧ e.line = n + before.length := by
  constructor
  · exact exists_first_fault port
  · rintro ⟨before, line, after, rfl, hbefore, hline, hnumber⟩
    rw [readLines_of_fault after hbefore hline, ← hnumber]

/-- Reading fails if some line has a fault. -/
theorem exists_readLines_eq_error_iff (port : UInt16) {ls : List (List Char)} :
    ∀ {r : Reading} {n : Nat}, (∃ e, readLines r n ls = .error e) ↔ ∃ l ∈ ls, Faulty port l := by
  induction ls with
  | nil => simp [readLines]
  | cons l ls ih =>
    intro r n
    rw [readLines, List.exists_mem_cons_iff]
    rcases hline : Directive.ofLine l with fault | d
    · have hfaulty : Faulty port l := ⟨fault, ofLine_eq_error_iff.mp hline⟩
      simp [hfaulty]
    · have hsound : ¬ Faulty port l := exists_ofLine_eq_ok_iff.mp ⟨d, hline⟩
      simp only [ih, hsound, false_or]

/-- Reading goes on behind lines that were read. -/
theorem readLines_append (ls more : List (List Char)) : ∀ (r : Reading) (n : Nat),
    readLines r n (ls ++ more) =
      (readLines r n ls).bind fun r' => readLines r' (n + ls.length) more := by
  induction ls with
  | nil => intro r n; rfl
  | cons l ls ih =>
    intro r n
    rw [List.cons_append, readLines, readLines]
    cases Directive.ofLine l with
    | error fault => rfl
    | ok d =>
      simp only [ih]
      rw [List.length_cons, Nat.add_right_comm, Nat.add_assoc]

/-- Lines with the same tokens are read the same. -/
theorem readLines_congr {ls ls' : List (List Char)}
    (h : List.Forall₂ (fun l l' => Text.tokens l = Text.tokens l') ls ls') :
    ∀ (r : Reading) (n : Nat), readLines r n ls = readLines r n ls' := by
  induction h with
  | nil => intro r n; rfl
  | cons hl _ ih =>
    intro r n
    rw [readLines, readLines, Directive.ofLine, Directive.ofLine, hl]
    simp only [ih]

/-- The lines of a text are read before what follows behind a line feed. -/
theorem readLines_append_newline (s after : List Char) : ∃ more, ∀ (r : Reading) (n : Nat),
    readLines r n (Text.lines (s ++ '\n' :: after)) =
      (readLines r n (Text.lines s)).bind fun r' =>
        readLines r' (n + (Text.lines s).length) more := by
  obtain ⟨ls, more, hlines, hsame⟩ := Text.exists_lines_append_newline after s
  have htokens : List.Forall₂ (fun l l' => Text.tokens l = Text.tokens l') (Text.lines s) ls := by
    refine hsame.imp fun l l' h => ?_
    rcases h with rfl | rfl
    · rfl
    · exact Text.tokens_concat_blank (by decide) l'
  refine ⟨more, fun r n => ?_⟩
  rw [hlines, readLines_append, readLines_congr htokens, htokens.length_eq]

theorem nameServers_eq_error_iff {text : String} {e : Malformed} :
    nameServers text = .error e ↔ readLines .start 1 (Text.lines text.toList) = .error e := by
  rw [nameServers]
  cases readLines .start 1 (Text.lines text.toList) <;> simp [Except.map]

/-- What follows behind a line feed changes no error of the lines before, and adds none to them. -/
theorem nameServers_append_eq_error_iff (text after : String) (e : Malformed) :
    nameServers text = .error e ↔ nameServers (text ++ "\n" ++ after) = .error e ∧
      e.line ≤ (Text.lines text.toList).length := by
  obtain ⟨more, hread⟩ := readLines_append_newline text.toList after.toList
  have htext : (text ++ "\n" ++ after).toList = text.toList ++ '\n' :: after.toList := by simp
  rw [nameServers_eq_error_iff, nameServers_eq_error_iff, htext, hread]
  rcases hls : readLines .start 1 (Text.lines text.toList) with e' | r
  · obtain ⟨before, line, rest, hlines, -, -, hnumber⟩ := exists_first_fault dnsPort hls
    have hle : e'.line ≤ (Text.lines text.toList).length := by
      rw [hlines, hnumber, List.length_append, List.length_cons]
      omega
    constructor
    · intro h
      cases h
      exact ⟨rfl, hle⟩
    · exact fun h => h.1
  · constructor
    · intro h; cases h
    · rintro ⟨h, hle⟩
      obtain ⟨before, _, _, _, _, _, hnumber⟩ := exists_first_fault dnsPort h
      omega

/-- Loading fails with the error of a text exactly if the first path with a file has that text. -/
theorem search_nameServers?_eq_malformed_iff {files : Files} {paths : List String} {path : String}
    {e : Malformed} : (files.search paths).nameServers? = .error (.malformed path e) ↔
      ∃ text before after, paths = before ++ path :: after ∧
        (∀ p ∈ before, files.text p = .error .notFound) ∧ files.text path = .ok text ∧
          nameServers text = .error e := by
  rw [Search.nameServers?_eq_malformed_iff]
  simp only [Files.search_found_eq_some_iff]
  constructor
  · rintro ⟨text, ⟨htext, -, before, after, hpaths, hbefore⟩, herror⟩
    exact ⟨text, before, after, hpaths, hbefore, htext, herror⟩
  · rintro ⟨text, before, after, hpaths, hbefore, htext, herror⟩
    exact ⟨text, ⟨htext, fun h => (by cases h), before, after, hpaths, hbefore⟩, herror⟩

/-- The error of a text is the fault of its first faulty line with the number of that line. Only lines
that start with a keyword are faulty, whatever port holds there. What follows behind the line plays no
part, and loading passes the error on with the path of the file that was read. -/
theorem nameServers_reports_first_fault (text : String) (port : UInt16) :
    (∀ port' line fault, HasFault port line fault ↔ HasFault port' line fault) ∧
      (∀ line, Faulty port line → ∃ k : Keyword,
        (Text.tokens line).head? = some k.token.toList) ∧
      ((∃ e, nameServers text = .error e) ↔ ∃ line ∈ Text.lines text.toList, Faulty port line) ∧
      (∀ e, nameServers text = .error e ↔ ∃ before line after,
        Text.lines text.toList = before ++ line :: after ∧ (∀ l ∈ before, ¬ Faulty port l) ∧
          HasFault port line e.fault ∧ e.line = before.length + 1) ∧
      (∀ e after, nameServers text = .error e ↔
        nameServers (text ++ "\n" ++ after) = .error e ∧
          e.line ≤ (Text.lines text.toList).length) ∧
      ∀ (files : Files) (paths : List String) (path : String) (e : Malformed),
        (files.search paths).nameServers? = .error (.malformed path e) ↔
          ∃ text before after, paths = before ++ path :: after ∧
            (∀ p ∈ before, files.text p = .error .notFound) ∧ files.text path = .ok text ∧
              nameServers text = .error e := by
  refine ⟨fun port' _ _ => ⟨fun h => h.of_port port', fun h => h.of_port port⟩,
    fun line ⟨fault, h⟩ => h.head, ?_, ?_,
    fun e after => nameServers_append_eq_error_iff text after e,
    fun _ _ _ _ => search_nameServers?_eq_malformed_iff⟩
  · simp only [nameServers_eq_error_iff]
    exact exists_readLines_eq_error_iff port
  · intro e
    rw [nameServers_eq_error_iff, readLines_eq_error_iff port]
    simp only [Nat.add_comm 1]

example : nameServers "port 9\r\n\n # domain\nnameserver ::1.65536 x\nport" =
    .error ⟨4, .invalidAddress "::1.65536"⟩ := by
  rfl

end HostDns.ResolvConf
