import HostDns.Proofs.CommandLine.Written

/-!
Switches that a command does not have.

A word with dashes is never a value of the word before it, so it gives a switch wherever it stands, or
cannot be read at all. Behind a command it is refused unless the command has the switch. A word without
dashes is read as a value exactly where the word before it lacks one, which tells the name of a command
from a value that looks like it.
-/

namespace HostDns

/-- Letters that share a dash come to a switch if all before its letter are those of switches without
values. -/
inductive Switch.Reached : List Char → Switch → (rest : List Char) → Prop
  | here {s : Switch} {letter : Char} {rest : List Char} (h : s.short? = some letter) :
      Reached (letter :: rest) s rest
  | behind {s t : Switch} {letter : Char} {letters rest : List Char} (h : t.short? = some letter)
      (hvalue : t.takesValue = false) (hrest : Reached letters s rest) :
      Reached (letter :: letters) s rest

/-- A word gives a switch, by its long spelling or by its letter. -/
def Switch.GivenBy (s : Switch) (word : String) : Prop :=
  (∃ attached, Word.ofString word = .long s.long attached) ∨
    ∃ letters rest, Word.ofString word = .short letters ∧ Reached letters s rest

/-- A word ends with a switch that takes a value, and has none attached. -/
def LacksValue (word : String) : Prop :=
  ∃ s : Switch, s.takesValue = true ∧ (Word.ofString word = .long s.long none ∨
    ∃ letters, Word.ofString word = .short letters ∧ Switch.Reached letters s [])

/-- Words name a command somewhere, and behind it give only switches that it has. -/
def CommandName.GivenOwn (name : CommandName) (words : List String) : Prop :=
  ∃ before behind, words = before ++ name.word :: behind ∧
    ∀ word ∈ behind, ∀ s : Switch, s.GivenBy word → s ∈ (Scope.command name).switches

namespace Switch

/-- The switches of all parts of a command line. -/
def all : List Switch := (.program :: CommandName.all.map Scope.command).flatMap Scope.switches

theorem mem_all (s : Switch) : s ∈ all := by cases s <;> decide

theorem long_inj {s t : Switch} (h : s.long = t.long) : s = t := by
  have hall : ∀ s ∈ all, ∀ t ∈ all, s.long = t.long → s = t := by decide
  exact hall s s.mem_all t t.mem_all h

theorem short?_inj {s t : Switch} {letter : Char} (hs : s.short? = some letter)
    (ht : t.short? = some letter) : s = t := by
  have hall : ∀ s ∈ all, ∀ t ∈ all, s.short?.isSome → s.short? = t.short? → s = t := by decide
  exact hall s s.mem_all t t.mem_all (by rw [hs]; rfl) (hs.trans ht.symm)

theorem ofLong?_eq_none {scope : Scope} {s : Switch} (h : s ∉ scope.switches) :
    scope.ofLong? s.long = none := by
  refine List.find?_eq_none.mpr fun t ht hlong => h ?_
  rwa [← long_inj (of_decide_eq_true hlong)]

theorem ofShort?_eq_none {scope : Scope} {s : Switch} {letter : Char} (h : s ∉ scope.switches)
    (hs : s.short? = some letter) : scope.ofShort? letter = none := by
  refine List.find?_eq_none.mpr fun t ht hletter => h ?_
  rwa [← short?_inj (of_decide_eq_true hletter) hs]

theorem short?_of_ofShort? {scope : Scope} {s : Switch} {letter : Char}
    (h : scope.ofShort? letter = some s) : s.short? = some letter := by
  rw [Scope.ofShort?] at h
  simpa using List.find?_some h

theorem long_of_ofLong? {scope : Scope} {s : Switch} {name : String}
    (h : scope.ofLong? name = some s) : s.long = name := by
  rw [Scope.ofLong?] at h
  simpa using List.find?_some h

end Switch

theorem exists_bind_eq_error_of_first {ε α β : Type} {x : Except ε α} {f : α → Except ε β}
    (h : ∃ e, x = .error e) : ∃ e, (x >>= f) = .error e := by
  obtain ⟨e, rfl⟩ := h
  exact ⟨e, rfl⟩

theorem exists_bind_eq_error_of_rest {ε α β : Type} {x : Except ε α} {f : α → Except ε β}
    (h : ∀ a, x = .ok a → ∃ e, f a = .error e) : ∃ e, (x >>= f) = .error e := by
  cases x with
  | error e => exact ⟨e, rfl⟩
  | ok a => exact h a rfl

/-- A reading that comes to something comes there from what it starts with. -/
theorem exists_of_bind_eq_ok {ε α β : Type} {x : Except ε α} {f : α → Except ε β} {b : β}
    (h : (x >>= f) = .ok b) : ∃ a, x = .ok a ∧ f a = .ok b := by
  cases x with
  | error e => cases h
  | ok a => exact ⟨a, rfl, h⟩

/-- A dash alone is no switch. -/
theorem Word.ne_nil_of_ofString {word : String} {letters : List Char}
    (h : ofString word = .short letters) : letters ≠ [] := by
  rintro rfl
  simp only [ofString] at h
  split at h
  · cases h
  · split at h <;> cases h
  · cases h
  · next hne _ => exact hne (Word.short.inj h)
  · cases h

namespace Progress

variable {p p' : Progress} {scope : Scope} {s : Switch} {word : String}

/-! ### Switches that may not stand in a part -/

/-- Letters that come to a switch which may not stand here are refused. -/
theorem exists_takeLetters_eq_error {letters rest : List Char} (h : Switch.Reached letters s rest)
    (hscope : s ∉ scope.switches) (p : Progress) (word : String) :
    ∃ cause, p.takeLetters scope word letters = .error cause := by
  induction h generalizing p with
  | here hs =>
    rw [takeLetters, Switch.ofShort?_eq_none hscope hs]
    exact ⟨_, rfl⟩
  | @behind s t letter letters rest ht hvalue hrest ih =>
    rw [takeLetters]
    rcases hfound : scope.ofShort? letter with _ | t'
    · exact ⟨_, rfl⟩
    · rw [Switch.short?_inj (Switch.short?_of_ofShort? hfound) ht]
      simp only [hvalue]
      exact exists_bind_eq_error_of_rest fun q _ => ih hscope q

/-- A word that gives a switch which may not stand here is refused. -/
theorem exists_step_eq_error (h : s.GivenBy word) (hscope : s ∉ scope.switches) (p : Progress) :
    ∃ cause, p.step scope word = .error cause := by
  rw [step]
  split
  · exact ⟨_, rfl⟩
  · rcases h with ⟨attached, hlong⟩ | ⟨letters, rest, hshort, hreached⟩
    · simp only [hlong, Switch.ofLong?_eq_none hscope]
      exact ⟨_, rfl⟩
    · simp only [hshort]
      exact exists_takeLetters_eq_error hreached hscope p word

theorem exists_foldlM_eq_error (h : s.GivenBy word) (hscope : s ∉ scope.switches) :
    ∀ {words : List String}, word ∈ words → ∀ p : Progress,
      ∃ cause, words.foldlM (step scope) p = .error cause
  | first :: words, hmem, p => by
    rw [List.foldlM_cons]
    rcases List.mem_cons.mp hmem with rfl | hmem
    · exact exists_bind_eq_error_of_first (exists_step_eq_error h hscope p)
    · exact exists_bind_eq_error_of_rest fun q _ => exists_foldlM_eq_error h hscope hmem q

/-! ### Words that are read as values -/

/-- The next word is read as a value if it has no dashes. -/
def AwaitsWord (p : Progress) : Prop := p.escaped = false ∧ p.awaitsValue = true

/-- A word without dashes is refused where no value is awaited. -/
theorem exists_step_plain_eq_error (hword : Word.ofString word = .plain) (hp : ¬p.AwaitsWord) :
    ∃ cause, p.step scope word = .error cause := by
  rw [step]
  split
  · exact ⟨_, rfl⟩
  · next hescaped =>
    simp only [hword]
    rcases hpending : p.pending with _ | ⟨s, _ | value⟩
    · exact ⟨_, rfl⟩
    · exact absurd ⟨Bool.eq_false_iff.mpr hescaped, by rw [awaitsValue, hpending]; rfl⟩ hp
    · exact ⟨_, rfl⟩

theorem eq_of_record {value : String} (h : p.record s value = .ok p') :
    p' = { p with given := p.given ++ [⟨s, value⟩] } := by
  rw [record] at h
  split_ifs at h
  exact (Except.ok.inj h).symm

theorem pending_of_settle (h : p.settle = .ok p') : p'.pending = none := by
  rw [settle] at h
  split at h
  · next hpending =>
    rw [← Except.ok.inj h, hpending]
  · cases h
  · rw [eq_of_record h]

/-- A value is awaited behind a switch only if it takes one and has none attached. -/
theorem of_take {attached : Option String} (h : p.take s attached = .ok p')
    (hp : p'.awaitsValue = true) : s.takesValue = true ∧ attached = none := by
  have hrecord : ∀ {q : Progress} {value : String}, p.settle = .ok q →
      q.record s value = .ok p' → False := by
    intro q value hq hrecord
    rw [eq_of_record hrecord, awaitsValue, pending_of_settle hq] at hp
    cases hp
  rcases attached with _ | value
  · obtain ⟨q, hq, h⟩ := exists_of_bind_eq_ok h
    split at h
    · next hvalue => exact ⟨hvalue, rfl⟩
    · exact (hrecord hq h).elim
  · rw [take] at h
    split at h
    · cases h
    · obtain ⟨q, hq, h⟩ := exists_of_bind_eq_ok h
      exact (hrecord hq h).elim

theorem eq_nil_of_attachedTo : ∀ {letters : List Char}, attachedTo letters = none → letters = []
  | [], _ => rfl
  | c :: letters, h => by
    rw [attachedTo.eq_def] at h
    split at h
    · assumption
    · cases h
    · cases h

/-- A value is awaited behind letters only if the last of them is that of a switch that takes one. -/
theorem of_takeLetters : ∀ {letters : List Char} {p : Progress}, letters ≠ [] →
    p.takeLetters scope word letters = .ok p' → p'.awaitsValue = true →
    ∃ s : Switch, s.takesValue = true ∧ Switch.Reached letters s []
  | letter :: rest, p, _, h, hp => by
    rw [takeLetters] at h
    split at h
    · cases h
    · next s hfound =>
      have hletter := Switch.short?_of_ofShort? hfound
      split at h
      · next hvalue =>
        have hrest : rest = [] := eq_nil_of_attachedTo (of_take h hp).2
        exact ⟨s, hvalue, hrest ▸ .here hletter⟩
      · next hvalue =>
        obtain ⟨q, hq, h⟩ := exists_of_bind_eq_ok h
        rcases rest with _ | ⟨next, rest⟩
        · rw [takeLetters, Except.ok.injEq] at h
          exact absurd (of_take hq (h ▸ hp)).1 hvalue
        · obtain ⟨t, ht, hreached⟩ := of_takeLetters (List.cons_ne_nil next rest) h hp
          exact ⟨t, ht, .behind hletter (Bool.eq_false_iff.mpr hvalue) hreached⟩

/-- A word is awaited only behind a word that lacks a value. -/
theorem lacksValue_of_step (h : p.step scope word = .ok p') (hp : p'.AwaitsWord) :
    LacksValue word := by
  obtain ⟨hescaped, hvalue⟩ := hp
  rw [step] at h
  split at h
  · cases h
  · split at h
    · next hword =>
      rw [← Except.ok.inj h] at hescaped
      cases hescaped
    · next name attached hword =>
      split at h
      · cases h
      · next s hfound =>
        obtain ⟨htakes, rfl⟩ := of_take h hvalue
        exact ⟨s, htakes, .inl (by rw [Switch.long_of_ofLong? hfound, hword])⟩
    · next letters hword =>
      obtain ⟨s, htakes, hreached⟩ := of_takeLetters (Word.ne_nil_of_ofString hword) h hvalue
      exact ⟨s, htakes, .inr ⟨letters, hword, hreached⟩⟩
    · next hword =>
      split at h
      · rw [← Except.ok.inj h] at hvalue
        cases hvalue
      · cases h

/-- No word is awaited behind some words that are still to be read: none is awaited if there are no such
words, and the last of them does not lack a value. -/
def AwaitsNoneBehind (p : Progress) (front : List String) : Prop :=
  (front = [] → ¬p.AwaitsWord) ∧ ∀ w ∈ front.getLast?, ¬LacksValue w

/-- Taking in the first of these words, none is awaited behind the rest. -/
theorem AwaitsNoneBehind.of_step {front : List String} (h : p.AwaitsNoneBehind (word :: front))
    (hstep : p.step scope word = .ok p') : p'.AwaitsNoneBehind front := by
  refine ⟨?_, fun w hw => h.2 w (List.mem_getLast?_cons hw)⟩
  rintro rfl hp
  exact h.2 word rfl (lacksValue_of_step hstep hp)

theorem AwaitsNoneBehind.start {front : List String} (h : p.AwaitsNoneBehind (word :: front)) :
    start.AwaitsNoneBehind front :=
  ⟨fun _ hstart => Bool.false_ne_true hstart.2, fun w hw => h.2 w (List.mem_getLast?_cons hw)⟩

/-- A word without dashes is refused behind words that await no value. -/
theorem exists_foldlM_plain_eq_error {behind : List String} (hword : Word.ofString word = .plain) :
    ∀ {front : List String} {p : Progress}, p.AwaitsNoneBehind front →
      ∃ cause, (front ++ word :: behind).foldlM (step scope) p = .error cause
  | [], p, hp => by
    rw [List.nil_append, List.foldlM_cons]
    exact exists_bind_eq_error_of_first (exists_step_plain_eq_error hword (hp.1 rfl))
  | w :: front, p, hp => by
    rw [List.cons_append, List.foldlM_cons]
    exact exists_bind_eq_error_of_rest fun q hq => exists_foldlM_plain_eq_error hword (hp.of_step hq)

end Progress

theorem CommandName.ofString_word (name : CommandName) : Word.ofString name.word = .plain := by
  cases name <;> decide

namespace CommandLine

theorem exists_readOptions_eq_error {name : CommandName} {words : List String}
    (h : ∃ cause, words.foldlM (Progress.step (.command name)) .start = .error cause) :
    ∃ cause, readOptions name words = .error cause := by
  rw [readOptions]
  exact exists_bind_eq_error_of_first h

/-- A command is refused a switch that it does not have. The words in front of it may name another
command, which then is refused the name of this one. -/
theorem exists_readFrom_eq_error {name : CommandName} {behind : List String} {word : String}
    {s : Switch} (hmem : word ∈ behind) (h : s.GivenBy word)
    (hscope : s ∉ (Scope.command name).switches) :
    ∀ {front : List String} {p : Progress}, p.AwaitsNoneBehind front →
      ∃ cause, readFrom p (front ++ name.word :: behind) = .error cause
  | [], p, hp => by
    obtain ⟨hhelp, hname⟩ := name.ofWord?_word
    rw [List.nil_append, readFrom]
    split
    · exact exists_bind_eq_error_of_first
        (Progress.exists_step_plain_eq_error name.ofString_word (hp.1 rfl))
    · rw [hname]
      exact exists_bind_eq_error_of_first
        (exists_readOptions_eq_error (Progress.exists_foldlM_eq_error h hscope hmem .start))
  | w :: front, p, hp => by
    have hrest : ∃ cause, (do readFrom (← p.step .program w) (front ++ name.word :: behind)) =
        Except.error cause :=
      exists_bind_eq_error_of_rest fun q hq => exists_readFrom_eq_error hmem h hscope (hp.of_step hq)
    rw [List.cons_append, readFrom]
    split_ifs with hvalue hhelp
    · exact hrest
    · exact ⟨_, rfl⟩
    · split
      · exact exists_bind_eq_error_of_first (exists_readOptions_eq_error
          (Progress.exists_foldlM_plain_eq_error name.ofString_word hp.start))
      · exact hrest

theorem name_ofGiven (before : List Given) (name : CommandName) (behind : List Given) :
    (ofGiven before name behind).command.name = name := by
  cases name <;> rfl

/-- Words that are read name the command, and behind it give only switches that it has. -/
theorem givenOwn_of_readFrom_eq_ok {line : CommandLine} : ∀ {words : List String} {p : Progress},
    readFrom p words = .ok line → line.command.name.GivenOwn words
  | [], p, h => by
    rw [readFrom] at h
    obtain ⟨q, -, h⟩ := exists_of_bind_eq_ok h
    cases h
  | w :: rest, p, h => by
    have hrest : (do readFrom (← p.step .program w) rest) = Except.ok line →
        line.command.name.GivenOwn (w :: rest) := by
      intro h
      obtain ⟨q, -, h⟩ := exists_of_bind_eq_ok h
      obtain ⟨before, behind, rfl, hbehind⟩ := givenOwn_of_readFrom_eq_ok h
      exact ⟨w :: before, behind, rfl, hbehind⟩
    rw [readFrom] at h
    split_ifs at h with hvalue hhelp
    · exact hrest h
    · split at h
      · next name hname =>
        obtain ⟨given, hgiven, h⟩ := exists_of_bind_eq_ok h
        obtain ⟨q, -, h⟩ := exists_of_bind_eq_ok h
        rw [CommandName.ofWord?] at hname
        have hw : name.word = w := by simpa using List.find?_some hname
        rw [← Except.ok.inj h, name_ofGiven]
        refine ⟨[], rest, by rw [hw]; rfl, fun word hmem s hs => ?_⟩
        by_contra hscope
        obtain ⟨cause, hcause⟩ :=
          exists_readOptions_eq_error (Progress.exists_foldlM_eq_error hs hscope hmem .start)
        cases hgiven.symm.trans hcause
      · exact hrest h

/-- Command lines are read as they are written. The words that spell each switch of a command line in full
are read back as that command line, in any order that keeps the values of repeatable switches in order,
with the switches of the program itself before or behind the command. Words that give a command a switch
which it does not have are no command line: none is read where such a word stands behind the command, and
where one is read, its command stands with no such word behind it. -/
theorem ofWords_reads_written :
    (∀ (line : CommandLine) (before behind : List Given), line.HasPaths →
      (∀ g ∈ before, g.switch = .config ∨ g.switch = .verbose) →
      Given.Reorders (before ++ behind) line.given →
      ofWords (before.map Given.spelled ++ line.command.name.word :: behind.map Given.spelled) =
        .ok line) ∧
    (∀ (name : CommandName) (before behind : List String) (s : Switch),
      (∀ w ∈ before.getLast?, ¬LacksValue w) → (∃ word ∈ behind, s.GivenBy word) →
      s ∉ (Scope.command name).switches →
      ∃ cause, ofWords (before ++ name.word :: behind) = .error cause) ∧
    ∀ (words : List String) (line : CommandLine), ofWords words = .ok line →
      line.command.name.GivenOwn words := by
  refine ⟨fun line before behind hpaths hbefore horder => ofWords_spelled hpaths hbefore horder, ?_,
    fun words line h => givenOwn_of_readFrom_eq_ok h⟩
  rintro name before behind s hlast ⟨word, hmem, hgiven⟩ hscope
  have hstart : Progress.start.AwaitsNoneBehind before :=
    ⟨fun _ hstart => Bool.false_ne_true hstart.2, hlast⟩
  exact exists_readFrom_eq_error hmem hgiven hscope hstart

/-- Values that look like switches, and options in another order; a switch of another command behind a
command whose name stands before as a value; and a switch that the command has. -/
theorem ofWords_reads_written_values :
    ofWords ["--config=x", "nameservers", "--fallback=", "--resolv-conf=--a=b", "--verbose",
        "--resolv-conf=-x", "--json", "--fallback==1", "--prefer=as-listed"] =
      .ok ⟨.nameServers ⟨true, some .asListed, ["--a=b", "-x"], ["", "=1"]⟩, some "x", true⟩ ∧
    (∃ cause, ofWords ["--config", "nameservers", "adapters", "--prefer=as-listed"] =
      .error cause) ∧
    CommandName.adapters.GivenOwn ["adapters", "--json"] := by
  obtain ⟨hread, hrefused, haccepted⟩ := ofWords_reads_written
  refine ⟨?_, ?_, haccepted ["adapters", "--json"] ⟨.adapters { json := true }, none, false⟩
    (by decide)⟩
  · refine hread ⟨.nameServers ⟨true, some .asListed, ["--a=b", "-x"], ["", "=1"]⟩, some "x", true⟩
      [⟨.config, "x"⟩] [⟨.fallback, ""⟩, ⟨.resolvConf, "--a=b"⟩, ⟨.verbose, ""⟩, ⟨.resolvConf, "-x"⟩,
        ⟨.json, ""⟩, ⟨.fallback, "=1"⟩, ⟨.prefer, "as-listed"⟩] ?_ ?_ ?_
    · exact ⟨by decide, show "" ∉ ["--a=b", "-x"] by decide⟩
    · decide
    · refine ⟨by decide, fun s _ => ?_⟩
      cases s <;> rfl
  · refine hrefused .adapters ["--config", "nameservers"] ["--prefer=as-listed"] .prefer ?_ ?_ ?_
    · rintro w hw ⟨s, -, h⟩
      have hplain : Word.ofString w = .plain := by
        rw [← Option.some.inj hw]
        decide
      rw [hplain] at h
      rcases h with h | ⟨_, h, _⟩ <;> cases h
    · exact ⟨_, List.mem_singleton_self _, .inl ⟨some "as-listed", by decide⟩⟩
    · decide

end CommandLine

end HostDns
