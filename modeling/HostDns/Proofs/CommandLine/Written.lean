import HostDns.CommandLine.Reader
import HostDns.Proofs.CommandLine.Given

/-!
Command lines that are written in long spellings, and that they are read back.

A word that spells a switch with its value attached is recorded at once, whatever the value looks like,
so that reading is running through the switches; nothing is ever pending. What has been read before a
word matters only for switches that may be given once.
-/

namespace HostDns

namespace Given

/-- The value that is written with a switch, if it takes one. -/
def attached? (g : Given) : Option String := if g.switch.takesValue then some g.value else none

/-- The word that spells a switch in full, with its value if it takes one. -/
def spelled (g : Given) : String :=
  "--" ++ g.switch.long ++ g.attached?.elim "" fun value => "=" ++ value

end Given

namespace Switch

theorem long_ne_nil (s : Switch) : s.long.toList ≠ [] ∧ '=' ∉ s.long.toList := by
  cases s <;> decide

theorem ofLong?_long {scope : Scope} {s : Switch} (h : s ∈ scope.switches) :
    scope.ofLong? s.long = some s := by
  rcases scope with _ | _ | _ | _ <;> revert s <;> decide

end Switch

/-- A word with two dashes is read as the name behind them, with the value that is attached to it. -/
theorem Word.ofString_of_toList {word : String} {name rest : List Char} (hne : name ≠ [])
    (hname : '=' ∉ name) (hrest : rest.takeWhile (· ≠ '=') = [])
    (h : word.toList = '-' :: '-' :: (name ++ rest)) :
    ofString word =
      .long (String.ofList name) (rest.head?.map fun _ => String.ofList rest.tail) := by
  have hall : ∀ c ∈ name, decide (c ≠ '=') = true := fun c hc =>
    decide_eq_true (ne_of_mem_of_not_mem hc hname)
  have htake : (name ++ rest).takeWhile (· ≠ '=') = name := by
    rw [List.takeWhile_append_of_pos hall, hrest, List.append_nil]
  rw [ofString, h]
  obtain ⟨c, tail, rfl⟩ := List.exists_cons_of_ne_nil hne
  simp only [List.cons_append] at htake ⊢
  rw [htake, ← List.cons_append, List.drop_left]
  cases rest <;> rfl

namespace Given

theorem toList_spelled (g : Given) : g.spelled.toList = '-' :: '-' :: (g.switch.long.toList ++
    g.attached?.elim [] fun value => '=' :: value.toList) := by
  rw [spelled]
  cases g.attached? <;> simp

/-- A word that spells a switch is read as the switch, with its value if it takes one. -/
theorem ofString_spelled (g : Given) :
    Word.ofString g.spelled = .long g.switch.long g.attached? := by
  obtain ⟨hne, hequals⟩ := g.switch.long_ne_nil
  have hstop : (g.attached?.elim [] fun value => '=' :: value.toList).takeWhile (· ≠ '=') = [] := by
    cases g.attached? <;> simp
  rw [Word.ofString_of_toList hne hequals hstop g.toList_spelled, String.ofList_toList]
  cases g.attached? with
  | none => rfl
  | some value => exact congrArg _ (congrArg some String.ofList_toList)

/-- A switch that can be recorded: no call for help, and with a value that it accepts. -/
def IsRecordable (g : Given) : Prop :=
  g.switch ≠ .help ∧ g.switch ≠ .version ∧ g.switch.argument.accepts g.value = true

end Given

namespace Progress

/-- Where some switches have been recorded and nothing is pending. -/
def recorded (gs : List Given) : Progress := ⟨gs, none, false⟩

theorem not_escaped_or_awaitsValue (gs : List Given) :
    ¬((recorded gs).escaped || (recorded gs).awaitsValue) = true :=
  Bool.false_ne_true

theorem record_recorded {gs : List Given} {g : Given} (hg : g.IsRecordable)
    (honce : g.switch.isRepeatable = true ∨ Given.has gs g.switch = false) :
    (recorded gs).record g.switch g.value = .ok (recorded (gs ++ [g])) := by
  obtain ⟨hhelp, hversion, haccepts⟩ := hg
  have hfresh : (!g.switch.isRepeatable && Given.has gs g.switch) = false := by
    rcases honce with h | h <;> simp [h]
  simp [record, recorded, hhelp, hversion, hfresh, haccepts]

/-- A switch is taken in with its value at once. -/
theorem take_recorded {gs : List Given} {g : Given} (hg : g.IsRecordable)
    (honce : g.switch.isRepeatable = true ∨ Given.has gs g.switch = false) :
    (recorded gs).take g.switch g.attached? = .ok (recorded (gs ++ [g])) := by
  have hrecord := record_recorded hg honce
  have hsettle : (recorded gs).settle = .ok (recorded gs) := rfl
  rw [Given.attached?]
  by_cases hvalue : g.switch.takesValue = true
  · rw [if_pos hvalue, take, hvalue]
    exact hrecord
  · have hnothing : g.switch.argument = .nothing := by simpa [Switch.takesValue] using hvalue
    have hempty : g.value = "" := by simpa [hnothing, Argument.accepts] using hg.2.2
    rw [if_neg hvalue, take, hsettle]
    simp only [bind, Except.bind, hvalue]
    rw [← hempty]
    exact hrecord

/-- A word that spells a switch is recorded as the switch. -/
theorem step_spelled {scope : Scope} {gs : List Given} {g : Given}
    (hscope : g.switch ∈ scope.switches) (hg : g.IsRecordable)
    (honce : g.switch.isRepeatable = true ∨ Given.has gs g.switch = false) :
    (recorded gs).step scope g.spelled = .ok (recorded (gs ++ [g])) := by
  rw [step, if_neg (show ¬(recorded gs).escaped = true from Bool.false_ne_true), g.ofString_spelled]
  simp only [Switch.ofLong?_long hscope]
  exact take_recorded hg honce

/-- Words that spell switches are recorded one after the other. -/
theorem foldlM_spelled {scope : Scope} : ∀ {gs hs : List Given},
    (∀ g ∈ hs, g.switch ∈ scope.switches ∧ g.IsRecordable) → Given.OnceEach (gs ++ hs) →
    (hs.map Given.spelled).foldlM (step scope) (recorded gs) = .ok (recorded (gs ++ hs))
  | gs, [], _, _ => by rw [List.append_nil]; rfl
  | gs, g :: hs, hall, honce => by
    obtain ⟨⟨hscope, hg⟩, hrest⟩ := List.forall_mem_cons.mp hall
    rw [List.map_cons, List.foldlM_cons, step_spelled hscope hg honce.fresh]
    rw [List.append_cons gs g hs] at honce ⊢
    exact foldlM_spelled hrest honce

end Progress

theorem CommandName.ofWord?_word (name : CommandName) :
    name.word ≠ "help" ∧ ofWord? name.word = some name := by
  cases name <;> decide

theorem Given.ofWord?_spelled (g : Given) :
    g.spelled ≠ "help" ∧ CommandName.ofWord? g.spelled = none := by
  have hne : ∀ word : String, word.toList.head? ≠ some '-' → word ≠ g.spelled := by
    rintro word hword rfl
    exact hword (by rw [g.toList_spelled]; rfl)
  refine ⟨(hne "help" (by decide)).symm, List.find?_eq_none.mpr fun name _ => ?_⟩
  have hname := hne name.word (by cases name <;> decide)
  simpa using hname

namespace CommandLine

/-- Words that spell switches of the program in front of a command are recorded before the words behind
the command are read. -/
theorem readFrom_spelled {name : CommandName} {behind : List String} : ∀ {gs hs : List Given},
    (∀ g ∈ hs, g.switch ∈ Scope.program.switches ∧ g.IsRecordable) → Given.OnceEach (gs ++ hs) →
    readFrom (.recorded gs) (hs.map Given.spelled ++ name.word :: behind) =
      (readOptions name behind).map (.ofGiven (gs ++ hs) name ·)
  | gs, [], _, _ => by
    obtain ⟨hhelp, hname⟩ := name.ofWord?_word
    rw [List.append_nil, List.map_nil, List.nil_append, readFrom,
      if_neg (Progress.not_escaped_or_awaitsValue gs), if_neg hhelp, hname]
    rfl
  | gs, g :: hs, hall, honce => by
    obtain ⟨⟨hscope, hg⟩, hrest⟩ := List.forall_mem_cons.mp hall
    obtain ⟨hhelp, hname⟩ := g.ofWord?_spelled
    rw [List.map_cons, List.cons_append, readFrom,
      if_neg (Progress.not_escaped_or_awaitsValue gs), if_neg hhelp, hname,
      Progress.step_spelled hscope hg honce.fresh]
    rw [List.append_cons gs g hs] at honce ⊢
    exact readFrom_spelled hrest honce

theorem readOptions_spelled {name : CommandName} {behind : List Given}
    (hall : ∀ g ∈ behind, g.switch ∈ (Scope.command name).switches ∧ g.IsRecordable)
    (honce : Given.OnceEach behind) :
    readOptions name (behind.map Given.spelled) = .ok behind := by
  have hrun : (behind.map Given.spelled).foldlM (Progress.step (.command name)) .start =
      .ok (.recorded ([] ++ behind)) := Progress.foldlM_spelled hall honce
  rw [readOptions, hrun]
  rfl

/-- The switches that a command line is made of can be recorded behind its command. -/
theorem recordable_of_mem_given {line : CommandLine} (h : line.HasPaths) : ∀ g ∈ line.given,
    g.switch ∈ (Scope.command line.command.name).switches ∧ g.IsRecordable := by
  intro g hg
  obtain ⟨entry, hentry, hswitch, hvalue⟩ := Given.exists_of_mem_ofEntries hg
  have hkey : g.switch ∈ line.entries.map Prod.fst := hswitch ▸ List.mem_map_of_mem hentry
  rw [map_fst_entries, List.mem_filter, decide_eq_true_eq] at hkey
  have hversion : .version ∉ (Scope.command line.command.name).switches := by
    cases line.command.name <;> decide
  refine ⟨hkey.1, hkey.2, ne_of_mem_of_not_mem hkey.1 hversion, ?_⟩
  rw [hswitch]
  exact acceptsAll_of_mem_entries h entry hentry g.value hvalue

/-- A command line is read back from the words for its switches, in any order that keeps the values of
repeatable switches in order, with those of the program itself before or behind the command. -/
theorem ofWords_spelled {line : CommandLine} (h : line.HasPaths) {before behind : List Given}
    (hbefore : ∀ g ∈ before, g.switch = .config ∨ g.switch = .verbose)
    (horder : Given.Reorders (before ++ behind) line.given) :
    ofWords (before.map Given.spelled ++ line.command.name.word :: behind.map Given.spelled) =
      .ok line := by
  have hall : ∀ g ∈ before ++ behind,
      g.switch ∈ (Scope.command line.command.name).switches ∧ g.IsRecordable := fun g hg =>
    recordable_of_mem_given h g (horder.1.mem_iff.mp hg)
  obtain ⟨honceBefore, honceBehind⟩ := (horder.onceEach line.onceEach_given).parts
  have hprogram : ∀ g ∈ before, g.switch ∈ Scope.program.switches ∧ g.IsRecordable := by
    intro g hg
    refine ⟨?_, (hall g (List.mem_append_left _ hg)).2⟩
    rcases hbefore g hg with hs | hs <;> rw [hs] <;> decide
  have hread : readFrom .start
      (before.map Given.spelled ++ line.command.name.word :: behind.map Given.spelled) =
      (readOptions line.command.name (behind.map Given.spelled)).map
        (.ofGiven ([] ++ before) line.command.name ·) := readFrom_spelled hprogram honceBefore
  rw [ofWords, hread, List.nil_append,
    readOptions_spelled (fun g hg => hall g (List.mem_append_right _ hg)) honceBehind]
  exact congrArg Except.ok (ofGiven_eq hbefore horder)

end CommandLine

end HostDns
