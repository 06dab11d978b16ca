import HostDns.Proofs.Adapter.Identifier
import HostDns.Proofs.Address.RoundTrip
import HostDns.Proofs.Text.Lines
import HostDns.Report

/-!
The listing of adapters for readers, block by block.

An adapter is shown by a heading and by fields, each of which has a line of its own that starts with a
label. None of these lines is empty, whatever the strings of the adapter are, so the empty lines between
adapters are the only ones, and the listing can be cut into its blocks again. Behind its heading a block
shows the lists of its adapter element by element.
-/

namespace HostDns

/-- Whether the strings of an adapter keep to one line each. -/
structure Adapter.OneLined (a : Adapter) : Prop where
  adapterName : Text.IsLine a.adapterName
  friendlyName : Text.IsLine a.friendlyName
  description : Text.IsLine a.description
  dnsSuffix : Text.IsLine a.dnsSuffix
  dnsSuffixes : ∀ suffix ∈ a.dnsSuffixes, Text.IsLine suffix

namespace Report

open Text (IsLine unlines endedLines)

/-! ### Fields and their labels -/

/-- Whether a line has a label. -/
def Labelled (label line : String) : Prop := ("  " ++ label ++ ":").toList <+: line.toList

instance (label line : String) : Decidable (Labelled label line) :=
  inferInstanceAs (Decidable (_ <+: _))

/-- The lines that have one of some labels. -/
def labelledLines (labels lines : List String) : List String :=
  lines.filter fun line => ∃ label ∈ labels, Labelled label line

/-- The lines of fields that are given by label, each label with its values. -/
def fieldLines (groups : List (String × List String)) : List String :=
  groups.flatMap fun group => group.2.map (field group.1)

theorem toList_field (label value : String) : ∃ rest,
    (field label value).toList = ' ' :: ' ' :: (label.toList ++ ':' :: rest) :=
  ⟨_, by
    simp only [field, String.toList_append]
    simp
    rfl⟩

/-- What a field shows in front of its value: its label and a colon, padded. -/
def lead (label : String) : String :=
  "  " ++ (label ++ ":") ++
    String.ofList (List.replicate (labelWidth - (label ++ ":").length) ' ') ++ " "

/-- A field ends with its value. -/
theorem field_eq (label : String) : field label = (lead label ++ ·) := rfl

/-- A field has its own label and no other one. -/
theorem labelled_field {label label' : String} (hlabel : ':' ∉ label.toList)
    (hlabel' : ':' ∉ label'.toList) (value : String) :
    Labelled label' (field label value) ↔ label' = label := by
  obtain ⟨rest, hfield⟩ := toList_field label value
  have hprefix : ("  " ++ label' ++ ":").toList = ' ' :: ' ' :: (label'.toList ++ [':']) := by simp
  rw [Labelled, hfield, hprefix, List.prefix_cons_inj, List.prefix_cons_inj]
  constructor
  · rintro ⟨more, hmore⟩
    rw [List.append_assoc, List.singleton_append] at hmore
    have hsplit := Text.splitFirst_append hlabel' more
    rw [hmore, Text.splitFirst_append hlabel rest, Option.some.injEq, Prod.mk.injEq] at hsplit
    exact String.toList_inj.mp hsplit.1.symm
  · rintro rfl
    exact ⟨rest, by simp⟩

/-- Fields with one label have one of some labels if theirs is among these. -/
theorem labelledLines_map_field {labels : List String} (hlabels : ∀ label ∈ labels, ':' ∉ label.toList)
    {label : String} (hlabel : ':' ∉ label.toList) (values : List String) :
    labelledLines labels (values.map (field label)) =
      if label ∈ labels then values.map (field label) else [] := by
  have hown : ∀ value, (∃ l ∈ labels, Labelled l (field label value)) ↔ label ∈ labels := by
    intro value
    constructor
    · rintro ⟨l, hmem, hl⟩
      exact (labelled_field hlabel (hlabels l hmem) value).mp hl ▸ hmem
    · intro hmem
      exact ⟨label, hmem, (labelled_field hlabel hlabel value).mpr rfl⟩
  rw [labelledLines, List.filter_map]
  simp only [Function.comp_def, hown]
  split <;> simp [*]

/-- The lines of fields that have one of some labels are those of the groups with these labels. -/
theorem labelledLines_fieldLines {labels : List String} (hlabels : ∀ label ∈ labels, ':' ∉ label.toList)
    {groups : List (String × List String)} (hgroups : ∀ group ∈ groups, ':' ∉ group.1.toList) :
    labelledLines labels (fieldLines groups) = fieldLines (groups.filter (·.1 ∈ labels)) := by
  induction groups with
  | nil => rfl
  | cons group groups ih =>
    obtain ⟨hgroup, hrest⟩ := List.forall_mem_cons.mp hgroups
    have hparts : labelledLines labels (fieldLines (group :: groups)) =
        labelledLines labels (group.2.map (field group.1)) ++
          labelledLines labels (fieldLines groups) := List.filter_append ..
    rw [hparts, labelledLines_map_field hlabels hgroup, ih hrest]
    by_cases hmem : group.1 ∈ labels
    · simp [hmem, fieldLines]
    · simp [hmem]

/-! ### The lines of an adapter -/

/-- The heading of an adapter. -/
def heading (a : Adapter) : String :=
  a.friendlyName ++ " (index " ++ toString a.ifIndex.toNat ++ ", " ++ a.kind.text ++ ", " ++
    a.operStatus.text ++ ")"

/-- A value, unless it is empty. -/
def unlessEmpty (value : String) : List String := if value = "" then [] else [value]

/-- The text of a unicast address: its IP address and the length of its prefix. -/
def unicastText (u : UnicastAddress) : String :=
  u.address.ip.text ++ "/" ++ toString u.onLinkPrefixLength.toNat

/-- What an adapter is shown by behind its heading: labels, each with the values under it. -/
def fieldsOf (a : Adapter) : List (String × List String) := [
  ("name", [a.adapterName]),
  ("description", [a.description]),
  ("mac", unlessEmpty (PhysicalAddress.text a.physicalAddress)),
  ("mtu", [toString a.mtu.toNat]),
  ("unicast", a.unicast.map unicastText),
  ("gateway", a.gateways.map (·.ip.text)),
  ("dns server", a.dnsServers.map (·.ip.text)),
  ("wins server", a.winsServers.map (·.ip.text)),
  ("dns suffix", unlessEmpty a.dnsSuffix),
  ("search", a.dnsSuffixes)]

theorem optionalField_eq (label value : String) :
    optionalField label value = (unlessEmpty value).map (field label) := by
  rw [optionalField, unlessEmpty]
  split <;> rfl

theorem adapterLines_eq (a : Adapter) : adapterLines a = heading a :: fieldLines (fieldsOf a) := by
  simp [adapterLines, heading, fieldLines, fieldsOf, optionalField_eq, unicastText,
    Function.comp_def]

/-! ### What a line may hold -/

theorem isLine_other (n : Nat) : IsLine ("Other(" ++ toString n ++ ")") := by
  have hopen : IsLine "Other(" := by decide
  have hclose : IsLine ")" := by decide
  exact (hopen.append (Text.isLine_toString n)).append hclose

theorem isLine_kind (kind : AdapterKind) : IsLine kind.text := by
  cases kind with
  | other n => exact isLine_other _
  | _ => decide

theorem isLine_operStatus (status : OperStatus) : IsLine status.text := by
  cases status with
  | other n => exact isLine_other _
  | _ => decide

theorem isLine_physicalAddress (address : PhysicalAddress) : IsLine address.text := by
  intro hmem
  rw [PhysicalAddress.text, String.toList_ofList] at hmem
  have hdigits : '\n' ∈ address.bytes.flatMap Text.hexByte := by
    rw [← PhysicalAddress.filter_intercalate]
    exact List.mem_filter.mpr ⟨hmem, by decide⟩
  obtain ⟨b, -, hb⟩ := List.mem_flatMap.mp hdigits
  cases Text.hexDigit?_isSome_of_mem_zeroPadded hb

theorem physicalAddress_text_eq_empty_iff (address : PhysicalAddress) :
    address.text = "" ↔ address.isEmpty = true := by
  have hdefault : PhysicalAddress.text default = "" := rfl
  rw [← hdefault, PhysicalAddress.text_inj, ← Octets.bytes_inj, Octets.isEmpty_iff]
  rfl

/-- A field keeps to one line if its label and its value do. -/
theorem isLine_field {label value : String} (hlabel : IsLine label) (hvalue : IsLine value) :
    IsLine (field label value) := by
  have hblank : IsLine "  " := by decide
  have hcolon : IsLine ":" := by decide
  have hpadding : ∀ n, IsLine (String.ofList (List.replicate n ' ')) := by
    intro n
    rw [IsLine, String.toList_ofList, List.mem_replicate]
    exact fun h => absurd h.2 (by decide)
  have hspace : IsLine " " := by decide
  exact (((hblank.append (hlabel.append hcolon)).append (hpadding _)).append hspace).append hvalue

theorem isLine_heading {a : Adapter} (h : a.OneLined) : IsLine (heading a) := by
  have hindex : IsLine " (index " := by decide
  have hcomma : IsLine ", " := by decide
  have hclose : IsLine ")" := by decide
  exact ((((((h.friendlyName.append hindex).append (Text.isLine_toString _)).append hcomma).append
    (isLine_kind _)).append hcomma).append (isLine_operStatus _)).append hclose

theorem isLine_of_mem_unlessEmpty {value s : String} (h : IsLine value) (hs : s ∈ unlessEmpty value) :
    IsLine s := by
  rw [unlessEmpty] at hs
  split at hs
  · cases hs
  · exact List.mem_singleton.mp hs ▸ h

/-- What an adapter is shown by keeps to one line. -/
theorem isLine_of_mem_fieldsOf {a : Adapter} (h : a.OneLined) : ∀ group ∈ fieldsOf a,
    IsLine group.1 ∧ ∀ value ∈ group.2, IsLine value := by
  have hip : ∀ sockets : List Socket, ∀ value ∈ sockets.map (·.ip.text), IsLine value := by
    rintro sockets _ hvalue
    obtain ⟨socket, -, rfl⟩ := List.mem_map.mp hvalue
    exact (Ip.isWord_chars socket.ip).isLine
  have hunicast : ∀ value ∈ a.unicast.map unicastText, IsLine value := by
    rintro _ hvalue
    obtain ⟨u, -, rfl⟩ := List.mem_map.mp hvalue
    have hslash : IsLine "/" := by decide
    exact ((Ip.isWord_chars u.address.ip).isLine.append hslash).append (Text.isLine_toString _)
  simp only [fieldsOf, List.forall_mem_cons]
  refine ⟨⟨by decide, h.adapterName, nofun⟩, ⟨by decide, h.description, nofun⟩,
    ⟨by decide, fun _ => isLine_of_mem_unlessEmpty (isLine_physicalAddress _)⟩,
    ⟨by decide, Text.isLine_toString _, nofun⟩, ⟨by decide, hunicast⟩, ⟨by decide, hip _⟩,
    ⟨by decide, hip _⟩, ⟨by decide, hip _⟩,
    ⟨by decide, fun _ => isLine_of_mem_unlessEmpty h.dnsSuffix⟩, ⟨by decide, h.dnsSuffixes⟩, nofun⟩

/-- The lines of an adapter keep to one line each. -/
theorem isLine_of_mem_adapterLines {a : Adapter} (h : a.OneLined) :
    ∀ line ∈ adapterLines a, IsLine line := by
  rw [adapterLines_eq]
  rintro line hline
  rcases List.mem_cons.mp hline with rfl | hline
  · exact isLine_heading h
  · obtain ⟨group, hgroup, hline⟩ := List.mem_flatMap.mp hline
    obtain ⟨value, hvalue, rfl⟩ := List.mem_map.mp hline
    obtain ⟨hlabel, hvalues⟩ := isLine_of_mem_fieldsOf h group hgroup
    exact isLine_field hlabel (hvalues value hvalue)

/-- No line of an adapter is empty, even where all its strings are. -/
theorem empty_not_mem_adapterLines (a : Adapter) : "" ∉ adapterLines a := by
  rw [adapterLines_eq, List.mem_cons, not_or]
  constructor
  · intro hempty
    have hchars := congrArg String.toList hempty
    simp [heading] at hchars
  · intro hempty
    obtain ⟨group, -, hline⟩ := List.mem_flatMap.mp hempty
    obtain ⟨value, -, hvalue⟩ := List.mem_map.mp hline
    obtain ⟨rest, hrest⟩ := toList_field group.1 value
    rw [hvalue] at hrest
    cases hrest

/-! ### Blocks -/

/-- The lines for the lists of an adapter, element by element. The labels are padded to one width. -/
def listLines (a : Adapter) : List String :=
  a.unicast.map (fun u => "  unicast:     " ++ unicastText u) ++
  a.gateways.map (fun s => "  gateway:     " ++ s.ip.text) ++
  a.dnsServers.map (fun s => "  dns server:  " ++ s.ip.text) ++
  a.winsServers.map (fun s => "  wins server: " ++ s.ip.text) ++
  a.dnsSuffixes.map (fun suffix => "  search:      " ++ suffix)

/-- Whether a block of lines shows an adapter. Behind the heading, which may read like anything, the
labels of its lists are on one line for each element, list by list; and there is a line for the hardware
address and for the suffix exactly where they are not empty. Every line ends with what it shows. -/
structure Shows (block : List String) (a : Adapter) : Prop where
  lists : labelledLines ["unicast", "gateway", "dns server", "wins server", "search"] block.tail =
    listLines a
  mac : labelledLines ["mac"] block.tail =
    if a.physicalAddress.isEmpty then [] else ["  mac:         " ++ a.physicalAddress.text]
  dnsSuffix : labelledLines ["dns suffix"] block.tail =
    if a.dnsSuffix = "" then [] else ["  dns suffix:  " ++ a.dnsSuffix]

/-- The lines of an adapter show it. -/
theorem shows_adapterLines (a : Adapter) : Shows (adapterLines a) a := by
  have hlabels : ∀ group ∈ fieldsOf a, ':' ∉ group.1.toList := by
    simp only [fieldsOf, List.forall_mem_cons]
    decide
  have htail : (adapterLines a).tail = fieldLines (fieldsOf a) := by
    rw [adapterLines_eq, List.tail_cons]
  refine ⟨?_, ?_, ?_⟩
  · have hunicast : lead "unicast" = "  unicast:     " := by decide
    have hgateway : lead "gateway" = "  gateway:     " := by decide
    have hdns : lead "dns server" = "  dns server:  " := by decide
    have hwins : lead "wins server" = "  wins server: " := by decide
    have hsearch : lead "search" = "  search:      " := by decide
    rw [htail, labelledLines_fieldLines (by decide) hlabels]
    simp [fieldLines, fieldsOf, listLines, field_eq, hunicast, hgateway, hdns, hwins, hsearch,
      Function.comp_def]
  · have hmac : lead "mac" = "  mac:         " := by decide
    rw [htail, labelledLines_fieldLines (by decide) hlabels]
    simp only [← physicalAddress_text_eq_empty_iff]
    by_cases h : a.physicalAddress.text = "" <;>
      simp [fieldLines, fieldsOf, unlessEmpty, field_eq, hmac, h]
  · have hsuffix : lead "dns suffix" = "  dns suffix:  " := by decide
    rw [htail, labelledLines_fieldLines (by decide) hlabels]
    by_cases h : a.dnsSuffix = "" <;>
      simp [fieldLines, fieldsOf, unlessEmpty, field_eq, hsuffix, h]

theorem adapters_eq_intercalate (list : List Adapter) :
    adapters false list = "\n".intercalate (list.map fun a => unlines (adapterLines a)) :=
  if_neg Bool.false_ne_true

/-- The listing of adapters has the lines of each, and an empty one between any two. -/
theorem adapters_eq_unlines (list : List Adapter) :
    adapters false list = unlines ([""].intercalate (list.map adapterLines)) := by
  rw [adapters_eq_intercalate, ← Text.intercalate_unlines, List.map_map, Function.comp_def]

theorem adapters_singleton (a : Adapter) : adapters false [a] = unlines (adapterLines a) := by
  rw [adapters_eq_intercalate, List.map_singleton, String.intercalate_singleton]

/-- The listing of adapters keeps them apart and shows each as a whole. What is listed behind other
adapters is listed as it is alone, behind one empty line. Where the strings of the adapters keep to one
line each, the listing has one empty line less than adapters, and is cut at the empty lines into the
listings of the adapters one by one, each of which shows its own. -/
theorem adapters_in_blocks :
    (∀ xs ys, xs ≠ [] → ys ≠ [] →
      adapters false (xs ++ ys) = adapters false xs ++ "\n" ++ adapters false ys) ∧
    ∀ list, list ≠ [] → (∀ a ∈ list, a.OneLined) →
      let lines := endedLines (adapters false list)
      adapters false list = unlines lines ∧
      lines.count "" = list.length - 1 ∧
      (lines.splitOn "").map unlines = list.map (fun a => adapters false [a]) ∧
      List.Forall₂ Shows (lines.splitOn "") list := by
  constructor
  · intro xs ys hxs hys
    simp only [adapters_eq_intercalate, List.map_append]
    exact String.intercalate_append_of_ne_nil (mt List.map_eq_nil_iff.mp hxs)
      (mt List.map_eq_nil_iff.mp hys)
  · intro list hne hlist lines
    have hlines : lines = [""].intercalate (list.map adapterLines) := by
      refine (congrArg endedLines (adapters_eq_unlines list)).trans (Text.endedLines_unlines ?_)
      refine Text.isLine_of_mem_intercalate (List.forall_mem_map.mpr fun a ha => ?_)
      exact isLine_of_mem_adapterLines (hlist a ha)
    have hempty : ∀ block ∈ list.map adapterLines, "" ∉ block :=
      List.forall_mem_map.mpr fun a _ => empty_not_mem_adapterLines a
    have hsplit : lines.splitOn "" = list.map adapterLines := by
      rw [hlines]
      exact List.splitOn_intercalate "" hempty (mt List.map_eq_nil_iff.mp hne)
    refine ⟨?_, ?_, ?_, ?_⟩
    · rw [hlines]
      exact adapters_eq_unlines list
    · rw [hlines, Text.count_intercalate_empty hempty, List.length_map]
    · simp only [hsplit, List.map_map, Function.comp_def, adapters_singleton]
    · rw [hsplit, List.forall₂_map_left_iff, List.forall₂_same]
      exact fun a _ => shows_adapterLines a

/-- One adapter has empty strings and lists only, the other one a name that reads like a field, and
addresses that are shown. -/
theorem adapters_in_blocks_bare :
    let bare := Adapter.named 1 "" .ethernet
    let named := { Adapter.named 2 "  gateway:     ::1" .virtual with
      unicast := [{ address := .v4 ⟨192, 168, 0, 2⟩ 0, onLinkPrefixLength := 24 }],
      gateways := [.v4 ⟨10, 0, 0, 1⟩ 0], dnsSuffixes := ["corp", ""] }
    let blocks := (endedLines (adapters false [bare, named])).splitOn ""
    ([bare] ≠ [] ∧ [named] ≠ [] ∧ adapters false ([bare] ++ [named]) =
      adapters false [bare] ++ "\n" ++ adapters false [named]) ∧
    (∀ a ∈ [bare, named], a.OneLined) ∧ List.Forall₂ Shows blocks [bare, named] ∧
    ∃ first second, blocks = [first, second] ∧
      labelledLines ["unicast", "gateway", "dns server", "wins server", "search"] second.tail =
        ["  unicast:     192.168.0.2/24", "  gateway:     10.0.0.1", "  search:      corp",
          "  search:      "] := by
  intro bare named blocks
  have hbare : bare.OneLined := ⟨by decide, by decide, by decide, by decide, by decide⟩
  have hnamed : named.OneLined := ⟨by decide, by decide, by decide, by decide, by decide⟩
  have hall : ∀ a ∈ [bare, named], a.OneLined :=
    List.forall_mem_cons.mpr ⟨hbare, List.forall_mem_singleton.mpr hnamed⟩
  have hne : [bare] ≠ [] ∧ [named] ≠ [] := ⟨List.cons_ne_nil _ _, List.cons_ne_nil _ _⟩
  have hshows : List.Forall₂ Shows blocks [bare, named] :=
    (adapters_in_blocks.2 _ (List.cons_ne_nil _ _) hall).2.2.2
  refine ⟨⟨hne.1, hne.2, adapters_in_blocks.1 _ _ hne.1 hne.2⟩, hall, hshows, ?_⟩
  obtain ⟨first, rest, -, hrest, hblocks⟩ := List.forall₂_cons_right_iff.mp hshows
  obtain ⟨second, rest, hsecond, hnil, rfl⟩ := List.forall₂_cons_right_iff.mp hrest
  obtain rfl := List.forall₂_nil_right_iff.mp hnil
  exact ⟨first, second, hblocks, hsecond.lists⟩

example : adapters false [Adapter.named 1 "lo" .loopback, Adapter.named 2 "" .virtual] =
    "lo (index 1, Loopback, Up)\n  name:        \n  description: \n  mtu:         0\n" ++ "\n" ++
      " (index 2, Virtual, Up)\n  name:        \n  description: \n  mtu:         0\n" := by rfl

end Report

end HostDns
