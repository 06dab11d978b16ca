import HostDns.Proofs.Address.RoundTrip
import Mathlib.Data.List.Count

/-!
What every spelling of an address looks like.

A reader takes characters of addresses only. A dotted address has three full stops and the groups of
an IPv6 address have none, and a dotted address may stand in one place of an IPv6 address only, so
whatever is read as an address has either no full stop or three of them.
-/

namespace HostDns

/-- Whether a text is one in front of a rest: characters of addresses, among them `dots` full stops. -/
def Takes (dots : Nat) (s rest : List Char) : Prop :=
  ∃ run, s = run ++ rest ∧ (∀ c ∈ run, isAddressChar c = true) ∧ run.count '.' = dots

namespace Takes

theorem refl (s : List Char) : Takes 0 s s := ⟨[], rfl, List.forall_mem_nil _, rfl⟩

theorem trans {m n : Nat} {s t rest : List Char} (h : Takes m s t) (h' : Takes n t rest) :
    Takes (m + n) s rest := by
  obtain ⟨run, rfl, hrun, hdots⟩ := h
  obtain ⟨run', rfl, hrun', hdots'⟩ := h'
  refine ⟨run ++ run', (List.append_assoc ..).symm, ?_, ?_⟩
  · exact List.forall_mem_append.mpr ⟨hrun, hrun'⟩
  · rw [List.count_append, hdots, hdots']

theorem expect {c : Char} {s rest : List Char} (h : HostDns.expect c s = some rest)
    (hc : isAddressChar c = true) : Takes ([c].count '.') s rest := by
  rcases s with _ | ⟨d, s⟩
  · cases h
  · rw [HostDns.expect, Option.ite_none_right_eq_some] at h
    obtain ⟨rfl, h⟩ := h
    cases h
    exact ⟨[d], rfl, List.forall_mem_singleton.mpr hc, rfl⟩

theorem colon {s rest : List Char} (h : HostDns.expect ':' s = some rest) : Takes 0 s rest :=
  expect h rfl

theorem dot {s rest : List Char} (h : HostDns.expect '.' s = some rest) : Takes 1 s rest :=
  expect h rfl

theorem digits {p : Char → Bool} (hp : ∀ c, p c = true → Ipv6.isHexDigit c = true)
    (s : List Char) : Takes 0 s (s.dropWhile p) := by
  have hrun : ∀ c ∈ s.takeWhile p, Ipv6.isHexDigit c = true := fun c hc =>
    hp c (List.mem_takeWhile_imp hc)
  refine ⟨s.takeWhile p, List.takeWhile_append_dropWhile.symm, fun c hc => ?_, ?_⟩
  · rw [isAddressChar, hrun c hc]
    rfl
  · exact List.count_eq_zero_of_not_mem fun hdot => absurd (hrun '.' hdot) (by decide)

end Takes

/-! ### Readers -/

theorem Ipv4.takes_of_readByte {s rest : List Char} {b : UInt8}
    (h : readByte s = some (b, rest)) : Takes 0 s rest := by
  rw [rest_of_readByte h]
  exact Takes.digits (fun _ => Ipv6.isHexDigit_of_isDigit) s

theorem Ipv4.takes_of_read {s rest : List Char} {address : Ipv4}
    (h : read s = some (address, rest)) : Takes 3 s rest := by
  simp only [read, Option.bind_eq_bind, Option.bind_eq_some_iff, Option.pure_def,
    Option.some.injEq, Prod.mk.injEq, Prod.exists] at h
  obtain ⟨_, s₁, ha, s₂, hdot, _, s₃, hb, s₄, hdot', _, s₅, hc, s₆, hdot'', _, _, hd, _, rfl⟩ := h
  have htwo := ((takes_of_readByte ha).trans (.dot hdot)).trans
    ((takes_of_readByte hb).trans (.dot hdot'))
  exact htwo.trans (((takes_of_readByte hc).trans (.dot hdot'')).trans (takes_of_readByte hd))

namespace Ipv6

theorem takes_of_readGroup {s rest : List Char} {g : UInt16}
    (h : readGroup s = some (g, rest)) : Takes 0 s rest := by
  simp only [readGroup, Option.bind_eq_bind, Option.bind_eq_some_iff, Option.pure_def,
    Option.some.injEq, Prod.mk.injEq] at h
  obtain ⟨_, _, _, rfl⟩ := h
  exact Takes.digits (fun _ => id) s

/-- Whether a series is taken from the front of a text: without a full stop, unless a dotted address
closes it. -/
def Series.TakenFrom (s : List Char) (series : Series) : Prop :=
  Takes (if series.dotted then 3 else 0) s series.rest

theorem takenFrom_nil (s : List Char) : Series.TakenFrom s ⟨[], false, s⟩ := Takes.refl s

/-- A series is taken from the front of the text that it is read from. -/
theorem takenFrom_readSeries (room : Nat) (first : Bool) (s : List Char) :
    (readSeries room first s).TakenFrom s := by
  induction room generalizing first s with
  | zero => exact takenFrom_nil s
  | succ room ih =>
    rw [readSeries]
    rcases hbody : (if first then some s else expect ':' s) with _ | body
    · exact takenFrom_nil s
    have hcolon : Takes 0 s body := by
      rcases first
      · exact Takes.colon hbody
      · cases hbody
        exact Takes.refl s
    dsimp only
    rcases hdotted : (if 0 < room then Ipv4.read body else none) with _ | ⟨inner, rest⟩
    · rcases hgroup : readGroup body with _ | ⟨g, rest⟩
      · exact takenFrom_nil s
      · have hmore := (hcolon.trans (takes_of_readGroup hgroup)).trans (ih false rest)
        rwa [Nat.zero_add] at hmore
    · rw [Option.ite_none_right_eq_some] at hdotted
      exact hcolon.trans (Ipv4.takes_of_read hdotted.2)

theorem Series.TakenFrom.takes {s : List Char} {series : Series} (h : series.TakenFrom s) :
    Takes 0 s series.rest ∨ Takes 3 s series.rest := by
  rw [TakenFrom] at h
  rcases hdotted : series.dotted <;> rw [hdotted] at h
  · exact Or.inl h
  · exact Or.inr h

/-- An IPv6 address is taken with no full stop or with three. -/
theorem takes_of_read {s rest : List Char} {address : Ipv6} (h : read s = some (address, rest)) :
    Takes 0 s rest ∨ Takes 3 s rest := by
  have hhead := takenFrom_readSeries 8 true s
  rw [read] at h
  dsimp only at h
  split at h
  · rw [Option.map_eq_some_iff] at h
    obtain ⟨_, _, h⟩ := h
    cases h
    exact hhead.takes
  split at h
  · cases h
  · next hdotted =>
    simp only [Option.bind_eq_bind, Option.bind_eq_some_iff, Option.pure_def, Option.some.injEq,
      Prod.mk.injEq] at h
    obtain ⟨_, hcolon, body, hcolon', _, _, _, rfl⟩ := h
    have hfront : Takes 0 s body := by
      rw [Series.TakenFrom, if_neg hdotted] at hhead
      exact (hhead.trans (.colon hcolon)).trans (.colon hcolon')
    rcases (takenFrom_readSeries _ true body).takes with htail | htail
    · exact Or.inl (hfront.trans htail)
    · exact Or.inr (hfront.trans htail)

end Ipv6

/-- An address is taken with no full stop or with three. -/
theorem Ip.takes_of_read {s rest : List Char} {ip : Ip} (h : Ip.read s = some (ip, rest)) :
    Takes 0 s rest ∨ Takes 3 s rest := by
  rw [Ip.read] at h
  rcases hv4 : Ipv4.read s with _ | ⟨address, rest'⟩
  · rw [hv4] at h
    simp only [Option.map_eq_some_iff, Prod.mk.injEq, Prod.exists] at h
    obtain ⟨address, _, hv6, _, rfl⟩ := h
    exact Ipv6.takes_of_read hv6
  · rw [hv4] at h
    cases h
    exact Or.inr (Ipv4.takes_of_read hv4)

/-! ### Whole texts -/

theorem PartReader.whole?_eq_some_iff {α : Type} {read : PartReader α} {s : List Char} {value : α} :
    whole? read s = some value ↔ read s = some (value, []) := by
  rw [whole?]
  rcases hread : read s with _ | ⟨value', _ | _⟩ <;> simp

/-- A text that is taken as a whole consists of characters of addresses. -/
theorem Takes.spelling {dots : Nat} {s : List Char} (h : Takes dots s []) :
    (∀ c ∈ s, isAddressChar c = true) ∧ s.count '.' = dots := by
  obtain ⟨run, rfl, hrun, hdots⟩ := h
  rw [List.append_nil]
  exact ⟨hrun, hdots⟩

/-- Whether a text looks like an address: it consists of characters of addresses, and it has no full
stop or three of them. -/
structure LooksLikeAddress (s : List Char) : Prop where
  addressChar : ∀ c ∈ s, isAddressChar c = true
  dots : s.count '.' = 0 ∨ s.count '.' = 3

/-- What is taken as an address as a whole looks like one. -/
theorem looksLikeAddress_of_takes {s : List Char} (h : Takes 0 s [] ∨ Takes 3 s []) :
    LooksLikeAddress s := by
  rcases h with h | h
  · exact ⟨h.spelling.1, Or.inl h.spelling.2⟩
  · exact ⟨h.spelling.1, Or.inr h.spelling.2⟩

theorem Ipv6.looksLikeAddress {s : List Char} {address : Ipv6} (h : ofChars? s = some address) :
    LooksLikeAddress s :=
  looksLikeAddress_of_takes (takes_of_read (PartReader.whole?_eq_some_iff.mp h))

/-- Every spelling of an address looks like an address. -/
theorem Ip.looksLikeAddress {s : List Char} {ip : Ip} (h : ofChars? s = some ip) :
    LooksLikeAddress s :=
  looksLikeAddress_of_takes (takes_of_read (PartReader.whole?_eq_some_iff.mp h))

end HostDns
