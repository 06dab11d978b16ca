import HostDns.Adapter.Identifier
import HostDns.Proofs.Text.Numeral

/-!
Identifiers are told apart by their texts.

Each text is made of hexadecimal numerals of a fixed width, so it can be cut into them again. The
separators stand where the widths say, or may be dropped, since no numeral has them.
-/

namespace HostDns

namespace Octets

variable {capacity : UInt8}

/-- A byte of the buffer is one of the bytes in use, or zero. -/
theorem getElem_buffer (o : Octets capacity) {i : Nat} (hi : i < capacity.toNat) :
    o.buffer[i] = o.bytes[i]?.getD 0 := by
  by_cases h : i < o.used.toNat
  · simp [bytes, h, hi]
  · rw [o.clear i hi (Nat.le_of_not_lt h), List.getElem?_eq_none (by rw [length_bytes]; omega),
      Option.getD_none]

/-- Buffers are told apart by their bytes in use. -/
theorem bytes_inj {o p : Octets capacity} : o.bytes = p.bytes ↔ o = p := by
  refine ⟨fun h => ?_, fun h => by rw [h]⟩
  have hused : o.used = p.used := by
    rw [← UInt8.toNat_inj, ← length_bytes, h, length_bytes]
  have hbuffer : o.buffer = p.buffer := Vector.ext fun i hi => by
    rw [getElem_buffer o hi, h, getElem_buffer p hi]
  cases o
  cases p
  simp only at hused hbuffer
  simp only [hused, hbuffer]

@[simp]
theorem ofBytes_bytes (o : Octets capacity) : ofBytes o.bytes = o :=
  bytes_inj.mp (by rw [bytes_ofBytes, List.take_of_length_le o.length_bytes_le])

end Octets

theorem AdapterFlags.bits_inj {f g : AdapterFlags} : f.bits = g.bits ↔ f = g := by
  cases f
  cases g
  simp

theorem Luid.value_inj {l l' : Luid} : l.value = l'.value ↔ l = l' := by
  cases l
  cases l'
  simp

theorem flatMap_hexByte_inj {bytes bytes' : List UInt8} :
    bytes.flatMap Text.hexByte = bytes'.flatMap Text.hexByte ↔ bytes = bytes' :=
  ⟨Text.flatMap_inj_of_length (by decide) Text.length_hexByte Text.hexByte_inj.mp,
    fun h => by rw [h]⟩

theorem filter_hexByte (b : UInt8) : (Text.hexByte b).filter (· ≠ ':') = Text.hexByte b := by
  refine List.filter_eq_self.mpr fun c hc => ?_
  have hdigit := Text.hexDigit?_isSome_of_mem_zeroPadded hc
  rw [decide_eq_true_eq]
  rintro rfl
  cases hdigit

theorem Duid.text_inj {d e : Duid} : d.text = e.text ↔ d = e := by
  rw [text, text, String.ofList_inj, flatMap_hexByte_inj, Octets.bytes_inj]

namespace PhysicalAddress

/-- Without the colons, bytes with colons between them are the bytes one after the other. -/
theorem filter_intercalate (bytes : List UInt8) :
    ([':'].intercalate (bytes.map Text.hexByte)).filter (· ≠ ':') = bytes.flatMap Text.hexByte := by
  induction bytes with
  | nil => rfl
  | cons b bytes ih =>
    rcases bytes with _ | ⟨c, bytes⟩
    · rw [List.map_singleton, List.intercalate_singleton, filter_hexByte, List.flatMap_singleton]
    · have hcolon : [':'].filter (· ≠ ':') = [] := rfl
      rw [List.map_cons, List.map_cons, List.intercalate_cons_cons, List.filter_append,
        List.filter_append, filter_hexByte, hcolon, List.append_nil, ← List.map_cons, ih,
        ← List.flatMap_cons]

theorem text_inj {a b : PhysicalAddress} : a.text = b.text ↔ a = b := by
  rw [text, text, String.ofList_inj, ← Octets.bytes_inj]
  refine ⟨fun h => ?_, fun h => by rw [h]⟩
  rw [← flatMap_hexByte_inj, ← filter_intercalate, h, filter_intercalate]

end PhysicalAddress

namespace Guid

/-- The digits of bytes in capitals. -/
def octets (bytes : List UInt8) : List Char :=
  bytes.flatMap fun b => Text.capitals (Text.zeroPadded 2 (Text.hexadecimal b.toNat))

theorem length_octet (b : UInt8) :
    (Text.capitals (Text.zeroPadded 2 (Text.hexadecimal b.toNat))).length = 2 :=
  Text.length_capitals_zeroPadded (by decide) b.toNat_lt

@[simp]
theorem length_octets (bytes : List UInt8) : (octets bytes).length = 2 * bytes.length := by
  induction bytes with
  | nil => rfl
  | cons b bytes ih =>
    rw [octets, List.flatMap_cons, List.length_append, length_octet, ← octets, ih,
      List.length_cons]
    omega

theorem octets_inj {bytes bytes' : List UInt8} : octets bytes = octets bytes' ↔ bytes = bytes' := by
  refine ⟨Text.flatMap_inj_of_length (by decide) length_octet fun h => ?_, fun h => by rw [h]⟩
  exact UInt8.toNat_inj.mp (Text.capitals_zeroPadded_inj.mp h)

/-- The text of a globally unique identifier, group by group. -/
theorem text_eq (g : Guid) : g.text = String.ofList
    ('\x7b' :: (Text.capitals (Text.zeroPadded 8 (Text.hexadecimal g.data1.toNat)) ++
      '-' :: (Text.capitals (Text.zeroPadded 4 (Text.hexadecimal g.data2.toNat)) ++
      '-' :: (Text.capitals (Text.zeroPadded 4 (Text.hexadecimal g.data3.toNat)) ++
      '-' :: (octets (g.data4.toList.take 2) ++
      '-' :: (octets (g.data4.toList.drop 2) ++ ['\x7d'])))))) := by
  simp [text, octets, List.flatMap_def, List.map_take, List.map_drop]

/-- Globally unique identifiers are told apart by their text. -/
theorem text_inj {g g' : Guid} : g.text = g'.text ↔ g = g' := by
  refine ⟨fun h => ?_, fun h => by rw [h]⟩
  rw [text_eq, text_eq, String.ofList_inj] at h
  obtain ⟨h1, h⟩ := Text.capitals_zeroPadded_append_inj (List.cons.inj h).2 (by decide)
    g.data1.toNat_lt g'.data1.toNat_lt
  obtain ⟨h2, h⟩ := Text.capitals_zeroPadded_append_inj (List.cons.inj h).2 (by decide)
    g.data2.toNat_lt g'.data2.toNat_lt
  obtain ⟨h3, h⟩ := Text.capitals_zeroPadded_append_inj (List.cons.inj h).2 (by decide)
    g.data3.toNat_lt g'.data3.toNat_lt
  -- the bytes before the last dash are as many on both sides, and so are those behind it
  obtain ⟨hfront, h⟩ := List.append_inj (List.cons.inj h).2 (by simp)
  have hback := List.append_cancel_right (List.cons.inj h).2
  have h4 : g.data4.toList = g'.data4.toList := by
    rw [← List.take_append_drop 2 g.data4.toList, octets_inj.mp hfront, octets_inj.mp hback,
      List.take_append_drop]
  cases g
  cases g'
  rw [Guid.mk.injEq]
  exact ⟨UInt32.toNat_inj.mp h1, UInt16.toNat_inj.mp h2, UInt16.toNat_inj.mp h3,
    Vector.toList_inj.mp h4⟩

end Guid

end HostDns
