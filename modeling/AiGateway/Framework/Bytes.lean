import AiGateway.Framework.Text
import Mathlib.Tactic.Common

/-!
# Texts as bytes

The encoding of a text in UTF-8, and what a slice of so many bytes is of it. ASCII takes one byte
to a character, and the bytes of every other character are outside ASCII, so a text whose bytes
are ASCII can be cut anywhere.

* `isSome_sliceTo_iff`: where a text can be cut;
* `utf8_sliceTo`: the slice is made of that many bytes;
* `isSome_sliceTo_of_ascii`: a text of ASCII can be cut anywhere.
-/

namespace Text

/-- The list of an array of bytes. -/
private theorem toList_loop (bs : ByteArray) (n i : ℕ) (r : List UInt8) (hn : n = bs.size - i) :
    ByteArray.toList.loop bs i r = r.reverse ++ bs.data.toList.drop i := by
  have hsize : bs.data.toList.length = bs.size := rfl
  induction n generalizing i r with
  | zero =>
    rw [ByteArray.toList.loop, if_neg (by omega), List.drop_eq_nil_of_le (by omega),
      List.append_nil]
  | succ n ih =>
    have hlt : i < bs.data.toList.length := by omega
    rw [ByteArray.toList.loop, if_pos (by omega), ih _ _ (by omega), List.drop_eq_getElem_cons hlt,
      List.reverse_cons, List.append_assoc, List.singleton_append]
    congr 2
    simp only [ByteArray.get!]
    rw [Array.getElem_toList]
    exact getElem!_pos _ _ _

theorem byteArray_toList (bs : ByteArray) : bs.toList = bs.data.toList := by
  unfold ByteArray.toList
  rw [toList_loop _ _ 0 [] rfl, List.reverse_nil, List.nil_append, List.drop_zero]

/-- ASCII is encoded as it is. -/
theorem utf8Encode_ascii {bytes : List UInt8} (h : ∀ b ∈ bytes, b < 128) :
    (bytes.map fun b => Char.ofNat b.toNat).flatMap String.utf8EncodeChar = bytes := by
  have hchar : ∀ n : Fin 128, String.utf8EncodeChar (Char.ofNat n) = [UInt8.ofNat n] := by decide
  induction bytes with
  | nil => rfl
  | cons b bytes ih =>
    obtain ⟨hb, hbytes⟩ := List.forall_mem_cons.mp h
    have hb' : b.toNat < 128 := hb
    rw [List.map_cons, List.flatMap_cons, ih hbytes, hchar ⟨b.toNat, hb'⟩, UInt8.ofNat_toNat,
      List.singleton_append]

/-! ### The bytes of a text -/

/-- The bytes of a text. -/
def utf8 (s : List Char) : List UInt8 := s.flatMap String.utf8EncodeChar

theorem toUTF8_toList (s : List Char) : (String.ofList s).toUTF8.toList = utf8 s := by
  rw [byteArray_toList, String.toUTF8_eq_toByteArray, String.toByteArray_ofList]
  show (List.toByteArray (utf8 s)).data.toList = _
  rw [List.data_toByteArray]

theorem utf8_cons (c : Char) (s : List Char) :
    utf8 (c :: s) = String.utf8EncodeChar c ++ utf8 s := List.flatMap_cons

theorem utf8_append (s t : List Char) : utf8 (s ++ t) = utf8 s ++ utf8 t := List.flatMap_append

theorem byteLen_cons (c : Char) (s : List Char) : byteLen (c :: s) = c.utf8Size + byteLen s := by
  have hfold : ∀ (s : List Char) (n : ℕ),
      s.foldl (fun n c => n + c.utf8Size) n = n + byteLen s := by
    intro s
    induction s with
    | nil => exact fun n => rfl
    | cons d s ih =>
      intro n
      unfold byteLen
      rw [List.foldl_cons, List.foldl_cons, ih, ih (0 + d.utf8Size)]
      omega
  show s.foldl _ (0 + c.utf8Size) = _
  rw [hfold, Nat.zero_add]

theorem length_utf8 (s : List Char) : (utf8 s).length = byteLen s := by
  induction s with
  | nil => rfl
  | cons c s ih =>
    rw [utf8_cons, List.length_append, String.length_utf8EncodeChar, ih, byteLen_cons]

/-! ### Slices -/

/-- The slice is the part of the text that takes up so many bytes. -/
theorem prefix_of_sliceTo {n : ℕ} {s t : List Char} (h : sliceTo n s = some t) :
    t <+: s ∧ byteLen t = n := by
  -- by induction on the text, of which each character takes up its bytes
  induction s generalizing n t with
  | nil =>
    cases n with
    | zero =>
      cases h
      exact ⟨List.nil_prefix, rfl⟩
    | succ n => cases h
  | cons c s ih =>
    cases n with
    | zero =>
      cases h
      exact ⟨List.nil_prefix, rfl⟩
    | succ n =>
      rw [sliceTo] at h
      split at h
      · next hle =>
        obtain ⟨t, ht, rfl⟩ := Option.map_eq_some_iff.mp h
        obtain ⟨hfront, hlen⟩ := ih ht
        refine ⟨List.cons_prefix_cons.mpr ⟨rfl, hfront⟩, ?_⟩
        rw [byteLen_cons, hlen]
        omega
      · cases h

/-- The part of a text that takes up so many bytes is the slice. -/
theorem sliceTo_byteLen {s t : List Char} (h : t <+: s) : sliceTo (byteLen t) s = some t := by
  induction t generalizing s with
  | nil =>
    cases s with
    | nil => rfl
    | cons c s => rfl
  | cons c t ih =>
    obtain ⟨rest, rfl⟩ := h
    have hpos : 0 < c.utf8Size := c.utf8Size_pos
    obtain ⟨n, hn⟩ : ∃ n, byteLen (c :: t) = n + 1 := by
      refine ⟨byteLen (c :: t) - 1, ?_⟩
      rw [byteLen_cons]
      omega
    have hrest : n + 1 - c.utf8Size = byteLen t := by
      rw [byteLen_cons] at hn
      omega
    have hle : c.utf8Size ≤ n + 1 := by
      rw [byteLen_cons] at hn
      omega
    rw [hn, List.cons_append, sliceTo, if_pos hle, hrest, ih (List.prefix_append t rest)]
    rfl

/-- A text can be cut where one of its characters ends. -/
theorem isSome_sliceTo_iff {n : ℕ} {s : List Char} :
    (sliceTo n s).isSome ↔ ∃ t, t <+: s ∧ byteLen t = n := by
  constructor
  · intro h
    obtain ⟨t, ht⟩ := Option.isSome_iff_exists.mp h
    exact ⟨t, prefix_of_sliceTo ht⟩
  · rintro ⟨t, hfront, rfl⟩
    rw [sliceTo_byteLen hfront]
    rfl

/-- **The bytes of a slice** are the first of the text. -/
theorem utf8_sliceTo {n : ℕ} {s t : List Char} (h : sliceTo n s = some t) :
    utf8 t = (utf8 s).take n := by
  obtain ⟨⟨rest, rfl⟩, hlen⟩ := prefix_of_sliceTo h
  rw [utf8_append, List.take_left' (by rw [length_utf8, hlen])]

/-! ### ASCII -/

/-- A character one of whose bytes is ASCII takes no other byte. -/
theorem utf8Size_of_ascii {c : Char} (h : ∀ b ∈ String.utf8EncodeChar c, b < 128) :
    c.utf8Size = 1 := by
  rw [Char.utf8Size_eq_one_iff]
  by_contra hlarge
  have hval : ¬ c.val.toNat ≤ 127 := fun hle => hlarge (UInt32.le_iff_toNat_le.mpr hle)
  -- the first byte says how many follow
  have hhead : ∃ b ∈ String.utf8EncodeChar c, 128 ≤ b.toNat := by
    unfold String.utf8EncodeChar
    dsimp only
    rw [if_neg hval]
    split
    · refine ⟨_, List.mem_cons_self, ?_⟩
      rw [UInt8.toNat_ofNat']
      omega
    · split
      · refine ⟨_, List.mem_cons_self, ?_⟩
        rw [UInt8.toNat_ofNat']
        omega
      · refine ⟨_, List.mem_cons_self, ?_⟩
        rw [UInt8.toNat_ofNat']
        omega
  obtain ⟨b, hb, hge⟩ := hhead
  have hlt : b.toNat < 128 := h b hb
  omega

/-- A text of ASCII has as many bytes as characters. -/
theorem byteLen_of_ascii {s : List Char} (h : ∀ b ∈ utf8 s, b < 128) : byteLen s = s.length := by
  induction s with
  | nil => rfl
  | cons c s ih =>
    rw [utf8_cons] at h
    have hc : c.utf8Size = 1 := utf8Size_of_ascii fun b hb => h b (List.mem_append_left _ hb)
    rw [byteLen_cons, ih fun b hb => h b (List.mem_append_right _ hb), hc, List.length_cons,
      Nat.add_comm]

/-- **A text of ASCII can be cut anywhere.** -/
theorem isSome_sliceTo_of_ascii {s : List Char} (h : ∀ b ∈ utf8 s, b < 128) {n : ℕ}
    (hn : n ≤ byteLen s) : (sliceTo n s).isSome := by
  have htake : ∀ b ∈ utf8 (s.take n), b < 128 := by
    intro b hb
    refine h b ?_
    rw [← List.take_append_drop n s, utf8_append]
    exact List.mem_append_left _ hb
  rw [isSome_sliceTo_iff]
  refine ⟨s.take n, List.take_prefix n s, ?_⟩
  rw [byteLen_of_ascii htake, List.length_take]
  rw [byteLen_of_ascii h] at hn
  exact Nat.min_eq_left hn

end Text
