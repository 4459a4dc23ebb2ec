import Retarget.Proofs.Edits
import Retarget.Proofs.Exclusions
import Retarget.Text.Slice

/-!
# Slices and bytes

A slice is valid where the text falls into what comes before it, its characters, and what comes after it. The byte at a
boundary is the first one of a character, and tells whether that is a given ASCII character.

* `Slice.chars?_isSome_iff`: what is cut out are the valid slices,
* `Slicing.Yields`: a computation cuts out valid slices only and has some result; `Yields.bind` puts these together,
* `offsetOf?_cases`: what searching for a character gives,
* `getElem?_encode`: looking at the byte at a boundary.
-/

namespace Retarget.Text

/-! ## Cutting out slices -/

/-- The slices that can be cut out are the valid ones. -/
theorem Slice.chars?_isSome_iff {s : Slice} : s.chars?.isSome = true ↔ s.Valid := by
  constructor
  · intro h
    obtain ⟨chars, h⟩ := Option.isSome_iff_exists.1 h
    obtain ⟨before, after, htext, hstart, hstop⟩ := chars?_eq_some_iff.1 h
    refine ⟨by omega, ?_, ?_, ?_⟩
    · rw [htext, byteLength_append, byteLength_append]
      omega
    · exact isBoundary_iff.2 ⟨before, _, htext, hstart.symm⟩
    · refine isBoundary_iff.2 ⟨before ++ chars, after, ?_, ?_⟩
      · rw [htext, List.append_assoc]
      · rw [byteLength_append, hstop]
  · intro h
    obtain ⟨before, rest, htext, hbefore⟩ := isBoundary_iff.1 h.start
    obtain ⟨upTo, after, htext', hupTo⟩ := isBoundary_iff.1 h.stop
    have hle : byteLength before ≤ byteLength upTo := by
      rw [hbefore, hupTo]
      exact h.ordered
    obtain ⟨chars, rfl, rfl⟩ := exists_append_of_le (htext.symm.trans htext') hle
    rw [byteLength_append] at hupTo
    exact Option.isSome_iff_exists.2 ⟨chars, chars?_eq_some_iff.2 ⟨before, after, htext, hbefore.symm, hupTo.symm⟩⟩

namespace Slicing

variable {α β : Type} {x : Slicing α} {a : α} {text before chars after : List Char}

/-- A computation asks for valid slices only, and so it comes to a result. -/
structure Yields (x : Slicing α) (a : α) : Prop where
  result : x.result = some a
  valid : ∀ s ∈ x.slices, s.Valid

theorem yields_pure (a : α) : Yields (pure a) a := ⟨rfl, by simp⟩

theorem Yields.bind {f : α → Slicing β} {b : β} (hx : x.Yields a) (hf : (f a).Yields b) : (x >>= f).Yields b := by
  rw [bind_eq, hx.result]
  refine ⟨hf.result, fun s hs => ?_⟩
  rcases List.mem_append.1 hs with hs | hs
  · exact hx.valid s hs
  · exact hf.valid s hs

theorem yields_cut (htext : text = before ++ (chars ++ after)) :
    (cut text (byteLength before) (byteLength before + byteLength chars)).Yields chars := by
  have hchars : Slice.chars? ⟨text, byteLength before, byteLength before + byteLength chars⟩ = some chars :=
    Slice.chars?_eq_some_iff.2 ⟨before, after, htext, rfl, rfl⟩
  refine ⟨hchars, fun s hs => ?_⟩
  cases List.mem_singleton.1 hs
  exact Slice.chars?_isSome_iff.1 (Option.isSome_iff_exists.2 ⟨chars, hchars⟩)

theorem yields_cut_zero (htext : text = chars ++ after) : (cut text 0 (byteLength chars)).Yields chars := by
  have h : (cut text (byteLength []) (byteLength [] + byteLength chars)).Yields chars := yields_cut htext
  rwa [byteLength, Nat.zero_add] at h

theorem yields_cutFrom (htext : text = before ++ after) : (cutFrom text (byteLength before)).Yields after := by
  have hstop : byteLength text = byteLength before + byteLength after := by rw [htext, byteLength_append]
  rw [cutFrom, hstop]
  exact yields_cut (by rw [htext, List.append_nil])

end Slicing

/-! ## Places of a character -/

/-- The first place of a character is the end of what has none of it. -/
theorem offsetOf?_cases (c : Char) (cs : List Char) : (c ∉ cs ∧ offsetOf? c cs = none) ∨
    ∃ before after, cs = before ++ c :: after ∧ c ∉ before ∧ offsetOf? c cs = some (byteLength before) := by
  induction cs with
  | nil => exact .inl ⟨List.not_mem_nil, rfl⟩
  | cons d cs ih =>
    by_cases hd : d = c
    · subst hd
      exact .inr ⟨[], cs, rfl, List.not_mem_nil, by rw [offsetOf?, if_pos rfl, byteLength]⟩
    · rw [offsetOf?, if_neg hd]
      rcases ih with ⟨hmem, hnone⟩ | ⟨before, after, rfl, hmem, hsome⟩
      · exact .inl ⟨by simp [Ne.symm hd, hmem], by rw [hnone, Option.map_none]⟩
      · exact .inr ⟨d :: before, after, rfl, by simp [Ne.symm hd, hmem], by rw [hsome, Option.map_some, byteLength]⟩

/-! ## Bytes at boundaries -/

/-- A byte that a character may begin with: its number, or no ASCII character if the character is none. -/
def IsLead (b : UInt8) (c : Char) : Prop := b.toNat = c.toNat ∨ 128 ≤ b.toNat ∧ 128 ≤ c.toNat

theorem IsLead.eq_iff {b : UInt8} {c d : Char} (h : IsLead b c) (hd : d.toNat < 128) : b.toNat = d.toNat ↔ c = d := by
  rw [← Char.toNat_inj]
  rcases h with h | h <;> omega

theorem IsLead.toNat_eq {b : UInt8} {c : Char} (h : IsLead b c) (hc : c.toNat < 128) : b.toNat = c.toNat := by
  rcases h with h | h <;> omega

theorem utf8Size_eq_one {c : Char} (hc : c.toNat < 128) : c.utf8Size = 1 :=
  Char.utf8Size_eq_one_iff.2 (UInt32.le_iff_toNat_le.2 (Nat.le_of_lt_succ hc))

theorem byteLength_cons_ascii {c : Char} (hc : c.toNat < 128) (cs : List Char) :
    byteLength (c :: cs) = 1 + byteLength cs := by
  rw [byteLength, utf8Size_eq_one hc]

/-- The place after an ASCII character is the next one. -/
theorem byteLength_append_ascii (before : List Char) {c : Char} (hc : c.toNat < 128) :
    byteLength (before ++ [c]) = byteLength before + 1 := by
  rw [byteLength_append, byteLength_cons_ascii hc, byteLength]

/-- The bytes of a character begin with one that it may begin with, and an ASCII character has no others. -/
theorem exists_isLead (c : Char) :
    ∃ b bs, String.utf8EncodeChar c = b :: bs ∧ IsLead b c ∧ (c.toNat < 128 → bs = []) := by
  rw [utf8EncodeChar_eq]
  have hvalid : c.toNat < 0x110000 := by
    rcases c.valid with h | h
    · exact Nat.lt_trans h (by decide)
    · exact h.2
  unfold IsLead
  split
  · exact ⟨_, _, rfl, .inl (toNat_ofNat (by omega)), fun _ => rfl⟩
  split
  · exact ⟨_, _, rfl, .inr (by rw [toNat_ofNat (by omega)]; omega), by omega⟩
  split
  · exact ⟨_, _, rfl, .inr (by rw [toNat_ofNat (by omega)]; omega), by omega⟩
  · exact ⟨_, _, rfl, .inr (by rw [toNat_ofNat (by omega)]; omega), by omega⟩

variable {source : String} {before after : List Char} {c : Char}

theorem encode_eq (hsource : source.toList = before ++ after) :
    encode source = encodeChars before ++ encodeChars after := by
  rw [encode, hsource]
  exact encodeChars_append before after

/-- The byte at a boundary is one that the next character may begin with. -/
theorem getElem?_encode (hsource : source.toList = before ++ c :: after) :
    ∃ b, (encode source)[byteLength before]? = some b ∧ IsLead b c := by
  obtain ⟨b, bs, hbytes, hlead, _⟩ := exists_isLead c
  refine ⟨b, ?_, hlead⟩
  rw [encode_eq hsource, ← length_encodeChars, List.getElem?_append_right (Nat.le_refl _), Nat.sub_self,
    encodeChars_cons, hbytes]
  rfl

/-- There is no byte at the end. -/
theorem getElem?_encode_end (hsource : source.toList = before) : (encode source)[byteLength before]? = none := by
  rw [encode, hsource, ← length_encodeChars]
  exact List.getElem?_eq_none (Nat.le_refl _)

end Retarget.Text
