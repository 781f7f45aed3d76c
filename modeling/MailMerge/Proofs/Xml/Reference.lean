import MailMerge.Xml.Reference

/-!
# `MailMerge.Proofs.Xml.Reference`: encoded text is decoded

Text and attribute values encode different characters, but each character either stands for itself
or is written as an entity (`Encodes`). That is all that decoding needs.

* `decode_flatMap_of_encodes`: decoding gives back what was encoded.
* `not_mem_encodeText`, `not_mem_encodeValue`: characters that would end the text or the value are
  encoded.
-/

set_option autoImplicit false

namespace MailMerge.Xml.Reference

open MailMerge.Text

/-! ### One step of decoding -/

theorem decodeFrom_cons {position : Nat} {c : Char} {cs : List Char} (h : c ≠ '&') :
    decodeFrom position (c :: cs) = (decodeFrom (position + c.utf8Size) cs).map (c :: ·) := by
  rw [decodeFrom, if_neg h]

theorem decodeFrom_reference {position : Nat} {name cs : List Char} {c : Char}
    (hname : ∀ c ∈ name, inName c = true) (hc : resolve (position + 1) name = .ok c) :
    decodeFrom position ('&' :: name ++ ';' :: cs)
      = (decodeFrom (position + byteSize name + 2) cs).map (c :: ·) := by
  have htake : (name ++ ';' :: cs).takeWhile inName = name := by
    rw [List.takeWhile_append_of_pos hname, List.takeWhile_cons_of_neg (by decide),
      List.append_nil]
  have hdrop : (name ++ ';' :: cs).dropWhile inName = ';' :: cs := by
    rw [List.dropWhile_append_of_pos hname, List.dropWhile_cons_of_neg (by decide)]
  rw [List.cons_append, decodeFrom, if_pos rfl]
  dsimp only
  split
  · rename_i rest heq
    rw [hdrop, List.cons.injEq] at heq
    rw [htake, hc, heq.2]
  · rename_i hne
    exact absurd hdrop (hne cs)

/-! ### Encodings -/

/-- A way to write characters: each as itself or as an entity. -/
def Encodes (encode : Char → List Char) : Prop :=
  ∀ c, (encode c = [c] ∧ c ≠ '&')
    ∨ ∃ name, encode c = '&' :: name ++ [';'] ∧ (∀ c ∈ name, inName c = true)
        ∧ ∀ position, resolve position name = .ok c

theorem encodes_encodeTextChar : Encodes encodeTextChar := by
  intro c
  unfold encodeTextChar
  split
  · rename_i h
    exact .inr ⟨['l', 't'], rfl, by simp [inName], fun _ => h ▸ rfl⟩
  split
  · rename_i h
    exact .inr ⟨['g', 't'], rfl, by simp [inName], fun _ => h ▸ rfl⟩
  split
  · rename_i h
    exact .inr ⟨['a', 'm', 'p'], rfl, by simp [inName], fun _ => h ▸ rfl⟩
  · rename_i h
    exact .inl ⟨rfl, h⟩

theorem encodes_encodeValueChar : Encodes encodeValueChar := by
  intro c
  unfold encodeValueChar
  split
  · rename_i h
    exact .inr ⟨['a', 'p', 'o', 's'], rfl, by simp [inName], fun _ => h ▸ rfl⟩
  split
  · rename_i h
    exact .inr ⟨['q', 'u', 'o', 't'], rfl, by simp [inName], fun _ => h ▸ rfl⟩
  · exact encodes_encodeTextChar c

theorem decode_flatMap_of_encodes {encode : Char → List Char} (h : Encodes encode)
    (cs : List Char) : decode (cs.flatMap encode) = .ok cs := by
  unfold decode
  -- Positions are for errors only, so the induction is over any.
  generalize 0 = position
  induction cs generalizing position with
  | nil =>
      rw [List.flatMap_nil, decodeFrom]
  | cons c cs ih =>
      rw [List.flatMap_cons]
      rcases h c with ⟨hself, hc⟩ | ⟨name, hentity, hname, hc⟩
      · rw [hself, List.singleton_append, decodeFrom_cons hc, ih]
        rfl
      · rw [hentity, List.append_assoc, List.singleton_append, decodeFrom_reference hname (hc _),
          ih]
        rfl

theorem decode_encodeText (cs : List Char) : decode (encodeText cs) = .ok cs :=
  decode_flatMap_of_encodes encodes_encodeTextChar cs

theorem decode_encodeValue (cs : List Char) : decode (encodeValue cs) = .ok cs :=
  decode_flatMap_of_encodes encodes_encodeValueChar cs

theorem encodeText_append (cs cs' : List Char) :
    encodeText (cs ++ cs') = encodeText cs ++ encodeText cs' :=
  List.flatMap_append

/-- Every character is written in some way. -/
theorem encodeText_ne_nil {cs : List Char} (h : cs ≠ []) : encodeText cs ≠ [] := by
  intro hnil
  have hdecode := decode_encodeText cs
  rw [hnil, decode, decodeFrom] at hdecode
  exact h (Except.ok.inj hdecode).symm

theorem not_mem_encodeText (cs : List Char) : '<' ∉ encodeText cs := by
  unfold encodeText
  rw [List.mem_flatMap]
  rintro ⟨c, -, hc⟩
  unfold encodeTextChar at hc
  split at hc
  · simp at hc
  split at hc
  · simp at hc
  split at hc
  · simp at hc
  · rename_i hne _ _
    exact hne (List.mem_singleton.1 hc).symm

theorem not_mem_encodeValue (cs : List Char) : '"' ∉ encodeValue cs := by
  unfold encodeValue
  rw [List.mem_flatMap]
  rintro ⟨c, -, hc⟩
  unfold encodeValueChar encodeTextChar at hc
  split at hc
  · simp at hc
  split at hc
  · simp at hc
  rename_i hne
  split at hc
  · simp at hc
  split at hc
  · simp at hc
  split at hc
  · simp at hc
  · exact hne (List.mem_singleton.1 hc).symm

end MailMerge.Xml.Reference
